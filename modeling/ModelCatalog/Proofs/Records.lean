import ModelCatalog.Proofs.Success
import ModelCatalog.Settings
import ModelCatalog.TypeName

/-! # Reading records

Reading an object looks at its entries twice: once in the order of writing, to find the first bad
one, and once by name. Where no name is written twice, the second look decides alone whether the
object can be read and what as.
-/
namespace ModelCatalog

theorem mem_of_lookup {α : Type} {l : List (String × α)} {name : String} {a : α}
    (h : l.lookup name = some a) : (name, a) ∈ l := by
  obtain ⟨before, after, hl, -⟩ := List.lookup_eq_some_iff.mp h
  rw [hl]
  exact List.mem_append_right _ List.mem_cons_self

/-- Where no name is written twice, every entry is found by its name. -/
theorem lookup_of_mem {α : Type} {l : List (String × α)} (hl : (l.map (·.1)).Nodup)
    {name : String} {a : α} (h : (name, a) ∈ l) : l.lookup name = some a := by
  obtain ⟨before, after, rfl⟩ := List.append_of_mem h
  refine List.lookup_eq_some_iff.mpr ⟨before, after, rfl, fun entry he => ?_⟩
  rw [List.map_append, List.nodup_append] at hl
  have hne : entry.1 ≠ name := hl.2.2 _ (List.mem_map_of_mem he) _ (by simp)
  exact bne_iff_ne.mpr hne.symm

namespace RecordReader

variable {α β : Type} {r : RecordReader α} {f : RecordReader (α → β)} {record name : String}
  {value : Json → Except DecodeError α} {fallback : α} {w : Written} {position : Nat}

/-! ## One entry after the other -/

theorem read_map_ok_iff {g : α → β} {b : β} :
    (g <$> r).read w position = .ok b ↔ ∃ a, r.read w position = .ok a ∧ g a = b :=
  (bind_ok_iff (x := r.read w position)).trans (by simp only [pure_ok_iff])

theorem read_seq_ok_iff {b : β} :
    (f <*> r).read w position = .ok b ↔ ∃ g, f.read w position = .ok g ∧
      ∃ a, r.read w (position + f.entries.length) = .ok a ∧ g a = b := by
  change (f.read w position >>= fun g => r.read w (position + f.entries.length) >>= fun a =>
    pure (g a)) = .ok b ↔ _
  simp only [bind_ok_iff, pure_ok_iff]

theorem required_ok_iff {a : α} : (required name value).read w position = .ok a ↔
    ∃ j, w.entry? position name = some j ∧ value j = .ok a := by
  cases h : w.entry? position name <;> simp [required, h]

theorem defaulted_ok_iff {a : α} : (defaulted name fallback value).read w position = .ok a ↔
    (∃ j, w.entry? position name = some j ∧ value j = .ok a) ∨
      w.entry? position name = none ∧ fallback = a := by
  cases h : w.entry? position name <;> simp [defaulted, h]

/-! ## Checks of entries -/

/-- What a reader takes out of an object has passed the checks of the reader's entries. -/
def Vouches (r : RecordReader α) : Prop :=
  ∀ (w : Written) (members : List (String × Json)) (position : Nat) (a : α),
    w.content = .inl members → r.read w position = .ok a →
    ∀ entry ∈ r.entries, ∀ j, members.lookup entry.1 = some j → entry.2 j = .ok ()

theorem entry?_object {members : List (String × Json)} (h : w.content = .inl members) :
    w.entry? position name = members.lookup name := by simp [Written.entry?, h]

theorem Vouches.required : (RecordReader.required name value).Vouches := by
  intro w members position a hw hread entry he j hj
  obtain rfl := List.mem_singleton.mp he
  simp only [RecordReader.required, entry?_object hw, hj] at hread
  exact map_ok_iff.mpr ⟨a, hread, rfl⟩

theorem Vouches.defaulted : (RecordReader.defaulted name fallback value).Vouches := by
  intro w members position a hw hread entry he j hj
  obtain rfl := List.mem_singleton.mp he
  simp only [RecordReader.defaulted, entry?_object hw, hj] at hread
  exact map_ok_iff.mpr ⟨a, hread, rfl⟩

theorem Vouches.optional : (RecordReader.optional name value).Vouches := .defaulted

theorem Vouches.optionalIfNamed :
    (RecordReader.optionalIfNamed name value).Vouches := by
  intro w members position a hw hread entry he j hj
  obtain rfl := List.mem_singleton.mp he
  simp only [RecordReader.optionalIfNamed, entry?_object hw, hj] at hread
  exact map_ok_iff.mpr ⟨a, hread, rfl⟩

theorem Vouches.map {g : α → β} (hr : r.Vouches) : (g <$> r).Vouches := by
  intro w members position b hw hread
  obtain ⟨a, ha, -⟩ := read_map_ok_iff.mp hread
  exact hr w members position a hw ha

theorem Vouches.seq (hf : f.Vouches) (hr : r.Vouches) : (f <*> r).Vouches := by
  intro w members position b hw hread entry he
  obtain ⟨g, hg, a, ha, -⟩ := read_seq_ok_iff.mp hread
  rcases List.mem_append.mp he with he | he
  · exact hf w members position g hw hg entry he
  · exact hr w members _ a hw ha entry he

/-! ## Whole records -/

theorem checkMembers_ok_iff {members : List (String × Json)} :
    r.checkMembers members = .ok () ↔
      ∀ member ∈ members, ∀ check, r.entries.lookup member.1 = some check →
        check member.2 = .ok () := by
  induction members with
  | nil => simp [checkMembers]
  | cons member rest ih =>
    obtain ⟨name, j⟩ := member
    simp only [checkMembers, List.mem_cons, forall_eq_or_imp, ← ih]
    cases r.entries.lookup name with
    | none => simp
    | some check => exact check_bind_ok_iff.trans (by simp)

/-- An object that writes no name twice is read by name. -/
theorem decode_object_ok_iff (hr : r.Vouches) {members : List (String × Json)}
    (hn : (members.map (·.1)).Nodup) {a : α} :
    r.decode record (.object members) = .ok a ↔
      r.read ⟨record, r.entries.length, .inl members⟩ 0 = .ok a := by
  simp only [decode, check_bind_ok_iff, and_iff_right_iff_imp]
  intro hread
  refine checkMembers_ok_iff.mpr fun ⟨name, j⟩ hm check hcheck => ?_
  exact hr _ members 0 a rfl hread _ (mem_of_lookup hcheck) j (lookup_of_mem hn hm)

/-- However a record was written, it was read from one writing of it. -/
theorem exists_read_of_decode {j : Json} {a : α} (h : r.decode record j = .ok a) :
    ∃ w, r.read w 0 = .ok a := by
  unfold decode at h
  split at h
  · exact ⟨_, (check_bind_ok_iff.mp h).2⟩
  · obtain ⟨b, hb, h⟩ := bind_ok_iff.mp h
    obtain ⟨-, h⟩ := guard_ok_iff.mp h
    exact ⟨_, Except.ok.inj h ▸ hb⟩
  · cases h

end RecordReader

/-! ## The readers of fragments -/

theorem TypeFragment.vouches : TypeFragment.reader.Vouches := .seq (.map .required) .optional

theorem IdentifiedFragment.vouches : IdentifiedFragment.reader.Vouches :=
  .seq (.map .required) .optional

theorem RuleFragment.vouches : RuleFragment.reader.Vouches :=
  .seq (.seq (.seq (.seq (.seq (.seq (.map .optional) .optional) .optional) .optional) .optional)
    .optional) .optional

theorem PropertyFragment.vouches : PropertyFragment.reader.Vouches :=
  .seq (.seq (.seq (.seq (.seq (.seq (.seq (.map .required) .required) .defaulted) .defaulted)
    .optional) .optional) .optional) .optional

theorem DeclarationFragment.vouches : DeclarationFragment.reader.Vouches :=
  .seq (.seq (.seq (.seq (.seq (.seq (.seq (.seq (.map .required) .required) .defaulted) .optional)
    .optional) .defaulted) .optional) .optional) .optional

theorem ImportFragment.vouches : ImportFragment.reader.Vouches :=
  .seq (.seq (.seq (.map .required) .required) .optional) .defaulted

theorem ModelFragment.vouches : ModelFragment.reader.Vouches :=
  .seq (.seq (.seq (.map .optional) .required) .defaulted) .defaulted

end ModelCatalog
