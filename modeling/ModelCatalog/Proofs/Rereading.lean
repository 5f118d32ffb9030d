import ModelCatalog.ModelFile
import ModelCatalog.Proofs.Records

/-! # Reading again what was written

A fragment is written in one form, whatever tree it was read from: absent entries are left out or
null, bounds are floating numbers, and nothing is left of entries that mean nothing. Reading that
form makes the same fragment, entry by entry.
-/
namespace ModelCatalog

/-- What was read from a tree is read again from the tree it is written as, and so it is written the
same a second time. -/
def Survives {α : Type} (read : Json → Except DecodeError α) (write : α → Json) : Prop :=
  ∀ j a, read j = .ok a → read (write a) = .ok a ∧ (read (write a)).map write = .ok (write a)

section

variable {α : Type} {read : Json → Except DecodeError α} {write : α → Json}

theorem survives_of (h : ∀ j a, read j = .ok a → read (write a) = .ok a) : Survives read write := by
  intro j a ha
  have hagain := h j a ha
  exact ⟨hagain, map_ok_iff.mpr ⟨a, hagain, rfl⟩⟩

theorem Survives.again (h : Survives read write) {j : Json} {a : α} (ha : read j = .ok a) :
    read (write a) = .ok a :=
  (h j a ha).1

/-- What is not read from null is not written as null. An optional entry needs that, because null
stands for its absence. -/
def Shows (read : Json → Except DecodeError α) (write : α → Json) : Prop :=
  ∀ j a, j ≠ .null → read j = .ok a → write a ≠ .null

theorem shows_of (h : ∀ a, write a ≠ .null) : Shows read write := fun _ a _ _ => h a

end

/-! ## Single values -/
namespace Decode

variable {α : Type} {value : Json → Except DecodeError α} {encode : α → Json}

theorem optional_ok_iff {j : Json} {o : Option α} : optional value j = .ok o ↔
    j = .null ∧ o = none ∨ j ≠ .null ∧ ∃ a, value j = .ok a ∧ o = some a := by
  by_cases h : j = .null
  · subst h
    simp [optional, eq_comm]
  -- what is not null is read as a value
  · have hvalue : optional value j = (value j).map some := by
      cases j <;> first | rfl | exact absurd rfl h
    simp only [hvalue, map_ok_iff, h, false_and, ne_eq, not_false_eq_true, true_and, false_or,
      eq_comm (a := o)]

theorem survives_text : Survives text .string := survives_of fun _ _ _ => rfl

theorem shows_text : Shows text .string := shows_of (by simp)

theorem survives_flag : Survives flag .bool := survives_of fun _ _ _ => rfl

theorem survives_any : Survives any id := survives_of fun _ _ _ => rfl

theorem shows_any : Shows any id := fun _ _ hj ha => Except.ok.inj ha ▸ hj

/-- Also a bound that was read from an integer. -/
theorem survives_float : Survives float fun x => .number (.float x) := survives_of fun _ _ _ => rfl

theorem shows_float : Shows float fun x => .number (.float x) := shows_of (by simp)

theorem survives_integer : Survives integer fun i => .number (.integer i) := by
  refine survives_of fun j i h => ?_
  unfold integer at h
  split at h
  next k =>
    split at h
    next hk =>
      obtain rfl := Except.ok.inj h
      exact if_pos hk
    next => cases h
  next => cases h

theorem shows_integer : Shows integer fun i => .number (.integer i) := shows_of (by simp)

theorem survives_size : Survives size fun n => .number (.integer n) := by
  refine survives_of fun _ n _ => ?_
  simp [size]

theorem shows_size : Shows size fun n => .number (.integer n) := shows_of (by simp)

theorem survives_optional (hv : Survives value encode) (hs : Shows value encode) :
    Survives (optional value) fun o => (o.map encode).getD .null := by
  refine survives_of fun j o h => ?_
  rcases optional_ok_iff.mp h with ⟨-, rfl⟩ | ⟨hj, a, ha, rfl⟩
  · rfl
  · exact optional_ok_iff.mpr (.inr ⟨hs j a hj ha, a, hv.again ha, rfl⟩)

theorem survives_list (hv : Survives value encode) :
    Survives (list value) fun as => .array (as.map encode) := by
  refine survives_of fun j as h => ?_
  unfold list at h
  split at h
  next items =>
    refine mapM_ok_iff.mpr ?_
    have hitems := mapM_ok_iff.mp h
    clear h
    induction hitems with
    | nil => exact .nil
    | cons hitem _ ih => exact .cons (hv.again hitem) ih
  next => cases h

end Decode
/-! ## Entries -/
namespace Encode

variable {α : Type} {name n : String} {encode : α → Json} {j : Json}

@[simp] theorem lookup_entry :
    (entry name j).lookup n = if n = name then some j else none := by
  rw [entry, List.lookup_cons]
  by_cases h : n = name
  · simp [h]
  · have test : (n == name) = false := beq_eq_false_iff_ne.mpr h
    simp [h, test]

@[simp] theorem lookup_text {s : String} :
    (text name s).lookup n = if n = name then some (.string s) else none :=
  lookup_entry

@[simp] theorem lookup_flag {b : Bool} :
    (flag name b).lookup n = if n = name then some (.bool b) else none :=
  lookup_entry

@[simp] theorem lookup_optional {o : Option α} :
    (optional name encode o).lookup n = if n = name then o.map encode else none := by
  cases o with
  | none => simp [optional]
  | some a => exact lookup_entry

@[simp] theorem lookup_list {as : List α} : (list name encode as).lookup n =
    if n = name ∧ as ≠ [] then some (.array (as.map encode)) else none := by
  cases as with
  | nil => simp [list]
  | cons a as => exact lookup_entry.trans (by simp)

/-- The members are written under these names, each at most once and in this order. -/
def Within (members : List (String × Json)) (names : List String) : Prop :=
  (members.map (·.1)).Sublist names

theorem Within.entry : Within (Encode.entry name j) [name] := .refl _

theorem Within.optional {o : Option α} : Within (Encode.optional name encode o) [name] := by
  cases o with
  | none => exact List.nil_sublist _
  | some a => exact .entry

theorem Within.list {as : List α} : Within (Encode.list name encode as) [name] := by
  cases as with
  | nil => exact List.nil_sublist _
  | cons a as => exact .entry

theorem Within.append {l m : List (String × Json)} {ns ms : List String} (hl : Within l ns)
    (hm : Within m ms) : Within (l ++ m) (ns ++ ms) := by
  unfold Within
  rw [List.map_append]
  exact List.Sublist.append hl hm

theorem Within.nodup {members : List (String × Json)} {names : List String}
    (h : Within members names) (hn : names.Nodup) : (members.map (·.1)).Nodup :=
  List.Sublist.nodup h hn

end Encode

namespace RecordReader

variable {α β : Type} {r : RecordReader α} {f : RecordReader (α → β)} {record name : String}
  {value : Json → Except DecodeError α} {encode : α → Json} {fallback a : α} {w : Written}
  {position : Nat} {members : List (String × Json)}

/-- What the reader makes of an object with these members. -/
def Makes (r : RecordReader α) (members : List (String × Json)) (a : α) : Prop :=
  ∀ w position, w.content = .inl members → r.read w position = .ok a

theorem Makes.map {g : α → β} (h : r.Makes members a) : (g <$> r).Makes members (g a) :=
  fun w position hw => read_map_ok_iff.mpr ⟨a, h w position hw, rfl⟩

theorem Makes.seq {g : α → β} (hf : f.Makes members g) (hr : r.Makes members a) :
    (f <*> r).Makes members (g a) :=
  fun w position hw => read_seq_ok_iff.mpr ⟨g, hf w position hw, a, hr w _ hw, rfl⟩

/-- A record survives where each of its entries is read again from the members it is written as,
which have no name twice. -/
theorem survives_of_read {write : α → List (String × Json)} (hr : r.Vouches)
    (hn : ∀ a, ((write a).map (·.1)).Nodup)
    (h : ∀ w a, r.read w 0 = .ok a → r.Makes (write a) a) :
    Survives (r.decode record) fun a => .object (write a) := by
  refine survives_of fun j a ha => ?_
  obtain ⟨w, hread⟩ := exists_read_of_decode ha
  exact (decode_object_ok_iff hr (hn a)).mpr (h w a hread _ 0 rfl)

/-! An entry that was read once is read again from members that have it as it is written. -/

theorem required_again (hv : Survives value encode)
    (h : (required name value).read w position = .ok a)
    (hl : members.lookup name = some (encode a)) : (required name value).Makes members a := by
  obtain ⟨j, -, hj⟩ := required_ok_iff.mp h
  intro w' position' hw'
  exact required_ok_iff.mpr ⟨encode a, (entry?_object hw').trans hl, hv.again hj⟩

/-- A fallback that is written must be read from there. -/
theorem defaulted_again (hv : Survives value encode) (hf : value (encode fallback) = .ok fallback)
    (h : (defaulted name fallback value).read w position = .ok a)
    (hl : members.lookup name = some (encode a)) :
    (defaulted name fallback value).Makes members a := by
  have hread : value (encode a) = .ok a := by
    rcases defaulted_ok_iff.mp h with ⟨j, -, hj⟩ | ⟨-, rfl⟩
    · exact hv.again hj
    · exact hf
  intro w' position' hw'
  exact defaulted_ok_iff.mpr (.inl ⟨encode a, (entry?_object hw').trans hl, hread⟩)

/-- An empty list is left out, and that is what an absent list is read as. -/
theorem list_again {as : List α} (hv : Survives value encode)
    (h : (defaulted name [] (Decode.list value)).read w position = .ok as)
    (hl : members.lookup name = if as ≠ [] then some (.array (as.map encode)) else none) :
    (defaulted name [] (Decode.list value)).Makes members as := by
  intro w' position' hw'
  refine defaulted_ok_iff.mpr ?_
  rw [entry?_object hw', hl]
  rcases defaulted_ok_iff.mp h with ⟨j, -, hj⟩ | ⟨-, rfl⟩
  · by_cases has : as = []
    · exact .inr (by simp [has])
    · exact .inl ⟨_, if_pos has, (Decode.survives_list hv).again hj⟩
  · exact .inr (by simp)

/-- An absent value is left out. -/
theorem optional_again {o : Option α} (hv : Survives value encode) (hs : Shows value encode)
    (h : (optional name value).read w position = .ok o)
    (hl : members.lookup name = o.map encode) : (optional name value).Makes members o := by
  intro w' position' hw'
  refine defaulted_ok_iff.mpr ?_
  rw [entry?_object hw', hl]
  cases o with
  | none => exact .inr ⟨rfl, rfl⟩
  | some a =>
    rcases defaulted_ok_iff.mp h with ⟨j, -, hj⟩ | ⟨-, ha⟩
    · exact .inl ⟨encode a, rfl, (Decode.survives_optional hv hs).again hj⟩
    · cases ha

/-- Here an absent value is written as null. -/
theorem optionalIfNamed_again {o : Option α} (hv : Survives value encode) (hs : Shows value encode)
    (h : (optionalIfNamed name value).read w position = .ok o)
    (hl : members.lookup name = some ((o.map encode).getD .null)) :
    (optionalIfNamed name value).Makes members o := by
  have hread : Decode.optional value ((o.map encode).getD .null) = .ok o := by
    simp only [optionalIfNamed] at h
    split at h
    next j _ _ => exact (Decode.survives_optional hv hs).again h
    next => exact Except.ok.inj h ▸ rfl
    next => cases h
  intro w' position' hw'
  simp only [optionalIfNamed, entry?_object hw', hl]
  exact hread

end RecordReader

/-! ## Fragments -/

open RecordReader Encode

theorem TypeFragment.shows : Shows TypeFragment.ofJson TypeFragment.toJson :=
  shows_of (by simp [toJson])

theorem TypeFragment.survives : Survives TypeFragment.ofJson TypeFragment.toJson := by
  refine survives_of_read vouches (fun _ => Within.nodup (.append .entry .optional) (by decide))
    fun w f h => ?_
  simp only [reader, read_seq_ok_iff, read_map_ok_iff] at h
  obtain ⟨_, ⟨name, hname, rfl⟩, ns, hns, rfl⟩ := h
  refine .seq (.map ?name) ?ns
  case name => exact required_again Decode.survives_text hname (by simp [List.lookup_append])
  case ns =>
    exact optional_again Decode.survives_text Decode.shows_text hns (by simp [List.lookup_append])

theorem IdentifiedFragment.shows : Shows IdentifiedFragment.ofJson IdentifiedFragment.toJson :=
  shows_of (by simp [toJson])

theorem IdentifiedFragment.survives :
    Survives IdentifiedFragment.ofJson IdentifiedFragment.toJson := by
  refine survives_of_read vouches (fun _ => Within.nodup (.append .entry .optional) (by decide))
    fun w f h => ?_
  simp only [reader, read_seq_ok_iff, read_map_ok_iff] at h
  obtain ⟨_, ⟨cls, hcls, rfl⟩, name, hname, rfl⟩ := h
  refine .seq (.map ?cls) ?name
  case cls => exact required_again Decode.survives_text hcls (by simp [List.lookup_append])
  case name =>
    exact optional_again Decode.survives_text Decode.shows_text hname
      (by simp [List.lookup_append])

theorem RuleFragment.shows : Shows RuleFragment.ofJson RuleFragment.toJson :=
  shows_of (by simp [toJson])

theorem RuleFragment.survives : Survives RuleFragment.ofJson RuleFragment.toJson := by
  refine survives_of_read vouches (fun _ => Within.nodup (.append (.append (.append (.append
    (.append (.append .optional .optional) .optional) .optional) .optional) .optional) .optional)
    (by decide)) fun w f h => ?_
  simp only [reader, read_seq_ok_iff, read_map_ok_iff] at h
  obtain ⟨_, ⟨_, ⟨_, ⟨_, ⟨_, ⟨_, ⟨cls, hcls, rfl⟩, pattern, hpattern, rfl⟩, flags, hflags, rfl⟩,
    lower, hlower, rfl⟩, upper, hupper, rfl⟩, least, hleast, rfl⟩, most, hmost, rfl⟩ := h
  refine .seq (.seq (.seq (.seq (.seq (.seq (.map ?cls) ?pattern) ?flags) ?lower) ?upper) ?least)
    ?most
  case cls =>
    exact optional_again Decode.survives_text Decode.shows_text hcls (by simp [List.lookup_append])
  case pattern =>
    exact optional_again Decode.survives_text Decode.shows_text hpattern
      (by simp [List.lookup_append])
  case flags =>
    exact optional_again Decode.survives_text Decode.shows_text hflags
      (by simp [List.lookup_append])
  case lower =>
    exact optional_again Decode.survives_float Decode.shows_float hlower
      (by simp [List.lookup_append])
  case upper =>
    exact optional_again Decode.survives_float Decode.shows_float hupper
      (by simp [List.lookup_append])
  case least =>
    exact optional_again Decode.survives_integer Decode.shows_integer hleast
      (by simp [List.lookup_append])
  case most =>
    exact optional_again Decode.survives_integer Decode.shows_integer hmost
      (by simp [List.lookup_append])

theorem PropertyFragment.survives :
    Survives PropertyFragment.ofJson PropertyFragment.toJson := by
  refine survives_of_read vouches (fun _ => Within.nodup (.append (.append (.append (.append
    (.append (.append (.append .entry .entry) .entry) .entry) .optional) .optional) .optional)
    .optional) (by decide)) fun w f h => ?_
  simp only [reader, read_seq_ok_iff, read_map_ok_iff] at h
  obtain ⟨_, ⟨_, ⟨_, ⟨_, ⟨_, ⟨_, ⟨_, ⟨cls, hcls, rfl⟩, name, hname, rfl⟩, isArray, hisArray, rfl⟩,
    isOptional, hisOptional, rfl⟩, type, htype, rfl⟩, default, hdefault, rfl⟩, rule, hrule, rfl⟩,
    lengthRule, hlengthRule, rfl⟩ := h
  refine .seq (.seq (.seq (.seq (.seq (.seq (.seq (.map ?cls) ?name) ?isArray) ?isOptional) ?type)
    ?default) ?rule) ?lengthRule
  case cls => exact required_again Decode.survives_text hcls (by simp [List.lookup_append])
  case name => exact required_again Decode.survives_text hname (by simp [List.lookup_append])
  case isArray =>
    exact defaulted_again Decode.survives_flag rfl hisArray (by simp [List.lookup_append])
  case isOptional =>
    exact defaulted_again Decode.survives_flag rfl hisOptional (by simp [List.lookup_append])
  case type =>
    exact optional_again TypeFragment.survives TypeFragment.shows htype
      (by simp [List.lookup_append])
  case default =>
    exact optional_again Decode.survives_any Decode.shows_any hdefault
      (by simp [List.lookup_append])
  case rule =>
    exact optional_again RuleFragment.survives RuleFragment.shows hrule
      (by simp [List.lookup_append])
  case lengthRule =>
    exact optional_again RuleFragment.survives RuleFragment.shows hlengthRule
      (by simp [List.lookup_append])

theorem DeclarationFragment.survives :
    Survives DeclarationFragment.ofJson DeclarationFragment.toJson := by
  refine survives_of_read vouches (fun _ => Within.nodup (.append (.append (.append (.append
    (.append (.append (.append (.append .entry .entry) .entry) .optional) .optional) .list)
    .optional) .optional) .optional) (by decide)) fun w f h => ?_
  simp only [reader, read_seq_ok_iff, read_map_ok_iff] at h
  obtain ⟨_, ⟨_, ⟨_, ⟨_, ⟨_, ⟨_, ⟨_, ⟨_, ⟨cls, hcls, rfl⟩, name, hname, rfl⟩, isAbstract,
    hisAbstract, rfl⟩, superType, hsuperType, rfl⟩, identified, hidentified, rfl⟩, properties,
    hproperties, rfl⟩, default, hdefault, rfl⟩, rule, hrule, rfl⟩, lengthRule, hlengthRule,
    rfl⟩ := h
  refine .seq (.seq (.seq (.seq (.seq (.seq (.seq (.seq (.map ?cls) ?name) ?isAbstract) ?superType)
    ?identified) ?properties) ?default) ?rule) ?lengthRule
  case cls => exact required_again Decode.survives_text hcls (by simp [List.lookup_append])
  case name => exact required_again Decode.survives_text hname (by simp [List.lookup_append])
  case isAbstract =>
    exact defaulted_again Decode.survives_flag rfl hisAbstract (by simp [List.lookup_append])
  case superType =>
    exact optional_again TypeFragment.survives TypeFragment.shows hsuperType
      (by simp [List.lookup_append])
  case identified =>
    exact optional_again IdentifiedFragment.survives IdentifiedFragment.shows hidentified
      (by simp [List.lookup_append])
  case properties =>
    exact list_again Decode.survives_any hproperties (by simp [List.lookup_append])
  case default =>
    exact optional_again Decode.survives_any Decode.shows_any hdefault
      (by simp [List.lookup_append])
  case rule =>
    exact optional_again RuleFragment.survives RuleFragment.shows hrule
      (by simp [List.lookup_append])
  case lengthRule =>
    exact optional_again RuleFragment.survives RuleFragment.shows hlengthRule
      (by simp [List.lookup_append])

theorem ImportFragment.survives : Survives ImportFragment.ofJson ImportFragment.toJson := by
  refine survives_of_read vouches (fun _ => Within.nodup (.append (.append (.append .entry .entry)
    .optional) .list) (by decide)) fun w f h => ?_
  simp only [reader, read_seq_ok_iff, read_map_ok_iff] at h
  obtain ⟨_, ⟨_, ⟨_, ⟨cls, hcls, rfl⟩, ns, hns, rfl⟩, name, hname, rfl⟩, types, htypes, rfl⟩ := h
  refine .seq (.seq (.seq (.map ?cls) ?ns) ?name) ?types
  case cls => exact required_again Decode.survives_text hcls (by simp [List.lookup_append])
  case ns => exact required_again Decode.survives_text hns (by simp [List.lookup_append])
  case name =>
    exact optional_again Decode.survives_text Decode.shows_text hname
      (by simp [List.lookup_append])
  case types => exact list_again Decode.survives_text htypes (by simp [List.lookup_append])

theorem ModelFragment.survives : Survives ModelFragment.ofJson ModelFragment.toJson := by
  refine survives_of_read vouches (fun _ => Within.nodup (.append (.append (.append .optional
    .entry) .list) .list) (by decide)) fun w f h => ?_
  simp only [reader, read_seq_ok_iff, read_map_ok_iff] at h
  obtain ⟨_, ⟨_, ⟨_, ⟨cls, hcls, rfl⟩, ns, hns, rfl⟩, imports, himports, rfl⟩, declarations,
    hdeclarations, rfl⟩ := h
  refine .seq (.seq (.seq (.map ?cls) ?ns) ?imports) ?declarations
  case cls =>
    exact optional_again Decode.survives_text Decode.shows_text hcls (by simp [List.lookup_append])
  case ns => exact required_again Decode.survives_text hns (by simp [List.lookup_append])
  case imports =>
    exact list_again ImportFragment.survives himports (by simp [List.lookup_append])
  case declarations =>
    exact list_again Decode.survives_any hdeclarations (by simp [List.lookup_append])

/-! ## Settings and names of types

Their entries are all written. -/

theorem ResolutionSettings.survives :
    Survives ResolutionSettings.ofJson ResolutionSettings.toJson := by
  refine survives_of_read (.seq (.seq (.map .defaulted) .defaulted) .defaulted) (fun _ => by simp)
    fun w s h => ?_
  simp only [reader, read_seq_ok_iff, read_map_ok_iff] at h
  obtain ⟨_, ⟨_, ⟨override, hoverride, rfl⟩, depth, hdepth, rfl⟩, identified, hidentified, rfl⟩ := h
  refine .seq (.seq (.map ?override) ?depth) ?identified
  case override => exact defaulted_again Decode.survives_flag rfl hoverride rfl
  case depth =>
    exact defaulted_again (Decode.survives_optional Decode.survives_size Decode.shows_size) rfl
      hdepth rfl
  case identified => exact defaulted_again Decode.survives_flag rfl hidentified rfl

theorem ValidationSettings.survives :
    Survives ValidationSettings.ofJson ValidationSettings.toJson := by
  refine survives_of_read (.seq (.map .defaulted) .defaulted) (fun _ => by simp)
    fun w s h => ?_
  simp only [reader, read_seq_ok_iff, read_map_ok_iff] at h
  obtain ⟨_, ⟨defaults, hdefaults, rfl⟩, rules, hrules, rfl⟩ := h
  refine .seq (.map ?defaults) ?rules
  case defaults => exact defaulted_again Decode.survives_flag rfl hdefaults rfl
  case rules => exact defaulted_again Decode.survives_flag rfl hrules rfl

theorem Settings.survives : Survives Settings.ofJson Settings.toJson := by
  refine survives_of_read (.seq (.map .defaulted) .defaulted) (fun _ => by simp)
    fun w s h => ?_
  simp only [reader, read_seq_ok_iff, read_map_ok_iff] at h
  obtain ⟨_, ⟨resolution, hresolution, rfl⟩, validation, hvalidation, rfl⟩ := h
  refine .seq (.map ?resolution) ?validation
  case resolution => exact defaulted_again ResolutionSettings.survives rfl hresolution rfl
  case validation => exact defaulted_again ValidationSettings.survives rfl hvalidation rfl

theorem TypeName.survives : Survives TypeName.ofJson TypeName.toJson := by
  refine survives_of_read (.seq (.map .optionalIfNamed) .required) (fun _ => by simp)
    fun w t h => ?_
  simp only [reader, read_seq_ok_iff, read_map_ok_iff] at h
  obtain ⟨_, ⟨ns, hns, rfl⟩, name, hname, rfl⟩ := h
  refine .seq (.map ?ns) ?name
  case ns => exact optionalIfNamed_again Decode.survives_text Decode.shows_text hns rfl
  case name => exact required_again Decode.survives_text hname rfl

theorem TypeRef.primitiveOfJson_name (p : Primitive) :
    TypeRef.primitiveOfJson (.string p.name) = .ok p := by
  cases p <;> rfl

theorem TypeRef.survives : Survives TypeRef.ofJson TypeRef.toJson := by
  refine survives_of fun j t h => ?_
  obtain ⟨⟨name, content⟩, -, h⟩ := bind_ok_iff.mp h
  dsimp only at h
  split at h
  -- a primitive is read from its content alone, whichever way that was written
  next =>
    cases content with
    | none => cases h
    | some content =>
      obtain ⟨p, -, rfl⟩ := map_ok_iff.mp h
      exact map_ok_iff.mpr ⟨p, primitiveOfJson_name p, rfl⟩
  next =>
    split at h
    next =>
      cases content with
      | none => cases h
      | some content =>
        obtain ⟨t, ht, rfl⟩ := map_ok_iff.mp h
        exact map_ok_iff.mpr ⟨t, TypeName.survives.again ht, rfl⟩
    next => cases h

/-! ## Building from what is read again -/

theorem Declaration.ofJson_of_fragment {ns : String} {j : Json} {f : DeclarationFragment}
    (h : DeclarationFragment.ofJson j = .ok f) :
    Declaration.ofJson ns j = Declaration.ofFragment ns f := by
  rw [ofJson, fragmentOfJson, h]
  rfl

theorem Property.ofJson_of_fragment {j : Json} {f : PropertyFragment}
    (h : PropertyFragment.ofJson j = .ok f) : Property.ofJson j = Property.ofFragment f := by
  rw [ofJson, fragmentOfJson, h]
  rfl

/-- Every kind of fragment survives being written, and so do settings and the names of types.
Declarations and properties are therefore built from what was written as they were before. -/
theorem fragments_survive :
    Survives ModelFragment.ofJson ModelFragment.toJson ∧
    Survives ImportFragment.ofJson ImportFragment.toJson ∧
    Survives DeclarationFragment.ofJson DeclarationFragment.toJson ∧
    Survives PropertyFragment.ofJson PropertyFragment.toJson ∧
    Survives TypeFragment.ofJson TypeFragment.toJson ∧
    Survives IdentifiedFragment.ofJson IdentifiedFragment.toJson ∧
    Survives RuleFragment.ofJson RuleFragment.toJson ∧
    Survives Settings.ofJson Settings.toJson ∧
    Survives TypeName.ofJson TypeName.toJson ∧
    Survives TypeRef.ofJson TypeRef.toJson ∧
    (∀ ns j f, DeclarationFragment.ofJson j = .ok f →
      Declaration.ofJson ns f.toJson = Declaration.ofFragment ns f ∧
        Declaration.ofJson ns f.toJson = Declaration.ofJson ns j) ∧
    (∀ j f, PropertyFragment.ofJson j = .ok f →
      Property.ofJson f.toJson = Property.ofFragment f ∧
        Property.ofJson f.toJson = Property.ofJson j) := by
  refine ⟨ModelFragment.survives, ImportFragment.survives, DeclarationFragment.survives,
    PropertyFragment.survives, TypeFragment.survives, IdentifiedFragment.survives,
    RuleFragment.survives, Settings.survives, TypeName.survives, TypeRef.survives, ?_, ?_⟩
  · intro ns j f h
    have hagain : Declaration.ofJson ns f.toJson = Declaration.ofFragment ns f :=
      Declaration.ofJson_of_fragment (DeclarationFragment.survives.again h)
    exact ⟨hagain, hagain.trans (Declaration.ofJson_of_fragment h).symm⟩
  · intro j f h
    have hagain : Property.ofJson f.toJson = Property.ofFragment f :=
      Property.ofJson_of_fragment (PropertyFragment.survives.again h)
    exact ⟨hagain, hagain.trans (Property.ofJson_of_fragment h).symm⟩

namespace Sample

/-- A field whose bound is an integer, with entries that are null, unknown or out of order. -/
def girthTree : Json := .object [
  ("lengthValidator", .null), ("decorators", .array []),
  ("validator", .object [("upper", .number (.integer 30)), ("pattern", .null)]),
  ("defaultValue", .null), ("name", .string "girth"), ("isOptional", .bool true),
  ("$class", .string "DoubleProperty")]

def girth : PropertyFragment :=
  ⟨"DoubleProperty", "girth", false, true, none, none,
    some ⟨none, none, none, none, some (.ofInt 30), none, none⟩, none⟩

/-- A class written as an array, which it is never written as again. -/
def mareTree : Json := .array [
  .string "ConceptDeclaration", .string "Mare", .bool false,
  .object [("namespace", .null), ("name", .string "Horse")], .null, .array [girthTree]]

def mare : DeclarationFragment :=
  ⟨"ConceptDeclaration", "Mare", false, some ⟨"Horse", none⟩, none, [girthTree], none, none, none⟩

end Sample

theorem fragments_survive_mare :
    DeclarationFragment.ofJson Sample.mareTree = .ok Sample.mare ∧
    PropertyFragment.ofJson Sample.girthTree = .ok Sample.girth ∧
    DeclarationFragment.ofJson Sample.mare.toJson = .ok Sample.mare ∧
    Declaration.ofJson "zoo" Sample.mare.toJson = Declaration.ofJson "zoo" Sample.mareTree ∧
    Property.ofJson Sample.girth.toJson = Property.ofJson Sample.girthTree := by
  have hmare : DeclarationFragment.ofJson Sample.mareTree = .ok Sample.mare := rfl
  have hgirth : PropertyFragment.ofJson Sample.girthTree = .ok Sample.girth := rfl
  obtain ⟨-, -, hdeclarations, -, -, -, -, -, -, -, hbuilt, hfield⟩ := fragments_survive
  exact ⟨hmare, hgirth, (hdeclarations _ _ hmare).1, (hbuilt _ _ _ hmare).2, (hfield _ _ hgirth).2⟩

end ModelCatalog
