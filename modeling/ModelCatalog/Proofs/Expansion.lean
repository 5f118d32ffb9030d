import Mathlib.Data.List.TakeWhile
import ModelCatalog.Environment

/-! # Texts with their references replaced

What a text becomes, said without a scan of it. A reference is what can be spelled with a name and a
fallback. The first reference of a text is the one before which none opens; what stands before it is
kept, and what follows it is a text of its own. What is put in its place belongs to neither.
-/
namespace ModelCatalog.Environment

namespace Reference

/-! ## How references are written -/

/-- A name that a reference can give. -/
structure IsName (name : List Char) : Prop where
  nonempty : name ≠ []
  plain : ∀ c ∈ name, c ≠ ':' ∧ c ≠ '\x7d'

/-- What follows the name, with the fallback in it. A hyphen right after the colon is not part of
the fallback. -/
inductive Closes : List Char → List Char → Prop
  | bare : Closes ['\x7d'] []
  | colon {fallback : List Char} : '\x7d' ∉ fallback → fallback.head? ≠ some '-' →
    Closes (':' :: (fallback ++ ['\x7d'])) fallback
  | hyphen {fallback : List Char} : '\x7d' ∉ fallback →
    Closes (':' :: '-' :: (fallback ++ ['\x7d'])) fallback

/-- The characters that a reference is written with. -/
inductive Spells : List Char → Reference → Prop
  | intro {name ending fallback : List Char} : IsName name → Closes ending fallback →
    Spells ('$' :: '\x7b' :: (name ++ ending)) ⟨String.ofList name, String.ofList fallback⟩

/-- A reference can be read where the text starts. -/
def Opens (text : List Char) : Prop :=
  ∃ written r rest, Spells written r ∧ text = written ++ rest

/-! ## Reading what is written -/

/-- What comes before the first character that is not wanted, and what comes after it. -/
theorem span_eq_iff {p : Char → Bool} {cs text rest : List Char} {c : Char} :
    (cs.takeWhile p = text ∧ cs.dropWhile p = c :: rest) ↔
      cs = text ++ c :: rest ∧ (∀ x ∈ text, p x = true) ∧ p c = false := by
  constructor
  · rintro ⟨rfl, hdrop⟩
    have hsplit := List.takeWhile_append_dropWhile (p := p) (l := cs)
    have hhead := List.head?_dropWhile_not p cs
    rw [hdrop] at hsplit hhead
    exact ⟨hsplit.symm, fun x hx => List.mem_takeWhile_imp hx, by simpa using hhead⟩
  · rintro ⟨rfl, htext, hc⟩
    have hstop : ¬ p c = true := by simp [hc]
    rw [List.takeWhile_append_of_pos htext, List.dropWhile_append_of_pos htext,
      List.takeWhile_cons_of_neg hstop, List.dropWhile_cons_of_neg hstop, List.append_nil]
    exact ⟨rfl, rfl⟩

theorem closed_eq_some_iff {cs text rest : List Char} :
    fallback?.closed cs = some (text, rest) ↔ '\x7d' ∉ text ∧ cs = text ++ '\x7d' :: rest := by
  have hplain : (∀ x ∈ text, decide (x ≠ '\x7d') = true) ↔ '\x7d' ∉ text := by
    simp only [decide_eq_true_eq]
    exact ⟨fun h hmem => h _ hmem rfl, fun h x hx he => h (he ▸ hx)⟩
  unfold fallback?.closed
  constructor
  · intro h
    split at h
    · next c tail hdrop =>
      obtain ⟨htake, rfl⟩ := Prod.mk.inj (Option.some.inj h)
      obtain ⟨hcs, htext, hc⟩ := span_eq_iff.mp ⟨htake, hdrop⟩
      obtain rfl : c = '\x7d' := by simpa using hc
      exact ⟨hplain.mp htext, hcs⟩
    · cases h
  · rintro ⟨htext, hcs⟩
    obtain ⟨htake, hdrop⟩ := span_eq_iff.mpr ⟨hcs, hplain.mpr htext, by simp⟩
    rw [hdrop, htake]

theorem fallback?_eq_some_iff {cs text rest : List Char} :
    fallback? cs = some (text, rest) ↔ ∃ ending, Closes ending text ∧ cs = ending ++ rest := by
  constructor
  · intro h
    unfold fallback? at h
    split at h
    · obtain ⟨rfl, rfl⟩ := Prod.mk.inj (Option.some.inj h)
      exact ⟨_, .bare, rfl⟩
    · obtain ⟨htext, rfl⟩ := closed_eq_some_iff.mp h
      exact ⟨_, .hyphen htext, by simp⟩
    · next hhyphen =>
      obtain ⟨htext, rfl⟩ := closed_eq_some_iff.mp h
      refine ⟨_, .colon htext ?_, by simp⟩
      intro hhead
      obtain ⟨tail, rfl⟩ := List.head?_eq_some_iff.mp hhead
      exact hhyphen _ rfl
    · cases h
  · rintro ⟨ending, hcloses, rfl⟩
    cases hcloses with
    | bare => rfl
    | @colon text htext hhead =>
      have hclosed := closed_eq_some_iff.mpr ⟨htext, List.append_assoc text ['\x7d'] rest⟩
      cases text with
      | nil => exact hclosed
      | cons c text =>
        have hc : c ≠ '-' := by simpa using hhead
        simpa [fallback?, hc] using hclosed
    | @hyphen text htext =>
      exact closed_eq_some_iff.mpr ⟨htext, List.append_assoc text ['\x7d'] rest⟩

/-- No name goes on into what follows it. -/
theorem Closes.head_not_plain {ending fallback : List Char} (h : Closes ending fallback) :
    ∃ c rest, ending = c :: rest ∧ (c = ':' ∨ c = '\x7d') := by
  cases h with
  | bare => exact ⟨_, _, rfl, .inr rfl⟩
  | colon _ _ => exact ⟨_, _, rfl, .inl rfl⟩
  | hyphen _ => exact ⟨_, _, rfl, .inl rfl⟩

/-- What is read is what the text starts with, spelled in one of the ways there are. -/
theorem read?_eq_some_iff {cs rest : List Char} {r : Reference} :
    read? cs = some (r, rest) ↔ ∃ written, Spells written r ∧ cs = written ++ rest := by
  constructor
  · intro h
    unfold read? at h
    split at h
    · next cs =>
      split at h
      · cases h
      · next hnonempty =>
        obtain ⟨⟨text, tail⟩, hfallback, hr⟩ := Option.map_eq_some_iff.mp h
        obtain ⟨rfl, rfl⟩ := Prod.mk.inj hr
        obtain ⟨ending, hcloses, hdrop⟩ := fallback?_eq_some_iff.mp hfallback
        refine ⟨_, .intro ⟨hnonempty, ?_⟩ hcloses, ?_⟩
        · intro c hc
          simpa using List.mem_takeWhile_imp hc
        · have hsplit := List.prefix_iff_eq_append.mp (List.takeWhile_prefix
            (l := cs) fun c => decide (c ≠ ':') && decide (c ≠ '\x7d'))
          rw [hdrop] at hsplit
          simp only [List.cons_append, List.append_assoc, hsplit]
    · cases h
  · rintro ⟨written, hspells, rfl⟩
    obtain @⟨name, ending, fallback, hname, hcloses⟩ := hspells
    obtain ⟨c, tail, rfl, hc⟩ := hcloses.head_not_plain
    have htext : ∀ x ∈ name, (decide (x ≠ ':') && decide (x ≠ '\x7d')) = true := by
      intro x hx
      simpa using hname.plain x hx
    have hstop : (decide (c ≠ ':') && decide (c ≠ '\x7d')) = false := by
      rcases hc with rfl | rfl <;> rfl
    have hsplit : (name ++ c :: tail) ++ rest = name ++ c :: (tail ++ rest) := by simp
    obtain ⟨htake, -⟩ := span_eq_iff.mpr ⟨hsplit, htext, hstop⟩
    have hfallback : fallback? ((c :: tail) ++ rest) = some (fallback, rest) :=
      fallback?_eq_some_iff.mpr ⟨_, hcloses, rfl⟩
    simp only [List.cons_append, read?]
    split
    · next hempty => exact absurd (htake.symm.trans hempty) hname.nonempty
    · rw [htake, List.append_assoc, List.drop_left, hfallback]
      rfl

/-- Where no reference opens, none is read. -/
theorem read?_eq_none_iff {cs : List Char} : read? cs = none ↔ ¬ Opens cs := by
  rw [Option.eq_none_iff_forall_ne_some]
  constructor
  · rintro h ⟨written, r, rest, hspells, hcs⟩
    exact h (r, rest) (read?_eq_some_iff.mpr ⟨written, hspells, hcs⟩)
  · rintro h ⟨r, rest⟩ hread
    obtain ⟨written, hspells, hcs⟩ := read?_eq_some_iff.mp hread
    exact h ⟨written, r, rest, hspells, hcs⟩

end Reference

/-! ## What a text becomes -/

/-- None of the characters, with what follows them, starts a reference. -/
def Clear (before rest : List Char) : Prop :=
  ∀ head tail, before = head ++ tail → tail ≠ [] → ¬ Reference.Opens (tail ++ rest)

/-- What is put in the place of a reference: what the variable is set to, be it nothing, and the
fallback where it is not set. -/
inductive StandsFor (env : Environment) (r : Reference) : String → Prop
  | set {value : String} : env r.name = some value → StandsFor env r value
  | unset : env r.name = none → StandsFor env r r.fallback

/-- The text that another becomes. -/
inductive Expands (env : Environment) : List Char → List Char → Prop
  | plain {text : List Char} : Clear text [] → Expands env text text
  | reference {before written rest out : List Char} {r : Reference} {value : String} :
    Clear before (written ++ rest) → Reference.Spells written r → StandsFor env r value →
    Expands env rest out →
    Expands env (before ++ (written ++ rest)) (before ++ (value.toList ++ out))

variable {env : Environment}

theorem standsFor_iff {r : Reference} {value : String} :
    StandsFor env r value ↔ r.value env = value := by
  unfold Reference.value
  constructor
  · rintro (h | h)
    · rw [h, Option.getD_some]
    · rw [h, Option.getD_none]
  · rintro rfl
    cases h : env r.name with
    | some value => exact .set h
    | none => exact .unset h

theorem Clear.cons {c : Char} {before rest : List Char}
    (hc : ¬ Reference.Opens (c :: (before ++ rest))) (h : Clear before rest) :
    Clear (c :: before) rest := by
  rintro (_ | ⟨x, head⟩) tail hsplit hne
  · obtain rfl : c :: before = tail := hsplit
    exact hc
  · obtain ⟨-, rfl⟩ := List.cons.inj hsplit
    exact h head tail rfl hne

theorem Clear.of_cons {c : Char} {before rest : List Char} (h : Clear (c :: before) rest) :
    ¬ Reference.Opens (c :: (before ++ rest)) ∧ Clear before rest := by
  constructor
  · exact h [] (c :: before) rfl (List.cons_ne_nil _ _)
  · rintro head tail rfl hne
    exact h (c :: head) tail rfl hne

/-- A character that starts no reference is kept. -/
theorem Expands.cons {c : Char} {text out : List Char} (hc : ¬ Reference.Opens (c :: text))
    (h : Expands env text out) : Expands env (c :: text) (c :: out) := by
  cases h with
  | plain hclear => exact .plain (hclear.cons (by rwa [List.append_nil]))
  | reference hclear hspells hvalue hrest => exact .reference (hclear.cons hc) hspells hvalue hrest

theorem expandChars_of_read {cs rest : List Char} {r : Reference}
    (h : Reference.read? cs = some (r, rest)) :
    expandChars env cs = (r.value env).toList ++ expandChars env rest := by
  cases cs with
  | nil => cases h
  | cons c cs =>
    rw [expandChars]
    split
    · next h' =>
      obtain ⟨rfl, rfl⟩ := Prod.mk.inj (Option.some.inj (h.symm.trans h'))
      rfl
    · next h' => rw [h] at h'; cases h'

theorem expandChars_of_not_opens {c : Char} {cs : List Char}
    (h : ¬ Reference.Opens (c :: cs)) : expandChars env (c :: cs) = c :: expandChars env cs := by
  rw [expandChars]
  split
  · next h' => rw [Reference.read?_eq_none_iff.mpr h] at h'; cases h'
  · rfl

/-- What stands before the first reference is kept as it is. -/
theorem expandChars_append_of_clear {before rest : List Char} (h : Clear before rest) :
    expandChars env (before ++ rest) = before ++ expandChars env rest := by
  induction before with
  | nil => rfl
  | cons c before ih =>
    obtain ⟨hc, hbefore⟩ := h.of_cons
    rw [List.cons_append, expandChars_of_not_opens hc, ih hbefore, List.cons_append]

theorem clear_nil (rest : List Char) : Clear [] rest := by
  rintro head tail hsplit hne
  exact absurd (List.append_eq_nil_iff.mp hsplit.symm).2 hne

/-- A reference that is read is the first of the text that is left. -/
theorem expands_expandChars (text : List Char) : Expands env text (expandChars env text) := by
  fun_induction expandChars env text with
  | case1 => exact .plain (clear_nil [])
  | case2 c cs r rest hread ih =>
    obtain ⟨written, hspells, hcs⟩ := Reference.read?_eq_some_iff.mp hread
    rw [hcs]
    exact .reference (clear_nil _) hspells (standsFor_iff.mpr rfl) ih
  | case3 c cs hread ih => exact ih.cons (Reference.read?_eq_none_iff.mp hread)

theorem Expands.eq_expandChars {text out : List Char} (h : Expands env text out) :
    expandChars env text = out := by
  induction h with
  | plain hclear =>
    have hkept : expandChars env (_ ++ []) = _ ++ expandChars env [] :=
      expandChars_append_of_clear hclear
    rwa [expandChars, List.append_nil] at hkept
  | reference hclear hspells hvalue _ ih =>
    rw [expandChars_append_of_clear hclear,
      expandChars_of_read (Reference.read?_eq_some_iff.mpr ⟨_, hspells, rfl⟩),
      standsFor_iff.mp hvalue, ih]

/-- What a text becomes is what its references leave of it, and nothing else: the one before which
none opens is replaced, then the one after it in what follows. -/
theorem expand_eq_iff (env : Environment) (text : String) :
    (∀ out, expand env text = out ↔ Expands env text.toList out.toList) ∧
    (Clear text.toList [] → expand env text = text) := by
  have hiff : ∀ out, expand env text = out ↔ Expands env text.toList out.toList := by
    intro out
    constructor
    · rintro rfl
      rw [expand, String.toList_ofList]
      exact expands_expandChars text.toList
    · intro h
      rw [expand, h.eq_expandChars, String.ofList_toList]
  exact ⟨hiff, fun hclear => (hiff text).mpr (.plain hclear)⟩

/-- A variable set to what looks like a reference to it, between a dollar sign that opens nothing
and a brace that is never closed. -/
theorem expand_eq_iff_nested :
    expand (fun _ => some "$\x7bA:1\x7d") "$$\x7bA\x7d$\x7b" = "$$\x7bA:1\x7d$\x7b" ∧
    expand (fun _ => none) "$\x7b" = "$\x7b" := by
  have hclosed : ∀ {cs : List Char}, Reference.read? cs = none → ¬ Reference.Opens cs :=
    fun h => Reference.read?_eq_none_iff.mp h
  have hrest : Clear ['$', '\x7b'] [] :=
    .cons (hclosed rfl) (.cons (hclosed rfl) (clear_nil []))
  have hname : Reference.IsName ['A'] := by
    refine ⟨List.cons_ne_nil _ _, ?_⟩
    intro c hc
    obtain rfl := List.mem_singleton.mp hc
    exact ⟨by decide, by decide⟩
  have hwritten : Reference.Spells ['$', '\x7b', 'A', '\x7d'] ⟨"A", ""⟩ := .intro hname .bare
  have hbefore : Clear ['$'] (['$', '\x7b', 'A', '\x7d'] ++ ['$', '\x7b']) :=
    .cons (hclosed rfl) (clear_nil _)
  have hvalue : StandsFor (fun _ => some "$\x7bA:1\x7d") ⟨"A", ""⟩ "$\x7bA:1\x7d" := .set rfl
  constructor
  · exact ((expand_eq_iff _ _).1 _).mpr (.reference hbefore hwritten hvalue (.plain hrest))
  · exact (expand_eq_iff _ _).2 hrest

end ModelCatalog.Environment
