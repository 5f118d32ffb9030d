/-! # Qualified names

A qualified name is a namespace, a dot and a local name. Namespaces have dots of their own, so a
name is split at its last one.
-/
namespace ModelCatalog.Qualified

/-- `namespace.Name` -/
def join (ns name : String) : String := ns ++ "." ++ name

/-- The characters before and after the last dot. -/
def splitLast : List Char → Option (List Char × List Char)
  | [] => none
  | c :: cs =>
    match splitLast cs with
    | some (before, after) => some (c :: before, after)
    | none => if c = '.' then some ([], cs) else none

/-- Namespace and local name, where neither is empty. -/
def split? (name : String) : Option (String × String) :=
  match splitLast name.toList with
  | some (before, after) =>
    if before.isEmpty || after.isEmpty then none
    else some (String.ofList before, String.ofList after)
  | none => none

/-- What follows the last dot; the whole of a name without one. -/
def lastPart (name : String) : String :=
  match splitLast name.toList with
  | some (_, after) => String.ofList after
  | none => name

/-- Only a text without a dot cannot be split. -/
theorem splitLast_eq_none_iff {cs : List Char} : splitLast cs = none ↔ '.' ∉ cs := by
  induction cs with
  | nil => simp [splitLast]
  | cons c cs ih =>
    unfold splitLast
    cases h : splitLast cs with
    | some p =>
      have hm : '.' ∈ cs := Classical.byContradiction fun hm => by simp [ih.mpr hm] at h
      simp [hm]
    | none =>
      have hm := ih.mp h
      by_cases hc : c = '.'
      · simp [hc]
      · simp [hc, hm, Ne.symm hc]

/-- Splitting takes a text apart at a dot, and none comes after that dot. -/
theorem splitLast_eq_some {cs before after : List Char} (h : splitLast cs = some (before, after)) :
    cs = before ++ '.' :: after ∧ '.' ∉ after := by
  induction cs generalizing before with
  | nil => simp [splitLast] at h
  | cons c cs ih =>
    unfold splitLast at h
    split at h
    next b a hs =>
      obtain ⟨rfl, rfl⟩ := Prod.mk.inj (Option.some.inj h)
      obtain ⟨hcs, ha⟩ := ih hs
      exact ⟨by rw [hcs]; rfl, ha⟩
    next hs =>
      split at h
      next hc =>
        obtain ⟨rfl, rfl⟩ := Prod.mk.inj (Option.some.inj h)
        exact ⟨by rw [hc]; rfl, splitLast_eq_none_iff.mp hs⟩
      next => cases h

end ModelCatalog.Qualified
