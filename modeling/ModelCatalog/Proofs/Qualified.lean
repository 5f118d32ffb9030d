import ModelCatalog.Text.Qualified

/-! # Taking qualified names apart

A namespace may have dots of its own, in front, at its end or in a row, so only a local name without
any tells where the namespace ends. With such a local name splitting is the inverse of joining, and
a text that does not split is known by the places of its dots.
-/
namespace ModelCatalog.Qualified

/-- A name that can be found again behind the dot of a qualified name. -/
structure IsLocal (name : String) : Prop where
  nonempty : name ≠ ""
  dotless : '.' ∉ name.toList

/-- A text with no dot to split it at, or with nothing on one side of its last dot. -/
inductive Undivided (text : String) : Prop
  | dotless : '.' ∉ text.toList → Undivided text
  | atStart : text.toList.head? = some '.' → text.toList.count '.' = 1 → Undivided text
  | atEnd : text.toList.getLast? = some '.' → Undivided text

theorem splitLast_append {before after : List Char} (h : '.' ∉ after) :
    splitLast (before ++ '.' :: after) = some (before, after) := by
  induction before with
  | nil => simp [splitLast, splitLast_eq_none_iff.mpr h]
  | cons c before ih => simp [splitLast, ih]

theorem toList_join (ns name : String) : (join ns name).toList = ns.toList ++ '.' :: name.toList := by
  simp [join]

/-! ## What splits -/

/-- Splitting gives what stands before and after the last dot, unless one of the two is empty. -/
theorem split?_eq_some_iff_splitLast {text ns name : String} : split? text = some (ns, name) ↔
    splitLast text.toList = some (ns.toList, name.toList) ∧ ns ≠ "" ∧ name ≠ "" := by
  constructor
  · intro h
    unfold split? at h
    split at h
    · next before after hs =>
      split at h
      · cases h
      · next hne =>
        obtain ⟨rfl, rfl⟩ := Prod.mk.inj (Option.some.inj h)
        simp only [Bool.or_eq_true, List.isEmpty_iff, not_or] at hne
        exact ⟨by simpa using hs, by simpa using hne.1, by simpa using hne.2⟩
    · cases h
  · rintro ⟨hs, hns, hname⟩
    simp [split?, hs, hns, hname]

/-- A qualified name splits into a namespace and a local name, and into those it was joined of. -/
theorem split?_eq_some_iff {text ns name : String} :
    split? text = some (ns, name) ↔ join ns name = text ∧ ns ≠ "" ∧ IsLocal name := by
  rw [split?_eq_some_iff_splitLast]
  constructor
  · rintro ⟨hs, hns, hname⟩
    obtain ⟨htext, hdot⟩ := splitLast_eq_some hs
    exact ⟨String.toList_inj.mp ((toList_join ns name).trans htext.symm), hns, hname, hdot⟩
  · rintro ⟨rfl, hns, hname, hdot⟩
    exact ⟨by rw [toList_join, splitLast_append hdot], hns, hname⟩

/-- Behind the last dot stands the local name, so a joined name has one reading. -/
theorem join_inj {ns ns' name name' : String} (h : '.' ∉ name.toList) (h' : '.' ∉ name'.toList) :
    join ns name = join ns' name' ↔ ns = ns' ∧ name = name' := by
  constructor
  · intro he
    have hs := congrArg (fun text => splitLast text.toList) he
    simpa [toList_join, splitLast_append h, splitLast_append h', String.toList_inj] using hs
  · rintro ⟨rfl, rfl⟩
    rfl

/-! ## What does not -/

theorem eq_nil_of_head? {before after : List Char} (hdot : '.' ∉ before)
    (hhead : (before ++ '.' :: after).head? = some '.') : before = [] := by
  cases before with
  | nil => rfl
  | cons c cs =>
    obtain rfl : c = '.' := by simpa using hhead
    exact absurd List.mem_cons_self hdot

theorem eq_nil_of_getLast? {before after : List Char} (hdot : '.' ∉ after)
    (hlast : (before ++ '.' :: after).getLast? = some '.') : after = [] := by
  cases after with
  | nil => rfl
  | cons c cs =>
    have hmem : (c :: cs).getLast? = some '.' := by
      simpa [List.getLast?_append] using hlast
    exact absurd (List.mem_of_getLast? hmem) hdot

/-- The only dot is the one a text is taken apart at. -/
theorem not_mem_of_count {before after : List Char}
    (h : (before ++ '.' :: after).count '.' = 1) : '.' ∉ before := by
  rw [List.count_append, List.count_cons_self] at h
  exact List.not_mem_of_count_eq_zero (by omega)

/-- Where a text is taken apart at its last dot, it is undivided if one side has nothing in it. -/
theorem undivided_iff {text : String} {before after : List Char}
    (htext : text.toList = before ++ '.' :: after) (hdot : '.' ∉ after) :
    Undivided text ↔ before = [] ∨ after = [] := by
  constructor
  · intro h
    cases h with
    | dotless hnone => simp [htext] at hnone
    | atStart hhead hcount =>
      rw [htext] at hhead hcount
      exact .inl (eq_nil_of_head? (not_mem_of_count hcount) hhead)
    | atEnd hlast =>
      rw [htext] at hlast
      exact .inr (eq_nil_of_getLast? hdot hlast)
  · rintro (rfl | rfl)
    · exact .atStart (by simp [htext]) (by simp [htext, List.count_eq_zero.mpr hdot])
    · exact .atEnd (by simp [htext])

theorem split?_eq_none_iff {text : String} : split? text = none ↔ Undivided text := by
  cases hs : splitLast text.toList with
  | none =>
    have hundivided := Undivided.dotless (splitLast_eq_none_iff.mp hs)
    simp [split?, hs, hundivided]
  | some parts =>
    obtain ⟨before, after⟩ := parts
    obtain ⟨htext, hdot⟩ := splitLast_eq_some hs
    rw [undivided_iff htext hdot]
    simp [split?, hs, Decidable.or_iff_not_imp_left]

/-! ## There and back -/

/-- Splitting gives the parts that a text is joined of, and fails for undivided texts only; parts
with a local name are given back as they were joined, and no other parts make the same text. -/
theorem split?_inverse_join :
    (∀ text ns name, split? text = some (ns, name) →
      ns ≠ "" ∧ IsLocal name ∧ join ns name = text) ∧
    (∀ text, split? text = none ↔ Undivided text) ∧
    (∀ ns name, ns ≠ "" → IsLocal name → split? (join ns name) = some (ns, name)) ∧
    ∀ ns ns' name name', '.' ∉ name.toList → '.' ∉ name'.toList →
      join ns name = join ns' name' → ns = ns' ∧ name = name' := by
  refine ⟨fun text ns name h => ?_, fun text => split?_eq_none_iff, fun ns name hns hname => ?_,
    fun ns ns' name name' hname hname' => (join_inj hname hname').mp⟩
  · obtain ⟨hjoin, hns, hlocal⟩ := split?_eq_some_iff.mp h
    exact ⟨hns, hlocal, hjoin⟩
  · exact split?_eq_some_iff.mpr ⟨rfl, hns, hname⟩

/-- The dots of a version belong to the namespace, and so does a second dot in front. -/
theorem split?_inverse_join_versioned :
    split? "org.acme@1.0.0.Car" = some ("org.acme@1.0.0", "Car") ∧
      join "org.acme@1.0.0" "Car" = "org.acme@1.0.0.Car" ∧
      (∀ ns name, '.' ∉ name.toList → join ns name = "org.acme@1.0.0.Car" →
        ns = "org.acme@1.0.0" ∧ name = "Car") ∧
      split? "..Car" = some (".", "Car") ∧ ¬ Undivided "..Car" ∧
      split? ".Car" = none ∧ split? "org.acme." = none ∧ split? "Car" = none := by
  obtain ⟨hparts, hundivided, hback, hone⟩ := split?_inverse_join
  have hcar : IsLocal "Car" := ⟨by decide, by decide⟩
  have hversioned : split? "org.acme@1.0.0.Car" = some ("org.acme@1.0.0", "Car") :=
    hback "org.acme@1.0.0" "Car" (by decide) hcar
  have hjoin := (hparts _ _ _ hversioned).2.2
  have hdots : split? "..Car" = some (".", "Car") := hback "." "Car" (by decide) hcar
  refine ⟨hversioned, hjoin, fun ns name hname h => ?_, hdots, fun h => ?_, ?_, ?_, ?_⟩
  · exact hone ns _ name _ hname hcar.dotless (h.trans hjoin.symm)
  · rw [(hundivided _).mpr h] at hdots
    cases hdots
  · exact (hundivided _).mpr (.atStart (by decide) (by decide))
  · exact (hundivided _).mpr (.atEnd (by decide))
  · exact (hundivided _).mpr (.dotless (by decide))

end ModelCatalog.Qualified
