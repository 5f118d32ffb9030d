import ModelCatalog.Proofs.Reasons

/-! # Strictness

Where a class declares a property again, the check compares kinds, types, arrays and what is
required. It compares no rules, so a value that a class accepts need not be one that the classes
above it accept. When it is not, one of the declarations on the way up is to blame, and its rules
are what lets the value through.
-/
namespace ModelCatalog

/-! ## Rules -/

theorem RangeRule.fault?_eq_none_iff {r : RangeRule} {j : Json} :
    r.fault? j = none ↔ ∃ n, j = .number n ∧ (∀ l ∈ r.lower, l.units ≤ n.toBinary64.units) ∧
      ∀ u ∈ r.upper, n.toBinary64.units ≤ u.units := by
  cases j with
  | number n =>
    have hlower : r.lower.filter n.toBinary64.lt = none ↔
        ∀ l ∈ r.lower, l.units ≤ n.toBinary64.units := by
      simp [Option.filter_eq_none_iff, Binary64.lt]
    have hupper : r.upper.filter (·.lt n.toBinary64) = none ↔
        ∀ u ∈ r.upper, n.toBinary64.units ≤ u.units := by
      simp [Option.filter_eq_none_iff, Binary64.lt]
    simp only [Json.number.injEq, exists_eq_left', ← hlower, ← hupper, fault?]
    cases r.lower.filter n.toBinary64.lt <;> cases r.upper.filter (·.lt n.toBinary64) <;> simp
  | _ => simp [fault?]

theorem LengthRule.fault?_eq_none_iff {r : LengthRule} {j : Json} :
    r.fault? j = none ↔ ∃ n, lengthOf? j = some n ∧ (∀ lo ∈ r.min, lo ≤ n) ∧
      ∀ hi ∈ r.max, n ≤ hi := by
  unfold fault?
  cases hn : lengthOf? j with
  | none => simp
  | some n =>
    have hmin : r.min.filter (n < ·) = none ↔ ∀ lo ∈ r.min, lo ≤ n := by
      simp [Option.filter_eq_none_iff]
    have hmax : r.max.filter (· < n) = none ↔ ∀ hi ∈ r.max, n ≤ hi := by
      simp [Option.filter_eq_none_iff]
    simp only [Option.some.injEq, exists_eq_left', ← hmin, ← hmax]
    cases r.min.filter (n < ·) <;> cases r.max.filter (· < n) <;> simp

namespace Rule

/-- A rule that asks for all that another one asks for: the same pattern, or bounds within which the
other's are. -/
inductive Tightens : Rule → Rule → Prop
  | pattern {r s : PatternRule} :
    r.pattern = s.pattern → r.flags = s.flags → Tightens (.pattern r) (.pattern s)
  | range {r s : RangeRule} : (∀ l ∈ s.lower, ∃ l' ∈ r.lower, l.units ≤ l'.units) →
    (∀ u ∈ s.upper, ∃ u' ∈ r.upper, u'.units ≤ u.units) → Tightens (.range r) (.range s)
  | length {r s : LengthRule} : (∀ lo ∈ s.min, ∃ lo' ∈ r.min, lo ≤ lo') →
    (∀ hi ∈ s.max, ∃ hi' ∈ r.max, hi' ≤ hi) → Tightens (.length r) (.length s)

theorem Tightens.fault?_eq_none {r s : Rule} (h : r.Tightens s) {j : Json}
    (hj : r.fault? j = none) : s.fault? j = none := by
  cases h with
  | pattern hpattern hflags => exact PatternRule.ext_source hpattern hflags ▸ hj
  | range hlower hupper =>
    obtain ⟨n, hn, hl, hu⟩ := RangeRule.fault?_eq_none_iff.mp hj
    refine RangeRule.fault?_eq_none_iff.mpr ⟨n, hn, ?_, ?_⟩
    · intro l hmem
      obtain ⟨l', hmem', hle⟩ := hlower l hmem
      exact Int.le_trans hle (hl l' hmem')
    · intro u hmem
      obtain ⟨u', hmem', hle⟩ := hupper u hmem
      exact Int.le_trans (hu u' hmem') hle
  | length hmin hmax =>
    obtain ⟨n, hn, hlo, hhi⟩ := LengthRule.fault?_eq_none_iff.mp hj
    refine LengthRule.fault?_eq_none_iff.mpr ⟨n, hn, ?_, ?_⟩
    · intro lo hmem
      obtain ⟨lo', hmem', hle⟩ := hmin lo hmem
      exact Nat.le_trans hle (hlo lo' hmem')
    · intro hi hmem
      obtain ⟨hi', hmem', hle⟩ := hmax hi hmem
      exact Nat.le_trans (hhi hi' hmem') hle

end Rule

/-! ## Properties -/

namespace Property

variable {p q : Property}

/-- The values that the first accepts are values that the second accepts. -/
def NoLaxer (p q : Property) : Prop :=
  ∀ j, p.checkValue j = .ok () → q.checkValue j = .ok ()

/-- Each rule of the second has one among the rules of the first that asks for as much. -/
def Tightens (p q : Property) : Prop :=
  ∀ s ∈ rulesOf q.rule q.lengthRule, ∃ r ∈ rulesOf p.rule p.lengthRule, r.Tightens s

/-- Every value is checked as itself by some list, or as it is. -/
theorem exists_parts (p : Property) (j : Json) : ∃ k, p.parts k = [j] := by
  cases ha : p.isArray with
  | false => exact ⟨j, parts_of_single ha⟩
  | true => exact ⟨.array [j], by simp [parts, ha]⟩

/-- Of two properties that take their values apart alike, it is the rules that decide. -/
theorem noLaxer_iff (ha : p.isArray = q.isArray) :
    p.NoLaxer q ↔ ∀ j, Allows p.rule p.lengthRule j → Allows q.rule q.lengthRule j := by
  have hparts : ∀ j, p.parts j = q.parts j := by
    intro j
    unfold parts
    rw [ha]
  simp only [NoLaxer, checkValue_ok_iff, hparts]
  constructor
  · intro h j hj
    obtain ⟨k, hk⟩ := q.exists_parts j
    have := h k
    simp only [hk, List.mem_singleton, forall_eq] at this
    exact this hj
  · intro h j hj part hpart
    exact h part (hj part hpart)

theorem Tightens.noLaxer (h : p.Tightens q) (ha : p.isArray = q.isArray) : p.NoLaxer q := by
  refine (noLaxer_iff ha).mpr ?_
  intro j hj
  rw [allows_iff_rulesOf] at hj ⊢
  intro s hs
  obtain ⟨r, hr, ht⟩ := h s hs
  exact ht.fault?_eq_none (hj r hr)

end Property

/-! ## Overrides -/

namespace Catalog

/-- Two linked classes, the second the super type of the first, which declares a property again: it
accepts a value that the other does not, and its rules do not ask for all that the other's do. -/
structure Loosens (c : Catalog) (name : String) (j : Json) (e f : LinkedDeclaration) : Prop where
  parent : c.Extends e.declaration f.declaration
  declares : (e.declaration.property? name).isSome = true
  loosened : ∃ p q, e.property? name = some p ∧ f.property? name = some q ∧
    p.property.checkValue j = .ok () ∧ q.property.checkValue j ≠ .ok () ∧
      ¬ p.property.Tightens q.property

variable {c : Catalog} {m : LinkedModel} {d a : LinkedDeclaration} {p q : LinkedProperty}
  {name : String} {j : Json}

section

variable (hc : c.Coherent) (h : c.link = .ok m) (hd : d ∈ m.declarations)
  (ha : a ∈ m.declarations)

include hc h hd ha

/-- What a linked class has, the linked classes below it have as well, and as arrays just where it
is one. -/
theorem exists_property?_of_reaches
    (hup : Relation.ReflTransGen c.Extends d.declaration a.declaration)
    (hq : a.property? name = some q) :
    ∃ p, d.property? name = some p ∧ p.property.isArray = q.property.isArray := by
  obtain ⟨owner, r, hm, hlq⟩ := (property?_eq_some_iff hc h ha).mp hq
  obtain ⟨p, owner', r', hp, hlp, hconf⟩ := exists_conforming_of_member hc h hd hup hm
  obtain ⟨_, -, hep, -⟩ := linkProperty_eq_ok hlp
  obtain ⟨_, -, heq, -⟩ := linkProperty_eq_ok hlq
  refine ⟨p, hp, ?_⟩
  rw [(Property.effective_ok_iff.mp hep).isArray, hconf.array,
    (Property.effective_ok_iff.mp heq).isArray]

/-- A class that does not declare a property again has that of its super type. -/
theorem property?_eq_of_extends (he : c.Extends d.declaration a.declaration)
    (hn : d.declaration.property? name = none) : d.property? name = a.property? name := by
  ext lp
  rw [property?_eq_some_iff hc h hd, property?_eq_some_iff hc h ha]
  refine exists_congr fun owner => exists_congr fun r => and_congr_left fun _ => ?_
  constructor
  · intro hm
    cases hm with
    | own hp => simp [hn] at hp
    | inherited _ he' hm => exact he.unique he' ▸ hm
  · exact .inherited hn he

/-- A class that accepts what its super type does not loosens what it inherits. -/
theorem loosens_of_extends (he : c.Extends d.declaration a.declaration)
    (hp : d.property? name = some p) (hq : a.property? name = some q)
    (haccepts : p.property.checkValue j = .ok ()) (hrejects : q.property.checkValue j ≠ .ok ()) :
    c.Loosens name j d a := by
  refine ⟨he, ?_, p, q, hp, hq, haccepts, hrejects, ?_⟩
  · by_contra hn
    rw [Option.not_isSome_iff_eq_none] at hn
    rw [property?_eq_of_extends hc h hd ha he hn, hq] at hp
    exact hrejects (Option.some.inj hp ▸ haccepts)
  · intro htightens
    obtain ⟨p', hp', harray⟩ := exists_property?_of_reaches hc h hd ha (.single he) hq
    obtain rfl := Option.some.inj (hp.symm.trans hp')
    exact hrejects (htightens.noLaxer harray j haccepts)

end

/-- When a class accepts a value that a class above it does not, some class on the way up loosens
what it inherits. -/
theorem exists_loosens (hc : c.Coherent) (h : c.link = .ok m) (ha : a ∈ m.declarations)
    (hq : a.property? name = some q) (hrejects : q.property.checkValue j ≠ .ok ())
    {x : Declaration} (hup : Relation.ReflTransGen c.Extends x a.declaration) :
    ∀ d ∈ m.declarations, d.declaration = x → ∀ p, d.property? name = some p →
      p.property.checkValue j = .ok () → ∃ e ∈ m.declarations, ∃ f ∈ m.declarations,
        Relation.ReflTransGen c.Extends x e.declaration ∧
          Relation.ReflTransGen c.Extends f.declaration a.declaration ∧ c.Loosens name j e f := by
  induction hup using Relation.ReflTransGen.head_induction_on with
  | refl =>
    -- what a class has is settled by its declaration, so the value would be accepted above
    intro d hd he p hp haccepts
    obtain ⟨owner, r, hm, hl⟩ := (property?_eq_some_iff hc h hd).mp hp
    have hq' := (property?_eq_some_iff hc h ha).mpr ⟨owner, r, he ▸ hm, hl⟩
    obtain rfl := Option.some.inj (hq.symm.trans hq')
    exact absurd haccepts hrejects
  | head hstep hrest ih =>
    intro d hd he p hp haccepts
    subst he
    have hy := mem_of_reaches hc (linkDeclaration_of_mem h hd).1 (.single hstep)
    obtain ⟨f, hf, rfl⟩ := exists_linked_of_mem h hy
    obtain ⟨r, hr, -⟩ := exists_property?_of_reaches hc h hf ha hrest hq
    by_cases hcase : r.property.checkValue j = .ok ()
    · obtain ⟨e, he, f', hf', hto, hfrom, hloosens⟩ := ih f hf rfl r hr hcase
      exact ⟨e, he, f', hf', .head hstep hto, hfrom, hloosens⟩
    · have hloosens := loosens_of_extends hc h hd hf hstep hp hr haccepts hcase
      exact ⟨d, hd, f, hf, .refl, hrest, hloosens⟩

/-- In a linked model, the rules decide whether a class accepts no more for an inherited property
than the class it is inherited from, and rules that tighten those above see to it. Whatever it
accepts beyond that is let through where a class between them, or itself, declares the property
again and loosens its rules. -/
theorem laxer_only_by_override (hr : c.Reachable) (h : c.link = .ok m) (hd : d ∈ m.declarations)
    (ha : a ∈ m.declarations) (hup : Relation.TransGen c.Extends d.declaration a.declaration)
    (hq : q ∈ a.properties) : ∃ p, d.property? q.name = some p ∧
      (p.property.NoLaxer q.property ↔ ∀ j, Allows p.property.rule p.property.lengthRule j →
        Allows q.property.rule q.property.lengthRule j) ∧
      (p.property.Tightens q.property → p.property.NoLaxer q.property) ∧
      ∀ j, p.property.checkValue j = .ok () → q.property.checkValue j ≠ .ok () →
        ∃ e ∈ m.declarations, ∃ f ∈ m.declarations,
          Relation.ReflTransGen c.Extends d.declaration e.declaration ∧
            Relation.ReflTransGen c.Extends f.declaration a.declaration ∧
              c.Loosens q.name j e f := by
  have hc := hr.coherent
  obtain ⟨owner, r, hm, hl⟩ := exists_member_of_mem hc h ha hq
  have hq' : a.property? q.name = some q := (property?_eq_some_iff hc h ha).mpr ⟨owner, r, hm, hl⟩
  obtain ⟨p, hp, harray⟩ := exists_property?_of_reaches hc h hd ha hup.to_reflTransGen hq'
  refine ⟨p, hp, Property.noLaxer_iff harray, ?_, ?_⟩
  · intro htightens
    exact htightens.noLaxer harray
  · intro j haccepts hrejects
    exact exists_loosens hc h ha hq' hrejects hup.to_reflTransGen d hd rfl p hp haccepts

/-- The kitten's rule for its name is the pet's drawn tighter, so no name of a kitten is too short
for a pet. -/
theorem laxer_only_by_override_kitten : ∃ m d a p q, Sample.pound.link = .ok m ∧
    d ∈ m.declarations ∧ d.declaration = Sample.kitten ∧
      a ∈ m.declarations ∧ a.declaration = Sample.pet ∧
        a.property? "name" = some q ∧ d.property? "name" = some p ∧
          p.property.NoLaxer q.property := by
  obtain ⟨m, d, p, hm, hd, he, -, hp, hproperty⟩ := Sample.exists_kitten
  obtain ⟨a, ha, hae⟩ := exists_linked_of_mem hm
    (List.mem_of_getElem? (i := 2) rfl : Sample.pet ∈ Sample.pound.declarations)
  have hlink : Sample.pound.linkProperty (Sample.pet, Sample.petName)
      = .ok ⟨Sample.petName.typedBy Sample.anyName, 2, "String", some (.primitive .string)⟩ := by
    rfl
  have hq := property?_of_own Sample.pound_reachable.coherent hm ha hae hlink rfl
  have hup : Relation.TransGen Sample.pound.Extends d.declaration a.declaration := by
    rw [he, hae]
    exact .single Sample.kitten_extends
  obtain ⟨p', hp', -, htighter, -⟩ := laxer_only_by_override Sample.pound_reachable hm hd ha hup
    (List.mem_of_find?_eq_some hq)
  obtain rfl := Option.some.inj (hp.symm.trans hp')
  refine ⟨m, d, a, p, _, hm, hd, he, ha, hae, hq, hp, htighter ?_⟩
  rw [hproperty]
  intro s hs
  obtain rfl : s = .length ⟨some 1, none⟩ := List.mem_singleton.mp hs
  exact ⟨.length ⟨some 2, some 8⟩, List.mem_singleton_self _, .length (by decide) (by decide)⟩

end Catalog

/-! ## A rule that is lost -/

namespace Sample

def tabbyName : Property := reference "name" (.primitive .string)

def catName : Property := { tabbyName with lengthRule := some ⟨some 3, none⟩ }

def cat : Declaration := ⟨"zoo", "Cat", .ofClass ⟨.concept, none, false, none, [catName]⟩⟩

def tabby : Declaration := concept "Tabby" (some "Cat") ["name"]

/-- A class with a rule for a property, and one below it that declares the property again without
it. -/
def litter : Catalog := ⟨.standard, [⟨"zoo", [], [cat, tabby]⟩]⟩

theorem litter_reachable : litter.Reachable :=
  .addFragment (f := ⟨none, "zoo", [], [
    .object [("$class", .string "ConceptDeclaration"), ("name", .string "Cat"),
      ("properties", .array [.object [("$class", .string "StringProperty"),
        ("name", .string "name"), ("lengthValidator", writtenLength 3 none)]])],
    written "Tabby" (some "Cat") ["name"]]⟩)
    (.empty .standard) (by rfl)

end Sample

namespace Catalog

/-- The litter links, though a tabby has a name that no cat has. -/
theorem tabby_laxer : Sample.litter.Reachable ∧ ∃ m d a p q, Sample.litter.link = .ok m ∧
    d ∈ m.declarations ∧ d.declaration = Sample.tabby ∧
      a ∈ m.declarations ∧ a.declaration = Sample.cat ∧
        Relation.TransGen Sample.litter.Extends d.declaration a.declaration ∧
          q ∈ a.properties ∧ d.property? q.name = some p ∧
            p.property.checkValue (.string "x") = .ok () ∧
              q.property.checkValue (.string "x") ≠ .ok () := by
  obtain ⟨m, hm⟩ := isOk_iff.mp (show Sample.litter.link.isOk = true by decide +kernel)
  have hc := Sample.litter_reachable.coherent
  obtain ⟨a, ha, hae⟩ := exists_linked_of_mem hm
    (List.mem_of_getElem? (i := 0) rfl : Sample.cat ∈ Sample.litter.declarations)
  obtain ⟨d, hd, hde⟩ := exists_linked_of_mem hm
    (List.mem_of_getElem? (i := 1) rfl : Sample.tabby ∈ Sample.litter.declarations)
  have hup : Sample.litter.Extends Sample.tabby Sample.cat := ⟨⟨none, "Cat"⟩, rfl, _, rfl, rfl⟩
  have hp : Sample.litter.linkProperty (Sample.tabby, Sample.tabbyName)
      = .ok ⟨Sample.tabbyName, 1, "String", some (.primitive .string)⟩ := by rfl
  have hq : Sample.litter.linkProperty (Sample.cat, Sample.catName)
      = .ok ⟨Sample.catName, 0, "String", some (.primitive .string)⟩ := by rfl
  have hp := property?_of_own hc hm hd hde hp rfl
  have hq := property?_of_own hc hm ha hae hq rfl
  refine ⟨Sample.litter_reachable, m, d, a, _, _, hm, hd, hde, ha, hae, ?_,
    List.mem_of_find?_eq_some hq, hp, by cbv, ?_⟩
  · rw [hde, hae]
    exact .single hup
  · intro haccepts
    cases haccepts

end Catalog

end ModelCatalog
