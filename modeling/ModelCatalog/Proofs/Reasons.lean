import ModelCatalog.Proofs.Behaviour

/-! # Why a value is rejected

A rule rejects a value for what the rule was given, or because the value is of a kind that the rule
cannot look at. Where settings ask for rules to suit, nothing in a linked model has a rule of the
second sort for values of its own primitive.
-/
namespace ModelCatalog

/-- Is a value said to be of a kind that the rule cannot look at? -/
def Expectation.isMismatch : Expectation → Bool
  | text | number | length => true
  | _ => false

/-! ## Rules -/

/-- The rules of a property or a scalar, in the order in which they look at a value. -/
def rulesOf (rule : Option Rule) (lengthRule : Option LengthRule) : List Rule :=
  rule.toList ++ lengthRule.toList.map .length

theorem allows_iff_rulesOf {rule : Option Rule} {lengthRule : Option LengthRule} {j : Json} :
    Allows rule lengthRule j ↔ ∀ r ∈ rulesOf rule lengthRule, r.fault? j = none := by
  rw [allows_iff]
  cases rule <;> cases lengthRule <;> simp [rulesOf, Rule.fault?]

theorem RulesSuit.suits {q : Primitive} {rule : Option Rule} {lengthRule : Option LengthRule}
    (h : RulesSuit q rule lengthRule) : ∀ r ∈ rulesOf rule lengthRule, r.Suits q := by
  intro r hr
  rcases List.mem_append.mp hr with hr | hr
  · exact h.rule r (Option.mem_toList.mp hr)
  · obtain ⟨l, hl, rfl⟩ := List.mem_map.mp hr
    exact h.lengthRule l (Option.mem_toList.mp hl)

namespace Rule

/-- The value is of the kind the rule is for, and the pattern, the bound or the length that is
expected of it is one that the rule was given and the value does not live up to. -/
inductive Violates (j : Json) : Rule → Expectation → Prop
  | pattern {r : PatternRule} {s : String} : j = .string s → r.machine.matches s = false →
    Violates j (.pattern r) (.matching r.text)
  | lowerBound {r : RangeRule} {n : Number} {l : Binary64} : j = .number n → r.lower = some l →
    n.toBinary64.lt l = true → Violates j (.range r) (.lowerBound l)
  | upperBound {r : RangeRule} {n : Number} {u : Binary64} : j = .number n → r.upper = some u →
    u.lt n.toBinary64 = true → Violates j (.range r) (.upperBound u)
  | minimumLength {r : LengthRule} {n lo : Nat} : LengthRule.lengthOf? j = some n →
    r.min = some lo → n < lo → Violates j (.length r) (.minimumLength lo)
  | maximumLength {r : LengthRule} {n hi : Nat} : LengthRule.lengthOf? j = some n →
    r.max = some hi → hi < n → Violates j (.length r) (.maximumLength hi)

variable {j : Json} {e : Expectation}

theorem Violates.isMismatch_eq_false {r : Rule} (h : r.Violates j e) : e.isMismatch = false := by
  cases h <;> rfl

theorem violates_of_pattern {r : PatternRule} {s : String} (h : r.fault? (.string s) = some e) :
    Violates (.string s) (.pattern r) e := by
  unfold PatternRule.fault? at h
  split at h
  · next t ht =>
    obtain rfl := Json.string.inj ht
    split at h
    · cases h
    · next hm =>
      obtain rfl := Option.some.inj h
      exact .pattern rfl (Bool.eq_false_iff.mpr hm)
  · next hs => exact absurd rfl (hs s)

theorem violates_of_range {r : RangeRule} {n : Number} (h : r.fault? (.number n) = some e) :
    Violates (.number n) (.range r) e := by
  simp only [RangeRule.fault?] at h
  split at h
  · next l _ hl =>
    obtain rfl := Option.some.inj h
    obtain ⟨hlower, hlt⟩ := Option.filter_eq_some_iff.mp hl
    exact .lowerBound rfl hlower hlt
  · next u _ hu =>
    obtain rfl := Option.some.inj h
    obtain ⟨hupper, hlt⟩ := Option.filter_eq_some_iff.mp hu
    exact .upperBound rfl hupper hlt
  · cases h

theorem violates_of_length {r : LengthRule} {n : Nat} (hn : LengthRule.lengthOf? j = some n)
    (h : r.fault? j = some e) : Violates j (.length r) e := by
  simp only [LengthRule.fault?, hn] at h
  split at h
  · next lo _ hlo =>
    obtain rfl := Option.some.inj h
    obtain ⟨hmin, hlt⟩ := Option.filter_eq_some_iff.mp hlo
    exact .minimumLength hn hmin (of_decide_eq_true hlt)
  · next hi _ hhi =>
    obtain rfl := Option.some.inj h
    obtain ⟨hmax, hlt⟩ := Option.filter_eq_some_iff.mp hhi
    exact .maximumLength hn hmax (of_decide_eq_true hlt)
  · cases h

/-- A rule that suits a primitive rejects values of it for what the rule was given. -/
theorem violates_of_suits {r : Rule} {q : Primitive} (hs : r.Suits q) (hj : q.Represents j)
    (h : r.fault? j = some e) : r.Violates j e := by
  cases hs with
  | pattern =>
    cases hj
    exact violates_of_pattern h
  | length =>
    cases hj
    exact violates_of_length rfl h
  | double | integer | long =>
    cases hj
    exact violates_of_range h

theorem check_eq_error {r : Rule} {identifier : String} {f : Failure}
    (h : r.check identifier j = .error f) : r.fault? j = some f.expected := by
  unfold check outcome at h
  split at h
  · next e he => rw [he, ← Except.error.inj h]
  · cases h

end Rule

/-- Rules for values of the primitive. What they reject of such values, they reject for a pattern, a
bound or a length. -/
structure Applicable (q : Primitive) (rules : List Rule) : Prop where
  suits : ∀ r ∈ rules, r.Suits q
  reasons : ∀ r ∈ rules, ∀ j, q.Represents j → ∀ identifier f,
    r.check identifier j = .error f → r.Violates j f.expected ∧ f.expected.isMismatch = false

theorem RulesSuit.applicable {q : Primitive} {rule : Option Rule} {lengthRule : Option LengthRule}
    (h : RulesSuit q rule lengthRule) : Applicable q (rulesOf rule lengthRule) := by
  refine ⟨h.suits, ?_⟩
  intro r hr j hj identifier f hf
  have hviolates := Rule.violates_of_suits (h.suits r hr) hj (Rule.check_eq_error hf)
  exact ⟨hviolates, hviolates.isMismatch_eq_false⟩

namespace Catalog

variable {c : Catalog} {m : LinkedModel}

/-- In a linked model only fields of primitives have rules, their own or a scalar's. The rules suit
the primitive, and no value of it is rejected for its kind. So it is with scalars. -/
theorem rules_applicable (hr : c.Reachable) (h : c.link = .ok m)
    (hrules : c.settings.validation.checkRules = true) :
    (∀ d ∈ m.declarations, ∀ lp ∈ d.properties, lp.property.hasRules = true →
      lp.property.kind = .field ∧ ∃ q, lp.property.type = .primitive q ∧
        Applicable q (rulesOf lp.property.rule lp.property.lengthRule)) ∧
    ∀ d ∈ c.declarations, ∀ s ∈ d.scalar?,
      Applicable s.primitive (rulesOf s.rule s.lengthRule) := by
  constructor
  · intro d hd lp hlp hhas
    -- a property that has rules can only be of a primitive
    have hbare : ¬ (lp.property.rule = none ∧ lp.property.lengthRule = none) := by
      intro hnone
      rw [Property.hasRules_eq_false_iff.mpr hnone] at hhas
      cases hhas
    obtain ⟨owner, p, -, hsuited⟩ := exists_suited_of_mem hr h hd hlp
    cases hsuited with
    | @primitive q ht hfits =>
      exact ⟨by rw [Property.kind, ht]; rfl, q, ht, (hfits.rules hrules).applicable⟩
    | object _ _ hfits => exact absurd (hfits.rules hrules) hbare
    | relationship _ _ hfits _ => exact absurd hfits.rules hbare
    | enumValue _ hplain => exact absurd ⟨hplain.rule, hplain.lengthRule⟩ hbare
  · intro d hd s hs
    have hfits := (wellFormed_of_check hr.coherent (check_of_link h)).scalars d hd s hs
    exact (hfits.rules hrules).applicable

/-- The kitten's name has a rule of its own, the scalar another, and both are for texts. -/
theorem rules_applicable_kitten : ∃ m d lp, Sample.pound.link = .ok m ∧ d ∈ m.declarations ∧
    d.declaration = Sample.kitten ∧ lp ∈ d.properties ∧
      lp.property = Sample.kittenName.typedBy Sample.anyName ∧
        Applicable .string [.length ⟨some 2, some 8⟩] ∧
          Applicable .string [.length ⟨some 1, none⟩] := by
  obtain ⟨m, d, lp, hm, hd, he, hlp, -, hproperty⟩ := Sample.exists_kitten
  obtain ⟨hproperties, hscalars⟩ := rules_applicable Sample.pound_reachable hm rfl
  have hhas : lp.property.hasRules = true := by rw [hproperty]; rfl
  obtain ⟨-, q, hq, happlicable⟩ := hproperties d hd lp hlp hhas
  rw [hproperty] at hq happlicable
  obtain rfl : Primitive.string = q := PropertyType.primitive.inj hq
  have hscalar := hscalars Sample.nameScalar (List.mem_of_getElem? (i := 0) rfl) Sample.anyName rfl
  exact ⟨m, d, lp, hm, hd, he, hlp, hproperty, happlicable, hscalar⟩

end Catalog

end ModelCatalog
