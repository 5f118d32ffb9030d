import ModelCatalog.Proofs.Behaviour

/-! # Fields of scalars

A field typed by a scalar has a check of its own, and so has the scalar. Each looks at rules and
default in its own words, the one after unboxing and the other as declared. They come to the same:
the field is checked as the scalar would be that had the field's default and rules in the place of
its own, and what is wrong with the one is what is wrong with the other.
-/
namespace ModelCatalog

/-- The scalar with what a field of it declares. -/
def Scalar.refinedBy (s : Scalar) (p : Property) : Scalar where
  primitive := s.primitive
  default := p.default.or s.default
  rule := p.rule.or s.rule
  lengthRule := p.lengthRule.or s.lengthRule

/-- What is wrong with a scalar, told of a field of it. -/
def PropertyFault.ofScalar : DeclarationFault → PropertyFault
  | .ruleUnsuited kind rule q => .ruleUnsuited kind rule q
  | .lengthUnsuited q => .lengthUnsuited q
  | .defaultNotValid j q => .defaultNotValid j q
  | .defaultRejected j e => .defaultRejected j e
  | fault => .other fault.phrase

namespace Scalar

variable {s : Scalar} {p : Property}

theorem refinedBy_of_plain (hd : p.default = none) (hr : p.rule = none)
    (hl : p.lengthRule = none) : s.refinedBy p = s := by
  simp [refinedBy, hd, hr, hl]

end Scalar

namespace Property

variable {p : Property} {s : Scalar} {v : ValidationSettings}

/-- A single value fails for what the rule has against it, and failing that for what the length
rule has. -/
theorem checkOne_eq (p : Property) (j : Json) : p.checkOne j
    = Rule.outcome ((p.rule.bind (·.fault? j)).or (p.lengthRule.bind (·.fault? j))) p.name j := by
  unfold checkOne
  cases p.rule with
  | none => cases p.lengthRule <;> rfl
  | some r =>
    cases hf : r.fault? j with
    | some e => simp [Rule.check, hf, Rule.outcome, bind, Except.bind]
    | none =>
      cases p.lengthRule with
      | none => simp [Rule.check, hf, Rule.outcome, bind, Except.bind, pure, Except.pure]
      | some l => simp [Rule.check, LengthRule.check, hf, Rule.outcome, bind, Except.bind]

section

variable (hrule : p.rule = s.rule) (hlength : p.lengthRule = s.lengthRule)

include hrule hlength

theorem checkRules_eq : p.checkRules s.primitive = s.checkRules.mapError .ofScalar := by
  unfold checkRules Scalar.checkRules
  rw [hrule, hlength]
  generalize s.rule.filter (fun r => !r.suits s.primitive) = unsuited
  cases unsuited with
  | some r => rfl
  | none =>
    cases s.lengthRule with
    | none => rfl
    | some l =>
      by_cases hq : s.primitive = .string
      · simp [hq, Except.mapError]
      · simp [hq, Except.mapError, PropertyFault.ofScalar]

variable (hdefault : p.default = s.default) (h : p.isArray = false)

include hdefault h

/-- Only of an array is more asked than of the scalar. -/
theorem checkDefault_eq : p.checkDefault s.primitive = s.checkDefault.mapError .ofScalar := by
  unfold checkDefault Scalar.checkDefault
  rw [hdefault]
  cases s.default with
  | none => rfl
  | some j =>
    have hone : p.checkOne j = Rule.outcome (s.fault? j) p.name j := by
      rw [checkOne_eq, hrule, hlength, Scalar.fault?]
    simp only [hone, h, Bool.false_eq_true, if_false]
    by_cases hrep : s.primitive.represents j = true
    · rw [if_pos hrep, if_pos hrep]
      cases s.fault? j <;> rfl
    · rw [if_neg hrep, if_neg hrep]
      rfl

/-- A field with the attributes of a scalar is checked as the scalar is. -/
theorem checkPrimitive_eq :
    p.checkPrimitive s.primitive v = (s.check v).mapError .ofScalar := by
  unfold checkPrimitive Scalar.check
  rw [checkRules_eq hrule hlength, checkDefault_eq hrule hlength hdefault h]
  cases v.checkRules <;> cases v.checkDefaults <;> cases s.checkRules <;> rfl

end

variable {scope : Scope} {t : TypeName} {d : Declaration}

/-- Where a field is typed by a scalar, its check is that of the scalar with what the field
declares, and tells the same faults. -/
theorem check_eq_refinedBy (ht : p.type = .object t) (hd : scope.resolve t = .ok d)
    (hs : d.scalar? = some s) (h : p.isArray = false) :
    p.check scope v = ((s.refinedBy p).check v).mapError fun fault =>
      .illegalProperty p.name (some scope.owner) (.ofScalar fault) := by
  have hprimitive : (p.typedBy s).checkPrimitive s.primitive v
      = ((s.refinedBy p).check v).mapError .ofScalar := by
    refine checkPrimitive_eq (s := s.refinedBy p) rfl rfl ?_ h
    simp [typedBy, Scalar.refinedBy, h]
  simp only [check, ht, target, hd, Except.mapError, bind, Except.bind, hs, hprimitive]
  cases (s.refinedBy p).check v <;> rfl

/-- A single field typed by a scalar passes its check just where the scalar would with the field's
default and rules in the place of its own. One that declares none passes where the scalar does. -/
theorem field_passes_iff (ht : p.type = .object t) (hd : scope.resolve t = .ok d)
    (hs : d.scalar? = some s) (h : p.isArray = false) :
    (p.check scope v = .ok () ↔ (s.refinedBy p).check v = .ok ()) ∧
      (p.default = none → p.rule = none → p.lengthRule = none →
        (p.check scope v = .ok () ↔ s.check v = .ok ())) := by
  have hiff : p.check scope v = .ok () ↔ (s.refinedBy p).check v = .ok () := by
    rw [check_eq_refinedBy ht hd hs h, mapError_ok_iff]
  refine ⟨hiff, fun hdefault hrule hlength => ?_⟩
  rw [hiff, Scalar.refinedBy_of_plain hdefault hrule hlength]

/-- The kitten's name has a rule of its own, which the scalar's default meets. The pet's name has
all from the scalar. -/
theorem field_passes_kitten : ∃ scope, Sample.pound.scope Sample.kitten = .ok scope ∧
    Sample.kittenName.check scope .standard = .ok () ∧
      Sample.petName.check scope .standard = .ok () := by
  refine ⟨_, rfl, ?_, ?_⟩
  · exact (field_passes_iff (d := Sample.nameScalar) rfl rfl rfl rfl).1.mpr (by cbv)
  · exact ((field_passes_iff (d := Sample.nameScalar) rfl rfl rfl rfl).2 rfl rfl rfl).mpr (by cbv)

end Property

end ModelCatalog
