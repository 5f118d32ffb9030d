import Mathlib.Tactic.MkIffOfInductiveProp
import ModelCatalog.Proofs.Success
import ModelCatalog.Proofs.Timestamp
import ModelCatalog.Scope

/-! # Rules and defaults that fit

What the checks of scalars and properties ask for, said without the order in which they ask. A
scalar and a field of its primitive are asked for the same, save that an array has no default.
-/
namespace ModelCatalog

/-- The values of each primitive. Only what is written as an integer is a whole number. -/
inductive Primitive.Represents : Primitive → Json → Prop
  | string {s : String} : Represents .string (.string s)
  | boolean {b : Bool} : Represents .boolean (.bool b)
  | dateTime {s : String} (hs : Text.Timestamp.NamesInstant s) : Represents .dateTime (.string s)
  | double {n : Number} : Represents .double (.number n)
  | integer {i : Int} (hleast : -(Nat.pow 2 31 : Int) ≤ i) (hgreatest : i < Nat.pow 2 31) :
    Represents .integer (.number (.integer i))
  | long {i : Int} (hleast : -(Nat.pow 2 63 : Int) ≤ i) (hgreatest : i < Nat.pow 2 63) :
    Represents .long (.number (.integer i))

/-- One of the bounds that the range has. -/
def RangeRule.Bounds (r : RangeRule) (b : Binary64) : Prop := b ∈ r.lower ∨ b ∈ r.upper

/-- Each bound is a whole number. -/
def RangeRule.WholeBounds (r : RangeRule) : Prop :=
  ∀ b, r.Bounds b → ∃ i : Int, b.units = i * Binary64.unitsPerOne

/-- The rules for the values of each primitive. -/
inductive Rule.Suits : Rule → Primitive → Prop
  | pattern {r : PatternRule} : Suits (.pattern r) .string
  | length {r : LengthRule} : Suits (.length r) .string
  | double {r : RangeRule} : Suits (.range r) .double
  | integer {r : RangeRule} (hr : r.WholeBounds) : Suits (.range r) .integer
  | long {r : RangeRule} (hr : r.WholeBounds) : Suits (.range r) .long

/-- Rules for values of the primitive. -/
structure RulesSuit (q : Primitive) (rule : Option Rule) (lengthRule : Option LengthRule) :
    Prop where
  rule : ∀ r ∈ rule, r.Suits q
  lengthRule : ∀ r ∈ lengthRule, (Rule.length r).Suits q

/-- The rules have nothing against the value. -/
@[mk_iff] structure Allows (rule : Option Rule) (lengthRule : Option LengthRule) (j : Json) :
    Prop where
  rule : ∀ r ∈ rule, r.fault? j = none
  lengthRule : ∀ r ∈ lengthRule, r.fault? j = none

/-- A value of the primitive that the rules allow. -/
structure Legal (q : Primitive) (rule : Option Rule) (lengthRule : Option LengthRule) (j : Json) :
    Prop where
  represented : q.Represents j
  allowed : Allows rule lengthRule j

@[mk_iff] structure Scalar.Fits (v : ValidationSettings) (s : Scalar) : Prop where
  rules : v.checkRules = true → RulesSuit s.primitive s.rule s.lengthRule
  default : v.checkDefaults = true → ∀ j ∈ s.default, Legal s.primitive s.rule s.lengthRule j

namespace Property

/-- A field of a primitive, as written or unboxed. -/
@[mk_iff] structure Fits (v : ValidationSettings) (q : Primitive) (p : Property) : Prop where
  rules : v.checkRules = true → RulesSuit q p.rule p.lengthRule
  default : v.checkDefaults = true →
    ∀ j ∈ p.default, p.isArray = false ∧ Legal q p.rule p.lengthRule j

/-- A field typed by a class or an enumeration: it has no rules, and no default other than a value
of the enumeration. -/
@[mk_iff] structure FitsNamed (v : ValidationSettings) (target : Declaration) (p : Property) :
    Prop where
  rules : v.checkRules = true → p.rule = none ∧ p.lengthRule = none
  default : v.checkDefaults = true →
    ∀ j ∈ p.default, target.isEnum = true ∧ ∃ value ∈ target.properties, j = .string value.name

/-- A field typed by a declaration; one typed by a scalar counts as a field of its primitive. -/
structure FitsObject (v : ValidationSettings) (target : Declaration) (p : Property) : Prop where
  scalar : ∀ s ∈ target.scalar?, (p.typedBy s).Fits v s.primitive
  named : target.scalar? = none → p.FitsNamed v target

/-- A relationship, whatever the settings. -/
@[mk_iff] structure FitsRelationship (target : Declaration) (p : Property) : Prop where
  target : target.isClass = true
  default : p.default = none
  rules : p.rule = none ∧ p.lengthRule = none

end Property

/-! ## Values and rules of primitives -/

theorem Width.holdsSigned_iff {bits : Nat} {i : Int} :
    holdsSigned bits i = true ↔
      -(Nat.pow 2 (bits - 1) : Int) ≤ i ∧ i < Nat.pow 2 (bits - 1) := by
  rw [holdsSigned, Bool.and_eq_true, decide_eq_true_eq, decide_eq_true_eq, size]

theorem Primitive.represents_iff {q : Primitive} {j : Json} :
    q.represents j = true ↔ q.Represents j := by
  constructor
  · intro h
    unfold represents at h
    split at h
    next => exact .string
    next => exact .boolean
    next => exact .double
    next =>
      obtain ⟨hleast, hgreatest⟩ := Width.holdsSigned_iff.mp h
      exact .long hleast hgreatest
    next =>
      obtain ⟨hleast, hgreatest⟩ := Width.holdsSigned_iff.mp h
      exact .integer hleast hgreatest
    next => exact .dateTime (Text.isTimestamp_iff.mp h)
    next => cases h
  · intro h
    cases h with
    | string | boolean | double => rfl
    | dateTime hs => exact Text.isTimestamp_iff.mpr hs
    | integer hleast hgreatest => exact Width.holdsSigned_iff.mpr ⟨hleast, hgreatest⟩
    | long hleast hgreatest => exact Width.holdsSigned_iff.mpr ⟨hleast, hgreatest⟩

instance (q : Primitive) (j : Json) : Decidable (q.Represents j) :=
  decidable_of_iff _ Primitive.represents_iff

/-- Whole numbers have 32 or 64 bits, and what is written as a fraction is none. -/
example : ¬ Primitive.Represents .integer (.number (.integer 3000000000)) ∧
    Primitive.Represents .long (.number (.integer 3000000000)) ∧
    ¬ Primitive.Represents .long (.number (.float (.zero false))) := by decide

theorem Binary64.isWhole_iff {x : Binary64} :
    x.isWhole = true ↔ ∃ i : Int, x.units = i * unitsPerOne := by
  rw [isWhole, decide_eq_true_eq, ← Int.dvd_iff_emod_eq_zero, Int.dvd_def]
  simp only [Int.mul_comm]

theorem RangeRule.hasWholeBounds_iff {r : RangeRule} :
    r.hasWholeBounds = true ↔ r.WholeBounds := by
  simp only [hasWholeBounds, Bool.and_eq_true, Option.all_eq_true, Binary64.isWhole_iff,
    WholeBounds, Bounds, or_imp, forall_and, Option.mem_def]

theorem Rule.suits_iff {r : Rule} {q : Primitive} : r.suits q = true ↔ r.Suits q := by
  constructor
  · intro h
    cases r with
    | pattern r =>
      obtain rfl : q = .string := beq_iff_eq.mp h
      exact .pattern
    | length r =>
      obtain rfl : q = .string := beq_iff_eq.mp h
      exact .length
    | range r =>
      cases q with
      | double => exact .double
      | integer => exact .integer (RangeRule.hasWholeBounds_iff.mp h)
      | long => exact .long (RangeRule.hasWholeBounds_iff.mp h)
      | _ => cases h
  · intro h
    cases h with
    | pattern | length | double => rfl
    | integer hr | long hr => exact RangeRule.hasWholeBounds_iff.mpr hr

/-! ## Rules -/

theorem Rule.outcome_ok_iff {e : Option Expectation} {identifier : String} {j : Json} :
    outcome e identifier j = .ok () ↔ e = none := by
  cases e <;> simp [outcome]

theorem Rule.outcome_error_iff {e : Option Expectation} {identifier : String} {j : Json}
    {failure : Failure} : outcome e identifier j = .error failure ↔
      ∃ expected, e = some expected ∧ failure = ⟨identifier, j, expected⟩ := by
  cases e with
  | none => simp [outcome]
  | some expected => simp [outcome, eq_comm]

theorem rulesSuit_iff_filter {q : Primitive} {rule : Option Rule} {lengthRule : Option LengthRule} :
    RulesSuit q rule lengthRule ↔
      rule.filter (fun r => !r.suits q) = none ∧ (lengthRule ≠ none → q = .string) := by
  rw [Option.filter_eq_none_iff]
  constructor
  · rintro ⟨hr, hl⟩
    refine ⟨fun r h => by simp [Rule.suits_iff.mpr (hr r h)], fun h => ?_⟩
    obtain ⟨r, h⟩ := Option.ne_none_iff_exists'.mp h
    cases hl r h
    rfl
  · rintro ⟨hr, hl⟩
    refine ⟨fun r h => Rule.suits_iff.mp (by simpa using hr r h), fun r h => ?_⟩
    obtain rfl := hl (Option.ne_none_iff_exists'.mpr ⟨r, h⟩)
    exact .length

/-! ## Scalars -/

namespace Scalar

variable {s : Scalar} {v : ValidationSettings}

theorem checkRules_ok_iff :
    s.checkRules = .ok () ↔ RulesSuit s.primitive s.rule s.lengthRule := by
  rw [rulesSuit_iff_filter]
  unfold checkRules
  split <;> simp_all

theorem fault?_eq_none_iff {j : Json} :
    s.fault? j = none ↔ Allows s.rule s.lengthRule j := by
  simp only [fault?, Option.or_eq_none_iff, Option.bind_eq_none_iff, allows_iff, Option.mem_def]

theorem checkDefault_ok_iff :
    s.checkDefault = .ok () ↔ ∀ j ∈ s.default, Legal s.primitive s.rule s.lengthRule j := by
  unfold checkDefault
  cases s.default with
  | none => simp
  | some j =>
    simp only [Option.mem_def, Option.some.injEq, forall_eq']
    constructor
    · intro h
      split at h
      · next hr =>
        split at h
        · cases h
        · next hf => exact ⟨Primitive.represents_iff.mp hr, fault?_eq_none_iff.mp hf⟩
      · cases h
    · rintro ⟨hr, ha⟩
      simp [Primitive.represents_iff.mpr hr, fault?_eq_none_iff.mpr ha]

theorem check_ok_iff : s.check v = .ok () ↔ s.Fits v := by
  simp only [check, asked_bind_ok_iff, asked_ok_iff, checkRules_ok_iff, checkDefault_ok_iff,
    fits_iff]

end Scalar

/-! ## Properties -/

namespace Property

variable {p : Property} {v : ValidationSettings}

theorem checkOne_ok_iff {j : Json} : p.checkOne j = .ok () ↔ Allows p.rule p.lengthRule j := by
  have hiff : p.checkOne j = .ok () ↔
      (∀ r ∈ p.rule, r.check p.name j = .ok ()) ∧
        ∀ r ∈ p.lengthRule, r.check p.name j = .ok () := by
    unfold checkOne
    cases p.rule <;> cases p.lengthRule <;> simp [check_bind_ok_iff, pure_ok_iff]
  rw [hiff]
  simp only [Rule.check, LengthRule.check, Rule.outcome_ok_iff, allows_iff]

theorem checkRules_ok_iff {q : Primitive} :
    p.checkRules q = .ok () ↔ RulesSuit q p.rule p.lengthRule := by
  rw [rulesSuit_iff_filter]
  unfold checkRules
  split <;> simp_all

theorem checkDefault_ok_iff {q : Primitive} :
    p.checkDefault q = .ok () ↔
      ∀ j ∈ p.default, p.isArray = false ∧ Legal q p.rule p.lengthRule j := by
  unfold checkDefault
  cases p.default with
  | none => simp
  | some j =>
    simp only [Option.mem_def, Option.some.injEq, forall_eq']
    constructor
    · intro h
      obtain ⟨ha, h⟩ := guard_ok_iff.mp h
      split at h
      · next hr =>
        split at h
        · cases h
        · next hf =>
          exact ⟨by simpa using ha, Primitive.represents_iff.mp hr, checkOne_ok_iff.mp hf⟩
      · cases h
    · rintro ⟨ha, hr, hf⟩
      simp [ha, Primitive.represents_iff.mpr hr, checkOne_ok_iff.mpr hf]

theorem checkPrimitive_ok_iff {q : Primitive} : p.checkPrimitive q v = .ok () ↔ p.Fits v q := by
  simp only [checkPrimitive, asked_bind_ok_iff, asked_ok_iff, checkRules_ok_iff,
    checkDefault_ok_iff, fits_iff]

theorem hasRules_eq_false_iff : p.hasRules = false ↔ p.rule = none ∧ p.lengthRule = none := by
  simp [hasRules]

theorem checkRelationship_ok_iff {target : Declaration} :
    p.checkRelationship target = .ok () ↔ p.FitsRelationship target := by
  simp only [checkRelationship, guard_ok_iff, Bool.not_eq_true', Bool.not_eq_false,
    Bool.not_eq_true, Option.isSome_eq_false_iff, Option.isNone_iff_eq_none,
    hasRules_eq_false_iff, and_true, fitsRelationship_iff]

theorem string?_bind_property?_isSome_iff {target : Declaration} {j : Json} :
    (j.string?.bind target.property?).isSome = true ↔
      ∃ value ∈ target.properties, j = .string value.name := by
  cases j with
  | string s => simp [Json.string?, Declaration.property?, @eq_comm _ s]
  | _ => simp [Json.string?]

theorem checkNamedDefault_ok_iff {target : Declaration} :
    p.checkNamedDefault target = .ok () ↔
      ∀ j ∈ p.default, target.isEnum = true ∧
        ∃ value ∈ target.properties, j = .string value.name := by
  unfold checkNamedDefault
  cases p.default with
  | none => simp
  | some j =>
    simp only [guard_ok_iff, Option.mem_def, Option.some.injEq, forall_eq',
      ← string?_bind_property?_isSome_iff, Bool.not_eq_true', Bool.not_eq_false]
    split <;> simp_all

theorem checkNamed_ok_iff {target : Declaration} :
    p.checkNamed target v = .ok () ↔ p.FitsNamed v target := by
  simp only [checkNamed, asked_bind_ok_iff, asked_ok_iff, checkNamedDefault_ok_iff,
    Bool.and_eq_true, reduceCtorEq, imp_false, not_and, Bool.not_eq_true, hasRules_eq_false_iff,
    fitsNamed_iff]

/-! ## Properties where they stand -/

variable {s : Scope}

theorem check_primitive_ok_iff {q : Primitive} (h : p.type = .primitive q) :
    p.check s v = .ok () ↔ p.Fits v q := by
  simp only [check, h, mapError_ok_iff, checkPrimitive_ok_iff]

theorem check_relationship_ok_iff {t : TypeName} (h : p.type = .relationship t) :
    p.check s v = .ok () ↔ ∃ e, s.resolve t = .ok e ∧ p.FitsRelationship e := by
  simp only [check, h, bind_ok_iff, target, mapError_ok_iff, checkRelationship_ok_iff]

theorem check_object_ok_iff {t : TypeName} (h : p.type = .object t) :
    p.check s v = .ok () ↔ ∃ e, s.resolve t = .ok e ∧ p.FitsObject v e := by
  simp only [check, h, bind_ok_iff, target, mapError_ok_iff]
  refine exists_congr fun e => and_congr_right fun _ => ?_
  cases he : e.scalar? with
  | none =>
    simp only [mapError_ok_iff, checkNamed_ok_iff]
    exact ⟨fun h => ⟨by simp [he], fun _ => h⟩, fun h => h.named he⟩
  | some scalar =>
    simp only [mapError_ok_iff, checkPrimitive_ok_iff]
    refine ⟨fun h => ⟨fun sc hs => ?_, by simp [he]⟩, fun h => h.scalar scalar he⟩
    obtain rfl := Option.some.inj (he.symm.trans hs)
    exact h

theorem resolve_of_check {t : TypeName} (h : p.type.named? = some t) (hp : p.check s v = .ok ()) :
    ∃ e, s.resolve t = .ok e := by
  cases ht : p.type with
  | object u =>
    obtain rfl : u = t := by simpa [ht, PropertyType.named?] using h
    obtain ⟨e, he, -⟩ := (check_object_ok_iff ht).mp hp
    exact ⟨e, he⟩
  | relationship u =>
    obtain rfl : u = t := by simpa [ht, PropertyType.named?] using h
    obtain ⟨e, he, -⟩ := (check_relationship_ok_iff ht).mp hp
    exact ⟨e, he⟩
  | _ => simp [ht, PropertyType.named?] at h

theorem check_enumValue (h : p.type = .enumValue) : p.check s v = .ok () := by
  simp only [check, h]

end Property

end ModelCatalog
