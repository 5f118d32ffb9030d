import ModelCatalog.Proofs.Unboxing

/-! # What unboxed fields do

A field of a scalar takes over what it does not declare itself: the rule, the length rule and,
unless it is an array, the default, each on its own. What it then does with a value is told here
from the field and the scalar as they are declared. Each part of the value is looked at in turn, and
the first that one of the rules in force is against is the one that is told of.
-/
namespace ModelCatalog

section

variable {α : Type} {own adopted : Option α} {a : α}

/-- Of what is declared and what is there to be adopted, what counts. -/
inductive InForce (own adopted : Option α) : α → Prop
  | own {a : α} : own = some a → InForce own adopted a
  | adopted {a : α} : own = none → adopted = some a → InForce own adopted a

theorem inForce_iff : InForce own adopted a ↔ own.or adopted = some a := by
  rw [Option.or_eq_some_iff]
  constructor
  · rintro (h | ⟨hnone, h⟩)
    · exact .inl h
    · exact .inr ⟨hnone, h⟩
  · rintro (h | ⟨hnone, h⟩)
    · exact .own h
    · exact .adopted hnone h

end

namespace Property

/-- No rule in force has anything against the value. -/
structure Passes (p : Property) (s : Scalar) (j : Json) : Prop where
  rule : ∀ r, InForce p.rule s.rule r → r.fault? j = none
  lengthRule : ∀ r, InForce p.lengthRule s.lengthRule r → r.fault? j = none

/-- What there is against the value. The length rule has its say only where the rule has none. -/
inductive Rejects (p : Property) (s : Scalar) (j : Json) : Expectation → Prop
  | rule {r : Rule} {e : Expectation} : InForce p.rule s.rule r → r.fault? j = some e →
    Rejects p s j e
  | lengthRule {r : LengthRule} {e : Expectation} :
    (∀ r, InForce p.rule s.rule r → r.fault? j = none) → InForce p.lengthRule s.lengthRule r →
    r.fault? j = some e → Rejects p s j e

/-- What a field of a scalar is unboxed to. -/
structure Unboxed (p : Property) (s : Scalar) (e : Property) : Prop where
  kind : e.kind = p.kind
  name : e.name = p.name
  array : e.isArray = p.isArray
  optional : e.isOptional = p.isOptional
  type : e.type = .primitive s.primitive
  default : ∀ j, e.default = some j ↔
    p.default = some j ∨ p.default = none ∧ p.isArray = false ∧ s.default = some j
  /-- Unboxing changes nothing any more. -/
  stays : ∀ d, e.unbox d = .ok e
  accepts : ∀ j, e.checkValue j = .ok () ↔ ∀ part ∈ p.parts j, p.Passes s part
  rejects : ∀ j failure, e.checkValue j = .error failure ↔
    ∃ before part after expected, p.parts j = before ++ part :: after ∧
      (∀ earlier ∈ before, p.Passes s earlier) ∧ p.Rejects s part expected ∧
      failure = ⟨p.name, part, expected⟩

variable {p : Property} {s : Scalar} {j : Json}

/-! ## Single values -/

theorem passes_iff :
    p.Passes s j ↔ Allows (p.rule.or s.rule) (p.lengthRule.or s.lengthRule) j := by
  constructor
  · rintro ⟨hrule, hlength⟩
    exact ⟨fun r hr => hrule r (inForce_iff.mpr hr), fun r hr => hlength r (inForce_iff.mpr hr)⟩
  · rintro ⟨hrule, hlength⟩
    exact ⟨fun r hr => hrule r (inForce_iff.mp hr), fun r hr => hlength r (inForce_iff.mp hr)⟩

theorem rejects_iff {e : Expectation} :
    p.Rejects s j e ↔ ((p.rule.or s.rule).bind (·.fault? j)).or
      ((p.lengthRule.or s.lengthRule).bind (·.fault? j)) = some e := by
  rw [Option.or_eq_some_iff, Option.bind_eq_some_iff, Option.bind_eq_none_iff,
    Option.bind_eq_some_iff]
  constructor
  · rintro (⟨hr, he⟩ | ⟨hclear, hr, he⟩)
    · exact .inl ⟨_, inForce_iff.mp hr, he⟩
    · exact .inr ⟨fun r hr => hclear r (inForce_iff.mpr hr), _, inForce_iff.mp hr, he⟩
  · rintro (⟨r, hr, he⟩ | ⟨hclear, r, hr, he⟩)
    · exact .rule (inForce_iff.mpr hr) he
    · exact .lengthRule (fun r hr => hclear r (inForce_iff.mp hr)) (inForce_iff.mpr hr) he

theorem checkOne_typedBy_ok_iff : (p.typedBy s).checkOne j = .ok () ↔ p.Passes s j := by
  rw [checkOne_ok_iff, passes_iff]
  rfl

theorem checkOne_typedBy_error_iff {failure : Failure} :
    (p.typedBy s).checkOne j = .error failure ↔
      ∃ expected, p.Rejects s j expected ∧ failure = ⟨p.name, j, expected⟩ := by
  simp only [checkOne_eq, rejects_iff, Rule.outcome_error_iff]
  rfl

/-! ## Values -/

theorem checkValue_typedBy_ok_iff :
    (p.typedBy s).checkValue j = .ok () ↔ ∀ part ∈ p.parts j, p.Passes s part := by
  rw [checkValue_eq_forM, forM_ok_iff]
  exact forall₂_congr fun _ _ => checkOne_typedBy_ok_iff

theorem checkValue_typedBy_error_iff {failure : Failure} :
    (p.typedBy s).checkValue j = .error failure ↔
      ∃ before part after expected, p.parts j = before ++ part :: after ∧
        (∀ earlier ∈ before, p.Passes s earlier) ∧ p.Rejects s part expected ∧
        failure = ⟨p.name, part, expected⟩ := by
  rw [checkValue_eq_forM, forM_error_iff]
  simp only [checkOne_typedBy_ok_iff, checkOne_typedBy_error_iff]
  constructor
  · rintro ⟨before, part, after, hparts, hbefore, expected, hpart⟩
    exact ⟨before, part, after, expected, hparts, hbefore, hpart⟩
  · rintro ⟨before, part, after, expected, hparts, hbefore, hpart⟩
    exact ⟨before, part, after, hparts, hbefore, expected, hpart⟩

/-! ## Unboxing -/

theorem default_typedBy_eq_some_iff : (p.typedBy s).default = some j ↔
    p.default = some j ∨ p.default = none ∧ p.isArray = false ∧ s.default = some j := by
  unfold typedBy
  rw [Option.or_eq_some_iff]
  cases p.isArray with
  | false => simp
  | true => simp

/-- A field typed by a name is unboxed by every scalar. What it then is, keeps, takes over and does
with values follows from what the two of them declare. -/
theorem unbox_spec {t : TypeName} {d : Declaration} (ht : p.type = .object t)
    (hs : d.scalar? = some s) : ∃ e, p.unbox d = .ok e ∧ p.Unboxed s e := by
  refine ⟨p.typedBy s, ?_, ?_⟩
  · unfold unbox
    rw [ht, hs]
  · exact {
      kind := by rw [kind, kind, ht]; rfl
      name := rfl
      array := rfl
      optional := rfl
      type := rfl
      default := fun _ => default_typedBy_eq_some_iff
      stays := fun _ => rfl
      accepts := fun _ => checkValue_typedBy_ok_iff
      rejects := fun _ _ => checkValue_typedBy_error_iff }

/-- The array takes over no default. Its second name is too short, which is told before its third is
looked at. -/
theorem unbox_spec_names : ∃ e,
    { Sample.kittenName with isArray := true }.unbox Sample.nameScalar = .ok e ∧
      e.default = none ∧ e.checkValue (.array [.string "Rex", .string "X", .null])
        = .error ⟨"name", .string "X", .minimumLength 2⟩ := by
  obtain ⟨e, he, hunboxed⟩ := unbox_spec (p := { Sample.kittenName with isArray := true })
    (s := Sample.anyName) (d := Sample.nameScalar) rfl rfl
  refine ⟨e, he, ?_, ?_⟩
  · rw [Option.eq_none_iff_forall_ne_some]
    intro j hj
    rcases (hunboxed.default j).mp hj with hown | ⟨-, harray, -⟩
    · cases hown
    · cases harray
  · refine (hunboxed.rejects _ _).mpr
      ⟨[.string "Rex"], .string "X", [.null], .minimumLength 2, rfl, ?_, ?_, rfl⟩
    · intro earlier he
      obtain rfl := List.mem_singleton.mp he
      refine passes_iff.mpr ⟨nofun, ?_⟩
      rintro _ ⟨⟩
      rfl
    · exact rejects_iff.mpr rfl

end Property

end ModelCatalog
