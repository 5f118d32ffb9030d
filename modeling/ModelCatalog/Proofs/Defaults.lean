import ModelCatalog.Proofs.Behaviour

/-! # Defaults

Where settings ask for defaults and rules to be checked, a default is a value of the property that
has it. The default may come from the property or from a scalar and meets rules from either, and the
class that shows it need not be the one that was checked for it.
-/
namespace ModelCatalog

namespace Property

variable {s : ValidationSettings} {p : Property} {v : Json}

/-- A default of a primitive field is one value, and the field accepts it. -/
theorem Fits.accepts_default {q : Primitive} (h : p.Fits s q) (hs : s.checkDefaults = true)
    (hv : v ∈ p.default) : q.Represents v ∧ p.checkValue v = .ok () := by
  obtain ⟨hsingle, hrep, hallow⟩ := h.default hs v hv
  refine ⟨hrep, checkValue_ok_iff.mpr ?_⟩
  intro part hpart
  rw [parts_of_single hsingle, List.mem_singleton] at hpart
  exact hpart ▸ hallow

/-- A field typed by a class or an enumeration has nothing against any value. -/
theorem FitsNamed.accepts {target : Declaration} (h : p.FitsNamed s target)
    (hs : s.checkRules = true) (v : Json) : p.checkValue v = .ok () := by
  obtain ⟨hrule, hlength⟩ := h.rules hs
  refine checkValue_ok_iff.mpr fun part _ => ⟨?_, ?_⟩
  · simp [hrule]
  · simp [hlength]

end Property

namespace Catalog

/-- A default that is a value of the property that has it. -/
structure LegalDefault (c : Catalog) (m : LinkedModel) (d : Declaration) (lp : LinkedProperty)
    (v : Json) : Prop where
  accepted : lp.property.checkValue v = .ok ()
  /-- It is not a relationship. -/
  field : lp.property.kind = .field
  primitive : ∀ q, lp.property.type = .primitive q → q.Represents v
  /-- What is not of a primitive is typed by a declaration. -/
  typed : ∀ t, lp.property.type = .object t → ∃ e, c.TypedBy d lp e ∧
    (c.Dotless → ∃ id, lp.type = some (.declaration id) ∧ m.Denotes id e)
  /-- That declaration is no class. -/
  enumeration : ∀ e, c.TypedBy d lp e → e.isEnum = true ∧
    ∃ value ∈ e.properties, v = .string value.name

variable {c : Catalog} {m : LinkedModel} {d : LinkedDeclaration} {lp : LinkedProperty} {v : Json}

/-- A property of a primitive is typed by no declaration. -/
theorem not_typedBy_of_primitive {d e : Declaration} {q : Primitive}
    (h : lp.property.type = .primitive q) : ¬ c.TypedBy d lp e := by
  rintro ⟨owner, p, t, -, ht, -⟩
  simp [h, PropertyType.named?] at ht

theorem legalDefault_of_mem (hr : c.Reachable) (h : c.link = .ok m)
    (hdefaults : c.settings.validation.checkDefaults = true)
    (hrules : c.settings.validation.checkRules = true) (hd : d ∈ m.declarations)
    (hlp : lp ∈ d.properties) (hv : v ∈ lp.property.default) :
    c.LegalDefault m d.declaration lp v := by
  obtain ⟨owner, p, hm, hsuited⟩ := exists_suited_of_mem hr h hd hlp
  cases hsuited with
  | primitive ht hfits =>
    obtain ⟨hrep, haccepted⟩ := hfits.accepts_default hdefaults hv
    refine ⟨haccepted, by rw [Property.kind, ht]; rfl, ?_, by simp [ht], ?_⟩
    · intro q hq
      obtain rfl := PropertyType.primitive.inj (ht.symm.trans hq)
      exact hrep
    · intro e he
      exact absurd he (not_typedBy_of_primitive ht)
  | @object t e ht href hfits =>
    have htyped : c.TypedBy d.declaration lp e := ⟨owner, p, t, hm, by rw [ht]; rfl, href⟩
    refine ⟨hfits.accepts hrules v, by rw [Property.kind, ht]; rfl, by simp [ht], ?_, ?_⟩
    · intro _ _
      exact ⟨e, htyped, htyped.denotes hr h hd hlp⟩
    · intro e' he'
      obtain rfl := htyped.unique he'
      exact hfits.default hdefaults v hv
  | relationship ht href hfits _ => simp [hfits.default] at hv
  | enumValue ht hbare => simp [hbare.default] at hv

/-- In a linked model every default is accepted by the property that shows it. It is of the
primitive that the property is of, or names a value of the enumeration that the property is typed
by, and nothing else has one. The default of a scalar is of its primitive and meets its rules. -/
theorem default_legal (hr : c.Reachable) (h : c.link = .ok m)
    (hdefaults : c.settings.validation.checkDefaults = true)
    (hrules : c.settings.validation.checkRules = true) :
    (∀ d ∈ m.declarations, ∀ lp ∈ d.properties, ∀ v ∈ lp.property.default,
      c.LegalDefault m d.declaration lp v) ∧
    ∀ d ∈ c.declarations, ∀ s ∈ d.scalar?, ∀ v ∈ s.default,
      Legal s.primitive s.rule s.lengthRule v := by
  constructor
  · intro d hd lp hlp v hv
    exact legalDefault_of_mem hr h hdefaults hrules hd hlp hv
  · intro d hd s hs
    have hfits := (wellFormed_of_check hr.coherent (check_of_link h)).scalars d hd s hs
    exact hfits.default hdefaults

/-- The kitten's name has its default from the scalar and a rule of its own. -/
theorem default_legal_kitten : ∃ m d lp, Sample.pound.link = .ok m ∧ d ∈ m.declarations ∧
    d.declaration = Sample.kitten ∧ lp ∈ d.properties ∧
      lp.property = Sample.kittenName.typedBy Sample.anyName ∧
        Sample.pound.LegalDefault m d.declaration lp (.string "Rex") := by
  obtain ⟨m, d, lp, hm, hd, he, hlp, -, hproperty⟩ := Sample.exists_kitten
  have hv : lp.property.default = some (.string "Rex") := by rw [hproperty]; rfl
  have hlegal := (default_legal Sample.pound_reachable hm rfl rfl).1 d hd lp hlp _ hv
  exact ⟨m, d, lp, hm, hd, he, hlp, hproperty, hlegal⟩

end Catalog

end ModelCatalog
