import ModelCatalog.Proofs.Behaviour

/-! # Identification

The field that a class is identified by is checked on that class alone. Those below may declare it
again, though only in agreement with what is above, so that it identifies their instances as well.
What a relationship refers to is identified wherever the relationship is inherited.
-/
namespace ModelCatalog

/-- A field that instances can be identified by: one required text. -/
structure LinkedProperty.IsKey (lp : LinkedProperty) : Prop where
  field : lp.property.kind = .field
  primitive : lp.property.type = .primitive .string
  type : lp.type = some (.primitive .string)
  required : lp.property.isOptional = false
  single : lp.property.isArray = false

namespace Catalog

variable {c : Catalog} {m : LinkedModel} {d : LinkedDeclaration} {lp : LinkedProperty}
  {owner : Declaration} {p : Property}

/-- What a property written as a required text, or unboxed to one, is linked to. -/
theorem isKey_of_linkProperty (hc : c.Coherent) (htyped : c.TypedAs owner p Primitive.string.name)
    (hrequired : p.isOptional = false) (hsingle : p.isArray = false)
    (hl : c.linkProperty (owner, p) = .ok lp) : lp.IsKey := by
  obtain ⟨s, hs, he, -, htype, -⟩ := linkProperty_eq_ok hl
  obtain ⟨e, he', hprimitive⟩ := (typedAs_primitive_iff hc hs).mp htyped
  obtain rfl := Except.ok.inj (he.symm.trans he')
  have heffective := Property.effective_ok_iff.mp he
  refine ⟨?_, hprimitive, ?_, ?_, ?_⟩
  · rw [Property.kind, hprimitive]
    rfl
  · simp only [linkType, hprimitive, Except.ok.injEq] at htype
    exact htype.symm
  · rw [heffective.isOptional, hrequired]
  · rw [heffective.isArray, hsingle]

/-- Below the class that is identified by a field, every class has the field as a key. -/
theorem exists_key_of_identifier (hc : c.Coherent) (h : c.link = .ok m) (hd : d ∈ m.declarations)
    {a : Declaration} (hup : Relation.ReflTransGen c.Extends d.declaration a) {name : String}
    (hi : a.identifier? = some (.field name)) : ∃ lp, d.property? name = some lp ∧ lp.IsKey := by
  have hcheck := check_of_link h
  have ha := mem_of_reaches hc (linkDeclaration_of_mem h hd).1 hup
  obtain ⟨owner, p, hm, htyped, hrequired, hsingle⟩ :=
    (wellFormed_of_check hc hcheck).identifiers a ha name hi
  obtain ⟨lp, owner', p', hlp, hl, hconf⟩ := exists_conforming_of_member hc h hd hup hm
  have ho := mem_of_reaches hc ha hm.reaches
  refine ⟨lp, hlp, isKey_of_linkProperty hc ?_ ?_ (hconf.array.trans hsingle) hl⟩
  · obtain ⟨n, hn, hn'⟩ := hconf.type
    exact hn'.unique hc ho htyped ▸ hn
  · by_contra hoptional
    have hloose := hconf.optional (Bool.not_eq_false _ ▸ hoptional)
    simp [hrequired] at hloose

/-- A relationship is to an identified class, wherever it is inherited. -/
theorem exists_identified_of_relationship (hr : c.Reachable) (h : c.link = .ok m)
    (hreq : c.settings.resolution.requireIdentified = true) (hd : d ∈ m.declarations)
    (hlp : lp ∈ d.properties) (hkind : lp.property.kind = .relationship) :
    ∃ e, c.TypedBy d.declaration lp e ∧ e.isClass = true ∧ c.Identified e := by
  obtain ⟨owner, p, hm, hsuited⟩ := exists_suited_of_mem hr h hd hlp
  cases hsuited with
  | @relationship t e ht href hfits hidentified =>
    exact ⟨e, ⟨owner, p, t, hm, by rw [ht]; rfl, href⟩, hfits.target, hidentified hreq⟩
  | primitive ht _ => simp [Property.kind, ht, PropertyType.kind] at hkind
  | object ht _ _ => simp [Property.kind, ht, PropertyType.kind] at hkind
  | enumValue ht _ => simp [Property.kind, ht, PropertyType.kind] at hkind

/-- In a linked model, a field that a class or one above it is identified by is among the class's
properties, as one required text. Where settings ask for it, each of its relationships is to a
class that is identified, itself or from above; where no local name has a dot, that class is the one
that the relationship's number stands for. -/
theorem identification_sound (hr : c.Reachable) (h : c.link = .ok m) (hd : d ∈ m.declarations) :
    (∀ a, Relation.ReflTransGen c.Extends d.declaration a →
      ∀ name, a.identifier? = some (.field name) →
        ∃ lp, d.property? name = some lp ∧ lp.IsKey) ∧
    (c.settings.resolution.requireIdentified = true →
      ∀ lp ∈ d.properties, lp.property.kind = .relationship →
        ∃ e, c.TypedBy d.declaration lp e ∧ e.isClass = true ∧ c.Identified e ∧
          (c.Dotless → ∃ id, lp.type = some (.declaration id) ∧ m.Denotes id e)) := by
  constructor
  · intro a hup name hi
    exact exists_key_of_identifier hr.coherent h hd hup hi
  · intro hreq lp hlp hkind
    obtain ⟨e, htyped, hclass, hidentified⟩ :=
      exists_identified_of_relationship hr h hreq hd hlp hkind
    exact ⟨e, htyped, hclass, hidentified, htyped.denotes hr h hd hlp⟩

/-- A kitten is identified by the name that it declares again, and its mother is a pet. -/
theorem identification_sound_kitten : ∃ m d lp, Sample.pound.link = .ok m ∧ d ∈ m.declarations ∧
    d.declaration = Sample.kitten ∧ d.property? "name" = some lp ∧
      lp.property = Sample.kittenName.typedBy Sample.anyName ∧ lp.IsKey ∧
        ∀ lq ∈ d.properties, lq.property.kind = .relationship →
          ∃ e, Sample.pound.TypedBy d.declaration lq e ∧ Sample.pound.Identified e := by
  obtain ⟨m, d, lp, hm, hd, he, -, hlp, hproperty⟩ := Sample.exists_kitten
  obtain ⟨hkeys, htargets⟩ := identification_sound Sample.pound_reachable hm hd
  have hup : Relation.ReflTransGen Sample.pound.Extends d.declaration Sample.pet := by
    rw [he]
    exact .single Sample.kitten_extends
  obtain ⟨lp', hlp', hkey⟩ := hkeys Sample.pet hup "name" rfl
  obtain rfl := Option.some.inj (hlp.symm.trans hlp')
  refine ⟨m, d, lp, hm, hd, he, hlp, hproperty, hkey, ?_⟩
  intro lq hlq hkind
  obtain ⟨e, htyped, -, hidentified, -⟩ := htargets rfl lq hlq hkind
  exact ⟨e, htyped, hidentified⟩

end Catalog

end ModelCatalog
