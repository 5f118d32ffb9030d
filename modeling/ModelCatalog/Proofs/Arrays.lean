import ModelCatalog.Proofs.Behaviour

/-! # Arrays

A default is one value, and an array has many. An array of a primitive may have none, and a scalar
keeps its own from the arrays of it. A field of an enumeration is asked only that its default names
one of the values, be it an array or not, and so these arrays alone have the defaults that they are
declared with.
-/
namespace ModelCatalog

namespace Property.Effective

variable {s : Scope} {p p' : Property} {t : TypeName} {e : Declaration}

/-- What still names a type has not been unboxed. -/
theorem eq_of_object (h : p.Effective s p') (ht : p'.type = .object t) : p' = p := by
  cases h with
  | plain _ => rfl
  | named _ _ _ => rfl
  | unboxed _ _ _ => cases ht

/-- A field of what is no scalar stays as it is written. -/
theorem eq_of_scalar?_eq_none (h : p.Effective s p') (ht : p.type = .object t)
    (hres : s.resolve t = .ok e) (hscalar : e.scalar? = none) : p' = p := by
  cases h with
  | plain _ => rfl
  | named _ _ _ => rfl
  | unboxed ht' hres' hscalar' =>
    obtain rfl := PropertyType.object.inj (ht.symm.trans ht')
    obtain rfl := Except.ok.inj (hres.symm.trans hres')
    simp [hscalar] at hscalar'

end Property.Effective

namespace Declaration

theorem scalar?_of_isEnum {e : Declaration} (h : e.isEnum = true) : e.scalar? = none := by
  simpa [isEnum, isScalar] using (Bool.and_eq_true_iff.mp h).2

end Declaration

namespace Catalog

/-- The property is declared with the default, as a field of an enumeration that has a value of that
name. -/
structure NamesValue (c : Catalog) (owner : Declaration) (p : Property) (v : Json) : Prop where
  declared : v ∈ p.default
  named : ∃ t e, p.type = .object t ∧ c.Refers owner t e ∧ e.isEnum = true ∧
    ∃ value ∈ e.properties, v = .string value.name

variable {c : Catalog} {m : LinkedModel} {d : LinkedDeclaration} {lp : LinkedProperty}
  {owner : Declaration} {p : Property} {v : Json}

/-- Of the properties that are checked, no array but one of an enumeration has a default. -/
theorem Suited.namesValue (h : c.Suited owner p)
    (hdefaults : c.settings.validation.checkDefaults = true) (ha : p.isArray = true)
    (hv : v ∈ p.default) : c.NamesValue owner p v := by
  cases h with
  | primitive ht hfits => simp [(hfits.default hdefaults v hv).1] at ha
  | @object t e ht href hfits => exact ⟨hv, t, e, ht, href, hfits.default hdefaults v hv⟩
  | relationship ht href hfits _ => simp [hfits.default] at hv
  | enumValue ht hbare => simp [hbare.array] at ha

/-- In a linked model a property that is an array has just those defaults that it is declared with
as a field of an enumeration. Arrays of primitives, of scalars and of classes have none. -/
theorem array_default_iff (hr : c.Reachable) (h : c.link = .ok m)
    (hdefaults : c.settings.validation.checkDefaults = true) :
    ∀ d ∈ m.declarations, ∀ lp ∈ d.properties, lp.property.isArray = true →
      ∀ v, v ∈ lp.property.default ↔
        ∃ owner p, c.Member lp.name d.declaration owner p ∧ c.NamesValue owner p v := by
  intro d hd lp hlp ha v
  obtain ⟨owner, p, s, hm, hs, he, hsuited⟩ := exists_effective_of_mem hr h hd hlp
  constructor
  · intro hv
    have hnames := hsuited.namesValue hdefaults ha hv
    obtain ⟨t, e, ht, -⟩ := hnames.named
    exact ⟨owner, p, hm, he.eq_of_object ht ▸ hnames⟩
  · rintro ⟨owner', p', hm', hnames⟩
    obtain ⟨rfl, rfl⟩ := hm'.unique hm
    obtain ⟨t, e, ht, href, henum, -⟩ := hnames.named
    rw [he.eq_of_scalar?_eq_none ht ((Refers.resolve hs).mpr href)
      (Declaration.scalar?_of_isEnum henum)]
    exact hnames.declared

end Catalog

/-! ## Kites -/

namespace Sample

def hue : Declaration :=
  ⟨"kites", "Hue", .ofEnum [reference "RED" .enumValue, reference "GREY" .enumValue]⟩

def kiteTag : Declaration := ⟨"kites", "Tag", .ofScalar ⟨.string, some (.string "new"), none, none⟩⟩

def kiteHues : Property :=
  { reference "hues" (.object ⟨none, "Hue"⟩) with
    isArray := true, default := some (.string "RED") }

def kiteTags : Property := { reference "tags" (.object ⟨none, "Tag"⟩) with isArray := true }

def kite : Declaration :=
  ⟨"kites", "Kite", .ofClass ⟨.concept, none, false, none, [kiteHues, kiteTags]⟩⟩

/-- A class with two arrays, one of an enumeration and one of a scalar. -/
def kites : Catalog := ⟨.standard, [⟨"kites", [], [hue, kiteTag, kite]⟩]⟩

theorem kites_reachable : kites.Reachable :=
  .addFragment (f := ⟨none, "kites", [], [
    .object [("$class", .string "EnumDeclaration"), ("name", .string "Hue"),
      ("properties", .array [.object [("$class", .string "EnumProperty"), ("name", .string "RED")],
        .object [("$class", .string "EnumProperty"), ("name", .string "GREY")]])],
    .object [("$class", .string "StringScalar"), ("name", .string "Tag"),
      ("defaultValue", .string "new")],
    .object [("$class", .string "ConceptDeclaration"), ("name", .string "Kite"),
      ("properties", .array [
        withMember "isArray" (.bool true) (withMember "defaultValue" (.string "RED")
          (writtenReference "ObjectProperty" "hues" "Hue")),
        withMember "isArray" (.bool true) (writtenReference "ObjectProperty" "tags" "Tag")])]]⟩)
    (.empty .standard) (by rfl)

/-- The kites link, and their hues are an array with a default. -/
theorem exists_kite : ∃ m d lp, kites.link = .ok m ∧ d ∈ m.declarations ∧ d.declaration = kite ∧
    lp ∈ d.properties ∧ lp.property = kiteHues := by
  obtain ⟨m, hm⟩ := isOk_iff.mp (show kites.link.isOk = true by decide +kernel)
  obtain ⟨d, hd, he⟩ := Catalog.exists_linked_of_mem hm (List.mem_of_getElem? (i := 2) rfl)
  have hlink : kites.linkProperty (kite, kiteHues)
      = .ok ⟨kiteHues, 2, "kites.Hue", some (.declaration 0)⟩ := by rfl
  have hlp := Catalog.property?_of_own kites_reachable.coherent hm hd he hlink rfl
  exact ⟨m, d, _, hm, hd, he, List.mem_of_find?_eq_some hlp, rfl⟩

end Sample

namespace Catalog

/-- The default of the hues is as it is declared. -/
theorem array_default_kite : ∃ m d lp, Sample.kites.link = .ok m ∧ d ∈ m.declarations ∧
    lp ∈ d.properties ∧ lp.property = Sample.kiteHues ∧
      ∃ owner p, Sample.kites.Member lp.name d.declaration owner p ∧
        Sample.kites.NamesValue owner p (.string "RED") := by
  obtain ⟨m, d, lp, hm, hd, -, hlp, hproperty⟩ := Sample.exists_kite
  have hiff := array_default_iff Sample.kites_reachable hm rfl d hd lp hlp (by rw [hproperty]; rfl)
  exact ⟨m, d, lp, hm, hd, hlp, hproperty, (hiff _).mp (by rw [hproperty]; rfl)⟩

/-- That a catalog links does not keep an array from having a default. -/
theorem kite_defaulted : ¬ ∀ (c : Catalog) (m : LinkedModel), c.Reachable → c.link = .ok m →
    c.settings.validation.checkDefaults = true → ∀ d ∈ m.declarations, ∀ lp ∈ d.properties,
      lp.property.isArray = true → lp.property.default = none := by
  intro hnone
  obtain ⟨m, d, lp, hm, hd, -, hlp, hproperty⟩ := Sample.exists_kite
  have h := hnone Sample.kites m Sample.kites_reachable hm rfl d hd lp hlp (by rw [hproperty]; rfl)
  rw [hproperty] at h
  cases h

end Catalog

end ModelCatalog
