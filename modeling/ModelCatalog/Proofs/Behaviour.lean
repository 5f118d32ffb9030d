import ModelCatalog.Proofs.Handles

/-! # Properties as they behave

A linked class shows every property as it behaves, unboxed and possibly inherited, while the check
looked at each once, where it is written. What the check asked for there holds of the property in
every class that has it.
-/
namespace ModelCatalog

/-! ## What is read -/

/-- A property that is nothing but a name. -/
structure Property.Bare (p : Property) : Prop where
  array : p.isArray = false
  default : p.default = none
  rule : p.rule = none
  lengthRule : p.lengthRule = none

namespace Property

theorem typeOf_eq_enumValue {f : PropertyFragment} (h : typeOf f = .ok .enumValue) :
    f.isArray = false ∧ f.default = none ∧ f.rule = none ∧ f.lengthRule = none := by
  unfold typeOf at h
  split at h <;> try cases h
  simpa [guard_ok_iff, and_assoc] using h

/-- Reading refuses a value of an enumeration that has anything to it but its name. -/
theorem bare_of_ofFragment {f : PropertyFragment} {p : Property} (h : ofFragment f = .ok p)
    (ht : p.type = .enumValue) : p.Bare := by
  simp only [ofFragment, bind_ok_iff, mapError_ok_iff, pure_ok_iff] at h
  obtain ⟨type, htype, rule, hrule, lengthRule, hlength, rfl⟩ := h
  obtain rfl : type = .enumValue := ht
  obtain ⟨ha, hd, hr, hl⟩ := typeOf_eq_enumValue htype
  rw [hr] at hrule
  rw [hl] at hlength
  exact ⟨ha, hd, (Except.ok.inj hrule).symm, (Except.ok.inj hlength).symm⟩

end Property

namespace Declaration

theorem exists_fragment_of_ofFragment {ns : String} {f : DeclarationFragment} {d : Declaration}
    (h : ofFragment ns f = .ok d) : ∀ p ∈ d.properties, ∃ f, Property.ofFragment f = .ok p := by
  obtain ⟨cls, ps, body, -, hread, hbuilds, rfl⟩ := ofFragment_ok_iff.mp h
  intro p hp
  obtain ⟨j, -, hj⟩ := (hbuilds.holds hread).members.exists_entry hp
  obtain ⟨f, -, hf⟩ := bind_ok_iff.mp hj
  exact ⟨f, hf⟩

end Declaration

namespace ModelFile

theorem exists_fragment_of_ofFragment {f : ModelFragment} {file : ModelFile}
    (h : ofFragment f = .ok file) :
    ∀ d ∈ file.declarations, ∃ f, Declaration.ofFragment file.ns f = .ok d := by
  obtain ⟨-, -, hread⟩ := ofFragment_spec h
  intro d hd
  obtain ⟨j, -, hj⟩ := hread.exists_entry hd
  obtain ⟨f, -, hf⟩ := bind_ok_iff.mp hj
  exact ⟨f, hf⟩

end ModelFile

/-! ## Checking values -/

namespace Property

variable {p : Property} {j : Json}

/-- The values that a value is checked by: the items of a list where the property is an array. -/
def parts (p : Property) (j : Json) : List Json :=
  match j, p.isArray with
  | .array items, true => items
  | j, _ => [j]

theorem checkValue_eq_forM (p : Property) (j : Json) :
    p.checkValue j = (p.parts j).forM p.checkOne := by
  have hone : [j].forM p.checkOne = p.checkOne j := forM_concat (l := []) (by simp)
  unfold checkValue parts
  cases p.isArray with
  | false => cases j <;> exact hone.symm
  | true =>
    cases j with
    | array items => rfl
    | _ => exact hone.symm

theorem checkValue_ok_iff :
    p.checkValue j = .ok () ↔ ∀ part ∈ p.parts j, Allows p.rule p.lengthRule part := by
  rw [checkValue_eq_forM, forM_ok_iff]
  exact forall₂_congr fun _ _ => checkOne_ok_iff

theorem parts_of_single (h : p.isArray = false) : p.parts j = [j] := by
  unfold parts
  rw [h]
  cases j <;> rfl

end Property

namespace Catalog

variable {c : Catalog} {m : LinkedModel} {d : LinkedDeclaration} {lp : LinkedProperty}
  {owner e : Declaration} {p p' : Property} {name : String}

theorem Reachable.exists_fragment (hr : c.Reachable) (ho : owner ∈ c.declarations)
    (hp : p ∈ owner.properties) : ∃ f, Property.ofFragment f = .ok p := by
  obtain ⟨file, hf, ho⟩ := mem_declarations.mp ho
  obtain ⟨f, hread⟩ := hr.read file hf
  obtain ⟨f', hd⟩ := ModelFile.exists_fragment_of_ofFragment hread owner ho
  exact Declaration.exists_fragment_of_ofFragment hd p hp

/-! ## Properties where they are written -/

/-- What is asked of a property as it behaves where it is written, by what it is typed by. -/
inductive Suited (c : Catalog) (owner : Declaration) (p : Property) : Prop
  | primitive {q : Primitive} :
    p.type = .primitive q → p.Fits c.settings.validation q → Suited c owner p
  | object {t : TypeName} {e : Declaration} :
    p.type = .object t → c.Refers owner t e → p.FitsNamed c.settings.validation e →
    Suited c owner p
  | relationship {t : TypeName} {e : Declaration} :
    p.type = .relationship t → c.Refers owner t e → p.FitsRelationship e →
    (c.settings.resolution.requireIdentified = true → c.Identified e) → Suited c owner p
  | enumValue : p.type = .enumValue → p.Bare → Suited c owner p

theorem suited_of_check (hr : c.Reachable) (h : c.check = .ok ()) (ho : owner ∈ c.declarations)
    (hp : p ∈ owner.properties) {s : Scope} (hs : c.scope owner = .ok s) (he : p.Effective s p') :
    c.Suited owner p' := by
  have hc := hr.coherent
  cases he with
  | plain hnone =>
    cases ht : p.type with
    | primitive q => exact .primitive ht (primitive_of_check hc h ho hp ht)
    | enumValue =>
      obtain ⟨f, hf⟩ := hr.exists_fragment ho hp
      exact .enumValue ht (Property.bare_of_ofFragment hf ht)
    | _ => simp [ht, PropertyType.named?] at hnone
  | @named t e hnamed hres hscalar =>
    have href := (Refers.resolve hs).mp hres
    cases ht : p.type with
    | object u =>
      obtain rfl : u = t := by simpa [ht, PropertyType.named?] using hnamed
      exact .object ht href ((object_of_check hc h ho hp ht href).named hscalar)
    | relationship u =>
      obtain rfl : u = t := by simpa [ht, PropertyType.named?] using hnamed
      obtain ⟨hfits, hidentified⟩ := relationship_of_check hc h ho hp ht href
      exact .relationship ht href hfits hidentified
    | _ => simp [ht, PropertyType.named?] at hnamed
  | unboxed ht hres hscalar =>
    have href := (Refers.resolve hs).mp hres
    exact .primitive rfl ((object_of_check hc h ho hp ht href).scalar _ hscalar)

/-! ## Properties of linked classes -/

/-- What a linked property of a class is typed by: the declaration that the name of the type stands
for where the property is written. -/
def TypedBy (c : Catalog) (d : Declaration) (lp : LinkedProperty) (e : Declaration) : Prop :=
  ∃ owner p t, c.Member lp.name d owner p ∧ lp.property.type.named? = some t ∧ c.Refers owner t e

theorem TypedBy.unique {d e e' : Declaration} (h : c.TypedBy d lp e) (h' : c.TypedBy d lp e') :
    e = e' := by
  obtain ⟨owner, p, t, hm, ht, hr⟩ := h
  obtain ⟨owner', p', t', hm', ht', hr'⟩ := h'
  obtain ⟨rfl, rfl⟩ := hm.unique hm'
  obtain rfl := Option.some.inj (ht.symm.trans ht')
  exact hr.unique hr'

theorem name_of_linkProperty (hl : c.linkProperty (owner, p) = .ok lp) : lp.name = p.name := by
  obtain ⟨s, -, he, -⟩ := linkProperty_eq_ok hl
  exact (Property.effective_ok_iff.mp he).name

section

variable (hc : c.Coherent) (h : c.link = .ok m) (hd : d ∈ m.declarations)

include hc h hd

/-- Each property of a linked class was made from a member of that name. -/
theorem exists_member_of_mem (hlp : lp ∈ d.properties) :
    ∃ owner p, c.Member lp.name d.declaration owner p ∧ c.linkProperty (owner, p) = .ok lp := by
  obtain ⟨hmem, hlink⟩ := linkDeclaration_of_mem h hd
  obtain ⟨-, -, merged, hmerged, hps⟩ := linkDeclaration_spec hlink
  obtain ⟨i, hi⟩ := List.mem_iff_getElem?.mp hlp
  rcases getElem?_of_mapM hps i with ⟨-, hn⟩ | ⟨⟨owner, p⟩, lp', he, hlp', hl⟩
  · simp [hn] at hi
  · obtain rfl := Option.some.inj (hlp'.symm.trans hi)
    have hm := (mem_mergedProperties_iff hc hmem hmerged).mp (List.mem_of_getElem? he)
    exact ⟨owner, p, name_of_linkProperty hl ▸ hm, hl⟩

/-- Each member of a class is found under its name once the class is linked. -/
theorem exists_property?_of_member (hm : c.Member name d.declaration owner p) :
    ∃ lp, d.property? name = some lp ∧ c.linkProperty (owner, p) = .ok lp := by
  obtain ⟨hmem, hlink⟩ := linkDeclaration_of_mem h hd
  obtain ⟨-, -, merged, hmerged, hps⟩ := linkDeclaration_spec hlink
  obtain ⟨-, rfl⟩ := Declaration.property?_eq_some hm.declared
  have hnames : d.properties.map (·.name) = memberNames merged := by
    have hall : List.Forall₂ (fun lp entry => lp.name = entry.2.name) d.properties merged :=
      forall₂_of_mapM hps fun _ _ _ hl => name_of_linkProperty hl
    rw [memberNames, ← List.forall₂_eq_eq_eq, List.forall₂_map_left_iff,
      List.forall₂_map_right_iff]
    exact hall
  obtain ⟨i, hi⟩ := List.mem_iff_getElem?.mp ((mem_mergedProperties_iff hc hmem hmerged).mpr hm)
  rcases getElem?_of_mapM hps i with ⟨hn, -⟩ | ⟨entry, lp, he, hlp, hl⟩
  · simp [hn] at hi
  · obtain rfl := Option.some.inj (he.symm.trans hi)
    refine ⟨lp, ?_, hl⟩
    rw [← name_of_linkProperty hl]
    exact find?_key_of_mem (hnames ▸ nodup_mergedProperties hmerged) (List.mem_of_getElem? hlp)

/-- What a linked class has under a name is what its member of that name is linked to. -/
theorem property?_eq_some_iff :
    d.property? name = some lp ↔
      ∃ owner p, c.Member name d.declaration owner p ∧ c.linkProperty (owner, p) = .ok lp := by
  constructor
  · intro hlp
    obtain ⟨owner, p, hm, hl⟩ := exists_member_of_mem hc h hd (List.mem_of_find?_eq_some hlp)
    obtain rfl : lp.name = name := by simpa using List.find?_some hlp
    exact ⟨owner, p, hm, hl⟩
  · rintro ⟨owner, p, hm, hl⟩
    obtain ⟨lp', hlp', hl'⟩ := exists_property?_of_member hc h hd hm
    rw [hlp', Except.ok.inj (hl'.symm.trans hl)]

theorem property?_of_own (he : d.declaration = owner)
    (hl : c.linkProperty (owner, p) = .ok lp) (hp : owner.property? p.name = some p) :
    d.property? p.name = some lp := by
  refine (property?_eq_some_iff hc h hd).mpr ⟨owner, p, ?_, hl⟩
  rw [he]
  exact .own hp

/-- What a class has, each class below it has as well, as something that agrees with it. -/
theorem exists_conforming_of_member {a : Declaration}
    (hup : Relation.ReflTransGen c.Extends d.declaration a) (hm : c.Member name a owner p) :
    ∃ lp owner' p', d.property? name = some lp ∧ c.linkProperty (owner', p') = .ok lp ∧
      c.Conforms owner' p' owner p := by
  have hdm := (linkDeclaration_of_mem h hd).1
  obtain ⟨hp, rfl⟩ := Declaration.property?_eq_some hm.declared
  -- on the way down from its owner the property is replaced only by what agrees with it
  obtain ⟨owner', p', hm', hconf⟩ :=
    exists_member_of_check hc (check_of_link h) hdm (hup.trans hm.reaches) hp
  obtain ⟨lp, hlp, hl⟩ := exists_property?_of_member hc h hd hm'
  exact ⟨lp, owner', p', hlp, hl, hconf⟩

end

section

variable (hr : c.Reachable) (h : c.link = .ok m) (hd : d ∈ m.declarations)
  (hlp : lp ∈ d.properties)

include hr h hd hlp

/-- A linked property is what its member behaves as where it is written, and what the check found
of it there is true of it. -/
theorem exists_effective_of_mem :
    ∃ owner p s, c.Member lp.name d.declaration owner p ∧ c.scope owner = .ok s ∧
      p.Effective s lp.property ∧ c.Suited owner lp.property := by
  have hc := hr.coherent
  obtain ⟨owner, p, hm, hl⟩ := exists_member_of_mem hc h hd hlp
  have ho := mem_of_reaches hc (linkDeclaration_of_mem h hd).1 hm.reaches
  obtain ⟨s, hs, he, -⟩ := linkProperty_eq_ok hl
  have he := Property.effective_ok_iff.mp he
  exact ⟨owner, p, s, hm, hs, he, suited_of_check hr (check_of_link h) ho
    (Declaration.property?_eq_some hm.declared).1 hs he⟩

theorem exists_suited_of_mem :
    ∃ owner p, c.Member lp.name d.declaration owner p ∧ c.Suited owner lp.property := by
  obtain ⟨owner, p, -, hm, -, -, hsuited⟩ := exists_effective_of_mem hr h hd hlp
  exact ⟨owner, p, hm, hsuited⟩

/-- Where no local name has a dot, the number of a type stands for what the property is typed by. -/
theorem TypedBy.denotes (he : c.TypedBy d.declaration lp e) (hdot : c.Dotless) :
    ∃ id, lp.type = some (.declaration id) ∧ m.Denotes id e := by
  have hc := hr.coherent
  obtain ⟨owner, p, hm, hl⟩ := exists_member_of_mem hc h hd hlp
  have ho := mem_of_reaches hc (linkDeclaration_of_mem h hd).1 hm.reaches
  have hp := (Declaration.property?_eq_some hm.declared).1
  have htype := (propertyDenotes_of_linkProperty hc hdot h ho hp hl).type
  obtain ⟨owner', p', t, hm', ht, href⟩ := he
  obtain ⟨rfl, rfl⟩ := hm.unique hm'
  generalize hty : lp.type = type at htype
  cases htype with
  | primitive hq => simp [hq, PropertyType.named?] at ht
  | enumValue hv => simp [hv, PropertyType.named?] at ht
  | @declaration t' e' id ht' href' hden _ _ =>
    obtain rfl := Option.some.inj (ht.symm.trans ht')
    obtain rfl := href.unique href'
    exact ⟨id, rfl, hden⟩

end

end Catalog

/-! ## A class that is identified by a field of a scalar -/

namespace Sample

theorem kitten_extends : pound.Extends kitten pet := ⟨⟨none, "Pet"⟩, rfl, _, rfl, rfl⟩

/-- The pound links. In what it links to, the name of the last class has the scalar's default and
the rule that is its own. -/
theorem exists_kitten : ∃ m d lp, pound.link = .ok m ∧ d ∈ m.declarations ∧
    d.declaration = kitten ∧ lp ∈ d.properties ∧ d.property? "name" = some lp ∧
      lp.property = kittenName.typedBy anyName := by
  obtain ⟨m, hm⟩ := isOk_iff.mp (show pound.link.isOk = true by decide +kernel)
  obtain ⟨d, hd, he⟩ := Catalog.exists_linked_of_mem hm (List.mem_of_getElem? (i := 3) rfl)
  have hlink : pound.linkProperty (kitten, kittenName)
      = .ok ⟨kittenName.typedBy anyName, 3, "String", some (.primitive .string)⟩ := by rfl
  have hlp := Catalog.property?_of_own pound_reachable.coherent hm hd he hlink rfl
  exact ⟨m, d, _, hm, hd, he, List.mem_of_find?_eq_some hlp, hlp, rfl⟩

end Sample

end ModelCatalog
