import ModelCatalog.Proofs.Naming

/-! # Numbers in linked models

A linked model refers by number where its catalog refers by name. Where no local name has a dot,
each number stands for the very declaration that the name stands for where it is written, and what
has to be a class is one.
-/
namespace ModelCatalog

/-- The declaration that a number stands for. -/
structure LinkedModel.Denotes (m : LinkedModel) (id : Nat) (d : Declaration) : Prop where
  inside : id < m.size
  declaration : (m.get? id).map (·.declaration) = some d

namespace Catalog

/-- A number for a class. -/
def DenotesClass (m : LinkedModel) (id : Nat) (d : Declaration) : Prop :=
  m.Denotes id d ∧ d.isClass = true

/-- What the type of a property is linked to, where the property is written: what the name of the
type stands for there. A field of a scalar's primitive has no name of a type left. -/
inductive TypeDenotes (c : Catalog) (m : LinkedModel) (owner : Declaration) (p : Property) :
    Option LinkedType → Prop
  | primitive {q : Primitive} : p.type = .primitive q → TypeDenotes c m owner p (some (.primitive q))
  | enumValue : p.type = .enumValue → TypeDenotes c m owner p none
  | declaration {t : TypeName} {e : Declaration} {id : Nat} :
    p.type.named? = some t → c.Refers owner t e → m.Denotes id e → e.isScalar = false →
    (p.kind = .relationship → e.isClass = true) → TypeDenotes c m owner p (some (.declaration id))

/-- What a linked property tells of the property it was made from. -/
structure PropertyDenotes (c : Catalog) (m : LinkedModel) (linked : LinkedProperty)
    (entry : Declaration × Property) : Prop where
  declaredIn : m.Denotes linked.declaredIn entry.1
  effective : ∃ s, c.scope entry.1 = .ok s ∧ entry.2.effective s = .ok linked.property
  type : c.TypeDenotes m entry.1 linked.property linked.type

/-- All numbers of a linked declaration, against what is found by name. -/
structure Faithful (c : Catalog) (m : LinkedModel) (linked : LinkedDeclaration) : Prop where
  id : m.Denotes linked.id linked.declaration
  superType : ∃ parent, c.superType? linked.declaration = .ok parent ∧
    Option.Rel (DenotesClass m) linked.superType parent
  ancestors : ∃ as, c.ancestors c.settings.resolution.maxDepth linked.declaration = .ok as ∧
    List.Forall₂ (DenotesClass m) linked.ancestors as
  properties : ∃ merged,
    c.mergedProperties c.settings.resolution.maxDepth linked.declaration = .ok merged ∧
      List.Forall₂ (c.PropertyDenotes m) linked.properties merged

variable {c : Catalog} {d e owner : Declaration} {p : Property} {m : LinkedModel}
  {linked : LinkedDeclaration} {lp : LinkedProperty}

/-! ## What linking does -/

theorem linkProperty_eq_ok (h : c.linkProperty (owner, p) = .ok lp) :
    ∃ s, c.scope owner = .ok s ∧ p.effective s = .ok lp.property ∧
      lp.property.qualifiedType s = .ok lp.typeName ∧
      c.linkType lp.property lp.typeName = .ok lp.type ∧
      c.idOf owner.qualifiedName = .ok lp.declaredIn := by
  simp only [linkProperty, bind_ok_iff, pure_ok_iff] at h
  obtain ⟨s, hs, e, he, n, hn, t, ht, i, hi, rfl⟩ := h
  exact ⟨s, hs, he, hn, ht, hi⟩

theorem linkSuperType_eq_ok {id : Option Nat} (h : c.linkSuperType d = .ok id) :
    ∃ parent, c.superType? d = .ok parent ∧
      Option.Rel (fun i (e : Declaration) => c.idOf e.qualifiedName = .ok i) id parent := by
  obtain ⟨_ | e, hp, h⟩ := bind_ok_iff.mp h
  · obtain rfl := pure_ok_iff.mp h
    exact ⟨none, hp, .none⟩
  · obtain ⟨i, hi, h⟩ := bind_ok_iff.mp h
    obtain rfl := pure_ok_iff.mp h
    exact ⟨some e, hp, .some hi⟩

theorem linkDeclaration_eq_ok {id : Nat} (h : c.linkDeclaration (d, id) = .ok linked) :
    c.linkSuperType d = .ok linked.superType ∧
      ∃ as, c.ancestors c.settings.resolution.maxDepth d = .ok as ∧
        as.mapM (fun a => c.idOf a.qualifiedName) = .ok linked.ancestors := by
  simp only [linkDeclaration, bind_ok_iff, pure_ok_iff] at h
  obtain ⟨r, hr, as, ha, ids, hids, -, -, -, -, rfl⟩ := h
  exact ⟨hr, as, ha, hids⟩

theorem linkType_of_named {t : TypeName} (ht : p.type.named? = some t) (name : String) :
    c.linkType p name = (c.idOf name).map fun id => some (.declaration id) := by
  unfold linkType
  split <;> simp_all [PropertyType.named?]

theorem type_of_relationship {t : TypeName} (ht : p.type.named? = some t)
    (hkind : p.kind = .relationship) : p.type = .relationship t := by
  cases hp : p.type with
  | relationship u => simpa [hp, PropertyType.named?] using ht
  | _ => simp [Property.kind, hp, PropertyType.kind] at hkind

/-! ## Numbers and names agree -/

/-- Of what is above a declaration, each is the super type of something. -/
theorem exists_extends_of_above (hc : c.Coherent) {a : Declaration}
    (hd : d ∈ c.declarations) (ha : Relation.TransGen c.Extends d a) :
    ∃ b ∈ c.declarations, c.Extends b a := by
  obtain ⟨b, hb, he⟩ := Relation.TransGen.tail'_iff.mp ha
  exact ⟨b, mem_of_reaches hc hd hb, he⟩

section

variable (hc : c.Coherent) (hdot : c.Dotless) (h : c.link = .ok m)

include h

theorem denotes_of_getElem? {id : Nat} (hi : c.declarations[id]? = some d) : m.Denotes id d := by
  have hlength : m.size = c.declarations.length := by
    rw [← declarations_of_link h, List.length_map, LinkedModel.size]
  refine ⟨?_, (getElem?_map_of_link h id).trans hi⟩
  rw [hlength]
  exact (List.getElem?_eq_some_iff.mp hi).1

include hc hdot

/-- The number that the name of a declaration is linked to stands for that declaration. -/
theorem denotes_of_idOf (he : e ∈ c.declarations) {id : Nat}
    (hi : c.idOf e.qualifiedName = .ok id) : m.Denotes id e := by
  obtain ⟨d, hd, hname⟩ := exists_of_idOf hi
  obtain rfl := eq_of_qualifiedName hc hdot (List.mem_of_getElem? hd) he hname
  exact denotes_of_getElem? h hd

/-- A super type is a class of the catalog. -/
theorem denotesClass_of_extends (hd : d ∈ c.declarations) (he : c.Extends d e) {id : Nat}
    (hi : c.idOf e.qualifiedName = .ok id) : DenotesClass m id e := by
  refine ⟨denotes_of_idOf hc hdot h (he.mem hc) hi, ?_⟩
  obtain ⟨t, ht, hr⟩ := he
  obtain ⟨e', hr', hclass⟩ := (wellFormed_of_check hc (check_of_link h)).superTypes d hd t ht
  exact hr.unique hr' ▸ hclass

theorem typeDenotes_of_linkType (ho : owner ∈ c.declarations) (hp : p ∈ owner.properties)
    {s : Scope} (hs : c.scope owner = .ok s) (he : p.Effective s lp.property)
    (hn : lp.property.qualifiedType s = .ok lp.typeName)
    (ht : c.linkType lp.property lp.typeName = .ok lp.type) :
    c.TypeDenotes m owner lp.property lp.type := by
  generalize lp.property = p' at he hn ht
  cases he with
  | plain hnone =>
    cases hp : p.type with
    | primitive q =>
      simp only [linkType, hp, Except.ok.injEq] at ht
      exact ht ▸ .primitive hp
    | enumValue =>
      simp only [linkType, hp, Except.ok.injEq] at ht
      exact ht ▸ .enumValue hp
    | _ => simp [hp, PropertyType.named?] at hnone
  | @named t e hnamed hr hscalar =>
    have hr := (Refers.resolve hs).mp hr
    rw [qualifiedType_of_named hnamed, hr.qualify hc hs] at hn
    rw [← Except.ok.inj hn, linkType_of_named hnamed] at ht
    obtain ⟨id, hid, ht⟩ := map_ok_iff.mp ht
    rw [← ht]
    refine .declaration hnamed hr (denotes_of_idOf hc hdot h (hr.mem hc) hid) ?_ fun hkind => ?_
    · simp [Declaration.isScalar, hscalar]
    · have hrel := type_of_relationship hnamed hkind
      exact (relationship_of_check hc (check_of_link h) ho hp hrel hr).1.target
  | unboxed _ _ _ => exact Except.ok.inj ht ▸ .primitive rfl

theorem propertyDenotes_of_linkProperty (ho : owner ∈ c.declarations) (hp : p ∈ owner.properties)
    (hl : c.linkProperty (owner, p) = .ok lp) : c.PropertyDenotes m lp (owner, p) := by
  obtain ⟨s, hs, he, hn, ht, hi⟩ := linkProperty_eq_ok hl
  exact ⟨denotes_of_idOf hc hdot h ho hi, ⟨s, hs, he⟩,
    typeDenotes_of_linkType hc hdot h ho hp hs (Property.effective_ok_iff.mp he) hn ht⟩

end

/-- Every number in a linked model is inside it and stands for what the catalog finds by name where
the name is written: super types and ancestors, all of them classes, declaring classes, and types
that are never a scalar and for a relationship always a class. -/
theorem faithful_of_link (hr : c.Reachable) (hdot : c.Dotless) (h : c.link = .ok m) {i : Nat}
    (hi : m.get? i = some linked) : linked.id = i ∧ c.Faithful m linked := by
  have hc := hr.coherent
  obtain ⟨hd, rfl⟩ := get?_of_link h hi
  obtain ⟨hmem, hlink⟩ := linkDeclaration_of_mem h (List.mem_of_getElem? hi)
  obtain ⟨hsuper, as, has, hids⟩ := linkDeclaration_eq_ok hlink
  obtain ⟨-, -, merged, hmerged, hps⟩ := linkDeclaration_spec hlink
  refine ⟨rfl, denotes_of_getElem? h hd, ?_, ⟨as, has, ?_⟩, merged, hmerged, ?_⟩
  · obtain ⟨parent, hparent, hrel⟩ := linkSuperType_eq_ok hsuper
    refine ⟨parent, hparent, ?_⟩
    generalize linked.superType = id at hrel
    cases hrel with
    | none => exact .none
    | some hid =>
      exact .some (denotesClass_of_extends hc hdot h hmem (superType?_eq_some_iff.mp hparent) hid)
  · refine forall₂_of_mapM hids fun a ha id hid => ?_
    obtain ⟨top, hclear, -⟩ := (ancestors_eq_ok_iff hc hmem).mp has
    obtain ⟨b, hb, he⟩ := exists_extends_of_above hc hmem (hclear.ascent.above ha)
    exact denotesClass_of_extends hc hdot h hb he hid
  · refine forall₂_of_mapM hps ?_
    rintro ⟨owner, p⟩ hm lp hlp
    have hmember := (mem_mergedProperties_iff hc hmem hmerged).mp hm
    exact propertyDenotes_of_linkProperty hc hdot h (mem_of_reaches hc hmem hmember.reaches)
      (Declaration.property?_eq_some hmember.declared).1 hlp

end Catalog

namespace Sample

def keeper : Declaration :=
  ⟨"zoo", "Keeper", .ofClass ⟨.participant, none, false, some .system,
    [reference "boss" (.relationship ⟨none, "Keeper"⟩),
      reference "ward" (.object ⟨none, "Puppy"⟩)]⟩⟩

/-- The zoo with one who looks after it. -/
def staffed : Catalog := ⟨.standard, [⟨"zoo", [], [animal, dog, puppy, keeper]⟩]⟩

theorem staffed_reachable : staffed.Reachable :=
  .addFragment (f := ⟨none, "zoo", [], [written "Animal" none ["name", "sound"],
    written "Dog" (some "Animal") ["breed", "name"], written "Puppy" (some "Dog") ["age"],
    .object [("$class", .string "ParticipantDeclaration"), ("name", .string "Keeper"),
      ("identified", .object [("$class", .string "Identified")]),
      ("properties", .array [writtenReference "RelationshipProperty" "boss" "Keeper",
        writtenReference "ObjectProperty" "ward" "Puppy"])]]⟩)
    (.empty .standard) (by rfl)

end Sample

namespace Catalog

/-- The keeper refers to itself by a relationship and to a class of two ancestors by a field. -/
theorem faithful_staffed : Sample.staffed.Dotless ∧ ∃ m keeper, Sample.staffed.link = .ok m ∧
    m.get? 3 = some keeper ∧ keeper.id = 3 ∧ Sample.staffed.Faithful m keeper := by
  have hdot : Sample.staffed.Dotless := by
    rintro d (_ | ⟨_, _ | ⟨_, _ | ⟨_, _ | ⟨_, ⟨⟩⟩⟩⟩⟩) <;> decide
  obtain ⟨m, hm⟩ := isOk_iff.mp (show Sample.staffed.link.isOk = true by decide +kernel)
  obtain ⟨keeper, hk, -⟩ := exists_get?_of_link hm (i := 3) rfl
  exact ⟨hdot, m, keeper, hm, hk, faithful_of_link Sample.staffed_reachable hdot hm hk⟩

end Catalog

end ModelCatalog
