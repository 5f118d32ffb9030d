import ModelCatalog.Proofs.Handles
import ModelCatalog.Proofs.Inclusion

/-! # Outlines

What a linked model shows of a declaration, with names in the place of numbers. The numbers depend
on all that is linked; the outline is that of the catalog, and a declaration of a part of a catalog
has in the whole the outline that it has in the part.
-/
namespace ModelCatalog

/-- A property as it behaves, with the names of its type and of the declaration it is from. -/
structure OutlineProperty where
  property : Property
  typeName : String
  declaredIn : String

structure Outline where
  superType : Option String
  ancestors : List String
  properties : List OutlineProperty

namespace LinkedModel

/-- The qualified name of the declaration that a number stands for. -/
def nameOf? (m : LinkedModel) (id : Nat) : Option String := (m.get? id).map (·.qualifiedName)

def Names (m : LinkedModel) (id : Nat) (name : String) : Prop := m.nameOf? id = some name

structure ShowsProperty (m : LinkedModel) (p : LinkedProperty) (o : OutlineProperty) : Prop where
  property : p.property = o.property
  typeName : p.typeName = o.typeName
  declaredIn : m.Names p.declaredIn o.declaredIn

/-- What a linked declaration looks like, once the numbers in it are read as names. -/
structure Shows (m : LinkedModel) (d : LinkedDeclaration) (o : Outline) : Prop where
  superType : Option.Rel m.Names d.superType o.superType
  ancestors : List.Forall₂ m.Names d.ancestors o.ancestors
  properties : List.Forall₂ m.ShowsProperty d.properties o.properties

theorem Names.unique (m : LinkedModel) : Relator.RightUnique m.Names :=
  fun _ _ _ h h' => Option.some.inj (h.symm.trans h')

theorem ShowsProperty.unique (m : LinkedModel) : Relator.RightUnique m.ShowsProperty := by
  rintro p ⟨property, typeName, declaredIn⟩ ⟨property', typeName', declaredIn'⟩ h h'
  obtain rfl : property = property' := h.property.symm.trans h'.property
  obtain rfl : typeName = typeName' := h.typeName.symm.trans h'.typeName
  obtain rfl : declaredIn = declaredIn' := Names.unique m h.declaredIn h'.declaredIn
  rfl

/-- In a model, a linked declaration looks one way only. -/
theorem Shows.unique (m : LinkedModel) : Relator.RightUnique m.Shows := by
  rintro d ⟨superType, ancestors, properties⟩ ⟨superType', ancestors', properties'⟩ h h'
  have hsuper : superType = superType' := by
    have hs := h.superType
    have hs' := h'.superType
    generalize d.superType = id at hs hs'
    cases hs with
    | none =>
      cases hs'
      rfl
    | some hname =>
      cases hs' with
      | some hname' => rw [Names.unique m hname hname']
  have hancestors : ancestors = ancestors' :=
    List.right_unique_forall₂' (Names.unique m) h.ancestors h'.ancestors
  have hproperties : properties = properties' :=
    List.right_unique_forall₂' (ShowsProperty.unique m) h.properties h'.properties
  rw [hsuper, hancestors, hproperties]

end LinkedModel

namespace Catalog

def outlineProperty (c : Catalog) : Declaration × Property → Except ModelError OutlineProperty
  | (owner, p) => do
    let s ← c.scope owner
    let effective ← p.effective s
    return ⟨effective, ← effective.qualifiedType s, owner.qualifiedName⟩

/-- The outline of a declaration as the catalog finds it, without numbers. -/
def outline (c : Catalog) (d : Declaration) : Except ModelError Outline := do
  let maxDepth := c.settings.resolution.maxDepth
  let parent ← c.superType? d
  let ancestors ← c.ancestors maxDepth d
  let properties ← (← c.mergedProperties maxDepth d).mapM c.outlineProperty
  return ⟨parent.map (·.qualifiedName), ancestors.map (·.qualifiedName), properties⟩

variable {c c' : Catalog} {d : Declaration}

/-! ## Outlines in a part and in the whole -/

theorem effective_of_within {s s' : Scope} (hw : s.Within s') {p e : Property}
    (he : p.effective s = .ok e) : p.effective s' = .ok e := by
  rw [Property.effective_ok_iff] at he ⊢
  cases he with
  | plain ht => exact .plain ht
  | named ht hr hs => exact .named ht (hw.resolve _ _ hr) hs
  | unboxed ht hr hs => exact .unboxed ht (hw.resolve _ _ hr) hs

theorem qualifiedType_of_within {s s' : Scope} (hw : s.Within s') (p : Property) :
    p.qualifiedType s' = p.qualifiedType s := by
  unfold Property.qualifiedType
  simp only [hw.owner, hw.qualify]

namespace PartOf

variable (h : c.PartOf c')

include h

theorem outlineProperty_eq_ok {entry : Declaration × Property} {o : OutlineProperty}
    (ho : c.outlineProperty entry = .ok o) : c'.outlineProperty entry = .ok o := by
  obtain ⟨owner, p⟩ := entry
  simp only [outlineProperty, bind_ok_iff] at ho ⊢
  obtain ⟨s, hs, e, he, n, hn, ho⟩ := ho
  obtain ⟨s', hs', hw⟩ := h.exists_scope hs
  exact ⟨s', hs', e, effective_of_within hw he, n, (qualifiedType_of_within hw e).trans hn, ho⟩

theorem outline_eq_ok (hd : d ∈ c.declarations) {o : Outline} (ho : c.outline d = .ok o) :
    c'.outline d = .ok o := by
  simp only [outline, bind_ok_iff, mapM_ok_iff, h.settings] at ho ⊢
  obtain ⟨parent, hp, as, ha, merged, hm, ps, hps, ho⟩ := ho
  exact ⟨parent, h.superType?_eq_ok hp, as, h.ancestors_eq_ok hd ha, merged,
    h.mergedProperties_eq_ok hd hm, ps, hps.imp fun _ _ => h.outlineProperty_eq_ok, ho⟩

end PartOf

/-! ## Outlines in linked models -/

section

variable {m : LinkedModel} {linked : LinkedDeclaration}

theorem names_of_idOf (h : c.link = .ok m) {name : String} {id : Nat}
    (hid : c.idOf name = .ok id) : m.Names id name := by
  obtain ⟨d, hd, rfl⟩ := exists_of_idOf hid
  rw [← getElem?_map_of_link h, Option.map_eq_some_iff] at hd
  obtain ⟨linked, hl, rfl⟩ := hd
  rw [LinkedModel.Names, LinkedModel.nameOf?, hl]
  rfl

theorem exists_showsProperty (h : c.link = .ok m) {entry : Declaration × Property}
    {p : LinkedProperty} (hp : c.linkProperty entry = .ok p) :
    ∃ o, c.outlineProperty entry = .ok o ∧ m.ShowsProperty p o := by
  obtain ⟨owner, q⟩ := entry
  obtain ⟨s, hs, he, hn, -, hid⟩ := linkProperty_eq_ok hp
  refine ⟨⟨p.property, p.typeName, owner.qualifiedName⟩, ?_, rfl, rfl, names_of_idOf h hid⟩
  simp only [outlineProperty, bind_ok_iff, pure_ok_iff]
  exact ⟨s, hs, p.property, he, p.typeName, hn, rfl⟩

theorem exists_showsProperties (h : c.link = .ok m) {merged : List (Declaration × Property)}
    {ps : List LinkedProperty} (hps : merged.mapM c.linkProperty = .ok ps) :
    ∃ os, merged.mapM c.outlineProperty = .ok os ∧ List.Forall₂ m.ShowsProperty ps os := by
  simp only [mapM_ok_iff] at hps ⊢
  induction hps with
  | nil => exact ⟨[], .nil, .nil⟩
  | cons hp _ ih =>
    obtain ⟨o, ho, hshow⟩ := exists_showsProperty h hp
    obtain ⟨os, hos, hshows⟩ := ih
    exact ⟨o :: os, .cons ho hos, .cons hshow hshows⟩

/-- A linked model shows what its catalog finds by name. -/
theorem exists_shows_of_link (h : c.link = .ok m) (hl : linked ∈ m.declarations) :
    ∃ o, c.outline linked.declaration = .ok o ∧ m.Shows linked o := by
  obtain ⟨-, hlink⟩ := linkDeclaration_of_mem h hl
  obtain ⟨hsuper, as, ha, hids⟩ := linkDeclaration_eq_ok hlink
  obtain ⟨-, -, merged, hmerged, hps⟩ := linkDeclaration_spec hlink
  obtain ⟨parent, hparent, hrel⟩ := linkSuperType_eq_ok hsuper
  obtain ⟨os, hos, hshows⟩ := exists_showsProperties h hps
  refine ⟨⟨parent.map (·.qualifiedName), as.map (·.qualifiedName), os⟩, ?_, ?_, ?_, hshows⟩
  · simp only [outline, bind_ok_iff, pure_ok_iff]
    exact ⟨parent, hparent, as, ha, merged, hmerged, os, hos, rfl⟩
  · generalize linked.superType = id at hrel
    cases hrel with
    | none => exact .none
    | some hid => exact .some (names_of_idOf h hid)
  · exact List.forall₂_map_right_iff.mpr (forall₂_of_mapM hids fun _ _ _ => names_of_idOf h)

/-- What a declaration of a part is shown as does not change in the whole. -/
theorem PartOf.exists_shows (h : c.PartOf c') {m' : LinkedModel} {linked' : LinkedDeclaration}
    (hm : c.link = .ok m) (hm' : c'.link = .ok m') (hl : linked ∈ m.declarations)
    (hl' : linked' ∈ m'.declarations) (he : linked'.declaration = linked.declaration) :
    ∃ o, m.Shows linked o ∧ m'.Shows linked' o := by
  obtain ⟨o, ho, hshow⟩ := exists_shows_of_link hm hl
  obtain ⟨o', ho', hshow'⟩ := exists_shows_of_link hm' hl'
  have hsame := h.outline_eq_ok (linkDeclaration_of_mem hm hl).1 ho
  obtain rfl := Except.ok.inj ((he ▸ ho').symm.trans hsame)
  exact ⟨o', hshow, hshow'⟩

end

end Catalog

end ModelCatalog
