import ModelCatalog.LinkedModel
import ModelCatalog.Proofs.WellFormed

/-! # Linking

Linking looks every reference up again and puts numbers in the place of names. It takes other ways
than the check does, and meets nothing that the check has not settled: a catalog that passes its
check is linked, and so are all questions about it answered.
-/
namespace ModelCatalog

namespace Catalog

variable {c : Catalog} {d owner : Declaration} {s : Scope} {p p' : Property}

/-! ## Numbers -/

theorem exists_lastPosition? {name : String} {names : List String} (h : name ∈ names) :
    ∃ i, lastPosition? name names = some i := by
  induction names with
  | nil => simp at h
  | cons n rest ih =>
    unfold lastPosition?
    cases hr : lastPosition? name rest with
    | some i => exact ⟨i + 1, rfl⟩
    | none =>
      rcases List.mem_cons.mp h with rfl | h
      · exact ⟨0, by simp⟩
      · obtain ⟨i, hi⟩ := ih h
        simp [hr] at hi

theorem exists_idOf (hd : d ∈ c.declarations) : ∃ i, c.idOf d.qualifiedName = .ok i := by
  obtain ⟨i, hi⟩ := exists_lastPosition? (List.mem_map_of_mem (f := (·.qualifiedName)) hd)
  exact ⟨i, by simp [idOf, hi]⟩

/-! ## Properties -/

/-- What a linked property tells of the property it was made from. -/
structure Links (c : Catalog) (owner : Declaration) (p : Property) (linked : LinkedProperty) :
    Prop where
  effective : ∃ s, c.scope owner = .ok s ∧ p.Effective s linked.property
  typed : c.TypedAs owner p linked.typeName

theorem links_of_linkProperty (hc : c.Coherent) {linked : LinkedProperty}
    (h : c.linkProperty (owner, p) = .ok linked) : c.Links owner p linked := by
  simp only [linkProperty, bind_ok_iff, pure_ok_iff] at h
  obtain ⟨s, hs, e, he, n, hn, t, -, i, -, rfl⟩ := h
  exact ⟨⟨s, hs, Property.effective_ok_iff.mp he⟩,
    (effectiveType_ok_iff hc hs).mp (bind_ok_iff.mpr ⟨e, he, hn⟩)⟩

/-- A type that is named is that of a declaration, which has a number. -/
theorem exists_linkType (hc : c.Coherent) (hs : c.scope d = .ok s) (he : p.Effective s p')
    {n : String} (hn : p'.qualifiedType s = .ok n) : ∃ t, c.linkType p' n = .ok t := by
  cases he with
  | plain ht =>
    unfold linkType
    split <;> simp_all [PropertyType.named?]
  | named ht hr _ =>
    have hr := (Refers.resolve hs).mp hr
    rw [qualifiedType_of_named ht, hr.qualify hc hs] at hn
    cases hn
    obtain ⟨i, hi⟩ := exists_idOf (hr.mem hc)
    unfold linkType
    split
    · exact ⟨_, rfl⟩
    · exact ⟨_, by rw [hi]; rfl⟩
    · exact ⟨_, by rw [hi]; rfl⟩
    · exact ⟨_, rfl⟩
  | unboxed _ _ _ => exact ⟨_, rfl⟩

theorem exists_linkProperty (hc : c.Coherent) (ho : owner ∈ c.declarations)
    (h : ∃ n, c.TypedAs owner p n) : ∃ linked, c.linkProperty (owner, p) = .ok linked := by
  obtain ⟨s, hs⟩ := exists_scope hc ho
  obtain ⟨n, hn⟩ := h
  obtain ⟨e, he, hn⟩ := bind_ok_iff.mp ((effectiveType_ok_iff hc hs).mpr hn)
  obtain ⟨t, ht⟩ := exists_linkType hc hs (Property.effective_ok_iff.mp he) hn
  obtain ⟨i, hi⟩ := exists_idOf ho
  simp only [linkProperty, bind_ok_iff, pure_ok_iff]
  exact ⟨_, s, hs, e, he, n, hn, t, ht, i, hi, rfl⟩

/-! ## Declarations -/

section

variable (hc : c.Coherent) (h : c.check = .ok ()) (hd : d ∈ c.declarations)

include hc h hd

theorem exists_superType_of_check : ∃ r, c.superType? d = .ok r := by
  cases ht : d.superType? with
  | none => exact ⟨none, superType?_of_none ht⟩
  | some t =>
    obtain ⟨e, he, -⟩ := (wellFormed_of_check hc h).superTypes d hd t ht
    exact ⟨some e, superType?_eq_some_iff.mpr ⟨t, ht, he⟩⟩

theorem exists_linkDeclaration (id : Nat) : ∃ linked, c.linkDeclaration (d, id) = .ok linked := by
  obtain ⟨as, ha⟩ := ancestors_of_check h hd
  have hmerged := mergedProperties_ok_iff.mpr ⟨as, ha, rfl⟩
  have hsuper : ∃ r, c.linkSuperType d = .ok r := by
    obtain ⟨r, hr⟩ := exists_superType_of_check hc h hd
    unfold linkSuperType
    rw [hr]
    cases r with
    | none => exact ⟨none, rfl⟩
    | some parent =>
      obtain ⟨i, hi⟩ := exists_idOf ((superType?_eq_some_iff.mp hr).mem hc)
      exact ⟨some i, by simp [bind, Except.bind, hi, pure, Except.pure]⟩
  have hids : ∃ ids, as.mapM (fun a => c.idOf a.qualifiedName) = .ok ids := by
    obtain ⟨top, hclear, -⟩ := (ancestors_eq_ok_iff hc hd).mp ha
    exact exists_mapM_ok_iff.mpr fun a ha => exists_idOf (hclear.ascent.subset hc a ha)
  have hps : ∃ ps, (merge (as.reverse ++ [d])).mapM c.linkProperty = .ok ps := by
    refine exists_mapM_ok_iff.mpr ?_
    rintro ⟨owner, p⟩ hm
    have hm := (mem_mergedProperties_iff hc hd hmerged).mp hm
    have ho := mem_of_reaches hc hd hm.reaches
    exact exists_linkProperty hc ho
      (exists_typedAs_of_check hc h ho (Declaration.property?_eq_some hm.declared).1)
  obtain ⟨r, hr⟩ := hsuper
  obtain ⟨ids, hids⟩ := hids
  obtain ⟨ps, hps⟩ := hps
  simp only [linkDeclaration, bind_ok_iff, pure_ok_iff]
  exact ⟨_, r, hr, as, ha, ids, hids, _, hmerged, ps, hps, rfl⟩

end

theorem exists_linkAll (hc : c.Coherent) (h : c.check = .ok ()) : ∃ m, c.linkAll = .ok m := by
  have hall : ∃ ds, c.declarations.zipIdx.mapM c.linkDeclaration = .ok ds := by
    refine exists_mapM_ok_iff.mpr ?_
    rintro ⟨d, id⟩ hd
    exact exists_linkDeclaration hc h (List.fst_mem_of_mem_zipIdx hd) id
  obtain ⟨ds, hds⟩ := hall
  exact ⟨_, map_ok_iff.mpr ⟨ds, hds, rfl⟩⟩

/-- A catalog that is accepted can be linked. -/
theorem exists_link (hc : c.Coherent) (h : c.check = .ok ()) : ∃ m, c.link = .ok m := by
  obtain ⟨m, hm⟩ := exists_linkAll hc h
  exact ⟨m, check_bind_ok_iff.mpr ⟨h, hm⟩⟩

/-! ## What a linked model is made of -/

section

variable {m : LinkedModel} {linked : LinkedDeclaration}

theorem linkDeclaration_spec {id : Nat} (h : c.linkDeclaration (d, id) = .ok linked) :
    linked.id = id ∧ linked.declaration = d ∧
      ∃ merged, c.mergedProperties c.settings.resolution.maxDepth d = .ok merged ∧
        merged.mapM c.linkProperty = .ok linked.properties := by
  simp only [linkDeclaration, bind_ok_iff, pure_ok_iff] at h
  obtain ⟨_, -, _, -, _, -, merged, hm, ps, hps, rfl⟩ := h
  exact ⟨rfl, rfl, merged, hm, hps⟩

theorem check_of_link (h : c.link = .ok m) : c.check = .ok () := by
  obtain ⟨_, hcheck, -⟩ := bind_ok_iff.mp h
  exact hcheck

theorem linkDeclaration_of_mem (h : c.link = .ok m) (hl : linked ∈ m.declarations) :
    linked.declaration ∈ c.declarations ∧
      c.linkDeclaration (linked.declaration, linked.id) = .ok linked := by
  obtain ⟨_, -, hall⟩ := bind_ok_iff.mp h
  obtain ⟨ds, hds, rfl⟩ := map_ok_iff.mp hall
  obtain ⟨i, hi⟩ := List.mem_iff_getElem?.mp hl
  rcases getElem?_of_mapM hds i with ⟨-, hn⟩ | ⟨⟨d, id⟩, l, hd, hl, hlink⟩
  · simp [hn] at hi
  · obtain rfl := Option.some.inj (hl.symm.trans hi)
    obtain ⟨rfl, rfl, -⟩ := linkDeclaration_spec hlink
    exact ⟨List.fst_mem_of_mem_zipIdx (List.mem_of_getElem? hd), hlink⟩

/-- Every declaration is linked. -/
theorem exists_linked_of_mem (h : c.link = .ok m) (hd : d ∈ c.declarations) :
    ∃ linked ∈ m.declarations, linked.declaration = d := by
  obtain ⟨_, -, hall⟩ := bind_ok_iff.mp h
  obtain ⟨ds, hds, rfl⟩ := map_ok_iff.mp hall
  obtain ⟨i, hi⟩ := List.mem_iff_getElem?.mp hd
  have hz : c.declarations.zipIdx[i]? = some (d, i) := by simp [List.getElem?_zipIdx, hi]
  rcases getElem?_of_mapM hds i with ⟨hn, -⟩ | ⟨⟨d', id⟩, l, hd', hl, hlink⟩
  · simp [hz] at hn
  · obtain ⟨rfl, rfl⟩ := Prod.mk.inj (Option.some.inj (hz.symm.trans hd'))
    exact ⟨l, List.mem_of_getElem? hl, (linkDeclaration_spec hlink).2.1⟩

/-- Each property of a linked declaration was made from a member, in the place it has there. -/
theorem exists_member_of_link (hc : c.Coherent) (h : c.link = .ok m) (hl : linked ∈ m.declarations)
    {merged : List (Declaration × Property)}
    (hm : c.mergedProperties c.settings.resolution.maxDepth linked.declaration = .ok merged)
    {i : Nat} :
    (merged[i]? = none ∧ linked.properties[i]? = none) ∨
      ∃ owner p lp, merged[i]? = some (owner, p) ∧ linked.properties[i]? = some lp ∧
        c.Member p.name linked.declaration owner p ∧ c.Links owner p lp := by
  obtain ⟨hd, hlink⟩ := linkDeclaration_of_mem h hl
  obtain ⟨-, -, merged', hm', hps⟩ := linkDeclaration_spec hlink
  obtain rfl := Except.ok.inj (hm.symm.trans hm')
  rcases getElem?_of_mapM hps i with hn | ⟨⟨owner, p⟩, lp, he, hlp, hlinks⟩
  · exact .inl hn
  · exact .inr ⟨owner, p, lp, he, hlp,
      (mem_mergedProperties_iff hc hd hm).mp (List.mem_of_getElem? he),
      links_of_linkProperty hc hlinks⟩

end

/-! ## Questions -/

/-- All that can be asked of a declaration is answered. -/
structure Answers (c : Catalog) (d : Declaration) : Prop where
  superType : (c.superType? d).isOk = true
  ancestors : (c.ancestors none d).isOk = true
  property : ∀ name, (c.property? d name).isOk = true
  properties : (c.allProperties d).isOk = true
  subclass : ∀ name, (c.isSubclass d name).isOk = true
  identified : (c.isIdentified d).isOk = true
  own : ∀ p ∈ d.properties, ∃ s, c.scope d = .ok s ∧ (p.effective s).isOk = true ∧
    (p.qualifiedType s).isOk = true ∧ (p.describe s).isOk = true

/-- A type that resolves has a qualified name where it is written. -/
theorem exists_qualifiedType (hc : c.Coherent) (hs : c.scope d = .ok s) {v : ValidationSettings}
    (h : p.check s v = .ok ()) : ∃ n, p.qualifiedType s = .ok n := by
  cases ht : p.type.named? with
  | some t =>
    obtain ⟨e, he⟩ := Property.resolve_of_check ht h
    exact ⟨_, (qualifiedType_of_named ht).trans (((Refers.resolve hs).mp he).qualify hc hs)⟩
  | none =>
    cases hp : p.type with
    | primitive q => exact ⟨q.name, by simp [Property.qualifiedType, hp]⟩
    | enumValue => exact ⟨s.owner, by simp [Property.qualifiedType, hp]⟩
    | _ => simp [hp, PropertyType.named?] at ht

theorem answers_of_check (hc : c.Coherent) (h : c.check = .ok ()) (hd : d ∈ c.declarations) :
    c.Answers d := by
  obtain ⟨s, bs, hs, hb, -, hps, -⟩ := exists_scope_of_check hc h hd
  have ha : c.ancestors none d = .ok bs := ancestors_none hc hd hb
  exact {
    superType := isOk_iff.mpr (exists_superType_of_check hc h hd)
    ancestors := isOk_iff.mpr ⟨bs, ha⟩
    property := by
      intro name
      unfold property?
      split
      · rfl
      · rw [ha]
        rfl
    properties := by
      rw [allProperties, mergedProperties_ok_iff.mpr ⟨bs, ha, rfl⟩]
      rfl
    subclass := by
      intro name
      rw [isSubclass, chain, ha]
      rfl
    identified := by
      rw [isIdentified, ha]
      split <;> rfl
    own := by
      intro p hp
      have hcheck := (checkProperty_ok_iff.mp (hps p hp)).1
      obtain ⟨n, hn⟩ := exists_typedAs hs hcheck
      obtain ⟨e, he, -⟩ := bind_ok_iff.mp ((effectiveType_ok_iff hc hs).mpr hn)
      obtain ⟨m, hm⟩ := exists_qualifiedType hc hs hcheck
      exact ⟨s, hs, isOk_iff.mpr ⟨e, he⟩, isOk_iff.mpr ⟨m, hm⟩,
        isOk_iff.mpr ⟨_, map_ok_iff.mpr ⟨m, hm, rfl⟩⟩⟩ }

/-- Checking is enough: linking fails where the check does, with its error, and only there, and of
what passes the check nothing that is asked remains unanswered. -/
theorem check_suffices (hr : c.Reachable) :
    c.link.map (fun _ => ()) = c.check ∧
      (c.check = .ok () → ∀ d ∈ c.declarations, c.Answers d) := by
  refine ⟨?_, fun h d hd => answers_of_check hr.coherent h hd⟩
  unfold link
  cases h : c.check with
  | error e => rfl
  | ok _ =>
    obtain ⟨m, hm⟩ := exists_linkAll hr.coherent h
    simp [bind, Except.bind, hm, Except.map]

theorem answers_puppy : Sample.zoo.Answers Sample.puppy :=
  (check_suffices Sample.zoo_reachable).2 (by cbv) _ (List.mem_of_getElem? (i := 2) rfl)

end Catalog

end ModelCatalog
