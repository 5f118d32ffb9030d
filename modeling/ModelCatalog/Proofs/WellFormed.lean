import ModelCatalog.Proofs.Override

/-! # Well-formed catalogs

What a catalog must be like to be accepted, said of its declarations and not of the order in which
they are checked. The check compares a property with the nearest one of its name above and looks up
what is inherited where it was written; a well-formed catalog has every declaration above in
agreement, however far.
-/
namespace ModelCatalog

namespace Catalog

/-- Instances are identified by what the declaration or one above it says. -/
def Identified (c : Catalog) (d : Declaration) : Prop :=
  ∃ a, Relation.ReflTransGen c.Extends d a ∧ a.identifier?.isSome = true

/-- What is asked of settings, files and declarations. What a setting does not ask for is not asked
here either; the references of a declaration are those of the file it stands in. -/
structure WellFormed (c : Catalog) : Prop where
  depth : c.settings.resolution.maxDepth ≠ some 0
  imports : ∀ file ∈ c.files, ∀ i ∈ file.imports, ∃ source ∈ c.files, source.ns = i.ns ∧
    ∀ name ∈ i.names, ∃ d ∈ source.declarations, d.name = name
  superTypes : ∀ d ∈ c.declarations, ∀ t, d.superType? = some t →
    ∃ e, c.Refers d t e ∧ e.isClass = true
  chains : ∀ d ∈ c.declarations, ∀ as top, c.Ascent d as top →
    (pathNames d as).Nodup ∧ ∀ n ∈ c.settings.resolution.maxDepth, as.length ≤ n
  types : ∀ d ∈ c.declarations, ∀ p ∈ d.properties, ∀ t, p.type.named? = some t →
    ∃ e, c.Refers d t e
  relationships : ∀ d ∈ c.declarations, ∀ p ∈ d.properties, ∀ t e, p.type = .relationship t →
    c.Refers d t e → p.FitsRelationship e ∧
      (c.settings.resolution.requireIdentified = true → c.Identified e)
  scalars : ∀ d ∈ c.declarations, ∀ s ∈ d.scalar?, s.Fits c.settings.validation
  primitives : ∀ d ∈ c.declarations, ∀ p ∈ d.properties, ∀ q, p.type = .primitive q →
    p.Fits c.settings.validation q
  objects : ∀ d ∈ c.declarations, ∀ p ∈ d.properties, ∀ t e, p.type = .object t →
    c.Refers d t e → p.FitsObject c.settings.validation e
  overrides : ∀ d ∈ c.declarations, ∀ a, Relation.TransGen c.Extends d a →
    ∀ p ∈ d.properties, ∀ q ∈ a.properties, p.name = q.name →
      c.settings.resolution.allowOverride = true ∧ c.Conforms d p a q
  identifiers : ∀ d ∈ c.declarations, ∀ name, d.identifier? = some (.field name) →
    ∃ owner p, c.Member name d owner p ∧ c.TypedAs owner p Primitive.string.name ∧
      p.isOptional = false ∧ p.isArray = false

variable {c : Catalog} {d : Declaration} {s : Scope} {as : List Declaration}

/-! ## Files -/

theorem checkImport_ok_iff (hc : c.Coherent) {file : ModelFile} {i : Import} :
    c.checkImport file i = .ok () ↔ ∃ source ∈ c.files, source.ns = i.ns ∧
      ∀ name ∈ i.names, ∃ d ∈ source.declarations, d.name = name := by
  have hsource : c.checkImport file i = .ok () ↔
      ∃ source, c.file? i.ns = some source ∧ ∀ name ∈ i.names, (source.local? name).isSome := by
    unfold checkImport
    cases c.file? i.ns with
    | none => simp
    | some source =>
      simp only [Option.some.injEq, exists_eq_left']
      split
      · next name hf =>
        refine ⟨nofun, fun h => ?_⟩
        have hn := List.find?_some hf
        rw [← Option.not_isSome, h name (List.mem_of_find?_eq_some hf)] at hn
        cases hn
      · next hf => simpa [Option.isSome_iff_ne_none] using hf
  rw [hsource]
  simp only [ModelFile.local?_isSome_iff]
  constructor
  · rintro ⟨source, hs, h⟩
    obtain ⟨hm, hn⟩ := file?_eq_some hs
    exact ⟨source, hm, hn, h⟩
  · rintro ⟨source, hm, hn, h⟩
    exact ⟨source, hn ▸ hc.file?_ns hm, h⟩

/-! ## Declarations -/

theorem checkSuperType_ok_iff :
    c.checkSuperType d = .ok () ↔
      ∀ t, d.superType? = some t → ∃ e, c.Refers d t e ∧ e.isClass = true := by
  simp only [checkSuperType, bind_ok_iff]
  constructor
  · rintro ⟨_ | parent, hp, h⟩ t ht
    · rw [superType?_eq_none_iff.mp hp] at ht
      cases ht
    · obtain ⟨u, hu, hr⟩ := superType?_eq_some_iff.mp hp
      obtain rfl := Option.some.inj (hu.symm.trans ht)
      refine ⟨parent, hr, ?_⟩
      simpa [asked_ok_iff] using h
  · intro h
    cases ht : d.superType? with
    | none => exact ⟨none, superType?_of_none ht, rfl⟩
    | some t =>
      obtain ⟨parent, hr, hclass⟩ := h t ht
      refine ⟨some parent, superType?_eq_some_iff.mpr ⟨t, ht, hr⟩, ?_⟩
      simp [hclass, pure_ok_iff]

theorem checkDeclaration_ok_iff (hs : c.scope d = .ok s) :
    c.checkDeclaration d = .ok () ↔ c.checkSuperType d = .ok () ∧
      ∃ as, c.ancestors c.settings.resolution.maxDepth d = .ok as ∧
        (∀ scalar ∈ d.scalar?, scalar.Fits c.settings.validation) ∧
        (∀ p ∈ d.properties, c.checkProperty s as p = .ok ()) ∧ c.checkIdentifier d = .ok () := by
  unfold checkDeclaration
  rw [hs]
  simp only [bind_ok_iff (x := .ok s), check_bind_ok_iff, Except.ok.injEq, exists_eq_left']
  simp only [bind_ok_iff (x := c.ancestors c.settings.resolution.maxDepth d)]
  refine and_congr_right fun _ => exists_congr fun as => and_congr_right fun _ => ?_
  cases hb : d.scalar? with
  | none =>
    simp only [check_bind_ok_iff, forM_ok_iff]
    simp
  | some scalar =>
    -- a scalar has no properties and nothing to be identified by
    have hp : d.properties = [] := by
      cases h : d.body <;> simp_all [Declaration.scalar?, Declaration.properties]
    have hi : d.identifier? = none := by
      cases h : d.body <;>
        simp_all [Declaration.scalar?, Declaration.identifier?, Declaration.class?]
    simp [mapError_ok_iff, Scalar.check_ok_iff, hp, checkIdentifier, hi, pure_ok_iff]

/-! ## Properties -/

theorem checkProperty_ok_iff {p : Property} :
    c.checkProperty s as p = .ok () ↔ p.check s c.settings.validation = .ok () ∧
      c.checkTarget s p = .ok () ∧
      ∀ a q, nearest? as p.name = some (a, q) → c.checkOverride s p a q = .ok () := by
  simp only [checkProperty, check_bind_ok_iff]
  refine and_congr_right fun _ => and_congr_right fun _ => ?_
  cases nearest? as p.name with
  | none => simp [pure_ok_iff]
  | some entry => cases entry; simp

theorem checkTarget_ok_iff {p : Property} :
    c.checkTarget s p = .ok () ↔ ∀ t, p.type = .relationship t →
      c.settings.resolution.requireIdentified = true →
      ∃ e, s.resolve t = .ok e ∧ c.isIdentified e = .ok true := by
  unfold checkTarget
  cases p.type with
  | relationship t =>
    simp only [PropertyType.relationship.injEq, forall_eq', asked_ok_iff, bind_ok_iff,
      Bool.not_eq_true', reduceCtorEq, imp_false, Bool.not_eq_false, exists_eq_right]
  | _ => simp [pure_ok_iff]

theorem isIdentified_iff (hc : c.Coherent) (hd : d ∈ c.declarations) {cap : Option Nat}
    (h : c.ancestors cap d = .ok as) : c.isIdentified d = .ok true ↔ c.Identified d := by
  have hsome : c.Identified d ↔
      d.identifier?.isSome = true ∨ ∃ a ∈ as, a.identifier?.isSome = true := by
    obtain ⟨top, ha, hend⟩ := (ancestors_eq_ok_iff hc hd).mp h
    simp only [Identified, Relation.reflTransGen_iff_eq_or_transGen, or_and_right, exists_or,
      exists_eq_left, ha.ascent.mem_iff_above hend]
  rw [hsome, isIdentified, ancestors_none hc hd h]
  cases d.identifier?.isSome with
  | true => simp [pure_ok_iff]
  | false => simp [bind, Except.bind, pure_ok_iff]

/-- A required text, whether written as one or unboxed to one. -/
theorem effective_text_iff (hc : c.Coherent) (hs : c.scope d = .ok s) {p : Property} :
    (∃ e, p.effective s = .ok e ∧ ¬(p.kind ≠ .field ∨ e.type ≠ .primitive .string) ∧
      ¬(p.isOptional || p.isArray) = true) ↔
    c.TypedAs d p Primitive.string.name ∧ p.isOptional = false ∧ p.isArray = false := by
  rw [typedAs_primitive_iff hc hs]
  constructor
  · rintro ⟨e, he, ht, ho⟩
    rw [not_or, not_not, not_not] at ht
    rw [Bool.or_eq_true, not_or, Bool.not_eq_true, Bool.not_eq_true] at ho
    exact ⟨⟨e, he, ht.2⟩, ho⟩
  · rintro ⟨⟨e, he, ht⟩, ho, ha⟩
    have hk : p.kind = .field := by
      rw [← (Property.effective_ok_iff.mp he).kind, Property.kind, ht]
      rfl
    exact ⟨e, he, by simp [hk, ht], by simp [ho, ha]⟩

theorem checkIdentifier_ok_iff (hc : c.Coherent) (hd : d ∈ c.declarations)
    (h : c.ancestors c.settings.resolution.maxDepth d = .ok as) :
    c.checkIdentifier d = .ok () ↔ ∀ name, d.identifier? = some (.field name) →
      ∃ owner p, c.Member name d owner p ∧ c.TypedAs owner p Primitive.string.name ∧
        p.isOptional = false ∧ p.isArray = false := by
  unfold checkIdentifier
  split
  · next name hi =>
    have hm := mergedProperties_ok_iff.mpr ⟨as, h, rfl⟩
    rw [hm, bind_ok_iff]
    simp only [hi, Option.some.injEq, Identifier.field.injEq, forall_eq', Except.ok.injEq,
      exists_eq_left']
    cases hf : (merge (as.reverse ++ [d])).find? (·.2.name = name) with
    | none =>
      simp only [reduceCtorEq, false_iff]
      rintro ⟨owner, p, hp, -⟩
      simp [(find?_mergedProperties hc hd hm).mpr hp] at hf
    | some entry =>
      obtain ⟨owner, p⟩ := entry
      have hp := (find?_mergedProperties hc hd hm).mp hf
      obtain ⟨so, hso⟩ := exists_scope hc (mem_of_reaches hc hd hp.reaches)
      rw [hp.exists_iff, ← effective_text_iff hc hso]
      simp only [hso, bind_ok_iff, Except.ok.injEq, exists_eq_left', asked_bind_ok_iff,
        asked_ok_iff, reduceCtorEq, imp_false]
  · next hi =>
    simp only [pure_ok_iff, true_iff]
    intro name hn
    exact absurd hn (hi name)

/-! ## Accepted catalogs are well formed -/

section

variable (hc : c.Coherent) (h : c.check = .ok ()) (hd : d ∈ c.declarations)

include hc h hd

theorem exists_scope_of_check : ∃ s as, c.scope d = .ok s ∧
    c.ancestors c.settings.resolution.maxDepth d = .ok as ∧
      (∀ scalar ∈ d.scalar?, scalar.Fits c.settings.validation) ∧
      (∀ p ∈ d.properties, c.checkProperty s as p = .ok ()) ∧ c.checkIdentifier d = .ok () := by
  obtain ⟨s, hs⟩ := exists_scope hc hd
  obtain ⟨-, as, ha, hrest⟩ := (checkDeclaration_ok_iff hs).mp ((check_ok_iff.mp h).2.2 d hd)
  exact ⟨s, as, hs, ha, hrest⟩

theorem clear_of_check {top : Declaration} (ha : c.Ascent d as top) :
    c.Clear c.settings.resolution.maxDepth d as top := by
  obtain ⟨bs, hb⟩ := ancestors_of_check h hd
  exact ha.clear_of_ancestors hc hd hb

variable {p : Property} (hp : p ∈ d.properties)

include hp

theorem exists_property_scope_of_check : ∃ s, c.scope d = .ok s ∧
    p.check s c.settings.validation = .ok () ∧ c.checkTarget s p = .ok () := by
  obtain ⟨s, as, hs, -, -, hps, -⟩ := exists_scope_of_check hc h hd
  obtain ⟨hcheck, htarget, -⟩ := checkProperty_ok_iff.mp (hps p hp)
  exact ⟨s, hs, hcheck, htarget⟩

theorem exists_typedAs_of_check : ∃ n, c.TypedAs d p n := by
  obtain ⟨s, hs, hcheck, -⟩ := exists_property_scope_of_check hc h hd hp
  exact exists_typedAs hs hcheck

theorem refers_of_check {t : TypeName} (ht : p.type.named? = some t) : ∃ e, c.Refers d t e := by
  obtain ⟨s, hs, hcheck, -⟩ := exists_property_scope_of_check hc h hd hp
  obtain ⟨e, he⟩ := Property.resolve_of_check ht hcheck
  exact ⟨e, s, hs, he⟩

theorem primitive_of_check {q : Primitive} (hq : p.type = .primitive q) :
    p.Fits c.settings.validation q := by
  obtain ⟨s, -, hcheck, -⟩ := exists_property_scope_of_check hc h hd hp
  exact (Property.check_primitive_ok_iff hq).mp hcheck

theorem object_of_check {t : TypeName} {e : Declaration} (ht : p.type = .object t)
    (he : c.Refers d t e) : p.FitsObject c.settings.validation e := by
  obtain ⟨s, hs, hcheck, -⟩ := exists_property_scope_of_check hc h hd hp
  obtain ⟨e', he', hfits⟩ := (Property.check_object_ok_iff ht).mp hcheck
  obtain rfl := he.unique ⟨s, hs, he'⟩
  exact hfits

theorem relationship_of_check {t : TypeName} {e : Declaration} (ht : p.type = .relationship t)
    (he : c.Refers d t e) : p.FitsRelationship e ∧
      (c.settings.resolution.requireIdentified = true → c.Identified e) := by
  obtain ⟨s, hs, hcheck, htarget⟩ := exists_property_scope_of_check hc h hd hp
  obtain ⟨e', he', hfits⟩ := (Property.check_relationship_ok_iff ht).mp hcheck
  obtain rfl := he.unique ⟨s, hs, he'⟩
  refine ⟨hfits, fun hreq => ?_⟩
  obtain ⟨e', he', hi⟩ := checkTarget_ok_iff.mp htarget t ht hreq
  obtain rfl := he.unique ⟨s, hs, he'⟩
  obtain ⟨as, ha⟩ := ancestors_of_check h (he.mem hc)
  exact (isIdentified_iff hc (he.mem hc) ha).mp hi

/-- What the check compares: a property and the nearest of its name above. -/
theorem conforms_of_check {parent owner : Declaration} {q : Property} (he : c.Extends d parent)
    (hm : c.Member p.name parent owner q) :
    c.settings.resolution.allowOverride = true ∧ c.Conforms d p owner q := by
  obtain ⟨s, as, hs, ha, -, hps, -⟩ := exists_scope_of_check hc h hd
  obtain ⟨top, ha, hend⟩ := (ancestors_eq_ok_iff hc hd).mp ha
  have hn := (ha.ascent.nearest?_above_iff hend).mpr ⟨parent, he, hm⟩
  exact (checkOverride_ok_iff hc (mem_of_reaches hc (he.mem hc) hm.reaches) hs).mp
    ((checkProperty_ok_iff.mp (hps p hp)).2.2 owner q hn)

end

/-- What is declared above stays in agreement on the way down: the member that a declaration has
under the name of a property above it may take that property's place. -/
theorem exists_member_of_check (hc : c.Coherent) (h : c.check = .ok ()) {a : Declaration}
    {q : Property} (hd : d ∈ c.declarations) (hr : Relation.ReflTransGen c.Extends d a)
    (hq : q ∈ a.properties) :
    ∃ owner p, c.Member q.name d owner p ∧ c.Conforms owner p a q := by
  induction hr using Relation.ReflTransGen.head_induction_on with
  | refl =>
    obtain ⟨n, hn⟩ := exists_typedAs_of_check hc h hd hq
    exact ⟨a, q, .own (hc.property?_name hd hq), .refl hn⟩
  | @head d e he _ ih =>
    obtain ⟨owner, p, hm, hp⟩ := ih (he.mem hc)
    cases ho : d.property? q.name with
    | none => exact ⟨owner, p, .inherited ho he hm, hp⟩
    | some r =>
      obtain ⟨hr, hname⟩ := Declaration.property?_eq_some ho
      have hf := (conforms_of_check hc h hd hr he (hname ▸ hm)).2
      exact ⟨d, r, .own ho, hf.trans hc (mem_of_reaches hc (he.mem hc) hm.reaches) hp⟩

/-- The comparison with the nearest settles all that are farther up. -/
theorem override_of_check (hc : c.Coherent) (h : c.check = .ok ()) (hd : d ∈ c.declarations)
    {a : Declaration} (ha : Relation.TransGen c.Extends d a) {p q : Property}
    (hp : p ∈ d.properties) (hq : q ∈ a.properties) (hname : p.name = q.name) :
    c.settings.resolution.allowOverride = true ∧ c.Conforms d p a q := by
  obtain ⟨e, he, hr⟩ := Relation.TransGen.head'_iff.mp ha
  obtain ⟨owner, r, hm, hconf⟩ := exists_member_of_check hc h (he.mem hc) hr hq
  obtain ⟨hallow, hown⟩ := conforms_of_check hc h hd hp he (hname ▸ hm)
  exact ⟨hallow, hown.trans hc (mem_of_reaches hc (he.mem hc) hm.reaches) hconf⟩

theorem wellFormed_of_check (hc : c.Coherent) (h : c.check = .ok ()) : c.WellFormed := by
  obtain ⟨hdepth, himports, hdecl⟩ := check_ok_iff.mp h
  exact {
    depth := hdepth
    imports := fun file hf i hi => (checkImport_ok_iff hc).mp (himports file hf i hi)
    superTypes := by
      intro d hd
      obtain ⟨s, hs⟩ := exists_scope hc hd
      exact checkSuperType_ok_iff.mp ((checkDeclaration_ok_iff hs).mp (hdecl d hd)).1
    chains := by
      intro d hd as top ha
      obtain ⟨-, hdistinct, hwithin⟩ := clear_of_check hc h hd ha
      exact ⟨hdistinct, hwithin⟩
    types := fun d hd p hp t => refers_of_check hc h hd hp
    relationships := fun d hd p hp t e => relationship_of_check hc h hd hp
    scalars := by
      intro d hd
      obtain ⟨s, as, -, -, hscalar, -⟩ := exists_scope_of_check hc h hd
      exact hscalar
    primitives := fun d hd p hp q => primitive_of_check hc h hd hp
    objects := fun d hd p hp t e => object_of_check hc h hd hp
    overrides := fun d hd a ha p hp q => override_of_check hc h hd ha hp
    identifiers := by
      intro d hd
      obtain ⟨s, as, -, ha, -, -, hi⟩ := exists_scope_of_check hc h hd
      exact (checkIdentifier_ok_iff hc hd ha).mp hi }

/-! ## Well-formed catalogs are accepted -/

namespace WellFormed

variable (hc : c.Coherent) (h : c.WellFormed) (hd : d ∈ c.declarations)

include hc h hd

/-- Nothing stands in a way up, and so all of it is found. -/
theorem exists_ancestors : ∃ as, c.ancestors c.settings.resolution.maxDepth d = .ok as := by
  obtain ⟨r, hr⟩ := exists_outcome hc c.settings.resolution.maxDepth d
  cases hr with
  | @ends as top hclear hend => exact ⟨as, (ancestors_eq_ok_iff hc hd).mpr ⟨top, hclear, hend⟩⟩
  | @missing as top t hclear ht hm =>
    obtain ⟨e, he, -⟩ := h.superTypes top (hclear.ascent.mem hc hd) t ht
    exact absurd he (hm e)
  | circle hclear he hn =>
    obtain ⟨hdistinct, -⟩ := h.chains d hd _ _ (hclear.ascent.up he)
    exact absurd hn (nodup_pathNames_concat.mp hdistinct).2
  | @deep as top parent hclear he hn hcap =>
    have hlength := (h.chains d hd _ _ (hclear.ascent.up he)).2 _ hcap
    rw [List.length_append, List.length_singleton] at hlength
    omega

theorem checkProperty_eq_ok {p : Property} (hp : p ∈ d.properties) (hs : c.scope d = .ok s)
    (ha : c.ancestors c.settings.resolution.maxDepth d = .ok as) :
    c.checkProperty s as p = .ok () := by
  have hresolve : ∀ t, p.type.named? = some t → ∃ e, s.resolve t = .ok e := by
    intro t ht
    obtain ⟨e, he⟩ := h.types d hd p hp t ht
    exact ⟨e, (Refers.resolve hs).mpr he⟩
  refine checkProperty_ok_iff.mpr ⟨?_, checkTarget_ok_iff.mpr ?_, ?_⟩
  · cases ht : p.type with
    | primitive q => exact (Property.check_primitive_ok_iff ht).mpr (h.primitives d hd p hp q ht)
    | object t =>
      obtain ⟨e, he⟩ := hresolve t (by rw [ht]; rfl)
      exact (Property.check_object_ok_iff ht).mpr ⟨e, he, h.objects d hd p hp t e ht ⟨s, hs, he⟩⟩
    | relationship t =>
      obtain ⟨e, he⟩ := hresolve t (by rw [ht]; rfl)
      exact (Property.check_relationship_ok_iff ht).mpr
        ⟨e, he, (h.relationships d hd p hp t e ht ⟨s, hs, he⟩).1⟩
    | enumValue => exact Property.check_enumValue ht
  · intro t ht hreq
    obtain ⟨e, he⟩ := hresolve t (by rw [ht]; rfl)
    have hr : c.Refers d t e := ⟨s, hs, he⟩
    obtain ⟨bs, hb⟩ := h.exists_ancestors hc (hr.mem hc)
    have hidentified := (h.relationships d hd p hp t e ht hr).2 hreq
    exact ⟨e, he, (isIdentified_iff hc (hr.mem hc) hb).mpr hidentified⟩
  · intro a q hn
    obtain ⟨top, ha, hend⟩ := (ancestors_eq_ok_iff hc hd).mp ha
    obtain ⟨parent, he, hm⟩ := (ha.ascent.nearest?_above_iff hend).mp hn
    obtain ⟨hq, hname⟩ := Declaration.property?_eq_some hm.declared
    exact (checkOverride_ok_iff hc (mem_of_reaches hc (he.mem hc) hm.reaches) hs).mpr
      (h.overrides d hd a (.head' he hm.reaches) p hp q hq hname.symm)

theorem checkDeclaration_eq_ok : c.checkDeclaration d = .ok () := by
  obtain ⟨s, hs⟩ := exists_scope hc hd
  obtain ⟨as, ha⟩ := h.exists_ancestors hc hd
  exact (checkDeclaration_ok_iff hs).mpr ⟨checkSuperType_ok_iff.mpr (h.superTypes d hd), as, ha,
    h.scalars d hd, fun p hp => h.checkProperty_eq_ok hc hd hp hs ha,
    (checkIdentifier_ok_iff hc hd ha).mpr (h.identifiers d hd)⟩

end WellFormed

/-- The check accepts the well-formed catalogs and no other, under any settings. -/
theorem check_eq_ok_iff (hr : c.Reachable) : c.check = .ok () ↔ c.WellFormed := by
  refine ⟨wellFormed_of_check hr.coherent, fun h => check_ok_iff.mpr ⟨h.depth, ?_, ?_⟩⟩
  · exact fun file hf i hi => (checkImport_ok_iff hr.coherent).mpr (h.imports file hf i hi)
  · exact fun d hd => h.checkDeclaration_eq_ok hr.coherent hd

end Catalog

namespace Sample

/-- A pet that was brought in, with its name declared once more. -/
def patient : Declaration :=
  ⟨"clinic", "Patient", .ofClass ⟨.concept, some ⟨none, "Pet"⟩, false, none,
    [{ reference "name" (.primitive .string) with lengthRule := some ⟨some 1, some 20⟩ },
      reference "companion" (.relationship ⟨none, "Pet"⟩)]⟩⟩

/-- The pound with a file that imports a class from it. -/
def clinic : Catalog :=
  ⟨.standard, pound.files ++ [⟨"clinic", [.single "pound" "Pet"], [patient]⟩]⟩

theorem clinic_reachable : clinic.Reachable :=
  .addFragment (f := ⟨none, "clinic", [⟨"ImportType", "pound", some "Pet", []⟩], [
    .object [("$class", .string "ConceptDeclaration"), ("name", .string "Patient"),
      ("superType", .object [("name", .string "Pet")]),
      ("properties", .array [
        .object [("$class", .string "StringProperty"), ("name", .string "name"),
          ("lengthValidator", writtenLength 1 (some 20))],
        writtenReference "RelationshipProperty" "companion" "Pet"])]]⟩)
    pound_reachable (by rfl)

end Sample

namespace Catalog

/-- A class of the clinic is below one of the pound, which is identified by a field of a scalar that
has a default and a rule. -/
theorem wellFormed_clinic : Sample.clinic.WellFormed := by
  obtain ⟨⟨⟩, hcheck⟩ := isOk_iff.mp (show Sample.clinic.check.isOk = true by decide +kernel)
  exact (check_eq_ok_iff Sample.clinic_reachable).mp hcheck

end Catalog

end ModelCatalog
