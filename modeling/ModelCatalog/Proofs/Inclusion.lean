import Mathlib.Data.List.Find
import ModelCatalog.Proofs.WellFormed

/-! # Parts of catalogs

Some of the files of a catalog may be a catalog by themselves. If they import nothing but one
another, then what their declarations refer to is settled among them: whatever else is in the larger
catalog, a name that stands for something in the part stands for the same in the whole, and what
passes its check in the part passes it in the whole.
-/
namespace ModelCatalog

/-- Two places in which type names have the same qualified names, and where what is found in the
first is found in the second. -/
structure Scope.Within (s s' : Scope) : Prop where
  owner : s'.owner = s.owner
  qualify : ∀ t, s'.qualify t = s.qualify t
  resolve : ∀ t e, s.resolve t = .ok e → s'.resolve t = .ok e

namespace Catalog

/-- The files of a catalog among those of another. All that they import is among them too. -/
structure PartOf (c c' : Catalog) : Prop where
  part : c.Coherent
  whole : c'.Coherent
  settings : c'.settings = c.settings
  files : ∀ file ∈ c.files, file ∈ c'.files
  imports : ∀ file ∈ c.files, ∀ i ∈ file.imports, ∃ source ∈ c.files, source.ns = i.ns

variable {c c' : Catalog} {d e : Declaration} {file : ModelFile}

namespace PartOf

variable (h : c.PartOf c')

include h

theorem mem (hd : d ∈ c.declarations) : d ∈ c'.declarations := by
  obtain ⟨file, hf, hd⟩ := mem_declarations.mp hd
  exact mem_declarations.mpr ⟨file, h.files file hf, hd⟩

/-! ## Looking up names -/

theorem file?_eq_some {ns : String} (hf : c.file? ns = some file) : c'.file? ns = some file := by
  obtain ⟨hm, rfl⟩ := Catalog.file?_eq_some hf
  exact h.whole.file?_ns (h.files file hm)

theorem find_eq_ok {name : String} (hd : c.find name = .ok d) : c'.find name = .ok d :=
  find_mono (fun _ _ => h.file?_eq_some) hd

variable (hf : file ∈ c.files)

include hf

/-- A file that a file of the part imports is not another one in the whole. -/
theorem file?_import {i : Import} (hi : i ∈ file.imports) : c'.file? i.ns = c.file? i.ns := by
  obtain ⟨source, hs, hns⟩ := h.imports file hf i hi
  rw [← hns, h.part.file?_ns hs, h.whole.file?_ns (h.files source hs)]

theorem importOf?_eq (name : String) : c'.importOf? file name = c.importOf? file name := by
  -- only a wildcard asks the catalog, and it asks for a file that is the same in both
  unfold importOf?
  congr 1
  refine List.find?_congr fun i hi => ?_
  rw [h.file?_import hf hi]

theorem qualify_eq (name : String) : c'.qualify file name = c.qualify file name := by
  unfold qualify
  rw [h.importOf?_eq hf]

theorem resolve_eq_ok {name : String} (hd : c.resolve file name = .ok d) :
    c'.resolve file name = .ok d := by
  unfold resolve at hd ⊢
  split at hd
  · exact hd
  · obtain ⟨q, hq, hd⟩ := bind_ok_iff.mp hd
    exact bind_ok_iff.mpr ⟨q, (h.qualify_eq hf name).trans hq, h.find_eq_ok hd⟩

theorem scopeIn_within (d : Declaration) : (c.scopeIn file d).Within (c'.scopeIn file d) where
  owner := rfl
  qualify := by
    rintro ⟨_ | ns, name⟩
    · exact h.qualify_eq hf name
    · rfl
  resolve := by
    rintro ⟨_ | ns, name⟩ e he
    · exact h.resolve_eq_ok hf he
    · exact h.find_eq_ok he

omit hf

theorem exists_scope {s : Scope} (hs : c.scope d = .ok s) :
    ∃ s', c'.scope d = .ok s' ∧ s.Within s' := by
  obtain ⟨file, hf, rfl⟩ := map_ok_iff.mp hs
  unfold fileOf at hf
  split at hf
  · next g hg =>
    cases hf
    refine ⟨c'.scopeIn file d, ?_, h.scopeIn_within (Catalog.file?_eq_some hg).1 d⟩
    rw [scope, fileOf, h.file?_eq_some hg]
    rfl
  · cases hf

end PartOf

/-! ## What declarations refer to -/

section

variable (h : c.PartOf c')

include h

theorem Refers.mono {t : TypeName} (hr : c.Refers d t e) : c'.Refers d t e := by
  obtain ⟨s, hs, he⟩ := hr
  obtain ⟨s', hs', hw⟩ := h.exists_scope hs
  exact ⟨s', hs', hw.resolve t e he⟩

theorem Extends.mono (he : c.Extends d e) : c'.Extends d e := by
  obtain ⟨t, ht, hr⟩ := he
  exact ⟨t, ht, hr.mono h⟩

theorem Ascent.mono {as : List Declaration} {top : Declaration} (ha : c.Ascent d as top) :
    c'.Ascent d as top := by
  induction ha with
  | start => exact .start
  | up _ he ih => exact ih.up (he.mono h)

theorem Member.mono {name : String} {owner : Declaration} {p : Property}
    (hm : c.Member name d owner p) : c'.Member name d owner p := by
  induction hm with
  | own hp => exact .own hp
  | inherited hn he _ ih => exact .inherited hn (he.mono h) ih

theorem TypedAs.mono {p : Property} {n : String} (ht : c.TypedAs d p n) : c'.TypedAs d p n := by
  cases ht with
  | primitive ht => exact .primitive ht
  | unboxed ht hr he => exact .unboxed ht (hr.mono h) he
  | named ht hr he => exact .named ht (hr.mono h) he
  | enumValue ht => exact .enumValue ht

theorem Conforms.mono {p q : Property} (hp : c.Conforms d p e q) : c'.Conforms d p e q where
  kind := hp.kind
  type := by
    obtain ⟨n, hn, hn'⟩ := hp.type
    exact ⟨n, hn.mono h, hn'.mono h⟩
  array := hp.array
  optional := hp.optional

end

/-! ## Ancestors and members -/

namespace PartOf

variable (h : c.PartOf c') (hd : d ∈ c.declarations)

include h

theorem superType?_eq_ok {parent : Option Declaration} (hp : c.superType? d = .ok parent) :
    c'.superType? d = .ok parent := by
  cases parent with
  | none => exact superType?_eq_none_iff.mpr (superType?_eq_none_iff.mp hp)
  | some e => exact superType?_eq_some_iff.mpr ((superType?_eq_some_iff.mp hp).mono h)

include hd

/-- The search for ancestors takes the same way in the whole and has at least the room. -/
theorem ancestors_eq_ok {cap : Option Nat} {as : List Declaration}
    (ha : c.ancestors cap d = .ok as) : c'.ancestors cap d = .ok as := by
  obtain ⟨top, ⟨ha, hn, hw⟩, hend⟩ := (ancestors_eq_ok_iff h.part hd).mp ha
  exact (ancestors_eq_ok_iff h.whole (h.mem hd)).mpr ⟨top, ⟨ha.mono h, hn, hw⟩, hend⟩

theorem mergedProperties_eq_ok {cap : Option Nat} {merged : List (Declaration × Property)}
    (hm : c.mergedProperties cap d = .ok merged) : c'.mergedProperties cap d = .ok merged := by
  obtain ⟨as, ha, hm⟩ := mergedProperties_ok_iff.mp hm
  exact mergedProperties_ok_iff.mpr ⟨as, h.ancestors_eq_ok hd ha, hm⟩

theorem isIdentified_eq_ok {b : Bool} (hi : c.isIdentified d = .ok b) :
    c'.isIdentified d = .ok b := by
  unfold isIdentified at hi ⊢
  split at hi
  · next hown => rwa [if_pos hown]
  · next hown =>
    rw [if_neg hown]
    obtain ⟨as, ha, hi⟩ := bind_ok_iff.mp hi
    exact bind_ok_iff.mpr ⟨as, h.ancestors_eq_ok hd ha, hi⟩

end PartOf

/-! ## Checks -/

/-- What suits a property where it stands in the part suits it in the whole. -/
theorem check_of_within {s s' : Scope} (hw : s.Within s') {p : Property} {v : ValidationSettings}
    (hp : p.check s v = .ok ()) : p.check s' v = .ok () := by
  cases ht : p.type with
  | primitive q =>
    rw [Property.check_primitive_ok_iff ht] at hp ⊢
    exact hp
  | object t =>
    rw [Property.check_object_ok_iff ht] at hp ⊢
    obtain ⟨e, he, hf⟩ := hp
    exact ⟨e, hw.resolve t e he, hf⟩
  | relationship t =>
    rw [Property.check_relationship_ok_iff ht] at hp ⊢
    obtain ⟨e, he, hf⟩ := hp
    exact ⟨e, hw.resolve t e he, hf⟩
  | enumValue => exact Property.check_enumValue ht

theorem mem_of_nearest? {as : List Declaration} {name : String} {a : Declaration} {p : Property}
    (h : nearest? as name = some (a, p)) : a ∈ as := by
  obtain ⟨b, hb, he⟩ := List.exists_of_findSome?_eq_some h
  obtain ⟨q, -, he⟩ := Option.map_eq_some_iff.mp he
  exact (Prod.mk.inj he).1 ▸ hb

namespace PartOf

variable (h : c.PartOf c')

include h

theorem checkSuperType_eq_ok (hs : c.checkSuperType d = .ok ()) :
    c'.checkSuperType d = .ok () := by
  rw [checkSuperType_ok_iff] at hs ⊢
  intro t ht
  obtain ⟨e, hr, hclass⟩ := hs t ht
  exact ⟨e, hr.mono h, hclass⟩

theorem checkImport_eq_ok {i : Import} (hi : c.checkImport file i = .ok ()) :
    c'.checkImport file i = .ok () := by
  rw [checkImport_ok_iff h.part] at hi
  rw [checkImport_ok_iff h.whole]
  obtain ⟨source, hs, hrest⟩ := hi
  exact ⟨source, h.files source hs, hrest⟩

variable (hd : d ∈ c.declarations) {s s' : Scope} (hs : c.scope d = .ok s)
  (hs' : c'.scope d = .ok s') (hw : s.Within s') {as : List Declaration}

include hs hw in
theorem checkTarget_eq_ok {p : Property} (hp : c.checkTarget s p = .ok ()) :
    c'.checkTarget s' p = .ok () := by
  rw [checkTarget_ok_iff] at hp ⊢
  rw [h.settings]
  intro t ht hreq
  obtain ⟨e, he, hi⟩ := hp t ht hreq
  exact ⟨e, hw.resolve t e he, h.isIdentified_eq_ok (((Refers.resolve hs).mp he).mem h.part) hi⟩

include hd hs hs' hw in
theorem checkProperty_eq_ok {p : Property}
    (ha : c.ancestors c.settings.resolution.maxDepth d = .ok as)
    (hp : c.checkProperty s as p = .ok ()) : c'.checkProperty s' as p = .ok () := by
  rw [checkProperty_ok_iff] at hp ⊢
  obtain ⟨hcheck, htarget, hover⟩ := hp
  refine ⟨h.settings ▸ check_of_within hw hcheck, h.checkTarget_eq_ok hs hw htarget, ?_⟩
  intro a q hn
  obtain ⟨top, hclear, -⟩ := (ancestors_eq_ok_iff h.part hd).mp ha
  have hmem := hclear.ascent.subset h.part a (mem_of_nearest? hn)
  obtain ⟨hallow, hconf⟩ := (checkOverride_ok_iff h.part hmem hs).mp (hover a q hn)
  exact (checkOverride_ok_iff h.whole (h.mem hmem) hs').mpr ⟨h.settings ▸ hallow, hconf.mono h⟩

include hd in
theorem checkIdentifier_eq_ok (ha : c.ancestors c.settings.resolution.maxDepth d = .ok as)
    (hi : c.checkIdentifier d = .ok ()) : c'.checkIdentifier d = .ok () := by
  have ha' := h.ancestors_eq_ok hd ha
  rw [← h.settings] at ha'
  refine (checkIdentifier_ok_iff h.whole (h.mem hd) ha').mpr fun name hname => ?_
  obtain ⟨owner, p, hm, ht, hrest⟩ := (checkIdentifier_ok_iff h.part hd ha).mp hi name hname
  exact ⟨owner, p, hm.mono h, ht.mono h, hrest⟩

include hd in
/-- A declaration that is accepted in the part is accepted in the whole. -/
theorem checkDeclaration_eq_ok (hcheck : c.checkDeclaration d = .ok ()) :
    c'.checkDeclaration d = .ok () := by
  obtain ⟨s, hs⟩ := Catalog.exists_scope h.part hd
  obtain ⟨s', hs', hw⟩ := h.exists_scope hs
  obtain ⟨hsuper, as, ha, hscalar, hps, hi⟩ := (checkDeclaration_ok_iff hs).mp hcheck
  refine (checkDeclaration_ok_iff hs').mpr ⟨h.checkSuperType_eq_ok hsuper, as, ?_, ?_, ?_, ?_⟩
  · exact h.settings ▸ h.ancestors_eq_ok hd ha
  · exact h.settings ▸ hscalar
  · exact fun p hp => h.checkProperty_eq_ok hd hs hs' hw ha (hps p hp)
  · exact h.checkIdentifier_eq_ok hd ha hi

/-- A file that is accepted in the part is accepted in the whole. -/
theorem checkFile_eq_ok (hf : file ∈ c.files) (hcheck : c.checkFile file = .ok ()) :
    c'.checkFile file = .ok () := by
  simp only [checkFile, check_bind_ok_iff, forM_ok_iff] at hcheck ⊢
  obtain ⟨himports, hds⟩ := hcheck
  refine ⟨fun i hi => h.checkImport_eq_ok (himports i hi), fun d hd => ?_⟩
  exact h.checkDeclaration_eq_ok (mem_declarations.mpr ⟨file, hf, hd⟩) (hds d hd)

/-- If the part is accepted, each of its files is accepted in the whole. -/
theorem checkFile_of_check (hcheck : c.check = .ok ()) (hf : file ∈ c.files) :
    c'.checkFile file = .ok () := by
  have hall := forM_ok_iff.mp (check_bind_ok_iff.mp hcheck).2
  exact h.checkFile_eq_ok hf (hall file hf)

end PartOf

/-- A catalog that is accepted imports nothing from outside it. -/
theorem partOf_of_check (hc : c.Coherent) (hc' : c'.Coherent) (hcheck : c.check = .ok ())
    (hsettings : c'.settings = c.settings) (hfiles : ∀ file ∈ c.files, file ∈ c'.files) :
    c.PartOf c' := by
  refine ⟨hc, hc', hsettings, hfiles, fun file hf i hi => ?_⟩
  obtain ⟨source, hs, hns, -⟩ := (wellFormed_of_check hc hcheck).imports file hf i hi
  exact ⟨source, hs, hns⟩

end Catalog

end ModelCatalog
