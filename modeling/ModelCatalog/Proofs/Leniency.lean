import Mathlib.Data.List.Permutation
import ModelCatalog.Proofs.Behaviour
import ModelCatalog.Proofs.Registration

/-! # Lenient settings

Settings only ever ask for more. A catalog that is accepted under some settings is accepted under
any that ask for no more than these, and it links to the same: no setting has a say in what a name
stands for or in what a class inherits.
-/
namespace ModelCatalog

/-! ## Settings -/

structure ValidationSettings.NoStricter (v' v : ValidationSettings) : Prop where
  defaults : v'.checkDefaults = true → v.checkDefaults = true
  rules : v'.checkRules = true → v.checkRules = true

/-- A limit that lets through at least as many ancestors, or none at all. -/
def NoLower (cap' cap : Option Nat) : Prop := ∀ n' ∈ cap', ∃ n ∈ cap, n ≤ n'

structure ResolutionSettings.NoStricter (r' r : ResolutionSettings) : Prop where
  override : r.allowOverride = true → r'.allowOverride = true
  depth : NoLower r'.maxDepth r.maxDepth
  identified : r'.requireIdentified = true → r.requireIdentified = true

/-- Settings that ask for nothing that the others do not ask for. -/
structure Settings.NoStricter (s' s : Settings) : Prop where
  resolution : s'.resolution.NoStricter s.resolution
  validation : s'.validation.NoStricter s.validation

theorem NoLower.length_le {cap' cap : Option Nat} (h : NoLower cap' cap) {length : Nat}
    (hlength : ∀ n ∈ cap, length ≤ n) : ∀ n' ∈ cap', length ≤ n' := by
  intro n' hn'
  obtain ⟨n, hn, hle⟩ := h n' hn'
  exact Nat.le_trans (hlength n hn) hle

section

variable {v' v : ValidationSettings} (hv : v'.NoStricter v)

include hv

theorem Scalar.Fits.lenient {s : Scalar} (h : s.Fits v) : s.Fits v' :=
  ⟨fun hr => h.rules (hv.rules hr), fun hd => h.default (hv.defaults hd)⟩

theorem Property.Fits.lenient {p : Property} {q : Primitive} (h : p.Fits v q) : p.Fits v' q :=
  ⟨fun hr => h.rules (hv.rules hr), fun hd => h.default (hv.defaults hd)⟩

theorem Property.FitsNamed.lenient {p : Property} {e : Declaration} (h : p.FitsNamed v e) :
    p.FitsNamed v' e :=
  ⟨fun hr => h.rules (hv.rules hr), fun hd => h.default (hv.defaults hd)⟩

theorem Property.FitsObject.lenient {p : Property} {e : Declaration} (h : p.FitsObject v e) :
    p.FitsObject v' e :=
  ⟨fun s hs => (h.scalar s hs).lenient hv, fun hs => (h.named hs).lenient hv⟩

end

/-! ## Other settings -/

namespace Catalog

/-- The same files under other settings. -/
def under (c : Catalog) (s : Settings) : Catalog := { c with settings := s }

variable {c : Catalog} {s s' : Settings} {d : Declaration} {p : Property}

theorem Ascent.under {as : List Declaration} {top : Declaration} (h : c.Ascent d as top)
    (s : Settings) : (c.under s).Ascent d as top := by
  induction h with
  | start => exact .start
  | up _ he ih => exact ih.up he

theorem Member.under {name : String} {owner : Declaration} (h : c.Member name d owner p)
    (s : Settings) : (c.under s).Member name d owner p := by
  induction h with
  | own hp => exact .own hp
  | inherited hn he _ ih => exact .inherited hn he ih

theorem TypedAs.under {n : String} (h : c.TypedAs d p n) (s : Settings) :
    (c.under s).TypedAs d p n := by
  cases h with
  | primitive ht => exact .primitive ht
  | unboxed ht hr he => exact .unboxed ht hr he
  | named ht hr he => exact .named ht hr he
  | enumValue ht => exact .enumValue ht

theorem Conforms.under {a : Declaration} {q : Property} (h : c.Conforms d p a q) (s : Settings) :
    (c.under s).Conforms d p a q where
  kind := h.kind
  type := by
    obtain ⟨n, hp, hq⟩ := h.type
    exact ⟨n, hp.under s, hq.under s⟩
  array := h.array
  optional := h.optional

/-- What is asked of a catalog is asked clause by clause, and each clause is there because of one
setting or of none. -/
theorem WellFormed.under (h : c.WellFormed) (hs : s'.NoStricter c.settings) :
    (c.under s').WellFormed where
  depth := by
    intro hzero
    obtain ⟨n, hn, hle⟩ := hs.resolution.depth 0 hzero
    obtain rfl : n = 0 := Nat.le_zero.mp hle
    exact h.depth hn
  imports := h.imports
  superTypes := h.superTypes
  chains := by
    intro d hd as top ha
    obtain ⟨hdistinct, hlength⟩ := h.chains d hd as top (ha.under c.settings)
    exact ⟨hdistinct, hs.resolution.depth.length_le hlength⟩
  types := h.types
  relationships := by
    intro d hd p hp t e ht he
    obtain ⟨hfits, hidentified⟩ := h.relationships d hd p hp t e ht he
    exact ⟨hfits, fun hasked => hidentified (hs.resolution.identified hasked)⟩
  scalars := fun d hd scalar hscalar => (h.scalars d hd scalar hscalar).lenient hs.validation
  primitives := fun d hd p hp q hq => (h.primitives d hd p hp q hq).lenient hs.validation
  objects := fun d hd p hp t e ht he => (h.objects d hd p hp t e ht he).lenient hs.validation
  overrides := by
    intro d hd a ha p hp q hq hname
    obtain ⟨hallowed, hconforms⟩ := h.overrides d hd a ha p hp q hq hname
    exact ⟨hs.resolution.override hallowed, hconforms.under s'⟩
  identifiers := by
    intro d hd name hname
    obtain ⟨owner, p, hm, ht, hrest⟩ := h.identifiers d hd name hname
    exact ⟨owner, p, hm.under s', ht.under s', hrest⟩

theorem Coherent.under (hc : c.Coherent) (s : Settings) : (c.under s).Coherent :=
  ⟨hc.namespaces, hc.files⟩

theorem check_under (hc : c.Coherent) (h : c.check = .ok ()) (hs : s'.NoStricter c.settings) :
    (c.under s').check = .ok () := by
  have hw := (wellFormed_of_check hc h).under hs
  have hc' := hc.under s'
  refine check_ok_iff.mpr ⟨hw.depth, fun file hf i hi => ?_, fun d hd => ?_⟩
  · exact (checkImport_ok_iff hc').mpr (hw.imports file hf i hi)
  · exact hw.checkDeclaration_eq_ok hc' hd

/-! ## Linking -/

section

variable (hc : c.Coherent) (hs : s'.NoStricter c.settings)

include hc hs

theorem ancestors_under (hd : d ∈ c.declarations) {as : List Declaration}
    (ha : c.ancestors c.settings.resolution.maxDepth d = .ok as) :
    (c.under s').ancestors s'.resolution.maxDepth d = .ok as := by
  obtain ⟨top, ⟨ha, hdistinct, hlength⟩, hend⟩ := (ancestors_eq_ok_iff hc hd).mp ha
  exact (ancestors_eq_ok_iff (hc.under s') hd).mpr
    ⟨top, ⟨ha.under s', hdistinct, hs.resolution.depth.length_le hlength⟩, hend⟩

theorem linkDeclaration_under (hd : d ∈ c.declarations) {id : Nat} {linked : LinkedDeclaration}
    (h : c.linkDeclaration (d, id) = .ok linked) :
    (c.under s').linkDeclaration (d, id) = .ok linked := by
  simp only [linkDeclaration, bind_ok_iff, pure_ok_iff, mergedProperties_ok_iff] at h ⊢
  obtain ⟨parent, hparent, as, ha, ids, hids, _, ⟨as', ha', rfl⟩, ps, hps, rfl⟩ := h
  exact ⟨parent, hparent, as, ancestors_under hc hs hd ha, ids, hids, _,
    ⟨as', ancestors_under hc hs hd ha', rfl⟩, ps, hps, rfl⟩

/-- What a catalog links to does not depend on settings that let it pass. -/
theorem link_under {m : LinkedModel} (h : c.link = .ok m) : (c.under s').link = .ok m := by
  obtain ⟨hcheck, hall⟩ := check_bind_ok_iff.mp h
  obtain ⟨ds, hds, rfl⟩ := map_ok_iff.mp hall
  refine check_bind_ok_iff.mpr ⟨check_under hc hcheck hs, map_ok_iff.mpr ⟨ds, ?_, rfl⟩⟩
  have hsame : List.Forall₂ (fun linked entry => (c.under s').linkDeclaration entry = .ok linked)
      ds c.declarations.zipIdx := by
    refine forall₂_of_mapM hds ?_
    rintro ⟨d, id⟩ hd linked hlinked
    exact linkDeclaration_under hc hs (List.fst_mem_of_mem_zipIdx hd) hlinked
  exact mapM_ok_iff.mpr hsame.flip

end

/-! ## The same files -/

variable {files : List ModelFile}

theorem reachable_of_foldlM_add {c' : Catalog} (hr : c.Reachable)
    (hread : ∀ file ∈ files, ∃ f, ModelFile.ofFragment f = .ok file)
    (h : files.foldlM add c = .ok c') :
    c'.Reachable ∧ c' = { c with files := c.files ++ files } := by
  induction files generalizing c with
  | nil =>
    cases h
    exact ⟨hr, by simp⟩
  | cons file rest ih =>
    rw [List.foldlM_cons] at h
    obtain ⟨c₁, hadd, hrest⟩ := bind_ok_iff.mp h
    obtain ⟨f, hf⟩ := hread file List.mem_cons_self
    have hread' : ∀ g ∈ rest, ∃ f, ModelFile.ofFragment f = .ok g :=
      fun g hg => hread g (List.mem_cons_of_mem _ hg)
    obtain ⟨hr', rfl⟩ := ih (.add hr hf hadd) hread' hrest
    obtain ⟨-, rfl⟩ := add_eq_ok hadd
    exact ⟨hr', by simp⟩

/-- Files that are accepted under some settings are accepted under all that are no stricter, and
link to the same model. -/
theorem lenient_settings_accept (hs : s'.NoStricter s)
    (hread : ∀ file ∈ files, ∃ f, ModelFile.ofFragment f = .ok file)
    (hc : ofFiles s files = .ok c) (hcheck : c.check = .ok ()) :
    ∃ c', ofFiles s' files = .ok c' ∧ c'.check = .ok () ∧
      ∃ m, c.link = .ok m ∧ c'.link = .ok m := by
  obtain ⟨hr, rfl⟩ := reachable_of_foldlM_add (.empty s) hread hc
  have hcoherent := hr.coherent
  obtain ⟨m, hm⟩ := exists_link hcoherent hcheck
  exact ⟨⟨s', files⟩, ofFiles_eq_ok hcoherent.namespaces, check_under hcoherent hcheck hs, m, hm,
    link_under hcoherent hs hm⟩

end Catalog

namespace Sample

def strict : Settings := ⟨⟨true, some 1, true⟩, ⟨true, true⟩⟩

def lax : Settings := ⟨⟨true, some 5, false⟩, ⟨false, false⟩⟩

theorem lax_noStricter : lax.NoStricter strict where
  resolution := ⟨id, by simp [NoLower, lax, strict], by simp [lax]⟩
  validation := ⟨by simp [lax], by simp [lax]⟩

end Sample

namespace Catalog

/-- The pound has defaults and rules to check, a class of one ancestor, and a relationship. -/
theorem lenient_settings_accept_pound : Sample.lax.NoStricter Sample.strict ∧
    ∃ c c', ofFiles Sample.strict Sample.pound.files = .ok c ∧ c.check = .ok () ∧
      ofFiles Sample.lax Sample.pound.files = .ok c' ∧ c'.check = .ok () ∧
      ∃ m, c.link = .ok m ∧ c'.link = .ok m := by
  have hc : ofFiles Sample.strict Sample.pound.files = .ok ⟨Sample.strict, Sample.pound.files⟩ :=
    ofFiles_eq_ok (by decide)
  have hcheck : check ⟨Sample.strict, Sample.pound.files⟩ = .ok () := by cbv
  obtain ⟨c', hrest⟩ := lenient_settings_accept Sample.lax_noStricter Sample.pound_reachable.read
    hc hcheck
  exact ⟨Sample.lax_noStricter, _, c', hc, hcheck, hrest⟩

end Catalog

end ModelCatalog
