import Mathlib.Logic.Relation
import ModelCatalog.Catalog.Lineage
import ModelCatalog.Proofs.Qualified
import ModelCatalog.Proofs.Reachable

/-! # References

What a type name written in a declaration stands for. A reference that resolves leads to a
declaration of the catalog, under the very name that qualifying the reference gives, and the only
thing that can be wrong with one is that nothing is found.
-/
namespace ModelCatalog

namespace Catalog

variable {c : Catalog}

/-- The declaration that a type name stands for where the other one is written. -/
def Refers (c : Catalog) (d : Declaration) (t : TypeName) (e : Declaration) : Prop :=
  ∃ s, c.scope d = .ok s ∧ s.resolve t = .ok e

/-- The super type that a declaration is written with stands for the other declaration. -/
def Extends (c : Catalog) (d parent : Declaration) : Prop :=
  ∃ t, d.superType? = some t ∧ c.Refers d t parent

theorem Refers.unique {d e e' : Declaration} {t : TypeName} (h : c.Refers d t e)
    (h' : c.Refers d t e') : e = e' := by
  obtain ⟨s, hs, he⟩ := h
  obtain ⟨s', hs', he'⟩ := h'
  rw [hs] at hs'
  cases hs'
  exact Except.ok.inj (he.symm.trans he')

theorem Extends.unique {d e e' : Declaration} (h : c.Extends d e) (h' : c.Extends d e') :
    e = e' := by
  obtain ⟨t, ht, h⟩ := h
  obtain ⟨t', ht', h'⟩ := h'
  rw [ht] at ht'
  cases ht'
  exact h.unique h'

/-! ## What is found -/

theorem find_eq_ok (hc : c.Coherent) {name : String} {d : Declaration} (h : c.find name = .ok d) :
    d ∈ c.declarations ∧ d.qualifiedName = name := by
  unfold find at h
  split at h
  · next e he =>
    cases h
    obtain ⟨⟨ns, short⟩, hs, he⟩ := Option.bind_eq_some_iff.mp he
    obtain ⟨file, hf, hl⟩ := Option.bind_eq_some_iff.mp he
    obtain ⟨hm, rfl⟩ := file?_eq_some hf
    obtain ⟨hd, rfl⟩ := ModelFile.local?_eq_some hl
    refine ⟨mem_declarations.mpr ⟨file, hm, hd⟩, ?_⟩
    rw [Declaration.qualifiedName, (hc.files file hm).owned d hd]
    exact (Qualified.split?_eq_some_iff.mp hs).1
  · cases h

/-- What is found stays found where more files are. -/
theorem find_mono {c' : Catalog}
    (hfile : ∀ ns file, c.file? ns = some file → c'.file? ns = some file) {name : String}
    {d : Declaration} (h : c.find name = .ok d) : c'.find name = .ok d := by
  unfold find at h ⊢
  split at h
  · next e he =>
    cases h
    obtain ⟨⟨ns, short⟩, hs, he⟩ := Option.bind_eq_some_iff.mp he
    obtain ⟨file, hf, hl⟩ := Option.bind_eq_some_iff.mp he
    simp [hs, hfile ns file hf, hl]
  · cases h

theorem resolve_eq_ok (hc : c.Coherent) {file : ModelFile} (hf : file ∈ c.files) {name : String}
    {d : Declaration} (h : c.resolve file name = .ok d) :
    d ∈ c.declarations ∧ c.qualify file name = .ok d.qualifiedName := by
  unfold resolve at h
  split at h
  · next e he =>
    cases h
    obtain ⟨hd, rfl⟩ := ModelFile.local?_eq_some he
    refine ⟨mem_declarations.mpr ⟨file, hf, hd⟩, ?_⟩
    simp [qualify, he, Declaration.qualifiedName, (hc.files file hf).owned d hd]
  · obtain ⟨q, hq, hd⟩ := bind_ok_iff.mp h
    obtain ⟨hm, rfl⟩ := find_eq_ok hc hd
    exact ⟨hm, hq⟩

theorem scopeIn_resolve_eq_ok (hc : c.Coherent) {file : ModelFile} (hf : file ∈ c.files)
    {d e : Declaration} {t : TypeName} (h : (c.scopeIn file d).resolve t = .ok e) :
    e ∈ c.declarations ∧ (c.scopeIn file d).qualify t = .ok e.qualifiedName := by
  obtain ⟨ns, name⟩ := t
  cases ns with
  | some ns =>
    obtain ⟨hm, hn⟩ := find_eq_ok hc h
    exact ⟨hm, congrArg Except.ok hn.symm⟩
  | none => exact resolve_eq_ok hc hf h

/-! ## What is not found -/

theorem find_eq_error {name : String} {err : ModelError} (h : c.find name = .error err) :
    err = .typeNotFound name none := by
  unfold find at h
  split at h
  · cases h
  · exact (Except.error.inj h).symm

theorem resolve_eq_error {file : ModelFile} {name : String} {err : ModelError}
    (h : c.resolve file name = .error err) : ∃ n place, err = .typeNotFound n place := by
  unfold resolve at h
  split at h
  · cases h
  · cases hq : c.qualify file name with
    | error e =>
      rw [hq] at h
      cases h
      unfold qualify at hq
      split at hq
      · cases hq
      · split at hq
        · cases hq
        · exact ⟨_, _, (Except.error.inj hq).symm⟩
    | ok q =>
      rw [hq] at h
      exact ⟨_, _, find_eq_error h⟩

theorem scopeIn_resolve_eq_error {file : ModelFile} {d : Declaration} {t : TypeName}
    {err : ModelError} (h : (c.scopeIn file d).resolve t = .error err) :
    ∃ n place, err = .typeNotFound n place := by
  obtain ⟨ns, name⟩ := t
  cases ns with
  | some ns => exact ⟨_, _, find_eq_error h⟩
  | none => exact resolve_eq_error h

/-! ## Scopes of declarations -/

section

variable {d : Declaration}

theorem scope_eq_ok {s : Scope} (h : c.scope d = .ok s) :
    ∃ file ∈ c.files, s = c.scopeIn file d := by
  obtain ⟨file, hf, rfl⟩ := map_ok_iff.mp h
  unfold fileOf at hf
  split at hf
  · next g hg =>
    cases hf
    exact ⟨file, (file?_eq_some hg).1, rfl⟩
  · cases hf

theorem scope_owner {s : Scope} (h : c.scope d = .ok s) : s.owner = d.qualifiedName := by
  obtain ⟨file, -, rfl⟩ := scope_eq_ok h
  rfl

theorem exists_scope (hc : c.Coherent) (hd : d ∈ c.declarations) : ∃ s, c.scope d = .ok s := by
  obtain ⟨file, hf, hd⟩ := mem_declarations.mp hd
  exact ⟨c.scopeIn file d, by simp [scope, hc.fileOf_eq_ok hf hd, Except.map]⟩

theorem Refers.mem (hc : c.Coherent) {e : Declaration} {t : TypeName} (h : c.Refers d t e) :
    e ∈ c.declarations := by
  obtain ⟨s, hs, he⟩ := h
  obtain ⟨file, hf, rfl⟩ := scope_eq_ok hs
  exact (scopeIn_resolve_eq_ok hc hf he).1

theorem Refers.qualify (hc : c.Coherent) {e : Declaration} {t : TypeName} {s : Scope}
    (h : c.Refers d t e) (hs : c.scope d = .ok s) : s.qualify t = .ok e.qualifiedName := by
  obtain ⟨s', hs', he⟩ := h
  rw [hs] at hs'
  cases hs'
  obtain ⟨file, hf, rfl⟩ := scope_eq_ok hs
  exact (scopeIn_resolve_eq_ok hc hf he).2

theorem Refers.resolve {e : Declaration} {t : TypeName} {s : Scope} (hs : c.scope d = .ok s) :
    s.resolve t = .ok e ↔ c.Refers d t e := by
  constructor
  · exact fun h => ⟨s, hs, h⟩
  · rintro ⟨s', hs', he⟩
    rw [hs] at hs'
    cases hs'
    exact he

theorem Extends.mem (hc : c.Coherent) {parent : Declaration} (h : c.Extends d parent) :
    parent ∈ c.declarations := by
  obtain ⟨t, -, h⟩ := h
  exact h.mem hc

theorem mem_of_reaches (hc : c.Coherent) (hd : d ∈ c.declarations) {a : Declaration}
    (h : Relation.ReflTransGen c.Extends d a) : a ∈ c.declarations := by
  cases h with
  | refl => exact hd
  | tail _ he => exact he.mem hc

/-! ## Super types -/

theorem superType?_of_none (h : d.superType? = none) : c.superType? d = .ok none := by
  simp [superType?, h]

theorem superType?_eq_none_iff : c.superType? d = .ok none ↔ d.superType? = none := by
  refine ⟨fun h => ?_, superType?_of_none⟩
  unfold superType? at h
  split at h
  · next hn => exact hn
  · simp [bind_ok_iff, map_ok_iff] at h

theorem superType?_eq_some_iff {parent : Declaration} :
    c.superType? d = .ok (some parent) ↔ c.Extends d parent := by
  unfold superType?
  split
  · next h => simp [Extends, h]
  · next t h =>
    simp only [bind_ok_iff, map_ok_iff, mapError_ok_iff, Extends, h, Option.some.injEq,
      exists_eq_left', Refers, exists_eq_right]

/-- A super type that stands for nothing is reported by its name and of the declaration that is
written with it. -/
theorem superType?_of_missing (hc : c.Coherent) (hd : d ∈ c.declarations) {t : TypeName}
    (ht : d.superType? = some t) (h : ∀ e, ¬ c.Refers d t e) :
    c.superType? d = .error (.typeNotFound t.text (some (.superTypeOf d.qualifiedName))) := by
  obtain ⟨s, hs⟩ := exists_scope hc hd
  cases he : s.resolve t with
  | ok e => exact absurd ⟨s, hs, he⟩ (h e)
  | error err =>
    obtain ⟨file, -, rfl⟩ := scope_eq_ok hs
    obtain ⟨n, place, rfl⟩ := scopeIn_resolve_eq_error he
    simp only [superType?, ht, hs, bind, Except.bind, he]
    rfl

end

end Catalog

end ModelCatalog
