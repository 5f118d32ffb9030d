import ModelCatalog.Proofs.Outline

/-! # Adding files

The order in which files are added shows in the numbers of a linked model, and in which of several
faults is met first, but in nothing else: in another order the same files are accepted as well and
find the same. A file that is added to an accepted catalog leaves what was there as it was, and has
only itself to answer for.
-/
namespace ModelCatalog

namespace Catalog

variable {c c' : Catalog} {d : Declaration} {file : ModelFile} {files files' : List ModelFile}
  {s : Settings}

/-! ## Fresh namespaces -/

theorem file?_eq_none_iff {ns : String} : c.file? ns = none ↔ ns ∉ c.namespaces := by
  simp [file?, namespaces]

/-- A file of a new namespace can be added. -/
theorem add_eq_ok_of_fresh (h : file.ns ∉ c.namespaces) :
    c.add file = .ok { c with files := c.files ++ [file] } := by
  rw [add, file?_eq_none_iff.mpr h]
  rfl

/-- The catalog that files make up when they are added one after the other. -/
def ofFiles (s : Settings) (files : List ModelFile) : Except ModelError Catalog :=
  files.foldlM add (empty s)

theorem foldlM_add_eq_ok (h : ((c.files ++ files).map (·.ns)).Nodup) :
    files.foldlM add c = .ok { c with files := c.files ++ files } := by
  -- the catalog grows along the list, and what is left to add stays distinct from what is there
  induction files generalizing c with
  | nil => simp [pure, Except.pure]
  | cons file rest ih =>
    have hfresh : file.ns ∉ c.namespaces := by
      rw [List.map_append] at h
      exact fun hm => List.disjoint_of_nodup_append h hm List.mem_cons_self
    rw [List.append_cons] at h ⊢
    rw [List.foldlM_cons, add_eq_ok_of_fresh hfresh]
    exact ih h

/-- Files of distinct namespaces make up a catalog, in their order. -/
theorem ofFiles_eq_ok (h : (files.map (·.ns)).Nodup) : ofFiles s files = .ok ⟨s, files⟩ :=
  foldlM_add_eq_ok h

theorem coherent_of_read (hread : ∀ file ∈ files, ∃ f, ModelFile.ofFragment f = .ok file)
    (h : (files.map (·.ns)).Nodup) : Coherent ⟨s, files⟩ := by
  refine ⟨h, fun file hf => ?_⟩
  obtain ⟨f, hf⟩ := hread file hf
  exact ModelFile.ofFragment_coherent hf

/-! ## The same files -/

/-- In a coherent catalog the file of a namespace is the only one. -/
theorem Coherent.file?_eq_some_iff (hc : c.Coherent) {ns : String} :
    c.file? ns = some file ↔ file ∈ c.files ∧ file.ns = ns := by
  constructor
  · exact file?_eq_some
  · rintro ⟨hf, rfl⟩
    exact hc.file?_ns hf

section

variable (hc : c.Coherent) (hc' : c'.Coherent) (hfiles : c.files.Perm c'.files)

include hc hc' hfiles

theorem file?_of_perm (ns : String) : c.file? ns = c'.file? ns := by
  ext file
  rw [hc.file?_eq_some_iff, hc'.file?_eq_some_iff, hfiles.mem_iff]

theorem find_of_perm (name : String) : c.find name = c'.find name := by
  have hfile : c.file? = c'.file? := funext (file?_of_perm hc hc' hfiles)
  unfold find
  rw [hfile]

/-- What the same files make up in another order is a part of it, and no less of it. -/
theorem partOf_of_perm (hsettings : c'.settings = c.settings) (hcheck : c.check = .ok ()) :
    c.PartOf c' :=
  partOf_of_check hc hc' hcheck hsettings fun _ hf => hfiles.mem_iff.mp hf

theorem check_of_perm (hsettings : c'.settings = c.settings) (hcheck : c.check = .ok ()) :
    c'.check = .ok () := by
  have hpart := partOf_of_perm hc hc' hfiles hsettings hcheck
  have hsound : checkSettings c.settings = .ok () := (check_bind_ok_iff.mp hcheck).1
  refine check_bind_ok_iff.mpr ⟨hsettings ▸ hsound, forM_ok_iff.mpr fun file hf => ?_⟩
  exact hpart.checkFile_of_check hcheck (hfiles.mem_iff.mpr hf)

end

/-! ## One more file -/

section

variable (h : c.add file = .ok c')

include h

theorem declarations_prefix_of_add : c.declarations <+: c'.declarations := by
  obtain ⟨-, rfl⟩ := add_eq_ok h
  rw [declarations, declarations, List.flatMap_append]
  exact List.prefix_append _ _

variable (hc : c.Coherent) (hf : file.Coherent) (hcheck : c.check = .ok ())

include hcheck

/-- If all that was there is still accepted, the check comes to the new file, which is the last. -/
theorem check_of_add (hold : ∀ old ∈ c.files, c'.checkFile old = .ok ()) :
    c'.check = c'.checkFile file := by
  obtain ⟨-, rfl⟩ := add_eq_ok h
  have hsound : checkSettings c.settings = .ok () := (check_bind_ok_iff.mp hcheck).1
  rw [check, hsound]
  exact forM_concat hold

include hc hf

theorem partOf_of_add : c.PartOf c' := by
  have hc' := hc.add hf h
  obtain ⟨-, rfl⟩ := add_eq_ok h
  exact partOf_of_check hc hc' hcheck rfl fun _ hold => List.mem_append_left _ hold

end

end Catalog

/-! ## Two linked models -/

/-- Two linked models of the same declarations, each of which looks the same in both. -/
structure LinkedModel.Alike (m m' : LinkedModel) : Prop where
  declarations : (m.declarations.map (·.declaration)).Perm (m'.declarations.map (·.declaration))
  shows : ∀ l ∈ m.declarations, ∀ l' ∈ m'.declarations, l'.declaration.ns = l.declaration.ns →
    l'.declaration.name = l.declaration.name → ∃ o, m.Shows l o ∧ m'.Shows l' o

/-- All that is in the first model is in the second, under its number and looking the same. -/
def LinkedModel.Keeps (m' m : LinkedModel) : Prop :=
  ∀ i l, m.get? i = some l → ∃ l', m'.get? i = some l' ∧ l'.id = l.id ∧
    l'.declaration = l.declaration ∧ ∃ o, m.Shows l o ∧ m'.Shows l' o

namespace Catalog

variable {c c' : Catalog} {file : ModelFile} {files files' : List ModelFile} {m m' : LinkedModel}

theorem alike_of_link (h : c.PartOf c') (hfiles : c.files.Perm c'.files) (hm : c.link = .ok m)
    (hm' : c'.link = .ok m') : m.Alike m' := by
  constructor
  · rw [declarations_of_link hm, declarations_of_link hm']
    exact hfiles.flatMap_right _
  · intro l hl l' hl' hns hname
    have hmem := h.mem (linkDeclaration_of_mem hm hl).1
    have hmem' := (linkDeclaration_of_mem hm' hl').1
    exact h.exists_shows hm hm' hl hl' (h.whole.eq_of_names hmem' hmem hns hname)

theorem keeps_of_link (h : c.PartOf c') (hstart : c.declarations <+: c'.declarations)
    (hm : c.link = .ok m) (hm' : c'.link = .ok m') : m'.Keeps m := by
  intro i l hl
  obtain ⟨hd, hid⟩ := get?_of_link hm hl
  have hd' : c'.declarations[i]? = some l.declaration := by
    obtain ⟨hlt, hget⟩ := List.getElem?_eq_some_iff.mp hd
    rw [List.prefix_iff_getElem?.mp hstart i hlt, hget]
  obtain ⟨l', hl', hsame, hid'⟩ := exists_get?_of_link hm' hd'
  exact ⟨l', hl', hid'.trans hid.symm, hsame, h.exists_shows hm hm' (List.mem_of_getElem? hl)
    (List.mem_of_getElem? hl') hsame⟩

end Catalog

/-! ## Two files that import each other -/

namespace Sample

/-- A hen is an animal of the other file. -/
def farm : ModelFile :=
  ⟨"farm", [.wildcard "zoo"], [{ concept "Hen" (some "Animal") ["egg"] with ns := "farm" }]⟩

/-- A fox is a hen, and so an animal by way of the other file. -/
def wild : ModelFile := ⟨"zoo", [.wildcard "farm"], [animal, concept "Fox" (some "Hen") ["name"]]⟩

def farmFragment : ModelFragment :=
  ⟨none, "farm", [⟨"ImportAll", "zoo", none, []⟩], [written "Hen" (some "Animal") ["egg"]]⟩

def wildFragment : ModelFragment :=
  ⟨none, "zoo", [⟨"ImportAll", "farm", none, []⟩],
    [written "Animal" none ["name", "sound"], written "Fox" (some "Hen") ["name"]]⟩

theorem farm_read : ModelFile.ofFragment farmFragment = .ok farm := by rfl

theorem wild_read : ModelFile.ofFragment wildFragment = .ok wild := by rfl

end Sample

namespace Catalog

variable {c : Catalog} {file : ModelFile} {files files' : List ModelFile}

/-! ## Order and growth -/

/-- The order in which files are added does not matter. The same files are accepted in every order,
and what they make up finds the same under every name, and links to what looks the same. -/
theorem order_irrelevant (s : Settings)
    (hread : ∀ file ∈ files, ∃ f, ModelFile.ofFragment f = .ok file)
    (hdistinct : (files.map (·.ns)).Nodup) (hperm : files.Perm files') :
    ∃ c c', ofFiles s files = .ok c ∧ ofFiles s files' = .ok c' ∧
      (c.check = .ok () ↔ c'.check = .ok ()) ∧ (∀ name, c.find name = c'.find name) ∧
      (c.check = .ok () → ∃ m m', c.link = .ok m ∧ c'.link = .ok m' ∧ m.Alike m') := by
  have hdistinct' : (files'.map (·.ns)).Nodup := (hperm.map _).nodup hdistinct
  have hread' : ∀ file ∈ files', ∃ f, ModelFile.ofFragment f = .ok file :=
    fun file hf => hread file (hperm.mem_iff.mpr hf)
  have hc : Coherent ⟨s, files⟩ := coherent_of_read hread hdistinct
  have hc' : Coherent ⟨s, files'⟩ := coherent_of_read hread' hdistinct'
  refine ⟨⟨s, files⟩, ⟨s, files'⟩, ofFiles_eq_ok hdistinct, ofFiles_eq_ok hdistinct', ⟨?_, ?_⟩,
    find_of_perm hc hc' hperm, fun hcheck => ?_⟩
  · exact check_of_perm hc hc' hperm rfl
  · exact check_of_perm hc' hc hperm.symm rfl
  · have hpart := partOf_of_perm hc hc' hperm rfl hcheck
    obtain ⟨m, hm⟩ := exists_link hc hcheck
    obtain ⟨m', hm'⟩ := exists_link hc' (check_of_perm hc hc' hperm rfl hcheck)
    exact ⟨m, m', hm, hm', alike_of_link hpart hperm hm hm'⟩

/-- Whichever of the two files is added first, the other one is there when the names are looked up. -/
theorem order_irrelevant_farm : ∃ c c', ofFiles .standard [Sample.wild, Sample.farm] = .ok c ∧
    ofFiles .standard [Sample.farm, Sample.wild] = .ok c' ∧
      ∃ m m', c.link = .ok m ∧ c'.link = .ok m' ∧ m.Alike m' := by
  have hread : ∀ file ∈ [Sample.wild, Sample.farm], ∃ f, ModelFile.ofFragment f = .ok file := by
    rintro file (_ | ⟨_, _ | ⟨_, ⟨⟩⟩⟩)
    · exact ⟨Sample.wildFragment, Sample.wild_read⟩
    · exact ⟨Sample.farmFragment, Sample.farm_read⟩
  have hperm : [Sample.wild, Sample.farm].Perm [Sample.farm, Sample.wild] := .swap _ _ _
  obtain ⟨c, c', hc, hc', -, -, hlink⟩ := order_irrelevant .standard hread (by decide) hperm
  have hcheck : c.check = .ok () := by
    obtain rfl := Except.ok.inj ((ofFiles_eq_ok (by decide)).symm.trans hc)
    cbv
  exact ⟨c, c', hc, hc', hlink hcheck⟩

/-- A file of a new namespace can be added to an accepted catalog, and all that was there is still
accepted: the check comes down to that of the file. If that is passed, what was linked before is
linked under the same numbers and looks the same. -/
theorem add_keeps (hr : c.Reachable) (hcheck : c.check = .ok ()) {f : ModelFragment}
    (hf : ModelFile.ofFragment f = .ok file) (hfresh : file.ns ∉ c.namespaces) :
    ∃ c', c.add file = .ok c' ∧ (∀ old ∈ c.files, c'.checkFile old = .ok ()) ∧
      (∀ d ∈ c.declarations, c'.checkDeclaration d = .ok ()) ∧ c'.check = c'.checkFile file ∧
      (c'.check = .ok () → ∃ m m', c.link = .ok m ∧ c'.link = .ok m' ∧ m'.Keeps m) := by
  have hc := hr.coherent
  have hfile := ModelFile.ofFragment_coherent hf
  obtain ⟨c', hadd⟩ : ∃ c', c.add file = .ok c' := ⟨_, add_eq_ok_of_fresh hfresh⟩
  have hpart := partOf_of_add hadd hc hfile hcheck
  have hold : ∀ old ∈ c.files, c'.checkFile old = .ok () :=
    fun _ hmem => hpart.checkFile_of_check hcheck hmem
  refine ⟨c', hadd, hold, fun d hd => ?_, check_of_add hadd hcheck hold, fun hcheck' => ?_⟩
  · exact hpart.checkDeclaration_eq_ok hd ((check_ok_iff.mp hcheck).2.2 d hd)
  · obtain ⟨m, hm⟩ := exists_link hc hcheck
    obtain ⟨m', hm'⟩ := exists_link (hc.add hfile hadd) hcheck'
    exact ⟨m, m', hm, hm', keeps_of_link hpart (declarations_prefix_of_add hadd) hm hm'⟩

/-- The hen is added to the zoo, after the animals. -/
theorem add_keeps_farm : ∃ c', Sample.zoo.add Sample.farm = .ok c' ∧
    c'.checkDeclaration Sample.puppy = .ok () ∧ c'.check = .ok () ∧
      ∃ m m', Sample.zoo.link = .ok m ∧ c'.link = .ok m' ∧ m'.Keeps m := by
  have hfresh : Sample.farm.ns ∉ Sample.zoo.namespaces := by decide
  obtain ⟨c', hadd, -, hdecl, hcheck, hlink⟩ :=
    add_keeps Sample.zoo_reachable (by cbv) Sample.farm_read hfresh
  have hfarm : c'.checkFile Sample.farm = .ok () := by
    obtain rfl := Except.ok.inj ((add_eq_ok_of_fresh hfresh).symm.trans hadd)
    cbv
  exact ⟨c', hadd, hdecl _ (List.mem_of_getElem? (i := 2) rfl), hcheck.trans hfarm,
    hlink (hcheck.trans hfarm)⟩

end Catalog

end ModelCatalog
