import ModelCatalog.Proofs.Linking

/-! # Names and numbers

A declaration is looked up by its qualified name, which is taken apart at its last dot, and linked
under the same name taken as a whole. Nothing asks of a declaration's own name that it survives
this: with a dot in it, it is taken for a part of the namespace. Among local names without dots, a
qualified name belongs to one declaration, and both ways lead to it.
-/
namespace ModelCatalog

open Qualified (IsLocal)

/-! ## Files -/

theorem ModelFile.ns_ne_empty {f : ModelFragment} {file : ModelFile}
    (h : ofFragment f = .ok file) : file.ns ≠ "" :=
  (ofFragment_spec h).2.1

namespace Catalog

variable {c : Catalog} {d e : Declaration}

theorem read_add {c' : Catalog} {f : ModelFragment} {file : ModelFile}
    (hc : ∀ g ∈ c.files, ∃ f, ModelFile.ofFragment f = .ok g)
    (hf : ModelFile.ofFragment f = .ok file) (h : c.add file = .ok c') :
    ∀ g ∈ c'.files, ∃ f, ModelFile.ofFragment f = .ok g := by
  obtain ⟨-, rfl⟩ := add_eq_ok h
  intro g hg
  rcases List.mem_append.mp hg with hg | hg
  · exact hc g hg
  · exact ⟨f, List.mem_singleton.mp hg ▸ hf⟩

/-- Every file of a catalog was read from a fragment. -/
theorem Reachable.read (hr : c.Reachable) :
    ∀ file ∈ c.files, ∃ f, ModelFile.ofFragment f = .ok file := by
  induction hr with
  | empty s => simp [Catalog.empty]
  | add _ hf ha ih => exact read_add ih hf ha
  | addFragment _ ha ih =>
    obtain ⟨file, hf, ha⟩ := bind_ok_iff.mp ha
    exact read_add ih hf ha
  | addJson _ ha ih =>
    obtain ⟨file, hf, ha⟩ := bind_ok_iff.mp ha
    obtain ⟨f, -, hf⟩ := bind_ok_iff.mp hf
    exact read_add ih hf ha

/-! ## Looking up qualified names -/

/-- What is found under a name is a declaration of that qualified name, and of those that have it
the one whose own name has no dot. -/
theorem find_eq_ok_iff (hr : c.Reachable) {name : String} :
    c.find name = .ok d ↔ d ∈ c.declarations ∧ d.qualifiedName = name ∧ IsLocal d.name := by
  have hc := hr.coherent
  constructor
  · intro h
    obtain ⟨hd, hname⟩ := find_eq_ok hc h
    refine ⟨hd, hname, ?_⟩
    unfold find at h
    split at h
    · next e he =>
      cases h
      obtain ⟨⟨ns, short⟩, hs, he⟩ := Option.bind_eq_some_iff.mp he
      obtain ⟨file, -, hl⟩ := Option.bind_eq_some_iff.mp he
      obtain ⟨-, rfl⟩ := ModelFile.local?_eq_some hl
      exact (Qualified.split?_eq_some_iff.mp hs).2.2
    · cases h
  · rintro ⟨hd, rfl, hlocal⟩
    obtain ⟨file, hf, hd⟩ := mem_declarations.mp hd
    obtain ⟨f, hread⟩ := hr.read file hf
    have hns := (hc.files file hf).owned d hd
    have hsplit : Qualified.split? d.qualifiedName = some (file.ns, d.name) :=
      Qualified.split?_eq_some_iff.mpr
        ⟨by rw [Declaration.qualifiedName, hns], ModelFile.ns_ne_empty hread, hlocal⟩
    have hfound : file.local? d.name = some d := find?_key_of_mem (hc.files file hf).distinct hd
    simp [find, hsplit, hc.file?_ns hf, hfound]

/-! ## Distinct names -/

/-- No local name has a dot. -/
def Dotless (c : Catalog) : Prop := ∀ d ∈ c.declarations, '.' ∉ d.name.toList

theorem Coherent.nodup_declarations (hc : c.Coherent) : c.declarations.Nodup := by
  refine List.nodup_flatMap.mpr ⟨fun file hf => (hc.files file hf).distinct.of_map _, ?_⟩
  refine (List.pairwise_map.mp hc.namespaces).imp_of_mem ?_
  intro f g hf hg hne d hd hd'
  exact hne (((hc.files f hf).owned d hd).symm.trans ((hc.files g hg).owned d hd'))

/-- A namespace has one file, and a file one declaration of a name. -/
theorem Coherent.eq_of_names (hc : c.Coherent) (hd : d ∈ c.declarations)
    (he : e ∈ c.declarations) (hns : d.ns = e.ns) (hname : d.name = e.name) : d = e := by
  obtain ⟨f, hf, hd⟩ := mem_declarations.mp hd
  obtain ⟨g, hg, he⟩ := mem_declarations.mp he
  rw [(hc.files f hf).owned d hd, (hc.files g hg).owned e he] at hns
  obtain rfl := List.inj_on_of_nodup_map hc.namespaces hf hg hns
  exact List.inj_on_of_nodup_map (hc.files f hf).distinct hd he hname

theorem eq_of_qualifiedName (hc : c.Coherent) (hdot : c.Dotless) (hd : d ∈ c.declarations)
    (he : e ∈ c.declarations) (h : d.qualifiedName = e.qualifiedName) : d = e := by
  obtain ⟨hns, hname⟩ := (Qualified.join_inj (hdot d hd) (hdot e he)).mp h
  exact hc.eq_of_names hd he hns hname

theorem nodup_qualifiedNames (hc : c.Coherent) (hdot : c.Dotless) :
    (c.declarations.map (·.qualifiedName)).Nodup :=
  hc.nodup_declarations.map_on fun _ hd _ he h => eq_of_qualifiedName hc hdot hd he h

/-! ## Positions -/

theorem getElem?_of_lastPosition? {name : String} {names : List String} {i : Nat}
    (h : lastPosition? name names = some i) : names[i]? = some name := by
  induction names generalizing i with
  | nil => simp [lastPosition?] at h
  | cons n rest ih =>
    unfold lastPosition? at h
    split at h
    · next j hj =>
      cases h
      exact ih hj
    · split at h
      · next hn =>
        cases h
        simp [hn]
      · cases h

/-- Where no name is repeated, the last position of a name is the only one. -/
theorem lastPosition?_eq_some_iff {name : String} {names : List String} (hn : names.Nodup)
    {i : Nat} : lastPosition? name names = some i ↔ names[i]? = some name := by
  refine ⟨getElem?_of_lastPosition?, fun hi => ?_⟩
  obtain ⟨j, hj⟩ := exists_lastPosition? (List.mem_of_getElem? hi)
  have hat := getElem?_of_lastPosition? hj
  obtain ⟨hlt, -⟩ := List.getElem?_eq_some_iff.mp hat
  rw [hj, (List.getElem?_inj hlt hn).mp (hat.trans hi.symm)]

/-- The number that a name is linked to is that of a declaration of this name. -/
theorem exists_of_idOf {name : String} {i : Nat} (h : c.idOf name = .ok i) :
    ∃ d, c.declarations[i]? = some d ∧ d.qualifiedName = name := by
  unfold idOf at h
  split at h
  · next j hj =>
    cases h
    simpa using getElem?_of_lastPosition? hj
  · cases h

section

variable {m : LinkedModel}

theorem getElem?_of_link (h : c.link = .ok m) (i : Nat) :
    (c.declarations[i]? = none ∧ m.declarations[i]? = none) ∨
      ∃ linked, c.declarations[i]? = some linked.declaration ∧
        m.declarations[i]? = some linked ∧ linked.id = i := by
  obtain ⟨_, -, hall⟩ := bind_ok_iff.mp h
  obtain ⟨ds, hds, rfl⟩ := map_ok_iff.mp hall
  rcases getElem?_of_mapM hds i with ⟨hn, hn'⟩ | ⟨⟨d, id⟩, linked, hd, hl, hlink⟩
  · exact .inl ⟨by simpa using hn, hn'⟩
  · obtain ⟨rfl, rfl, -⟩ := linkDeclaration_spec hlink
    simp only [List.getElem?_zipIdx, Option.map_eq_some_iff, Prod.mk.injEq, Nat.zero_add] at hd
    obtain ⟨d, hd, rfl, rfl⟩ := hd
    exact .inr ⟨linked, hd, hl, rfl⟩

/-- A linked declaration has the number of its place in the catalog. -/
theorem get?_of_link (h : c.link = .ok m) {i : Nat} {linked : LinkedDeclaration}
    (hl : m.get? i = some linked) :
    c.declarations[i]? = some linked.declaration ∧ linked.id = i := by
  rcases getElem?_of_link h i with ⟨-, hn⟩ | ⟨linked', hd, hl', hid⟩
  · rw [LinkedModel.get?, hn] at hl
    cases hl
  · obtain rfl := Option.some.inj (hl.symm.trans hl')
    exact ⟨hd, hid⟩

theorem exists_get?_of_link (h : c.link = .ok m) {i : Nat} (hd : c.declarations[i]? = some d) :
    ∃ linked, m.get? i = some linked ∧ linked.declaration = d ∧ linked.id = i := by
  rcases getElem?_of_link h i with ⟨hn, -⟩ | ⟨linked, hd', hl, hid⟩
  · rw [hn] at hd
    cases hd
  · exact ⟨linked, hl, Option.some.inj (hd'.symm.trans hd), hid⟩

/-- Linking keeps the declarations in their order. -/
theorem declarations_of_link (h : c.link = .ok m) :
    m.declarations.map (·.declaration) = c.declarations := by
  refine List.ext_getElem? fun i => ?_
  rw [List.getElem?_map]
  rcases getElem?_of_link h i with ⟨hn, hn'⟩ | ⟨linked, hd, hl, -⟩
  · rw [hn, hn', Option.map_none]
  · rw [hd, hl, Option.map_some]

theorem idOf?_of_link (h : c.link = .ok m) (name : String) :
    m.idOf? name = lastPosition? name (c.declarations.map (·.qualifiedName)) := by
  rw [LinkedModel.idOf?, ← declarations_of_link h, List.map_map]
  rfl

theorem getElem?_map_of_link (h : c.link = .ok m) (i : Nat) :
    (m.get? i).map (·.declaration) = c.declarations[i]? := by
  rw [← declarations_of_link h, List.getElem?_map, LinkedModel.get?]

theorem map_find?_of_link (h : c.link = .ok m) (name : String) :
    (m.find? name).map (·.declaration)
      = (lastPosition? name (c.declarations.map (·.qualifiedName))).bind (c.declarations[·]?) := by
  rw [LinkedModel.find?, idOf?_of_link h, Option.map_bind]
  exact congrArg _ (funext fun i => getElem?_map_of_link h i)

/-- By its qualified name, a linked model finds the only declaration that has it. -/
theorem find?_of_link (hc : c.Coherent) (hdot : c.Dotless) (h : c.link = .ok m) {name : String} :
    (m.find? name).map (·.declaration) = some d ↔
      d ∈ c.declarations ∧ d.qualifiedName = name := by
  rw [map_find?_of_link h, Option.bind_eq_some_iff]
  simp only [lastPosition?_eq_some_iff (nodup_qualifiedNames hc hdot), List.getElem?_map]
  constructor
  · rintro ⟨i, hname, hi⟩
    rw [hi] at hname
    exact ⟨List.mem_of_getElem? hi, Option.some.inj hname⟩
  · rintro ⟨hd, rfl⟩
    obtain ⟨i, hi⟩ := List.mem_iff_getElem?.mp hd
    exact ⟨i, by rw [hi, Option.map_some], hi⟩

end

/-! ## One declaration for a name -/

/-- Looking up the qualified name of a declaration leads back to it exactly where its own name has
no dot and is not empty. Without dots, the number linked to the name is the position of the
declaration; with local names only, catalog and linked model find the same under every name. -/
theorem qualifiedName_identifies (hr : c.Reachable) (h : c.check = .ok ()) :
    (∀ d ∈ c.declarations, c.find d.qualifiedName = .ok d ↔ IsLocal d.name) ∧
      ∃ m, c.link = .ok m ∧
        (c.Dotless → ∀ i d, c.declarations[i]? = some d → m.idOf? d.qualifiedName = some i) ∧
        ((∀ d ∈ c.declarations, IsLocal d.name) → ∀ name d,
          (m.find? name).map (·.declaration) = some d ↔ c.find name = .ok d) := by
  have hc := hr.coherent
  obtain ⟨m, hlink⟩ := exists_link hc h
  refine ⟨fun d hd => ?_, m, hlink, fun hdot i d hi => ?_, fun hlocal name d => ?_⟩
  · rw [find_eq_ok_iff hr]
    exact ⟨fun hf => hf.2.2, fun hl => ⟨hd, rfl, hl⟩⟩
  · rw [idOf?_of_link hlink, lastPosition?_eq_some_iff (nodup_qualifiedNames hc hdot),
      List.getElem?_map, hi, Option.map_some]
  · rw [find?_of_link hc (fun d hd => (hlocal d hd).dotless) hlink, find_eq_ok_iff hr]
    exact ⟨fun ⟨hd, hn⟩ => ⟨hd, hn, hlocal d hd⟩, fun ⟨hd, hn, _⟩ => ⟨hd, hn⟩⟩

theorem identifies_zoo : Sample.zoo.find "zoo.Dog" = .ok Sample.dog ∧
    ∃ m, Sample.zoo.link = .ok m ∧ m.idOf? "zoo.Puppy" = some 2 ∧
      ∀ name d, (m.find? name).map (·.declaration) = some d ↔ Sample.zoo.find name = .ok d := by
  have hlocal : ∀ d ∈ Sample.zoo.declarations, IsLocal d.name := by
    rintro d (_ | ⟨_, _ | ⟨_, _ | ⟨_, ⟨⟩⟩⟩⟩) <;> exact ⟨by decide, by decide⟩
  obtain ⟨hfind, m, hm, hid, hsame⟩ := qualifiedName_identifies Sample.zoo_reachable (by cbv)
  have hdog : Sample.dog ∈ Sample.zoo.declarations := List.mem_of_getElem? (i := 1) rfl
  exact ⟨(hfind Sample.dog hdog).mpr (hlocal Sample.dog hdog), m, hm,
    hid (fun d hd => (hlocal d hd).dotless) 2 Sample.puppy rfl, hsame hlocal⟩

end Catalog

/-! ## Names with a dot -/

namespace Sample

def mongrel : Declaration := concept "old.Dog" none []

def stray : Declaration := concept "" none []

def hound : Declaration := { concept "Dog" none [] with ns := "zoo.old" }

/-- Two declarations of one qualified name, and one with no name of its own. -/
def kennel : Catalog := ⟨.standard, [⟨"zoo", [], [mongrel, stray]⟩, ⟨"zoo.old", [], [hound]⟩]⟩

theorem kennel_reachable : kennel.Reachable :=
  .addFragment (f := ⟨none, "zoo.old", [], [written "Dog" none []]⟩)
    (.addFragment (f := ⟨none, "zoo", [], [written "old.Dog" none [], written "" none []]⟩)
      (.empty .standard) (by rfl)) (by rfl)

end Sample

namespace Catalog

/-- The check lets all three pass. The name of the first leads to the last, by look-up and by
number, and that of the second leads nowhere but in the linked model. -/
theorem kennel_misidentifies :
    Sample.kennel.Reachable ∧ Sample.kennel.check = .ok () ∧
      Sample.kennel.declarations = [Sample.mongrel, Sample.stray, Sample.hound] ∧
      Sample.kennel.find Sample.mongrel.qualifiedName = .ok Sample.hound ∧
      Sample.hound ≠ Sample.mongrel ∧
      Sample.kennel.find Sample.stray.qualifiedName = .error (.typeNotFound "zoo." none) ∧
      ∃ m, Sample.kennel.link = .ok m ∧ m.idOf? Sample.mongrel.qualifiedName = some 2 ∧
        (m.find? Sample.stray.qualifiedName).isSome = true := by
  have hcheck : Sample.kennel.check = .ok () := by cbv
  have hlink : Sample.kennel.link.isOk = true := by decide +kernel
  obtain ⟨m, hm⟩ := isOk_iff.mp hlink
  refine ⟨Sample.kennel_reachable, hcheck, rfl, by cbv, ?_, by cbv, m, hm, ?_, ?_⟩
  · intro h
    have := congrArg Declaration.name h
    simp [Sample.hound, Sample.mongrel, Sample.concept] at this
  · rw [idOf?_of_link hm]
    decide +kernel
  · rw [← Option.isSome_map, map_find?_of_link hm]
    decide +kernel

end Catalog

end ModelCatalog
