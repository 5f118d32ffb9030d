import Mathlib.Data.List.DropRight
import ModelCatalog.Publication
import ModelCatalog.Proofs.Registration

/-! # Putting a draft together

A call on a draft takes in one file or changes nothing. So the files of a draft are those of the
calls that were answered well, in their order, and what is true of a file as it was read is true of
it there, however many calls failed in between.
-/
namespace ModelCatalog

/-! ## Trimmed texts -/

namespace Text

/-- A text without a blank at either end. -/
structure IsTrimmed (s : String) : Prop where
  first : ∀ c ∈ s.toList.head?, isBlank c = false
  last : ∀ c ∈ s.toList.getLast?, isBlank c = false

theorem isTrimmed_trim (s : String) : IsTrimmed (trim s) := by
  have htrim : (trim s).toList = (s.toList.dropWhile isBlank).rdropWhile isBlank := by
    rw [trim, String.toList_ofList, List.rdropWhile]
  constructor
  · -- what is cut off at the end does not change the beginning
    intro c hc
    rw [htrim] at hc
    obtain ⟨rest, hrest⟩ := List.rdropWhile_prefix isBlank (l := s.toList.dropWhile isBlank)
    have hhead : (s.toList.dropWhile isBlank).head? = some c := by
      rw [← hrest, List.head?_append, Option.mem_def.mp hc, Option.some_or]
    simpa [hhead] using List.head?_dropWhile_not isBlank s.toList
  · intro c hc
    rw [htrim] at hc
    obtain ⟨hne, rfl⟩ := List.mem_getLast?_eq_getLast hc
    simpa using List.rdropWhile_last_not isBlank (s.toList.dropWhile isBlank) hne

end Text

theorem ModelFile.isTrimmed_ns {f : ModelFragment} {file : ModelFile}
    (h : ofFragment f = .ok file) : Text.IsTrimmed file.ns := by
  rw [(ofFragment_spec h).1]
  exact Text.isTrimmed_trim f.ns

/-! ## Calls -/

/-- A call that adds a file: one that was read before, a fragment or a value. -/
inductive Addition where
  | file (file : ModelFile) (read : ∃ f, ModelFile.ofFragment f = .ok file)
  | fragment (f : ModelFragment)
  | json (j : Json)

namespace Addition

def call : Addition → Draft.Call Unit
  | .file g _ => Draft.add g
  | .fragment f => Draft.addFragment f
  | .json j => Draft.addJson j

/-- The file that is to be added, if there is one in what was given. -/
def read : Addition → Except ModelError ModelFile
  | .file g _ => .ok g
  | .fragment f => ModelFile.ofFragment f
  | .json j => ModelFile.ofJson j

/-- A call reads what it was given and then adds the file. -/
theorem call_eq (a : Addition) : a.call = (do Draft.add (← a.read)) := by
  cases a <;> rfl

/-- The same call on a catalog. -/
def addTo (a : Addition) (c : Catalog) : Except ModelError Catalog :=
  match a with
  | .file g _ => c.add g
  | .fragment f => c.addFragment f
  | .json j => c.addJson j

theorem addTo_eq (a : Addition) (c : Catalog) : a.addTo c = (do c.add (← a.read)) := by
  cases a <;> rfl

theorem reachable_of_addTo {a : Addition} {c c' : Catalog} (hr : c.Reachable)
    (h : a.addTo c = .ok c') : c'.Reachable := by
  cases a with
  | file g hg =>
    obtain ⟨f, hf⟩ := hg
    exact .add hr hf h
  | fragment f => exact .addFragment hr h
  | json j => exact .addJson hr h

end Addition

namespace Draft

variable {t : Draft} {a : Addition} {file : ModelFile} {ns : String}

/-- The draft with one more file. -/
def keep (t : Draft) (file : ModelFile) : Draft where
  settings := t.settings
  files := t.files ++ [(file.ns, file)]
  count := t.count + file.declarations.length

/-- Why a call is refused: there is no file in what was given, or its namespace is taken. -/
inductive Refuses (t : Draft) (a : Addition) : ModelError → Prop
  | unread {e : ModelError} : a.read = .error e → Refuses t a e
  | taken {file : ModelFile} : a.read = .ok file → file.ns ∈ t.namespaces →
    Refuses t a (.duplicateNamespace file.ns)

theorem file?_isSome_iff : (t.file? ns).isSome = true ↔ ns ∈ t.namespaces := by
  simp [file?, namespaces]

theorem perform_get_bind {α : Type} (next : Draft → Call α) :
    t.perform (get >>= next) = t.perform (next t) := rfl

/-- A file of a new namespace is taken in, and any other leaves the draft alone. -/
theorem perform_add : t.perform (add file) =
    if (t.file? file.ns).isSome then (.error (.duplicateNamespace file.ns), t)
    else (.ok (), t.keep file) := by
  rw [add, perform_get_bind]
  split <;> rfl

/-- All that a call can do: it is refused, for a reason that can be told, and changes nothing, or
it takes in a file of a new namespace. -/
theorem perform_cases (t : Draft) (a : Addition) :
    (∃ e, t.Refuses a e ∧ t.perform a.call = (.error e, t)) ∨
      ∃ file, a.read = .ok file ∧ file.ns ∉ t.namespaces ∧
        t.perform a.call = (.ok (), t.keep file) := by
  cases hread : a.read with
  | error e =>
    refine .inl ⟨e, .unread hread, ?_⟩
    rw [a.call_eq, hread]
    rfl
  | ok file =>
    have hadd : t.perform a.call = t.perform (add file) := by
      rw [a.call_eq, hread]
      rfl
    rw [hadd, perform_add]
    by_cases htaken : file.ns ∈ t.namespaces
    · exact .inl ⟨_, .taken hread htaken, if_pos (file?_isSome_iff.mpr htaken)⟩
    · exact .inr ⟨file, rfl, htaken, if_neg (mt file?_isSome_iff.mp htaken)⟩

/-! ## What a call keeps -/

/-- What was found in the one draft is found in the other. -/
structure Keeps (t' t : Draft) : Prop where
  file? : ∀ ns file, t.file? ns = some file → t'.file? ns = some file
  find : ∀ name d, t.catalog.find name = .ok d → t'.catalog.find name = .ok d

theorem files_catalog_keep (t : Draft) (file : ModelFile) :
    (t.keep file).catalog.files = t.catalog.files ++ [file] := by
  simp [catalog, keep]

/-- A new file comes after all others, so it hides none of them. -/
theorem keeps_keep (t : Draft) (file : ModelFile) : (t.keep file).Keeps t := by
  constructor
  · intro ns g h
    obtain ⟨entry, hentry, rfl⟩ := Option.map_eq_some_iff.mp h
    rw [Draft.file?, keep, List.find?_append, hentry]
    rfl
  · refine fun name d => Catalog.find_mono fun ns g h => ?_
    rw [Catalog.file?] at h ⊢
    rw [files_catalog_keep, List.find?_append, h]
    rfl

/-! ## Sound drafts -/

/-- What every draft satisfies: the catalog in it was built of files that were read, and what is
kept along with the files agrees with them. -/
structure Consistent (t : Draft) : Prop where
  keyed : ∀ entry ∈ t.files, entry.1 = entry.2.ns
  counted : t.count = t.catalog.declarations.length
  reachable : t.catalog.Reachable

theorem consistent_empty (s : Settings) : (empty s).Consistent where
  keyed := by simp [empty]
  counted := rfl
  reachable := .empty s

theorem Consistent.namespaces_eq (h : t.Consistent) : t.namespaces = t.catalog.namespaces := by
  rw [namespaces, Catalog.namespaces, catalog, List.map_map]
  exact List.map_congr_left h.keyed

/-- Looking for a file by the name it is kept under is looking for it by its own. -/
theorem Consistent.catalog_file?_eq (h : t.Consistent) (ns : String) :
    t.catalog.file? ns = t.file? ns := by
  have hkeyed : t.files.find? (·.1 = ns) = t.files.find? (·.2.ns = ns) :=
    List.find?_congr fun entry hentry => by rw [h.keyed entry hentry]
  rw [Catalog.file?, Draft.catalog, List.find?_map, Draft.file?, hkeyed]
  rfl

/-- A call on a draft does to its catalog what the same call on the catalog does, and fails for the
same reason. -/
theorem Consistent.perform_simulates (h : t.Consistent) (a : Addition) :
    (t.perform a.call).1.map (fun _ => (t.perform a.call).2.catalog) = a.addTo t.catalog := by
  rw [a.call_eq, a.addTo_eq]
  cases a.read with
  | error e => rfl
  | ok file =>
    have hadd : (t.perform (add file)).1.map (fun _ => (t.perform (add file)).2.catalog)
        = t.catalog.add file := by
      rw [perform_add, Catalog.add, h.catalog_file?_eq]
      split
      · rfl
      · rw [← files_catalog_keep]
        rfl
    exact hadd

/-- What a catalog may grow to, the catalog of a draft may. -/
theorem Consistent.keep (h : t.Consistent) (hp : t.perform a.call = (.ok (), t.keep file)) :
    (t.keep file).Consistent where
  keyed := by
    intro entry hentry
    rcases List.mem_append.mp hentry with hentry | hentry
    · exact h.keyed entry hentry
    · rw [List.mem_singleton.mp hentry]
  counted := by
    rw [Catalog.declarations, files_catalog_keep, List.flatMap_append, List.length_append,
      List.flatMap_singleton]
    exact congrArg (· + file.declarations.length) h.counted
  reachable := by
    have hadd : a.addTo t.catalog = .ok (t.keep file).catalog := by
      rw [← h.perform_simulates, hp]
      rfl
    exact Addition.reachable_of_addTo h.reachable hadd

/-- A draft in which each file is kept under its own namespace and each declaration belongs to the
file it stands in, no name is repeated where it is looked up, and the count is right. -/
structure Sound (t : Draft) : Prop where
  distinct : t.namespaces.Nodup
  named : ∀ ns ∈ t.namespaces, ns ≠ "" ∧ Text.IsTrimmed ns
  keyed : ∀ entry ∈ t.files, entry.1 = entry.2.ns ∧ t.file? entry.1 = some entry.2
  owned : ∀ entry ∈ t.files, ∀ d ∈ entry.2.declarations,
    d.ns = entry.1 ∧ entry.2.local? d.name = some d
  declarations : ∀ entry ∈ t.files, (entry.2.declarations.map (·.name)).Nodup
  properties : ∀ entry ∈ t.files, ∀ d ∈ entry.2.declarations, (d.properties.map (·.name)).Nodup
  counted : t.count = t.catalog.declarations.length
  /-- The catalog finds the files that the draft finds. -/
  catalog : ∀ ns, t.catalog.file? ns = t.file? ns

namespace Consistent

variable (h : t.Consistent)

include h

theorem distinct : t.namespaces.Nodup := h.namespaces_eq ▸ h.reachable.coherent.namespaces

variable {entry : String × ModelFile} (hentry : entry ∈ t.files)

include hentry

theorem file?_eq : t.file? entry.1 = some entry.2 := by
  have hdistinct : (t.files.map (·.1)).Nodup := h.distinct
  rw [Draft.file?, find?_key_of_mem hdistinct hentry]
  rfl

theorem coherent : entry.2.Coherent :=
  h.reachable.coherent.files entry.2 (List.mem_map_of_mem hentry)

omit hentry

theorem sound : t.Sound where
  distinct := h.distinct
  named := by
    rw [h.namespaces_eq]
    intro ns hns
    obtain ⟨file, hfile, rfl⟩ := List.mem_map.mp hns
    obtain ⟨f, hf⟩ := h.reachable.read file hfile
    exact ⟨ModelFile.ns_ne_empty hf, ModelFile.isTrimmed_ns hf⟩
  keyed := fun entry hentry => ⟨h.keyed entry hentry, h.file?_eq hentry⟩
  owned := by
    intro entry hentry d hd
    have hfile := h.coherent hentry
    exact ⟨(hfile.owned d hd).trans (h.keyed entry hentry).symm,
      find?_key_of_mem hfile.distinct hd⟩
  declarations := fun _ hentry => (h.coherent hentry).distinct
  properties := fun _ hentry => (h.coherent hentry).members
  counted := h.counted
  catalog := h.catalog_file?_eq

end Consistent

/-! ## Runs -/

/-- The draft that calls leave, one after the other. -/
def after (t : Draft) (calls : List Addition) : Draft :=
  calls.foldl (fun t a => (t.perform a.call).2) t

/-- Those of the calls that are answered well. -/
def accepted (t : Draft) : List Addition → List Addition
  | [] => []
  | a :: rest =>
    match t.perform a.call with
    | (.ok (), t') => a :: t'.accepted rest
    | (.error _, t') => t'.accepted rest

/-- A run from a consistent draft ends in one, and appends the files of the calls that were answered
well to those that were there. -/
theorem Consistent.after (h : t.Consistent) (calls : List Addition) :
    (t.after calls).Consistent ∧ (t.after calls).settings = t.settings ∧
      ∃ new, (t.after calls).files = t.files ++ new ∧
        List.Forall₂ (fun a entry => a.read = .ok entry.2) (t.accepted calls) new := by
  induction calls generalizing t with
  | nil => exact ⟨h, rfl, [], (List.append_nil _).symm, .nil⟩
  | cons a rest ih =>
    rw [Draft.after, List.foldl_cons, ← Draft.after, accepted]
    rcases t.perform_cases a with ⟨e, -, hp⟩ | ⟨file, hread, hfresh, hp⟩
    · rw [hp]
      exact ih h
    · rw [hp]
      obtain ⟨hrest, hsettings, new, hnew, haccepted⟩ := ih (h.keep hp)
      refine ⟨hrest, hsettings, (file.ns, file) :: new, ?_, .cons hread haccepted⟩
      rw [hnew, Draft.keep, List.append_assoc, List.singleton_append]

/-- However calls on an empty draft are answered, the draft is sound and has the files of those
answered well, in their order. The next call either is refused and changes nothing, or adds the file
it was given and changes nothing of what was found before. -/
theorem sound_after (s : Settings) (calls : List Addition) (a : Addition) :
    let t := (empty s).after calls
    t.Sound ∧ t.settings = s ∧
      List.Forall₂ (fun a entry => a.read = .ok entry.2) ((empty s).accepted calls) t.files ∧
      ((∃ e, t.Refuses a e ∧ t.perform a.call = (.error e, t)) ∨
        ∃ file t', a.read = .ok file ∧ file.ns ∉ t.namespaces ∧ t.perform a.call = (.ok (), t') ∧
          t'.files = t.files ++ [(file.ns, file)] ∧ t'.Keeps t) := by
  intro t
  obtain ⟨hc, hsettings, new, hnew, haccepted⟩ := (consistent_empty s).after calls
  refine ⟨hc.sound, hsettings, hnew ▸ haccepted, ?_⟩
  rcases t.perform_cases a with ⟨e, he, hp⟩ | ⟨file, hread, hfresh, hp⟩
  · exact .inl ⟨e, he, hp⟩
  · exact .inr ⟨file, t.keep file, hread, hfresh, hp, rfl, t.keeps_keep file⟩

/-- The second call repeats a namespace that the first was trimmed to, and the third gives nothing
that could be read. -/
example : ((empty .standard).after [.fragment ⟨none, " zoo ", [], []⟩,
    .fragment ⟨none, "zoo", [], []⟩, .json .null, .fragment ⟨none, "farm", [], []⟩]).namespaces
      = ["zoo", "farm"] := by rfl

end Draft

end ModelCatalog
