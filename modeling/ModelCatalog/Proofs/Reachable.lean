import ModelCatalog.Catalog.Basic
import ModelCatalog.Proofs.Variant

/-! # Catalogs that can be built

A catalog starts empty and grows by files that were read from fragments. Reading rejects repeated
names and adding rejects repeated namespaces, so in every catalog that can be built a name is found
where it is declared. All later results on catalogs rest on this and not on how they were built.
-/
namespace ModelCatalog

/-- In a list without repeated keys, looking for the key of an element finds that element. -/
theorem find?_key_of_mem {α : Type} {key : α → String} {l : List α}
    (hl : (l.map key).Nodup) {a : α} (ha : a ∈ l) :
    l.find? (fun b => key b = key a) = some a := by
  obtain ⟨b, hb⟩ := Option.isSome_iff_exists.mp
    (List.find?_isSome (p := fun b => key b = key a) |>.mpr ⟨a, ha, by simp⟩)
  have hk : key b = key a := by simpa using List.find?_some hb
  rw [hb, List.inj_on_of_nodup_map hl (List.mem_of_find?_eq_some hb) ha hk]

/-! ## Files -/

/-- A file owns its declarations and repeats no name, nor do its declarations. -/
structure ModelFile.Coherent (file : ModelFile) : Prop where
  owned : ∀ d ∈ file.declarations, d.ns = file.ns
  distinct : (file.declarations.map (·.name)).Nodup
  members : ∀ d ∈ file.declarations, (d.properties.map (·.name)).Nodup

namespace Declaration

/-- What a fragment is read as keeps its namespace and repeats no member. -/
theorem ofFragment_spec {ns : String} {f : DeclarationFragment} {d : Declaration}
    (h : ofFragment ns f = .ok d) : d.ns = ns ∧ (d.properties.map (·.name)).Nodup := by
  obtain ⟨cls, ps, body, -, hm, hbuilds, rfl⟩ := ofFragment_ok_iff.mp h
  exact ⟨rfl, (hbuilds.holds hm).members.distinct⟩

theorem ofJson_spec {ns : String} {j : Json} {d : Declaration} (h : ofJson ns j = .ok d) :
    d.ns = ns ∧ (d.properties.map (·.name)).Nodup := by
  obtain ⟨f, -, hf⟩ := bind_ok_iff.mp h
  exact ofFragment_spec hf

end Declaration

namespace ModelFile

theorem readDeclarations_eq {ns : String} {js : List Json} {done : List Declaration} :
    readDeclarations ns js done
      = readDistinct (Declaration.ofJson ns) (·.name) (fun d => .duplicateDeclaration ns d.name)
          js done := by
  induction js generalizing done with
  | nil => rfl
  | cons j rest ih => simp only [readDeclarations, readDistinct, ih]

/-- A file has the namespace of its fragment, trimmed and not empty, and the declarations that are
listed there. -/
theorem ofFragment_spec {f : ModelFragment} {file : ModelFile} (h : ofFragment f = .ok file) :
    file.ns = Text.trim f.ns ∧ file.ns ≠ "" ∧
      Reads (Declaration.ofJson file.ns) (·.name) f.declarations file.declarations := by
  unfold ofFragment at h
  simp only at h
  split at h
  · cases h
  · next hns =>
    simp only [bind_ok_iff, pure_ok_iff, readDeclarations_eq, readDistinct_nil_ok_iff] at h
    obtain ⟨-, -, imports, -, ds, hds, rfl⟩ := h
    exact ⟨rfl, by simpa using hns, hds⟩

theorem ofFragment_coherent {f : ModelFragment} {file : ModelFile} (h : ofFragment f = .ok file) :
    file.Coherent := by
  obtain ⟨-, -, hread⟩ := ofFragment_spec h
  have hspec : ∀ d ∈ file.declarations, d.ns = file.ns ∧ (d.properties.map (·.name)).Nodup := by
    intro d hd
    obtain ⟨j, -, hj⟩ := hread.exists_entry hd
    exact Declaration.ofJson_spec hj
  exact ⟨fun d hd => (hspec d hd).1, hread.distinct, fun d hd => (hspec d hd).2⟩

theorem local?_eq_some {file : ModelFile} {name : String} {d : Declaration}
    (h : file.local? name = some d) : d ∈ file.declarations ∧ d.name = name :=
  ⟨List.mem_of_find?_eq_some h, of_decide_eq_true (List.find?_some h :)⟩

theorem local?_isSome_iff {file : ModelFile} {name : String} :
    (file.local? name).isSome = true ↔ ∃ d ∈ file.declarations, d.name = name := by
  simp [local?]

end ModelFile

theorem Declaration.property?_eq_some {d : Declaration} {name : String} {p : Property}
    (h : d.property? name = some p) : p ∈ d.properties ∧ p.name = name :=
  ⟨List.mem_of_find?_eq_some h, of_decide_eq_true (List.find?_some h :)⟩

/-! ## Catalogs -/

namespace Catalog

/-- What a catalog grows by was read from a fragment. -/
inductive Reachable : Catalog → Prop
  | empty (s : Settings) : Reachable (.empty s)
  | add {c c' : Catalog} {f : ModelFragment} {file : ModelFile} :
    Reachable c → ModelFile.ofFragment f = .ok file → c.add file = .ok c' → Reachable c'
  | addFragment {c c' : Catalog} {f : ModelFragment} :
    Reachable c → c.addFragment f = .ok c' → Reachable c'
  | addJson {c c' : Catalog} {j : Json} : Reachable c → c.addJson j = .ok c' → Reachable c'

/-- No namespace is repeated, and the files are in order. -/
structure Coherent (c : Catalog) : Prop where
  namespaces : (c.files.map (·.ns)).Nodup
  files : ∀ file ∈ c.files, file.Coherent

theorem add_eq_ok {c c' : Catalog} {file : ModelFile} (h : c.add file = .ok c') :
    (c.files.any fun g => decide (g.ns = file.ns)) = false ∧
      c' = { c with files := c.files ++ [file] } := by
  obtain ⟨hf, hc⟩ := guard_ok_iff.mp h
  refine ⟨?_, (Except.ok.inj hc).symm⟩
  simpa [file?, List.any_eq_false] using hf

theorem Coherent.add {c c' : Catalog} {file : ModelFile} (hc : c.Coherent) (hf : file.Coherent)
    (h : c.add file = .ok c') : c'.Coherent := by
  obtain ⟨hn, rfl⟩ := add_eq_ok h
  refine ⟨nodup_keys_concat hc.namespaces hn, ?_⟩
  intro g hg
  rcases List.mem_append.mp hg with hg | hg
  · exact hc.files g hg
  · exact List.mem_singleton.mp hg ▸ hf

theorem Reachable.coherent {c : Catalog} (h : c.Reachable) : c.Coherent := by
  induction h with
  | empty s => exact ⟨List.nodup_nil, by simp [Catalog.empty]⟩
  | add _ hf ha ih => exact ih.add (ModelFile.ofFragment_coherent hf) ha
  | addFragment _ ha ih =>
    obtain ⟨file, hf, ha⟩ := bind_ok_iff.mp ha
    exact ih.add (ModelFile.ofFragment_coherent hf) ha
  | addJson _ ha ih =>
    obtain ⟨file, hf, ha⟩ := bind_ok_iff.mp ha
    obtain ⟨f, -, hf⟩ := bind_ok_iff.mp hf
    exact ih.add (ModelFile.ofFragment_coherent hf) ha

theorem mem_declarations {c : Catalog} {d : Declaration} :
    d ∈ c.declarations ↔ ∃ file ∈ c.files, d ∈ file.declarations := List.mem_flatMap

theorem file?_eq_some {c : Catalog} {ns : String} {file : ModelFile} (h : c.file? ns = some file) :
    file ∈ c.files ∧ file.ns = ns :=
  ⟨List.mem_of_find?_eq_some h, of_decide_eq_true (List.find?_some h :)⟩

namespace Coherent

variable {c : Catalog} {d : Declaration}

theorem file?_ns (hc : c.Coherent) {file : ModelFile} (h : file ∈ c.files) :
    c.file? file.ns = some file := find?_key_of_mem hc.namespaces h

theorem nodup_members (hc : c.Coherent) (hd : d ∈ c.declarations) :
    (d.properties.map (·.name)).Nodup := by
  obtain ⟨file, hf, hd⟩ := mem_declarations.mp hd
  exact (hc.files file hf).members d hd

theorem property?_name (hc : c.Coherent) (hd : d ∈ c.declarations) {p : Property}
    (hp : p ∈ d.properties) : d.property? p.name = some p :=
  find?_key_of_mem (hc.nodup_members hd) hp

/-- The file of a declaration is the one it stands in. -/
theorem fileOf_eq_ok (hc : c.Coherent) {file : ModelFile} (hf : file ∈ c.files)
    (hd : d ∈ file.declarations) : c.fileOf d = .ok file := by
  have h := hc.file?_ns hf
  rw [← (hc.files file hf).owned d hd] at h
  simp [fileOf, h]

end Coherent

end Catalog

/-! ## Small catalogs -/

namespace Sample

/-- A concept as a model has it, with its super type and its texts. -/
def written (name : String) (superType : Option String) (texts : List String) : Json :=
  .object [("$class", .string "ConceptDeclaration"), ("name", .string name),
    ("superType", (superType.map fun t => .object [("name", .string t)]).getD .null),
    ("properties", .array (texts.map fun t =>
      .object [("$class", .string "StringProperty"), ("name", .string t)]))]

/-- The same as it is read. -/
def concept (name : String) (superType : Option String) (texts : List String) : Declaration :=
  ⟨"zoo", name, .ofClass ⟨.concept, superType.map (⟨none, ·⟩), false, none,
    texts.map (⟨·, .primitive .string, false, false, none, none, none⟩)⟩⟩

def animal : Declaration := concept "Animal" none ["name", "sound"]

def dog : Declaration := concept "Dog" (some "Animal") ["breed", "name"]

def puppy : Declaration := concept "Puppy" (some "Dog") ["age"]

/-- A class, one below it that declares a property again, and one below that. -/
def zoo : Catalog := ⟨.standard, [⟨"zoo", [], [animal, dog, puppy]⟩]⟩

theorem zoo_reachable : zoo.Reachable :=
  .addFragment (f := ⟨none, "zoo", [], [written "Animal" none ["name", "sound"],
    written "Dog" (some "Animal") ["breed", "name"], written "Puppy" (some "Dog") ["age"]]⟩)
    (.empty .standard) (by rfl)

def hen : Declaration := concept "Hen" (some "Egg") []

def egg : Declaration := concept "Egg" (some "Hen") []

def chick : Declaration := concept "Chick" (some "Egg") []

/-- Two classes that are each above the other, and one below them. -/
def ring : Catalog := ⟨.standard, [⟨"zoo", [], [hen, egg, chick]⟩]⟩

theorem ring_reachable : ring.Reachable :=
  .addFragment (f := ⟨none, "zoo", [], [written "Hen" (some "Egg") [],
    written "Egg" (some "Hen") [], written "Chick" (some "Egg") []]⟩)
    (.empty .standard) (by rfl)

def writtenReference (cls name type : String) : Json :=
  .object [("$class", .string cls), ("name", .string name),
    ("type", .object [("name", .string type)])]

def reference (name : String) (type : PropertyType) : Property :=
  ⟨name, type, false, false, none, none, none⟩

def withMember (name : String) (value : Json) : Json → Json
  | .object members => .object (members ++ [(name, value)])
  | j => j

def writtenLength (min : Nat) (max : Option Nat) : Json :=
  .object ([("minLength", .number (.integer min))]
    ++ max.toList.map fun n => ("maxLength", .number (.integer n)))

def anyName : Scalar := ⟨.string, some (.string "Rex"), none, some ⟨some 1, none⟩⟩

def nameScalar : Declaration := ⟨"pound", "Name", .ofScalar anyName⟩

def colour : Declaration :=
  ⟨"pound", "Colour", .ofEnum [reference "RED" .enumValue, reference "GREY" .enumValue]⟩

def petName : Property := reference "name" (.object ⟨none, "Name"⟩)

def pet : Declaration :=
  ⟨"pound", "Pet", .ofClass ⟨.concept, none, false, some (.field "name"),
    [petName,
      { reference "colour" (.object ⟨none, "Colour"⟩) with default := some (.string "GREY") }]⟩⟩

/-- The name again, with a rule that takes the place of the scalar's. -/
def kittenName : Property := { petName with lengthRule := some ⟨some 2, some 8⟩ }

def kitten : Declaration :=
  ⟨"pound", "Kitten", .ofClass ⟨.concept, some ⟨none, "Pet"⟩, false, none,
    [kittenName, reference "mother" (.relationship ⟨none, "Pet"⟩)]⟩⟩

/-- A class that is identified by a field of a scalar, and one below it that declares the field
again. -/
def pound : Catalog := ⟨.standard, [⟨"pound", [], [nameScalar, colour, pet, kitten]⟩]⟩

theorem pound_reachable : pound.Reachable :=
  .addFragment (f := ⟨none, "pound", [], [
    .object [("$class", .string "StringScalar"), ("name", .string "Name"),
      ("defaultValue", .string "Rex"), ("lengthValidator", writtenLength 1 none)],
    .object [("$class", .string "EnumDeclaration"), ("name", .string "Colour"),
      ("properties", .array [.object [("$class", .string "EnumProperty"), ("name", .string "RED")],
        .object [("$class", .string "EnumProperty"), ("name", .string "GREY")]])],
    .object [("$class", .string "ConceptDeclaration"), ("name", .string "Pet"),
      ("identified", .object [("$class", .string "IdentifiedBy"), ("name", .string "name")]),
      ("properties", .array [writtenReference "ObjectProperty" "name" "Name",
        withMember "defaultValue" (.string "GREY")
          (writtenReference "ObjectProperty" "colour" "Colour")])],
    .object [("$class", .string "ConceptDeclaration"), ("name", .string "Kitten"),
      ("superType", .object [("name", .string "Pet")]),
      ("properties", .array [
        withMember "lengthValidator" (writtenLength 2 (some 8))
          (writtenReference "ObjectProperty" "name" "Name"),
        writtenReference "RelationshipProperty" "mother" "Pet"])]]⟩)
    (.empty .standard) (by rfl)

end Sample

end ModelCatalog
