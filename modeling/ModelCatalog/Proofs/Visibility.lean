import ModelCatalog.Proofs.Handles

/-! # What bare names stand for

A name without a namespace means what the file that it is written in makes of it. What the file
declares comes first, then the imports that list the name, and last the wildcards whose namespace
declares it. The import gives the namespace and no more than that: the name is looked up again
behind it, and one with a dot in it is taken apart at another place than where it was joined.
-/
namespace ModelCatalog

open Qualified (IsLocal)

/-! ## What brings a name in -/

def ModelFile.Declares (file : ModelFile) (name : String) : Prop :=
  ∃ d ∈ file.declarations, d.name = name

namespace Catalog

/-- A file of the namespace declares the name. -/
def Declares (c : Catalog) (ns name : String) : Prop :=
  ∃ file ∈ c.files, file.ns = ns ∧ file.Declares name

/-- The first of a list that has the property. -/
def First {α : Type} (l : List α) (p : α → Prop) (a : α) : Prop :=
  ∃ before after, l = before ++ a :: after ∧ (∀ b ∈ before, ¬ p b) ∧ p a

/-- The import that brings a name into a file. -/
inductive Brings (c : Catalog) (file : ModelFile) (name : String) : Import → Prop
  | listed {i : Import} : First file.imports (name ∈ ·.names) i → Brings c file name i
  | wildcard {i : Import} : (∀ j ∈ file.imports, name ∉ j.names) →
    First file.imports (fun j => j.isWildcard = true ∧ c.Declares j.ns name) i →
    Brings c file name i

/-- What the names of types mean where a declaration of the file stands. -/
structure Understands (c : Catalog) (file : ModelFile) (s : Scope) : Prop where
  /-- The declaration that a name leads to has the qualified name that the name stands for. -/
  named : ∀ t e, s.resolve t = .ok e → s.qualify t = .ok e.qualifiedName
  own : ∀ e ∈ file.declarations, s.resolve ⟨none, e.name⟩ = .ok e
  /-- A name that the file does not declare leads to what can be found of the qualified name that
  it has by its import. -/
  imported : ∀ name, ¬ file.Declares name → ∀ e, s.resolve ⟨none, name⟩ = .ok e ↔
    ∃ i, c.Brings file name i ∧ e ∈ c.declarations ∧
      e.qualifiedName = Qualified.join i.ns name ∧ IsLocal e.name
  /-- Without a dot in it, that is what the namespace of the import declares under the name. -/
  dotless : ∀ name, ¬ file.Declares name → '.' ∉ name.toList → ∀ e,
    s.resolve ⟨none, name⟩ = .ok e → ∃ i, c.Brings file name i ∧ e.ns = i.ns ∧ e.name = name

section

variable {α : Type} {l : List α}

theorem first_iff {p : α → Prop} [DecidablePred p] {a : α} :
    First l p a ↔ l.find? (fun b => decide (p b)) = some a := by
  rw [List.find?_eq_some_iff_append]
  constructor
  · rintro ⟨before, after, rfl, hbefore, ha⟩
    exact ⟨decide_eq_true ha, before, after, rfl, fun b hb => by simpa using hbefore b hb⟩
  · rintro ⟨ha, before, after, rfl, hbefore⟩
    exact ⟨before, after, rfl, fun b hb => by simpa using hbefore b hb, of_decide_eq_true ha⟩

end

variable {c : Catalog} {file : ModelFile} {name : String} {i : Import}

theorem declares_iff (hc : c.Coherent) {ns : String} :
    ((c.file? ns).bind (·.local? name)).isSome = true ↔ c.Declares ns name := by
  constructor
  · intro h
    obtain ⟨d, hd⟩ := Option.isSome_iff_exists.mp h
    obtain ⟨file, hfile, hlocal⟩ := Option.bind_eq_some_iff.mp hd
    obtain ⟨hf, hns⟩ := file?_eq_some hfile
    exact ⟨file, hf, hns, d, ModelFile.local?_eq_some hlocal⟩
  · rintro ⟨file, hf, rfl, hdeclares⟩
    rw [hc.file?_ns hf, Option.bind_some]
    exact ModelFile.local?_isSome_iff.mpr hdeclares

theorem importOf?_eq_some_iff (hc : c.Coherent) :
    c.importOf? file name = some i ↔ c.Brings file name i := by
  classical
  have hlisted : file.imports.find? (·.names.contains name)
      = file.imports.find? (fun j => decide (name ∈ j.names)) := by
    simp only [List.contains_eq_mem]
  have hwild : (file.imports.find? fun i =>
      i.isWildcard && ((c.file? i.ns).bind (·.local? name)).isSome)
      = file.imports.find? fun j => decide (j.isWildcard = true ∧ c.Declares j.ns name) := by
    simp only [← declares_iff hc, Bool.decide_and, Bool.decide_eq_true]
  unfold importOf?
  rw [hlisted, hwild, Option.or_eq_some_iff, ← first_iff, ← first_iff, List.find?_eq_none]
  simp only [decide_eq_true_eq]
  constructor
  · rintro (h | ⟨hnone, h⟩)
    · exact .listed h
    · exact .wildcard hnone h
  · rintro (h | ⟨hnone, h⟩)
    · exact .inl h
    · exact .inr ⟨hnone, h⟩

/-! ## Names in files -/

variable {d e : Declaration}

theorem resolve_of_own (hc : c.Coherent) (hf : file ∈ c.files) (he : e ∈ file.declarations) :
    c.resolve file e.name = .ok e := by
  have hlocal : file.local? e.name = some e := find?_key_of_mem (hc.files file hf).distinct he
  rw [resolve, hlocal]

/-- What is not declared in the file is looked for where its import says. -/
theorem resolve_of_imported (hr : c.Reachable) (hown : ¬ file.Declares name) :
    c.resolve file name = .ok e ↔ ∃ i, c.Brings file name i ∧ e ∈ c.declarations ∧
      e.qualifiedName = Qualified.join i.ns name ∧ IsLocal e.name := by
  have hlocal : file.local? name = none := by
    rw [Option.eq_none_iff_forall_ne_some]
    intro d hd
    exact hown ⟨d, ModelFile.local?_eq_some hd⟩
  simp only [resolve, qualify, hlocal, Option.isSome_none, Bool.false_eq_true, if_false,
    ← importOf?_eq_some_iff hr.coherent, ← find_eq_ok_iff hr]
  cases c.importOf? file name with
  | none => simp [bind, Except.bind]
  | some i => simp [bind, Except.bind]

/-- Every declaration sees the names of types as its file does. -/
theorem understands_of_mem (hr : c.Reachable) (hd : d ∈ c.declarations) :
    ∃ file ∈ c.files, d ∈ file.declarations ∧ ∃ s, c.scope d = .ok s ∧ c.Understands file s := by
  have hc := hr.coherent
  obtain ⟨file, hf, hdf⟩ := mem_declarations.mp hd
  have hscope : c.scope d = .ok (c.scopeIn file d) := by
    rw [scope, hc.fileOf_eq_ok hf hdf, Except.map]
  refine ⟨file, hf, hdf, c.scopeIn file d, hscope, ?_, ?_, ?_, ?_⟩
  · intro t e he
    exact (scopeIn_resolve_eq_ok hc hf he).2
  · intro e he
    exact resolve_of_own hc hf he
  · intro name hown e
    exact resolve_of_imported hr hown
  · intro name hown hdot e he
    obtain ⟨i, hi, -, hname, hlocal⟩ := (resolve_of_imported hr hown).mp he
    exact ⟨i, hi, (Qualified.join_inj hlocal.dotless hdot).mp hname⟩

end Catalog

/-! ## A ranch -/

namespace Sample

/-- A scalar with a dot in its name. -/
def oldTag : Declaration := ⟨"zoo", "old.Tag", .ofScalar ⟨.string, none, none, none⟩⟩

def collar : Declaration := ⟨"zoo", "Collar", .ofScalar ⟨.string, none, none, none⟩⟩

/-- What the qualified name of the first leads to. -/
def plainTag : Declaration := ⟨"zoo.old", "Tag", .ofScalar ⟨.integer, none, none, none⟩⟩

def oldCollar : Declaration := ⟨"zoo.old", "Collar", .ofScalar ⟨.integer, none, none, none⟩⟩

def barn : Declaration :=
  ⟨"ranch", "Barn", .ofClass ⟨.concept, none, false, none,
    [reference "tag" (.object ⟨none, "old.Tag"⟩), reference "collar" (.object ⟨none, "Collar"⟩)]⟩⟩

def ranchFile : ModelFile := ⟨"ranch", [.wildcard "zoo", .single "zoo.old" "Collar"], [barn]⟩

/-- A file that takes all of one namespace and a single name of another, and two that are taken
from. -/
def ranch : Catalog := ⟨.standard,
  [⟨"zoo", [], [oldTag, collar]⟩, ⟨"zoo.old", [], [plainTag, oldCollar]⟩, ranchFile]⟩

def writtenScalar (cls name : String) : Json :=
  .object [("$class", .string cls), ("name", .string name)]

theorem ranch_reachable : ranch.Reachable :=
  .addFragment (f := ⟨none, "ranch", [⟨"ImportAll", "zoo", none, []⟩,
      ⟨"ImportType", "zoo.old", some "Collar", []⟩],
    [.object [("$class", .string "ConceptDeclaration"), ("name", .string "Barn"),
      ("properties", .array [writtenReference "ObjectProperty" "tag" "old.Tag",
        writtenReference "ObjectProperty" "collar" "Collar"])]]⟩)
    (.addFragment (f := ⟨none, "zoo.old", [], [writtenScalar "IntegerScalar" "Tag",
      writtenScalar "IntegerScalar" "Collar"]⟩)
      (.addFragment (f := ⟨none, "zoo", [], [writtenScalar "StringScalar" "old.Tag",
        writtenScalar "StringScalar" "Collar"]⟩) (.empty .standard) (by rfl)) (by rfl)) (by rfl)

end Sample

namespace Catalog

/-- A collar is what the second import says, though the first has one as well. -/
theorem understands_barn : ∃ s, Sample.ranch.scope Sample.barn = .ok s ∧
    s.resolve ⟨none, "Collar"⟩ = .ok Sample.oldCollar ∧
      s.qualify ⟨none, "Collar"⟩ = .ok "zoo.old.Collar" := by
  have hbarn : Sample.barn ∈ Sample.ranch.declarations := List.mem_of_getElem? (i := 4) rfl
  obtain ⟨file, hf, hdf, s, hs, hunderstands⟩ :=
    understands_of_mem Sample.ranch_reachable hbarn
  obtain rfl : Sample.ranchFile = file :=
    Except.ok.inj (Sample.ranch_reachable.coherent.fileOf_eq_ok hf hdf)
  have hown : ¬ Sample.ranchFile.Declares "Collar" := by
    rintro ⟨d, hd, hname⟩
    obtain rfl := List.mem_singleton.mp hd
    exact absurd hname (by decide)
  have hbrings : Sample.ranch.Brings Sample.ranchFile "Collar" (.single "zoo.old" "Collar") :=
    .listed ⟨[.wildcard "zoo"], [], rfl, by simp [Import.names], by simp [Import.names]⟩
  have hresolve : s.resolve ⟨none, "Collar"⟩ = .ok Sample.oldCollar :=
    (hunderstands.imported _ hown _).mpr
      ⟨_, hbrings, List.mem_of_getElem? (i := 3) rfl, rfl, by decide, by decide⟩
  exact ⟨s, hs, hresolve, hunderstands.named _ _ hresolve⟩

/-- The wildcard brings the name in because its namespace declares it, and the name leads to what
another namespace declares. -/
theorem barn_misunderstands : Sample.ranch.Reachable ∧ Sample.ranch.check = .ok () ∧
    Sample.barn ∈ Sample.ranch.declarations ∧
    Sample.ranch.Brings Sample.ranchFile "old.Tag" (.wildcard "zoo") ∧
    Sample.oldTag ∈ Sample.ranch.declarations ∧ Sample.oldTag.ns = "zoo" ∧
    Sample.oldTag.name = "old.Tag" ∧
    ∃ s, Sample.ranch.scope Sample.barn = .ok s ∧
      s.resolve ⟨none, "old.Tag"⟩ = .ok Sample.plainTag ∧ Sample.plainTag ≠ Sample.oldTag := by
  obtain ⟨_, hcheck⟩ := isOk_iff.mp (show Sample.ranch.check.isOk = true by decide +kernel)
  have hbrings : Sample.ranch.Brings Sample.ranchFile "old.Tag" (.wildcard "zoo") :=
    (importOf?_eq_some_iff Sample.ranch_reachable.coherent).mp (by rfl)
  refine ⟨Sample.ranch_reachable, hcheck, List.mem_of_getElem? (i := 4) rfl, hbrings,
    List.mem_of_getElem? (i := 0) rfl, rfl, rfl, _, rfl, by rfl, ?_⟩
  intro h
  have := congrArg Declaration.ns h
  simp [Sample.plainTag, Sample.oldTag] at this

end Catalog

end ModelCatalog
