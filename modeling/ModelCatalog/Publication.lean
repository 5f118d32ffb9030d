import ModelCatalog.Catalog.Check

/-! # Drafts and publications

A catalog is put together in place, one call after another. While it grows, each file is kept under
its namespace and the declarations are counted along, so that neither has to be looked for again.

A publication shows one catalog at a time, and only one that passes its check. A new catalog takes
the place of the current one in a single step; whoever holds the earlier one keeps it.
-/
namespace ModelCatalog

structure Draft where
  settings : Settings
  /-- The files under their namespaces, in the order in which they came. -/
  files : List (String × ModelFile)
  /-- How many declarations there are in the files. -/
  count : Nat

namespace Draft

/-- A call on a draft. What it did before an error is not undone. -/
abbrev Call := ExceptT ModelError (StateM Draft)

def empty (s : Settings) : Draft := ⟨s, [], 0⟩

/-- The catalog of the files that are there. -/
def catalog (t : Draft) : Catalog := ⟨t.settings, t.files.map (·.2)⟩

def namespaces (t : Draft) : List String := t.files.map (·.1)

/-- The file kept under a namespace. -/
def file? (t : Draft) (ns : String) : Option ModelFile :=
  (t.files.find? (·.1 = ns)).map (·.2)

def add (file : ModelFile) : Call Unit := do
  if ((← get).file? file.ns).isSome then throw (.duplicateNamespace file.ns)
  modify fun t => { t with count := t.count + file.declarations.length }
  modify fun t => { t with files := t.files ++ [(file.ns, file)] }

def addFragment (f : ModelFragment) : Call Unit := do
  add (← ModelFile.ofFragment f)

def addJson (j : Json) : Call Unit := do
  add (← ModelFile.ofJson j)

/-- The answer to a call, and the draft that the call leaves. -/
def perform {α : Type} (t : Draft) (call : Call α) : Except ModelError α × Draft :=
  call.run.run t

end Draft

structure Publication where
  current : Catalog

namespace Publication

/-- Starts with an empty catalog under standard settings. -/
def standard : Publication := ⟨.empty .standard⟩

def start (c : Catalog) : Except ModelError Publication := do
  c.check
  return ⟨c⟩

/-- Puts a catalog in the place of the current one, and hands the latter back. -/
def swap (p : Publication) (c : Catalog) : Catalog × Publication := (p.current, ⟨c⟩)

/-- Swaps in a catalog that passes its check. One that does not pass leaves the current one where it
is. -/
def publish (p : Publication) (c : Catalog) : Except ModelError (Catalog × Publication) := do
  c.check
  return p.swap c

end Publication

end ModelCatalog
