import ModelCatalog.ModelFile
import ModelCatalog.Scope

/-! # The catalog

The model files known together, one for each namespace, and what names mean among them. Files may
refer to one another in any order: nothing is looked up while they are added.
-/
namespace ModelCatalog

structure Catalog where
  settings : Settings
  files : List ModelFile

namespace Catalog

def empty (s : Settings) : Catalog := ⟨s, []⟩

def namespaces (c : Catalog) : List String := c.files.map (·.ns)

/-- Every declaration, in the order of the files and of the declarations in them. -/
def declarations (c : Catalog) : List Declaration := c.files.flatMap (·.declarations)

def count (c : Catalog) : Nat := c.declarations.length

def file? (c : Catalog) (ns : String) : Option ModelFile := c.files.find? (·.ns = ns)

/-! ## Adding files -/

def add (c : Catalog) (file : ModelFile) : Except ModelError Catalog :=
  if (c.file? file.ns).isSome then .error (.duplicateNamespace file.ns)
  else .ok { c with files := c.files ++ [file] }

def addFragment (c : Catalog) (f : ModelFragment) : Except ModelError Catalog := do
  c.add (← ModelFile.ofFragment f)

def addJson (c : Catalog) (j : Json) : Except ModelError Catalog := do
  c.add (← ModelFile.ofJson j)

/-! ## Looking up names -/

/-- The declaration of that qualified name. -/
def find (c : Catalog) (name : String) : Except ModelError Declaration :=
  match (Qualified.split? name).bind fun (ns, short) =>
      (c.file? ns).bind (·.local? short) with
  | some d => .ok d
  | none => .error (.typeNotFound name none)

/-- The import that brings a name in: the first that lists it, and failing that the first wildcard
whose namespace declares it. -/
def importOf? (c : Catalog) (file : ModelFile) (name : String) : Option Import :=
  (file.imports.find? (·.names.contains name)).or
    (file.imports.find? fun i => i.isWildcard && ((c.file? i.ns).bind (·.local? name)).isSome)

/-- The qualified name of a bare name in a file: a declaration of the file itself comes before
anything imported. -/
def qualify (c : Catalog) (file : ModelFile) (name : String) : Except ModelError String :=
  if (file.local? name).isSome then .ok (Qualified.join file.ns name)
  else match c.importOf? file name with
    | some i => .ok (Qualified.join i.ns name)
    | none => .error (.typeNotFound name (some (.modelFile file.ns)))

/-- The declaration of a bare name in a file. -/
def resolve (c : Catalog) (file : ModelFile) (name : String) : Except ModelError Declaration :=
  match file.local? name with
  | some d => .ok d
  | none => do c.find (← c.qualify file name)

/-- The file a declaration belongs to. -/
def fileOf (c : Catalog) (d : Declaration) : Except ModelError ModelFile :=
  match c.file? d.ns with
  | some file => .ok file
  | none => .error (.typeNotFound d.ns (some (.namespaceOf d.qualifiedName)))

/-- What names mean for a declaration of a file. A name with a namespace stands for itself. -/
def scopeIn (c : Catalog) (file : ModelFile) (d : Declaration) : Scope where
  owner := d.qualifiedName
  qualify t :=
    match t.ns with
    | some ns => .ok (Qualified.join ns t.name)
    | none => c.qualify file t.name
  resolve t :=
    match t.ns with
    | some ns => c.find (Qualified.join ns t.name)
    | none => c.resolve file t.name

def scope (c : Catalog) (d : Declaration) : Except ModelError Scope :=
  (c.fileOf d).map fun file => c.scopeIn file d

/-- Agreement of two catalogs: the order of files does not count. -/
def same (a b : Catalog) : Bool :=
  a.settings == b.settings && a.files.length == b.files.length
    && a.files.all fun file => (b.file? file.ns).any file.same

end Catalog

end ModelCatalog
