import ModelCatalog.Declaration
import ModelCatalog.Text.Visible

/-! # Model files

A model file holds the declarations of one namespace and says what it uses of others.
-/
namespace ModelCatalog

/-- What a file takes from another namespace. -/
inductive Import where
  | single (ns name : String)
  | several (ns : String) (names : List String)
  | wildcard (ns : String)
deriving DecidableEq, Repr

namespace Import

def ns : Import → String
  | single ns _ | several ns _ | wildcard ns => ns

/-- The names it takes explicitly. -/
def names : Import → List String
  | single _ name => [name]
  | several _ names => names
  | wildcard _ => []

def isWildcard : Import → Bool
  | wildcard _ => true
  | _ => false

def ofFragment (f : ImportFragment) : Except ModelFault Import :=
  if f.ns.isEmpty then .error .importWithoutNamespace
  else match ImportClass.of? f.cls, f.name, f.types with
    | none, _, _ => .error (.unknownImportClass (Qualified.lastPart f.cls))
    | some .single, some name, _ => .ok (.single f.ns name)
    | some .single, none, _ => .error (.importWithoutName f.ns)
    | some .several, _, [] => .error (.importWithoutTypes f.ns)
    | some .several, _, names => .ok (.several f.ns names)
    | some .wildcard, _, _ => .ok (.wildcard f.ns)

end Import

structure ModelFile where
  ns : String
  imports : List Import
  declarations : List Declaration

namespace ModelFile

/-- A declaration of the file itself. -/
def local? (file : ModelFile) (name : String) : Option Declaration :=
  file.declarations.find? (·.name = name)

/-! ## Building -/

/-- The declarations of a file, whose names must be distinct. -/
def readDeclarations (ns : String) :
    List Json → List Declaration → Except ModelError (List Declaration)
  | [], done => .ok done
  | j :: rest, done => do
    let d ← Declaration.ofJson ns j
    if done.any (·.name = d.name) then .error (.duplicateDeclaration ns d.name)
    readDeclarations ns rest (done ++ [d])

/-- A fragment may name its class, and then it must be that of a model. -/
def checkClass : Option String → Except ModelFault Unit
  | none => .ok ()
  | some cls =>
    let short := Qualified.lastPart cls
    if short = "Model" then .ok () else .error (.notAModel short)

def ofFragment (f : ModelFragment) : Except ModelError ModelFile := do
  let ns := Text.trim f.ns
  if ns.isEmpty then .error (.illegalModel none .namespaceEmpty)
  (checkClass f.cls).mapError (.illegalModel (some ns))
  let imports ← (f.imports.mapM Import.ofFragment).mapError (.illegalModel (some ns))
  let declarations ← readDeclarations ns f.declarations []
  return ⟨ns, imports, declarations⟩

def fragmentOfJson (j : Json) : Except ModelError ModelFragment :=
  (ModelFragment.ofJson j).mapError fun e => .illegalModel (j.text? "namespace") (.undecodable e)

def ofJson (j : Json) : Except ModelError ModelFile := do ofFragment (← fragmentOfJson j)

/-- Agreement of two files: the order of imports counts, that of declarations does not. -/
def same (a b : ModelFile) : Bool :=
  a.ns == b.ns && a.imports == b.imports && a.declarations.length == b.declarations.length
    && a.declarations.all fun d => (b.local? d.name).any d.same

end ModelFile

end ModelCatalog
