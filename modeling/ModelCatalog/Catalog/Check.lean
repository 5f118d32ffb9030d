import ModelCatalog.Catalog.Lineage

/-! # Checking a catalog

A catalog is checked as a whole, file by file and declaration by declaration. The first error ends
the check.
-/
namespace ModelCatalog

namespace Catalog

/-! ## Declarations -/

def checkSuperType (c : Catalog) (d : Declaration) : Except ModelError Unit := do
  match ← c.superType? d with
  | some parent =>
    if !parent.isClass then
      .error (.illegalDeclaration d.qualifiedName
        (.superTypeNotClass parent.qualifiedName parent.kindName))
  | none => pure ()

/-- A relationship refers to a class that is identified, where settings ask for that. -/
def checkTarget (c : Catalog) (s : Scope) (p : Property) : Except ModelError Unit := do
  match p.type with
  | .relationship t =>
    if c.settings.resolution.requireIdentified then do
      let target ← s.resolve t
      if !(← c.isIdentified target) then
        .error (.illegalProperty p.name (some s.owner)
          (.targetNotIdentified target.qualifiedName))
  | _ => pure ()

/-- How an override differs from what it overrides, where it may not. -/
def overrideFault? (own inherited : Property) (ownType inheritedType : String) :
    Option OverrideFault :=
  if own.kind ≠ inherited.kind then some (.kind inherited.kind.name)
  else if ownType ≠ inheritedType then some (.type inheritedType ownType)
  else if own.isArray ≠ inherited.isArray then some .array
  else if own.isOptional && !inherited.isOptional then some .optional
  else none

/-- The name of the type that a property behaves as one of. -/
def effectiveType (p : Property) (s : Scope) : Except ModelError String := do
  (← p.effective s).qualifiedType s

/-- A property that is also inherited must be one like the one it overrides. -/
def checkOverride (c : Catalog) (s : Scope) (p : Property) (ancestor : Declaration)
    (inherited : Property) : Except ModelError Unit := do
  if !c.settings.resolution.allowOverride then .error (.duplicateProperty s.owner p.name)
  let ancestorScope ← c.scope ancestor
  let ownType ← effectiveType p s
  let inheritedType ← effectiveType inherited ancestorScope
  match overrideFault? p inherited ownType inheritedType with
  | some fault =>
    .error (.illegalProperty p.name (some s.owner) (.overrides ancestor.qualifiedName fault))
  | none => pure ()

def checkProperty (c : Catalog) (s : Scope) (ancestors : List Declaration) (p : Property) :
    Except ModelError Unit := do
  p.check s c.settings.validation
  c.checkTarget s p
  match nearest? ancestors p.name with
  | some (ancestor, inherited) => c.checkOverride s p ancestor inherited
  | none => pure ()

/-- The field a class is identified by is a required text of its own or inherited. -/
def checkIdentifier (c : Catalog) (d : Declaration) : Except ModelError Unit := do
  match d.identifier? with
  | some (.field name) =>
    let illegal (fault : DeclarationFault) : ModelError := .illegalDeclaration d.qualifiedName fault
    let merged ← c.mergedProperties c.settings.resolution.maxDepth d
    match merged.find? (·.2.name = name) with
    | none => .error (illegal (.identifierNotProperty name))
    | some (owner, p) =>
      let effective ← p.effective (← c.scope owner)
      if p.kind ≠ .field ∨ effective.type ≠ .primitive .string then
        .error (illegal (.identifierNotText name))
      if p.isOptional || p.isArray then .error (illegal (.identifierNotSingle name))
  | _ => pure ()

/-- A declaration's super types come first, then its own properties and its identifier. -/
def checkDeclaration (c : Catalog) (d : Declaration) : Except ModelError Unit := do
  let s ← c.scope d
  c.checkSuperType d
  let ancestors ← c.ancestors c.settings.resolution.maxDepth d
  match d.scalar? with
  | some scalar =>
    (scalar.check c.settings.validation).mapError (.illegalDeclaration d.qualifiedName)
  | none =>
    d.properties.forM (c.checkProperty s ancestors)
    c.checkIdentifier d

/-! ## Files -/

/-- What an import names must be there. -/
def checkImport (c : Catalog) (file : ModelFile) (i : Import) : Except ModelError Unit :=
  match c.file? i.ns with
  | none => .error (.typeNotFound i.ns (some (.importIn file.ns)))
  | some source =>
    match i.names.find? fun name => (source.local? name).isNone with
    | some name => .error (.typeNotFound (Qualified.join i.ns name) (some (.importIn file.ns)))
    | none => .ok ()

def checkFile (c : Catalog) (file : ModelFile) : Except ModelError Unit := do
  file.imports.forM (c.checkImport file)
  file.declarations.forM c.checkDeclaration

/-! ## The whole -/

def checkSettings (s : Settings) : Except ModelError Unit :=
  if s.isSound then .ok () else .error (.settings .depthZero)

def check (c : Catalog) : Except ModelError Unit := do
  checkSettings c.settings
  c.files.forM c.checkFile

end Catalog

end ModelCatalog
