import ModelCatalog.Catalog.Check

/-! # Linked models

A checked catalog can be linked: declarations get numbers, in the order of the catalog, and every
reference becomes the number of what it refers to. What is inherited is written out with each class,
so nothing in a linked model has to be looked up by name.
-/
namespace ModelCatalog

/-- The type of a property once it is linked. -/
inductive LinkedType where
  | primitive (p : Primitive)
  | declaration (id : Nat)
deriving DecidableEq, Repr

/-- A property as it behaves, with the declaration that declares it. A value of an enumeration has
no type. -/
structure LinkedProperty where
  property : Property
  declaredIn : Nat
  typeName : String
  type : Option LinkedType

structure LinkedDeclaration where
  id : Nat
  declaration : Declaration
  superType : Option Nat
  ancestors : List Nat
  properties : List LinkedProperty

structure LinkedModel where
  declarations : List LinkedDeclaration

namespace Catalog

/-- The last position of a name; a later declaration hides an earlier one of the same qualified
name. -/
def lastPosition? (name : String) : List String → Option Nat
  | [] => none
  | n :: rest =>
    match lastPosition? name rest with
    | some i => some (i + 1)
    | none => if n = name then some 0 else none

/-- The number of the declaration of that qualified name. -/
def idOf (c : Catalog) (name : String) : Except ModelError Nat :=
  match lastPosition? name (c.declarations.map (·.qualifiedName)) with
  | some i => .ok i
  | none => .error (.typeNotFound name none)

def linkType (c : Catalog) (p : Property) (typeName : String) :
    Except ModelError (Option LinkedType) :=
  match p.type with
  | .primitive q => .ok (some (.primitive q))
  | .object _ | .relationship _ => (c.idOf typeName).map fun id => some (.declaration id)
  | .enumValue => .ok none

def linkProperty (c : Catalog) : Declaration × Property → Except ModelError LinkedProperty
  | (owner, p) => do
    let s ← c.scope owner
    let effective ← p.effective s
    let typeName ← effective.qualifiedType s
    let type ← c.linkType effective typeName
    return ⟨effective, ← c.idOf owner.qualifiedName, typeName, type⟩

def linkSuperType (c : Catalog) (d : Declaration) : Except ModelError (Option Nat) := do
  match ← c.superType? d with
  | some parent => return some (← c.idOf parent.qualifiedName)
  | none => return none

def linkDeclaration (c : Catalog) : Declaration × Nat → Except ModelError LinkedDeclaration
  | (d, id) => do
    let maxDepth := c.settings.resolution.maxDepth
    let superType ← c.linkSuperType d
    let ancestors ← (← c.ancestors maxDepth d).mapM fun a => c.idOf a.qualifiedName
    let properties ← (← c.mergedProperties maxDepth d).mapM c.linkProperty
    return ⟨id, d, superType, ancestors, properties⟩

def linkAll (c : Catalog) : Except ModelError LinkedModel :=
  (c.declarations.zipIdx.mapM c.linkDeclaration).map LinkedModel.mk

/-- Only a catalog that passes its check is linked. -/
def link (c : Catalog) : Except ModelError LinkedModel := do
  c.check
  c.linkAll

end Catalog

namespace LinkedProperty

def name (p : LinkedProperty) : String := p.property.name

def text (p : LinkedProperty) : String := p.property.render p.typeName

def checkValue (p : LinkedProperty) (j : Json) : Except Failure Unit := p.property.checkValue j

end LinkedProperty

namespace LinkedDeclaration

def qualifiedName (d : LinkedDeclaration) : String := d.declaration.qualifiedName

def property? (d : LinkedDeclaration) (name : String) : Option LinkedProperty :=
  d.properties.find? (·.name = name)

end LinkedDeclaration

namespace LinkedModel

def size (m : LinkedModel) : Nat := m.declarations.length

def idOf? (m : LinkedModel) (name : String) : Option Nat :=
  Catalog.lastPosition? name (m.declarations.map (·.qualifiedName))

def get? (m : LinkedModel) (id : Nat) : Option LinkedDeclaration := m.declarations[id]?

def find? (m : LinkedModel) (name : String) : Option LinkedDeclaration := (m.idOf? name).bind m.get?

/-- Is the first declaration the second, or has it among its super types? -/
def isSubclass (m : LinkedModel) (child parent : Nat) : Bool :=
  child == parent || (m.get? child).any (·.ancestors.contains parent)

/-- Checks a value for a property. That there is no such declaration or property is an error; that
the value is rejected is an outcome. -/
def checkInstance (m : LinkedModel) (name property : String) (j : Json) :
    Except ModelError (Except Failure Unit) :=
  match m.find? name with
  | none => .error (.typeNotFound name none)
  | some d =>
    match d.property? property with
    | none => .error (.illegalProperty property (some name) .unknown)
    | some p => .ok (p.checkValue j)

end LinkedModel

end ModelCatalog
