import ModelCatalog.Scalar

/-! # Declarations

A declaration is a class, an enumeration or a scalar, and only a class has a super type, an
identifier and the choice to be abstract.
-/
namespace ModelCatalog

/-- How instances of a class are told apart. -/
inductive Identifier where
  | system
  | field (name : String)
deriving DecidableEq, Repr

structure Class where
  kind : ClassKind
  superType : Option TypeName
  isAbstract : Bool
  identifier : Option Identifier
  properties : List Property

inductive DeclarationBody where
  | ofClass (c : Class)
  | ofEnum (values : List Property)
  | ofScalar (s : Scalar)

structure Declaration where
  ns : String
  name : String
  body : DeclarationBody

namespace Declaration

def qualifiedName (d : Declaration) : String := Qualified.join d.ns d.name

def class? (d : Declaration) : Option Class :=
  match d.body with
  | .ofClass c => some c
  | _ => none

def scalar? (d : Declaration) : Option Scalar :=
  match d.body with
  | .ofScalar s => some s
  | _ => none

def isClass (d : Declaration) : Bool := d.class?.isSome

def isScalar (d : Declaration) : Bool := d.scalar?.isSome

def isEnum (d : Declaration) : Bool := !d.isClass && !d.isScalar

/-- What the declaration is, with an article, for messages. -/
def kindName (d : Declaration) : String :=
  match d.body with
  | .ofClass _ => "a class"
  | .ofEnum _ => "an enum"
  | .ofScalar _ => "a scalar"

def superType? (d : Declaration) : Option TypeName := d.class?.bind (·.superType)

def identifier? (d : Declaration) : Option Identifier := d.class?.bind (·.identifier)

def isAbstract (d : Declaration) : Bool := (d.class?.map (·.isAbstract)).getD false

/-- The properties declared here, in order; those of an enumeration are its values. -/
def properties (d : Declaration) : List Property :=
  match d.body with
  | .ofClass c => c.properties
  | .ofEnum values => values
  | .ofScalar _ => []

/-- A property declared here. -/
def property? (d : Declaration) (name : String) : Option Property :=
  d.properties.find? (·.name = name)

/-! ## Building -/

/-- The members of a declaration, whose names must be distinct. Errors in them say whose they
are. -/
def readProperties (owner : String) : List Json → List Property → Except ModelError (List Property)
  | [], done => .ok done
  | j :: rest, done => do
    let p ← (Property.ofJson j).mapError (.within owner)
    if done.any (·.name = p.name) then .error (.duplicateProperty owner p.name)
    readProperties owner rest (done ++ [p])

def identifierOf (f : IdentifiedFragment) : Except DeclarationFault Identifier :=
  match Qualified.lastPart f.cls, f.name with
  | "Identified", _ => .ok .system
  | "IdentifiedBy", some name => .ok (.field name)
  | "IdentifiedBy", none => .error .identifierWithoutField
  | other, _ => .error (.unknownIdentifierClass other)

def optionalIdentifier : Option IdentifiedFragment → Except DeclarationFault (Option Identifier)
  | some f => (identifierOf f).map some
  | none => .ok none

/-- A class may hold no value of an enumeration, and has no value of its own to give a default. -/
def classOf (f : DeclarationFragment) (kind : ClassKind) (properties : List Property) :
    Except DeclarationFault Class :=
  match properties.find? (·.kind = .enumValue) with
  | some p => .error (.enumValueInClass p.name)
  | none => do
    if f.default.isSome || f.rule.isSome || f.lengthRule.isSome then .error .valueAttributesInClass
    return ⟨kind, f.superType.map .ofFragment, f.isAbstract, ← optionalIdentifier f.identified,
      properties⟩

def hasClassAttributes (f : DeclarationFragment) : Bool :=
  f.superType.isSome || f.identified.isSome || f.isAbstract

/-- An enumeration holds values only. -/
def enumOf (f : DeclarationFragment) (properties : List Property) :
    Except DeclarationFault (List Property) :=
  match properties.find? (·.kind ≠ .enumValue) with
  | some p => .error (.memberInEnum p.kind.name p.name)
  | none => if hasClassAttributes f then .error .classAttributesElsewhere else .ok properties

def scalarOf (owner : String) (f : DeclarationFragment) (p : Primitive)
    (properties : List Property) : Except ModelError Scalar := do
  if !properties.isEmpty then .error (.illegalDeclaration owner .propertiesInScalar)
  let s ← (Scalar.ofFragment p f).mapError (.within owner)
  if hasClassAttributes f then .error (.illegalDeclaration owner .classAttributesElsewhere)
  return s

def ofFragment (ns : String) (f : DeclarationFragment) : Except ModelError Declaration := do
  let owner := Qualified.join ns f.name
  match DeclarationClass.of? f.cls with
  | none => .error (.illegalDeclaration owner (.unknownClass (Qualified.lastPart f.cls)))
  | some c => do
    let properties ← readProperties owner f.properties []
    let body ← match c with
      | .ofKind kind =>
        ((classOf f kind properties).map DeclarationBody.ofClass).mapError
          (.illegalDeclaration owner)
      | .enumeration =>
        ((enumOf f properties).map DeclarationBody.ofEnum).mapError (.illegalDeclaration owner)
      | .scalar p => (scalarOf owner f p properties).map DeclarationBody.ofScalar
    return ⟨ns, f.name, body⟩

/-- An undecodable fragment is called by its own name, which may be missing. -/
def fragmentOfJson (j : Json) : Except ModelError DeclarationFragment :=
  (DeclarationFragment.ofJson j).mapError fun e =>
    .illegalDeclaration ((j.text? "name").getD "") (.undecodable e)

/-- The error about a fragment, with its declaration qualified by a namespace; without a name it is
about the namespace. -/
def qualifyError (ns : String) : ModelError → ModelError
  | .illegalDeclaration name fault =>
    .illegalDeclaration (if name.isEmpty then ns else Qualified.join ns name) fault
  | e => e

def ofJson (ns : String) (j : Json) : Except ModelError Declaration := do
  let f ← (fragmentOfJson j).mapError (qualifyError ns)
  ofFragment ns f

/-- Agreement of two declarations: the order of properties counts. -/
def same (d e : Declaration) : Bool :=
  d.ns == e.ns && d.name == e.name &&
    match d.body, e.body with
    | .ofClass c, .ofClass k =>
      c.kind == k.kind && c.superType == k.superType && c.isAbstract == k.isAbstract
        && c.identifier == k.identifier && sameProperties c.properties k.properties
    | .ofEnum vs, .ofEnum ws => sameProperties vs ws
    | .ofScalar s, .ofScalar t => s.same t
    | _, _ => false
where
  sameProperties : List Property → List Property → Bool
    | [], [] => true
    | p :: ps, q :: qs => p.same q && sameProperties ps qs
    | _, _ => false

end Declaration

end ModelCatalog
