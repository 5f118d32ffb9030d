import ModelCatalog.Number.Scaled
import ModelCatalog.Rule.Basic
import ModelCatalog.Text.Timestamp
import ModelCatalog.TypeName

/-! # Properties

A property is a field, a relationship or a value of an enumeration. Its type is kept as it was
written; whether it refers to anything is checked later, against a catalog.
-/
namespace ModelCatalog

/-- Is the value one of this kind? Whole numbers must be written as integers. -/
def Primitive.represents : Primitive → Json → Bool
  | string, .string _ => true
  | boolean, .bool _ => true
  | double, .number _ => true
  | long, .number (.integer i) => Width.holdsSigned 64 i
  | integer, .number (.integer i) => Width.holdsSigned 32 i
  | dateTime, .string s => Text.isTimestamp s
  | _, _ => false

inductive PropertyKind where
  | field
  | relationship
  | enumValue
deriving DecidableEq, Repr

def PropertyKind.name : PropertyKind → String
  | field => "Field"
  | relationship => "Relationship"
  | enumValue => "EnumValue"

/-- What a property is and what it is typed by, in one. -/
inductive PropertyType where
  | primitive (p : Primitive)
  | object (t : TypeName)
  | relationship (t : TypeName)
  | enumValue
deriving DecidableEq, Repr

namespace PropertyType

def kind : PropertyType → PropertyKind
  | primitive _ | object _ => .field
  | relationship _ => .relationship
  | enumValue => .enumValue

def primitive? : PropertyType → Option Primitive
  | primitive p => some p
  | _ => none

/-- The declaration referred to. -/
def named? : PropertyType → Option TypeName
  | object t | relationship t => some t
  | _ => none

def ref? : PropertyType → Option TypeRef
  | primitive p => some (.primitive p)
  | object t | relationship t => some (.named t)
  | enumValue => none

end PropertyType

structure Property where
  name : String
  type : PropertyType
  isArray : Bool
  isOptional : Bool
  default : Option Json
  rule : Option Rule
  lengthRule : Option LengthRule

namespace Property

def kind (p : Property) : PropertyKind := p.type.kind

def hasRules (p : Property) : Bool := p.rule.isSome || p.lengthRule.isSome

/-! ## Building -/

def illegal (name : String) (fault : PropertyFault) : ModelError :=
  .illegalProperty name none fault

/-- The type that the class and the type entry of a fragment make together. -/
def typeOf (f : PropertyFragment) : Except PropertyFault PropertyType :=
  match PropertyClass.of? f.cls, f.type with
  | none, _ => .error (.unknownClass f.cls)
  | some (.primitive p), _ => .ok (.primitive p)
  | some .object, some t => .ok (.object (.ofFragment t))
  | some .relationship, some t => .ok (.relationship (.ofFragment t))
  | some .object, none | some .relationship, none => .error .typeMissing
  | some .enumValue, _ =>
    if f.isArray || f.default.isSome || f.rule.isSome || f.lengthRule.isSome then
      .error .enumValueExtras
    else .ok .enumValue

/-- Builds what a fragment may leave out. -/
def optionally {α β : Type} (build : α → Except RuleFault β) :
    Option α → Except ModelError (Option β)
  | some a => ((build a).map some).mapError .illegalRule
  | none => .ok none

def ofFragment (f : PropertyFragment) : Except ModelError Property := do
  let type ← (typeOf f).mapError (illegal f.name)
  let rule ← optionally Rule.ofFragment f.rule
  let lengthRule ← optionally Rule.lengthOfFragment f.lengthRule
  return ⟨f.name, type, f.isArray, f.isOptional, f.default, rule, lengthRule⟩

def fragmentOfJson (j : Json) : Except ModelError PropertyFragment :=
  (PropertyFragment.ofJson j).mapError fun e =>
    illegal ((j.text? "name").getD "") (.undecodable e)

def ofJson (j : Json) : Except ModelError Property := do ofFragment (← fragmentOfJson j)

/-! ## Showing -/

private def shownFlag (b : Bool) : String := if b then "true" else "false"

/-- A property with the name of its type; a value of an enumeration has none to show. -/
def render (p : Property) (typeName : String) : String :=
  match p.kind with
  | .enumValue => p.kind.name ++ " \x7bname=" ++ p.name ++ "\x7d"
  | kind =>
    kind.name ++ " \x7bname=" ++ p.name ++ ", type=" ++ typeName ++ ", array="
      ++ shownFlag p.isArray ++ ", optional=" ++ shownFlag p.isOptional ++ "\x7d"

/-- A property with its type as it was written. -/
def text (p : Property) : String := p.render ((p.type.ref?.map TypeRef.text).getD "")

/-! ## Checking values -/

/-- A single value is checked by the rule and then by the length rule. -/
def checkOne (p : Property) (j : Json) : Except Failure Unit := do
  match p.rule with
  | some r => r.check p.name j
  | none => pure ()
  match p.lengthRule with
  | some r => r.check p.name j
  | none => pure ()

/-- The items of a list are checked one by one where the property is an array. -/
def checkValue (p : Property) (j : Json) : Except Failure Unit :=
  match j, p.isArray with
  | .array items, true => items.forM p.checkOne
  | j, _ => p.checkOne j

/-- Agreement of two properties as data and by the sources of their rules. -/
def same (p q : Property) : Bool :=
  p.name == q.name && p.type == q.type && p.isArray == q.isArray && p.isOptional == q.isOptional
    && sameOption Json.sameValue p.default q.default && sameOption Rule.same p.rule q.rule
    && p.lengthRule == q.lengthRule
where
  sameOption {α : Type} (eq : α → α → Bool) : Option α → Option α → Bool
    | some a, some b => eq a b
    | none, none => true
    | _, _ => false

end Property

end ModelCatalog
