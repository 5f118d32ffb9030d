import ModelCatalog.Text.Qualified

/-! # The vocabulary of model files

Every fragment says what it is in its class name. Only the part after the last dot counts; the
namespace before it is informational.
-/
namespace ModelCatalog

namespace Vocabulary

/-- The namespace that class names are written with. -/
def home : String := "concerto.metamodel@1.0.0"

/-- The full class name for a short one. -/
def qualify (short : String) : String := Qualified.join home short

end Vocabulary

/-- The kinds of value that are not declared anywhere. -/
inductive Primitive where
  | string
  | boolean
  | dateTime
  | double
  | integer
  | long
deriving DecidableEq, Repr

namespace Primitive

def all : List Primitive := [string, boolean, dateTime, double, integer, long]

def name : Primitive → String
  | string => "String"
  | boolean => "Boolean"
  | dateTime => "DateTime"
  | double => "Double"
  | integer => "Integer"
  | long => "Long"

def ofName? (text : String) : Option Primitive := all.find? (·.name = text)

/-- Do range rules apply? -/
def isNumeric : Primitive → Bool
  | double | integer | long => true
  | _ => false

/-- Must values be whole numbers? -/
def isIntegral : Primitive → Bool
  | integer | long => true
  | _ => false

end Primitive

/-- What a class stands for. -/
inductive ClassKind where
  | concept
  | asset
  | participant
  | transaction
  | event
deriving DecidableEq, Repr

def ClassKind.name : ClassKind → String
  | concept => "Concept"
  | asset => "Asset"
  | participant => "Participant"
  | transaction => "Transaction"
  | event => "Event"

inductive PropertyClass where
  | primitive (p : Primitive)
  | object
  | relationship
  | enumValue
deriving DecidableEq, Repr

def PropertyClass.named : List (String × PropertyClass) := [
  ("StringProperty", primitive .string),
  ("BooleanProperty", primitive .boolean),
  ("DateTimeProperty", primitive .dateTime),
  ("DoubleProperty", primitive .double),
  ("IntegerProperty", primitive .integer),
  ("LongProperty", primitive .long),
  ("ObjectProperty", object),
  ("RelationshipProperty", relationship),
  ("EnumProperty", enumValue)]

def PropertyClass.of? (cls : String) : Option PropertyClass :=
  named.lookup (Qualified.lastPart cls)

inductive DeclarationClass where
  | ofKind (kind : ClassKind)
  | enumeration
  | scalar (p : Primitive)
deriving DecidableEq, Repr

def DeclarationClass.named : List (String × DeclarationClass) := [
  ("ConceptDeclaration", ofKind .concept),
  ("AssetDeclaration", ofKind .asset),
  ("ParticipantDeclaration", ofKind .participant),
  ("TransactionDeclaration", ofKind .transaction),
  ("EventDeclaration", ofKind .event),
  ("EnumDeclaration", enumeration),
  ("StringScalar", scalar .string),
  ("BooleanScalar", scalar .boolean),
  ("DateTimeScalar", scalar .dateTime),
  ("DoubleScalar", scalar .double),
  ("IntegerScalar", scalar .integer),
  ("LongScalar", scalar .long)]

def DeclarationClass.of? (cls : String) : Option DeclarationClass :=
  named.lookup (Qualified.lastPart cls)

inductive ImportClass where
  | single
  | several
  | wildcard
deriving DecidableEq, Repr

def ImportClass.named : List (String × ImportClass) :=
  [("ImportType", single), ("ImportTypes", several), ("ImportAll", wildcard)]

def ImportClass.of? (cls : String) : Option ImportClass := named.lookup (Qualified.lastPart cls)

inductive RuleClass where
  | pattern
  | range (p : Primitive)
  | length
deriving DecidableEq, Repr

def RuleClass.named : List (String × RuleClass) := [
  ("StringRegexValidator", pattern),
  ("DoubleDomainValidator", range .double),
  ("IntegerDomainValidator", range .integer),
  ("LongDomainValidator", range .long),
  ("StringLengthValidator", length)]

def RuleClass.of? (cls : String) : Option RuleClass := named.lookup (Qualified.lastPart cls)

end ModelCatalog
