import ModelCatalog.Failure
import ModelCatalog.Fragment.Decode
import ModelCatalog.Vocabulary

/-! # Errors

An error says what is wrong and where. What is wrong is a cause, not a text; the wording of every
cause stands here and nowhere else.
-/
namespace ModelCatalog

/-- Where a type that was not found is referred to. -/
inductive Place where
  | named (text : String)
  | modelFile (ns : String)
  | importIn (ns : String)
  | namespaceOf (declaration : String)
  | superTypeOf (declaration : String)
  | typeOf (property declaration : String)
deriving DecidableEq, Repr

def Place.phrase : Place → String
  | named text => text
  | modelFile ns => "model file " ++ ns
  | importIn ns => "import in model file " ++ ns
  | namespaceOf declaration => "namespace of " ++ declaration
  | superTypeOf declaration => "super type of " ++ declaration
  | typeOf property declaration => "type of property '" ++ property ++ "' of " ++ declaration

/-- What is wrong with a rule. -/
inductive RuleFault where
  | unknownClass (short : String)
  | nothingGiven
  | patternMissing
  | unknownFlag (flag : Char) (pattern : String)
  | badPattern (pattern : String)
  | rangeWithoutBounds
  | rangeNotFinite
  | rangeInverted (lower upper : Binary64)
  | rangeNotWhole (p : Primitive)
  | lengthWithoutBounds
  | lengthNegative (bound : Int)
  | lengthInverted (min max : Nat)
  | notALength (kind : String)
  | other (words : String)

namespace RuleFault

def phrase : RuleFault → String
  | unknownClass short => "unknown validator class '" ++ short ++ "'"
  | nothingGiven => "validator spec has no pattern, bounds or lengths"
  | patternMissing => "string validator requires a pattern"
  | unknownFlag flag _ => "unsupported regular expression flag '" ++ flag.toString ++ "'"
  | badPattern _ => "pattern failed to compile"
  | rangeWithoutBounds => "invalid range, lower and/or upper bound must be specified"
  | rangeNotFinite => "range bounds must be finite numbers"
  | rangeInverted lower upper =>
    "lower bound " ++ lower.boundText ++ " must be less than or equal to upper bound "
      ++ upper.boundText
  | rangeNotWhole p => p.name ++ " range bounds must be whole numbers"
  | lengthWithoutBounds => "length validator must specify minLength and/or maxLength"
  | lengthNegative bound => "length bound " ++ toString bound ++ " must not be negative"
  | lengthInverted min max =>
    "minLength " ++ toString min ++ " must be less than or equal to maxLength " ++ toString max
  | notALength kind => "lengthValidator must be a length rule, found a " ++ kind ++ " rule"
  | other words => words

/-- The pattern at fault, where the fault is in a pattern. -/
def pattern? : RuleFault → Option String
  | unknownFlag _ pattern => some pattern
  | badPattern pattern => some pattern
  | _ => none

end RuleFault

/-- How an override weakens the property it overrides. -/
inductive OverrideFault where
  | kind (inherited : String)
  | type (inherited own : String)
  | array
  | optional

def OverrideFault.phrase : OverrideFault → String
  | kind inherited => "changes the property kind from " ++ inherited
  | type inherited own => "changes the type from " ++ inherited ++ " to " ++ own
  | array => "changes the array marker"
  | optional => "relaxes a required property to optional"

/-- What is wrong with a property. Kinds, rules and declarations at fault are given by the names
that messages call them by. -/
inductive PropertyFault where
  | undecodable (e : DecodeError)
  | unknownClass (cls : String)
  | typeMissing
  | enumValueExtras
  | unboxOther (target kind : String)
  | unboxKind (kind target : String)
  | relationshipTarget (target kind : String)
  | relationshipDefault
  | relationshipRules
  | targetNotIdentified (target : String)
  | rulesUnsupported (target : String)
  | ruleUnsuited (kind rule : String) (p : Primitive)
  | lengthUnsuited (p : Primitive)
  | defaultUnsupported (target : String)
  | defaultNotInEnum (value : Json) (target : String)
  | defaultOfArray
  | defaultNotValid (value : Json) (p : Primitive)
  | defaultRejected (value : Json) (expected : Expectation)
  | overrides (ancestor : String) (fault : OverrideFault)
  | unknown
  | other (words : String)

def PropertyFault.phrase : PropertyFault → String
  | undecodable e => e.message
  | unknownClass cls => "unrecognized property class '" ++ cls ++ "'"
  | typeMissing => "named property requires a type"
  | enumValueExtras => "enum values cannot be arrays or declare defaults or validators"
  | unboxOther target kind => "cannot unbox to '" ++ target ++ "', which is " ++ kind
  | unboxKind kind target => kind ++ " cannot be typed by scalar '" ++ target ++ "'"
  | relationshipTarget target kind =>
    "relationship must reference a class declaration, '" ++ target ++ "' is " ++ kind
  | relationshipDefault => "relationships cannot declare a default value"
  | relationshipRules => "relationships cannot declare validators"
  | targetNotIdentified target => "relationship target '" ++ target ++ "' is not identified"
  | rulesUnsupported target =>
    "validators are not supported on properties of type '" ++ target ++ "'"
  | ruleUnsuited kind rule p =>
    kind ++ " validator " ++ rule ++ " is not compatible with type " ++ p.name
  | lengthUnsuited p => "length validator is not compatible with type " ++ p.name
  | defaultUnsupported target =>
    "default values are not supported on properties of type '" ++ target ++ "'"
  | defaultNotInEnum value target =>
    "default value " ++ value.compact ++ " is not a value of enum '" ++ target ++ "'"
  | defaultOfArray => "array properties cannot declare a default value"
  | defaultNotValid value p => "default value " ++ value.compact ++ " is not a valid " ++ p.name
  | defaultRejected value expected =>
    "default value " ++ value.compact ++ " is rejected by its validator: " ++ expected.phrase
  | overrides ancestor fault =>
    "override of property inherited from '" ++ ancestor ++ "' " ++ fault.phrase
  | unknown => "no such property"
  | other words => words

/-- What is wrong with a declaration. -/
inductive DeclarationFault where
  | undecodable (e : DecodeError)
  | unknownClass (short : String)
  | enumValueInClass (name : String)
  | valueAttributesInClass
  | memberInEnum (kind name : String)
  | propertiesInScalar
  | classAttributesElsewhere
  | identifierWithoutField
  | unknownIdentifierClass (short : String)
  | superTypeNotClass (superType kind : String)
  | chainTooDeep (maximum : Nat)
  | identifierNotProperty (field : String)
  | identifierNotText (field : String)
  | identifierNotSingle (field : String)
  | ruleUnsuited (kind rule : String) (p : Primitive)
  | lengthUnsuited (p : Primitive)
  | defaultNotValid (value : Json) (p : Primitive)
  | defaultRejected (value : Json) (expected : Expectation)
  | other (words : String)

def DeclarationFault.phrase : DeclarationFault → String
  | undecodable e => e.message
  | unknownClass short => "unrecognized declaration class '" ++ short ++ "'"
  | enumValueInClass name => "enum value '" ++ name ++ "' is only allowed in an enum declaration"
  | valueAttributesInClass => "class declarations cannot declare a default value or validators"
  | memberInEnum kind name =>
    "enum declarations can only contain enum values, found " ++ kind ++ " '" ++ name ++ "'"
  | propertiesInScalar => "scalar declarations cannot have properties"
  | classAttributesElsewhere =>
    "only class declarations can declare a super type, an identifier or be abstract"
  | identifierWithoutField => "IdentifiedBy requires a field name"
  | unknownIdentifierClass short => "unrecognized identifier class '" ++ short ++ "'"
  | superTypeNotClass superType kind =>
    "super type '" ++ superType ++ "' must be a class declaration, found " ++ kind
  | chainTooDeep maximum =>
    "inheritance chain is deeper than the maximum of " ++ toString maximum
  | identifierNotProperty field => "identifying field '" ++ field ++ "' is not a property"
  | identifierNotText field => "identifying field '" ++ field ++ "' must be a String field"
  | identifierNotSingle field =>
    "identifying field '" ++ field ++ "' cannot be optional or an array"
  | ruleUnsuited kind rule p =>
    kind ++ " validator " ++ rule ++ " is not compatible with scalar type " ++ p.name
  | lengthUnsuited p => "length validator is not compatible with scalar type " ++ p.name
  | defaultNotValid value p => "default value " ++ value.compact ++ " is not a valid " ++ p.name
  | defaultRejected value expected =>
    "default value " ++ value.compact ++ " is rejected by its validator: " ++ expected.phrase
  | other words => words

/-- What is wrong with a model file as a whole. -/
inductive ModelFault where
  | undecodable (e : DecodeError)
  | namespaceEmpty
  | notAModel (short : String)
  | importWithoutNamespace
  | unknownImportClass (short : String)
  | importWithoutName (ns : String)
  | importWithoutTypes (ns : String)
  | other (words : String)

def ModelFault.phrase : ModelFault → String
  | undecodable e => e.message
  | namespaceEmpty => "model file has an empty namespace"
  | notAModel short => "expected a Model fragment, found '" ++ short ++ "'"
  | importWithoutNamespace => "import is missing a namespace"
  | unknownImportClass short => "unrecognized import class '" ++ short ++ "'"
  | importWithoutName ns => "import from '" ++ ns ++ "' is missing a type name"
  | importWithoutTypes ns => "import from '" ++ ns ++ "' lists no types"
  | other words => words

/-- What is wrong with settings. -/
inductive SettingsFault where
  | depthZero
  | unreadable
  | other (words : String)

def SettingsFault.phrase : SettingsFault → String
  | depthZero => "resolution.max_inheritance_depth must be greater than 0"
  | unreadable => "Failed to parse YAML config"
  | other words => words

/-- What keeps a file from being read. -/
inductive FileFault where
  | notFound
  | other (words : String)

def FileFault.phrase : FileFault → String
  | notFound => "No such file or directory (os error 2)"
  | other words => words

inductive ModelError where
  | typeNotFound (name : String) (place : Option Place)
  | duplicateDeclaration (ns name : String)
  | duplicateProperty (declaration name : String)
  | duplicateNamespace (ns : String)
  | circularInheritance (declaration : String) (chain : List String)
  | illegalProperty (name : String) (declaration : Option String) (fault : PropertyFault)
  | illegalDeclaration (declaration : String) (fault : DeclarationFault)
  | illegalRule (fault : RuleFault)
  | illegalModel (ns : Option String) (fault : ModelFault)
  | settings (fault : SettingsFault)
  | file (fault : FileFault)
  | undecodable (e : DecodeError)
  | unparsable

namespace ModelError

private def inParentheses : Option String → String
  | some text => " (in " ++ text ++ ")"
  | none => ""

def message : ModelError → String
  | typeNotFound name place =>
    "Type '" ++ name ++ "' not found" ++ inParentheses (place.map Place.phrase)
  | duplicateDeclaration ns name =>
    "Duplicate declaration name '" ++ name ++ "' in namespace '" ++ ns ++ "'"
  | duplicateProperty declaration name =>
    "Duplicate property name '" ++ name ++ "' in declaration '" ++ declaration ++ "'"
  | duplicateNamespace ns => "Namespace '" ++ ns ++ "' is already registered"
  | circularInheritance declaration chain =>
    "Circular inheritance detected for '" ++ declaration ++ "': " ++ " -> ".intercalate chain
  | illegalProperty name declaration fault =>
    "Illegal property '" ++ name ++ "'" ++ inParentheses declaration ++ ": " ++ fault.phrase
  | illegalDeclaration declaration fault =>
    "Illegal declaration '" ++ declaration ++ "': " ++ fault.phrase
  | illegalRule fault => "Invalid validator spec: " ++ fault.phrase
  | illegalModel _ fault => "Illegal model: " ++ fault.phrase
  | settings fault => "Configuration error: " ++ fault.phrase
  | file fault => "IO error: " ++ fault.phrase
  | undecodable e => "Serialization error: " ++ e.message
  | unparsable => "Serialization error"

/-- Adds the declaration an error arose in, where the error does not know one yet. -/
def within (declaration : String) : ModelError → ModelError
  | illegalProperty name none fault => illegalProperty name (some declaration) fault
  | typeNotFound name none => typeNotFound name (some (.named declaration))
  | e => e

/-- Says where a missing type is referred to, and by which name; other errors stay. -/
def referredTo (name : String) (place : Place) : ModelError → ModelError
  | typeNotFound _ _ => typeNotFound name (some place)
  | e => e

end ModelError

end ModelCatalog
