import ModelCatalog.Fragment.Decode

/-! # Fragments of a model file

The records a model file is written in, as they are before anything is checked. Writing a fragment
leaves out what is absent or empty, so reading it back gives the same fragment.
-/
namespace ModelCatalog

namespace Encode

def entry (name : String) (j : Json) : List (String × Json) := [(name, j)]

def text (name s : String) : List (String × Json) := entry name (.string s)

def flag (name : String) (b : Bool) : List (String × Json) := entry name (.bool b)

def optional {α : Type} (name : String) (encode : α → Json) : Option α → List (String × Json)
  | some a => entry name (encode a)
  | none => []

def list {α : Type} (name : String) (encode : α → Json) : List α → List (String × Json)
  | [] => []
  | as => entry name (.array (as.map encode))

end Encode

/-- A reference to a declaration. -/
structure TypeFragment where
  name : String
  ns : Option String
deriving DecidableEq, Repr

namespace TypeFragment

def reader : RecordReader TypeFragment :=
  mk <$> .required "name" Decode.text <*> .optional "namespace" Decode.text

def ofJson : Json → Except DecodeError TypeFragment := reader.decode "TypeIdentifierAst"

def toJson (f : TypeFragment) : Json :=
  .object (Encode.text "name" f.name ++ Encode.optional "namespace" .string f.ns)

end TypeFragment

/-- How a class says that its instances are identified. -/
structure IdentifiedFragment where
  cls : String
  name : Option String
deriving DecidableEq, Repr

namespace IdentifiedFragment

def reader : RecordReader IdentifiedFragment :=
  mk <$> .required "$class" Decode.text <*> .optional "name" Decode.text

def ofJson : Json → Except DecodeError IdentifiedFragment := reader.decode "IdentifiedAst"

def toJson (f : IdentifiedFragment) : Json :=
  .object (Encode.text "$class" f.cls ++ Encode.optional "name" .string f.name)

end IdentifiedFragment

/-- A rule for values, of any kind. -/
structure RuleFragment where
  cls : Option String
  pattern : Option String
  flags : Option String
  lower : Option Binary64
  upper : Option Binary64
  minLength : Option Int
  maxLength : Option Int
deriving DecidableEq, Repr

namespace RuleFragment

def reader : RecordReader RuleFragment :=
  mk <$> .optional "$class" Decode.text <*> .optional "pattern" Decode.text
    <*> .optional "flags" Decode.text <*> .optional "lower" Decode.float
    <*> .optional "upper" Decode.float <*> .optional "minLength" Decode.integer
    <*> .optional "maxLength" Decode.integer

def ofJson : Json → Except DecodeError RuleFragment := reader.decode "ValidatorAst"

def toJson (f : RuleFragment) : Json :=
  .object (Encode.optional "$class" .string f.cls ++ Encode.optional "pattern" .string f.pattern
    ++ Encode.optional "flags" .string f.flags
    ++ Encode.optional "lower" (fun x => .number (.float x)) f.lower
    ++ Encode.optional "upper" (fun x => .number (.float x)) f.upper
    ++ Encode.optional "minLength" (fun i => .number (.integer i)) f.minLength
    ++ Encode.optional "maxLength" (fun i => .number (.integer i)) f.maxLength)

end RuleFragment

structure PropertyFragment where
  cls : String
  name : String
  isArray : Bool
  isOptional : Bool
  type : Option TypeFragment
  default : Option Json
  rule : Option RuleFragment
  lengthRule : Option RuleFragment

namespace PropertyFragment

def reader : RecordReader PropertyFragment :=
  mk <$> .required "$class" Decode.text <*> .required "name" Decode.text
    <*> .defaulted "isArray" false Decode.flag <*> .defaulted "isOptional" false Decode.flag
    <*> .optional "type" TypeFragment.ofJson <*> .optional "defaultValue" Decode.any
    <*> .optional "validator" RuleFragment.ofJson
    <*> .optional "lengthValidator" RuleFragment.ofJson

def ofJson : Json → Except DecodeError PropertyFragment := reader.decode "PropertyAst"

def toJson (f : PropertyFragment) : Json :=
  .object (Encode.text "$class" f.cls ++ Encode.text "name" f.name
    ++ Encode.flag "isArray" f.isArray ++ Encode.flag "isOptional" f.isOptional
    ++ Encode.optional "type" TypeFragment.toJson f.type
    ++ Encode.optional "defaultValue" id f.default
    ++ Encode.optional "validator" RuleFragment.toJson f.rule
    ++ Encode.optional "lengthValidator" RuleFragment.toJson f.lengthRule)

end PropertyFragment

/-- The members stay undecoded, so that an error in one can name the declaration. -/
structure DeclarationFragment where
  cls : String
  name : String
  isAbstract : Bool
  superType : Option TypeFragment
  identified : Option IdentifiedFragment
  properties : List Json
  default : Option Json
  rule : Option RuleFragment
  lengthRule : Option RuleFragment

namespace DeclarationFragment

def reader : RecordReader DeclarationFragment :=
  mk <$> .required "$class" Decode.text <*> .required "name" Decode.text
    <*> .defaulted "isAbstract" false Decode.flag
    <*> .optional "superType" TypeFragment.ofJson
    <*> .optional "identified" IdentifiedFragment.ofJson
    <*> .defaulted "properties" [] (Decode.list Decode.any)
    <*> .optional "defaultValue" Decode.any <*> .optional "validator" RuleFragment.ofJson
    <*> .optional "lengthValidator" RuleFragment.ofJson

def ofJson : Json → Except DecodeError DeclarationFragment := reader.decode "DeclarationAst"

def toJson (f : DeclarationFragment) : Json :=
  .object (Encode.text "$class" f.cls ++ Encode.text "name" f.name
    ++ Encode.flag "isAbstract" f.isAbstract
    ++ Encode.optional "superType" TypeFragment.toJson f.superType
    ++ Encode.optional "identified" IdentifiedFragment.toJson f.identified
    ++ Encode.list "properties" id f.properties
    ++ Encode.optional "defaultValue" id f.default
    ++ Encode.optional "validator" RuleFragment.toJson f.rule
    ++ Encode.optional "lengthValidator" RuleFragment.toJson f.lengthRule)

end DeclarationFragment

structure ImportFragment where
  cls : String
  ns : String
  name : Option String
  types : List String
deriving DecidableEq, Repr

namespace ImportFragment

def reader : RecordReader ImportFragment :=
  mk <$> .required "$class" Decode.text <*> .required "namespace" Decode.text
    <*> .optional "name" Decode.text <*> .defaulted "types" [] (Decode.list Decode.text)

def ofJson : Json → Except DecodeError ImportFragment := reader.decode "ImportAst"

def toJson (f : ImportFragment) : Json :=
  .object (Encode.text "$class" f.cls ++ Encode.text "namespace" f.ns
    ++ Encode.optional "name" .string f.name ++ Encode.list "types" .string f.types)

end ImportFragment

/-- The declarations stay undecoded, so that an error in one can name it. -/
structure ModelFragment where
  cls : Option String
  ns : String
  imports : List ImportFragment
  declarations : List Json

namespace ModelFragment

def reader : RecordReader ModelFragment :=
  mk <$> .optional "$class" Decode.text <*> .required "namespace" Decode.text
    <*> .defaulted "imports" [] (Decode.list ImportFragment.ofJson)
    <*> .defaulted "declarations" [] (Decode.list Decode.any)

def ofJson : Json → Except DecodeError ModelFragment := reader.decode "ModelAst"

def toJson (f : ModelFragment) : Json :=
  .object (Encode.optional "$class" .string f.cls ++ Encode.text "namespace" f.ns
    ++ Encode.list "imports" ImportFragment.toJson f.imports
    ++ Encode.list "declarations" id f.declarations)

end ModelFragment

end ModelCatalog
