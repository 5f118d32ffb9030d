import ModelCatalog.Fragment.Basic

/-! # Settings

What checking is asked to be strict about. Every entry has a value of its own, so settings may name
as few of them as they like.
-/
namespace ModelCatalog

structure ResolutionSettings where
  /-- May a class declare a property that it also inherits? -/
  allowOverride : Bool
  /-- A limit on the number of ancestors, if there is one. -/
  maxDepth : Option Nat
  /-- Must the class that a relationship refers to be identified? -/
  requireIdentified : Bool
deriving DecidableEq, Repr

structure ValidationSettings where
  /-- Are default values checked? -/
  checkDefaults : Bool
  /-- Must rules suit the type of what they are attached to? -/
  checkRules : Bool
deriving DecidableEq, Repr

structure Settings where
  resolution : ResolutionSettings
  validation : ValidationSettings
deriving DecidableEq, Repr

def ResolutionSettings.standard : ResolutionSettings := ⟨true, none, true⟩

def ValidationSettings.standard : ValidationSettings := ⟨true, true⟩

def Settings.standard : Settings := ⟨.standard, .standard⟩

namespace ResolutionSettings

def reader : RecordReader ResolutionSettings :=
  mk <$> .defaulted "allow_property_override" standard.allowOverride Decode.flag
    <*> .defaulted "max_inheritance_depth" standard.maxDepth (Decode.optional Decode.size)
    <*> .defaulted "require_identified_relationships" standard.requireIdentified Decode.flag

def ofJson : Json → Except DecodeError ResolutionSettings := reader.decode "ResolutionConfig"

def toJson (s : ResolutionSettings) : Json :=
  .object [("allow_property_override", .bool s.allowOverride),
    ("max_inheritance_depth", (s.maxDepth.map fun n => .number (.integer n)).getD .null),
    ("require_identified_relationships", .bool s.requireIdentified)]

end ResolutionSettings

namespace ValidationSettings

def reader : RecordReader ValidationSettings :=
  mk <$> .defaulted "validate_default_values" standard.checkDefaults Decode.flag
    <*> .defaulted "check_validator_compatibility" standard.checkRules Decode.flag

def ofJson : Json → Except DecodeError ValidationSettings := reader.decode "ValidationConfig"

def toJson (s : ValidationSettings) : Json :=
  .object [("validate_default_values", .bool s.checkDefaults),
    ("check_validator_compatibility", .bool s.checkRules)]

end ValidationSettings

namespace Settings

def reader : RecordReader Settings :=
  mk <$> .defaulted "resolution" .standard ResolutionSettings.ofJson
    <*> .defaulted "validation" .standard ValidationSettings.ofJson

def ofJson : Json → Except DecodeError Settings := reader.decode "IntrospectConfig"

def toJson (s : Settings) : Json :=
  .object [("resolution", s.resolution.toJson), ("validation", s.validation.toJson)]

/-- A limit of no ancestors at all would forbid every super type. -/
def isSound (s : Settings) : Bool := s.resolution.maxDepth != some 0

end Settings

end ModelCatalog
