import ModelCatalog.Environment
import ModelCatalog.Error
import ModelCatalog.Settings
import ModelCatalog.Yaml.Value

/-! # Settings written in YAML

A section or an entry that is not written keeps its standard value, and entries without a meaning
are passed over. Before a text is read, its references to the environment are expanded.
-/
namespace ModelCatalog

namespace Yaml.Document

/-- Is the scalar plain, or a literal block with this tag? -/
def isBare (tag : Option String) (style : Yaml.Style) (core : String) : Bool :=
  style = .plain || (style = .literal && tag = some (Yaml.Scalar.coreTag core))

def flag? (d : Document) (n : Node) : Option Bool := do
  match ← d.follow n with
  | .scalar _ tag style text => if isBare tag style "bool" then Scalar.bool? text else none
  | _ => none

/-- A number of 64 bits. -/
def size? (d : Document) (n : Node) : Option Nat := do
  match ← d.follow n with
  | .scalar _ tag style text =>
    if isBare tag style "int" then (Scalar.natural? text).filter (Width.holds 64) else none
  | _ => none

/-- A number, or nothing where a null or nothing is written. -/
def optionalSize? (d : Document) (n : Node) : Option (Option Nat) := do
  match ← d.follow n with
  | .scalar _ none .plain text =>
    if text.isEmpty || Scalar.isNull text then some none else (d.size? n).map some
  | .scalar _ (some tag) .plain text =>
    if tag = Scalar.coreTag "null" then if Scalar.isNull text then some none else none
    else (d.size? n).map some
  | _ => (d.size? n).map some

/-- The entries of a mapping with these names, none of which may be repeated. Where nothing is
written, there are none. -/
def entries? (d : Document) (known : List String) (n : Node) : Option (List (String × Node)) := do
  match ← d.follow n with
  | .scalar _ _ .plain "" => return []
  | .mapping _ _ entries =>
    let named ← entries.mapM fun (k, v) => do
      match ← d.follow k with
      | .scalar _ _ _ name => some (name, v)
      | _ => none
    let found := named.filter fun (name, _) => known.contains name
    if (found.map (·.1)).Nodup then return found else failure
  | _ => none

end Yaml.Document

open Yaml (Document Node)

/-- Reads the entry of a name, which has a standard value. -/
def entryOr {α : Type} (entries : List (String × Node)) (name : String) (standard : α)
    (read : Node → Option α) : Option α :=
  match entries.lookup name with
  | some n => read n
  | none => some standard

def ResolutionSettings.ofNode? (d : Document) (n : Node) : Option ResolutionSettings := do
  let entries ← d.entries?
    ["allow_property_override", "max_inheritance_depth", "require_identified_relationships"] n
  return ⟨← entryOr entries "allow_property_override" standard.allowOverride d.flag?,
    ← entryOr entries "max_inheritance_depth" standard.maxDepth d.optionalSize?,
    ← entryOr entries "require_identified_relationships" standard.requireIdentified d.flag?⟩

def ValidationSettings.ofNode? (d : Document) (n : Node) : Option ValidationSettings := do
  let entries ← d.entries? ["validate_default_values", "check_validator_compatibility"] n
  return ⟨← entryOr entries "validate_default_values" standard.checkDefaults d.flag?,
    ← entryOr entries "check_validator_compatibility" standard.checkRules d.flag?⟩

namespace Settings

/-- The settings a YAML text holds. -/
def ofYaml? (text : String) : Option Settings := do
  let d ← Document.ofText? text
  let entries ← d.entries? ["resolution", "validation"] d.root
  return ⟨← entryOr entries "resolution" .standard (ResolutionSettings.ofNode? d),
    ← entryOr entries "validation" .standard (ValidationSettings.ofNode? d)⟩

/-- The settings in a file with these contents. -/
def read (env : Environment) (contents : Except FileFault String) : Except ModelError Settings := do
  let text ← contents.mapError .file
  match ofYaml? (Environment.expand env text) with
  | some s => return s
  | none => throw (.settings .unreadable)

/-- The settings in a file, which must be sound. -/
def load (env : Environment) (contents : Except FileFault String) : Except ModelError Settings := do
  let s ← read env contents
  if s.isSound then return s else throw (.settings .depthZero)

end Settings

end ModelCatalog
