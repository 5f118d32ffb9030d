import ModelCatalog.Fragment.Basic
import ModelCatalog.Vocabulary

/-! # Names of types

What the source wrote where it refers to a type. Whether the name stands for anything is another
question.
-/
namespace ModelCatalog

/-- A declaration's name, with the namespace if the source gave one. -/
structure TypeName where
  ns : Option String
  name : String
deriving DecidableEq, Repr

namespace TypeName

def ofFragment (f : TypeFragment) : TypeName := ⟨f.ns, f.name⟩

def text (t : TypeName) : String :=
  match t.ns with
  | some ns => Qualified.join ns t.name
  | none => t.name

def reader : RecordReader TypeName :=
  mk <$> .optionalIfNamed "namespace" Decode.text <*> .required "name" Decode.text

def ofJson : Json → Except DecodeError TypeName := reader.decode "TypeName"

/-- An absent namespace is written as null. -/
def toJson (t : TypeName) : Json :=
  .object [("namespace", (t.ns.map Json.string).getD .null), ("name", .string t.name)]

end TypeName

/-- The type of a property: a primitive, or a declaration by name. -/
inductive TypeRef where
  | primitive (p : Primitive)
  | named (t : TypeName)
deriving DecidableEq, Repr

namespace TypeRef

def text : TypeRef → String
  | primitive p => p.name
  | named t => t.text

/-- A choice is written as its name alone, or as an object of one entry that holds its content. -/
def choice : Json → Except DecodeError (String × Option Json)
  | .string name => .ok (name, none)
  | .object [(name, content)] => .ok (name, some content)
  | .object _ => .error .choiceNotSingle
  | j => .error (.wrongType j .choice)

/-- A primitive is a choice without content; null counts as none. -/
def primitiveOfJson (j : Json) : Except DecodeError Primitive := do
  let (name, content) ← choice j
  match Primitive.ofName? name, content with
  | none, _ => .error (.unknownChoice name (Primitive.all.map Primitive.name))
  | some p, none => .ok p
  | some p, some .null => .ok p
  | some _, some j => .error (.wrongType j .unit)

def ofJson (j : Json) : Except DecodeError TypeRef := do
  let (name, content) ← choice j
  if name = "Primitive" then
    match content with
    | some j => (primitiveOfJson j).map primitive
    | none => .error .choiceWithoutContent
  else if name = "Named" then
    match content with
    | some j => (TypeName.ofJson j).map named
    | none => .error .choiceWithoutContent
  else .error (.unknownChoice name ["Primitive", "Named"])

def toJson : TypeRef → Json
  | primitive p => .object [("Primitive", .string p.name)]
  | named t => .object [("Named", t.toJson)]

end TypeRef

end ModelCatalog
