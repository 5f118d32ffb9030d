import ModelCatalog.Json.Printer
import ModelCatalog.Number.Scaled
import ModelCatalog.Text.Visible

/-! # Decoding fragments

A fragment is a record written in data: an object with named entries, or an array with the entries
in order. In an object the entries are looked at in the order in which they were written, so the
first bad one is the error, and a missing one is only noticed afterwards.
-/
namespace ModelCatalog

/-- What an entry should have been. -/
inductive Wanted where
  | text
  | flag
  | sequence
  | float
  | integer
  | size
  | unit
  | choice
  | record (name : String)

def Wanted.phrase : Wanted → String
  | text => "a string"
  | flag => "a boolean"
  | sequence => "a sequence"
  | float => "f64"
  | integer => "i64"
  | size => "usize"
  | unit => "unit"
  | choice => "string or map"
  | record name => "struct " ++ name

inductive DecodeError where
  | wrongType (found : Json) (wanted : Wanted)
  | outOfRange (found : Int) (wanted : Wanted)
  | missing (name : String)
  | tooFew (position : Nat) (record : String) (size : Nat)
  | tooMany (length : Nat)
  | unknownChoice (given : String) (known : List String)
  | choiceWithoutContent
  | choiceNotSingle

namespace DecodeError

/-- How a value is named when it is of the wrong type. -/
def describe : Json → String
  | .null => "null"
  | .bool true => "boolean `true`"
  | .bool false => "boolean `false`"
  | .number (.integer i) => "integer `" ++ toString i ++ "`"
  | .number (.float x) => "floating point `" ++ x.valueText ++ "`"
  | .string s => "string " ++ Text.shown s
  | .array _ => "sequence"
  | .object _ => "map"

def alternatives (known : List String) : String :=
  match known.map fun name => "`" ++ name ++ "`" with
  | [] => "there are no variants"
  | [a] => "expected " ++ a
  | [a, b] => "expected " ++ a ++ " or " ++ b
  | all => "expected one of " ++ ", ".intercalate all

def message : DecodeError → String
  | wrongType found wanted => "invalid type: " ++ describe found ++ ", expected " ++ wanted.phrase
  | outOfRange found wanted =>
    "invalid value: integer `" ++ toString found ++ "`, expected " ++ wanted.phrase
  | missing name => "missing field `" ++ name ++ "`"
  | tooFew position record size =>
    "invalid length " ++ toString position ++ ", expected struct " ++ record ++ " with "
      ++ toString size ++ (if size = 1 then " element" else " elements")
  | tooMany length =>
    "invalid length " ++ toString length ++ ", expected fewer elements in array"
  | unknownChoice given known => "unknown variant `" ++ given ++ "`, " ++ alternatives known
  | choiceWithoutContent => "invalid type: unit variant, expected newtype variant"
  | choiceNotSingle => "invalid value: map, expected map with a single key"

end DecodeError

/-! ## Single values -/
namespace Decode

def text : Json → Except DecodeError String
  | .string s => .ok s
  | j => .error (.wrongType j .text)

def flag : Json → Except DecodeError Bool
  | .bool b => .ok b
  | j => .error (.wrongType j .flag)

/-- Any number will do. -/
def float : Json → Except DecodeError Binary64
  | .number n => .ok n.toBinary64
  | j => .error (.wrongType j .float)

/-- An integer of 64 bits with a sign; `1.0` is none. -/
def integer : Json → Except DecodeError Int
  | .number (.integer i) =>
    if Width.holdsSigned 64 i then .ok i else .error (.outOfRange i .integer)
  | j => .error (.wrongType j .integer)

/-- An integer that counts something. -/
def size : Json → Except DecodeError Nat
  | .number (.integer i) => if 0 ≤ i then .ok i.toNat else .error (.outOfRange i .size)
  | j => .error (.wrongType j .size)

def any (j : Json) : Except DecodeError Json := .ok j

def list {α : Type} (item : Json → Except DecodeError α) : Json → Except DecodeError (List α)
  | .array items => items.mapM item
  | j => .error (.wrongType j .sequence)

/-- Null stands for an absent value. -/
def optional {α : Type} (value : Json → Except DecodeError α) :
    Json → Except DecodeError (Option α)
  | .null => .ok none
  | j => (value j).map some

end Decode

/-! ## Records -/

/-- How a record is written, with its name and size for messages. -/
structure Written where
  record : String
  size : Nat
  content : List (String × Json) ⊕ List Json

namespace Written

/-- The entry of that name, or at that position. -/
def entry? (w : Written) (position : Nat) (name : String) : Option Json :=
  match w.content with
  | .inl members => members.lookup name
  | .inr items => items[position]?

def absent (w : Written) (position : Nat) (name : String) : DecodeError :=
  match w.content with
  | .inl _ => .missing name
  | .inr _ => .tooFew position w.record w.size

end Written

/-- A reader of consecutive entries: their names with the check of each, and the reading itself,
given the position of the first. -/
structure RecordReader (α : Type) where
  entries : List (String × (Json → Except DecodeError Unit))
  read : Written → Nat → Except DecodeError α

namespace RecordReader

/-- An entry that must be there. -/
def required {α : Type} (name : String) (value : Json → Except DecodeError α) : RecordReader α where
  entries := [(name, fun j => (value j).map fun _ => ())]
  read w position :=
    match w.entry? position name with
    | some j => value j
    | none => .error (w.absent position name)

/-- An entry that has a value of its own when it is not there. -/
def defaulted {α : Type} (name : String) (fallback : α) (value : Json → Except DecodeError α) :
    RecordReader α where
  entries := [(name, fun j => (value j).map fun _ => ())]
  read w position :=
    match w.entry? position name with
    | some j => value j
    | none => .ok fallback

/-- An entry that may be absent or null. -/
def optional {α : Type} (name : String) (value : Json → Except DecodeError α) :
    RecordReader (Option α) :=
  defaulted name none (Decode.optional value)

/-- An entry that may be absent or null in an object, yet must be written in an array. -/
def optionalIfNamed {α : Type} (name : String) (value : Json → Except DecodeError α) :
    RecordReader (Option α) where
  entries := [(name, fun j => (Decode.optional value j).map fun _ => ())]
  read w position :=
    match w.entry? position name, w.content with
    | some j, _ => Decode.optional value j
    | none, .inl _ => .ok none
    | none, .inr _ => .error (w.absent position name)

instance : Applicative RecordReader where
  pure a := ⟨[], fun _ _ => .ok a⟩
  seq f x :=
    let x := x ()
    ⟨f.entries ++ x.entries, fun w position => do
      let g ← f.read w position
      let a ← x.read w (position + f.entries.length)
      return g a⟩

/-- The first bad entry in the order of writing. Unknown entries are passed over. -/
def checkMembers {α : Type} (r : RecordReader α) : List (String × Json) → Except DecodeError Unit
  | [] => .ok ()
  | (name, j) :: rest => do
    match r.entries.lookup name with
    | some check => check j
    | none => pure ()
    r.checkMembers rest

def decode {α : Type} (r : RecordReader α) (record : String) : Json → Except DecodeError α
  | .object members => do
    r.checkMembers members
    r.read ⟨record, r.entries.length, .inl members⟩ 0
  | .array items => do
    let a ← r.read ⟨record, r.entries.length, .inr items⟩ 0
    if r.entries.length < items.length then .error (.tooMany items.length) else .ok a
  | j => .error (.wrongType j (.record record))

end RecordReader

end ModelCatalog
