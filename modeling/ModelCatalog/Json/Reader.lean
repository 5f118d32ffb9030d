import ModelCatalog.Json.Value
import ModelCatalog.Number.Scaled

/-! # Reading data values

The grammar of JSON without extensions. Containers may nest 127 deep, and a repeated member keeps
its first place and takes the last value. Each step answers what it takes from the text, with the
text after it.
-/
namespace ModelCatalog

/-- Replaces the value at the name's first place, or adds the member at the end. -/
def Json.setMember (name : String) (value : Json) : List (String × Json) → List (String × Json)
  | [] => [(name, value)]
  | (n, v) :: rest =>
    if n = name then (n, value) :: rest else (n, v) :: setMember name value rest

/-- An integer when it fits 64 bits; a negative zero is floating, since no integer is. -/
def Number.ofInteger? (negative : Bool) (magnitude : Nat) : Option Number :=
  if !negative then
    if Width.holds 64 magnitude then some (.integer magnitude) else none
  else if 0 < magnitude && Width.holdsSigned 64 (-magnitude) then some (.integer (-magnitude))
  else none

namespace Json.Reader

def skipBlank (cs : List Char) : List Char :=
  cs.dropWhile fun c => c = ' ' || c = '\n' || c = '\r' || c = '\t'

/-- Reads the word if the text starts with it. -/
def word (w : List Char) (value : Json) (cs : List Char) : Option (Json × List Char) :=
  if w.isPrefixOf cs then some (value, cs.drop w.length) else none

def natOfDigits (ds : List Char) : Nat := ds.foldl (fun n c => 10 * n + (c.toNat - 48)) 0

/-- One or more digits. -/
def digits (cs : List Char) : Option (List Char × List Char) :=
  match cs.takeWhile Char.isDigit with
  | [] => none
  | ds => some (ds, cs.dropWhile Char.isDigit)

/-- No digit may follow a leading zero. -/
def wholePart (cs : List Char) : Option (List Char × List Char) :=
  match digits cs with
  | some ('0' :: _ :: _, _) => none
  | step => step

def fractionPart : List Char → Option (List Char × List Char)
  | '.' :: cs => digits cs
  | cs => some ([], cs)

/-- The exponent, if one is written. -/
def exponentPart : List Char → Option (Option Int × List Char)
  | 'e' :: cs => signed cs
  | 'E' :: cs => signed cs
  | cs => some (none, cs)
where
  signed : List Char → Option (Option Int × List Char)
    | '-' :: cs => (digits cs).map fun (ds, rest) => (some (-(natOfDigits ds : Int)), rest)
    | '+' :: cs => (digits cs).map fun (ds, rest) => (some (natOfDigits ds : Int), rest)
    | cs => (digits cs).map fun (ds, rest) => (some (natOfDigits ds : Int), rest)

/-- A number beyond the largest double is refused, and one that is not an integer is read by its
leading digits. -/
def numberValue (negative : Bool) (whole fraction : List Char) (exponent : Option Int) :
    Option Number :=
  let float := ((Scaled.ofDigits whole fraction (exponent.getD 0)).toBinary64? negative).map
    Number.float
  if fraction.isEmpty && exponent.isNone then
    (Number.ofInteger? negative (natOfDigits whole)).or float
  else float

def number (cs : List Char) : Option (Json × List Char) := do
  let (negative, cs) := match cs with
    | '-' :: rest => (true, rest)
    | _ => (false, cs)
  let (whole, cs) ← wholePart cs
  let (fraction, cs) ← fractionPart cs
  let (exponent, cs) ← exponentPart cs
  let n ← numberValue negative whole fraction exponent
  return (.number n, cs)

def hexDigit? (c : Char) : Option Nat :=
  if '0' ≤ c ∧ c ≤ '9' then some (c.toNat - 48)
  else if 'a' ≤ c ∧ c ≤ 'f' then some (c.toNat - 87)
  else if 'A' ≤ c ∧ c ≤ 'F' then some (c.toNat - 55)
  else none

/-- Four hexadecimal digits. -/
def unit : List Char → Option (Nat × List Char)
  | a :: b :: c :: d :: rest => do
    let hs ← [a, b, c, d].mapM hexDigit?
    return (hs.foldl (fun n h => 16 * n + h) 0, rest)
  | _ => none

/-- The character after `\u`. A high surrogate must be followed by an escaped low one. -/
def escapedUnit (cs : List Char) : Option (Char × List Char) := do
  let (high, cs) ← unit cs
  if 0xD800 ≤ high ∧ high < 0xDC00 then
    match cs with
    | '\\' :: 'u' :: rest =>
      let (low, rest) ← unit rest
      if 0xDC00 ≤ low ∧ low < 0xE000 then
        return (Char.ofNat (0x10000 + (high - 0xD800) * 0x400 + (low - 0xDC00)), rest)
      else none
    | _ => none
  else if 0xDC00 ≤ high ∧ high < 0xE000 then none
  else return (Char.ofNat high, cs)

/-- The character after a backslash. -/
def escapedChar : List Char → Option (Char × List Char)
  | '"' :: cs => some ('"', cs)
  | '\\' :: cs => some ('\\', cs)
  | '/' :: cs => some ('/', cs)
  | 'b' :: cs => some ('\x08', cs)
  | 'f' :: cs => some ('\x0c', cs)
  | 'n' :: cs => some ('\n', cs)
  | 'r' :: cs => some ('\r', cs)
  | 't' :: cs => some ('\t', cs)
  | 'u' :: cs => escapedUnit cs
  | _ => none

/-- The rest of a text after its opening quote. Every step takes a character, so a fuel of the
text's length suffices. -/
def textTail : Nat → List Char → List Char → Option (String × List Char)
  | 0, _, _ => none
  | _ + 1, taken, '"' :: cs => some (String.ofList taken.reverse, cs)
  | fuel + 1, taken, '\\' :: cs => do
    let (c, rest) ← escapedChar cs
    textTail fuel (c :: taken) rest
  | fuel + 1, taken, c :: cs => if c.toNat < 0x20 then none else textTail fuel (c :: taken) cs
  | _ + 1, _, [] => none

def text : List Char → Option (String × List Char)
  | '"' :: cs => textTail (cs.length + 1) [] cs
  | _ => none

mutual

/-- A value after blanks. `room` bounds how deep containers may still nest, and a value takes at
least one character, so `fuel` is never short when it starts above the text's length. -/
def value : Nat → Nat → List Char → Option (Json × List Char)
  | 0, _, _ => none
  | fuel + 1, room, cs =>
    match skipBlank cs with
    | '"' :: rest => (text ('"' :: rest)).map fun (s, rest) => (.string s, rest)
    | '[' :: rest =>
      if room ≤ 1 then none
      else match skipBlank rest with
        | ']' :: rest => some (.array [], rest)
        | _ => items fuel (room - 1) [] rest
    | '\x7b' :: rest =>
      if room ≤ 1 then none
      else match skipBlank rest with
        | '\x7d' :: rest => some (.object [], rest)
        | _ => members fuel (room - 1) [] rest
    | 'n' :: rest => word ['n', 'u', 'l', 'l'] .null ('n' :: rest)
    | 't' :: rest => word ['t', 'r', 'u', 'e'] (.bool true) ('t' :: rest)
    | 'f' :: rest => word ['f', 'a', 'l', 's', 'e'] (.bool false) ('f' :: rest)
    | rest => number rest

def items : Nat → Nat → List Json → List Char → Option (Json × List Char)
  | 0, _, _, _ => none
  | fuel + 1, room, taken, cs => do
    let (item, cs) ← value fuel room cs
    match skipBlank cs with
    | ',' :: rest => items fuel room (item :: taken) rest
    | ']' :: rest => some (.array (item :: taken).reverse, rest)
    | _ => none

def members : Nat → Nat → List (String × Json) → List Char → Option (Json × List Char)
  | 0, _, _, _ => none
  | fuel + 1, room, taken, cs => do
    let (name, cs) ← text (skipBlank cs)
    match skipBlank cs with
    | ':' :: cs => do
      let (item, cs) ← value fuel room cs
      match skipBlank cs with
      | ',' :: rest => members fuel room (Json.setMember name item taken) rest
      | '\x7d' :: rest => some (.object (Json.setMember name item taken), rest)
      | _ => none
    | _ => none

end

end Json.Reader

/-- The value a whole text stands for. -/
def Json.read? (s : String) : Option Json :=
  let cs := s.toList
  match Json.Reader.value (2 * cs.length + 2) 128 cs with
  | some (j, rest) => if (Json.Reader.skipBlank rest).isEmpty then some j else none
  | none => none

end ModelCatalog
