import ModelCatalog.Yaml.Spelling

/-! # The tokens of a YAML text

Besides what is written, tokens say where the collections that indentation makes open and close.
-/
namespace ModelCatalog.Yaml

inductive Token where
  /-- A directive for the version. -/
  | version
  /-- A directive that says what a tag handle stands for. -/
  | handle (name expansion : String)
  | documentStart
  | documentEnd
  | blockSequence
  | blockMapping
  | blockEnd
  | blockEntry
  | flowSequence
  | flowSequenceEnd
  | flowMapping
  | flowMappingEnd
  | flowEntry
  | key
  | value
  | reference (name : String)
  | anchor (name : String)
  | tag (handle suffix : String)
  | scalar (style : Style) (text : String)
deriving DecidableEq, Repr

namespace Token

/-! ## Tags -/

def isUriChar (verbatim : Bool) (c : Char) : Bool :=
  isNameChar c || ";/?:@&=+$.!~*'()".toList.contains c
    || (verbatim && (c = ',' || c = '[' || c = ']'))

/-- How many octets a character takes that starts with this one. -/
def octets? (n : Nat) : Option Nat :=
  if n < 0x80 then some 1
  else if 0xC0 ≤ n ∧ n < 0xE0 then some 2
  else if 0xE0 ≤ n ∧ n < 0xF0 then some 3
  else if 0xF0 ≤ n ∧ n < 0xF8 then some 4
  else none

/-- One octet written with a percent sign. -/
def octet (c : Cursor) : Option (Nat × Cursor) :=
  match c.rest with
  | '%' :: a :: b :: _ => do
    return (16 * (← Json.Reader.hexDigit? a) + (← Json.Reader.hexDigit? b), c.skip 3)
  | _ => none

/-- Trailing octets of a character. -/
def trailingOctets : Nat → Cursor → Option (List Nat × Cursor)
  | 0, c => some ([], c)
  | n + 1, c => do
    let (octet, c) ← octet c
    if octet / 64 ≠ 2 then failure
    let (more, c) ← trailingOctets n c
    return (octet :: more, c)

/-- An escaped character, as the octets that make it up. -/
def escapedOctets (c : Cursor) : Option (List Nat × Cursor) := do
  let (first, c) ← octet c
  let (more, c) ← trailingOctets ((← octets? first) - 1) c
  return (first :: more, c)

/-- The characters of a tag; an escaped one stands as its octets, for no tag with a meaning has any
beyond ASCII. Each takes a character, so a fuel of the text's length suffices. -/
def uriFrom (verbatim : Bool) : Nat → List Char → Cursor → Option (List Char × Cursor)
  | 0, _, _ => none
  | fuel + 1, taken, c =>
    match c.rest with
    | '%' :: _ => do
      let (octets, c) ← escapedOctets c
      uriFrom verbatim fuel (octets.reverse.map Char.ofNat ++ taken) c
    | x :: _ =>
      if isUriChar verbatim x then uriFrom verbatim fuel (x :: taken) (c.skip 1)
      else some (taken.reverse, c)
    | [] => some (taken.reverse, c)

def uri (verbatim : Bool) (c : Cursor) : Option (List Char × Cursor) :=
  uriFrom verbatim (c.rest.length + 1) [] c

/-- The name between two exclamation marks, or what there is of it. -/
def handleText (c : Cursor) : List Char × Cursor :=
  let name := (c.rest.drop 1).takeWhile isNameChar
  let c := c.skip (name.length + 1)
  match c.rest with
  | '!' :: _ => ('!' :: name ++ ['!'], c.skip 1)
  | _ => ('!' :: name, c)

/-- Is this more than one exclamation mark, and closed by one? -/
def isClosedHandle (h : List Char) : Bool := 1 < h.length && h.getLast? = some '!'

/-- A tag: verbatim between angle brackets, after a handle, or after an exclamation mark that may
stand alone. A comma may follow it in a flow collection. -/
def readTag (flow : Bool) (c : Cursor) : Option (Token × Cursor) := do
  let (token, c) ← match c.rest with
    | '!' :: '<' :: _ => do
      let (text, c) ← uri true (c.skip 2)
      match text, c.rest with
      | _ :: _, '>' :: _ => some (tag "" (String.ofList text), c.skip 1)
      | _, _ => none
    | _ => do
      let (name, c) := handleText c
      let (text, c) ← uri false c
      if isClosedHandle name then
        if text.isEmpty then failure
        return (tag (String.ofList name) (String.ofList text), c)
      else
        match name.drop 1 ++ text with
        | [] => some (tag "" "!", c)
        | suffix => some (tag "!" (String.ofList suffix), c)
  if wordEnds c.rest || (flow && c.rest.head? = some ',') then return (token, c) else failure

/-! ## Anchors and references -/

/-- The name after an ampersand or an asterisk. -/
def readName (c : Cursor) : Option (String × Cursor) :=
  let name := (c.rest.drop 1).takeWhile isNameChar
  let c := c.skip (name.length + 1)
  let ends := match c.rest with
    | x :: _ => "?:,]\x7d%@`".toList.contains x
    | [] => false
  if name.isEmpty || !(wordEnds c.rest || ends) then none else some (String.ofList name, c)

/-! ## Directives -/

/-- A number of at most nine digits. -/
def readNumber (c : Cursor) : Option (Nat × Cursor) :=
  let digits := c.rest.takeWhile Char.isDigit
  if digits.isEmpty || 9 < digits.length then none
  else some (Json.Reader.natOfDigits digits, c.skip digits.length)

/-- A version; the ones known are 1.1 and 1.2. -/
def readVersion (c : Cursor) : Option (Token × Cursor) := do
  let (major, c) ← readNumber c.skipBlanks
  match c.rest with
  | '.' :: _ => do
    let (minor, c) ← readNumber (c.skip 1)
    if major = 1 ∧ (minor = 1 ∨ minor = 2) then return (version, c) else failure
  | _ => none

/-- A tag handle and what it stands for. -/
def readHandle (c : Cursor) : Option (Token × Cursor) := do
  let c := c.skipBlanks
  if c.rest.head? ≠ some '!' then failure
  let (name, c) := handleText c
  if !(isClosedHandle name || name = ['!']) then failure
  if !c.rest.head?.any isBlank then failure
  let (text, c) ← uri true c.skipBlanks
  if text.isEmpty || !wordEnds c.rest then failure
  return (handle (String.ofList name) (String.ofList text), c)

/-- A directive from its percent sign on, with the line it stands on. -/
def readDirective (c : Cursor) : Option (Token × Cursor) := do
  let name := (c.rest.drop 1).takeWhile isNameChar
  let c := c.skip (name.length + 1)
  if !wordEnds c.rest then failure
  let (token, c) ← match String.ofList name with
    | "YAML" => readVersion c
    | "TAG" => readHandle c
    | _ => none
  let c := c.skipBlanks.skipComment
  if lineEnds c.rest then return (token, c.skipBreak) else failure

end Token

end ModelCatalog.Yaml
