import ModelCatalog.Json.Value
import ModelCatalog.Number.Shortest

/-! # Writing data values

Compact text for messages, and text with two spaces per level for reports. Both write members in
their own order.
-/
namespace ModelCatalog

/-- Characters below U+0020 without a short escape are written with four hexadecimal digits. -/
def Json.escaped (c : Char) : List Char :=
  if c = '"' then ['\\', '"']
  else if c = '\\' then ['\\', '\\']
  else if c = '\x08' then ['\\', 'b']
  else if c = '\x0c' then ['\\', 'f']
  else if c = '\n' then ['\\', 'n']
  else if c = '\r' then ['\\', 'r']
  else if c = '\t' then ['\\', 't']
  else if c.toNat < 0x20 then
    ['\\', 'u', '0', '0', Nat.digitChar (c.toNat / 16), Nat.digitChar (c.toNat % 16)]
  else [c]

def Json.quoted (s : String) : String :=
  "\"" ++ String.ofList (s.toList.flatMap Json.escaped) ++ "\""

def Number.text : Number → String
  | integer i => toString i
  | float x => x.valueText

namespace Json

/-- Text of a value that has no parts. -/
def atomText : Json → String
  | null => "null"
  | bool true => "true"
  | bool false => "false"
  | number n => n.text
  | string s => quoted s
  | array _ => "[]"
  | object _ => "\x7b\x7d"

mutual

/-- No blank anywhere outside a text. -/
def compact : Json → String
  | array items => "[" ++ ",".intercalate (compactItems items) ++ "]"
  | object members => "\x7b" ++ ",".intercalate (compactMembers members) ++ "\x7d"
  | j => j.atomText

def compactItems : List Json → List String
  | [] => []
  | j :: rest => j.compact :: compactItems rest

def compactMembers : List (String × Json) → List String
  | [] => []
  | (name, j) :: rest => (quoted name ++ ":" ++ j.compact) :: compactMembers rest

end

private def margin (level : Nat) : String := "\n" ++ String.ofList (List.replicate (2 * level) ' ')

/-- One part a line inside brackets; empty brackets stay together. -/
private def block (opening closing : String) (level : Nat) : List String → String
  | [] => opening ++ closing
  | parts =>
    opening ++ margin (level + 1) ++ ("," ++ margin (level + 1)).intercalate parts
      ++ margin level ++ closing

mutual

def indentedAt (level : Nat) : Json → String
  | array items => block "[" "]" level (indentedItems (level + 1) items)
  | object members => block "\x7b" "\x7d" level (indentedMembers (level + 1) members)
  | j => j.atomText

def indentedItems (level : Nat) : List Json → List String
  | [] => []
  | j :: rest => j.indentedAt level :: indentedItems level rest

def indentedMembers (level : Nat) : List (String × Json) → List String
  | [] => []
  | (name, j) :: rest =>
    (quoted name ++ ": " ++ j.indentedAt level) :: indentedMembers level rest

end

/-- Each part on its own line, two spaces deeper than the value that holds it. -/
def indented (j : Json) : String := j.indentedAt 0

end Json

end ModelCatalog
