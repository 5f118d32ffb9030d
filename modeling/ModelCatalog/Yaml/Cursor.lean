/-! # Places in a YAML text

What a line break and a blank are, and a place in a text that knows its column: in YAML the column
of a word decides what the word belongs to.
-/
namespace ModelCatalog.Yaml

/-- Characters a text may hold at all. -/
def isPrintable (c : Char) : Bool :=
  c = '\t' || c = '\n' || c = '\r' || c = '\x85' || (' ' ≤ c && c ≤ '~')
    || (0xA0 ≤ c.toNat && c.toNat ≤ 0xFFFD) || 0x10000 ≤ c.toNat

def isBreak (c : Char) : Bool :=
  c = '\n' || c = '\r' || c = '\x85' || c = '\u2028' || c = '\u2029'

def isBlank (c : Char) : Bool := c = ' ' || c = '\t'

/-- Characters of the names of anchors, directives and tag handles. -/
def isNameChar (c : Char) : Bool := c.isAlphanum || c = '_' || c = '-'

/-- Is there nothing more on the line? -/
def lineEnds : List Char → Bool
  | [] => true
  | c :: _ => isBreak c

/-- Is there nothing more of the word? -/
def wordEnds : List Char → Bool
  | [] => true
  | c :: _ => isBlank c || isBreak c

structure Cursor where
  /-- What follows the place. -/
  rest : List Char
  /-- How many characters precede it. -/
  index : Nat
  line : Nat
  column : Nat

namespace Cursor

def start (text : List Char) : Cursor := ⟨text, 0, 0, 0⟩

/-- Passes characters of one line. -/
def skip (c : Cursor) (n : Nat) : Cursor :=
  { c with rest := c.rest.drop n, index := c.index + n, column := c.column + n }

def skipWhile (c : Cursor) (p : Char → Bool) : Cursor := c.skip (c.rest.takeWhile p).length

def skipBlanks (c : Cursor) : Cursor := c.skipWhile isBlank

/-- Passes a byte order mark at the start of a line. It takes a column there. -/
def skipMark (c : Cursor) : Cursor :=
  match c.column, c.rest with
  | 0, '\ufeff' :: _ => c.skip 1
  | _, _ => c

/-- Passes what is left of the line. -/
def skipLine (c : Cursor) : Cursor := c.skipWhile fun x => !isBreak x

/-- Passes a comment, if one starts here. -/
def skipComment (c : Cursor) : Cursor :=
  match c.rest with
  | '#' :: _ => c.skipLine
  | _ => c

/-- Passes a line break, if there is one. A carriage return and a line feed are one break. -/
def skipBreak (c : Cursor) : Cursor :=
  let past (n : Nat) : Cursor := ⟨c.rest.drop n, c.index + n, c.line + 1, 0⟩
  match c.rest with
  | '\r' :: '\n' :: _ => past 2
  | x :: _ => if isBreak x then past 1 else c
  | [] => c

/-- What the line break here contributes to a text. -/
def breakText (c : Cursor) : List Char :=
  match c.rest with
  | x :: _ => if x = '\u2028' || x = '\u2029' then [x] else if isBreak x then ['\n'] else []
  | [] => []

/-- Does a mark between documents stand here? -/
def atMarker (c : Cursor) : Bool :=
  match c.column, c.rest with
  | 0, '-' :: '-' :: '-' :: rest => wordEnds rest
  | 0, '.' :: '.' :: '.' :: rest => wordEnds rest
  | _, _ => false

end Cursor

end ModelCatalog.Yaml
