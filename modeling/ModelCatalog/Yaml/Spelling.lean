import ModelCatalog.Json.Reader
import ModelCatalog.Yaml.Cursor

/-! # How scalars are spelled

A scalar is spelled plainly, in quotes or as a block of indented lines. Each reader takes a place in
a text and answers the scalar's text, with the place after it. Every step takes a character, so a
fuel of the text's length suffices.
-/
namespace ModelCatalog.Yaml

inductive Style where
  | plain
  | quoted
  | literal
  | folded
deriving DecidableEq, Repr

/-- What stands between two words of a scalar: blanks, last one first, or line breaks with the
blanks around them left out. -/
inductive Gap where
  | blanks (reversed : List Char)
  | lines (first more : List Char)

namespace Gap

def isLines : Gap → Bool
  | blanks _ => false
  | lines _ _ => true

def isEmpty : Gap → Bool
  | blanks cs => cs.isEmpty
  | lines _ _ => false

/-- What a gap becomes: a single break a space, and of several the first is left out. -/
def text : Gap → List Char
  | blanks cs => cs.reverse
  | lines ['\n'] [] => [' ']
  | lines ['\n'] more => more
  | lines first more => first ++ more

/-- Adds the blank or break at the place, and passes it. -/
def grow (g : Gap) (c : Cursor) : Gap × Cursor :=
  match g, c.rest with
  | blanks cs, x :: _ =>
    if isBlank x then (blanks (x :: cs), c.skip 1) else (lines c.breakText [], c.skipBreak)
  | lines first more, x :: _ =>
    if isBlank x then (g, c.skip 1) else (lines first (more ++ c.breakText), c.skipBreak)
  | _, [] => (g, c)

end Gap

def isFlowIndicator (c : Char) : Bool :=
  c = ',' || c = '[' || c = ']' || c = '\x7b' || c = '\x7d'

/-! ## Plain scalars -/

structure PlainText where
  text : List Char
  /-- Were line breaks passed after the last word? -/
  lineEnded : Bool
  after : Cursor

/-- Reads on with the words so far, last character first, and the gap after them. Lines of a block
must reach the margin. -/
def plainFrom (flow : Bool) (margin : Nat) :
    Nat → List Char → Gap → Cursor → Option PlainText
  | 0, _, _, _ => none
  | fuel + 1, taken, gap, c =>
    let done := some ⟨taken.reverse, gap.isLines, c⟩
    match c.rest with
    | [] => done
    | x :: next =>
      if isBlank x || isBreak x then
        if gap.isLines && c.column < margin && x = '\t' then none
        else plainFrom flow margin fuel taken (gap.grow c).1 (gap.grow c).2
      else if !gap.isEmpty && (x = '#' || (gap.isLines && !flow && c.column < margin)) then done
      else if c.atMarker then done
      else if x = ':' && wordEnds next then done
      else if flow && x = ':' && next.head?.any fun y => y = '?' || isFlowIndicator y then none
      else if flow && isFlowIndicator x then done
      else plainFrom flow margin fuel (x :: (gap.text.reverse ++ taken)) (.blanks []) (c.skip 1)

def plain (flow : Bool) (margin : Nat) (c : Cursor) : Option PlainText :=
  plainFrom flow margin (c.rest.length + 1) [] (.blanks []) c

/-! ## Quoted scalars -/

/-- The character of a hexadecimal escape of so many digits. -/
def hexEscape (digits : Nat) (cs : List Char) : Option (Char × Nat) := do
  let taken := cs.take digits
  if taken.length < digits then failure
  let n := (← taken.mapM Json.Reader.hexDigit?).foldl (fun n d => 16 * n + d) 0
  if h : n.isValidChar then return (Char.ofNatAux n h, digits + 1) else failure

/-- The character a backslash stands for with what follows it, and how much that is. -/
def escape : List Char → Option (Char × Nat)
  | '0' :: _ => some ('\x00', 1)
  | 'a' :: _ => some ('\x07', 1)
  | 'b' :: _ => some ('\x08', 1)
  | 't' :: _ | '\t' :: _ => some ('\t', 1)
  | 'n' :: _ => some ('\n', 1)
  | 'v' :: _ => some ('\x0b', 1)
  | 'f' :: _ => some ('\x0c', 1)
  | 'r' :: _ => some ('\r', 1)
  | 'e' :: _ => some ('\x1b', 1)
  | ' ' :: _ => some (' ', 1)
  | '"' :: _ => some ('"', 1)
  | '/' :: _ => some ('/', 1)
  | '\\' :: _ => some ('\\', 1)
  | 'N' :: _ => some ('\x85', 1)
  | '_' :: _ => some ('\xa0', 1)
  | 'L' :: _ => some ('\u2028', 1)
  | 'P' :: _ => some ('\u2029', 1)
  | 'x' :: cs => hexEscape 2 cs
  | 'u' :: cs => hexEscape 4 cs
  | 'U' :: cs => hexEscape 8 cs
  | _ => none

/-- Reads on inside single quotes, or double ones. -/
def quotedFrom (single : Bool) : Nat → List Char → Gap → Cursor → Option (List Char × Cursor)
  | 0, _, _, _ => none
  | fuel + 1, taken, gap, c =>
    let joined := gap.text.reverse ++ taken
    let past (x : Char) (n : Nat) := quotedFrom single fuel (x :: joined) (.blanks []) (c.skip n)
    if c.atMarker then none
    else match single, c.rest with
      | _, [] => none
      | true, '\'' :: '\'' :: _ => past '\'' 2
      | true, '\'' :: _ => some (joined.reverse, c.skip 1)
      | false, '"' :: _ => some (joined.reverse, c.skip 1)
      | false, '\\' :: next =>
        if next.head?.any isBreak then
          quotedFrom single fuel joined (.lines [] []) (c.skip 1).skipBreak
        else match escape next with
          | some (x, n) => past x (n + 1)
          | none => none
      | _, x :: _ =>
        if isBlank x || isBreak x then quotedFrom single fuel taken (gap.grow c).1 (gap.grow c).2
        else past x 1

/-- Reads a scalar from its opening quote on. -/
def quoted (single : Bool) (c : Cursor) : Option (List Char × Cursor) :=
  quotedFrom single (c.rest.length + 1) [] (.blanks []) (c.skip 1)

/-! ## Block scalars -/

/-- What becomes of the line breaks at the end of a block. -/
inductive Chomping where
  | strip
  | clip
  | keep
deriving DecidableEq, Repr

def chomping (c : Cursor) : Option Chomping × Cursor :=
  match c.rest with
  | '+' :: _ => (some .keep, c.skip 1)
  | '-' :: _ => (some .strip, c.skip 1)
  | _ => (none, c)

/-- A digit that says how far a block is indented; zero where none is written. -/
def increment (c : Cursor) : Option (Nat × Cursor) :=
  match c.rest with
  | '0' :: _ => none
  | d :: _ => some (if d.isDigit then (d.toNat - 48, c.skip 1) else (0, c))
  | [] => some (0, c)

/-- The line that opens a block: the chomping and the increment, in either order. -/
def blockHeader (c : Cursor) : Option (Chomping × Nat × Cursor) := do
  let (first, c) := chomping c
  let (increment, c) ← increment c
  let (chomp, c) := if first.isSome then (first, c) else chomping c
  let c := c.skipBlanks.skipComment
  if lineEnds c.rest then return (chomp.getD .clip, increment, c.skipBreak) else failure

/-- The indentation and empty lines before the next line of a block: the widest indentation, the
breaks and the place after them. An indent of zero is one still to be found. -/
def blockGap (indent : Nat) :
    Nat → Nat → List Char → Cursor → Option (Nat × List Char × Cursor)
  | 0, _, _, _ => none
  | fuel + 1, widest, breaks, c =>
    let spaces := (c.rest.takeWhile (· = ' ')).length
    let c := c.skip (if indent = 0 then spaces else min spaces (indent - c.column))
    let widest := max widest c.column
    match c.rest with
    | x :: _ =>
      if x = '\t' && (indent = 0 || c.column < indent) then none
      else if isBreak x then blockGap indent fuel widest (breaks ++ c.breakText) c.skipBreak
      else some (widest, breaks, c)
    | [] => some (widest, breaks, c)

/-- The lines of a block so far, with the break that ended the last one and those after it. -/
structure BlockText where
  taken : List Char
  ended : List Char
  more : List Char
  /-- Did the last line start with a blank? -/
  blank : Bool

/-- Reads the lines of a block. A folded block joins lines as plain scalars do, except where one of
them starts with a blank. -/
def blockLines (literal : Bool) (indent : Nat) :
    Nat → BlockText → Cursor → Option (BlockText × Cursor)
  | 0, _, _ => none
  | fuel + 1, b, c =>
    match c.rest with
    | [] => some (b, c)
    | x :: _ =>
      if c.column ≠ indent then some (b, c)
      else do
        let joins := !literal && b.ended = ['\n'] && !b.blank && !isBlank x
        let between :=
          if !joins then b.ended ++ b.more else if b.more.isEmpty then [' '] else b.more
        let line := c.rest.takeWhile fun y => !isBreak y
        let after := c.skipLine
        let (_, more, next) ← blockGap indent (c.rest.length + 1) 0 [] after.skipBreak
        blockLines literal indent fuel
          ⟨b.taken ++ between ++ line, after.breakText, more, isBlank x⟩ next

/-- Reads a block scalar from its indicator on. Its lines lie within the margin. -/
def block (literal : Bool) (margin : Nat) (c : Cursor) : Option (List Char × Cursor) := do
  let (chomp, increment, c) ← blockHeader (c.skip 1)
  let given := if increment = 0 then 0 else margin - 1 + increment
  let (widest, more, c) ← blockGap given (c.rest.length + 1) 0 [] c
  let indent := if given = 0 then max (max widest margin) 1 else given
  let (b, c) ← blockLines literal indent (c.rest.length + 1) ⟨[], [], more, false⟩ c
  let tail := match chomp with
    | .strip => []
    | .clip => b.ended
    | .keep => b.ended ++ b.more
  return (b.taken ++ tail, c)

end ModelCatalog.Yaml
