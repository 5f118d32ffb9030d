import ModelCatalog.Yaml.Token

/-! # From a text to its tokens

A word turns out to be a key only at the colon after it. So the last word that may be one is kept
as a pending key, with its place among the tokens, and the tokens that make it a key are put there
when the colon is found. A key lies on one line and has at most 1024 characters.

Blocks are kept apart by their margin: the least column at which something may stand that is inside
the innermost block. Outside all blocks it is zero.
-/
namespace ModelCatalog.Yaml

structure PendingKey where
  /-- Must this word become a key? -/
  required : Bool
  /-- How many tokens precede it. -/
  place : Nat
  line : Nat
  index : Nat
  column : Nat

structure Layout where
  cursor : Cursor
  tokens : Array Token
  margin : Nat
  /-- The margins around the innermost block, inner ones first. -/
  outer : List Nat
  /-- May a key start here? -/
  keyAllowed : Bool
  pending : Option PendingKey
  /-- What is pending around the flow collections that are open, inner ones first. -/
  around : List (Option PendingKey)

namespace Layout

def start (text : List Char) : Layout := ⟨.start text, #[], 0, [], true, none, []⟩

/-- Is the place inside a flow collection? -/
def flow (s : Layout) : Bool := !s.around.isEmpty

def push (s : Layout) (t : Token) (c : Cursor) : Layout :=
  { s with tokens := s.tokens.push t, cursor := c }

/-! ## Pending keys -/

/-- Gives up the pending key, which must not be a required one. -/
def dropKey (s : Layout) : Option Layout :=
  if s.pending.any (·.required) then none else some { s with pending := none }

/-- What comes next may be a key, and must be one in a block at whose column it stands. -/
def saveKey (s : Layout) : Option Layout := do
  if s.keyAllowed then
    let s ← s.dropKey
    return { s with pending := some ⟨!s.flow && s.margin = s.cursor.column + 1, s.tokens.size,
      s.cursor.line, s.cursor.index, s.cursor.column⟩ }
  else return s

def isStale (c : Cursor) (k : PendingKey) : Bool :=
  k.line < c.line || k.index + 1024 < c.index

/-- Gives up keys that are too long. -/
def dropStale (s : Layout) : Option Layout := do
  let fresh (k : Option PendingKey) : Option (Option PendingKey) :=
    if k.any (isStale s.cursor) then if k.any (·.required) then none else some none else some k
  return { s with pending := ← fresh s.pending, around := ← s.around.mapM fresh }

/-! ## Blocks -/

/-- Opens a block at the column, unless the innermost one reaches that far. Its token goes to the
place, or else to the end. -/
def openBlock (s : Layout) (column : Nat) (place : Nat) (t : Token) : Layout :=
  if s.flow || column < s.margin then s
  else { s with
    margin := column + 1, outer := s.margin :: s.outer,
    tokens := s.tokens.insertIdxIfInBounds place t }

/-- Closes the blocks whose margin is beyond a limit. -/
def closeBlocksFrom (limit : Nat) (tokens : Array Token) (margin : Nat) :
    List Nat → Array Token × Nat × List Nat
  | [] => (tokens, margin, [])
  | m :: outer =>
    if limit < margin then closeBlocksFrom limit (tokens.push .blockEnd) m outer
    else (tokens, margin, m :: outer)

def closeBlocks (s : Layout) (limit : Nat) : Layout :=
  if s.flow then s
  else
    let (tokens, margin, outer) := closeBlocksFrom limit s.tokens s.margin s.outer
    { s with tokens, margin, outer }

/-! ## What may stand at a place -/

/-- Passes blanks, comments and line breaks. A tab is no indentation. -/
def skipGap : Nat → Layout → Layout
  | 0, s => s
  | fuel + 1, s =>
    let tabs := s.flow || !s.keyAllowed
    let c := (s.cursor.skipMark.skipWhile fun x => x = ' ' || (tabs && x = '\t')).skipComment
    match c.rest with
    | x :: _ =>
      if isBreak x then
        skipGap fuel { s with cursor := c.skipBreak, keyAllowed := s.keyAllowed || !s.flow }
      else { s with cursor := c }
    | [] => { s with cursor := c }

/-- A directive or a mark between documents ends every block. -/
def readApart (s : Layout) (t : Token) (c : Cursor) : Option Layout := do
  let s ← (s.closeBlocks 0).dropKey
  return { s.push t c with keyAllowed := false }

def openFlow (s : Layout) (t : Token) : Option Layout := do
  let s ← s.saveKey
  return { s.push t (s.cursor.skip 1) with
    keyAllowed := true, pending := none, around := s.pending :: s.around }

def closeFlow (s : Layout) (t : Token) : Option Layout := do
  let s ← s.dropKey
  let (pending, around) := match s.around with
    | k :: outer => (k, outer)
    | [] => (s.pending, [])
  return { s.push t (s.cursor.skip 1) with keyAllowed := false, pending, around }

def readFlowEntry (s : Layout) : Option Layout := do
  let s ← s.dropKey
  return { s.push .flowEntry (s.cursor.skip 1) with keyAllowed := true }

def readBlockEntry (s : Layout) : Option Layout := do
  if !s.flow && !s.keyAllowed then failure
  let s ← (s.openBlock s.cursor.column s.tokens.size .blockSequence).dropKey
  return { s.push .blockEntry (s.cursor.skip 1) with keyAllowed := true }

/-- A question mark, which announces a key. -/
def readKey (s : Layout) : Option Layout := do
  if !s.flow && !s.keyAllowed then failure
  let s ← (s.openBlock s.cursor.column s.tokens.size .blockMapping).dropKey
  return { s.push .key (s.cursor.skip 1) with keyAllowed := !s.flow }

/-- A colon: it makes the pending word a key, or follows a key that was announced. -/
def readValue (s : Layout) : Option Layout := do
  match s.pending with
  | some k =>
    let s := { s with tokens := s.tokens.insertIdxIfInBounds k.place .key }
    let s := s.openBlock k.column k.place .blockMapping
    return { s.push .value (s.cursor.skip 1) with pending := none, keyAllowed := false }
  | none =>
    if !s.flow && !s.keyAllowed then failure
    let s := s.openBlock s.cursor.column s.tokens.size .blockMapping
    return { s.push .value (s.cursor.skip 1) with keyAllowed := !s.flow }

/-- A word that may be a key, or the start of one. -/
def readWord (s : Layout) (read : Cursor → Option (Token × Cursor)) : Option Layout := do
  let s ← s.saveKey
  let (t, c) ← read s.cursor
  return { s.push t c with keyAllowed := false }

def readPlain (s : Layout) : Option Layout := do
  let s ← s.saveKey
  let p ← plain s.flow s.margin s.cursor
  return { s.push (.scalar .plain (String.ofList p.text)) p.after with keyAllowed := p.lineEnded }

def readQuoted (single : Bool) (c : Cursor) : Option (Token × Cursor) :=
  (quoted single c).map fun (text, c) => (.scalar .quoted (String.ofList text), c)

def readBlock (s : Layout) (literal : Bool) : Option Layout := do
  let s ← s.dropKey
  let (text, c) ← block literal s.margin s.cursor
  let style := if literal then Style.literal else Style.folded
  return { s.push (.scalar style (String.ofList text)) c with keyAllowed := true }

/-- Characters that mean something where a token starts, and so start no plain scalar. -/
def isIndicator (x : Char) : Bool := isFlowIndicator x || "#&*!|>'\"%@`".toList.contains x

/-- Reads the token that starts with the character. -/
def readToken (s : Layout) (x : Char) (next : List Char) : Option Layout :=
  let c := s.cursor
  let apart := s.flow || wordEnds next
  if c.column = 0 && x = '%' then (Token.readDirective c).bind fun (t, c) => s.readApart t c
  else if c.atMarker then
    s.readApart (if x = '-' then .documentStart else .documentEnd) (c.skip 3)
  else match x with
  | '[' => s.openFlow .flowSequence
  | '\x7b' => s.openFlow .flowMapping
  | ']' => s.closeFlow .flowSequenceEnd
  | '\x7d' => s.closeFlow .flowMappingEnd
  | ',' => s.readFlowEntry
  | '*' => s.readWord fun c => (Token.readName c).map fun (n, c) => (.reference n, c)
  | '&' => s.readWord fun c => (Token.readName c).map fun (n, c) => (.anchor n, c)
  | '!' => s.readWord (Token.readTag s.flow)
  | '\'' => s.readWord (readQuoted true)
  | '"' => s.readWord (readQuoted false)
  | _ =>
    if x = '-' && wordEnds next then s.readBlockEntry
    else if x = '?' && apart then s.readKey
    else if x = ':' && apart then s.readValue
    else if x = '|' && !s.flow then s.readBlock true
    else if x = '>' && !s.flow then s.readBlock false
    else if isIndicator x || isBlank x then none
    else s.readPlain

/-- Reads tokens to the end of the text. Each takes a character, so a fuel of the text's length
suffices. -/
def readAll : Nat → Layout → Option (Array Token)
  | 0, _ => none
  | fuel + 1, s => do
    let s ← (s.skipGap (s.cursor.rest.length + 1)).dropStale
    let s := s.closeBlocks (s.cursor.column + 1)
    match s.cursor.rest with
    | [] => return (← (s.closeBlocks 0).dropKey).tokens
    | x :: next => readAll fuel (← s.readToken x next)

end Layout

/-- The tokens of a text. -/
def Token.ofText? (text : String) : Option (List Token) :=
  let cs := text.toList
  if cs.all isPrintable then (Layout.readAll (cs.length + 1) (.start cs)).map Array.toList
  else none

end ModelCatalog.Yaml
