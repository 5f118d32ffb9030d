import ModelCatalog.Yaml.Layout

/-! # The tree of a YAML text

A text holds at most one document, and a document without anything in it is an empty plain scalar.
A node may have an anchor, and other places may refer to it by that.
-/
namespace ModelCatalog.Yaml

inductive Node where
  | scalar (anchor : Option Nat) (tag : Option String) (style : Style) (text : String)
  | sequence (anchor : Option Nat) (tag : Option String) (items : List Node)
  | mapping (anchor : Option Nat) (tag : Option String) (entries : List (Node × Node))
  | reference (number : Nat)

namespace Node

def empty : Node := .scalar none none .plain ""

def anchor? : Node → Option Nat
  | scalar anchor _ _ _ | sequence anchor _ _ | mapping anchor _ _ => anchor
  | reference _ => none

mutual

/-- A node and all inside it, in the order they are written. -/
def all : Node → List Node
  | n@(scalar ..) | n@(reference _) => [n]
  | n@(sequence _ _ items) => n :: allOfItems items
  | n@(mapping _ _ entries) => n :: allOfEntries entries

def allOfItems : List Node → List Node
  | [] => []
  | n :: rest => all n ++ allOfItems rest

def allOfEntries : List (Node × Node) → List Node
  | [] => []
  | (k, v) :: rest => all k ++ all v ++ allOfEntries rest

end

/-- How many steps it takes to write a node without what is inside it. -/
def weight : Node → Nat
  | scalar .. | reference _ => 1
  | sequence .. | mapping .. => 2

end Node

/-- What is still to be read, and what names stand for at this place. -/
structure Source where
  tokens : List Token
  /-- The anchors so far, last one first. -/
  anchors : List (String × Nat)
  handles : List (String × String)

abbrev Reading (α : Type) := StateT Source Option α

namespace Reading

def peek : Reading (Option Token) := do return (← get).tokens.head?

/-- Passes a token. -/
def advance : Reading Unit := modify fun s => { s with tokens := s.tokens.tail }

/-- Passes a token of this kind. -/
def expect (t : Token) : Reading Unit := do
  if (← peek) = some t then advance else failure

/-- The number of a new anchor counts the different names before it, so a name that is given twice
shares its number with the next new name. -/
def number (name : String) : Reading Nat := do
  let n := ((← get).anchors.map (·.1)).eraseDups.length
  modify fun s => { s with anchors := (name, n) :: s.anchors }
  return n

def expand (handle suffix : String) : Reading String := do
  if handle.isEmpty then return suffix
  match (← get).handles.lookup handle with
  | some expansion => return expansion ++ suffix
  | none => failure

/-- An anchor, a tag, or both in either order. -/
def properties : Reading (Option String × Option (String × String)) := do
  match ← peek with
  | some (.anchor name) =>
    advance
    match ← peek with
    | some (.tag handle suffix) => advance; return (name, some (handle, suffix))
    | _ => return (name, none)
  | some (.tag handle suffix) =>
    advance
    match ← peek with
    | some (.anchor name) => advance; return (name, some (handle, suffix))
    | _ => return (none, some (handle, suffix))
  | _ => return (none, none)

/-- Nothing is written where one of these tokens comes next. -/
def isNext (ts : List Token) : Reading Bool := do
  return (← peek).any ts.contains

/-! Of four calls in a row one takes a token, so a fuel of four times the number of tokens and four
more suffices. -/

mutual

/-- A node. Those that indentation makes may only stand in blocks; a sequence may stand at the
column of the mapping it is in, where it is `bare`. -/
def node : Nat → Bool → Bool → Reading Node
  | 0, _, _ => failure
  | fuel + 1, inBlock, bare => do
    if let some (.reference name) := ← peek then
      advance
      match (← get).anchors.lookup name with
      | some n => return .reference n
      | none => failure
    let (name, written) ← properties
    let tag ← written.mapM fun (handle, suffix) => expand handle suffix
    let anchor ← name.mapM number
    match ← peek with
    | some (.scalar style text) =>
      advance
      return .scalar anchor tag style text
    | some .flowSequence =>
      advance
      return .sequence anchor tag (← flowItems fuel true)
    | some .flowMapping =>
      advance
      return .mapping anchor tag (← flowEntries fuel true)
    | next =>
      if bare && next = some .blockEntry then return .sequence anchor tag (← bareItems fuel)
      else if inBlock && next = some .blockSequence then
        advance
        return .sequence anchor tag (← blockItems fuel)
      else if inBlock && next = some .blockMapping then
        advance
        return .mapping anchor tag (← blockEntries fuel)
      else if name.isSome || written.isSome then return .scalar anchor tag .plain ""
      else failure

/-- A node, unless one of the tokens comes next. -/
def nodeUnless : Nat → Bool → Bool → List Token → Reading Node
  | 0, _, _, _ => failure
  | fuel + 1, inBlock, bare, stops => do
    if ← isNext stops then return .empty else node fuel inBlock bare

def blockItems : Nat → Reading (List Node)
  | 0 => failure
  | fuel + 1 => do
    match ← peek with
    | some .blockEnd => advance; return []
    | some .blockEntry =>
      advance
      let n ← nodeUnless fuel true false [.blockEntry, .blockEnd]
      return n :: (← blockItems fuel)
    | _ => failure

def bareItems : Nat → Reading (List Node)
  | 0 => failure
  | fuel + 1 => do
    match ← peek with
    | some .blockEntry =>
      advance
      let n ← nodeUnless fuel true false [.blockEntry, .key, .value, .blockEnd]
      return n :: (← bareItems fuel)
    | _ => return []

def blockEntries : Nat → Reading (List (Node × Node))
  | 0 => failure
  | fuel + 1 => do
    let stops := [Token.key, .value, .blockEnd]
    match ← peek with
    | some .blockEnd => advance; return []
    | some .key =>
      advance
      let k ← nodeUnless fuel true true stops
      if ← isNext [.value] then
        advance
        let v ← nodeUnless fuel true true stops
        return (k, v) :: (← blockEntries fuel)
      else return (k, .empty) :: (← blockEntries fuel)
    | _ => failure

/-- The items of a sequence in brackets. An item may be a pair, which is a mapping of its own. -/
def flowItems : Nat → Bool → Reading (List Node)
  | 0, _ => failure
  | fuel + 1, first => do
    if ← isNext [.flowSequenceEnd] then
      advance
      return []
    if !first then expect .flowEntry
    match ← peek with
    | some .flowSequenceEnd => advance; return []
    | some .key =>
      advance
      let pair ← flowPair fuel
      return .mapping none none [pair] :: (← flowItems fuel false)
    | _ =>
      let n ← node fuel false false
      return n :: (← flowItems fuel false)

/-- A pair in brackets. Where its key is not written, the token after it is passed over. -/
def flowPair : Nat → Reading (Node × Node)
  | 0 => failure
  | fuel + 1 => do
    let stops := [Token.flowEntry, .flowSequenceEnd]
    let missing ← isNext (.value :: stops)
    let k ← if missing then (do advance; return .empty) else node fuel false false
    if ← isNext [.value] then
      advance
      return (k, ← nodeUnless fuel false false stops)
    else return (k, .empty)

/-- The entries of a mapping in braces. A value may be left out. -/
def flowEntries : Nat → Bool → Reading (List (Node × Node))
  | 0, _ => failure
  | fuel + 1, first => do
    let stops := [Token.flowEntry, .flowMappingEnd]
    if ← isNext [.flowMappingEnd] then
      advance
      return []
    if !first then expect .flowEntry
    match ← peek with
    | some .flowMappingEnd => advance; return []
    | some .key =>
      advance
      let k ← nodeUnless fuel false false (.value :: stops)
      if ← isNext [.value] then
        advance
        let v ← nodeUnless fuel false false stops
        return (k, v) :: (← flowEntries fuel false)
      else return (k, .empty) :: (← flowEntries fuel false)
    | _ =>
      let k ← node fuel false false
      return (k, .empty) :: (← flowEntries fuel false)

end

/-! ## Documents -/

/-- The directives before a document: one version at most, and each handle once. -/
def directives : List Token → Bool → List (String × String) →
    Option (List (String × String) × List Token)
  | .version :: rest, versioned, handles => if versioned then none else directives rest true handles
  | .handle name expansion :: rest, versioned, handles =>
    if (handles.lookup name).isSome then none
    else directives rest versioned ((name, expansion) :: handles)
  | rest, _, handles => some (handles, rest)

/-- The handles that are known without a directive. -/
def standardHandles : List (String × String) := [("!", "!"), ("!!", "tag:yaml.org,2002:")]

/-- The only document of some tokens. -/
def document (tokens : List Token) : Option Node := do
  let fuel := 4 * tokens.length + 4
  let (handles, rest) ← directives tokens false []
  let source (ts : List Token) : Source := ⟨ts, [], handles ++ standardHandles⟩
  let (n, s) ← match rest with
    | .documentStart :: ts =>
      if ts.isEmpty || ts.head? = some .documentEnd then some (.empty, source ts)
      else node fuel true false (source ts)
    | [] => if tokens.isEmpty then some (.empty, source []) else none
    | _ => if tokens.length = rest.length then node fuel true false (source rest) else none
  if s.tokens.all (· = .documentEnd) then return n else failure

end Reading

/-- The tree of a text. -/
def Node.ofText? (text : String) : Option Node := (Token.ofText? text).bind Reading.document

/-- A tree in which references can be followed. -/
structure Document where
  root : Node
  /-- What each anchor stands for: the last node with its number. -/
  targets : List (Nat × Node)

namespace Document

def ofNode (root : Node) : Document :=
  ⟨root, (root.all.filterMap fun n => n.anchor?.map (·, n)).reverse⟩

def ofText? (text : String) : Option Document := (Node.ofText? text).map ofNode

/-- What a node stands for, which is no reference. -/
def follow (d : Document) : Node → Option Node
  | .reference n => d.targets.lookup n
  | n => some n

/-- How many references may be followed: a hundred for every step of writing the text. -/
def referenceLimit (d : Document) : Nat :=
  100 * d.root.all.foldl (fun n node => n + node.weight) 0

end Document

end ModelCatalog.Yaml
