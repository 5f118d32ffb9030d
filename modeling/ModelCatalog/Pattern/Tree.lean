/-! # Patterns as written

The tree of a regular expression before its flags are applied and its classes looked up.
-/
namespace ModelCatalog.Pattern

/-- The switches a pattern can set on itself. -/
inductive Flag where
  | ignoreCase
  | multiLine
  | dotAll
  | carriageReturns
  | swapGreed
  | unicode
  | verbose
deriving DecidableEq, Repr

def Flag.ofLetter? : Char → Option Flag
  | 'i' => some ignoreCase
  | 'm' => some multiLine
  | 's' => some dotAll
  | 'R' => some carriageReturns
  | 'U' => some swapGreed
  | 'u' => some unicode
  | 'x' => some verbose
  | _ => none

/-- Switches with the state they are put in. -/
abbrev FlagChanges := List (Flag × Bool)

/-- Positions between characters. -/
inductive Anchor where
  | lineStart
  | lineEnd
  | textStart
  | textEnd
  | wordEdge
  | notWordEdge
  | wordStart
  | wordEnd
  | wordStartHalf
  | wordEndHalf
deriving DecidableEq, Repr

/-- Classes that have a letter of their own. -/
inductive Shorthand where
  | digit
  | blank
  | word
deriving DecidableEq, Repr

/-- What is asked of the character database. -/
inductive PropertyQuery where
  | named (name : String)
  | valued (property value : String)
deriving DecidableEq, Repr

inductive SetOperation where
  | intersection
  | difference
  | symmetricDifference
deriving DecidableEq, Repr

/-- `codeEscape` marks a character written by two hexadecimal digits, which stands for a byte where
Unicode is switched off. -/
structure Literal where
  char : Char
  codeEscape : Bool
deriving DecidableEq, Repr

/-- A class known by a name. -/
inductive NamedClass where
  | shorthand (s : Shorthand) (negated : Bool)
  | property (q : PropertyQuery) (negated : Bool)
  | ascii (name : String) (negated : Bool)
deriving DecidableEq, Repr

/-- What stands between brackets. -/
inductive SetTree where
  | literal (l : Literal)
  | range (first last : Literal)
  | named (c : NamedClass)
  | union (items : List SetTree)
  | bracket (negated : Bool) (body : SetTree)
  | operation (op : SetOperation) (left right : SetTree)

inductive Tree where
  | empty
  | flags (changes : FlagChanges)
  | literal (l : Literal)
  | dot
  | anchor (a : Anchor)
  | named (c : NamedClass)
  | bracket (negated : Bool) (body : SetTree)
  /-- Fewest and most repetitions, and whether a mark of laziness follows. -/
  | repeated (min : Nat) (max : Option Nat) (lazy : Bool) (body : Tree)
  /-- A group may capture what it matches, or set flags inside it. -/
  | group (captured : Bool) (changes : FlagChanges) (body : Tree)
  | alternation (branches : List Tree)
  | sequence (items : List Tree)

mutual

/-- How deep brackets, unions and operations nest. -/
def SetTree.depth : SetTree → Nat
  | union items => if items.isEmpty then 0 else SetTree.depths items + 1
  | bracket _ body => body.depth + 1
  | operation _ left right => max left.depth right.depth + 1
  | _ => 0

def SetTree.depths : List SetTree → Nat
  | [] => 0
  | t :: rest => max t.depth (SetTree.depths rest)

end

mutual

/-- How deep the parts of a pattern nest. -/
def Tree.depth : Tree → Nat
  | bracket _ body => body.depth + 1
  | repeated _ _ _ body => body.depth + 1
  | group _ _ body => body.depth + 1
  | alternation branches => Tree.depths branches + 1
  | sequence items => Tree.depths items + 1
  | _ => 0

def Tree.depths : List Tree → Nat
  | [] => 0
  | t :: rest => max t.depth (Tree.depths rest)

end

/-- One part stands for itself. -/
def Tree.ofItems : List Tree → Tree
  | [] => empty
  | [t] => t
  | items => sequence items

def Tree.ofBranches : List Tree → Tree
  | [t] => t
  | branches => alternation branches

/-- Flags and the empty pattern are nothing that could be repeated. -/
def Tree.isRepeatable : Tree → Bool
  | empty | flags _ => false
  | _ => true

def SetTree.ofItems : List SetTree → SetTree
  | [t] => t
  | items => union items

end ModelCatalog.Pattern
