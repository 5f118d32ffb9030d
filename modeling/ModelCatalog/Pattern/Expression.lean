import ModelCatalog.Pattern.Tree
import ModelCatalog.Unicode.Octets
import ModelCatalog.Unicode.Query

/-! # Patterns with their flags applied

Once the flags are known, every class is a set of characters and every anchor a test of the two
characters around a position. What a pattern asks of the character database may not exist, and
without Unicode a class may hold ASCII alone; both make the pattern one that cannot be used.

Expressions are put together in a normal form: sequences and alternations hold no others of their
kind, neighbouring literals are one, and what all branches begin with stands in front of them.
-/
namespace ModelCatalog.Pattern

open Unicode

/-- The switches that decide what a part of a pattern means. -/
structure Flags where
  ignoreCase : Bool
  multiLine : Bool
  dotAll : Bool
  carriageReturns : Bool
  swapGreed : Bool
  unicode : Bool
deriving DecidableEq, Repr

namespace Flags

def standard : Flags := ⟨false, false, false, false, false, true⟩

/-- Blanks have no part in the meaning. -/
def change (f : Flags) : Flag × Bool → Flags
  | (.ignoreCase, on) => { f with ignoreCase := on }
  | (.multiLine, on) => { f with multiLine := on }
  | (.dotAll, on) => { f with dotAll := on }
  | (.carriageReturns, on) => { f with carriageReturns := on }
  | (.swapGreed, on) => { f with swapGreed := on }
  | (.unicode, on) => { f with unicode := on }
  | (.verbose, _) => f

def changeAll (f : Flags) (changes : FlagChanges) : Flags := changes.foldl change f

end Flags

/-- The tests on the characters before and after a position. `unicode` says which characters make up
words. -/
inductive Look where
  | textStart
  | textEnd
  | lineStart (carriageReturns : Bool)
  | lineEnd (carriageReturns : Bool)
  | wordEdge (unicode : Bool)
  | notWordEdge (unicode : Bool)
  | wordStart (unicode : Bool)
  | wordEnd (unicode : Bool)
  | wordStartHalf (unicode : Bool)
  | wordEndHalf (unicode : Bool)
deriving DecidableEq, Repr

inductive Expression where
  | empty
  /-- Characters in a row, by their codes. -/
  | literal (codes : List Nat)
  | chars (s : CharSet)
  | look (l : Look)
  | repeated (min : Nat) (max : Option Nat) (greedy : Bool) (body : Expression)
  | capture (body : Expression)
  | sequence (items : List Expression)
  | alternation (branches : List Expression)

namespace Expression

/-! ## Normal forms -/

/-- No character is a member. -/
def fail : Expression := .chars .empty

/-- A set of one character is that character. Surrogates are no characters. -/
def ofSet (s : CharSet) : Expression :=
  match (s.diff (.ofRanges [(0xD800, 0xDFFF)])).ranges with
  | [(lo, hi)] => if lo = hi then .literal [lo] else .chars ⟨[(lo, hi)]⟩
  | ranges => .chars ⟨ranges⟩

def items : Expression → List Expression
  | empty => []
  | sequence items => items
  | e => [e]

/-- Puts an item in front of others. -/
def joinItem : Expression → List Expression → List Expression
  | literal a, literal b :: rest => literal (a ++ b) :: rest
  | e, rest => e :: rest

def ofItems (es : List Expression) : Expression :=
  match (es.flatMap items).foldr joinItem [] with
  | [] => empty
  | [e] => e
  | items => sequence items

def branches : Expression → List Expression
  | alternation branches => branches
  | e => [e]

def literalChar? : Expression → Option CharSet
  | literal [c] => some (.ofRanges [(c, c)])
  | _ => none

def members? : Expression → Option CharSet
  | chars s => some s
  | _ => none

/-- Branches of one character each are a set, if they all are literals or all are sets. -/
def unite? (es : List Expression) : Option Expression :=
  ((es.mapM literalChar?).or (es.mapM members?)).map fun sets => ofSet (CharSet.unions sets)

mutual

/-- Are these the same, and none of what they match captured? -/
def same : Expression → Expression → Bool
  | empty, empty => true
  | literal a, literal b => a == b
  | chars s, chars t => s == t
  | look l, look m => l == m
  | repeated min max greedy body, repeated min' max' greedy' body' =>
    min == min' && max == max' && greedy == greedy' && same body body'
  | sequence items, sequence items' => sameAll items items'
  | alternation branches, alternation branches' => sameAll branches branches'
  | _, _ => false

def sameAll : List Expression → List Expression → Bool
  | [], [] => true
  | e :: rest, e' :: rest' => same e e' && sameAll rest rest'
  | _, _ => false

end

/-- How many items two sequences begin with alike. -/
def commonLength : List Expression → List Expression → Nat
  | e :: rest, e' :: rest' => if same e e' then commonLength rest rest' + 1 else 0
  | _, _ => 0

def sequenceItems? : Expression → Option (List Expression)
  | sequence items => some items
  | _ => none

/-- The items that all branches begin with, and what is left of each branch. -/
def liftPrefix? (es : List Expression) : Option (List Expression × List Expression) :=
  match es.mapM sequenceItems? with
  | some (first :: rest) =>
    let n := rest.foldl (fun n items => min n (commonLength first items)) first.length
    if n = 0 then none
    else some (first.take n, (first :: rest).map fun items => ofItems (items.drop n))
  | _ => none

/-- Branches without a common beginning. -/
def ofDistinct (es : List Expression) : Expression :=
  match es.flatMap branches with
  | [] => fail
  | [e] => e
  | es => (unite? es).getD (alternation es)

/-- What is left after the common beginning has none of its own. -/
def ofBranches (es : List Expression) : Expression :=
  match ofDistinct es with
  | alternation es =>
    match liftPrefix? es with
    | some (items, rest) => ofItems (items ++ [ofDistinct rest])
    | none => alternation es
  | e => e

/-! ### Lengths -/

mutual

/-- The least number of octets that match. There is none where a part matches nothing at all. -/
def minLength : Expression → Option Nat
  | empty | look _ => some 0
  | literal codes => some (codes.foldl (fun n c => n + (octets c).length) 0)
  | chars s => (s.ranges.head?).map fun (lo, _) => (octets lo).length
  | repeated min _ _ body => body.minLength.map (min * ·)
  | capture body => body.minLength
  | sequence items => minLengthOfAll items
  | alternation [] => none
  | alternation (e :: rest) => minLengthOfAny e.minLength rest

def minLengthOfAll : List Expression → Option Nat
  | [] => some 0
  | e :: rest => do return (← e.minLength) + (← minLengthOfAll rest)

def minLengthOfAny (least : Option Nat) : List Expression → Option Nat
  | [] => least
  | e :: rest => do minLengthOfAny (some (min (← least) (← e.minLength))) rest

end

mutual

/-- Does it match, wherever it matches, nothing but the empty text? A set without members matches
nowhere, and is not counted in. -/
def isEmptyOnly : Expression → Bool
  | empty | look _ => true
  | literal _ | chars _ => false
  | repeated _ (some _) _ body => body.isEmptyOnly
  | repeated _ none _ _ => false
  | capture body => body.isEmptyOnly
  | sequence items | alternation items => areEmptyOnly items

def areEmptyOnly : List Expression → Bool
  | [] => true
  | e :: rest => e.isEmptyOnly && areEmptyOnly rest

end

/-- One repetition is as good as many where nothing but the empty text matches. -/
def ofRepetition (min : Nat) (max : Option Nat) (greedy : Bool) (body : Expression) : Expression :=
  let (min, max) := if body.isEmptyOnly then (Nat.min min 1, some (Nat.min (max.getD 1) 1))
    else (min, max)
  match min, max with
  | 0, some 0 => empty
  | 1, some 1 => body
  | min, max => repeated min max greedy body

end Expression

/-! ## Classes -/

def asciiClass (name : String) : CharSet :=
  match name with
  | "alnum" => .ofRanges [(0x30, 0x39), (0x41, 0x5A), (0x61, 0x7A)]
  | "alpha" => .ofRanges [(0x41, 0x5A), (0x61, 0x7A)]
  | "ascii" => .ofRanges [(0, 0x7F)]
  | "blank" => .ofRanges [(0x09, 0x09), (0x20, 0x20)]
  | "cntrl" => .ofRanges [(0, 0x1F), (0x7F, 0x7F)]
  | "digit" => .ofRanges [(0x30, 0x39)]
  | "graph" => .ofRanges [(0x21, 0x7E)]
  | "lower" => .ofRanges [(0x61, 0x7A)]
  | "print" => .ofRanges [(0x20, 0x7E)]
  | "punct" => .ofRanges [(0x21, 0x2F), (0x3A, 0x40), (0x5B, 0x60), (0x7B, 0x7E)]
  | "space" => .ofRanges [(0x09, 0x0D), (0x20, 0x20)]
  | "upper" => .ofRanges [(0x41, 0x5A)]
  | "word" => .ofRanges [(0x30, 0x39), (0x41, 0x5A), (0x5F, 0x5F), (0x61, 0x7A)]
  | "xdigit" => .ofRanges [(0x30, 0x39), (0x41, 0x46), (0x61, 0x66)]
  | _ => .empty

def isAscii (s : CharSet) : Bool := s.ranges.all fun (_, hi) => hi < 0x80

/-- Without Unicode only the letters of ASCII have two cases. -/
def foldAscii (s : CharSet) : CharSet :=
  let letters := s.inter (asciiClass "alpha")
  s.union (.ofRanges (letters.ranges.flatMap fun (lo, hi) =>
    (List.range (hi + 1 - lo)).map fun i =>
      let c := lo + i
      if c < 0x61 then (c + 0x20, c + 0x20) else (c - 0x20, c - 0x20)))

namespace Flags

def fold (f : Flags) (s : CharSet) : CharSet :=
  if !f.ignoreCase then s else if f.unicode then foldCase s else foldAscii s

/-- Case is folded before a class is complemented: the complement of a letter has neither case. -/
def foldThenNegate (f : Flags) (negated : Bool) (s : CharSet) : CharSet :=
  if negated then (f.fold s).complement else f.fold s

/-- Without Unicode a class beyond ASCII would match parts of characters. -/
def allowed (f : Flags) (s : CharSet) : Option CharSet :=
  if f.unicode || isAscii s then some s else none

end Flags

def shorthandSet (unicode : Bool) : Shorthand → CharSet
  | .digit => if unicode then digits else asciiClass "digit"
  | .blank => if unicode then blanks else asciiClass "space"
  | .word => if unicode then wordCharacters else asciiClass "word"

def PropertyQuery.set? : PropertyQuery → Option CharSet
  | named name => namedSet? name
  | valued property value => valuedSet? property value

/-- The set of a class known by name. Shorthands have both cases of every letter as they are. -/
def NamedClass.set? (f : Flags) : NamedClass → Option CharSet
  | shorthand s negated =>
    let set := shorthandSet f.unicode s
    f.allowed (if negated then set.complement else set)
  | property q negated => if f.unicode then (q.set?).map (f.foldThenNegate negated) else none
  | ascii name negated => f.allowed (f.foldThenNegate negated (asciiClass name))

/-- The code a literal stands for. Without Unicode an escaped byte beyond ASCII is no character. -/
def Literal.code? (f : Flags) (l : Literal) : Option Nat :=
  if f.unicode || !l.codeEscape || l.char.toNat < 0x80 then some l.char.toNat else none

/-- In a class without Unicode, no character beyond ASCII can be listed. -/
def Literal.classCode? (f : Flags) (l : Literal) : Option Nat :=
  if f.unicode || l.char.toNat < 0x80 then some l.char.toNat else none

def SetOperation.apply : SetOperation → CharSet → CharSet → CharSet
  | intersection => CharSet.inter
  | difference => CharSet.diff
  | symmetricDifference => CharSet.symmDiff

mutual

/-- The set between brackets. Nested brackets and the sides of an operation fold case by
themselves. -/
def SetTree.set? (f : Flags) : SetTree → Option CharSet
  | literal l => (l.classCode? f).map fun c => .ofRanges [(c, c)]
  | range first last => do
    return .ofRanges [((← first.classCode? f), (← last.classCode? f))]
  | named c => c.set? f
  | union items => (SetTree.sets? f items).map CharSet.unions
  | bracket negated body => do f.allowed (f.foldThenNegate negated (← body.set? f))
  | operation op left right => do
    return op.apply (f.fold (← left.set? f)) (f.fold (← right.set? f))

def SetTree.sets? (f : Flags) : List SetTree → Option (List CharSet)
  | [] => some []
  | t :: rest => do return (← t.set? f) :: (← SetTree.sets? f rest)

end

/-! ## Patterns -/

def Anchor.look (f : Flags) : Anchor → Look
  | lineStart => if f.multiLine then .lineStart f.carriageReturns else .textStart
  | lineEnd => if f.multiLine then .lineEnd f.carriageReturns else .textEnd
  | textStart => .textStart
  | textEnd => .textEnd
  | wordEdge => .wordEdge f.unicode
  | notWordEdge => .notWordEdge f.unicode
  | wordStart => .wordStart f.unicode
  | wordEnd => .wordEnd f.unicode
  | wordStartHalf => .wordStartHalf f.unicode
  | wordEndHalf => .wordEndHalf f.unicode

/-- The dot leaves out what ends a line, unless it is told to match all. -/
def dotSet (f : Flags) : CharSet :=
  if f.dotAll then .all
  else if f.carriageReturns then (CharSet.ofRanges [(0x0A, 0x0A), (0x0D, 0x0D)]).complement
  else (CharSet.ofRanges [(0x0A, 0x0A)]).complement

mutual

/-- The meaning of a tree under flags, with the flags that hold after it. A directive holds to the
end of its group. -/
def Tree.expression? (f : Flags) : Tree → Option (Expression × Flags)
  | empty => some (.empty, f)
  | flags changes => some (.empty, f.changeAll changes)
  | literal l => (l.code? f).map fun c => (.ofSet (f.fold (.ofRanges [(c, c)])), f)
  | dot => if f.unicode then some (.ofSet (dotSet f), f) else none
  | anchor a => some (.look (a.look f), f)
  | named c => do return (.ofSet (← f.allowed (← c.set? f)), f)
  | bracket negated body => do
    return (.ofSet (← f.allowed (f.foldThenNegate negated (← body.set? f))), f)
  | repeated min max lazy body => do
    return (.ofRepetition min max (lazy == f.swapGreed) (← body.expression? f).1, f)
  | group captured changes body => do
    let (e, _) ← body.expression? (f.changeAll changes)
    return (if captured then .capture e else e, f)
  | alternation branches => do
    let (es, f) ← Tree.expressions? f branches
    return (.ofBranches es, f)
  | sequence items => do
    let (es, f) ← Tree.expressions? f items
    return (.ofItems es, f)

def Tree.expressions? (f : Flags) : List Tree → Option (List Expression × Flags)
  | [] => some ([], f)
  | t :: rest => do
    let (e, f) ← t.expression? f
    let (es, f) ← Tree.expressions? f rest
    return (e :: es, f)

end

end ModelCatalog.Pattern
