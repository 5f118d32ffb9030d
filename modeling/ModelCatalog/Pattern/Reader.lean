import ModelCatalog.Json.Reader
import ModelCatalog.Pattern.Tree
import ModelCatalog.Text.Visible
import ModelCatalog.Unicode.Query

/-! # Reading patterns

The grammar of regular expressions without look-around and back-references. In verbose mode blanks
and comments between the parts do not count. Each step answers what it read, with the text after it.
-/
namespace ModelCatalog.Pattern.Reader

/-! ## Blanks -/

/-- In verbose mode, the text after blanks and comments; otherwise the text itself. A comment ends
with its line. -/
def space (verbose : Bool) (cs : List Char) : List Char :=
  if verbose then go false cs else cs
where
  go : Bool → List Char → List Char
    | _, [] => []
    | true, c :: rest => go (c != '\n') rest
    | false, c :: rest =>
      if Text.isBlank c then go false rest else if c = '#' then go true rest else c :: rest

/-! ## Numbers and codes -/

/-- A whole number of 32 bits, with blanks around it. -/
def decimal (verbose : Bool) (cs : List Char) : Option (Nat × List Char) :=
  let (ds, rest) := digits [] (cs.length + 1) (cs.dropWhile Text.isBlank)
  let n := Json.Reader.natOfDigits ds
  if !ds.isEmpty && Width.holds 32 n then some (n, rest) else none
where
  digits (taken : List Char) : Nat → List Char → List Char × List Char
    | 0, cs => (taken.reverse, cs)
    | fuel + 1, cs =>
      match cs with
      | c :: rest =>
        if c.isDigit then digits (c :: taken) fuel (space verbose rest)
        else if Text.isBlank c then (taken.reverse, blanks fuel rest)
        else (taken.reverse, c :: rest)
      | [] => (taken.reverse, [])
  blanks : Nat → List Char → List Char
    | 0, cs => cs
    | fuel + 1, cs =>
      match space verbose cs with
      | c :: rest => if Text.isBlank c then blanks fuel rest else c :: rest
      | [] => []

/-- The character with that code, if it is one. -/
def charOfHex (ds : List Char) : Option Char := do
  let hs ← ds.mapM Json.Reader.hexDigit?
  let n := hs.foldl (fun n h => 16 * n + h) 0
  if (n < 0xD800 ∨ 0xE000 ≤ n) ∧ n < 0x110000 then return Char.ofNat n else none

/-- Exactly that many hexadecimal digits. -/
def fixedHex (verbose : Bool) : Nat → List Char → List Char → Option (Char × List Char)
  | 0, taken, cs => (charOfHex taken.reverse).map fun c => (c, space verbose cs)
  | n + 1, taken, cs =>
    match if taken.isEmpty then cs else space verbose cs with
    | c :: rest => if (Json.Reader.hexDigit? c).isSome then fixedHex verbose n (c :: taken) rest
      else none
    | [] => none

/-- Hexadecimal digits up to a closing brace; the digits may be many as long as the code is one. -/
def bracedHex (verbose : Bool) : Nat → List Char → List Char → Option (Char × List Char)
  | 0, _, _ => none
  | fuel + 1, taken, cs =>
    match space verbose cs with
    | '\x7d' :: rest =>
      if taken.isEmpty then none
      else (charOfHex taken.reverse).map fun c => (c, space verbose rest)
    | c :: rest => if (Json.Reader.hexDigit? c).isSome then bracedHex verbose fuel (c :: taken) rest
      else none
    | [] => none

/-- A code after `\x`, `\u` or `\U`. -/
def hex (verbose : Bool) (count : Nat) (cs : List Char) : Option (Literal × List Char) :=
  match space verbose cs with
  | '\x7b' :: rest =>
    (bracedHex verbose (rest.length + 1) [] rest).map fun (c, rest) => (⟨c, false⟩, rest)
  | cs => (fixedHex verbose count [] cs).map fun (c, rest) => (⟨c, count = 2⟩, rest)

/-! ## Escapes -/

inductive Escape where
  | literal (l : Literal)
  | named (c : NamedClass)
  | anchor (a : Anchor)

def Escape.tree : Escape → Tree
  | literal l => .literal l
  | named c => .named c
  | anchor a => .anchor a

/-- Splits at the first place where the mark stands. -/
def cutAt (mark : List Char) : List Char → Option (List Char × List Char)
  | [] => none
  | c :: cs =>
    if mark.isPrefixOf (c :: cs) then some ([], (c :: cs).drop mark.length)
    else (cutAt mark cs).map fun (before, after) => (c :: before, after)

/-- The query between the braces of a property class, and whether it asks for the complement. -/
def query (body : List Char) : PropertyQuery × Bool :=
  match cutAt ['!', '='] body, cutAt [':'] body, cutAt ['='] body with
  | some (p, v), _, _ => (.valued (String.ofList p) (String.ofList v), true)
  | none, some (p, v), _ => (.valued (String.ofList p) (String.ofList v), false)
  | none, none, some (p, v) => (.valued (String.ofList p) (String.ofList v), false)
  | none, none, none => (.named (String.ofList body), false)

/-- Characters up to a closing brace. -/
def braced (verbose : Bool) : Nat → List Char → List Char → Option (List Char × List Char)
  | 0, _, _ => none
  | fuel + 1, taken, cs =>
    match space verbose cs with
    | '\x7d' :: rest => some (taken.reverse, rest)
    | c :: rest => braced verbose fuel (c :: taken) rest
    | [] => none

/-- A property class after its `\p` or `\P`. -/
def propertyClass (verbose negated : Bool) (cs : List Char) : Option (NamedClass × List Char) :=
  match space verbose cs with
  | '\x7b' :: rest => do
    let (body, rest) ← braced verbose (rest.length + 1) [] rest
    let (q, complement) := query body
    return (.property q (negated != complement), rest)
  | '\\' :: _ => none
  | c :: rest => some (.property (.named c.toString) negated, space verbose rest)
  | [] => none

/-- The special word edges, by the word between braces after `\b`. -/
def edgeNamed? : String → Option Anchor
  | "start" => some .wordStart
  | "end" => some .wordEnd
  | "start-half" => some .wordStartHalf
  | "end-half" => some .wordEndHalf
  | _ => none

def isEdgeLetter (c : Char) : Bool := c.isAlpha || c = '-'

/-- The letters of a special word edge. -/
def edgeLetters (verbose : Bool) : Nat → List Char → List Char → List Char × List Char
  | 0, taken, cs => (taken.reverse, cs)
  | fuel + 1, taken, cs =>
    match cs with
    | c :: rest =>
      if isEdgeLetter c then edgeLetters verbose fuel (c :: taken) (space verbose rest)
      else (taken.reverse, cs)
    | [] => (taken.reverse, [])

/-- What follows `\b`: a special edge where a brace opens a word, and otherwise nothing, for the
brace may begin a repetition. -/
def wordEdge (verbose : Bool) (cs : List Char) : Option (Anchor × List Char) :=
  match cs with
  | '\x7b' :: rest =>
    match space verbose rest with
    | [] => none
    | c :: more =>
      if isEdgeLetter c then
        match edgeLetters verbose (more.length + 2) [] (c :: more) with
        | (name, '\x7d' :: rest) => (edgeNamed? (String.ofList name)).map fun a => (a, rest)
        | _ => none
      else some (.wordEdge, cs)
  | cs => some (.wordEdge, cs)

/-- ASCII characters other than letters and digits may be escaped without need, angle brackets
aside: they are the edges of words. -/
def isEscapable (c : Char) : Bool :=
  c.toNat < 0x80 && !c.isAlphanum && c != '<' && c != '>'

def plain (c : Char) (rest : List Char) : Option (Escape × List Char) :=
  some (.literal ⟨c, false⟩, rest)

/-- What stands after a backslash. -/
def escape (verbose : Bool) : List Char → Option (Escape × List Char)
  | 'x' :: cs => (hex verbose 2 cs).map fun (l, rest) => (.literal l, rest)
  | 'u' :: cs => (hex verbose 4 cs).map fun (l, rest) => (.literal l, rest)
  | 'U' :: cs => (hex verbose 8 cs).map fun (l, rest) => (.literal l, rest)
  | 'p' :: cs => (propertyClass verbose false cs).map fun (c, rest) => (.named c, rest)
  | 'P' :: cs => (propertyClass verbose true cs).map fun (c, rest) => (.named c, rest)
  | 'd' :: cs => some (.named (.shorthand .digit false), cs)
  | 'D' :: cs => some (.named (.shorthand .digit true), cs)
  | 's' :: cs => some (.named (.shorthand .blank false), cs)
  | 'S' :: cs => some (.named (.shorthand .blank true), cs)
  | 'w' :: cs => some (.named (.shorthand .word false), cs)
  | 'W' :: cs => some (.named (.shorthand .word true), cs)
  | 'a' :: cs => plain '\x07' cs
  | 'f' :: cs => plain '\x0c' cs
  | 't' :: cs => plain '\t' cs
  | 'n' :: cs => plain '\n' cs
  | 'r' :: cs => plain '\r' cs
  | 'v' :: cs => plain '\x0b' cs
  | 'A' :: cs => some (.anchor .textStart, cs)
  | 'z' :: cs => some (.anchor .textEnd, cs)
  | 'b' :: cs => (wordEdge verbose cs).map fun (a, rest) => (.anchor a, rest)
  | 'B' :: cs => some (.anchor .notWordEdge, cs)
  | '<' :: cs => some (.anchor .wordStart, cs)
  | '>' :: cs => some (.anchor .wordEnd, cs)
  | c :: cs => if isEscapable c then plain c cs else none
  | [] => none

/-! ## Classes in brackets -/

def asciiClassNames : List String := ["alnum", "alpha", "ascii", "blank", "cntrl", "digit", "graph",
  "lower", "print", "punct", "space", "upper", "word", "xdigit"]

/-- A class such as `[:alpha:]`, where its opening bracket has been read. What does not follow that
form is no error: it is an ordinary nested class. -/
def asciiClass? (cs : List Char) : Option (NamedClass × List Char) :=
  match cs with
  | ':' :: '^' :: rest => named true rest
  | ':' :: rest => named false rest
  | _ => none
where
  named (negated : Bool) (cs : List Char) : Option (NamedClass × List Char) :=
    match cs.dropWhile (· != ':') with
    | ':' :: ']' :: rest =>
      let name := String.ofList (cs.takeWhile (· != ':'))
      if asciiClassNames.contains name then some (.ascii name negated, rest) else none
    | _ => none

/-- One end of a range, or a class. -/
def setItem (verbose : Bool) : List Char → Option (Escape × List Char)
  | '\\' :: cs => escape verbose cs
  | c :: cs => some (.literal ⟨c, false⟩, cs)
  | [] => none

/-- A single item of a class. Anchors are nothing that a class could hold. -/
def Escape.setTree? : Escape → Option SetTree
  | literal l => some (.literal l)
  | named c => some (.named c)
  | anchor _ => none

/-- The character that says what a hyphen in front of it means. In verbose mode blanks do not count,
and of a comment neither does the mark; but what the comment says does. -/
def afterHyphen (verbose : Bool) (cs : List Char) : Option Char :=
  if verbose then
    match cs.dropWhile Text.isBlank with
    | '#' :: rest => (rest.dropWhile Text.isBlank).head?
    | rest => rest.head?
  else cs.head?

/-- A range, or the item alone where no range follows. A hyphen before the closing bracket or before
another hyphen makes no range. -/
def setRange (verbose : Bool) (cs : List Char) : Option (SetTree × List Char) := do
  let (first, rest) ← setItem verbose cs
  match space verbose rest with
  | [] => none
  | '-' :: after =>
    let mark := afterHyphen verbose after
    if mark = some ']' ∨ mark = some '-' then (first.setTree?).map fun t => (t, '-' :: after)
    else
      match space verbose after with
      | [] => none
      | after => do
        let (last, rest) ← setItem verbose after
        match first, last with
        | .literal a, .literal b => if a.char ≤ b.char then some (.range a b, rest) else none
        | _, _ => none
  | rest => (first.setTree?).map fun t => (t, rest)

/-- The operation whose right side is being read, with its left side. -/
abbrev Pending := Option (SetOperation × SetTree)

def Pending.close (p : Pending) (right : SetTree) : SetTree :=
  match p with
  | some (op, left) => .operation op left right
  | none => right

/-- Hyphens right after the opening are ordinary characters. -/
def leadingHyphens (verbose : Bool) : Nat → List SetTree → List Char →
    Option (List SetTree × List Char)
  | 0, _, _ => none
  | fuel + 1, items, cs =>
    match cs with
    | '-' :: rest =>
      match space verbose rest with
      | [] => none
      | rest => leadingHyphens verbose fuel (items ++ [.literal ⟨'-', false⟩]) rest
    | [] => none
    | cs => some (items, cs)

/-- After an opening bracket: whether the class is negated, and the items that would mean something
else further on. -/
def setOpening (verbose : Bool) (cs : List Char) :
    Option (Bool × List SetTree × List Char) := do
  let (negated, cs) := match space verbose cs with
    | '^' :: rest => (true, space verbose rest)
    | cs => (false, cs)
  let (items, cs) ← leadingHyphens verbose (cs.length + 1) [] cs
  match items, cs with
  | [], ']' :: rest =>
    match space verbose rest with
    | [] => none
    | rest => some (negated, [.literal ⟨']', false⟩], rest)
  | items, cs => some (negated, items, cs)

mutual

/-- A class after its opening bracket, up to and with its closing one. Each step takes a character,
so a fuel of the text's length suffices. -/
def bracket (verbose : Bool) : Nat → List Char → Option ((Bool × SetTree) × List Char)
  | 0, _ => none
  | fuel + 1, cs => do
    let (negated, items, cs) ← setOpening verbose cs
    let (body, rest) ← setBody verbose fuel none items cs
    return ((negated, body), rest)

/-- The rest of a class: the items so far form the side of an operation that is being read. -/
def setBody (verbose : Bool) : Nat → Pending → List SetTree → List Char →
    Option (SetTree × List Char)
  | 0, _, _, _ => none
  | fuel + 1, pending, items, cs =>
    match space verbose cs with
    | [] => none
    | ']' :: rest => some (pending.close (.ofItems items), rest)
    | '[' :: rest =>
      match asciiClass? rest with
      | some (c, rest) => setBody verbose fuel pending (items ++ [.named c]) rest
      | none => do
        let ((negated, body), rest) ← bracket verbose fuel rest
        setBody verbose fuel pending (items ++ [.bracket negated body]) rest
    | '&' :: '&' :: rest =>
      setBody verbose fuel (some (.intersection, pending.close (.ofItems items))) [] rest
    | '-' :: '-' :: rest =>
      setBody verbose fuel (some (.difference, pending.close (.ofItems items))) [] rest
    | '~' :: '~' :: rest =>
      setBody verbose fuel (some (.symmetricDifference, pending.close (.ofItems items))) [] rest
    | cs => do
      let (item, rest) ← setRange verbose cs
      setBody verbose fuel pending (items ++ [item]) rest

end

/-! ## Groups -/

/-- Flags up to a colon or a closing parenthesis. A flag may be named once, and so may the hyphen
that switches off what follows it. -/
def flags : Nat → Bool → Bool → FlagChanges → List Char → Option (FlagChanges × List Char)
  | 0, _, _, _, _ => none
  | fuel + 1, off, dangling, changes, cs =>
    match cs with
    | ':' :: _ => if dangling then none else some (changes, cs)
    | ')' :: _ => if dangling then none else some (changes, cs)
    | '-' :: rest => if off then none else flags fuel true true changes rest
    | c :: rest => do
      let flag ← Flag.ofLetter? c
      if changes.any (·.1 == flag) then none
      else flags fuel off false (changes ++ [(flag, !off)]) rest
    | [] => none

/-- The name of a group up to its closing angle bracket. -/
def groupName (cs : List Char) : Option (String × List Char) :=
  match cs.takeWhile (· != '>'), cs.dropWhile (· != '>') with
  | first :: more, '>' :: rest =>
    if (first = '_' || Unicode.alphabetic.has first.toNat)
        && more.all fun c => c = '_' || c = '.' || c = '[' || c = ']'
          || Unicode.alphanumeric.has c.toNat
    then some (String.ofList (first :: more), rest) else none
  | _, _ => none

/-- How a group opens. -/
inductive Opening where
  | capture (name : Option String)
  | flagged (changes : FlagChanges)
  | directive (changes : FlagChanges)

/-- What follows an opening parenthesis. Look-around is refused. -/
def opening (verbose : Bool) (cs : List Char) : Option (Opening × List Char) :=
  match space verbose cs with
  | '?' :: '=' :: _ => none
  | '?' :: '!' :: _ => none
  | '?' :: '<' :: '=' :: _ => none
  | '?' :: '<' :: '!' :: _ => none
  | '?' :: 'P' :: '<' :: rest => (groupName rest).map fun (n, rest) => (.capture (some n), rest)
  | '?' :: '<' :: rest => (groupName rest).map fun (n, rest) => (.capture (some n), rest)
  | '?' :: rest => do
    let (changes, rest) ← flags (rest.length + 1) false false [] rest
    match rest with
    | ')' :: after =>
      if changes.isEmpty then none else some (.directive changes, after)
    | _ :: after => some (.flagged changes, after)
    | [] => none
  | cs => some (.capture none, cs)

/-! ## The whole pattern -/

structure State where
  verbose : Bool
  names : List String
  rest : List Char

/-- The state that the flags leave verbose mode in. -/
def verboseAfter (verbose : Bool) (changes : FlagChanges) : Bool :=
  (changes.lookup .verbose).getD verbose

/-- The last item becomes the body of a repetition, whose operator the mark of laziness may
follow. -/
def repeatLast (min : Nat) (max : Option Nat) (items : List Tree) (cs : List Char) :
    Option (List Tree × List Char) :=
  let (lazy, rest) := match cs with
    | '?' :: rest => (true, rest)
    | cs => (false, cs)
  match items with
  | t :: items => if t.isRepeatable then some (.repeated min max lazy t :: items, rest) else none
  | [] => none

/-- Counts after an opening brace, with the brace that closes them. -/
def counts (verbose : Bool) (cs : List Char) : Option ((Nat × Option Nat) × List Char) := do
  let (min, rest) ← decimal verbose (space verbose cs)
  match rest with
  | '\x7d' :: rest => some ((min, some min), space verbose rest)
  | ',' :: rest =>
    match space verbose rest with
    | '\x7d' :: rest => some ((min, none), space verbose rest)
    | cs => do
      let (max, rest) ← decimal verbose cs
      match rest with
      | '\x7d' :: rest => if min ≤ max then some ((min, some max), space verbose rest) else none
      | _ => none
  | _ => none

mutual

/-- The branches of a group, up to its end or a closing parenthesis. Those read are kept last one
first. -/
def branches : Nat → List Tree → State → Option (Tree × State)
  | 0, _, _ => none
  | fuel + 1, done, s => do
    let (items, s) ← sequence fuel [] s
    let done := Tree.ofItems items.reverse :: done
    match s.rest with
    | '|' :: rest => branches fuel done { s with rest }
    | _ => return (Tree.ofBranches done.reverse, s)

/-- The items of a branch, the last one first. -/
def sequence : Nat → List Tree → State → Option (List Tree × State)
  | 0, _, _ => none
  | fuel + 1, items, s =>
    match space s.verbose s.rest with
    | [] => some (items, { s with rest := [] })
    | ')' :: rest => some (items, { s with rest := ')' :: rest })
    | '|' :: rest => some (items, { s with rest := '|' :: rest })
    | '(' :: rest => do
      let (o, rest) ← opening s.verbose rest
      match o with
      | .directive changes =>
        sequence fuel (.flags changes :: items)
          { s with verbose := verboseAfter s.verbose changes, rest }
      | .flagged changes => group fuel false changes items { s with rest }
      | .capture none => group fuel true [] items { s with rest }
      | .capture (some name) =>
        if s.names.contains name then none
        else group fuel true [] items { s with names := name :: s.names, rest }
    | '[' :: rest => do
      let ((negated, body), rest) ← bracket s.verbose fuel rest
      sequence fuel (.bracket negated body :: items) { s with rest }
    | '?' :: rest => do
      let (items, rest) ← repeatLast 0 (some 1) items rest
      sequence fuel items { s with rest }
    | '*' :: rest => do
      let (items, rest) ← repeatLast 0 none items rest
      sequence fuel items { s with rest }
    | '+' :: rest => do
      let (items, rest) ← repeatLast 1 none items rest
      sequence fuel items { s with rest }
    | '\x7b' :: rest => do
      let ((min, max), rest) ← counts s.verbose rest
      let (items, rest) ← repeatLast min max items rest
      sequence fuel items { s with rest }
    | '\\' :: rest => do
      let (e, rest) ← escape s.verbose rest
      sequence fuel (e.tree :: items) { s with rest }
    | '.' :: rest => sequence fuel (.dot :: items) { s with rest }
    | '^' :: rest => sequence fuel (.anchor .lineStart :: items) { s with rest }
    | '$' :: rest => sequence fuel (.anchor .lineEnd :: items) { s with rest }
    | c :: rest => sequence fuel (.literal ⟨c, false⟩ :: items) { s with rest }

/-- A group after its opening, with what follows it. Verbose mode inside ends with the group. -/
def group : Nat → Bool → FlagChanges → List Tree → State → Option (List Tree × State)
  | 0, _, _, _, _ => none
  | fuel + 1, captured, changes, items, s => do
    let (body, inner) ← branches fuel [] { s with verbose := verboseAfter s.verbose changes }
    match inner.rest with
    | ')' :: rest =>
      sequence fuel (.group captured changes body :: items)
        { inner with verbose := s.verbose, rest }
    | _ => none

end

/-- Patterns that nest deeper than this are refused. -/
def depthLimit : Nat := 250

end Reader

/-- The tree of a pattern, where the pattern is well formed. -/
def Tree.read? (pattern : String) : Option Tree :=
  let cs := pattern.toList
  match Reader.branches (3 * cs.length + 3) [] ⟨false, [], cs⟩ with
  | some (t, s) => if s.rest.isEmpty && t.depth ≤ Reader.depthLimit then some t else none
  | none => none

end ModelCatalog.Pattern
