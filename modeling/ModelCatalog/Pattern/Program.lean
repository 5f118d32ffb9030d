import ModelCatalog.Pattern.Reader
import ModelCatalog.Pattern.Size

/-! # Running patterns

An expression becomes a program of numbered steps, and a text is matched by following all threads
through it at once. No text makes that slow: between two characters every step is visited once.
-/
namespace ModelCatalog.Pattern

open Unicode

inductive Step where
  | take (s : CharSet) (next : Nat)
  | fork (left right : Nat)
  | check (l : Look) (next : Nat)
  | accept
deriving Repr

/-- Steps refer to one another by number; the last one made for an expression is not always where
the expression starts. -/
abbrev Program := Array Step

namespace Program

def add (p : Program) (s : Step) : Program × Nat :=
  let i := p.size
  (p.push s, i)

/-- `n` copies of a part, one after the other, in front of `next`. -/
def copies (part : Program → Nat → Program × Nat) : Nat → Program → Nat → Program × Nat
  | 0, p, next => (p, next)
  | n + 1, p, next =>
    let (p, next) := part p next
    copies part n p next

/-- Up to `n` copies of a part in front of `after`, which may be what comes next or copies already
made: each may be left out together with those after it. -/
def optionalCopies (part : Program → Nat → Program × Nat) (next : Nat) :
    Nat → Program → Nat → Program × Nat
  | 0, p, after => (p, after)
  | n + 1, p, after =>
    let (p, start) := part p after
    let (p, fork) := p.add (.fork start next)
    optionalCopies part next n p fork

/-- Any number of copies: the fork is made first, so that the part can lead back to it. -/
def manyCopies (part : Program → Nat → Program × Nat) (p : Program) (next : Nat) :
    Program × Nat :=
  let (p, loop) := p.add (.fork next next)
  let (p, start) := part p loop
  (p.setIfInBounds loop (.fork start next), loop)

/-- Takes characters in a row. -/
def literal (codes : List Nat) (p : Program) (next : Nat) : Program × Nat :=
  codes.foldr (fun c (p, next) => p.add (.take ⟨[(c, c)]⟩ next)) (p, next)

mutual

/-- Adds the steps of an expression in front of `next`; answers where they start. -/
def build : Expression → Program → Nat → Program × Nat
  | .empty, p, next => (p, next)
  | .literal codes, p, next => literal codes p next
  | .chars s, p, next => p.add (.take s next)
  | .look l, p, next => p.add (.check l next)
  | .capture body, p, next => build body p next
  | .sequence items, p, next => buildAll items p next
  | .alternation branches, p, next => buildEach branches p next
  | .repeated min max _ body, p, next =>
    let (p, next) := match max with
      | none => manyCopies (build body) p next
      | some max => optionalCopies (build body) next (max - min) p next
    copies (build body) min p next

def buildAll : List Expression → Program → Nat → Program × Nat
  | [], p, next => (p, next)
  | e :: rest, p, next =>
    let (p, next) := buildAll rest p next
    build e p next

def buildEach : List Expression → Program → Nat → Program × Nat
  | [], p, _ => p.add (.take .empty 0)
  | [e], p, next => build e p next
  | e :: rest, p, next =>
    let (p, left) := build e p next
    let (p, right) := buildEach rest p next
    p.add (.fork left right)

end

end Program

namespace Look

def isWord (unicode : Bool) : Option Char → Bool
  | some c => (shorthandSet unicode .word).has c.toNat
  | none => false

/-- Does the test hold between these characters? -/
def holds (before after : Option Char) : Look → Bool
  | textStart => before.isNone
  | textEnd => after.isNone
  | lineStart false => before.isNone || before == some '\n'
  | lineStart true =>
    before.isNone || before == some '\n' || (before == some '\r' && after != some '\n')
  | lineEnd false => after.isNone || after == some '\n'
  | lineEnd true =>
    after.isNone || after == some '\r' || (after == some '\n' && before != some '\r')
  | wordEdge u => isWord u before != isWord u after
  | notWordEdge u => isWord u before == isWord u after
  | wordStart u => !isWord u before && isWord u after
  | wordEnd u => isWord u before && !isWord u after
  | wordStartHalf u => !isWord u before
  | wordEndHalf u => !isWord u after

end Look

/-- A program with the step it starts at. -/
structure Machine where
  program : Program
  start : Nat

namespace Machine

/-- The threads between two characters: the ones that wait for a character, and whether the text has
matched. -/
structure Threads where
  waiting : List (CharSet × Nat)
  matched : Bool

/-- Follows forks and tests from the steps at hand; `seen` marks the steps visited. Every visit
either skips a seen step or marks a new one and adds at most two, so twice the program's size bounds
what is ever added. -/
def follow (m : Machine) (before after : Option Char) :
    Nat → List Nat → Array Bool → List (CharSet × Nat) → Bool → Threads
  | 0, _, _, waiting, matched => ⟨waiting, matched⟩
  | _ + 1, [], _, waiting, matched => ⟨waiting, matched⟩
  | fuel + 1, i :: rest, seen, waiting, matched =>
    if seen.getD i true then m.follow before after fuel rest seen waiting matched
    else
      let seen := seen.setIfInBounds i true
      match m.program[i]? with
      | some (.take s next) =>
        m.follow before after fuel rest seen ((s, next) :: waiting) matched
      | some (.fork left right) =>
        m.follow before after fuel (left :: right :: rest) seen waiting matched
      | some (.check l next) =>
        m.follow before after fuel (if l.holds before after then next :: rest else rest) seen
          waiting matched
      | some .accept => m.follow before after fuel rest seen waiting true
      | none => m.follow before after fuel rest seen waiting matched

/-- The threads at a position. A match may begin anywhere, so the start joins those that arrive. -/
def threadsAt (m : Machine) (before after : Option Char) (arriving : List Nat) : Threads :=
  let steps := m.start :: arriving
  let size := m.program.size
  m.follow before after (steps.length + 2 * size + 1) steps (Array.replicate size false) [] false

/-- The steps that the waiting threads go on with after a character. -/
def Threads.next (t : Threads) (c : Char) : List Nat :=
  t.waiting.filterMap fun (s, next) => if s.has c.toNat then some next else Option.none

def run (m : Machine) (before : Option Char) (arriving : List Nat) : List Char → Bool
  | [] => (m.threadsAt before none arriving).matched
  | c :: cs =>
    let t := m.threadsAt before (some c) arriving
    t.matched || m.run (some c) (t.next c) cs

def ofExpression (e : Expression) : Machine :=
  let (program, start) := Program.build e #[.accept] 0
  ⟨program, start⟩

end Machine

/-- The machine of a pattern under flags, where the pattern can be used. -/
def compile? (pattern : String) (f : Flags) : Option Machine := do
  let tree ← Tree.read? pattern
  let (e, _) ← tree.expression? f
  if e.isWithinLimit then some (.ofExpression e) else none

/-- Does the pattern match anywhere in the text? -/
def Machine.matches (m : Machine) (text : String) : Bool := m.run none [] text.toList

end ModelCatalog.Pattern
