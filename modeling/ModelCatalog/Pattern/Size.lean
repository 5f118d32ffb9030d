import Std.Data.HashMap
import ModelCatalog.Pattern.Expression
import ModelCatalog.Unicode.Octets

/-! # How large a pattern is

A pattern may be no larger than ten mebibytes. Its size is that of two automata, one for each
direction in which a text can be read, with all repetitions written out and with characters taken
octet by octet. States are numbered in the order in which they are made, and counting them is all
that is done here.

An automaton for a set of characters shares its states: a state that leads on as an earlier one does
is that one. The earlier ones are remembered by a slot for each fingerprint, where a new one takes
the place of an old one, so the size hangs on the numbers of the states.
-/
namespace ModelCatalog.Pattern

open Unicode

/-- The states so far, and the octets taken by what leads on from them. -/
structure Size where
  states : Nat
  links : Nat
deriving DecidableEq, Repr

namespace Size

def zero : Size := ⟨0, 0⟩

def octets (s : Size) : Nat := 32 * s.states + s.links

def limit : Nat := 10485760

/-- Makes states, unless they are too many. -/
def grow (states links : Nat) (s : Size) : Option Size :=
  let s : Size := ⟨s.states + states, s.links + links⟩
  if s.octets ≤ limit then some s else none

/-- Does a step so many times over. -/
def times : Nat → (Size → Option Size) → Size → Option Size
  | 0, _, s => some s
  | n + 1, step, s =>
    match step s with
    | some s => times n step s
    | none => none

/-! ## Sets -/

/-- Numbers mixed into one of 64 bits. -/
def fingerprint (ns : List Nat) : Nat :=
  let start : UInt64 := 14695981039346656037
  (ns.foldl (fun h n => (h ^^^ UInt64.ofNat n) * 1099511628211) start).toNat

/-- What is remembered of the states of a set: a state for what leads on from it. -/
structure Memory where
  slots : Nat
  known : Std.HashMap Nat (List Nat × Nat)

namespace Memory

def find? (m : Memory) (key : List Nat) : Option Nat :=
  match m.known[fingerprint key % m.slots]? with
  | some (key', state) => if key' = key then some state else none
  | none => none

def insert (m : Memory) (key : List Nat) (state : Nat) : Memory :=
  { m with known := m.known.insert (fingerprint key % m.slots) (key, state) }

end Memory

/-- A state of a set that is still to be made: the octets that lead on from it, each range with the
state it leads to, last one first, and a range whose state is not known yet. -/
structure Draft where
  arcs : List (Nat × Nat × Nat)
  pending : Option (Nat × Nat)

def Draft.close (d : Draft) (target : Nat) : Draft :=
  match d.pending with
  | some (lo, hi) => ⟨(lo, hi, target) :: d.arcs, none⟩
  | none => d

/-- An automaton for a set under way. The drafts are those of the run at hand, deepest first. -/
structure Sharing where
  size : Size
  memory : Memory
  drafts : List Draft

namespace Sharing

/-- The state that a draft becomes, with the number that it has. -/
def make (a : Sharing) (d : Draft) : Nat × Sharing :=
  let key := d.arcs.reverse.flatMap fun (lo, hi, target) => [lo, hi, target]
  match a.memory.find? key with
  | some state => (state, a)
  | none =>
    let state := a.size.states
    (state, { a with
      size := ⟨state + 1, a.size.links + 8 * d.arcs.length⟩
      memory := a.memory.insert key state })

/-- Makes the drafts deeper than the first `kept` and one more, which stays a draft and leads to
them. -/
def settle (kept : Nat) : Nat → List Draft → Sharing → Sharing
  | target, d :: rest, a =>
    if kept < rest.length then
      let (state, a) := a.make (d.close target)
      settle kept state rest a
    else { a with drafts := d.close target :: rest }
  | _, [], a => a

/-- Adds a run. It shares its drafts with the run before it as far as the two are alike. -/
def add (last : Nat) (a : Sharing) (run : OctetRun) : Sharing :=
  let alike := (run.zip a.drafts.reverse).takeWhile fun (range, d) => d.pending == some range
  let a := settle alike.length last a.drafts a
  let fresh := (run.drop alike.length).map some
  match a.drafts, fresh with
  | d :: drafts, range :: ranges =>
    { a with
      drafts := ranges.foldl (fun drafts range => ⟨[], range⟩ :: drafts)
        ({ d with pending := range } :: drafts) }
  | _, _ => a

end Sharing

/-- Reading forward, the runs of a set share how they go on. All of them lead to one state. -/
def addForward (runs : List OctetRun) (s : Size) : Size :=
  let last := s.states
  let a : Sharing := ⟨{ s with states := last + 1 }, ⟨10000, ∅⟩, [⟨[], none⟩]⟩
  let a := runs.foldl (Sharing.add last) a
  let a := Sharing.settle 0 last a.drafts a
  match a.drafts with
  | d :: _ => (a.make d).2.size
  | [] => a.size

/-- Reading backward, every run leads from the last octet to the first, and runs share how they
began. One state leads to all of them. -/
def addBackward (runs : List OctetRun) (s : Size) : Size :=
  let last := s.states + 1
  let (size, _) := runs.foldl (fun (size, memory) run =>
    let (_, size, memory) := run.foldl (fun (target, size, memory) (lo, hi) =>
      let key := [target, lo, hi]
      match Memory.find? memory key with
      | some state => (state, size, memory)
      | none =>
        let state := size.states
        (state, { size with states := state + 1 }, memory.insert key state))
      (last, size, memory)
    ({ size with links := size.links + 4 }, memory))
    (({ s with states := s.states + 2 } : Size), (⟨1000, ∅⟩ : Memory))
  size

/-- A set within ASCII takes one state that leads on and one that it leads to. -/
def addSet (backward : Bool) (set : CharSet) (s : Size) : Option Size :=
  if isAscii set then s.grow 2 (8 * set.ranges.length)
  else if backward then (addBackward set.octetRuns s).grow 0 0
  else (addForward set.octetRuns s).grow 0 0

/-! ## Literals side by side -/

/-- A node of the tree that literals make up by what they begin with. Where a literal ends, the
branches before that one are closed: those after it come second. -/
structure Fork where
  /-- How many branches each closed part has. -/
  closed : List Nat
  /-- Octets with the nodes they lead to. -/
  branches : List (Nat × Nat)
deriving Inhabited

namespace Fork

def isLeaf (f : Fork) : Bool := f.closed.all (· == 0) && f.branches.isEmpty

/-- Closes the branches so far, for a literal ends here. -/
def close (f : Fork) : Fork :=
  if f.isLeaf && !f.closed.isEmpty then f else ⟨f.closed ++ [f.branches.length], []⟩

/-- A part of several branches leads on by each; all parts, and the end of each literal, are then
joined. -/
def addTo (s : Size) (f : Fork) : Size :=
  if f.isLeaf then s
  else
    let parts := (f.closed ++ [f.branches.length]).filter (0 < ·)
    let links := parts.foldl (fun n part => n + if part = 1 then 0 else 8 * part) 0
    ⟨s.states + parts.length + 1, s.links + links + 4 * (parts.length + f.closed.length)⟩

/-- Leads a literal through the tree. -/
def insert (forks : Array Fork) (literal : List Nat) : Array Fork :=
  let (forks, last) := literal.foldl (fun (forks, i) octet =>
    match (forks.getD i ⟨[], []⟩).branches.lookup octet with
    | some next => (forks, next)
    | none =>
      let next := forks.size
      let forks := forks.modify i fun f => { f with branches := (octet, next) :: f.branches }
      (forks.push ⟨[], []⟩, next)) (forks, 0)
  forks.modify last close

end Fork

def addLiterals (backward : Bool) (literals : List (List Nat)) (s : Size) : Option Size :=
  let literals := literals.map fun codes =>
    let all := codes.flatMap Unicode.octets
    if backward then all.reverse else all
  let forks := literals.foldl Fork.insert #[⟨[], []⟩]
  (forks.foldl Fork.addTo s).grow 1 0

end Size

namespace Expression

/-! ## Expressions -/

def literal? : Expression → Option (List Nat)
  | literal codes => some codes
  | _ => none

mutual

/-- Makes the states for an expression. -/
def addTo (backward : Bool) : Expression → Size → Option Size
  | empty, s | look _, s => s.grow 1 0
  | literal codes, s => s.grow (codes.foldl (fun n c => n + (octets c).length) 0) 0
  | chars set, s => s.addSet backward set
  | capture body, s =>
    if backward then addTo backward body s
    else do (← addTo backward body (← s.grow 1 0)).grow 1 0
  | sequence items, s => addAllTo backward items s
  | alternation es, s =>
    match es.mapM literal? with
    | some literals => s.addLiterals backward literals
    | none => addBranchesTo backward 0 es s
  | repeated 0 (some 1) _ body, s => do (← addTo backward body (← s.grow 1 8)).grow 1 0
  | repeated 0 none _ body, s =>
    if body.minLength.any (0 < ·) then do addTo backward body (← s.grow 1 8)
    else do (← addTo backward body s).grow 3 16
  | repeated min none _ body, s => do (← Size.times min (addTo backward body) s).grow 1 8
  | repeated min (some max) _ body, s => do
    let s ← if min = 0 then s.grow 1 0 else Size.times min (addTo backward body) s
    if min = max then return s
    Size.times (max - min) (fun s => do addTo backward body (← s.grow 1 8)) (← s.grow 1 0)

def addAllTo (backward : Bool) : List Expression → Size → Option Size
  | [], s => some s
  | e :: rest, s =>
    if backward then do addTo backward e (← addAllTo backward rest s)
    else do addAllTo backward rest (← addTo backward e s)

/-- The states that join the branches are made after the second one. -/
def addBranchesTo (backward : Bool) (done : Nat) : List Expression → Size → Option Size
  | [], s => some s
  | e :: rest, s => do
    let s ← addTo backward e s
    addBranchesTo backward (done + 1) rest (← s.grow (if done = 1 then 2 else 0) 4)

end

mutual

/-- Does it match at the start of a text only? -/
def startsText : Expression → Bool
  | look .textStart => true
  | capture body => body.startsText
  | repeated min _ _ body => 0 < min && body.startsText
  | sequence items => startTextOfAll items
  | alternation es => startTextOfEach es
  | _ => false

/-- Of a sequence, what comes before the first item that takes characters may say so, and that item
itself. -/
def startTextOfAll : List Expression → Bool
  | [] => false
  | e :: rest => e.startsText || (e.isEmptyOnly && startTextOfAll rest)

def startTextOfEach : List Expression → Bool
  | [] => true
  | e :: rest => e.startsText && startTextOfEach rest

end

mutual

/-- Does it match at the end of a text only? -/
def endsText : Expression → Bool
  | look .textEnd => true
  | capture body => body.endsText
  | repeated min _ _ body => 0 < min && body.endsText
  | sequence items => endTextOfAll items
  | alternation es => endTextOfEach es
  | _ => false

def endTextOfAll : List Expression → Bool
  | [] => false
  | e :: rest => endTextOfAll rest || (areEmptyOnly rest && e.endsText)

def endTextOfEach : List Expression → Bool
  | [] => true
  | e :: rest => e.endsText && endTextOfEach rest

end

/-- The size of the automaton for one direction. One that need not begin where reading begins takes
three states to pass what comes before. Reading forward, the whole match is captured. -/
def size? (backward : Bool) (e : Expression) : Option Size := do
  let anchored := if backward then e.endsText else e.startsText
  let s ← if anchored then Size.zero.grow 1 0 else Size.zero.grow 3 16
  if backward then (← e.addTo backward s).grow 1 0
  else (← e.addTo backward (← s.grow 1 0)).grow 2 0

/-- Is the expression small enough to be used? -/
def isWithinLimit (e : Expression) : Bool := (e.size? false).isSome && (e.size? true).isSome

end Expression

end ModelCatalog.Pattern
