/-! # Sets of characters

A set is a list of inclusive ranges of code points, in order, with a gap between any two.
-/
namespace ModelCatalog.Unicode

structure CharSet where
  ranges : List (Nat × Nat)
deriving DecidableEq, Repr

namespace CharSet

def lastCodePoint : Nat := 0x10FFFF

def empty : CharSet := ⟨[]⟩

def all : CharSet := ⟨[(0, lastCodePoint)]⟩

def has (s : CharSet) (code : Nat) : Bool := s.ranges.any fun (lo, hi) => lo ≤ code && code ≤ hi

/-- Joins the range in hand with those that meet it; the rest is ordered by first code point. -/
def joinFrom (lo hi : Nat) : List (Nat × Nat) → List (Nat × Nat)
  | [] => [(lo, hi)]
  | (lo', hi') :: rest =>
    if lo' ≤ hi + 1 then joinFrom lo (max hi hi') rest else (lo, hi) :: joinFrom lo' hi' rest

def joinMeeting : List (Nat × Nat) → List (Nat × Nat)
  | [] => []
  | (lo, hi) :: rest => joinFrom lo hi rest

def ofRanges (ranges : List (Nat × Nat)) : CharSet :=
  ⟨joinMeeting (ranges.mergeSort fun a b => a.1 ≤ b.1)⟩

def union (s t : CharSet) : CharSet := ofRanges (s.ranges ++ t.ranges)

def unions (sets : List CharSet) : CharSet := ofRanges (sets.flatMap ranges)

/-- The gaps from `next` on. -/
def gapsFrom (next : Nat) : List (Nat × Nat) → List (Nat × Nat)
  | [] => if next ≤ lastCodePoint then [(next, lastCodePoint)] else []
  | (lo, hi) :: rest => (if next < lo then [(next, lo - 1)] else []) ++ gapsFrom (hi + 1) rest

def complement (s : CharSet) : CharSet := ⟨gapsFrom 0 s.ranges⟩

def inter (s t : CharSet) : CharSet := (s.complement.union t.complement).complement

def diff (s t : CharSet) : CharSet := s.inter t.complement

/-- The members of exactly one of the sets. -/
def symmDiff (s t : CharSet) : CharSet := (s.union t).diff (s.inter t)

/-- Ranges laid end to end: each pair is the gap before a range and the length of the range. -/
def layOut (next : Nat) : List Nat → List (Nat × Nat)
  | gap :: length :: rest =>
    (next + gap, next + gap + length - 1) :: layOut (next + gap + length) rest
  | _ => []

/-- Decimal numbers separated by single blanks. -/
def numbers (cs : List Char) : List Nat :=
  let (last, done) := cs.foldl (fun (n, done) c =>
    if c = ' ' then (0, n :: done) else (10 * n + (c.toNat - 48), done)) ((0, []) : Nat × List Nat)
  (last :: done).reverse

/-- A set written as lines of the gaps and lengths of its ranges. -/
def ofGaps (lines : List String) : CharSet :=
  ⟨layOut 0 (lines.flatMap fun line => numbers line.toList)⟩

end CharSet

end ModelCatalog.Unicode
