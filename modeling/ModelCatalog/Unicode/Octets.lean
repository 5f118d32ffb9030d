import ModelCatalog.Unicode.CharSet

/-! # Sets of characters as octets

In UTF-8 a character takes up to four octets. A set of characters becomes a list of runs, each a
range for every octet: a character belongs to the set when its octets lie in the ranges of a run.
-/
namespace ModelCatalog.Unicode

/-- The octets of a code in UTF-8. -/
def octets (code : Nat) : List Nat :=
  let trailing (n : Nat) : Nat := 0x80 + n % 64
  if code < 0x80 then [code]
  else if code < 0x800 then [0xC0 + code / 64, trailing code]
  else if code < 0x10000 then [0xE0 + code / 4096, trailing (code / 64), trailing code]
  else [0xF0 + code / 262144, trailing (code / 4096), trailing (code / 64), trailing code]

/-- The first and the last octet at each place. -/
abbrev OctetRun := List (Nat × Nat)

/-- The characters with equally many octets, without the surrogates, which are no characters. -/
def octetBlocks : List (Nat × Nat) :=
  [(0, 0x7F), (0x80, 0x7FF), (0x800, 0xD7FF), (0xE000, 0xFFFF), (0x10000, 0x10FFFF)]

/-- The part of a range that lies in a block. -/
def clip (block range : Nat × Nat) : Option (Nat × Nat) :=
  let lo := max block.1 range.1
  let hi := min block.2 range.2
  if lo ≤ hi then some (lo, hi) else none

/-- A range that spans several stretches of `size` codes is cut into what it has of the first, what
fills the ones between, and what it has of the last. -/
def cut (size : Nat) : Nat × Nat → List (Nat × Nat)
  | (lo, hi) =>
    if lo / size = hi / size then [(lo, hi)]
    else
      let start := if lo % size = 0 then lo else (lo / size + 1) * size
      let stop := if hi % size = size - 1 then hi + 1 else hi / size * size
      (if lo < start then [(lo, start - 1)] else [])
        ++ (if start < stop then [(start, stop - 1)] else [])
        ++ (if stop ≤ hi then [(stop, hi)] else [])

/-- The runs of a range within a block. A piece that is cut at every place but the first has all
octets between those of its first and its last code, at each place. -/
def octetRuns (range : Nat × Nat) : List OctetRun :=
  if range.2 < 0x80 then [[range]]
  else
    let pieces := [64, 4096, 262144].foldl (fun pieces size => pieces.flatMap (cut size)) [range]
    pieces.map fun (lo, hi) => (octets lo).zip (octets hi)

/-- The runs of a set, in order. -/
def CharSet.octetRuns (s : CharSet) : List OctetRun :=
  s.ranges.flatMap fun range =>
    (octetBlocks.filterMap fun block => clip block range).flatMap Unicode.octetRuns

end ModelCatalog.Unicode
