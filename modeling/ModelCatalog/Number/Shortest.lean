import ModelCatalog.Number.Binary64

/-! # Shortest decimals

The decimal of a double is the one with the fewest digits that rounds back to it, and of those the
nearest. Values and bounds differ in how they lay it out, and in which of two that are equally near
they take.
-/
namespace ModelCatalog

/-- `digits` read as a whole number, times `10 ^ exponent`; no leading or trailing zero. -/
structure Decimal where
  digits : List Char
  exponent : Int
deriving DecidableEq, Repr

namespace Decimal

/-- Trailing zeros move into the exponent. -/
def ofNat (n : Nat) (exponent : Int) : Decimal :=
  let digits := Nat.toDigits 10 n
  let kept := (digits.reverse.dropWhile (· = '0')).reverse
  ⟨kept, exponent + (digits.length - kept.length : Nat)⟩

/-- The value between the two halfway points of its neighbours, as numerators over one
denominator. `closed` says whether the halfway points themselves round to the value. -/
structure Interval where
  low : Nat
  value : Nat
  high : Nat
  denominator : Nat
  closed : Bool

/-- Below a power of two the doubles stand twice as close, so the lower halfway point is nearer. -/
def Interval.ofBinary64 (x : Binary64) : Interval :=
  let scale := Nat.pow 2 x.shift
  let below := if x.significand = Nat.pow 2 52 ∧ 0 < x.shift then 1 else 2
  ⟨(4 * x.significand - below) * scale, 4 * x.significand * scale,
    (4 * x.significand + 2) * scale, 4 * Binary64.unitsPerOne, x.significand % 2 == 0⟩

/-- Does `n * 10 ^ exponent` round to the value? -/
def Interval.holds (i : Interval) (n : Nat) (exponent : Int) : Bool :=
  let point := n * Nat.pow 10 exponent.toNat * i.denominator
  let scale := Nat.pow 10 (-exponent).toNat
  if i.closed then i.low * scale ≤ point && point ≤ i.high * scale
  else i.low * scale < point && point < i.high * scale

/-- Which of two decimals equally near to the value is taken. -/
inductive Tie where
  | even
  | up
deriving DecidableEq, Repr

def Tie.takesBelow (below : Nat) : Tie → Bool
  | even => below % 2 == 0
  | up => false

/-- The lower neighbour of the value on the grid of `10 ^ exponent`, and whether it comes before the
upper one. -/
def Interval.neighbours (i : Interval) (tie : Tie) (exponent : Int) : Nat × Bool :=
  let num := i.value * Nat.pow 10 (-exponent).toNat
  let den := i.denominator * Nat.pow 10 exponent.toNat
  let below := num / den
  (below, 2 * (num % den) < den || (2 * (num % den) == den && tie.takesBelow below))

/-- Position of the leading digit: the `k` with `10 ^ k ≤ value < 10 ^ (k + 1)`. -/
def Interval.leading (i : Interval) : Int :=
  (Nat.toDigits 10 (i.value * Nat.pow 10 330 / i.denominator)).length - 331

/-- The nearest point of the grid that rounds to the value, if any point of the grid does. -/
def Interval.onGrid (i : Interval) (tie : Tie) (exponent : Int) : Option Decimal :=
  let (below, belowNearer) := i.neighbours tie exponent
  match i.holds below exponent, i.holds (below + 1) exponent with
  | true, true => some (ofNat (if belowNearer then below else below + 1) exponent)
  | true, false => some (ofNat below exponent)
  | false, true => some (ofNat (below + 1) exponent)
  | false, false => none

/-- Seventeen digits always read back, so the search cannot come up empty. -/
def shortest (tie : Tie) (x : Binary64) : Decimal :=
  let i := Interval.ofBinary64 x
  let leading := i.leading
  ((List.range 17).findSome? fun (n : Nat) => i.onGrid tie (leading - n)).getD ⟨['0'], 0⟩

end Decimal

namespace Binary64

private def zeros (n : Int) : String := String.ofList (List.replicate n.toNat '0')

private def sign (x : Binary64) : String := if x.negative then "-" else ""

/-- Digits with the decimal point after the first `point` of them. -/
private def positional (digits : List Char) (point : Int) (whole : String) : String :=
  let length : Int := digits.length
  if length ≤ point then String.ofList digits ++ zeros (point - length) ++ whole
  else if 0 < point then
    String.ofList (digits.take point.toNat) ++ "." ++ String.ofList (digits.drop point.toNat)
  else "0." ++ zeros (-point) ++ String.ofList digits

private def scientific (digits : List Char) (exponent : Int) : String :=
  let mark := if exponent < 0 then "e-" else "e+"
  let fraction := match digits.drop 1 with
    | [] => ""
    | rest => "." ++ String.ofList rest
  String.ofList (digits.take 1) ++ fraction ++ mark ++ toString exponent.natAbs

/-- Values always show that they are floating: positional notation keeps a fraction from 10⁻⁵ up to
10¹⁶, and an exponent with its sign follows the digits elsewhere. A tie goes to the even digit. -/
def valueText (x : Binary64) : String :=
  if x.significand = 0 then sign x ++ "0.0"
  else
    let d := Decimal.shortest .even x
    let point := d.digits.length + d.exponent
    if -5 < point ∧ point ≤ 16 then sign x ++ positional d.digits point ".0"
    else sign x ++ scientific d.digits (point - 1)

/-- Bounds are written out in full: no exponent, and no fraction where there is none. A tie goes
up. -/
def boundText (x : Binary64) : String :=
  if x.significand = 0 then sign x ++ "0"
  else
    let d := Decimal.shortest .up x
    sign x ++ positional d.digits (d.digits.length + d.exponent) ""

end Binary64

end ModelCatalog
