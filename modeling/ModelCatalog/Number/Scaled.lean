import ModelCatalog.Number.Binary64

/-! # Decimals by their leading digits

A decimal may be read in three roundings: of its leading digits, which are one whole number of 64
bits, of a power of ten, and of their product or quotient. Where the digits are few and the power is
small, that is the nearest double; elsewhere it may be a neighbour of it.
-/
namespace ModelCatalog

/-! ## Widths of whole numbers -/

namespace Width

/-- How many numbers so many bits tell apart. -/
def size (bits : Nat) : Nat := Nat.pow 2 bits

/-- Does a number fit that has no sign? -/
def holds (bits n : Nat) : Bool := n < size bits

/-- Does a number fit where one bit is kept for the sign? -/
def holdsSigned (bits : Nat) (i : Int) : Bool := -(size (bits - 1) : Int) ≤ i && i < size (bits - 1)

end Width

/-! ## Decimals -/

/-- The number `significand * 10 ^ exponent`. -/
structure Scaled where
  significand : Nat
  exponent : Int
deriving DecidableEq, Repr

namespace Scaled

/-- Takes digits as long as the significand fits in 64 bits, and counts them. -/
def takeDigits : List Char → Nat → Nat → Nat × Nat
  | [], n, taken => (n, taken)
  | c :: cs, n, taken =>
    let longer := 10 * n + (c.toNat - 48)
    if Width.holds 64 longer then takeDigits cs longer (taken + 1) else (n, taken)

/-- Digits before and after the point. What does not fit counts as zeros before the point, and for
nothing after it. -/
def ofDigits (whole fraction : List Char) (exponent : Int) : Scaled :=
  let (n, taken) := takeDigits whole 0 0
  let (n, decimals) := takeDigits fraction n 0
  ⟨n, exponent + (whole.length - taken : Nat) - (decimals : Int)⟩

/-- Greater powers of ten are beyond the largest double. -/
def greatestPower : Nat := 308

def powerOfTen (n : Nat) : Binary64 := (Binary64.ofDecimal false 1 n).getD (Binary64.zero false)

/-- The number as a double, unless it is beyond the largest one. A power too small for one quotient
takes two, and what is too small for two is zero. -/
def toBinary64? (negative : Bool) (s : Scaled) : Option Binary64 := do
  let x ← Binary64.ofRatio negative s.significand 1
  let power := s.exponent.natAbs
  if s.significand = 0 then return x
  if 0 ≤ s.exponent then
    if power ≤ greatestPower then x.product (powerOfTen power) else failure
  else if power ≤ greatestPower then x.quotient (powerOfTen power)
  else
    let x ← x.quotient (powerOfTen greatestPower)
    if power ≤ 2 * greatestPower then x.quotient (powerOfTen (power - greatestPower))
    else return Binary64.zero negative

end Scaled

end ModelCatalog
