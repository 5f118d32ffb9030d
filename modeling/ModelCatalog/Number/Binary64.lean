/-! # Finite double-precision numbers, held exactly

Every finite double is a whole number of units of 2⁻¹⁰⁷⁴. Holding the significand and the power of
two that scales it keeps comparison, rounding and printing inside exact integer arithmetic.
-/
namespace ModelCatalog

/-- The magnitude is `significand * 2 ^ shift` units. A significand of fewer than 53 digits has no
shift, so equal fields and equal bits are the same thing. -/
structure Binary64 where
  negative : Bool
  significand : Nat
  shift : Nat
  digits : significand < Nat.pow 2 53 := by decide
  normal : shift = 0 ∨ Nat.pow 2 52 ≤ significand := by decide
  finite : shift ≤ 2045 := by decide
deriving DecidableEq, Repr

namespace Binary64

/-- One of the two zeros. -/
def zero (negative : Bool) : Binary64 := { negative, significand := 0, shift := 0 }

/-- How many units make one. -/
def unitsPerOne : Nat := Nat.pow 2 1074

/-- The exact value without its sign, counted in units. -/
def magnitude (x : Binary64) : Nat := x.significand * Nat.pow 2 x.shift

/-- The exact value, counted in units. Both zeros count nothing. -/
def units (x : Binary64) : Int := if x.negative then -(x.magnitude : Int) else x.magnitude

/-- Numeric order: the sign of zero plays no part. -/
def lt (x y : Binary64) : Bool := decide (x.units < y.units)

/-- Numeric equality: the sign of zero plays no part. -/
def sameValue (x y : Binary64) : Bool := decide (x.units = y.units)

def isWhole (x : Binary64) : Bool := decide (x.units % unitsPerOne = 0)

/-- Nearest whole number to `num / den`, a tie going to the even neighbour. -/
def nearestEven (num den : Nat) : Nat :=
  let q := num / den
  let r := num % den
  if 2 * r < den then q
  else if den < 2 * r then q + 1
  else if q % 2 = 0 then q else q + 1

theorem nearestEven_cases (num den : Nat) :
    (nearestEven num den = num / den ∧ 2 * (num % den) ≤ den) ∨
      (nearestEven num den = num / den + 1 ∧ den ≤ 2 * (num % den)) := by
  unfold nearestEven
  dsimp only
  split
  · exact .inl ⟨rfl, by omega⟩
  · split
    · exact .inr ⟨rfl, by omega⟩
    · split
      · exact .inl ⟨rfl, by omega⟩
      · exact .inr ⟨rfl, by omega⟩

/-- Significand and shift of the nearest double to `scaled / den` units, as if there were no largest
one; a tie goes to the even significand. -/
def rounded (scaled den : Nat) : Nat × Nat :=
  let shift := Nat.log2 (scaled / den) - 52
  let significand := nearestEven scaled (den * Nat.pow 2 shift)
  if significand = Nat.pow 2 53 then (Nat.pow 2 52, shift + 1) else (significand, shift)

section

variable {scaled den shift : Nat} (h : shift = Nat.log2 (scaled / den) - 52)

include h

theorem quotient_lt : scaled / (den * Nat.pow 2 shift) < Nat.pow 2 53 := by
  rw [← Nat.div_div_eq_div_mul]
  refine Nat.div_lt_of_lt_mul ?_
  calc scaled / den
    _ < 2 ^ (Nat.log2 (scaled / den) + 1) := Nat.lt_log2_self
    _ ≤ 2 ^ (shift + 53) := Nat.pow_le_pow_right (by decide) (by omega)
    _ = 2 ^ shift * 2 ^ 53 := Nat.pow_add 2 shift 53

/-- The leading digit is kept. -/
theorem le_quotient (hpos : 0 < shift) :
    Nat.pow 2 52 ≤ scaled / (den * Nat.pow 2 shift) := by
  have hne : scaled / den ≠ 0 := by
    intro hzero
    rw [hzero, Nat.log2_zero] at h
    omega
  have hlog : 52 + shift = Nat.log2 (scaled / den) := by omega
  rw [← Nat.div_div_eq_div_mul]
  refine (Nat.le_div_iff_mul_le (Nat.two_pow_pos shift)).mpr ?_
  calc 2 ^ 52 * 2 ^ shift
    _ = 2 ^ Nat.log2 (scaled / den) := by rw [← Nat.pow_add, hlog]
    _ ≤ scaled / den := Nat.log2_self_le hne

/-- At most 53 digits are kept before a carry, and as many where others are cut off. -/
theorem nearestEven_digits : nearestEven scaled (den * Nat.pow 2 shift) ≤ Nat.pow 2 53 ∧
    (shift = 0 ∨ Nat.pow 2 52 ≤ nearestEven scaled (den * Nat.pow 2 shift)) := by
  have hlt := quotient_lt h
  have hcases := nearestEven_cases scaled (den * Nat.pow 2 shift)
  refine ⟨by omega, ?_⟩
  rcases Nat.eq_zero_or_pos shift with hzero | hpos
  · exact .inl hzero
  · have hle := le_quotient h hpos
    omega

end

theorem rounded_digits (scaled den : Nat) : (rounded scaled den).1 < Nat.pow 2 53 := by
  obtain ⟨hle, -⟩ := nearestEven_digits (rfl : _ = Nat.log2 (scaled / den) - 52)
  unfold rounded
  dsimp only
  split
  · exact Nat.pow_lt_pow_right (by decide) (by decide)
  · next hne => exact Nat.lt_of_le_of_ne hle hne

theorem rounded_normal (scaled den : Nat) :
    (rounded scaled den).2 = 0 ∨ Nat.pow 2 52 ≤ (rounded scaled den).1 := by
  obtain ⟨-, hnormal⟩ := nearestEven_digits (rfl : _ = Nat.log2 (scaled / den) - 52)
  unfold rounded
  dsimp only
  split
  · exact .inr (Nat.le_refl _)
  · exact hnormal

/-- Nearest double to `scaled / den` units; `none` beyond the largest finite double. -/
def ofUnits (negative : Bool) (scaled den : Nat) : Option Binary64 :=
  let r := rounded scaled den
  if h : r.2 ≤ 2045 then
    some ⟨negative, r.1, r.2, rounded_digits scaled den, rounded_normal scaled den, h⟩
  else none

/-- Nearest double to `num / den`. -/
def ofRatio (negative : Bool) (num den : Nat) : Option Binary64 :=
  ofUnits negative (num * unitsPerOne) den

/-- The product, rounded once. -/
def product (x y : Binary64) : Option Binary64 :=
  ofRatio (x.negative != y.negative) (x.magnitude * y.magnitude) (unitsPerOne * unitsPerOne)

/-- The quotient by a number other than zero, rounded once. -/
def quotient (x y : Binary64) : Option Binary64 :=
  ofRatio (x.negative != y.negative) x.magnitude y.magnitude

/-- Nearest double to an integer. Integers of a data value have at most 64 bits, far from the
largest double, so the fallback is never reached for them. -/
def ofInt (i : Int) : Binary64 :=
  (ofRatio (decide (i < 0)) i.natAbs 1).getD (zero (decide (i < 0)))

/-- Nearest double to `digits * 10 ^ exponent`. Magnitudes outside 10⁻⁴⁰⁰ … 10⁴⁰⁰ are settled
before any power is taken, which keeps an exponent of many digits cheap. -/
def ofDecimal (negative : Bool) (digits : Nat) (exponent : Int) : Option Binary64 :=
  let magnitude := exponent + (Nat.log2 digits / 3 : Nat)
  if digits = 0 ∨ magnitude < -400 then some (zero negative)
  else if 400 < exponent then none
  else if 0 ≤ exponent then ofRatio negative (digits * Nat.pow 10 exponent.toNat) 1
  else ofRatio negative digits (Nat.pow 10 (-exponent).toNat)

end Binary64

/-- A double, or one of the values a caller may offer as a bound although no bound can be one. -/
inductive Double where
  | finite (x : Binary64)
  | infinite (negative : Bool)
  | notANumber
deriving DecidableEq, Repr

end ModelCatalog
