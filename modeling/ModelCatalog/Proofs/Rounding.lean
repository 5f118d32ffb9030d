import ModelCatalog.Proofs.Strictness

/-! # Ranges of whole numbers

A range holds its bounds as doubles, and a number becomes a double before it is compared with them.
Up to 2⁵³ every whole number is one. Beyond it a number becomes the nearest double there is, and the
doubles stand apart. No number passes a double on the way, so what a range accepts without holding
it can only have become one of the bounds.
-/
namespace ModelCatalog

namespace Binary64

/-! ## Nearest multiples -/

/-- How far two numbers are apart. -/
def distance (u v : Int) : Nat := (u - v).natAbs

variable {num den : Nat}

/-- A multiple is not between two neighbouring ones. -/
theorem multiple_le_or_ge (z : Int) (q den : Nat) :
    z * den ≤ (q * den : Nat) ∨ ((q * den + den : Nat) : Int) ≤ z * den := by
  rcases Int.lt_or_le (q : Int) z with hz | hz
  · have hle : ((q : Int) + 1) * den ≤ z * den :=
      Int.mul_le_mul_of_nonneg_right hz (Int.natCast_nonneg den)
    rw [Int.add_mul, Int.one_mul] at hle
    exact .inr (by push_cast; exact hle)
  · have hle : z * den ≤ (q : Int) * den :=
      Int.mul_le_mul_of_nonneg_right hz (Int.natCast_nonneg den)
    exact .inl (by push_cast; exact hle)

/-- No multiple is nearer to a number than the one it is rounded to. -/
theorem nearestEven_nearest (hden : 0 < den) (z : Int) :
    distance ((nearestEven num den * den : Nat) : Int) num ≤ distance (z * den) num := by
  have hsplit : num / den * den + num % den = num := Nat.div_add_mod' num den
  have hrest : num % den < den := Nat.mod_lt num hden
  have hside := multiple_le_or_ge z (num / den) den
  unfold distance
  rcases nearestEven_cases num den with ⟨he, hr⟩ | ⟨he, hr⟩
  · rw [he]
    omega
  · rw [he, Nat.succ_mul]
    omega

/-- A multiple is rounded to itself. -/
theorem nearestEven_mul_of_dvd (hden : 0 < den) (h : den ∣ num) :
    nearestEven num den * den = num := by
  have hnearest : distance ((nearestEven num den * den : Nat) : Int) num
      ≤ distance ((num / den : Nat) * (den : Int)) num := nearestEven_nearest hden _
  rw [← Int.natCast_mul, Nat.div_mul_cancel h] at hnearest
  unfold distance at hnearest
  omega

/-! ## Nearest doubles -/

variable {x y : Binary64} {i : Int}

/-- The significand with its sign. -/
def signed (x : Binary64) : Int := if x.negative then -(x.significand : Int) else x.significand

theorem units_eq (x : Binary64) : x.units = x.signed * (Nat.pow 2 x.shift : Nat) := by
  unfold units signed magnitude
  rw [Int.natCast_mul]
  cases x.negative with
  | false => rfl
  | true => exact (Int.neg_mul ..).symm

theorem units_le_magnitude (x : Binary64) : x.units ≤ x.magnitude := by
  unfold units
  split <;> omega

/-- A double is a multiple of a power of two, or too small to have all its digits above it. -/
theorem multiple_or_below (y : Binary64) (k : Nat) :
    (∃ z : Int, y.units = z * (Nat.pow 2 k : Nat)) ∨
      (0 < k ∧ y.units ≤ (Nat.pow 2 52 * Nat.pow 2 k : Nat)) := by
  rcases Nat.lt_or_ge y.shift k with hk | hk
  · right
    refine ⟨by omega, ?_⟩
    have hexponent : 53 + y.shift = 52 + (y.shift + 1) := by omega
    have hmagnitude : y.magnitude ≤ Nat.pow 2 52 * Nat.pow 2 k := by
      calc y.significand * 2 ^ y.shift
        _ ≤ 2 ^ 53 * 2 ^ y.shift := Nat.mul_le_mul_right _ (Nat.le_of_lt y.digits)
        _ = 2 ^ 52 * 2 ^ (y.shift + 1) := by rw [← Nat.pow_add, ← Nat.pow_add, hexponent]
        _ ≤ 2 ^ 52 * 2 ^ k := Nat.mul_le_mul_left _ (Nat.pow_le_pow_right (by decide) hk)
    exact Int.le_trans y.units_le_magnitude (Int.ofNat_le.mpr hmagnitude)
  · left
    obtain ⟨d, hd⟩ := Nat.exists_eq_add_of_le' hk
    have hpow : Nat.pow 2 (d + k) = Nat.pow 2 d * Nat.pow 2 k := Nat.pow_add 2 d k
    refine ⟨y.signed * (Nat.pow 2 d : Nat), ?_⟩
    rw [units_eq, hd, hpow, Int.natCast_mul, Int.mul_assoc]

/-- Rounding to 53 digits leads to the nearest of the doubles. -/
theorem distance_nearestEven_le (y : Binary64) (num : Nat) {k : Nat}
    (hk : k = Nat.log2 num - 52) :
    distance ((nearestEven num (Nat.pow 2 k) * Nat.pow 2 k : Nat) : Int) num
      ≤ distance y.units num := by
  have hpos : 0 < Nat.pow 2 k := Nat.two_pow_pos k
  rcases y.multiple_or_below k with ⟨z, hz⟩ | ⟨hlt, hbelow⟩
  · rw [hz]
    exact nearestEven_nearest hpos z
  · have hnum : num ≠ 0 := by
      rintro rfl
      simp at hk
      omega
    -- the power of two is between the double and the number, and no nearer than what is rounded to
    have hlead : Nat.pow 2 52 * Nat.pow 2 k ≤ num := by
      have hlog : 52 + k = Nat.log2 num := by omega
      calc 2 ^ 52 * 2 ^ k
        _ = 2 ^ Nat.log2 num := by rw [← Nat.pow_add, hlog]
        _ ≤ num := Nat.log2_self_le hnum
    have hleast : distance ((nearestEven num (Nat.pow 2 k) * Nat.pow 2 k : Nat) : Int) num
        ≤ distance ((Nat.pow 2 52 : Nat) * (Nat.pow 2 k : Nat)) num := nearestEven_nearest hpos _
    rw [← Int.natCast_mul] at hleast
    unfold distance at hleast ⊢
    omega

/-- The carry into another digit does not change what is rounded to. -/
theorem rounded_value (num : Nat) {k : Nat} (hk : k = Nat.log2 num - 52) :
    (rounded num 1).1 * Nat.pow 2 (rounded num 1).2
        = nearestEven num (Nat.pow 2 k) * Nat.pow 2 k ∧
      (rounded num 1).2 ≤ k + 1 := by
  simp only [rounded, Nat.div_one, Nat.one_mul, ← hk]
  split
  next hcarry =>
    refine ⟨?_, Nat.le_refl _⟩
    have hexponent : 52 + (k + 1) = 53 + k := by omega
    rw [hcarry]
    calc 2 ^ 52 * 2 ^ (k + 1)
      _ = 2 ^ (53 + k) := by rw [← Nat.pow_add, hexponent]
      _ = 2 ^ 53 * 2 ^ k := Nat.pow_add 2 53 k
  next => exact ⟨rfl, Nat.le_succ k⟩

/-- A number of units that is not too large is rounded to 53 digits. -/
theorem ofUnits_eq (negative : Bool) {num k : Nat} (hk : k = Nat.log2 num - 52)
    (hle : k + 1 ≤ 2045) : ∃ x, ofUnits negative num 1 = some x ∧ x.negative = negative ∧
      x.magnitude = nearestEven num (Nat.pow 2 k) * Nat.pow 2 k := by
  obtain ⟨hvalue, hshift⟩ := rounded_value num hk
  exact ⟨_, dif_pos (Nat.le_trans hshift hle), rfl, hvalue⟩

theorem log2_mul_pow_le {n m : Nat} (hn : n < Nat.pow 2 (m + 1)) (e : Nat) :
    Nat.log2 (n * Nat.pow 2 e) ≤ m + e := by
  by_cases hzero : n * Nat.pow 2 e = 0
  · rw [hzero]
    exact Nat.zero_le _
  · have hexponent : m + e + 1 = m + 1 + e := by omega
    rw [← Nat.lt_succ_iff, Nat.log2_lt hzero]
    calc n * 2 ^ e
      _ < 2 ^ (m + 1) * 2 ^ e := Nat.mul_lt_mul_of_pos_right hn (Nat.two_pow_pos e)
      _ = 2 ^ (m + e + 1) := by rw [hexponent, Nat.pow_add 2 (m + 1) e]

theorem exists_unitsPerOne_eq : ∃ e, e ≤ 1074 ∧ unitsPerOne = Nat.pow 2 e := by
  refine ⟨1074, Nat.le_refl 1074, ?_⟩
  unfold unitsPerOne
  exact Eq.refl _

/-- The units that a whole number has as a double. -/
theorem units_ofInt (hi : i.natAbs ≤ Nat.pow 2 63) {num k : Nat}
    (hnum : num = i.natAbs * unitsPerOne) (hk : k = Nat.log2 num - 52) :
    (ofInt i).units = if i < 0 then -((nearestEven num (Nat.pow 2 k) * Nat.pow 2 k : Nat) : Int)
      else (nearestEven num (Nat.pow 2 k) * Nat.pow 2 k : Nat) := by
  obtain ⟨e, he, hunit⟩ := exists_unitsPerOne_eq
  have hlog : Nat.log2 num ≤ 63 + e := by
    rw [hnum, hunit]
    exact log2_mul_pow_le (Nat.lt_of_le_of_lt hi (Nat.pow_lt_pow_succ (by decide))) e
  obtain ⟨x, hx, hnegative, hmagnitude⟩ := ofUnits_eq (decide (i < 0)) hk (by omega)
  rw [ofInt, ofRatio, ← hnum, hx, Option.getD_some, units, hnegative, hmagnitude]
  simp only [decide_eq_true_eq]

theorem signed_natAbs_mul (i : Int) (n : Nat) :
    (if i < 0 then -((i.natAbs * n : Nat) : Int) else (i.natAbs * n : Nat)) = i * n := by
  rw [Int.natCast_mul]
  by_cases hneg : i < 0
  · rw [if_pos hneg, Int.ofNat_natAbs_of_nonpos (Int.le_of_lt hneg), Int.neg_mul, Int.neg_neg]
  · rw [if_neg hneg, Int.natAbs_of_nonneg (Int.not_lt.mp hneg)]

def opposite (x : Binary64) : Binary64 := { x with negative := !x.negative }

theorem units_opposite (x : Binary64) : x.opposite.units = -x.units := by
  unfold units opposite magnitude
  cases x.negative <;> simp

/-- A whole number becomes the nearest double there is. -/
theorem distance_ofInt_le (hi : i.natAbs ≤ Nat.pow 2 63) (y : Binary64) :
    distance (ofInt i).units (i * unitsPerOne) ≤ distance y.units (i * unitsPerOne) := by
  rw [units_ofInt hi rfl rfl, ← signed_natAbs_mul]
  by_cases hneg : i < 0
  · -- below zero all signs are turned
    have hnearest := distance_nearestEven_le y.opposite (i.natAbs * unitsPerOne) rfl
    rw [units_opposite] at hnearest
    rw [if_pos hneg, if_pos hneg]
    unfold distance at hnearest ⊢
    omega
  · rw [if_neg hneg, if_neg hneg]
    exact distance_nearestEven_le y (i.natAbs * unitsPerOne) rfl

/-! ## Whole numbers between doubles -/

/-- No double is passed on the way to the nearest one. -/
theorem units_ofInt_le (hi : i.natAbs ≤ Nat.pow 2 63) (h : i * unitsPerOne ≤ y.units) :
    (ofInt i).units ≤ y.units := by
  have hnearest := distance_ofInt_le hi y
  unfold distance at hnearest
  omega

theorem le_units_ofInt (hi : i.natAbs ≤ Nat.pow 2 63) (h : y.units ≤ i * unitsPerOne) :
    y.units ≤ (ofInt i).units := by
  have hnearest := distance_ofInt_le hi y
  unfold distance at hnearest
  omega

/-- A number of at most 53 digits has no others to be cut off. -/
theorem pow_dvd_of_small {n e k : Nat} (hn : n ≤ Nat.pow 2 53)
    (hk : k = Nat.log2 (n * Nat.pow 2 e) - 52) : Nat.pow 2 k ∣ n * Nat.pow 2 e := by
  rcases Nat.lt_or_eq_of_le hn with hlt | rfl
  · have hlog := log2_mul_pow_le hlt e
    exact Nat.dvd_mul_left_of_dvd (Nat.pow_dvd_pow 2 (by omega)) n
  · have hlog := log2_mul_pow_le (Nat.pow_lt_pow_succ (by decide) : 2 ^ 53 < 2 ^ 54) e
    have hpow : Nat.pow 2 53 * Nat.pow 2 e = Nat.pow 2 (53 + e) := (Nat.pow_add 2 53 e).symm
    rw [hpow] at hk hlog ⊢
    exact Nat.pow_dvd_pow 2 (by omega)

/-- Up to the power of two that a double has digits for, a whole number is a double. -/
theorem units_ofInt_of_small (hi : i.natAbs ≤ Nat.pow 2 53) :
    (ofInt i).units = i * unitsPerOne := by
  obtain ⟨e, -, hunit⟩ := exists_unitsPerOne_eq
  have hwidth : i.natAbs ≤ Nat.pow 2 63 :=
    Nat.le_trans hi (Nat.pow_le_pow_right (by decide) (by decide))
  have hexact : nearestEven (i.natAbs * unitsPerOne) _ * _ = i.natAbs * unitsPerOne :=
    nearestEven_mul_of_dvd (Nat.two_pow_pos _) (hunit ▸ pow_dvd_of_small hi rfl)
  rw [units_ofInt hwidth rfl rfl, ← signed_natAbs_mul]
  simp only [Nat.pow_eq, hexact]

theorem units_ofInt_le_of_small {j : Int} (hi : i.natAbs ≤ Nat.pow 2 63)
    (hj : j.natAbs ≤ Nat.pow 2 53) (h : i ≤ j) : (ofInt i).units ≤ j * unitsPerOne := by
  rw [← units_ofInt_of_small hj]
  refine units_ofInt_le hi ?_
  rw [units_ofInt_of_small hj]
  exact Int.mul_le_mul_of_nonneg_right h (Int.natCast_nonneg unitsPerOne)

theorem le_units_ofInt_of_small {j : Int} (hi : i.natAbs ≤ Nat.pow 2 63)
    (hj : j.natAbs ≤ Nat.pow 2 53) (h : j ≤ i) : j * unitsPerOne ≤ (ofInt i).units := by
  rw [← units_ofInt_of_small hj]
  refine le_units_ofInt hi ?_
  rw [units_ofInt_of_small hj]
  exact Int.mul_le_mul_of_nonneg_right h (Int.natCast_nonneg unitsPerOne)

/-! ## Whole doubles -/

/-- The whole number that a double is, or the next one below it. -/
def toInt (x : Binary64) : Int := x.units / unitsPerOne

theorem unitsPerOne_pos : (0 : Int) < unitsPerOne := by
  obtain ⟨e, -, hunit⟩ := exists_unitsPerOne_eq
  rw [hunit]
  exact Int.natCast_pos.mpr (Nat.two_pow_pos e)

theorem units_of_isWhole (h : x.isWhole = true) : x.units = x.toInt * unitsPerOne :=
  (Int.ediv_mul_cancel (Int.dvd_of_emod_eq_zero (of_decide_eq_true h))).symm

theorem le_toInt_iff (h : x.isWhole = true) : i ≤ x.toInt ↔ i * unitsPerOne ≤ x.units := by
  rw [units_of_isWhole h, Int.mul_le_mul_right unitsPerOne_pos]

theorem toInt_le_iff (h : x.isWhole = true) : x.toInt ≤ i ↔ x.units ≤ i * unitsPerOne := by
  rw [units_of_isWhole h, Int.mul_le_mul_right unitsPerOne_pos]

/-- The number is rounded to the value of the double. -/
def Becomes (i : Int) (x : Binary64) : Prop := (ofInt i).units = x.units

section

variable (hi : i.natAbs ≤ Nat.pow 2 63) (hwhole : x.isWhole = true)

include hi hwhole

theorem le_ofInt_iff : x.units ≤ (ofInt i).units ↔ x.toInt ≤ i ∨ Becomes i x := by
  rw [toInt_le_iff hwhole]
  constructor
  · intro h
    rcases Int.le_total x.units (i * unitsPerOne) with hle | hge
    · exact .inl hle
    · exact .inr (Int.le_antisymm (units_ofInt_le hi hge) h)
  · rintro (hle | hbecomes)
    · exact le_units_ofInt hi hle
    · exact Int.le_of_eq hbecomes.symm

theorem ofInt_le_iff : (ofInt i).units ≤ x.units ↔ i ≤ x.toInt ∨ Becomes i x := by
  rw [le_toInt_iff hwhole]
  constructor
  · intro h
    rcases Int.le_total (i * unitsPerOne) x.units with hle | hge
    · exact .inl hle
    · exact .inr (Int.le_antisymm h (le_units_ofInt hi hge))
  · rintro (hle | hbecomes)
    · exact units_ofInt_le hi hle
    · exact Int.le_of_eq hbecomes

end

/-- Only beyond the digits of a double a number becomes another one. -/
theorem Becomes.toInt_eq (hi : i.natAbs ≤ Nat.pow 2 63) (hwhole : x.isWhole = true)
    (h : Becomes i x) (hsmall : i.natAbs ≤ Nat.pow 2 53 ∨ x.toInt.natAbs < Nat.pow 2 53) :
    x.toInt = i := by
  have hunits : (ofInt i).units = x.toInt * unitsPerOne := h.trans (units_of_isWhole hwhole)
  by_cases hdigits : i.natAbs ≤ Nat.pow 2 53
  · rw [units_ofInt_of_small hdigits] at hunits
    exact (Int.eq_of_mul_eq_mul_right (Int.ne_of_gt unitsPerOne_pos) hunits).symm
  · -- the number does not come back over the power of two that the bound is within
    have hbound := hsmall.resolve_left hdigits
    rcases Int.lt_or_le i 0 with hneg | hnonneg
    · have hle := units_ofInt_le_of_small (j := -(Nat.pow 2 53 : Nat)) hi (by omega) (by omega)
      rw [hunits, Int.mul_le_mul_right unitsPerOne_pos] at hle
      omega
    · have hle := le_units_ofInt_of_small (j := (Nat.pow 2 53 : Nat)) hi (by omega) (by omega)
      rw [hunits, Int.mul_le_mul_right unitsPerOne_pos] at hle
      omega

end Binary64

open Binary64 (Becomes)

/-! ## Ranges -/

/-- The fragment is one of a range for whole numbers. -/
def RuleFragment.AsksForWhole (f : RuleFragment) : Prop :=
  ∃ cls q, f.cls = some cls ∧ RuleClass.of? cls = some (.range q) ∧ q.isIntegral = true

namespace RangeRule

variable {r : RangeRule} {i : Int}

/-- The number is within the bounds. -/
structure Holds (r : RangeRule) (i : Int) : Prop where
  lower : ∀ l ∈ r.lower, l.toInt ≤ i
  upper : ∀ u ∈ r.upper, i ≤ u.toInt

theorem isWhole_of_hasWholeBounds (h : r.hasWholeBounds = true) {b : Binary64}
    (hb : r.Bounds b) : b.isWhole = true :=
  Binary64.isWhole_iff.mpr (hasWholeBounds_iff.mp h b hb)

/-- Where nothing becomes a bound but the bound itself, the range holds what it accepts. -/
theorem holds_iff (hbecomes : ∀ b, r.Bounds b → Becomes i b → b.toInt = i) :
    ((∀ l ∈ r.lower, l.toInt ≤ i ∨ Becomes i l) ∧ ∀ u ∈ r.upper, i ≤ u.toInt ∨ Becomes i u) ↔
      r.Holds i := by
  constructor
  · rintro ⟨hlower, hupper⟩
    refine ⟨fun l hl => ?_, fun u hu => ?_⟩
    · rcases hlower l hl with hle | hl'
      · exact hle
      · exact Int.le_of_eq (hbecomes l (.inl hl) hl')
    · rcases hupper u hu with hle | hu'
      · exact hle
      · exact Int.le_of_eq (hbecomes u (.inr hu) hu').symm
  · rintro ⟨hlower, hupper⟩
    exact ⟨fun l hl => .inl (hlower l hl), fun u hu => .inl (hupper u hu)⟩

end RangeRule

theorem Width.natAbs_le_of_holdsSigned {i : Int} (hi : holdsSigned 64 i = true) :
    i.natAbs ≤ Nat.pow 2 63 := by
  have hbounds : -(Nat.pow 2 63 : Int) ≤ i ∧ i < Nat.pow 2 63 := holdsSigned_iff.mp hi
  omega

namespace Rule

variable {f : RuleFragment} {r : RangeRule} {i : Int}

/-- A range for whole numbers is not built on any others. -/
theorem hasWholeBounds_of_ofFragment (hf : f.AsksForWhole)
    (h : ofFragment f = .ok (.range r)) : r.hasWholeBounds = true := by
  obtain ⟨cls, q, hcls, hclass, hq⟩ := hf
  have hclassOf : classOf f = .ok (.range q) := by
    unfold classOf
    rw [hcls]
    dsimp only
    rw [hclass]
  rw [ofFragment, hclassOf, bind_ok_iff] at h
  obtain ⟨_, ⟨⟩, h⟩ := h
  obtain ⟨built, -, h⟩ := bind_ok_iff.mp h
  obtain ⟨whole, hwhole, hrange⟩ := map_ok_iff.mp h
  obtain ⟨hguard, hbuilt⟩ := guard_ok_iff.mp hwhole
  obtain rfl : built = r := (Except.ok.inj hbuilt).trans (Rule.range.inj hrange)
  simpa [hq] using hguard

/-- A number that is made a double has to be between the bounds. -/
theorem check_integer_ok_iff {identifier : String} :
    (range r).check identifier (.number (.integer i)) = .ok () ↔
      (∀ l ∈ r.lower, l.units ≤ (Binary64.ofInt i).units) ∧
        ∀ u ∈ r.upper, (Binary64.ofInt i).units ≤ u.units := by
  rw [check, outcome_ok_iff, fault?, RangeRule.fault?_eq_none_iff]
  constructor
  · rintro ⟨n, hn, hbounds⟩
    obtain rfl := Json.number.inj hn
    exact hbounds
  · intro hbounds
    exact ⟨_, rfl, hbounds⟩

/-- A range for whole numbers accepts those that it holds, and those that become one of its bounds
as a double. There are none of these among the numbers that are doubles, nor where the bounds have
fewer digits than a double has. -/
theorem check_whole_ok_iff (hf : f.AsksForWhole) (h : ofFragment f = .ok (.range r))
    (hi : Width.holdsSigned 64 i = true) (identifier : String) :
    (∀ b, r.Bounds b → b.units = b.toInt * Binary64.unitsPerOne) ∧
    ((range r).check identifier (.number (.integer i)) = .ok () ↔
      (∀ l ∈ r.lower, l.toInt ≤ i ∨ Becomes i l) ∧ ∀ u ∈ r.upper, i ≤ u.toInt ∨ Becomes i u) ∧
    ((i.natAbs ≤ Nat.pow 2 53 ∨ ∀ b, r.Bounds b → b.toInt.natAbs < Nat.pow 2 53) →
      ((range r).check identifier (.number (.integer i)) = .ok () ↔ r.Holds i)) := by
  have hwhole : ∀ b, r.Bounds b → b.isWhole = true := fun b hb =>
    RangeRule.isWhole_of_hasWholeBounds (hasWholeBounds_of_ofFragment hf h) hb
  have hwidth := Width.natAbs_le_of_holdsSigned hi
  have haccepted : (range r).check identifier (.number (.integer i)) = .ok () ↔
      (∀ l ∈ r.lower, l.toInt ≤ i ∨ Becomes i l) ∧ ∀ u ∈ r.upper, i ≤ u.toInt ∨ Becomes i u := by
    rw [check_integer_ok_iff]
    refine and_congr ?_ ?_
    · exact forall₂_congr fun l hl => Binary64.le_ofInt_iff hwidth (hwhole l (.inl hl))
    · exact forall₂_congr fun u hu => Binary64.ofInt_le_iff hwidth (hwhole u (.inr hu))
  refine ⟨fun b hb => Binary64.units_of_isWhole (hwhole b hb), haccepted, fun hsmall => ?_⟩
  rw [haccepted]
  refine RangeRule.holds_iff ?_
  intro b hb hi
  exact hi.toInt_eq hwidth (hwhole b hb) (hsmall.imp_right fun hsmall => hsmall b hb)

end Rule

/-! ## A range up to 2⁵³ -/

namespace Sample

def largest : Binary64 := { negative := false, significand := Nat.pow 2 52, shift := 1075 }

/-- At most what is the last whole number up to which all are doubles. -/
def writtenAtMost : RuleFragment :=
  ⟨some "LongDomainValidator", none, none, none, some largest, none, none⟩

def atMost : RangeRule := ⟨none, some largest⟩

theorem atMost_built : Rule.ofFragment writtenAtMost = .ok (.range atMost) := by
  have hclass : Rule.classOf writtenAtMost = .ok (.range .long) := by rfl
  have hwhole : Rule.wholeFor .long atMost = .ok atMost := by
    have hwhole : atMost.hasWholeBounds = true := by decide +kernel
    simp [Rule.wholeFor, hwhole]
  have hbounds : RangeRule.ofBounds none (some (.finite largest)) = .ok atMost := by rfl
  rw [Rule.ofFragment]
  exact bind_ok_iff.mpr ⟨_, hclass, bind_ok_iff.mpr ⟨_, hbounds, map_ok_iff.mpr ⟨_, hwhole, rfl⟩⟩⟩

theorem largest_toInt : largest.toInt = 9007199254740992 := by decide +kernel

end Sample

namespace Rule

theorem check_whole_largest :
    (range Sample.atMost).check "id" (.number (.integer 9007199254740992)) = .ok () := by
  have hwhole : Sample.writtenAtMost.AsksForWhole :=
    ⟨"LongDomainValidator", .long, rfl, by decide +kernel, rfl⟩
  refine ((check_whole_ok_iff hwhole Sample.atMost_built (by decide +kernel) "id").2.2
    (.inl (by decide +kernel))).mpr ⟨nofun, ?_⟩
  intro u hu
  obtain rfl := Option.some.inj hu
  exact Int.le_of_eq Sample.largest_toInt.symm

/-- The next number is not held, and accepted. -/
theorem largest_passed : ofFragment Sample.writtenAtMost = .ok (.range Sample.atMost) ∧
    (range Sample.atMost).check "id" (.number (.integer 9007199254740993)) = .ok () ∧
    ¬ Sample.atMost.Holds 9007199254740993 := by
  refine ⟨Sample.atMost_built, ?_, ?_⟩
  · refine check_integer_ok_iff.mpr ⟨nofun, ?_⟩
    intro u hu
    obtain rfl := Option.some.inj hu
    decide +kernel
  · intro h
    have := h.upper _ rfl
    rw [Sample.largest_toInt] at this
    omega

end Rule

end ModelCatalog
