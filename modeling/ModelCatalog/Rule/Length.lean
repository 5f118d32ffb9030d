import ModelCatalog.Error

/-! # Ranges of lengths

A text is as long as it has characters, a list as long as it has items.
-/
namespace ModelCatalog

structure LengthRule where
  min : Option Nat
  max : Option Nat
deriving DecidableEq, Repr

namespace LengthRule

def naturalBound : Option Int → Except RuleFault (Option Nat)
  | none => .ok none
  | some i => if i < 0 then .error (.lengthNegative i) else .ok (some i.toNat)

/-- The bounds must be there, not be negative and stand in order. -/
def ofBounds (min max : Option Int) : Except RuleFault LengthRule := do
  if min.isNone && max.isNone then .error .lengthWithoutBounds
  let min ← naturalBound min
  let max ← naturalBound max
  match min, max with
  | some lo, some hi => if hi < lo then .error (.lengthInverted lo hi) else .ok ⟨some lo, some hi⟩
  | min, max => .ok ⟨min, max⟩

/-- The length of a value that has one. -/
def lengthOf? : Json → Option Nat
  | .string s => some s.length
  | .array items => some items.length
  | _ => none

/-- What a value does not live up to, if anything; the minimum is looked at first. -/
def fault? (r : LengthRule) (j : Json) : Option Expectation :=
  match lengthOf? j with
  | none => some .length
  | some n =>
    match r.min.filter (n < ·), r.max.filter (· < n) with
    | some lo, _ => some (.minimumLength lo)
    | none, some hi => some (.maximumLength hi)
    | none, none => none

def text (r : LengthRule) : String :=
  "length=[" ++ (r.min.map toString).getD "" ++ "," ++ (r.max.map toString).getD "" ++ "]"

end LengthRule

end ModelCatalog
