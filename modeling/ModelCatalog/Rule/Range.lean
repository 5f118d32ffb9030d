import ModelCatalog.Error

/-! # Ranges of numbers

A range has a lower bound, an upper bound or both, and holds its bounds. Numbers are compared with
them as doubles.
-/
namespace ModelCatalog

structure RangeRule where
  lower : Option Binary64
  upper : Option Binary64
deriving DecidableEq, Repr

namespace RangeRule

/-- A bound that is a number at all. -/
def finiteBound : Option Double → Except RuleFault (Option Binary64)
  | none => .ok none
  | some (.finite x) => .ok (some x)
  | some _ => .error .rangeNotFinite

/-- The bounds must be there, be finite and stand in order; their absence is noticed first. -/
def ofBounds (lower upper : Option Double) : Except RuleFault RangeRule := do
  if lower.isNone && upper.isNone then .error .rangeWithoutBounds
  let lower ← finiteBound lower
  let upper ← finiteBound upper
  match lower, upper with
  | some l, some u => if u.lt l then .error (.rangeInverted l u) else .ok ⟨some l, some u⟩
  | lower, upper => .ok ⟨lower, upper⟩

def hasWholeBounds (r : RangeRule) : Bool := r.lower.all (·.isWhole) && r.upper.all (·.isWhole)

/-- What a value does not live up to, if anything; the lower bound is looked at first. -/
def fault? (r : RangeRule) : Json → Option Expectation
  | .number n =>
    let x := n.toBinary64
    match r.lower.filter x.lt, r.upper.filter (·.lt x) with
    | some l, _ => some (.lowerBound l)
    | none, some u => some (.upperBound u)
    | none, none => none
  | _ => some .number

def text (r : RangeRule) : String :=
  "range=[" ++ (r.lower.map Binary64.boundText).getD "" ++ ","
    ++ (r.upper.map Binary64.boundText).getD "" ++ "]"

/-- Ranges are the same when their bounds are numerically equal. -/
def same (r s : RangeRule) : Bool := sameBound r.lower s.lower && sameBound r.upper s.upper
where
  sameBound : Option Binary64 → Option Binary64 → Bool
    | some x, some y => x.sameValue y
    | none, none => true
    | _, _ => false

end RangeRule

end ModelCatalog
