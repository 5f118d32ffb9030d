import ModelCatalog.Fragment.Basic
import ModelCatalog.Rule.Length
import ModelCatalog.Rule.Pattern
import ModelCatalog.Rule.Range

/-! # Rules for values

A rule is built once, from a fragment, and then looks at values one by one.
-/
namespace ModelCatalog

inductive Rule where
  | pattern (r : PatternRule)
  | range (r : RangeRule)
  | length (r : LengthRule)

namespace Rule

/-- The class a fragment names; a fragment that names none is what its entries make it. -/
def classOf (f : RuleFragment) : Except RuleFault RuleClass :=
  match f.cls with
  | some cls =>
    match RuleClass.of? cls with
    | some c => .ok c
    | none => .error (.unknownClass (Qualified.lastPart cls))
  | none =>
    if f.pattern.isSome then .ok .pattern
    else if f.lower.isSome || f.upper.isSome then .ok (.range .double)
    else if f.minLength.isSome || f.maxLength.isSome then .ok .length
    else .error .nothingGiven

/-- A range for whole numbers has whole bounds. -/
def wholeFor (p : Primitive) (r : RangeRule) : Except RuleFault RangeRule :=
  if p.isIntegral && !r.hasWholeBounds then .error (.rangeNotWhole p) else .ok r

def ofFragment (f : RuleFragment) : Except RuleFault Rule := do
  match ← classOf f with
  | .pattern =>
    match f.pattern with
    | some source => (PatternRule.ofSource source (f.flags.getD "")).map pattern
    | none => .error .patternMissing
  | .range p => do
    let r ← RangeRule.ofBounds (f.lower.map .finite) (f.upper.map .finite)
    (wholeFor p r).map range
  | .length => (LengthRule.ofBounds f.minLength f.maxLength).map length

/-- The name of the kind of rule. -/
def kindName : Rule → String
  | pattern _ => "string"
  | range _ => "number"
  | length _ => "length"

/-- A length rule, where nothing else will do. -/
def lengthOfFragment (f : RuleFragment) : Except RuleFault LengthRule := do
  match ← ofFragment f with
  | length r => .ok r
  | other => .error (.notALength other.kindName)

def text : Rule → String
  | pattern r => r.text
  | range r => r.text
  | length r => r.text

/-- Texts take patterns and lengths, numbers take ranges, and whole numbers take ranges with whole
bounds. -/
def suits : Rule → Primitive → Bool
  | pattern _, p | length _, p => p == .string
  | range r, p => p.isNumeric && (!p.isIntegral || r.hasWholeBounds)

def fault? : Rule → Json → Option Expectation
  | pattern r => r.fault?
  | range r => r.fault?
  | length r => r.fault?

/-- The outcome of checking a value that was given for a field. -/
def outcome (expected : Option Expectation) (identifier : String) (j : Json) :
    Except Failure Unit :=
  match expected with
  | some e => .error ⟨identifier, j, e⟩
  | none => .ok ()

def check (r : Rule) (identifier : String) (j : Json) : Except Failure Unit :=
  outcome (r.fault? j) identifier j

def same : Rule → Rule → Bool
  | pattern r, pattern s => r.same s
  | range r, range s => r.same s
  | length r, length s => r == s
  | _, _ => false

end Rule

def LengthRule.check (r : LengthRule) (identifier : String) (j : Json) : Except Failure Unit :=
  Rule.outcome (r.fault? j) identifier j

end ModelCatalog
