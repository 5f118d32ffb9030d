import ModelCatalog.Json.Printer

/-! # Rejected values

A value that a rule rejects is no error of the model: it is a failure that names the field, the
value and what was expected of it.
-/
namespace ModelCatalog

/-- What a rejected value did not live up to. -/
inductive Expectation where
  | matching (pattern : String)
  | text
  | number
  | lowerBound (bound : Binary64)
  | upperBound (bound : Binary64)
  | length
  | minimumLength (length : Nat)
  | maximumLength (length : Nat)
  | other (words : String)
deriving DecidableEq, Repr

def Expectation.phrase : Expectation → String
  | matching pattern => "does not match the regular expression " ++ pattern
  | text => "is not a string"
  | number => "is not a number"
  | lowerBound bound => "is outside lower bound " ++ bound.boundText
  | upperBound bound => "is outside upper bound " ++ bound.boundText
  | length => "has no length"
  | minimumLength n => "is shorter than minimum length " ++ toString n
  | maximumLength n => "is longer than maximum length " ++ toString n
  | other words => words

structure Failure where
  identifier : String
  value : Json
  expected : Expectation

def Failure.message (f : Failure) : String :=
  "Validator error for field '" ++ f.identifier ++ "': value " ++ f.value.compact ++ " "
    ++ f.expected.phrase

end ModelCatalog
