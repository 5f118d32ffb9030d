import ModelCatalog.Property
import ModelCatalog.Settings

/-! # Scalars

A scalar gives a primitive a name, and with it a default value and rules.
-/
namespace ModelCatalog

structure Scalar where
  primitive : Primitive
  default : Option Json
  rule : Option Rule
  lengthRule : Option LengthRule

namespace Scalar

def ofFragment (p : Primitive) (f : DeclarationFragment) : Except ModelError Scalar := do
  let rule ← Property.optionally Rule.ofFragment f.rule
  let lengthRule ← Property.optionally Rule.lengthOfFragment f.lengthRule
  return ⟨p, f.default, rule, lengthRule⟩

/-- Do the rules suit the primitive? -/
def checkRules (s : Scalar) : Except DeclarationFault Unit :=
  match s.rule.filter fun r => !r.suits s.primitive, s.lengthRule with
  | some r, _ => .error (.ruleUnsuited r.kindName r.text s.primitive)
  | none, some _ => if s.primitive = .string then .ok () else .error (.lengthUnsuited s.primitive)
  | none, none => .ok ()

/-- What the rules have against a value: the rule first, then the length rule. -/
def fault? (s : Scalar) (j : Json) : Option Expectation :=
  (s.rule.bind (·.fault? j)).or (s.lengthRule.bind (·.fault? j))

/-- Is the default a value of the primitive that the rules accept? -/
def checkDefault (s : Scalar) : Except DeclarationFault Unit :=
  match s.default with
  | none => .ok ()
  | some j =>
    if s.primitive.represents j then
      match s.fault? j with
      | some e => .error (.defaultRejected j e)
      | none => .ok ()
    else .error (.defaultNotValid j s.primitive)

def check (s : Scalar) (v : ValidationSettings) : Except DeclarationFault Unit := do
  if v.checkRules then s.checkRules
  if v.checkDefaults then s.checkDefault

def same (s t : Scalar) : Bool :=
  s.primitive == t.primitive && Property.same.sameOption Json.sameValue s.default t.default
    && Property.same.sameOption Rule.same s.rule t.rule && s.lengthRule == t.lengthRule

end Scalar

end ModelCatalog
