import ModelCatalog.Error
import ModelCatalog.Pattern.Program

/-! # Patterns for texts

A text lives up to a pattern when the pattern matches anywhere in it; anchors make it match the
whole.
-/
namespace ModelCatalog

namespace PatternRule

/-- What a letter among the flags switches on. Unicode is always on, and the others of the letters
that switch nothing only matter where a pattern is matched more than once. -/
def flagOfLetter? : Char → Option (Option Pattern.Flag)
  | 'i' => some (some .ignoreCase)
  | 'm' => some (some .multiLine)
  | 's' => some (some .dotAll)
  | 'u' | 'g' | 'y' => some none
  | _ => none

/-- The flags that a text of letters asks for; the first letter that means nothing is the error. -/
def readFlags (pattern : String) : List Char → Pattern.Flags → Except RuleFault Pattern.Flags
  | [], f => .ok f
  | c :: rest, f =>
    match flagOfLetter? c with
    | some (some flag) => readFlags pattern rest (f.change (flag, true))
    | some none => readFlags pattern rest f
    | none => .error (.unknownFlag c pattern)

/-- The machine that a pattern and its flags stand for. -/
def compile (pattern flags : String) : Except RuleFault Pattern.Machine := do
  let f ← readFlags pattern flags.toList .standard
  match Pattern.compile? pattern f with
  | some m => .ok m
  | none => .error (.badPattern pattern)

end PatternRule

/-- The machine is the one of the pattern, so two rules with one source are one rule. -/
structure PatternRule where
  pattern : String
  flags : String
  machine : Pattern.Machine
  compiled : PatternRule.compile pattern flags = .ok machine

namespace PatternRule

def ofSource (pattern flags : String) : Except RuleFault PatternRule :=
  match h : compile pattern flags with
  | .ok machine => .ok ⟨pattern, flags, machine, h⟩
  | .error e => .error e

theorem ext_source {r s : PatternRule} (hp : r.pattern = s.pattern) (hf : r.flags = s.flags) :
    r = s := by
  obtain ⟨p, f, m, h⟩ := r
  obtain ⟨p', f', m', h'⟩ := s
  cases hp; cases hf
  cases Except.ok.inj (h.symm.trans h')
  rfl

def text (r : PatternRule) : String := "/" ++ r.pattern ++ "/" ++ r.flags

/-- What a value does not live up to, if anything. -/
def fault? (r : PatternRule) : Json → Option Expectation
  | .string s => if r.machine.matches s then none else some (.matching r.text)
  | _ => some .text

def same (r s : PatternRule) : Bool := r.pattern == s.pattern && r.flags == s.flags

end PatternRule

end ModelCatalog
