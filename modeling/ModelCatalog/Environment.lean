/-! # References to the environment

A text may refer to variables. A reference is a dollar sign and, in braces, a name, which a colon
and a fallback may follow; a hyphen right after the colon says nothing. Text put in place of a
reference is not looked at again.
-/
namespace ModelCatalog

/-- What each variable is set to, if it is set. -/
abbrev Environment := String → Option String

namespace Environment

/-- The environment that holds the texts `name=value` one after the other: a variable is set by the
first text that starts with its name and an equals sign. -/
def ofEntries (entries : List (String × String)) : Environment := fun name =>
  let start := (name ++ "=").toList
  entries.findSome? fun (n, v) =>
    let text := (n ++ "=" ++ v).toList
    if start.isPrefixOf text then some (String.ofList (text.drop start.length)) else none

structure Reference where
  name : String
  /-- Stands in for a variable that is not set. -/
  fallback : String
deriving DecidableEq, Repr

namespace Reference

/-- The fallback after a name, and what follows the reference. -/
def fallback? : List Char → Option (List Char × List Char)
  | '\x7d' :: rest => some ([], rest)
  | ':' :: '-' :: cs => closed cs
  | ':' :: cs => closed cs
  | _ => none
where
  /-- The characters before the next closing brace, and those after it. -/
  closed (cs : List Char) : Option (List Char × List Char) :=
    match cs.dropWhile (· ≠ '\x7d') with
    | _ :: rest => some (cs.takeWhile (· ≠ '\x7d'), rest)
    | [] => none

/-- The reference a text starts with, and what follows it. -/
def read? : List Char → Option (Reference × List Char)
  | '$' :: '\x7b' :: cs =>
    match cs.takeWhile fun c => c ≠ ':' && c ≠ '\x7d' with
    | [] => none
    | name => (fallback? (cs.drop name.length)).map fun (text, rest) =>
      (⟨String.ofList name, String.ofList text⟩, rest)
  | _ => none

/-- What a reference stands for. A variable set to nothing stands for nothing. -/
def value (r : Reference) (env : Environment) : String := (env r.name).getD r.fallback

theorem closed_length {cs text rest : List Char} (h : fallback?.closed cs = some (text, rest)) :
    rest.length < cs.length := by
  unfold fallback?.closed at h
  have suffix := (List.dropWhile_suffix (l := cs) (· ≠ '\x7d')).length_le
  split at h
  next e =>
    obtain ⟨-, rfl⟩ := Prod.mk.inj (Option.some.inj h)
    rw [e, List.length_cons] at suffix
    exact suffix
  next => cases h

theorem fallback?_length {cs text rest : List Char} (h : fallback? cs = some (text, rest)) :
    rest.length < cs.length := by
  unfold fallback? at h
  split at h
  next =>
    obtain ⟨-, rfl⟩ := Prod.mk.inj (Option.some.inj h)
    exact Nat.lt_succ_self _
  next => exact Nat.lt_succ_of_lt (Nat.lt_succ_of_lt (closed_length h))
  next => exact Nat.lt_succ_of_lt (closed_length h)
  next => cases h

/-- A reference takes characters from the text it starts. -/
theorem read?_length {cs rest : List Char} {r : Reference} (h : read? cs = some (r, rest)) :
    rest.length < cs.length := by
  unfold read? at h
  split at h
  next =>
    split at h
    next => cases h
    next name _ =>
      obtain ⟨⟨text, tail⟩, found, same⟩ := Option.map_eq_some_iff.1 h
      obtain ⟨-, rfl⟩ := Prod.mk.inj same
      have shorter := fallback?_length found
      rw [List.length_drop] at shorter
      exact Nat.lt_succ_of_lt (Nat.lt_succ_of_lt (Nat.lt_of_lt_of_le shorter (Nat.sub_le ..)))
  next => cases h

end Reference

/-- The first reference of a text decides where the next one may start. -/
def expandChars (env : Environment) : List Char → List Char
  | [] => []
  | c :: cs =>
    match _h : Reference.read? (c :: cs) with
    | some (r, rest) => (r.value env).toList ++ expandChars env rest
    | none => c :: expandChars env cs
termination_by cs => cs.length
decreasing_by
  · exact Reference.read?_length _h
  · simp

/-- Puts what they stand for in place of the references of a text. -/
def expand (env : Environment) (text : String) : String :=
  String.ofList (expandChars env text.toList)

/-- The names a text refers to, in order. -/
def namesIn : List Char → List String
  | [] => []
  | c :: cs =>
    match _h : Reference.read? (c :: cs) with
    | some (r, rest) => r.name :: namesIn rest
    | none => namesIn cs
termination_by cs => cs.length
decreasing_by
  · exact Reference.read?_length _h
  · simp

end Environment

end ModelCatalog
