import ModelCatalog.Proofs.Records
import Mathlib.Data.Option.Basic

/-! # Trees that differ in presentation only

Two model trees are alike where they say the same in different ways: the namespaces before class
names, the order of members, members that mean nothing, and null for what is left out. Everything
else must be the same, default values to the letter.

A fragment is compared entry by entry, and a table says how each of them is.
-/
namespace ModelCatalog

/-- How the values of an entry are compared, where it may be missing from either side. -/
structure Comparison where
  holds : Option Json → Option Json → Prop
  refl : ∀ o, holds o o

namespace Comparison

/-- Where null stands for absence. -/
def given : Option Json → Option Json
  | some .null => none
  | o => o

theorem optionRel_refl {α : Type} {like : α → α → Prop} (h : ∀ a, like a a) (o : Option α) :
    Option.Rel like o o := by
  cases o with
  | none => exact .none
  | some a => exact .some (h a)

/-- Both are absent, or both are there and alike. -/
def whole (like : Json → Json → Prop) (h : ∀ j, like j j) : Comparison :=
  ⟨Option.Rel like, optionRel_refl h⟩

/-- Both are absent or null, or both are there and alike. -/
def nullable (like : Json → Json → Prop) (h : ∀ j, like j j) : Comparison :=
  ⟨fun a b => Option.Rel like (given a) (given b), fun o => optionRel_refl h (given o)⟩

/-- The same value, which must be there on both sides or on neither. -/
def exact : Comparison := whole Eq fun _ => rfl

/-- The same value, which may be absent or null. -/
def exactOrNull : Comparison := nullable Eq fun _ => rfl

end Comparison

/-- Names of classes, each with any namespace before it or none. -/
def SameClass (s t : String) : Prop := Qualified.lastPart s = Qualified.lastPart t

inductive ClassNameLike : Json → Json → Prop
  | same (j : Json) : ClassNameLike j j
  | text {s t : String} (h : SameClass s t) : ClassNameLike (.string s) (.string t)

/-- Lists are alike item by item. -/
inductive ListLike (like : Json → Json → Prop) : Json → Json → Prop
  | same (j : Json) : ListLike like j j
  | array {k l : List Json} (h : List.Forall₂ like k l) : ListLike like (.array k) (.array l)

/-- Objects are compared by name, and what stands under other names does not count; arrays are
compared by position. -/
inductive RecordLike (table : List (String × Comparison)) : Json → Json → Prop
  | same (j : Json) : RecordLike table j j
  | object {m n : List (String × Json)} (hm : (m.map (·.1)).Nodup) (hn : (n.map (·.1)).Nodup)
      (h : ∀ row ∈ table, row.2.holds (m.lookup row.1) (n.lookup row.1)) :
      RecordLike table (.object m) (.object n)
  | array {k l : List Json} (hlength : k.length = l.length)
      (h : ∀ (i : Nat) (row : String × Comparison),
        table[i]? = some row → row.2.holds k[i]? l[i]?) :
      RecordLike table (.array k) (.array l)

/-! ## What counts as presentation -/
namespace RecordLike

variable {table : List (String × Comparison)} {m n : List (String × Json)} {name : String}
  {j : Json}

/-- The order of members does not count. -/
theorem of_perm (hm : (m.map (·.1)).Nodup) (h : m.Perm n) :
    RecordLike table (.object m) (.object n) := by
  have hn : (n.map (·.1)).Nodup := (h.map _).nodup hm
  refine .object hm hn fun row _ => ?_
  have hlookup : m.lookup row.1 = n.lookup row.1 := by
    refine Option.ext fun j => ⟨fun hj => ?_, fun hj => ?_⟩
    · exact lookup_of_mem hn (h.mem_iff.mp (mem_of_lookup hj))
    · exact lookup_of_mem hm (h.mem_iff.mpr (mem_of_lookup hj))
  rw [hlookup]
  exact row.2.refl _

/-- Neither does a member that was not there before, where its name means nothing or it is null and
may be. -/
theorem with_member (hm : (((name, j) :: m).map (·.1)).Nodup)
    (hname : ∀ row ∈ table, row.1 = name → row.2.holds none (some j)) :
    RecordLike table (.object m) (.object ((name, j) :: m)) := by
  refine .object hm.of_cons hm fun row hrow => ?_
  by_cases h : row.1 = name
  · have hnone : m.lookup row.1 = none := by
      refine List.lookup_eq_none_iff.mpr fun member hmember => bne_iff_ne.mpr fun heq => ?_
      have hkey := List.mem_map_of_mem (f := (·.1)) hmember
      rw [← heq, h] at hkey
      exact (List.nodup_cons.mp hm).1 hkey
    have hsome : ((name, j) :: m).lookup row.1 = some j := by simp [h]
    rw [hnone, hsome]
    exact hname row hrow h
  · have hlookup : ((name, j) :: m).lookup row.1 = m.lookup row.1 := by
      simp [List.lookup_cons, beq_eq_false_iff_ne.mpr h]
    rw [hlookup]
    exact row.2.refl _

/-- A member may be written as another that compares with it. -/
theorem with_value {before after : List (String × Json)} {k : Json}
    (hm : ((before ++ (name, j) :: after).map (·.1)).Nodup)
    (hname : ∀ row ∈ table, row.1 = name → row.2.holds (some j) (some k)) :
    RecordLike table (.object (before ++ (name, j) :: after))
      (.object (before ++ (name, k) :: after)) := by
  refine .object hm (by simpa using hm) fun row hrow => ?_
  by_cases h : row.1 = name
  · have hbefore : before.lookup row.1 = none := by
      refine List.lookup_eq_none_iff.mpr fun member hmember => bne_iff_ne.mpr fun heq => ?_
      rw [List.map_append, List.nodup_append] at hm
      exact hm.2.2 _ (List.mem_map_of_mem hmember) name (by simp) (heq.symm.trans h)
    have hlookup (i : Json) : (before ++ (name, i) :: after).lookup row.1 = some i := by
      rw [List.lookup_append, hbefore]
      simp [h]
    rw [hlookup j, hlookup k]
    exact hname row hrow h
  · have hlookup (i : Json) :
        (before ++ (name, i) :: after).lookup row.1 = (before ++ after).lookup row.1 := by
      simp [List.lookup_append, List.lookup_cons, beq_eq_false_iff_ne.mpr h]
    rw [hlookup j, hlookup k]
    exact row.2.refl _

end RecordLike

/-! ## The tables -/

def TypeFragment.table : List (String × Comparison) :=
  [("name", .exact), ("namespace", .exactOrNull)]

def TypeFragment.Alike : Json → Json → Prop := RecordLike TypeFragment.table

def IdentifiedFragment.table : List (String × Comparison) :=
  [("$class", .whole ClassNameLike .same), ("name", .exactOrNull)]

def IdentifiedFragment.Alike : Json → Json → Prop := RecordLike IdentifiedFragment.table

def RuleFragment.table : List (String × Comparison) :=
  [("$class", .nullable ClassNameLike .same), ("pattern", .exactOrNull), ("flags", .exactOrNull),
    ("lower", .exactOrNull), ("upper", .exactOrNull), ("minLength", .exactOrNull),
    ("maxLength", .exactOrNull)]

def RuleFragment.Alike : Json → Json → Prop := RecordLike RuleFragment.table

/-- A flag that is left out is off, yet null is no flag. -/
def PropertyFragment.table : List (String × Comparison) :=
  [("$class", .whole ClassNameLike .same), ("name", .exact), ("isArray", .exact),
    ("isOptional", .exact), ("type", .nullable TypeFragment.Alike .same),
    ("defaultValue", .exactOrNull), ("validator", .nullable RuleFragment.Alike .same),
    ("lengthValidator", .nullable RuleFragment.Alike .same)]

def PropertyFragment.Alike : Json → Json → Prop := RecordLike PropertyFragment.table

def DeclarationFragment.table : List (String × Comparison) :=
  [("$class", .whole ClassNameLike .same), ("name", .exact), ("isAbstract", .exact),
    ("superType", .nullable TypeFragment.Alike .same),
    ("identified", .nullable IdentifiedFragment.Alike .same),
    ("properties", .whole (ListLike PropertyFragment.Alike) .same), ("defaultValue", .exactOrNull),
    ("validator", .nullable RuleFragment.Alike .same),
    ("lengthValidator", .nullable RuleFragment.Alike .same)]

def DeclarationFragment.Alike : Json → Json → Prop := RecordLike DeclarationFragment.table

def ImportFragment.table : List (String × Comparison) :=
  [("$class", .whole ClassNameLike .same), ("namespace", .exact), ("name", .exactOrNull),
    ("types", .exact)]

def ImportFragment.Alike : Json → Json → Prop := RecordLike ImportFragment.table

def ModelFragment.table : List (String × Comparison) :=
  [("$class", .nullable ClassNameLike .same), ("namespace", .exact),
    ("imports", .whole (ListLike ImportFragment.Alike) .same),
    ("declarations", .whole (ListLike DeclarationFragment.Alike) .same)]

/-- Two model trees that differ in presentation only, at any depth but not inside of default
values. -/
def ModelFragment.Alike : Json → Json → Prop := RecordLike ModelFragment.table

end ModelCatalog
