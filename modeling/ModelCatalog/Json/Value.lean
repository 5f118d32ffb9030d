import ModelCatalog.Number.Binary64

/-! # Data values

Trees of data as model files write them. Members keep the order in which they were written, and a
number remembers whether it was written as an integer, since only an integer is a whole-number
default.
-/
namespace ModelCatalog

/-- Integers are those that fit 64 bits, signed or unsigned; every other number is floating. -/
inductive Number where
  | integer (i : Int)
  | float (x : Binary64)
deriving DecidableEq, Repr

namespace Number

/-- The double a number is compared through. -/
def toBinary64 : Number → Binary64
  | integer i => .ofInt i
  | float x => x

/-- Integers and floating numbers never agree as data, even where their values do. -/
def sameValue : Number → Number → Bool
  | integer i, integer j => i == j
  | float x, float y => x.sameValue y
  | _, _ => false

end Number

/-- The readers keep one member per name. -/
inductive Json where
  | null
  | bool (b : Bool)
  | number (n : Number)
  | string (s : String)
  | array (items : List Json)
  | object (members : List (String × Json))

namespace Json

instance : Inhabited Json := ⟨.null⟩

def string? : Json → Option String
  | string s => some s
  | _ => none

/-- The member of that name; a value without members has none. -/
def member? (name : String) : Json → Option Json
  | object members => members.lookup name
  | _ => none

/-- The text of a member, where it is a text. -/
def text? (name : String) (j : Json) : Option String := (j.member? name).bind string?

mutual

/-- Agreement as data: members are compared by name, whatever their order. -/
def sameValue : Json → Json → Bool
  | null, null => true
  | bool a, bool b => a == b
  | number a, number b => a.sameValue b
  | string a, string b => a == b
  | array a, array b => sameItems a b
  | object a, object b => a.length == b.length && sameMembers a b
  | _, _ => false

def sameItems : List Json → List Json → Bool
  | [], [] => true
  | a :: as, b :: bs => a.sameValue b && sameItems as bs
  | _, _ => false

def sameMembers : List (String × Json) → List (String × Json) → Bool
  | [], _ => true
  | (name, a) :: rest, other =>
    (match other.lookup name with
      | some b => a.sameValue b
      | none => false) && sameMembers rest other

end

end Json

end ModelCatalog
