import ModelCatalog.Yaml.Node

/-! # What scalars mean

A plain scalar may be a null, a boolean or a number; what is none of these is a text. A tag can say
which of them a scalar is meant to be.
-/
namespace ModelCatalog.Yaml.Scalar

def isNull (s : String) : Bool := ["~", "null", "Null", "NULL"].contains s

def bool? : String → Option Bool
  | "true" | "True" | "TRUE" => some true
  | "false" | "False" | "FALSE" => some false
  | _ => none

/-! ## Numbers -/

def ofDigits? (base : Nat) (cs : List Char) : Option Nat := do
  if cs.isEmpty then failure
  let digits ← cs.mapM Json.Reader.hexDigit?
  if digits.all (· < base) then return digits.foldl (fun n d => base * n + d) 0 else failure

/-- Decimal digits that start with a zero and go on are no number. -/
def isPadded : List Char → Bool
  | '0' :: c :: cs => (c :: cs).all Char.isDigit
  | _ => false

/-- Digits, in a base that may be given before them. -/
def magnitude? : List Char → Option Nat
  | '0' :: 'x' :: cs => ofDigits? 16 cs
  | '0' :: 'o' :: cs => ofDigits? 8 cs
  | '0' :: 'b' :: cs => ofDigits? 2 cs
  | cs => if isPadded cs then none else ofDigits? 10 cs

def withoutPlus : List Char → List Char
  | '+' :: cs => cs
  | cs => cs

/-- A number without a minus. -/
def natural? (s : String) : Option Nat := magnitude? (withoutPlus s.toList)

/-- A number with a minus, as its magnitude. -/
def negative? (s : String) : Option Nat :=
  match s.toList with
  | '-' :: cs => magnitude? cs
  | _ => none

/-- A decimal number with digits before or after its point, and perhaps an exponent; none beyond
the largest double. -/
def decimal? (negative : Bool) (cs : List Char) : Option Binary64 := do
  let whole := cs.takeWhile Char.isDigit
  let (fraction, rest) := match cs.drop whole.length with
    | '.' :: rest => (rest.takeWhile Char.isDigit, rest.dropWhile Char.isDigit)
    | rest => ([], rest)
  let (exponent, rest) ← Json.Reader.exponentPart rest
  if (whole.isEmpty && fraction.isEmpty) || !rest.isEmpty then failure
  Binary64.ofDecimal negative (Json.Reader.natOfDigits (whole ++ fraction))
    (exponent.getD 0 - fraction.length)

/-- A floating number. Infinities and what is not a number are values too. -/
def double? (s : String) : Option Double :=
  match s.toList with
  | '-' :: cs => read true cs
  | '+' :: cs => read false cs
  | cs => if [".nan", ".NaN", ".NAN"].contains s then some .notANumber else read false cs
where
  read (negative : Bool) (cs : List Char) : Option Double :=
    if [".inf", ".Inf", ".INF"].contains (String.ofList cs) then some (.infinite negative)
    else (decimal? negative cs).map .finite

/-! ## Values -/

/-- Data values hold finite numbers only. -/
def ofDouble : Double → Json
  | .finite x => .number (.float x)
  | _ => .null

/-- What an integer stands for, where a text is one. One of 64 bits is a value, and beyond 128 bits
it is no integer; those in between have no value. -/
def integer? (s : String) : Option (Option Json) :=
  match natural? s, negative? s with
  | some n, _ =>
    if Width.holds 64 n then some (some (.number (.integer n)))
    else if Width.holds 128 n then some none else none
  | none, some n =>
    if Width.holdsSigned 64 (-n) then some (some (.number (.integer (-n))))
    else if Width.holdsSigned 128 (-n) then some none else none
  | none, none => none

def withoutSign : List Char → List Char
  | '-' :: cs => cs
  | cs => withoutPlus cs

/-- The value of a plain scalar. -/
def plainValue? (s : String) : Option Json :=
  if s.isEmpty || isNull s then some .null
  else match bool? s, integer? s with
    | some b, _ => some (.bool b)
    | none, some i => i
    | none, none =>
      match if isPadded (withoutSign s.toList) then none else double? s with
      | some x => some (ofDouble x)
      | none => some (.string s)

def coreTag (name : String) : String := "tag:yaml.org,2002:" ++ name

/-- Is the tag one that only the program that wrote it knows? Such values are not read. -/
def isLocal (tag : Option String) : Bool := tag.any (·.startsWith "!")

/-- The value of a scalar. -/
def value? (tag : Option String) (style : Style) (s : String) : Option Json :=
  if isLocal tag then none
  else if tag = some (coreTag "bool") then (bool? s).map .bool
  else if tag = some (coreTag "int") then (integer? s).join
  else if tag = some (coreTag "float") then (double? s).map ofDouble
  else if tag = some (coreTag "null") then if isNull s then some .null else none
  else if tag.isNone && style = .plain then plainValue? s
  else some (.string s)

end ModelCatalog.Yaml.Scalar
