/-! # Timestamps

The texts that name an instant: a date of the calendar, a time of day with an optional fraction, and
the distance from universal time. A minute may have sixty-one seconds.
-/
namespace ModelCatalog.Text.Timestamp

def digit? (c : Char) : Option Nat := if c.isDigit then some (c.toNat - 48) else none

/-- Exactly two digits. -/
def twoDigits? : List Char → Option (Nat × List Char)
  | a :: b :: rest => do return (10 * (← digit? a) + (← digit? b), rest)
  | _ => none

def fourDigits? (cs : List Char) : Option (Nat × List Char) := do
  let (high, cs) ← twoDigits? cs
  let (low, cs) ← twoDigits? cs
  return (100 * high + low, cs)

/-- The rest of the text after a character that must come first. -/
def skip? (ok : Char → Bool) : List Char → Option (List Char)
  | c :: rest => if ok c then some rest else none
  | [] => none

def isLeapYear (y : Nat) : Bool := y % 4 == 0 && (y % 100 != 0 || y % 400 == 0)

def daysIn (year month : Nat) : Nat :=
  if month = 2 then (if isLeapYear year then 29 else 28)
  else if month = 4 ∨ month = 6 ∨ month = 9 ∨ month = 11 then 30
  else 31

/-- `YYYY-MM-DD`, a day that the calendar has. -/
def date? (cs : List Char) : Option (List Char) := do
  let (year, cs) ← fourDigits? cs
  let cs ← skip? (· = '-') cs
  let (month, cs) ← twoDigits? cs
  let cs ← skip? (· = '-') cs
  let (day, cs) ← twoDigits? cs
  if 1 ≤ month ∧ month ≤ 12 ∧ 1 ≤ day ∧ day ≤ daysIn year month then some cs else none

/-- A point must be followed by a digit at least. -/
def fraction? : List Char → Option (List Char)
  | '.' :: c :: rest => if c.isDigit then some (rest.dropWhile Char.isDigit) else none
  | '.' :: [] => none
  | cs => some cs

/-- `hh:mm:ss` -/
def time? (cs : List Char) : Option (List Char) := do
  let (hour, cs) ← twoDigits? cs
  let cs ← skip? (· = ':') cs
  let (minute, cs) ← twoDigits? cs
  let cs ← skip? (· = ':') cs
  let (second, cs) ← twoDigits? cs
  if hour < 24 ∧ minute < 60 ∧ second ≤ 60 then fraction? cs else none

/-- `Z`, or a sign with hours and minutes. The minus sign of typography counts as one. -/
def offset? : List Char → Option (List Char)
  | 'Z' :: rest | 'z' :: rest => some rest
  | cs => do
    let cs ← skip? (fun c => c = '+' || c = '-' || c = '\u2212') cs
    let (hours, cs) ← twoDigits? cs
    let cs ← skip? (· = ':') cs
    let (minutes, cs) ← twoDigits? cs
    if hours < 24 ∧ minutes < 60 then some cs else none

def rest? (s : String) : Option (List Char) := do
  let cs ← date? s.toList
  let cs ← skip? (fun c => c = 'T' || c = 't' || c = ' ') cs
  let cs ← time? cs
  offset? cs

end Timestamp

def isTimestamp (s : String) : Bool := Timestamp.rest? s == some []

end ModelCatalog.Text
