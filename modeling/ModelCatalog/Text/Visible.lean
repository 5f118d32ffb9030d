import ModelCatalog.Unicode.Query

/-! # What can be seen of a text

Names are trimmed of every character that Unicode counts as white space, not of ASCII blanks only. A
message that quotes a text makes every character of it visible: controls, separators, unassigned
code points and marks that would join the character before them are written as escapes.
-/
namespace ModelCatalog.Text

/-- The white space of Unicode. -/
def isBlank (c : Char) : Bool :=
  let code := c.toNat
  (9 ≤ code && code ≤ 13) || code == 0x20 || code == 0x85 || code == 0xA0 || code == 0x1680
    || (0x2000 ≤ code && code ≤ 0x200A) || code == 0x2028 || code == 0x2029 || code == 0x202F
    || code == 0x205F || code == 0x3000

/-- The text without the blanks around it. -/
def trim (s : String) : String :=
  String.ofList ((s.toList.dropWhile isBlank).reverse.dropWhile isBlank).reverse

/-- One character between the quotes. -/
def shownChar (c : Char) : String :=
  if c = '"' then "\\\""
  else if c = '\\' then "\\\\"
  else if c = '\n' then "\\n"
  else if c = '\r' then "\\r"
  else if c = '\t' then "\\t"
  else if c.toNat = 0 then "\\0"
  else if 0x20 ≤ c.toNat ∧ c.toNat < 0x7F then c.toString
  else if Unicode.unseen.has c.toNat then
    "\\u\x7b" ++ String.ofList (Nat.toDigits 16 c.toNat) ++ "\x7d"
  else c.toString

/-- A text in double quotes with every character visible. -/
def shown (s : String) : String := "\"" ++ String.join (s.toList.map shownChar) ++ "\""

end ModelCatalog.Text
