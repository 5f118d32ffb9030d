import ModelCatalog.Unicode.Age
import ModelCatalog.Unicode.Category
import ModelCatalog.Unicode.Folding
import ModelCatalog.Unicode.Property
import ModelCatalog.Unicode.Script
import ModelCatalog.Unicode.Segment

/-! # Asking for a set of characters by name

Names are compared loosely: case, blanks, underscores and hyphens do not count, nor does an `is` in
front.
-/
namespace ModelCatalog.Unicode

/-- The letters that count in a name. `isc` is the name of a property and keeps its `is`. -/
def looseName (name : String) : String :=
  let fold (cs : List Char) : List Char :=
    (cs.filter fun c => c.toNat < 0x80 && c != ' ' && c != '_' && c != '-').map Char.toLower
  match name.toList with
  | a :: b :: rest =>
    if (a = 'i' ∨ a = 'I') ∧ (b = 's' ∨ b = 'S') then
      let kept := fold rest
      String.ofList (if kept = ['c'] then ['i', 's', 'c'] else kept)
    else String.ofList (fold (a :: b :: rest))
  | cs => String.ofList (fold cs)

/-- Three short names are those of categories, although properties share them. -/
def categoryFirst : List String := ["cf", "sc", "lc"]

private def tabulatedProperty (name : String) : CharSet := (property? name).getD .empty

/-- The properties that list what another property has beyond certain categories. -/
def otherProperty? (name : String) : Option CharSet :=
  match name with
  | "oalpha" | "otheralphabetic" =>
    some ((tabulatedProperty "alphabetic").diff
      (uniteCategories ["lu", "ll", "lt", "lm", "lo", "nl"]))
  | "odi" | "otherdefaultignorablecodepoint" =>
    some ((tabulatedProperty "defaultignorablecodepoint").diff
      ((uniteCategories ["cf"]).union (tabulatedProperty "variationselector")))
  | "ogrext" | "othergraphemeextend" =>
    some ((tabulatedProperty "graphemeextend").diff (uniteCategories ["me", "mn"]))
  | "olower" | "otherlowercase" =>
    some ((tabulatedProperty "lowercase").diff (uniteCategories ["ll"]))
  | "omath" | "othermath" => some ((tabulatedProperty "math").diff (uniteCategories ["sm"]))
  | "oupper" | "otheruppercase" =>
    some ((tabulatedProperty "uppercase").diff (uniteCategories ["lu"]))
  | _ => none

/-- A property, a category or a script of that name. -/
def namedSet? (name : String) : Option CharSet :=
  let loose := looseName name
  if loose = "isc" then none
  else if categoryFirst.contains loose then category? loose
  else (((property? loose).or (otherProperty? loose)).or (category? loose)).or (script? loose)

/-- The set that a property has for a value. -/
def valuedSet? (property value : String) : Option CharSet :=
  let value := looseName value
  match looseName property with
  | "gc" | "generalcategory" => category? value
  | "sc" | "script" => script? value
  | "scx" | "scriptextensions" => scriptExtension? value
  | "age" => age? value
  | "gcb" | "graphemeclusterbreak" => graphemeBreak? value
  | "wb" | "wordbreak" => wordBreak? value
  | "sb" | "sentencebreak" => sentenceBreak? value
  | _ => none

/-! ## Classes that programs know by a letter -/

def digits : CharSet := uniteCategories ["nd"]

def blanks : CharSet := tabulatedProperty "whitespace"

/-- Letters, marks, decimal digits, connectors and joiners make up words. -/
def wordCharacters : CharSet :=
  CharSet.unions [tabulatedProperty "alphabetic", tabulatedProperty "joincontrol",
    uniteCategories ["mc", "me", "mn", "nd", "pc"]]

/-! ## Classes of the newest version

The tables of this library are those of version 16.0, and patterns are matched by them. Version 17.0
gave a meaning to code points that had none before. Texts are shown and groups are named by that
version, which takes no more than the characters it added: each set has its ranges as gaps and
lengths. -/

def recentLetters : CharSet := .ofGaps [
  "2191 1 972 1 127 1 39665 2 2 1 1 1 28 1 24910 26 1387 3 50 2 3172 8 584 44 20676 25 2 25",
  "286 5 6145 8 1289 22 97 115 22733 31 1 22 8 2 53306 6 5986 12 21762 4298"]

def recentNumerals : CharSet := .ofGaps [
  "73184 10 21002 3"]

/-- The added characters that stand by themselves and leave something to see. -/
def recentVisible : CharSet := .ofGaps [
  "2191 1 972 1 127 1 5092 1 2772 1 31799 2 2 1 1 1 28 1 21457 16 445 2 54 7 2929 26 1387 3 8",
  "9 3208 1 3 1 1 1 584 44 4 10 20662 25 2 25 286 5 6145 8 1289 22 97 115 16135 3 445 23 15",
  "17 6095 31 1 3 1 2 1 7 2 5 9 2 4056 1 158 4 341 9 379 4 50 1 3 1 57 1 4 1 28 1 4 1 266 1",
  "47935 6 5986 12 21762 4298"]

def alphabetic : CharSet := (tabulatedProperty "alphabetic").union recentLetters

/-- Letters and numerals of all kinds. -/
def alphanumeric : CharSet :=
  CharSet.unions [alphabetic, uniteCategories ["nd", "nl", "no"], recentNumerals]

/-- The categories that leave nothing to see, the plain space aside. -/
def unseenCategories : List String := ["cc", "cf", "co", "zl", "zp", "zs"]

/-- Characters that cannot be seen, or that join the one before them. Two marks of half the usual
width join nothing although they extend what they follow. -/
def unseen : CharSet :=
  (CharSet.unions [uniteCategories unseenCategories,
    (uniteCategories assignedCategories).complement,
    (tabulatedProperty "graphemeextend").diff (.ofRanges [(0xFF9E, 0xFF9F)]),
    tabulatedProperty "defaultignorablecodepoint"]).diff recentVisible

end ModelCatalog.Unicode
