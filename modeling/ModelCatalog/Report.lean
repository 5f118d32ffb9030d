import ModelCatalog.Json.Printer
import ModelCatalog.LinkedModel

/-! # Reports on linked models

What a linked model holds, declaration by declaration, either for people or as a data value.
-/
namespace ModelCatalog

/-- What a report calls the kind of a declaration. -/
def Declaration.label (d : Declaration) : String :=
  match d.body with
  | .ofClass c => c.kind.name
  | .ofEnum _ => "Enum"
  | .ofScalar s => s.primitive.name ++ " scalar"

namespace LinkedModel

/-- The qualified name of the super type. -/
def superTypeName? (m : LinkedModel) (d : LinkedDeclaration) : Option String :=
  (d.superType.bind m.get?).map (·.qualifiedName)

/-- A line for the declaration and one for each of its properties. -/
def declarationLines (m : LinkedModel) (d : LinkedDeclaration) : List String :=
  let extended := match m.superTypeName? d with
    | some name => " extends " ++ name
    | none => ""
  ("✓ " ++ d.qualifiedName ++ " (" ++ d.declaration.label ++ ")" ++ extended)
    :: d.properties.map fun p => "    " ++ p.text

def reportLines (m : LinkedModel) : List String :=
  m.declarations.flatMap m.declarationLines ++ [toString m.size ++ " declarations valid"]

def declarationJson (m : LinkedModel) (d : LinkedDeclaration) : Json :=
  .object [("name", .string d.qualifiedName), ("kind", .string d.declaration.label),
    ("abstract", .bool d.declaration.isAbstract),
    ("superType", ((m.superTypeName? d).map Json.string).getD .null),
    ("properties", .array (d.properties.map fun p => .string p.text))]

def reportJson (m : LinkedModel) : Json := .array (m.declarations.map m.declarationJson)

end LinkedModel

inductive ReportFormat where
  | pretty
  | json
deriving DecidableEq, Repr

/-- The text of a report, which ends its last line. -/
def LinkedModel.report (m : LinkedModel) : ReportFormat → String
  | .pretty => String.join (m.reportLines.map (· ++ "\n"))
  | .json => m.reportJson.indented ++ "\n"

end ModelCatalog
