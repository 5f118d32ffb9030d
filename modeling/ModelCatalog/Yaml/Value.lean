import ModelCatalog.Yaml.Scalar

/-! # Data values written in YAML

A mapping becomes an object: its keys are scalars, taken as they are written, and a key that is
repeated keeps its first place and takes the last value. Collections may nest 128 deep.
-/
namespace ModelCatalog.Yaml.Document

/-- Follows a reference, and counts how many were followed. -/
def visit (d : Document) (n : Node) : StateT Nat Option Node := do
  if let .reference _ := n then
    modify (· + 1)
    if d.referenceLimit < (← get) then failure
  (d.follow n : Option Node)

def keyText (d : Document) (n : Node) : StateT Nat Option String := do
  match ← d.visit n with
  | .scalar _ _ _ text => return text
  | _ => failure

/-- The value of a node in which collections may nest so deep. -/
def valueWithin (d : Document) : Nat → Node → StateT Nat Option Json
  | 0, n => do
    match ← d.visit n with
    | .scalar _ tag style text => (Scalar.value? tag style text : Option Json)
    | _ => failure
  | room + 1, n => do
    match ← d.visit n with
    | .scalar _ tag style text => (Scalar.value? tag style text : Option Json)
    | .sequence _ tag items =>
      if Scalar.isLocal tag then failure
      return .array (← items.mapM (valueWithin d room))
    | .mapping _ tag entries =>
      if Scalar.isLocal tag then failure
      let members ← entries.mapM fun (k, v) => do
        return (← d.keyText k, ← valueWithin d room v)
      return .object (members.foldl (fun ms (name, v) => Json.setMember name v ms) [])
    | .reference _ => failure

end Document

/-- The value that a YAML text stands for. -/
def value? (text : String) : Option Json := do
  let d ← Document.ofText? text
  ((d.valueWithin 128 d.root).run 0).map (·.1)

end ModelCatalog.Yaml
