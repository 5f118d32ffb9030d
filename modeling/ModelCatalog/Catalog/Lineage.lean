import ModelCatalog.Catalog.Basic

/-! # Lineage

A class has at most one super type, so its ancestors form a chain. No chain of distinct
declarations is longer than the catalog, and a name met twice is a circle.
-/
namespace ModelCatalog

namespace Catalog

/-- The super type of a declaration; that it is missing is told of the declaration. -/
def superType? (c : Catalog) (d : Declaration) : Except ModelError (Option Declaration) :=
  match d.superType? with
  | none => .ok none
  | some t => do
    let s ← c.scope d
    ((s.resolve t).mapError (.referredTo t.text (.superTypeOf d.qualifiedName))).map some

/-- Climbs from a declaration. `path` has the names met so far, from the `root` of the climb on, and
`room` is how many ancestors may still be found. -/
def climb (c : Catalog) (maxDepth : Option Nat) (root : String) :
    Nat → List String → Declaration → Except ModelError (List Declaration)
  | room, path, d => do
    match ← c.superType? d with
    | none => return []
    | some parent =>
      let name := parent.qualifiedName
      if path.contains name then .error (.circularInheritance root (path ++ [name]))
      else match room with
        | 0 => .error (.circularInheritance root (path ++ [name]))
        | room + 1 =>
          match maxDepth.filter (· < path.length) with
          | some n => .error (.illegalDeclaration root (.chainTooDeep n))
          | none => return parent :: (← c.climb maxDepth root room (path ++ [name]) parent)

/-- The super types of a declaration, the nearest first. -/
def ancestors (c : Catalog) (maxDepth : Option Nat) (d : Declaration) :
    Except ModelError (List Declaration) :=
  c.climb maxDepth d.qualifiedName c.count [d.qualifiedName] d

/-- The names of a declaration and its super types, the nearest first. -/
def chain (c : Catalog) (d : Declaration) : Except ModelError (List String) := do
  return d.qualifiedName :: (← c.ancestors none d).map (·.qualifiedName)

/-- Is the declaration, or one of its super types, the one of that name? -/
def isSubclass (c : Catalog) (d : Declaration) (name : String) : Except ModelError Bool := do
  return (← c.chain d).contains name

/-- Does the class or one of its super types say how instances are identified? -/
def isIdentified (c : Catalog) (d : Declaration) : Except ModelError Bool := do
  if d.identifier?.isSome then return true
  return (← c.ancestors none d).any (·.identifier?.isSome)

/-- The nearest declaration of a list that declares the property, with the property. -/
def nearest? (lineage : List Declaration) (name : String) : Option (Declaration × Property) :=
  lineage.findSome? fun d => (d.property? name).map fun p => (d, p)

/-- A property declared by a class or inherited by it. -/
def property? (c : Catalog) (d : Declaration) (name : String) :
    Except ModelError (Option Property) :=
  match d.property? name with
  | some p => .ok (some p)
  | none => do return (nearest? (← c.ancestors none d) name).map (·.2)

/-- Puts a property in the place of the one it overrides, or at the end. -/
def mergeOne (merged : List (Declaration × Property)) (owner : Declaration) (p : Property) :
    List (Declaration × Property) :=
  if merged.any (·.2.name = p.name) then
    merged.map fun entry => if entry.2.name = p.name then (owner, p) else entry
  else merged ++ [(owner, p)]

/-- The properties of a lineage that starts at its root, each with the class that declares it. -/
def merge (lineage : List Declaration) : List (Declaration × Property) :=
  lineage.foldl (fun merged d => d.properties.foldl (fun m p => mergeOne m d p) merged) []

/-- The properties of a class and its super types, the root's first. -/
def mergedProperties (c : Catalog) (maxDepth : Option Nat) (d : Declaration) :
    Except ModelError (List (Declaration × Property)) := do
  return merge ((← c.ancestors maxDepth d).reverse ++ [d])

/-- The same without saying who declares them. -/
def allProperties (c : Catalog) (d : Declaration) : Except ModelError (List Property) :=
  (c.mergedProperties none d).map fun merged => merged.map (·.2)

end Catalog

end ModelCatalog
