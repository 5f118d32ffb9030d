import ModelCatalog.Declaration

/-! # Scopes

What a property has to know of the declaration it belongs to: its name, and what the names of types
mean where it stands. By that it is unboxed and checked: a property typed by a scalar behaves as one
of the scalar's primitive that has the scalar's default and rules wherever it has none of its own.
-/
namespace ModelCatalog

structure Scope where
  /-- The qualified name of the declaration. -/
  owner : String
  /-- The qualified name that a type name stands for. -/
  qualify : TypeName → Except ModelError String
  /-- The declaration that a type name stands for. -/
  resolve : TypeName → Except ModelError Declaration

namespace Property

/-! ## Unboxing -/

/-- The property with the scalar's primitive. A scalar's default is one value, so an array does not
take it over. -/
def typedBy (p : Property) (s : Scalar) : Property :=
  { p with
    type := .primitive s.primitive
    default := p.default.or (if p.isArray then none else s.default)
    rule := p.rule.or s.rule
    lengthRule := p.lengthRule.or s.lengthRule }

/-- A property whose type names nothing stays as it is, so unboxing twice is unboxing once. -/
def unbox (p : Property) (target : Declaration) : Except ModelError Property :=
  match p.type, target.scalar? with
  | .primitive _, _ | .enumValue, _ => .ok p
  | .object _, none | .relationship _, none =>
    .error (illegal p.name (.unboxOther target.qualifiedName target.kindName))
  | .relationship _, some _ => .error (illegal p.name (.unboxKind p.kind.name target.qualifiedName))
  | .object _, some s => .ok (p.typedBy s)

/-! ## Types -/

/-- The qualified name of the type. A value of an enumeration has the enumeration for its type. -/
def qualifiedType (p : Property) (s : Scope) : Except ModelError String :=
  match p.type with
  | .primitive q => .ok q.name
  | .object t | .relationship t => s.qualify t
  | .enumValue => .ok s.owner

/-- The declaration a property is typed by; that it is missing is told of the property. -/
def target (p : Property) (s : Scope) (t : TypeName) : Except ModelError Declaration :=
  (s.resolve t).mapError (.referredTo t.text (.typeOf p.name s.owner))

/-- The property as it behaves: unboxed where it is typed by a scalar. -/
def effective (p : Property) (s : Scope) : Except ModelError Property :=
  match p.type with
  | .primitive _ | .enumValue => .ok p
  | .object t | .relationship t => do
    let d ← p.target s t
    if d.isScalar then p.unbox d else .ok p

/-- The property with the qualified name of its type. -/
def describe (p : Property) (s : Scope) : Except ModelError String :=
  (p.qualifiedType s).map p.render

/-! ## Checking a property -/

/-- Do the rules suit the primitive? -/
def checkRules (p : Property) (q : Primitive) : Except PropertyFault Unit :=
  match p.rule.filter fun r => !r.suits q, p.lengthRule with
  | some r, _ => .error (.ruleUnsuited r.kindName r.text q)
  | none, some _ => if q = .string then .ok () else .error (.lengthUnsuited q)
  | none, none => .ok ()

/-- Is the default a value of the primitive that the rules accept? An array has none. -/
def checkDefault (p : Property) (q : Primitive) : Except PropertyFault Unit :=
  match p.default with
  | none => .ok ()
  | some j =>
    if p.isArray then .error .defaultOfArray
    else if q.represents j then
      match p.checkOne j with
      | .error failure => .error (.defaultRejected j failure.expected)
      | .ok () => .ok ()
    else .error (.defaultNotValid j q)

def checkPrimitive (p : Property) (q : Primitive) (v : ValidationSettings) :
    Except PropertyFault Unit := do
  if v.checkRules then p.checkRules q
  if v.checkDefaults then p.checkDefault q

/-- A relationship refers to a class, and has neither default nor rules. -/
def checkRelationship (p : Property) (target : Declaration) : Except PropertyFault Unit :=
  if !target.isClass then .error (.relationshipTarget target.qualifiedName target.kindName)
  else if p.default.isSome then .error .relationshipDefault
  else if p.hasRules then .error .relationshipRules
  else .ok ()

/-- A field typed by a class has no default; one typed by an enumeration may default to one of its
values. -/
def checkNamedDefault (p : Property) (target : Declaration) : Except PropertyFault Unit :=
  match p.default with
  | none => .ok ()
  | some j =>
    if !target.isEnum then .error (.defaultUnsupported target.qualifiedName)
    else if (j.string?.bind target.property?).isSome then .ok ()
    else .error (.defaultNotInEnum j target.qualifiedName)

/-- A field typed by a class or an enumeration takes no rules. -/
def checkNamed (p : Property) (target : Declaration) (v : ValidationSettings) :
    Except PropertyFault Unit := do
  if v.checkRules && p.hasRules then .error (.rulesUnsupported target.qualifiedName)
  if v.checkDefaults then p.checkNamedDefault target

/-- Does the type exist, and do default and rules suit it? -/
def check (p : Property) (s : Scope) (v : ValidationSettings) : Except ModelError Unit :=
  let inOwner (e : Except PropertyFault Unit) : Except ModelError Unit :=
    e.mapError (.illegalProperty p.name (some s.owner))
  match p.type with
  | .enumValue => .ok ()
  | .primitive q => inOwner (p.checkPrimitive q v)
  | .relationship t => do
    let d ← p.target s t
    inOwner (p.checkRelationship d)
  | .object t => do
    let d ← p.target s t
    match d.scalar? with
    | some scalar => inOwner ((p.typedBy scalar).checkPrimitive scalar.primitive v)
    | none => inOwner (p.checkNamed d v)

end Property

end ModelCatalog
