import ModelCatalog.Proofs.Fit
import ModelCatalog.Proofs.Member

/-! # Overrides

What a property behaves as, and when one may take the place of another. A class is compared with the
nearest declaration of the name above it only; since agreement is transitive, this settles all that
are farther up.
-/
namespace ModelCatalog

theorem Primitive.name_injective : Function.Injective Primitive.name := by
  intro q r h
  cases q <;> cases r <;> first | rfl | simp [Primitive.name] at h

/-- A qualified name has a dot, and the name of a primitive has none. -/
theorem Qualified.join_ne_primitive {ns name : String} {q : Primitive} : join ns name ≠ q.name := by
  intro h
  have hdot : '.' ∈ (join ns name).toList := by simp [join]
  rw [h] at hdot
  cases q <;> simp [Primitive.name] at hdot

namespace Property

/-- The ways in which a property comes to behave: as written, or unboxed. -/
inductive Effective (s : Scope) (p : Property) : Property → Prop
  | plain : p.type.named? = none → Effective s p p
  | named {t : TypeName} {e : Declaration} :
    p.type.named? = some t → s.resolve t = .ok e → e.scalar? = none → Effective s p p
  | unboxed {t : TypeName} {e : Declaration} {scalar : Scalar} :
    p.type = .object t → s.resolve t = .ok e → e.scalar? = some scalar →
    Effective s p (p.typedBy scalar)

variable {s : Scope} {p p' : Property}

theorem effective_of_plain (h : p.type.named? = none) : p.effective s = .ok p := by
  unfold effective
  split <;> simp_all [PropertyType.named?]

theorem effective_of_named {t : TypeName} (h : p.type.named? = some t) :
    p.effective s = p.target s t >>= fun d => if d.isScalar then p.unbox d else .ok p := by
  unfold effective
  split <;> simp_all [PropertyType.named?]

theorem effective_ok_iff : p.effective s = .ok p' ↔ p.Effective s p' := by
  constructor
  · intro h
    cases hn : p.type.named? with
    | none =>
      rw [effective_of_plain hn] at h
      cases h
      exact .plain hn
    | some t =>
      rw [effective_of_named hn] at h
      obtain ⟨e, he, hu⟩ := bind_ok_iff.mp h
      rw [target, mapError_ok_iff] at he
      cases hs : e.scalar? with
      | none =>
        rw [if_neg (by simp [Declaration.isScalar, hs])] at hu
        cases hu
        exact .named hn he hs
      | some scalar =>
        rw [if_pos (by simp [Declaration.isScalar, hs]), unbox] at hu
        -- of the types that name something, only that of a field can be unboxed
        cases ht : p.type with
        | object u =>
          obtain rfl : u = t := by simpa [ht, PropertyType.named?] using hn
          rw [ht, hs] at hu
          cases hu
          exact .unboxed ht he hs
        | relationship u =>
          rw [ht, hs] at hu
          cases hu
        | _ => simp [ht, PropertyType.named?] at hn
  · intro h
    cases h with
    | plain hn => exact effective_of_plain hn
    | named hn hr hs =>
      rw [effective_of_named hn, target, hr]
      simp [Except.mapError, bind, Except.bind, Declaration.isScalar, hs]
    | unboxed ht hr hs =>
      rw [effective_of_named (by rw [ht]; rfl), target, hr]
      simp [Except.mapError, bind, Except.bind, Declaration.isScalar, hs, unbox, ht]

namespace Effective

variable (h : p.Effective s p')

include h

theorem name : p'.name = p.name := by cases h <;> rfl

theorem isArray : p'.isArray = p.isArray := by cases h <;> rfl

theorem isOptional : p'.isOptional = p.isOptional := by cases h <;> rfl

theorem kind : p'.kind = p.kind := by
  cases h with
  | plain _ => rfl
  | named _ _ _ => rfl
  | unboxed ht _ _ => simp [Property.kind, typedBy, ht, PropertyType.kind]

end Effective

end Property

namespace Catalog

variable {c : Catalog} {d : Declaration} {s : Scope} {p : Property}

/-! ## Types by name -/

/-- The name of the type that a property behaves as one of. -/
inductive TypedAs (c : Catalog) (d : Declaration) (p : Property) : String → Prop
  | primitive {q : Primitive} : p.type = .primitive q → TypedAs c d p q.name
  | unboxed {t : TypeName} {e : Declaration} {scalar : Scalar} :
    p.type = .object t → c.Refers d t e → e.scalar? = some scalar →
    TypedAs c d p scalar.primitive.name
  | named {t : TypeName} {e : Declaration} :
    p.type.named? = some t → c.Refers d t e → e.scalar? = none → TypedAs c d p e.qualifiedName
  | enumValue : p.type = .enumValue → TypedAs c d p d.qualifiedName

theorem qualifiedType_of_named {t : TypeName} (ht : p.type.named? = some t) :
    p.qualifiedType s = s.qualify t := by
  unfold Property.qualifiedType
  split <;> simp_all [PropertyType.named?]

theorem effectiveType_ok_iff (hc : c.Coherent) (hs : c.scope d = .ok s) {n : String} :
    effectiveType p s = .ok n ↔ c.TypedAs d p n := by
  simp only [effectiveType, bind_ok_iff, Property.effective_ok_iff]
  constructor
  · rintro ⟨p', he, hn⟩
    cases he with
    | plain ht =>
      unfold Property.qualifiedType at hn
      split at hn
      · next hq => cases hn; exact .primitive hq
      · next hq => simp [hq, PropertyType.named?] at ht
      · next hq => simp [hq, PropertyType.named?] at ht
      · next hq => cases hn; exact scope_owner hs ▸ .enumValue hq
    | named ht hr he =>
      have hr := (Refers.resolve hs).mp hr
      rw [qualifiedType_of_named ht, hr.qualify hc hs] at hn
      cases hn
      exact .named ht hr he
    | unboxed ht hr he =>
      cases hn
      exact .unboxed ht ((Refers.resolve hs).mp hr) he
  · intro h
    cases h with
    | primitive ht => exact ⟨p, .plain (by rw [ht]; rfl), by simp [Property.qualifiedType, ht]⟩
    | unboxed ht hr he => exact ⟨_, .unboxed ht ((Refers.resolve hs).mpr hr) he, rfl⟩
    | named ht hr he =>
      exact ⟨p, .named ht ((Refers.resolve hs).mpr hr) he,
        (qualifiedType_of_named ht).trans (hr.qualify hc hs)⟩
    | enumValue ht =>
      exact ⟨p, .plain (by rw [ht]; rfl), by simp [Property.qualifiedType, ht, scope_owner hs]⟩

theorem TypedAs.unique (hc : c.Coherent) (hd : d ∈ c.declarations) {n m : String}
    (h : c.TypedAs d p n) (h' : c.TypedAs d p m) : n = m := by
  obtain ⟨s, hs⟩ := exists_scope hc hd
  rw [← effectiveType_ok_iff hc hs] at h h'
  exact Except.ok.inj (h.symm.trans h')

/-- The type of a property that is accepted where it stands has a name. -/
theorem exists_typedAs {v : ValidationSettings} (hs : c.scope d = .ok s)
    (h : p.check s v = .ok ()) : ∃ n, c.TypedAs d p n := by
  cases ht : p.type with
  | primitive q => exact ⟨_, .primitive ht⟩
  | enumValue => exact ⟨_, .enumValue ht⟩
  | object t =>
    obtain ⟨e, he, -⟩ := (Property.check_object_ok_iff ht).mp h
    cases hsc : e.scalar? with
    | none => exact ⟨_, .named (by rw [ht]; rfl) ((Refers.resolve hs).mp he) hsc⟩
    | some scalar => exact ⟨_, .unboxed ht ((Refers.resolve hs).mp he) hsc⟩
  | relationship t =>
    obtain ⟨e, he, hf⟩ := (Property.check_relationship_ok_iff ht).mp h
    have hsc : e.scalar? = none := by
      have := hf.target
      cases hb : e.body <;> simp_all [Declaration.isClass, Declaration.class?, Declaration.scalar?]
    exact ⟨_, .named (by rw [ht]; rfl) ((Refers.resolve hs).mp he) hsc⟩

/-- The name of a primitive is the type of nothing but what is of that primitive. -/
theorem qualifiedType_eq_primitive_iff (hs : c.scope d = .ok s) {q : Primitive} :
    p.qualifiedType s = .ok q.name ↔ p.type = .primitive q := by
  have hq : ∀ t, s.qualify t ≠ .ok q.name := by
    obtain ⟨file, -, rfl⟩ := scope_eq_ok hs
    rintro ⟨_ | ns, name⟩ h
    · simp only [scopeIn, qualify] at h
      split at h
      · exact Qualified.join_ne_primitive (Except.ok.inj h)
      · split at h
        · exact Qualified.join_ne_primitive (Except.ok.inj h)
        · cases h
    · exact Qualified.join_ne_primitive (Except.ok.inj h)
  unfold Property.qualifiedType
  split
  · next r ht => simp [ht, Primitive.name_injective.eq_iff]
  · next t ht => simp [ht, hq]
  · next t ht => simp [ht, hq]
  · next ht => simp [ht, scope_owner hs, Declaration.qualifiedName, Qualified.join_ne_primitive]

theorem typedAs_primitive_iff (hc : c.Coherent) (hs : c.scope d = .ok s) {q : Primitive} :
    c.TypedAs d p q.name ↔ ∃ e, p.effective s = .ok e ∧ e.type = .primitive q := by
  simp only [← effectiveType_ok_iff hc hs, effectiveType, bind_ok_iff,
    qualifiedType_eq_primitive_iff hs]

/-! ## Agreement -/

/-- A property of one declaration that may take the place of one of another: it behaves alike and is
required where that is. -/
structure Conforms (c : Catalog) (d : Declaration) (p : Property) (a : Declaration)
    (inherited : Property) : Prop where
  kind : p.kind = inherited.kind
  type : ∃ n, c.TypedAs d p n ∧ c.TypedAs a inherited n
  array : p.isArray = inherited.isArray
  optional : p.isOptional = true → inherited.isOptional = true

theorem Conforms.refl {n : String} (h : c.TypedAs d p n) : c.Conforms d p d p :=
  ⟨rfl, ⟨n, h, h⟩, rfl, id⟩

theorem Conforms.trans (hc : c.Coherent) {a b : Declaration} {q r : Property}
    (ha : a ∈ c.declarations) (h : c.Conforms d p a q) (h' : c.Conforms a q b r) :
    c.Conforms d p b r where
  kind := h.kind.trans h'.kind
  type := by
    obtain ⟨n, hp, hq⟩ := h.type
    obtain ⟨m, hq', hr⟩ := h'.type
    exact ⟨n, hp, hq.unique hc ha hq' ▸ hr⟩
  array := h.array.trans h'.array
  optional := fun ho => h'.optional (h.optional ho)

theorem overrideFault?_eq_none_iff {own inherited : Property} {n m : String} :
    overrideFault? own inherited n m = none ↔
      own.kind = inherited.kind ∧ n = m ∧ own.isArray = inherited.isArray ∧
        (own.isOptional = true → inherited.isOptional = true) := by
  unfold overrideFault?
  by_cases hk : own.kind = inherited.kind
  · by_cases hn : n = m
    · by_cases ha : own.isArray = inherited.isArray
      · simp [hk, hn, ha]
      · simp [hk, hn, ha]
    · simp [hk, hn]
  · simp [hk]

theorem checkOverride_ok_iff (hc : c.Coherent) {a : Declaration} (ha : a ∈ c.declarations)
    (hs : c.scope d = .ok s) {q : Property} :
    c.checkOverride s p a q = .ok () ↔
      c.settings.resolution.allowOverride = true ∧ c.Conforms d p a q := by
  obtain ⟨sa, hsa⟩ := exists_scope hc ha
  have hrest : (∃ n, effectiveType p s = .ok n ∧ ∃ m, effectiveType q sa = .ok m ∧
      overrideFault? p q n m = none) ↔ c.Conforms d p a q := by
    simp only [effectiveType_ok_iff hc hs, effectiveType_ok_iff hc hsa, overrideFault?_eq_none_iff]
    constructor
    · rintro ⟨n, hn, m, hm, hk, rfl, harr, hopt⟩
      exact ⟨hk, ⟨n, hn, hm⟩, harr, hopt⟩
    · rintro ⟨hk, ⟨n, hn, hm⟩, harr, hopt⟩
      exact ⟨n, hn, n, hm, hk, rfl, harr, hopt⟩
  rw [← hrest]
  simp only [checkOverride, asked_bind_ok_iff, bind_ok_iff, hsa, Except.ok.injEq, exists_eq_left',
    Bool.not_eq_true', reduceCtorEq, imp_false, Bool.not_eq_false]
  refine and_congr_right fun _ => exists_congr fun n => and_congr_right fun _ =>
    exists_congr fun m => and_congr_right fun _ => ?_
  cases overrideFault? p q n m <;> simp [pure_ok_iff]

end Catalog

end ModelCatalog
