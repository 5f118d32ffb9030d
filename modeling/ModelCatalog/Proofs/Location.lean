import ModelCatalog.Proofs.WellFormed

/-! # Where errors say they are

The first thing wrong with a catalog ends its check, and whoever wrote it has to find it by what the
error names. Every error but one names a declaration of the catalog or the place of a reference. The
one arises where a declaration asks how a property behaves that it inherits, and the class that
declares the property has not been checked yet.
-/
namespace ModelCatalog

/-! ## Failure of computations -/

section

variable {ε δ α β : Type}

theorem bind_error_iff {e : ε} {x : Except ε α} {next : α → Except ε β} :
    x >>= next = .error e ↔ x = .error e ∨ ∃ a, x = .ok a ∧ next a = .error e := by
  cases x <;> simp [bind, Except.bind]

/-- What has succeeded is not what fails. -/
theorem bind_error_of_ok {e : ε} {a : α} {x : Except ε α} {next : α → Except ε β} (hx : x = .ok a) :
    x >>= next = .error e ↔ next a = .error e := by
  rw [hx]
  rfl

/-- A guard fails with its own error. -/
theorem guard_error_iff {p : Prop} [Decidable p] {e e' : ε} {next : Unit → Except ε α} :
    (if p then .error e' >>= next else next ()) = .error e ↔
      (p ∧ e' = e) ∨ (¬p ∧ next () = .error e) := by
  by_cases h : p <;> simp [h, bind, Except.bind]

theorem mapError_error_iff {e : δ} {x : Except ε α} {tell : ε → δ} :
    x.mapError tell = .error e ↔ ∃ cause, x = .error cause ∧ tell cause = e := by
  cases x <;> simp [Except.mapError]

/-- A traversal fails where one of its steps does. -/
theorem exists_of_forM_error {f : α → Except ε Unit} {l : List α} {e : ε}
    (h : l.forM f = .error e) : ∃ a ∈ l, f a = .error e := by
  obtain ⟨before, a, after, rfl, -, ha⟩ := forM_error_iff.mp h
  exact ⟨a, List.mem_append_right before List.mem_cons_self, ha⟩

end

namespace Catalog

/-- An error that tells where its source is: it names a declaration of the catalog, and a property
only of those declared there, or the place that refers to a missing type. -/
inductive Located (c : Catalog) : ModelError → Prop
  | property {d : Declaration} {p : Property} {fault : PropertyFault} :
    d ∈ c.declarations → p ∈ d.properties →
    Located c (.illegalProperty p.name (some d.qualifiedName) fault)
  | reference {name : String} {place : Place} : Located c (.typeNotFound name (some place))
  | declaration {d : Declaration} {fault : DeclarationFault} :
    d ∈ c.declarations → Located c (.illegalDeclaration d.qualifiedName fault)
  | circle {d : Declaration} {chain : List String} :
    d ∈ c.declarations → Located c (.circularInheritance d.qualifiedName chain)
  | duplicate {d : Declaration} {name : String} :
    d ∈ c.declarations → Located c (.duplicateProperty d.qualifiedName name)
  | settings : Located c (.settings .depthZero)

/-- The error of a relationship typed by a scalar, as it is met below the class that declares the
relationship, by one that declares the property again or is identified by it. No declaration is
named. -/
inductive Astray (c : Catalog) : ModelError → Prop
  | inherited {d a e : Declaration} {p : Property} {t : TypeName} :
    d ∈ c.declarations → Relation.TransGen c.Extends d a → p ∈ a.properties →
    p.type = .relationship t → c.Refers a t e → e.isScalar = true →
    (∃ q ∈ d.properties, q.name = p.name) ∨ d.identifier? = some (.field p.name) →
    Astray c (.illegalProperty p.name none (.unboxKind p.kind.name e.qualifiedName))

variable {c : Catalog} {d a : Declaration} {s : Scope} {p q : Property} {err : ModelError}

/-- The declaration that is named for a property is one that declares it. -/
theorem Located.exists_property {name : String} {owner : Option String} {fault : PropertyFault}
    (h : c.Located (.illegalProperty name owner fault)) :
    ∃ d ∈ c.declarations, owner = some d.qualifiedName ∧ ∃ p ∈ d.properties, p.name = name := by
  cases h with
  | @property d p _ hd hp => exact ⟨d, hd, rfl, p, hp, rfl⟩

/-! ## References and super types -/

theorem target_eq_error (hs : c.scope d = .ok s) {t : TypeName}
    (h : p.target s t = .error err) :
    err = .typeNotFound t.text (some (.typeOf p.name s.owner)) := by
  obtain ⟨cause, hcause, rfl⟩ := mapError_error_iff.mp h
  obtain ⟨file, -, rfl⟩ := scope_eq_ok hs
  obtain ⟨name, place, rfl⟩ := scopeIn_resolve_eq_error hcause
  rfl

section

variable (hc : c.Coherent) (hd : d ∈ c.declarations)

include hc hd

theorem located_of_superType? (h : c.superType? d = .error err) : c.Located err := by
  cases ht : d.superType? with
  | none =>
    rw [superType?_of_none ht] at h
    cases h
  | some t =>
    by_cases hm : ∃ e, c.Refers d t e
    · obtain ⟨e, he⟩ := hm
      rw [superType?_eq_some_iff.mpr ⟨t, ht, he⟩] at h
      cases h
    · rw [superType?_of_missing hc hd ht (not_exists.mp hm)] at h
      cases h
      exact .reference

theorem located_of_ancestors {cap : Option Nat} (h : c.ancestors cap d = .error err) :
    c.Located err := by
  cases (ancestors_eq_iff_outcome hc hd).mp h with
  | missing _ _ _ => exact .reference
  | circle _ _ _ => exact .circle hd
  | deep _ _ _ _ => exact .declaration hd

theorem located_of_isIdentified (h : c.isIdentified d = .error err) : c.Located err := by
  unfold isIdentified at h
  split at h
  · cases h
  · rcases bind_error_iff.mp h with h | ⟨as, -, h⟩
    · exact located_of_ancestors hc hd h
    · cases h

theorem located_of_checkSuperType (h : c.checkSuperType d = .error err) : c.Located err := by
  rcases bind_error_iff.mp h with h | ⟨parent, -, h⟩
  · exact located_of_superType? hc hd h
  · split at h
    · split at h
      · cases h
        exact .declaration hd
      · cases h
    · cases h

end

/-! ## Properties where they are declared -/

section

variable (hd : d ∈ c.declarations) (hs : c.scope d = .ok s) (hp : p ∈ d.properties)

include hd hs hp

theorem located_of_property {fault : PropertyFault} :
    c.Located (.illegalProperty p.name (some s.owner) fault) := by
  rw [scope_owner hs]
  exact .property hd hp

theorem located_of_check {v : ValidationSettings} (h : p.check s v = .error err) :
    c.Located err := by
  have hfault : ∀ {x : Except PropertyFault Unit},
      x.mapError (.illegalProperty p.name (some s.owner)) = .error err → c.Located err := by
    intro x hx
    obtain ⟨fault, -, rfl⟩ := mapError_error_iff.mp hx
    exact located_of_property hd hs hp
  have hmissing : ∀ {t : TypeName}, p.target s t = .error err → c.Located err := by
    intro t ht
    rw [target_eq_error hs ht]
    exact .reference
  unfold Property.check at h
  split at h
  · cases h
  · exact hfault h
  · rcases bind_error_iff.mp h with h | ⟨e, -, h⟩
    · exact hmissing h
    · exact hfault h
  · rcases bind_error_iff.mp h with h | ⟨e, -, h⟩
    · exact hmissing h
    · split at h <;> exact hfault h

theorem located_of_checkTarget (hc : c.Coherent) {v : ValidationSettings}
    (hcheck : p.check s v = .ok ()) (h : c.checkTarget s p = .error err) : c.Located err := by
  unfold checkTarget at h
  split at h
  · next t ht =>
    -- the type was resolved by the check of the property
    obtain ⟨e, he⟩ := Property.resolve_of_check (by rw [ht]; rfl) hcheck
    split at h
    · rw [bind_error_of_ok he] at h
      rcases bind_error_iff.mp h with h | ⟨identified, -, h⟩
      · exact located_of_isIdentified hc (((Refers.resolve hs).mp he).mem hc) h
      · split at h
        · cases h
          exact located_of_property hd hs hp
        · cases h
    · cases h
  · cases h

end

/-! ## Properties that are inherited -/

/-- Asking how a property behaves fails where its type is missing and where it is a relationship
that would have to be unboxed. -/
theorem effective_eq_error (hs : c.scope a = .ok s) (h : q.effective s = .error err) :
    c.Located err ∨ ∃ t e, q.type = .relationship t ∧ c.Refers a t e ∧ e.isScalar = true ∧
      err = .illegalProperty q.name none (.unboxKind q.kind.name e.qualifiedName) := by
  cases hn : q.type.named? with
  | none =>
    rw [Property.effective_of_plain hn] at h
    cases h
  | some t =>
    rw [Property.effective_of_named hn] at h
    rcases bind_error_iff.mp h with ht | ⟨e, he, hu⟩
    · rw [target_eq_error hs ht]
      exact .inl .reference
    · rw [Property.target, mapError_ok_iff] at he
      split at hu
      · next hscalar =>
        obtain ⟨scalar, hsc⟩ := Option.isSome_iff_exists.mp hscalar
        rw [Property.unbox, hsc] at hu
        -- only a relationship refuses to be unboxed to a scalar
        cases ht : q.type with
        | relationship u =>
          obtain rfl : u = t := by simpa [ht, PropertyType.named?] using hn
          rw [ht] at hu
          cases hu
          exact .inr ⟨u, e, rfl, (Refers.resolve hs).mp he, hscalar, rfl⟩
        | _ =>
          rw [ht] at hu
          cases hu
      · cases hu

/-- How a property behaves settles what its type is called. -/
theorem effectiveType_eq_error (hc : c.Coherent) (hs : c.scope a = .ok s)
    (h : effectiveType q s = .error err) : q.effective s = .error err := by
  rcases bind_error_iff.mp h with h | ⟨q', he, h⟩
  · exact h
  · have hsettled : ∃ n, q'.qualifiedType s = .ok n := by
      cases Property.effective_ok_iff.mp he with
      | plain ht =>
        unfold Property.qualifiedType
        split
        · exact ⟨_, rfl⟩
        · next ht' => simp [ht', PropertyType.named?] at ht
        · next ht' => simp [ht', PropertyType.named?] at ht
        · exact ⟨_, rfl⟩
      | named ht hr _ =>
        rw [qualifiedType_of_named ht]
        exact ⟨_, ((Refers.resolve hs).mp hr).qualify hc hs⟩
      | unboxed _ _ _ => exact ⟨_, rfl⟩
    obtain ⟨n, hn⟩ := hsettled
    rw [hn] at h
    cases h

/-- A property declared above a declaration, where the declaration asks how it behaves. -/
theorem located_or_astray_of_effective (hd : d ∈ c.declarations)
    (hup : Relation.TransGen c.Extends d a) (hs : c.scope a = .ok s) (hq : q ∈ a.properties)
    (hasks : (∃ p ∈ d.properties, p.name = q.name) ∨ d.identifier? = some (.field q.name))
    (h : q.effective s = .error err) : c.Located err ∨ c.Astray err := by
  rcases effective_eq_error hs h with h | ⟨t, e, ht, hr, hscalar, rfl⟩
  · exact .inl h
  · exact .inr (.inherited hd hup hq ht hr hscalar hasks)

theorem located_or_astray_of_checkOverride (hc : c.Coherent) (hd : d ∈ c.declarations)
    (hs : c.scope d = .ok s) (hp : p ∈ d.properties) {v : ValidationSettings}
    (hcheck : p.check s v = .ok ()) (hup : Relation.TransGen c.Extends d a)
    (hq : q ∈ a.properties) (hname : p.name = q.name)
    (h : c.checkOverride s p a q = .error err) : c.Located err ∨ c.Astray err := by
  have hasks : (∃ p ∈ d.properties, p.name = q.name) ∨ d.identifier? = some (.field q.name) :=
    .inl ⟨p, hp, hname⟩
  obtain ⟨sa, hsa⟩ := exists_scope hc (mem_of_reaches hc hd hup.to_reflTransGen)
  obtain ⟨own, hown⟩ := exists_typedAs hs hcheck
  have hown := (effectiveType_ok_iff hc hs).mpr hown
  unfold checkOverride at h
  rcases guard_error_iff.mp h with ⟨-, rfl⟩ | ⟨-, h⟩
  · rw [scope_owner hs]
    exact .inl (.duplicate hd)
  · rw [bind_error_of_ok hsa, bind_error_of_ok hown] at h
    rcases bind_error_iff.mp h with h | ⟨inherited, -, h⟩
    · exact located_or_astray_of_effective hd hup hsa hq hasks (effectiveType_eq_error hc hsa h)
    · split at h
      · cases h
        exact .inl (located_of_property hd hs hp)
      · cases h

/-! ## Declarations -/

section

variable (hc : c.Coherent) (hd : d ∈ c.declarations) {as : List Declaration}
  (ha : c.ancestors c.settings.resolution.maxDepth d = .ok as)

include hc hd ha

theorem located_or_astray_of_checkProperty (hs : c.scope d = .ok s) (hp : p ∈ d.properties)
    (h : c.checkProperty s as p = .error err) : c.Located err ∨ c.Astray err := by
  rcases bind_error_iff.mp h with h | ⟨_, hcheck, h⟩
  · exact .inl (located_of_check hd hs hp h)
  rcases bind_error_iff.mp h with h | ⟨_, -, h⟩
  · exact .inl (located_of_checkTarget hd hs hp hc hcheck h)
  split at h
  · next a q hn =>
    obtain ⟨top, hclear, hend⟩ := (ancestors_eq_ok_iff hc hd).mp ha
    obtain ⟨parent, he, hm⟩ := (hclear.ascent.nearest?_above_iff hend).mp hn
    obtain ⟨hq, hname⟩ := Declaration.property?_eq_some hm.declared
    exact located_or_astray_of_checkOverride hc hd hs hp hcheck (.head' he hm.reaches) hq
      hname.symm h
  · cases h

/-- By the time the identifier is looked at, the declaration's own properties have been accepted. -/
theorem located_or_astray_of_checkIdentifier (hs : c.scope d = .ok s)
    (hps : ∀ p ∈ d.properties, c.checkProperty s as p = .ok ())
    (h : c.checkIdentifier d = .error err) : c.Located err ∨ c.Astray err := by
  unfold checkIdentifier at h
  split at h
  · next name hi =>
    have hmerged := mergedProperties_ok_iff.mpr ⟨as, ha, rfl⟩
    rw [bind_error_of_ok hmerged] at h
    split at h
    · cases h
      exact .inl (.declaration hd)
    · next owner p hf =>
      have hm := (find?_mergedProperties hc hd hmerged).mp hf
      obtain ⟨hp, rfl⟩ := Declaration.property?_eq_some hm.declared
      obtain ⟨so, hso⟩ := exists_scope hc (mem_of_reaches hc hd hm.reaches)
      rw [bind_error_of_ok hso] at h
      rcases bind_error_iff.mp h with heffective | ⟨e, -, h⟩
      · rcases Relation.reflTransGen_iff_eq_or_transGen.mp hm.reaches with rfl | hup
        · obtain rfl := Except.ok.inj (hs.symm.trans hso)
          obtain ⟨n, hn⟩ := exists_typedAs hs (checkProperty_ok_iff.mp (hps p hp)).1
          obtain ⟨e, he, -⟩ := bind_ok_iff.mp ((effectiveType_ok_iff hc hs).mpr hn)
          cases he.symm.trans heffective
        · exact located_or_astray_of_effective hd hup hso hp (.inr hi) heffective
      · rcases guard_error_iff.mp h with ⟨-, rfl⟩ | ⟨-, h⟩
        · exact .inl (.declaration hd)
        · split at h
          · cases h
            exact .inl (.declaration hd)
          · cases h
  · cases h

end

theorem located_or_astray_of_checkDeclaration (hc : c.Coherent) (hd : d ∈ c.declarations)
    (h : c.checkDeclaration d = .error err) : c.Located err ∨ c.Astray err := by
  obtain ⟨s, hs⟩ := exists_scope hc hd
  unfold checkDeclaration at h
  rw [bind_error_of_ok hs] at h
  rcases bind_error_iff.mp h with h | ⟨_, -, h⟩
  · exact .inl (located_of_checkSuperType hc hd h)
  rcases bind_error_iff.mp h with h | ⟨as, ha, h⟩
  · exact .inl (located_of_ancestors hc hd h)
  split at h
  · obtain ⟨fault, -, rfl⟩ := mapError_error_iff.mp h
    exact .inl (.declaration hd)
  · rcases bind_error_iff.mp h with h | ⟨_, hps, h⟩
    · obtain ⟨p, hp, h⟩ := exists_of_forM_error h
      exact located_or_astray_of_checkProperty hc hd ha hs hp h
    · exact located_or_astray_of_checkIdentifier hc hd ha hs (forM_ok_iff.mp hps) h

/-! ## Catalogs -/

theorem located_of_checkImport {file : ModelFile} {i : Import}
    (h : c.checkImport file i = .error err) : c.Located err := by
  unfold checkImport at h
  split at h
  · cases h
    exact .reference
  · split at h
    · cases h
      exact .reference
    · cases h

/-- An error of the check tells where its source is, or it is that of a relationship to a scalar
which a declaration below inherits. -/
theorem check_error_located (hr : c.Reachable) (h : c.check = .error err) :
    c.Located err ∨ c.Astray err := by
  have hc := hr.coherent
  rcases bind_error_iff.mp h with h | ⟨_, -, h⟩
  · unfold checkSettings at h
    split at h
    · cases h
    · cases h
      exact .inl .settings
  · obtain ⟨file, hf, h⟩ := exists_of_forM_error h
    rcases bind_error_iff.mp h with h | ⟨_, -, h⟩
    · obtain ⟨i, -, h⟩ := exists_of_forM_error h
      exact .inl (located_of_checkImport h)
    · obtain ⟨d, hd, h⟩ := exists_of_forM_error h
      exact located_or_astray_of_checkDeclaration hc (mem_declarations.mpr ⟨file, hf, hd⟩) h

end Catalog

/-! ## An error that names no declaration -/

namespace Sample

def foal : Declaration := concept "Foal" (some "Horse") ["owner"]

def horse : Declaration :=
  ⟨"zoo", "Horse", .ofClass ⟨.concept, none, false, none,
    [⟨"owner", .relationship ⟨none, "Label"⟩, false, false, none, none, none⟩]⟩⟩

def label : Declaration := ⟨"zoo", "Label", .ofScalar ⟨.string, none, none, none⟩⟩

/-- A class that declares again what it inherits, ahead of the class above it, whose relationship
refers to a scalar. -/
def stable : Catalog := ⟨.standard, [⟨"zoo", [], [foal, horse, label]⟩]⟩

theorem stable_reachable : stable.Reachable :=
  .addFragment (f := ⟨none, "zoo", [], [written "Foal" (some "Horse") ["owner"],
    .object [("$class", .string "ConceptDeclaration"), ("name", .string "Horse"),
      ("properties", .array [.object [("$class", .string "RelationshipProperty"),
        ("name", .string "owner"), ("type", .object [("name", .string "Label")])]])],
    .object [("$class", .string "StringScalar"), ("name", .string "Label")]]⟩)
    (.empty .standard) (by rfl)

end Sample

namespace Catalog

/-- The error of the stable names neither the horse, whose property is at fault, nor the foal. -/
theorem stable_unlocated : Sample.stable.Reachable ∧
    Sample.stable.check
      = .error (.illegalProperty "owner" none (.unboxKind "Relationship" "zoo.Label")) ∧
    ¬ Sample.stable.Located
      (.illegalProperty "owner" none (.unboxKind "Relationship" "zoo.Label")) := by
  refine ⟨Sample.stable_reachable, by cbv, ?_⟩
  intro h
  obtain ⟨d, -, howner, -⟩ := h.exists_property
  cases howner

/-- It is the error of what the foal inherits. -/
theorem check_error_located_stable : Sample.stable.Astray
    (.illegalProperty "owner" none (.unboxKind "Relationship" "zoo.Label")) := by
  have hcheck : Sample.stable.check
      = .error (.illegalProperty "owner" none (.unboxKind "Relationship" "zoo.Label")) := by cbv
  rcases check_error_located Sample.stable_reachable hcheck with h | h
  · obtain ⟨d, -, howner, -⟩ := h.exists_property
    cases howner
  · exact h

end Catalog

end ModelCatalog
