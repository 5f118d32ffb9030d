import Mathlib.Data.List.Nodup
import ModelCatalog.Declaration
import ModelCatalog.Proofs.Success

/-! # Variants of declarations

A fragment has entries for all variants of declarations, and each variant is built in its own way
from some of them. Building is said here without the order of its checks, one case a variant, and
from this what the parts of a fragment may be part of and what becomes of them.
-/
namespace ModelCatalog

/-! ## Entries of a list -/

section

variable {α : Type} {key : α → String} {l r as done : List α} {a : α}

theorem nodup_keys_concat (hl : (l.map key).Nodup)
    (ha : l.any (fun b => decide (key b = key a)) = false) : ((l ++ [a]).map key).Nodup := by
  rw [List.map_append, List.nodup_append]
  refine ⟨hl, by simp, ?_⟩
  intro k hk k' hk' he
  obtain ⟨b, hb, rfl⟩ := List.mem_map.mp hk
  obtain rfl : k' = key a := by simpa using hk'
  have := List.any_eq_false.mp ha b hb
  simp [he] at this

theorem any_key_eq_false (h : ((l ++ a :: r).map key).Nodup) :
    l.any (fun b => decide (key b = key a)) = false := by
  rw [List.map_append, List.nodup_append] at h
  refine List.any_eq_false.mpr fun b hb => ?_
  simpa using h.2.2 (key b) (List.mem_map_of_mem hb) (key a) (by simp)

/-- Entries are read one by one, and none may have the key of one before it. -/
def readDistinct (read : Json → Except ModelError α) (key : α → String)
    (repeated : α → ModelError) : List Json → List α → Except ModelError (List α)
  | [], done => .ok done
  | j :: rest, done => do
    let a ← read j
    if done.any (fun b => key b = key a) then .error (repeated a)
    readDistinct read key repeated rest (done ++ [a])

/-- What a list is read as: each entry by itself, and each with a key of its own. -/
structure Reads (read : Json → Except ModelError α) (key : α → String) (js : List Json)
    (as : List α) : Prop where
  each : List.Forall₂ (fun j a => read j = .ok a) js as
  distinct : (as.map key).Nodup

variable {read : Json → Except ModelError α} {repeated : α → ModelError} {js : List Json}

theorem Reads.exists_entry (h : Reads read key js as) (ha : a ∈ as) : ∃ j ∈ js, read j = .ok a := by
  have heach := h.each
  clear h
  induction heach with
  | nil => cases ha
  | cons hj _ ih =>
    rcases List.mem_cons.mp ha with rfl | ha
    · exact ⟨_, List.mem_cons_self, hj⟩
    · obtain ⟨j, hmem, hj⟩ := ih ha
      exact ⟨j, List.mem_cons_of_mem _ hmem, hj⟩

theorem readDistinct_ok_iff (hd : (done.map key).Nodup) :
    readDistinct read key repeated js done = .ok r ↔ ∃ as, r = done ++ as ∧
      List.Forall₂ (fun j a => read j = .ok a) js as ∧ (r.map key).Nodup := by
  induction js generalizing done with
  | nil =>
    simp only [readDistinct, Except.ok.injEq, List.forall₂_nil_left_iff]
    constructor
    · rintro rfl
      exact ⟨[], by simp, rfl, hd⟩
    · rintro ⟨_, rfl, rfl, -⟩
      simp
  | cons j rest ih =>
    simp only [readDistinct, bind_ok_iff]
    constructor
    · rintro ⟨a, ha, h⟩
      split at h
      · cases h
      · next hnew =>
        obtain ⟨as, rfl, heach, hn⟩ :=
          (ih (nodup_keys_concat hd (Bool.eq_false_iff.mpr hnew))).mp h
        exact ⟨a :: as, by simp, .cons ha heach, hn⟩
    · rintro ⟨_, rfl, heach, hn⟩
      obtain ⟨a, as, ha, hrest, rfl⟩ := List.forall₂_cons_left_iff.mp heach
      have hnew := any_key_eq_false hn
      refine ⟨a, ha, ?_⟩
      rw [hnew]
      exact (ih (nodup_keys_concat hd hnew)).mpr ⟨as, by simp, hrest, hn⟩

theorem readDistinct_nil_ok_iff :
    readDistinct read key repeated js [] = .ok as ↔ Reads read key js as := by
  rw [readDistinct_ok_iff (by simp)]
  constructor
  · rintro ⟨_, rfl, heach, hn⟩
    exact ⟨heach, hn⟩
  · rintro ⟨heach, hn⟩
    exact ⟨as, rfl, heach, hn⟩

end

namespace Declaration

variable {ns owner : String} {j : Json} {js : List Json} {f : DeclarationFragment}
  {ps done : List Property} {kind : ClassKind} {cls : DeclarationClass} {body : DeclarationBody}
  {d : Declaration}

theorem readProperties_eq : readProperties owner js done
    = readDistinct (fun j => (Property.ofJson j).mapError (.within owner)) (·.name)
        (fun p => .duplicateProperty owner p.name) js done := by
  induction js generalizing done with
  | nil => rfl
  | cons j rest ih => simp only [readProperties, readDistinct, ih]

/-- The members are read where each of them can be and has a name of its own. -/
theorem readProperties_ok_iff :
    readProperties owner js [] = .ok ps ↔ Reads Property.ofJson (·.name) js ps := by
  rw [readProperties_eq, readDistinct_nil_ok_iff]
  constructor
  · rintro ⟨heach, hn⟩
    exact ⟨by simpa only [mapError_ok_iff] using heach, hn⟩
  · rintro ⟨heach, hn⟩
    exact ⟨by simpa only [mapError_ok_iff] using heach, hn⟩

/-! ## Building -/

/-- What a fragment with these members makes of its class. -/
inductive Builds (f : DeclarationFragment) (ps : List Property) :
    DeclarationClass → DeclarationBody → Prop
  | ofKind {kind : ClassKind} {identifier : Option Identifier} :
    (∀ p ∈ ps, p.kind ≠ .enumValue) → f.default = none → f.rule = none → f.lengthRule = none →
    optionalIdentifier f.identified = .ok identifier →
    Builds f ps (.ofKind kind)
      (.ofClass ⟨kind, f.superType.map .ofFragment, f.isAbstract, identifier, ps⟩)
  | enumeration :
    (∀ p ∈ ps, p.kind = .enumValue) → hasClassAttributes f = false →
    Builds f ps .enumeration (.ofEnum ps)
  | scalar {q : Primitive} {s : Scalar} :
    ps = [] → Scalar.ofFragment q f = .ok s → hasClassAttributes f = false →
    Builds f ps (.scalar q) (.ofScalar s)

theorem classOf_ok_iff :
    (classOf f kind ps).map DeclarationBody.ofClass = .ok body ↔
      Builds f ps (.ofKind kind) body := by
  have hvalues : ps.find? (·.kind = .enumValue) = none ↔ ∀ p ∈ ps, p.kind ≠ .enumValue := by
    simp
  rw [map_ok_iff]
  constructor
  · rintro ⟨k, h, rfl⟩
    unfold classOf at h
    split at h
    · cases h
    · next hnone =>
      obtain ⟨hplain, h⟩ := guard_ok_iff.mp h
      obtain ⟨identifier, hi, h⟩ := bind_ok_iff.mp h
      obtain rfl := pure_ok_iff.mp h
      simp only [Bool.or_eq_true, Option.isSome_iff_ne_none, not_or, not_not, and_assoc] at hplain
      obtain ⟨hdefault, hrule, hlength⟩ := hplain
      exact .ofKind (hvalues.mp hnone) hdefault hrule hlength hi
  · intro h
    cases h with
    | ofKind hkinds hdefault hrule hlength hi =>
      unfold classOf
      rw [hvalues.mpr hkinds]
      simp [hdefault, hrule, hlength, hi, bind, Except.bind, pure, Except.pure]

theorem enumOf_ok_iff :
    (enumOf f ps).map DeclarationBody.ofEnum = .ok body ↔ Builds f ps .enumeration body := by
  have hvalues : ps.find? (·.kind ≠ .enumValue) = none ↔ ∀ p ∈ ps, p.kind = .enumValue := by
    simp
  rw [map_ok_iff]
  constructor
  · rintro ⟨values, h, rfl⟩
    unfold enumOf at h
    split at h
    · cases h
    · next hnone =>
      obtain ⟨hplain, h⟩ := guard_ok_iff.mp h
      obtain rfl := Except.ok.inj h
      exact .enumeration (hvalues.mp hnone) (by simpa using hplain)
  · intro h
    cases h with
    | enumeration hkinds hplain =>
      unfold enumOf
      rw [hvalues.mpr hkinds]
      simp [hplain]

theorem scalarOf_ok_iff {q : Primitive} :
    (scalarOf owner f q ps).map DeclarationBody.ofScalar = .ok body ↔
      Builds f ps (.scalar q) body := by
  rw [map_ok_iff]
  constructor
  · rintro ⟨s, h, rfl⟩
    obtain ⟨hnone, h⟩ := guard_ok_iff.mp h
    obtain ⟨s, hs, h⟩ := bind_ok_iff.mp h
    obtain ⟨hplain, h⟩ := guard_ok_iff.mp h
    obtain rfl := pure_ok_iff.mp h
    exact .scalar (by simpa using hnone) (mapError_ok_iff.mp hs) (by simpa using hplain)
  · intro h
    cases h with
    | scalar hnone hs hplain =>
      simp [scalarOf, hnone, hs, hplain, Except.mapError, bind, Except.bind, pure, Except.pure]

/-- A fragment is read where its class is known, its members are read, and what it says builds what
the class asks for. -/
theorem ofFragment_ok_iff : ofFragment ns f = .ok d ↔ ∃ cls ps body,
    DeclarationClass.of? f.cls = some cls ∧ Reads Property.ofJson (·.name) f.properties ps ∧
      Builds f ps cls body ∧ d = ⟨ns, f.name, body⟩ := by
  unfold ofFragment
  cases DeclarationClass.of? f.cls with
  | none => simp
  | some cls =>
    cases cls <;>
      simp only [bind_ok_iff, readProperties_ok_iff, mapError_ok_iff, classOf_ok_iff,
        enumOf_ok_iff, scalarOf_ok_iff, pure_ok_iff, Option.some.injEq, exists_eq_left',
        @eq_comm _ _ d, exists_and_left]

/-! ## What becomes of a fragment -/

theorem hasClassAttributes_eq_false_iff : hasClassAttributes f = false ↔
    f.superType = none ∧ f.identified = none ∧ f.isAbstract = false := by
  simp [hasClassAttributes, and_assoc]

theorem Builds.properties_eq {name : String} (h : Builds f ps cls body) :
    (⟨ns, name, body⟩ : Declaration).properties = ps := by
  cases h with
  | ofKind => rfl
  | enumeration => rfl
  | scalar hnone => exact hnone.symm

/-- A declaration has all that its fragment says, and nothing else. What an enumeration says of a
default or of rules is passed over. -/
structure Holds (f : DeclarationFragment) (d : Declaration) : Prop where
  name : d.name = f.name
  superType : d.superType? = f.superType.map .ofFragment
  identifier : optionalIdentifier f.identified = .ok d.identifier?
  isAbstract : d.isAbstract = f.isAbstract
  members : Reads Property.ofJson (·.name) f.properties d.properties
  default : d.isEnum = false → d.scalar?.bind (·.default) = f.default
  rule : d.isEnum = false →
    Property.optionally Rule.ofFragment f.rule = .ok (d.scalar?.bind (·.rule))
  lengthRule : d.isEnum = false →
    Property.optionally Rule.lengthOfFragment f.lengthRule = .ok (d.scalar?.bind (·.lengthRule))

/-- What a fragment has is for the variant that it is read as. -/
structure Fits (f : DeclarationFragment) (d : Declaration) : Prop where
  value : f.default ≠ none ∨ f.rule ≠ none ∨ f.lengthRule ≠ none →
    d.isScalar = true ∨ d.isEnum = true
  classOnly : f.superType ≠ none ∨ f.identified ≠ none ∨ f.isAbstract = true → d.isClass = true
  listed : f.properties ≠ [] → d.isClass = true ∨ d.isEnum = true
  values : d.isEnum = true → ∀ p ∈ d.properties, p.kind = .enumValue
  noValues : d.isClass = true → ∀ p ∈ d.properties, p.kind ≠ .enumValue

theorem Builds.holds (h : Builds f ps cls body)
    (hm : Reads Property.ofJson (·.name) f.properties ps) : Holds f ⟨ns, f.name, body⟩ := by
  have hmembers : Reads Property.ofJson (·.name) f.properties
      (⟨ns, f.name, body⟩ : Declaration).properties :=
    h.properties_eq.symm ▸ hm
  cases h with
  | ofKind _ hdefault hrule hlength hi =>
    refine ⟨rfl, rfl, hi, rfl, hmembers, fun _ => hdefault.symm, fun _ => ?_, fun _ => ?_⟩
    · rw [hrule]; rfl
    · rw [hlength]; rfl
  | enumeration _ hplain =>
    obtain ⟨hs, hi, ha⟩ := hasClassAttributes_eq_false_iff.mp hplain
    refine ⟨rfl, ?_, ?_, ha.symm, hmembers, ?_, ?_, ?_⟩
    · rw [hs]; rfl
    · rw [hi]; rfl
    all_goals exact fun he => absurd he (by simp [isEnum, isClass, class?, isScalar, scalar?])
  | scalar _ hscalar hplain =>
    obtain ⟨hs, hi, ha⟩ := hasClassAttributes_eq_false_iff.mp hplain
    obtain ⟨rule, hrule, hscalar⟩ := bind_ok_iff.mp hscalar
    obtain ⟨lengthRule, hlength, hscalar⟩ := bind_ok_iff.mp hscalar
    obtain rfl := pure_ok_iff.mp hscalar
    refine ⟨rfl, ?_, ?_, ha.symm, hmembers, fun _ => rfl, fun _ => hrule, fun _ => hlength⟩
    · rw [hs]; rfl
    · rw [hi]; rfl

theorem Builds.fits (h : Builds f ps cls body)
    (hm : Reads Property.ofJson (·.name) f.properties ps) : Fits f ⟨ns, f.name, body⟩ := by
  cases h with
  | ofKind hkinds hdefault hrule hlength _ =>
    refine ⟨?_, fun _ => rfl, fun _ => .inl rfl, ?_, fun _ => hkinds⟩
    · simp [hdefault, hrule, hlength]
    · simp [isEnum, isClass, class?]
  | enumeration hkinds hplain =>
    obtain ⟨hs, hi, ha⟩ := hasClassAttributes_eq_false_iff.mp hplain
    refine ⟨fun _ => .inr rfl, ?_, fun _ => .inr rfl, fun _ => hkinds, ?_⟩
    · simp [hs, hi, ha]
    · simp [isClass, class?]
  | scalar hnone _ hplain =>
    obtain ⟨hs, hi, ha⟩ := hasClassAttributes_eq_false_iff.mp hplain
    subst hnone
    have hlisted := List.forall₂_nil_right_iff.mp hm.each
    refine ⟨fun _ => .inl rfl, ?_, fun h => absurd hlisted h, ?_, ?_⟩
    · simp [hs, hi, ha]
    · simp [properties]
    · simp [properties]

/-- What is read as a declaration fits it, and the declaration holds all of it, but for one thing:
an enumeration is read as the same whatever the default and the rules that come with it. -/
theorem ofJson_fits (h : ofJson ns j = .ok d) :
    ∃ f, DeclarationFragment.ofJson j = .ok f ∧ Fits f d ∧ Holds f d ∧
      (d.isEnum = true → ∀ default rule lengthRule,
        ofFragment ns
          { f with default := default, rule := rule, lengthRule := lengthRule } = .ok d) := by
  obtain ⟨f, hf, h⟩ := bind_ok_iff.mp h
  obtain ⟨cls, ps, body, hcls, hm, hbuilds, rfl⟩ := ofFragment_ok_iff.mp h
  refine ⟨f, mapError_ok_iff.mp (mapError_ok_iff.mp hf), hbuilds.fits hm, hbuilds.holds hm, ?_⟩
  intro he default rule lengthRule
  refine ofFragment_ok_iff.mpr ⟨cls, ps, body, hcls, hm, ?_, rfl⟩
  cases hbuilds with
  | enumeration hkinds hplain => exact .enumeration hkinds hplain
  | _ => simp [isEnum, isClass, class?, isScalar, scalar?] at he

end Declaration

namespace Sample

def writtenPigeon : Json :=
  .object [("$class", .string "AssetDeclaration"), ("name", .string "Pigeon"),
    ("isAbstract", .bool true), ("superType", .object [("name", .string "Bird")]),
    ("identified", .object [("$class", .string "IdentifiedBy"), ("name", .string "ring")]),
    ("properties", .array [.object [("$class", .string "StringProperty"),
      ("name", .string "ring")]])]

/-- A class with all that a class may have. -/
def pigeon : Declaration :=
  ⟨"loft", "Pigeon", .ofClass ⟨.asset, some ⟨none, "Bird"⟩, true, some (.field "ring"),
    [⟨"ring", .primitive .string, false, false, none, none, none⟩]⟩⟩

/-- An enumeration with a default. -/
def writtenPlumage : Json :=
  .object [("$class", .string "EnumDeclaration"), ("name", .string "Plumage"),
    ("properties", .array [.object [("$class", .string "EnumProperty"),
      ("name", .string "GREY")]]), ("defaultValue", .string "GREY")]

end Sample

namespace Declaration

/-- The pigeon's super type, its identifier and its member are where they belong. -/
theorem ofJson_fits_pigeon : ofJson "loft" Sample.writtenPigeon = .ok Sample.pigeon ∧
    ∃ f, DeclarationFragment.ofJson Sample.writtenPigeon = .ok f ∧ Fits f Sample.pigeon ∧
      Holds f Sample.pigeon := by
  have hread : ofJson "loft" Sample.writtenPigeon = .ok Sample.pigeon := by rfl
  obtain ⟨f, hf, hfits, hholds, -⟩ := ofJson_fits hread
  exact ⟨hread, f, hf, hfits, hholds⟩

/-- A default may come with what is no scalar. -/
theorem plumage_defaulted : ¬ ∀ ns j f d, DeclarationFragment.ofJson j = .ok f →
    ofJson ns j = .ok d → f.default ≠ none → d.isScalar = true := by
  intro hscalar
  have h := hscalar "loft" Sample.writtenPlumage _ _ rfl rfl (by simp)
  cases h

end Declaration

end ModelCatalog
