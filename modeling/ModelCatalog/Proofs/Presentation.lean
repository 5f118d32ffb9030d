import ModelCatalog.ModelFile
import ModelCatalog.Proofs.Alike

/-! # Presentation does not influence the model

Trees that are alike are read together: either neither can be read, or both can, and then what is
built from them is the same. Errors may differ, because they tell what was met first.

The layers of a file are read one at a time, and so is the argument: alike trees make fragments that
agree, and fragments that agree make the same thing.
-/
namespace ModelCatalog

/-- Both fail, or both succeed with results that are related. -/
inductive Together {ε δ α β : Type} (R : α → β → Prop) : Except ε α → Except δ β → Prop
  | fail {e : ε} {d : δ} : Together R (.error e) (.error d)
  | succeed {a : α} {b : β} (h : R a b) : Together R (.ok a) (.ok b)

namespace Together

variable {ε δ α β γ κ : Type} {R : α → β → Prop} {S : γ → κ → Prop} {x : Except ε α}
  {y : Except δ β}

theorem refl {R : α → α → Prop} (hR : ∀ a, R a a) : Together R x x := by
  cases x with
  | error e => exact .fail
  | ok a => exact .succeed (hR a)

theorem bind {f : α → Except ε γ} {g : β → Except δ κ} (h : Together R x y)
    (hfg : ∀ a b, R a b → Together S (f a) (g b)) : Together S (x >>= f) (y >>= g) := by
  cases h with
  | fail => exact .fail
  | succeed h => exact hfg _ _ h

theorem map {f : α → γ} {g : β → κ} (h : Together R x y) (hfg : ∀ a b, R a b → S (f a) (g b)) :
    Together S (x.map f) (y.map g) := by
  cases h with
  | fail => exact .fail
  | succeed h => exact .succeed (hfg _ _ h)

/-- However the errors are told. -/
theorem mapError {ε' δ' : Type} {tell : ε → ε'} {report : δ → δ'} (h : Together R x y) :
    Together R (x.mapError tell) (y.mapError report) := by
  cases h with
  | fail => exact .fail
  | succeed h => exact .succeed h

theorem mapM {P : γ → κ → Prop} {f : γ → Except ε α} {g : κ → Except δ β} {k : List γ}
    {l : List κ} (h : List.Forall₂ P k l) (hfg : ∀ a b, P a b → Together R (f a) (g b)) :
    Together (List.Forall₂ R) (k.mapM f) (l.mapM g) := by
  induction h with
  | nil => exact .succeed .nil
  | cons hab _ ih =>
    simp only [List.mapM_cons]
    refine (hfg _ _ hab).bind fun a b hab => ih.bind fun as bs has => ?_
    exact .succeed (.cons hab has)

/-- Only successes count. -/
theorem of_ok_iff {x' : Except ε α} {y' : Except δ β} (h : Together R x' y')
    (hx : ∀ a, x = .ok a ↔ x' = .ok a) (hy : ∀ b, y = .ok b ↔ y' = .ok b) : Together R x y := by
  cases h with
  | fail =>
    cases x with
    | ok a => cases (hx a).mp rfl
    | error e =>
      cases y with
      | ok b => cases (hy b).mp rfl
      | error d => exact .fail
  | succeed h =>
    rw [(hx _).mpr rfl, (hy _).mpr rfl]
    exact .succeed h

theorem eq_iff {z : Except δ α} : Together Eq x z ↔
    (∃ e d, x = .error e ∧ z = .error d) ∨ ∃ a, x = .ok a ∧ z = .ok a := by
  constructor
  · rintro (_ | rfl)
    · exact .inl ⟨_, _, rfl, rfl⟩
    · exact .inr ⟨_, rfl, rfl⟩
  · rintro (⟨e, d, rfl, rfl⟩ | ⟨a, rfl, rfl⟩)
    · exact .fail
    · exact .succeed rfl

end Together

theorem optionRel_eq {α : Type} {a b : Option α} (h : Option.Rel Eq a b) : a = b := by
  cases h with
  | none => rfl
  | some h => rw [h]

/-! ## Single values -/
namespace Decode

variable {α : Type} {value : Json → Except DecodeError α} {R : α → α → Prop} {j k : Json}

theorem text_together (h : ClassNameLike j k) : Together SameClass (text j) (text k) := by
  cases h with
  | same j => exact .refl fun _ => rfl
  | text h => exact .succeed h

theorem list_together {like : Json → Json → Prop} (hR : ∀ a, R a a)
    (hv : ∀ {j k}, like j k → Together R (value j) (value k)) (h : ListLike like j k) :
    Together (List.Forall₂ R) (list value j) (list value k) := by
  cases h with
  | same j => exact .refl fun as => List.forall₂_same.mpr fun a _ => hR a
  | array h => exact .mapM h fun _ _ => hv

end Decode

/-! ## Readers -/
namespace RecordReader

variable {α β : Type} {r : RecordReader α} {f : RecordReader (α → β)} {record name : String}
  {value : Json → Except DecodeError α} {fallback : α} {table : List (String × Comparison)}
  {R : α → α → Prop} {S : β → β → Prop} {like : Json → Json → Prop}

/-- Two writings compare by a table that begins at a position. -/
def WrittenLike (table : List (String × Comparison)) (position : Nat) (w v : Written) : Prop :=
  ∀ (i : Nat) (row : String × Comparison), table[i]? = some row →
    row.2.holds (w.entry? (position + i) row.1) (v.entry? (position + i) row.1)

theorem WrittenLike.first {c : Comparison} {position : Nat} {w v : Written}
    (h : WrittenLike table position w v) (htable : table[0]? = some (name, c)) :
    c.holds (w.entry? position name) (v.entry? position name) :=
  h 0 _ htable

theorem WrittenLike.drop {position : Nat} {w v : Written} (h : WrittenLike table position w v)
    (n : Nat) : WrittenLike (table.drop n) (position + n) w v := by
  intro i row hrow
  rw [List.getElem?_drop] at hrow
  rw [Nat.add_assoc]
  exact h (n + i) row hrow

/-- A reader whose entries are the first of the table reads together what compares by it. -/
def Respects (r : RecordReader α) (table : List (String × Comparison)) (R : α → α → Prop) : Prop :=
  ∀ w v position, WrittenLike table position w v →
    Together R (r.read w position) (r.read v position)

/-- An optional entry is read from what is given. -/
theorem read_optional {w : Written} {position : Nat} : (optional name value).read w position =
    match Comparison.given (w.entry? position name) with
    | some j => (value j).map some
    | none => .ok none := by
  simp only [optional, defaulted]
  rcases w.entry? position name with - | (_ | _ | _ | _ | _ | _) <;> rfl

namespace Respects

theorem required {hlike : ∀ j, like j j} (htable : table[0]? = some (name, .whole like hlike))
    (hv : ∀ {j k}, like j k → Together R (value j) (value k)) :
    Respects (RecordReader.required name value) table R := by
  intro w v position h
  have hentry : Option.Rel like _ _ := h.first htable
  simp only [RecordReader.required]
  generalize w.entry? position name = o, v.entry? position name = p at hentry ⊢
  cases hentry with
  | none => exact .fail
  | some h => exact hv h

theorem defaulted {hlike : ∀ j, like j j} (htable : table[0]? = some (name, .whole like hlike))
    (hR : R fallback fallback) (hv : ∀ {j k}, like j k → Together R (value j) (value k)) :
    Respects (RecordReader.defaulted name fallback value) table R := by
  intro w v position h
  have hentry : Option.Rel like _ _ := h.first htable
  simp only [RecordReader.defaulted]
  generalize w.entry? position name = o, v.entry? position name = p at hentry ⊢
  cases hentry with
  | none => exact .succeed hR
  | some h => exact hv h

theorem optional {hlike : ∀ j, like j j} (htable : table[0]? = some (name, .nullable like hlike))
    (hv : ∀ {j k}, like j k → Together R (value j) (value k)) :
    Respects (RecordReader.optional name value) table (Option.Rel R) := by
  intro w v position h
  have hentry : Option.Rel like (Comparison.given _) (Comparison.given _) := h.first htable
  rw [read_optional, read_optional]
  generalize Comparison.given (w.entry? position name) = o,
    Comparison.given (v.entry? position name) = p at hentry ⊢
  cases hentry with
  | none => exact .succeed .none
  | some h => exact (hv h).map fun _ _ h => .some h

/-! What is there word for word is read the same. -/

theorem requiredExact (htable : table[0]? = some (name, .exact)) :
    Respects (RecordReader.required name value) table Eq :=
  .required htable fun h => h ▸ .refl fun _ => rfl

theorem defaultedExact (htable : table[0]? = some (name, .exact)) :
    Respects (RecordReader.defaulted name fallback value) table Eq :=
  .defaulted htable rfl fun h => h ▸ .refl fun _ => rfl

theorem optionalExact (htable : table[0]? = some (name, .exactOrNull)) :
    Respects (RecordReader.optional name value) table Eq := by
  intro w v position h
  have hentry : Option.Rel Eq (Comparison.given _) (Comparison.given _) := h.first htable
  rw [read_optional, read_optional, optionRel_eq hentry]
  exact .refl fun _ => rfl

theorem map {g : α → β} (hr : Respects r table R) (hg : ∀ {a b}, R a b → S (g a) (g b)) :
    Respects (g <$> r) table S :=
  fun w v position h => (hr w v position h).bind fun _ _ hab => .succeed (hg hab)

/-- The entries of the second reader come after those of the first. What is built from all of them
is related once each of them is, so a reader of many entries leaves that to be shown last, by a
function that takes one relation after the other. -/
theorem seq (hf : Respects f table fun g h => ∀ {a b}, R a b → S (g a) (h b))
    (hr : Respects r (table.drop f.entries.length) R) : Respects (f <*> r) table S := by
  intro w v position h
  refine (hf w v position h).bind fun g h' hgh => ?_
  exact (hr w v _ (h.drop _)).bind fun _ _ hab => .succeed (hgh hab)

/-- A record that is written alike is read together. -/
theorem decode (h : Respects r table R) (hr : r.Vouches) (hR : ∀ a, R a a) {j k : Json}
    (hjk : RecordLike table j k) : Together R (r.decode record j) (r.decode record k) := by
  cases hjk with
  | same j => exact .refl hR
  | object hm hn hrows =>
    -- the order of members decides which error is met first, and nothing else
    refine Together.of_ok_iff (h _ _ 0 fun i row hrow => ?_)
      (fun _ => decode_object_ok_iff hr hm) fun _ => decode_object_ok_iff hr hn
    exact hrows row (List.mem_of_getElem? hrow)
  | @array k l hlength hrows =>
    have hread := h ⟨record, r.entries.length, .inr k⟩ ⟨record, r.entries.length, .inr l⟩ 0
      fun i row hrow => by simpa [Written.entry?] using hrows i row hrow
    refine hread.bind fun a b hab => ?_
    rw [hlength]
    split
    next => exact .fail
    next => exact .succeed hab

end Respects

end RecordReader

/-! ## Fragments

Fragments agree where they differ in the names of classes only, or in trees that are alike and not
decoded yet.
-/

open RecordReader

theorem sameClass_refl (s : String) : SameClass s s := rfl

theorem TypeFragment.together {j k : Json} (h : TypeFragment.Alike j k) :
    Together Eq (TypeFragment.ofJson j) (TypeFragment.ofJson k) := by
  have hreader : TypeFragment.reader.Respects TypeFragment.table Eq := by
    -- what the entries are related by is known from their cases only
    apply Respects.seq (.map ?name ?agrees) ?ns
    case name => exact .requiredExact rfl
    case ns => exact .optionalExact rfl
    case agrees => exact fun hname => fun hns => by rw [hname, hns]
  exact hreader.decode vouches (fun _ => rfl) h

structure IdentifiedFragment.Agrees (f g : IdentifiedFragment) : Prop where
  cls : SameClass f.cls g.cls
  rest : g = { f with cls := g.cls }

theorem IdentifiedFragment.together {j k : Json} (h : IdentifiedFragment.Alike j k) :
    Together IdentifiedFragment.Agrees (IdentifiedFragment.ofJson j)
      (IdentifiedFragment.ofJson k) := by
  have hreader : IdentifiedFragment.reader.Respects IdentifiedFragment.table Agrees := by
    apply Respects.seq (.map ?cls ?agrees) ?name
    case cls => exact .required rfl Decode.text_together
    case name => exact .optionalExact rfl
    case agrees => exact fun hcls => fun hname => ⟨hcls, by rw [hname]⟩
  exact hreader.decode vouches (fun _ => ⟨rfl, rfl⟩) h

structure RuleFragment.Agrees (f g : RuleFragment) : Prop where
  cls : Option.Rel SameClass f.cls g.cls
  rest : g = { f with cls := g.cls }

theorem RuleFragment.Agrees.refl (f : RuleFragment) : Agrees f f :=
  ⟨Comparison.optionRel_refl sameClass_refl _, rfl⟩

theorem RuleFragment.together {j k : Json} (h : RuleFragment.Alike j k) :
    Together RuleFragment.Agrees (RuleFragment.ofJson j) (RuleFragment.ofJson k) := by
  have hreader : RuleFragment.reader.Respects RuleFragment.table Agrees := by
    apply Respects.seq (.seq (.seq (.seq (.seq (.seq (.map ?cls ?agrees) ?pattern) ?flags) ?lower)
      ?upper) ?least) ?most
    case cls => exact .optional rfl Decode.text_together
    case pattern => exact .optionalExact rfl
    case flags => exact .optionalExact rfl
    case lower => exact .optionalExact rfl
    case upper => exact .optionalExact rfl
    case least => exact .optionalExact rfl
    case most => exact .optionalExact rfl
    case agrees =>
      exact fun hcls => fun hpattern => fun hflags => fun hlower => fun hupper => fun hleast =>
        fun hmost => ⟨hcls, by rw [hpattern, hflags, hlower, hupper, hleast, hmost]⟩
  exact hreader.decode vouches Agrees.refl h

structure PropertyFragment.Agrees (f g : PropertyFragment) : Prop where
  cls : SameClass f.cls g.cls
  name : f.name = g.name
  isArray : f.isArray = g.isArray
  isOptional : f.isOptional = g.isOptional
  type : f.type = g.type
  default : f.default = g.default
  rule : Option.Rel RuleFragment.Agrees f.rule g.rule
  lengthRule : Option.Rel RuleFragment.Agrees f.lengthRule g.lengthRule

theorem PropertyFragment.Agrees.refl (f : PropertyFragment) : Agrees f f :=
  ⟨rfl, rfl, rfl, rfl, rfl, rfl, Comparison.optionRel_refl RuleFragment.Agrees.refl _,
    Comparison.optionRel_refl RuleFragment.Agrees.refl _⟩

theorem PropertyFragment.together {j k : Json} (h : PropertyFragment.Alike j k) :
    Together PropertyFragment.Agrees (PropertyFragment.ofJson j) (PropertyFragment.ofJson k) := by
  have hreader : PropertyFragment.reader.Respects PropertyFragment.table Agrees := by
    apply Respects.seq (.seq (.seq (.seq (.seq (.seq (.seq (.map ?cls ?agrees) ?name) ?isArray)
      ?isOptional) ?type) ?default) ?rule) ?lengthRule
    case cls => exact .required rfl Decode.text_together
    case name => exact .requiredExact rfl
    case isArray => exact .defaultedExact rfl
    case isOptional => exact .defaultedExact rfl
    case type => exact .optional rfl TypeFragment.together
    case default => exact .optionalExact rfl
    case rule => exact .optional rfl RuleFragment.together
    case lengthRule => exact .optional rfl RuleFragment.together
    case agrees =>
      exact fun hcls => fun hname => fun hisArray => fun hisOptional => fun htype =>
        fun hdefault => fun hrule => fun hlengthRule =>
          ⟨hcls, hname, hisArray, hisOptional, optionRel_eq htype, hdefault, hrule, hlengthRule⟩
  exact hreader.decode vouches Agrees.refl h

structure DeclarationFragment.Agrees (f g : DeclarationFragment) : Prop where
  cls : SameClass f.cls g.cls
  name : f.name = g.name
  isAbstract : f.isAbstract = g.isAbstract
  superType : f.superType = g.superType
  identified : Option.Rel IdentifiedFragment.Agrees f.identified g.identified
  properties : List.Forall₂ PropertyFragment.Alike f.properties g.properties
  default : f.default = g.default
  rule : Option.Rel RuleFragment.Agrees f.rule g.rule
  lengthRule : Option.Rel RuleFragment.Agrees f.lengthRule g.lengthRule

theorem DeclarationFragment.Agrees.refl (f : DeclarationFragment) : Agrees f f :=
  ⟨rfl, rfl, rfl, rfl, Comparison.optionRel_refl (fun _ => ⟨rfl, rfl⟩) _,
    List.forall₂_same.mpr fun j _ => .same j, rfl,
    Comparison.optionRel_refl RuleFragment.Agrees.refl _,
    Comparison.optionRel_refl RuleFragment.Agrees.refl _⟩

/-- What is not decoded yet stays as it is. -/
theorem Decode.any_together {like : Json → Json → Prop} {j k : Json} (h : like j k) :
    Together like (Decode.any j) (Decode.any k) :=
  .succeed h

theorem DeclarationFragment.together {j k : Json} (h : DeclarationFragment.Alike j k) :
    Together DeclarationFragment.Agrees (DeclarationFragment.ofJson j)
      (DeclarationFragment.ofJson k) := by
  have hreader : DeclarationFragment.reader.Respects DeclarationFragment.table Agrees := by
    apply Respects.seq (.seq (.seq (.seq (.seq (.seq (.seq (.seq (.map ?cls ?agrees) ?name)
      ?isAbstract) ?superType) ?identified) ?properties) ?default) ?rule) ?lengthRule
    case cls => exact .required rfl Decode.text_together
    case name => exact .requiredExact rfl
    case isAbstract => exact .defaultedExact rfl
    case superType => exact .optional rfl TypeFragment.together
    case identified => exact .optional rfl IdentifiedFragment.together
    case properties => exact .defaulted rfl .nil (Decode.list_together .same Decode.any_together)
    case default => exact .optionalExact rfl
    case rule => exact .optional rfl RuleFragment.together
    case lengthRule => exact .optional rfl RuleFragment.together
    case agrees =>
      exact fun hcls => fun hname => fun hisAbstract => fun hsuperType => fun hidentified =>
        fun hproperties => fun hdefault => fun hrule => fun hlengthRule =>
          ⟨hcls, hname, hisAbstract, optionRel_eq hsuperType, hidentified, hproperties, hdefault,
            hrule, hlengthRule⟩
  exact hreader.decode vouches Agrees.refl h

structure ImportFragment.Agrees (f g : ImportFragment) : Prop where
  cls : SameClass f.cls g.cls
  rest : g = { f with cls := g.cls }

theorem ImportFragment.Agrees.refl (f : ImportFragment) : Agrees f f := ⟨rfl, rfl⟩

theorem ImportFragment.together {j k : Json} (h : ImportFragment.Alike j k) :
    Together ImportFragment.Agrees (ImportFragment.ofJson j) (ImportFragment.ofJson k) := by
  have hreader : ImportFragment.reader.Respects ImportFragment.table Agrees := by
    apply Respects.seq (.seq (.seq (.map ?cls ?agrees) ?ns) ?name) ?types
    case cls => exact .required rfl Decode.text_together
    case ns => exact .requiredExact rfl
    case name => exact .optionalExact rfl
    case types => exact .defaultedExact rfl
    case agrees =>
      exact fun hcls => fun hns => fun hname => fun htypes => ⟨hcls, by rw [hns, hname, htypes]⟩
  exact hreader.decode vouches Agrees.refl h

structure ModelFragment.Agrees (f g : ModelFragment) : Prop where
  cls : Option.Rel SameClass f.cls g.cls
  ns : f.ns = g.ns
  imports : List.Forall₂ ImportFragment.Agrees f.imports g.imports
  declarations : List.Forall₂ DeclarationFragment.Alike f.declarations g.declarations

theorem ModelFragment.Agrees.refl (f : ModelFragment) : Agrees f f :=
  ⟨Comparison.optionRel_refl sameClass_refl _, rfl,
    List.forall₂_same.mpr fun f _ => ImportFragment.Agrees.refl f,
    List.forall₂_same.mpr fun j _ => .same j⟩

theorem ModelFragment.together {j k : Json} (h : ModelFragment.Alike j k) :
    Together ModelFragment.Agrees (ModelFragment.ofJson j) (ModelFragment.ofJson k) := by
  have hreader : ModelFragment.reader.Respects ModelFragment.table Agrees := by
    apply Respects.seq (.seq (.seq (.map ?cls ?agrees) ?ns) ?imports) ?declarations
    case cls => exact .optional rfl Decode.text_together
    case ns => exact .requiredExact rfl
    case imports =>
      exact .defaulted rfl .nil
        (Decode.list_together ImportFragment.Agrees.refl ImportFragment.together)
    case declarations => exact .defaulted rfl .nil (Decode.list_together .same Decode.any_together)
    case agrees =>
      exact fun hcls => fun hns => fun himports => fun hdeclarations =>
        ⟨hcls, hns, himports, hdeclarations⟩
  exact hreader.decode vouches Agrees.refl h

/-! ## What fragments make -/

theorem optionRel_isSome {α : Type} {R : α → α → Prop} {a b : Option α} (h : Option.Rel R a b) :
    a.isSome = b.isSome := by
  cases h with
  | none => rfl
  | some _ => rfl

theorem Rule.classOf_agree {f g : RuleFragment} (h : f.Agrees g) :
    Rule.classOf f = Rule.classOf g := by
  obtain ⟨hcls, hrest⟩ := h
  rw [hrest]
  simp only [classOf]
  generalize f.cls = a, g.cls = b at hcls ⊢
  cases hcls with
  | none => rfl
  | some h =>
    have hlast : Qualified.lastPart _ = Qualified.lastPart _ := h
    simp only [RuleClass.of?, hlast]

theorem Rule.ofFragment_agree {f g : RuleFragment} (h : f.Agrees g) :
    Rule.ofFragment f = Rule.ofFragment g := by
  unfold Rule.ofFragment
  rw [Rule.classOf_agree h, h.rest]

theorem Rule.lengthOfFragment_agree {f g : RuleFragment} (h : f.Agrees g) :
    Rule.lengthOfFragment f = Rule.lengthOfFragment g := by
  unfold Rule.lengthOfFragment
  rw [Rule.ofFragment_agree h]

theorem Property.optionally_agree {α : Type} {build : RuleFragment → Except RuleFault α}
    (hbuild : ∀ f g, f.Agrees g → build f = build g) {a b : Option RuleFragment}
    (h : Option.Rel RuleFragment.Agrees a b) :
    Property.optionally build a = Property.optionally build b := by
  cases h with
  | none => rfl
  | some h => simp only [optionally, hbuild _ _ h]

/-- Only the error for an unknown class shows the class as it was written. -/
theorem Property.typeOf_together {f g : PropertyFragment} (h : f.Agrees g) :
    Together Eq (Property.typeOf f) (Property.typeOf g) := by
  have hclass : PropertyClass.of? f.cls = PropertyClass.of? g.cls := by
    unfold PropertyClass.of?
    rw [h.cls]
  have hrule := optionRel_isSome h.rule
  have hlengthRule := optionRel_isSome h.lengthRule
  cases hg : PropertyClass.of? g.cls with
  | none =>
    simp only [typeOf, hclass, hg]
    exact .fail
  | some c =>
    -- of the rules it only counts whether they are there
    have htype : typeOf f = typeOf g := by
      simp only [typeOf, hclass, hg, h.type, h.isArray, h.default, hrule, hlengthRule]
      cases c <;> cases g.type <;> rfl
    rw [htype]
    exact .refl fun _ => rfl

theorem Property.ofFragment_together {f g : PropertyFragment} (h : f.Agrees g) :
    Together Eq (Property.ofFragment f) (Property.ofFragment g) := by
  unfold Property.ofFragment
  refine (Property.typeOf_together h).mapError.bind fun type _ htype => ?_
  subst htype
  rw [Property.optionally_agree (fun _ _ => Rule.ofFragment_agree) h.rule,
    Property.optionally_agree (fun _ _ => Rule.lengthOfFragment_agree) h.lengthRule,
    h.name, h.isArray, h.isOptional, h.default]
  exact .refl fun _ => rfl

theorem Property.ofJson_together {j k : Json} (h : PropertyFragment.Alike j k) :
    Together Eq (Property.ofJson j) (Property.ofJson k) :=
  (PropertyFragment.together h).mapError.bind fun _ _ => Property.ofFragment_together

namespace Declaration

variable {f g : DeclarationFragment}

theorem readProperties_together {owner : String} {k l : List Json}
    (h : List.Forall₂ PropertyFragment.Alike k l) (done : List Property) :
    Together Eq (readProperties owner k done) (readProperties owner l done) := by
  induction h generalizing done with
  | nil => exact .succeed rfl
  | cons hjk _ ih =>
    refine (Property.ofJson_together hjk).mapError.bind fun p _ hp => ?_
    subst hp
    split
    next => exact .fail
    next => exact ih _

theorem identifierOf_agree {f g : IdentifiedFragment} (h : f.Agrees g) :
    identifierOf f = identifierOf g := by
  have hcls : Qualified.lastPart f.cls = Qualified.lastPart g.cls := h.cls
  rw [h.rest]
  simp only [identifierOf, hcls]

theorem optionalIdentifier_agree {a b : Option IdentifiedFragment}
    (h : Option.Rel IdentifiedFragment.Agrees a b) :
    optionalIdentifier a = optionalIdentifier b := by
  cases h with
  | none => rfl
  | some h => simp only [optionalIdentifier, identifierOf_agree h]

theorem hasClassAttributes_agree (h : f.Agrees g) :
    hasClassAttributes f = hasClassAttributes g := by
  simp only [hasClassAttributes, h.superType, h.isAbstract, optionRel_isSome h.identified]

theorem classOf_agree (h : f.Agrees g) (kind : ClassKind) (properties : List Property) :
    classOf f kind properties = classOf g kind properties := by
  simp only [classOf, h.superType, h.isAbstract, h.default, optionRel_isSome h.rule,
    optionRel_isSome h.lengthRule, optionalIdentifier_agree h.identified]

theorem enumOf_agree (h : f.Agrees g) (properties : List Property) :
    enumOf f properties = enumOf g properties := by
  simp only [enumOf, hasClassAttributes_agree h]

theorem scalarOf_agree (h : f.Agrees g) (owner : String) (p : Primitive)
    (properties : List Property) :
    scalarOf owner f p properties = scalarOf owner g p properties := by
  simp only [scalarOf, Scalar.ofFragment, hasClassAttributes_agree h, h.default,
    Property.optionally_agree (fun _ _ => Rule.ofFragment_agree) h.rule,
    Property.optionally_agree (fun _ _ => Rule.lengthOfFragment_agree) h.lengthRule]

theorem ofFragment_together (ns : String) (h : f.Agrees g) :
    Together Eq (ofFragment ns f) (ofFragment ns g) := by
  have hclass : DeclarationClass.of? f.cls = DeclarationClass.of? g.cls := by
    unfold DeclarationClass.of?
    rw [h.cls]
  unfold ofFragment
  rw [hclass, h.name]
  cases DeclarationClass.of? g.cls with
  | none => exact .fail
  | some c =>
    refine (readProperties_together h.properties []).bind fun properties _ hp => ?_
    subst hp
    simp only [classOf_agree h, enumOf_agree h, scalarOf_agree h]
    exact .refl fun _ => rfl

theorem ofJson_together (ns : String) {j k : Json} (h : DeclarationFragment.Alike j k) :
    Together Eq (ofJson ns j) (ofJson ns k) :=
  (DeclarationFragment.together h).mapError.mapError.bind fun _ _ => ofFragment_together ns

end Declaration

theorem Import.ofFragment_agree {f g : ImportFragment} (h : f.Agrees g) :
    Import.ofFragment f = Import.ofFragment g := by
  have hcls : Qualified.lastPart f.cls = Qualified.lastPart g.cls := h.cls
  rw [h.rest]
  simp only [ofFragment, ImportClass.of?, hcls]

namespace ModelFile

theorem readDeclarations_together {ns : String} {k l : List Json}
    (h : List.Forall₂ DeclarationFragment.Alike k l) (done : List Declaration) :
    Together Eq (readDeclarations ns k done) (readDeclarations ns l done) := by
  induction h generalizing done with
  | nil => exact .succeed rfl
  | cons hjk _ ih =>
    refine (Declaration.ofJson_together ns hjk).bind fun d _ hd => ?_
    subst hd
    split
    next => exact .fail
    next => exact ih _

theorem checkClass_agree {a b : Option String} (h : Option.Rel SameClass a b) :
    checkClass a = checkClass b := by
  cases h with
  | none => rfl
  | some h =>
    have hlast : Qualified.lastPart _ = Qualified.lastPart _ := h
    simp only [checkClass, hlast]

theorem ofFragment_together {f g : ModelFragment} (h : f.Agrees g) :
    Together Eq (ofFragment f) (ofFragment g) := by
  unfold ofFragment
  rw [h.ns, checkClass_agree h.cls]
  dsimp only
  split
  next => exact .fail
  next =>
    -- the check of the class is one and the same on both sides
    refine (Together.refl fun _ => rfl).bind fun _ _ _ => ?_
    have himports : Together (List.Forall₂ Eq) (f.imports.mapM Import.ofFragment)
        (g.imports.mapM Import.ofFragment) :=
      .mapM h.imports fun _ _ h => Import.ofFragment_agree h ▸ .refl fun _ => rfl
    refine himports.mapError.bind fun imports _ hi => ?_
    obtain rfl := List.forall₂_eq_eq_eq ▸ hi
    refine (readDeclarations_together h.declarations []).bind fun declarations _ hd => ?_
    subst hd
    exact .succeed rfl

/-- Of two model trees that differ in presentation only, neither makes a file or both make the same
one. -/
theorem ofJson_alike {j k : Json} (h : ModelFragment.Alike j k) :
    (∃ e d, ofJson j = .error e ∧ ofJson k = .error d) ∨
      ∃ file, ofJson j = .ok file ∧ ofJson k = .ok file := by
  refine Together.eq_iff.mp ?_
  exact (ModelFragment.together h).mapError.bind fun _ _ => ofFragment_together

end ModelFile

namespace Sample

/-- A file of one class, whose field has a rule. -/
def tack : Json := .object [
  ("namespace", .string "zoo"),
  ("imports", .array [.object [
    ("$class", .string "ImportType"), ("namespace", .string "farm"), ("name", .string "Barn")]]),
  ("declarations", .array [.object [
    ("$class", .string "ConceptDeclaration"), ("name", .string "Tack"),
    ("properties", .array [.object [
      ("$class", .string "StringProperty"), ("name", .string "label"),
      ("lengthValidator", .object [("minLength", .number (.integer 1))])]])]])]

/-- The same with full class names, null for what was absent, members that mean nothing and every
object in another order. -/
def polishedTack : Json := .object [
  ("declarations", .array [.object [
    ("properties", .array [.object [
      ("lengthValidator", .object [("maxLength", .null), ("minLength", .number (.integer 1)),
        ("$class", .null)]),
      ("name", .string "label"), ("decorators", .array []), ("defaultValue", .null),
      ("$class", .string "concerto.metamodel@1.0.0.StringProperty")]]),
    ("superType", .null), ("$class", .string "concerto.metamodel@1.0.0.ConceptDeclaration"),
    ("location", .bool true), ("name", .string "Tack")]]),
  ("imports", .array [.object [
    ("uri", .null), ("name", .string "Barn"), ("namespace", .string "farm"),
    ("$class", .string "concerto.metamodel@1.0.0.ImportType")]]),
  ("sourceUri", .string "tack"), ("$class", .null), ("namespace", .string "zoo")]

theorem tack_alike : ModelFragment.Alike tack polishedTack := by
  refine .object (by decide) (by decide) ?_
  simp only [ModelFragment.table, List.forall_mem_cons]
  refine ⟨.none, .some rfl, .some (.array (.cons ?barn .nil)), .some (.array (.cons ?tack .nil)),
    List.forall_mem_nil _⟩
  case barn =>
    refine .object (by decide) (by decide) ?_
    simp only [ImportFragment.table, List.forall_mem_cons]
    exact ⟨.some (.text rfl), .some rfl, .some rfl, .none, List.forall_mem_nil _⟩
  refine .object (by decide) (by decide) ?_
  simp only [DeclarationFragment.table, List.forall_mem_cons]
  refine ⟨.some (.text rfl), .some rfl, .none, .none, .none, .some (.array (.cons ?label .nil)),
    .none, .none, .none, List.forall_mem_nil _⟩
  refine .object (by decide) (by decide) ?_
  simp only [PropertyFragment.table, List.forall_mem_cons]
  refine ⟨.some (.text rfl), .some rfl, .none, .none, .none, .none, .none, .some ?rule,
    List.forall_mem_nil _⟩
  refine .object (by decide) (by decide) ?_
  simp only [RuleFragment.table, List.forall_mem_cons]
  exact ⟨.none, .none, .none, .none, .none, .some rfl, .none, List.forall_mem_nil _⟩

end Sample

theorem ModelFile.ofJson_alike_tack : ModelFragment.Alike Sample.tack Sample.polishedTack ∧
    ∃ file, ModelFile.ofJson Sample.tack = .ok file ∧
      ModelFile.ofJson Sample.polishedTack = .ok file := by
  refine ⟨Sample.tack_alike, ?_⟩
  rcases ModelFile.ofJson_alike Sample.tack_alike with ⟨e, d, he, -⟩ | hsame
  · cases he
  · exact hsame

end ModelCatalog
