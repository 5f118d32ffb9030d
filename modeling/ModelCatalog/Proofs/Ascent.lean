import Mathlib.Data.List.Nodup
import ModelCatalog.Catalog.Check
import ModelCatalog.Proofs.Reference

/-! # The way up

From a declaration to its super type, to the super type of that, and so on. The search for ancestors
follows this way until it ends or something stands in it, and the first thing that does decides the
answer. The bound on the search never does: the names on a way without repetition are names of the
catalog.
-/
namespace ModelCatalog

namespace Catalog

/-- The declarations met on the way up from one to another, in the order in which they are met. -/
inductive Ascent (c : Catalog) (d : Declaration) : List Declaration → Declaration → Prop
  | start : Ascent c d [] d
  | up {as : List Declaration} {top parent : Declaration} :
    Ascent c d as top → c.Extends top parent → Ascent c d (as ++ [parent]) parent

/-- The names on a way up, from where it starts. -/
def pathNames (d : Declaration) (as : List Declaration) : List String :=
  (d :: as).map (·.qualifiedName)

/-- A way up on which no name is met twice and which keeps to the limit, if there is one. -/
structure Clear (c : Catalog) (cap : Option Nat) (d : Declaration) (as : List Declaration)
    (top : Declaration) : Prop where
  ascent : c.Ascent d as top
  distinct : (pathNames d as).Nodup
  within : ∀ n ∈ cap, as.length ≤ n

/-- What the way up from a declaration comes to: it ends, or the first thing in its way is a super
type that is missing, one whose name was met before, or one too many for the limit. -/
inductive Outcome (c : Catalog) (cap : Option Nat) (d : Declaration) :
    Except ModelError (List Declaration) → Prop
  | ends {as : List Declaration} {top : Declaration} :
    c.Clear cap d as top → top.superType? = none → Outcome c cap d (.ok as)
  | missing {as : List Declaration} {top : Declaration} {t : TypeName} :
    c.Clear cap d as top → top.superType? = some t → (∀ e, ¬ c.Refers top t e) →
    Outcome c cap d (.error (.typeNotFound t.text (some (.superTypeOf top.qualifiedName))))
  | circle {as : List Declaration} {top parent : Declaration} :
    c.Clear cap d as top → c.Extends top parent → parent.qualifiedName ∈ pathNames d as →
    Outcome c cap d (.error (.circularInheritance d.qualifiedName
      (pathNames d as ++ [parent.qualifiedName])))
  | deep {as : List Declaration} {top parent : Declaration} :
    c.Clear cap d as top → c.Extends top parent → parent.qualifiedName ∉ pathNames d as →
    cap = some as.length →
    Outcome c cap d (.error (.illegalDeclaration d.qualifiedName (.chainTooDeep as.length)))

variable {c : Catalog} {cap : Option Nat} {d : Declaration}

@[simp] theorem pathNames_concat {as : List Declaration} {e : Declaration} :
    pathNames d (as ++ [e]) = pathNames d as ++ [e.qualifiedName] := by simp [pathNames]

@[simp] theorem length_pathNames {as : List Declaration} :
    (pathNames d as).length = as.length + 1 := by simp [pathNames]

theorem nodup_pathNames_concat {as : List Declaration} {e : Declaration} :
    (pathNames d (as ++ [e])).Nodup ↔
      (pathNames d as).Nodup ∧ e.qualifiedName ∉ pathNames d as := by
  rw [pathNames_concat, ← List.concat_eq_append, List.nodup_concat]
  exact And.comm

/-! ## Ways up as lists -/

@[simp] theorem ascent_nil {top : Declaration} : c.Ascent d [] top ↔ top = d := by
  constructor
  · intro h
    generalize ha : ([] : List Declaration) = as at h
    cases h with
    | start => rfl
    | up => simp at ha
  · rintro rfl
    exact .start

@[simp] theorem ascent_cons {e top : Declaration} {as : List Declaration} :
    c.Ascent d (e :: as) top ↔ c.Extends d e ∧ c.Ascent e as top := by
  constructor
  · intro h
    generalize ha : e :: as = bs at h
    induction h generalizing as with
    | start => cases ha
    | @up bs top parent h he ih =>
      cases bs with
      | nil =>
        obtain ⟨rfl, rfl⟩ := List.cons.inj ha
        exact ⟨ascent_nil.mp h ▸ he, .start⟩
      | cons b bs =>
        obtain ⟨rfl, rfl⟩ := List.cons.inj ha
        exact ⟨(ih rfl).1, (ih rfl).2.up he⟩
  · rintro ⟨he, h⟩
    induction h with
    | start => exact .up .start he
    | up _ hp ih => exact ih.up hp

theorem ascent_append {as bs : List Declaration} {top : Declaration} :
    c.Ascent d (as ++ bs) top ↔ ∃ mid, c.Ascent d as mid ∧ c.Ascent mid bs top := by
  induction as generalizing d with
  | nil => simp
  | cons a as ih => simp [ih, and_assoc]

/-- The declarations above a declaration are those that a way up leads to. -/
theorem Ascent.above {as : List Declaration} {top a : Declaration} (h : c.Ascent d as top)
    (ha : a ∈ as) : Relation.TransGen c.Extends d a := by
  induction as generalizing d with
  | nil => simp at ha
  | cons e as ih =>
    obtain ⟨he, h⟩ := ascent_cons.mp h
    rcases List.mem_cons.mp ha with rfl | ha
    · exact .single he
    · exact .head he (ih h ha)

/-- Two ways up from a declaration agree as far as the shorter goes, so one that ends contains
every other. -/
theorem Ascent.prefix_of_ends {as bs : List Declaration} {top top' : Declaration}
    (h : c.Ascent d as top) (h' : c.Ascent d bs top') (hend : top'.superType? = none) :
    as <+: bs := by
  induction as generalizing d bs with
  | nil => exact List.nil_prefix
  | cons a as ih =>
    obtain ⟨ha, h⟩ := ascent_cons.mp h
    cases bs with
    | nil =>
      obtain rfl := ascent_nil.mp h'
      obtain ⟨t, ht, -⟩ := ha
      simp [hend] at ht
    | cons b bs =>
      obtain ⟨hb, h'⟩ := ascent_cons.mp h'
      obtain rfl := ha.unique hb
      exact List.cons_prefix_cons.mpr ⟨rfl, ih h h'⟩

theorem exists_ascent_of_above {a : Declaration} (h : Relation.TransGen c.Extends d a) :
    ∃ as, c.Ascent d (as ++ [a]) a := by
  induction h with
  | single he => exact ⟨[], .up .start he⟩
  | tail _ he ih =>
    obtain ⟨as, h⟩ := ih
    exact ⟨_, h.up he⟩

/-- A way up that ends has met all that is above. -/
theorem Ascent.mem_iff_above {as : List Declaration} {top a : Declaration} (h : c.Ascent d as top)
    (hend : top.superType? = none) : a ∈ as ↔ Relation.TransGen c.Extends d a := by
  refine ⟨h.above, fun ha => ?_⟩
  obtain ⟨bs, hb⟩ := exists_ascent_of_above ha
  exact (hb.prefix_of_ends h hend).subset (by simp)

/-! ## Ways up stay in the catalog -/

theorem Ascent.mem (hc : c.Coherent) (hd : d ∈ c.declarations) {as : List Declaration}
    {top : Declaration} (h : c.Ascent d as top) : top ∈ c.declarations := by
  cases h with
  | start => exact hd
  | up _ he => exact he.mem hc

theorem Ascent.subset (hc : c.Coherent) {as : List Declaration} {top : Declaration}
    (h : c.Ascent d as top) : ∀ a ∈ as, a ∈ c.declarations := by
  induction h with
  | start => simp
  | up _ he ih =>
    intro a ha
    rcases List.mem_append.mp ha with ha | ha
    · exact ih a ha
    · exact List.mem_singleton.mp ha ▸ he.mem hc

/-- Distinct names on the way up belong to as many declarations of the catalog. -/
theorem Ascent.length_le (hc : c.Coherent) {as : List Declaration} {top : Declaration}
    (h : c.Ascent d as top) (hn : (pathNames d as).Nodup) : as.length ≤ c.count := by
  have hsub : as.map (·.qualifiedName) ⊆ c.declarations.map (·.qualifiedName) :=
    List.map_subset _ (h.subset hc)
  have := (List.nodup_cons.mp hn).2.length_le_of_subset hsub
  simpa [count] using this

theorem Clear.concat {as : List Declaration} {top parent : Declaration}
    (h : c.Clear cap d as top) (he : c.Extends top parent)
    (hn : parent.qualifiedName ∉ pathNames d as) (hcap : cap ≠ some as.length) :
    c.Clear cap d (as ++ [parent]) parent where
  ascent := h.ascent.up he
  distinct := nodup_pathNames_concat.mpr ⟨h.distinct, hn⟩
  within := by
    intro n hcn
    have := h.within n hcn
    have hne : n ≠ as.length := fun he => hcap (he ▸ hcn)
    rw [List.length_append, List.length_singleton]
    omega

/-- Where a clear way stands, it ends, is blocked or goes on. -/
theorem Clear.outcome_or_concat {as : List Declaration} {top : Declaration}
    (h : c.Clear cap d as top) :
    (∃ r, c.Outcome cap d r) ∨ ∃ parent, c.Clear cap d (as ++ [parent]) parent := by
  cases ht : top.superType? with
  | none => exact .inl ⟨_, .ends h ht⟩
  | some t =>
    by_cases hm : ∃ e, c.Refers top t e
    · obtain ⟨parent, hr⟩ := hm
      have he : c.Extends top parent := ⟨t, ht, hr⟩
      by_cases hn : parent.qualifiedName ∈ pathNames d as
      · exact .inl ⟨_, .circle h he hn⟩
      · by_cases hcap : cap = some as.length
        · exact .inl ⟨_, .deep h he hn hcap⟩
        · exact .inr ⟨parent, h.concat he hn hcap⟩
    · exact .inl ⟨_, .missing h ht (not_exists.mp hm)⟩

/-- Every way up comes to something, since a clear one cannot outgrow the catalog. -/
theorem exists_outcome (hc : c.Coherent) (cap : Option Nat) (d : Declaration) :
    ∃ r, c.Outcome cap d r := by
  have go : ∀ n (as : List Declaration) (top : Declaration), c.Clear cap d as top →
      n + as.length = c.count → ∃ r, c.Outcome cap d r := by
    intro n
    induction n with
    | zero =>
      intro as top h hl
      rcases h.outcome_or_concat with hr | ⟨parent, h'⟩
      · exact hr
      · have := h'.ascent.length_le hc h'.distinct
        rw [List.length_append, List.length_singleton] at this
        omega
    | succ n ih =>
      intro as top h hl
      rcases h.outcome_or_concat with hr | ⟨parent, h'⟩
      · exact hr
      · refine ih _ _ h' ?_
        rw [List.length_append, List.length_singleton]
        omega
  exact go c.count [] d ⟨.start, by simp [pathNames], by simp⟩ (by simp)

/-! ## The search follows the way up -/

section

variable {root : String} {room : Nat} {path : List String} {top parent : Declaration}

theorem climb_of_none (h : top.superType? = none) : c.climb cap root room path top = .ok [] := by
  unfold climb
  rw [superType?_of_none h]
  rfl

theorem climb_of_error {e : ModelError} (h : c.superType? top = .error e) :
    c.climb cap root room path top = .error e := by
  unfold climb
  rw [h]
  rfl

theorem climb_of_circle (h : c.Extends top parent) (hn : parent.qualifiedName ∈ path) :
    c.climb cap root room path top
      = .error (.circularInheritance root (path ++ [parent.qualifiedName])) := by
  unfold climb
  rw [superType?_eq_some_iff.mpr h]
  simp [bind, Except.bind, hn]

theorem climb_of_deep {n : Nat} (h : c.Extends top parent) (hn : parent.qualifiedName ∉ path)
    (hl : n < path.length) :
    c.climb (some n) root (room + 1) path top
      = .error (.illegalDeclaration root (.chainTooDeep n)) := by
  unfold climb
  rw [superType?_eq_some_iff.mpr h]
  simp [bind, Except.bind, hn, hl, Option.filter]

theorem climb_of_extends (h : c.Extends top parent) (hn : parent.qualifiedName ∉ path)
    (hl : ∀ n ∈ cap, path.length ≤ n) :
    c.climb cap root (room + 1) path top
      = (c.climb cap root room (path ++ [parent.qualifiedName]) parent).map (parent :: ·) := by
  have hf : cap.filter (· < path.length) = none := by
    rw [Option.filter_eq_none_iff]
    intro n hcn
    simpa using hl n hcn
  rw [climb, superType?_eq_some_iff.mpr h]
  simp only [bind, Except.bind, List.contains_eq_mem, hn, decide_false, hf]
  cases c.climb cap root room (path ++ [parent.qualifiedName]) parent <;> rfl

end

/-- At the end of a clear way, the search has found what is on it and still has room for the rest
of the catalog. -/
theorem ancestors_of_clear (hc : c.Coherent) {as : List Declaration} {top : Declaration}
    (h : c.Clear cap d as top) :
    c.ancestors cap d = (c.climb cap d.qualifiedName (c.count - as.length) (pathNames d as) top).map
      (as ++ ·) := by
  obtain ⟨ha, hn, hw⟩ := h
  induction ha with
  | start =>
    simp only [ancestors, pathNames, List.nil_append, List.length_nil, Nat.sub_zero]
    exact (congrFun Except.map_id _).symm
  | @up as top parent ha he ih =>
    have hl := (ha.up he).length_le hc hn
    obtain ⟨hn, hfresh⟩ := nodup_pathNames_concat.mp hn
    rw [List.length_append, List.length_singleton] at hl hw
    have hroom : c.count - as.length = c.count - (as.length + 1) + 1 := by omega
    rw [ih hn (fun n hcn => Nat.le_of_succ_le (hw n hcn)), hroom,
      climb_of_extends he hfresh (by simpa using hw), pathNames_concat, List.length_append,
      List.length_singleton]
    cases c.climb cap d.qualifiedName (c.count - (as.length + 1))
      (pathNames d as ++ [parent.qualifiedName]) parent <;> simp [Except.map]

/-- What the way up comes to is what the search answers. -/
theorem Outcome.ancestors_eq (hc : c.Coherent) (hd : d ∈ c.declarations)
    {r : Except ModelError (List Declaration)} (h : c.Outcome cap d r) : c.ancestors cap d = r := by
  cases h with
  | @ends as top h ht =>
    rw [ancestors_of_clear hc h, climb_of_none ht]
    simp [Except.map]
  | missing h ht hm =>
    rw [ancestors_of_clear hc h,
      climb_of_error (superType?_of_missing hc (h.ascent.mem hc hd) ht hm)]
    rfl
  | circle h he hn =>
    rw [ancestors_of_clear hc h, climb_of_circle he hn]
    rfl
  | @deep as top parent h he hn hcap =>
    subst hcap
    -- the super type in the way is one more declaration of the catalog, so there is room for it
    have hl := (h.ascent.up he).length_le hc (nodup_pathNames_concat.mpr ⟨h.distinct, hn⟩)
    rw [List.length_append, List.length_singleton] at hl
    have hroom : c.count - as.length = c.count - (as.length + 1) + 1 := by omega
    rw [ancestors_of_clear hc h, hroom, climb_of_deep he hn (by simp)]
    rfl

theorem ancestors_eq_iff_outcome (hc : c.Coherent) (hd : d ∈ c.declarations)
    {r : Except ModelError (List Declaration)} : c.ancestors cap d = r ↔ c.Outcome cap d r := by
  constructor
  · rintro rfl
    obtain ⟨r, hr⟩ := exists_outcome hc cap d
    exact hr.ancestors_eq hc hd ▸ hr
  · exact Outcome.ancestors_eq hc hd

theorem ancestors_eq_ok_iff (hc : c.Coherent) (hd : d ∈ c.declarations) {as : List Declaration} :
    c.ancestors cap d = .ok as ↔ ∃ top, c.Clear cap d as top ∧ top.superType? = none := by
  rw [ancestors_eq_iff_outcome hc hd]
  constructor
  · intro h
    cases h with
    | ends h ht => exact ⟨_, h, ht⟩
  · rintro ⟨top, h, ht⟩
    exact .ends h ht

/-- A limit only ever rejects. -/
theorem ancestors_none (hc : c.Coherent) (hd : d ∈ c.declarations) {as : List Declaration}
    (h : c.ancestors cap d = .ok as) : c.ancestors none d = .ok as := by
  rw [ancestors_eq_ok_iff hc hd] at h ⊢
  obtain ⟨top, ⟨ha, hn, -⟩, hend⟩ := h
  exact ⟨top, ⟨ha, hn, by simp⟩, hend⟩

/-- The ancestors of an ancestor come last among those of a declaration. -/
theorem ancestors_of_above (hc : c.Coherent) (hd : d ∈ c.declarations) {a : Declaration}
    {as bs : List Declaration} (h : c.ancestors cap d = .ok as) (ha : c.ancestors cap a = .ok bs)
    (hup : Relation.TransGen c.Extends d a) : ∃ below, as = below ++ a :: bs := by
  obtain ⟨below, hb⟩ := exists_ascent_of_above hup
  obtain ⟨top, h, hend⟩ := (ancestors_eq_ok_iff hc hd).mp h
  have had := mem_of_reaches hc hd hup.to_reflTransGen
  obtain ⟨top', h', hend'⟩ := (ancestors_eq_ok_iff hc had).mp ha
  have hall : c.Ascent d ((below ++ [a]) ++ bs) top' := ascent_append.mpr ⟨a, hb, h'.ascent⟩
  have hle := h.ascent.prefix_of_ends hall hend'
  have hge := hall.prefix_of_ends h.ascent hend
  refine ⟨below, ?_⟩
  rw [hle.eq_of_length_le hge.length_le, List.append_assoc, List.singleton_append]

/-- Every way up from a declaration whose ancestors are found is clear. -/
theorem Ascent.clear_of_ancestors (hc : c.Coherent) (hd : d ∈ c.declarations)
    {as bs : List Declaration} {top : Declaration} (h : c.ancestors cap d = .ok bs)
    (ha : c.Ascent d as top) : c.Clear cap d as top := by
  obtain ⟨top', ⟨h', hn, hw⟩, hend⟩ := (ancestors_eq_ok_iff hc hd).mp h
  obtain ⟨rest, rfl⟩ := ha.prefix_of_ends h' hend
  refine ⟨ha, ?_, ?_⟩
  · rw [pathNames, ← List.cons_append, List.map_append] at hn
    exact (List.nodup_append.mp hn).1
  · intro n hcn
    have := hw n hcn
    rw [List.length_append] at this
    omega

/-! ## Accepted catalogs -/

theorem check_ok_iff : c.check = .ok () ↔
    c.settings.resolution.maxDepth ≠ some 0 ∧
      (∀ file ∈ c.files, ∀ i ∈ file.imports, c.checkImport file i = .ok ()) ∧
      ∀ d ∈ c.declarations, c.checkDeclaration d = .ok () := by
  have hsettings : checkSettings c.settings = .ok () ↔
      c.settings.resolution.maxDepth ≠ some 0 := by
    simp [checkSettings, Settings.isSound]
  simp only [check, checkFile, check_bind_ok_iff, forM_ok_iff, hsettings, mem_declarations]
  refine and_congr_right fun _ =>
    ⟨fun h => ⟨fun f hf => (h f hf).1, ?_⟩, fun h f hf => ⟨h.1 f hf, ?_⟩⟩
  · rintro d ⟨f, hf, hd⟩
    exact (h f hf).2 d hd
  · exact fun d hd => h.2 d ⟨f, hf, hd⟩

theorem ancestors_of_check (h : c.check = .ok ()) (hd : d ∈ c.declarations) :
    ∃ as, c.ancestors c.settings.resolution.maxDepth d = .ok as := by
  obtain ⟨_, -, h⟩ := bind_ok_iff.mp ((check_ok_iff.mp h).2.2 d hd)
  obtain ⟨_, -, h⟩ := bind_ok_iff.mp h
  obtain ⟨as, ha, -⟩ := bind_ok_iff.mp h
  exact ⟨as, ha⟩

/-- The search finds exactly the ways up that end without repetition and within the limit, the
first thing in the way of any other is what it reports, and no accepted catalog has a circle. -/
theorem ancestors_decided (hr : c.Reachable) (hd : d ∈ c.declarations) (cap : Option Nat) :
    (∀ as, c.ancestors cap d = .ok as ↔ ∃ top, c.Ascent d as top ∧ top.superType? = none ∧
      (pathNames d as).Nodup ∧ ∀ n ∈ cap, as.length ≤ n) ∧
    (∀ r, c.ancestors cap d = r ↔ c.Outcome cap d r) ∧
    (c.check = .ok () → ∀ as top, c.Ascent d as top → (pathNames d as).Nodup) := by
  have hc := hr.coherent
  refine ⟨fun as => ?_, fun r => ancestors_eq_iff_outcome hc hd, fun h as top ha => ?_⟩
  · rw [ancestors_eq_ok_iff hc hd]
    constructor
    · rintro ⟨top, ⟨ha, hn, hw⟩, hend⟩
      exact ⟨top, ha, hend, hn, hw⟩
    · rintro ⟨top, ha, hend, hn, hw⟩
      exact ⟨top, ⟨ha, hn, hw⟩, hend⟩
  · obtain ⟨bs, hb⟩ := ancestors_of_check h hd
    exact (ha.clear_of_ancestors hc hd hb).distinct

/-- The circle need not lead back to where the way up starts. -/
theorem ancestors_chick : Sample.ring.Outcome none Sample.chick
    (.error (.circularInheritance "zoo.Chick" ["zoo.Chick", "zoo.Egg", "zoo.Hen", "zoo.Egg"])) :=
  ((ancestors_decided Sample.ring_reachable (List.mem_of_getElem? (i := 2) rfl) none).2.1 _).mp
    (by cbv)

end Catalog

end ModelCatalog
