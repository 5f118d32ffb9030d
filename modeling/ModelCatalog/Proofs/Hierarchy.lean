import ModelCatalog.Proofs.Handles

/-! # The hierarchy of a linked model

Each linked declaration keeps its ancestors for itself, as a list of numbers. Where no local name
has a dot, the lists tell of one hierarchy, the one that super types make by name: nothing is above
itself, and above a declaration there is a single line.
-/
namespace ModelCatalog

/-- Being a subclass orders the numbers of a model, and what is above a number stands in one
line. -/
structure LinkedModel.IsForest (m : LinkedModel) : Prop where
  refl : ∀ i < m.size, m.isSubclass i i = true
  antisymm : ∀ i < m.size, ∀ j < m.size, m.isSubclass i j = true → m.isSubclass j i = true → i = j
  trans : ∀ i < m.size, ∀ j < m.size, ∀ k < m.size,
    m.isSubclass i j = true → m.isSubclass j k = true → m.isSubclass i k = true
  comparable : ∀ i < m.size, ∀ j < m.size, ∀ k < m.size, m.isSubclass i j = true →
    m.isSubclass i k = true → m.isSubclass j k = true ∨ m.isSubclass k j = true

namespace Catalog

variable {c : Catalog} {d e : Declaration} {m : LinkedModel} {i j : Nat}

/-! ## The hierarchy by name -/

/-- In an accepted catalog nothing is above itself. -/
theorem not_above_self (hc : c.Coherent) (h : c.check = .ok ()) (hd : d ∈ c.declarations) :
    ¬ Relation.TransGen c.Extends d d := by
  intro hup
  obtain ⟨as, ha⟩ := exists_ascent_of_above hup
  have hn := (clear_of_check hc h hd ha).distinct
  rw [nodup_pathNames_concat] at hn
  exact hn.2 (by simp [pathNames])

/-- Two declarations that are each above the other, or the same, are the same. -/
theorem reaches_antisymm (hc : c.Coherent) (h : c.check = .ok ()) (hd : d ∈ c.declarations)
    (hup : Relation.ReflTransGen c.Extends d e) (hdown : Relation.ReflTransGen c.Extends e d) :
    d = e := by
  rcases Relation.reflTransGen_iff_eq_or_transGen.mp hup with he | hup
  · exact he.symm
  · exact absurd (hup.trans_left hdown) (not_above_self hc h hd)

/-- By name, a declaration is a subclass of itself and of what is above it. -/
theorem isSubclass_eq_ok_iff (hc : c.Coherent) (hdot : c.Dotless) (h : c.check = .ok ())
    (hd : d ∈ c.declarations) (he : e ∈ c.declarations) {b : Bool} :
    c.isSubclass d e.qualifiedName = .ok b ↔ (b = true ↔ Relation.ReflTransGen c.Extends d e) := by
  obtain ⟨as, ha⟩ := ancestors_of_check h hd
  obtain ⟨top, hclear, hend⟩ := (ancestors_eq_ok_iff hc hd).mp ha
  have hmem : e.qualifiedName ∈ (d :: as).map (·.qualifiedName) ↔
      Relation.ReflTransGen c.Extends d e := by
    rw [Relation.reflTransGen_iff_eq_or_transGen, ← hclear.ascent.mem_iff_above hend,
      ← List.mem_cons]
    refine ⟨fun hname => ?_, List.mem_map_of_mem⟩
    obtain ⟨a, ham, hname⟩ := List.mem_map.mp hname
    have hac : a ∈ c.declarations := by
      rcases List.mem_cons.mp ham with rfl | ham
      · exact hd
      · exact hclear.ascent.subset hc a ham
    exact eq_of_qualifiedName hc hdot hac he hname ▸ ham
  rw [isSubclass, chain, ancestors_none hc hd ha, ← hmem]
  simp only [bind, Except.bind, pure, Except.pure, Except.ok.injEq, ← List.map_cons]
  rw [← List.contains_iff_mem, Bool.eq_iff_iff]
  exact ⟨Iff.symm, Iff.symm⟩

/-! ## The hierarchy by number -/

/-- In a linked model a number stands for one declaration, and a declaration has one number. -/
theorem denotes_biUnique (hc : c.Coherent) (hdot : c.Dotless) (h : c.link = .ok m) :
    Relator.BiUnique m.Denotes := by
  constructor
  · intro i j d hi hj
    have hi := (getElem?_map_of_link h i).symm.trans hi.declaration
    have hj := (getElem?_map_of_link h j).symm.trans hj.declaration
    have hlt := (List.getElem?_eq_some_iff.mp hi).1
    exact (List.getElem?_inj hlt (nodup_qualifiedNames hc hdot).of_map).mp (hi.trans hj.symm)
  · intro i d e hd he
    exact Option.some.inj (hd.declaration.symm.trans he.declaration)

/-- By number, a declaration is a subclass of itself and of what is above it. -/
theorem isSubclass_iff (hr : c.Reachable) (hdot : c.Dotless) (h : c.link = .ok m)
    (hi : m.Denotes i d) (hj : m.Denotes j e) :
    m.isSubclass i j = true ↔ Relation.ReflTransGen c.Extends d e := by
  have hc := hr.coherent
  have hunique := denotes_biUnique hc hdot h
  obtain ⟨linked, hl, hd⟩ := Option.map_eq_some_iff.mp hi.declaration
  obtain ⟨-, hf⟩ := faithful_of_link hr hdot h hl
  obtain ⟨as, ha, hdenote⟩ := hf.ancestors
  have hdm := (linkDeclaration_of_mem h (List.mem_of_getElem? hl)).1
  rw [hd] at ha hdm
  obtain ⟨top, hclear, hend⟩ := (ancestors_eq_ok_iff hc hdm).mp ha
  have hmem : j ∈ linked.ancestors ↔ e ∈ as :=
    List.rel_mem hunique hj (hdenote.imp fun _ _ hk => hk.1)
  have heq : i = j ↔ e = d := by
    constructor
    · intro hij
      exact hunique.2 hj (hij ▸ hi)
    · intro hed
      exact hunique.1 hi (hed ▸ hj)
  rw [Relation.reflTransGen_iff_eq_or_transGen, ← hclear.ascent.mem_iff_above hend, ← heq, ← hmem]
  simp [LinkedModel.isSubclass, hl]

theorem exists_denotes (h : c.link = .ok m) (hi : i < m.size) :
    ∃ d, m.Denotes i d ∧ d ∈ c.declarations := by
  have hl : m.get? i = some m.declarations[i] := List.getElem?_eq_getElem hi
  have hd := (get?_of_link h hl).1
  exact ⟨_, denotes_of_getElem? h hd, List.mem_of_getElem? hd⟩

/-! ## One hierarchy -/

theorem isForest_of_link (hr : c.Reachable) (hdot : c.Dotless) (h : c.link = .ok m) :
    m.IsForest where
  refl := by
    intro i _
    simp [LinkedModel.isSubclass]
  antisymm := by
    intro i hi j hj hup hdown
    obtain ⟨d, hi, hd⟩ := exists_denotes h hi
    obtain ⟨e, hj, -⟩ := exists_denotes h hj
    rw [isSubclass_iff hr hdot h hi hj] at hup
    rw [isSubclass_iff hr hdot h hj hi] at hdown
    have hde := reaches_antisymm hr.coherent (check_of_link h) hd hup hdown
    exact (denotes_biUnique hr.coherent hdot h).1 hi (hde ▸ hj)
  trans := by
    intro i hi j hj k hk hij hjk
    obtain ⟨d, hi, -⟩ := exists_denotes h hi
    obtain ⟨e, hj, -⟩ := exists_denotes h hj
    obtain ⟨f, hk, -⟩ := exists_denotes h hk
    rw [isSubclass_iff hr hdot h hi hj] at hij
    rw [isSubclass_iff hr hdot h hj hk] at hjk
    exact (isSubclass_iff hr hdot h hi hk).mpr (hij.trans hjk)
  comparable := by
    intro i hi j hj k hk hij hik
    obtain ⟨d, hi, -⟩ := exists_denotes h hi
    obtain ⟨e, hj, -⟩ := exists_denotes h hj
    obtain ⟨f, hk, -⟩ := exists_denotes h hk
    rw [isSubclass_iff hr hdot h hi hj] at hij
    rw [isSubclass_iff hr hdot h hi hk] at hik
    rw [isSubclass_iff hr hdot h hj hk, isSubclass_iff hr hdot h hk hj]
    -- a declaration extends at most one, so two ways up from it never part
    exact Relation.ReflTransGen.total_of_right_unique (fun _ _ _ he he' => he.unique he') hij hik

/-- In a linked model whose local names have no dot, being a subclass is an order in which all that
is above a number is comparable, and it is told alike by number and by name. -/
theorem subclasses_form_forest (hr : c.Reachable) (hdot : c.Dotless) (h : c.link = .ok m) :
    m.IsForest ∧ ∀ i j child parent, m.get? i = some child → m.get? j = some parent →
      c.isSubclass child.declaration parent.declaration.qualifiedName
        = .ok (m.isSubclass i j) := by
  refine ⟨isForest_of_link hr hdot h, ?_⟩
  intro i j child parent hi hj
  have hd := (get?_of_link h hi).1
  have he := (get?_of_link h hj).1
  rw [isSubclass_eq_ok_iff hr.coherent hdot (check_of_link h) (List.mem_of_getElem? hd)
    (List.mem_of_getElem? he)]
  exact isSubclass_iff hr hdot h (denotes_of_getElem? h hd) (denotes_of_getElem? h he)

/-- The zoo has a line of three classes and one class apart from it. -/
theorem subclasses_form_forest_staffed : Sample.staffed.Dotless ∧ ∃ m,
    Sample.staffed.link = .ok m ∧ m.IsForest ∧
      Sample.staffed.isSubclass Sample.puppy "zoo.Animal" = .ok true ∧
      m.isSubclass 2 0 = true ∧
      Sample.staffed.isSubclass Sample.puppy "zoo.Keeper" = .ok false ∧
      m.isSubclass 2 3 = false := by
  have hdot : Sample.staffed.Dotless := by
    rintro d (_ | ⟨_, _ | ⟨_, _ | ⟨_, _ | ⟨_, ⟨⟩⟩⟩⟩⟩) <;> decide
  obtain ⟨m, hm⟩ := isOk_iff.mp (show Sample.staffed.link.isOk = true by decide +kernel)
  obtain ⟨hforest, hname⟩ := subclasses_form_forest Sample.staffed_reachable hdot hm
  obtain ⟨animal, hanimal, ha, -⟩ := exists_get?_of_link hm (i := 0) rfl
  obtain ⟨puppy, hpuppy, hp, -⟩ := exists_get?_of_link hm (i := 2) rfl
  obtain ⟨keeper, hkeeper, hk, -⟩ := exists_get?_of_link hm (i := 3) rfl
  have hline := hname 2 0 puppy animal hpuppy hanimal
  have hapart := hname 2 3 puppy keeper hpuppy hkeeper
  rw [hp, ha] at hline
  rw [hp, hk] at hapart
  have habove : Sample.staffed.isSubclass Sample.puppy "zoo.Animal" = .ok true := by cbv
  have hbeside : Sample.staffed.isSubclass Sample.puppy "zoo.Keeper" = .ok false := by cbv
  exact ⟨hdot, m, hm, hforest, habove, Except.ok.inj (hline.symm.trans habove), hbeside,
    Except.ok.inj (hapart.symm.trans hbeside)⟩

end Catalog

end ModelCatalog
