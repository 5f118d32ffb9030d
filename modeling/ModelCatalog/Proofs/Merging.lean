import ModelCatalog.Proofs.Member

/-! # What merging makes of a lineage

A lineage is merged class by class from its root, and what is declared again is replaced where it
stands. The result can be said without the order in which this is done: every name that the lineage
declares is there once, in the order of first declarations, and it is there as the class nearest to
the end declares it. Nothing else is.
-/
namespace ModelCatalog

/-- Two lists with the same keys in the same order, none of them twice, are equal if what is in one
is in the other. -/
theorem eq_of_keys {α β : Type} {key : α → β} {l r : List α} (hkeys : l.map key = r.map key)
    (hr : (r.map key).Nodup) (hsub : l ⊆ r) : l = r := by
  have hlength : l.length = r.length := by simpa using congrArg List.length hkeys
  refine List.ext_getElem hlength fun i hi hi' => ?_
  obtain ⟨j, hj, he⟩ := List.mem_iff_getElem.mp (hsub (List.getElem_mem hi))
  -- no key is there twice, so what has the key of a position stands at it
  have hij : (r.map key)[j]? = (r.map key)[i]? :=
    calc (r.map key)[j]? = some (key r[j]) := by simp [hj]
      _ = (l.map key)[i]? := by simp [he, hi]
      _ = (r.map key)[i]? := by rw [hkeys]
  obtain rfl := (List.getElem?_inj (by simpa using hj) hr).mp hij
  exact he.symm

namespace Catalog

/-- The names that the classes of a lineage declare, each as often as it is declared. -/
def declaredNames (lineage : List Declaration) : List String :=
  lineage.flatMap fun d => d.properties.map (·.name)

/-- What a lineage comes to: each name once, in the order in which the names are first declared,
with the last class of the lineage that declares it and its property of that name. -/
structure MergeOf (lineage : List Declaration) (merged : List (Declaration × Property)) : Prop where
  distinct : (memberNames merged).Nodup
  names : memberNames merged = (declaredNames lineage).eraseDups
  mem_iff : ∀ owner p, (owner, p) ∈ merged ↔
    ∃ farther nearer, lineage = farther ++ owner :: nearer ∧ p ∈ owner.properties ∧
      ∀ e ∈ nearer, ∀ q ∈ e.properties, q.name ≠ p.name

variable {c : Catalog} {d owner : Declaration} {p : Property} {lineage : List Declaration}
  {merged : List (Declaration × Property)}

/-! ## Names -/

theorem memberNames_merge (lineage : List Declaration) :
    memberNames (merge lineage) = (declaredNames lineage).eraseDups := by
  induction lineage using List.reverseRecOn with
  | nil => rfl
  | append_singleton lineage d ih =>
    have hnew : (d.properties.map (·.name)).removeAll (declaredNames lineage).eraseDups
        = (d.properties.map (·.name)).removeAll (declaredNames lineage) := by
      simp [List.removeAll]
    have hnames : declaredNames (lineage ++ [d])
        = declaredNames lineage ++ d.properties.map (·.name) := by simp [declaredNames]
    rw [merge_concat, memberNames_mergeAll, ih, hnew, hnames, List.eraseDups_append]

/-! ## Entries -/

/-- The nearest declaration of a name is the first in the list that has one. -/
theorem nearest?_eq_some_iff {name : String} :
    nearest? lineage name = some (owner, p) ↔
      ∃ nearer farther, lineage = nearer ++ owner :: farther ∧ owner.property? name = some p ∧
        ∀ e ∈ nearer, e.property? name = none := by
  simp only [nearest?, List.findSome?_eq_some_iff, Option.map_eq_some_iff, Option.map_eq_none_iff,
    Prod.mk.injEq]
  constructor
  · rintro ⟨nearer, _, farther, hl, ⟨_, hp, rfl, rfl⟩, hn⟩
    exact ⟨nearer, farther, hl, hp, hn⟩
  · rintro ⟨nearer, farther, hl, hp, hn⟩
    exact ⟨nearer, owner, farther, hl, ⟨p, hp, rfl, rfl⟩, hn⟩

theorem property?_eq_none_iff {name : String} :
    d.property? name = none ↔ ∀ q ∈ d.properties, q.name ≠ name := by
  simp [Declaration.property?]

/-- An entry of a merged lineage is what its name is nearest declared as. -/
theorem mem_merge_iff_nearest? (hl : ∀ d ∈ lineage, (d.properties.map (·.name)).Nodup) :
    (owner, p) ∈ merge lineage ↔ nearest? lineage.reverse p.name = some (owner, p) := by
  rw [← find?_merge hl, mem_iff_find? (nodup_merge lineage)]

theorem mergeOf_merge (hl : ∀ d ∈ lineage, (d.properties.map (·.name)).Nodup) :
    MergeOf lineage (merge lineage) where
  distinct := nodup_merge lineage
  names := memberNames_merge lineage
  mem_iff owner p := by
    rw [mem_merge_iff_nearest? hl, nearest?_eq_some_iff]
    simp only [property?_eq_none_iff]
    constructor
    · rintro ⟨nearer, farther, hsplit, hp, hn⟩
      refine ⟨farther.reverse, nearer.reverse, ?_, (Declaration.property?_eq_some hp).1, ?_⟩
      · simpa using congrArg List.reverse hsplit
      · simpa using hn
    · rintro ⟨farther, nearer, rfl, hp, hn⟩
      refine ⟨nearer.reverse, farther.reverse, by simp, ?_, by simpa using hn⟩
      exact find?_key_of_mem (hl owner (by simp)) hp

/-- Nothing is left open by what a lineage comes to. -/
theorem MergeOf.unique {other : List (Declaration × Property)} (h : MergeOf lineage merged)
    (h' : MergeOf lineage other) : merged = other := by
  refine eq_of_keys (h.names.trans h'.names.symm) h'.distinct ?_
  rintro ⟨owner, p⟩ hm
  exact (h'.mem_iff owner p).mpr ((h.mem_iff owner p).mp hm)

/-! ## Lineages of a catalog -/

/-- The ancestors of a super type are those of the declaration without it. -/
theorem ancestors_of_extends (hc : c.Coherent) (hd : d ∈ c.declarations) {cap : Option Nat}
    {as : List Declaration} {parent : Declaration} (h : c.ancestors cap d = .ok as)
    (he : c.Extends d parent) : ∃ bs, as = parent :: bs ∧ c.ancestors cap parent = .ok bs := by
  obtain ⟨top, ⟨ha, hn, hw⟩, hend⟩ := (ancestors_eq_ok_iff hc hd).mp h
  obtain ⟨bs, rfl⟩ : ∃ bs, as = parent :: bs := by
    obtain ⟨bs, hbs⟩ := (ascent_cons.mpr ⟨he, .start⟩ : c.Ascent d [parent] parent).prefix_of_ends
      ha hend
    exact ⟨bs, hbs.symm⟩
  refine ⟨bs, rfl, (ancestors_eq_ok_iff hc (he.mem hc)).mpr ⟨top, ⟨?_, ?_, ?_⟩, hend⟩⟩
  · exact (ascent_cons.mp ha).2
  · exact (List.nodup_cons.mp hn).2
  · intro n hcap
    exact Nat.le_of_succ_le (hw n hcap)

/-- The properties of a declaration whose ancestors are found are those of its lineage, from the
root down to it, merged, and this says all about them. They begin with the names of those of its
super type, in their order. -/
theorem merged_lineage (hr : c.Reachable) (hd : d ∈ c.declarations) {cap : Option Nat}
    {as : List Declaration} (h : c.ancestors cap d = .ok as) :
    ∃ merged, c.mergedProperties cap d = .ok merged ∧ MergeOf (d :: as).reverse merged ∧
      (∀ other, MergeOf (d :: as).reverse other → other = merged) ∧
      ∀ parent, c.Extends d parent → ∃ inherited, c.mergedProperties cap parent = .ok inherited ∧
        memberNames inherited <+: memberNames merged := by
  have hc := hr.coherent
  have hmerged := mergedProperties_ok_iff.mpr ⟨as, h, rfl⟩
  have hof : MergeOf (d :: as).reverse (merge (as.reverse ++ [d])) := by
    rw [← List.reverse_cons]
    refine mergeOf_merge fun e he => hc.nodup_members ?_
    obtain ⟨top, hclear, -⟩ := (ancestors_eq_ok_iff hc hd).mp h
    rcases List.mem_cons.mp (List.mem_reverse.mp he) with rfl | he
    · exact hd
    · exact hclear.ascent.subset hc e he
  refine ⟨_, hmerged, hof, fun other hother => hother.unique hof, fun parent he => ?_⟩
  obtain ⟨bs, -, hb⟩ := ancestors_of_extends hc hd h he
  have hinherited := mergedProperties_ok_iff.mpr ⟨bs, hb, rfl⟩
  exact ⟨_, hinherited, memberNames_prefix_of_above hc hd hmerged hinherited (.single he)⟩

/-- The dog's name stands where the animal's did. -/
theorem merged_lineage_puppy : ∃ merged,
    Sample.zoo.mergedProperties none Sample.puppy = .ok merged ∧
      MergeOf [Sample.animal, Sample.dog, Sample.puppy] merged ∧
        memberNames merged = ["name", "sound", "breed", "age"] ∧
          ∃ p ∈ Sample.dog.properties, p.name = "name" ∧ (Sample.dog, p) ∈ merged := by
  have has : Sample.zoo.ancestors none Sample.puppy = .ok [Sample.dog, Sample.animal] := by cbv
  obtain ⟨merged, hmerged, hof, -⟩ := merged_lineage Sample.zoo_reachable
    (List.mem_of_getElem? (i := 2) rfl) has
  refine ⟨merged, hmerged, hof, hof.names, _, List.mem_of_getElem? (i := 1) rfl, rfl, ?_⟩
  exact (hof.mem_iff _ _).mpr ⟨[Sample.animal], [Sample.puppy], rfl,
    List.mem_of_getElem? (i := 1) rfl, by decide⟩

end Catalog

end ModelCatalog
