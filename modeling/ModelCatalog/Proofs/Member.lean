import Mathlib.Data.List.Induction
import ModelCatalog.Proofs.Ascent

/-! # Members

The properties of a class are its own and those it inherits. Where a name is declared more than once
on the way up, the declaration nearest to the class counts, and it takes the place in the list that
the farthest one had.
-/
namespace ModelCatalog

namespace Catalog

/-- A property that a declaration has under a name, and the declaration that declares it: its own
if it has one, and otherwise that of its super type. -/
inductive Member (c : Catalog) (name : String) : Declaration → Declaration → Property → Prop
  | own {d : Declaration} {p : Property} : d.property? name = some p → Member c name d d p
  | inherited {d parent owner : Declaration} {p : Property} :
    d.property? name = none → c.Extends d parent → Member c name parent owner p →
    Member c name d owner p

/-- The names in a list of properties with their owners. -/
def memberNames (merged : List (Declaration × Property)) : List String := merged.map (·.2.name)

variable {c : Catalog} {d : Declaration} {name : String}

/-! ## The nearest declaration -/

theorem nearest?_cons {as : List Declaration} :
    nearest? (d :: as) name
      = ((d.property? name).map fun p => (d, p)).or (nearest? as name) := by
  unfold nearest?
  rw [List.findSome?_cons]
  cases d.property? name <;> rfl

/-- On a way up that ends, the nearest declaration of a name is the member. -/
theorem Ascent.nearest?_iff {as : List Declaration} {top owner : Declaration} {p : Property}
    (h : c.Ascent d as top) (hend : top.superType? = none) :
    nearest? (d :: as) name = some (owner, p) ↔ c.Member name d owner p := by
  induction as generalizing d with
  | nil =>
    obtain rfl := ascent_nil.mp h
    constructor
    · intro hn
      rw [nearest?_cons, nearest?, List.findSome?_nil, Option.or_none,
        Option.map_eq_some_iff] at hn
      obtain ⟨q, hq, he⟩ := hn
      obtain ⟨rfl, rfl⟩ := Prod.mk.inj he
      exact .own hq
    · intro hm
      cases hm with
      | own hp => rw [nearest?_cons, hp, Option.map_some, Option.some_or]
      | inherited _ he _ =>
        obtain ⟨t, ht, -⟩ := he
        simp [hend] at ht
  | cons a as ih =>
    obtain ⟨he, h⟩ := ascent_cons.mp h
    rw [nearest?_cons]
    cases hd : d.property? name with
    | some q =>
      constructor
      · rintro ⟨⟩
        exact .own hd
      · intro hm
        cases hm with
        | own hp => simp [← hd, hp]
        | inherited hn _ _ => simp [hn] at hd
    | none =>
      rw [Option.map_none, Option.none_or, ih h]
      constructor
      · exact .inherited hd he
      · intro hm
        cases hm with
        | own hp => simp [hp] at hd
        | inherited _ he' hm => exact he.unique he' ▸ hm

/-- Above a declaration, the nearest declaration of a name is the member of its super type. -/
theorem Ascent.nearest?_above_iff {as : List Declaration} {top owner : Declaration} {p : Property}
    (h : c.Ascent d as top) (hend : top.superType? = none) :
    nearest? as name = some (owner, p) ↔
      ∃ parent, c.Extends d parent ∧ c.Member name parent owner p := by
  cases as with
  | nil =>
    obtain rfl := ascent_nil.mp h
    refine ⟨by simp [nearest?], ?_⟩
    rintro ⟨parent, ⟨t, ht, -⟩, -⟩
    simp [hend] at ht
  | cons a as =>
    obtain ⟨he, h⟩ := ascent_cons.mp h
    rw [h.nearest?_iff hend]
    refine ⟨fun hm => ⟨a, he, hm⟩, ?_⟩
    rintro ⟨parent, he', hm⟩
    exact he.unique he' ▸ hm

theorem Member.unique {owner owner' : Declaration} {p p' : Property} (h : c.Member name d owner p)
    (h' : c.Member name d owner' p') : owner = owner' ∧ p = p' := by
  induction h with
  | own hp =>
    cases h' with
    | own hp' => exact ⟨rfl, Option.some.inj (hp.symm.trans hp')⟩
    | inherited hn _ _ => simp [hn] at hp
  | inherited hn he _ ih =>
    cases h' with
    | own hp' => simp [hn] at hp'
    | inherited _ he' hm' => exact ih (he.unique he' ▸ hm')

/-- What is said of some member of a name is said of the one there is. -/
theorem Member.exists_iff {owner : Declaration} {p : Property} (h : c.Member name d owner p)
    {q : Declaration → Property → Prop} :
    (∃ owner p, c.Member name d owner p ∧ q owner p) ↔ q owner p := by
  constructor
  · rintro ⟨owner', p', h', hq⟩
    obtain ⟨rfl, rfl⟩ := h.unique h'
    exact hq
  · exact fun hq => ⟨owner, p, h, hq⟩

theorem Member.declared {owner : Declaration} {p : Property} (h : c.Member name d owner p) :
    owner.property? name = some p := by
  induction h with
  | own hp => exact hp
  | inherited _ _ _ ih => exact ih

/-- The owner is the declaration itself or above it. -/
theorem Member.reaches {owner : Declaration} {p : Property} (h : c.Member name d owner p) :
    Relation.ReflTransGen c.Extends d owner := by
  induction h with
  | own _ => exact .refl
  | inherited _ he _ ih => exact .head he ih

/-! ## Merging a lineage -/

variable {merged : List (Declaration × Property)} {owner : Declaration} {p : Property}

theorem memberNames_mergeOne :
    memberNames (mergeOne merged owner p)
      = if p.name ∈ memberNames merged then memberNames merged
        else memberNames merged ++ [p.name] := by
  have hmem : merged.any (·.2.name = p.name) = true ↔ p.name ∈ memberNames merged := by
    simp [memberNames]
  unfold mergeOne
  by_cases h : p.name ∈ memberNames merged
  · rw [if_pos (hmem.mpr h), if_pos h, memberNames, List.map_map]
    apply List.map_congr_left
    intro entry _
    simp only [Function.comp_apply]
    split
    · next he => exact he.symm
    · rfl
  · rw [if_neg (mt hmem.mp h), if_neg h]
    simp [memberNames]

theorem find?_mergeOne :
    (mergeOne merged owner p).find? (·.2.name = name)
      = if p.name = name then some (owner, p) else merged.find? (·.2.name = name) := by
  unfold mergeOne
  split
  · next hany =>
    -- the entry that is replaced has the name of the one that takes its place
    have hname : ∀ entry : Declaration × Property,
        (if entry.2.name = p.name then (owner, p) else entry).2.name = entry.2.name := by
      intro entry
      split
      · next he => exact he.symm
      · rfl
    rw [List.find?_map]
    simp only [Function.comp_def, hname]
    by_cases hp : p.name = name
    · subst hp
      obtain ⟨entry, he⟩ := Option.isSome_iff_exists.mp (List.find?_isSome.mpr
        (List.any_eq_true.mp hany))
      have : entry.2.name = p.name := by simpa using List.find?_some he
      simp [he, this]
    · rw [if_neg hp]
      cases he : merged.find? (·.2.name = name) with
      | none => rfl
      | some entry =>
        have : entry.2.name = name := by simpa using List.find?_some he
        simp [this, Ne.symm hp]
  · next hany =>
    rw [List.find?_append]
    by_cases hp : p.name = name
    · subst hp
      have : merged.find? (·.2.name = p.name) = none := by
        simpa [List.any_eq_true] using hany
      simp [this]
    · simp [hp]

/-- Entry by entry, the properties of a declaration are put over those of its super type. -/
def mergeAll (owner : Declaration) (ps : List Property) (merged : List (Declaration × Property)) :
    List (Declaration × Property) :=
  ps.foldl (fun m p => mergeOne m owner p) merged

/-- The properties of a class add the names that are not there yet. -/
theorem memberNames_mergeAll {ps : List Property} :
    memberNames (mergeAll owner ps merged) = memberNames merged
      ++ ((ps.map (·.name)).removeAll (memberNames merged)).eraseDups := by
  induction ps generalizing merged with
  | nil => simp [mergeAll, List.removeAll]
  | cons p ps ih =>
    have hstep : mergeAll owner (p :: ps) merged = mergeAll owner ps (mergeOne merged owner p) :=
      rfl
    rw [hstep, ih, memberNames_mergeOne]
    by_cases h : p.name ∈ memberNames merged
    · simp [h, List.removeAll]
    · have hrest : (ps.map (·.name)).removeAll (memberNames merged ++ [p.name])
          = ((ps.map (·.name)).removeAll (memberNames merged)).filter fun n => !n == p.name := by
        rw [List.removeAll, List.removeAll, List.filter_filter]
        refine List.filter_congr fun n _ => Bool.eq_iff_iff.mpr ?_
        simp [and_comm]
      rw [if_neg h, hrest]
      simp [h, List.removeAll, List.eraseDups_cons]

theorem nodup_mergeAll {ps : List Property} (h : (memberNames merged).Nodup) :
    (memberNames (mergeAll owner ps merged)).Nodup := by
  induction ps generalizing merged with
  | nil => exact h
  | cons p ps ih =>
    have hfirst : (memberNames (mergeOne merged owner p)).Nodup := by
      rw [memberNames_mergeOne]
      split
      · exact h
      · next hp => exact List.concat_eq_append ▸ h.concat hp
    exact ih hfirst

theorem find?_mergeAll {ps : List Property} (hps : (ps.map (·.name)).Nodup) :
    (mergeAll owner ps merged).find? (·.2.name = name)
      = ((ps.find? (·.name = name)).map fun p => (owner, p)).or
          (merged.find? (·.2.name = name)) := by
  induction ps generalizing merged with
  | nil => rfl
  | cons p ps ih =>
    obtain ⟨hp, hps⟩ := List.nodup_cons.mp hps
    have hrest := @ih (mergeOne merged owner p) hps
    rw [find?_mergeOne] at hrest
    rw [show mergeAll owner (p :: ps) merged = mergeAll owner ps (mergeOne merged owner p) from rfl,
      hrest, List.find?_cons]
    by_cases hn : p.name = name
    · -- no later property of the declaration has the name
      have : ps.find? (·.name = name) = none := by
        rw [List.find?_eq_none]
        intro q hq he
        exact hp (List.mem_map.mpr ⟨q, hq, (of_decide_eq_true he).trans hn.symm⟩)
      simp [hn, this]
    · simp [hn]

theorem merge_concat {lineage : List Declaration} :
    merge (lineage ++ [d]) = mergeAll d d.properties (merge lineage) := by
  simp [merge, mergeAll, List.foldl_append]

theorem nodup_merge (lineage : List Declaration) : (memberNames (merge lineage)).Nodup := by
  induction lineage using List.reverseRecOn with
  | nil => exact List.nodup_nil
  | append_singleton lineage d ih =>
    rw [merge_concat]
    exact nodup_mergeAll ih

/-- The properties of a class begin with the names of those of its super type, in their order. -/
theorem memberNames_prefix_merge (lineage rest : List Declaration) :
    memberNames (merge lineage) <+: memberNames (merge (lineage ++ rest)) := by
  induction rest using List.reverseRecOn with
  | nil => simp
  | append_singleton rest d ih =>
    rw [← List.append_assoc, merge_concat, memberNames_mergeAll]
    exact ih.trans (List.prefix_append ..)

/-- Under each name, a merged lineage has what the declaration nearest to its end declares. -/
theorem find?_merge {lineage : List Declaration}
    (hl : ∀ d ∈ lineage, (d.properties.map (·.name)).Nodup) :
    (merge lineage).find? (·.2.name = name) = nearest? lineage.reverse name := by
  induction lineage using List.reverseRecOn with
  | nil => rfl
  | append_singleton lineage d ih =>
    rw [merge_concat, find?_mergeAll (hl d (by simp)), ih fun e he => hl e (by simp [he]),
      List.reverse_append, List.reverse_singleton, List.singleton_append, nearest?_cons]
    rfl

theorem mergedProperties_ok_iff {cap : Option Nat} :
    c.mergedProperties cap d = .ok merged ↔
      ∃ as, c.ancestors cap d = .ok as ∧ merge (as.reverse ++ [d]) = merged := by
  simp only [mergedProperties, bind_ok_iff, pure_ok_iff]

/-- A merged lineage has, under each name, the member of that name. -/
theorem find?_mergedProperties (hc : c.Coherent) (hd : d ∈ c.declarations) {cap : Option Nat}
    (h : c.mergedProperties cap d = .ok merged) :
    merged.find? (·.2.name = name) = some (owner, p) ↔ c.Member name d owner p := by
  obtain ⟨as, ha, rfl⟩ := mergedProperties_ok_iff.mp h
  obtain ⟨top, ha, hend⟩ := (ancestors_eq_ok_iff hc hd).mp ha
  rw [← ha.ascent.nearest?_iff hend, find?_merge, List.reverse_append, List.reverse_reverse]
  · rfl
  · intro e he
    apply hc.nodup_members
    rcases List.mem_append.mp he with he | he
    · exact ha.ascent.subset hc e (List.mem_reverse.mp he)
    · exact List.mem_singleton.mp he ▸ hd

/-- The properties of a declaration begin with those of each that is above it, in the same order. -/
theorem memberNames_prefix_of_above (hc : c.Coherent) (hd : d ∈ c.declarations) {cap : Option Nat}
    {a : Declaration} {inherited : List (Declaration × Property)}
    (h : c.mergedProperties cap d = .ok merged) (ha : c.mergedProperties cap a = .ok inherited)
    (hup : Relation.TransGen c.Extends d a) : memberNames inherited <+: memberNames merged := by
  obtain ⟨as, has, rfl⟩ := mergedProperties_ok_iff.mp h
  obtain ⟨bs, hbs, rfl⟩ := mergedProperties_ok_iff.mp ha
  obtain ⟨below, rfl⟩ := ancestors_of_above hc hd has hbs hup
  have hsplit : (below ++ a :: bs).reverse ++ [d]
      = (bs.reverse ++ [a]) ++ (below.reverse ++ [d]) := by simp
  rw [hsplit]
  exact memberNames_prefix_merge _ _

/-- Where no name is there twice, an entry is what is found under its name. -/
theorem mem_iff_find? (h : (memberNames merged).Nodup) :
    (owner, p) ∈ merged ↔ merged.find? (·.2.name = p.name) = some (owner, p) := by
  refine ⟨fun hm => ?_, List.mem_of_find?_eq_some⟩
  exact find?_key_of_mem (show (merged.map (·.2.name)).Nodup from h) hm

theorem nodup_mergedProperties {cap : Option Nat} (h : c.mergedProperties cap d = .ok merged) :
    (memberNames merged).Nodup := by
  obtain ⟨as, -, rfl⟩ := mergedProperties_ok_iff.mp h
  exact nodup_merge _

theorem mem_mergedProperties_iff (hc : c.Coherent) (hd : d ∈ c.declarations) {cap : Option Nat}
    (h : c.mergedProperties cap d = .ok merged) :
    (owner, p) ∈ merged ↔ c.Member p.name d owner p := by
  rw [← find?_mergedProperties hc hd h, mem_iff_find? (nodup_mergedProperties h)]

end Catalog

end ModelCatalog
