import ModelCatalog.Proofs.Naming

/-! # Substitution

Where a class is expected, one below it will do: in a linked model it has every property of the
other, in the same place, and may only ask for more.
-/
namespace ModelCatalog

/-- A property that may be used where another one is expected. -/
structure LinkedProperty.Substitutes (p q : LinkedProperty) : Prop where
  name : p.name = q.name
  kind : p.property.kind = q.property.kind
  typeName : p.typeName = q.typeName
  array : p.property.isArray = q.property.isArray
  required : q.property.isOptional = false → p.property.isOptional = false

namespace Catalog

variable {c : Catalog}

/-- Agreement of properties as written is agreement of what they are linked to. -/
theorem Conforms.substitutes (hc : c.Coherent) {d a : Declaration} {p q : Property}
    {lp lq : LinkedProperty} (hd : d ∈ c.declarations) (ha : a ∈ c.declarations)
    (h : c.Conforms d p a q) (hname : p.name = q.name) (hp : c.Links d p lp)
    (hq : c.Links a q lq) : lp.Substitutes lq := by
  obtain ⟨_, -, hep⟩ := hp.effective
  obtain ⟨_, -, heq⟩ := hq.effective
  obtain ⟨n, hn, hn'⟩ := h.type
  refine ⟨?_, ?_, ?_, ?_, ?_⟩
  · exact hep.name.trans (hname.trans heq.name.symm)
  · rw [hep.kind, heq.kind, h.kind]
  · rw [hp.typed.unique hc hd hn, hq.typed.unique hc ha hn']
  · rw [hep.isArray, heq.isArray, h.array]
  · rw [hep.isOptional, heq.isOptional]
    intro hr
    by_contra ho
    have := h.optional (Bool.not_eq_false _ ▸ ho)
    simp [hr] at this

/-- Each property of a class is found in every class below it, at the same position. -/
theorem exists_substitute_of_link (hc : c.Coherent) {m : LinkedModel} (h : c.link = .ok m)
    {d a : LinkedDeclaration} (hd : d ∈ m.declarations) (ha : a ∈ m.declarations)
    (hup : Relation.TransGen c.Extends d.declaration a.declaration) {i : Nat} {q : LinkedProperty}
    (hq : a.properties[i]? = some q) :
    ∃ p, d.properties[i]? = some p ∧ p.Substitutes q := by
  obtain ⟨hdm, hdl⟩ := linkDeclaration_of_mem h hd
  obtain ⟨ham, hal⟩ := linkDeclaration_of_mem h ha
  obtain ⟨-, -, merged, hmerged, -⟩ := linkDeclaration_spec hdl
  obtain ⟨-, -, inherited, hinherited, -⟩ := linkDeclaration_spec hal
  rcases exists_member_of_link hc h ha hinherited (i := i) with
    ⟨-, hn⟩ | ⟨owner, r, lq, he, hlq, hmember, hlinks⟩
  · simp [hn] at hq
  obtain rfl := Option.some.inj (hlq.symm.trans hq)
  -- the names above come first, so there is an entry of the same name at the same position
  have hpos : (memberNames merged)[i]? = some r.name := by
    obtain ⟨rest, hrest⟩ := memberNames_prefix_of_above hc hdm hmerged hinherited hup
    rw [← hrest, List.getElem?_append_left]
    · simp [memberNames, he]
    · rw [memberNames, List.length_map]
      exact (List.getElem?_eq_some_iff.mp he).1
  rcases exists_member_of_link hc h hd hmerged (i := i) with
    ⟨hn, -⟩ | ⟨owner', p, lp, he', hlp, hmember', hlinks'⟩
  · simp [memberNames, hn] at hpos
  have hname : p.name = r.name := by simpa [memberNames, he'] using hpos
  refine ⟨lp, hlp, ?_⟩
  -- below its owner the property is replaced only by such as agree with it
  have hreach := hup.to_reflTransGen.trans hmember.reaches
  obtain ⟨owner'', p', hm, hconf⟩ :=
    exists_member_of_check hc (check_of_link h) hdm hreach
      (Declaration.property?_eq_some hmember.declared).1
  obtain ⟨rfl, rfl⟩ := hm.unique (hname ▸ hmember')
  exact hconf.substitutes hc (mem_of_reaches hc hdm hm.reaches) (mem_of_reaches hc hdm hreach)
    hname hlinks' hlinks

/-- What is above a linked class is linked too, and each property it has is found in the class at
the same position, where it may be used in its place. -/
theorem exists_substitute (hr : c.Reachable) {m : LinkedModel} (h : c.link = .ok m)
    {d : LinkedDeclaration} (hd : d ∈ m.declarations) {above : Declaration}
    (hup : Relation.TransGen c.Extends d.declaration above) :
    (∃ a ∈ m.declarations, a.declaration = above) ∧
      ∀ a ∈ m.declarations, a.declaration = above → ∀ (i : Nat) (q : LinkedProperty),
        a.properties[i]? = some q → ∃ p, d.properties[i]? = some p ∧ p.Substitutes q := by
  have hdm := (linkDeclaration_of_mem h hd).1
  refine ⟨exists_linked_of_mem h (mem_of_reaches hr.coherent hdm hup.to_reflTransGen), ?_⟩
  rintro a ha rfl i q hq
  exact exists_substitute_of_link hr.coherent h hd ha hup hq

/-- The declaring classes of what a linked class has, as they are found by linking it alone. -/
theorem exists_declaredIn_of_link {m : LinkedModel} (h : c.link = .ok m) {d : LinkedDeclaration}
    (hd : d ∈ m.declarations) (owners : List Nat)
    (howners : (c.linkDeclaration (d.declaration, d.id)).toOption.map
      (·.properties.map (·.declaredIn)) = some owners) {i owner : Nat}
    (hi : owners[i]? = some owner) : ∃ p, d.properties[i]? = some p ∧ p.declaredIn = owner := by
  rw [(linkDeclaration_of_mem h hd).2] at howners
  obtain rfl := Option.some.inj howners
  rw [List.getElem?_map] at hi
  exact Option.map_eq_some_iff.mp hi

/-- The first class of the zoo is above the last. Of what both have at the first position, the one
has its own, and the other that of the class between them. -/
theorem exists_substitute_puppy : ∃ m d a p q, Sample.zoo.link = .ok m ∧
    d ∈ m.declarations ∧ d.declaration = Sample.puppy ∧
    a ∈ m.declarations ∧ a.declaration = Sample.animal ∧
      d.properties[0]? = some p ∧ p.declaredIn = 1 ∧ a.properties[0]? = some q ∧
        q.declaredIn = 0 ∧ p.Substitutes q := by
  obtain ⟨m, hm⟩ := isOk_iff.mp (show Sample.zoo.link.isOk = true by decide +kernel)
  obtain ⟨d, hdget, hpuppy, hdid⟩ := exists_get?_of_link hm (i := 2) rfl
  obtain ⟨a, haget, hanimal, haid⟩ := exists_get?_of_link hm (i := 0) rfl
  have hd := List.mem_of_getElem? hdget
  have ha := List.mem_of_getElem? haget
  obtain ⟨p, hp, hpdog⟩ : ∃ p, d.properties[0]? = some p ∧ p.declaredIn = 1 :=
    exists_declaredIn_of_link hm hd [1, 0, 1, 2] (by rw [hpuppy, hdid]; decide +kernel) rfl
  obtain ⟨q, hq, hqanimal⟩ : ∃ q, a.properties[0]? = some q ∧ q.declaredIn = 0 :=
    exists_declaredIn_of_link hm ha [0, 0] (by rw [hanimal, haid]; decide +kernel) rfl
  have hdog : Sample.zoo.Extends Sample.puppy Sample.dog := ⟨⟨none, "Dog"⟩, rfl, _, rfl, rfl⟩
  have hdown : Sample.zoo.Extends Sample.dog Sample.animal := ⟨⟨none, "Animal"⟩, rfl, _, rfl, rfl⟩
  have hup : Relation.TransGen Sample.zoo.Extends d.declaration Sample.animal :=
    hpuppy ▸ .tail (.single hdog) hdown
  obtain ⟨-, hsubstitute⟩ := exists_substitute Sample.zoo_reachable hm hd hup
  obtain ⟨p', hp', hpq⟩ := hsubstitute a ha hanimal 0 q hq
  obtain rfl := Option.some.inj (hp.symm.trans hp')
  exact ⟨m, d, a, p, q, hm, hd, hpuppy, ha, hanimal, hp, hpdog, hq, hqanimal, hpq⟩

end Catalog

end ModelCatalog
