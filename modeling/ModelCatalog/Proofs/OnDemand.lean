import Mathlib.Data.List.Permutation
import ModelCatalog.Proofs.Behaviour

/-! # Asking for a property

A class can be asked for a property in two ways. The catalog looks through the class and then
through its super types, the nearest first, and says how the property was written. The linked model
has all that a class inherits written out with it, starting from the root, and shows each property
as it behaves. Both tell of the same property, and what the linked one says of it is what it means
where it was written, whatever the name of its type stands for elsewhere.
-/
namespace ModelCatalog

/-- A linked property says of a property what can be said of it in a scope. -/
structure LinkedProperty.AgreesIn (s : Scope) (p : Property) (lp : LinkedProperty) : Prop where
  effective : p.effective s = .ok lp.property
  typeName : lp.property.qualifiedType s = .ok lp.typeName
  outcome : ∀ e, p.effective s = .ok e → ∀ j, lp.checkValue j = e.checkValue j

namespace Catalog

variable {c : Catalog} {m : LinkedModel} {d owner : Declaration} {p : Property}
  {lp : LinkedProperty} {name : String}

/-- The catalog answers with what the nearest of the class and its ancestors declares. -/
theorem property?_eq_nearest? (hc : c.Coherent) (hd : d ∈ c.declarations) {cap : Option Nat}
    {as : List Declaration} (ha : c.ancestors cap d = .ok as) :
    c.property? d name = .ok ((nearest? (d :: as) name).map (·.2)) := by
  unfold property?
  rw [nearest?_cons, ancestors_none hc hd ha]
  cases d.property? name <;> rfl

theorem agreesIn_of_linkProperty (h : c.linkProperty (owner, p) = .ok lp) :
    ∃ s, c.scope owner = .ok s ∧ lp.AgreesIn s p := by
  obtain ⟨s, hs, he, hn, -⟩ := linkProperty_eq_ok h
  refine ⟨s, hs, he, hn, fun e he' j => ?_⟩
  obtain rfl := Except.ok.inj (he.symm.trans he')
  rfl

/-- Both ways of asking find a property under the same names. Where they do, the linked property is
the other one as it behaves in the scope of the class that declares it, with the name that its type
has there. -/
theorem property?_agrees (hr : c.Reachable) (h : c.link = .ok m) {d : LinkedDeclaration}
    (hd : d ∈ m.declarations) (name : String) :
    ∃ found, c.property? d.declaration name = .ok found ∧
      Option.Rel (fun lp p => ∃ owner s, c.Member name d.declaration owner p ∧
        c.scope owner = .ok s ∧ lp.AgreesIn s p) (d.property? name) found := by
  have hc := hr.coherent
  have hmem := (linkDeclaration_of_mem h hd).1
  obtain ⟨as, ha⟩ := ancestors_of_check (check_of_link h) hmem
  refine ⟨_, property?_eq_nearest? hc hmem ha, ?_⟩
  obtain ⟨top, hclear, hend⟩ := (ancestors_eq_ok_iff hc hmem).mp ha
  cases hn : nearest? (d.declaration :: as) name with
  | none =>
    cases hlp : d.property? name with
    | none => exact .none
    | some lp =>
      obtain ⟨owner, p, hm, -⟩ := (property?_eq_some_iff hc h hd).mp hlp
      rw [(hclear.ascent.nearest?_iff hend).mpr hm] at hn
      cases hn
  | some entry =>
    obtain ⟨owner, p⟩ := entry
    have hm := (hclear.ascent.nearest?_iff hend).mp hn
    obtain ⟨lp, hlp, hl⟩ := exists_property?_of_member hc h hd hm
    obtain ⟨s, hs, hagrees⟩ := agreesIn_of_linkProperty hl
    rw [hlp]
    exact .some ⟨owner, s, hm, hs, hagrees⟩

end Catalog

/-! ## A name that means two things -/

namespace Sample

def tag : Property := reference "tag" (.object ⟨none, "Name"⟩)

def tagged : Declaration := ⟨"pound", "Tagged", .ofClass ⟨.concept, none, false, none, [tag]⟩⟩

def cow : Declaration := { concept "Cow" (some "Tagged") [] with ns := "farm" }

def farmName : Declaration := { concept "Name" none [] with ns := "farm" }

/-- A class takes over a property from another file, where its type is a scalar. In the file of the
class the name of the type is that of a class. -/
def pasture : Catalog := ⟨.standard,
  [⟨"pound", [], [nameScalar, tagged]⟩, ⟨"farm", [.single "pound" "Tagged"], [farmName, cow]⟩]⟩

theorem pasture_reachable : pasture.Reachable :=
  .addFragment (f := ⟨none, "farm", [⟨"ImportType", "pound", some "Tagged", []⟩],
      [written "Name" none [], written "Cow" (some "Tagged") []]⟩)
    (.addFragment (f := ⟨none, "pound", [], [
      .object [("$class", .string "StringScalar"), ("name", .string "Name"),
        ("defaultValue", .string "Rex"), ("lengthValidator", writtenLength 1 none)],
      .object [("$class", .string "ConceptDeclaration"), ("name", .string "Tagged"),
        ("properties", .array [writtenReference "ObjectProperty" "tag" "Name"])]]⟩)
      (.empty .standard) (by rfl)) (by rfl)

end Sample

namespace Catalog

/-- The cow has the tag of the class above it, in whose file a name is a scalar. In its own file it
is a concept. -/
theorem property?_agrees_pasture : Sample.pasture.Refers Sample.cow ⟨none, "Name"⟩ Sample.farmName ∧
    ∃ m d lp owner s, Sample.pasture.link = .ok m ∧ d ∈ m.declarations ∧
      d.declaration = Sample.cow ∧ d.property? "tag" = some lp ∧
      Sample.pasture.Member "tag" Sample.cow owner Sample.tag ∧
      Sample.pasture.scope owner = .ok s ∧ lp.AgreesIn s Sample.tag := by
  obtain ⟨m, hm⟩ := isOk_iff.mp (show Sample.pasture.link.isOk = true by decide +kernel)
  obtain ⟨d, hd, he⟩ := exists_linked_of_mem hm (List.mem_of_getElem? (i := 3) rfl)
  obtain ⟨found, hfound, hrel⟩ := property?_agrees Sample.pasture_reachable hm hd "tag"
  rw [he] at hfound hrel
  have hasked : Sample.pasture.property? Sample.cow "tag" = .ok (some Sample.tag) := by cbv
  obtain rfl := Except.ok.inj (hasked.symm.trans hfound)
  generalize hlp : d.property? "tag" = shown at hrel
  cases hrel with
  | @some lp _ h =>
    obtain ⟨owner, s, hmember, hs, hagrees⟩ := h
    exact ⟨⟨_, rfl, rfl⟩, m, d, lp, owner, s, hm, hd, he, hlp, hmember, hs, hagrees⟩

end Catalog

end ModelCatalog
