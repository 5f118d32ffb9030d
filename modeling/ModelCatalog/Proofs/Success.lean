import Mathlib.Data.List.Forall2

/-! # Success of computations that may fail

When a computation made of steps succeeds, and with what. A check is a traversal of checks, so what
an accepted catalog satisfies is read off with these.
-/
namespace ModelCatalog

section

variable {ε α β : Type}

theorem isOk_iff {x : Except ε α} : x.isOk = true ↔ ∃ a, x = .ok a := by
  cases x <;> simp [Except.isOk, Except.toBool]

theorem pure_ok_iff {a b : α} : (pure a : Except ε α) = .ok b ↔ a = b :=
  ⟨Except.ok.inj, congrArg Except.ok⟩

theorem bind_ok_iff {b : β} {x : Except ε α} {next : α → Except ε β} :
    x >>= next = .ok b ↔ ∃ a, x = .ok a ∧ next a = .ok b := by
  cases x with
  | error e => simp [bind, Except.bind]
  | ok a => simp [bind, Except.bind]

/-- A check hands nothing on. -/
theorem check_bind_ok_iff {b : β} {x : Except ε Unit} {next : Unit → Except ε β} :
    x >>= next = .ok b ↔ x = .ok () ∧ next () = .ok b := by
  rw [bind_ok_iff]
  exact ⟨fun ⟨_, hx, hn⟩ => ⟨hx, hn⟩, fun ⟨hx, hn⟩ => ⟨(), hx, hn⟩⟩

theorem map_ok_iff {b : β} {x : Except ε α} {f : α → β} :
    x.map f = .ok b ↔ ∃ a, x = .ok a ∧ f a = b := by
  cases x <;> simp [Except.map]

/-- Telling an error differently does not touch success. -/
theorem mapError_ok_iff {δ : Type} {a : α} {x : Except ε α} {tell : ε → δ} :
    x.mapError tell = .ok a ↔ x = .ok a := by
  cases x <;> simp [Except.mapError]

/-- A guard lets a computation go on where its condition fails. -/
theorem guard_ok_iff {p : Prop} [Decidable p] {e : ε} {x : Except ε α} {a : α} :
    (if p then .error e else x) = .ok a ↔ ¬p ∧ x = .ok a := by
  by_cases h : p <;> simp [h]

/-- A check that is made only where it is asked for. -/
theorem asked_ok_iff {p : Prop} [Decidable p] {x : Except ε Unit} :
    (if p then x else pure ()) = .ok () ↔ (p → x = .ok ()) := by
  by_cases h : p <;> simp [h, pure_ok_iff]

/-- The same where a computation goes on after it. -/
theorem asked_bind_ok_iff {p : Prop} [Decidable p] {x : Except ε Unit} {next : Unit → Except ε α}
    {a : α} : (if p then x >>= next else next ()) = .ok a ↔ (p → x = .ok ()) ∧ next () = .ok a := by
  by_cases h : p
  · simp [h, check_bind_ok_iff]
  · simp [h]

theorem forM_ok_iff {f : α → Except ε Unit} {l : List α} :
    l.forM f = .ok () ↔ ∀ a ∈ l, f a = .ok () := by
  induction l with
  | nil => simp [pure_ok_iff]
  | cons a l ih =>
    rw [List.forM_eq_forM] at ih ⊢
    simp only [List.forM_cons, check_bind_ok_iff, ih, List.mem_cons, forall_eq_or_imp]

/-- A traversal that meets no error before its end is what its last step is. -/
theorem forM_concat {f : α → Except ε Unit} {l : List α} {a : α} (h : ∀ b ∈ l, f b = .ok ()) :
    (l ++ [a]).forM f = f a := by
  have hl : (forM l f : Except ε Unit) = .ok () := forM_ok_iff.mpr h
  rw [List.forM_eq_forM, List.forM_append, hl]
  cases ha : f a <;> simp [bind, Except.bind, ha, pure, Except.pure]

/-- A traversal fails as its first step that fails does. -/
theorem forM_error_iff {f : α → Except ε Unit} {l : List α} {e : ε} :
    l.forM f = .error e ↔ ∃ before a after, l = before ++ a :: after ∧
      (∀ b ∈ before, f b = .ok ()) ∧ f a = .error e := by
  constructor
  · intro h
    induction l with
    | nil => cases h
    | cons a l ih =>
      rw [List.forM_eq_forM, List.forM_cons] at h
      cases ha : f a with
      | error e' =>
        rw [ha] at h
        exact ⟨[], a, l, rfl, by simp, ha.trans h⟩
      | ok u =>
        rw [ha] at h
        obtain ⟨before, b, after, rfl, hbefore, hb⟩ := ih h
        exact ⟨a :: before, b, after, rfl, List.forall_mem_cons.mpr ⟨ha, hbefore⟩, hb⟩
  · rintro ⟨before, a, after, rfl, hbefore, ha⟩
    have hok : (forM before f : Except ε Unit) = .ok () := forM_ok_iff.mpr hbefore
    rw [List.forM_eq_forM, List.forM_append, hok, List.forM_cons, ha]
    rfl

theorem mapM_ok_iff {f : α → Except ε β} {l : List α} {r : List β} :
    l.mapM f = .ok r ↔ List.Forall₂ (fun a b => f a = .ok b) l r := by
  induction l generalizing r with
  | nil => cases r <;> simp [pure_ok_iff]
  | cons a l ih =>
    simp only [List.mapM_cons, bind_ok_iff, pure_ok_iff, ih]
    cases r with
    | nil => simp
    | cons b r => simp

/-- What a traversal made of the element at a position. -/
theorem getElem?_of_mapM {f : α → Except ε β} {l : List α} {r : List β} (h : l.mapM f = .ok r)
    (i : Nat) : (l[i]? = none ∧ r[i]? = none) ∨
      ∃ a b, l[i]? = some a ∧ r[i]? = some b ∧ f a = .ok b := by
  have hf := mapM_ok_iff.mp h
  clear h
  induction hf generalizing i with
  | nil => simp
  | cons hab _ ih =>
    cases i with
    | zero => exact .inr ⟨_, _, rfl, rfl, hab⟩
    | succ i => simpa using ih i

/-- What a traversal made, against what it was made of. -/
theorem forall₂_of_mapM {f : α → Except ε β} {l : List α} {r : List β} (h : l.mapM f = .ok r)
    {p : β → α → Prop} (hp : ∀ a ∈ l, ∀ b, f a = .ok b → p b a) : List.Forall₂ p r l := by
  have hf := mapM_ok_iff.mp h
  clear h
  induction hf with
  | nil => exact .nil
  | cons hab _ ih =>
    exact .cons (hp _ List.mem_cons_self _ hab) (ih fun a ha => hp a (List.mem_cons_of_mem _ ha))

/-- A traversal succeeds where each of its steps does. -/
theorem exists_mapM_ok_iff {f : α → Except ε β} {l : List α} :
    (∃ r, l.mapM f = .ok r) ↔ ∀ a ∈ l, ∃ b, f a = .ok b := by
  induction l with
  | nil => simp [pure_ok_iff]
  | cons a l ih =>
    simp only [List.mapM_cons, bind_ok_iff, pure_ok_iff, List.mem_cons, forall_eq_or_imp, ← ih]
    constructor
    · rintro ⟨_, b, hb, r, hr, _⟩
      exact ⟨⟨b, hb⟩, r, hr⟩
    · rintro ⟨⟨b, hb⟩, r, hr⟩
      exact ⟨_, b, hb, r, hr, rfl⟩

end

end ModelCatalog
