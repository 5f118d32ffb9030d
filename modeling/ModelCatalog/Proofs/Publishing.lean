import Mathlib.Logic.Function.Basic
import ModelCatalog.Publication
import ModelCatalog.Proofs.Handles

/-! # Clients of a publication

Clients of a publication look at the current catalog and publish new ones, in any order. To publish
is to check and then to swap, and between the two steps of one client come steps of others, so the
one who began first may be the last to swap. Yet the calls answer as though each was made as a whole
at its last step, and what is true of calls made so is true of them.
-/
namespace ModelCatalog

/-- A publication as it is made, of a catalog that is given or of an empty one. -/
inductive Publication.MadeOf : Publication → Catalog → Prop
  | standard : MadeOf standard (.empty .standard)
  | start {c : Catalog} {p : Publication} : Publication.start c = .ok p → MadeOf p c

theorem Publication.MadeOf.current {p : Publication} {c : Catalog} (h : p.MadeOf c) :
    p.current = c ∧ c.check = .ok () := by
  cases h with
  | standard => exact ⟨rfl, rfl⟩
  | start h =>
    obtain ⟨hcheck, h⟩ := check_bind_ok_iff.mp h
    obtain rfl := pure_ok_iff.mp h
    exact ⟨rfl, hcheck⟩

theorem Publication.publish_eq_ok_iff {p p' : Publication} {c previous : Catalog} :
    p.publish c = .ok (previous, p') ↔ c.check = .ok () ∧ p.current = previous ∧ ⟨c⟩ = p' := by
  rw [publish, check_bind_ok_iff, pure_ok_iff, swap, Prod.mk.injEq]

theorem Publication.publish_eq_error_iff {p : Publication} {c : Catalog} {e : ModelError} :
    p.publish c = .error e ↔ c.check = .error e := by
  cases h : c.check <;> simp [publish, h, bind, Except.bind, pure, Except.pure]

namespace Publishing

variable {κ : Type}

/-- What a client is about. -/
inductive Activity where
  | idle
  | checking (c : Catalog)
  | swapping (c : Catalog)

/-- What the client has asked for and has no answer to. -/
def Activity.pending : Activity → List Catalog
  | idle => []
  | checking c | swapping c => [c]

/-- Clients at work on a publication. -/
structure Scene (κ : Type) where
  publication : Publication
  clients : κ → Activity

/-- What a client does. A call to publish starts with a request and is over once it is refused or
has swapped. -/
inductive Event (κ : Type) where
  | snapshot (k : κ) (seen : Catalog)
  | request (k : κ) (c : Catalog)
  | pass (k : κ) (c : Catalog)
  | refuse (k : κ) (c : Catalog) (e : ModelError)
  | swap (k : κ) (c previous : Catalog)

namespace Event

def client : Event κ → κ
  | snapshot k _ | request k _ | pass k _ | refuse k _ _ | swap k _ _ => k

def requested? : Event κ → Option Catalog
  | request _ c => some c
  | _ => none

/-- The answer to a call to publish, with the catalog that was to be published. -/
def answer? : Event κ → Option (Catalog × Except ModelError Catalog)
  | refuse _ c e => some (c, .error e)
  | swap _ c previous => some (c, .ok previous)
  | _ => none

def published? : Event κ → Option Catalog
  | swap _ c _ => some c
  | _ => none

def previous? : Event κ → Option Catalog
  | swap _ _ previous => some previous
  | _ => none

end Event

/-- The catalogs published, in the order of the swaps. -/
def published (es : List (Event κ)) : List Catalog := es.filterMap Event.published?

/-- The catalogs handed back in exchange for them. -/
def previous (es : List (Event κ)) : List Catalog := es.filterMap Event.previous?

theorem filterMap_concat {α β : Type} (f : α → Option β) (l : List α) (a : α) :
    (l ++ [a]).filterMap f = l.filterMap f ++ (f a).toList := by
  cases h : f a <;> simp [h]

/-! ## Calls as wholes -/

/-- The publication after calls that are each made as a whole, at their last event. -/
inductive Serial (p₀ : Publication) : List (Event κ) → Publication → Prop
  | nil : Serial p₀ [] p₀
  | snapshot {es : List (Event κ)} {p : Publication} (k : κ) :
    Serial p₀ es p → Serial p₀ (es ++ [.snapshot k p.current]) p
  | request {es : List (Event κ)} {p : Publication} (k : κ) (c : Catalog) :
    Serial p₀ es p → Serial p₀ (es ++ [.request k c]) p
  | pass {es : List (Event κ)} {p : Publication} (k : κ) (c : Catalog) :
    Serial p₀ es p → Serial p₀ (es ++ [.pass k c]) p
  | refuse {es : List (Event κ)} {p : Publication} {c : Catalog} {e : ModelError} (k : κ) :
    Serial p₀ es p → p.publish c = .error e → Serial p₀ (es ++ [.refuse k c e]) p
  | swap {es : List (Event κ)} {p p' : Publication} {c previous : Catalog} (k : κ) :
    Serial p₀ es p → p.publish c = .ok (previous, p') → Serial p₀ (es ++ [.swap k c previous]) p'

/-- A client sees what passes its check, and an attempt to publish ends as the check does. -/
def Event.Honest : Event κ → Prop
  | snapshot _ seen => seen.check = .ok ()
  | refuse _ c e => c.check = .error e
  | swap _ c _ => c.check = .ok ()
  | _ => True

namespace Serial

variable {p₀ p : Publication} {es : List (Event κ)} (h : Serial p₀ es p)

include h

theorem honest (h₀ : p₀.current.check = .ok ()) :
    p.current.check = .ok () ∧ ∀ event ∈ es, event.Honest := by
  induction h with
  | nil => exact ⟨h₀, by simp⟩
  | snapshot k _ ih => exact ⟨ih.1, List.forall_mem_append.mpr ⟨ih.2, by simp [Event.Honest, ih.1]⟩⟩
  | request k c _ ih | pass k c _ ih =>
    exact ⟨ih.1, List.forall_mem_append.mpr ⟨ih.2, by simp [Event.Honest]⟩⟩
  | refuse k _ hp ih =>
    have hcheck := Publication.publish_eq_error_iff.mp hp
    exact ⟨ih.1, List.forall_mem_append.mpr ⟨ih.2, by simp [Event.Honest, hcheck]⟩⟩
  | swap k _ hp ih =>
    obtain ⟨hcheck, -, rfl⟩ := Publication.publish_eq_ok_iff.mp hp
    exact ⟨hcheck, List.forall_mem_append.mpr ⟨ih.2, by simp [Event.Honest, hcheck]⟩⟩

theorem published_check (h₀ : p₀.current.check = .ok ()) :
    ∀ c ∈ published es, c.check = .ok () := by
  intro c hc
  obtain ⟨event, hevent, hc⟩ := List.mem_filterMap.mp hc
  have hhonest := (h.honest h₀).2 event hevent
  cases event with
  | snapshot _ _ | request _ _ | pass _ _ | refuse _ _ _ => cases hc
  | swap _ _ _ =>
    cases hc
    exact hhonest

/-- What was handed back and what is current are what was there at first and what was published, in
this order. -/
theorem previous_current : previous es ++ [p.current] = p₀.current :: published es := by
  induction h with
  | nil => rfl
  | snapshot k _ ih | request k c _ ih | pass k c _ ih | refuse k _ _ ih =>
    rw [previous, published, filterMap_concat, filterMap_concat, ← previous, ← published]
    simpa [Event.previous?, Event.published?] using ih
  | swap k _ hp ih =>
    obtain ⟨-, rfl, rfl⟩ := Publication.publish_eq_ok_iff.mp hp
    rw [previous, published, filterMap_concat, filterMap_concat, ← List.cons_append]
    exact congrArg (· ++ [_]) ih

end Serial

/-! ## Steps of clients -/

variable [DecidableEq κ]

def Scene.set (s : Scene κ) (k : κ) (a : Activity) : Scene κ :=
  { s with clients := Function.update s.clients k a }

/-- One step of one client. What a client checks does not change while others take their steps, but
the publication does. -/
inductive Step (s : Scene κ) : Event κ → Scene κ → Prop
  | snapshot {k : κ} : s.clients k = .idle → Step s (.snapshot k s.publication.current) s
  | request {k : κ} (c : Catalog) : s.clients k = .idle →
    Step s (.request k c) (s.set k (.checking c))
  | pass {k : κ} {c : Catalog} : s.clients k = .checking c → c.check = .ok () →
    Step s (.pass k c) (s.set k (.swapping c))
  | refuse {k : κ} {c : Catalog} {e : ModelError} : s.clients k = .checking c →
    c.check = .error e → Step s (.refuse k c e) (s.set k .idle)
  | swap {k : κ} {c previous : Catalog} {p : Publication} : s.clients k = .swapping c →
    s.publication.swap c = (previous, p) →
    Step s (.swap k c previous) (Scene.set ⟨p, s.clients⟩ k .idle)

/-- Steps of clients, in any order, on a publication to which nobody has come yet. -/
inductive Run (p : Publication) : List (Event κ) → Scene κ → Prop
  | nil : Run p [] ⟨p, fun _ => .idle⟩
  | step {es : List (Event κ)} {s s' : Scene κ} {event : Event κ} :
    Run p es s → Step s event s' → Run p (es ++ [event]) s'

/-- Who is about to swap has a catalog that passed its check. -/
def Scene.Ready (s : Scene κ) : Prop := ∀ k c, s.clients k = .swapping c → c.check = .ok ()

variable {p p₀ : Publication} {es : List (Event κ)} {s s' : Scene κ} {event : Event κ}

theorem Scene.Ready.set {k : κ} {a : Activity} (h : s.Ready)
    (ha : ∀ c, a = .swapping c → c.check = .ok ()) : (s.set k a).Ready := by
  intro k' c hc
  by_cases hk : k' = k
  · subst hk
    exact ha c (by simpa [Scene.set] using hc)
  · exact h k' c (by simpa [Scene.set, hk] using hc)

theorem Step.ready (hstep : Step s event s') (h : s.Ready) : s'.Ready := by
  cases hstep with
  | snapshot _ => exact h
  | request c _ => exact h.set (by simp)
  | pass _ hcheck => exact h.set (by simp [hcheck])
  | refuse _ _ => exact h.set (by simp)
  | swap _ _ => exact Scene.Ready.set (s := ⟨_, s.clients⟩) h (by simp)

/-- The last step of a call does what the whole call would do there. -/
theorem Step.serial (hstep : Step s event s') (hready : s.Ready)
    (h : Serial p₀ es s.publication) : Serial p₀ (es ++ [event]) s'.publication := by
  cases hstep with
  | snapshot _ => exact .snapshot _ h
  | request c _ => exact .request _ c h
  | pass _ _ => exact .pass _ _ h
  | refuse _ hcheck => exact .refuse _ h (Publication.publish_eq_error_iff.mpr hcheck)
  | swap hk hswap =>
    obtain ⟨rfl, rfl⟩ := Prod.mk.inj hswap
    exact .swap _ h (Publication.publish_eq_ok_iff.mpr ⟨hready _ _ hk, rfl, rfl⟩)

theorem Run.serial (h : Run p es s) : s.Ready ∧ Serial p es s.publication := by
  induction h with
  | nil => exact ⟨by simp [Scene.Ready], .nil⟩
  | step _ hstep ih => exact ⟨hstep.ready ih.1, hstep.serial ih.1 ih.2⟩

/-! ## What becomes of a call -/

/-- The catalogs that a client asked to publish. -/
def requested (k : κ) (es : List (Event κ)) : List Catalog :=
  es.filterMap fun event => if event.client = k then event.requested? else none

/-- The answers it was given. -/
def answers (k : κ) (es : List (Event κ)) : List (Catalog × Except ModelError Catalog) :=
  es.filterMap fun event => if event.client = k then event.answer? else none

/-- A step of one client leaves the others to what they are about. -/
theorem Step.clients_of_ne (hstep : Step s event s') {k : κ} (hk : event.client ≠ k) :
    s'.clients k = s.clients k := by
  cases hstep with
  | snapshot _ => rfl
  | request _ _ | pass _ _ | refuse _ _ | swap _ _ => exact Function.update_of_ne (Ne.symm hk) _ _

/-- In a step a client asks, or is answered, or neither. -/
theorem Step.pending_eq (hstep : Step s event s') :
    (s.clients event.client).pending ++ event.requested?.toList =
      event.answer?.toList.map (·.1) ++ (s'.clients event.client).pending := by
  cases hstep with
  | snapshot _ => simp [Event.requested?, Event.answer?]
  | request _ hk | pass hk _ | refuse hk _ | swap hk _ =>
    simp [Event.requested?, Event.answer?, Event.client, Scene.set, hk, Activity.pending]

/-- Each client is answered in the order in which it asked, and waits for at most one answer. -/
theorem Run.requested_eq (h : Run p es s) (k : κ) :
    requested k es = (answers k es).map (·.1) ++ (s.clients k).pending := by
  induction h with
  | nil => rfl
  | @step es s s' event _ hstep ih =>
    rw [requested, answers, filterMap_concat, filterMap_concat, ← requested, ← answers, ih]
    by_cases hk : event.client = k
    · subst hk
      have hpending := hstep.pending_eq
      simp [hpending]
    · simp [hk, hstep.clients_of_ne hk]

/-- A client with a catalog that does not pass its check is refused for that very reason, and can do
nothing else before. -/
theorem Scene.Ready.step_iff (h : s.Ready) {k : κ} {c : Catalog} {e : ModelError}
    (hk : c ∈ (s.clients k).pending) (hcheck : c.check = .error e) :
    (Step s event s' ∧ event.client = k) ↔ event = .refuse k c e ∧ s' = s.set k .idle := by
  have hchecking : s.clients k = .checking c := by
    cases hs : s.clients k with
    | idle => simp [hs, Activity.pending] at hk
    | checking c' =>
      obtain rfl : c = c' := by simpa [hs, Activity.pending] using hk
      rfl
    | swapping c' =>
      obtain rfl : c = c' := by simpa [hs, Activity.pending] using hk
      rw [h k c hs] at hcheck
      cases hcheck
  constructor
  · rintro ⟨hstep, rfl⟩
    cases hstep with
    | snapshot hs | request _ hs | swap hs _ => cases hs.symm.trans hchecking
    | pass hs hpass =>
      obtain rfl := Activity.checking.inj (hs.symm.trans hchecking)
      cases hpass.symm.trans hcheck
    | refuse hs hrefuse =>
      obtain rfl := Activity.checking.inj (hs.symm.trans hchecking)
      obtain rfl := Except.error.inj (hrefuse.symm.trans hcheck)
      exact ⟨rfl, rfl⟩
  · rintro ⟨rfl, rfl⟩
    exact ⟨.refuse hchecking hcheck, rfl⟩

theorem Serial.answer_check (h : Serial p₀ es p) (h₀ : p₀.current.check = .ok ()) {k : κ}
    {c : Catalog} {r : Except ModelError Catalog} (hr : (c, r) ∈ answers k es) :
    r.map (fun _ => ()) = c.check := by
  obtain ⟨event, hevent, hr⟩ := List.mem_filterMap.mp hr
  have hhonest := (h.honest h₀).2 event hevent
  split at hr
  · cases event with
    | snapshot _ _ | request _ _ | pass _ _ => cases hr
    | refuse _ _ _ | swap _ _ _ =>
      cases hr
      exact hhonest.symm
  · cases hr

/-! ## Publications are kept -/

/-- Whatever clients do to a publication, and in whatever order: the calls answer as though made one
at a time. What clients see passes its check, and who asks to publish is answered as the check is. A
client with a catalog that does not pass can only be refused, and this leaves the current catalog
where it is. What was handed back and what is current are what was there at first and what was
published, each once and in the order of the swaps. -/
theorem publications_kept {c₀ : Catalog} (hp : p.MadeOf c₀) (hrun : Run p es s) :
    Serial p es s.publication ∧ (∀ k seen, Event.snapshot k seen ∈ es → seen.check = .ok ()) ∧
      (∀ k, requested k es = (answers k es).map (·.1) ++ (s.clients k).pending) ∧
      (∀ k c r, (c, r) ∈ answers k es → r.map (fun _ => ()) = c.check) ∧
      (∀ k, ∀ c ∈ (s.clients k).pending, ∀ e, c.check = .error e → ∀ event s',
        (Step s event s' ∧ event.client = k) ↔ event = .refuse k c e ∧ s' = s.set k .idle) ∧
      previous es ++ [s.publication.current] = c₀ :: published es ∧
      ∀ c ∈ c₀ :: published es, c.check = .ok () := by
  obtain ⟨rfl, h₀⟩ := hp.current
  obtain ⟨hready, hserial⟩ := hrun.serial
  refine ⟨hserial, fun k seen hseen => ?_, hrun.requested_eq,
    fun k c r => hserial.answer_check h₀, fun k c hc e hcheck event s' => hready.step_iff hc hcheck,
    hserial.previous_current, ?_⟩
  · exact (hserial.honest h₀).2 _ hseen
  · exact List.forall_mem_cons.mpr ⟨h₀, hserial.published_check h₀⟩

end Publishing

/-! ## Three clients -/

namespace Sample

open Publishing

/-- Two clients pass their checks one after the other and swap the other way round. The third has a
ring to publish. -/
def overtaking : List (Event (Fin 3)) :=
  [.request 0 zoo, .request 1 staffed, .pass 0 zoo, .request 2 ring, .pass 1 staffed,
    .swap 1 staffed (.empty .standard), .snapshot 1 staffed,
    .refuse 2 ring (.circularInheritance "zoo.Hen" ["zoo.Hen", "zoo.Egg", "zoo.Hen"]),
    .swap 0 zoo staffed, .snapshot 2 zoo]

theorem overtaking_run : ∃ s, Run .standard overtaking s := by
  have hzoo : zoo.check = .ok () := by cbv
  have hstaffed : staffed.check = .ok () := by cbv
  have hring : ring.check =
    .error (.circularInheritance "zoo.Hen" ["zoo.Hen", "zoo.Egg", "zoo.Hen"]) := by cbv
  have run := (Run.nil (κ := Fin 3) (p := .standard)).step (.request (k := 0) zoo rfl)
    |>.step (.request (k := 1) staffed rfl) |>.step (.pass (k := 0) rfl hzoo)
    |>.step (.request (k := 2) ring rfl) |>.step (.pass (k := 1) rfl hstaffed)
    |>.step (.swap (k := 1) rfl rfl) |>.step (.snapshot (k := 1) rfl)
    |>.step (.refuse (k := 2) rfl hring) |>.step (.swap (k := 0) rfl rfl)
    |>.step (.snapshot (k := 2) rfl)
  exact ⟨_, run⟩

end Sample

namespace Publishing

/-- The last to swap hands back what the other client has swapped in meanwhile. -/
theorem publications_kept_overtaking :
    Publication.standard.MadeOf (.empty .standard) ∧ ∃ s, Run .standard Sample.overtaking s ∧
      Sample.staffed.check = .ok () ∧ Except.error (.circularInheritance "zoo.Hen"
        ["zoo.Hen", "zoo.Egg", "zoo.Hen"]) = Sample.ring.check ∧
      [.empty .standard, Sample.staffed, s.publication.current]
        = [.empty .standard, Sample.staffed, Sample.zoo] := by
  obtain ⟨s, hrun⟩ := Sample.overtaking_run
  obtain ⟨-, hseen, -, hanswer, -, hkept, -⟩ := publications_kept .standard hrun
  have hsnapshot : Event.snapshot 1 Sample.staffed ∈ Sample.overtaking :=
    List.mem_of_getElem? (i := 6) rfl
  exact ⟨.standard, s, hrun, hseen 1 _ hsnapshot, hanswer 2 _ _ List.mem_cons_self, hkept⟩

end Publishing

end ModelCatalog
