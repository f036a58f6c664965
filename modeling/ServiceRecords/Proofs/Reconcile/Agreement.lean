import Mathlib.Tactic.Common
import ServiceRecords.Reconcile.Reconcile

set_option autoImplicit false

/-!
# Agreements between a procedure and its surroundings

Anything may happen between two requests of a procedure, but not just anything: an `Agreement`
says how others may change the state meanwhile, what the procedure may ask for, and what it is
answered. A procedure `Honours` an agreement if it asks for nothing else and ends as promised,
however the others use their freedom. The rules below follow the text of a procedure; in them
every condition has to be `Stable`, which is to say that the others cannot spoil it.
-/

namespace ServiceRecords

structure Agreement (σ : Type) where
  /-- How the state may be changed by others between two requests. -/
  yields : σ → σ → Prop
  /-- A state that others lead to can also be left as it is. -/
  yields_refl : ∀ {before after}, yields before after → yields after after
  yields_trans : ∀ {before between after},
    yields before between → yields between after → yields before after
  /-- What the procedure may ask for. -/
  permits : Request → σ → Prop
  /-- The replies to a request and the states that it can lead to. -/
  answers : (r : Request) → σ → r.Reply → σ → Prop

namespace Agreement

variable {σ α β ε : Type} (agreement : Agreement σ)

/-- The procedure keeps to the agreement, and what it ends with satisfies `post`. -/
def Honours (post : α → σ → Prop) : Procedure α → σ → Prop
  | .done result, state => ∀ later, agreement.yields state later → post result later
  -- The others may go first; then the request is permitted and served at once.
  | .ask r resume, state => ∀ later, agreement.yields state later →
      agreement.permits r later ∧
        ∀ reply after, agreement.answers r later reply after → Honours post (resume reply) after

/-- Others cannot spoil the condition. -/
def Stable (condition : σ → Prop) : Prop :=
  ∀ ⦃state later⦄, condition state → agreement.yields state later → condition later

/-- Started where `pre` holds, the attempt keeps to the agreement, and if it succeeds, then with
`post`. -/
structure Achieves (pre : σ → Prop) (attempt : ExceptT ε Procedure α) (post : α → σ → Prop) :
    Prop where
  honours : ∀ state, pre state →
    agreement.Honours (fun result state => ∀ a, result = .ok a → post a state) attempt.run state

variable {agreement}

theorem Honours.yields {post : α → σ → Prop} {procedure : Procedure α} {state later : σ}
    (honours : agreement.Honours post procedure state) (step : agreement.yields state later) :
    agreement.Honours post procedure later := by
  cases procedure with
  | done result =>
    intro last rest
    exact honours last (agreement.yields_trans step rest)
  | ask r resume =>
    intro last rest
    exact honours last (agreement.yields_trans step rest)

/-- It is enough to honour an agreement from wherever the others may lead. -/
theorem honours_of_yields {post : α → σ → Prop} {procedure : Procedure α} {state : σ}
    (honours : ∀ later, agreement.yields state later → agreement.Honours post procedure later) :
    agreement.Honours post procedure state := by
  cases procedure with
  | done result =>
    intro later step
    exact honours later step later (agreement.yields_refl step)
  | ask r resume =>
    intro later step
    exact honours later step later (agreement.yields_refl step)

theorem Honours.mono {post post' : α → σ → Prop} {procedure : Procedure α} {state : σ}
    (honours : agreement.Honours post procedure state)
    (weaker : ∀ a state, post a state → post' a state) :
    agreement.Honours post' procedure state := by
  induction procedure generalizing state with
  | done result =>
    intro later step
    exact weaker result later (honours later step)
  | ask r resume ih =>
    intro later step
    obtain ⟨permitted, answered⟩ := honours later step
    exact ⟨permitted, fun reply after answer => ih reply (answered reply after answer)⟩

theorem Honours.bind {mid : α → σ → Prop} {post : β → σ → Prop} {first : Procedure α}
    {next : α → Procedure β} {state : σ} (honours : agreement.Honours mid first state)
    (following : ∀ a state, mid a state → agreement.Honours post (next a) state) :
    agreement.Honours post (first.bind next) state := by
  induction first generalizing state with
  | done result =>
    apply honours_of_yields
    intro later step
    exact following result later (honours later step)
  | ask r resume ih =>
    intro later step
    obtain ⟨permitted, answered⟩ := honours later step
    exact ⟨permitted, fun reply after answer => ih reply (answered reply after answer)⟩

theorem honours_request {r : Request} {pre : σ → Prop} {post : r.Reply → σ → Prop}
    (stable : agreement.Stable pre) (permitted : ∀ state, pre state → agreement.permits r state)
    (answered : ∀ state reply after, pre state → agreement.answers r state reply after →
      ∀ later, agreement.yields after later → post reply later)
    {state : σ} (begun : pre state) :
    agreement.Honours post (Procedure.request r) state := by
  intro later step
  have holds := stable begun step
  exact ⟨permitted later holds, fun reply after answer => answered later reply after holds answer⟩

namespace Achieves

variable {pre pre' : σ → Prop} {post post' : α → σ → Prop} {attempt : ExceptT ε Procedure α}

theorem mono (achieves : agreement.Achieves pre attempt post)
    (stronger : ∀ state, pre' state → pre state)
    (weaker : ∀ a state, post a state → post' a state) :
    agreement.Achieves pre' attempt post' := by
  constructor
  intro state begun
  refine (achieves.honours state (stronger state begun)).mono ?_
  intro result state achieved a succeeded
  exact weaker a state (achieved a succeeded)

theorem pure {a : α} (stable : agreement.Stable pre) (holds : ∀ state, pre state → post a state) :
    agreement.Achieves pre (Pure.pure a : ExceptT ε Procedure α) post := by
  constructor
  rintro state begun later step _ ⟨⟩
  exact holds later (stable begun step)

theorem bind {mid : α → σ → Prop} {post : β → σ → Prop} {next : α → ExceptT ε Procedure β}
    (achieves : agreement.Achieves pre attempt mid)
    (following : ∀ a, agreement.Achieves (mid a) (next a) post) :
    agreement.Achieves pre (attempt >>= next) post := by
  constructor
  intro state begun
  refine Honours.bind (achieves.honours state begun) ?_
  intro result state achieved
  cases result with
  | ok a => exact (following a).honours state (achieved a rfl)
  | error error =>
    rintro later - _ ⟨⟩

/-- One request whose reply may give up the attempt. -/
theorem request {r : Request} (read : r.Reply → Except ε α) (stable : agreement.Stable pre)
    (stable_post : ∀ a, agreement.Stable (post a))
    (permitted : ∀ state, pre state → agreement.permits r state)
    (answered : ∀ state reply after a, pre state → agreement.answers r state reply after →
      read reply = .ok a → post a after) :
    agreement.Achieves pre
      (ExceptT.mk ((Procedure.request r).bind fun reply => .done (read reply))) post := by
  constructor
  intro state begun later step
  have holds := stable begun step
  refine ⟨permitted later holds, ?_⟩
  intro reply after answer last rest a succeeded
  exact stable_post a (answered later reply after a holds answer succeeded) rest

theorem lift {procedure : Procedure α} (stable : ∀ a, agreement.Stable (post a))
    (honours : ∀ state, pre state → agreement.Honours post procedure state) :
    agreement.Achieves pre (ExceptT.lift procedure : ExceptT ε Procedure α) post := by
  constructor
  intro state begun
  refine Honours.bind (honours state begun) ?_
  rintro a state achieved later step _ ⟨⟩
  exact stable a achieved step

theorem ofRecord {result : Except RecordError α} (stable : agreement.Stable pre) :
    agreement.Achieves pre (Attempt.ofRecord result) fun a state => result = .ok a ∧ pre state := by
  constructor
  intro state begun later step a succeeded
  cases result with
  | error error => cases succeeded
  | ok found =>
    cases succeeded
    exact ⟨rfl, stable begun step⟩

end Achieves

end Agreement

/-- What is left of a reconciliation once the stale zones are clean. -/
def conclude (layout : Layout) (key : Key) (cleaned : Nat) : Option Service → Attempt Outcome
  | none => return .ofWrites cleaned .deleted
  | some service =>
    if service.isDeleting then withdraw layout key service cleaned
    else publish layout service cleaned

/-- Clears marks, if there are any to be cleared. -/
def clearMarks (key : Key) (zones : List String) : Attempt Unit :=
  if zones.isEmpty then pure () else Attempt.ask (.clearStale key zones)

/-- The parts of a reconciliation, in order. -/
theorem reconcile_eq (layout : Layout) (key : Key) :
    reconcile layout key = (do
      let copy ← Attempt.ask (.readService key)
      let stale ← Attempt.ask (.readStale key)
      let unwanted := stale.filter fun zone => wantedZone? copy != some zone
      let cleaned ← cleanZones layout key unwanted
      clearMarks key unwanted
      conclude layout key cleaned copy) := by
  unfold reconcile
  congr 1
  funext copy
  congr 1
  funext stale
  dsimp only
  congr 1
  funext cleaned
  unfold clearMarks
  cases copy <;> split <;> rfl

namespace Agreement.Achieves

variable {σ : Type} {agreement : Agreement σ} {layout : Layout} {key : Key} {pre : σ → Prop}
  {copied : Option Service → σ → Prop} {post : Outcome → σ → Prop}

theorem reconcile_of_cleared (unclean clean cleared : Option Service → List String → σ → Prop)
    (reading : agreement.Achieves pre (Attempt.ask (.readService key)) copied)
    (recalling : ∀ copy, agreement.Achieves (copied copy) (Attempt.ask (.readStale key))
      fun stale => unclean copy (stale.filter fun zone => wantedZone? copy != some zone))
    (cleaning : ∀ copy unwanted, agreement.Achieves (unclean copy unwanted)
      (cleanZones layout key unwanted) fun _ => clean copy unwanted)
    (clearing : ∀ copy unwanted, unwanted ≠ [] → agreement.Achieves (clean copy unwanted)
      (Attempt.ask (.clearStale key unwanted)) fun _ => cleared copy unwanted)
    (sparing : ∀ copy state, clean copy [] state → cleared copy [] state)
    (concluding : ∀ copy unwanted cleaned, agreement.Achieves (cleared copy unwanted)
      (conclude layout key cleaned copy) post) :
    agreement.Achieves pre (ServiceRecords.reconcile layout key) post := by
  rw [reconcile_eq]
  refine reading.bind fun copy => (recalling copy).bind fun stale => ?_
  refine (cleaning copy _).bind fun cleaned => ?_
  generalize (stale.filter fun zone => wantedZone? copy != some zone) = unwanted
  unfold clearMarks
  split
  · rename_i empty
    rw [List.isEmpty_iff.mp empty, pure_bind]
    exact (concluding copy [] cleaned).mono (sparing copy) fun _ _ holds => holds
  · rename_i nonempty
    exact (clearing copy unwanted (mt List.isEmpty_iff.mpr nonempty)).bind fun _ =>
      concluding copy unwanted cleaned

/-- The parts of a reconciliation where it makes no difference whether marks are cleared. -/
theorem reconcile (unclean clean : Option Service → List String → σ → Prop)
    (reading : agreement.Achieves pre (Attempt.ask (.readService key)) copied)
    (recalling : ∀ copy, agreement.Achieves (copied copy) (Attempt.ask (.readStale key))
      fun stale => unclean copy (stale.filter fun zone => wantedZone? copy != some zone))
    (cleaning : ∀ copy unwanted, agreement.Achieves (unclean copy unwanted)
      (cleanZones layout key unwanted) fun _ => clean copy unwanted)
    (clearing : ∀ copy unwanted, unwanted ≠ [] → agreement.Achieves (clean copy unwanted)
      (Attempt.ask (.clearStale key unwanted)) fun _ => clean copy unwanted)
    (concluding : ∀ copy unwanted cleaned, agreement.Achieves (clean copy unwanted)
      (conclude layout key cleaned copy) post) :
    agreement.Achieves pre (ServiceRecords.reconcile layout key) post :=
  reconcile_of_cleared unclean clean clean reading recalling cleaning clearing
    (fun _ _ clean => clean) concluding

end Agreement.Achieves

end ServiceRecords
