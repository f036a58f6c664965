import Mathlib.Logic.Relation
import ServiceRecords.Proofs.Reconcile.Agreement
import ServiceRecords.Proofs.Store.Writes
import ServiceRecords.Reconcile.Surroundings

set_option autoImplicit false

/-!
# Attempts in surroundings where calls fail

A call to the store that has failed may have taken effect or not, so that a procedure can be
broken off between any two of its calls (`Surroundings.Serves`). A procedure with nobody else about
goes through the surroundings one request at a time (`Surroundings.Proceeds`), and what it has
agreed to holds of each of them (`honours_of_proceeds`, `permits_of_proceeds`).
-/

namespace ServiceRecords

namespace Surroundings

variable {α : Type}

/-- A call to the store. One that does not succeed may have taken effect all the same. -/
structure Calls (call : Store.Call) (before : Surroundings) (succeeds : Prop)
    (after : Surroundings) : Prop where
  observer : after.observer = before.observer
  requested : after.requested = before.requested
  contents : after.memory.contents = call.apply before.memory.contents ∨
    ¬succeeds ∧ after.memory.contents = before.memory.contents

/-- The replies to a request, and what may have become of the surroundings. -/
def Serves : (r : Request) → Surroundings → r.Reply → Surroundings → Prop
  | .readService key, before, reply, after =>
    reply = before.observer.cache.find? key ∧ after = before
  | .readStale key, before, reply, after => reply = before.observer.stale.zones key ∧ after = before
  | .clearStale key zones, before, _, after => after = before.updateStale (·.clear key zones)
  | .markStale key zone, before, _, after => after = before.updateStale (·.mark key zone)
  | .enqueue key, before, _, after =>
    after = { before with requested := key :: before.requested }
  | .list start, before, reply, after => Calls (.list start) before True after ∧
      ∀ entries, reply = .ok entries → entries = Store.listing before.memory.contents start
  | .put x value, before, reply, after => Calls (.put x value) before (reply = .ok ()) after
  | .delete x, before, reply, after => Calls (.delete x) before (reply = .ok ()) after

theorem calls_call (call : Store.Call) (before : Surroundings) :
    Calls call before ((before.call call).1 = .ok ()) (before.call call).2 := by
  unfold Surroundings.call Store.Memory.call
  cases before.memory.fault with
  | none => exact ⟨rfl, rfl, .inl rfl⟩
  | some fault =>
    dsimp only
    split
    · split
      · exact ⟨rfl, rfl, .inr ⟨nofun, rfl⟩⟩
      · exact ⟨rfl, rfl, .inl rfl⟩
    · exact ⟨rfl, rfl, .inl rfl⟩

/-- Whatever is planned to fail, requests are answered in one of these ways. -/
theorem serves_answer (r : Request) (before : Surroundings) :
    Serves r before (answer r before).1 (answer r before).2 := by
  cases r with
  | readService key => exact ⟨rfl, rfl⟩
  | readStale key => exact ⟨rfl, rfl⟩
  | clearStale key zones => rfl
  | markStale key zone => rfl
  | enqueue key => rfl
  | put x value => exact calls_call (.put x value) before
  | delete x => exact calls_call (.delete x) before
  | list start =>
    have calls := calls_call (.list start) before
    have same : (before.call (.list start)).2.memory.contents = before.memory.contents :=
      calls.contents.elim id And.right
    refine ⟨⟨calls.observer, calls.requested, .inl same⟩, ?_⟩
    intro entries succeeded
    change ((before.call (.list start)).1.map fun _ =>
      Store.listing (before.call (.list start)).2.memory.contents start) = .ok entries at succeeded
    rw [same] at succeeded
    cases reply : (before.call (.list start)).1 with
    | error error =>
      rw [reply] at succeeded
      cases succeeded
    | ok =>
      rw [reply] at succeeded
      exact (Except.ok.inj succeeded).symm

section Serves

variable {r : Request} {reply : r.Reply} {before after : Surroundings}

/-- Of what the observer knows, requests change nothing but the marks. -/
theorem observer_of_serves (served : Serves r before reply after) :
    after.observer = before.observer ∨
      (∃ key zones, r = .clearStale key zones ∧ after = before.updateStale (·.clear key zones)) ∨
      ∃ key zone, r = .markStale key zone ∧ after = before.updateStale (·.mark key zone) := by
  cases r with
  | readService _ => exact .inl (by rw [served.2])
  | readStale _ => exact .inl (by rw [served.2])
  | clearStale key zones => exact .inr (.inl ⟨key, zones, rfl, served⟩)
  | markStale key zone => exact .inr (.inr ⟨key, zone, rfl, served⟩)
  | enqueue _ => exact .inl (by rw [show after = _ from served])
  | list _ => exact .inl served.1.observer
  | put _ _ => exact .inl served.observer
  | delete _ => exact .inl served.observer

theorem cache_of_serves (served : Serves r before reply after) :
    after.observer.cache = before.observer.cache := by
  rcases observer_of_serves served with same | ⟨_, _, -, rfl⟩ | ⟨_, _, -, rfl⟩
  · rw [same]
  · rfl
  · rfl

/-- What is stored at a place is what was stored there, unless this was the place of the call. -/
theorem stored_of_serves (served : Serves r before reply after) (x : String) :
    after.memory.contents[x]? = before.memory.contents[x]? ∨
      (∃ value, r = .put x value ∧ after.memory.contents[x]? = some value) ∨
      r = .delete x ∧ after.memory.contents[x]? = none := by
  cases r with
  | readService _ => exact .inl (by rw [served.2])
  | readStale _ => exact .inl (by rw [served.2])
  | clearStale _ _ => exact .inl (by rw [show after = _ from served]; rfl)
  | markStale _ _ => exact .inl (by rw [show after = _ from served]; rfl)
  | enqueue _ => exact .inl (by rw [show after = _ from served])
  | list _ =>
    rcases served.1.contents with same | ⟨-, same⟩
    · exact .inl (by rw [same, Store.Call.apply])
    · exact .inl (by rw [same])
  | put y value =>
    rcases served.contents with applied | ⟨-, same⟩
    · rw [applied, Store.Call.apply, Store.getElem?_insert]
      split
      · rename_i own
        subst own
        exact .inr (.inl ⟨value, rfl, rfl⟩)
      · exact .inl rfl
    · exact .inl (by rw [same])
  | delete y =>
    rcases served.contents with applied | ⟨-, same⟩
    · rw [applied, Store.Call.apply, Store.getElem?_erase]
      split
      · rename_i own
        subst own
        exact .inr (.inr ⟨rfl, rfl⟩)
      · exact .inl rfl
    · exact .inl (by rw [same])

theorem call_of_flawless (flawless : before.memory.fault = none) (call : Store.Call) :
    before.call call = (.ok (), { before with memory := { before.memory with
      contents := call.apply before.memory.contents,
      calls := (call, true) :: before.memory.calls } }) := by
  simp [Surroundings.call, Store.Memory.call, flawless]

theorem flawless_answer (flawless : before.memory.fault = none) (r : Request) :
    (answer r before).2.memory.fault = none := by
  cases r with
  | list start => simp [answer, call_of_flawless flawless, flawless]
  | put x value => simp [answer, call_of_flawless flawless, flawless]
  | delete x => simp [answer, call_of_flawless flawless, flawless]
  | _ => exact flawless

end Serves

theorem run_bind_of_ok {β ε : Type} {attempt : ExceptT ε Procedure α}
    {next : α → ExceptT ε Procedure β} {before between : Surroundings} {a : α}
    (ran : attempt.run.run answer before = (.ok a, between)) :
    (attempt >>= next).run.run answer before = (next a).run.run answer between := by
  change (attempt.run.bind _).run answer before = _
  rw [Procedure.run_bind, ran]
  rfl

theorem run_lift {ε : Type} (procedure : Procedure α) (before : Surroundings) :
    (ExceptT.lift procedure : ExceptT ε Procedure α).run.run answer before =
      (.ok (procedure.run answer before).1, (procedure.run answer before).2) := by
  change (procedure.bind _).run answer before = _
  rw [Procedure.run_bind]
  rfl

/-- The next request of the procedure is served. -/
inductive Proceeds : Procedure α × Surroundings → Procedure α × Surroundings → Prop
  | serve {r : Request} {resume : r.Reply → Procedure α} {before after : Surroundings}
      {reply : r.Reply} (served : Serves r before reply after) :
      Proceeds (.ask r resume, before) (resume reply, after)

/-- The procedure goes all the way to its result. -/
def Ends (procedure : Procedure α) (before : Surroundings) (result : α) (after : Surroundings) :
    Prop :=
  Relation.ReflTransGen Proceeds (procedure, before) (.done result, after)

theorem ends_run (procedure : Procedure α) (before : Surroundings) :
    Ends procedure before (procedure.run answer before).1 (procedure.run answer before).2 := by
  induction procedure generalizing before with
  | done result => exact .refl
  | ask r resume ih => exact .head (.serve (serves_answer r before)) (ih _ _)

/-- What a procedure may ask for when there is nobody but itself. -/
def alone (permits : Request → Surroundings → Prop) : Agreement Surroundings where
  yields before after := after = before
  yields_refl _ := rfl
  yields_trans first second := second.trans first
  permits := permits
  answers := Serves

variable {permits : Request → Surroundings → Prop} {post : α → Surroundings → Prop}
  {procedure : Procedure α} {before after : Surroundings}

theorem stable_alone (condition : Surroundings → Prop) : (alone permits).Stable condition := by
  rintro state _ holds rfl
  exact holds

/-- What has been agreed to at the beginning still stands at every later request. -/
theorem honours_of_proceeds (honours : (alone permits).Honours post procedure before)
    {later : Procedure α} (proceeds : Relation.ReflTransGen Proceeds (procedure, before)
      (later, after)) : (alone permits).Honours post later after := by
  generalize start : (procedure, before) = first at proceeds
  generalize finish : (later, after) = last at proceeds
  induction proceeds using Relation.ReflTransGen.head_induction_on generalizing procedure before
    with
  | refl =>
    subst finish
    cases start
    exact honours
  | head step _ ih =>
    cases step with
    | serve served =>
      cases start
      exact ih ((honours _ rfl).2 _ _ served) rfl

theorem permits_of_proceeds (honours : (alone permits).Honours post procedure before)
    {r : Request} {resume : r.Reply → Procedure α}
    (proceeds : Relation.ReflTransGen Proceeds (procedure, before) (.ask r resume, after)) :
    permits r after :=
  (honours_of_proceeds honours proceeds _ rfl).1

theorem post_of_ends (honours : (alone permits).Honours post procedure before) {result : α}
    (ends : Ends procedure before result after) : post result after :=
  honours_of_proceeds honours ends _ rfl

/-- What no permitted request changes is the same in the end. -/
theorem eq_of_proceeds {κ : Type} (invariant : Surroundings → κ)
    (honours : (alone permits).Honours post procedure before)
    (kept : ∀ r before reply after, permits r before → Serves r before reply after →
      invariant after = invariant before)
    {later : Procedure α} (proceeds : Relation.ReflTransGen Proceeds (procedure, before)
      (later, after)) : invariant after = invariant before := by
  generalize finish : (later, after) = last at proceeds
  induction proceeds generalizing later after with
  | refl =>
    cases finish
    rfl
  | tail chain step ih =>
    cases step with
    | serve served =>
      cases finish
      rw [kept _ _ _ _ (permits_of_proceeds honours chain) served]
      exact ih rfl

end Surroundings

end ServiceRecords
