import ServiceRecords.Proofs.Concurrent.Attention
import ServiceRecords.Proofs.Concurrent.Publication

set_option autoImplicit false

/-!
# Convergence

Whatever the order of events, requests and failures, a key that nobody is going to look at any
more and whose latest attempt was not given up has exactly the owned entries that it should have,
and in a quiet controller this is true of all entries (`converges_of_run`). A list must not move
services, because a worker may clear the marks that it makes; without moves nothing is forgotten
(`not_isForgotten`).
-/

namespace ServiceRecords.Concurrent

open Controller

variable {layout : Layout} {ceiling : RetryCeiling} {controller : Controller}
  {history : List Occasion}

/-- A service that is listed has not moved since it was cached. -/
def Occasion.KeepsZone (occasion : Occasion) : Prop :=
  ∀ event ∈ occasion.action.event?, event.KeepsZone occasion.before.observer

instance (occasion : Occasion) : Decidable occasion.KeepsZone :=
  inferInstanceAs (Decidable (∀ event ∈ occasion.action.event?, _))

/-- No list ever makes a key leave its zone. -/
theorem not_leaves_of_run {contents : Store.Contents}
    (unowned : ∀ (x : String) value, contents[x]? = some value → layout.owns value = false)
    (run : Run layout ceiling { contents } history controller)
    (fitting : ∀ occasion ∈ history, occasion.Fits)
    (keeping : ∀ occasion ∈ history, occasion.KeepsZone) :
    (∀ key zone, ¬controller.observer.Leaves key zone) ∧
      ∀ occasion ∈ history, ∀ key zone, ¬occasion.before.observer.Leaves key zone := by
  -- The history speaks of the states before each step, so both parts go through the induction.
  induction run with
  | start =>
    refine ⟨?_, List.forall_mem_nil _⟩
    rintro key zone ⟨previous, service, cached, -⟩
    simp [Cache.find?, Cache.empty] at cached
  | @step history before after now action run acted ih =>
    have fitting_before := fun occasion member => fitting occasion (List.mem_cons_of_mem _ member)
    obtain ⟨unmoved, earlier⟩ := ih fitting_before fun occasion member =>
      keeping occasion (List.mem_cons_of_mem _ member)
    refine ⟨?_, List.forall_mem_cons.mpr ⟨unmoved, earlier⟩⟩
    have acts := acts_of_act? acted
    intro key zone
    by_cases observes : ∃ event, action = .observe event
    · obtain ⟨event, rfl⟩ := observes
      cases acts
      have attended := isAttended_of_run unowned run fitting_before
      exact attended.attentive.not_leaves_apply (fitting _ (List.mem_cons_self ..) event rfl)
        (keeping _ (List.mem_cons_self ..) event rfl) unmoved key zone
    · obtain ⟨cache, buffer⟩ := acts.cache (not_exists.mp observes)
      unfold Observer.Leaves
      rw [cache, buffer]
      exact unmoved key zone

theorem not_isForgotten {contents : Store.Contents}
    (unowned : ∀ (x : String) value, contents[x]? = some value → layout.owns value = false)
    (run : Run layout ceiling { contents } history controller)
    (fitting : ∀ occasion ∈ history, occasion.Fits)
    (keeping : ∀ occasion ∈ history, occasion.KeepsZone) (key : Key) (zone : String) :
    ¬IsForgotten history key zone := by
  rintro ⟨occasion, member, -, -, -, -, -, -, -, -, leaves⟩
  exact (not_leaves_of_run unowned run fitting keeping).2 occasion member key zone leaves

theorem converges_of_run {contents : Store.Contents}
    (unowned : ∀ (x : String) value, contents[x]? = some value → layout.owns value = false)
    (run : Run layout ceiling { contents } history controller)
    (fitting : ∀ occasion ∈ history, occasion.Fits)
    (keeping : ∀ occasion ∈ history, occasion.KeepsZone) :
    (∀ key, key.IsLower → ¬controller.IsAnnounced key → ¬controller.IsBusy key →
      ¬HasFailed history key → controller.IsPublished layout key) ∧
    (controller.IsQuiet → (∀ key, ¬HasFailed history key) → controller.IsConverged layout) := by
  have upkeep := (isAttended_of_run unowned run fitting).upkeep
  have remembered := not_isForgotten unowned run fitting keeping
  refine ⟨?_, ?_⟩
  · intro key lower unannounced idle succeeded
    exact upkeep.isPublished lower (remembered key) unannounced idle succeeded
  · intro quiet succeeded
    exact upkeep.isConverged remembered quiet succeeded

/-- A service that was published in one zone moves, is listed again, and ends up in its second zone
alone. -/
theorem converges_of_run_moved :
    ∃ history controller, Run {} .unbounded {} history controller ∧
      (∀ occasion ∈ history, occasion.Fits) ∧ (∀ occasion ∈ history, occasion.KeepsZone) ∧
      (∀ occasion ∈ history, occasion.Succeeds) ∧ controller.IsQuiet ∧
      (∃ occasion ∈ history, "/skydns/z1/svc/a/e" ∈ occasion.before.contents) ∧
      (controller.observer.cache.find? ⟨"svc", "a"⟩).map (·.spec.zone) = some "z2" ∧
      controller.contents.toList.map (·.1) = ["/skydns/z2/svc/a/e"] ∧
      (⟨"svc", "a"⟩ : Key).IsLower ∧ controller.IsPublished {} ⟨"svc", "a"⟩ ∧
      controller.IsConverged {} := by
  have replayed : ∃ outcome ∈ replay? {} .unbounded [] {} (atOnce
        ([.observe (.applied (sample "z1")), .forward] ++ attempt 4 ++
          [.observe (.applied (sample "z2")), .forward] ++ attempt 7 ++
          [.observe .listStarted, .observe (.listed (sample "z2")), .observe .listComplete,
            .forward] ++ attempt 3)),
      (∀ occasion ∈ outcome.1, occasion.Fits) ∧ (∀ occasion ∈ outcome.1, occasion.KeepsZone) ∧
      (∀ occasion ∈ outcome.1, occasion.Succeeds) ∧ outcome.2.IsQuiet ∧
      (∃ occasion ∈ outcome.1, "/skydns/z1/svc/a/e" ∈ occasion.before.contents) ∧
      (outcome.2.observer.cache.find? ⟨"svc", "a"⟩).map (·.spec.zone) = some "z2" ∧
      outcome.2.contents.toList.map (·.1) = ["/skydns/z2/svc/a/e"] := by
    decide +kernel
  obtain ⟨history, controller, run, fitting, keeping, succeeding, quiet, published, cached,
    stored⟩ := exists_run replayed
  have exclusive := (isAttended_of_run (by simp) run fitting).upkeep.exclusive
  have succeeded := not_hasFailed succeeding
  have converges := converges_of_run (by simp) run fitting keeping
  have lower : (⟨"svc", "a"⟩ : Key).IsLower := by decide +kernel
  exact ⟨history, controller, run, fitting, keeping, succeeding, quiet, published, cached, stored,
    lower, converges.1 _ lower (quiet.not_isAnnounced exclusive) (quiet.not_isBusy exclusive)
      (succeeded _), converges.2 quiet succeeded⟩

end ServiceRecords.Concurrent
