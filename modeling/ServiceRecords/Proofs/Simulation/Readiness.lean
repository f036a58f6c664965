import Mathlib.Logic.Relation
import ServiceRecords.Proofs.Watch.Relisting
import ServiceRecords.Simulation.Sweeper

set_option autoImplicit false

/-!
# No sweep before the first complete list

Whatever happens to a sweeper, it runs only once its observer has seen a complete list
(`isGated_of_reached`). Until then no time that passes makes it read the store, mark a zone or
queue a key (`waits_of_reached`).
-/

namespace ServiceRecords

/-- No procedure makes an observer ready. -/
theorem Surroundings.isReady_run {α : Type} (procedure : Procedure α)
    (surroundings : Surroundings) :
    (procedure.run answer surroundings).2.observer.isReady = surroundings.observer.isReady := by
  induction procedure generalizing surroundings with
  | done result => rfl
  | ask r resume ih =>
    have same : (answer r surroundings).2.observer.isReady = surroundings.observer.isReady := by
      cases r <;> rfl
    exact (ih _ _).trans same

namespace Simulation.Sweeper

variable {layout : Layout} {period now : Nat} {sweeper after : Sweeper}

/-- What can happen to a sweeper. -/
inductive Happens (layout : Layout) (period : Nat) : Sweeper → Sweeper → Prop
  | occur {sweeper : Sweeper} (event : SweeperEvent) (now : Nat) :
    Happens layout period sweeper ((behaviour layout period).occur event now sweeper).1
  | settle {sweeper : Sweeper} (now : Nat) :
    Happens layout period sweeper ((behaviour layout period).settle now sweeper).1
  | inform {sweeper after : Sweeper} (event : WatchEvent)
    (informed : sweeper.inform? event = some after) : Happens layout period sweeper after
  | updateMemory {sweeper : Sweeper} (change : Store.Memory → Store.Memory) :
    Happens layout period sweeper (sweeper.updateMemory change)
  | loseInformation {sweeper : Sweeper} : Happens layout period sweeper sweeper.loseInformation
  | cancel {sweeper : Sweeper} : Happens layout period sweeper sweeper.cancel

/-- A sweeper that looks at its observer stays as it is, ends, or sweeps for the first time. -/
theorem settle_cases (layout : Layout) (period now : Nat) (sweeper : Sweeper) :
    let settled := ((behaviour layout period).settle now sweeper).1
    settled = sweeper ∨ settled = { sweeper with stage := .stopped } ∨
      sweeper.surroundings.observer.isReady = true ∧
        settled = { sweeper with stage := .running }.sweep layout now := by
  simp only [behaviour]
  split
  · exact .inl rfl
  · split
    · rename_i ready
      split
      · exact .inr (.inl rfl)
      · exact .inr (.inr ⟨ready, rfl⟩)
    · split
      · exact .inl rfl
      · exact .inr (.inl rfl)

/-- A sweeper that is running once it has looked was so before, or what it sees is ready. -/
theorem running_or_ready
    (runs : ((behaviour layout period).settle now sweeper).1.stage = .running) :
    sweeper.stage = .running ∨ sweeper.surroundings.observer.isReady = true := by
  rcases settle_cases layout period now sweeper with same | stopped | ⟨ready, -⟩
  · rw [same] at runs
    exact .inl runs
  · rw [stopped] at runs
    cases runs
  · exact .inr ready

/-- The sweeper runs only if the observer is ready. -/
def IsGated (sweeper : Sweeper) : Prop :=
  sweeper.stage = .running → sweeper.surroundings.observer.isReady = true

theorem IsGated.sweep (gated : sweeper.IsGated) : (sweeper.sweep layout now).IsGated := by
  intro running
  exact (Surroundings.isReady_run (ServiceRecords.sweep layout).run sweeper.surroundings).trans
    (gated running)

theorem IsGated.occur (gated : sweeper.IsGated) (event : SweeperEvent) :
    ((behaviour layout period).occur event now sweeper).1.IsGated := by
  simp only [behaviour]
  split
  · exact gated.sweep
  · exact gated

theorem IsGated.settle (gated : sweeper.IsGated) :
    ((behaviour layout period).settle now sweeper).1.IsGated := by
  rcases settle_cases layout period now sweeper with same | stopped | ⟨ready, sweeps⟩
  · rw [same]
    exact gated
  · rw [stopped]
    exact nofun
  · rw [sweeps]
    exact IsGated.sweep fun _ => ready

theorem IsGated.inform (gated : sweeper.IsGated) {event : WatchEvent}
    (informed : sweeper.inform? event = some after) : after.IsGated := by
  unfold inform? at informed
  split at informed
  · cases informed
    exact gated
  · split at informed
    · rename_i observer applied
      cases informed
      intro running
      have ready := Observer.isReady_apply (gated running) event
      rwa [applied] at ready
    · cases informed

theorem IsGated.happens (gated : sweeper.IsGated) (happens : Happens layout period sweeper after) :
    after.IsGated := by
  cases happens with
  | occur event now => exact gated.occur event
  | settle now => exact gated.settle
  | inform event informed => exact gated.inform informed
  | updateMemory change => exact gated
  | loseInformation => exact gated
  | cancel => exact nofun

theorem isGated_of_reached (reached : Relation.ReflTransGen (Happens layout period) {} sweeper) :
    sweeper.IsGated := by
  induction reached with
  | refl => exact nofun
  | tail _ happens gated => exact gated.happens happens

theorem waits_of_reached (reached : Relation.ReflTransGen (Happens layout period) {} sweeper)
    (unready : sweeper.surroundings.observer.isReady = false) (now : Nat) (event : SweeperEvent) :
    ((behaviour layout period).occur event now sweeper).1 = sweeper ∧
      ((behaviour layout period).settle now sweeper).1.surroundings = sweeper.surroundings ∧
      ((behaviour layout period).settle now sweeper).1.queue = sweeper.queue := by
  have idle : sweeper.stage ≠ .running := by
    intro running
    rw [isGated_of_reached reached running] at unready
    cases unready
  refine ⟨by simp [behaviour, idle], ?_⟩
  rcases settle_cases layout period now sweeper with same | stopped | ⟨ready, -⟩
  · rw [same]
    exact ⟨rfl, rfl⟩
  · rw [stopped]
    exact ⟨rfl, rfl⟩
  · rw [unready] at ready
    cases ready

end Simulation.Sweeper

end ServiceRecords
