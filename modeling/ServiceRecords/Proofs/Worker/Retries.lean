import ServiceRecords.Proofs.Worker.Exhaustion

set_option autoImplicit false

/-!
# Retries

What a crew keeps to while its queue is running, whoever adds keys in between: how often keys are
retried, what attempts come to, what the measurements show, and that no key is left that is to be
retried (`keepsProtocol_of_run`).
-/

namespace ServiceRecords

namespace Tally

def count (tally : Tally) (label : String) : Nat := tally[label]?.getD 0

theorem count_increment (tally : Tally) (label other : String) :
    (tally.increment label).count other = tally.count other + if label = other then 1 else 0 := by
  simp only [count, increment, Std.ExtTreeMap.getElem?_insert, Std.LawfulEqOrd.compare_eq_iff_eq]
  by_cases same : label = other
  · subst same
    simp
  · simp [same]

end Tally

namespace Verdict

/-- The attempt has failed. -/
def isFailed : Verdict → Bool
  | succeeded _ => false
  | _ => true

theorem droppedKeys_record (verdict : Verdict) (duration : Duration) (metrics : Metrics)
    (reason : String) :
    (verdict.record duration metrics).droppedKeys.count reason =
      metrics.droppedKeys.count reason + if verdict.dropReason? = some reason then 1 else 0 := by
  cases verdict <;>
    simp [record, dropReason?, Metrics.recordDroppedKey, Metrics.recordFailure,
      Metrics.recordError, Metrics.recordReconciliation, Metrics.recordRequeue,
      Tally.count_increment]

theorem requeues_record (verdict : Verdict) (duration : Duration) (metrics : Metrics)
    (reason : String) :
    (verdict.record duration metrics).requeues.count reason =
      metrics.requeues.count reason + if verdict.requeueReason? = some reason then 1 else 0 := by
  cases verdict <;>
    simp [record, dropReason?, requeueReason?, Metrics.recordDroppedKey, Metrics.recordFailure,
      Metrics.recordError, Metrics.recordReconciliation, Metrics.recordRequeue,
      Tally.count_increment]

theorem reconciliations_record (verdict : Verdict) (duration : Duration) (metrics : Metrics) :
    (verdict.record duration metrics).reconciliations.count "error" =
      metrics.reconciliations.count "error" + if verdict.isFailed then 1 else 0 := by
  cases verdict with
  | succeeded outcome =>
    cases outcome <;>
      simp [record, dropReason?, isFailed, Outcome.name, Metrics.recordReconciliation,
        Tally.count_increment]
  | _ =>
    simp [record, dropReason?, isFailed, Metrics.recordDroppedKey, Metrics.recordFailure,
      Metrics.recordError, Metrics.recordReconciliation, Metrics.recordRequeue,
      Tally.count_increment]

end Verdict

namespace SharedQueue

variable {κ : Type} [Ord κ] [Std.TransOrd κ]

/-- The key is to be added or to be handed out. -/
def IsAwaited (shared : SharedQueue κ) (key : κ) : Prop :=
  key ∈ shared.delayed ∨ key ∈ shared.queue.dirty

variable [Std.LawfulEqOrd κ] {shared : SharedQueue κ} {now : Nat} {key other : κ}

theorem IsAwaited.plan (awaited : shared.IsAwaited key) (delay : Duration) :
    (shared.plan other (shared.queue.addAfter now delay other)).IsAwaited key := by
  unfold SharedQueue.plan WorkQueue.addAfter
  cases delay.isZero with
  | true => exact awaited.imp_right fun dirty => WorkQueue.mem_dirty_add.mpr (.inl dirty)
  | false => exact awaited.imp_left (List.mem_cons_of_mem other)

theorem isAwaited_plan (running : shared.queue.isShutDown = false) (delay : Duration) :
    (shared.plan key (shared.queue.addAfter now delay key)).IsAwaited key := by
  unfold plan WorkQueue.addAfter
  cases delay.isZero with
  | true => exact .inr (WorkQueue.mem_dirty_add.mpr (.inr ⟨rfl, running⟩))
  | false => exact .inl List.mem_cons_self

end SharedQueue

namespace CrewOccasion

variable {κ : Type} [Ord κ] [Std.TransOrd κ]

/-- The key whose attempt is complete, and what was to become of it. -/
def completed? (occasion : CrewOccasion κ) : Option (κ × Verdict) :=
  match occasion.action with
  | .release worker =>
    match occasion.before.stages worker with
    | .returning item verdict => some (item.key, verdict)
    | _ => none
  | _ => none

end CrewOccasion

namespace Crew

variable {κ : Type} [Ord κ] [Std.TransOrd κ] [DecidableEq κ] {ceiling : RetryCeiling}
  {size now : Nat} {crew after : Crew κ} {action : CrewAction κ} {history : List (CrewOccasion κ)}
  {key : κ}

/-- The measurements show what became of the attempts. -/
structure IsTallied (ceiling : RetryCeiling) (history : List (CrewOccasion κ)) (crew : Crew κ) :
    Prop where
  droppedKeys : ∀ reason, crew.metrics.droppedKeys.count reason =
    (history.filterMap (·.dropped? ceiling)).countP (·.2 = reason)
  requeues : ∀ reason, crew.metrics.requeues.count reason =
    (history.filterMap (·.requeued? ceiling)).countP (·.2 = reason)
  failures : crew.metrics.reconciliations.count "error" =
    (history.filterMap (·.requeued? ceiling)).length +
      (history.filterMap (·.dropped? ceiling)).length

theorem IsTallied.acts (tallied : crew.IsTallied ceiling history)
    (acts : crew.Acts ceiling now action after) :
    after.IsTallied ceiling (⟨crew, now, action⟩ :: history) := by
  cases acts with
  | @judge worker item ended result duration =>
    have verdict? : CrewOccasion.verdict? ceiling ⟨crew, now, .judge worker result duration⟩ =
        some (item.key, crew.verdict ceiling item result) := by
      simp only [CrewOccasion.verdict?, CrewOccasion.judged?, ended, Stage.item?, Option.map_some,
        verdict]
    generalize decided : crew.verdict ceiling item result = verdict at verdict?
    have metrics : (crew.judge ceiling worker item result duration).metrics =
        verdict.record duration crew.metrics := by
      rw [← decided]
      rfl
    refine ⟨?_, ?_, ?_⟩
    · intro reason
      rw [metrics, Verdict.droppedKeys_record, tallied.droppedKeys]
      cases found : verdict.dropReason? <;>
        simp [CrewOccasion.dropped?, verdict?, found, List.countP_cons]
    · intro reason
      rw [metrics, Verdict.requeues_record, tallied.requeues]
      cases found : verdict.requeueReason? <;>
        simp [CrewOccasion.requeued?, verdict?, found, List.countP_cons]
    · rw [metrics, Verdict.reconciliations_record, tallied.failures]
      cases verdict <;>
        simp [CrewOccasion.requeued?, CrewOccasion.dropped?, verdict?, Verdict.isFailed,
          Verdict.requeueReason?, Verdict.dropReason?] <;> omega
  -- Nothing else is measured but how long a key has waited.
  | _ => exact ⟨tallied.droppedKeys, tallied.requeues, tallied.failures⟩

theorem isTallied_of_run (run : Run ceiling size history crew) :
    crew.IsTallied ceiling history := by
  induction run with
  | start =>
    refine ⟨?_, ?_, ?_⟩
    · simp [start, Tally.count]
    · simp [start, Tally.count]
    · simp [start, Tally.count]
  | step run acted ih => exact ih.acts (acts_of_act? acted)

variable [Std.LawfulEqOrd κ]

theorem Acts.isAwaited (acts : crew.Acts ceiling now action after) (plain : action.isPlain = true)
    (running : crew.shared.queue.isShutDown = false) (awaited : crew.shared.IsAwaited key) :
    after.shared.IsAwaited key ∨ CrewOccasion.begunKey? ⟨crew, now, action⟩ = some key := by
  cases acts with
  | @outside operation shared isOpen acted =>
    left
    cases operation with
    | add other =>
      cases acted
      exact awaited.imp_right fun dirty => WorkQueue.mem_dirty_add.mpr (.inl dirty)
    | addAfter other delay =>
      cases acted
      exact awaited.plan delay
    | fire other =>
      simp only [SharedQueue.act?] at acted
      split at acted
      · cases acted
        by_cases same : key = other
        · exact .inr (WorkQueue.mem_dirty_add.mpr (.inr ⟨same, running⟩))
        · exact awaited.imp (List.mem_erase_of_ne same).mpr fun dirty =>
            WorkQueue.mem_dirty_add.mpr (.inl dirty)
      · cases acted
    | _ => cases plain
  | @take worker item queue asks took =>
    by_cases same : key = item.key
    · right
      simp [CrewOccasion.begunKey?, CrewOccasion.begun?, took, same]
    · left
      exact awaited.imp_right fun dirty =>
        (WorkQueue.takes_of_take? took).mem_dirty.mpr ⟨dirty, same⟩
  | postpone counted => exact .inl (awaited.plan _)
  | count =>
    left
    exact awaited.imp_right fun dirty => by simpa [update] using dirty
  | release returns =>
    left
    exact awaited.imp_right fun dirty => by simpa [Crew.release] using dirty
  | _ => exact .inl awaited

/-- A key that is to be retried does not get lost. -/
structure IsPending (history : List (CrewOccasion κ)) (crew : Crew κ) : Prop where
  returning : ∀ worker item verdict, crew.stages worker = .returning item verdict →
    verdict.isRetried = true → crew.shared.IsAwaited item.key
  completed : ∀ key verdict,
    (history.filterMap CrewOccasion.completed?).find? (·.1 = key) = some (key, verdict) →
      verdict.isRetried = true → crew.shared.IsAwaited key ∨ key ∈ crew.shared.queue.taken

theorem Acts.mem_taken (acts : crew.Acts ceiling now action after) :
    key ∈ after.shared.queue.taken ↔
      CrewOccasion.begunKey? ⟨crew, now, action⟩ = some key ∨
        (∀ verdict, CrewOccasion.completed? ⟨crew, now, action⟩ ≠ some (key, verdict)) ∧
          key ∈ crew.shared.queue.taken := by
  cases acts with
  | outside isOpen acted =>
    rw [(SharedQueue.custody_of_act? isOpen acted).2]
    simp [CrewOccasion.begunKey?, CrewOccasion.begun?, CrewOccasion.completed?]
  | @take worker item queue asks took =>
    have taken : key ∈ queue.taken ↔ key = item.key ∨ key ∈ crew.shared.queue.taken :=
      (WorkQueue.takes_of_take? took).mem_taken
    simp [CrewOccasion.begunKey?, CrewOccasion.begun?, CrewOccasion.completed?, took, checkOut,
      taken, eq_comm]
  | leave asks empty =>
    simp [CrewOccasion.begunKey?, CrewOccasion.begun?, CrewOccasion.completed?, empty]
  | release returns =>
    simp [CrewOccasion.begunKey?, CrewOccasion.begun?, CrewOccasion.completed?, returns,
      Crew.release, WorkQueue.mem_taken_release, and_comm, eq_comm]
  | _ =>
    simp [CrewOccasion.begunKey?, CrewOccasion.begun?, CrewOccasion.completed?, Crew.judge,
      Crew.postpone, SharedQueue.plan, update, WorkQueue.forget]

theorem IsPending.acts (pending : crew.IsPending history) (sound : crew.IsSound)
    (acts : crew.Acts ceiling now action after) (plain : action.isPlain = true)
    (running : crew.shared.queue.isShutDown = false) :
    after.IsPending (⟨crew, now, action⟩ :: history) := by
  have lasts : ∀ {worker item verdict}, crew.stages worker = .returning item verdict →
      verdict.isRetried = true → after.shared.IsAwaited item.key := by
    intro worker item verdict returns retried
    have awaited := pending.returning worker item verdict returns retried
    have unbegun := sound.unbegun now action (by rw [returns]; rfl)
    exact (acts.isAwaited plain running awaited).resolve_right unbegun
  refine ⟨?_, ?_⟩
  · intro worker item verdict returns retried
    by_cases acting : action.worker? = some worker
    · cases acts with
      | outside => cases acting
      | forget decided final =>
        cases acting
        simp only [stages_assign_self, Stage.returning.injEq] at returns
        simp [returns.2, retried] at final
      | desist decided _ stopped => simp [running] at stopped
      | @postpone _ _ _ delay counted =>
        cases acting
        simp only [Crew.postpone, stages_assign_self, Stage.returning.injEq] at returns
        rw [← returns.1]
        exact SharedQueue.isAwaited_plan running delay
      | _ =>
        cases acting
        simp [checkOut, Crew.judge, Crew.release] at returns
    · rw [acts.stages_of_ne acting] at returns
      exact lasts returns retried
  · intro key verdict found retried
    by_cases completed : ∃ verdict,
        CrewOccasion.completed? ⟨crew, now, action⟩ = some (key, verdict)
    · obtain ⟨latest, completes⟩ := completed
      rw [List.filterMap_cons_some completes, List.find?_cons_of_pos (by simp)] at found
      cases found
      unfold CrewOccasion.completed? at completes
      split at completes
      · rename_i releasing
        split at completes
        · rename_i returns
          cases completes
          exact .inl (lasts returns retried)
        · cases completes
      · cases completes
    · rw [not_exists] at completed
      have found : (history.filterMap CrewOccasion.completed?).find? (·.1 = key) =
          some (key, verdict) := by
        cases latest : CrewOccasion.completed? ⟨crew, now, action⟩ with
        | none => rwa [List.filterMap_cons_none latest] at found
        | some entry =>
          rw [List.filterMap_cons_some latest, List.find?_cons_of_neg] at found
          · exact found
          · rw [decide_eq_true_eq]
            rintro rfl
            exact completed entry.2 latest
      rw [acts.mem_taken]
      rcases pending.completed key verdict found retried with awaited | taken
      · rcases acts.isAwaited plain running awaited with awaited | begun
        · exact .inl awaited
        · exact .inr (.inl begun)
      · exact .inr (.inr ⟨completed, taken⟩)

theorem isPending_of_run (run : Run ceiling size history crew)
    (plain : ∀ occasion ∈ history, occasion.action.isPlain = true) : crew.IsPending history := by
  induction run with
  | start =>
    refine ⟨?_, by simp⟩
    intro worker item verdict returns
    simp only [start] at returns
    split at returns <;> cases returns
  | step run acted ih =>
    rw [List.forall_mem_cons] at plain
    exact (ih plain.2).acts (isSound_of_run run) (acts_of_act? acted) plain.1
      (running_of_run run plain.2)

/-- An attempt runs from a take by a worker to the worker's next release. -/
structure KeepsProtocol (ceiling : RetryCeiling) (history : List (CrewOccasion κ)) (crew : Crew κ) :
    Prop where
  bounded : ∀ limit, ceiling = .bounded limit → ∀ key,
    crew.shared.queue.attempts key ≤ limit.toNat
  ended : ∀ later releasing between taking earlier worker item,
    history = later ++ releasing :: (between ++ taking :: earlier) →
    taking.begun? = some (worker, item) →
    (∀ occasion ∈ between, occasion.action ≠ .release worker) →
    releasing.action = .release worker →
      ∃ result,
        (stepsOf worker between).filterMap CrewOccasion.judged? = [(item, result, item.attempts)] ∧
        ceiling.Ends item result (ending ceiling (stepsOf worker between)
          (releasing.before.shared.queue.attempts item.key))
  tallied : crew.IsTallied ceiling history
  pending : ∀ key verdict,
    (history.filterMap CrewOccasion.completed?).find? (·.1 = key) = some (key, verdict) →
    verdict.isRetried = true →
      key ∈ crew.shared.delayed ∨ key ∈ crew.shared.queue.dirty ∨ key ∈ crew.shared.queue.taken
  /-- A key that is requested once and fails every time is seen to once more than it may be retried,
  and given up once. -/
  exhausted : ∀ key limit, ceiling = .bounded limit →
    history.countP (·.requested? = some key) = 1 →
    (∀ occasion ∈ history, ∀ judged, occasion.judged? = some judged → judged.1.key = key →
      isTransient judged.2.1 = true) →
      (progress ceiling history crew key).begun ≤ limit.toNat + 1 ∧
      (progress ceiling history crew key).requeued ≤ limit.toNat ∧
      (progress ceiling history crew key).dropped.length ≤ 1 ∧
      (key ∉ crew.shared.delayed → key ∉ crew.shared.queue.dirty →
        key ∉ crew.shared.queue.taken →
          progress ceiling history crew key =
            ⟨limit.toNat + 1, limit.toNat, [(key, "retries_exhausted")], 0, 0⟩)

theorem keepsProtocol_of_run (run : Run ceiling size history crew)
    (plain : ∀ occasion ∈ history, occasion.action.isPlain = true)
    (yields : ∀ occasion ∈ history, occasion.yields = true) :
    crew.KeepsProtocol ceiling history where
  bounded := (isWithin_of_run run plain).bounded
  ended := by
    rintro later releasing between taking earlier worker item rfl begun unreleased released
    obtain ⟨before, after, acts, -⟩ := run.split
    rw [List.forall_mem_append, List.forall_mem_cons] at plain
    rw [List.forall_mem_append, List.forall_mem_cons, List.forall_mem_append] at yields
    have done := hasDone_of_run before plain.2.2 yields.2.2.1 begun unreleased
    rw [released] at acts
    cases acts with
    | release returns =>
      rw [returns] at done
      obtain ⟨rfl, result, judged, ends⟩ := done
      exact ⟨result, judged, ends⟩
  tallied := isTallied_of_run run
  pending := by
    intro key verdict found retried
    rw [← or_assoc]
    exact (isPending_of_run run plain).completed key verdict found retried
  exhausted := by
    rintro key limit rfl once transient
    obtain ⟨stage?, has, course⟩ :=
      onCourse_of_run run plain yields (Nat.le_of_eq once) transient
    rw [once] at course
    refine ⟨course.bounds.1, course.bounds.2.1, course.bounds.2.2, ?_⟩
    intro undelayed clean free
    cases stage? with
    | none =>
      apply course.eq_of_done
      simp [progress, SharedQueue.due, SharedQueue.owed, List.count_eq_zero.mpr undelayed, clean]
    | some stage =>
      obtain ⟨about, worker, rfl⟩ := has
      exact absurd ((isSound_of_run run).mem_taken.mpr ⟨worker, about⟩) free

/-- A key fails twice, its only retry included, while another one is rejected and one is added by
somebody else to a worker who has it. -/
theorem keepsProtocol_of_run_exhausted :
    ∃ (history : List (CrewOccasion Nat)) (crew : Crew Nat), Run (.bounded 1) 2 history crew ∧
      crew.KeepsProtocol (.bounded 1) history ∧
      progress (.bounded 1) history crew 7 = ⟨2, 1, [(7, "retries_exhausted")], 0, 0⟩ ∧
      crew.metrics.droppedKeys.count "permanent_error" = 1 ∧
      crew.metrics.reconciliations.count "error" = 3 ∧ 8 ∈ crew.shared.queue.dirty := by
  let lost : Except ReconcileError Outcome := .error (.store (.unavailable "put" "" ""))
  let refused : Except ReconcileError Outcome := .error (.store (.rejected "put" "" ""))
  have replayed : ∃ outcome ∈ replay? (.bounded 1) [] (start 2 : Crew Nat)
        [(0, .outside (.add 7)), (1, .outside (.addAfter 8 ⟨0⟩)), (2, .take 0), (3, .take 1),
          (4, .judge 0 lost ⟨1⟩), (5, .settle 0 fun _ => .ok ⟨5⟩), (6, .judge 1 refused ⟨1⟩),
          (7, .postpone 0), (8, .outside (.add 8)), (9, .release 0), (10, .outside (.fire 7)),
          (11, .take 0), (12, .settle 1 fun _ => .ok ⟨5⟩), (13, .judge 0 lost ⟨1⟩),
          (14, .settle 0 fun _ => .ok ⟨5⟩), (15, .release 1), (16, .release 0)],
      (∀ occasion ∈ outcome.1, occasion.action.isPlain = true) ∧
        (∀ occasion ∈ outcome.1, occasion.yields = true) ∧
        progress (.bounded 1) outcome.1 outcome.2 7 = ⟨2, 1, [(7, "retries_exhausted")], 0, 0⟩ ∧
        outcome.2.metrics.droppedKeys.count "permanent_error" = 1 ∧
        outcome.2.metrics.reconciliations.count "error" = 3 ∧ 8 ∈ outcome.2.shared.queue.dirty := by
    decide +kernel
  obtain ⟨history, crew, run, plain, yields, facts⟩ := exists_run replayed
  exact ⟨history, crew, run, keepsProtocol_of_run run plain yields, facts⟩

end Crew

end ServiceRecords
