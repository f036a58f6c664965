import ServiceRecords.Proofs.Worker.Crew

set_option autoImplicit false

/-!
# How attempts end

No key is retried more often than the ceiling allows, if only the workers count failures
(`isWithin_of_isUncounting`). While the queue is running, each attempt comes to one of four ends
(`RetryCeiling.Ends`): it succeeds, it can never succeed, it was the last one that was allowed, or
the failure is counted and the key is added again. `hasDone_of_run` follows an attempt step by step,
whatever others do in between.
-/

namespace ServiceRecords

namespace Verdict

variable {ceiling : RetryCeiling} {failures : Nat} {result : Except ReconcileError Outcome}

def requeueReason? : Verdict → Option String
  | retried category _ => some category
  | _ => none

theorem requeueReason?_of_final {verdict : Verdict} (final : verdict.isRetried = false) :
    verdict.requeueReason? = none := by
  cases verdict with
  | retried => cases final
  | _ => rfl

theorem dropReason?_of_retried {verdict : Verdict} (retried : verdict.isRetried = true) :
    verdict.dropReason? = none := by
  cases verdict with
  | retried => rfl
  | _ => cases retried

theorem isRetried_ofResult :
    (ofResult ceiling failures result).isRetried = true ↔
      ∃ error, result = .error error ∧ error.isRetryable = true ∧
        ceiling.allows failures = true := by
  cases result with
  | ok outcome => simp [ofResult, isRetried]
  | error error =>
    cases transient : error.isRetryable with
    | false => simp [ofResult, isRetried, transient]
    | true =>
      cases allowed : ceiling.allows failures <;>
        simp [ofResult, isRetried, transient, allowed]

end Verdict

/-- What an attempt comes to, as far as it is counted and added. -/
structure Ending (κ : Type) where
  dropped : List (κ × String)
  requeued : List (κ × String)
  /-- The count of failures of the key -/
  failures : Nat
  added : List κ

/-- The four ends of an attempt. -/
inductive RetryCeiling.Ends {κ : Type} (ceiling : RetryCeiling) (item : WorkItem κ) :
    Except ReconcileError Outcome → Ending κ → Prop where
  | succeeded (outcome : Outcome) : Ends ceiling item (.ok outcome) ⟨[], [], 0, []⟩
  | rejected {error : ReconcileError} (final : error.isRetryable = false) :
      Ends ceiling item (.error error) ⟨[(item.key, "permanent_error")], [], 0, []⟩
  | exhausted {error : ReconcileError} {limit : UInt32} (transient : error.isRetryable = true)
      (bounded : ceiling = .bounded limit) (reached : item.attempts = limit.toNat) :
      Ends ceiling item (.error error) ⟨[(item.key, "retries_exhausted")], [], 0, []⟩
  | retried {error : ReconcileError} (transient : error.isRetryable = true)
      (below : ∀ limit, ceiling = .bounded limit → item.attempts < limit.toNat) :
      Ends ceiling item (.error error)
        ⟨[], [(item.key, error.category)], min (item.attempts + 1) Failures.maxCount, [item.key]⟩

namespace RetryCeiling

variable {κ : Type} {ceiling : RetryCeiling} {item : WorkItem κ}
  {result : Except ReconcileError Outcome}

theorem lt_of_allows {failures : Nat} (allowed : ceiling.allows failures = true) {limit : UInt32}
    (bounded : ceiling = .bounded limit) : failures < limit.toNat := by
  subst bounded
  simpa [allows] using allowed

theorem allows_of_le {failures failures' : Nat} (fewer : failures' ≤ failures)
    (allowed : ceiling.allows failures = true) : ceiling.allows failures' = true := by
  cases ceiling with
  | unbounded => rfl
  | bounded limit =>
    have below := lt_of_allows allowed rfl
    simpa [allows] using Nat.lt_of_le_of_lt fewer below

/-- An attempt that is the last one for its key. -/
theorem ends_of_final (within : ∀ limit, ceiling = .bounded limit → item.attempts ≤ limit.toNat)
    (final : (Verdict.ofResult ceiling item.attempts result).isRetried = false) :
    ceiling.Ends item result
      ⟨(Verdict.ofResult ceiling item.attempts result).dropReason?.toList.map (item.key, ·), [], 0,
        []⟩ := by
  cases result with
  | ok outcome => exact .succeeded outcome
  | error error =>
    cases transient : error.isRetryable with
    | false =>
      simp only [Verdict.ofResult, transient]
      exact .rejected transient
    | true =>
      have refused : ceiling.allows item.attempts = false := by
        by_contra allowed
        rw [Bool.not_eq_false] at allowed
        rw [Verdict.isRetried_ofResult.mpr ⟨error, rfl, transient, allowed⟩] at final
        cases final
      simp only [Verdict.ofResult, transient, refused]
      cases bounded : ceiling with
      | unbounded => simp [bounded, allows] at refused
      | bounded limit =>
        have reached : ¬item.attempts < limit.toNat := by simpa [bounded, allows] using refused
        have within := within limit bounded
        exact .exhausted transient rfl (by omega)

theorem ends_of_retried
    (retried : (Verdict.ofResult ceiling item.attempts result).isRetried = true) :
    ceiling.Ends item result
      ⟨[], (Verdict.ofResult ceiling item.attempts result).requeueReason?.toList.map (item.key, ·),
        min (item.attempts + 1) Failures.maxCount, [item.key]⟩ := by
  obtain ⟨error, rfl, transient, allowed⟩ := Verdict.isRetried_ofResult.mp retried
  simp only [Verdict.ofResult, transient, allowed]
  exact .retried transient fun limit bounded => lt_of_allows allowed bounded

end RetryCeiling

namespace Stage

variable {κ : Type} {ceiling : RetryCeiling} {item : WorkItem κ} {ending : Ending κ}
  {judged : List (WorkItem κ × Except ReconcileError Outcome × Nat)} {stage : Stage κ}

/-- What a worker has done so far with the item that it has taken. -/
def HasDone (ceiling : RetryCeiling) (item : WorkItem κ)
    (judged : List (WorkItem κ × Except ReconcileError Outcome × Nat)) (ending : Ending κ) :
    Stage κ → Prop
  | .reconciling current =>
    current = item ∧ judged = [] ∧ ending = ⟨[], [], item.attempts, []⟩
  | .settling current verdict =>
    current = item ∧ ∃ result, judged = [(item, result, item.attempts)] ∧
      verdict = .ofResult ceiling item.attempts result ∧
      ending = ⟨verdict.dropReason?.toList.map (item.key, ·),
        verdict.requeueReason?.toList.map (item.key, ·), item.attempts, []⟩
  | .postponing current verdict _ =>
    current = item ∧ ∃ result, judged = [(item, result, item.attempts)] ∧
      verdict = .ofResult ceiling item.attempts result ∧ verdict.isRetried = true ∧
      ending = ⟨[], verdict.requeueReason?.toList.map (item.key, ·),
        min (item.attempts + 1) Failures.maxCount, []⟩
  | .returning current _ =>
    current = item ∧ ∃ result, judged = [(item, result, item.attempts)] ∧
      ceiling.Ends item result ending
  | _ => False

theorem HasDone.item? (done : HasDone ceiling item judged ending stage) :
    stage.item? = some item := by
  cases stage with
  | reconciling | settling | postponing | returning => exact congrArg some done.1
  | _ => exact done.elim

theorem HasDone.key? (done : HasDone ceiling item judged ending stage) :
    stage.key? = some item.key := by
  rw [Stage.key?, done.item?, Option.map_some]

end Stage

namespace CrewAction

variable {κ : Type}

/-- If somebody else uses the queue, it is to add a key, at once or later. -/
def isPlain : CrewAction κ → Bool
  | outside (.add _) | outside (.addAfter ..) | outside (.fire _) => true
  | outside _ => false
  | _ => true

/-- Nobody but a worker counts a failure. -/
def isUncounting : CrewAction κ → Bool
  | outside (.retry ..) | outside (.countFailure _) => false
  | _ => true

theorem isUncounting_of_isPlain {action : CrewAction κ} (plain : action.isPlain = true) :
    action.isUncounting = true := by
  cases action with
  | outside operation =>
    cases operation with
    | retry | countFailure => cases plain
    | _ => rfl
  | _ => rfl

end CrewAction

namespace CrewOccasion

variable {κ : Type} [Ord κ] [Std.TransOrd κ]

/-- If a delay is asked for, there is one. -/
def yields (occasion : CrewOccasion κ) : Bool :=
  match occasion.action with
  | .settle worker delay =>
    match occasion.before.stages worker with
    | .settling item _ => (delay (occasion.before.shared.queue.attempts item.key)).isOk
    | _ => true
  | _ => true

/-- The attempt that begins: the worker, and what it has taken. -/
def begun? (occasion : CrewOccasion κ) : Option (Nat × WorkItem κ) :=
  match occasion.action with
  | .take worker =>
    (occasion.before.shared.queue.take? occasion.now).map fun taken => (worker, taken.1)
  | _ => none

def begunKey? (occasion : CrewOccasion κ) : Option κ := occasion.begun?.map (·.2.key)

/-- The result of the attempt that has ended, its item, and the failures of the key by then. -/
def judged? (occasion : CrewOccasion κ) :
    Option (WorkItem κ × Except ReconcileError Outcome × Nat) :=
  match occasion.action with
  | .judge worker result _ =>
    (occasion.before.stages worker).item?.map fun item =>
      (item, result, occasion.before.shared.queue.attempts item.key)
  | _ => none

/-- What becomes of the key then. -/
def verdict? (ceiling : RetryCeiling) (occasion : CrewOccasion κ) : Option (κ × Verdict) :=
  occasion.judged?.map fun (item, result, failures) =>
    (item.key, .ofResult ceiling failures result)

def dropped? (ceiling : RetryCeiling) (occasion : CrewOccasion κ) : Option (κ × String) :=
  (occasion.verdict? ceiling).bind fun (key, verdict) => verdict.dropReason?.map (key, ·)

def requeued? (ceiling : RetryCeiling) (occasion : CrewOccasion κ) : Option (κ × String) :=
  (occasion.verdict? ceiling).bind fun (key, verdict) => verdict.requeueReason?.map (key, ·)

/-- The key that a worker adds again, at once or after a delay. -/
def readded? (occasion : CrewOccasion κ) : Option κ :=
  match occasion.action with
  | .postpone worker => (occasion.before.stages worker).key?
  | _ => none

end CrewOccasion

namespace Crew

variable {κ : Type} [Ord κ] [Std.TransOrd κ]

/-- What the steps of a worker come to. -/
def ending (ceiling : RetryCeiling) (steps : List (CrewOccasion κ)) (failures : Nat) :
    Ending κ where
  dropped := steps.filterMap (·.dropped? ceiling)
  requeued := steps.filterMap (·.requeued? ceiling)
  failures
  added := steps.filterMap (·.readded?)

variable {ceiling : RetryCeiling} {size now : Nat} {crew after : Crew κ} {action : CrewAction κ}
  {history between earlier : List (CrewOccasion κ)} {item : WorkItem κ}

/-- The queue of a crew is in order, and no two workers see to the same key. -/
structure IsSound (crew : Crew κ) : Prop where
  kept : crew.shared.IsKept
  manned : crew.IsManned

theorem IsSound.apart (sound : crew.IsSound) {key : κ} {worker other : Nat}
    (has : (crew.stages worker).key? = some key) (has' : (crew.stages other).key? = some key) :
    worker = other :=
  sound.kept.apart ((sound.manned worker key).mpr has) ((sound.manned other key).mpr has')

theorem IsSound.mem_taken (sound : crew.IsSound) {key : κ} :
    key ∈ crew.shared.queue.taken ↔ ∃ worker, (crew.stages worker).key? = some key := by
  simp only [sound.kept.mem_taken, List.mem_map, Prod.exists, exists_eq_right, sound.manned _ key]

/-- Nobody takes a key that somebody has. -/
theorem IsSound.unbegun (sound : crew.IsSound) (now : Nat) (action : CrewAction κ) {worker : Nat}
    {key : κ} (has : (crew.stages worker).key? = some key) :
    CrewOccasion.begunKey? ⟨crew, now, action⟩ ≠ some key := by
  unfold CrewOccasion.begunKey? CrewOccasion.begun?
  split
  · intro begun
    obtain ⟨⟨_, item⟩, taking, rfl⟩ := Option.map_eq_some_iff.mp begun
    obtain ⟨⟨_, queue⟩, took, shape⟩ := Option.map_eq_some_iff.mp taking
    cases shape
    exact (WorkQueue.takes_of_take? took).not_taken sound.kept.isOrderly
      (sound.mem_taken.mpr ⟨worker, has⟩)
  · exact nofun

/-- How often each key is retried is up to the ceiling. -/
structure IsWithin (ceiling : RetryCeiling) (crew : Crew κ) : Prop where
  bounded : ∀ limit, ceiling = .bounded limit → ∀ key,
    crew.shared.queue.attempts key ≤ limit.toNat
  allowed : ∀ worker item verdict, crew.stages worker = .settling item verdict →
    verdict.isRetried = true → ceiling.allows (crew.shared.queue.attempts item.key) = true

theorem ending_cons_of_judged {occasion : CrewOccasion κ} {result : Except ReconcileError Outcome}
    {failures : Nat} (judged : occasion.judged? = some (item, result, failures))
    (unadded : occasion.readded? = none) (steps : List (CrewOccasion κ)) (count : Nat) :
    let verdict := Verdict.ofResult ceiling failures result
    ending ceiling (occasion :: steps) count =
      ⟨verdict.dropReason?.toList.map (item.key, ·) ++ steps.filterMap (·.dropped? ceiling),
        verdict.requeueReason?.toList.map (item.key, ·) ++ steps.filterMap (·.requeued? ceiling),
        count, steps.filterMap (·.readded?)⟩ := by
  intro verdict
  have verdict? : occasion.verdict? ceiling = some (item.key, verdict) := by
    simp only [CrewOccasion.verdict?, judged, Option.map_some, verdict]
  cases dropped : verdict.dropReason? <;> cases requeued : verdict.requeueReason? <;>
    simp [ending, CrewOccasion.dropped?, CrewOccasion.requeued?, verdict?, dropped, requeued,
      unadded]

theorem ending_cons_of_unjudged {occasion : CrewOccasion κ} (unjudged : occasion.judged? = none)
    (steps : List (CrewOccasion κ)) (count : Nat) :
    ending ceiling (occasion :: steps) count =
      ⟨steps.filterMap (·.dropped? ceiling), steps.filterMap (·.requeued? ceiling), count,
        occasion.readded?.toList ++ steps.filterMap (·.readded?)⟩ := by
  have verdict? : occasion.verdict? ceiling = none := by
    rw [CrewOccasion.verdict?, unjudged, Option.map_none]
  cases readded : occasion.readded? <;>
    simp [ending, CrewOccasion.dropped?, CrewOccasion.requeued?, verdict?, readded]

variable [DecidableEq κ]

theorem Acts.isShutDown (acts : crew.Acts ceiling now action after)
    (plain : action.isPlain = true) :
    after.shared.queue.isShutDown = crew.shared.queue.isShutDown := by
  cases acts with
  | outside isOpen acted =>
    apply QueueOccasion.isShutDown_of_act? acted
    rintro rfl
    cases plain
  | take asks took => exact (WorkQueue.takes_of_take? took).isShutDown
  | count decided retried running found => exact WorkQueue.isShutDown_countFailure ..
  | postpone counted => exact WorkQueue.isShutDown_addAfter ..
  | release returns => exact WorkQueue.isShutDown_release ..
  | _ => rfl

theorem running_of_run (run : Run ceiling size history crew)
    (plain : ∀ occasion ∈ history, occasion.action.isPlain = true) :
    crew.shared.queue.isShutDown = false := by
  induction run with
  | start => rfl
  | step run acted ih =>
    rw [List.forall_mem_cons] at plain
    rw [(acts_of_act? acted).isShutDown plain.1]
    exact ih plain.2

variable [Std.LawfulEqOrd κ]

theorem isSound_of_run (run : Run ceiling size history crew) : crew.IsSound :=
  ⟨SharedQueue.isKept_of_run (run_shared run).1, (run_shared run).2⟩

/-- The failures of a key are counted and forgotten only by the worker who has it. -/
theorem Acts.attempts (acts : crew.Acts ceiling now action after)
    (plain : action.isPlain = true) :
    (∀ key, after.shared.queue.attempts key = crew.shared.queue.attempts key) ∨
      ∃ worker item verdict, action.worker? = some worker ∧
        crew.stages worker = .settling item verdict ∧
        ∀ key, after.shared.queue.attempts key =
          if item.key = key then
            if verdict.isRetried then min (crew.shared.queue.attempts key + 1) Failures.maxCount
            else 0
          else crew.shared.queue.attempts key := by
  cases acts with
  | @outside operation shared isOpen acted =>
    left
    intro key
    cases operation with
    | add added =>
      cases acted
      exact WorkQueue.attempts_add ..
    | addAfter added delay =>
      cases acted
      exact WorkQueue.attempts_addAfter ..
    | fire added =>
      simp only [SharedQueue.act?] at acted
      split at acted
      · cases acted
        exact WorkQueue.attempts_add ..
      · cases acted
    | _ => cases plain
  | take asks took => exact .inl (WorkQueue.eq_of_take? took).2.2
  | @forget worker item verdict decided final delay =>
    refine .inr ⟨worker, item, verdict, rfl, decided, ?_⟩
    simp [update, final]
  | @count worker item verdict wait delay decided retried running found =>
    refine .inr ⟨worker, item, verdict, rfl, decided, ?_⟩
    intro key
    by_cases same : item.key = key
    · subst same
      simp [update, retried, running]
    · simp [update, same]
  | postpone counted => exact .inl fun _ => WorkQueue.attempts_addAfter ..
  | release returns => exact .inl fun _ => WorkQueue.attempts_release ..
  | _ => exact .inl fun _ => rfl

theorem Acts.attempts_of_idle (acts : crew.Acts ceiling now action after)
    (plain : action.isPlain = true) {key : κ}
    (idle : ∀ worker, action.worker? = some worker → (crew.stages worker).key? ≠ some key) :
    after.shared.queue.attempts key = crew.shared.queue.attempts key := by
  rcases acts.attempts plain with unchanged | ⟨worker, item, verdict, acting, decided, attempts⟩
  · exact unchanged key
  · rw [attempts, if_neg]
    rintro rfl
    apply idle worker acting
    rw [decided]
    rfl

/-- A worker who has a key need not mind what the others do to the counts. -/
theorem IsSound.attempts_of_ne (sound : crew.IsSound) (acts : crew.Acts ceiling now action after)
    (plain : action.isPlain = true) {worker : Nat} {key : κ}
    (has : (crew.stages worker).key? = some key) (idle : action.worker? ≠ some worker) :
    after.shared.queue.attempts key = crew.shared.queue.attempts key := by
  apply acts.attempts_of_idle plain
  intro other acting has'
  rw [sound.apart has' has] at acting
  exact idle acting

/-- A count grows only where the worker who has the key is to retry it. -/
theorem Acts.attempts_le (acts : crew.Acts ceiling now action after)
    (uncounting : action.isUncounting = true) (key : κ) :
    after.shared.queue.attempts key ≤ crew.shared.queue.attempts key ∨
      ∃ worker item verdict, action.worker? = some worker ∧
        crew.stages worker = .settling item verdict ∧ item.key = key ∧
        verdict.isRetried = true ∧
        after.shared.queue.attempts key =
          min (crew.shared.queue.attempts key + 1) Failures.maxCount := by
  cases acts with
  | @outside operation shared isOpen acted =>
    left
    have attempts := QueueOccasion.attempts_of_act? acted key
    have uncounted : QueueOccasion.counted? ⟨crew.shared, now, operation⟩ = none := by
      cases operation with
      | retry | countFailure => cases uncounting
      | _ => simp [QueueOccasion.counted?]
    rw [attempts, uncounted]
    split
    · exact Nat.zero_le _
    · exact Nat.le_refl _
  | take asks took => exact .inl (Nat.le_of_eq ((WorkQueue.eq_of_take? took).2.2 key))
  | forget decided final delay =>
    left
    simp only [shared_assign, update, WorkQueue.attempts_forget]
    split
    · exact Nat.zero_le _
    · exact Nat.le_refl _
  | @count worker item verdict wait delay decided retried running found =>
    by_cases same : item.key = key
    · refine .inr ⟨worker, item, verdict, rfl, decided, same, retried, ?_⟩
      subst same
      simp [update, running]
    · left
      simp [update, same]
  | postpone counted => exact .inl (Nat.le_of_eq (WorkQueue.attempts_addAfter ..))
  | release returns => exact .inl (Nat.le_of_eq (WorkQueue.attempts_release ..))
  | _ => exact .inl (Nat.le_refl _)

theorem IsWithin.acts (within : crew.IsWithin ceiling) (sound : crew.IsSound)
    (acts : crew.Acts ceiling now action after) (uncounting : action.isUncounting = true) :
    after.IsWithin ceiling := by
  refine ⟨?_, ?_⟩
  · intro limit bounded key
    have before := within.bounded limit bounded key
    rcases acts.attempts_le uncounting key with fewer | counting
    · exact Nat.le_trans fewer before
    · obtain ⟨worker, item, verdict, -, decided, rfl, retried, counted⟩ := counting
      have below :=
        RetryCeiling.lt_of_allows (within.allowed worker item verdict decided retried) bounded
      omega
  · intro worker item verdict decided retried
    by_cases idle : action.worker? ≠ some worker
    · rw [acts.stages_of_ne idle] at decided
      have allowed := within.allowed worker item verdict decided retried
      rcases acts.attempts_le uncounting item.key with fewer | counting
      · exact RetryCeiling.allows_of_le fewer allowed
      -- Nobody else has the key.
      · obtain ⟨other, item', verdict', acting, decided', same, -, -⟩ := counting
        have own : (crew.stages worker).key? = some item.key := by rw [decided]; rfl
        have own' : (crew.stages other).key? = some item.key := by rw [decided', ← same]; rfl
        rw [sound.apart own' own] at acting
        exact absurd acting idle
    -- To decide is to ask the ceiling.
    · rw [not_not] at idle
      cases acts with
      | outside => cases idle
      | @judge _ item' ended result duration =>
        cases idle
        simp only [judge, stages_assign_self, Stage.settling.injEq] at decided
        obtain ⟨rfl, rfl⟩ := decided
        obtain ⟨-, -, -, allowed⟩ := Verdict.isRetried_ofResult.mp retried
        exact allowed
      | _ =>
        cases idle
        simp [checkOut, postpone, Crew.release] at decided

/-- The ceiling is kept to whatever others do, if only they count no failures. -/
theorem isWithin_of_isUncounting (run : Run ceiling size history crew)
    (uncounting : ∀ occasion ∈ history, occasion.action.isUncounting = true) :
    crew.IsWithin ceiling := by
  induction run with
  | start =>
    refine ⟨?_, ?_⟩
    · intro limit bounded key
      simp [start, SharedQueue.empty, WorkQueue.empty, WorkQueue.attempts]
    · intro worker item verdict decided
      simp only [start] at decided
      split at decided <;> cases decided
  | step run acted ih =>
    rw [List.forall_mem_cons] at uncounting
    exact (ih uncounting.2).acts (isSound_of_run run) (acts_of_act? acted) uncounting.1

theorem isWithin_of_run (run : Run ceiling size history crew)
    (plain : ∀ occasion ∈ history, occasion.action.isPlain = true) : crew.IsWithin ceiling :=
  isWithin_of_isUncounting run fun occasion member =>
    CrewAction.isUncounting_of_isPlain (plain occasion member)

/-- The steps of one worker. -/
def stepsOf (worker : Nat) (history : List (CrewOccasion κ)) : List (CrewOccasion κ) :=
  history.filter fun occasion => occasion.action.worker? = some worker

theorem HasDone.acts {steps : List (CrewOccasion κ)} {worker : Nat}
    (done : (crew.stages worker).HasDone ceiling item (steps.filterMap CrewOccasion.judged?)
      (ending ceiling steps (crew.shared.queue.attempts item.key)))
    (acts : crew.Acts ceiling now action after) (acting : action.worker? = some worker)
    (unreleased : action ≠ .release worker) (within : crew.IsWithin ceiling)
    (running : crew.shared.queue.isShutDown = false)
    (yields : CrewOccasion.yields ⟨crew, now, action⟩ = true) :
    (after.stages worker).HasDone ceiling item
      ((⟨crew, now, action⟩ :: steps).filterMap CrewOccasion.judged?)
      (ending ceiling (⟨crew, now, action⟩ :: steps) (after.shared.queue.attempts item.key)) := by
  cases acts with
  | outside => cases acting
  | take asks took =>
    cases acting
    rw [asks] at done
    exact done.elim
  | leave asks =>
    cases acting
    rw [asks] at done
    exact done.elim
  | @judge _ current ended result duration =>
    cases acting
    rw [ended] at done
    obtain ⟨rfl, unjudged, same⟩ := done
    obtain ⟨undropped, unrequeued, attempts, unadded⟩ := Ending.mk.inj same
    have judged : CrewOccasion.judged? ⟨crew, now, .judge worker result duration⟩ =
        some (current, result, current.attempts) := by
      simp only [CrewOccasion.judged?, ended, Stage.item?, Option.map_some, attempts]
    rw [List.filterMap_cons_some judged, unjudged, ending_cons_of_judged judged rfl, undropped,
      unrequeued, unadded]
    simp only [judge, stages_assign_self, shared_assign, List.append_nil, attempts, verdict]
    exact ⟨rfl, result, rfl, rfl, rfl⟩
  | @forget _ current verdict decided final delay =>
    cases acting
    rw [decided] at done
    obtain ⟨rfl, result, judged, rfl, same⟩ := done
    obtain ⟨dropped, requeued, attempts, unadded⟩ := Ending.mk.inj same
    rw [List.filterMap_cons_none rfl, judged, ending_cons_of_unjudged rfl, dropped, requeued,
      unadded]
    have bounded : ∀ limit, ceiling = .bounded limit → current.attempts ≤ limit.toNat := by
      intro limit bounded
      rw [← attempts]
      exact within.bounded limit bounded current.key
    simp only [update, stages_assign_self, shared_assign, WorkQueue.attempts_forget, if_true,
      Verdict.requeueReason?_of_final final]
    exact ⟨rfl, result, rfl, RetryCeiling.ends_of_final bounded final⟩
  | desist decided retried stopped => simp [running] at stopped
  | @count _ current verdict wait delay decided retried _ found =>
    cases acting
    rw [decided] at done
    obtain ⟨rfl, result, judged, rfl, same⟩ := done
    obtain ⟨dropped, requeued, attempts, unadded⟩ := Ending.mk.inj same
    rw [List.filterMap_cons_none rfl, judged, ending_cons_of_unjudged rfl, dropped, requeued,
      unadded]
    simp only [update, stages_assign_self, shared_assign, Verdict.dropReason?_of_retried retried,
      WorkQueue.attempts_countFailure, running, and_self, if_true, attempts]
    exact ⟨rfl, result, rfl, rfl, retried, rfl⟩
  | breakDown decided retried _ missing =>
    simp [CrewOccasion.yields, decided, missing, Except.isOk, Except.toBool] at yields
  | @postpone _ current verdict delay counted =>
    cases acting
    rw [counted] at done
    obtain ⟨rfl, result, judged, rfl, retried, same⟩ := done
    obtain ⟨dropped, requeued, attempts, unadded⟩ := Ending.mk.inj same
    rw [List.filterMap_cons_none rfl, judged, ending_cons_of_unjudged rfl, dropped, requeued,
      unadded]
    simp only [postpone, SharedQueue.plan, stages_assign_self, shared_assign,
      WorkQueue.attempts_addAfter, attempts, CrewOccasion.readded?, counted]
    exact ⟨rfl, result, rfl, RetryCeiling.ends_of_retried retried⟩
  | release =>
    cases acting
    exact absurd rfl unreleased

theorem hasDone_of_run {taking : CrewOccasion κ} {worker : Nat}
    (run : Run ceiling size (between ++ taking :: earlier) crew)
    (plain : ∀ occasion ∈ between ++ taking :: earlier, occasion.action.isPlain = true)
    (yields : ∀ occasion ∈ between, occasion.yields = true)
    (begun : taking.begun? = some (worker, item))
    (unreleased : ∀ occasion ∈ between, occasion.action ≠ .release worker) :
    (crew.stages worker).HasDone ceiling item
      ((stepsOf worker between).filterMap CrewOccasion.judged?)
      (ending ceiling (stepsOf worker between) (crew.shared.queue.attempts item.key)) := by
  induction between generalizing crew with
  | nil =>
    cases run with
    | @step _ before _ now action run acted =>
      unfold CrewOccasion.begun? at begun
      cases acts_of_act? acted with
      | @take _ item' queue asks took =>
        simp only [took, Option.map_some, Option.some.injEq, Prod.mk.injEq] at begun
        obtain ⟨rfl, rfl⟩ := begun
        have := (WorkQueue.eq_of_take? took).2
        simp [checkOut, Stage.HasDone, stepsOf, ending, this]
      | leave asks empty => simp [empty] at begun
      | _ => cases begun
  | cons latest between ih =>
    rw [List.forall_mem_cons] at yields unreleased
    rw [List.cons_append, List.forall_mem_cons] at plain
    cases run with
    | @step _ before _ now action run acted =>
      have done := ih run plain.2 yields.2 unreleased.2
      have acts := acts_of_act? acted
      by_cases acting : action.worker? = some worker
      · have steps : stepsOf worker (⟨before, now, action⟩ :: between) =
            ⟨before, now, action⟩ :: stepsOf worker between :=
          List.filter_cons_of_pos (by simp [acting])
        rw [steps]
        exact HasDone.acts done acts acting unreleased.1 (isWithin_of_run run plain.2)
          (running_of_run run plain.2) yields.1
      · have steps : stepsOf worker (⟨before, now, action⟩ :: between) = stepsOf worker between :=
          List.filter_cons_of_neg (by simp [acting])
        rw [steps, acts.stages_of_ne acting,
          (isSound_of_run run).attempts_of_ne acts plain.1 done.key? acting]
        exact done

end Crew

end ServiceRecords
