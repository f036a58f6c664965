import ServiceRecords.Proofs.Worker.Exhaustion

set_option autoImplicit false

/-!
# The numbers of attempts

A failed attempt that might have succeeded is reported with a number, one more than the failures
that were counted before. The count stops at the greatest 32-bit number, but the number of the
attempt does not: it is a 32-bit number unless the count has got there (`numbersAttempts_of_run`).
A key that keeps failing gets there (`exists_poised`) unless the ceiling stops it before.
-/

namespace ServiceRecords

namespace WorkQueue

variable {κ : Type} [Ord κ] [Std.TransOrd κ] [Std.LawfulEqOrd κ] {queue : WorkQueue κ} {key : κ}

/-- A key that is returned after a failure and then added, and that nobody has added meanwhile. -/
theorem waiting_retried (running : queue.isShutDown = false) (clean : key ∉ queue.dirty)
    (now : Nat) :
    (((queue.countFailure key).release key).add now key).waiting = queue.waiting ++ [key] := by
  have free : key ∉ ((queue.countFailure key).release key).taken := by simp [mem_taken_release]
  have waits : ((queue.countFailure key).release key).waiting = queue.waiting := by
    simp only [waiting_release, dirty_countFailure, clean, if_false]
    unfold countFailure
    split <;> rfl
  simp [waiting_add, running, clean, free, waits]

end WorkQueue

theorem Verdict.attempt?_ofResult (ceiling : RetryCeiling) (failures : Nat)
    (result : Except ReconcileError Outcome) :
    (ofResult ceiling failures result).attempt? =
      if isTransient result then some (failures + 1) else none := by
  cases result with
  | ok outcome => rfl
  | error error =>
    cases transient : error.isRetryable with
    | false => simp [ofResult, isTransient, transient, attempt?]
    | true =>
      cases allowed : ceiling.allows failures <;>
        simp [ofResult, isTransient, transient, allowed, attempt?]

namespace CrewOccasion

variable {κ : Type} [Ord κ] [Std.TransOrd κ]

/-- The key whose attempt is reported as failed, and the number of the attempt. -/
def number? (ceiling : RetryCeiling) (occasion : CrewOccasion κ) : Option (κ × Nat) :=
  (occasion.verdict? ceiling).bind fun (key, verdict) => verdict.attempt?.map (key, ·)

variable {ceiling : RetryCeiling} {occasion : CrewOccasion κ} {key : κ} {number : Nat}

theorem eq_of_judged? {item : WorkItem κ} {result : Except ReconcileError Outcome} {failures : Nat}
    (judged : occasion.judged? = some (item, result, failures)) :
    failures = occasion.before.shared.queue.attempts item.key := by
  unfold judged? at judged
  split at judged
  · obtain ⟨_, -, same⟩ := Option.map_eq_some_iff.mp judged
    cases same
    rfl
  · cases judged

/-- Whether the key is retried or given up, the number is one more than the count. -/
theorem eq_of_number? (numbered : occasion.number? ceiling = some (key, number)) :
    number = occasion.before.shared.queue.attempts key + 1 := by
  unfold number? verdict? at numbered
  cases judged : occasion.judged? with
  | none => simp [judged] at numbered
  | some entry =>
    obtain ⟨item, result, failures⟩ := entry
    simp only [judged, Option.map_some, Option.bind_some, Verdict.attempt?_ofResult] at numbered
    split at numbered
    · cases numbered
      rw [eq_of_judged? judged]
    · cases numbered

end CrewOccasion

namespace Crew

variable {κ : Type} [Ord κ] [Std.TransOrd κ] [DecidableEq κ]

/-- The failures of the key that were counted since it was last forgotten. -/
def failuresIn (history : List (CrewOccasion κ)) (key : κ) : Nat :=
  countedFailures key (history.filterMap CrewOccasion.onQueue?)

/-- What the counts and the numbers of failed attempts come to. -/
structure NumbersAttempts (ceiling : RetryCeiling) (history : List (CrewOccasion κ))
    (crew : Crew κ) : Prop where
  counts : ∀ key, crew.shared.queue.attempts key < UInt32.size
  /-- The number tells the failures in a row, as far as they are counted. -/
  numbers : ∀ later occasion earlier key number, history = later ++ occasion :: earlier →
    occasion.number? ceiling = some (key, number) →
      number = min (failuresIn earlier key) (UInt32.size - 1) + 1
  /-- Where it is no 32-bit number, that many failures have been counted, and the ceiling did not
  stop them. -/
  fits : ∀ later occasion earlier key number, history = later ++ occasion :: earlier →
    occasion.number? ceiling = some (key, number) →
      number < UInt32.size ∨ UInt32.size - 1 ≤ failuresIn earlier key ∧
        ∀ limit, ceiling = .bounded limit → limit.toNat = UInt32.size - 1

variable {ceiling : RetryCeiling} {size : Nat} {crew : Crew κ} {history : List (CrewOccasion κ)}

/-- Others only add keys, and there is a delay for every retry. -/
structure RunsOrdinarily (ceiling : RetryCeiling) (size : Nat) (history : List (CrewOccasion κ))
    (crew : Crew κ) : Prop where
  run : Run ceiling size history crew
  plain : ∀ occasion ∈ history, occasion.action.isPlain = true
  yields : ∀ occasion ∈ history, occasion.yields = true

theorem RunsOrdinarily.step {now : Nat} {action : CrewAction κ} {after : Crew κ}
    (runs : RunsOrdinarily ceiling size history crew) (acts : crew.Acts ceiling now action after)
    (plain : action.isPlain = true) (yields : CrewOccasion.yields ⟨crew, now, action⟩ = true) :
    RunsOrdinarily ceiling size (⟨crew, now, action⟩ :: history) after where
  run := runs.run.step acts.act?_eq
  plain := List.forall_mem_cons.mpr ⟨plain, runs.plain⟩
  yields := List.forall_mem_cons.mpr ⟨yields, runs.yields⟩

/-- The first worker asks for a key, and the one that waits has failed so often in a row. -/
structure IsPoised (key : κ) (failures : Nat) (crew : Crew κ) : Prop where
  asks : crew.stages 0 = .asking
  waits : crew.shared.queue.waiting = [key]
  running : crew.shared.queue.isShutDown = false
  failures : crew.shared.queue.attempts key = failures

/-- The first worker is at the key, and nobody has added it meanwhile. -/
structure IsEngaged (item : WorkItem κ) (failures : Nat) (crew : Crew κ) : Prop where
  reconciles : crew.stages 0 = .reconciling item
  waits : crew.shared.queue.waiting = []
  clean : item.key ∉ crew.shared.queue.dirty
  running : crew.shared.queue.isShutDown = false
  failures : crew.shared.queue.attempts item.key = failures

theorem isPoised_start (ceiling : RetryCeiling) (key : κ) :
    ∃ crew, (start 1 : Crew κ).Acts ceiling 0 (.outside (.add key)) crew ∧ crew.IsPoised key 0 := by
  refine ⟨_, .outside rfl rfl, ?_⟩
  constructor
  · rfl
  · simp [WorkQueue.waiting_add, start, SharedQueue.empty, WorkQueue.empty]
  · simp [start, SharedQueue.empty, WorkQueue.empty]
  · exact (WorkQueue.attempts_add ..).trans (Failures.count_empty key)

variable [Std.LawfulEqOrd κ] {key : κ} {failures : Nat} {item : WorkItem κ} {wait : Duration}
  {error : ReconcileError}

theorem attempts_eq_of_run (run : Run ceiling size history crew) (key : κ) :
    crew.shared.queue.attempts key = min (failuresIn history key) (UInt32.size - 1) :=
  SharedQueue.attempts_of_run (run_shared run).1 key

theorem numbersAttempts_of_run (run : Run ceiling size history crew)
    (uncounting : ∀ occasion ∈ history, occasion.action.isUncounting = true) :
    crew.NumbersAttempts ceiling history where
  counts := by
    intro key
    rw [attempts_eq_of_run run]
    exact Nat.lt_of_le_of_lt (Nat.min_le_right ..) (by decide)
  numbers := by
    intro later occasion earlier key number shape numbered
    subst shape
    rw [CrewOccasion.eq_of_number? numbered, attempts_eq_of_run run.split.1]
  fits := by
    intro later occasion earlier key number shape numbered
    subst shape
    have before := run.split.1
    have attempts := attempts_eq_of_run before key
    have same := CrewOccasion.eq_of_number? numbered
    have within := isWithin_of_isUncounting before fun other member =>
      uncounting other (List.mem_append_right _ (List.mem_cons_of_mem _ member))
    rcases Nat.lt_or_ge number UInt32.size with small | large
    · exact .inl small
    -- The count has come as far as it can.
    · right
      refine ⟨by omega, ?_⟩
      intro limit bounded
      have held := within.bounded limit bounded key
      have := limit.toNat_lt_size
      omega

/-- A count that somebody else resets between an attempt and its end, so that the number of the next
attempt is the same. -/
theorem numbersAttempts_of_run_forgotten :
    ∃ (history : List (CrewOccasion Nat)) (crew : Crew Nat), Run (.bounded 2) 2 history crew ∧
      (∀ occasion ∈ history, occasion.action.isUncounting = true) ∧
      crew.NumbersAttempts (.bounded 2) history ∧
      history.filterMap (·.number? (.bounded 2)) = [(7, 2), (7, 2), (7, 1)] ∧
      failuresIn history 7 = 1 := by
  let lost : Except ReconcileError Outcome := .error (.store (.unavailable "put" "" ""))
  have replayed : ∃ outcome ∈ replay? (.bounded 2) [] (start 2 : Crew Nat)
        [(0, .outside (.add 7)), (1, .take 0), (2, .judge 0 lost ⟨1⟩),
          (3, .settle 0 fun _ => .ok ⟨5⟩), (4, .postpone 0), (5, .release 0),
          (6, .outside (.fire 7)), (7, .take 1), (8, .judge 1 lost ⟨1⟩), (9, .outside (.forget 7)),
          (10, .settle 1 fun _ => .ok ⟨5⟩), (11, .postpone 1), (12, .release 1),
          (13, .outside (.fire 7)), (14, .take 0), (15, .outside .shutDown),
          (16, .judge 0 lost ⟨1⟩), (17, .settle 0 fun _ => .ok ⟨5⟩), (18, .release 0)],
      (∀ occasion ∈ outcome.1, occasion.action.isUncounting = true) ∧
        outcome.1.filterMap (·.number? (.bounded 2)) = [(7, 2), (7, 2), (7, 1)] ∧
        failuresIn outcome.1 7 = 1 := by
    decide +kernel
  obtain ⟨history, crew, run, uncounting, facts⟩ := exists_run replayed
  exact ⟨history, crew, run, uncounting, numbersAttempts_of_run run uncounting, facts⟩

theorem IsPoised.take (poised : crew.IsPoised key failures) (ceiling : RetryCeiling) (now : Nat) :
    ∃ item after, crew.Acts ceiling now (.take 0) after ∧ item.key = key ∧
      after.IsEngaged item failures := by
  cases took : crew.shared.queue.take? now with
  | none => simp [WorkQueue.take?, poised.waits] at took
  | some entry =>
    obtain ⟨item, queue⟩ := entry
    have takes := WorkQueue.takes_of_take? took
    have only := takes.waiting.symm.trans poised.waits
    rw [List.cons.injEq] at only
    refine ⟨item, _, .take poised.asks took, only.1, ?_⟩
    constructor
    · exact stages_assign_self ..
    · exact only.2
    · simp [checkOut, takes.mem_dirty]
    · exact takes.isShutDown.trans poised.running
    · rw [← poised.failures, ← only.1]
      exact (WorkQueue.eq_of_take? took).2.2 item.key

/-- A worker that fails at its key once more, and whose key is added again after the delay. -/
theorem IsEngaged.retry (engaged : crew.IsEngaged item failures)
    (runs : RunsOrdinarily ceiling size history crew) (transient : error.isRetryable = true)
    (allowed : ceiling.allows failures = true) (positive : wait.isZero = false) (now later : Nat) :
    ∃ history after, RunsOrdinarily ceiling size history after ∧
      after.IsPoised item.key (min (failures + 1) Failures.maxCount) := by
  obtain ⟨reconciles, waits, clean, running, rfl⟩ := engaged
  let verdict := crew.verdict ceiling item (.error error)
  have retried : verdict.isRetried = true :=
    Verdict.isRetried_ofResult.mpr ⟨error, rfl, transient, allowed⟩
  let judged := crew.judge ceiling 0 item (.error error) ⟨0⟩
  let counted := (judged.update (·.countFailure item.key)).assign 0 (.postponing item verdict wait)
  let postponed := counted.postpone now 0 item verdict wait
  let released := postponed.release 0 item
  have judges : crew.Acts ceiling now (.judge 0 (.error error) ⟨0⟩) judged :=
    .judge reconciles ..
  have decided : judged.stages 0 = .settling item verdict := stages_assign_self ..
  have counts : judged.Acts ceiling now (.settle 0 fun _ => .ok wait) counted :=
    .count decided retried running rfl
  have postpones : counted.Acts ceiling now (.postpone 0) postponed :=
    .postpone (stages_assign_self ..)
  have releases : postponed.Acts ceiling now (.release 0) released :=
    .release (stages_assign_self ..)
  have shared : released.shared =
      ⟨(crew.shared.queue.countFailure item.key).release item.key,
        item.key :: crew.shared.delayed, crew.shared.held.erase (0, item.key)⟩ := by
    simp [released, postponed, counted, judged, release, postpone, update, judge,
      SharedQueue.plan, WorkQueue.addAfter, positive]
  have fires : released.Acts ceiling later (.outside (.fire item.key)) { released with
      shared := { released.shared with
        queue := released.shared.queue.add later item.key
        delayed := released.shared.delayed.erase item.key } } :=
    .outside rfl (by simp [SharedQueue.act?, shared])
  refine ⟨_, _, ((((runs.step judges rfl rfl).step counts rfl ?_).step postpones rfl rfl).step
    releases rfl rfl).step fires rfl rfl, ?_⟩
  · simp [CrewOccasion.yields, decided, Except.isOk, Except.toBool]
  · constructor
    · exact stages_assign_self postponed 0 .asking
    · simp [shared, WorkQueue.waiting_retried running clean, waits]
    · simp [shared, running]
    · simp [shared, running]

/-- A key that fails all the time, as long as it is retried. -/
theorem exists_poised (key : κ) (transient : error.isRetryable = true)
    (positive : wait.isZero = false) (small : failures ≤ Failures.maxCount)
    (allowed : ∀ fewer < failures, ceiling.allows fewer = true) :
    ∃ history crew, RunsOrdinarily ceiling 1 history crew ∧ crew.IsPoised key failures := by
  induction failures with
  | zero =>
    obtain ⟨crew, adds, poised⟩ := isPoised_start ceiling key
    have begins : RunsOrdinarily ceiling 1 [] (start 1 : Crew κ) := ⟨.start, by simp, by simp⟩
    exact ⟨_, crew, begins.step adds rfl rfl, poised⟩
  | succ failures ih =>
    obtain ⟨history, crew, runs, poised⟩ := ih (by omega) fun fewer below =>
      allowed fewer (Nat.lt_succ_of_lt below)
    obtain ⟨item, taken, takes, rfl, engaged⟩ := poised.take ceiling 0
    obtain ⟨history, after, runs, poised⟩ := engaged.retry (runs.step takes rfl rfl) transient
      (allowed failures (Nat.lt_succ_self failures)) positive 0 wait.milliseconds
    rw [Nat.min_eq_left small] at poised
    exact ⟨history, after, runs, poised⟩

/-- The next attempt at the key has a number, whether or not it is the last. -/
theorem IsPoised.exists_number (poised : crew.IsPoised key failures)
    (runs : RunsOrdinarily ceiling size history crew) (transient : error.isRetryable = true) :
    ∃ history after, RunsOrdinarily ceiling size history after ∧
      ∃ occasion ∈ history, occasion.number? ceiling = some (key, failures + 1) := by
  obtain ⟨item, taken, takes, rfl, engaged⟩ := poised.take ceiling 0
  have judges : taken.Acts ceiling 0 (.judge 0 (.error error) ⟨0⟩) _ :=
    .judge engaged.reconciles ..
  refine ⟨_, _, (runs.step takes rfl rfl).step judges rfl rfl, _, List.mem_cons_self, ?_⟩
  simp [CrewOccasion.number?, CrewOccasion.verdict?, CrewOccasion.judged?, engaged.reconciles,
    Stage.item?, Verdict.attempt?_ofResult, isTransient, transient, engaged.failures]

/-- The counts and the numbers of failed attempts are 32-bit numbers. -/
structure NumbersFit (ceiling : RetryCeiling) (history : List (CrewOccasion κ))
    (crew : Crew κ) : Prop where
  counts : ∀ key, crew.shared.queue.attempts key < UInt32.size
  numbers : ∀ occasion ∈ history, ∀ key number,
    occasion.number? ceiling = some (key, number) → number < UInt32.size

/-- A ceiling that allows every count below the greatest one lets a number become too great. -/
theorem exists_overrun (key : κ) (transient : error.isRetryable = true)
    (positive : wait.isZero = false)
    (allowed : ∀ failures < Failures.maxCount, ceiling.allows failures = true) :
    ∃ history crew, RunsOrdinarily ceiling 1 history (crew : Crew κ) ∧
      ¬crew.NumbersFit ceiling history := by
  obtain ⟨history, crew, runs, poised⟩ :=
    exists_poised key transient positive (Nat.le_refl _) allowed
  obtain ⟨history, after, runs, occasion, member, numbered⟩ := poised.exists_number runs transient
  refine ⟨history, after, runs, ?_⟩
  intro fits
  have := fits.numbers occasion member _ _ numbered
  simp [Failures.maxCount, UInt32.size] at this

/-- One worker and one key, with no ceiling or with the highest one. -/
theorem exists_not_numbersFit :
    (∃ history crew, RunsOrdinarily .unbounded 1 history (crew : Crew Nat) ∧
      ¬crew.NumbersFit .unbounded history) ∧
    ∃ history crew, RunsOrdinarily (.bounded 4294967295) 1 history (crew : Crew Nat) ∧
      ¬crew.NumbersFit (.bounded 4294967295) history := by
  let lost : ReconcileError := .store (.unavailable "put" "" "")
  have transient : lost.isRetryable = true := rfl
  have positive : (Duration.ofSeconds 1).isZero = false := rfl
  constructor
  · exact exists_overrun 7 transient positive fun _ _ => rfl
  · exact exists_overrun 7 transient positive fun _ below => decide_eq_true below

end Crew

end ServiceRecords
