import Mathlib.Logic.Function.Basic
import ServiceRecords.Proofs.Queue.Delivery

set_option autoImplicit false

/-!
# A crew of workers

The workers of a crew see to the keys of one queue, which others use as well. Every access of a
worker to the queue is a step of its own, so that anybody may come in between: `act?` says what an
action does, `Acts` what it can have been, and `Run` is any sequence of actions with its history.
A crew uses its queue as clients do (`run_shared`), and each worker has the key that it is at
(`IsManned`). Reporting a result in one go comes to the steps of the worker (`exists_reports`).
-/

namespace ServiceRecords

/-- What a worker is at. -/
inductive Stage (κ : Type) where
  | asking
  | reconciling (item : WorkItem κ)
  /-- It is decided what becomes of the key. -/
  | settling (item : WorkItem κ) (verdict : Verdict)
  /-- The failure is counted, and the key is to be added after the delay. -/
  | postponing (item : WorkItem κ) (verdict : Verdict) (delay : Duration)
  /-- Only the key has to be returned. -/
  | returning (item : WorkItem κ) (verdict : Verdict)
  /-- There was no delay for a retry. The worker never comes back, and neither does the key. -/
  | broken (item : WorkItem κ)
  /-- There were no more keys. -/
  | left
  deriving DecidableEq

namespace Stage

variable {κ : Type}

def item? : Stage κ → Option (WorkItem κ)
  | asking | left => none
  | reconciling item | settling item _ | postponing item _ _ | returning item _ | broken item =>
    some item

/-- The key that a worker has checked out. -/
def key? (stage : Stage κ) : Option κ := stage.item?.map (·.key)

end Stage

namespace Verdict

def isRetried : Verdict → Bool
  | retried .. => true
  | _ => false

theorem settle_eq {κ : Type} [Ord κ] [Std.TransOrd κ] (verdict : Verdict)
    (delay : Nat → Except BackoffError Duration) (now : Nat) (key : κ) (queue : WorkQueue κ) :
    verdict.settle delay now key queue =
      if verdict.isRetried then queue.retry now delay key else .ok (none, queue.forget key) := by
  cases verdict <;> rfl

end Verdict

namespace QueueOperation

variable {κ : Type}

/-- Anybody may carry out the operation, not only one who takes keys and returns them. -/
def isOpen : QueueOperation κ → Bool
  | take _ | release .. => false
  | _ => true

end QueueOperation

structure Crew (κ : Type) [Ord κ] where
  shared : SharedQueue κ
  stages : Nat → Stage κ
  metrics : Metrics := {}

inductive CrewAction (κ : Type) where
  /-- Somebody else uses the queue. -/
  | outside (operation : QueueOperation κ)
  | take (worker : Nat)
  /-- The attempt has ended; it is counted, with what becomes of the key. -/
  | judge (worker : Nat) (result : Except ReconcileError Outcome) (duration : Duration)
  | settle (worker : Nat) (delay : Nat → Except BackoffError Duration)
  | postpone (worker : Nat)
  | release (worker : Nat)

namespace CrewAction

def worker? {κ : Type} : CrewAction κ → Option Nat
  | outside _ => none
  | take worker | judge worker _ _ | settle worker _ | postpone worker | release worker =>
    some worker

end CrewAction

namespace Crew

variable {κ : Type} [Ord κ]

/-- A crew of so many workers. All the others have left before. -/
def start (size : Nat) : Crew κ where
  shared := .empty
  stages worker := if worker < size then .asking else .left

def assign (crew : Crew κ) (worker : Nat) (stage : Stage κ) : Crew κ :=
  { crew with stages := Function.update crew.stages worker stage }

@[simp]
theorem shared_assign (crew : Crew κ) (worker : Nat) (stage : Stage κ) :
    (crew.assign worker stage).shared = crew.shared := rfl

@[simp]
theorem metrics_assign (crew : Crew κ) (worker : Nat) (stage : Stage κ) :
    (crew.assign worker stage).metrics = crew.metrics := rfl

@[simp]
theorem stages_assign_self (crew : Crew κ) (worker : Nat) (stage : Stage κ) :
    (crew.assign worker stage).stages worker = stage :=
  Function.update_self ..

theorem stages_assign_of_ne {worker other : Nat} (different : other ≠ worker) (crew : Crew κ)
    (stage : Stage κ) : (crew.assign worker stage).stages other = crew.stages other :=
  Function.update_of_ne different ..

def update (crew : Crew κ) (change : WorkQueue κ → WorkQueue κ) : Crew κ :=
  { crew with shared := { crew.shared with queue := change crew.shared.queue } }

/-- The workers have the keys that they are at. -/
def IsManned (crew : Crew κ) : Prop :=
  ∀ worker key, (worker, key) ∈ crew.shared.held ↔ (crew.stages worker).key? = some key

theorem isManned_start (size : Nat) : (start size : Crew κ).IsManned := by
  intro worker key
  simp only [start, SharedQueue.empty, List.not_mem_nil, false_iff]
  split <;> rintro ⟨⟩

theorem IsManned.congr {crew after : Crew κ} (manned : crew.IsManned)
    (held : after.shared.held = crew.shared.held)
    (keys : ∀ worker, (after.stages worker).key? = (crew.stages worker).key?) :
    after.IsManned := by
  intro worker key
  rw [held, keys]
  exact manned worker key

/-- A worker that gets to another stage with its key, or without one as before. -/
theorem IsManned.assign {crew before : Crew κ} (manned : crew.IsManned) {worker : Nat}
    {stage : Stage κ} (held : before.shared.held = crew.shared.held)
    (stages : before.stages = crew.stages) (same : stage.key? = (crew.stages worker).key?) :
    (before.assign worker stage).IsManned := by
  refine manned.congr held ?_
  intro other
  by_cases own : other = worker
  · subst own
    rw [stages_assign_self, same]
  · rw [stages_assign_of_ne own, stages]

variable [Std.TransOrd κ]

/-- The worker begins an attempt. -/
def checkOut (crew : Crew κ) (now worker : Nat) (item : WorkItem κ) (queue : WorkQueue κ) :
    Crew κ :=
  { crew with
    shared := { crew.shared with queue, held := (worker, item.key) :: crew.shared.held }
    metrics := crew.metrics.recordQueueWait (.ofMilliseconds (now - item.added))
  }.assign worker (.reconciling item)

def verdict (ceiling : RetryCeiling) (crew : Crew κ) (item : WorkItem κ)
    (result : Except ReconcileError Outcome) : Verdict :=
  .ofResult ceiling (crew.shared.queue.attempts item.key) result

def judge (ceiling : RetryCeiling) (crew : Crew κ) (worker : Nat) (item : WorkItem κ)
    (result : Except ReconcileError Outcome) (duration : Duration) : Crew κ :=
  { crew with metrics := (crew.verdict ceiling item result).record duration crew.metrics }.assign
    worker (.settling item (crew.verdict ceiling item result))

/-- The worker counts the failure of a key that is to be retried, and forgets any other. -/
def settle (crew : Crew κ) (worker : Nat) (item : WorkItem κ) (verdict : Verdict)
    (delay : Nat → Except BackoffError Duration) : Crew κ :=
  if verdict.isRetried then
    if crew.shared.queue.isShutDown then crew.assign worker (.returning item verdict)
    else
      match delay (crew.shared.queue.attempts item.key) with
      | .ok delay =>
        (crew.update (·.countFailure item.key)).assign worker (.postponing item verdict delay)
      | .error _ => crew.assign worker (.broken item)
  else (crew.update (·.forget item.key)).assign worker (.returning item verdict)

def postpone (crew : Crew κ) (now worker : Nat) (item : WorkItem κ) (verdict : Verdict)
    (delay : Duration) : Crew κ :=
  { crew with
    shared := crew.shared.plan item.key (crew.shared.queue.addAfter now delay item.key) }.assign
    worker (.returning item verdict)

variable [DecidableEq κ]

def release (crew : Crew κ) (worker : Nat) (item : WorkItem κ) : Crew κ :=
  { crew with
    shared := { crew.shared with
      queue := crew.shared.queue.release item.key
      held := crew.shared.held.erase (worker, item.key) } }.assign worker .asking

/-- What an action does, if it is one that can be taken. A worker leaves when it asks for a key and
there will be none. -/
def act? (ceiling : RetryCeiling) (now : Nat) (crew : Crew κ) : CrewAction κ → Option (Crew κ)
  | .outside operation =>
    if operation.isOpen then
      (crew.shared.act? now operation).map fun shared => { crew with shared }
    else none
  | .take worker =>
    match crew.stages worker, crew.shared.queue.take? now with
    | .asking, some (item, queue) => some (crew.checkOut now worker item queue)
    | .asking, none =>
      if crew.shared.queue.isDrained then some (crew.assign worker .left) else none
    | _, _ => none
  | .judge worker result duration =>
    match crew.stages worker with
    | .reconciling item => some (crew.judge ceiling worker item result duration)
    | _ => none
  | .settle worker delay =>
    match crew.stages worker with
    | .settling item verdict => some (crew.settle worker item verdict delay)
    | _ => none
  | .postpone worker =>
    match crew.stages worker with
    | .postponing item verdict delay => some (crew.postpone now worker item verdict delay)
    | _ => none
  | .release worker =>
    match crew.stages worker with
    | .returning item _ => some (crew.release worker item)
    | _ => none

/-- The actions that can be taken, and what each of them does. -/
inductive Acts (ceiling : RetryCeiling) (now : Nat) (crew : Crew κ) :
    CrewAction κ → Crew κ → Prop where
  | outside {operation : QueueOperation κ} {shared : SharedQueue κ}
      (isOpen : operation.isOpen = true) (acted : crew.shared.act? now operation = some shared) :
      Acts ceiling now crew (.outside operation) { crew with shared }
  | take {worker : Nat} {item : WorkItem κ} {queue : WorkQueue κ}
      (asks : crew.stages worker = .asking)
      (took : crew.shared.queue.take? now = some (item, queue)) :
      Acts ceiling now crew (.take worker) (crew.checkOut now worker item queue)
  | leave {worker : Nat} (asks : crew.stages worker = .asking)
      (empty : crew.shared.queue.take? now = none)
      (drained : crew.shared.queue.isDrained = true) :
      Acts ceiling now crew (.take worker) (crew.assign worker .left)
  | judge {worker : Nat} {item : WorkItem κ} (ended : crew.stages worker = .reconciling item)
      (result : Except ReconcileError Outcome) (duration : Duration) :
      Acts ceiling now crew (.judge worker result duration)
        (crew.judge ceiling worker item result duration)
  | forget {worker : Nat} {item : WorkItem κ} {verdict : Verdict}
      (decided : crew.stages worker = .settling item verdict) (final : verdict.isRetried = false)
      (delay : Nat → Except BackoffError Duration) :
      Acts ceiling now crew (.settle worker delay)
        ((crew.update (·.forget item.key)).assign worker (.returning item verdict))
  | desist {worker : Nat} {item : WorkItem κ} {verdict : Verdict}
      (decided : crew.stages worker = .settling item verdict) (retried : verdict.isRetried = true)
      (stopped : crew.shared.queue.isShutDown = true)
      (delay : Nat → Except BackoffError Duration) :
      Acts ceiling now crew (.settle worker delay) (crew.assign worker (.returning item verdict))
  | count {worker : Nat} {item : WorkItem κ} {verdict : Verdict} {wait : Duration}
      {delay : Nat → Except BackoffError Duration}
      (decided : crew.stages worker = .settling item verdict) (retried : verdict.isRetried = true)
      (running : crew.shared.queue.isShutDown = false)
      (found : delay (crew.shared.queue.attempts item.key) = .ok wait) :
      Acts ceiling now crew (.settle worker delay)
        ((crew.update (·.countFailure item.key)).assign worker (.postponing item verdict wait))
  | breakDown {worker : Nat} {item : WorkItem κ} {verdict : Verdict} {error : BackoffError}
      {delay : Nat → Except BackoffError Duration}
      (decided : crew.stages worker = .settling item verdict) (retried : verdict.isRetried = true)
      (running : crew.shared.queue.isShutDown = false)
      (missing : delay (crew.shared.queue.attempts item.key) = .error error) :
      Acts ceiling now crew (.settle worker delay) (crew.assign worker (.broken item))
  | postpone {worker : Nat} {item : WorkItem κ} {verdict : Verdict} {delay : Duration}
      (counted : crew.stages worker = .postponing item verdict delay) :
      Acts ceiling now crew (.postpone worker) (crew.postpone now worker item verdict delay)
  | release {worker : Nat} {item : WorkItem κ} {verdict : Verdict}
      (returns : crew.stages worker = .returning item verdict) :
      Acts ceiling now crew (.release worker) (crew.release worker item)

variable {ceiling : RetryCeiling} {size now : Nat} {crew after : Crew κ} {action : CrewAction κ}

theorem acts_of_act? (acted : crew.act? ceiling now action = some after) :
    crew.Acts ceiling now action after := by
  cases action with
  | outside operation =>
    simp only [act?] at acted
    split at acted
    · rename_i isOpen
      obtain ⟨shared, used, rfl⟩ := Option.map_eq_some_iff.mp acted
      exact .outside isOpen used
    · cases acted
  | take worker =>
    simp only [act?] at acted
    split at acted
    · rename_i asks took
      cases acted
      exact .take asks took
    · rename_i asks empty
      split at acted
      · rename_i drained
        cases acted
        exact .leave asks empty drained
      · cases acted
    · cases acted
  | judge worker result duration =>
    simp only [act?] at acted
    split at acted
    · rename_i ended
      cases acted
      exact .judge ended result duration
    · cases acted
  | settle worker delay =>
    simp only [act?] at acted
    split at acted
    · rename_i item verdict decided
      cases acted
      unfold settle
      cases retried : verdict.isRetried with
      | false => exact .forget decided retried delay
      | true =>
        cases stopped : crew.shared.queue.isShutDown with
        | true => exact .desist decided retried stopped delay
        | false =>
          cases found : delay (crew.shared.queue.attempts item.key) with
          | ok wait => exact .count decided retried stopped found
          | error error => exact .breakDown decided retried stopped found
    · cases acted
  | postpone worker =>
    simp only [act?] at acted
    split at acted
    · rename_i counted
      cases acted
      exact .postpone counted
    · cases acted
  | release worker =>
    simp only [act?] at acted
    split at acted
    · rename_i returns
      cases acted
      exact .release returns
    · cases acted

theorem Acts.act?_eq (acts : crew.Acts ceiling now action after) :
    crew.act? ceiling now action = some after := by
  cases acts with
  | outside isOpen acted => simp [act?, isOpen, acted]
  | take asks took => simp [act?, asks, took]
  | leave asks empty drained => simp [act?, asks, empty, drained]
  | judge ended => simp [act?, ended]
  | forget decided final => simp [act?, decided, settle, final]
  | desist decided retried stopped => simp [act?, decided, settle, retried, stopped]
  | count decided retried running found =>
    simp [act?, decided, settle, retried, running, found]
  | breakDown decided retried running missing =>
    simp [act?, decided, settle, retried, running, missing]
  | postpone counted => simp [act?, counted]
  | release returns => simp [act?, returns]

/-- Nobody but the worker who acts gets to another stage. -/
theorem Acts.stages_of_ne (acts : crew.Acts ceiling now action after) {worker : Nat}
    (idle : action.worker? ≠ some worker) : after.stages worker = crew.stages worker := by
  cases acts with
  | outside isOpen acted => rfl
  | _ =>
    apply stages_assign_of_ne
    rintro rfl
    exact idle rfl

end Crew

namespace SharedQueue

variable {κ : Type} [Ord κ] [Std.TransOrd κ] [DecidableEq κ] {before after : SharedQueue κ}
  {now : Nat} {operation : QueueOperation κ}

/-- What anybody may do leaves the keys alone that are checked out, and those who have them. -/
theorem custody_of_act? (isOpen : operation.isOpen = true)
    (acted : before.act? now operation = some after) :
    after.held = before.held ∧ after.queue.taken = before.queue.taken := by
  cases QueueOccasion.affects_of_act? acted with
  | adds failures added untaken unreleased queue held =>
    exact ⟨held, by rw [queue, WorkQueue.taken_add]⟩
  | passes failures isShutDown unadded untaken unreleased queue lasts held =>
    exact ⟨held, by rw [queue]⟩
  | takes unadded taken unreleased took held =>
    cases operation with
    | take client => cases isOpen
    | _ => cases taken
  | releases unadded untaken released had queue held =>
    cases operation with
    | release client key => cases isOpen
    | _ => cases released

end SharedQueue

/-- An action, when it was taken, and the crew before it. -/
structure CrewOccasion (κ : Type) [Ord κ] where
  before : Crew κ
  now : Nat
  action : CrewAction κ

namespace CrewOccasion

variable {κ : Type} [Ord κ] [Std.TransOrd κ]

/-- What the action does to the queue. -/
def operation? (occasion : CrewOccasion κ) : Option (QueueOperation κ) :=
  match occasion.action with
  | .outside operation => some operation
  | .take worker => some (.take worker)
  | .judge .. => none
  | .settle worker delay =>
    match occasion.before.stages worker with
    | .settling item verdict =>
      if verdict.isRetried then
        if (delay (occasion.before.shared.queue.attempts item.key)).isOk then
          some (.countFailure item.key)
        else none
      else some (.forget item.key)
    | _ => none
  | .postpone worker =>
    match occasion.before.stages worker with
    | .postponing item _ delay => some (.addAfter item.key delay)
    | _ => none
  | .release worker =>
    match occasion.before.stages worker with
    | .returning item _ => some (.release worker item.key)
    | _ => none

def onQueue? (occasion : CrewOccasion κ) : Option (QueueOccasion κ) :=
  occasion.operation?.map fun operation => ⟨occasion.before.shared, occasion.now, operation⟩

end CrewOccasion

namespace Crew

variable {κ : Type} [Ord κ] [Std.TransOrd κ] [DecidableEq κ]

/-- The occasions since a crew of so many workers began, the latest first. -/
inductive Run (ceiling : RetryCeiling) (size : Nat) : List (CrewOccasion κ) → Crew κ → Prop where
  | start : Run ceiling size [] (start size)
  | step {history : List (CrewOccasion κ)} {before after : Crew κ} {now : Nat}
      {action : CrewAction κ} (run : Run ceiling size history before)
      (acted : before.act? ceiling now action = some after) :
      Run ceiling size (⟨before, now, action⟩ :: history) after

/-- Takes the actions in order, each one at its time, after what has happened already. -/
def replay? (ceiling : RetryCeiling) (history : List (CrewOccasion κ)) (crew : Crew κ) :
    List (Nat × CrewAction κ) → Option (List (CrewOccasion κ) × Crew κ)
  | [] => some (history, crew)
  | (now, action) :: rest =>
    match crew.act? ceiling now action with
    | none => none
    | some after => replay? ceiling (⟨crew, now, action⟩ :: history) after rest

variable {ceiling : RetryCeiling} {size now : Nat} {crew after : Crew κ} {action : CrewAction κ}
  {history later earlier : List (CrewOccasion κ)} {occasion : CrewOccasion κ}

/-- What happened up to an occasion is a run, and so is what happened up to its end. -/
theorem Run.split (run : Run ceiling size (later ++ occasion :: earlier) crew) :
    Run ceiling size earlier occasion.before ∧
      ∃ after, occasion.before.Acts ceiling occasion.now occasion.action after ∧
        Run ceiling size (occasion :: earlier) after := by
  induction later generalizing crew with
  | nil =>
    cases run with
    | step run acted => exact ⟨run, _, acts_of_act? acted, run.step acted⟩
  | cons latest later ih =>
    cases run with
    | step run acted => exact ih run

theorem run_of_replay? {before : Crew κ} {history' : List (CrewOccasion κ)}
    {actions : List (Nat × CrewAction κ)} (run : Run ceiling size history before)
    (replayed : replay? ceiling history before actions = some (history', after)) :
    Run ceiling size history' after := by
  induction actions generalizing history before with
  | nil =>
    cases replayed
    exact run
  | cons entry rest ih =>
    obtain ⟨now, action⟩ := entry
    unfold replay? at replayed
    cases acted : before.act? ceiling now action with
    | none => simp [acted] at replayed
    | some next =>
      rw [acted] at replayed
      exact ih (run.step acted) replayed

theorem exists_run {actions : List (Nat × CrewAction κ)}
    {property : List (CrewOccasion κ) × Crew κ → Prop}
    (replayed : ∃ outcome ∈ replay? ceiling [] (start size) actions, property outcome) :
    ∃ history crew, Run ceiling size history crew ∧ property (history, crew) := by
  obtain ⟨⟨history, crew⟩, replayed, holds⟩ := replayed
  exact ⟨history, crew, run_of_replay? .start replayed, holds⟩

/-- Every action that concerns the queue is an operation on it, and the others leave it alone. -/
theorem Acts.operation {crew after : Crew κ} {now : Nat} {action : CrewAction κ}
    (manned : crew.IsManned) (acts : crew.Acts ceiling now action after) :
    (CrewOccasion.operation? ⟨crew, now, action⟩ = none ∧ after.shared = crew.shared) ∨
      ∃ operation, CrewOccasion.operation? ⟨crew, now, action⟩ = some operation ∧
        crew.shared.act? now operation = some after.shared := by
  cases acts with
  | outside isOpen acted => exact .inr ⟨_, rfl, acted⟩
  | take asks took => exact .inr ⟨_, rfl, by simp [SharedQueue.act?, took, checkOut]⟩
  | leave asks empty drained => exact .inr ⟨_, rfl, by simp [SharedQueue.act?, empty]⟩
  | judge ended result duration => exact .inl ⟨rfl, rfl⟩
  | @forget worker item verdict decided final delay =>
    refine .inr ⟨.forget item.key, ?_, rfl⟩
    simp [CrewOccasion.operation?, decided, final]
  | @desist worker item verdict decided retried stopped delay =>
    -- The queue that was shut down counts no failures.
    cases found : delay (crew.shared.queue.attempts item.key) with
    | ok wait =>
      refine .inr ⟨.countFailure item.key, ?_, ?_⟩
      · simp [CrewOccasion.operation?, decided, retried, found, Except.isOk, Except.toBool]
      · simp [SharedQueue.act?, WorkQueue.countFailure, stopped]
    | error error =>
      refine .inl ⟨?_, rfl⟩
      simp [CrewOccasion.operation?, decided, retried, found, Except.isOk, Except.toBool]
  | @count worker item verdict wait delay decided retried running found =>
    refine .inr ⟨.countFailure item.key, ?_, rfl⟩
    simp [CrewOccasion.operation?, decided, retried, found, Except.isOk, Except.toBool]
  | breakDown decided retried running missing =>
    refine .inl ⟨?_, rfl⟩
    simp [CrewOccasion.operation?, decided, retried, missing, Except.isOk, Except.toBool]
  | @postpone worker item verdict delay counted =>
    refine .inr ⟨.addAfter item.key delay, ?_, rfl⟩
    simp [CrewOccasion.operation?, counted]
  | @release worker item verdict returns =>
    have had : (worker, item.key) ∈ crew.shared.held := by
      rw [manned, returns]
      rfl
    refine .inr ⟨.release worker item.key, ?_, ?_⟩
    · simp [CrewOccasion.operation?, returns]
    · simp [SharedQueue.act?, had, Crew.release]

theorem IsManned.acts {crew after : Crew κ} {now : Nat} {action : CrewAction κ}
    (manned : crew.IsManned) (nodup : crew.shared.held.Nodup)
    (acts : crew.Acts ceiling now action after) : after.IsManned := by
  cases acts with
  | outside isOpen acted =>
    exact manned.congr (SharedQueue.custody_of_act? isOpen acted).1 fun _ => rfl
  | @take worker item queue asks took =>
    intro other key
    by_cases own : other = worker
    · subst own
      have unheld : (other, key) ∉ crew.shared.held := by
        rw [manned, asks]
        exact nofun
      simp [checkOut, unheld, Stage.key?, Stage.item?, eq_comm]
    · simp [checkOut, stages_assign_of_ne own, own, manned other key]
  | leave asks empty drained => exact manned.assign rfl rfl (by rw [asks]; rfl)
  | judge ended result duration => exact manned.assign rfl rfl (by rw [ended]; rfl)
  | forget decided final delay => exact manned.assign rfl rfl (by rw [decided]; rfl)
  | desist decided retried stopped delay => exact manned.assign rfl rfl (by rw [decided]; rfl)
  | count decided retried running found => exact manned.assign rfl rfl (by rw [decided]; rfl)
  | breakDown decided retried running missing => exact manned.assign rfl rfl (by rw [decided]; rfl)
  | postpone counted => exact manned.assign rfl rfl (by rw [counted]; rfl)
  | @release worker item verdict returns =>
    intro other key
    simp only [Crew.release, shared_assign, nodup.mem_erase_iff, manned other key]
    by_cases own : other = worker
    · subst own
      simp [returns, Stage.key?, Stage.item?, eq_comm]
    · simp [stages_assign_of_ne own, own]

/-- A worker that nobody interrupts reports a result as `Verdict.settle` does in one go. -/
theorem exists_reports {worker : Nat} {item : WorkItem κ} {result : Except ReconcileError Outcome}
    {duration : Duration} {delay : Nat → Except BackoffError Duration} {wait : Option Nat}
    {queue : WorkQueue κ} (ended : crew.stages worker = .reconciling item)
    (settled : (crew.verdict ceiling item result).settle delay now item.key crew.shared.queue =
      .ok (wait, queue)) :
    ∃ (actions : List (CrewAction κ)) (after : Crew κ),
      (∀ action ∈ actions, action.worker? = some worker) ∧
      actions.foldlM (act? ceiling now) crew = some after ∧
      after.shared.queue = queue.release item.key ∧ after.stages worker = .asking ∧
      after.shared.delayed =
        (if wait.isSome then item.key :: crew.shared.delayed else crew.shared.delayed) ∧
      after.metrics = (crew.verdict ceiling item result).record duration crew.metrics := by
  rw [Verdict.settle_eq] at settled
  by_cases postponed : (crew.verdict ceiling item result).isRetried = true ∧
      crew.shared.queue.isShutDown = false
  · obtain ⟨retried, running⟩ := postponed
    rw [if_pos retried, WorkQueue.retry_eq running] at settled
    cases found : delay (crew.shared.queue.attempts item.key) with
    | error error => simp [found, Except.map] at settled
    | ok pause =>
      simp only [found, Except.map, Except.ok.injEq] at settled
      refine ⟨[.judge worker result duration, .settle worker delay, .postpone worker,
        .release worker], ((((crew.judge ceiling worker item result duration).settle worker item
        (crew.verdict ceiling item result) delay).postpone now worker item
        (crew.verdict ceiling item result) pause).release worker item), ?_, ?_, ?_⟩
      · simp [CrewAction.worker?]
      · simp [act?, ended, settle, retried, running, found, judge, postpone]
      · simp [release, postpone, settle, retried, running, found, update, SharedQueue.plan,
          settled, judge]
  -- There is nothing to wait for: the key is forgotten, or the queue takes no more keys.
  · refine ⟨[.judge worker result duration, .settle worker delay, .release worker],
      (((crew.judge ceiling worker item result duration).settle worker item
        (crew.verdict ceiling item result) delay).release worker item), ?_, ?_, ?_⟩
    · simp [CrewAction.worker?]
    · cases retried : (crew.verdict ceiling item result).isRetried with
      | false => simp [act?, ended, settle, retried, judge]
      | true =>
        have stopped : crew.shared.queue.isShutDown = true := by simpa [retried] using postponed
        simp [act?, ended, settle, retried, stopped, judge]
    · cases retried : (crew.verdict ceiling item result).isRetried with
      | false =>
        rw [retried] at settled
        cases settled
        simp [release, settle, retried, judge, update]
      | true =>
        have stopped : crew.shared.queue.isShutDown = true := by simpa [retried] using postponed
        simp only [retried, if_true, WorkQueue.retry, stopped] at settled
        cases settled
        simp [release, settle, retried, stopped, judge]

variable [Std.LawfulEqOrd κ]

theorem run_shared (run : Run ceiling size history crew) :
    SharedQueue.Run (history.filterMap CrewOccasion.onQueue?) crew.shared ∧ crew.IsManned := by
  induction run with
  | start => exact ⟨.start, isManned_start size⟩
  | step run acted ih =>
    have acts := acts_of_act? acted
    have nodup := (SharedQueue.isKept_of_run ih.1).nodup.of_map
    refine ⟨?_, ih.2.acts nodup acts⟩
    rcases acts.operation ih.2 with ⟨idle, same⟩ | ⟨operation, found, used⟩
    · rw [List.filterMap_cons_none (by simp [CrewOccasion.onQueue?, idle]), same]
      exact ih.1
    · rw [List.filterMap_cons_some (by simp only [CrewOccasion.onQueue?, found]; rfl)]
      exact ih.1.step used

end Crew

end ServiceRecords
