import ServiceRecords.Proofs.Queue.Orderly

set_option autoImplicit false

/-!
# A queue and its clients

Any number of clients add keys, take keys and release them. A key is released only by a client that
has taken it, and once; apart from that everybody may do anything at any time. `act?` says what an
operation does, `Run` is any sequence of operations with its history, and `Affects` is all that an
operation can do to the queue.
-/

namespace ServiceRecords

variable {κ : Type} [Ord κ] [Std.TransOrd κ]

namespace WorkQueue

/-- Counts a failure of the key. -/
def countFailure (queue : WorkQueue κ) (key : κ) : WorkQueue κ :=
  if queue.isShutDown then queue
  else { queue with failures := queue.failures.increment key }

@[simp]
theorem isShutDown_countFailure (queue : WorkQueue κ) (key : κ) :
    (queue.countFailure key).isShutDown = queue.isShutDown := by
  unfold countFailure
  split <;> rfl

@[simp]
theorem taken_countFailure (queue : WorkQueue κ) (key : κ) :
    (queue.countFailure key).taken = queue.taken := by
  unfold countFailure
  split <;> rfl

@[simp]
theorem dirty_countFailure (queue : WorkQueue κ) (key : κ) :
    (queue.countFailure key).dirty = queue.dirty := by
  unfold countFailure
  split <;> rfl

/-- A retry is a count that a delayed addition follows. -/
theorem retry_eq {queue : WorkQueue κ} {now : Nat} {delay : Nat → Except BackoffError Duration}
    {key : κ} (running : queue.isShutDown = false) :
    queue.retry now delay key =
      (delay (queue.attempts key)).map fun d => (queue.countFailure key).addAfter now d key := by
  simp [retry, countFailure, attempts, running]

end WorkQueue

/-- A queue in use. -/
structure SharedQueue (κ : Type) [Ord κ] where
  queue : WorkQueue κ
  /-- The keys that will be added after a delay -/
  delayed : List κ
  /-- The clients that have taken a key, each with the key -/
  held : List (Nat × κ)

inductive QueueOperation (κ : Type) where
  | add (key : κ)
  | take (client : Nat)
  | release (client : Nat) (key : κ)
  | retry (key : κ) (delay : Nat → Except BackoffError Duration)
  /-- A retry up to the point where others may come in between; an `addAfter` may follow. -/
  | countFailure (key : κ)
  | addAfter (key : κ) (delay : Duration)
  /-- The delay of a key has passed. -/
  | fire (key : κ)
  | forget (key : κ)
  | shutDown

/-- An operation, when it was carried out, and the queue before it. -/
structure QueueOccasion (κ : Type) [Ord κ] where
  before : SharedQueue κ
  now : Nat
  operation : QueueOperation κ

namespace SharedQueue

def empty : SharedQueue κ := ⟨.empty, [], []⟩

/-- A new state of the queue, with the addition of a key that it may plan. -/
def plan (shared : SharedQueue κ) (key : κ) (planned : Option Nat × WorkQueue κ) : SharedQueue κ :=
  { shared with
    queue := planned.2
    delayed := if planned.1.isSome then key :: shared.delayed else shared.delayed }

variable [DecidableEq κ]

/-- What an operation does, if it is one that may be carried out. Taking does nothing where no key
waits, and neither does a retry without a delay. -/
def act? (now : Nat) (shared : SharedQueue κ) : QueueOperation κ → Option (SharedQueue κ)
  | .add key => some { shared with queue := shared.queue.add now key }
  | .take client =>
    match shared.queue.take? now with
    | some (item, queue) => some { shared with queue, held := (client, item.key) :: shared.held }
    | none => some shared
  | .release client key =>
    if (client, key) ∈ shared.held then
      some { shared with
        queue := shared.queue.release key, held := shared.held.erase (client, key) }
    else none
  | .retry key delay =>
    match shared.queue.retry now delay key with
    | .ok planned => some (shared.plan key planned)
    | .error _ => some shared
  | .countFailure key => some { shared with queue := shared.queue.countFailure key }
  | .addAfter key delay => some (shared.plan key (shared.queue.addAfter now delay key))
  | .fire key =>
    if key ∈ shared.delayed then
      some { shared with
        queue := shared.queue.add now key, delayed := shared.delayed.erase key }
    else none
  | .forget key => some { shared with queue := shared.queue.forget key }
  | .shutDown => some { shared with queue := shared.queue.shutDown }

/-- The operations since the queue was empty, the latest first. -/
inductive Run : List (QueueOccasion κ) → SharedQueue κ → Prop where
  | start : Run [] empty
  | step {history : List (QueueOccasion κ)} {before after : SharedQueue κ} {now : Nat}
      {operation : QueueOperation κ} (run : Run history before)
      (acts : before.act? now operation = some after) :
      Run (⟨before, now, operation⟩ :: history) after

/-- Carries out the operations in order, each one at its time, after what has happened already. -/
def replay? (history : List (QueueOccasion κ)) (shared : SharedQueue κ) :
    List (Nat × QueueOperation κ) → Option (List (QueueOccasion κ) × SharedQueue κ)
  | [] => some (history, shared)
  | (now, operation) :: rest =>
    match shared.act? now operation with
    | none => none
    | some after => replay? (⟨shared, now, operation⟩ :: history) after rest

end SharedQueue

namespace QueueOccasion

/-- The key that is added, on its own account or because its delay has passed. -/
def added? (occasion : QueueOccasion κ) : Option κ :=
  match occasion.operation with
  | .add key => some key
  | .fire key => some key
  | .addAfter key delay => if delay.isZero then some key else none
  | .retry key delay =>
    if occasion.before.queue.isShutDown then none
    else
      match delay (occasion.before.queue.attempts key) with
      | .ok delay => if delay.isZero then some key else none
      | .error _ => none
  | _ => none

/-- What is handed out. -/
def taken? (occasion : QueueOccasion κ) : Option (WorkItem κ) :=
  match occasion.operation with
  | .take _ => (occasion.before.queue.take? occasion.now).map (·.1)
  | _ => none

def takenKey? (occasion : QueueOccasion κ) : Option κ := occasion.taken?.map (·.key)

def released? (occasion : QueueOccasion κ) : Option κ :=
  match occasion.operation with
  | .release _ key => some key
  | _ => none

/-- All that an operation can do to the queue and to those who have taken keys. -/
inductive Affects (occasion : QueueOccasion κ) (after : SharedQueue κ) : Prop where
  | adds {key : κ} (failures : Failures κ) (added : occasion.added? = some key)
      (untaken : occasion.taken? = none) (unreleased : occasion.released? = none)
      (queue : after.queue =
        WorkQueue.add { occasion.before.queue with failures } occasion.now key)
      (held : after.held = occasion.before.held)
  | takes {client : Nat} {item : WorkItem κ} (unadded : occasion.added? = none)
      (taken : occasion.taken? = some item) (unreleased : occasion.released? = none)
      (took : occasion.before.queue.take? occasion.now = some (item, after.queue))
      (held : after.held = (client, item.key) :: occasion.before.held)
  | releases {client : Nat} {key : κ} (unadded : occasion.added? = none)
      (untaken : occasion.taken? = none) (released : occasion.released? = some key)
      (had : (client, key) ∈ occasion.before.held)
      (queue : after.queue = occasion.before.queue.release key)
      (held : occasion.before.held.Perm ((client, key) :: after.held))
  | passes (failures : Failures κ) (isShutDown : Bool) (unadded : occasion.added? = none)
      (untaken : occasion.taken? = none) (unreleased : occasion.released? = none)
      (queue : after.queue = { occasion.before.queue with failures, isShutDown })
      (lasts : occasion.before.queue.isShutDown = true → isShutDown = true)
      (held : after.held = occasion.before.held)

variable {occasion : QueueOccasion κ} {before after : SharedQueue κ} {now : Nat}
  {operation : QueueOperation κ}

/-- An operation that leaves the queue and the clients alone passes. -/
theorem Affects.of_same (unadded : occasion.added? = none) (untaken : occasion.taken? = none)
    (unreleased : occasion.released? = none) (queue : after.queue = occasion.before.queue)
    (held : after.held = occasion.before.held) : occasion.Affects after :=
  .passes occasion.before.queue.failures occasion.before.queue.isShutDown unadded untaken unreleased
    queue id held

variable [DecidableEq κ]

theorem affects_of_act? (acted : before.act? now operation = some after) :
    Affects ⟨before, now, operation⟩ after := by
  cases operation with
  | add key =>
    cases acted
    exact .adds before.queue.failures rfl rfl rfl rfl rfl
  | forget key =>
    cases acted
    exact .passes _ _ rfl rfl rfl rfl id rfl
  | shutDown =>
    cases acted
    exact .passes _ _ rfl rfl rfl rfl (fun _ => rfl) rfl
  | countFailure key =>
    cases acted
    cases stopped : before.queue.isShutDown with
    | true => exact .of_same rfl rfl rfl (by simp [WorkQueue.countFailure, stopped]) rfl
    | false =>
      refine .passes (before.queue.failures.increment key) false rfl rfl rfl ?_ ?_ rfl
      · simp [WorkQueue.countFailure, stopped]
      · exact fun stopped' => absurd stopped' (by simp [stopped])
  | take client =>
    simp only [SharedQueue.act?] at acted
    split at acted
    · rename_i item queue took
      cases acted
      exact .takes rfl (by simp [taken?, took]) rfl took rfl
    · rename_i empty
      cases acted
      exact .of_same rfl (by simp [taken?, empty]) rfl rfl rfl
  | release client key =>
    simp only [SharedQueue.act?] at acted
    split at acted
    · rename_i had
      cases acted
      exact .releases rfl rfl rfl had rfl (List.perm_cons_erase had)
    · cases acted
  | fire key =>
    simp only [SharedQueue.act?] at acted
    split at acted
    · cases acted
      exact .adds before.queue.failures rfl rfl rfl rfl rfl
    · cases acted
  | addAfter key delay =>
    cases acted
    cases zero : delay.isZero with
    | true =>
      have added : added? ⟨before, now, .addAfter key delay⟩ = some key := by simp [added?, zero]
      refine .adds before.queue.failures added rfl rfl ?_ rfl
      simp [SharedQueue.plan, WorkQueue.addAfter, zero]
    | false =>
      refine .of_same ?_ rfl rfl ?_ rfl
      · simp [added?, zero]
      · simp [SharedQueue.plan, WorkQueue.addAfter, zero]
  | retry key delay =>
    simp only [SharedQueue.act?] at acted
    cases stopped : before.queue.isShutDown with
    | true =>
      simp only [WorkQueue.retry, stopped, if_true] at acted
      cases acted
      exact .of_same (by simp [added?, stopped]) rfl rfl rfl rfl
    | false =>
      -- The failure is counted wherever there is a delay; the key is added only after none.
      rw [WorkQueue.retry_eq stopped] at acted
      have counted : before.queue.countFailure key =
          { before.queue with failures := before.queue.failures.increment key } := by
        simp [WorkQueue.countFailure, stopped]
      cases found : delay (before.queue.attempts key) with
      | error error =>
        simp only [found, Except.map] at acted
        cases acted
        exact .of_same (by simp [added?, stopped, found]) rfl rfl rfl rfl
      | ok duration =>
        simp only [found, Except.map] at acted
        cases acted
        cases zero : duration.isZero with
        | true =>
          have added : added? ⟨before, now, .retry key delay⟩ = some key := by
            simp [added?, stopped, found, zero]
          refine .adds (before.queue.failures.increment key) added rfl rfl ?_ rfl
          simp [SharedQueue.plan, WorkQueue.addAfter, zero, counted]
        | false =>
          refine .passes (before.queue.failures.increment key) before.queue.isShutDown ?_ rfl rfl ?_
            id rfl
          · simp [added?, stopped, found, zero]
          · simp [SharedQueue.plan, WorkQueue.addAfter, zero, counted]

theorem isShutDown_of_act? (acted : before.act? now operation = some after)
    (other : operation ≠ .shutDown) : after.queue.isShutDown = before.queue.isShutDown := by
  cases operation with
  | shutDown => exact absurd rfl other
  | add key =>
    cases acted
    exact WorkQueue.isShutDown_add ..
  | forget key =>
    cases acted
    rfl
  | countFailure key =>
    cases acted
    exact WorkQueue.isShutDown_countFailure ..
  | addAfter key delay =>
    cases acted
    exact WorkQueue.isShutDown_addAfter ..
  | take client =>
    simp only [SharedQueue.act?] at acted
    split at acted
    · rename_i took
      cases acted
      exact (WorkQueue.takes_of_take? took).isShutDown
    · cases acted
      rfl
  | release client key =>
    simp only [SharedQueue.act?] at acted
    split at acted
    · cases acted
      exact WorkQueue.isShutDown_release ..
    · cases acted
  | fire key =>
    simp only [SharedQueue.act?] at acted
    split at acted
    · cases acted
      exact WorkQueue.isShutDown_add ..
    · cases acted
  | retry key delay =>
    simp only [SharedQueue.act?] at acted
    cases stopped : before.queue.isShutDown with
    | true =>
      simp only [WorkQueue.retry, stopped, if_true] at acted
      cases acted
      exact stopped
    | false =>
      rw [WorkQueue.retry_eq stopped] at acted
      cases found : delay (before.queue.attempts key) with
      | error error =>
        simp only [found, Except.map] at acted
        cases acted
        exact stopped
      | ok duration =>
        simp only [found, Except.map] at acted
        cases acted
        simp [SharedQueue.plan, stopped]

end QueueOccasion

namespace SharedQueue

variable [DecidableEq κ] {history later earlier : List (QueueOccasion κ)}
  {occasion : QueueOccasion κ} {shared : SharedQueue κ}

/-- What happened up to an occasion is a run, and so is what happened up to its end. -/
theorem Run.split (run : Run (later ++ occasion :: earlier) shared) :
    Run earlier occasion.before ∧
      ∃ after, occasion.Affects after ∧ Run (occasion :: earlier) after := by
  induction later generalizing shared with
  | nil =>
    cases run with
    | step run acted => exact ⟨run, _, QueueOccasion.affects_of_act? acted, run.step acted⟩
  | cons latest later ih =>
    cases run with
    | step run acted => exact ih run

theorem run_of_replay? {before after : SharedQueue κ} {history' : List (QueueOccasion κ)}
    {operations : List (Nat × QueueOperation κ)} (run : Run history before)
    (replayed : replay? history before operations = some (history', after)) :
    Run history' after := by
  induction operations generalizing history before with
  | nil =>
    cases replayed
    exact run
  | cons entry rest ih =>
    obtain ⟨now, operation⟩ := entry
    unfold replay? at replayed
    cases acted : before.act? now operation with
    | none => simp [acted] at replayed
    | some next =>
      rw [acted] at replayed
      exact ih (run.step acted) replayed

theorem exists_run {operations : List (Nat × QueueOperation κ)}
    {property : List (QueueOccasion κ) × SharedQueue κ → Prop}
    (replayed : ∃ outcome ∈ replay? [] empty operations, property outcome) :
    ∃ history shared, Run history shared ∧ property (history, shared) := by
  obtain ⟨⟨history, shared⟩, replayed, holds⟩ := replayed
  exact ⟨history, shared, run_of_replay? .start replayed, holds⟩

end SharedQueue

end ServiceRecords
