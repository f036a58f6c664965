import ServiceRecords.Proofs.Concurrent.Controller
import ServiceRecords.Proofs.Queue.Orderly

set_option autoImplicit false

/-!
# No key is at two workers

`IsExclusive`: the queue is orderly, the workers are at keys that are checked out, and no two of
them are at the same key. The lemmas below say of each thing that a part may do that it stays so.
-/

namespace ServiceRecords.Concurrent.Controller

structure IsExclusive (controller : Controller) : Prop where
  isOrderly : controller.queue.IsOrderly
  taken : ∀ worker task, controller.workers worker = some task → task.key ∈ controller.queue.taken
  apart : ∀ worker worker' task task', controller.workers worker = some task →
    controller.workers worker' = some task' → task.key = task'.key → worker = worker'

variable {now : Nat} {controller after : Controller} {worker : Nat} {task : Worker}

/-- A worker that has a task after a change of one task has had a task with the same key. -/
theorem exists_of_assign {other : Nat} {previous found : Worker} (task : Worker)
    (had : controller.workers worker = some previous) (same : task.key = previous.key)
    (assigned : (controller.assign worker (some task)).workers other = some found) :
    ∃ earlier, controller.workers other = some earlier ∧ earlier.key = found.key := by
  by_cases own : other = worker
  · subst own
    simp only [assign, Function.update_self, Option.some.injEq] at assigned
    exact ⟨previous, had, by rw [← assigned, same]⟩
  · simp only [assign, Function.update_of_ne own] at assigned
    exact ⟨found, assigned, rfl⟩

theorem exists_of_dismiss {other : Nat} {found : Worker}
    (assigned : (controller.assign worker none).workers other = some found) :
    other ≠ worker ∧ controller.workers other = some found := by
  by_cases own : other = worker
  · subst own
    simp [assign] at assigned
  · simp only [assign, Function.update_of_ne own] at assigned
    exact ⟨own, assigned⟩

namespace IsExclusive

/-- Every worker has its key from before, and the queue has kept the keys that are checked out. -/
theorem transfer (exclusive : controller.IsExclusive) (isOrderly : after.queue.IsOrderly)
    (taken : ∀ key ∈ controller.queue.taken, key ∈ after.queue.taken)
    (workers : ∀ worker task, after.workers worker = some task →
      ∃ earlier, controller.workers worker = some earlier ∧ earlier.key = task.key) :
    after.IsExclusive := by
  refine ⟨isOrderly, ?_, ?_⟩
  · intro worker task found
    obtain ⟨earlier, had, same⟩ := workers worker task found
    rw [← same]
    exact taken _ (exclusive.taken worker earlier had)
  · intro worker worker' task task' found found' same
    obtain ⟨earlier, had, earlier_same⟩ := workers worker task found
    obtain ⟨earlier', had', earlier_same'⟩ := workers worker' task' found'
    exact exclusive.apart worker worker' earlier earlier' had had'
      (earlier_same.trans (same.trans earlier_same'.symm))

theorem congr (exclusive : controller.IsExclusive) (queue : after.queue = controller.queue)
    (workers : after.workers = controller.workers) : after.IsExclusive := by
  refine exclusive.transfer (queue ▸ exclusive.isOrderly) (by simp [queue]) ?_
  intro worker task found
  exact ⟨task, workers ▸ found, rfl⟩

theorem enqueue (exclusive : controller.IsExclusive) (now : Nat) (key : Key) :
    (controller.enqueue now key).IsExclusive :=
  exclusive.transfer (exclusive.isOrderly.add now key) (by simp [Controller.enqueue])
    fun _ task found => ⟨task, found, rfl⟩

theorem answer (exclusive : controller.IsExclusive) (now : Nat) (response : Response)
    (r : Request) :
    (answer now response r controller).2.IsExclusive := by
  refine exclusive.transfer ?_ ?_ ?_
  · rcases queue_answer now response r controller with same | ⟨key, -, added⟩
    · rw [same]
      exact exclusive.isOrderly
    · rw [added]
      exact exclusive.isOrderly.add now key
  · intro key taken
    rcases queue_answer now response r controller with same | ⟨other, -, added⟩
    · rwa [same]
    · rwa [added, WorkQueue.taken_add]
  · intro worker task found
    rw [workers_answer] at found
    exact ⟨task, found, rfl⟩

/-- A worker goes on with its key. -/
theorem assign (exclusive : controller.IsExclusive) {previous : Worker}
    (had : controller.workers worker = some previous) (same : task.key = previous.key) :
    (controller.assign worker (some task)).IsExclusive :=
  exclusive.transfer exclusive.isOrderly (fun _ taken => taken)
    fun _ _ found => exists_of_assign task had same found

theorem dismiss (exclusive : controller.IsExclusive) (worker : Nat) :
    (controller.assign worker none).IsExclusive :=
  exclusive.transfer exclusive.isOrderly (fun _ taken => taken)
    fun _ task found => ⟨task, (exists_of_dismiss found).2, rfl⟩

/-- The key that is taken is at no worker yet. -/
theorem take (exclusive : controller.IsExclusive) {queue : WorkQueue Key}
    (takes : controller.queue.Takes task.key queue) (worker : Nat) :
    ({ controller with queue }.assign worker (some task)).IsExclusive := by
  have fresh : ∀ other earlier, controller.workers other = some earlier →
      earlier.key ≠ task.key := by
    intro other earlier had same
    exact takes.not_taken exclusive.isOrderly (same ▸ exclusive.taken other earlier had)
  refine ⟨takes.isOrderly exclusive.isOrderly, ?_, ?_⟩
  · intro other found assigned
    by_cases own : other = worker
    · subst own
      simp only [Controller.assign, Function.update_self, Option.some.injEq] at assigned
      exact takes.mem_taken.mpr (.inl (by rw [assigned]))
    · simp only [Controller.assign, Function.update_of_ne own] at assigned
      exact takes.mem_taken.mpr (.inr (exclusive.taken other found assigned))
  -- Two workers at one key: neither of them can have taken it just now if the other had it before.
  · intro other other' found found' assigned assigned' same
    by_cases own : other = worker
    · by_cases own' : other' = worker
      · rw [own, own']
      · subst own
        simp only [Controller.assign, Function.update_self, Option.some.injEq] at assigned
        simp only [Controller.assign, Function.update_of_ne own'] at assigned'
        exact absurd (same.symm.trans (by rw [assigned])) (fresh other' found' assigned')
    · simp only [Controller.assign, Function.update_of_ne own] at assigned
      by_cases own' : other' = worker
      · subst own'
        simp only [Controller.assign, Function.update_self, Option.some.injEq] at assigned'
        exact absurd (same.trans (by rw [assigned'])) (fresh other found assigned)
      · simp only [Controller.assign, Function.update_of_ne own'] at assigned'
        exact exclusive.apart other other' found found' assigned assigned' same

theorem release (exclusive : controller.IsExclusive)
    (had : controller.workers worker = some task) :
    ({ controller with queue := controller.queue.release task.key }.assign worker none).IsExclusive
    := by
  have kept : ∀ other found, ({ controller with queue := controller.queue.release task.key }.assign
      worker none).workers other = some found →
      other ≠ worker ∧ controller.workers other = some found :=
    fun other found assigned => exists_of_dismiss assigned
  refine ⟨exclusive.isOrderly.release (exclusive.taken worker task had), ?_, ?_⟩
  · intro other found assigned
    obtain ⟨different, found_before⟩ := kept other found assigned
    refine WorkQueue.mem_taken_release.mpr ⟨exclusive.taken other found found_before, ?_⟩
    intro same
    exact different (exclusive.apart other worker found task found_before had same)
  · intro other other' found found' assigned assigned' same
    exact exclusive.apart other other' found found' (kept other found assigned).2
      (kept other' found' assigned').2 same

theorem settle (exclusive : controller.IsExclusive) {key : Key} {verdict : Verdict}
    (had : controller.workers worker = some ⟨key, .settling verdict⟩)
    (delay : Nat → Except BackoffError Duration) :
    (controller.settle now worker key verdict delay).IsExclusive := by
  unfold Controller.settle
  split
  · rename_i settled
    refine exclusive.transfer ?_ ?_ fun other found assigned =>
      exists_of_assign ⟨key, .leaving⟩ had rfl assigned
    · obtain ⟨failures, rfl | rfl⟩ := WorkQueue.exists_of_settle settled
      · exact exclusive.isOrderly.withFailures failures
      · exact (exclusive.isOrderly.withFailures failures).add now key
    · obtain ⟨failures, rfl | rfl⟩ := WorkQueue.exists_of_settle settled <;> simp
  · exact exclusive.dismiss worker

end IsExclusive

end ServiceRecords.Concurrent.Controller
