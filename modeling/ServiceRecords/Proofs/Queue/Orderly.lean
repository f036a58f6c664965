import Mathlib.Tactic.Common
import ServiceRecords.Worker.Verdict

set_option autoImplicit false

/-!
# Orderly queues

In an orderly queue a key waits at most once, and it waits only while it is dirty and not checked
out; every dirty key waits or is checked out. All operations of a queue keep it orderly, and each
of them is described by what it does to the keys that are dirty and those that are taken.
-/

namespace ServiceRecords.WorkQueue

variable {κ : Type} [Ord κ] [Std.TransOrd κ]

structure IsOrderly (queue : WorkQueue κ) : Prop where
  nodup : queue.waiting.Nodup
  dirty_of_waiting : ∀ key ∈ queue.waiting, key ∈ queue.dirty
  not_taken_of_waiting : ∀ key ∈ queue.waiting, key ∉ queue.taken
  waiting_or_taken : ∀ key ∈ queue.dirty, key ∈ queue.waiting ∨ key ∈ queue.taken

variable {queue after : WorkQueue κ} {now : Nat} {key other : κ} {item : WorkItem κ}

theorem isOrderly_empty : (empty : WorkQueue κ).IsOrderly :=
  ⟨List.nodup_nil, nofun, nofun, fun _ dirty => absurd dirty Std.ExtTreeMap.not_mem_empty⟩

@[simp]
theorem taken_add (queue : WorkQueue κ) (now : Nat) (key : κ) :
    (queue.add now key).taken = queue.taken := by
  unfold add
  split
  · rfl
  · split <;> rfl

@[simp]
theorem isShutDown_add (queue : WorkQueue κ) (now : Nat) (key : κ) :
    (queue.add now key).isShutDown = queue.isShutDown := by
  unfold add
  split
  · rfl
  · split <;> rfl

@[simp]
theorem isShutDown_addAfter (queue : WorkQueue κ) (now : Nat) (delay : Duration) (key : κ) :
    (queue.addAfter now delay key).2.isShutDown = queue.isShutDown := by
  unfold addAfter
  split
  · exact isShutDown_add ..
  · rfl

@[simp]
theorem taken_addAfter (queue : WorkQueue κ) (now : Nat) (delay : Duration) (key : κ) :
    (queue.addAfter now delay key).2.taken = queue.taken := by
  unfold addAfter
  split
  · exact taken_add ..
  · rfl

@[simp]
theorem dirty_release (queue : WorkQueue κ) (key : κ) :
    (queue.release key).dirty = queue.dirty := by
  unfold release
  split <;> rfl

@[simp]
theorem isShutDown_release (queue : WorkQueue κ) (key : κ) :
    (queue.release key).isShutDown = queue.isShutDown := by
  unfold release
  split <;> rfl

/-- Checking out takes a waiting key out of the dirty ones. -/
structure Takes (queue : WorkQueue κ) (key : κ) (after : WorkQueue κ) : Prop where
  waiting : queue.waiting = key :: after.waiting
  dirty : after.dirty = queue.dirty.erase key
  taken : after.taken = queue.taken.insert key
  isShutDown : after.isShutDown = queue.isShutDown

theorem takes_of_take? (took : queue.take? now = some (item, after)) :
    Takes queue item.key after := by
  unfold take? at took
  split at took
  · cases took
  · rename_i shape
    cases took
    exact ⟨shape, rfl, rfl, rfl⟩

theorem Takes.not_taken (takes : Takes queue key after) (orderly : queue.IsOrderly) :
    key ∉ queue.taken :=
  orderly.not_taken_of_waiting key (by simp [takes.waiting])

theorem IsOrderly.withFailures (orderly : queue.IsOrderly) (failures : Failures κ) :
    { queue with failures }.IsOrderly :=
  ⟨orderly.nodup, orderly.dirty_of_waiting, orderly.not_taken_of_waiting, orderly.waiting_or_taken⟩

/-- A verdict changes the count of failures and may add its key. -/
theorem exists_of_settle {verdict : Verdict} {delay : Nat → Except BackoffError Duration}
    {wait : Option Nat} (settled : verdict.settle delay now key queue = .ok (wait, after)) :
    ∃ failures, after = { queue with failures } ∨
      after = WorkQueue.add { queue with failures } now key := by
  unfold Verdict.settle retry addAfter at settled
  split at settled
  · split at settled
    · cases settled
      exact ⟨_, .inl rfl⟩
    · cases found : delay (queue.failures.count key) with
      | error error => simp [found, Except.map] at settled
      | ok duration =>
        rw [found] at settled
        simp only [Except.map, Except.ok.injEq] at settled
        split at settled
        · cases settled
          exact ⟨_, .inr rfl⟩
        · cases settled
          exact ⟨_, .inl rfl⟩
  · cases settled
    exact ⟨_, .inl rfl⟩

variable [Std.LawfulEqOrd κ]

/-- An added key is dirty, unless the queue was shut down. -/
theorem mem_dirty_add :
    other ∈ (queue.add now key).dirty ↔
      other ∈ queue.dirty ∨ other = key ∧ queue.isShutDown = false := by
  unfold add
  split
  · rename_i ignored
    rw [Bool.or_eq_true, Std.ExtTreeMap.contains_iff_mem] at ignored
    constructor
    · exact .inl
    · rintro (dirty | ⟨rfl, running⟩)
      · exact dirty
      · simpa [running] using ignored
  · rename_i accepted
    rw [Bool.or_eq_true, not_or, Bool.not_eq_true] at accepted
    have inserted : other ∈ queue.dirty.insert key now ↔
        other ∈ queue.dirty ∨ other = key ∧ queue.isShutDown = false := by
      rw [Std.ExtTreeMap.mem_insert, Std.LawfulEqCmp.compare_eq_iff_eq]
      simp only [accepted.1, and_true]
      constructor
      · rintro (rfl | dirty)
        · exact .inr rfl
        · exact .inl dirty
      · rintro (dirty | rfl)
        · exact .inr dirty
        · exact .inl rfl
    split
    · exact inserted
    · exact inserted

/-- One after the other, all the keys are added to a queue that has not been shut down. -/
theorem mem_dirty_foldl_add (running : queue.isShutDown = false) (keys : List κ) :
    other ∈ (keys.foldl (·.add now ·) queue).dirty ↔ other ∈ queue.dirty ∨ other ∈ keys := by
  induction keys generalizing queue with
  | nil => simp
  | cons first rest ih =>
    rw [List.foldl_cons, ih (by rwa [isShutDown_add]), mem_dirty_add, List.mem_cons]
    simp [running, or_assoc]

theorem IsOrderly.add (orderly : queue.IsOrderly) (now : Nat) (key : κ) :
    (queue.add now key).IsOrderly := by
  unfold WorkQueue.add
  split
  · exact orderly
  · rename_i accepted
    rw [Bool.or_eq_true, not_or, Std.ExtTreeMap.contains_iff_mem] at accepted
    split
    · rename_i taken
      rw [Std.ExtTreeSet.contains_iff_mem] at taken
      refine ⟨orderly.nodup, ?_, orderly.not_taken_of_waiting, ?_⟩
      · intro other waiting
        exact Std.ExtTreeMap.mem_insert.mpr (.inr (orderly.dirty_of_waiting other waiting))
      · intro other dirty
        rcases Std.ExtTreeMap.mem_insert.mp dirty with same | dirty
        · rw [Std.LawfulEqCmp.compare_eq_iff_eq] at same
          exact .inr (same ▸ taken)
        · exact orderly.waiting_or_taken other dirty
    · rename_i free
      rw [Std.ExtTreeSet.contains_iff_mem] at free
      refine ⟨?_, ?_, ?_, ?_⟩
      · refine List.nodup_append.mpr ⟨orderly.nodup, by simp, ?_⟩
        rintro other waiting _ (- | ⟨-, ⟨⟩⟩) rfl
        exact accepted.2 (orderly.dirty_of_waiting other waiting)
      · intro other waiting
        rcases List.mem_append.mp waiting with waiting | waiting
        · exact Std.ExtTreeMap.mem_insert.mpr (.inr (orderly.dirty_of_waiting other waiting))
        · rw [List.mem_singleton.mp waiting]
          exact Std.ExtTreeMap.mem_insert_self
      · intro other waiting
        rcases List.mem_append.mp waiting with waiting | waiting
        · exact orderly.not_taken_of_waiting other waiting
        · rwa [List.mem_singleton.mp waiting]
      · intro other dirty
        rcases Std.ExtTreeMap.mem_insert.mp dirty with same | dirty
        · rw [Std.LawfulEqCmp.compare_eq_iff_eq] at same
          exact .inl (by simp [same])
        · exact (orderly.waiting_or_taken other dirty).imp_left (List.mem_append_left _)

theorem Takes.mem_dirty (takes : Takes queue key after) :
    other ∈ after.dirty ↔ other ∈ queue.dirty ∧ other ≠ key := by
  rw [takes.dirty, Std.ExtTreeMap.mem_erase, ne_eq, Std.LawfulEqCmp.compare_eq_iff_eq, and_comm,
    eq_comm]

theorem Takes.mem_taken (takes : Takes queue key after) :
    other ∈ after.taken ↔ other = key ∨ other ∈ queue.taken := by
  rw [takes.taken, Std.ExtTreeSet.mem_insert, Std.LawfulEqCmp.compare_eq_iff_eq, eq_comm]

theorem Takes.isOrderly (takes : Takes queue key after) (orderly : queue.IsOrderly) :
    after.IsOrderly := by
  have nodup := orderly.nodup
  rw [takes.waiting, List.nodup_cons] at nodup
  have waits : ∀ other ∈ after.waiting, other ∈ queue.waiting ∧ other ≠ key := by
    intro other waiting
    refine ⟨by simp [takes.waiting, waiting], ?_⟩
    rintro rfl
    exact nodup.1 waiting
  refine ⟨nodup.2, ?_, ?_, ?_⟩
  · intro other waiting
    exact takes.mem_dirty.mpr ⟨orderly.dirty_of_waiting other (waits other waiting).1,
      (waits other waiting).2⟩
  · intro other waiting taken
    rcases takes.mem_taken.mp taken with rfl | taken
    · exact (waits other waiting).2 rfl
    · exact orderly.not_taken_of_waiting other (waits other waiting).1 taken
  · intro other dirty
    obtain ⟨dirty, different⟩ := takes.mem_dirty.mp dirty
    rcases orderly.waiting_or_taken other dirty with waiting | taken
    · rw [takes.waiting, List.mem_cons] at waiting
      exact .inl (waiting.resolve_left different)
    · exact .inr (takes.mem_taken.mpr (.inr taken))

theorem mem_taken_release :
    other ∈ (queue.release key).taken ↔ other ∈ queue.taken ∧ other ≠ key := by
  have erased : other ∈ queue.taken.erase key ↔ other ∈ queue.taken ∧ other ≠ key := by
    rw [Std.ExtTreeSet.mem_erase, ne_eq, Std.LawfulEqCmp.compare_eq_iff_eq, and_comm, eq_comm]
  unfold release
  split
  · exact erased
  · exact erased

theorem IsOrderly.release (orderly : queue.IsOrderly) (taken : key ∈ queue.taken) :
    (queue.release key).IsOrderly := by
  have fresh : key ∉ queue.waiting := fun waiting =>
    orderly.not_taken_of_waiting key waiting taken
  have waits : ∀ other, other ∈ (queue.release key).waiting ↔
      other ∈ queue.waiting ∨ other = key ∧ key ∈ queue.dirty := by
    intro other
    unfold WorkQueue.release
    split
    · rename_i dirty
      rw [Std.ExtTreeMap.contains_iff_mem] at dirty
      simp [dirty]
    · rename_i clean
      rw [Std.ExtTreeMap.contains_iff_mem] at clean
      simp [clean]
  refine ⟨?_, ?_, ?_, ?_⟩
  · unfold WorkQueue.release
    split
    · refine List.nodup_append.mpr ⟨orderly.nodup, by simp, ?_⟩
      rintro other waiting _ (- | ⟨-, ⟨⟩⟩) rfl
      exact fresh waiting
    · exact orderly.nodup
  · intro other waiting
    rw [dirty_release]
    rcases (waits other).mp waiting with waiting | ⟨rfl, dirty⟩
    · exact orderly.dirty_of_waiting other waiting
    · exact dirty
  · intro other waiting taken
    obtain ⟨taken, different⟩ := mem_taken_release.mp taken
    rcases (waits other).mp waiting with waiting | ⟨same, -⟩
    · exact orderly.not_taken_of_waiting other waiting taken
    · exact different same
  · intro other dirty
    rw [dirty_release] at dirty
    by_cases same : other = key
    · exact .inl ((waits other).mpr (.inr ⟨same, same ▸ dirty⟩))
    · exact (orderly.waiting_or_taken other dirty).imp
        (fun waiting => (waits other).mpr (.inl waiting))
        fun taken => mem_taken_release.mpr ⟨taken, same⟩

end ServiceRecords.WorkQueue
