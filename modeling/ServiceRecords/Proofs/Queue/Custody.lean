import Mathlib.Data.List.Nodup
import ServiceRecords.Proofs.Queue.Clients

set_option autoImplicit false

/-!
# Who has which key

However the operations of the clients follow each other, the queue is orderly, the keys that count
as checked out are those that clients have, and no two clients have the same one. A key is dirty
just when it has been added since it was last handed out (`mem_dirty_iff_of_run`). All of this
together is what a queue guarantees (`isGuarded_of_run`).
-/

namespace ServiceRecords

variable {κ : Type} [Ord κ] [Std.TransOrd κ]

/-- The key is added, and the queue takes it. -/
def QueueOccasion.Adds (occasion : QueueOccasion κ) (key : κ) : Prop :=
  occasion.added? = some key ∧ occasion.before.queue.isShutDown = false

/-- The key has been added since it was last handed out. -/
def IsAddedSince (key : κ) : List (QueueOccasion κ) → Prop
  | [] => False
  | occasion :: earlier =>
    occasion.Adds key ∨ occasion.takenKey? ≠ some key ∧ IsAddedSince key earlier

theorem isAddedSince_append {key : κ} {later earlier : List (QueueOccasion κ)}
    (untaken : ∀ occasion ∈ later, occasion.takenKey? ≠ some key) :
    IsAddedSince key (later ++ earlier) ↔
      (∃ occasion ∈ later, occasion.Adds key) ∨ IsAddedSince key earlier := by
  induction later with
  | nil => simp
  | cons latest later ih =>
    rw [List.forall_mem_cons] at untaken
    simp only [List.cons_append, IsAddedSince, ih untaken.2, List.exists_mem_cons_iff, untaken.1,
      ne_eq, not_false_eq_true, true_and, or_assoc]

namespace SharedQueue

structure IsGuarded (history : List (QueueOccasion κ)) (shared : SharedQueue κ) : Prop where
  nodup : shared.queue.waiting.Nodup
  mem_taken : ∀ key, key ∈ shared.queue.taken ↔ ∃ client, (client, key) ∈ shared.held
  not_taken_of_waiting : ∀ key ∈ shared.queue.waiting, key ∉ shared.queue.taken
  mem_dirty : ∀ key, key ∈ shared.queue.dirty ↔
    key ∈ shared.queue.waiting ∨ key ∈ shared.queue.taken ∧ IsAddedSince key history
  held_nodup : shared.held.Nodup
  apart : ∀ key client client', (client, key) ∈ shared.held → (client', key) ∈ shared.held →
    client = client'

/-- The keys that are checked out are those that clients have, each of them one client. -/
structure IsKept (shared : SharedQueue κ) : Prop where
  isOrderly : shared.queue.IsOrderly
  mem_taken : ∀ key, key ∈ shared.queue.taken ↔ key ∈ shared.held.map Prod.snd
  nodup : (shared.held.map Prod.snd).Nodup

variable {history : List (QueueOccasion κ)} {occasion : QueueOccasion κ}
  {shared after : SharedQueue κ}

theorem IsKept.apart (kept : shared.IsKept) {key : κ} {client client' : Nat}
    (had : (client, key) ∈ shared.held) (had' : (client', key) ∈ shared.held) :
    client = client' := by
  have same := List.inj_on_of_nodup_map kept.nodup had had' rfl
  exact congrArg Prod.fst same

variable [Std.LawfulEqOrd κ]

theorem IsKept.affects (kept : occasion.before.IsKept) (affects : occasion.Affects after) :
    after.IsKept := by
  cases affects with
  | adds failures _ _ _ queue held =>
    refine ⟨?_, ?_, ?_⟩
    · rw [queue]
      exact (kept.isOrderly.withFailures failures).add _ _
    · intro key
      rw [queue, held, WorkQueue.taken_add]
      exact kept.mem_taken key
    · rw [held]
      exact kept.nodup
  | @takes client item _ _ _ took held =>
    have takes := WorkQueue.takes_of_take? took
    -- A key that waits is not taken, so that nobody has this one yet.
    have fresh := takes.not_taken kept.isOrderly
    rw [kept.mem_taken] at fresh
    refine ⟨takes.isOrderly kept.isOrderly, ?_, ?_⟩
    · intro key
      rw [takes.mem_taken, kept.mem_taken, held, List.map_cons, List.mem_cons]
    · rw [held, List.map_cons, List.nodup_cons]
      exact ⟨fresh, kept.nodup⟩
  | @releases client key _ _ _ had queue held =>
    have keys : (occasion.before.held.map Prod.snd).Perm (key :: after.held.map Prod.snd) :=
      held.map Prod.snd
    have nodup := kept.nodup
    rw [keys.nodup_iff, List.nodup_cons] at nodup
    have taken : key ∈ occasion.before.queue.taken :=
      (kept.mem_taken key).mpr (List.mem_map_of_mem had)
    refine ⟨?_, ?_, nodup.2⟩
    · rw [queue]
      exact kept.isOrderly.release taken
    · intro other
      rw [queue, WorkQueue.mem_taken_release, kept.mem_taken, keys.mem_iff, List.mem_cons]
      -- No other client has the released key, so that taking it out of the keys leaves the others.
      constructor
      · rintro ⟨own | other_key, different⟩
        · exact absurd own different
        · exact other_key
      · intro remains
        refine ⟨.inr remains, ?_⟩
        rintro rfl
        exact nodup.1 remains
  | passes failures isShutDown _ _ _ queue _ held =>
    have orderly := kept.isOrderly
    refine ⟨?_, ?_, ?_⟩
    · rw [queue]
      exact ⟨orderly.nodup, orderly.dirty_of_waiting, orderly.not_taken_of_waiting,
        orderly.waiting_or_taken⟩
    · intro key
      rw [queue, held]
      exact kept.mem_taken key
    · rw [held]
      exact kept.nodup

/-- One operation makes a key dirty by adding it, and clean by handing it out. -/
theorem mem_dirty_of_affects (affects : occasion.Affects after) (key : κ) :
    key ∈ after.queue.dirty ↔
      occasion.Adds key ∨ occasion.takenKey? ≠ some key ∧ key ∈ occasion.before.queue.dirty := by
  unfold QueueOccasion.Adds QueueOccasion.takenKey?
  cases affects with
  | adds failures added untaken unreleased queue held =>
    rw [queue, WorkQueue.mem_dirty_add, added, untaken, or_comm, eq_comm]
    simp
  | takes unadded taken unreleased took held =>
    rw [(WorkQueue.takes_of_take? took).mem_dirty, unadded, taken, and_comm, ne_comm]
    simp
  | releases unadded untaken released had queue held =>
    rw [queue, WorkQueue.dirty_release, unadded, untaken]
    simp
  | passes failures isShutDown unadded untaken unreleased queue lasts held =>
    rw [queue, unadded, untaken]
    simp

variable [DecidableEq κ]

theorem isKept_of_run (run : Run history shared) : shared.IsKept := by
  induction run with
  | start => exact ⟨WorkQueue.isOrderly_empty, by simp [empty, WorkQueue.empty], List.nodup_nil⟩
  | step run acted kept => exact IsKept.affects kept (QueueOccasion.affects_of_act? acted)

theorem mem_dirty_iff_of_run (run : Run history shared) (key : κ) :
    key ∈ shared.queue.dirty ↔ IsAddedSince key history := by
  induction run with
  | start => simp [empty, WorkQueue.empty, IsAddedSince]
  | step run acted ih =>
    rw [mem_dirty_of_affects (QueueOccasion.affects_of_act? acted), ih]
    rfl

theorem isGuarded_of_run (run : Run history shared) : shared.IsGuarded history := by
  have kept := isKept_of_run run
  have orderly := kept.isOrderly
  refine ⟨orderly.nodup, ?_, orderly.not_taken_of_waiting, ?_, kept.nodup.of_map _, ?_⟩
  · intro key
    rw [kept.mem_taken]
    simp
  · intro key
    constructor
    · intro dirty
      rcases orderly.waiting_or_taken key dirty with waiting | taken
      · exact .inl waiting
      · exact .inr ⟨taken, (mem_dirty_iff_of_run run key).mp dirty⟩
    · rintro (waiting | ⟨-, added⟩)
      · exact orderly.dirty_of_waiting key waiting
      · exact (mem_dirty_iff_of_run run key).mpr added
  · intro key client client'
    exact kept.apart

/-- A key is added twice while a client has it; it waits for the next client once. -/
theorem isGuarded_of_run_readded :
    ∃ (history : List (QueueOccasion Nat)) (shared : SharedQueue Nat), Run history shared ∧
      shared.IsGuarded history ∧ shared.held = [(1, 8), (0, 7)] ∧ shared.queue.waiting = [] ∧
      7 ∈ shared.queue.dirty := by
  have replayed : ∃ outcome ∈ replay? [] (empty : SharedQueue Nat)
        [(0, .add 7), (1, .take 0), (2, .add 8), (3, .retry 7 fun _ => .ok ⟨5⟩), (4, .take 1),
          (5, .fire 7), (6, .add 7)],
      outcome.2.held = [(1, 8), (0, 7)] ∧ outcome.2.queue.waiting = [] ∧
        7 ∈ outcome.2.queue.dirty := by
    decide +kernel
  obtain ⟨history, shared, run, held, waiting, dirty⟩ := exists_run replayed
  exact ⟨history, shared, run, isGuarded_of_run run, held, waiting, dirty⟩

end SharedQueue

end ServiceRecords
