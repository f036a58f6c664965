import ServiceRecords.Proofs.Worker.Endings

set_option autoImplicit false

/-!
# Shutting down

When all the workers of a crew have left, they have left nothing behind: no key waits, is dirty or
is checked out, and each addition that the queue took has been seen to (`hasDrained_of_run`). A
worker may leave while another one still returns a dirty key, but then that one takes it.
-/

namespace ServiceRecords

namespace SharedQueue

variable {κ : Type} [Ord κ] [Std.TransOrd κ] [DecidableEq κ] {before after : SharedQueue κ}
  {now : Nat} {operation : QueueOperation κ}

/-- Once a queue was shut down, nobody can make a key wait but one who returns it. -/
theorem waiting_of_act? (isOpen : operation.isOpen = true)
    (stopped : before.queue.isShutDown = true) (acted : before.act? now operation = some after) :
    after.queue.isShutDown = true ∧ after.queue.waiting = before.queue.waiting := by
  cases QueueOccasion.affects_of_act? acted with
  | adds failures added untaken unreleased queue held =>
    rw [queue, WorkQueue.isShutDown_add, WorkQueue.waiting_add]
    simp [stopped]
  | passes failures isShutDown unadded untaken unreleased queue lasts held =>
    rw [queue]
    exact ⟨lasts stopped, rfl⟩
  | takes unadded taken unreleased took held =>
    cases operation with
    | take client => cases isOpen
    | _ => cases taken
  | releases unadded untaken released had queue held =>
    cases operation with
    | release client key => cases isOpen
    | _ => cases released

end SharedQueue

namespace CrewOccasion

variable {κ : Type} [Ord κ] [Std.TransOrd κ]

/-- The key is added, and the queue takes it. -/
def Adds (occasion : CrewOccasion κ) (key : κ) : Prop :=
  ∃ onQueue, occasion.onQueue? = some onQueue ∧ onQueue.Adds key

theorem Adds.action_ne_release {occasion : CrewOccasion κ} {key : κ} (adds : occasion.Adds key)
    (worker : Nat) : occasion.action ≠ .release worker := by
  intro releases
  obtain ⟨onQueue, found, added, -⟩ := adds
  obtain ⟨operation, used, rfl⟩ := Option.map_eq_some_iff.mp found
  simp only [operation?, releases] at used
  split at used
  · cases used
    cases added
  · cases used

end CrewOccasion

namespace Crew

variable {κ : Type} [Ord κ] {history : List (CrewOccasion κ)}

/-- The earliest occasion of some kind, if there has been one. -/
theorem exists_earliest {kind : CrewOccasion κ → Prop}
    (found : ∃ occasion ∈ history, kind occasion) :
    ∃ later occasion earlier, history = later ++ occasion :: earlier ∧ kind occasion ∧
      ∀ other ∈ earlier, ¬kind other := by
  induction history with
  | nil => simp at found
  | cons latest history ih =>
    by_cases before : ∃ occasion ∈ history, kind occasion
    · obtain ⟨later, occasion, earlier, rfl, is_kind, first⟩ := ih before
      exact ⟨latest :: later, occasion, earlier, rfl, is_kind, first⟩
    · refine ⟨[], latest, history, rfl, ?_, ?_⟩
      · rw [List.exists_mem_cons_iff] at found
        exact found.resolve_right before
      · intro other mem is_kind
        exact before ⟨other, mem, is_kind⟩

variable [Std.TransOrd κ] {ceiling : RetryCeiling} {size now worker : Nat} {crew after : Crew κ}
  {action : CrewAction κ} {item : WorkItem κ} {later between earlier : List (CrewOccasion κ)}
  {taking occasion : CrewOccasion κ} {key : κ}

/-- The worker has come to a result for the item. -/
def HasJudged (worker : Nat) (item : WorkItem κ) (history : List (CrewOccasion κ)) : Prop :=
  ∃ judging ∈ history, judging.action.worker? = some worker ∧
    ∃ result failures, judging.judged? = some (item, result, failures)

theorem HasJudged.cons (judged : HasJudged worker item history) (latest : CrewOccasion κ) :
    HasJudged worker item (latest :: history) := by
  obtain ⟨judging, mem, facts⟩ := judged
  exact ⟨judging, List.mem_cons_of_mem _ mem, facts⟩

variable [DecidableEq κ]

theorem left_of_run (run : Run ceiling size history crew) (unstaffed : size ≤ worker) :
    crew.stages worker = .left := by
  induction run with
  | start =>
    simp only [start]
    exact if_neg (Nat.not_lt.mpr unstaffed)
  | @step history before after now action run acted ih =>
    have acts := acts_of_act? acted
    by_cases acting : action.worker? = some worker
    · cases acts with
      | outside => cases acting
      | take at_ | leave at_ | judge at_ | forget at_ | desist at_ | count at_ | breakDown at_
      | postpone at_ | release at_ =>
        cases acting
        rw [ih] at at_
        cases at_
    · rw [acts.stages_of_ne acting]
      exact ih

/-- The last worker to leave has seen that there was nothing left to do. -/
theorem isDrained_of_run (staffed : 0 < size) (run : Run ceiling size history crew)
    (gone : ∀ worker, crew.stages worker = .left) :
    crew.shared.queue.isShutDown = true ∧ crew.shared.queue.waiting = [] := by
  induction run with
  | start =>
    have asks := gone 0
    simp only [start, if_pos staffed] at asks
    cases asks
  | @step history before after now action run acted ih =>
    cases acts_of_act? acted with
    | outside isOpen used =>
      obtain ⟨stopped, empty⟩ := ih gone
      obtain ⟨stopped, waiting⟩ := SharedQueue.waiting_of_act? isOpen stopped used
      exact ⟨stopped, waiting.trans empty⟩
    | leave asks empty drained =>
      simpa [WorkQueue.isDrained] using drained
    | @take worker | @judge worker | @forget worker | @desist worker | @count worker
    | @breakDown worker | @postpone worker | @release worker =>
      have left := gone worker
      simp [checkOut, judge, postpone, release] at left

theorem Run.acts_of_mem (run : Run ceiling size history crew) (mem : occasion ∈ history) :
    ∃ after, occasion.before.Acts ceiling occasion.now occasion.action after := by
  obtain ⟨later, earlier, rfl⟩ := List.append_of_mem mem
  obtain ⟨-, after, acts, -⟩ := run.split
  exact ⟨after, acts⟩

theorem Acts.takenKey? (acts : crew.Acts ceiling now action after) {onQueue : QueueOccasion κ}
    (found : CrewOccasion.onQueue? ⟨crew, now, action⟩ = some onQueue) :
    onQueue.takenKey? = CrewOccasion.begunKey? ⟨crew, now, action⟩ := by
  obtain ⟨operation, used, rfl⟩ := Option.map_eq_some_iff.mp found
  unfold CrewOccasion.operation? at used
  cases acts with
  | @outside operation shared isOpen =>
    cases used
    cases operation with
    | take client => cases isOpen
    | _ => rfl
  | take asks took =>
    cases used
    simp [QueueOccasion.takenKey?, QueueOccasion.taken?, CrewOccasion.begunKey?,
      CrewOccasion.begun?, took]
  | leave asks empty =>
    cases used
    simp [QueueOccasion.takenKey?, QueueOccasion.taken?, CrewOccasion.begunKey?,
      CrewOccasion.begun?, empty]
  | judge => cases used
  | forget decided final =>
    simp only [decided, final] at used
    cases used
    rfl
  | desist decided retried | count decided retried | breakDown decided retried =>
    simp only [decided, retried, if_true] at used
    split at used
    · cases used
      rfl
    · cases used
  | postpone at_ | release at_ =>
    simp only [at_] at used
    cases used
    rfl

/-- Until a worker returns a key, it is at it, and once it has gone on it has a result. -/
theorem attends_of_run (run : Run ceiling size (between ++ taking :: earlier) crew)
    (begun : taking.begun? = some (worker, item))
    (unreleased : ∀ occasion ∈ between, occasion.action ≠ .release worker) :
    (crew.stages worker).item? = some item ∧
      (crew.stages worker = .reconciling item ∨ HasJudged worker item between) := by
  induction between generalizing crew with
  | nil =>
    cases run with
    | @step _ before _ now action run acted =>
      unfold CrewOccasion.begun? at begun
      cases acts_of_act? acted with
      | take asks took =>
        simp only [took, Option.map_some, Option.some.injEq, Prod.mk.injEq] at begun
        obtain ⟨rfl, rfl⟩ := begun
        simp [checkOut, Stage.item?]
      | leave asks empty => simp [empty] at begun
      | _ => cases begun
  | cons latest between ih =>
    rw [List.forall_mem_cons] at unreleased
    cases run with
    | @step _ before _ now action run acted =>
      have acts := acts_of_act? acted
      obtain ⟨has, judged⟩ := ih run unreleased.2
      by_cases acting : action.worker? = some worker
      · cases acts with
        | outside => cases acting
        | take at_ | leave at_ =>
          cases acting
          rw [at_] at has
          cases has
        | @judge _ current ended result duration =>
          cases acting
          rw [ended] at has
          cases has
          have judged : CrewOccasion.judged? ⟨before, now, .judge worker result duration⟩ =
              some (item, result, before.shared.queue.attempts item.key) := by
            simp only [CrewOccasion.judged?, ended, Stage.item?, Option.map_some]
          exact ⟨by simp [judge, Stage.item?], .inr ⟨_, List.mem_cons_self, rfl, _, _, judged⟩⟩
        | forget at_ | desist at_ | count at_ | breakDown at_ | postpone at_ =>
          cases acting
          rw [at_] at has judged
          refine ⟨by simpa [postpone, Stage.item?] using has, .inr ?_⟩
          exact (judged.resolve_left (by simp)).cons _
        | release =>
          cases acting
          exact absurd rfl unreleased.1
      · rw [acts.stages_of_ne acting]
        exact ⟨has, judged.imp_right fun judged => judged.cons _⟩

/-- A worker who is no longer at an item that it took has returned it, with a result. -/
theorem exists_release (run : Run ceiling size (later ++ taking :: earlier) crew)
    (begun : taking.begun? = some (worker, item))
    (gone : (crew.stages worker).item? ≠ some item) :
    ∃ last releasing between, later = last ++ releasing :: between ∧
      releasing.action = .release worker ∧
      (∀ occasion ∈ between, occasion.action ≠ .release worker) ∧
      HasJudged worker item between := by
  have released : ∃ occasion ∈ later, occasion.action = .release worker := by
    by_contra unreleased
    push Not at unreleased
    exact gone (attends_of_run run begun unreleased).1
  obtain ⟨last, releasing, between, rfl, releases, first⟩ := exists_earliest released
  rw [List.append_assoc, List.cons_append] at run
  obtain ⟨before, after, acts, -⟩ := run.split
  obtain ⟨-, judged⟩ := attends_of_run before begun first
  refine ⟨last, releasing, between, rfl, releases, first, judged.resolve_left ?_⟩
  rw [releases] at acts
  cases acts with
  | release returns =>
    rw [returns]
    exact nofun

/-- A worker took the key, came to a result and returned the key. -/
def IsSeenTo (key : κ) (history : List (CrewOccasion κ)) : Prop :=
  ∃ last releasing between taking earlier worker item,
    history = last ++ releasing :: (between ++ taking :: earlier) ∧
    taking.begun? = some (worker, item) ∧ item.key = key ∧ HasJudged worker item between ∧
    releasing.action = .release worker ∧ ∀ occasion ∈ between, occasion.action ≠ .release worker

theorem isSeenTo_of_begun (run : Run ceiling size (later ++ taking :: earlier) crew)
    (begun : taking.begunKey? = some key) (gone : ∀ worker, crew.stages worker = .left)
    (before : List (CrewOccasion κ)) : IsSeenTo key (later ++ taking :: before) := by
  obtain ⟨⟨worker, item⟩, begun, same⟩ := Option.map_eq_some_iff.mp begun
  have idle : (crew.stages worker).item? ≠ some item := by
    rw [gone worker]
    exact nofun
  obtain ⟨last, releasing, between, rfl, released, first, judged⟩ := exists_release run begun idle
  refine ⟨last, releasing, between, taking, before, worker, item, ?_, begun, same, judged, released,
    first⟩
  rw [List.append_assoc, List.cons_append]

variable [Std.LawfulEqOrd κ]

/-- While a worker is at an item, nobody takes its key. -/
theorem unbegun_of_run (run : Run ceiling size (between ++ taking :: earlier) crew)
    (begun : taking.begun? = some (worker, item))
    (unreleased : ∀ occasion ∈ between, occasion.action ≠ .release worker) :
    ∀ occasion ∈ between, occasion.begunKey? ≠ some item.key := by
  intro occasion mem
  obtain ⟨later, earlier', rfl⟩ := List.append_of_mem mem
  rw [List.append_assoc, List.cons_append] at run
  obtain ⟨before, -⟩ := run.split
  have has := (attends_of_run before begun fun other mem =>
    unreleased other (by simp [mem])).1
  apply (isSound_of_run before).unbegun
  rw [Stage.key?, has, Option.map_some]

/-- A key that was added and is not dirty any more has been taken since. -/
theorem exists_begun (run : Run ceiling size (later ++ occasion :: earlier) crew)
    (adds : occasion.Adds key) (clean : key ∉ crew.shared.queue.dirty) :
    ∃ taking ∈ later, taking.begunKey? = some key := by
  by_contra unbegun
  obtain ⟨adding, found, adds⟩ := adds
  have untaken : ∀ other ∈ later.filterMap CrewOccasion.onQueue?, other.takenKey? ≠ some key := by
    intro other mem taken
    obtain ⟨taking, mem, found⟩ := List.mem_filterMap.mp mem
    obtain ⟨after, acts⟩ := run.acts_of_mem (List.mem_append_left _ mem)
    exact unbegun ⟨taking, mem, acts.takenKey? found ▸ taken⟩
  apply clean
  rw [SharedQueue.mem_dirty_iff_of_run (run_shared run).1, List.filterMap_append,
    List.filterMap_cons_some found, isAddedSince_append untaken]
  exact .inr (.inl adds)

/-- A key that is never added is never taken. -/
theorem unbegun_of_unadded (run : Run ceiling size history crew)
    (unadded : ∀ occasion ∈ history, ¬occasion.Adds key) :
    ∀ occasion ∈ history, occasion.begunKey? ≠ some key := by
  have none_accepted : acceptances key (history.filterMap CrewOccasion.onQueue?) = 0 := by
    rw [acceptances, List.countP_eq_zero]
    intro adding mem accepted
    obtain ⟨occasion, mem, found⟩ := List.mem_filterMap.mp mem
    rw [decide_eq_true_eq, QueueOccasion.accepted?_eq_some] at accepted
    exact unadded occasion mem ⟨adding, found, accepted.1⟩
  have none_delivered : deliveries key (history.filterMap CrewOccasion.onQueue?) = 0 := by
    have balance := SharedQueue.balance_of_run (run_shared run).1 key
    omega
  intro occasion mem begun
  obtain ⟨onQueue, found⟩ : ∃ onQueue, occasion.onQueue? = some onQueue := by
    unfold CrewOccasion.begunKey? CrewOccasion.begun? at begun
    split at begun
    · rename_i worker taking
      refine ⟨⟨occasion.before.shared, occasion.now, .take worker⟩, ?_⟩
      simp only [CrewOccasion.onQueue?, CrewOccasion.operation?, taking, Option.map_some]
    · cases begun
  obtain ⟨after, acts⟩ := run.acts_of_mem mem
  rw [deliveries, List.countP_eq_zero] at none_delivered
  apply none_delivered onQueue (List.mem_filterMap.mpr ⟨occasion, mem, found⟩)
  rw [decide_eq_true_eq, acts.takenKey? found]
  exact begun

structure HasDrained (history : List (CrewOccasion κ)) (crew : Crew κ) : Prop where
  waiting : crew.shared.queue.waiting = []
  clean : ∀ key, key ∉ crew.shared.queue.dirty
  free : ∀ key, key ∉ crew.shared.queue.taken
  /-- Since each addition that the queue took, an attempt at the key has begun and ended. -/
  added : ∀ key later occasion earlier, history = later ++ occasion :: earlier →
    occasion.Adds key → IsSeenTo key later
  /-- If a worker had the key by then, that was after the worker returned it. -/
  readded : ∀ later occasion between taking earlier worker item,
    history = later ++ occasion :: (between ++ taking :: earlier) →
    taking.begun? = some (worker, item) →
    (∀ other ∈ between, other.action ≠ .release worker) → occasion.Adds item.key →
      ∃ last releasing rest, later = last ++ releasing :: rest ∧
        releasing.action = .release worker ∧ (∀ other ∈ rest, other.action ≠ .release worker) ∧
        IsSeenTo item.key last
  unadded : ∀ key, (∀ occasion ∈ history, ¬occasion.Adds key) →
    ∀ occasion ∈ history, occasion.begunKey? ≠ some key

theorem hasDrained_of_run (staffed : 0 < size) (run : Run ceiling size history crew)
    (gone : ∀ worker < size, crew.stages worker = .left) : crew.HasDrained history := by
  have gone : ∀ worker, crew.stages worker = .left := by
    intro worker
    rcases Nat.lt_or_ge worker size with staff | outsider
    · exact gone worker staff
    · exact left_of_run run outsider
  have sound := isSound_of_run run
  obtain ⟨-, waiting⟩ := isDrained_of_run staffed run gone
  have free : ∀ key, key ∉ crew.shared.queue.taken := by
    intro key taken
    obtain ⟨worker, has⟩ := sound.mem_taken.mp taken
    rw [gone worker] at has
    cases has
  have clean : ∀ key, key ∉ crew.shared.queue.dirty := by
    intro key dirty
    rcases sound.kept.isOrderly.waiting_or_taken key dirty with waits | taken
    · simp [waiting] at waits
    · exact free key taken
  refine ⟨waiting, clean, free, ?_, ?_, fun key => unbegun_of_unadded run⟩
  · rintro key later occasion earlier rfl adds
    obtain ⟨taking, mem, begun⟩ := exists_begun run adds (clean key)
    obtain ⟨last, between, rfl⟩ := List.append_of_mem mem
    rw [List.append_assoc, List.cons_append] at run
    exact isSeenTo_of_begun run begun gone between
  · rintro later occasion between taking earlier worker item rfl begun unreleased adds
    have unreleased : ∀ other ∈ occasion :: between, other.action ≠ .release worker :=
      List.forall_mem_cons.mpr ⟨adds.action_ne_release worker, unreleased⟩
    obtain ⟨last, releasing, rest, rfl, releases, first⟩ :
        ∃ last releasing rest, later = last ++ releasing :: rest ∧
          releasing.action = .release worker ∧ ∀ other ∈ rest, other.action ≠ .release worker := by
      apply exists_earliest
      by_contra never
      push Not at never
      have all : Run ceiling size ((later ++ occasion :: between) ++ taking :: earlier) crew := by
        simpa using run
      have still := (attends_of_run all begun (List.forall_mem_append.mpr ⟨never, unreleased⟩)).1
      rw [gone worker] at still
      cases still
    refine ⟨last, releasing, rest, rfl, releases, first, ?_⟩
    obtain ⟨again, mem, begun_again⟩ := exists_begun run adds (clean item.key)
    rw [List.append_assoc, List.cons_append] at run
    rcases List.mem_append.mp mem with late | early
    · obtain ⟨later, before, rfl⟩ := List.append_of_mem late
      rw [List.append_assoc, List.cons_append] at run
      exact isSeenTo_of_begun run begun_again gone before
    -- Up to its release, the key was with the worker, so that nobody could take it.
    · rw [List.mem_cons] at early
      rcases early with rfl | early
      · simp [CrewOccasion.begunKey?, CrewOccasion.begun?, releases] at begun_again
      · have during : Run ceiling size ((rest ++ occasion :: between) ++ taking :: earlier)
            releasing.before := by
          simpa using run.split.1
        exact absurd begun_again (unbegun_of_run during begun
          (List.forall_mem_append.mpr ⟨first, unreleased⟩) again (List.mem_append_left _ early))

/-- A worker leaves while the other one still has a key that has been added again; a last addition
comes too late. -/
theorem hasDrained_of_run_staggered :
    ∃ (history : List (CrewOccasion Nat)) (crew : Crew Nat), Run .unbounded 2 history crew ∧
      (∀ worker < 2, crew.stages worker = .left) ∧ crew.HasDrained history ∧
      history.filterMap CrewOccasion.begunKey? = [7, 8, 7] := by
  have replayed : ∃ outcome ∈ replay? .unbounded [] (start 2 : Crew Nat)
        [(0, .outside (.add 7)), (1, .take 0), (2, .outside (.add 7)), (3, .outside (.add 8)),
          (4, .outside .shutDown), (5, .take 1), (6, .outside (.add 9)),
          (7, .judge 1 (.ok .unchanged) ⟨1⟩), (8, .settle 1 fun _ => .ok ⟨5⟩), (9, .release 1),
          (10, .take 1), (11, .judge 0 (.ok .created) ⟨1⟩), (12, .settle 0 fun _ => .ok ⟨5⟩),
          (13, .release 0), (14, .take 0), (15, .judge 0 (.ok .unchanged) ⟨1⟩),
          (16, .settle 0 fun _ => .ok ⟨5⟩), (17, .release 0), (18, .take 0)],
      (∀ worker < 2, outcome.2.stages worker = .left) ∧
        outcome.1.filterMap CrewOccasion.begunKey? = [7, 8, 7] := by
    decide +kernel
  obtain ⟨history, crew, run, gone, begun⟩ := exists_run replayed
  exact ⟨history, crew, run, gone, hasDrained_of_run (by decide) run gone, begun⟩

end Crew

end ServiceRecords
