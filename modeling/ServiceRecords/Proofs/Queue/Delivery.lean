import ServiceRecords.Proofs.Queue.Custody

set_option autoImplicit false

/-!
# What becomes of an addition

Every addition that a queue accepts is handed out once, or will be: for each key the books balance
at any time (`balance_of_run`), and the keys are handed out in the order in which they began to
wait (`inOrder_of_run`). The time and the count that go with a key can be told from the history as
well (`firstAdded?_of_run`, `attempts_of_run`). `isAccounted_of_run` brings all this together.
-/

namespace ServiceRecords

variable {κ : Type} [Ord κ] [Std.TransOrd κ]

namespace WorkQueue

variable {queue after : WorkQueue κ} {now : Nat} {key other : κ} {item : WorkItem κ}

@[simp]
theorem attempts_add (queue : WorkQueue κ) (now : Nat) (key other : κ) :
    (queue.add now key).attempts other = queue.attempts other := by
  unfold add
  split
  · rfl
  · split <;> rfl

@[simp]
theorem attempts_addAfter (queue : WorkQueue κ) (now : Nat) (delay : Duration) (key other : κ) :
    (queue.addAfter now delay key).2.attempts other = queue.attempts other := by
  unfold addAfter
  split
  · exact attempts_add ..
  · rfl

@[simp]
theorem attempts_release (queue : WorkQueue κ) (key other : κ) :
    (queue.release key).attempts other = queue.attempts other := by
  unfold release
  split <;> rfl

theorem eq_of_take? (took : queue.take? now = some (item, after)) :
    item.added = queue.dirty[item.key]?.getD now ∧ item.attempts = queue.attempts item.key ∧
      ∀ other, after.attempts other = queue.attempts other := by
  unfold take? at took
  split at took
  · cases took
  · cases took
    exact ⟨rfl, rfl, fun _ => rfl⟩

theorem waiting_release :
    (queue.release key).waiting =
      if key ∈ queue.dirty then queue.waiting ++ [key] else queue.waiting := by
  unfold release
  simp only [Std.ExtTreeMap.contains_iff_mem]
  split <;> rfl

theorem waiting_add :
    (queue.add now key).waiting =
      if queue.isShutDown = false ∧ key ∉ queue.dirty ∧ key ∉ queue.taken then
        queue.waiting ++ [key]
      else queue.waiting := by
  unfold add
  by_cases running : queue.isShutDown = false <;> by_cases dirty : key ∈ queue.dirty <;>
    by_cases taken : key ∈ queue.taken <;> simp [running, dirty, taken]

variable [Std.LawfulEqOrd κ] [DecidableEq κ]

@[simp]
theorem attempts_countFailure (queue : WorkQueue κ) (key other : κ) :
    (queue.countFailure key).attempts other =
      if queue.isShutDown = false ∧ key = other then
        min (queue.attempts key + 1) Failures.maxCount
      else queue.attempts other := by
  unfold countFailure attempts
  cases queue.isShutDown with
  | true => simp
  | false => simp [Failures.count_increment]

@[simp]
theorem attempts_forget (queue : WorkQueue κ) (key other : κ) :
    (queue.forget key).attempts other = if key = other then 0 else queue.attempts other :=
  Failures.count_forget queue.failures key other

theorem getElem?_dirty_add :
    (queue.add now key).dirty[other]? =
      if key = other ∧ queue.isShutDown = false ∧ key ∉ queue.dirty then some now
      else queue.dirty[other]? := by
  unfold add
  split
  · rename_i ignored
    rw [Bool.or_eq_true, Std.ExtTreeMap.contains_iff_mem] at ignored
    rw [if_neg]
    rintro ⟨-, running, clean⟩
    rcases ignored with stopped | dirty
    · simp [running] at stopped
    · exact clean dirty
  · rename_i accepted
    rw [Bool.or_eq_true, not_or, Bool.not_eq_true, Std.ExtTreeMap.contains_iff_mem] at accepted
    have inserted : (queue.dirty.insert key now)[other]? =
        if key = other ∧ queue.isShutDown = false ∧ key ∉ queue.dirty then some now
        else queue.dirty[other]? := by
      simp only [Std.ExtTreeMap.getElem?_insert, Std.LawfulEqOrd.compare_eq_iff_eq, accepted.1,
        accepted.2, not_false_eq_true, and_true]
    split
    · exact inserted
    · exact inserted

end WorkQueue

namespace QueueOccasion

variable {occasion : QueueOccasion κ} {before after : SharedQueue κ} {now : Nat}
  {operation : QueueOperation κ} {key : κ}

/-- The key that is added, if the queue is running and has not absorbed the addition. -/
def accepted? (occasion : QueueOccasion κ) : Option κ :=
  occasion.added?.filter fun key =>
    occasion.before.queue.isShutDown = false ∧ key ∉ occasion.before.queue.dirty

/-- The key that begins to wait. -/
def entered? (occasion : QueueOccasion κ) : Option κ :=
  match occasion.released? with
  | some key => if key ∈ occasion.before.queue.dirty then some key else none
  | none => occasion.accepted?.filter fun key => key ∉ occasion.before.queue.taken

/-- The key whose failure is counted. -/
def counted? (occasion : QueueOccasion κ) : Option κ :=
  if occasion.before.queue.isShutDown then none
  else
    match occasion.operation with
    | .countFailure key => some key
    | .retry key delay =>
      if (delay (occasion.before.queue.attempts key)).isOk then some key else none
    | _ => none

def forgotten? (occasion : QueueOccasion κ) : Option κ :=
  match occasion.operation with
  | .forget key => some key
  | _ => none

theorem accepted?_eq_some :
    occasion.accepted? = some key ↔ occasion.Adds key ∧ key ∉ occasion.before.queue.dirty := by
  unfold accepted? Adds
  rw [Option.filter_eq_some_iff, decide_eq_true_eq, and_assoc]

theorem Affects.take?_of_taken? {item : WorkItem κ} (affects : occasion.Affects after)
    (taken : occasion.taken? = some item) :
    occasion.before.queue.take? occasion.now = some (item, after.queue) ∧
      occasion.added? = none := by
  cases affects with
  | takes unadded found unreleased took held =>
    rw [taken] at found
    cases found
    exact ⟨took, unadded⟩
  | adds failures added untaken => simp [untaken] at taken
  | releases unadded untaken => simp [untaken] at taken
  | passes failures isShutDown unadded untaken => simp [untaken] at taken

theorem Affects.takes_of_takenKey? (affects : occasion.Affects after)
    (taken : occasion.takenKey? = some key) :
    WorkQueue.Takes occasion.before.queue key after.queue ∧ occasion.added? = none := by
  obtain ⟨item, found, rfl⟩ := Option.map_eq_some_iff.mp taken
  obtain ⟨took, unadded⟩ := affects.take?_of_taken? found
  exact ⟨WorkQueue.takes_of_take? took, unadded⟩

theorem added?_of_released (released : occasion.released? = some key) :
    occasion.added? = none ∧ occasion.takenKey? = none := by
  unfold released? at released
  unfold added? takenKey? taken?
  split at released
  · rename_i shape
    simp [shape]
  · cases released

theorem Affects.running (affects : occasion.Affects after)
    (running : after.queue.isShutDown = false) : occasion.before.queue.isShutDown = false := by
  cases affects with
  | adds failures added untaken unreleased queue held =>
    rw [queue, WorkQueue.isShutDown_add] at running
    exact running
  | takes unadded taken unreleased took held =>
    rw [(WorkQueue.takes_of_take? took).isShutDown] at running
    exact running
  | releases unadded untaken released had queue held =>
    rw [queue, WorkQueue.isShutDown_release] at running
    exact running
  | passes failures isShutDown unadded untaken unreleased queue lasts held =>
    rw [queue] at running
    by_contra stopped
    rw [Bool.not_eq_false] at stopped
    simp [lasts stopped] at running

/-- The keys leave the front of the queue and enter at its end. -/
theorem Affects.waiting (affects : occasion.Affects after) :
    occasion.before.queue.waiting ++ occasion.entered?.toList =
      occasion.takenKey?.toList ++ after.queue.waiting := by
  unfold entered? takenKey?
  cases affects with
  | @adds key failures added untaken unreleased queue held =>
    rw [queue, WorkQueue.waiting_add, untaken, unreleased, accepted?, added, Option.filter_some]
    by_cases running : occasion.before.queue.isShutDown = false <;>
      by_cases dirty : key ∈ occasion.before.queue.dirty <;>
      by_cases taken : key ∈ occasion.before.queue.taken <;> simp [running, dirty, taken]
  | takes unadded taken unreleased took held =>
    rw [(WorkQueue.takes_of_take? took).waiting, taken, unreleased, accepted?, unadded]
    simp
  | @releases client key unadded untaken released had queue held =>
    rw [queue, WorkQueue.waiting_release, untaken, released]
    by_cases dirty : key ∈ occasion.before.queue.dirty <;> simp [dirty]
  | passes failures isShutDown unadded untaken unreleased queue lasts held =>
    rw [queue, untaken, unreleased, accepted?, unadded]
    simp

variable [Std.LawfulEqOrd κ]

theorem Affects.mem_taken (affects : occasion.Affects after) :
    key ∈ after.queue.taken ↔
      occasion.takenKey? = some key ∨
        occasion.released? ≠ some key ∧ key ∈ occasion.before.queue.taken := by
  unfold takenKey?
  cases affects with
  | adds failures added untaken unreleased queue held =>
    rw [queue, WorkQueue.taken_add, untaken, unreleased]
    simp
  | takes unadded taken unreleased took held =>
    rw [(WorkQueue.takes_of_take? took).mem_taken, taken, unreleased, eq_comm]
    simp
  | releases unadded untaken released had queue held =>
    rw [queue, WorkQueue.mem_taken_release, untaken, released, and_comm, ne_comm]
    simp
  | passes failures isShutDown unadded untaken unreleased queue lasts held =>
    rw [queue, untaken, unreleased]
    simp

variable [DecidableEq κ]

theorem Affects.getElem?_dirty (affects : occasion.Affects after) :
    after.queue.dirty[key]? =
      if occasion.takenKey? = some key then none
      else if occasion.accepted? = some key then some occasion.now
      else occasion.before.queue.dirty[key]? := by
  simp only [accepted?_eq_some, Adds]
  unfold takenKey?
  cases affects with
  | @adds added failures found untaken unreleased queue held =>
    rw [queue, WorkQueue.getElem?_dirty_add, untaken, found]
    by_cases own : added = key
    · subst own
      simp
    · simp [own]
  | @takes client item unadded taken unreleased took held =>
    rw [(WorkQueue.takes_of_take? took).dirty, taken, unadded, Std.ExtTreeMap.getElem?_erase]
    simp only [Std.LawfulEqOrd.compare_eq_iff_eq]
    simp
  | releases unadded untaken released had queue held =>
    rw [queue, WorkQueue.dirty_release, untaken, unadded]
    simp
  | passes failures isShutDown unadded untaken unreleased queue lasts held =>
    rw [queue, untaken, unadded]
    simp

/-- A count changes when it is forgotten, and when a failure is counted. -/
theorem attempts_of_act? (acted : before.act? now operation = some after) (key : κ) :
    after.queue.attempts key =
      if forgotten? ⟨before, now, operation⟩ = some key then 0
      else if counted? ⟨before, now, operation⟩ = some key then
        min (before.queue.attempts key + 1) Failures.maxCount
      else before.queue.attempts key := by
  unfold forgotten? counted?
  cases operation with
  | add added =>
    cases acted
    simp
  | take client =>
    simp only [SharedQueue.act?] at acted
    split at acted
    · rename_i took
      cases acted
      simp [(WorkQueue.eq_of_take? took).2.2 key]
    · cases acted
      simp
  | release client released =>
    simp only [SharedQueue.act?] at acted
    split at acted
    · cases acted
      simp
    · cases acted
  | retry failing delay =>
    simp only [SharedQueue.act?] at acted
    cases stopped : before.queue.isShutDown with
    | true =>
      simp only [WorkQueue.retry, stopped, if_true] at acted
      cases acted
      simp [SharedQueue.plan]
    | false =>
      rw [WorkQueue.retry_eq stopped] at acted
      cases found : delay (before.queue.attempts failing) with
      | error error =>
        simp only [found, Except.map] at acted
        cases acted
        simp [found, Except.isOk, Except.toBool]
      | ok duration =>
        simp only [found, Except.map] at acted
        cases acted
        by_cases own : failing = key
        · subst own
          simp [SharedQueue.plan, found, stopped, Except.isOk, Except.toBool]
        · simp [SharedQueue.plan, found, own, Except.isOk, Except.toBool]
  | countFailure failing =>
    cases acted
    by_cases own : failing = key
    · subst own
      cases stopped : before.queue.isShutDown <;> simp [stopped]
    · simp [own]
  | addAfter added delay =>
    cases acted
    simp [SharedQueue.plan]
  | fire added =>
    simp only [SharedQueue.act?] at acted
    split at acted
    · cases acted
      simp
    · cases acted
  | forget forgotten =>
    cases acted
    simp
  | shutDown =>
    cases acted
    simp [WorkQueue.shutDown, WorkQueue.attempts]

instance (occasion : QueueOccasion κ) (key : κ) : Decidable (occasion.Adds key) :=
  inferInstanceAs (Decidable (_ ∧ _))

end QueueOccasion

/-- How many additions of the key were accepted. -/
def acceptances [DecidableEq κ] (key : κ) (history : List (QueueOccasion κ)) : Nat :=
  history.countP fun occasion => occasion.accepted? = some key

/-- How often the key was handed out. -/
def deliveries [DecidableEq κ] (key : κ) (history : List (QueueOccasion κ)) : Nat :=
  history.countP fun occasion => occasion.takenKey? = some key

/-- The time of the first addition of the key since it was last handed out. -/
def firstAdded? [DecidableEq κ] (key : κ) : List (QueueOccasion κ) → Option Nat
  | [] => none
  | occasion :: earlier =>
    if occasion.takenKey? = some key then none
    else
      (firstAdded? key earlier).or
        (if occasion.added? = some key then some occasion.now else none)

/-- How many failures of the key were counted since it was last forgotten. -/
def countedFailures [DecidableEq κ] (key : κ) : List (QueueOccasion κ) → Nat
  | [] => 0
  | occasion :: earlier =>
    if occasion.forgotten? = some key then 0
    else countedFailures key earlier + if occasion.counted? = some key then 1 else 0

namespace SharedQueue

variable [DecidableEq κ]

/-- The deliveries of the key that are due. -/
def owed (shared : SharedQueue κ) (key : κ) : Nat := if key ∈ shared.queue.dirty then 1 else 0

structure IsAccounted (history : List (QueueOccasion κ)) (shared : SharedQueue κ) : Prop where
  balance : ∀ key, acceptances key history = deliveries key history + shared.owed key
  /-- No addition is lost. -/
  delivered : ∀ key later occasion earlier, history = later ++ occasion :: earlier →
    occasion.Adds key →
      key ∈ shared.queue.dirty ∨ ∃ other ∈ later, other.takenKey? = some key
  /-- A key that is not released yet is not handed out again. -/
  undelivered : ∀ key later taking earlier, history = later ++ taking :: earlier →
    taking.takenKey? = some key → (∀ other ∈ later, other.released? ≠ some key) →
      ∀ other ∈ later, other.takenKey? ≠ some key
  /-- All additions while the key is checked out make for one delivery more. -/
  redelivered : ∀ key later releasing between taking earlier,
    history = later ++ releasing :: (between ++ taking :: earlier) →
    taking.takenKey? = some key → (∀ other ∈ between, other.released? ≠ some key) →
    releasing.released? = some key →
      deliveries key later + shared.owed key =
        acceptances key later + if ∃ other ∈ between, other.Adds key then 1 else 0
  inOrder : (history.filterMap QueueOccasion.entered?).reverse =
    (history.filterMap QueueOccasion.takenKey?).reverse ++ shared.queue.waiting
  items : ∀ later occasion earlier item, history = later ++ occasion :: earlier →
    occasion.taken? = some item →
      firstAdded? item.key earlier = some item.added ∧
      item.attempts = occasion.before.queue.attempts item.key ∧
      item.attempts = min (countedFailures item.key earlier) Failures.maxCount

variable {history later between earlier : List (QueueOccasion κ)}
  {occasion : QueueOccasion κ} {shared after : SharedQueue κ} {key : κ}

theorem inOrder_of_run (run : Run history shared) :
    (history.filterMap QueueOccasion.entered?).reverse =
      (history.filterMap QueueOccasion.takenKey?).reverse ++ shared.queue.waiting := by
  -- The history has the latest first, so that what is read off it grows at the end.
  have cons : ∀ (project : QueueOccasion κ → Option κ) occasion earlier,
      ((occasion :: earlier).filterMap project).reverse =
        (earlier.filterMap project).reverse ++ (project occasion).toList := by
    intro project occasion earlier
    cases found : project occasion <;> simp [found]
  induction run with
  | start => rfl
  | step run acted ih =>
    have step := (QueueOccasion.affects_of_act? acted).waiting
    rw [cons, cons, ih, List.append_assoc, step, List.append_assoc]

variable [Std.LawfulEqOrd κ]

theorem owed_of_affects (orderly : occasion.before.queue.IsOrderly)
    (affects : occasion.Affects after) (key : κ) :
    (if occasion.takenKey? = some key then 1 else 0) + after.owed key =
      (if occasion.accepted? = some key then 1 else 0) + occasion.before.owed key := by
  have dirty := mem_dirty_of_affects affects key
  unfold owed
  by_cases taken : occasion.takenKey? = some key
  -- A key that is handed out was dirty, so that this one delivery was owed.
  · obtain ⟨takes, unadded⟩ := affects.takes_of_takenKey? taken
    have was_dirty := orderly.dirty_of_waiting key (by simp [takes.waiting])
    simp [dirty, QueueOccasion.accepted?_eq_some, QueueOccasion.Adds, taken, was_dirty, unadded]
  · by_cases was_dirty : key ∈ occasion.before.queue.dirty
    · simp [dirty, QueueOccasion.accepted?_eq_some, taken, was_dirty]
    · simp [dirty, QueueOccasion.accepted?_eq_some, taken, was_dirty]

theorem balance_of_run (run : Run history shared) (key : κ) :
    acceptances key history = deliveries key history + shared.owed key := by
  induction run with
  | start => simp [acceptances, deliveries, owed, empty, WorkQueue.empty]
  | step run acted ih =>
    have step := owed_of_affects (isKept_of_run run).isOrderly
      (QueueOccasion.affects_of_act? acted) key
    dsimp only at step
    simp only [acceptances, deliveries, List.countP_cons, decide_eq_true_eq] at ih ⊢
    omega

/-- As long as it is not released, a key stays checked out, and is not handed out again. -/
theorem taken_of_unreleased {taking : QueueOccasion κ}
    (run : Run (later ++ taking :: earlier) shared) (taken : taking.takenKey? = some key)
    (unreleased : ∀ other ∈ later, other.released? ≠ some key) :
    key ∈ shared.queue.taken ∧ ∀ other ∈ later, other.takenKey? ≠ some key := by
  induction later generalizing shared with
  | nil =>
    cases run with
    | step run acted =>
      exact ⟨(QueueOccasion.affects_of_act? acted).mem_taken.mpr (.inl taken), nofun⟩
  | cons latest later ih =>
    rw [List.forall_mem_cons] at unreleased
    cases run with
    | step run acted =>
      have affects := QueueOccasion.affects_of_act? acted
      obtain ⟨still, untaken⟩ := ih run unreleased.2
      refine ⟨affects.mem_taken.mpr (.inr ⟨unreleased.1, still⟩), ?_⟩
      rw [List.forall_mem_cons]
      refine ⟨?_, untaken⟩
      -- Only keys that wait are handed out, and none of them is taken.
      intro again
      exact (affects.takes_of_takenKey? again).1.not_taken (isKept_of_run run).isOrderly still

/-- The queue knows when each dirty key was added first. -/
theorem firstAdded?_of_run (run : Run history shared) (key : κ) :
    (∀ time, shared.queue.dirty[key]? = some time → firstAdded? key history = some time) ∧
      (shared.queue.isShutDown = false → key ∉ shared.queue.dirty →
        firstAdded? key history = none) := by
  induction run with
  | start => exact ⟨by simp [empty, WorkQueue.empty], fun _ _ => rfl⟩
  | step run acted ih =>
    have affects := QueueOccasion.affects_of_act? acted
    refine ⟨?_, ?_⟩
    · intro time found
      rw [affects.getElem?_dirty] at found
      rw [firstAdded?]
      split at found
      · cases found
      · rename_i untaken
        rw [if_neg untaken]
        split at found
        · rename_i accepted
          obtain ⟨⟨added, running⟩, clean⟩ := QueueOccasion.accepted?_eq_some.mp accepted
          rw [ih.2 running clean, if_pos added]
          exact found
        · rw [ih.1 time found]
          rfl
    -- A stopped queue ignores additions, so that a clean key may have been added to it.
    · intro running clean
      rw [mem_dirty_of_affects affects, not_or, not_and_or] at clean
      obtain ⟨unadded, unchanged⟩ := clean
      rw [firstAdded?]
      split
      · rfl
      · rename_i untaken
        have running := affects.running running
        rw [ih.2 running (unchanged.resolve_left (not_not.mpr untaken)), if_neg]
        · rfl
        · exact fun added => unadded ⟨added, running⟩

theorem attempts_of_run (run : Run history shared) (key : κ) :
    shared.queue.attempts key = min (countedFailures key history) Failures.maxCount := by
  induction run with
  | start => simp [empty, WorkQueue.empty, WorkQueue.attempts, countedFailures]
  | step run acted ih =>
    rw [QueueOccasion.attempts_of_act? acted key, ih, countedFailures]
    split
    · simp
    · split
      · omega
      · rfl

/-- When a key is released, it has been added since it was handed out if it was added in between. -/
theorem isAddedSince_checkedOut {taking releasing : QueueOccasion κ}
    (run : Run (between ++ taking :: earlier) shared) (taken : taking.takenKey? = some key)
    (unreleased : ∀ other ∈ between, other.released? ≠ some key)
    (released : releasing.released? = some key) :
    IsAddedSince key (releasing :: (between ++ taking :: earlier)) ↔
      ∃ other ∈ between, other.Adds key := by
  have untaken := (taken_of_unreleased run taken unreleased).2
  obtain ⟨-, after, affects, -⟩ := run.split
  have unadded := (affects.takes_of_takenKey? taken).2
  have idle := QueueOccasion.added?_of_released released
  rw [IsAddedSince, isAddedSince_append untaken, IsAddedSince]
  simp [QueueOccasion.Adds, taken, unadded, idle]

theorem isAccounted_of_run (run : Run history shared) : shared.IsAccounted history where
  balance := balance_of_run run
  delivered := by
    rintro key later occasion earlier rfl adds
    by_cases untaken : ∀ other ∈ later, other.takenKey? ≠ some key
    · have added : IsAddedSince key (later ++ occasion :: earlier) :=
        (isAddedSince_append untaken).mpr (.inr (.inl adds))
      exact .inl ((mem_dirty_iff_of_run run key).mpr added)
    · push Not at untaken
      exact .inr untaken
  undelivered := by
    rintro key later taking earlier rfl taken unreleased
    exact (taken_of_unreleased run taken unreleased).2
  redelivered := by
    rintro key later releasing between taking earlier rfl taken unreleased released
    obtain ⟨before, after, affects, during⟩ := run.split
    have owed : after.owed key = if ∃ other ∈ between, other.Adds key then 1 else 0 := by
      unfold owed
      simp only [mem_dirty_iff_of_run during key,
        isAddedSince_checkedOut before taken unreleased released]
    -- The books balanced at the release as they do now, and then this was what was owed.
    have balance := balance_of_run run key
    have balance_before := balance_of_run during key
    simp only [acceptances, deliveries, List.countP_append] at balance balance_before ⊢
    omega
  inOrder := inOrder_of_run run
  items := by
    rintro later occasion earlier item rfl taken
    obtain ⟨before, after, affects, -⟩ := run.split
    have orderly := (isKept_of_run before).isOrderly
    have took := (affects.take?_of_taken? taken).1
    obtain ⟨added, attempts, -⟩ := WorkQueue.eq_of_take? took
    have dirty : item.key ∈ occasion.before.queue.dirty :=
      orderly.dirty_of_waiting item.key (by simp [(WorkQueue.takes_of_take? took).waiting])
    obtain ⟨time, found⟩ :=
      Option.isSome_iff_exists.mp (Std.ExtTreeMap.mem_iff_isSome_getElem?.mp dirty)
    refine ⟨?_, attempts, ?_⟩
    · rw [added, found]
      exact (firstAdded?_of_run before item.key).1 time found
    · rw [attempts]
      exact attempts_of_run before item.key

/-- A key that is added three times while a client has it is handed out once more, with the time of
the first of these additions. -/
theorem isAccounted_of_run_readded :
    ∃ (history : List (QueueOccasion Nat)) (shared : SharedQueue Nat), Run history shared ∧
      shared.IsAccounted history ∧
      history.filterMap QueueOccasion.taken? = [⟨7, 4, 1⟩, ⟨8, 2, 0⟩, ⟨7, 0, 0⟩] ∧
      acceptances 7 history = 2 := by
  have replayed : ∃ outcome ∈ replay? [] (empty : SharedQueue Nat)
        [(0, .add 7), (1, .take 0), (2, .add 8), (3, .retry 7 fun _ => .ok ⟨5⟩), (4, .add 7),
          (5, .add 7), (6, .fire 7), (7, .release 0 7), (8, .take 1), (9, .take 0)],
      outcome.1.filterMap QueueOccasion.taken? = [⟨7, 4, 1⟩, ⟨8, 2, 0⟩, ⟨7, 0, 0⟩] ∧
        acceptances 7 outcome.1 = 2 := by
    decide +kernel
  obtain ⟨history, shared, run, taken, accepted⟩ := exists_run replayed
  exact ⟨history, shared, run, isAccounted_of_run run, taken, accepted⟩

end SharedQueue

end ServiceRecords
