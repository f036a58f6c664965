import ServiceRecords.Proofs.Worker.Endings

set_option autoImplicit false

/-!
# Running out of retries

A key that is asked for once and fails every time, though another attempt might succeed, is seen to
once more than it may be retried, and then it is given up. `OnCourse` says how far such a key can
have come while its worker is at some stage, and `onCourse_of_run` that it never comes elsewhere.
-/

namespace ServiceRecords

namespace SharedQueue

variable {κ : Type} [Ord κ] [Std.TransOrd κ] [DecidableEq κ]

/-- The additions of a key that are to come, and the delivery that is due. -/
def due (shared : SharedQueue κ) (key : κ) : Nat := shared.delayed.count key + shared.owed key

variable [Std.LawfulEqOrd κ] {shared : SharedQueue κ} {now : Nat} {key other : κ}

theorem due_plan_of_ne (different : other ≠ key) (delay : Duration) :
    (shared.plan other (shared.queue.addAfter now delay other)).due key = shared.due key := by
  unfold due owed plan WorkQueue.addAfter
  cases delay.isZero with
  | true => simp [WorkQueue.mem_dirty_add, different.symm]
  | false => simp [different]

theorem due_add (running : shared.queue.isShutDown = false) (undue : shared.due key = 0) :
    { shared with queue := shared.queue.add now key }.due key = 1 := by
  have undelayed := (Nat.add_eq_zero_iff.mp undue).1
  simp [due, owed, WorkQueue.mem_dirty_add, running, undelayed]

theorem due_plan (running : shared.queue.isShutDown = false) (undue : shared.due key = 0)
    (delay : Duration) : (shared.plan key (shared.queue.addAfter now delay key)).due key = 1 := by
  cases zero : delay.isZero with
  | true => simpa [plan, WorkQueue.addAfter, zero] using due_add running undue
  | false =>
    unfold due owed at undue
    simp only [due, owed, plan, WorkQueue.addAfter, zero, Bool.false_eq_true, if_false,
      Option.isSome_some, if_true, List.count_cons_self]
    omega

/-- The addition that was to come has come. -/
theorem due_fire (running : shared.queue.isShutDown = false) (due : shared.due key = 1)
    (delayed : key ∈ shared.delayed) :
    { shared with
      queue := shared.queue.add now key, delayed := shared.delayed.erase key }.due key = 1 := by
  have once := List.count_pos_iff.mpr delayed
  unfold SharedQueue.due at due
  simp only [SharedQueue.due, owed, List.count_erase_self, WorkQueue.mem_dirty_add, running,
    and_self, or_true, if_true]
  omega

end SharedQueue

/-- Another attempt might succeed. -/
def isTransient : Except ReconcileError Outcome → Bool
  | .error error => error.isRetryable
  | .ok _ => false

namespace CrewOccasion

variable {κ : Type} [Ord κ] [Std.TransOrd κ]

/-- The key that somebody else adds on their own account, at once or later. -/
def requested? (occasion : CrewOccasion κ) : Option κ :=
  match occasion.action with
  | .outside (.add key) => some key
  | .outside (.addAfter key _) => some key
  | _ => none

/-- The key that the action is about. -/
def subject? (occasion : CrewOccasion κ) : Option κ :=
  match occasion.action with
  | .outside (.add key) => some key
  | .outside (.addAfter key _) => some key
  | .outside (.fire key) => some key
  | .outside _ => none
  | .take _ => occasion.begunKey?
  | .judge worker _ _ | .settle worker _ | .postpone worker | .release worker =>
    (occasion.before.stages worker).key?

variable {ceiling : RetryCeiling} {occasion : CrewOccasion κ} {key : κ}

theorem subject?_of_begunKey? (begun : occasion.begunKey? = some key) :
    occasion.subject? = some key := by
  have shape := begun
  unfold begunKey? begun? at shape
  split at shape
  · rename_i taking
    simp only [subject?, taking, begun]
  · cases shape

theorem subject?_of_requested? (requested : occasion.requested? = some key) :
    occasion.subject? = some key := by
  unfold requested? at requested
  split at requested
  · rename_i adding
    simpa only [subject?, adding] using requested
  · rename_i adding
    simpa only [subject?, adding] using requested
  · cases requested

theorem subject?_of_verdict? {verdict : Verdict}
    (found : occasion.verdict? ceiling = some (key, verdict)) : occasion.subject? = some key := by
  obtain ⟨judged, judges, same⟩ := Option.map_eq_some_iff.mp found
  obtain ⟨rfl, -⟩ := Prod.mk.inj same
  unfold judged? at judges
  split at judges
  · rename_i judging
    obtain ⟨item, has, rfl⟩ := Option.map_eq_some_iff.mp judges
    simp only [subject?, judging, Stage.key?, has, Option.map_some]
  · cases judges

theorem requeued?_eq_some {reason : String} :
    occasion.requeued? ceiling = some (key, reason) ↔
      ∃ verdict, occasion.verdict? ceiling = some (key, verdict) ∧
        verdict.requeueReason? = some reason := by
  simp only [requeued?, Option.bind_eq_some_iff, Option.map_eq_some_iff, Prod.exists, Prod.mk.injEq]
  grind

theorem dropped?_eq_some {reason : String} :
    occasion.dropped? ceiling = some (key, reason) ↔
      ∃ verdict, occasion.verdict? ceiling = some (key, verdict) ∧
        verdict.dropReason? = some reason := by
  simp only [dropped?, Option.bind_eq_some_iff, Option.map_eq_some_iff, Prod.exists, Prod.mk.injEq]
  grind

end CrewOccasion

/-- How far a key has come. -/
structure Progress (κ : Type) where
  begun : Nat
  requeued : Nat
  dropped : List (κ × String)
  due : Nat
  failures : Nat
  deriving DecidableEq

/-- How far a key can have come that is requested once and always fails. -/
inductive OnCourse {κ : Type} (limit : Nat) (key : κ) :
    Nat → Option (Stage κ) → Progress κ → Prop where
  | unrequested : OnCourse limit key 0 none ⟨0, 0, [], 0, 0⟩
  | due {failures : Nat} (within : failures ≤ limit) :
      OnCourse limit key 1 none ⟨failures, failures, [], 1, failures⟩
  | reconciled {failures : Nat} {item : WorkItem κ} (within : failures ≤ limit) :
      OnCourse limit key 1 (some (.reconciling item)) ⟨failures + 1, failures, [], 0, failures⟩
  | retried {failures : Nat} {item : WorkItem κ} {verdict : Verdict} (within : failures < limit)
      (retried : verdict.isRetried = true) :
      OnCourse limit key 1 (some (.settling item verdict))
        ⟨failures + 1, failures + 1, [], 0, failures⟩
  | counted {failures : Nat} {item : WorkItem κ} {verdict : Verdict} {delay : Duration}
      (within : failures ≤ limit) :
      OnCourse limit key 1 (some (.postponing item verdict delay))
        ⟨failures, failures, [], 0, failures⟩
  | added {failures : Nat} {item : WorkItem κ} {verdict : Verdict} (within : failures ≤ limit) :
      OnCourse limit key 1 (some (.returning item verdict)) ⟨failures, failures, [], 1, failures⟩
  | exhausted {item : WorkItem κ} {verdict : Verdict} (final : verdict.isRetried = false) :
      OnCourse limit key 1 (some (.settling item verdict))
        ⟨limit + 1, limit, [(key, "retries_exhausted")], 0, limit⟩
  | forgotten {item : WorkItem κ} {verdict : Verdict} :
      OnCourse limit key 1 (some (.returning item verdict))
        ⟨limit + 1, limit, [(key, "retries_exhausted")], 0, 0⟩
  | givenUp : OnCourse limit key 1 none ⟨limit + 1, limit, [(key, "retries_exhausted")], 0, 0⟩

namespace OnCourse

variable {κ : Type} {limit : UInt32} {requests : Nat} {key : κ} {stage? : Option (Stage κ)}
  {progress : Progress κ} {item : WorkItem κ} {verdict : Verdict}

theorem due_le (course : OnCourse limit.toNat key requests stage? progress) :
    progress.due ≤ 1 := by
  cases course <;> simp

theorem due_eq_zero (course : OnCourse limit.toNat key 0 stage? progress) : progress.due = 0 := by
  cases course
  rfl

theorem request (course : OnCourse limit.toNat key 0 stage? progress) :
    OnCourse limit.toNat key 1 stage? { progress with due := 1 } := by
  cases course
  exact .due (Nat.zero_le _)

theorem take (course : OnCourse limit.toNat key requests none progress) (due : 0 < progress.due)
    (item : WorkItem κ) :
    OnCourse limit.toNat key requests (some (.reconciling item))
      { progress with begun := progress.begun + 1, due := 0 } := by
  cases course with
  | due within => exact .reconciled within
  | _ => cases due

/-- Another failure is retried if the ceiling allows it, and else it is the last one. -/
theorem judge (course : OnCourse limit.toNat key requests (some (.reconciling item)) progress)
    {result : Except ReconcileError Outcome} (transient : isTransient result = true) :
    let verdict := Verdict.ofResult (.bounded limit) progress.failures result
    OnCourse limit.toNat key requests (some (.settling item verdict))
      { progress with
        requeued := progress.requeued + if verdict.requeueReason?.isSome then 1 else 0
        dropped := verdict.dropReason?.toList.map (key, ·) ++ progress.dropped } := by
  intro verdict
  cases result with
  | ok outcome => cases transient
  | error error =>
    change error.isRetryable = true at transient
    cases course with
    | @reconciled failures _ within =>
      cases allowed : (RetryCeiling.bounded limit).allows failures with
      | true =>
        have shape : verdict = .retried error.category (failures + 1) := by
          simp [verdict, Verdict.ofResult, transient, allowed]
        rw [shape]
        exact .retried (RetryCeiling.lt_of_allows allowed rfl) rfl
      | false =>
        have shape : verdict = .exhausted error.category (failures + 1) := by
          simp [verdict, Verdict.ofResult, transient, allowed]
        have reached : failures = limit.toNat := by
          simp only [RetryCeiling.allows, decide_eq_false_iff_not] at allowed
          omega
        subst reached
        rw [shape]
        exact .exhausted rfl

theorem forget (course : OnCourse limit.toNat key requests (some (.settling item verdict)) progress)
    (final : verdict.isRetried = false) :
    OnCourse limit.toNat key requests (some (.returning item verdict))
      { progress with failures := 0 } := by
  cases course with
  | retried within retried => simp [retried] at final
  | exhausted => exact .forgotten

/-- The count is a 32-bit number as the limit is, so that it stays exact. -/
theorem count (course : OnCourse limit.toNat key requests (some (.settling item verdict)) progress)
    (retried : verdict.isRetried = true) (delay : Duration) :
    OnCourse limit.toNat key requests (some (.postponing item verdict delay))
      { progress with failures := min (progress.failures + 1) Failures.maxCount } := by
  cases course with
  | @retried failures _ _ within retried =>
    have small : min (failures + 1) Failures.maxCount = failures + 1 := by
      have := limit.toNat_lt
      simp only [Failures.maxCount, UInt32.size]
      omega
    simp only [small]
    exact .counted within
  | exhausted final => simp [retried] at final

theorem postpone {delay : Duration}
    (course : OnCourse limit.toNat key requests (some (.postponing item verdict delay)) progress) :
    progress.due = 0 ∧
      OnCourse limit.toNat key requests (some (.returning item verdict))
        { progress with due := 1 } := by
  cases course with
  | counted within => exact ⟨rfl, .added within⟩

theorem release
    (course : OnCourse limit.toNat key requests (some (.returning item verdict)) progress) :
    OnCourse limit.toNat key requests none progress := by
  cases course with
  | added within => exact .due within
  | forgotten => exact .givenUp

theorem bounds (course : OnCourse limit.toNat key requests stage? progress) :
    progress.begun ≤ limit.toNat + 1 ∧ progress.requeued ≤ limit.toNat ∧
      progress.dropped.length ≤ 1 := by
  cases course <;> simp <;> omega

theorem eq_of_done (course : OnCourse limit.toNat key 1 none progress) (undue : progress.due = 0) :
    progress = ⟨limit.toNat + 1, limit.toNat, [(key, "retries_exhausted")], 0, 0⟩ := by
  cases course with
  | due => cases undue
  | givenUp => rfl

end OnCourse

namespace Crew

variable {κ : Type} [Ord κ] {key : κ}

/-- The stage of the worker who has the key, if there is one. -/
def IsWith (crew : Crew κ) (key : κ) : Option (Stage κ) → Prop
  | none => ∀ worker, (crew.stages worker).key? ≠ some key
  | some stage => stage.key? = some key ∧ ∃ worker, crew.stages worker = stage

theorem isWith_assign (crew : Crew κ) (worker : Nat) {stage : Stage κ}
    (about : stage.key? = some key) : (crew.assign worker stage).IsWith key (some stage) :=
  ⟨about, worker, stages_assign_self ..⟩

variable [Std.TransOrd κ]

variable {ceiling : RetryCeiling} {size now : Nat} {limit : UInt32} {crew after : Crew κ}
  {action : CrewAction κ} {history : List (CrewOccasion κ)} {item : WorkItem κ} {worker : Nat}
  {stage? : Option (Stage κ)}

theorem IsWith.eq_some (has : crew.IsWith key stage?) (sound : crew.IsSound)
    (own : (crew.stages worker).key? = some key) : stage? = some (crew.stages worker) := by
  cases stage? with
  | none => exact absurd own (has worker)
  | some stage =>
    obtain ⟨about, other, rfl⟩ := has
    rw [sound.apart about own]

variable [DecidableEq κ]

def progress (ceiling : RetryCeiling) (history : List (CrewOccasion κ)) (crew : Crew κ) (key : κ) :
    Progress κ where
  begun := history.countP (·.begunKey? = some key)
  requeued := history.countP fun occasion => (occasion.requeued? ceiling).map (·.1) = some key
  dropped := (history.filterMap (·.dropped? ceiling)).filter (·.1 = key)
  due := crew.shared.due key
  failures := crew.shared.queue.attempts key

/-- Where an attempt at the key ends, the verdict shows how far the key has come. -/
theorem progress_cons_of_verdict? {occasion : CrewOccasion κ} {verdict : Verdict} (crew : Crew κ)
    (unbegun : occasion.begunKey? ≠ some key)
    (judged : occasion.verdict? ceiling = some (key, verdict)) :
    progress ceiling (occasion :: history) after key =
      { progress ceiling history crew key with
        requeued := (progress ceiling history crew key).requeued +
          if verdict.requeueReason?.isSome then 1 else 0
        dropped := verdict.dropReason?.toList.map (key, ·) ++
          (progress ceiling history crew key).dropped
        due := after.shared.due key, failures := after.shared.queue.attempts key } := by
  cases dropped : verdict.dropReason? <;> cases requeued : verdict.requeueReason? <;>
    simp [progress, unbegun, CrewOccasion.requeued?, CrewOccasion.dropped?,
      judged, dropped, requeued]

/-- Where no attempt at the key begins or ends, only what is due and the failures can change. -/
theorem progress_cons {occasion : CrewOccasion κ} (crew : Crew κ)
    (unbegun : occasion.begunKey? ≠ some key)
    (unjudged : ∀ verdict, occasion.verdict? ceiling ≠ some (key, verdict)) :
    progress ceiling (occasion :: history) after key =
      { progress ceiling history crew key with
        due := after.shared.due key, failures := after.shared.queue.attempts key } := by
  have unrequeued : (occasion.requeued? ceiling).map (·.1) ≠ some key := by
    intro requeued
    obtain ⟨⟨_, reason⟩, found, rfl⟩ := Option.map_eq_some_iff.mp requeued
    obtain ⟨verdict, found, -⟩ := CrewOccasion.requeued?_eq_some.mp found
    exact unjudged verdict found
  have dropped : ((occasion :: history).filterMap (·.dropped? ceiling)).filter (·.1 = key) =
      (history.filterMap (·.dropped? ceiling)).filter (·.1 = key) := by
    cases dropped : occasion.dropped? ceiling with
    | none => rw [List.filterMap_cons_none dropped]
    | some entry =>
      rw [List.filterMap_cons_some dropped, List.filter_cons_of_neg]
      rw [decide_eq_true_eq]
      rintro rfl
      obtain ⟨verdict, found, -⟩ := CrewOccasion.dropped?_eq_some.mp dropped
      exact unjudged verdict found
  simp only [progress, List.countP_cons, unbegun, unrequeued, decide_false, dropped,
    Bool.false_eq_true, if_false, Nat.add_zero]

theorem progress_of_idle {occasion : CrewOccasion κ} (crew : Crew κ)
    (unbegun : occasion.begun? = none) (unjudged : occasion.judged? = none) :
    progress ceiling (occasion :: history) after key =
      { progress ceiling history crew key with
        due := after.shared.due key, failures := after.shared.queue.attempts key } := by
  apply progress_cons crew
  · simp [CrewOccasion.begunKey?, unbegun]
  · simp [CrewOccasion.verdict?, unjudged]

/-- The action of a worker is about the key that the worker has before or afterwards. -/
theorem Acts.subject? (acts : crew.Acts ceiling now action after)
    (acting : action.worker? = some worker)
    (has : (crew.stages worker).key? = some key ∨ (after.stages worker).key? = some key) :
    CrewOccasion.subject? ⟨crew, now, action⟩ = some key := by
  cases acts with
  | outside => cases acting
  | @take _ item queue asks took =>
    cases acting
    simp only [asks, Stage.key?, Stage.item?, checkOut, stages_assign_self] at has
    simpa [CrewOccasion.subject?, CrewOccasion.begunKey?, CrewOccasion.begun?, took] using has
  | leave asks =>
    cases acting
    simp [asks, Stage.key?, Stage.item?] at has
  | judge at_ | forget at_ | desist at_ | count at_ | breakDown at_ | postpone at_ | release at_ =>
    cases acting
    simp only [at_, Stage.key?, Stage.item?, Crew.judge, Crew.postpone, Crew.release,
      stages_assign_self] at has
    simpa [CrewOccasion.subject?, at_, Stage.key?, Stage.item?] using has

/-- What is not about a key leaves it to its worker. -/
theorem Acts.isWith_of_ne (acts : crew.Acts ceiling now action after)
    (elsewhere : CrewOccasion.subject? ⟨crew, now, action⟩ ≠ some key)
    (has : crew.IsWith key stage?) : after.IsWith key stage? := by
  cases stage? with
  | none =>
    intro worker own
    by_cases acting : action.worker? = some worker
    · exact elsewhere (acts.subject? acting (.inr own))
    · rw [acts.stages_of_ne acting] at own
      exact has worker own
  | some stage =>
    obtain ⟨about, worker, rfl⟩ := has
    have idle : action.worker? ≠ some worker := fun acting =>
      elsewhere (acts.subject? acting (.inl about))
    exact ⟨about, worker, acts.stages_of_ne idle⟩

variable [Std.LawfulEqOrd κ]

theorem Acts.progress_of_ne (acts : crew.Acts ceiling now action after)
    (plain : action.isPlain = true)
    (elsewhere : CrewOccasion.subject? ⟨crew, now, action⟩ ≠ some key) :
    progress ceiling (⟨crew, now, action⟩ :: history) after key =
      progress ceiling history crew key := by
  have due : after.shared.due key = crew.shared.due key := by
    cases acts with
    | @outside operation shared isOpen acted =>
      cases operation with
      | add other =>
        cases acted
        have different : key ≠ other := by
          rintro rfl
          exact elsewhere rfl
        simp [SharedQueue.due, SharedQueue.owed, WorkQueue.mem_dirty_add, different]
      | addAfter other delay =>
        cases acted
        refine SharedQueue.due_plan_of_ne ?_ delay
        rintro rfl
        exact elsewhere rfl
      | fire other =>
        have different : key ≠ other := by
          rintro rfl
          exact elsewhere rfl
        simp only [SharedQueue.act?] at acted
        split at acted
        · cases acted
          simp [SharedQueue.due, SharedQueue.owed, WorkQueue.mem_dirty_add, different,
            List.count_erase_of_ne]
        · cases acted
      | _ => cases plain
    | @take _ item queue asks took =>
      have different : key ≠ item.key := by
        rintro rfl
        apply elsewhere
        simp [CrewOccasion.subject?, CrewOccasion.begunKey?, CrewOccasion.begun?, took]
      simp [SharedQueue.due, SharedQueue.owed, checkOut,
        (WorkQueue.takes_of_take? took).mem_dirty, different]
    | @postpone _ item verdict delay counted =>
      refine SharedQueue.due_plan_of_ne ?_ delay
      rintro rfl
      exact elsewhere (by simp [CrewOccasion.subject?, counted, Stage.key?, Stage.item?])
    | count => simp [SharedQueue.due, SharedQueue.owed, update]
    | release => simp [SharedQueue.due, SharedQueue.owed, Crew.release]
    | _ => rfl
  have failures : after.shared.queue.attempts key = crew.shared.queue.attempts key := by
    apply acts.attempts_of_idle plain
    intro worker acting has
    exact elsewhere (acts.subject? acting (.inl has))
  rw [progress_cons crew (fun begun => elsewhere (CrewOccasion.subject?_of_begunKey? begun))
    (fun _ found => elsewhere (CrewOccasion.subject?_of_verdict? found)), due, failures]
  rfl

/-- Somebody requests the key, or its delay has passed. -/
theorem onCourse_outside {requests : Nat} {operation : QueueOperation κ}
    {shared : SharedQueue κ}
    (course : OnCourse limit.toNat key requests stage? (progress ceiling history crew key))
    (running : crew.shared.queue.isShutDown = false)
    (acted : crew.shared.act? now operation = some shared)
    (plain : (CrewAction.outside operation).isPlain = true)
    (own : CrewOccasion.subject? ⟨crew, now, .outside operation⟩ = some key)
    (once : CrewOccasion.requested? ⟨crew, now, .outside operation⟩ = some key → requests = 0) :
    OnCourse limit.toNat key
      (requests +
        if CrewOccasion.requested? ⟨crew, now, .outside operation⟩ = some key then 1 else 0)
      stage?
      (progress ceiling (⟨crew, now, .outside operation⟩ :: history) { crew with shared } key) := by
  rw [progress_of_idle crew rfl rfl]
  cases operation with
  | add other =>
    cases own
    cases once rfl
    cases acted
    have requested : CrewOccasion.requested? ⟨crew, now, .outside (.add key)⟩ = some key := rfl
    rw [SharedQueue.due_add running course.due_eq_zero, WorkQueue.attempts_add, if_pos requested]
    exact course.request
  | addAfter other delay =>
    cases own
    cases once rfl
    cases acted
    have requested :
        CrewOccasion.requested? ⟨crew, now, .outside (.addAfter key delay)⟩ = some key := rfl
    rw [SharedQueue.due_plan running course.due_eq_zero delay, SharedQueue.plan,
      WorkQueue.attempts_addAfter, if_pos requested]
    exact course.request
  | fire other =>
    cases own
    simp only [SharedQueue.act?] at acted
    split at acted
    · rename_i delayed
      cases acted
      have due : crew.shared.due key = 1 := by
        refine Nat.le_antisymm course.due_le (Nat.le_add_right_of_le ?_)
        exact List.count_pos_iff.mpr delayed
      rw [SharedQueue.due_fire running due delayed, WorkQueue.attempts_add, ← due]
      exact course
    · cases acted
  | _ => cases plain

/-- A worker takes the key, which nobody else has. -/
theorem onCourse_take {requests : Nat} {queue : WorkQueue κ}
    (course : OnCourse limit.toNat item.key requests stage?
      (progress ceiling history crew item.key))
    (has : crew.IsWith item.key stage?) (sound : crew.IsSound)
    (took : crew.shared.queue.take? now = some (item, queue)) :
    OnCourse limit.toNat item.key requests (some (.reconciling item))
      (progress ceiling (⟨crew, now, .take worker⟩ :: history)
        (crew.checkOut now worker item queue) item.key) := by
  have takes := WorkQueue.takes_of_take? took
  have dirty := sound.kept.isOrderly.dirty_of_waiting item.key (by simp [takes.waiting])
  have unheld : stage? = none := by
    cases stage? with
    | none => rfl
    | some stage =>
      obtain ⟨about, other, rfl⟩ := has
      exact absurd (sound.mem_taken.mpr ⟨other, about⟩) (takes.not_taken sound.kept.isOrderly)
  subst unheld
  have due : crew.shared.due item.key = crew.shared.delayed.count item.key + 1 := by
    rw [SharedQueue.due, SharedQueue.owed, if_pos dirty]
  have once : crew.shared.due item.key ≤ 1 := course.due_le
  have undue : (crew.checkOut now worker item queue).shared.due item.key = 0 := by
    simp only [SharedQueue.due, SharedQueue.owed, checkOut, shared_assign, takes.mem_dirty, ne_eq,
      not_true_eq_false, and_false, if_false]
    omega
  have next : progress ceiling (⟨crew, now, .take worker⟩ :: history)
      (crew.checkOut now worker item queue) item.key =
        { progress ceiling history crew item.key with
          begun := (progress ceiling history crew item.key).begun + 1, due := 0 } := by
    have attempts : (crew.checkOut now worker item queue).shared.queue.attempts item.key =
        crew.shared.queue.attempts item.key := (WorkQueue.eq_of_take? took).2.2 item.key
    simp [progress, CrewOccasion.begunKey?, CrewOccasion.begun?, took, CrewOccasion.requeued?,
      CrewOccasion.dropped?, CrewOccasion.verdict?, CrewOccasion.judged?, undue, attempts]
  rw [next]
  apply course.take
  show 0 < crew.shared.due item.key
  omega

theorem onCourse_acts {requests : Nat}
    (course : OnCourse limit.toNat key requests stage? (progress (.bounded limit) history crew key))
    (has : crew.IsWith key stage?) (sound : crew.IsSound)
    (running : crew.shared.queue.isShutDown = false)
    (acts : crew.Acts (.bounded limit) now action after) (plain : action.isPlain = true)
    (yields : CrewOccasion.yields ⟨crew, now, action⟩ = true)
    (transient : ∀ judged, CrewOccasion.judged? ⟨crew, now, action⟩ = some judged →
      judged.1.key = key → isTransient judged.2.1 = true)
    (own : CrewOccasion.subject? ⟨crew, now, action⟩ = some key)
    (once : CrewOccasion.requested? ⟨crew, now, action⟩ = some key → requests = 0) :
    ∃ stage?, after.IsWith key stage? ∧
      OnCourse limit.toNat key
        (requests + if CrewOccasion.requested? ⟨crew, now, action⟩ = some key then 1 else 0) stage?
        (progress (.bounded limit) (⟨crew, now, action⟩ :: history) after key) := by
  cases acts with
  | outside isOpen used =>
    exact ⟨stage?, has, onCourse_outside course running used plain own once⟩
  | @take worker item queue asks took =>
    have same : item.key = key := by
      simpa [CrewOccasion.subject?, CrewOccasion.begunKey?, CrewOccasion.begun?, took] using own
    subst same
    exact ⟨_, isWith_assign _ worker rfl, onCourse_take course has sound took⟩
  | leave asks empty =>
    simp [CrewOccasion.subject?, CrewOccasion.begunKey?, CrewOccasion.begun?, empty] at own
  | @judge worker item ended result duration =>
    cases has.eq_some sound own
    rw [ended] at course
    have judged : CrewOccasion.judged? ⟨crew, now, .judge worker result duration⟩ =
        some (item, result, crew.shared.queue.attempts item.key) := by
      simp only [CrewOccasion.judged?, ended, Stage.item?, Option.map_some]
    simp only [CrewOccasion.subject?, ended] at own
    cases own
    refine ⟨_, isWith_assign _ worker rfl, ?_⟩
    rw [progress_cons_of_verdict? crew (by simp [CrewOccasion.begunKey?, CrewOccasion.begun?])
      (by rw [CrewOccasion.verdict?, judged, Option.map_some])]
    exact course.judge (transient _ judged rfl)
  | @forget worker item verdict decided final delay =>
    cases has.eq_some sound own
    rw [decided] at course
    simp only [CrewOccasion.subject?, decided] at own
    cases own
    refine ⟨_, isWith_assign _ worker rfl, ?_⟩
    rw [progress_of_idle crew rfl rfl]
    simp only [shared_assign, update, WorkQueue.attempts_forget, if_true]
    exact course.forget final
  | desist decided retried stopped => simp [running] at stopped
  | @count worker item verdict wait delay decided retried _ found =>
    cases has.eq_some sound own
    rw [decided] at course
    simp only [CrewOccasion.subject?, decided] at own
    cases own
    refine ⟨_, isWith_assign _ worker rfl, ?_⟩
    rw [progress_of_idle crew rfl rfl]
    simp only [SharedQueue.due, SharedQueue.owed, shared_assign, update,
      WorkQueue.dirty_countFailure, WorkQueue.attempts_countFailure, running, and_self, if_true]
    exact course.count retried wait
  | breakDown decided retried _ missing =>
    simp [CrewOccasion.yields, decided, missing, Except.isOk, Except.toBool] at yields
  | @postpone worker item verdict delay counted =>
    cases has.eq_some sound own
    rw [counted] at course
    obtain ⟨undue, course⟩ := course.postpone
    simp only [CrewOccasion.subject?, counted] at own
    cases own
    refine ⟨_, isWith_assign _ worker rfl, ?_⟩
    rw [progress_of_idle crew rfl rfl]
    simp only [Crew.postpone, shared_assign, SharedQueue.due_plan running undue delay]
    simp only [SharedQueue.plan, WorkQueue.attempts_addAfter]
    exact course
  | @release worker item verdict returns =>
    cases has.eq_some sound own
    rw [returns] at course
    refine ⟨none, ?_, ?_⟩
    · intro other about
      by_cases same : other = worker
      · subst same
        simp [Crew.release, Stage.key?, Stage.item?] at about
      · simp only [Crew.release, stages_assign_of_ne same] at about
        exact same (sound.apart about own)
    · simp only [CrewOccasion.subject?, returns] at own
      cases own
      rw [progress_of_idle crew rfl rfl]
      simp only [SharedQueue.due, SharedQueue.owed, Crew.release, shared_assign,
        WorkQueue.dirty_release, WorkQueue.attempts_release]
      exact course.release

theorem onCourse_of_run (run : Run (.bounded limit) size history crew)
    (plain : ∀ occasion ∈ history, occasion.action.isPlain = true)
    (yields : ∀ occasion ∈ history, occasion.yields = true)
    (once : history.countP (·.requested? = some key) ≤ 1)
    (transient : ∀ occasion ∈ history, ∀ judged, occasion.judged? = some judged →
      judged.1.key = key → isTransient judged.2.1 = true) :
    ∃ stage?, crew.IsWith key stage? ∧
      OnCourse limit.toNat key (history.countP (·.requested? = some key)) stage?
        (progress (.bounded limit) history crew key) := by
  induction run with
  | start =>
    refine ⟨none, ?_, ?_⟩
    · intro worker
      simp only [start]
      split <;> rintro ⟨⟩
    · have untouched : progress (.bounded limit) [] (start size) key = ⟨0, 0, [], 0, 0⟩ := by
        simp [progress, start, SharedQueue.due, SharedQueue.owed, SharedQueue.empty,
          WorkQueue.empty, WorkQueue.attempts]
      rw [untouched]
      exact .unrequested
  | @step history before after now action run acted ih =>
    rw [List.forall_mem_cons] at plain yields transient
    rw [List.countP_cons] at once ⊢
    simp only [decide_eq_true_eq] at once ⊢
    obtain ⟨stage?, has, course⟩ := ih plain.2 yields.2 (by omega) transient.2
    have acts := acts_of_act? acted
    by_cases elsewhere : CrewOccasion.subject? ⟨before, now, action⟩ ≠ some key
    · have unrequested : CrewOccasion.requested? ⟨before, now, action⟩ ≠ some key :=
        fun requested => elsewhere (CrewOccasion.subject?_of_requested? requested)
      rw [if_neg unrequested, acts.progress_of_ne plain.1 elsewhere]
      exact ⟨stage?, acts.isWith_of_ne elsewhere has, course⟩
    · rw [ne_eq, not_not] at elsewhere
      refine onCourse_acts course has (isSound_of_run run) (running_of_run run plain.2) acts plain.1
        yields.1 transient.1 elsewhere ?_
      intro requested
      rw [if_pos requested] at once
      omega

end Crew

end ServiceRecords
