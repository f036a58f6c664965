import Mathlib.Logic.Function.Basic
import ServiceRecords.Reconcile.Sweep
import ServiceRecords.Store.Memory
import ServiceRecords.Watch.Observer
import ServiceRecords.Worker.Verdict

set_option autoImplicit false

/-!
# The controller with all its parts at work

The observer, the forwarding of its notices, any number of workers and sweeps, and the delays
after which keys are added again take turns in any order. A single request of a reconciliation or
a sweep is one step, and so is every access of a worker to the queue. `act?` says what an action
does, `Run` is any sequence of actions with its history, and `replay?` carries out a given one.
-/

namespace ServiceRecords.Concurrent

/-- What a worker is at with the key that it has checked out. -/
inductive Duty where
  | reconciling (rest : Procedure (Except ReconcileError Outcome))
  /-- The attempt has ended. -/
  | reporting (result : Except ReconcileError Outcome)
  /-- It is decided what becomes of the key. -/
  | settling (verdict : Verdict)
  /-- Only the key has to be returned. -/
  | leaving

structure Worker where
  key : Key
  duty : Duty

structure Controller where
  observer : Observer := {}
  contents : Store.Contents := ∅
  /-- The keys of the notices that have not reached the queue, in order -/
  channel : List Key := []
  queue : WorkQueue Key := .empty
  /-- The keys that will be added to the queue after a delay -/
  delayed : List Key := []
  workers : Nat → Option Worker := fun _ => none
  sweepers : Nat → Option (Procedure (Except StoreError Nat)) := fun _ => none

/-- How a call to the store goes. A call that fails may take effect all the same. -/
inductive Response where
  | succeeds
  | fails (error : StoreError) (takesEffect : Bool)
  deriving DecidableEq

/-- One step of one of the parts. -/
inductive Action where
  | observe (event : WatchEvent)
  | resync
  /-- The first notice reaches the queue. -/
  | forward
  /-- The delay of a key has passed. -/
  | fire (key : Key)
  | take (worker : Nat)
  | serve (worker : Nat) (response : Response)
  | finish (worker : Nat)
  | judge (worker : Nat)
  | settle (worker : Nat) (delay : Nat → Except BackoffError Duration)
  | release (worker : Nat)
  | startSweep (sweeper : Nat)
  | serveSweep (sweeper : Nat) (response : Response)
  | finishSweep (sweeper : Nat)
  | shutDown

def Action.event? : Action → Option WatchEvent
  | .observe event => some event
  | _ => none

namespace Response

def write (response : Response) (call : Store.Call) (contents : Store.Contents) :
    Except StoreError Unit × Store.Contents :=
  match response with
  | succeeds => (.ok (), call.apply contents)
  | fails error takesEffect =>
    (.error error, if takesEffect then call.apply contents else contents)

def read (response : Response) (contents : Store.Contents) (start : String) :
    Except StoreError (List (String × String)) :=
  match response with
  | succeeds => .ok (Store.listing contents start)
  | fails error _ => .error error

end Response

namespace Controller

variable (layout : Layout) (ceiling : RetryCeiling) (now : Nat)

def updateStale (controller : Controller) (change : StaleZones → StaleZones) : Controller :=
  { controller with
    observer := { controller.observer with stale := change controller.observer.stale } }

def write (controller : Controller) (response : Response) (call : Store.Call) :
    Except StoreError Unit × Controller :=
  ((response.write call controller.contents).1,
    { controller with contents := (response.write call controller.contents).2 })

def assign (controller : Controller) (worker : Nat) (task : Option Worker) : Controller :=
  { controller with workers := Function.update controller.workers worker task }

def conduct (controller : Controller) (sweeper : Nat)
    (rest : Option (Procedure (Except StoreError Nat))) : Controller :=
  { controller with sweepers := Function.update controller.sweepers sweeper rest }

def enqueue (controller : Controller) (key : Key) : Controller :=
  { controller with queue := controller.queue.add now key }

/-- Serves one request. -/
def answer (response : Response) : (r : Request) → Controller → r.Reply × Controller
  | .readService key, controller => (controller.observer.cache.find? key, controller)
  | .readStale key, controller => (controller.observer.stale.zones key, controller)
  | .clearStale key zones, controller => ((), controller.updateStale (·.clear key zones))
  | .markStale key zone, controller => ((), controller.updateStale (·.mark key zone))
  | .enqueue key, controller => ((), controller.enqueue now key)
  | .list start, controller => (response.read controller.contents start, controller)
  | .put key value, controller => controller.write response (.put key value)
  | .delete key, controller => controller.write response (.delete key)

/-- The observer learns of an event and passes on its notices. -/
def observe (controller : Controller) (event : WatchEvent) : Controller :=
  let (notices, observer) := controller.observer.apply event
  { controller with
    observer, channel := controller.channel ++ (notices.getD []).map (·.key) }

/-- A worker carries out its verdict. One that finds no delay for a retry never comes back. -/
def settle (controller : Controller) (worker : Nat) (key : Key) (verdict : Verdict)
    (delay : Nat → Except BackoffError Duration) : Controller :=
  match verdict.settle delay now key controller.queue with
  | .ok (wait, queue) =>
    { controller.assign worker (some ⟨key, .leaving⟩) with
      queue, delayed := if wait.isSome then key :: controller.delayed else controller.delayed }
  | .error _ => controller.assign worker none

/-- What an action does, if it is one that can be taken. -/
def act? (controller : Controller) : Action → Option Controller
  | .observe event => some (controller.observe event)
  | .resync =>
    some { controller with
      channel := controller.channel ++ controller.observer.resync.map (·.key) }
  | .forward =>
    match controller.channel with
    | [] => none
    | key :: rest => some ({ controller with channel := rest }.enqueue now key)
  | .fire key =>
    if key ∈ controller.delayed then
      some ({ controller with delayed := controller.delayed.erase key }.enqueue now key)
    else none
  | .take worker =>
    match controller.workers worker, controller.queue.take? now with
    | none, some (item, queue) =>
      some ({ controller with queue }.assign worker
        (some ⟨item.key, .reconciling (reconcile layout item.key).run⟩))
    | _, _ => none
  | .serve worker response =>
    match controller.workers worker with
    | some ⟨key, .reconciling (.ask r resume)⟩ =>
      let (reply, controller) := answer now response r controller
      some (controller.assign worker (some ⟨key, .reconciling (resume reply)⟩))
    | _ => none
  | .finish worker =>
    match controller.workers worker with
    | some ⟨key, .reconciling (.done result)⟩ =>
      some (controller.assign worker (some ⟨key, .reporting result⟩))
    | _ => none
  | .judge worker =>
    match controller.workers worker with
    | some ⟨key, .reporting result⟩ =>
      let verdict := Verdict.ofResult ceiling (controller.queue.attempts key) result
      some (controller.assign worker (some ⟨key, .settling verdict⟩))
    | _ => none
  | .settle worker delay =>
    match controller.workers worker with
    | some ⟨key, .settling verdict⟩ => some (controller.settle now worker key verdict delay)
    | _ => none
  | .release worker =>
    match controller.workers worker with
    | some ⟨key, .leaving⟩ =>
      some ({ controller with queue := controller.queue.release key }.assign worker none)
    | _ => none
  | .startSweep sweeper =>
    match controller.sweepers sweeper with
    | none => some (controller.conduct sweeper (some (sweep layout).run))
    | some _ => none
  | .serveSweep sweeper response =>
    match controller.sweepers sweeper with
    | some (.ask r resume) =>
      let (reply, controller) := answer now response r controller
      some (controller.conduct sweeper (some (resume reply)))
    | _ => none
  | .finishSweep sweeper =>
    match controller.sweepers sweeper with
    | some (.done _) => some (controller.conduct sweeper none)
    | _ => none
  | .shutDown => some { controller with queue := controller.queue.shutDown }

/-- The actions that can be taken, and what each of them does. -/
inductive Acts (controller : Controller) : Action → Controller → Prop where
  | observe (event : WatchEvent) : Acts controller (.observe event) (controller.observe event)
  | resync : Acts controller .resync { controller with
      channel := controller.channel ++ controller.observer.resync.map (·.key) }
  | forward {key : Key} {rest : List Key} (first : controller.channel = key :: rest) :
      Acts controller .forward ({ controller with channel := rest }.enqueue now key)
  | fire {key : Key} (waits : key ∈ controller.delayed) :
      Acts controller (.fire key)
        ({ controller with delayed := controller.delayed.erase key }.enqueue now key)
  | take {worker : Nat} {item : WorkItem Key} {queue : WorkQueue Key}
      (free : controller.workers worker = none)
      (took : controller.queue.take? now = some (item, queue)) :
      Acts controller (.take worker) ({ controller with queue }.assign worker
        (some ⟨item.key, .reconciling (reconcile layout item.key).run⟩))
  | serve {worker : Nat} {key : Key} {r : Request}
      {resume : r.Reply → Procedure (Except ReconcileError Outcome)}
      (asks : controller.workers worker = some ⟨key, .reconciling (.ask r resume)⟩)
      (response : Response) :
      Acts controller (.serve worker response)
        ((answer now response r controller).2.assign worker
          (some ⟨key, .reconciling (resume (answer now response r controller).1)⟩))
  | finish {worker : Nat} {key : Key} {result : Except ReconcileError Outcome}
      (ends : controller.workers worker = some ⟨key, .reconciling (.done result)⟩) :
      Acts controller (.finish worker) (controller.assign worker (some ⟨key, .reporting result⟩))
  | judge {worker : Nat} {key : Key} {result : Except ReconcileError Outcome}
      (reports : controller.workers worker = some ⟨key, .reporting result⟩) :
      Acts controller (.judge worker) (controller.assign worker (some ⟨key, .settling
        (Verdict.ofResult ceiling (controller.queue.attempts key) result)⟩))
  | settle {worker : Nat} {key : Key} {verdict : Verdict}
      (decided : controller.workers worker = some ⟨key, .settling verdict⟩)
      (delay : Nat → Except BackoffError Duration) :
      Acts controller (.settle worker delay) (controller.settle now worker key verdict delay)
  | release {worker : Nat} {key : Key} (leaves : controller.workers worker = some ⟨key, .leaving⟩) :
      Acts controller (.release worker)
        ({ controller with queue := controller.queue.release key }.assign worker none)
  | startSweep {sweeper : Nat} (free : controller.sweepers sweeper = none) :
      Acts controller (.startSweep sweeper) (controller.conduct sweeper (some (sweep layout).run))
  | serveSweep {sweeper : Nat} {r : Request} {resume : r.Reply → Procedure (Except StoreError Nat)}
      (asks : controller.sweepers sweeper = some (.ask r resume)) (response : Response) :
      Acts controller (.serveSweep sweeper response)
        ((answer now response r controller).2.conduct sweeper
          (some (resume (answer now response r controller).1)))
  | finishSweep {sweeper : Nat} {result : Except StoreError Nat}
      (ends : controller.sweepers sweeper = some (.done result)) :
      Acts controller (.finishSweep sweeper) (controller.conduct sweeper none)
  | shutDown : Acts controller .shutDown { controller with queue := controller.queue.shutDown }

variable {layout ceiling now}

theorem acts_of_act? {controller after : Controller} {action : Action}
    (acted : controller.act? layout ceiling now action = some after) :
    controller.Acts layout ceiling now action after := by
  cases action with
  | observe event =>
    cases acted
    exact .observe event
  | resync =>
    cases acted
    exact .resync
  | shutDown =>
    cases acted
    exact .shutDown
  | fire key =>
    simp only [act?] at acted
    split at acted
    · rename_i waits
      cases acted
      exact .fire waits
    · cases acted
  | forward =>
    simp only [act?] at acted
    split at acted
    · cases acted
    · rename_i first
      cases acted
      exact .forward first
  | take worker =>
    simp only [act?] at acted
    split at acted
    · rename_i free took
      cases acted
      exact .take free took
    · cases acted
  | serve worker response =>
    simp only [act?] at acted
    split at acted
    · rename_i asks
      cases acted
      exact .serve asks response
    · cases acted
  | finish worker =>
    simp only [act?] at acted
    split at acted
    · rename_i ends
      cases acted
      exact .finish ends
    · cases acted
  | judge worker =>
    simp only [act?] at acted
    split at acted
    · rename_i reports
      cases acted
      exact .judge reports
    · cases acted
  | settle worker delay =>
    simp only [act?] at acted
    split at acted
    · rename_i decided
      cases acted
      exact .settle decided delay
    · cases acted
  | release worker =>
    simp only [act?] at acted
    split at acted
    · rename_i leaves
      cases acted
      exact .release leaves
    · cases acted
  | startSweep sweeper =>
    simp only [act?] at acted
    split at acted
    · rename_i free
      cases acted
      exact .startSweep free
    · cases acted
  | serveSweep sweeper response =>
    simp only [act?] at acted
    split at acted
    · rename_i asks
      cases acted
      exact .serveSweep asks response
    · cases acted
  | finishSweep sweeper =>
    simp only [act?] at acted
    split at acted
    · rename_i ends
      cases acted
      exact .finishSweep ends
    · cases acted

@[simp]
theorem workers_answer (now : Nat) (response : Response) (r : Request) (controller : Controller) :
    (answer now response r controller).2.workers = controller.workers := by
  cases r <;> rfl

@[simp]
theorem sweepers_answer (now : Nat) (response : Response) (r : Request) (controller : Controller) :
    (answer now response r controller).2.sweepers = controller.sweepers := by
  cases r <;> rfl

@[simp]
theorem observer_settle (controller : Controller) (worker : Nat) (key : Key) (verdict : Verdict)
    (delay : Nat → Except BackoffError Duration) :
    (controller.settle now worker key verdict delay).observer = controller.observer := by
  unfold settle
  split <;> rfl

@[simp]
theorem contents_settle (controller : Controller) (worker : Nat) (key : Key) (verdict : Verdict)
    (delay : Nat → Except BackoffError Duration) :
    (controller.settle now worker key verdict delay).contents = controller.contents := by
  unfold settle
  split <;> rfl

@[simp]
theorem sweepers_settle (controller : Controller) (worker : Nat) (key : Key) (verdict : Verdict)
    (delay : Nat → Except BackoffError Duration) :
    (controller.settle now worker key verdict delay).sweepers = controller.sweepers := by
  unfold settle
  split <;> rfl

theorem queue_answer (now : Nat) (response : Response) (r : Request) (controller : Controller) :
    (answer now response r controller).2.queue = controller.queue ∨
      ∃ key, r = .enqueue key ∧
        (answer now response r controller).2.queue = controller.queue.add now key := by
  cases r with
  | enqueue key => exact .inr ⟨key, rfl, rfl⟩
  | _ => exact .inl rfl

/-- A write goes to one place, whether it is reported as a success or not. -/
theorem contents_write (response : Response) (call : Store.Call) (controller : Controller) :
    (controller.write response call).2.contents = call.apply controller.contents ∨
      (controller.write response call).2.contents = controller.contents := by
  cases response with
  | succeeds => exact .inl rfl
  | fails error takesEffect => cases takesEffect <;> simp [write, Response.write]

/-- Nothing but an event changes the cache or the list in progress. -/
theorem Acts.cache {controller after : Controller} {action : Action}
    (acts : controller.Acts layout ceiling now action after)
    (unobserved : ∀ event, action ≠ .observe event) :
    after.observer.cache = controller.observer.cache ∧
      after.observer.buffer = controller.observer.buffer := by
  have answered : ∀ response r, (answer now response r controller).2.observer.cache =
      controller.observer.cache ∧
      (answer now response r controller).2.observer.buffer = controller.observer.buffer := by
    intro response r
    cases r <;> exact ⟨rfl, rfl⟩
  cases acts with
  | observe event => exact absurd rfl (unobserved event)
  | serve asks response => exact answered response _
  | serveSweep asks response => exact answered response _
  | settle decided delay => simp
  | _ => exact ⟨rfl, rfl⟩

/-- A sweep in progress was there before, has just begun, or has just been answered. -/
theorem Acts.sweepers {controller after : Controller} {action : Action}
    (acts : controller.Acts layout ceiling now action after)
    {sweeper : Nat} {rest : Procedure (Except StoreError Nat)}
    (found : after.sweepers sweeper = some rest) :
    controller.sweepers sweeper = some rest ∨ rest = (sweep layout).run ∨
      ∃ r resume response, controller.sweepers sweeper = some (.ask r resume) ∧
        action = .serveSweep sweeper response ∧
        after = (answer now response r controller).2.conduct sweeper (some rest) ∧
        rest = resume (answer now response r controller).1 := by
  cases acts with
  | @startSweep other free =>
    by_cases own : sweeper = other
    · subst own
      simp only [conduct, Function.update_self, Option.some.injEq] at found
      exact .inr (.inl found.symm)
    · simp only [conduct, Function.update_of_ne own] at found
      exact .inl found
  | @serveSweep other r resume asks response =>
    by_cases own : sweeper = other
    · subst own
      simp only [conduct, Function.update_self, Option.some.injEq] at found
      subst found
      exact .inr (.inr ⟨r, resume, response, asks, rfl, rfl, rfl⟩)
    · simp only [conduct, Function.update_of_ne own, sweepers_answer] at found
      exact .inl found
  | @finishSweep other result ends =>
    by_cases own : sweeper = other
    · subst own
      simp [conduct] at found
    · simp only [conduct, Function.update_of_ne own] at found
      exact .inl found
  | serve asks response =>
    simp only [assign, sweepers_answer] at found
    exact .inl found
  | settle decided delay =>
    rw [sweepers_settle] at found
    exact .inl found
  | _ => exact .inl found

/-- An attempt in progress was there before, has just begun, or has just been answered. -/
theorem Acts.reconciling {controller after : Controller} {action : Action}
    (acts : controller.Acts layout ceiling now action after) {worker : Nat} {key : Key}
    {rest : Procedure (Except ReconcileError Outcome)}
    (found : after.workers worker = some ⟨key, .reconciling rest⟩) :
    controller.workers worker = some ⟨key, .reconciling rest⟩ ∨
      rest = (reconcile layout key).run ∨
      ∃ r resume response, controller.workers worker = some ⟨key, .reconciling (.ask r resume)⟩ ∧
        action = .serve worker response ∧
        after = (answer now response r controller).2.assign worker
          (some ⟨key, .reconciling rest⟩) ∧
        rest = resume (answer now response r controller).1 := by
  have reassigned : ∀ {before : Controller} {other : Nat} {task : Option Worker},
      before.workers = controller.workers →
      (before.assign other task).workers worker = some ⟨key, .reconciling rest⟩ →
      controller.workers worker = some ⟨key, .reconciling rest⟩ ∨
        worker = other ∧ task = some ⟨key, .reconciling rest⟩ := by
    intro before other task same found
    by_cases own : worker = other
    · subst own
      simp only [assign, Function.update_self] at found
      exact .inr ⟨rfl, found⟩
    · simp only [assign, Function.update_of_ne own, same] at found
      exact .inl found
  cases acts with
  | take free took =>
    rcases reassigned rfl found with had | ⟨-, begun⟩
    · exact .inl had
    · cases begun
      exact .inr (.inl rfl)
  | serve asks response =>
    rcases reassigned (workers_answer ..) found with had | ⟨rfl, resumed⟩
    · exact .inl had
    · cases resumed
      exact .inr (.inr ⟨_, _, response, asks, rfl, rfl, rfl⟩)
  | finish ends =>
    rcases reassigned rfl found with had | ⟨-, ended⟩
    · exact .inl had
    · cases ended
  | judge reports =>
    rcases reassigned rfl found with had | ⟨-, judged⟩
    · exact .inl had
    · cases judged
  | release leaves =>
    rcases reassigned rfl found with had | ⟨-, released⟩
    · exact .inl had
    · cases released
  | @settle other settled verdict decided delay =>
    unfold Controller.settle at found
    split at found
    · rcases reassigned rfl found with had | ⟨-, leaving⟩
      · exact .inl had
      · cases leaving
    · rcases reassigned rfl found with had | ⟨-, gone⟩
      · exact .inl had
      · cases gone
  | serveSweep asks response =>
    simp only [conduct, workers_answer] at found
    exact .inl found
  | _ => exact .inl found

/-- Only a request of a worker or a sweep changes the store. -/
theorem Acts.contents {controller after : Controller} {action : Action}
    (acts : controller.Acts layout ceiling now action after) :
    after.contents = controller.contents ∨
      (∃ worker key r resume response,
        controller.workers worker = some ⟨key, .reconciling (.ask r resume)⟩ ∧
        after.contents = (answer now response r controller).2.contents) ∨
      ∃ sweeper r resume response, controller.sweepers sweeper = some (.ask r resume) ∧
        after.contents = (answer now response r controller).2.contents := by
  cases acts with
  | serve asks response => exact .inr (.inl ⟨_, _, _, _, response, asks, rfl⟩)
  | serveSweep asks response => exact .inr (.inr ⟨_, _, _, response, asks, rfl⟩)
  | settle decided delay => exact .inl (contents_settle ..)
  | _ => exact .inl rfl

end Controller

/-- An action, when it was taken, and the controller before it. -/
structure Occasion where
  before : Controller
  now : Nat
  action : Action

/-- The occasions from a start to a state, the latest first. -/
inductive Run (layout : Layout) (ceiling : RetryCeiling) (start : Controller) :
    List Occasion → Controller → Prop where
  | start : Run layout ceiling start [] start
  | step {history : List Occasion} {before after : Controller} {now : Nat} {action : Action}
      (run : Run layout ceiling start history before)
      (acts : before.act? layout ceiling now action = some after) :
      Run layout ceiling start (⟨before, now, action⟩ :: history) after

namespace Occasion

/-- The attempt that ends at this occasion. -/
def result? (occasion : Occasion) : Option (Key × Except ReconcileError Outcome) :=
  match occasion.action with
  | .finish worker =>
    match occasion.before.workers worker with
    | some ⟨key, .reconciling (.done result)⟩ => some (key, result)
    | _ => none
  | _ => none

/-- The attempt that ends at this occasion, if one does, has not been given up. -/
def Succeeds (occasion : Occasion) : Prop :=
  ∀ ending ∈ occasion.result?, ending.2.isOk = true

instance (occasion : Occasion) : Decidable occasion.Succeeds :=
  inferInstanceAs (Decidable (∀ ending ∈ occasion.result?, _))

/-- The sweep that ends at this occasion. -/
def swept? (occasion : Occasion) : Option (Except StoreError Nat) :=
  match occasion.action with
  | .finishSweep sweeper =>
    match occasion.before.sweepers sweeper with
    | some (.done result) => some result
    | _ => none
  | _ => none

theorem swept?_eq_some {occasion : Occasion} {result : Except StoreError Nat}
    (swept : occasion.swept? = some result) :
    ∃ sweeper, occasion.action = .finishSweep sweeper ∧
      occasion.before.sweepers sweeper = some (.done result) := by
  unfold swept? at swept
  split at swept
  · rename_i sweeper finished
    split at swept
    · rename_i ends
      cases swept
      exact ⟨sweeper, finished, ends⟩
    · cases swept
  · cases swept

end Occasion

/-- How the latest attempt on a key has ended. -/
def latestResult? (key : Key) : List Occasion → Option (Except ReconcileError Outcome)
  | [] => none
  | occasion :: earlier =>
    match occasion.result? with
    | some (other, result) => if other = key then some result else latestResult? key earlier
    | none => latestResult? key earlier

/-- The latest attempt on the key was given up. -/
def HasFailed (history : List Occasion) (key : Key) : Prop :=
  ∃ error, latestResult? key history = some (.error error)

/-- Only the end of an attempt changes how the latest one has ended. -/
theorem HasFailed.cons {history : List Occasion} {key : Key} (failed : HasFailed history key)
    {occasion : Occasion} (unfinished : occasion.result? = none) :
    HasFailed (occasion :: history) key := by
  obtain ⟨error, latest⟩ := failed
  exact ⟨error, by rw [latestResult?, unfinished, latest]⟩

theorem not_hasFailed {history : List Occasion} (succeeds : ∀ occasion ∈ history, occasion.Succeeds)
    (key : Key) : ¬HasFailed history key := by
  induction history with
  | nil =>
    rintro ⟨error, latest⟩
    cases latest
  | cons occasion earlier ih =>
    have before := ih fun other member => succeeds other (List.mem_cons_of_mem _ member)
    rintro ⟨error, latest⟩
    unfold latestResult? at latest
    split at latest
    · rename_i ended
      split at latest
      · cases latest
        cases succeeds occasion (List.mem_cons_self ..) _ ended
      · exact before ⟨error, latest⟩
    · exact before ⟨error, latest⟩

/-- Takes the actions in order, each one at its time, after what has happened already. -/
def replay? (layout : Layout) (ceiling : RetryCeiling) (history : List Occasion)
    (controller : Controller) : List (Nat × Action) → Option (List Occasion × Controller)
  | [] => some (history, controller)
  | (now, action) :: rest =>
    match controller.act? layout ceiling now action with
    | none => none
    | some after => replay? layout ceiling (⟨controller, now, action⟩ :: history) after rest

/-- What can be replayed is a run. -/
theorem run_of_replay? {layout : Layout} {ceiling : RetryCeiling} {start before after : Controller}
    {history history' : List Occasion} {actions : List (Nat × Action)}
    (run : Run layout ceiling start history before)
    (replayed : replay? layout ceiling history before actions = some (history', after)) :
    Run layout ceiling start history' after := by
  induction actions generalizing history before with
  | nil =>
    cases replayed
    exact run
  | cons entry rest ih =>
    obtain ⟨now, action⟩ := entry
    unfold replay? at replayed
    cases acts : before.act? layout ceiling now action with
    | none => simp [acts] at replayed
    | some next =>
      rw [acts] at replayed
      exact ih (run.step acts) replayed

theorem exists_run {layout : Layout} {ceiling : RetryCeiling} {start : Controller}
    {actions : List (Nat × Action)} {property : List Occasion × Controller → Prop}
    (replayed : ∃ outcome ∈ replay? layout ceiling [] start actions, property outcome) :
    ∃ history controller, Run layout ceiling start history controller ∧
      property (history, controller) := by
  obtain ⟨⟨history, controller⟩, replayed, holds⟩ := replayed
  exact ⟨history, controller, run_of_replay? .start replayed, holds⟩

/-- The actions one after another, while no time passes. -/
def atOnce (actions : List Action) : List (Nat × Action) := actions.map (0, ·)

/-- A service with one endpoint that is published in the zone. -/
def sample (zone : String) : Service where
  metadata := { name := some "a", ns := some "svc" }
  spec := { zone, endpoints := [⟨"e", "10.0.0.1", 9000, .grpc⟩] }

/-- A worker sees to the first key of the queue, and all its requests succeed. -/
def attempt (requests : Nat) : List Action :=
  .take 0 :: List.replicate requests (.serve 0 .succeeds) ++
    [.finish 0, .judge 0, .settle 0 fun _ => .ok ⟨0⟩, .release 0]

end ServiceRecords.Concurrent
