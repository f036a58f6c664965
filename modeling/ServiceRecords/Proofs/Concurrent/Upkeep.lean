import ServiceRecords.Proofs.Concurrent.Exclusion
import ServiceRecords.Proofs.Reconcile.Conduct
import ServiceRecords.Proofs.Reconcile.Survey
import ServiceRecords.Proofs.Watch.Observation

set_option autoImplicit false

/-!
# The invariant of the controller

`Upkeep` says of every key in lower case that its entries are accounted for, that a worker at it
keeps to the agreement on its site, and that the site is settled unless somebody is still going to
look at the key. Every step of every part keeps this up (`Upkeep.step`, and `Upkeep.observe` for
the observer). What a site is still owed stands in a `Ledger`, which is not part of the state.
-/

namespace ServiceRecords.Concurrent

/-- What is still owed to the zones of keys. -/
structure Ledger where
  forgotten : Key → String → Prop
  unmarked : Key → String → Prop
  unannounced : Key → String → Prop

namespace Controller

/-- The key is on its way to a worker, or there are to be no more workers. -/
def IsAnnounced (controller : Controller) (key : Key) : Prop :=
  controller.queue.isShutDown = true ∨ key ∈ controller.channel ∨ key ∈ controller.queue.dirty

/-- A worker is reconciling the key. -/
def IsBusy (controller : Controller) (key : Key) : Prop :=
  ∃ worker rest, controller.workers worker = some ⟨key, .reconciling rest⟩

def site (controller : Controller) (ledger : Ledger) (key : Key) : Site where
  cached := controller.observer.cache.find? key
  stale := controller.observer.stale.zones key
  contents := controller.contents
  announced := controller.IsAnnounced key
  forgotten := ledger.forgotten key
  unmarked := ledger.unmarked key
  unannounced := ledger.unannounced key

/-- All keys that go round are in lower case. -/
structure Circulates (controller : Controller) : Prop where
  cached : controller.observer.cache.IsWellFormed
  channel : ∀ key ∈ controller.channel, key.IsLower
  dirty : ∀ key ∈ controller.queue.dirty, key.IsLower
  delayed : ∀ key ∈ controller.delayed, key.IsLower
  workers : ∀ worker task, controller.workers worker = some task → task.key.IsLower

end Controller

/-- Every owned entry below the root is one of a key in lower case. -/
def IsPlaced (layout : Layout) (contents : Store.Contents) : Prop :=
  ∀ x value, contents[x]? = some value → layout.owns value = true →
    (∃ rest, layout.root ++ "/" ++ rest = x) →
      ∃ key zone, key.IsLower ∧ layout.Resides key zone x

/-- What a reconciliation of the key promises. -/
def Promises (layout : Layout) (key : Key) (result : Except ReconcileError Outcome) (site : Site) :
    Prop :=
  ∀ outcome, result = .ok outcome → site.Concluded layout key

structure Upkeep (layout : Layout) (failed : Key → Prop) (ledger : Ledger)
    (controller : Controller) : Prop where
  exclusive : controller.IsExclusive
  circulates : controller.Circulates
  placed : IsPlaced layout controller.contents
  coherent : ∀ key, key.IsLower → (controller.site ledger key).Coherent layout key
  honoured : ∀ worker key rest, controller.workers worker = some ⟨key, .reconciling rest⟩ →
    (Site.agreement layout key).Honours (Promises layout key) rest (controller.site ledger key)
  progress : ∀ key, key.IsLower → controller.IsAnnounced key ∨ controller.IsBusy key ∨
    failed key ∨ (controller.site ledger key).Settled layout key

namespace Upkeep

open Controller

variable {layout : Layout} {ceiling : RetryCeiling} {now : Nat} {action : Action}
  {failed failed' : Key → Prop} {ledger ledger' : Ledger} {controller after : Controller}
  {key : Key}

/-- As long as nobody is at work there are no promises to be kept. -/
theorem of_idle (idle : ∀ worker, controller.workers worker = none)
    (isOrderly : controller.queue.IsOrderly) (cached : controller.observer.cache.IsWellFormed)
    (channel : ∀ key ∈ controller.channel, key.IsLower)
    (dirty : ∀ key ∈ controller.queue.dirty, key.IsLower)
    (delayed : ∀ key ∈ controller.delayed, key.IsLower)
    (placed : IsPlaced layout controller.contents)
    (coherent : ∀ key, key.IsLower → (controller.site ledger key).Coherent layout key)
    (progress : ∀ key, key.IsLower → controller.IsAnnounced key ∨
      (controller.site ledger key).Settled layout key) :
    Upkeep layout failed ledger controller where
  exclusive := by
    refine ⟨isOrderly, ?_, ?_⟩
    · intro worker task found
      rw [idle] at found
      cases found
    · intro worker worker' task task' found
      rw [idle] at found
      cases found
  circulates := by
    refine ⟨cached, channel, dirty, delayed, ?_⟩
    intro worker task found
    rw [idle] at found
    cases found
  placed := placed
  coherent := coherent
  honoured := by
    intro worker key rest found
    rw [idle] at found
    cases found
  progress key lower := (progress key lower).imp_right fun settled => .inr (.inr settled)

/-- A change that everybody concerned allows for. -/
theorem transfer (upkeep : Upkeep layout failed ledger controller)
    (exclusive : after.IsExclusive) (circulates : after.Circulates)
    (placed : IsPlaced layout after.contents)
    (yields : ∀ key, key.IsLower →
      Site.Yields layout key (controller.site ledger key) (after.site ledger' key))
    (workers : ∀ worker key rest, after.workers worker = some ⟨key, .reconciling rest⟩ →
      controller.workers worker = some ⟨key, .reconciling rest⟩)
    (busy : ∀ key, controller.IsBusy key → after.IsBusy key) :
    Upkeep layout failed ledger' after where
  exclusive := exclusive
  circulates := circulates
  placed := placed
  coherent key lower := (yields key lower).coherent
  honoured := by
    intro worker key rest found
    have lower := circulates.workers worker _ found
    exact (upkeep.honoured worker key rest (workers worker key rest found)).yields
      (yields key lower)
  progress := by
    intro key lower
    rcases upkeep.progress key lower with announced | working | failed | settled
    · exact .inl ((yields key lower).announced announced)
    · exact .inr (.inl (busy key working))
    · exact .inr (.inr (.inl failed))
    -- A settled site may be spoilt by a change that the key is given notice of.
    · by_cases announced : after.IsAnnounced key
      · exact .inl announced
      · exact .inr (.inr (.inr (settled.yields (yields key lower) announced)))

/-- A step of a worker: everybody at another key has to allow for it. -/
theorem transfer_except (upkeep : Upkeep layout failed ledger controller) (key : Key)
    (exclusive : after.IsExclusive) (circulates : after.Circulates)
    (placed : IsPlaced layout after.contents)
    (yields : ∀ other, other.IsLower → other ≠ key →
      Site.Yields layout other (controller.site ledger other) (after.site ledger other))
    (workers : ∀ worker other rest, other ≠ key →
      (after.workers worker = some ⟨other, .reconciling rest⟩ ↔
        controller.workers worker = some ⟨other, .reconciling rest⟩))
    (weaker : ∀ other, other ≠ key → failed other → failed' other)
    (coherent : key.IsLower → (after.site ledger key).Coherent layout key)
    (honoured : ∀ worker rest, after.workers worker = some ⟨key, .reconciling rest⟩ →
      (Site.agreement layout key).Honours (Promises layout key) rest (after.site ledger key))
    (progress : key.IsLower → after.IsAnnounced key ∨ after.IsBusy key ∨
      failed' key ∨ (after.site ledger key).Settled layout key) :
    Upkeep layout failed' ledger after where
  exclusive := exclusive
  circulates := circulates
  placed := placed
  coherent := by
    intro other lower
    by_cases own : other = key
    · subst own
      exact coherent lower
    · exact (yields other lower own).coherent
  honoured := by
    intro worker other rest found
    by_cases own : other = key
    · subst own
      exact honoured worker rest found
    · have lower := circulates.workers worker _ found
      exact (upkeep.honoured worker other rest ((workers worker other rest own).mp found)).yields
        (yields other lower own)
  progress := by
    intro other lower
    by_cases own : other = key
    · subst own
      exact progress lower
    · rcases upkeep.progress other lower with announced | ⟨worker, rest, found⟩ | failed | settled
      · exact .inl ((yields other lower own).announced announced)
      · exact .inr (.inl ⟨worker, rest, (workers worker other rest own).mpr found⟩)
      · exact .inr (.inr (.inl (weaker other own failed)))
      · by_cases announced : after.IsAnnounced other
        · exact .inl announced
        · exact .inr (.inr (.inr (settled.yields (yields other lower own) announced)))

theorem mono (upkeep : Upkeep layout failed ledger controller)
    (weaker : ∀ key, failed key → failed' key) : Upkeep layout failed' ledger controller where
  exclusive := upkeep.exclusive
  circulates := upkeep.circulates
  placed := upkeep.placed
  coherent := upkeep.coherent
  honoured := upkeep.honoured
  progress key lower :=
    (upkeep.progress key lower).imp_right fun rest => rest.imp_right fun rest =>
      rest.imp_left (weaker key)

/-- Another ledger that is as good for every site. -/
theorem reckon (upkeep : Upkeep layout failed ledger controller)
    (yields : ∀ key, key.IsLower →
      Site.Yields layout key (controller.site ledger key) (controller.site ledger' key)) :
    Upkeep layout failed ledger' controller :=
  upkeep.transfer upkeep.exclusive upkeep.circulates upkeep.placed yields
    (fun _ _ _ found => found) fun _ busy => busy

/-- Neither the cache nor the store has changed, and no notice has been lost. -/
theorem relay (upkeep : Upkeep layout failed ledger controller) (exclusive : after.IsExclusive)
    (circulates : after.Circulates) (observer : after.observer = controller.observer)
    (contents : after.contents = controller.contents)
    (announced : ∀ key, controller.IsAnnounced key → after.IsAnnounced key)
    (workers : ∀ worker key rest, after.workers worker = some ⟨key, .reconciling rest⟩ ↔
      controller.workers worker = some ⟨key, .reconciling rest⟩) :
    Upkeep layout failed ledger after := by
  refine upkeep.transfer exclusive circulates (contents ▸ upkeep.placed) ?_
    (fun worker key rest => (workers worker key rest).mp) ?_
  · intro key lower
    refine (upkeep.coherent key lower).yields ?_ ?_ ?_ (announced key) ?_ rfl rfl rfl
    · change ∀ service, after.observer.cache.find? key = _ → _
      rw [observer]
      exact (upkeep.coherent key lower).own_key
    · intro zone
      simp only [Site.Remembers, site, observer]
      exact id
    · intro zone x _
      simp only [site, contents]
    · intro _
      simp only [site, observer]
  · rintro key ⟨worker, rest, found⟩
    exact ⟨worker, rest, (workers worker key rest).mpr found⟩

end Upkeep

namespace Controller

variable {layout : Layout} {ceiling : RetryCeiling} {now : Nat} {ledger : Ledger}
  {controller after : Controller} {key : Key}

theorem isAnnounced_enqueue (now : Nat) (other : Key) (announced : controller.IsAnnounced key) :
    (controller.enqueue now other).IsAnnounced key := by
  rcases announced with stopped | noticed | dirty
  · exact .inl (by simpa [enqueue] using stopped)
  · exact .inr (.inl noticed)
  · exact .inr (.inr (WorkQueue.mem_dirty_add.mpr (.inl dirty)))

theorem isAnnounced_enqueue_self (now : Nat) (controller : Controller) (key : Key) :
    (controller.enqueue now key).IsAnnounced key := by
  cases stopped : controller.queue.isShutDown with
  | true => exact .inl (by simpa [enqueue] using stopped)
  | false => exact .inr (.inr (WorkQueue.mem_dirty_add.mpr (.inr ⟨rfl, stopped⟩)))

theorem Circulates.enqueue (circulates : controller.Circulates) (now : Nat)
    (lower : key.IsLower) : (controller.enqueue now key).Circulates where
  cached := circulates.cached
  channel := circulates.channel
  delayed := circulates.delayed
  workers := circulates.workers
  dirty := by
    intro other dirty
    rcases WorkQueue.mem_dirty_add.mp dirty with dirty | ⟨rfl, -⟩
    · exact circulates.dirty other dirty
    · exact lower

theorem Circulates.assign (circulates : controller.Circulates) {worker : Nat}
    {previous task : Worker} (had : controller.workers worker = some previous)
    (same : task.key = previous.key) : (controller.assign worker (some task)).Circulates where
  cached := circulates.cached
  channel := circulates.channel
  dirty := circulates.dirty
  delayed := circulates.delayed
  workers := by
    intro other found assigned
    obtain ⟨earlier, had_earlier, earlier_same⟩ := exists_of_assign task had same assigned
    rw [← earlier_same]
    exact circulates.workers other earlier had_earlier

theorem Circulates.dismiss (circulates : controller.Circulates) (worker : Nat) :
    (controller.assign worker none).Circulates where
  cached := circulates.cached
  channel := circulates.channel
  dirty := circulates.dirty
  delayed := circulates.delayed
  workers other found assigned := circulates.workers other found (exists_of_dismiss assigned).2

/-- A change of the task at one key is no change at another key. -/
theorem workers_assign_of_ne (key : Key) {worker other : Nat} {task : Option Worker}
    {different : Key} {rest : Procedure (Except ReconcileError Outcome)}
    (before : ∀ found, controller.workers worker = some found → found.key = key)
    (now : ∀ found, task = some found → found.key = key) (apart : different ≠ key) :
    (controller.assign worker task).workers other = some ⟨different, .reconciling rest⟩ ↔
      controller.workers other = some ⟨different, .reconciling rest⟩ := by
  by_cases own : other = worker
  · subst own
    simp only [assign, Function.update_self]
    exact ⟨fun found => absurd (now _ found) apart, fun found => absurd (before _ found) apart⟩
  · simp only [assign, Function.update_of_ne own]

/-- The task of a worker that is not reconciling hides no reconciliation when it changes. -/
theorem reconciling_assign {worker other : Nat} {task : Option Worker}
    {rest : Procedure (Except ReconcileError Outcome)}
    (before : ∀ key rest, controller.workers worker ≠ some ⟨key, .reconciling rest⟩)
    (now : ∀ key rest, task ≠ some ⟨key, .reconciling rest⟩) :
    (controller.assign worker task).workers other = some ⟨key, .reconciling rest⟩ ↔
      controller.workers other = some ⟨key, .reconciling rest⟩ := by
  by_cases own : other = worker
  · subst own
    simp only [assign, Function.update_self]
    exact ⟨fun found => absurd found (now key rest), fun found => absurd found (before key rest)⟩
  · simp only [assign, Function.update_of_ne own]

end Controller

end ServiceRecords.Concurrent
