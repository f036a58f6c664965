import ServiceRecords.Proofs.Concurrent.Controller
import ServiceRecords.Proofs.Reconcile.Terms

set_option autoImplicit false

/-!
# Workers and sweeps that abide by fixed terms

If reconciliations and sweeps keep to their terms, and the controller's answers are as the terms
say, then every worker and every sweep abides by the terms all the time (`Abides.step`), and none
of them is ever about to make a request that is not permitted (`Abides.permits`). Apart from events,
only these requests change what is observed or stored (`Acts.shared`).
-/

namespace ServiceRecords.Concurrent.Controller

variable {layout : Layout} {ceiling : RetryCeiling} {now : Nat} {action : Action}
  {controller after : Controller} {working sweeping : Terms} {r : Request}

/-- What a worker is about to ask for. -/
def workerAsks? (controller : Controller) (worker : Nat) : Option Request :=
  match controller.workers worker with
  | some ⟨_, .reconciling (.ask r _)⟩ => some r
  | _ => none

def sweeperAsks? (controller : Controller) (sweeper : Nat) : Option Request :=
  match controller.sweepers sweeper with
  | some (.ask r _) => some r
  | _ => none

/-- Somebody is about to make the request. -/
def Asks (controller : Controller) (r : Request) : Prop :=
  (∃ worker, controller.workerAsks? worker = some r) ∨
    ∃ sweeper, controller.sweeperAsks? sweeper = some r

theorem exists_of_workerAsks? {worker : Nat} (asks : controller.workerAsks? worker = some r) :
    ∃ key resume, controller.workers worker = some ⟨key, .reconciling (.ask r resume)⟩ := by
  unfold workerAsks? at asks
  split at asks
  · rename_i found
    cases asks
    exact ⟨_, _, found⟩
  · cases asks

theorem exists_of_sweeperAsks? {sweeper : Nat} (asks : controller.sweeperAsks? sweeper = some r) :
    ∃ resume, controller.sweepers sweeper = some (.ask r resume) := by
  unfold sweeperAsks? at asks
  split at asks
  · rename_i found
    cases asks
    exact ⟨_, found⟩
  · cases asks

/-- Every worker and every sweep keeps to its terms. -/
structure Abides (working sweeping : Terms) (controller : Controller) : Prop where
  worker : ∀ worker key rest, controller.workers worker = some ⟨key, .reconciling rest⟩ →
    working.agreement.Honours (fun _ _ => True) rest ()
  sweeper : ∀ sweeper rest, controller.sweepers sweeper = some rest →
    sweeping.agreement.Honours (fun _ _ => True) rest ()

theorem Abides.permits (abides : controller.Abides working sweeping) (asks : controller.Asks r) :
    working.permits r ∨ sweeping.permits r := by
  rcases asks with ⟨worker, asks⟩ | ⟨sweeper, asks⟩
  · obtain ⟨key, resume, found⟩ := exists_of_workerAsks? asks
    exact .inl (abides.worker worker key _ found () trivial).1
  · obtain ⟨resume, found⟩ := exists_of_sweeperAsks? asks
    exact .inr (abides.sweeper sweeper _ found () trivial).1

theorem Abides.step (abides : controller.Abides working sweeping)
    (acts : controller.Acts layout ceiling now action after)
    (reconciles : ∀ key, working.agreement.Achieves (fun _ => True) (reconcile layout key)
      fun _ _ => True)
    (sweeps : sweeping.agreement.Achieves (fun _ => True) (sweep layout) fun _ _ => True)
    (tells : ∀ r response, working.tells r (answer now response r controller).1)
    (shows : ∀ sweeper r response, controller.sweeperAsks? sweeper = some r →
      sweeping.tells r (answer now response r controller).1) :
    after.Abides working sweeping := by
  refine ⟨?_, ?_⟩
  · intro worker key rest found
    rcases acts.reconciling found with had | rfl | ⟨r, resume, response, asks, -, -, rfl⟩
    · exact abides.worker worker key rest had
    · exact ((reconciles key).honours () trivial).mono fun _ _ _ => trivial
    · exact (abides.worker worker key _ asks () trivial).2 _ () (tells r response)
  · intro sweeper rest found
    rcases acts.sweepers found with had | rfl | ⟨r, resume, response, asks, -, -, rfl⟩
    · exact abides.sweeper sweeper rest had
    · exact (sweeps.honours () trivial).mono fun _ _ _ => trivial
    · have asked : controller.sweeperAsks? sweeper = some r := by simp [sweeperAsks?, asks]
      exact (abides.sweeper sweeper _ asks () trivial).2 _ () (shows sweeper r response asked)

/-- Nothing but the action to begin it makes a sweep begin. -/
theorem Acts.begins (acts : controller.Acts layout ceiling now action after) {sweeper : Nat}
    {rest : Procedure (Except StoreError Nat)} (found : after.sweepers sweeper = some rest)
    (idle : controller.sweepers sweeper = none) : action = .startSweep sweeper := by
  have same : ∀ {before : Controller}, before.sweepers = controller.sweepers →
      before.sweepers sweeper ≠ some rest := by
    intro before same
    rw [same, idle]
    nofun
  have others : ∀ {before : Controller} {other : Nat}
      {task : Option (Procedure (Except StoreError Nat))},
      before.sweepers = controller.sweepers →
      (before.conduct other task).sweepers sweeper = some rest → sweeper = other := by
    intro before other task unchanged found
    by_contra different
    simp only [conduct, Function.update_of_ne different, unchanged, idle] at found
    cases found
  -- A sweeper gets its task where a sweep begins; it goes on only with a task that it had.
  cases acts with
  | startSweep free => rw [others rfl found]
  | serveSweep asks response =>
    obtain rfl := others (sweepers_answer ..) found
    rw [idle] at asks
    cases asks
  | finishSweep ends =>
    obtain rfl := others rfl found
    rw [idle] at ends
    cases ends
  | serve asks response => exact absurd found (same (sweepers_answer ..))
  | settle decided delay => exact absurd found (same (sweepers_settle ..))
  | _ => exact absurd found (same rfl)

/-- What is observed and stored changes with an event or with a request. -/
theorem Acts.shared (acts : controller.Acts layout ceiling now action after)
    (unobserved : ∀ event, action ≠ .observe event) :
    after.observer = controller.observer ∧ after.contents = controller.contents ∨
      ∃ r response, controller.Asks r ∧
        after.observer = (answer now response r controller).2.observer ∧
        after.contents = (answer now response r controller).2.contents := by
  cases acts with
  | observe event => exact absurd rfl (unobserved event)
  | @serve worker key r resume asks response =>
    exact .inr ⟨r, response, .inl ⟨worker, by simp [workerAsks?, asks]⟩, rfl, rfl⟩
  | @serveSweep sweeper r resume asks response =>
    exact .inr ⟨r, response, .inr ⟨sweeper, by simp [sweeperAsks?, asks]⟩, rfl, rfl⟩
  | settle decided delay => exact .inl ⟨observer_settle .., contents_settle ..⟩
  | _ => exact .inl ⟨rfl, rfl⟩

end ServiceRecords.Concurrent.Controller
