import ServiceRecords.Proofs.Concurrent.Restart
import ServiceRecords.Proofs.Reconcile.Attempts
import ServiceRecords.Proofs.Simulation.Readiness

set_option autoImplicit false

/-!
# Sweepers as parts of a controller

A sweeper that sees the observer of a controller says when its sweeps begin (`Paces`). Whatever the
other parts do, none of these sweeps begins before a list was complete (`awaitsList_of_paces`), so
that a controller with such a sweeper starts anew without a write (`isIdle_of_paces`). A sweep in
one go comes to one whose requests are served step by step, and therefore anything that happens to
a sweeper is a run of a controller that it paces (`exists_run_of_reached`).
-/

namespace ServiceRecords.Concurrent

open Controller

open Simulation (Sweeper)

variable {layout : Layout} {ceiling : RetryCeiling} {period now : Nat}
  {start controller : Controller} {history : List Occasion} {stage : Simulation.Stage}
  {sweeper after : Sweeper}

/-- The stage of a sweeper that sees the observer of the controller and begins its sweeps. A sweep
begins where the sweeper is running once it has looked; it can be told to end at any time. -/
inductive Paces (layout : Layout) (period : Nat) : List Occasion → Simulation.Stage → Prop where
  | start : Paces layout period [] .idle
  | act {history : List Occasion} {stage : Simulation.Stage} {occasion : Occasion}
      (paces : Paces layout period history stage)
      (unswept : ∀ number, occasion.action ≠ .startSweep number) :
      Paces layout period (occasion :: history) stage
  | sweep {history : List Occasion} {occasion : Occasion} {sweeper : Sweeper}
      {number : Nat} (paces : Paces layout period history sweeper.stage)
      (begins : occasion.action = .startSweep number)
      (sees : sweeper.surroundings.observer = occasion.before.observer)
      (runs : ((Sweeper.behaviour layout period).settle occasion.now sweeper).1.stage =
        .running) : Paces layout period (occasion :: history) .running
  | stop {history : List Occasion} {stage : Simulation.Stage}
      (paces : Paces layout period history stage) : Paces layout period history .stopped

/-- An observer that is ready stays ready. -/
theorem Controller.Acts.isReady {after : Controller} {action : Action}
    (acts : controller.Acts layout ceiling now action after)
    (ready : controller.observer.isReady = true) : after.observer.isReady = true := by
  by_cases observes : ∃ event, action = .observe event
  · obtain ⟨event, rfl⟩ := observes
    cases acts
    exact Observer.isReady_apply ready event
  · rcases acts.shared (not_exists.mp observes) with ⟨same, -⟩ | ⟨r, response, -, same, -⟩
    · rw [same]
      exact ready
    · rw [same]
      cases r <;> exact ready

theorem awaitsList_of_paces (run : Run layout ceiling start history controller)
    (paces : Paces layout period history stage) :
    (∀ occasion ∈ history, occasion.AwaitsList) ∧
      (stage = .running → controller.observer.isReady = true) := by
  induction paces generalizing controller with
  | start => exact ⟨List.forall_mem_nil _, nofun⟩
  | @act history stage occasion paces unswept ih =>
    cases run with
    | @step _ before _ now action run acted =>
      obtain ⟨awaiting, gated⟩ := ih run
      refine ⟨List.forall_mem_cons.mpr ⟨?_, awaiting⟩, ?_⟩
      · cases action with
        | startSweep number => exact absurd rfl (unswept number)
        | _ => trivial
      · intro running
        exact (acts_of_act? acted).isReady (gated running)
  | @sweep history occasion sweeper number paces begins sees runs ih =>
    cases run with
    | @step _ before _ now action run acted =>
      obtain ⟨awaiting, gated⟩ := ih run
      have ready : before.observer.isReady = true := by
        rcases Sweeper.running_or_ready runs with running | ready
        · exact gated running
        · rw [← sees]
          exact ready
      cases begins
      refine ⟨List.forall_mem_cons.mpr ⟨ready, awaiting⟩, ?_⟩
      intro _
      exact (acts_of_act? acted).isReady ready
  | stop paces ih => exact ⟨(ih run).1, nofun⟩

theorem isIdle_of_paces {services : List Service} {contents : Store.Contents}
    (inventory : layout.IsInventory services contents)
    (run : Run layout ceiling { contents } history controller) (relists : Relists services history)
    (paces : Paces layout period history stage) : controller.IsIdle contents := by
  obtain ⟨awaiting, -⟩ := awaitsList_of_paces run paces
  have restarted := isRestarted_of_run inventory run relists awaiting
  exact restarted.isIdle

namespace Controller

/-- The controller knows and stores what the surroundings do, and the keys that were asked for have
been added to the queue. -/
structure Reflects (controller : Controller) (queue : WorkQueue Key) (now : Nat)
    (surroundings : Surroundings) : Prop where
  observer : controller.observer = surroundings.observer
  contents : controller.contents = surroundings.memory.contents
  queue : controller.queue =
    surroundings.requested.foldr (fun key queue => queue.add now key) queue

variable {queue : WorkQueue Key} {before surroundings : Surroundings}

/-- However a write ends, there is a response to it. -/
theorem Reflects.write {call : Store.Call} {reply : Except StoreError Unit}
    (reflects : controller.Reflects queue now before)
    (called : Surroundings.Calls call before (reply = .ok ()) surroundings) :
    ∃ response, (controller.write response call).1 = reply ∧
      (controller.write response call).2.Reflects queue now surroundings := by
  have known : controller.observer = surroundings.observer :=
    reflects.observer.trans called.observer.symm
  have queued : controller.queue =
      surroundings.requested.foldr (fun key queue => queue.add now key) queue := by
    rw [called.requested]
    exact reflects.queue
  rcases called.contents with applied | ⟨failed, same⟩
  · rw [← reflects.contents] at applied
    cases reply with
    | ok => exact ⟨.succeeds, rfl, known, applied.symm, queued⟩
    | error error => exact ⟨.fails error true, rfl, known, applied.symm, queued⟩
  · rw [← reflects.contents] at same
    cases reply with
    | ok => exact absurd rfl failed
    | error error => exact ⟨.fails error false, rfl, known, same.symm, queued⟩

/-- Whatever a request is answered with, there is a response that answers it so. -/
theorem Reflects.answer {r : Request} {reply : r.Reply}
    (reflects : controller.Reflects queue now before)
    (served : Surroundings.Serves r before reply surroundings) :
    ∃ response, (answer now response r controller).1 = reply ∧
      (answer now response r controller).2.Reflects queue now surroundings := by
  obtain ⟨observer, contents, queued⟩ := reflects
  cases r with
  | readService key =>
    obtain ⟨rfl, rfl⟩ := served
    exact ⟨.succeeds, by rw [← observer]; rfl, observer, contents, queued⟩
  | readStale key =>
    obtain ⟨rfl, rfl⟩ := served
    exact ⟨.succeeds, by rw [← observer]; rfl, observer, contents, queued⟩
  | clearStale key zones =>
    obtain rfl : surroundings = _ := served
    refine ⟨.succeeds, rfl, ?_, contents, queued⟩
    simp [Controller.answer, updateStale, Surroundings.updateStale, observer]
  | markStale key zone =>
    obtain rfl : surroundings = _ := served
    refine ⟨.succeeds, rfl, ?_, contents, queued⟩
    simp [Controller.answer, updateStale, Surroundings.updateStale, observer]
  | enqueue key =>
    obtain rfl : surroundings = _ := served
    exact ⟨.succeeds, rfl, observer, contents, by simp [Controller.answer, enqueue, queued]⟩
  | list start =>
    obtain ⟨called, listed⟩ := served
    have same : controller.contents = surroundings.memory.contents := by
      rcases called.contents with applied | ⟨never, -⟩
      · exact contents.trans applied.symm
      · exact absurd trivial never
    have known := observer.trans called.observer.symm
    rw [← called.requested] at queued
    cases reply with
    | ok entries =>
      refine ⟨.succeeds, ?_, known, same, queued⟩
      rw [listed entries rfl, ← contents]
      rfl
    | error error => exact ⟨.fails error false, rfl, known, same, queued⟩
  | put x value => exact Reflects.write ⟨observer, contents, queued⟩ served
  | delete x => exact Reflects.write ⟨observer, contents, queued⟩ served

theorem sweepers_conduct_self (controller : Controller) (number : Nat)
    (rest : Option (Procedure (Except StoreError Nat))) :
    (controller.conduct number rest).sweepers number = rest :=
  Function.update_self ..

/-- The sweeper works in the surroundings and with the queue of the controller, and the first of
its sweeps may begin. -/
structure Hosts (controller : Controller) (sweeper : Sweeper) : Prop where
  observer : controller.observer = sweeper.surroundings.observer
  contents : controller.contents = sweeper.surroundings.memory.contents
  queue : controller.queue = sweeper.queue
  unrequested : sweeper.surroundings.requested = []
  free : controller.sweepers 0 = none

theorem Hosts.congr (hosts : controller.Hosts sweeper)
    (surroundings : after.surroundings = sweeper.surroundings)
    (queue : after.queue = sweeper.queue) : controller.Hosts after := by
  obtain ⟨observer, contents, queued, unrequested, free⟩ := hosts
  rw [← surroundings] at observer contents unrequested
  rw [← queue] at queued
  exact ⟨observer, contents, queued, unrequested, free⟩

end Controller

/-- The requests of a sweep are served one after another. -/
theorem exists_run_of_procedure {queue : WorkQueue Key} {surroundings : Surroundings}
    {procedure : Procedure (Except StoreError Nat)}
    (run : Run layout ceiling start history controller) (paces : Paces layout period history stage)
    (conducts : controller.sweepers 0 = some procedure)
    (reflects : controller.Reflects queue now surroundings) :
    ∃ history controller, Run layout ceiling start history controller ∧
      Paces layout period history stage ∧
      controller.sweepers 0 = some (.done (procedure.run Surroundings.answer surroundings).1) ∧
      controller.Reflects queue now (procedure.run Surroundings.answer surroundings).2 := by
  induction procedure generalizing history controller surroundings with
  | done result => exact ⟨history, controller, run, paces, conducts, reflects⟩
  | ask r resume ih =>
    obtain ⟨response, replied, reflects⟩ :=
      reflects.answer (Surroundings.serves_answer r surroundings)
    have acted : controller.act? layout ceiling now (.serveSweep 0 response) =
        some ((answer now response r controller).2.conduct 0
          (some (resume (answer now response r controller).1))) := by
      simp [act?, conducts]
    rw [replied] at acted
    exact ih _ (run.step acted) (paces.act (by simp)) (sweepers_conduct_self ..)
      ⟨reflects.observer, reflects.contents, reflects.queue⟩

/-- A sweep in one go is a sweep from its beginning to its end. -/
theorem exists_run_of_sweep (run : Run layout ceiling start history controller)
    (paces : Paces layout period history sweeper.stage) (hosts : controller.Hosts sweeper)
    (runs : ((Sweeper.behaviour layout period).settle now sweeper).1.stage = .running) :
    ∃ history controller, Run layout ceiling start history controller ∧
      Paces layout period history .running ∧ controller.Hosts (sweeper.sweep layout now) := by
  obtain ⟨observer, contents, queue, unrequested, free⟩ := hosts
  have begins : controller.act? layout ceiling now (.startSweep 0) =
      some (controller.conduct 0 (some (ServiceRecords.sweep layout).run)) := by
    simp [act?, free]
  have reflects : (controller.conduct 0 (some (ServiceRecords.sweep layout).run)).Reflects
      sweeper.queue now sweeper.surroundings := by
    refine ⟨observer, contents, ?_⟩
    rw [unrequested]
    exact queue
  obtain ⟨history, swept, run, paces, conducts, reflects⟩ :=
    exists_run_of_procedure (run.step begins) (paces.sweep rfl observer.symm runs)
      (sweepers_conduct_self ..) reflects
  have ends : swept.act? layout ceiling now (.finishSweep 0) = some (swept.conduct 0 none) := by
    simp [act?, conducts]
  refine ⟨_, _, run.step ends, paces.act (by simp), reflects.observer, reflects.contents, ?_, rfl,
    sweepers_conduct_self ..⟩
  simp only [Sweeper.sweep, Surroundings.takeRequested, List.foldl_reverse]
  exact reflects.queue

/-- What happens to a sweeper happens to the controller, unless somebody else writes. -/
theorem exists_run_of_happens (run : Run layout ceiling start history controller)
    (paces : Paces layout period history sweeper.stage) (hosts : controller.Hosts sweeper)
    (happens : Sweeper.Happens layout period sweeper after)
    (unwritten : after.surroundings.memory.contents = sweeper.surroundings.memory.contents) :
    ∃ history controller, Run layout ceiling start history controller ∧
      Paces layout period history after.stage ∧ controller.Hosts after := by
  cases happens with
  | occur event now =>
    by_cases running : sweeper.stage = .running
    · have runs : ((Sweeper.behaviour layout period).settle now sweeper).1.stage =
          .running := by
        simp [Sweeper.behaviour, running]
      have sweeps : ((Sweeper.behaviour layout period).occur event now sweeper).1 =
          sweeper.sweep layout now := by
        simp [Sweeper.behaviour, running]
      have same : (sweeper.sweep layout now).stage = .running := running
      rw [sweeps, same]
      exact exists_run_of_sweep run paces hosts runs
    · have rests : ((Sweeper.behaviour layout period).occur event now sweeper).1 =
          sweeper := by
        simp [Sweeper.behaviour, running]
      rw [rests]
      exact ⟨history, controller, run, paces, hosts⟩
  | settle now =>
    rcases Sweeper.settle_cases layout period now sweeper with same | stopped | ⟨-, sweeps⟩
    · rw [same]
      exact ⟨history, controller, run, paces, hosts⟩
    · rw [stopped]
      exact ⟨history, controller, run, paces.stop, hosts.congr rfl rfl⟩
    · have runs : ((Sweeper.behaviour layout period).settle now sweeper).1.stage =
          .running := by
        rw [sweeps]
        rfl
      obtain ⟨history, controller, run, paces, hosts⟩ := exists_run_of_sweep run paces hosts runs
      rw [sweeps]
      exact ⟨history, controller, run, paces, hosts.congr rfl rfl⟩
  | inform event informed =>
    unfold Sweeper.inform? at informed
    split at informed
    · cases informed
      exact ⟨history, controller, run, paces, hosts⟩
    · split at informed
      · rename_i observer applied
        cases informed
        have acted : controller.act? layout ceiling 0 (.observe event) =
            some (controller.observe event) := rfl
        refine ⟨_, _, run.step acted, paces.act (by simp), ?_, hosts.contents, hosts.queue,
          hosts.unrequested, hosts.free⟩
        simp [Controller.observe, hosts.observer, applied]
      · cases informed
  | updateMemory change =>
    exact ⟨history, controller, run, paces, hosts.observer, hosts.contents.trans unwritten.symm,
      hosts.queue, hosts.unrequested, hosts.free⟩
  | loseInformation => exact ⟨history, controller, run, paces, hosts.congr rfl rfl⟩
  | cancel => exact ⟨history, controller, run, paces.stop, hosts.congr rfl rfl⟩

/-- All that can happen to a sweeper while nobody else writes to the store is a run of a controller
that it paces, so that its sweeps wait for the list. -/
theorem exists_run_of_reached {contents : Store.Contents}
    (reached : Relation.ReflTransGen (fun before after =>
      Sweeper.Happens layout period before after ∧
        after.surroundings.memory.contents = before.surroundings.memory.contents)
      { surroundings := { memory := { contents } } } sweeper) :
    ∃ history controller, Run layout ceiling { contents } history controller ∧
      Paces layout period history sweeper.stage ∧ controller.Hosts sweeper ∧
      ∀ occasion ∈ history, occasion.AwaitsList := by
  have paced : ∃ history controller, Run layout ceiling { contents } history controller ∧
      Paces layout period history sweeper.stage ∧ controller.Hosts sweeper := by
    induction reached with
    | refl => exact ⟨[], { contents }, .start, .start, rfl, rfl, rfl, rfl, rfl⟩
    | tail _ happens ih =>
      obtain ⟨history, controller, run, paces, hosts⟩ := ih
      exact exists_run_of_happens run paces hosts happens.1 happens.2
  obtain ⟨history, controller, run, paces, hosts⟩ := paced
  exact ⟨history, controller, run, paces, hosts, (awaitsList_of_paces run paces).1⟩

end ServiceRecords.Concurrent
