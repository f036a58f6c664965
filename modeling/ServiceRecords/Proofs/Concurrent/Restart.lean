import ServiceRecords.Proofs.Concurrent.Abidance
import ServiceRecords.Proofs.Reconcile.Inventory
import ServiceRecords.Proofs.Watch.Relisting

set_option autoImplicit false

/-!
# Starting anew

A controller that has forgotten everything meets a store that holds just what the services ask
for. While it is told of the services by lists, complete or not, and sweeps only once a list was
complete, it has no reason to write: whatever fails, and however its parts take turns, no worker
and no sweep is ever about to change the store (`isIdle_of_run`).
-/

namespace ServiceRecords.Concurrent

open Controller

variable {layout : Layout} {ceiling : RetryCeiling} {now : Nat} {action : Action}
  {services : List Service} {contents : Store.Contents} {controller after : Controller}
  {history : List Occasion}

/-- What the list in progress has shown, if there is one. -/
def shownSoFar? : List Occasion → Option (List Service)
  | [] => none
  | occasion :: earlier =>
    match occasion.action.event? with
    | some event => event.shown (shownSoFar? earlier)
    | none => shownSoFar? earlier

/-- The watch has done nothing but list the services. -/
def Relists (services : List Service) : List Occasion → Prop
  | [] => True
  | occasion :: earlier =>
    (∀ event ∈ occasion.action.event?, event.Relists services (shownSoFar? earlier)) ∧
      Relists services earlier

instance (services : List Service) : (history : List Occasion) →
    Decidable (Relists services history)
  | [] => .isTrue trivial
  | occasion :: earlier =>
    have := instDecidableRelists services earlier
    inferInstanceAs (Decidable ((∀ event ∈ occasion.action.event?,
      event.Relists services (shownSoFar? earlier)) ∧ Relists services earlier))

/-- A sweep begins only after a list was complete, as those of a sweeper do
(`awaitsList_of_paces`). -/
def Occasion.AwaitsList (occasion : Occasion) : Prop :=
  match occasion.action with
  | .startSweep _ => occasion.before.observer.isReady = true
  | _ => True

instance (occasion : Occasion) : Decidable occasion.AwaitsList := by
  unfold Occasion.AwaitsList
  split <;> infer_instance

/-- Nothing has been written, and nobody is about to write. -/
structure Controller.IsIdle (contents : Store.Contents) (controller : Controller) : Prop where
  unchanged : controller.contents = contents
  asks : ∀ r, controller.Asks r → Caution.writes r = false

/-- All there is to know about a controller that has started anew. -/
structure IsRestarted (services : List Service) (contents : Store.Contents)
    (history : List Occasion) (controller : Controller) : Prop where
  relists : controller.observer.Relists services (shownSoFar? history)
  unchanged : controller.contents = contents
  abides : controller.Abides (Layout.IsInventory.terms services contents False)
    (Layout.IsInventory.terms services contents True)
  awaits : ∀ sweeper rest, controller.sweepers sweeper = some rest →
    controller.observer.isReady = true

namespace IsRestarted

theorem start (services : List Service) (contents : Store.Contents) :
    IsRestarted services contents [] { contents } :=
  ⟨Observer.relists_start, rfl, ⟨nofun, nofun⟩, nofun⟩

theorem inquires (restarted : IsRestarted services contents history controller) {r : Request}
    (asks : controller.Asks r) : Layout.IsInventory.Inquires r :=
  (restarted.abides.permits asks).elim id id

theorem isIdle (restarted : IsRestarted services contents history controller) :
    controller.IsIdle contents := by
  refine ⟨restarted.unchanged, ?_⟩
  intro r asks
  have inquires := restarted.inquires asks
  cases r with
  | put x value => cases inquires
  | delete x => cases inquires
  | _ => rfl

theorem tells (restarted : IsRestarted services contents history controller) {complete : Prop}
    (ready : complete → controller.observer.isReady = true) (r : Request) (response : Response) :
    Layout.IsInventory.Tells services contents complete r
      (answer now response r controller).1 := by
  cases r with
  | readService key =>
    refine ⟨?_, ?_⟩
    · intro service found
      exact (restarted.relists.cached key service found).1
    · rintro holds service member rfl
      exact restarted.relists.complete (ready holds) service member
  | readStale key => exact restarted.relists.stale key
  | list start =>
    intro entries succeeded
    cases response with
    | succeeds =>
      cases succeeded
      rw [restarted.unchanged]
    | fails error takesEffect => cases succeeded
  | _ => trivial

/-- Requests that change nothing leave everything as it is. -/
theorem shared (restarted : IsRestarted services contents history controller)
    (acts : controller.Acts layout ceiling now action after)
    (unobserved : ∀ event, action ≠ .observe event) :
    after.observer = controller.observer ∧ after.contents = controller.contents := by
  rcases acts.shared unobserved with same | ⟨r, response, asks, observer, stored⟩
  · exact same
  · have inquires := restarted.inquires asks
    rw [observer, stored]
    cases r with
    | readService key => exact ⟨rfl, rfl⟩
    | readStale key => exact ⟨rfl, rfl⟩
    | list start => exact ⟨rfl, rfl⟩
    | _ => cases inquires

theorem step (restarted : IsRestarted services contents history controller)
    (inventory : layout.IsInventory services contents)
    (acts : controller.Acts layout ceiling now action after)
    (relists : ∀ event ∈ action.event?, event.Relists services (shownSoFar? history))
    (awaits : Occasion.AwaitsList ⟨controller, now, action⟩) :
    IsRestarted services contents (⟨controller, now, action⟩ :: history) after := by
  have abides := restarted.abides.step acts (fun key => inventory.achieves_reconcile key)
    inventory.achieves_sweep (fun r response => restarted.tells False.elim r response) ?_
  · by_cases observes : ∃ event, action = .observe event
    · obtain ⟨event, rfl⟩ := observes
      cases acts
      have proper : ∀ service ∈ services, service.IsProper := fun _ => inventory.isProper
      refine ⟨restarted.relists.apply proper inventory.distinct (relists event rfl),
        restarted.unchanged, abides, ?_⟩
      intro sweeper rest found
      exact Observer.isReady_apply (restarted.awaits sweeper rest found) event
    -- While nothing is observed, only requests are served that change nothing.
    · obtain ⟨observer, stored⟩ := restarted.shared acts (not_exists.mp observes)
      refine ⟨?_, stored.trans restarted.unchanged, abides, ?_⟩
      · have uneventful : action.event? = none := by
          cases action with
          | observe event => exact absurd ⟨event, rfl⟩ observes
          | _ => rfl
        rw [observer, shownSoFar?]
        simp only [uneventful]
        exact restarted.relists
      · intro sweeper rest found
        rw [observer]
        cases had : controller.sweepers sweeper with
        | some earlier => exact restarted.awaits sweeper earlier had
        | none =>
          obtain rfl := acts.begins found had
          exact awaits
  -- A sweep may count on all the services, as it has begun after a complete list.
  · intro sweeper r response asks
    obtain ⟨resume, found⟩ := exists_of_sweeperAsks? asks
    exact restarted.tells (fun _ => restarted.awaits sweeper _ found) r response

end IsRestarted

theorem isRestarted_of_run (inventory : layout.IsInventory services contents)
    (run : Run layout ceiling { contents } history controller) (relists : Relists services history)
    (awaiting : ∀ occasion ∈ history, occasion.AwaitsList) :
    IsRestarted services contents history controller := by
  induction run with
  | start => exact .start services contents
  | step run acted ih =>
    rw [List.forall_mem_cons] at awaiting
    exact (ih relists.2 awaiting.2).step inventory (acts_of_act? acted) relists.1 awaiting.1

theorem isIdle_of_run (inventory : layout.IsInventory services contents)
    (run : Run layout ceiling { contents } history controller) (relists : Relists services history)
    (awaiting : ∀ occasion ∈ history, occasion.AwaitsList) : controller.IsIdle contents := by
  have restarted := isRestarted_of_run inventory run relists awaiting
  exact restarted.isIdle

/-- The entry that the sample asks for. -/
def sampleEntry : Entry := ⟨"10.0.0.1", 9000, none, some .grpc, some "rpc-controller"⟩

theorem names_sample {x : String} {entry : Entry} :
    Layout.Names {} (sample "z1") x entry ↔ x = "/skydns/z1/svc/a/e" ∧ entry = sampleEntry := by
  have directory : Layout.directory {} (sample "z1").key (sample "z1").spec.zone =
      .ok "/skydns/z1/svc/a" := by
    decide +kernel
  have named : namedEntries "rpc-controller" (sample "z1").spec.ttl []
      (sample "z1").spec.endpoints = .ok [("e", sampleEntry)] := by
    decide +kernel
  have made := Layout.record_eq_ok.mpr ⟨_, _, directory, named, rfl⟩
  have place : Layout.entryKey "/skydns/z1/svc/a" "e" = "/skydns/z1/svc/a/e" := by decide +kernel
  simp only [List.map_cons, List.map_nil, place] at made
  constructor
  · rintro ⟨record, made', wanted⟩
    rw [made] at made'
    cases made'
    simpa using exists_mem_of_getElem?_ofList wanted
  · rintro ⟨rfl, rfl⟩
    exact ⟨_, made, by simp⟩

/-- The store with the entry of the sample and a foreign value beside it. -/
def sampleContents : Store.Contents :=
  ((∅ : Store.Contents).insert "/skydns/z1/svc/a/e" sampleEntry.text).insert
    "/skydns/z1/svc/a/f" "foreign"

theorem isInventory_sample : Layout.IsInventory {} [sample "z1"] sampleContents where
  named := by decide
  isLower := by decide +kernel
  alive := by decide
  distinct := by simp
  encodes := by
    rintro service (- | ⟨-, ⟨⟩⟩)
    obtain ⟨record, made, -⟩ := names_sample.mpr ⟨rfl, rfl⟩
    exact ⟨record, made⟩
  stored := by
    rintro service (- | ⟨-, ⟨⟩⟩) x entry names
    obtain ⟨rfl, rfl⟩ := names_sample.mp names
    exact ⟨sampleEntry.text, by decide +kernel, Entry.ofText?_text sampleEntry⟩
  owned := by
    intro x value found owned
    refine ⟨_, List.mem_singleton.mpr rfl, sampleEntry, names_sample.mpr ⟨?_, rfl⟩⟩
    simp only [sampleContents, Store.getElem?_insert] at found
    split at found
    · cases found
      exact absurd owned (by decide +kernel)
    · split at found
      · rename_i same
        exact same.symm
      · simp at found

/-- A list is cut off and begun anew, a call fails, and a sweep finds nothing. -/
theorem isIdle_of_run_sample :
    ∃ history controller, Layout.IsInventory {} [sample "z1"] sampleContents ∧
      Run {} .unbounded { contents := sampleContents } history controller ∧
      Relists [sample "z1"] history ∧ (∀ occasion ∈ history, occasion.AwaitsList) ∧
      controller.IsIdle sampleContents ∧
      controller.workerAsks? 0 = some (.list "/skydns/z1/svc/a/") := by
  have replayed : ∃ outcome ∈ replay? {} .unbounded [] { contents := sampleContents } (atOnce
        ([.observe .listStarted, .observe (.listed (sample "z1")), .observe .listStarted,
          .observe (.listed (sample "z1")), .observe .listComplete, .forward, .take 0,
          .serve 0 .succeeds, .serve 0 .succeeds,
          .serve 0 (.fails (.unavailable "list" "" "") false), .finish 0, .judge 0,
          .settle 0 fun _ => .ok ⟨0⟩, .release 0, .startSweep 0, .serveSweep 0 .succeeds,
          .serveSweep 0 .succeeds, .finishSweep 0, .take 0, .serve 0 .succeeds,
          .serve 0 .succeeds])),
      Relists [sample "z1"] outcome.1 ∧ (∀ occasion ∈ outcome.1, occasion.AwaitsList) ∧
        outcome.2.workerAsks? 0 = some (.list "/skydns/z1/svc/a/") := by
    decide +kernel
  obtain ⟨history, controller, run, relists, awaiting, asks⟩ := exists_run replayed
  exact ⟨history, controller, isInventory_sample, run, relists, awaiting,
    isIdle_of_run isInventory_sample run relists awaiting, asks⟩

end ServiceRecords.Concurrent
