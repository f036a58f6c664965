import ServiceRecords.Proofs.Concurrent.Surveys

set_option autoImplicit false

/-!
# The controller and its observer

Events keep the invariant of the controller up as long as the observer is attentive
(`Upkeep.observe`). There is one way in which the controller loses a zone: a worker clears the
mark that the list in progress has just given to it (`Occasion.Forgets`). `isAttended_of_run` is the
invariant of every run from an empty observer, with those zones as what has been forgotten.
-/

namespace ServiceRecords.Concurrent

open Controller

variable {layout : Layout} {ceiling : RetryCeiling} {now : Nat} {action : Action}
  {failed : Key → Prop} {ledger : Ledger} {forgotten forgotten' : Key → String → Prop}
  {start controller after : Controller} {history : List Occasion}

/-- A worker clears the mark of a zone that the list in progress is about to move the key from. -/
def Occasion.Forgets (occasion : Occasion) (key : Key) (zone : String) : Prop :=
  ∃ worker response holder zones resume, occasion.action = .serve worker response ∧
    occasion.before.workers worker =
      some ⟨holder, .reconciling (.ask (.clearStale key zones) resume)⟩ ∧
    zone ∈ zones ∧ occasion.before.observer.Leaves key zone

/-- The mark of the zone was cleared too early at some time. -/
def IsForgotten (history : List Occasion) (key : Key) (zone : String) : Prop :=
  ∃ occasion ∈ history, occasion.Forgets key zone

/-- An event that is observed is one that a watch gives. -/
def Occasion.Fits (occasion : Occasion) : Prop :=
  ∀ event ∈ occasion.action.event?, event.Fits occasion.before.observer

instance (occasion : Occasion) : Decidable occasion.Fits :=
  inferInstanceAs (Decidable (∀ event ∈ occasion.action.event?, _))

/-- All that is owed is what has been forgotten. -/
def Ledger.ofForgotten (forgotten : Key → String → Prop) : Ledger where
  forgotten := forgotten
  unmarked _ _ := False
  unannounced := forgotten

theorem remembers_iff {key : Key} {zone : String} :
    (controller.site ledger key).Remembers zone ↔
      controller.observer.Keeps key zone ∨ ledger.forgotten key zone := by
  simp only [Site.Remembers, Observer.Keeps, site, homeZone?, Option.map_eq_some_iff, or_assoc]

namespace Upkeep

theorem forget (upkeep : Upkeep layout failed (.ofForgotten forgotten) controller)
    (weaker : ∀ key zone, forgotten key zone → forgotten' key zone) :
    Upkeep layout failed (.ofForgotten forgotten') controller := by
  refine upkeep.reckon ?_
  intro key lower
  have coherent := upkeep.coherent key lower
  have remembers : ∀ zone, (controller.site (.ofForgotten forgotten) key).Remembers zone →
      (controller.site (.ofForgotten forgotten') key).Remembers zone := by
    rintro zone (empty | home | stale | lost)
    · exact .inl empty
    · exact .inr (.inl home)
    · exact .inr (.inr (.inl stale))
    · exact .inr (.inr (.inr (weaker key zone lost)))
  refine ⟨⟨coherent.own_key, ?_, nofun, fun _ lost => lost⟩, remembers, fun _ _ _ => rfl, id,
    fun _ => rfl, fun _ zone _ _ lost => .inl (weaker key zone lost)⟩
  intro zone x holds
  exact (coherent.accounted zone x holds).imp_left (remembers zone)

theorem observe (upkeep : Upkeep layout failed ledger controller)
    (attentive : controller.observer.IsAttentive ledger.forgotten) {event : WatchEvent}
    (fits : event.Fits controller.observer) :
    Upkeep layout failed ledger (controller.observe event) ∧
      (controller.observe event).observer.IsAttentive ledger.forgotten := by
  obtain ⟨notices, observer, applied, advances⟩ := Observer.exists_advances attentive fits
  have observed : controller.observe event = { controller with
      observer, channel := controller.channel ++ notices.map (·.key) } := by
    simp only [Controller.observe, applied, Option.getD_some]
  rw [observed]
  refine ⟨?_, advances.attentive⟩
  refine upkeep.transfer (upkeep.exclusive.congr rfl rfl)
    ⟨advances.attentive.cached, ?_, upkeep.circulates.dirty, upkeep.circulates.delayed,
      upkeep.circulates.workers⟩ upkeep.placed ?_ (fun _ _ _ found => found) fun _ busy => busy
  · intro key member
    rcases List.mem_append.mp member with member | member
    · exact upkeep.circulates.channel key member
    · obtain ⟨notice, noticed, rfl⟩ := List.mem_map.mp member
      exact advances.isLower notice noticed
  · intro key lower
    have coherent := upkeep.coherent key lower
    refine coherent.yields ?_ ?_ (fun _ _ _ => rfl) ?_ ?_ rfl rfl rfl
    · intro service cached
      exact (advances.attentive.cached key service cached).1
    · intro zone remembered
      rw [remembers_iff] at remembered ⊢
      rcases remembered with keeps | lost
      · exact advances.keeps key zone keeps
      · exact .inr lost
    · rintro (stopped | noticed | dirty)
      · exact .inl stopped
      · exact .inr (.inl (List.mem_append_left _ noticed))
      · exact .inr (.inr dirty)
    · intro quiet
      apply advances.noticed
      intro noticed
      exact quiet (.inr (.inl (List.mem_append_right _ noticed)))

end Upkeep

/-- A request changes the marks of the observer and nothing else. -/
theorem isAttentive_answer (attentive : controller.observer.IsAttentive forgotten)
    (response : Response) {r : Request}
    (lost : ∀ key zones, r = .clearStale key zones → ∀ zone ∈ zones,
      controller.observer.Leaves key zone → forgotten key zone) :
    (answer now response r controller).2.observer.IsAttentive forgotten := by
  cases r with
  | clearStale key zones => exact attentive.clear (lost key zones rfl)
  | markStale key zone => exact attentive.recalls (Observer.recalls_mark _ key zone)
  | _ => exact attentive

structure IsAttended (layout : Layout) (failed : Key → Prop) (forgotten : Key → String → Prop)
    (controller : Controller) : Prop where
  upkeep : Upkeep layout failed (.ofForgotten forgotten) controller
  attentive : controller.observer.IsAttentive forgotten
  surveyed : controller.IsSurveyed layout

/-- Whatever happens next. -/
theorem IsAttended.step
    (attended : IsAttended layout (HasFailed history) (IsForgotten history) controller)
    (acts : controller.Acts layout ceiling now action after)
    (fits : Occasion.Fits ⟨controller, now, action⟩) :
    IsAttended layout (HasFailed (⟨controller, now, action⟩ :: history))
      (IsForgotten (⟨controller, now, action⟩ :: history)) after := by
  have weaker : ∀ key zone, IsForgotten history key zone →
      IsForgotten (⟨controller, now, action⟩ :: history) key zone := by
    rintro key zone ⟨occasion, member, forgets⟩
    exact ⟨occasion, List.mem_cons_of_mem _ member, forgets⟩
  -- What is lost in this step counts as forgotten before the step.
  have upkeep := attended.upkeep.forget weaker
  have attentive := attended.attentive.mono weaker
  have surveyed := attended.surveyed.step attended.upkeep.placed acts
  by_cases observes : ∃ event, action = .observe event
  · obtain ⟨event, rfl⟩ := observes
    cases acts
    obtain ⟨observed, attentive'⟩ := upkeep.observe attentive (fits event rfl)
    exact ⟨observed.mono fun _ failed => failed.cons rfl, attentive', surveyed⟩
  · refine ⟨upkeep.step acts (not_exists.mp observes) fun _ _ _ => attended.surveyed.permits, ?_,
      surveyed⟩
    cases acts with
    | observe event => exact absurd ⟨event, rfl⟩ observes
    | @serve worker key r resume asks response =>
      refine isAttentive_answer attentive response ?_
      rintro key' zones rfl zone member leaves
      exact ⟨_, List.mem_cons_self .., worker, response, key, zones, resume, rfl, asks, member,
        leaves⟩
    | serveSweep asks response =>
      refine isAttentive_answer attentive response ?_
      rintro key zones rfl
      obtain ⟨survey, permitted⟩ := attended.surveyed.permits asks
      cases permitted
    | settle decided delay =>
      rw [observer_settle]
      exact attentive
    | _ => exact attentive

theorem isAttended_start {contents : Store.Contents}
    (unowned : ∀ (x : String) value, contents[x]? = some value → layout.owns value = false) :
    IsAttended layout (HasFailed []) (IsForgotten []) { contents } := by
  have nothing : ∀ key zone x, ¬layout.HoldsOwned contents key zone x := by
    rintro key zone x ⟨-, -, value, stored, owned⟩
    rw [unowned x value stored] at owned
    cases owned
  have lost : ∀ key zone, ¬IsForgotten [] key zone := by
    rintro key zone ⟨occasion, member, -⟩
    cases member
  have own_key : ∀ key service, Cache.empty.find? key = some service → service.key = key :=
    fun key service cached => (Cache.isWellFormed_empty key service cached).1
  refine ⟨.of_idle (fun _ => rfl) WorkQueue.isOrderly_empty Cache.isWellFormed_empty
    (List.forall_mem_nil _) ?_ (List.forall_mem_nil _) ?_ ?_ ?_, Observer.isAttentive_start, ?_⟩
  · intro key dirty
    exact absurd dirty Std.ExtTreeMap.not_mem_empty
  · intro x value stored owned
    rw [unowned x value stored] at owned
    cases owned
  · intro key _
    refine ⟨own_key key, ?_, fun _ unmarked => unmarked.elim, fun zone gone => gone⟩
    intro zone x holds
    exact absurd holds (nothing key zone x)
  · intro key _
    refine .inr ⟨own_key key, ?_, ?_⟩
    · intro service cached
      simp [site, Cache.find?, Cache.empty] at cached
    · intro zone x holds
      exact absurd holds (nothing key zone x)
  · intro sweeper rest found
    cases found

/-- The invariant of every run from an empty observer, where nothing is owned. -/
theorem isAttended_of_run {contents : Store.Contents}
    (unowned : ∀ (x : String) value, contents[x]? = some value → layout.owns value = false)
    (run : Run layout ceiling { contents } history controller)
    (fitting : ∀ occasion ∈ history, occasion.Fits) :
    IsAttended layout (HasFailed history) (IsForgotten history) controller := by
  induction run with
  | start => exact isAttended_start unowned
  | @step history before after now action run acts ih =>
    have attended := ih fun occasion member => fitting occasion (List.mem_cons_of_mem _ member)
    exact attended.step (acts_of_act? acts) (fitting _ (List.mem_cons_self ..))

end ServiceRecords.Concurrent
