import ServiceRecords.Proofs.Concurrent.Steps

set_option autoImplicit false

/-!
# Sweeps among the other parts

A sweep in progress has a survey of what it still has to do (`Surveys`), and each of its requests
leads to the next survey (`Surveys.serve`). The invariant of the controller holds for the ledger
of a survey as well, and keeps up with it (`Upkeep.advance`): what a sweep has dealt with is
marked, wanted, or announced.
-/

namespace ServiceRecords.Concurrent

open Controller

variable {layout : Layout} {ceiling : RetryCeiling} {now : Nat} {action : Action}
  {failed : Key → Prop} {controller after : Controller} {survey survey' : Survey}

/-- The sweep keeps to its agreement from this survey on. -/
def Surveys (layout : Layout) (survey : Survey) (rest : Procedure (Except StoreError Nat)) : Prop :=
  (Survey.agreement layout).Honours
    (fun result survey => ∀ count, result = .ok count →
      (∀ key zone, ¬survey.unmarked key zone) ∧ ∀ key zone, ¬survey.unannounced key zone)
    rest survey

/-- All that is owed is what the survey has still to do. -/
def Ledger.ofSurvey (survey : Survey) : Ledger where
  forgotten _ _ := False
  unmarked := survey.unmarked
  unannounced := survey.unannounced

/-- Every sweep in progress has a survey. -/
def Controller.IsSurveyed (layout : Layout) (controller : Controller) : Prop :=
  ∀ sweeper rest, controller.sweepers sweeper = some rest → ∃ survey, Surveys layout survey rest

theorem surveys_sweep (layout : Layout) (survey : Survey) :
    Surveys layout survey (sweep layout).run :=
  Survey.achieves_sweep.honours survey trivial

/-- A listing of everything below the root has a place for every owned entry. -/
theorem IsPlaced.listing {contents : Store.Contents} (placed : IsPlaced layout contents) :
    Survey.Placed layout (Store.listing contents (layout.root ++ "/")) := by
  intro x value member owned
  obtain ⟨stored, below⟩ := Store.mem_listing.mp member
  exact placed x value stored owned below

/-- Whatever a sweep is told, there is a survey of what is left to do. -/
theorem exists_answers (now : Nat) (response : Response) {r : Request}
    (permitted : survey.Permits layout r) (placed : IsPlaced layout controller.contents) :
    ∃ survey', Survey.Answers layout r survey (answer now response r controller).1 survey' := by
  cases r with
  | readService key => exact ⟨_, rfl⟩
  | markStale key zone => exact ⟨_, rfl⟩
  | enqueue key => exact ⟨_, rfl⟩
  | list start =>
    obtain rfl : start = layout.root ++ "/" := permitted
    cases response with
    | succeeds => exact ⟨_, placed.listing, rfl⟩
    | fails error takesEffect => exact ⟨survey, rfl⟩
  | readStale key => cases permitted
  | clearStale key zones => cases permitted
  | put x value => cases permitted
  | delete x => cases permitted

theorem Surveys.serve (now : Nat) (response : Response) {r : Request}
    {resume : r.Reply → Procedure (Except StoreError Nat)}
    (surveys : Surveys layout survey (.ask r resume))
    (placed : IsPlaced layout controller.contents) :
    survey.Permits layout r ∧ ∃ survey',
      Survey.Answers layout r survey (answer now response r controller).1 survey' ∧
      Surveys layout survey' (resume (answer now response r controller).1) := by
  obtain ⟨permitted, answered⟩ := surveys survey rfl
  obtain ⟨survey', answers⟩ := exists_answers now response permitted placed
  exact ⟨permitted, survey', answers, answered _ _ answers⟩

theorem Controller.IsSurveyed.step (surveyed : controller.IsSurveyed layout)
    (placed : IsPlaced layout controller.contents)
    (acts : controller.Acts layout ceiling now action after) : after.IsSurveyed layout := by
  intro sweeper rest found
  rcases acts.sweepers found with had | rfl | ⟨r, resume, response, asks, -, -, rfl⟩
  · exact surveyed sweeper rest had
  · exact ⟨⟨fun _ _ => False, fun _ _ => False⟩, surveys_sweep layout _⟩
  · obtain ⟨survey, surveys⟩ := surveyed sweeper _ asks
    obtain ⟨-, survey', -, surveys'⟩ := surveys.serve now response placed
    exact ⟨survey', surveys'⟩

theorem Controller.IsSurveyed.permits (surveyed : controller.IsSurveyed layout) {sweeper : Nat}
    {r : Request} {resume : r.Reply → Procedure (Except StoreError Nat)}
    (asks : controller.sweepers sweeper = some (.ask r resume)) :
    ∃ survey : Survey, survey.Permits layout r := by
  obtain ⟨survey, surveys⟩ := surveyed sweeper _ asks
  exact ⟨survey, (surveys survey rfl).1⟩

/-- A ledger may let go of what the site remembers, wants, or is announced for. -/
theorem Upkeep.reckon_of {ledger ledger' : Ledger}
    (upkeep : Upkeep layout failed ledger controller)
    (forgotten : ledger'.forgotten = ledger.forgotten)
    (lost : ∀ key zone, ledger'.forgotten key zone → ledger'.unannounced key zone)
    (marked : ∀ key zone, key.IsLower → ledger'.unmarked key zone → ledger'.unannounced key zone)
    (unmarked : ∀ key zone x, key.IsLower → layout.HoldsOwned controller.contents key zone x →
      ledger.unmarked key zone →
        (controller.site ledger key).Remembers zone ∨ ledger'.unmarked key zone)
    (unannounced : ∀ key zone x, key.IsLower → layout.HoldsOwned controller.contents key zone x →
      ¬controller.IsAnnounced key → ledger.unannounced key zone →
        ledger'.unannounced key zone ∨
          wantedZone? (controller.observer.cache.find? key) = some zone) :
    Upkeep layout failed ledger' controller := by
  refine upkeep.reckon ?_
  intro key lower
  have coherent := upkeep.coherent key lower
  have remembers : ∀ zone, (controller.site ledger key).Remembers zone →
      (controller.site ledger' key).Remembers zone := by
    intro zone remembered
    simpa only [Site.Remembers, site, forgotten] using remembered
  refine ⟨⟨coherent.own_key, ?_, fun zone => marked key zone lower, lost key⟩, remembers,
    fun _ _ _ => rfl, id, fun _ => rfl, ?_⟩
  · intro zone x holds
    rcases coherent.accounted zone x holds with remembered | left
    · exact .inl (remembers zone remembered)
    · exact (unmarked key zone x lower holds left).imp_left (remembers zone)
  · intro quiet zone x holds awaited
    exact unannounced key zone x lower holds quiet awaited

/-- What a listing does not show is not there. -/
theorem finds_of_holdsOwned {contents : Store.Contents} {key : Key} {zone x : String}
    (lower : key.IsLower) (holds : layout.HoldsOwned contents key zone x) :
    Survey.Finds layout (Store.listing contents (layout.root ++ "/")) key zone := by
  obtain ⟨value, stored, owned⟩ := holds.stored
  exact ⟨lower, x, value, Store.mem_listing.mpr ⟨stored, holds.resides.exists_root⟩, owned,
    holds.resides, holds.normal⟩

/-- The survey of a sweep stays as good as an account of what is owed. -/
theorem Upkeep.advance (upkeep : Upkeep layout failed (.ofSurvey survey) controller)
    (response : Response) {r : Request} (permitted : survey.Permits layout r)
    (answers : Survey.Answers layout r survey (answer now response r controller).1 survey') :
    Upkeep layout failed (.ofSurvey survey') (answer now response r controller).2 := by
  have served := upkeep.survey now response permitted
  have marked : ∀ key zone, key.IsLower → survey.unmarked key zone →
      survey.unannounced key zone :=
    fun key zone lower => (upkeep.coherent key lower).unannounced_of_unmarked zone
  cases r with
  | readService key =>
    obtain rfl := answers
    refine served.reckon_of rfl nofun ?_ ?_ ?_
    · rintro other zone lower ⟨left, unwanted⟩
      exact ⟨marked other zone lower left, unwanted⟩
    · intro other zone x _ _ left
      by_cases wanted : other = key ∧
          wantedZone? (controller.observer.cache.find? key) = some zone
      · obtain ⟨rfl, wanted⟩ := wanted
        exact .inl (.inr (.inl (homeZone?_of_wantedZone? wanted)))
      · exact .inr ⟨left, wanted⟩
    · intro other zone x _ _ _ left
      by_cases wanted : other = key ∧
          wantedZone? (controller.observer.cache.find? key) = some zone
      · obtain ⟨rfl, wanted⟩ := wanted
        exact .inr wanted
      · exact .inl ⟨left, wanted⟩
  | markStale key zone =>
    obtain rfl := answers
    refine served.reckon_of rfl nofun ?_ ?_ ?_
    · rintro other zone' lower ⟨left, -⟩
      exact marked other zone' lower left
    · intro other zone' x _ _ left
      by_cases own : other = key ∧ zone' = Dns.Zone.normalize zone
      · obtain ⟨rfl, rfl⟩ := own
        exact .inl ((Observer.marks_mark controller.observer other zone).imp_right fun stale =>
          .inr (.inl stale))
      · exact .inr ⟨left, own⟩
    · exact fun _ _ _ _ _ _ left => .inl left
  | enqueue key =>
    obtain rfl := answers
    refine served.reckon_of rfl nofun ?_ ?_ ?_
    · intro other zone lower left
      refine ⟨marked other zone lower left, ?_⟩
      rintro rfl
      exact permitted.2 zone left
    · exact fun _ _ _ _ _ left => .inr left
    · intro other zone x _ _ quiet left
      refine .inl ⟨left, ?_⟩
      rintro rfl
      exact quiet (isAnnounced_enqueue_self now controller other)
  | list start =>
    obtain rfl : start = layout.root ++ "/" := permitted
    cases response with
    | succeeds =>
      obtain ⟨-, rfl⟩ := answers
      exact served.reckon_of rfl nofun (fun _ _ _ found => found)
        (fun _ _ _ lower holds _ => .inr (finds_of_holdsOwned lower holds))
        fun _ _ _ lower holds _ _ => .inl (finds_of_holdsOwned lower holds)
    | fails error takesEffect =>
      obtain rfl := answers
      exact served
  | readStale key => cases permitted
  | clearStale key zones => cases permitted
  | put x value => cases permitted
  | delete x => cases permitted

end ServiceRecords.Concurrent
