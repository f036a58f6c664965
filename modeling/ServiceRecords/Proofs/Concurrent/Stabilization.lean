import ServiceRecords.Proofs.Concurrent.Publication
import ServiceRecords.Proofs.Concurrent.Surveys

set_option autoImplicit false

/-!
# Stabilization

A controller may begin with any cache, any marks, any queue and any owned entries of keys in lower
case. If every cached key is given notice of once and one sweep runs to its end, then in a quiet
controller everything is as it should be (`stabilizes_of_run`). At first nothing is known of any
entry, so everything may be owed to it. What a sweep has seen to is owed no more from its own point
of view, and that becomes true for everybody when it ends.
-/

namespace ServiceRecords.Concurrent

open Controller

variable {layout : Layout} {ceiling : RetryCeiling} {now : Nat} {action : Action}
  {start controller after : Controller} {history : List Occasion}

/-- Nobody is at work, and every cached key is on its way to the queue. Nothing is known of the
marks, and of the entries only that they have a place. -/
structure Controller.IsUnsettled (layout : Layout) (start : Controller) : Prop where
  cached : start.observer.cache.IsWellFormed
  placed : IsPlaced layout start.contents
  isOrderly : start.queue.IsOrderly
  noticed : ∀ notice ∈ start.observer.resync, notice.key ∈ start.channel
  channel : ∀ key ∈ start.channel, key.IsLower
  dirty : ∀ key ∈ start.queue.dirty, key.IsLower
  delayed : ∀ key ∈ start.delayed, key.IsLower
  workers : ∀ worker, start.workers worker = none
  sweepers : ∀ sweeper, start.sweepers sweeper = none

/-- Nothing has been seen to. -/
def Survey.everything : Survey := ⟨fun _ _ => True, fun _ _ => True⟩

/-- Nothing is left to do. -/
def Survey.nothing : Survey := ⟨fun _ _ => False, fun _ _ => False⟩

/-- What is owed, whatever the marks were at the start: everything, or what a sweep in progress has
not seen to, or nothing after the end of a sweep. -/
structure IsTended (layout : Layout) (history : List Occasion) (controller : Controller) :
    Prop where
  upkeep : Upkeep layout (HasFailed history) (.ofSurvey Survey.everything) controller
  sweeping : ∀ sweeper rest, controller.sweepers sweeper = some rest → ∃ survey,
    Surveys layout survey rest ∧ Upkeep layout (HasFailed history) (.ofSurvey survey) controller
  swept : ∀ occasion ∈ history, ∀ count, occasion.swept? = some (.ok count) →
    Upkeep layout (HasFailed history) (.ofSurvey Survey.nothing) controller

theorem Controller.IsUnsettled.isTended (unsettled : start.IsUnsettled layout) :
    IsTended layout [] start := by
  refine ⟨.of_idle unsettled.workers unsettled.isOrderly unsettled.cached unsettled.channel
    unsettled.dirty unsettled.delayed unsettled.placed ?_ ?_, ?_, List.forall_mem_nil _⟩
  · intro key lower
    exact ⟨fun service cached => (unsettled.cached key service cached).1,
      fun _ _ _ => .inr trivial, fun _ _ => trivial, fun _ lost => lost.elim⟩
  · intro key lower
    cases cached : start.observer.cache.find? key with
    | some service =>
      have member := (Cache.mem_keys unsettled.cached.isNamespaced).mpr ⟨service, cached⟩
      exact .inl (.inr (.inl (unsettled.noticed ⟨.resync, key⟩ (List.mem_map_of_mem member))))
    | none =>
      have missing : (start.site (.ofSurvey Survey.everything) key).cached = none := cached
      refine .inr ⟨?_, ?_, ?_⟩
      · simp [missing]
      · simp [missing]
      · intro zone x _
        exact .inr ⟨by simp [missing, wantedZone?], trivial⟩
  · intro sweeper rest found
    rw [unsettled.sweepers] at found
    cases found

/-- Whatever happens next, unless it is an event. -/
theorem IsTended.step (tended : IsTended layout history controller)
    (acts : controller.Acts layout ceiling now action after)
    (unobserved : ∀ event, action ≠ .observe event) :
    IsTended layout (⟨controller, now, action⟩ :: history) after := by
  have going : ∀ {ledger}, Upkeep layout (HasFailed history) ledger controller →
      Upkeep layout (HasFailed (⟨controller, now, action⟩ :: history)) ledger after := by
    intro ledger upkeep
    refine upkeep.step acts unobserved ?_
    intro sweeper r resume asks
    obtain ⟨survey, surveys, -⟩ := tended.sweeping sweeper _ asks
    exact ⟨survey, (surveys survey rfl).1⟩
  refine ⟨going tended.upkeep, ?_, ?_⟩
  · intro sweeper rest found
    rcases acts.sweepers found with had | rfl | ⟨r, resume, response, asks, rfl, rfl, rfl⟩
    · obtain ⟨survey, surveys, upkeep⟩ := tended.sweeping sweeper rest had
      exact ⟨survey, surveys, going upkeep⟩
    · exact ⟨Survey.everything, surveys_sweep layout _, going tended.upkeep⟩
    · obtain ⟨survey, surveys, upkeep⟩ := tended.sweeping sweeper _ asks
      obtain ⟨permitted, survey', answers, surveys'⟩ :=
        surveys.serve now response tended.upkeep.placed
      refine ⟨survey', surveys', ?_⟩
      exact ((upkeep.advance response permitted answers).conduct sweeper _).mono
        fun _ failed => failed.cons rfl
  · intro occasion member count ended
    rcases List.mem_cons.mp member with rfl | member
    -- At its end the sweep owes nothing any more, and from then on nothing is owed to anybody.
    · obtain ⟨sweeper, -, ends⟩ := Occasion.swept?_eq_some ended
      obtain ⟨survey, surveys, upkeep⟩ := tended.sweeping sweeper _ ends
      obtain ⟨unmarked, unannounced⟩ := surveys survey rfl count rfl
      refine going (upkeep.reckon_of rfl nofun nofun ?_ ?_)
      · exact fun key zone _ _ _ left => absurd left (unmarked key zone)
      · exact fun key zone _ _ _ _ left => absurd left (unannounced key zone)
    · exact going (tended.swept occasion member count ended)

theorem isTended_of_run (unsettled : start.IsUnsettled layout)
    (run : Run layout ceiling start history controller)
    (unobserved : ∀ occasion ∈ history, occasion.action.event? = none) :
    IsTended layout history controller := by
  induction run with
  | start => exact unsettled.isTended
  | step run acted ih =>
    refine (ih fun occasion member => unobserved occasion (List.mem_cons_of_mem _ member)).step
      (acts_of_act? acted) ?_
    rintro event rfl
    cases unobserved _ (List.mem_cons_self ..)

theorem stabilizes_of_run (unsettled : start.IsUnsettled layout)
    (run : Run layout ceiling start history controller)
    (unobserved : ∀ occasion ∈ history, occasion.action.event? = none)
    (succeeds : ∀ occasion ∈ history, occasion.Succeeds)
    (swept : ∃ occasion ∈ history, ∃ count, occasion.swept? = some (.ok count))
    (quiet : controller.IsQuiet) : controller.IsConverged layout := by
  obtain ⟨occasion, member, count, ended⟩ := swept
  have upkeep := (isTended_of_run unsettled run unobserved).swept occasion member count ended
  exact upkeep.isConverged (fun _ _ owed => owed) quiet (not_hasFailed succeeds)

/-- One service is cached and not published, and there is an entry that no service asks for. -/
def strayed : Controller where
  observer := { cache := ⟨(∅ : Std.ExtTreeMap Key Service).insert ⟨"svc", "a"⟩ (sample "z1"), ∅⟩ }
  contents := (∅ : Store.Contents).insert "/skydns/z2/svc/b/e"
    (Entry.text { host := "10.0.0.2", port := 9000, owner := some "rpc-controller" })
  channel := [⟨"svc", "a"⟩]

theorem isUnsettled_strayed : strayed.IsUnsettled {} where
  cached := by
    intro key service found
    simp only [strayed, Cache.find?, Std.ExtTreeMap.getElem?_insert] at found
    split at found
    · rename_i same
      obtain rfl := Std.LawfulEqCmp.eq_of_compare same
      cases found
      exact ⟨rfl, by decide +kernel⟩
    · simp at found
  placed := by
    intro x value found _ _
    simp only [strayed, Store.getElem?_insert] at found
    split at found
    · rename_i same
      subst same
      exact ⟨⟨"svc", "b"⟩, "z2", by decide +kernel, "/skydns/z2/svc/b", by decide +kernel,
        by decide +kernel⟩
    · simp at found
  isOrderly := WorkQueue.isOrderly_empty
  noticed := by decide +kernel
  channel := by decide +kernel
  dirty := nofun
  delayed := nofun
  workers _ := rfl
  sweepers _ := rfl

/-- The sweep lists the store before the worker publishes the cached service, and in the end the
stray entry has given way to that of the service. -/
theorem stabilizes_of_run_strayed :
    ∃ history controller, strayed.IsUnsettled {} ∧
      Run {} .unbounded strayed history controller ∧
      (∀ occasion ∈ history, occasion.action.event? = none) ∧
      (∀ occasion ∈ history, occasion.Succeeds) ∧
      (∃ occasion ∈ history, ∃ count, occasion.swept? = some (.ok count)) ∧ controller.IsQuiet ∧
      strayed.contents.toList.map (·.1) = ["/skydns/z2/svc/b/e"] ∧
      controller.contents.toList.map (·.1) = ["/skydns/z1/svc/a/e"] ∧
      controller.IsConverged {} := by
  have replayed : ∃ outcome ∈ replay? {} .unbounded [] strayed (atOnce
        ([.startSweep 0, .serveSweep 0 .succeeds, .forward] ++ attempt 4 ++
          [.serveSweep 0 .succeeds, .serveSweep 0 .succeeds, .serveSweep 0 .succeeds,
            .finishSweep 0] ++ attempt 5)),
      (∀ occasion ∈ outcome.1, occasion.action.event? = none) ∧
      (∀ occasion ∈ outcome.1, occasion.Succeeds) ∧
      (∃ occasion ∈ outcome.1, occasion.swept? = some (.ok 1)) ∧ outcome.2.IsQuiet ∧
      strayed.contents.toList.map (·.1) = ["/skydns/z2/svc/b/e"] ∧
      outcome.2.contents.toList.map (·.1) = ["/skydns/z1/svc/a/e"] := by
    decide +kernel
  obtain ⟨history, controller, run, unobserved, succeeds, ⟨occasion, member, swept⟩, quiet, stray,
    stored⟩ := exists_run replayed
  have ended : ∃ occasion ∈ history, ∃ count, occasion.swept? = some (.ok count) :=
    ⟨occasion, member, 1, swept⟩
  exact ⟨history, controller, isUnsettled_strayed, run, unobserved, succeeds, ended, quiet, stray,
    stored, stabilizes_of_run isUnsettled_strayed run unobserved succeeds ended quiet⟩

end ServiceRecords.Concurrent
