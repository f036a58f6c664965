import ServiceRecords.Proofs.Concurrent.Attention

set_option autoImplicit false

/-!
# No owned entry is lost sight of

In every run from an empty observer the owned entries of a key are in the zone of its cached
service or in zones that have a mark (`isRemembered_of_run`). The one exception are zones whose
mark was cleared by a worker while the list in progress had just marked them again, and such runs
there are (`exists_not_isRemembered`).
-/

namespace ServiceRecords.Concurrent

variable {layout : Layout} {ceiling : RetryCeiling} {controller : Controller}
  {history : List Occasion}

/-- The zone is the one of the cached service, or it has a mark. -/
def Controller.IsRemembered (controller : Controller) (key : Key) (zone : String) : Prop :=
  homeZone? (controller.observer.cache.find? key) = some (Dns.Zone.normalize zone) ∨
    Dns.Zone.normalize zone ∈ controller.observer.stale.zones key

instance (controller : Controller) (key : Key) (zone : String) :
    Decidable (controller.IsRemembered key zone) :=
  inferInstanceAs (Decidable (_ ∨ _))

/-- Directly below the directory of the key in the zone there is an owned entry. -/
def Controller.HoldsBelow (layout : Layout) (controller : Controller) (key : Key) (zone : String) :
    Prop :=
  ∃ directory x value, layout.directory key zone = .ok directory ∧
    isDirectlyBelow directory x = true ∧ controller.contents[x]? = some value ∧
    layout.owns value = true

theorem isRemembered_of_run {contents : Store.Contents}
    (unowned : ∀ (x : String) value, contents[x]? = some value → layout.owns value = false)
    (run : Run layout ceiling { contents } history controller)
    (fitting : ∀ occasion ∈ history, occasion.Fits) {key : Key} {zone : String}
    (lower : key.IsLower) (holds : controller.HoldsBelow layout key zone) :
    controller.IsRemembered key zone ∨ IsForgotten history key (Dns.Zone.normalize zone) := by
  have attended := isAttended_of_run unowned run fitting
  obtain ⟨directory, x, value, found, below, stored, owned⟩ := holds
  have resides : layout.Resides key zone x := ⟨directory, found, below⟩
  have normal := Dns.Zone.normalize_normalize resides.isValid
  have accounted := (attended.upkeep.coherent key lower).accounted (Dns.Zone.normalize zone) x
    ⟨resides.normalize, normal, value, stored, owned⟩
  rcases accounted with (empty | home | stale | lost) | unmarked
  · exact absurd empty resides.isValid.normalize_ne_empty
  · exact .inl (.inl home)
  · exact .inl (.inr stale)
  · exact .inr lost
  · cases unmarked

/-- The entry of a service that has moved is where there is a mark. -/
theorem isRemembered_of_run_moved :
    ∃ history controller, Run {} .unbounded {} history controller ∧
      (∀ occasion ∈ history, occasion.Fits) ∧ Key.IsLower ⟨"svc", "a"⟩ ∧
      controller.HoldsBelow {} ⟨"svc", "a"⟩ "z1" ∧
      (controller.observer.cache.find? ⟨"svc", "a"⟩).map (·.spec.zone) = some "z2" ∧
      controller.observer.stale.zones ⟨"svc", "a"⟩ = ["z1"] ∧
      (controller.IsRemembered ⟨"svc", "a"⟩ "z1" ∨
        IsForgotten history ⟨"svc", "a"⟩ (Dns.Zone.normalize "z1")) := by
  have replayed : ∃ outcome ∈ replay? {} .unbounded [] {} (atOnce
        ([.observe (.applied (sample "z1")), .forward] ++ attempt 4 ++
          [.observe (.applied (sample "z2"))])),
      (∀ occasion ∈ outcome.1, occasion.Fits) ∧
      (∃ value ∈ outcome.2.contents["/skydns/z1/svc/a/e"]?, ({} : Layout).owns value = true) ∧
      (outcome.2.observer.cache.find? ⟨"svc", "a"⟩).map (·.spec.zone) = some "z2" ∧
      outcome.2.observer.stale.zones ⟨"svc", "a"⟩ = ["z1"] := by
    decide +kernel
  obtain ⟨history, controller, run, fitting, ⟨value, stored, owned⟩, cached, marked⟩ :=
    exists_run replayed
  have lower : Key.IsLower ⟨"svc", "a"⟩ := by decide +kernel
  have holds : controller.HoldsBelow {} ⟨"svc", "a"⟩ "z1" :=
    ⟨"/skydns/z1/svc/a", "/skydns/z1/svc/a/e", value, by decide +kernel, by decide +kernel, stored,
      owned⟩
  exact ⟨history, controller, run, fitting, lower, holds, cached, marked,
    isRemembered_of_run (by simp) run fitting lower holds⟩

/-- The list moves the service while the worker that has cleaned its old zone is still at it; the
worker then clears the mark, and the next one publishes before the list is complete. -/
def lossOfMark : List Action :=
  [.observe (.applied (sample "z1")), .observe (.deleted (sample "z1")), .forward, .forward,
    .take 0, .serve 0 .succeeds, .serve 0 .succeeds, .serve 0 .succeeds,
    .observe (.applied (sample "z1")), .observe .listStarted, .observe (.listed (sample "z2")),
    .serve 0 .succeeds, .finish 0, .judge 0, .settle 0 fun _ => .ok ⟨0⟩, .release 0, .forward] ++
  attempt 4 ++ [.observe .listComplete]

theorem exists_not_isRemembered :
    ∃ history controller, Run {} .unbounded {} history controller ∧
      (∀ occasion ∈ history, occasion.Fits) ∧ Key.IsLower ⟨"svc", "a"⟩ ∧
      controller.HoldsBelow {} ⟨"svc", "a"⟩ "z1" ∧
      ¬controller.IsRemembered ⟨"svc", "a"⟩ "z1" := by
  have replayed : ∃ outcome ∈ replay? {} .unbounded [] {} (atOnce lossOfMark),
      (∀ occasion ∈ outcome.1, occasion.Fits) ∧
      (∃ value ∈ outcome.2.contents["/skydns/z1/svc/a/e"]?, ({} : Layout).owns value = true) ∧
      ¬outcome.2.IsRemembered ⟨"svc", "a"⟩ "z1" := by
    decide +kernel
  obtain ⟨history, controller, run, fitting, ⟨value, stored, owned⟩, lost⟩ := exists_run replayed
  have holds : controller.HoldsBelow {} ⟨"svc", "a"⟩ "z1" :=
    ⟨"/skydns/z1/svc/a", "/skydns/z1/svc/a/e", value, by decide +kernel, by decide +kernel, stored,
      owned⟩
  exact ⟨history, controller, run, fitting, by decide +kernel, holds, lost⟩

end ServiceRecords.Concurrent
