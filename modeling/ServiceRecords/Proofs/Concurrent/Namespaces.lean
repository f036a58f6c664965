import ServiceRecords.Proofs.Concurrent.Abidance
import ServiceRecords.Proofs.Concurrent.ForeignData
import ServiceRecords.Proofs.Concurrent.Restart
import ServiceRecords.Proofs.Reconcile.Warrants

set_option autoImplicit false

/-!
# A controller for one namespace

Whatever is stored, a controller that is told of services of one namespace alone writes nothing
outside of it. Outside, it deletes only entries that were owned when it started, and because of
them alone do its sweeps mark zones and announce keys of other namespaces (`keepsWithin_of_run`).
It does not leave such entries to the controllers of the other namespaces, as a sweep takes every
service that is not cached for one that is gone (`exists_not_keepsWithin`).
-/

namespace ServiceRecords

namespace Layout

variable {layout : Layout} {contents : Store.Contents} {ns x : String} {service : Service}

/-- If the place is one of an entry, then of one in the namespace. -/
def IsWithin (layout : Layout) (ns x : String) : Prop :=
  ∀ location, layout.locate? x = some location → location.key.ns = ns

/-- An owned entry is stored at the place. -/
def HasOwned (layout : Layout) (contents : Store.Contents) (x : String) : Prop :=
  ∃ value, contents[x]? = some value ∧ layout.owns value = true

theorem Names.isWithin {entry : Entry} (names : layout.Names service x entry) :
    layout.IsWithin service.key.ns.toLower x := by
  obtain ⟨record, made, wanted⟩ := names
  obtain ⟨leaf, located⟩ := locate?_of_resides (resides_of_record made wanted)
  intro location found
  rw [located] at found
  cases found
  rfl

end Layout

/-- The event tells of no service outside of the namespace. -/
def WatchEvent.IsFrom (ns : String) : WatchEvent → Prop
  | .applied service | .deleted service | .listed service => service.key.ns = ns
  | .listStarted | .listComplete => True

instance (ns : String) : (event : WatchEvent) → Decidable (event.IsFrom ns)
  | .applied service | .deleted service | .listed service =>
    inferInstanceAs (Decidable (service.key.ns = ns))
  | .listStarted | .listComplete => .isTrue trivial

namespace Namespaces

variable {layout : Layout} {contents : Store.Contents} {ns : String}

/-- An owned entry is one of the namespace, or it was there from the start. -/
def Accounts (layout : Layout) (contents : Store.Contents) (ns x : String) : Prop :=
  layout.IsWithin ns x ∨ layout.HasOwned contents x

/-- The key is one of the namespace, or an entry of it in the zone was owned from the start. -/
def Concerns (layout : Layout) (contents : Store.Contents) (ns : String) (key : Key)
    (zone : String) : Prop :=
  key.ns = ns ∨ ∃ x leaf, layout.HasOwned contents x ∧ layout.locate? x = some ⟨key, zone, leaf⟩

def Permits (layout : Layout) (contents : Store.Contents) (ns : String) : Request → Prop
  | .put x _ => layout.IsWithin ns x
  | .delete x => Accounts layout contents ns x
  | .markStale key zone => Concerns layout contents ns key zone
  | .enqueue key => ∃ zone, Concerns layout contents ns key zone
  | _ => True

def Tells (layout : Layout) (contents : Store.Contents) (ns : String) :
    (r : Request) → r.Reply → Prop
  | .readService _, reply => ∀ service, reply = some service → service.key.ns.toLower = ns
  | .list _, reply => ∀ entries, reply = .ok entries → ∀ x value, (x, value) ∈ entries →
      layout.owns value = true → Accounts layout contents ns x
  | _, _ => True

def terms (layout : Layout) (contents : Store.Contents) (ns : String) : Terms where
  permits := Permits layout contents ns
  tells := Tells layout contents ns

theorem Accounts.concerns {x : String} {location : Location}
    (accounts : Accounts layout contents ns x) (located : layout.locate? x = some location) :
    Concerns layout contents ns location.key location.zone :=
  accounts.imp (fun within => within location located) fun owned =>
    ⟨x, location.endpoint, owned, located⟩

theorem warrants (layout : Layout) (contents : Store.Contents) (ns : String) :
    Warrants (terms layout contents ns) layout where
  readService _ := trivial
  readStale _ := trivial
  clearStale _ _ := trivial
  list _ := trivial
  delete told member owned := told _ rfl _ _ member owned
  put told names := told _ rfl ▸ names.isWithin
  markStale told member owned located := (told _ rfl _ _ member owned).concerns located
  enqueue told member owned located := ⟨_, (told _ rfl _ _ member owned).concerns located⟩

end Namespaces

namespace Concurrent

open Controller

variable {layout : Layout} {ceiling : RetryCeiling} {now : Nat} {action : Action}
  {contents : Store.Contents} {ns : String} {controller after : Controller}
  {history : List Occasion}

/-- Nothing was observed but services of the namespace. -/
def IsRestricted (ns : String) (history : List Occasion) : Prop :=
  ∀ occasion ∈ history, ∀ event ∈ occasion.action.event?, event.IsFrom ns

instance (ns : String) (history : List Occasion) : Decidable (IsRestricted ns history) :=
  inferInstanceAs (Decidable (∀ occasion ∈ history, ∀ event ∈ occasion.action.event?, _))

theorem IsRestricted.of_isObserved (restricted : IsRestricted ns history) {service : Service}
    (observed : IsObserved history service) : service.key.ns = ns := by
  obtain ⟨occasion, member, applied | listed⟩ := observed
  · exact restricted occasion member (.applied service) (by rw [applied]; rfl)
  · exact restricted occasion member (.listed service) (by rw [listed]; rfl)

/-- Nobody is about to leave the namespace but for an entry that was owned at the start, and what
was stored outside is still there unless it was owned. -/
structure Controller.KeepsWithin (layout : Layout) (contents : Store.Contents) (ns : String)
    (controller : Controller) : Prop where
  puts : ∀ x value, controller.Asks (.put x value) → layout.IsWithin ns x
  deletes : ∀ x, controller.Asks (.delete x) → layout.IsWithin ns x ∨ layout.HasOwned contents x
  marks : ∀ key zone, controller.Asks (.markStale key zone) →
    Namespaces.Concerns layout contents ns key zone
  announces : ∀ key, controller.Asks (.enqueue key) →
    ∃ zone, Namespaces.Concerns layout contents ns key zone
  kept : ∀ x, ¬layout.IsWithin ns x → controller.contents[x]? = contents[x]? ∨
    layout.HasOwned contents x ∧ controller.contents[x]? = none

/-- What carries the proof: everybody keeps to the terms, and so the entries outside are kept. -/
structure IsConfined (layout : Layout) (contents : Store.Contents) (ns : String)
    (controller : Controller) : Prop where
  abides : controller.Abides (Namespaces.terms layout contents ns)
    (Namespaces.terms layout contents ns)
  kept : ∀ x, ¬layout.IsWithin ns x → controller.contents[x]? = contents[x]? ∨
    layout.HasOwned contents x ∧ controller.contents[x]? = none

namespace IsConfined

theorem permits (confined : IsConfined layout contents ns controller) {r : Request}
    (asks : controller.Asks r) : Namespaces.Permits layout contents ns r :=
  (confined.abides.permits asks).elim id id

theorem keepsWithin (confined : IsConfined layout contents ns controller) :
    controller.KeepsWithin layout contents ns where
  puts _ _ asks := confined.permits asks
  deletes _ asks := confined.permits asks
  marks _ _ asks := confined.permits asks
  announces _ asks := confined.permits asks
  kept := confined.kept

theorem accounts (confined : IsConfined layout contents ns controller) {x value : String}
    (stored : controller.contents[x]? = some value) (owned : layout.owns value = true) :
    Namespaces.Accounts layout contents ns x := by
  by_cases within : layout.IsWithin ns x
  · exact .inl within
  · rcases confined.kept x within with same | ⟨-, gone⟩
    · exact .inr ⟨value, same ▸ stored, owned⟩
    · rw [gone] at stored
      cases stored

theorem tells (confined : IsConfined layout contents ns controller)
    (home : ∀ service, controller.observer.Knows service → service.key.ns.toLower = ns)
    (r : Request) (response : Response) :
    Namespaces.Tells layout contents ns r (answer now response r controller).1 := by
  cases r with
  | readService key =>
    intro service found
    exact home service (.inl (Cache.holds_of_find? found))
  | list start =>
    intro entries succeeded x value listed owned
    cases response with
    | succeeds =>
      cases succeeded
      exact confined.accounts (Store.mem_listing.mp listed).1 owned
    | fails error takesEffect => cases succeeded
  | _ => trivial

theorem kept_answer (confined : IsConfined layout contents ns controller) {r : Request}
    (permitted : Namespaces.Permits layout contents ns r) (response : Response) (x : String)
    (outside : ¬layout.IsWithin ns x) :
    (answer now response r controller).2.contents[x]? = contents[x]? ∨
      layout.HasOwned contents x ∧ (answer now response r controller).2.contents[x]? = none := by
  cases r with
  | put y value =>
    change (controller.write response (.put y value)).2.contents[x]? = _ ∨
      _ ∧ (controller.write response (.put y value)).2.contents[x]? = none
    rcases contents_write response (.put y value) controller with applied | same
    · have other : y ≠ x := fun same => outside (same ▸ permitted)
      rw [applied, Store.Call.apply, Store.getElem?_insert, if_neg other]
      exact confined.kept x outside
    · rw [same]
      exact confined.kept x outside
  | delete y =>
    change (controller.write response (.delete y)).2.contents[x]? = _ ∨
      _ ∧ (controller.write response (.delete y)).2.contents[x]? = none
    rcases contents_write response (.delete y) controller with applied | same
    · rw [applied, Store.Call.apply, Store.getElem?_erase]
      split
      · rename_i own
        subst own
        exact .inr ⟨permitted.resolve_left outside, rfl⟩
      · exact confined.kept x outside
    · rw [same]
      exact confined.kept x outside
  | _ => exact confined.kept x outside

theorem step (confined : IsConfined layout contents ns controller)
    (home : ∀ service, controller.observer.Knows service → service.key.ns.toLower = ns)
    (acts : controller.Acts layout ceiling now action after) :
    IsConfined layout contents ns after := by
  have warrants := Namespaces.warrants layout contents ns
  have abides := confined.abides.step acts warrants.achieves_reconcile warrants.achieves_sweep
    (confined.tells home) fun _ r response _ => confined.tells home r response
  refine ⟨abides, ?_⟩
  intro x outside
  by_cases observes : ∃ event, action = .observe event
  · obtain ⟨event, rfl⟩ := observes
    cases acts
    exact confined.kept x outside
  · rcases acts.shared (not_exists.mp observes) with ⟨-, stored⟩ | ⟨r, response, asks, -, stored⟩
    · rw [stored]
      exact confined.kept x outside
    · rw [stored]
      exact confined.kept_answer (confined.permits asks) response x outside

end IsConfined

theorem keepsWithin_of_run (run : Run layout ceiling { contents } history controller)
    (restricted : IsRestricted ns history) :
    controller.KeepsWithin layout contents ns.toLower := by
  suffices confined : IsConfined layout contents ns.toLower controller from confined.keepsWithin
  induction run with
  | start => exact ⟨⟨nofun, nofun⟩, fun _ _ => .inl rfl⟩
  | @step history before after now action run acted ih =>
    have earlier : IsRestricted ns history := fun occasion member =>
      restricted occasion (List.mem_cons_of_mem _ member)
    refine (ih earlier).step ?_ (acts_of_act? acted)
    intro service knows
    rw [earlier.of_isObserved (isObserved_of_knows run knows)]

/-- The store of the sample with a value in another namespace. -/
def neighbouredContents (value : String) : Store.Contents :=
  sampleContents.insert "/skydns/z1/dev/b/e" value

/-- The sample is listed, and a sweep is made of all that is below the root. -/
def listAndSweep (requests : Nat) : List Action :=
  [.observe .listStarted, .observe (.listed (sample "z1")), .observe .listComplete,
    .startSweep 0] ++ List.replicate requests (.serveSweep 0 .succeeds) ++ [.finishSweep 0]

/-- A foreign value in another namespace stays where it is. -/
theorem keepsWithin_of_run_foreign :
    ∃ history controller, Run {} .unbounded { contents := neighbouredContents "foreign" } history
        controller ∧ IsRestricted "svc" history ∧
      controller.KeepsWithin {} (neighbouredContents "foreign") "svc" ∧
      controller.contents["/skydns/z1/dev/b/e"]? = some "foreign" := by
  have replayed : ∃ outcome ∈ replay? {} .unbounded []
        { contents := neighbouredContents "foreign" }
        (atOnce (listAndSweep 2 ++ [.forward] ++ attempt 3)),
      IsRestricted "svc" outcome.1 ∧
        outcome.2.contents["/skydns/z1/dev/b/e"]? = some "foreign" := by
    decide +kernel
  obtain ⟨history, controller, run, restricted, stored⟩ := exists_run replayed
  have lower : "svc".toLower = "svc" := by decide +kernel
  exact ⟨history, controller, run, restricted, lower ▸ keepsWithin_of_run run restricted, stored⟩

/-- An entry of another namespace that has the same owner is announced by a sweep, although only
the service of this namespace has been looked for, and a worker deletes it. -/
theorem exists_not_keepsWithin :
    ∃ history controller,
      Run {} .unbounded { contents := neighbouredContents sampleEntry.text } history controller ∧
      IsRestricted "svc" history ∧ (∀ occasion ∈ history, occasion.AwaitsList) ∧
      Layout.locate? {} "/skydns/z1/dev/b/e" = some ⟨⟨"dev", "b"⟩, "z1", "e"⟩ ∧
      (∃ occasion ∈ history, occasion.before.sweeperAsks? 0 = some (.markStale ⟨"dev", "b"⟩ "z1")) ∧
      (∃ occasion ∈ history, occasion.before.sweeperAsks? 0 = some (.enqueue ⟨"dev", "b"⟩)) ∧
      (∃ occasion ∈ history,
        occasion.before.workerAsks? 0 = some (.delete "/skydns/z1/dev/b/e")) ∧
      (neighbouredContents sampleEntry.text)["/skydns/z1/dev/b/e"]? = some sampleEntry.text ∧
      controller.contents["/skydns/z1/dev/b/e"]? = none := by
  have replayed : ∃ outcome ∈ replay? {} .unbounded []
        { contents := neighbouredContents sampleEntry.text }
        (atOnce (listAndSweep 5 ++ attempt 5)),
      IsRestricted "svc" outcome.1 ∧ (∀ occasion ∈ outcome.1, occasion.AwaitsList) ∧
        (∃ occasion ∈ outcome.1,
          occasion.before.sweeperAsks? 0 = some (.markStale ⟨"dev", "b"⟩ "z1")) ∧
        (∃ occasion ∈ outcome.1, occasion.before.sweeperAsks? 0 = some (.enqueue ⟨"dev", "b"⟩)) ∧
        (∃ occasion ∈ outcome.1,
          occasion.before.workerAsks? 0 = some (.delete "/skydns/z1/dev/b/e")) ∧
        outcome.2.contents["/skydns/z1/dev/b/e"]? = none := by
    decide +kernel
  obtain ⟨history, controller, run, restricted, awaiting, marks, announces, deletes, gone⟩ :=
    exists_run replayed
  exact ⟨history, controller, run, restricted, awaiting, by decide +kernel, marks, announces,
    deletes, by decide +kernel, gone⟩

end Concurrent

end ServiceRecords
