import ServiceRecords.Proofs.Concurrent.Controller
import ServiceRecords.Proofs.Reconcile.Caution
import ServiceRecords.Proofs.Watch.Keying

set_option autoImplicit false

/-!
# Foreign data

Whatever is in the store at the start, whatever services are observed and whatever fails: nothing
that is stored and not owned is ever deleted, and it is overwritten only by an entry of a service
that was observed (`respectsForeign_of_run`). What carries the proof is that no step of any part
puts a foreign value anywhere (`IsCautious.yields`), so that what a worker knows from a listing
remains true.
-/

namespace ServiceRecords.Concurrent

open Controller

variable {layout : Layout} {ceiling : RetryCeiling} {now : Nat} {action : Action}
  {controller after : Controller} {history : List Occasion} {key : Key} {service : Service}

/-- The service was applied or listed at some time. -/
def IsObserved (history : List Occasion) (service : Service) : Prop :=
  ∃ occasion ∈ history,
    occasion.action = .observe (.applied service) ∨ occasion.action = .observe (.listed service)

/-- The cache held the service for the key at some time. -/
def WasCached (history : List Occasion) (key : Key) (service : Service) : Prop :=
  ∃ occasion ∈ history, occasion.before.observer.cache.find? key = some service

theorem IsObserved.cons (observed : IsObserved history service) (latest : Occasion) :
    IsObserved (latest :: history) service := by
  obtain ⟨occasion, member, event⟩ := observed
  exact ⟨occasion, List.mem_cons_of_mem _ member, event⟩

theorem isObserved_of_knows {contents : Store.Contents}
    (run : Run layout ceiling { contents } history controller)
    (knows : controller.observer.Knows service) : IsObserved history service := by
  induction run with
  | start =>
    rcases knows with cached | buffered
    · exact absurd cached Cache.not_holds_empty
    · exact absurd buffered Cache.not_holds_empty
  | @step history before after now action run acted ih =>
    have acts := acts_of_act? acted
    by_cases observes : ∃ event, action = .observe event
    · obtain ⟨event, rfl⟩ := observes
      cases acts
      rcases knows.of_apply with knew | applied | listed
      · exact (ih knew).cons _
      · exact ⟨_, List.mem_cons_self .., .inl (congrArg Action.observe applied)⟩
      · exact ⟨_, List.mem_cons_self .., .inr (congrArg Action.observe listed)⟩
    · obtain ⟨cache, buffer⟩ := acts.cache (not_exists.mp observes)
      unfold Observer.Knows at knows
      rw [cache, buffer] at knows
      exact (ih knows).cons _

/-- Whatever is observed and in whichever order, services are cached under their own names. -/
theorem isKeyed_of_run {contents : Store.Contents}
    (run : Run layout ceiling { contents } history controller) : controller.observer.IsKeyed := by
  induction run with
  | start => exact Observer.isKeyed_start
  | @step history before after now action run acted ih =>
    have acts := acts_of_act? acted
    by_cases observes : ∃ event, action = .observe event
    · obtain ⟨event, rfl⟩ := observes
      cases acts
      exact ih.apply event
    · obtain ⟨cache, buffer⟩ := acts.cache (not_exists.mp observes)
      exact ⟨cache ▸ ih.cache, buffer ▸ ih.buffer⟩

theorem isObserved_of_wasCached {contents : Store.Contents}
    (run : Run layout ceiling { contents } history controller)
    (cached : WasCached history key service) : IsObserved history service := by
  induction run with
  | start =>
    obtain ⟨occasion, member, -⟩ := cached
    cases member
  | @step history before after now action run acted ih =>
    obtain ⟨occasion, member, found⟩ := cached
    rcases List.mem_cons.mp member with rfl | member
    · exact (isObserved_of_knows run (.inl (Cache.holds_of_find? found))).cons _
    · exact (ih ⟨occasion, member, found⟩).cons _

def Controller.caution (controller : Controller) (history : List Occasion) (key : Key) :
    Caution where
  held := WasCached history key
  contents := controller.contents

/-- Every worker and every sweep keeps to its agreement. -/
structure IsCautious (layout : Layout) (history : List Occasion) (controller : Controller) :
    Prop where
  reconciling : ∀ worker key rest, controller.workers worker = some ⟨key, .reconciling rest⟩ →
    (Caution.agreement layout key).Honours (fun _ _ => True) rest (controller.caution history key)
  sweeping : ∀ sweeper rest, controller.sweepers sweeper = some rest →
    Caution.reading.Honours (fun _ _ => True) rest ()

theorem honours_reconcile (layout : Layout) (key : Key) (caution : Caution) :
    (Caution.agreement layout key).Honours (fun _ _ => True) (reconcile layout key).run caution :=
  (Caution.achieves_reconcile.honours caution trivial).mono fun _ _ _ => trivial

theorem honours_sweep (layout : Layout) :
    Caution.reading.Honours (fun _ _ => True) (sweep layout).run () :=
  (Caution.achieves_sweep.honours () trivial).mono fun _ _ _ => trivial

/-- A request that does not write leaves the store as it is. -/
theorem contents_answer {r : Request} (reads : Caution.writes r = false) (response : Response) :
    (answer now response r controller).2.contents = controller.contents := by
  cases r with
  | put x value => cases reads
  | delete x => cases reads
  | _ => rfl

/-- What may have become of a place: nothing, or it was free of foreign values and has been emptied,
or an entry of a service that was cached has been written. -/
def Treats (layout : Layout) (history : List Occasion) (before after : Store.Contents)
    (x : String) : Prop :=
  after[x]? = before[x]? ∨
    (∀ value, before[x]? = some value → layout.owns value = true) ∧ after[x]? = none ∨
    ∃ key service entry value, WasCached history key service ∧ layout.Names service x entry ∧
      Entry.ofText? value = some entry ∧ after[x]? = some value

theorem treats_answer {r : Request}
    (permitted : Caution.Permits layout r (controller.caution history key)) (response : Response)
    (x : String) : Treats layout history controller.contents
      (answer now response r controller).2.contents x := by
  cases r with
  | put y value =>
    obtain ⟨service, entry, held, names, read⟩ := permitted
    rcases contents_write response (.put y value) controller with written | same
    · by_cases own : y = x
      · subst own
        refine .inr (.inr ⟨key, service, entry, value, held, names, read, ?_⟩)
        change (controller.write response (.put y value)).2.contents[y]? = _
        rw [written]
        exact (Store.getElem?_insert ..).trans (if_pos rfl)
      · left
        change (controller.write response (.put y value)).2.contents[x]? = _
        rw [written]
        exact (Store.getElem?_insert ..).trans (if_neg own)
    · exact .inl (congrArg (·[x]?) same)
  | delete y =>
    rcases contents_write response (.delete y) controller with written | same
    · by_cases own : y = x
      · subst own
        refine .inr (.inl ⟨permitted, ?_⟩)
        change (controller.write response (.delete y)).2.contents[y]? = _
        rw [written]
        exact (Store.getElem?_erase ..).trans (if_pos rfl)
      · left
        change (controller.write response (.delete y)).2.contents[x]? = _
        rw [written]
        exact (Store.getElem?_erase ..).trans (if_neg own)
    · exact .inl (congrArg (·[x]?) same)
  | _ => exact .inl rfl

theorem Treats.free {before after : Store.Contents} {x : String}
    (treats : Treats layout history before after x)
    (free : ∀ value, before[x]? = some value → layout.owns value = true) :
    ∀ value, after[x]? = some value → layout.owns value = true := by
  intro value found
  rcases treats with same | ⟨-, gone⟩ | ⟨key, service, entry, written, -, names, read, stored⟩
  · exact free value (same ▸ found)
  · rw [gone] at found
    cases found
  · rw [stored] at found
    cases found
    obtain ⟨record, made, member⟩ := names
    exact Layout.owns_iff.mpr ⟨entry, read, Layout.owner_of_record made member⟩

namespace IsCautious

theorem treats (cautious : IsCautious layout history controller)
    (acts : controller.Acts layout ceiling now action after) (x : String) :
    Treats layout history controller.contents after.contents x := by
  rcases acts.contents with same | ⟨worker, key, r, resume, response, asks, written⟩ |
    ⟨sweeper, r, resume, response, asks, written⟩
  · exact .inl (congrArg (·[x]?) same)
  · obtain ⟨permitted, -⟩ := cautious.reconciling worker key _ asks _ (.refl _)
    rw [written]
    exact treats_answer permitted response x
  · obtain ⟨reads, -⟩ := cautious.sweeping sweeper _ asks () trivial
    rw [written, contents_answer reads]
    exact .inl rfl

/-- A step is one that every reconciliation allows for. -/
theorem yields (cautious : IsCautious layout history controller)
    (acts : controller.Acts layout ceiling now action after) (occasion : Occasion) (key : Key) :
    Caution.Yields layout (controller.caution history key)
      (after.caution (occasion :: history) key) where
  held := by
    rintro service ⟨earlier, member, cached⟩
    exact ⟨earlier, List.mem_cons_of_mem _ member, cached⟩
  free x free := (cautious.treats acts x).free free

theorem start (layout : Layout) (contents : Store.Contents) :
    IsCautious layout [] { contents } :=
  ⟨nofun, nofun⟩

theorem step (cautious : IsCautious layout history controller)
    (acts : controller.Acts layout ceiling now action after) :
    IsCautious layout (⟨controller, now, action⟩ :: history) after := by
  refine ⟨?_, ?_⟩
  · intro worker key rest found
    have step := cautious.yields acts ⟨controller, now, action⟩ key
    rcases acts.reconciling found with had | rfl | ⟨r, resume, response, asks, -, rfl, rfl⟩
    · exact (cautious.reconciling worker key rest had).yields step
    · exact honours_reconcile layout key _
    · obtain ⟨-, answered⟩ := cautious.reconciling worker key _ asks _ (.refl _)
      refine answered _ _ ⟨step, ?_⟩
      cases r with
      -- The copy that is read now is one that was cached, from this occasion on.
      | readService other =>
        rintro rfl service cached
        exact ⟨_, List.mem_cons_self .., cached⟩
      | list start =>
        intro entries succeeded
        cases response with
        | succeeds =>
          cases succeeded
          rfl
        | fails error takesEffect => cases succeeded
      | _ => trivial
  · intro sweeper rest found
    rcases acts.sweepers found with had | rfl | ⟨r, resume, response, asks, -, -, rfl⟩
    · exact cautious.sweeping sweeper rest had
    · exact honours_sweep layout
    · exact (cautious.sweeping sweeper _ asks () trivial).2 _ () trivial

end IsCautious

theorem isCautious_of_run {contents : Store.Contents}
    (run : Run layout ceiling { contents } history controller) :
    IsCautious layout history controller := by
  induction run with
  | start => exact IsCautious.start layout contents
  | step run acted ih => exact ih.step (acts_of_act? acted)

/-- How the controller treats what it does not own, whatever it has done so far. -/
structure RespectsForeign (layout : Layout) (ceiling : RetryCeiling) (history : List Occasion)
    (controller : Controller) : Prop where
  /-- Where a worker is about to delete, there is nothing or an owned entry. -/
  deletes : ∀ worker key x resume,
    controller.workers worker = some ⟨key, .reconciling (.ask (.delete x) resume)⟩ →
    ∀ value, controller.contents[x]? = some value → layout.owns value = true
  /-- What a worker is about to write is an entry of a service that was cached for its key. -/
  puts : ∀ worker key x value resume,
    controller.workers worker = some ⟨key, .reconciling (.ask (.put x value) resume)⟩ →
    ∃ service entry, WasCached history key service ∧ layout.Names service x entry ∧
      Entry.ofText? value = some entry
  sweeps : ∀ sweeper r resume, controller.sweepers sweeper = some (.ask r resume) →
    Caution.writes r = false
  /-- The next step removes no foreign value, and replaces it only for an observed service. -/
  next : ∀ now action after, controller.act? layout ceiling now action = some after →
    ∀ (x : String) value, controller.contents[x]? = some value → layout.owns value = false →
      after.contents[x]? = some value ∨
        ∃ service entry value', IsObserved history service ∧ layout.Names service x entry ∧
          Entry.ofText? value' = some entry ∧ after.contents[x]? = some value'
  /-- A foreign value of the past is still there if no observed service names its place. -/
  kept : ∀ occasion ∈ history, ∀ (x : String) value, occasion.before.contents[x]? = some value →
    layout.owns value = false → controller.contents[x]? = some value ∨
      ∃ service entry, IsObserved history service ∧ layout.Names service x entry

/-- What becomes of a foreign value in one step. -/
theorem exists_of_treats {contents : Store.Contents}
    (run : Run layout ceiling { contents } history controller)
    (acted : controller.act? layout ceiling now action = some after) {x value : String}
    (stored : controller.contents[x]? = some value) (foreign : layout.owns value = false) :
    after.contents[x]? = some value ∨
      ∃ service entry value', IsObserved history service ∧ layout.Names service x entry ∧
        Entry.ofText? value' = some entry ∧ after.contents[x]? = some value' := by
  rcases (isCautious_of_run run).treats (acts_of_act? acted) x with same | ⟨free, -⟩ |
    ⟨key, service, entry, value', cached, names, read, written⟩
  · exact .inl (same.trans stored)
  · rw [free value stored] at foreign
    cases foreign
  · exact .inr ⟨service, entry, value', isObserved_of_wasCached run cached, names, read, written⟩

theorem kept_of_run {contents : Store.Contents}
    (run : Run layout ceiling { contents } history controller) {occasion : Occasion}
    (member : occasion ∈ history) {x value : String}
    (stored : occasion.before.contents[x]? = some value) (foreign : layout.owns value = false) :
    controller.contents[x]? = some value ∨
      ∃ service entry, IsObserved history service ∧ layout.Names service x entry := by
  induction run with
  | start => cases member
  | @step history before after now action run acted ih =>
    have unchanged : before.contents[x]? = some value ∨
        ∃ service entry, IsObserved history service ∧ layout.Names service x entry := by
      rcases List.mem_cons.mp member with rfl | member
      · exact .inl stored
      · exact ih member
    rcases unchanged with stored | ⟨service, entry, observed, names⟩
    · rcases exists_of_treats run acted stored foreign with kept | ⟨service, entry, -, observed,
        names, -⟩
      · exact .inl kept
      · exact .inr ⟨service, entry, observed.cons _, names⟩
    · exact .inr ⟨service, entry, observed.cons _, names⟩

theorem respectsForeign_of_run {contents : Store.Contents}
    (run : Run layout ceiling { contents } history controller) :
    RespectsForeign layout ceiling history controller where
  deletes worker key _ _ asks :=
    ((isCautious_of_run run).reconciling worker key _ asks _ (.refl _)).1
  puts worker key _ _ _ asks :=
    ((isCautious_of_run run).reconciling worker key _ asks _ (.refl _)).1
  sweeps sweeper _ _ asks := ((isCautious_of_run run).sweeping sweeper _ asks () trivial).1
  next _ _ _ acted _ _ stored foreign := exists_of_treats run acted stored foreign
  kept _ member _ _ stored foreign := kept_of_run run member stored foreign

/-- Of two foreign values in the directory of a service, the one that is in the way of its endpoint
is replaced. -/
theorem respectsForeign_of_run_sample :
    ∃ history controller, Run {} .unbounded
        { contents := ((∅ : Store.Contents).insert "/skydns/z1/svc/a/e" "foreign").insert
            "/skydns/z1/svc/a/f" "foreign" } history controller ∧
      RespectsForeign {} .unbounded history controller ∧
      controller.contents["/skydns/z1/svc/a/e"]? ≠ some "foreign" ∧
      controller.contents["/skydns/z1/svc/a/f"]? = some "foreign" := by
  have replayed : ∃ outcome ∈ replay? {} .unbounded []
        { contents := ((∅ : Store.Contents).insert "/skydns/z1/svc/a/e" "foreign").insert
            "/skydns/z1/svc/a/f" "foreign" }
        (atOnce ([.observe (.applied (sample "z1")), .forward] ++ attempt 4)),
      outcome.2.contents["/skydns/z1/svc/a/e"]? ≠ some "foreign" ∧
      outcome.2.contents["/skydns/z1/svc/a/f"]? = some "foreign" := by
    decide +kernel
  obtain ⟨history, controller, run, replaced, kept⟩ := exists_run replayed
  exact ⟨history, controller, run, respectsForeign_of_run run, replaced, kept⟩

end ServiceRecords.Concurrent
