import ServiceRecords.Proofs.Concurrent.Restart
import ServiceRecords.Proofs.Concurrent.Upkeep
import ServiceRecords.Proofs.Reconcile.Sparing

set_option autoImplicit false

/-!
# Live entries in any store

Whatever is stored, and however sweeps and reconciliations take turns: while the cache stays as it
is, an entry of a live service is never deleted without a mistaken entry in the store
(`sparesLive_of_run`, `not_isMistaken`). With one, it may be: a sweep takes an owned entry below a
key in upper case for one of another service, whose directory is cleaned, and that is the directory
of the live one (`exists_not_sparesLive`).
-/

namespace ServiceRecords.Concurrent

open Controller

variable {layout : Layout} {ceiling : RetryCeiling} {now : Nat} {action : Action} {cache : Cache}
  {contents : Store.Contents} {controller after : Controller} {history : List Occasion}

/-- Nobody is about to delete an entry of a live service, unless there is a mistaken entry. -/
def Controller.SparesLive (layout : Layout) (cache : Cache) (contents : Store.Contents)
    (controller : Controller) : Prop :=
  ∀ x, controller.Asks (.delete x) → ∀ service entry, cache.IsLive service →
    layout.Names service x entry → layout.IsMistaken contents service

/-- No entry is mistaken where every owned one lies in the directory of a key in lower case. -/
theorem not_isMistaken (placed : IsPlaced layout contents) {service : Service}
    (lower : service.key.IsLower) : ¬layout.IsMistaken contents service := by
  rintro ⟨_, _, ⟨x, value, location, stored, owned, located, rfl, rfl⟩, other, same⟩
  have below_root : ∃ rest, layout.root ++ "/" ++ rest = x := by
    unfold Layout.locate? at located
    obtain ⟨rest, found, -⟩ := Option.bind_eq_some_iff.mp located
    exact ⟨rest, Text.after?_eq_some.mp found⟩
  obtain ⟨key, zone, lower', resides⟩ := placed x value stored owned below_root
  obtain ⟨leaf, located'⟩ := Layout.locate?_of_isLower lower' resides
  rw [located] at located'
  cases located'
  -- The directory it is taken to be in is the one that it is in.
  obtain ⟨directory, found, below⟩ := resides.normalize.normalize
  rw [same] at found
  have again : layout.Resides service.key service.spec.zone x := ⟨directory, found, below⟩
  exact other ⟨resides.eq_of_isLower lower' lower again, (resides.normalize.lower_eq again).2.2⟩

/-- What holds as long as nothing is observed. -/
structure IsSparing (layout : Layout) (cache : Cache) (contents : Store.Contents)
    (controller : Controller) : Prop where
  cached : controller.observer.cache = cache
  marked : ∀ key, ∀ zone ∈ controller.observer.stale.zones key,
    layout.Attributes contents key zone
  accounted : ∀ (x : String) value, controller.contents[x]? = some value →
    layout.owns value = true → Sparing.Accounts layout cache contents x value
  abides : controller.Abides (Sparing.terms layout cache contents)
    (Sparing.terms layout cache contents)

namespace IsSparing

theorem start (layout : Layout) (cache : Cache) (contents : Store.Contents) :
    IsSparing layout cache contents { observer := { cache }, contents } where
  cached := rfl
  marked := by simp [StaleZones.zones, StaleZones.empty]
  accounted _ _ found _ := .inl found
  abides := ⟨nofun, nofun⟩

theorem permits (sparing : IsSparing layout cache contents controller) {r : Request}
    (asks : controller.Asks r) : Sparing.Permits layout cache contents r :=
  (sparing.abides.permits asks).elim id id

theorem tells (sparing : IsSparing layout cache contents controller) (r : Request)
    (response : Response) :
    Sparing.Tells layout cache contents r (answer now response r controller).1 := by
  cases r with
  | readService key => exact congrArg (·.find? key) sparing.cached
  | readStale key => exact sparing.marked key
  | list start =>
    intro entries succeeded x value listed owned
    cases response with
    | succeeds =>
      cases succeeded
      exact sparing.accounted x value (Store.mem_listing.mp listed).1 owned
    | fails error takesEffect => cases succeeded
  | _ => trivial

theorem marked_answer (sparing : IsSparing layout cache contents controller) {r : Request}
    (permitted : Sparing.Permits layout cache contents r) (response : Response) (key : Key) :
    ∀ zone ∈ (answer now response r controller).2.observer.stale.zones key,
      layout.Attributes contents key zone := by
  intro zone member
  cases r with
  | clearStale cleared zones =>
    change zone ∈ (controller.observer.stale.clear cleared zones).zones key at member
    by_cases own : key = cleared
    · subst own
      rw [StaleZones.zones_clear, List.mem_filter] at member
      exact sparing.marked key zone member.1
    · rw [StaleZones.zones_clear_of_ne _ _ own] at member
      exact sparing.marked key zone member
  | markStale marked zone' =>
    rcases StaleZones.mem_zones_mark.mp member with member | ⟨rfl, rfl, -⟩
    · exact sparing.marked key zone member
    · exact permitted
  | _ => exact sparing.marked key zone member

theorem accounted_answer (sparing : IsSparing layout cache contents controller) {r : Request}
    (permitted : Sparing.Permits layout cache contents r) (response : Response) {x value : String}
    (found : (answer now response r controller).2.contents[x]? = some value)
    (owned : layout.owns value = true) : Sparing.Accounts layout cache contents x value := by
  cases r with
  | put y written =>
    obtain ⟨service, entry, live, names, -⟩ := permitted
    change (controller.write response (.put y written)).2.contents[x]? = some value at found
    rcases contents_write response (.put y written) controller with applied | same
    · rw [applied, Store.Call.apply, Store.getElem?_insert] at found
      split at found
      · rename_i own
        exact .inr ⟨service, entry, live, own ▸ names⟩
      · exact sparing.accounted x value found owned
    · rw [same] at found
      exact sparing.accounted x value found owned
  | delete y =>
    change (controller.write response (.delete y)).2.contents[x]? = some value at found
    rcases contents_write response (.delete y) controller with applied | same
    · rw [applied, Store.Call.apply, Store.getElem?_erase] at found
      split at found
      · cases found
      · exact sparing.accounted x value found owned
    · rw [same] at found
      exact sparing.accounted x value found owned
  | _ => exact sparing.accounted x value found owned

theorem step (sparing : IsSparing layout cache contents controller)
    (wellFormed : cache.IsWellFormed) (acts : controller.Acts layout ceiling now action after)
    (unobserved : action.event? = none) : IsSparing layout cache contents after := by
  have abides := sparing.abides.step acts (Sparing.achieves_reconcile wellFormed)
    (Sparing.achieves_sweep wellFormed) sparing.tells fun _ r response _ => sparing.tells r response
  have unobserved : ∀ event, action ≠ .observe event := by
    rintro event rfl
    cases unobserved
  have cached := (acts.cache unobserved).1.trans sparing.cached
  rcases acts.shared unobserved with ⟨observer, stored⟩ | ⟨r, response, asks, observer, stored⟩
  · refine ⟨cached, ?_, ?_, abides⟩
    · rw [observer]
      exact sparing.marked
    · rw [stored]
      exact sparing.accounted
  · have permitted := sparing.permits asks
    refine ⟨cached, ?_, ?_, abides⟩
    · rw [observer]
      exact sparing.marked_answer permitted response
    · rw [stored]
      exact fun x value found => sparing.accounted_answer permitted response found

end IsSparing

theorem sparesLive_of_run (wellFormed : cache.IsWellFormed)
    (run : Run layout ceiling { observer := { cache }, contents } history controller)
    (unobserved : ∀ occasion ∈ history, occasion.action.event? = none) :
    controller.SparesLive layout cache contents := by
  have sparing : IsSparing layout cache contents controller := by
    induction run with
    | start => exact .start layout cache contents
    | step run acted ih =>
      rw [List.forall_mem_cons] at unobserved
      exact (ih unobserved.2).step wellFormed (acts_of_act? acted) unobserved.1
  exact fun x asks => sparing.permits asks

/-- The cache with the sample alone. -/
def sampleCache : Cache := ⟨(∅ : Std.ExtTreeMap Key Service).insert ⟨"svc", "a"⟩ (sample "z1"), ∅⟩

theorem isWellFormed_sampleCache : sampleCache.IsWellFormed := by
  have proper : (sample "z1").IsProper := by decide +kernel
  obtain ⟨changed, inserted, found⟩ := Cache.empty.exists_insert? proper.named
  obtain rfl : sampleCache = changed := Option.some.inj inserted
  exact Cache.isWellFormed_empty.insert? proper found

theorem isLive_sample : sampleCache.IsLive (sample "z1") := ⟨by decide +kernel, rfl⟩

/-- One sweep up to its end, and an attempt up to the first request that writes. -/
def sweepAndAttempt : List Action :=
  .startSweep 0 :: List.replicate 5 (.serveSweep 0 .succeeds) ++
    [.finishSweep 0, .take 0, .serve 0 .succeeds, .serve 0 .succeeds, .serve 0 .succeeds]

/-- An orphan is about to be deleted. -/
theorem sparesLive_of_run_orphan :
    ∃ history controller, sampleCache.IsWellFormed ∧
      Run {} .unbounded { observer := { cache := sampleCache }, contents :=
        sampleContents.insert "/skydns/z2/svc/a/e" sampleEntry.text } history controller ∧
      (∀ occasion ∈ history, occasion.action.event? = none) ∧
      controller.SparesLive {} sampleCache
        (sampleContents.insert "/skydns/z2/svc/a/e" sampleEntry.text) ∧
      controller.workerAsks? 0 = some (.delete "/skydns/z2/svc/a/e") := by
  have replayed : ∃ outcome ∈ replay? {} .unbounded []
        { observer := { cache := sampleCache }, contents :=
          sampleContents.insert "/skydns/z2/svc/a/e" sampleEntry.text } (atOnce sweepAndAttempt),
      (∀ occasion ∈ outcome.1, occasion.action.event?.isNone = true) ∧
        outcome.2.workerAsks? 0 = some (.delete "/skydns/z2/svc/a/e") := by
    decide +kernel
  obtain ⟨history, controller, run, unobserved, asks⟩ := exists_run replayed
  have unobserved : ∀ occasion ∈ history, occasion.action.event? = none := fun occasion member =>
    Option.isNone_iff_eq_none.mp (unobserved occasion member)
  exact ⟨history, controller, isWellFormed_sampleCache, run, unobserved,
    sparesLive_of_run isWellFormed_sampleCache run unobserved, asks⟩

/-- An entry below the key in upper case makes a worker delete the live entry, although that reads
as it should. -/
theorem exists_not_sparesLive :
    ∃ contents history controller, sampleCache.IsWellFormed ∧
      Run {} .unbounded { observer := { cache := sampleCache }, contents } history controller ∧
      (∀ occasion ∈ history, occasion.action.event? = none) ∧
      sampleCache.IsLive (sample "z1") ∧
      Layout.Names {} (sample "z1") "/skydns/z1/svc/a/e" sampleEntry ∧
      (∃ value, controller.contents["/skydns/z1/svc/a/e"]? = some value ∧
        Entry.ofText? value = some sampleEntry) ∧
      controller.workerAsks? 0 = some (.delete "/skydns/z1/svc/a/e") := by
  have replayed : ∃ outcome ∈ replay? {} .unbounded []
        { observer := { cache := sampleCache }, contents :=
          sampleContents.insert "/skydns/z1/SVC/a/e" sampleEntry.text } (atOnce sweepAndAttempt),
      (∀ occasion ∈ outcome.1, occasion.action.event?.isNone = true) ∧
        outcome.2.contents["/skydns/z1/svc/a/e"]? = some sampleEntry.text ∧
        outcome.2.workerAsks? 0 = some (.delete "/skydns/z1/svc/a/e") := by
    decide +kernel
  obtain ⟨history, controller, run, unobserved, stored, asks⟩ := exists_run replayed
  have unobserved : ∀ occasion ∈ history, occasion.action.event? = none := fun occasion member =>
    Option.isNone_iff_eq_none.mp (unobserved occasion member)
  exact ⟨_, history, controller, isWellFormed_sampleCache, run, unobserved, isLive_sample,
    names_sample.mpr ⟨rfl, rfl⟩, ⟨_, stored, Entry.ofText?_text sampleEntry⟩, asks⟩

end ServiceRecords.Concurrent
