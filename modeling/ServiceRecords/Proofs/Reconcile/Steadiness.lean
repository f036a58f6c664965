import ServiceRecords.Proofs.Reconcile.Recovery
import ServiceRecords.Proofs.Record.ReadingBack
import ServiceRecords.Proofs.Watch.Provenance

set_option autoImplicit false

/-!
# Entries that are right already

A reconciliation leaves alone what is right, unless it cleans the directory of the service itself
(`leavesAlone_of_apart`). That happens where a zone is marked that is not the normal form of the
service's zone but becomes it when it is put in normal form again. Whatever has been observed, the
marks are in normal form, but a normal form may begin or end with a blank, and is then not one of
itself (`leavesAlone_of_evolves`, `exists_not_leavesAlone`).
-/

namespace ServiceRecords

/-- A value is stored that is read as the entry. -/
def Store.Reads (contents : Store.Contents) (x : String) (entry : Entry) : Prop :=
  ∃ value, contents[x]? = some value ∧ Entry.ofText? value = some entry

namespace Surroundings

variable {α : Type} {layout : Layout} {key : Key} {service : Service} {record : Record}
  {start before after : Surroundings} {events : List WatchEvent}
  {result : Except ReconcileError Outcome}

theorem buffer_of_serves {r : Request} {reply : r.Reply} (served : Serves r before reply after) :
    after.observer.buffer = before.observer.buffer := by
  rcases observer_of_serves served with same | ⟨_, _, -, rfl⟩ | ⟨_, _, -, rfl⟩
  · rw [same]
  · rfl
  · rfl

/-- No request but one adds marks. -/
theorem zones_subset_of_serves {r : Request} {reply : r.Reply}
    (unmarked : ∀ key zone, r ≠ .markStale key zone) (served : Serves r before reply after)
    (key : Key) : after.observer.stale.zones key ⊆ before.observer.stale.zones key := by
  rcases observer_of_serves served with same | ⟨_, _, -, rfl⟩ | ⟨key', zone, rfl, -⟩
  · rw [same]
    exact List.Subset.refl _
  · exact StaleZones.zones_clear_subset
  · exact absurd rfl (unmarked key' zone)

/-- On its own, a procedure keeps to its terms if an invariant vouches for the replies. -/
theorem honours_of_invariant {terms : Terms} (invariant : Surroundings → Prop)
    (answered : ∀ {r before reply after}, invariant before → terms.permits r →
      Serves r before reply after → terms.tells r reply ∧ invariant after)
    {post : α → Unit → Prop} {procedure later : Procedure α}
    (honours : terms.agreement.Honours post procedure ()) (begun : invariant before)
    (proceeds : Relation.ReflTransGen Proceeds (procedure, before) (later, after)) :
    terms.agreement.Honours post later () ∧ invariant after := by
  generalize finish : (later, after) = last at proceeds
  induction proceeds generalizing later after with
  | refl =>
    cases finish
    exact ⟨honours, begun⟩
  | tail _ step ih =>
    cases step with
    | serve served =>
      cases finish
      obtain ⟨honours, holds⟩ := ih rfl
      obtain ⟨permitted, resumes⟩ := honours () trivial
      obtain ⟨told, kept⟩ := answered holds permitted served
      exact ⟨resumes _ () told, kept⟩

/-- While the key is reconciled, no entry of the record is deleted, and none is put that could be
read at the start. -/
def LeavesAlone (layout : Layout) (key : Key) (before : Surroundings) (record : Record) : Prop :=
  ∀ (r : Request) (resume : r.Reply → Procedure (Except ReconcileError Outcome))
    (during : Surroundings),
    Relation.ReflTransGen Proceeds ((ServiceRecords.reconcile layout key).run, before)
      (.ask r resume, during) →
    ∀ x entry, record.entries[x]? = some entry → r ≠ .delete x ∧
      (Store.Reads before.memory.contents x entry → ∀ value, r ≠ .put x value)

/-- The observer is told of an event. -/
def observe (event : WatchEvent) (surroundings : Surroundings) : Surroundings :=
  { surroundings with observer := (surroundings.observer.apply event).2 }

/-- Events are observed and keys are reconciled, one after the other and with whatever result. -/
inductive Evolves (layout : Layout) (start : Surroundings) :
    List WatchEvent → Surroundings → Prop
  | start : Evolves layout start [] start
  | observe {events : List WatchEvent} {before : Surroundings}
      (evolves : Evolves layout start events before) (event : WatchEvent) :
      Evolves layout start (event :: events) (before.observe event)
  | reconcile {events : List WatchEvent} {before after : Surroundings} {key : Key}
      {result : Except ReconcileError Outcome} (evolves : Evolves layout start events before)
      (ends : Ends (ServiceRecords.reconcile layout key).run before result after) :
      Evolves layout start events after

namespace Steadiness

/-- What a reconciliation may ask for that leaves the record alone. -/
def Permits (record : Record) (origin : Store.Contents) : Request → Prop
  | .delete x => record.entries[x]? = none
  | .put x _ => ∀ entry, record.entries[x]? = some entry → ¬Store.Reads origin x entry
  | .markStale .. => False
  | _ => True

/-- The entries of the record that could be read at the start can be read. -/
def Keeps (record : Record) (origin contents : Store.Contents) : Prop :=
  ∀ x entry, record.entries[x]? = some entry → Store.Reads origin x entry →
    Store.Reads contents x entry

/-- What the replies tell: no zones are marked but those that were, and no entry has got lost. -/
def Tells (record : Record) (before : Surroundings) : (r : Request) → r.Reply → Prop
  | .readService key, reply => reply = before.observer.cache.find? key
  | .readStale key, zones => zones ⊆ before.observer.stale.zones key
  | .list start, reply => ∀ entries, reply = .ok entries → ∃ contents,
      entries = Store.listing contents start ∧ Keeps record before.memory.contents contents
  | _, _ => True

def terms (record : Record) (before : Surroundings) : Terms where
  permits := Permits record before.memory.contents
  tells := Tells record before

structure Invariant (record : Record) (before during : Surroundings) : Prop where
  cache : during.observer.cache = before.observer.cache
  stale : ∀ key, during.observer.stale.zones key ⊆ before.observer.stale.zones key
  keeps : Keeps record before.memory.contents during.memory.contents

theorem answered {r : Request} {reply : r.Reply} {during later : Surroundings}
    (holds : Invariant record before during)
    (permitted : Permits record before.memory.contents r) (served : Serves r during reply later) :
    Tells record before r reply ∧ Invariant record before later := by
  have keeps : Keeps record before.memory.contents later.memory.contents := by
    intro x entry wanted read
    rcases stored_of_serves served x with same | ⟨value, rfl, -⟩ | ⟨rfl, -⟩
    · obtain ⟨value, stored, read⟩ := holds.keeps x entry wanted read
      exact ⟨value, same.trans stored, read⟩
    · exact absurd read (permitted entry wanted)
    · rw [show record.entries[x]? = none from permitted] at wanted
      cases wanted
  have unmarked : ∀ key zone, r ≠ .markStale key zone := by
    rintro key zone rfl
    exact permitted
  refine ⟨?_, (cache_of_serves served).trans holds.cache,
    fun key => List.Subset.trans (zones_subset_of_serves unmarked served key) (holds.stale key),
    keeps⟩
  cases r with
  | readService key =>
    obtain ⟨rfl, -⟩ := served
    exact congrArg (·.find? key) holds.cache
  | readStale key =>
    obtain ⟨rfl, -⟩ := served
    exact holds.stale key
  | list start => exact fun entries succeeded => ⟨_, served.2 entries succeeded, holds.keeps⟩
  | _ => trivial

/-- In the directory of a zone with another normal form there is no entry of the record. -/
theorem clears {zone directory : String} (made : layout.record service = .ok record)
    (apart : Dns.Zone.normalize zone ≠ Dns.Zone.normalize service.spec.zone)
    (found : layout.directory key zone = .ok directory) :
    (terms record before).Clears layout directory where
  list := trivial
  delete := by
    intro listed x value _ _ below _
    change record.entries[x]? = none
    by_contra named
    obtain ⟨entry, wanted⟩ := Option.ne_none_iff_exists'.mp named
    have resides : layout.Resides key zone x := ⟨directory, found, below⟩
    exact apart (resides.lower_eq (Layout.resides_of_record made wanted)).2.2

theorem publishes (made : layout.record service = .ok record) :
    (terms record before).Publishes layout record where
  list := trivial
  put := by
    intro listed x entry told wanted missing entry' wanted' read
    rw [wanted] at wanted'
    cases wanted'
    obtain ⟨contents, rfl, keeps⟩ := told listed rfl
    obtain ⟨value, stored, read⟩ := keeps x entry wanted read
    have held := Changes.holds_of_stored stored (Layout.spec_of_record made wanted).1 read
    rw [Store.listingIn, missing] at held
    cases held
  delete _ _ _ _ undesired := undesired

theorem grants (cached : before.observer.cache.find? key = some service)
    (alive : service.isDeleting = false) (made : layout.record service = .ok record)
    (apart : ∀ zone ∈ before.unwanted key,
      Dns.Zone.normalize zone ≠ Dns.Zone.normalize service.spec.zone) :
    (terms record before).Grants layout key where
  readService := trivial
  readStale := trivial
  clearStale _ _ _ := trivial
  clean := by
    rintro _ stale zone directory rfl marked member unwanted found
    exact clears made (apart zone (List.mem_filter.mpr ⟨marked member, by simpa using unwanted⟩))
      found
  withdraw := by
    intro other directory told deleting _
    obtain rfl : other = service := Option.some.inj (told.trans cached)
    rw [alive] at deleting
    cases deleting
  publish := by
    intro other record' told _ made'
    obtain rfl : other = service := Option.some.inj (told.trans cached)
    rw [made] at made'
    cases made'
    exact publishes made

end Steadiness

/-- A reconciliation that cleans no zone of the service itself leaves its record alone. -/
theorem leavesAlone_of_apart (cached : before.observer.cache.find? key = some service)
    (alive : service.isDeleting = false) (made : layout.record service = .ok record)
    (apart : ∀ zone ∈ before.unwanted key,
      Dns.Zone.normalize zone ≠ Dns.Zone.normalize service.spec.zone) :
    LeavesAlone layout key before record := by
  intro r resume during proceeds x entry wanted
  have honours := (Terms.achieves_reconcile
    (Steadiness.grants cached alive made apart)).honours () trivial
  have kept := honours_of_invariant (Steadiness.Invariant record before) Steadiness.answered honours
    ⟨rfl, fun _ => List.Subset.refl _, fun _ _ _ read => read⟩ proceeds
  have permitted : Steadiness.Permits record before.memory.contents r := (kept.1 () trivial).1
  refine ⟨?_, ?_⟩
  · rintro rfl
    rw [show record.entries[x]? = none from permitted] at wanted
    cases wanted
  · rintro read value rfl
    exact permitted entry wanted read

/-- Requests other than those of a sweep. -/
def unmarking : Terms where
  permits r := ∀ key zone, r ≠ .markStale key zone
  tells _ _ := True

theorem grants_unmarking (layout : Layout) (key : Key) : unmarking.Grants layout key where
  readService := nofun
  readStale := nofun
  clearStale _ _ _ := nofun
  clean _ _ _ _ _ := ⟨nofun, fun _ _ _ _ => nofun⟩
  withdraw _ _ _ := ⟨nofun, fun _ _ _ _ => nofun⟩
  publish _ _ _ := ⟨nofun, fun _ _ _ => nofun, fun _ _ _ _ _ => nofun⟩

theorem isTraced_of_ends {shown : Service → Prop} (traced : before.observer.IsTraced shown)
    (ends : Ends (ServiceRecords.reconcile layout key).run before result after) :
    after.observer.IsTraced shown := by
  have honours := (Terms.achieves_reconcile (grants_unmarking layout key)).honours () trivial
  refine (honours_of_invariant (fun surroundings => surroundings.observer.IsTraced shown) ?_ honours
    traced ends).2
  intro r before reply after traced unmarked served
  exact ⟨trivial, traced.of_subset (cache_of_serves served) (buffer_of_serves served)
    (zones_subset_of_serves unmarked served)⟩

theorem isTraced_of_evolves (fresh : start.observer = {})
    (evolves : Evolves layout start events before) :
    before.observer.IsTraced fun service => ∃ event ∈ events, event.Shows service := by
  induction evolves with
  | start =>
    rw [fresh]
    exact Observer.isTraced_start
  | observe _ event ih =>
    refine (ih.mono ?_).apply fun service shows => ⟨event, List.mem_cons_self .., shows⟩
    rintro service ⟨earlier, member, shows⟩
    exact ⟨earlier, List.mem_cons_of_mem _ member, shows⟩
  | reconcile _ ends ih => exact isTraced_of_ends ih ends

/-- The record of a live service is left alone, unless a zone is marked that has the normal form of
the service's zone without being it. This can only be the normal form of the zone of a service that
was observed, and begins or ends with a blank. -/
theorem leavesAlone_of_evolves (fresh : start.observer = {})
    (evolves : Evolves layout start events before)
    (cached : before.observer.cache.find? key = some service)
    (alive : service.isDeleting = false) (made : layout.record service = .ok record) :
    LeavesAlone layout key before record ∨
      ∃ left zone, (∃ event ∈ events, event.Shows left) ∧
        Dns.Zone.normalize left.spec.zone = zone ∧ Text.HasBlankEnd zone ∧
        zone ∈ before.observer.stale.zones key ∧ zone ≠ Dns.Zone.normalize service.spec.zone ∧
        Dns.Zone.normalize zone = Dns.Zone.normalize service.spec.zone := by
  by_cases apart : ∀ zone ∈ before.unwanted key,
      Dns.Zone.normalize zone ≠ Dns.Zone.normalize service.spec.zone
  · exact .inl (leavesAlone_of_apart cached alive made apart)
  · push Not at apart
    obtain ⟨zone, member, same⟩ := apart
    obtain ⟨marked, unwanted⟩ := List.mem_filter.mp member
    obtain ⟨left, shows, normal⟩ := (isTraced_of_evolves fresh evolves).marked key zone marked
    have different : zone ≠ Dns.Zone.normalize service.spec.zone := by
      rintro rfl
      rw [cached, wantedZone?_some alive] at unwanted
      simp at unwanted
    refine .inr ⟨left, zone, shows, normal, ?_, marked, different, same⟩
    -- Otherwise the mark would be its own normal form.
    by_contra trimmed
    rw [← normal] at trimmed same different
    exact different ((Dns.Zone.normalize_normalize_of_trimmed trimmed).symm.trans same)

/-- A service that is published in `z1`, moves to another zone and comes back. -/
def returning (zone : String) : Surroundings :=
  let resident (zone : String) := Layout.spelled "svc" "a" zone "e"
  ((((({} : Surroundings).observe (.applied (resident "z1"))).reconcile {} ⟨"svc", "a"⟩).2.observe
    (.applied (resident zone))).observe (.applied (resident "z1")))

theorem evolves_returning (zone : String) : ∃ events, Evolves {} {} events (returning zone) :=
  ⟨_, .observe (.observe (.reconcile (.observe .start _) (ends_reconcile ..)) _) _⟩

theorem leavesAlone_of_evolves_returning : ∃ record,
    Layout.record {} (Layout.spelled "svc" "a" "z1" "e") = .ok record ∧
    record.entries["/skydns/z1/svc/a/e"]? = some (Layout.spelledEntry {}) ∧
    (returning " Z2. ").observer.stale.zones ⟨"svc", "a"⟩ = ["z1", "z2"] ∧
    LeavesAlone {} ⟨"svc", "a"⟩ (returning " Z2. ") record := by
  have names : Layout.Names {} (Layout.spelled "svc" "a" "z1" "e") "/skydns/z1/svc/a/e"
      (Layout.spelledEntry {}) := by
    decide +kernel
  have marks : (returning " Z2. ").observer.stale.zones ⟨"svc", "a"⟩ = ["z1", "z2"] := by
    decide +kernel
  obtain ⟨record, made, wanted⟩ := names
  obtain ⟨events, evolves⟩ := evolves_returning " Z2. "
  have cached : (returning " Z2. ").observer.cache.find? ⟨"svc", "a"⟩ =
      some (Layout.spelled "svc" "a" "z1" "e") := by
    decide +kernel
  refine ⟨record, made, wanted, marks, ?_⟩
  refine (leavesAlone_of_evolves rfl evolves cached rfl made).resolve_right ?_
  rintro ⟨left, zone, -, -, -, marked, different, same⟩
  rw [marks] at marked
  revert zone
  decide +kernel

/-- The procedure and its surroundings after so many requests, unless it has ended before. -/
def advance : Nat → Procedure α × Surroundings → Procedure α × Surroundings
  | requests + 1, (.ask r resume, before) =>
    advance requests (resume (answer r before).1, (answer r before).2)
  | _, reached => reached

theorem proceeds_advance (requests : Nat) (reached : Procedure α × Surroundings) :
    Relation.ReflTransGen Proceeds reached (advance requests reached) := by
  induction requests generalizing reached with
  | zero => exact .refl
  | succ requests ih =>
    obtain ⟨procedure, before⟩ := reached
    cases procedure with
    | done result => exact .refl
    | ask r resume => exact .head (.serve (serves_answer r before)) (ih _)

/-- What the procedure asks for next. -/
def next? : Procedure α → Option Request
  | .done _ => none
  | .ask r _ => some r

theorem exists_of_next? {procedure : Procedure α} {r : Request}
    (asked : next? procedure = some r) : ∃ resume, procedure = .ask r resume := by
  cases procedure with
  | done result => cases asked
  | ask r resume =>
    cases asked
    exact ⟨resume, rfl⟩

/-- The service comes back from a zone that begins like its own: what is cleaned for the mark of
that zone is the entry that the service has already. -/
theorem exists_not_leavesAlone : ∃ events before service record,
    Evolves {} {} events before ∧
    before.observer.cache.find? ⟨"svc", "a"⟩ = some service ∧ service.isDeleting = false ∧
    Layout.record {} service = .ok record ∧ ¬LeavesAlone {} ⟨"svc", "a"⟩ before record := by
  have names : Layout.Names {} (Layout.spelled "svc" "a" "z1" "e") "/skydns/z1/svc/a/e"
      (Layout.spelledEntry {}) := by
    decide +kernel
  obtain ⟨record, made, wanted⟩ := names
  obtain ⟨events, evolves⟩ := evolves_returning "z1 ."
  refine ⟨events, returning "z1 .", Layout.spelled "svc" "a" "z1" "e", record, evolves,
    by decide +kernel, rfl, made, ?_⟩
  intro spared
  have asked : next? (advance 3 ((ServiceRecords.reconcile {} ⟨"svc", "a"⟩).run,
      returning "z1 .")).1 = some (.delete "/skydns/z1/svc/a/e") := by
    decide +kernel
  obtain ⟨resume, asks⟩ := exists_of_next? asked
  have proceeds := proceeds_advance 3 ((ServiceRecords.reconcile {} ⟨"svc", "a"⟩).run,
    returning "z1 .")
  rw [← Prod.eta (advance 3 _), asks] at proceeds
  exact (spared _ resume _ proceeds _ _ wanted).1 rfl

end Surroundings

end ServiceRecords
