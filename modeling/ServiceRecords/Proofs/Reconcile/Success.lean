import ServiceRecords.Proofs.Reconcile.Orphans
import ServiceRecords.Proofs.Reconcile.Recovery

set_option autoImplicit false

/-!
# What a successful reconciliation has done

A reconciliation that succeeds has reached its aim, which tells what is stored afterwards and which
marks are left. The outcome adds up the writes of its parts (`makes_cleanZones`, `makes_conclude`),
so that it tells whether there were any, and it names the change by what was found in the place of
the service. `settles_of_reconcile` puts all this together.
-/

namespace ServiceRecords

theorem Layout.isEmpty_of_record {layout : Layout} {service : Service} {record : Record}
    (made : layout.record service = .ok record) :
    record.entries.isEmpty = true ↔ service.spec.endpoints = [] := by
  obtain ⟨directory, named, -, listed, rfl⟩ := record_eq_ok.mp made
  rw [Std.ExtTreeMap.isEmpty_iff, Std.ExtTreeMap.ofList_eq_empty_iff, List.map_eq_nil_iff,
    (namedEntries_eq_map listed).1, List.map_eq_nil_iff]

namespace Layout

variable {layout : Layout} {key : Key} {zone x directory : String} {value? : Option String}
  {zones : List String}

theorem disown_disown : layout.disown (layout.disown value?) = layout.disown value? :=
  disown_eq_self fun _ disowned => by simpa using (Option.filter_eq_some_iff.mp disowned).2

theorem cleaned_cons : layout.cleaned key (zone :: zones) x value? =
    layout.cleaned key zones x (layout.cleaned key [zone] x value?) := by
  by_cases here : layout.Resides key zone x <;>
    by_cases there : ∃ zone ∈ zones, layout.Resides key zone x <;>
      simp [cleaned, here, there, disown_disown]

/-- The place is one for entries of the key in one of the zones. -/
def IsInZones (layout : Layout) (key : Key) (zones : List String) (x : String) : Prop :=
  ∃ zone ∈ zones, layout.Resides key zone x

instance : Decidable (layout.IsInZones key zones x) :=
  inferInstanceAs (Decidable (∃ zone ∈ zones, layout.Resides key zone x))

theorem cleaned_eq_ite : layout.cleaned key zones x value? =
    if layout.IsInZones key zones x then layout.disown value? else value? := rfl

theorem cleaned_eq_some {value : String} :
    layout.cleaned key zones x value? = some value ↔ value? = some value ∧
      ¬(layout.owns value = true ∧ layout.IsInZones key zones x) := by
  rw [cleaned_eq_ite, disown]
  split
  · rename_i there
    simp [Option.filter_eq_some_iff, there]
  · rename_i elsewhere
    simp [elsewhere]

theorem getElem?_withoutOwned (found : layout.directory key zone = .ok directory)
    (contents : Store.Contents) (x : String) :
    (Store.withoutOwned layout directory contents)[x]? =
      layout.cleaned key [zone] x contents[x]? := by
  have here : (∃ zone' ∈ [zone], layout.Resides key zone' x) ↔
      isDirectlyBelow directory x = true := by
    simp [Resides, found]
  unfold Store.withoutOwned cleaned
  rw [Store.getElem?_deleteAll]
  simp only [Store.mem_ownedKeys, here]
  cases stored : contents[x]? with
  | none => simp
  | some value =>
    cases owned : layout.owns value with
    | true => simp [owned, disown_of_owned owned]
    | false =>
      have foreign : layout.disown (some value) = some value :=
        disown_eq_self fun _ same => Option.some.inj same ▸ owned
      simp [owned, foreign]

/-- The place is one for the entries of the cached service. -/
def IsHome (layout : Layout) (key : Key) (copy : Option Service) (x : String) : Prop :=
  ∃ service, copy = some service ∧
    layout.Resides (if service.isDeleting then key else service.key) service.spec.zone x

/-- The place is one that is seen to when the key is reconciled. -/
def IsCovered (layout : Layout) (key : Key) (copy : Option Service) (zones : List String)
    (x : String) : Prop :=
  layout.IsHome key copy x ∨ layout.IsInZones key zones x

/-- The cached service is alive and asks for the entry. -/
def Desires (layout : Layout) (copy : Option Service) (x : String) (entry : Entry) : Prop :=
  ∃ service, copy = some service ∧ service.isDeleting = false ∧ layout.Names service x entry

theorem Admits.record {copy : Option Service} {service : Service}
    (admits : layout.Admits key copy) (cached : copy = some service)
    (alive : service.isDeleting = false) : ∃ record, layout.record service = .ok record := by
  have admitted := admits service cached
  rwa [if_neg (by simp [alive])] at admitted

theorem isHome_of_record {record : Record} {service : Service} (alive : service.isDeleting = false)
    (made : layout.record service = .ok record) :
    layout.IsHome key (some service) x ↔ isDirectlyBelow record.directory x = true := by
  simp [IsHome, Resides, alive, directory_of_record made]

theorem target_of_desires {copy : Option Service} {entry : Entry}
    (desires : layout.Desires copy x entry) :
    ∃ value, layout.target key copy zones x value? = some value ∧
      Entry.ofText? value = some entry := by
  obtain ⟨service, rfl, alive, record, made, wanted⟩ := desires
  rw [target, concluded_live alive made]
  simp only [published, wanted]
  unfold Entry.ensure
  split
  · rename_i held
    exact Option.bind_eq_some_iff.mp held
  · exact ⟨entry.text, rfl, Entry.ofText?_text entry⟩

instance {copy : Option Service} : Decidable (layout.IsHome key copy x) :=
  match copy with
  | none => .isFalse nofun
  | some service => decidable_of_iff
      (layout.Resides (if service.isDeleting then key else service.key) service.spec.zone x)
      (by simp [IsHome])

instance {copy : Option Service} : Decidable (layout.IsCovered key copy zones x) :=
  inferInstanceAs (Decidable (layout.IsHome key copy x ∨ layout.IsInZones key zones x))

/-- Where the service does not ask for an entry, an owned one is to go from the places that are seen
to, and nothing else. -/
theorem target_of_undesired {copy : Option Service} (admits : layout.Admits key copy)
    (undesired : ∀ entry, ¬layout.Desires copy x entry) :
    layout.target key copy zones x value? =
      if layout.IsCovered key copy zones x then layout.disown value? else value? := by
  unfold target IsCovered
  cases copy with
  | none => simp [concluded, cleaned_eq_ite, IsHome]
  | some service =>
    cases doomed : service.isDeleting with
    | true =>
      have home : layout.IsHome key (some service) x ↔
          layout.IsInZones key [service.spec.zone] x := by
        simp [IsHome, IsInZones, doomed]
      by_cases here : layout.IsInZones key [service.spec.zone] x <;>
        by_cases there : layout.IsInZones key zones x <;>
          simp [concluded, cleaned_eq_ite, home, doomed, here, there, disown_disown]
    | false =>
      obtain ⟨record, made⟩ := admits.record rfl doomed
      have unnamed : record.entries[x]? = none := by
        by_contra named
        obtain ⟨entry, wanted⟩ := Option.ne_none_iff_exists'.mp named
        exact undesired entry ⟨service, rfl, doomed, record, made, wanted⟩
      rw [concluded_live doomed made]
      by_cases here : isDirectlyBelow record.directory x = true <;>
        by_cases there : layout.IsInZones key zones x <;>
          simp [published, cleaned_eq_ite, isHome_of_record doomed made, unnamed, here, there,
            disown_disown]

end Layout

theorem Outcome.ofWrites_eq_unchanged {writes : Nat} {change : Outcome}
    (changes : change ≠ .unchanged) : Outcome.ofWrites writes change = .unchanged ↔ writes = 0 := by
  unfold Outcome.ofWrites
  split <;> simp_all

/-- What the change is called that a reconciliation makes, going by the cached service and whether
entries are found in its place. -/
inductive IsChange (copy : Option Service) (finds : Prop) : Outcome → Prop
  | absent (gone : copy = none) : IsChange copy finds .deleted
  | deleting {service : Service} (cached : copy = some service)
      (deleting : service.isDeleting = true) : IsChange copy finds .deleted
  | empty {service : Service} (cached : copy = some service) (alive : service.isDeleting = false)
      (empty : service.spec.endpoints = []) : IsChange copy finds .deleted
  | created {service : Service} (cached : copy = some service) (alive : service.isDeleting = false)
      (asks : service.spec.endpoints ≠ []) (fresh : ¬finds) : IsChange copy finds .created
  | updated {service : Service} (cached : copy = some service) (alive : service.isDeleting = false)
      (asks : service.spec.endpoints ≠ []) (found : finds) : IsChange copy finds .updated

theorem IsChange.ne_unchanged {copy : Option Service} {finds : Prop} {change : Outcome}
    (changes : IsChange copy finds change) : change ≠ .unchanged := by
  cases changes <;> decide

namespace Surroundings

variable {α β : Type} {layout : Layout} {key : Key} {x directory : String} {count more : Nat}
  {attempt : Attempt α} {next : α → Attempt β} {before between after : Surroundings}
  {contents known : Store.Contents} {outcome : Outcome} {zones : List String} {service : Service}

/-- The attempt succeeds with the result when nothing comes between its requests. -/
def Accomplishes (attempt : Attempt α) (before : Surroundings) (a : α) (after : Surroundings) :
    Prop :=
  attempt.run.run answer before = (.ok a, after)

theorem accomplishes_pure {a b : α} :
    Accomplishes (pure a) before b after ↔ a = b ∧ before = after := by
  simp [Accomplishes, Procedure.run]

theorem accomplishes_ofRecord {result : Except RecordError α} {a : α} :
    Accomplishes (Attempt.ofRecord result) before a after ↔ result = .ok a ∧ before = after := by
  cases result <;> simp [Accomplishes, Attempt.ofRecord, Procedure.run, Except.mapError]

theorem accomplishes_bind {b : β} :
    Accomplishes (attempt >>= next) before b after ↔
      ∃ a between, Accomplishes attempt before a between ∧
        Accomplishes (next a) between b after := by
  constructor
  · intro ran
    cases result : attempt.run.run answer before with
    | mk reply between =>
      cases reply with
      | ok a => exact ⟨a, between, result, (run_bind_of_ok result).symm.trans ran⟩
      | error error =>
        change (attempt.run.bind _).run answer before = _ at ran
        rw [Procedure.run_bind, result] at ran
        cases ran
  · rintro ⟨a, between, first, second⟩
    exact (run_bind_of_ok first).trans second

/-- One request whose reply may give up the attempt. -/
theorem accomplishes_request {r : Request} {read : r.Reply → Except ReconcileError α} {a : α} :
    Accomplishes (ExceptT.mk ((Procedure.request r).bind fun reply => .done (read reply)))
      before a after ↔ read (answer r before).1 = .ok a ∧ (answer r before).2 = after := by
  change (read (answer r before).1, (answer r before).2) = _ ↔ _
  rw [Prod.mk.injEq]

theorem accomplishes_ask {r : Request} {reply : r.Reply} :
    Accomplishes (Attempt.ask r) before reply after ↔
      (answer r before).1 = reply ∧ (answer r before).2 = after := by
  rw [Accomplishes, Attempt.ask, run_lift, Prod.mk.injEq, Except.ok.injEq]
  rfl

/-- Nothing but calls to the store was made meanwhile, and so many of them were writes. -/
structure Makes (before : Surroundings) (count : Nat) (contents : Store.Contents)
    (after : Surroundings) : Prop where
  calls : ∃ made, after.memory.calls = made ++ before.memory.calls ∧
    made.countP (·.1.isWrite) = count
  contents : after.memory.contents = contents

theorem Makes.of_memory (same : after.memory = before.memory) :
    Makes before 0 before.memory.contents after where
  calls := ⟨[], by rw [same]; rfl, rfl⟩
  contents := by rw [same]

theorem Makes.trans (first : Makes before count known between)
    (second : Makes between more contents after) :
    Makes before (count + more) contents after where
  calls := by
    obtain ⟨earlier, shape, rfl⟩ := first.calls
    obtain ⟨later, shape', rfl⟩ := second.calls
    refine ⟨later ++ earlier, ?_, ?_⟩
    · rw [shape', shape, List.append_assoc]
    · rw [List.countP_append, Nat.add_comm]
  contents := second.contents

theorem makes_call {call : Store.Call} (succeeded : (before.call call).1 = .ok ()) :
    Makes before (if call.isWrite then 1 else 0) (call.apply before.memory.contents)
      (before.call call).2 := by
  obtain ⟨stored, logged⟩ := call_of_ok succeeded
  refine ⟨⟨[(call, true)], logged, ?_⟩, stored⟩
  simp [List.countP_cons]

theorem mapError_eq_ok {ε ε' : Type} {f : ε → ε'} {result : Except ε α} {a : α} :
    result.mapError f = .ok a ↔ result = .ok a := by
  cases result <;> simp [Except.mapError]

theorem makes_delete (ran : Accomplishes (Attempt.delete x) before () after) :
    Makes before 1 (before.memory.contents.erase x) after := by
  obtain ⟨succeeded, rfl⟩ := accomplishes_request.mp ran
  have reply : (before.call (.delete x)).1 = .ok () := mapError_eq_ok.mp succeeded
  exact makes_call reply

theorem makes_put {value : String} (ran : Accomplishes (Attempt.put x value) before () after) :
    Makes before 1 (before.memory.contents.insert x value) after := by
  obtain ⟨succeeded, rfl⟩ := accomplishes_request.mp ran
  have reply : (before.call (.put x value)).1 = .ok () := mapError_eq_ok.mp succeeded
  exact makes_call reply

/-- A loop of writes makes as many of them as there are items. -/
theorem makes_forM {write : β → Attempt PUnit} (apply : Store.Contents → β → Store.Contents)
    {items : List β} (ran : Accomplishes (items.forM write) before () after)
    (each : ∀ item before after, Accomplishes (write item) before () after →
      Makes before 1 (apply before.memory.contents item) after) :
    Makes before items.length (items.foldl apply before.memory.contents) after := by
  induction items generalizing before with
  | nil =>
    obtain ⟨-, rfl⟩ := accomplishes_pure.mp ran
    exact .of_memory rfl
  | cons item rest ih =>
    obtain ⟨⟨⟩, between, first, others⟩ := accomplishes_bind.mp ran
    have made := each item before between first
    have following := made.trans (ih others)
    rwa [made.contents, Nat.add_comm] at following

theorem makes_listEntries {entries : List (String × String)}
    (ran : Accomplishes (listEntries directory) before entries after) :
    entries = Store.listingIn before.memory.contents directory ∧
      Makes before 0 before.memory.contents after := by
  obtain ⟨listed, between, first, rest⟩ := accomplishes_bind.mp ran
  obtain ⟨rfl, rfl⟩ := accomplishes_pure.mp rest
  obtain ⟨succeeded, rfl⟩ := accomplishes_request.mp first
  change ((before.call (.list (directory ++ "/"))).1.map fun _ => Store.listing
    (before.call (.list (directory ++ "/"))).2.memory.contents (directory ++ "/")).mapError _ = _
    at succeeded
  rw [mapError_eq_ok] at succeeded
  cases reply : (before.call (.list (directory ++ "/"))).1 with
  | error error =>
    rw [reply] at succeeded
    cases succeeded
  | ok =>
    have made := makes_call reply
    rw [reply] at succeeded
    cases succeeded
    exact ⟨by rw [made.contents]; rfl, made⟩

theorem makes_deleteOwned (ran : Accomplishes (deleteOwned layout directory) before count after) :
    Makes before count (Store.withoutOwned layout directory before.memory.contents) after := by
  obtain ⟨entries, between, listing, rest⟩ := accomplishes_bind.mp ran
  obtain ⟨⟨⟩, later, deleting, rest⟩ := accomplishes_bind.mp rest
  obtain ⟨rfl, rfl⟩ := accomplishes_pure.mp rest
  obtain ⟨rfl, listed⟩ := makes_listEntries listing
  have made := listed.trans (makes_forM (fun contents item => contents.erase item.1) deleting
    fun _ _ _ => makes_delete)
  rw [Nat.zero_add, listed.contents] at made
  rwa [Store.withoutOwned, Store.deleteAll, List.foldl_map]

theorem makes_cleanZones (ran : Accomplishes (cleanZones layout key zones) before count after) :
    ∃ contents, Makes before count contents after ∧
      ∀ x : String, contents[x]? = layout.cleaned key zones x before.memory.contents[x]? := by
  induction zones generalizing before count with
  | nil =>
    obtain ⟨rfl, rfl⟩ := accomplishes_pure.mp ran
    exact ⟨_, .of_memory rfl, fun x => Layout.cleaned_nil.symm⟩
  | cons zone rest ih =>
    unfold cleanZones at ran
    cases found : layout.directory key zone with
    | error error =>
      rw [found] at ran
      obtain ⟨contents, made, stored⟩ := ih ran
      refine ⟨contents, made, fun x => ?_⟩
      have clean : ∀ zone' ∈ [zone], layout.IsClean before.memory.contents key zone' := by
        intro zone' member
        rw [List.mem_singleton.mp member]
        exact Layout.isClean_of_error found
      rw [stored, Layout.cleaned_cons, Layout.cleaned_eq_self clean]
    | ok directory =>
      rw [found] at ran
      obtain ⟨deleted, between, first, others⟩ := accomplishes_bind.mp ran
      obtain ⟨further, later, second, ended⟩ := accomplishes_bind.mp others
      obtain ⟨rfl, rfl⟩ := accomplishes_pure.mp ended
      have made := makes_deleteOwned first
      obtain ⟨contents, following, stored⟩ := ih second
      refine ⟨contents, made.trans following, fun x => ?_⟩
      rw [stored, made.contents, Layout.getElem?_withoutOwned found, ← Layout.cleaned_cons]

theorem makes_clearMarks (ran : Accomplishes (clearMarks key zones) before () after) :
    Makes before 0 before.memory.contents after := by
  unfold clearMarks at ran
  split at ran
  · obtain ⟨-, rfl⟩ := accomplishes_pure.mp ran
    exact .of_memory rfl
  · obtain ⟨-, rfl⟩ := accomplishes_ask.mp ran
    exact .of_memory rfl

theorem makes_withdraw
    (ran : Accomplishes (withdraw layout key service count) before outcome after) :
    ∃ writes known, Makes before writes known after ∧
      outcome = .ofWrites (count + writes) .deleted := by
  obtain ⟨directory, between, found, rest⟩ := accomplishes_bind.mp ran
  obtain ⟨-, rfl⟩ := accomplishes_ofRecord.mp found
  obtain ⟨deleted, later, deleting, ended⟩ := accomplishes_bind.mp rest
  obtain ⟨rfl, rfl⟩ := accomplishes_pure.mp ended
  exact ⟨deleted, _, makes_deleteOwned deleting, rfl⟩

/-- The name of the change that a publication makes if it makes any. -/
theorem makes_publish (ran : Accomplishes (publish layout service count) before outcome after) :
    ∃ writes known record, Makes before writes known after ∧ layout.record service = .ok record ∧
      outcome = .ofWrites (count + writes) (if record.entries.isEmpty then .deleted
        else if (Store.listingIn before.memory.contents record.directory).isEmpty then .created
        else .updated) := by
  obtain ⟨record, _, recorded, rest⟩ := accomplishes_bind.mp ran
  obtain ⟨made, rfl⟩ := accomplishes_ofRecord.mp recorded
  obtain ⟨current, listed, listing, rest⟩ := accomplishes_bind.mp rest
  obtain ⟨⟨⟩, put, putting, rest⟩ := accomplishes_bind.mp rest
  obtain ⟨⟨⟩, later, deleting, ended⟩ := accomplishes_bind.mp rest
  obtain ⟨rfl, rfl⟩ := accomplishes_pure.mp ended
  obtain ⟨rfl, reading⟩ := makes_listEntries listing
  have puts := makes_forM (fun contents put => contents.insert put.1 put.2) putting
    fun _ _ _ => makes_put
  have deletes := makes_forM (fun contents place => contents.erase place) deleting
    fun _ _ _ => makes_delete
  refine ⟨_, _, record, (reading.trans puts).trans deletes, made, ?_⟩
  rw [Nat.zero_add, ← Nat.add_assoc]

theorem makes_conclude {copy : Option Service}
    (ran : Accomplishes (conclude layout key count copy) before outcome after) :
    ∃ writes known change, Makes before writes known after ∧
      outcome = .ofWrites (count + writes) change ∧
      IsChange copy (∃ x value, layout.IsHome key copy x ∧
        before.memory.contents[x]? = some value) change := by
  cases copy with
  | none =>
    obtain ⟨rfl, rfl⟩ := accomplishes_pure.mp ran
    exact ⟨0, _, .deleted, .of_memory rfl, rfl, .absent rfl⟩
  | some service =>
    unfold conclude at ran
    dsimp only at ran
    split at ran
    · rename_i deleting
      obtain ⟨writes, known, made, rfl⟩ := makes_withdraw ran
      exact ⟨writes, known, .deleted, made, rfl, .deleting rfl deleting⟩
    · rename_i alive
      have alive : service.isDeleting = false := by simpa using alive
      obtain ⟨writes, known, record, made, recorded, rfl⟩ := makes_publish ran
      refine ⟨writes, known, _, made, rfl, ?_⟩
      simp only [Layout.isHome_of_record alive recorded]
      split
      · rename_i empty
        exact .empty rfl alive ((Layout.isEmpty_of_record recorded).mp empty)
      · rename_i nonempty
        rw [Layout.isEmpty_of_record recorded] at nonempty
        split
        · rename_i unlisted
          refine .created rfl alive nonempty ?_
          rintro ⟨x, value, below, stored⟩
          have listed := Store.mem_listingIn.mpr ⟨stored, below⟩
          rw [List.isEmpty_iff.mp unlisted] at listed
          cases listed
        · rename_i listed
          refine .updated rfl alive nonempty ?_
          obtain ⟨⟨x, value⟩, member⟩ :=
            List.exists_mem_of_ne_nil _ (mt List.isEmpty_iff.mpr listed)
          obtain ⟨stored, below⟩ := Store.mem_listingIn.mp member
          exact ⟨x, value, below, stored⟩

/-- All that a success has done, where `copy` is the cached service and `unwanted` are the zones
that were marked as stale, without the one where the service is wanted. -/
structure Settles (layout : Layout) (key : Key) (copy : Option Service) (unwanted : List String)
    (before : Surroundings) (outcome : Outcome) (after : Surroundings) : Prop where
  admits : layout.Admits key copy
  desired : ∀ x entry, layout.Desires copy x entry →
    ∃ value, after.memory.contents[x]? = some value ∧ Layout.decode x value = .ok entry
  cleared : ∀ (x : String) value, (∀ entry, ¬layout.Desires copy x entry) →
    layout.IsCovered key copy unwanted x → before.memory.contents[x]? = some value →
      layout.owns value = true → after.memory.contents[x]? = none
  kept : ∀ x : String, (∀ entry, ¬layout.Desires copy x entry) →
    (∀ value, layout.IsCovered key copy unwanted x → before.memory.contents[x]? = some value →
      layout.owns value = false) → after.memory.contents[x]? = before.memory.contents[x]?
  stale : after.observer.stale.zones key =
    (before.observer.stale.zones key).filter fun zone => wantedZone? copy = some zone
  called : ∃ made, after.memory.calls = made ++ before.memory.calls ∧
    (outcome = .unchanged ↔ ∀ call ∈ made, call.1.isWrite = false)
  /-- Entries that have just been cleaned away are no longer found in the place of the service. -/
  change : outcome ≠ .unchanged → IsChange copy (∃ x value, layout.IsHome key copy x ∧
    before.memory.contents[x]? = some value ∧
    ¬(layout.owns value = true ∧ layout.IsInZones key unwanted x)) outcome

/-- A mark stays if its zone is the one where the service is wanted. -/
theorem zones_clear_unwanted (before : Surroundings) (key : Key) :
    (before.observer.stale.clear key (before.unwanted key)).zones key =
      (before.observer.stale.zones key).filter fun zone =>
        wantedZone? (before.observer.cache.find? key) = some zone := by
  rw [StaleZones.zones_clear]
  apply List.filter_congr
  intro zone marked
  simp [Surroundings.unwanted, marked]

/-- The parts of a success, in order. -/
theorem makes_reconcile (ran : before.reconcile layout key = (.ok outcome, after)) :
    ∃ writes known change, Makes before writes known after ∧
      outcome = .ofWrites writes change ∧
      IsChange (before.observer.cache.find? key) (∃ x value,
        layout.IsHome key (before.observer.cache.find? key) x ∧
        layout.cleaned key (before.unwanted key) x before.memory.contents[x]? = some value)
        change := by
  unfold Surroundings.reconcile at ran
  rw [reconcile_eq] at ran
  obtain ⟨copy, _, reading, ran⟩ := accomplishes_bind.mp ran
  obtain ⟨rfl, rfl⟩ := accomplishes_ask.mp reading
  obtain ⟨stale, _, recalling, ran⟩ := accomplishes_bind.mp ran
  obtain ⟨rfl, rfl⟩ := accomplishes_ask.mp recalling
  obtain ⟨cleaned, between, cleaning, ran⟩ := accomplishes_bind.mp ran
  obtain ⟨⟨⟩, cleared, clearing, ran⟩ := accomplishes_bind.mp ran
  obtain ⟨contents, made, stored⟩ := makes_cleanZones cleaning
  have spared := makes_clearMarks clearing
  obtain ⟨writes, known, change, concluded, rfl, changes⟩ := makes_conclude ran
  rw [made.contents] at spared
  rw [spared.contents] at changes
  simp only [stored] at changes
  exact ⟨_, known, change, (made.trans spared).trans concluded, rfl, changes⟩

theorem settles_of_reconcile (ran : before.reconcile layout key = (.ok outcome, after)) :
    Settles layout key (before.observer.cache.find? key) (before.unwanted key) before outcome
      after := by
  have ends := ends_reconcile layout key before
  rw [ran] at ends
  obtain ⟨observer, reached⟩ := Aim.mk.inj (aim_of_ends ends)
  have stored : ∀ x : String, after.memory.contents[x]? =
      layout.target key (before.observer.cache.find? key) (before.unwanted key) x
        before.memory.contents[x]? :=
    fun x => (congrFun reached x).symm
  have cached : after.observer.cache = before.observer.cache := by rw [← observer]; rfl
  have admits := (isDone_of_ends ends).admits
  rw [cached] at admits
  obtain ⟨writes, known, change, made, rfl, changes⟩ := makes_reconcile ran
  refine ⟨admits, ?desired, ?cleared, ?kept, ?stale, ?called, ?change⟩
  case desired =>
    intro x entry desires
    obtain ⟨value, held, read⟩ := Layout.target_of_desires desires
    exact ⟨value, (stored x).trans held, by rw [Layout.decode, read]⟩
  case cleared =>
    intro x value undesired covered found owned
    rw [stored, Layout.target_of_undesired admits undesired, if_pos covered, found,
      Layout.disown_of_owned owned]
  case kept =>
    intro x undesired spared
    rw [stored, Layout.target_of_undesired admits undesired]
    split
    · rename_i covered
      exact Layout.disown_eq_self fun value => spared value covered
    · rfl
  case stale =>
    rw [← observer]
    exact zones_clear_unwanted before key
  case called =>
    obtain ⟨calls, shape, counted⟩ := made.calls
    refine ⟨calls, shape, ?_⟩
    rw [Outcome.ofWrites_eq_unchanged changes.ne_unchanged, ← counted, List.countP_eq_zero]
    simp
  case change =>
    intro wrote
    have named : Outcome.ofWrites writes change = change := by
      rw [ne_eq, Outcome.ofWrites_eq_unchanged changes.ne_unchanged] at wrote
      exact if_neg wrote
    rw [named]
    simpa only [Layout.cleaned_eq_some] using changes

/-- A service that has moved from `z1` to `z2`, where an entry is left of an endpoint that it had
before. A foreign value is stored next to what it has left in `z1`. -/
def crowded : Surroundings :=
  let left : Entry := { host := "10.0.0.2", port := 9000, owner := some "rpc-controller" }
  let moved := halfMoved.planning none
  { moved with
    memory := (moved.memory.seed "/skydns/z1/svc/a/note" "foreign").seed "/skydns/z2/svc/a/old"
      left.text }

theorem settles_of_reconcile_crowded : ∃ after,
    crowded.reconcile {} ⟨"svc", "a"⟩ = (.ok .updated, after) ∧
    Settles {} ⟨"svc", "a"⟩ (crowded.observer.cache.find? ⟨"svc", "a"⟩) ["z1"] crowded .updated
      after ∧
    after.memory.contents.toList.map Prod.fst = ["/skydns/z1/svc/a/note", "/skydns/z2/svc/a/e"] ∧
    after.observer.stale.zones ⟨"svc", "a"⟩ = [] := by
  have succeeded : (crowded.reconcile {} ⟨"svc", "a"⟩).1 = .ok .updated := by decide +kernel
  have ran : crowded.reconcile {} ⟨"svc", "a"⟩ =
      (.ok .updated, (crowded.reconcile {} ⟨"svc", "a"⟩).2) := Prod.ext succeeded rfl
  have unwanted : crowded.unwanted ⟨"svc", "a"⟩ = ["z1"] := by decide +kernel
  exact ⟨_, ran, unwanted ▸ settles_of_reconcile ran, by decide +kernel, by decide +kernel⟩

end Surroundings

end ServiceRecords
