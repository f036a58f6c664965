import ServiceRecords.Proofs.Reconcile.Attempts
import ServiceRecords.Proofs.Reconcile.Target

set_option autoImplicit false

/-!
# What a reconciliation works towards

The aim of a reconciliation are the targets of all places, and the marks that are to be left
(`Surroundings.aim`). No request of a reconciliation changes its aim, whether it succeeds or not
(`Pursues`), and a reconciliation that succeeds has reached it (`achieves_reconcile`).
-/

namespace ServiceRecords

namespace StaleZones

variable {stale : StaleZones} {key : Key} {zones : List String}

theorem clear_of_not_mem (absent : ∀ zone ∈ stale.zones key, zone ∉ zones) :
    stale.clear key zones = stale := by
  cases stale with
  | mk marks =>
    unfold clear
    congr 1
    apply Std.ExtTreeSet.ext_mem
    rintro ⟨other, zone⟩
    simp only [Std.ExtTreeSet.mem_filter, Std.ExtTreeSet.get_eq, Bool.not_eq_true',
      Bool.and_eq_false_imp, decide_eq_true_eq, exists_prop, and_iff_left_iff_imp]
    rintro member rfl
    simpa using absent zone (mem_zones.mpr member)

end StaleZones

namespace Surroundings

/-- What a reconciliation is to bring about. -/
structure Aim where
  observer : Observer
  stored : String → Option String

/-- The stale zones of a key but for the one that its service is published in. -/
def unwanted (surroundings : Surroundings) (key : Key) : List String :=
  (surroundings.observer.stale.zones key).filter fun zone =>
    wantedZone? (surroundings.observer.cache.find? key) != some zone

def aim (layout : Layout) (key : Key) (surroundings : Surroundings) : Aim where
  observer := (surroundings.updateStale (·.clear key (surroundings.unwanted key))).observer
  stored x := layout.target key (surroundings.observer.cache.find? key)
    (surroundings.unwanted key) x surroundings.memory.contents[x]?

/-- The aim has been reached. -/
structure IsDone (layout : Layout) (key : Key) (surroundings : Surroundings) : Prop where
  admits : layout.Admits key (surroundings.observer.cache.find? key)
  unwanted : surroundings.unwanted key = []
  aim : surroundings.aim layout key =
    ⟨surroundings.observer, fun x => surroundings.memory.contents[x]?⟩

/-- However the request is served, the aim stays the same. Only what the service asks for is
written, and no mark is cleared of a zone where an owned entry is left. -/
structure Pursues (layout : Layout) (key : Key) (r : Request) (before : Surroundings) : Prop where
  aim : ∀ reply after, Serves r before reply after → after.aim layout key = before.aim layout key
  clears : ∀ key' zones, r = .clearStale key' zones → key' = key ∧
    ∀ zone ∈ zones, layout.IsClean before.memory.contents key zone
  writes : ∀ x value, r = .put x value →
    layout.Wants (before.observer.cache.find? key) x value

/-- What a reconciliation knows of its surroundings. -/
structure Sees (key : Key) (copy : Option Service) (unwanted : List String)
    (known : Store.Contents) (surroundings : Surroundings) : Prop where
  copied : surroundings.observer.cache.find? key = copy
  unwanted : surroundings.unwanted key = unwanted
  contents : surroundings.memory.contents = known

variable {layout : Layout} {key : Key} {zone x value directory : String} {value? : Option String}
  {copy : Option Service} {unwanted left : List String} {known : Store.Contents}
  {before after : Surroundings} {service : Service} {record : Record}

theorem unwanted_congr (observer : after.observer = before.observer) (key : Key) :
    after.unwanted key = before.unwanted key := by
  rw [Surroundings.unwanted, Surroundings.unwanted, observer]

/-- A write is idle if it makes no difference to the target. -/
theorem Sees.aim_eq (sees : Sees key copy unwanted known before)
    (observer : after.observer = before.observer)
    (idle : ∀ x : String, layout.target key copy unwanted x after.memory.contents[x]? =
      layout.target key copy unwanted x known[x]?) :
    after.aim layout key = before.aim layout key := by
  have stored : (after.aim layout key).stored = (before.aim layout key).stored := by
    funext x
    simp only [Surroundings.aim, unwanted_congr observer, observer, sees.copied, sees.unwanted,
      sees.contents]
    exact idle x
  have marks : (after.aim layout key).observer = (before.aim layout key).observer := by
    simp only [Surroundings.aim, Surroundings.updateStale, unwanted_congr observer, observer]
  exact congrArg₂ Aim.mk marks stored

theorem Sees.congr (sees : Sees key copy unwanted known before)
    (observer : after.observer = before.observer) {contents : Store.Contents}
    (stored : after.memory.contents = contents) : Sees key copy unwanted contents after where
  copied := by rw [observer, sees.copied]
  unwanted := by rw [unwanted_congr observer, sees.unwanted]
  contents := stored

/-- A call that leaves `value?` at its place is idle if this makes no difference to the target. -/
theorem Sees.aim_call {call : Store.Call} {succeeds : Prop}
    (sees : Sees key copy unwanted known before) (calls : Calls call before succeeds after)
    (applied : ∀ y : String, (call.apply before.memory.contents)[y]? =
      if x = y then value? else before.memory.contents[y]?)
    (idle : layout.target key copy unwanted x value? =
      layout.target key copy unwanted x known[x]?) :
    after.aim layout key = before.aim layout key := by
  apply sees.aim_eq calls.observer
  intro y
  rcases calls.contents with done | ⟨-, same⟩
  · rw [done, applied, sees.contents]
    split
    · rename_i own
      rw [← own]
      exact idle
    · rfl
  · rw [same, sees.contents]

theorem Sees.call {call : Store.Call} {succeeds : Prop}
    (sees : Sees key copy unwanted known before) (calls : Calls call before succeeds after)
    (succeeded : succeeds) : Sees key copy unwanted (call.apply known) after := by
  apply sees.congr calls.observer
  rw [calls.contents.resolve_right fun failed => failed.1 succeeded, sees.contents]

theorem Sees.pursues_delete (sees : Sees key copy unwanted known before)
    (idle : layout.target key copy unwanted x none = layout.target key copy unwanted x known[x]?) :
    Pursues layout key (.delete x) before := by
  refine ⟨fun reply after served => sees.aim_call served (fun y => ?_) idle, nofun, nofun⟩
  rw [Store.Call.apply, Store.getElem?_erase]

theorem Sees.pursues_put (sees : Sees key copy unwanted known before)
    (idle : layout.target key copy unwanted x (some value) =
      layout.target key copy unwanted x known[x]?)
    (wants : layout.Wants copy x value) : Pursues layout key (.put x value) before := by
  refine ⟨fun reply after served => sees.aim_call served (fun y => ?_) idle, nofun, ?_⟩
  · rw [Store.Call.apply, Store.getElem?_insert]
  · rintro _ _ ⟨⟩
    exact sees.copied ▸ wants

theorem achieves_delete
    (idle : layout.target key copy unwanted x none = layout.target key copy unwanted x known[x]?) :
    (alone (Pursues layout key)).Achieves (Sees key copy unwanted known) (Attempt.delete x)
      fun _ => Sees key copy unwanted (known.erase x) := by
  refine Agreement.Achieves.request _ (stable_alone _) (fun _ => stable_alone _)
    (fun _ sees => sees.pursues_delete idle) ?_
  intro state reply after _ sees served succeeded
  cases reply with
  | error error => cases succeeded
  | ok => exact sees.call served rfl

theorem achieves_put
    (idle : layout.target key copy unwanted x (some value) =
      layout.target key copy unwanted x known[x]?)
    (wants : layout.Wants copy x value) :
    (alone (Pursues layout key)).Achieves (Sees key copy unwanted known) (Attempt.put x value)
      fun _ => Sees key copy unwanted (known.insert x value) := by
  refine Agreement.Achieves.request _ (stable_alone _) (fun _ => stable_alone _)
    (fun _ sees => sees.pursues_put idle wants) ?_
  intro state reply after _ sees served succeeded
  cases reply with
  | error error => cases succeeded
  | ok => exact sees.call served rfl

theorem achieves_deletes {β : Type} (items : List β) (place : β → String)
    (known : Store.Contents)
    (idle : ∀ item ∈ items, layout.target key copy unwanted (place item) none =
      layout.target key copy unwanted (place item) known[place item]?) :
    (alone (Pursues layout key)).Achieves (Sees key copy unwanted known)
      (items.forM fun item => Attempt.delete (place item))
      fun _ => Sees key copy unwanted (Store.deleteAll known (items.map place)) := by
  induction items generalizing known with
  | nil => exact .pure (stable_alone _) fun _ sees => sees
  | cons item rest ih =>
    rw [List.forall_mem_cons] at idle
    refine (achieves_delete idle.1).bind fun _ => ih _ ?_
    -- A place that occurs again is empty by now, and deleting there makes no difference at all.
    intro other member
    rw [Store.getElem?_erase]
    split
    · rfl
    · exact idle.2 other member

theorem achieves_puts (puts : List (String × String)) (known : Store.Contents)
    (idle : ∀ put ∈ puts, layout.target key copy unwanted put.1 (some put.2) =
      layout.target key copy unwanted put.1 known[put.1]?)
    (wants : ∀ put ∈ puts, layout.Wants copy put.1 put.2) :
    (alone (Pursues layout key)).Achieves (Sees key copy unwanted known)
      (puts.forM fun (x, value) => Attempt.put x value)
      fun _ => Sees key copy unwanted (Store.putAll known puts) := by
  induction puts generalizing known with
  | nil => exact .pure (stable_alone _) fun _ sees => sees
  | cons put rest ih =>
    rw [List.forall_mem_cons] at idle wants
    refine (achieves_put idle.1 wants.1).bind fun _ => ih _ ?_ wants.2
    -- At a place that occurs again the target is still the same, as the first put was idle, too.
    intro other member
    rw [Store.getElem?_insert]
    split
    · rename_i same
      rw [← same, idle.1, same]
      exact idle.2 other member
    · exact idle.2 other member

/-- A listing shows what is stored, and changes nothing. -/
theorem Sees.list {start : String} {reply : Request.Reply (.list start)}
    (sees : Sees key copy unwanted known before)
    (served : Serves (.list start) before reply after) :
    Sees key copy unwanted known after ∧
      ∀ entries, reply = .ok entries → entries = Store.listing known start := by
  obtain ⟨calls, listed⟩ := served
  rw [sees.contents] at listed
  refine ⟨sees.congr calls.observer ?_, listed⟩
  rw [calls.contents.elim id And.right, sees.contents, Store.Call.apply]

theorem Sees.pursues_list (sees : Sees key copy unwanted known before) (start : String) :
    Pursues layout key (.list start) before := by
  refine ⟨?_, nofun, nofun⟩
  intro reply after served
  refine sees.aim_eq served.1.observer fun x => ?_
  rw [(sees.list served).1.contents]

theorem achieves_listEntries {permits : Request → Surroundings → Prop} {directory : String}
    (permitted : ∀ state, Sees key copy unwanted known state →
      permits (.list (directory ++ "/")) state) :
    (alone permits).Achieves (Sees key copy unwanted known) (listEntries directory)
      fun entries state => entries = Store.listingIn known directory ∧
        Sees key copy unwanted known state := by
  have listing : (alone permits).Achieves (Sees key copy unwanted known)
      (Attempt.list (directory ++ "/")) fun entries state =>
        entries = Store.listing known (directory ++ "/") ∧
        Sees key copy unwanted known state := by
    refine Agreement.Achieves.request _ (stable_alone _) (fun _ => stable_alone _) permitted ?_
    intro state reply after entries sees served succeeded
    obtain ⟨sees, listed⟩ := sees.list served
    cases reply with
    | error error => cases succeeded
    | ok found =>
      cases succeeded
      exact ⟨listed entries rfl, sees⟩
  refine listing.bind fun entries => .pure (stable_alone _) ?_
  rintro state ⟨rfl, sees⟩
  exact ⟨rfl, sees⟩

theorem achieves_deleteOwned (directory : String)
    (idle : ∀ x value, isDirectlyBelow directory x = true → layout.owns value = true →
      layout.target key copy unwanted x none = layout.target key copy unwanted x (some value)) :
    (alone (Pursues layout key)).Achieves (Sees key copy unwanted known)
      (deleteOwned layout directory)
      fun _ => Sees key copy unwanted (Store.withoutOwned layout directory known) := by
  refine (achieves_listEntries fun _ sees => sees.pursues_list _).bind fun entries => ⟨?_⟩
  rintro state ⟨rfl, sees⟩
  refine ((achieves_deletes _ Prod.fst known ?_).bind fun _ =>
    (?_ : (alone (Pursues layout key)).Achieves _ _ fun _ =>
      Sees key copy unwanted (Store.withoutOwned layout directory known))).honours state sees
  case refine_2 => exact .pure (stable_alone _) fun _ sees => sees
  rintro ⟨x, value⟩ member
  obtain ⟨listed, owned⟩ := List.mem_filter.mp member
  obtain ⟨stored, below⟩ := Store.mem_listingIn.mp listed
  rw [stored]
  exact idle x value below owned

/-- What is known while the zones `left` are still to be cleaned. -/
structure Cleans (layout : Layout) (key : Key) (copy : Option Service)
    (unwanted left : List String) (surroundings : Surroundings) : Prop where
  sees : Sees key copy unwanted surroundings.memory.contents surroundings
  subset : ∀ zone ∈ left, zone ∈ unwanted
  cleaned : ∀ zone ∈ unwanted,
    zone ∈ left ∨ layout.IsClean surroundings.memory.contents key zone

theorem Cleans.next {later : Surroundings}
    (cleans : Cleans layout key copy unwanted (zone :: left) before)
    (sees : Sees key copy unwanted known later)
    (clean : layout.IsClean known key zone)
    (kept : ∀ zone, layout.IsClean before.memory.contents key zone →
      layout.IsClean known key zone) :
    Cleans layout key copy unwanted left later where
  sees := by rwa [sees.contents]
  subset other member := cleans.subset other (List.mem_cons_of_mem _ member)
  cleaned := by
    intro other member
    rw [sees.contents]
    rcases cleans.cleaned other member with waiting | cleaned
    · rcases List.mem_cons.mp waiting with rfl | waiting
      · exact .inr clean
      · exact .inl waiting
    · exact .inr (kept other cleaned)

theorem achieves_cleanZones (zones : List String) :
    (alone (Pursues layout key)).Achieves (Cleans layout key copy unwanted zones)
      (cleanZones layout key zones) fun _ => Cleans layout key copy unwanted [] := by
  -- Of the unwanted zones, those that are not among the rest are clean, and they stay so.
  induction zones with
  | nil => exact .pure (stable_alone _) fun _ cleans => cleans
  | cons zone rest ih =>
    unfold cleanZones
    cases found : layout.directory key zone with
    | error error =>
      refine ih.mono ?_ fun _ _ cleans => cleans
      intro state cleans
      exact cleans.next cleans.sees (Layout.isClean_of_error found) fun _ clean => clean
    | ok directory =>
      have cleaning : (alone (Pursues layout key)).Achieves
          (Cleans layout key copy unwanted (zone :: rest)) (deleteOwned layout directory)
          fun _ => Cleans layout key copy unwanted rest := by
        constructor
        intro state cleans
        refine ((achieves_deleteOwned directory ?_).mono (fun _ sees => sees) ?_).honours state
          cleans.sees
        · intro x value below owned
          have resides : layout.Resides key zone x := ⟨directory, found, below⟩
          have member := cleans.subset zone (List.mem_cons_self ..)
          simp only [Layout.target, Layout.cleaned_none,
            Layout.cleaned_of_owned member resides owned]
        · intro _ later sees
          exact cleans.next sees (Layout.isClean_withoutOwned found) fun _ clean =>
            clean.deleteAll _
      refine cleaning.bind fun deleted => ih.bind fun others =>
        .pure (stable_alone _) fun _ cleans => cleans

theorem unwanted_clearStale (surroundings : Surroundings) (key : Key) :
    (surroundings.updateStale (·.clear key (surroundings.unwanted key))).unwanted key = [] := by
  change ((surroundings.observer.stale.clear key (surroundings.unwanted key)).zones key).filter
    (fun zone => wantedZone? (surroundings.observer.cache.find? key) != some zone) = []
  rw [StaleZones.zones_clear, List.filter_filter, List.filter_eq_nil_iff]
  intro zone member both
  obtain ⟨abroad, spared⟩ := Bool.and_eq_true_iff.mp both
  have unwanted : zone ∈ surroundings.unwanted key := List.mem_filter.mpr ⟨member, abroad⟩
  simp [unwanted] at spared

theorem aim_observer_of_nil {surroundings : Surroundings}
    (nothing : surroundings.unwanted key = []) :
    (surroundings.aim layout key).observer = surroundings.observer := by
  simp only [Surroundings.aim, nothing, Surroundings.updateStale]
  rw [StaleZones.clear_of_not_mem fun _ _ => List.not_mem_nil]

/-- Clearing the marks of zones that are clean does what was to be done. -/
theorem Cleans.aim_clearStale (cleans : Cleans layout key copy unwanted [] before) :
    (before.updateStale (·.clear key unwanted)).aim layout key = before.aim layout key := by
  have cleared := unwanted_clearStale before key
  rw [cleans.sees.unwanted] at cleared
  have clean : ∀ zone ∈ unwanted, layout.IsClean before.memory.contents key zone :=
    fun zone member => (cleans.cleaned zone member).resolve_left List.not_mem_nil
  have stored : ((before.updateStale (·.clear key unwanted)).aim layout key).stored =
      (before.aim layout key).stored := by
    funext x
    simp only [Surroundings.aim, cleared, cleans.sees.unwanted, Layout.target]
    rw [Layout.cleaned_nil, Layout.cleaned_eq_self clean]
    rfl
  have marks : ((before.updateStale (·.clear key unwanted)).aim layout key).observer =
      (before.aim layout key).observer := by
    rw [aim_observer_of_nil cleared]
    simp only [Surroundings.aim, cleans.sees.unwanted]
  exact congrArg₂ Aim.mk marks stored

theorem achieves_clearStale :
    (alone (Pursues layout key)).Achieves (Cleans layout key copy unwanted [])
      (Attempt.ask (.clearStale key unwanted)) fun _ => Cleans layout key copy [] [] := by
  refine .request Except.ok (stable_alone _) (fun _ => stable_alone _) ?_ ?_
  · intro state cleans
    refine ⟨?_, ?_, nofun⟩
    · rintro reply after rfl
      exact cleans.aim_clearStale
    · rintro key' zones same
      cases same
      exact ⟨rfl, fun zone member => (cleans.cleaned zone member).resolve_left List.not_mem_nil⟩
  · rintro state reply after _ cleans rfl -
    refine ⟨⟨cleans.sees.copied, ?_, rfl⟩, nofun, nofun⟩
    rw [← cleans.sees.unwanted]
    exact unwanted_clearStale state key

theorem Sees.isDone (sees : Sees key copy [] known after) (admits : layout.Admits key copy)
    (reached : ∀ x : String, layout.concluded key copy x known[x]? = known[x]?) :
    after.IsDone layout key := by
  refine ⟨sees.copied ▸ admits, sees.unwanted, ?_⟩
  have stored : (after.aim layout key).stored = fun x => after.memory.contents[x]? := by
    funext x
    simp only [Surroundings.aim, sees.copied, sees.unwanted, sees.contents, Layout.target,
      Layout.cleaned_nil]
    exact reached x
  have marks : (after.aim layout key).observer = after.observer :=
    aim_observer_of_nil sees.unwanted
  exact congrArg₂ Aim.mk marks stored

theorem achieves_publish (alive : service.isDeleting = false) (cleaned : Nat) :
    (alone (Pursues layout key)).Achieves (Sees key (some service) [] known)
      (publish layout service cleaned) fun _ => IsDone layout key := by
  unfold publish
  refine (Agreement.Achieves.ofRecord (stable_alone _)).bind fun record => ⟨?_⟩
  rintro state ⟨made, sees⟩
  refine ((achieves_listEntries fun _ sees => sees.pursues_list _).bind fun current =>
    ⟨?_⟩).honours state sees
  rintro state ⟨rfl, sees⟩
  refine ((achieves_puts _ known ?puts ?wants).bind fun _ => (achieves_deletes _ id _ ?deletes).bind
    fun _ => .pure (stable_alone _) ?_).honours state sees
  case puts =>
    rintro ⟨x, value⟩ member
    rw [Layout.target_live alive made, Layout.target_live alive made]
    exact Layout.published_put made member
  case wants =>
    rintro ⟨x, value⟩ member
    obtain ⟨entry, wanted, -, rfl⟩ := Changes.mem_puts.mp member
    exact ⟨service, entry, rfl, alive, ⟨record, made, wanted⟩, rfl⟩
  case deletes =>
    intro x member
    rw [Layout.target_live alive made, Layout.target_live alive made]
    exact Layout.published_delete member
  intro state sees
  rw [List.map_id] at sees
  refine sees.isDone ?_ fun x => ?_
  · rintro service ⟨⟩
    simp [alive, made]
  · rw [Layout.concluded_live alive made]
    exact Layout.published_applied layout record known x

theorem achieves_withdraw (deleting : service.isDeleting = true) (cleaned : Nat) :
    (alone (Pursues layout key)).Achieves (Sees key (some service) [] known)
      (withdraw layout key service cleaned) fun _ => IsDone layout key := by
  have concluded : ∀ x value?, layout.target key (some service) [] x value? =
      layout.cleaned key [service.spec.zone] x value? := by
    simp [Layout.target, Layout.concluded, deleting]
  unfold withdraw
  refine (Agreement.Achieves.ofRecord (stable_alone _)).bind fun directory => ⟨?_⟩
  rintro state ⟨found, sees⟩
  refine ((achieves_deleteOwned directory ?_).bind fun deleted =>
    .pure (stable_alone _) ?_).honours state sees
  · intro x value below owned
    have resides : layout.Resides key service.spec.zone x := ⟨directory, found, below⟩
    rw [concluded, concluded, Layout.cleaned_none,
      Layout.cleaned_of_owned (List.mem_singleton_self _) resides owned]
  · intro state sees
    refine sees.isDone ?_ fun x => ?_
    · rintro service ⟨⟩
      simp [deleting, found]
    have clean : ∀ zone ∈ [service.spec.zone],
        layout.IsClean (Store.withoutOwned layout directory known) key zone := by
      intro zone member
      rw [List.mem_singleton.mp member]
      exact Layout.isClean_withoutOwned found
    have same := concluded x (Store.withoutOwned layout directory known)[x]?
    rwa [Layout.cleaned_eq_self clean, Layout.target, Layout.cleaned_nil] at same

theorem achieves_conclude (cleaned : Nat) :
    (alone (Pursues layout key)).Achieves (Sees key copy [] known)
      (conclude layout key cleaned copy) fun _ => IsDone layout key := by
  cases copy with
  | none =>
    apply Agreement.Achieves.pure (stable_alone _)
    intro state sees
    exact sees.isDone nofun fun _ => rfl
  | some service =>
    unfold conclude
    dsimp only
    split
    · rename_i deleting
      exact achieves_withdraw deleting cleaned
    · rename_i alive
      rw [Bool.not_eq_true] at alive
      exact achieves_publish alive cleaned

theorem achieves_readService :
    (alone (Pursues layout key)).Achieves (fun _ => True) (Attempt.ask (.readService key))
      fun copy state => state.observer.cache.find? key = copy := by
  refine .request Except.ok (stable_alone _) (fun _ => stable_alone _) ?_ ?_
  · refine fun state _ => ⟨?_, nofun, nofun⟩
    rintro reply after ⟨-, rfl⟩
    rfl
  · rintro state reply after copy - ⟨rfl, rfl⟩ ⟨⟩
    rfl

theorem achieves_readStale :
    (alone (Pursues layout key)).Achieves (fun state => state.observer.cache.find? key = copy)
      (Attempt.ask (.readStale key)) fun stale =>
        Cleans layout key copy (stale.filter fun zone => wantedZone? copy != some zone)
          (stale.filter fun zone => wantedZone? copy != some zone) := by
  refine .request Except.ok (stable_alone _) (fun _ => stable_alone _) ?_ ?_
  · refine fun state _ => ⟨?_, nofun, nofun⟩
    rintro reply after ⟨-, rfl⟩
    rfl
  · rintro state reply after stale copied ⟨rfl, rfl⟩ ⟨⟩
    refine ⟨⟨copied, ?_, rfl⟩, fun _ member => member, fun _ member => .inl member⟩
    rw [Surroundings.unwanted, copied]

/-- A reconciliation heads for its aim all the time, and has reached it when it succeeds. -/
theorem achieves_reconcile (layout : Layout) (key : Key) :
    (alone (Pursues layout key)).Achieves (fun _ => True) (ServiceRecords.reconcile layout key)
      fun _ => IsDone layout key := by
  exact .reconcile_of_cleared (fun copy unwanted => Cleans layout key copy unwanted unwanted)
    (fun copy unwanted => Cleans layout key copy unwanted [])
    (fun copy _ => Cleans layout key copy [] []) achieves_readService
    (fun _ => achieves_readStale) (fun _ unwanted => achieves_cleanZones unwanted)
    (fun _ _ _ => achieves_clearStale) (fun _ _ cleans => cleans)
    fun _ _ cleaned => ⟨fun state cleans => (achieves_conclude cleaned).honours state cleans.sees⟩

end Surroundings

end ServiceRecords
