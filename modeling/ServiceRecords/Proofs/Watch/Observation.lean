import ServiceRecords.Proofs.Record.Placement
import ServiceRecords.Watch.Observer

set_option autoImplicit false

/-!
# What an observer keeps in mind

An observer loses sight of no zone in which a key was published: when an event moves the cache on,
the zone that a key leaves has a mark, and the key is given notice of (`Advances`,
`exists_advances`). The invariant `IsAttentive` speaks of the list in progress as well: a listed
service takes the place of the cached one only later, and until then the cached zone must keep its
mark, unless it has been `forgotten`.
-/

namespace ServiceRecords

namespace StaleZones

variable {stale : StaleZones} {key other : Key} {zone marked : String} {zones : List String}

theorem mem_zones : zone ∈ stale.zones key ↔ (⟨key, zone⟩ : StaleMark) ∈ stale.marks := by
  unfold StaleZones.zones
  simp only [List.mem_map, List.mem_filter, Std.ExtTreeSet.mem_toList, decide_eq_true_eq]
  constructor
  · rintro ⟨mark, ⟨member, rfl⟩, rfl⟩
    exact member
  · intro member
    exact ⟨_, ⟨member, rfl⟩, rfl⟩

theorem mem_zones_mark :
    zone ∈ (stale.mark key marked).zones other ↔
      zone ∈ stale.zones other ∨
        other = key ∧ zone = Dns.Zone.normalize marked ∧ zone ≠ "" := by
  rw [mem_zones, mem_zones]
  unfold mark
  by_cases empty : Dns.Zone.normalize marked = ""
  · simp only [empty, if_true]
    constructor
    · exact .inl
    · rintro (member | ⟨-, rfl, nonempty⟩)
      · exact member
      · exact absurd rfl nonempty
  · simp only [empty, if_false, Std.ExtTreeSet.mem_insert, Std.LawfulEqCmp.compare_eq_iff_eq,
      StaleMark.mk.injEq]
    constructor
    · rintro (⟨rfl, rfl⟩ | member)
      · exact .inr ⟨rfl, rfl, empty⟩
      · exact .inl member
    · rintro (member | ⟨rfl, rfl, -⟩)
      · exact .inr member
      · exact .inl ⟨rfl, rfl⟩

theorem zones_clear (stale : StaleZones) (key : Key) (zones : List String) :
    (stale.clear key zones).zones key =
      (stale.zones key).filter fun zone => !zones.contains zone := by
  unfold StaleZones.zones clear
  rw [Std.ExtTreeSet.toList_filter, List.filter_map, List.filter_filter, List.filter_filter]
  congr 1
  apply List.filter_congr
  intro mark _
  by_cases own : mark.key = key <;> simp [own]

theorem zones_clear_subset : (stale.clear key zones).zones other ⊆ stale.zones other := by
  intro zone member
  rw [mem_zones, clear, Std.ExtTreeSet.mem_filter] at member
  exact mem_zones.mpr member.1

theorem zones_clear_of_ne (stale : StaleZones) (zones : List String) (different : other ≠ key) :
    (stale.clear key zones).zones other = stale.zones other := by
  unfold StaleZones.zones clear
  rw [Std.ExtTreeSet.toList_filter, List.filter_filter]
  congr 1
  apply List.filter_congr
  intro mark _
  by_cases own : mark.key = other <;> simp [own, different]

end StaleZones

namespace Service

/-- The service has a name and a namespace. -/
def IsNamed (service : Service) : Prop :=
  ∃ name ns, service.metadata.name = some name ∧ service.metadata.ns = some ns

/-- The service has a name and a namespace, both in lower case. -/
structure IsProper (service : Service) : Prop where
  named : ∃ name ns, service.metadata.name = some name ∧ service.metadata.ns = some ns
  isLower : service.key.IsLower

instance (service : Service) : Decidable service.IsProper :=
  decidable_of_iff (service.metadata.name.isSome ∧ service.metadata.ns.isSome ∧
      service.key.IsLower) <| by
    simp only [Option.isSome_iff_exists]
    constructor
    · rintro ⟨⟨name, named⟩, ⟨ns, placed⟩, lower⟩
      exact ⟨⟨name, ns, named, placed⟩, lower⟩
    · rintro ⟨⟨name, ns, named, placed⟩, lower⟩
      exact ⟨⟨name, named⟩, ⟨ns, placed⟩, lower⟩

variable {service : Service}

theorem key_eq {name ns : String} (named : service.metadata.name = some name)
    (placed : service.metadata.ns = some ns) : service.key = ⟨ns, name⟩ := by
  simp [Service.key, named, placed]

end Service

namespace Cache

variable {cache changed : Cache} {key : Key} {service : Service}

/-- Every service is found under its own key and no other, in lower case. -/
def IsWellFormed (cache : Cache) : Prop :=
  ∀ key service, cache.find? key = some service → service.key = key ∧ key.IsLower

theorem isWellFormed_empty : empty.IsWellFormed := by
  intro key service found
  simp [Cache.find?, Cache.empty] at found

theorem exists_insert? (cache : Cache) (named : service.IsNamed) :
    ∃ changed, cache.insert? service = some changed ∧ ∀ key,
      changed.find? key = if service.key = key then some service else cache.find? key := by
  obtain ⟨name, ns, named, placed⟩ := named
  refine ⟨_, by rw [insert?, named, placed], ?_⟩
  intro key
  rw [Service.key_eq named placed]
  unfold Cache.find?
  rw [Std.ExtTreeMap.getElem?_insert]
  simp only [Std.LawfulEqCmp.compare_eq_iff_eq]
  split <;> rfl

theorem IsWellFormed.insert? (wellFormed : cache.IsWellFormed) (proper : service.IsProper)
    (found : ∀ key, changed.find? key =
      if service.key = key then some service else cache.find? key) :
    changed.IsWellFormed := by
  intro key stored present
  rw [found] at present
  split at present
  · rename_i same
    cases present
    exact ⟨same, same ▸ proper.isLower⟩
  · exact wellFormed key stored present

/-- No service in the cache lacks a namespace. -/
def IsNamespaced (cache : Cache) : Prop := ∀ name : String, cache.unscoped[name]? = none

theorem isNamespaced_empty : empty.IsNamespaced := by simp [IsNamespaced, empty]

/-- A key in lower case can be given a variant that no well-formed cache holds. -/
theorem IsWellFormed.isNamespaced (wellFormed : cache.IsWellFormed) : cache.IsNamespaced := by
  intro name
  have missing : cache.find? ⟨"A", name⟩ = none := by
    rw [Option.eq_none_iff_forall_ne_some]
    intro service found
    exact absurd (wellFormed _ service found).2.ns (show ¬"A".toLower = "A" by decide +kernel)
  simp only [Cache.find?, Option.orElse_eq_orElse, Option.orElse_eq_or,
    Option.or_eq_none_iff] at missing
  exact missing.2

theorem IsNamespaced.find?_eq (all : cache.IsNamespaced) (key : Key) :
    cache.find? key = cache.namespaced[key]? := by
  unfold Cache.find?
  rw [all]
  simp

theorem IsNamespaced.insert? (all : cache.IsNamespaced) (named : service.IsNamed)
    (inserted : cache.insert? service = some changed) : changed.IsNamespaced := by
  obtain ⟨name, ns, named, placed⟩ := named
  simp only [Cache.insert?, named, placed] at inserted
  cases inserted
  exact all

theorem IsNamespaced.erase? (all : cache.IsNamespaced) (named : service.IsNamed)
    (erased : cache.erase? service = some changed) : changed.IsNamespaced := by
  obtain ⟨name, ns, named, placed⟩ := named
  simp only [Cache.erase?, named, placed] at erased
  cases erased
  exact all

theorem exists_erase? (all : cache.IsNamespaced) (named : service.IsNamed) :
    ∃ changed, cache.erase? service = some changed ∧ ∀ key,
      changed.find? key = if service.key = key then none else cache.find? key := by
  obtain ⟨name, ns, named, placed⟩ := named
  refine ⟨_, by rw [erase?, named, placed], ?_⟩
  intro key
  rw [Service.key_eq named placed, all.find?_eq]
  unfold Cache.find?
  rw [Std.ExtTreeMap.getElem?_erase]
  simp only [Std.LawfulEqCmp.compare_eq_iff_eq, all _]
  split <;> simp

/-- The service is in the cache, under whatever key. -/
def Holds (cache : Cache) (service : Service) : Prop :=
  (∃ key : Key, cache.namespaced[key]? = some service) ∨
    ∃ name : String, cache.unscoped[name]? = some service

theorem holds_of_find? (found : cache.find? key = some service) : cache.Holds service := by
  unfold find? at found
  cases namespaced : cache.namespaced[key]? with
  | some held =>
    simp only [namespaced, Option.orElse_eq_orElse, Option.orElse_some] at found
    exact .inl ⟨key, by rw [namespaced, found]⟩
  | none =>
    simp only [namespaced, Option.orElse_eq_orElse, Option.orElse_none] at found
    exact .inr ⟨key.name, found⟩

theorem Holds.of_insert? {inserted : Service} (made : cache.insert? inserted = some changed)
    (holds : changed.Holds service) : service = inserted ∨ cache.Holds service := by
  unfold insert? at made
  split at made
  · cases made
  · cases made
    rcases holds with ⟨key, held⟩ | ⟨name, held⟩
    · rw [Std.ExtTreeMap.getElem?_insert] at held
      split at held
      · exact .inl (Option.some.inj held).symm
      · exact .inr (.inl ⟨key, held⟩)
    · exact .inr (.inr ⟨name, held⟩)
  · cases made
    rcases holds with ⟨key, held⟩ | ⟨name, held⟩
    · exact .inr (.inl ⟨key, held⟩)
    · rw [Std.ExtTreeMap.getElem?_insert] at held
      split at held
      · exact .inl (Option.some.inj held).symm
      · exact .inr (.inr ⟨name, held⟩)

theorem Holds.of_erase? {erased : Service} (made : cache.erase? erased = some changed)
    (holds : changed.Holds service) : cache.Holds service := by
  unfold erase? at made
  split at made
  · cases made
  · cases made
    rcases holds with ⟨key, held⟩ | ⟨name, held⟩
    · rw [Std.ExtTreeMap.getElem?_erase] at held
      split at held
      · cases held
      · exact .inl ⟨key, held⟩
    · exact .inr ⟨name, held⟩
  · cases made
    rcases holds with ⟨key, held⟩ | ⟨name, held⟩
    · exact .inl ⟨key, held⟩
    · rw [Std.ExtTreeMap.getElem?_erase] at held
      split at held
      · cases held
      · exact .inr ⟨name, held⟩

theorem not_holds_empty : ¬empty.Holds service := by
  rintro (⟨key, held⟩ | ⟨name, held⟩)
  · simp [empty] at held
  · simp [empty] at held

/-- Where every service has a namespace, no sorting is needed. -/
theorem IsNamespaced.keys_eq (all : cache.IsNamespaced) : cache.keys = cache.namespaced.keys := by
  have unscoped : cache.unscoped.keys = [] := by
    rw [List.eq_nil_iff_forall_not_mem]
    intro name member
    rw [Std.ExtTreeMap.mem_keys, Std.ExtTreeMap.mem_iff_isSome_getElem?, all] at member
    cases member
  unfold Cache.keys Key.sort
  simp only [unscoped, List.map_nil, List.nil_append]
  refine List.mergeSort_of_pairwise (Std.ExtTreeMap.ordered_keys.imp ?_)
  intro first second ordered
  rw [ordered]
  rfl

theorem mem_keys (all : cache.IsNamespaced) :
    key ∈ cache.keys ↔ ∃ service, cache.find? key = some service := by
  rw [all.keys_eq, Std.ExtTreeMap.mem_keys, Std.ExtTreeMap.mem_iff_isSome_getElem?,
    all.find?_eq, Option.isSome_iff_exists]

end Cache

/-- The events that a watch of services gives: nothing is applied or deleted during a list, and a
list is complete only after it has been started. -/
def WatchEvent.Fits (observer : Observer) : WatchEvent → Prop
  | .applied service => service.IsProper ∧ observer.listing = none
  | .deleted service => service.IsProper ∧ observer.listing = none
  | .listStarted => True
  | .listed service => service.IsProper ∧ observer.listing.isSome
  | .listComplete => observer.listing.isSome

instance (observer : Observer) : (event : WatchEvent) → Decidable (event.Fits observer)
  | .applied service => inferInstanceAs (Decidable (service.IsProper ∧ observer.listing = none))
  | .deleted service => inferInstanceAs (Decidable (service.IsProper ∧ observer.listing = none))
  | .listStarted => .isTrue trivial
  | .listed service => inferInstanceAs (Decidable (service.IsProper ∧ observer.listing.isSome))
  | .listComplete => inferInstanceAs (Decidable observer.listing.isSome)

/-- A service that is listed has not moved since it was cached. -/
def WatchEvent.KeepsZone (observer : Observer) : WatchEvent → Prop
  | .listed service => ∀ previous ∈ observer.cache.find? service.key,
      Dns.Zone.normalize previous.spec.zone = Dns.Zone.normalize service.spec.zone
  | _ => True

instance (observer : Observer) : (event : WatchEvent) → Decidable (event.KeepsZone observer)
  | .listed service =>
    inferInstanceAs (Decidable (∀ previous ∈ observer.cache.find? service.key, _))
  | .applied _ | .deleted _ | .listStarted | .listComplete => .isTrue trivial

namespace Observer

variable {observer : Observer} {key : Key} {zone : String} {forgotten : Key → String → Prop}

/-- The zone is the one of the cached service, or it has a mark. No mark is needed for the zone
that no text is left of. -/
def Keeps (observer : Observer) (key : Key) (zone : String) : Prop :=
  zone = "" ∨ (∃ service, observer.cache.find? key = some service ∧
    Dns.Zone.normalize service.spec.zone = zone) ∨ zone ∈ observer.stale.zones key

/-- The zone has a mark, unless no text is left of it. -/
def Marks (observer : Observer) (key : Key) (zone : String) : Prop :=
  zone = "" ∨ zone ∈ observer.stale.zones key

/-- What an observer sees to all the time. -/
structure IsAttentive (forgotten : Key → String → Prop) (observer : Observer) : Prop where
  cached : observer.cache.IsWellFormed
  buffered : observer.buffer.IsWellFormed
  listed : ∀ key, (∃ service, observer.buffer.find? key = some service) ↔
    key ∈ observer.listing.getD ∅
  kept : ∀ key service previous, observer.buffer.find? key = some service →
    observer.cache.find? key = some previous →
      Dns.Zone.normalize previous.spec.zone = Dns.Zone.normalize service.spec.zone ∨
        observer.Marks key (Dns.Zone.normalize previous.spec.zone) ∨
        forgotten key (Dns.Zone.normalize previous.spec.zone)

theorem Keeps.of_marks (marks : observer.Marks key zone) : observer.Keeps key zone :=
  marks.imp_right .inr

theorem marks_mark (observer : Observer) (key : Key) (zone : String) :
    (observer.mark key zone).Marks key (Dns.Zone.normalize zone) := by
  by_cases empty : Dns.Zone.normalize zone = ""
  · exact .inl empty
  · exact .inr (StaleZones.mem_zones_mark.mpr (.inr ⟨rfl, rfl, empty⟩))

theorem Marks.mark (marks : observer.Marks key zone) (other : Key) (marked : String) :
    (observer.mark other marked).Marks key zone :=
  marks.imp_right fun member => StaleZones.mem_zones_mark.mpr (.inl member)

theorem Marks.congr {after : Observer} (marks : observer.Marks key zone)
    (same : after.stale = observer.stale) : after.Marks key zone := by
  unfold Marks
  rwa [same]

/-- Remembering adds marks and changes nothing else. -/
structure Recalls (before after : Observer) : Prop where
  cache : after.cache = before.cache
  buffer : after.buffer = before.buffer
  listing : after.listing = before.listing
  marks : ∀ {key zone}, before.Marks key zone → after.Marks key zone

theorem Recalls.refl (observer : Observer) : Recalls observer observer :=
  ⟨rfl, rfl, rfl, id⟩

theorem Recalls.trans {before between after : Observer} (first : Recalls before between)
    (second : Recalls between after) : Recalls before after where
  cache := second.cache.trans first.cache
  buffer := second.buffer.trans first.buffer
  listing := second.listing.trans first.listing
  marks marks := second.marks (first.marks marks)

theorem recalls_mark (observer : Observer) (key : Key) (zone : String) :
    Recalls observer (observer.mark key zone) :=
  ⟨rfl, rfl, rfl, fun marks => marks.mark key zone⟩

theorem recalls_rememberMove (observer : Observer) (service : Service) :
    Recalls observer (observer.rememberMove service) := by
  unfold rememberMove
  split
  · split
    · exact .refl observer
    · exact recalls_mark observer _ _
  · exact .refl observer

theorem marks_rememberMove {service previous : Service}
    (found : observer.cache.find? service.key = some previous) :
    Dns.Zone.normalize previous.spec.zone = Dns.Zone.normalize service.spec.zone ∨
      (observer.rememberMove service).Marks service.key
        (Dns.Zone.normalize previous.spec.zone) := by
  unfold rememberMove
  rw [found]
  by_cases same : Dns.Zone.normalize previous.spec.zone = Dns.Zone.normalize service.spec.zone
  · exact .inl same
  · simp only [same, if_false]
    exact .inr (marks_mark ..)

theorem recalls_rememberCached (observer : Observer) (key : Key) :
    Recalls observer (observer.rememberCached key) := by
  unfold rememberCached
  split
  · exact recalls_mark observer _ _
  · exact .refl observer

theorem marks_rememberCached {previous : Service}
    (found : observer.cache.find? key = some previous) :
    (observer.rememberCached key).Marks key (Dns.Zone.normalize previous.spec.zone) := by
  unfold rememberCached
  rw [found]
  exact marks_mark ..

theorem recalls_foldl (keys : List Key) (observer : Observer) :
    Recalls observer (keys.foldl rememberCached observer) := by
  induction keys generalizing observer with
  | nil => exact .refl observer
  | cons key rest ih => exact (recalls_rememberCached observer key).trans (ih _)

theorem marks_foldl {keys : List Key} {previous : Service} (member : key ∈ keys)
    (found : observer.cache.find? key = some previous) :
    (keys.foldl rememberCached observer).Marks key (Dns.Zone.normalize previous.spec.zone) := by
  induction keys generalizing observer with
  | nil => cases member
  | cons first rest ih =>
    have recalls := recalls_rememberCached observer first
    rcases List.mem_cons.mp member with rfl | member
    · exact (recalls_foldl rest _).marks (marks_rememberCached found)
    · exact ih member (by rwa [recalls.cache])

/-- The list in progress moves the key from this zone to another one. -/
def Leaves (observer : Observer) (key : Key) (zone : String) : Prop :=
  ∃ previous service, observer.cache.find? key = some previous ∧
    observer.buffer.find? key = some service ∧
    Dns.Zone.normalize previous.spec.zone = zone ∧ Dns.Zone.normalize service.spec.zone ≠ zone

theorem isAttentive_start : Observer.IsAttentive forgotten {} where
  cached := Cache.isWellFormed_empty
  buffered := Cache.isWellFormed_empty
  listed := by
    intro key
    constructor
    · rintro ⟨service, present⟩
      simp [Cache.find?, Cache.empty] at present
    · intro member
      exact absurd member Std.ExtTreeSet.not_mem_empty
  kept := by
    intro key service previous present
    simp [Cache.find?, Cache.empty] at present

theorem IsAttentive.mono {forgotten' : Key → String → Prop}
    (attentive : observer.IsAttentive forgotten)
    (weaker : ∀ key zone, forgotten key zone → forgotten' key zone) :
    observer.IsAttentive forgotten' where
  cached := attentive.cached
  buffered := attentive.buffered
  listed := attentive.listed
  kept key service previous present cached :=
    (attentive.kept key service previous present cached).imp_right fun rest =>
      rest.imp_right (weaker key _)

theorem IsAttentive.recalls {after : Observer} (attentive : observer.IsAttentive forgotten)
    (recalls : Recalls observer after) : after.IsAttentive forgotten where
  cached := recalls.cache ▸ attentive.cached
  buffered := recalls.buffer ▸ attentive.buffered
  listed := by
    rw [recalls.buffer, recalls.listing]
    exact attentive.listed
  kept := by
    intro key service previous present cached
    rw [recalls.buffer] at present
    rw [recalls.cache] at cached
    exact (attentive.kept key service previous present cached).imp_right fun rest =>
      rest.imp_left recalls.marks

/-- Clearing a mark is as good as forgetting the zones that the list in progress needs it for. -/
theorem IsAttentive.clear (attentive : observer.IsAttentive forgotten) {key : Key}
    {zones : List String}
    (lost : ∀ zone ∈ zones, observer.Leaves key zone → forgotten key zone) :
    { observer with stale := observer.stale.clear key zones }.IsAttentive forgotten where
  cached := attentive.cached
  buffered := attentive.buffered
  listed := attentive.listed
  kept := by
    intro other service previous present cached
    rcases attentive.kept other service previous present cached with same | (empty | stale) | gone
    · exact .inl same
    · exact .inr (.inl (.inl empty))
    · by_cases same : Dns.Zone.normalize previous.spec.zone = Dns.Zone.normalize service.spec.zone
      · exact .inl same
      by_cases cleared : other = key ∧ Dns.Zone.normalize previous.spec.zone ∈ zones
      · obtain ⟨rfl, member⟩ := cleared
        exact .inr (.inr (lost _ member ⟨previous, service, cached, present, rfl, Ne.symm same⟩))
      · refine .inr (.inl (.inr ?_))
        by_cases own : other = key
        · subst own
          rw [StaleZones.zones_clear, List.mem_filter]
          exact ⟨stale, by simpa using cleared⟩
        · rwa [StaleZones.zones_clear_of_ne _ _ own]
    · exact .inr (.inr gone)

theorem mem_vanished (all : observer.cache.IsNamespaced) :
    key ∈ observer.vanished ↔
      (∃ service, observer.cache.find? key = some service) ∧ key ∉ observer.listing.getD ∅ := by
  unfold vanished
  simp only [Std.ExtTreeSet.mem_toList, Std.ExtTreeSet.mem_ofList, List.contains_iff_mem,
    List.mem_filter, Cache.mem_keys all, Bool.not_eq_true',
    ← Bool.not_eq_true, Std.ExtTreeSet.contains_iff_mem]

/-- What an event does: what the observer still keeps, and what it gives notice of. -/
structure Advances (forgotten : Key → String → Prop) (before : Observer) (notices : List Notice)
    (after : Observer) : Prop where
  attentive : after.IsAttentive forgotten
  keeps : ∀ key zone, before.Keeps key zone → after.Keeps key zone ∨ forgotten key zone
  marks : ∀ key zone, before.Marks key zone → after.Marks key zone
  noticed : ∀ key, key ∉ notices.map (·.key) → after.cache.find? key = before.cache.find? key
  isLower : ∀ notice ∈ notices, notice.key.IsLower

variable {service : Service}

theorem IsAttentive.idle (attentive : observer.IsAttentive forgotten)
    (idle : observer.listing = none) (key : Key) : observer.buffer.find? key = none := by
  rw [Option.eq_none_iff_forall_ne_some]
  intro service found
  have listed := (attentive.listed key).mp ⟨service, found⟩
  rw [idle] at listed
  exact Std.ExtTreeSet.not_mem_empty listed

/-- The service is in the cache or in the list in progress. -/
def Knows (observer : Observer) (service : Service) : Prop :=
  observer.cache.Holds service ∨ observer.buffer.Holds service

theorem Recalls.knows {after : Observer} {service : Service} (recalls : Recalls observer after)
    (knows : after.Knows service) : observer.Knows service := by
  unfold Knows at knows
  rwa [recalls.cache, recalls.buffer] at knows

/-- An observer learns of services from events only. -/
theorem Knows.of_apply {event : WatchEvent} {service : Service}
    (knows : (observer.apply event).2.Knows service) :
    observer.Knows service ∨ event = .applied service ∨ event = .listed service := by
  cases event with
  | applied applied =>
    have recalls := recalls_rememberMove observer applied
    simp only [apply] at knows
    split at knows
    · rename_i inserted
      rcases knows with cached | buffered
      · rcases cached.of_insert? inserted with rfl | cached
        · exact .inr (.inl rfl)
        · exact .inl (recalls.knows (.inl cached))
      · exact .inl (recalls.knows (.inr buffered))
    · exact .inl (recalls.knows knows)
  | deleted deleted =>
    have recalls := (recalls_rememberCached observer deleted.key).trans
      (recalls_mark _ deleted.key deleted.spec.zone)
    simp only [apply] at knows
    split at knows
    · rename_i erased
      rcases knows with cached | buffered
      · exact .inl (recalls.knows (.inl (cached.of_erase? erased)))
      · exact .inl (recalls.knows (.inr buffered))
    · exact .inl (recalls.knows knows)
  | listStarted =>
    rcases knows with cached | buffered
    · exact .inl (.inl cached)
    · exact absurd buffered Cache.not_holds_empty
  | listed listed =>
    have recalls := recalls_rememberMove observer listed
    simp only [apply] at knows
    split at knows
    · rename_i inserted
      rcases knows with cached | buffered
      · exact .inl (recalls.knows (.inl cached))
      · rcases buffered.of_insert? inserted with rfl | buffered
        · exact .inr (.inr rfl)
        · exact .inl (recalls.knows (.inr buffered))
    · exact .inl (recalls.knows knows)
  | listComplete =>
    rcases knows with cached | buffered
    · exact .inl (.inr cached)
    · exact absurd buffered Cache.not_holds_empty

/-- Unless a listed service has moved, no list makes a key leave its zone. -/
theorem IsAttentive.not_leaves_apply (attentive : observer.IsAttentive forgotten)
    {event : WatchEvent} (fits : event.Fits observer) (keeps : event.KeepsZone observer)
    (unmoved : ∀ key zone, ¬observer.Leaves key zone) (key : Key) (zone : String) :
    ¬(observer.apply event).2.Leaves key zone := by
  rintro ⟨previous, service, cached, buffered, rfl, moved⟩
  cases event with
  | applied applied =>
    have buffer : (observer.apply (.applied applied)).2.buffer = observer.buffer := by
      simp only [apply]
      split <;> exact (recalls_rememberMove observer applied).buffer
    rw [buffer, attentive.idle fits.2] at buffered
    cases buffered
  | deleted deleted =>
    have buffer : (observer.apply (.deleted deleted)).2.buffer = observer.buffer := by
      simp only [apply]
      split <;> exact (recalls_rememberCached observer deleted.key).buffer
    rw [buffer, attentive.idle fits.2] at buffered
    cases buffered
  | listStarted => simp [apply, Cache.find?, Cache.empty] at buffered
  | listComplete => simp [apply, completeList, Cache.find?, Cache.empty] at buffered
  | listed listed =>
    have recalls := recalls_rememberMove observer listed
    obtain ⟨buffer, inserted, found⟩ := Cache.exists_insert? observer.buffer fits.1.named
    rw [← recalls.buffer] at inserted
    simp only [apply, inserted] at cached buffered
    rw [recalls.cache] at cached
    rw [found] at buffered
    split at buffered
    · rename_i own
      subst own
      cases buffered
      exact moved (keeps previous cached).symm
    · exact unmoved key _ ⟨previous, service, cached, buffered, rfl, moved⟩

theorem advances_applied (attentive : observer.IsAttentive forgotten) (proper : service.IsProper)
    (idle : observer.listing = none) :
    ∃ notices after, observer.apply (.applied service) = (some notices, after) ∧
      Advances forgotten observer notices after := by
  have recalls := recalls_rememberMove observer service
  obtain ⟨cache, inserted, found⟩ := Cache.exists_insert? observer.cache proper.named
  rw [← recalls.cache] at inserted
  refine ⟨_, { observer.rememberMove service with cache },
    by simp only [apply, inserted]; rfl, ?_⟩
  refine ⟨⟨attentive.cached.insert? proper found, ?_, ?_, ?_⟩, ?_, ?_, ?_, ?_⟩
  · rw [recalls.buffer]
    exact attentive.buffered
  · rw [recalls.buffer, recalls.listing]
    exact attentive.listed
  · intro key buffered previous present
    change (observer.rememberMove service).buffer.find? key = _ at present
    rw [recalls.buffer, attentive.idle idle] at present
    cases present
  · rintro key zone (empty | ⟨previous, present, rfl⟩ | stale)
    · exact .inl (.inl empty)
    · by_cases own : service.key = key
      · subst own
        rcases marks_rememberMove present with same | marks
        · refine .inl (.inr (.inl ⟨service, ?_, same.symm⟩))
          rw [found, if_pos rfl]
        · exact .inl (.of_marks (marks.congr rfl))
      · refine .inl (.inr (.inl ⟨previous, ?_, rfl⟩))
        rwa [found, if_neg own]
    · exact .inl (.of_marks ((recalls.marks (.inr stale)).congr rfl))
  · intro key zone marks
    exact (recalls.marks marks).congr rfl
  · intro key unnoticed
    have other : service.key ≠ key := by
      rintro rfl
      exact unnoticed (by simp)
    rw [found, if_neg other]
  · intro notice member
    obtain rfl := List.mem_singleton.mp member
    exact proper.isLower

theorem advances_deleted (attentive : observer.IsAttentive forgotten) (proper : service.IsProper)
    (idle : observer.listing = none) :
    ∃ notices after, observer.apply (.deleted service) = (some notices, after) ∧
      Advances forgotten observer notices after := by
  have recalls := (recalls_rememberCached observer service.key).trans
    (recalls_mark (observer.rememberCached service.key) service.key service.spec.zone)
  obtain ⟨cache, erased, found⟩ := Cache.exists_erase? attentive.cached.isNamespaced proper.named
  rw [← recalls.cache] at erased
  refine ⟨_,
    { (observer.rememberCached service.key).mark service.key service.spec.zone with cache },
    by simp only [apply, erased]; rfl, ?_⟩
  refine ⟨⟨?_, ?_, ?_, ?_⟩, ?_, ?_, ?_, ?_⟩
  · intro key stored present
    rw [found] at present
    split at present
    · cases present
    · exact attentive.cached key stored present
  · rw [recalls.buffer]
    exact attentive.buffered
  · rw [recalls.buffer, recalls.listing]
    exact attentive.listed
  · intro key buffered previous present
    have unchanged := (congrArg (·.find? key) recalls.buffer).trans (attentive.idle idle key)
    rw [unchanged] at present
    cases present
  · rintro key zone (empty | ⟨previous, present, rfl⟩ | stale)
    · exact .inl (.inl empty)
    · by_cases own : service.key = key
      · subst own
        have marks := (marks_rememberCached present).mark service.key service.spec.zone
        exact .inl (.of_marks (marks.congr rfl))
      · refine .inl (.inr (.inl ⟨previous, ?_, rfl⟩))
        rwa [found, if_neg own]
    · exact .inl (.of_marks ((recalls.marks (.inr stale)).congr rfl))
  · intro key zone marks
    exact (recalls.marks marks).congr rfl
  · intro key unnoticed
    have other : service.key ≠ key := by
      rintro rfl
      exact unnoticed (by simp)
    rw [found, if_neg other]
  · intro notice member
    obtain rfl := List.mem_singleton.mp member
    exact proper.isLower

theorem advances_listStarted (attentive : observer.IsAttentive forgotten) :
    ∃ notices after, observer.apply .listStarted = (some notices, after) ∧
      Advances forgotten observer notices after := by
  refine ⟨_, _, rfl, ⟨attentive.cached, Cache.isWellFormed_empty, ?_, ?_⟩, ?_, ?_, ?_, ?_⟩
  · intro key
    constructor
    · rintro ⟨service, present⟩
      simp [Cache.find?, Cache.empty] at present
    · intro member
      exact absurd member Std.ExtTreeSet.not_mem_empty
  · intro key service previous present
    simp [Cache.find?, Cache.empty] at present
  · exact fun key zone keeps => .inl keeps
  · exact fun key zone marks => marks
  · exact fun key _ => rfl
  · exact nofun

theorem advances_listed (attentive : observer.IsAttentive forgotten) (proper : service.IsProper) :
    ∃ notices after, observer.apply (.listed service) = (some notices, after) ∧
      Advances forgotten observer notices after := by
  have recalls := recalls_rememberMove observer service
  obtain ⟨buffer, inserted, found⟩ := Cache.exists_insert? observer.buffer proper.named
  rw [← recalls.buffer] at inserted
  refine ⟨_, { observer.rememberMove service with
      buffer, listing := some ((observer.listing.getD ∅).insert service.key) },
    by simp only [apply, inserted, recalls.listing]; rfl, ?_⟩
  refine ⟨⟨?_, attentive.buffered.insert? proper found, ?_, ?_⟩, ?_, ?_, ?_, ?_⟩
  · rw [recalls.cache]
    exact attentive.cached
  · intro key
    simp only [found, Option.getD_some, Std.ExtTreeSet.mem_insert,
      Std.LawfulEqCmp.compare_eq_iff_eq, ← attentive.listed]
    by_cases own : service.key = key <;> simp [own]
  · intro key buffered previous present cached
    change (observer.rememberMove service).cache.find? key = _ at cached
    rw [recalls.cache] at cached
    rw [found] at present
    split at present
    · rename_i own
      subst own
      cases present
      rcases marks_rememberMove cached with same | marks
      · exact .inl same
      · exact .inr (.inl (marks.congr rfl))
    · rcases attentive.kept key buffered previous present cached with same | marks | lost
      · exact .inl same
      · exact .inr (.inl ((recalls.marks marks).congr rfl))
      · exact .inr (.inr lost)
  · rintro key zone (empty | cached | stale)
    · exact .inl (.inl empty)
    · refine .inl (.inr (.inl ?_))
      rwa [recalls.cache]
    · exact .inl (.of_marks ((recalls.marks (.inr stale)).congr rfl))
  · intro key zone marks
    exact (recalls.marks marks).congr rfl
  · intro key _
    rw [recalls.cache]
  · exact nofun

/-- When the list takes the place of the cache, every zone that a key leaves has a mark. -/
theorem advances_listComplete (attentive : observer.IsAttentive forgotten) :
    ∃ notices after, observer.apply .listComplete = (some notices, after) ∧
      Advances forgotten observer notices after := by
  have recalls := recalls_foldl observer.vanished observer
  have noticed : ∀ key, key ∉ ((observer.vanished.map fun key => Notice.mk .deleted key) ++
      ((observer.listing.getD ∅).toList.map fun key => Notice.mk .resync key)).map (·.key) →
      key ∉ observer.vanished ∧ key ∉ observer.listing.getD ∅ := by
    intro key unnoticed
    simpa [Function.comp_def] using unnoticed
  refine ⟨_, _, rfl, ⟨attentive.buffered, Cache.isWellFormed_empty, ?_, ?_⟩, ?_, ?_, ?_, ?_⟩
  · intro key
    constructor
    · rintro ⟨service, present⟩
      simp [Cache.find?, Cache.empty] at present
    · intro member
      exact absurd member Std.ExtTreeSet.not_mem_empty
  · intro key service previous present
    simp [Cache.find?, Cache.empty] at present
  · rintro key zone (empty | ⟨previous, present, rfl⟩ | stale)
    · exact .inl (.inl empty)
    · by_cases listed : key ∈ observer.listing.getD ∅
      · obtain ⟨service, buffered⟩ := (attentive.listed key).mpr listed
        rcases attentive.kept key service previous buffered present with same | marks | lost
        · exact .inl (.inr (.inl ⟨service, buffered, same.symm⟩))
        · exact .inl (.of_marks ((recalls.marks marks).congr rfl))
        · exact .inr lost
      · have gone := (mem_vanished attentive.cached.isNamespaced).mpr ⟨⟨previous, present⟩, listed⟩
        exact .inl (.of_marks ((marks_foldl gone present).congr rfl))
    · exact .inl (.of_marks ((recalls.marks (.inr stale)).congr rfl))
  · intro key zone marks
    exact (recalls.marks marks).congr rfl
  · intro key unnoticed
    obtain ⟨present, unlisted⟩ := noticed key unnoticed
    have uncached : observer.cache.find? key = none := by
      rw [Option.eq_none_iff_forall_ne_some]
      intro service found
      exact present ((mem_vanished attentive.cached.isNamespaced).mpr ⟨⟨service, found⟩, unlisted⟩)
    have unbuffered : observer.buffer.find? key = none := by
      rw [Option.eq_none_iff_forall_ne_some]
      intro service found
      exact unlisted ((attentive.listed key).mp ⟨service, found⟩)
    exact unbuffered.trans uncached.symm
  · intro notice member
    rcases List.mem_append.mp member with member | member
    · obtain ⟨key, gone, rfl⟩ := List.mem_map.mp member
      obtain ⟨⟨service, found⟩, -⟩ := (mem_vanished attentive.cached.isNamespaced).mp gone
      exact (attentive.cached key service found).2
    · obtain ⟨key, listed, rfl⟩ := List.mem_map.mp member
      rw [Std.ExtTreeSet.mem_toList, ← attentive.listed] at listed
      obtain ⟨service, found⟩ := listed
      exact (attentive.buffered key service found).2

/-- An event that fits is served in full. -/
theorem exists_advances (attentive : observer.IsAttentive forgotten) {event : WatchEvent}
    (fits : event.Fits observer) :
    ∃ notices after, observer.apply event = (some notices, after) ∧
      Advances forgotten observer notices after := by
  cases event with
  | applied service => exact advances_applied attentive fits.1 fits.2
  | deleted service => exact advances_deleted attentive fits.1 fits.2
  | listStarted => exact advances_listStarted attentive
  | listed service => exact advances_listed attentive fits.1
  | listComplete => exact advances_listComplete attentive

end Observer

end ServiceRecords
