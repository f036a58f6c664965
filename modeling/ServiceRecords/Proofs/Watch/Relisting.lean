import ServiceRecords.Proofs.Watch.Observation

set_option autoImplicit false

/-!
# Lists of the same services

A watch that does nothing but list the same services again and again, in any order and not always
to the end, tells an observer nothing new: no zone is ever marked as stale, nothing but these
services is cached, and all of them are from the first complete list on (`Relists.apply`).
-/

namespace ServiceRecords

namespace WatchEvent

/-- What a list in progress has shown after the event, if there is one. -/
def shown (before : Option (List Service)) : WatchEvent → Option (List Service)
  | .listStarted => some []
  | .listed service => before.map (service :: ·)
  | .listComplete => none
  | .applied _ | .deleted _ => before

/-- The event is part of a list of the services. The list is complete only when it has shown all of
them; before that it may be begun anew. -/
def Relists (services : List Service) (before : Option (List Service)) : WatchEvent → Prop
  | .listStarted => True
  | .listed service => service ∈ services ∧ before.isSome
  | .listComplete => ∃ listed ∈ before, ∀ service ∈ services, service ∈ listed
  | .applied _ | .deleted _ => False

instance (services : List Service) (before : Option (List Service)) :
    (event : WatchEvent) → Decidable (event.Relists services before)
  | .listStarted => .isTrue trivial
  | .listed service => inferInstanceAs (Decidable (service ∈ services ∧ before.isSome))
  | .listComplete =>
    inferInstanceAs (Decidable (∃ listed ∈ before, ∀ service ∈ services, service ∈ listed))
  | .applied _ | .deleted _ => .isFalse id

end WatchEvent

namespace Observer

variable {services : List Service} {before : Option (List Service)} {observer : Observer}
  {service : Service}

@[simp]
theorem isReady_rememberMove (observer : Observer) (service : Service) :
    (observer.rememberMove service).isReady = observer.isReady := by
  unfold rememberMove
  split
  · split <;> rfl
  · rfl

@[simp]
theorem isReady_rememberCached (observer : Observer) (key : Key) :
    (observer.rememberCached key).isReady = observer.isReady := by
  unfold rememberCached
  split <;> rfl

/-- Once a list was complete, the observer is ready for good. -/
theorem isReady_apply (ready : observer.isReady = true) (event : WatchEvent) :
    (observer.apply event).2.isReady = true := by
  cases event with
  | applied service =>
    simp only [apply]
    split <;> simpa using ready
  | deleted service =>
    simp only [apply]
    split <;> simpa [mark] using ready
  | listStarted => exact ready
  | listed service =>
    simp only [apply]
    split <;> simpa using ready
  | listComplete => rfl

/-- The observer has seen nothing but lists of the services. -/
structure Relists (services : List Service) (before : Option (List Service)) (observer : Observer) :
    Prop where
  stale : ∀ key, observer.stale.zones key = []
  cached : ∀ key service, observer.cache.find? key = some service →
    service ∈ services ∧ service.key = key
  complete : observer.isReady = true →
    ∀ service ∈ services, observer.cache.find? service.key = some service
  buffered : ∀ key service, observer.buffer.find? key = some service →
    service ∈ services ∧ service.key = key
  listed : ∀ listed ∈ before, ∀ service ∈ listed, service.key ∈ observer.listing.getD ∅ ∧
    observer.buffer.find? service.key = some service

theorem relists_start : Relists services none {} where
  stale key := by simp [StaleZones.zones, StaleZones.empty]
  cached key service found := by simp [Cache.find?, Cache.empty] at found
  complete := nofun
  buffered key service found := by simp [Cache.find?, Cache.empty] at found
  listed := nofun

/-- No cached service has another zone than the listed one. -/
theorem Relists.rememberMove (relists : observer.Relists services before)
    (distinct : ∀ service ∈ services, ∀ other ∈ services, service.key = other.key → service = other)
    (member : service ∈ services) : observer.rememberMove service = observer := by
  unfold Observer.rememberMove
  cases found : observer.cache.find? service.key with
  | none => rfl
  | some previous =>
    obtain ⟨present, same⟩ := relists.cached _ _ found
    obtain rfl := distinct previous present service member same
    simp

/-- A complete list lacks nothing that was cached. -/
theorem Relists.vanished (relists : observer.Relists services before)
    (proper : ∀ service ∈ services, service.IsProper) {listed : List Service}
    (shown : before = some listed) (all : ∀ service ∈ services, service ∈ listed) :
    observer.vanished = [] := by
  have wellFormed : observer.cache.IsWellFormed := by
    intro key service found
    obtain ⟨member, same⟩ := relists.cached key service found
    exact ⟨same, same ▸ (proper service member).isLower⟩
  have none_left : observer.cache.keys.filter
      (!(observer.listing.getD ∅).contains ·) = [] := by
    rw [List.filter_eq_nil_iff]
    intro key present
    obtain ⟨service, found⟩ := (Cache.mem_keys wellFormed.isNamespaced).mp present
    obtain ⟨member, rfl⟩ := relists.cached key service found
    simpa using (relists.listed listed shown service (all service member)).1
  unfold Observer.vanished
  simp [none_left]

theorem Relists.apply (relists : observer.Relists services before)
    (proper : ∀ service ∈ services, service.IsProper)
    (distinct : ∀ service ∈ services, ∀ other ∈ services, service.key = other.key → service = other)
    {event : WatchEvent} (fits : event.Relists services before) :
    (observer.apply event).2.Relists services (event.shown before) := by
  cases event with
  | applied service => cases fits
  | deleted service => cases fits
  | listStarted =>
    refine ⟨relists.stale, relists.cached, relists.complete, ?_, ?_⟩
    · intro key service found
      simp [Observer.apply, Cache.find?, Cache.empty] at found
    · rintro _ ⟨⟩ service member
      cases member
  | listed service =>
    obtain ⟨member, -⟩ := fits
    obtain ⟨buffer, inserted, found⟩ := observer.buffer.exists_insert? (proper service member).named
    have applied : observer.apply (.listed service) = (some [], { observer with
        buffer, listing := some ((observer.listing.getD ∅).insert service.key) }) := by
      simp only [Observer.apply, relists.rememberMove distinct member, inserted]
    rw [applied]
    refine ⟨relists.stale, relists.cached, relists.complete, ?_, ?_⟩
    · intro key other present
      rw [found] at present
      split at present
      · rename_i own
        cases present
        exact ⟨member, own⟩
      · exact relists.buffered key other present
    -- Listing a service puts none of the services shown before out of the buffer.
    · intro listed shown other present
      obtain ⟨earlier, known, rfl⟩ := Option.map_eq_some_iff.mp shown
      simp only [Option.getD_some, Std.ExtTreeSet.mem_insert, Std.LawfulEqCmp.compare_eq_iff_eq]
      rw [found]
      rcases List.mem_cons.mp present with rfl | present
      · exact ⟨.inl rfl, if_pos rfl⟩
      · obtain ⟨listing, buffered⟩ := relists.listed earlier known other present
        refine ⟨.inr listing, ?_⟩
        split
        · rename_i own
          rw [distinct service member other (relists.buffered _ _ buffered).1 own]
        · exact buffered
  | listComplete =>
    obtain ⟨listed, shown, all⟩ := fits
    have applied : (observer.apply .listComplete).2 = { observer with
        cache := observer.buffer, buffer := .empty, listing := none, isReady := true } := by
      simp only [Observer.apply, completeList, relists.vanished proper shown all, List.foldl_nil]
    rw [applied]
    refine ⟨relists.stale, relists.buffered, ?_, ?_, ?_⟩
    · intro _ service member
      exact (relists.listed listed shown service (all service member)).2
    · intro key service found
      simp [Cache.find?, Cache.empty] at found
    · rintro listed ⟨⟩

end Observer

end ServiceRecords
