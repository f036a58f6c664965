import ServiceRecords.Proofs.Watch.Observation

set_option autoImplicit false

/-!
# Where marks come from

A zone is marked only because a service of that zone was observed, if it was not marked from the
start (`Observer.IsTraced.apply`). The mark is the normal form of what was observed, and that need
not be a normal form of anything that can be published.
-/

namespace ServiceRecords

/-- The event shows the service. -/
def WatchEvent.Shows (event : WatchEvent) (service : Service) : Prop :=
  event = .applied service ∨ event = .deleted service ∨ event = .listed service

namespace Observer

variable {shown shown' : Service → Prop} {observer after : Observer} {service : Service}
  {key : Key}

/-- Services are known, and zones are marked, because they have been shown. -/
structure IsTraced (shown : Service → Prop) (observer : Observer) : Prop where
  known : ∀ service, observer.Knows service → shown service
  marked : ∀ key zone, zone ∈ observer.stale.zones key →
    ∃ service, shown service ∧ Dns.Zone.normalize service.spec.zone = zone

theorem isTraced_start : IsTraced shown {} where
  known _ knows := knows.elim (absurd · Cache.not_holds_empty) (absurd · Cache.not_holds_empty)
  marked key zone member := by
    simp [StaleZones.mem_zones, StaleZones.empty] at member

namespace IsTraced

theorem mono (traced : observer.IsTraced shown)
    (weaker : ∀ service, shown service → shown' service) : observer.IsTraced shown' where
  known service knows := weaker service (traced.known service knows)
  marked key zone member := by
    obtain ⟨service, source, normal⟩ := traced.marked key zone member
    exact ⟨service, weaker service source, normal⟩

theorem mark (traced : observer.IsTraced shown) (source : shown service) (key : Key) :
    (observer.mark key service.spec.zone).IsTraced shown where
  known other knows := traced.known other knows
  marked other zone member := by
    rcases StaleZones.mem_zones_mark.mp member with member | ⟨-, normal, -⟩
    · exact traced.marked other zone member
    · exact ⟨service, source, normal.symm⟩

theorem known_of_find? (traced : observer.IsTraced shown)
    (found : observer.cache.find? key = some service) : shown service :=
  traced.known service (.inl (Cache.holds_of_find? found))

theorem rememberMove (traced : observer.IsTraced shown) (service : Service) :
    (observer.rememberMove service).IsTraced shown := by
  unfold Observer.rememberMove
  split
  · rename_i previous found
    split
    · exact traced
    · exact traced.mark (traced.known_of_find? found) _
  · exact traced

theorem rememberCached (traced : observer.IsTraced shown) (key : Key) :
    (observer.rememberCached key).IsTraced shown := by
  unfold Observer.rememberCached
  split
  · rename_i previous found
    exact traced.mark (traced.known_of_find? found) _
  · exact traced

theorem foldl (traced : observer.IsTraced shown) (keys : List Key) :
    (keys.foldl Observer.rememberCached observer).IsTraced shown := by
  induction keys generalizing observer with
  | nil => exact traced
  | cons key rest ih => exact ih (traced.rememberCached key)

/-- Of the marks, an event adds those of a service that was known or is shown. -/
theorem marked_apply (traced : observer.IsTraced shown) {event : WatchEvent}
    (shows : ∀ service, event.Shows service → shown service) :
    ∀ key zone, zone ∈ (observer.apply event).2.stale.zones key →
      ∃ service, shown service ∧ Dns.Zone.normalize service.spec.zone = zone := by
  cases event with
  | applied service =>
    have remembered := (traced.rememberMove service).marked
    simp only [Observer.apply]
    split <;> exact remembered
  | deleted service =>
    have remembered := ((traced.rememberCached service.key).mark
      (shows service (.inr (.inl rfl))) service.key).marked
    simp only [Observer.apply]
    split <;> exact remembered
  | listStarted => exact traced.marked
  | listed service =>
    have remembered := (traced.rememberMove service).marked
    simp only [Observer.apply]
    split <;> exact remembered
  | listComplete => exact (traced.foldl observer.vanished).marked

theorem apply (traced : observer.IsTraced shown) {event : WatchEvent}
    (shows : ∀ service, event.Shows service → shown service) :
    (observer.apply event).2.IsTraced shown where
  known service knows := by
    rcases knows.of_apply with knew | applied | listed
    · exact traced.known service knew
    · exact shows service (.inl applied)
    · exact shows service (.inr (.inr listed))
  marked := traced.marked_apply shows

/-- With fewer marks it is the same. -/
theorem of_subset (traced : observer.IsTraced shown) (cache : after.cache = observer.cache)
    (buffer : after.buffer = observer.buffer)
    (fewer : ∀ key, after.stale.zones key ⊆ observer.stale.zones key) :
    after.IsTraced shown where
  known service knows := by
    unfold Knows at knows
    rw [cache, buffer] at knows
    exact traced.known service knows
  marked key zone member := traced.marked key zone (fewer key member)

end IsTraced

end Observer

end ServiceRecords
