import ServiceRecords.Proofs.Record.ReadingBack
import ServiceRecords.Proofs.Watch.Observation

set_option autoImplicit false

/-!
# Moves between zones

Zones are compared in normal form, while the directory of a service is made from the labels of its
zone. Where both zones can be published in, the two agree: zones with one normal form have one
directory, and the other way round (`Layout.normalize_eq_iff`). So a zone is marked as left just
when the entries have moved, and the mark leads back to where they are
(`Layout.remembersMoves_of_directory`).
-/

namespace ServiceRecords

/-- The event shows the service in its present form. -/
def WatchEvent.Renews (event : WatchEvent) (service : Service) : Prop :=
  event = .applied service ∨ event = .listed service

namespace Observer

variable {observer : Observer} {event : WatchEvent} {service previous : Service} {key : Key}
  {zone : String}

/-- Of the marks, such an event adds only that of the zone which the service has left. -/
theorem stale_apply (renews : event.Renews service) :
    (observer.apply event).2.stale = (observer.rememberMove service).stale := by
  rcases renews with rfl | rfl
  · simp only [apply]
    split <;> rfl
  · simp only [apply]
    split <;> rfl

theorem mem_zones_rememberMove (cached : observer.cache.find? service.key = some previous) :
    zone ∈ (observer.rememberMove service).stale.zones key ↔ zone ∈ observer.stale.zones key ∨
      Dns.Zone.normalize previous.spec.zone ≠ Dns.Zone.normalize service.spec.zone ∧
        key = service.key ∧ zone = Dns.Zone.normalize previous.spec.zone ∧ zone ≠ "" := by
  unfold rememberMove
  simp only [cached]
  split
  · rename_i same
    simp [same]
  · rename_i moved
    exact StaleZones.mem_zones_mark.trans (by simp [moved])

end Observer

namespace Layout

variable {layout : Layout} {key : Key} {zone zone' directory directory' : String}

/-- The entry that every directory could hold tells the zone of its directory. -/
theorem normalize_eq_iff (found : layout.directory key zone = .ok directory)
    (found' : layout.directory key zone' = .ok directory') :
    Dns.Zone.normalize zone = Dns.Zone.normalize zone' ↔ directory = directory' := by
  constructor
  · intro same
    have normal := directory_normalize found
    rw [same, directory_normalize found'] at normal
    exact (Except.ok.inj normal).symm
  · rintro rfl
    have below : isDirectlyBelow directory (entryKey directory "e") = true :=
      isDirectlyBelow_iff.mpr ⟨"e", rfl, by decide, by decide⟩
    have here : layout.Resides key zone (entryKey directory "e") := ⟨directory, found, below⟩
    exact (here.lower_eq ⟨directory, found', below⟩).2.2

/-- Of two zones in which the key can be published: they have the same normal form just when they
have the same directory. The normal form of a zone is its own, and has the directory of the zone.
Where the cached service leaves the one zone for the other, a mark is added just when the directory
changes, and it is that of the zone which has been left. -/
theorem remembersMoves_of_directory (found : layout.directory key zone = .ok directory)
    (found' : layout.directory key zone' = .ok directory') :
    (Dns.Zone.normalize zone = Dns.Zone.normalize zone' ↔ directory = directory') ∧
    layout.directory key (Dns.Zone.normalize zone) = .ok directory ∧
    Dns.Zone.normalize (Dns.Zone.normalize zone) = Dns.Zone.normalize zone ∧
    ∀ (observer : Observer) (previous service : Service) (event : WatchEvent),
      observer.cache.find? key = some previous → previous.spec.zone = zone →
      service.key = key → service.spec.zone = zone' → event.Renews service →
      ∀ other marked, marked ∈ (observer.apply event).2.stale.zones other ↔
        marked ∈ observer.stale.zones other ∨
          directory ≠ directory' ∧ other = key ∧ marked = Dns.Zone.normalize zone := by
  have valid := isValid_of_directory found
  have agree := normalize_eq_iff found found'
  refine ⟨agree, directory_normalize found, Dns.Zone.normalize_normalize valid, ?_⟩
  rintro observer previous service event cached rfl rfl rfl renews other marked
  rw [Observer.stale_apply renews, Observer.mem_zones_rememberMove cached, ne_eq, agree]
  constructor
  · rintro (kept | ⟨moved, own, left, -⟩)
    · exact .inl kept
    · exact .inr ⟨moved, own, left⟩
  · rintro (kept | ⟨moved, own, left⟩)
    · exact .inl kept
    · exact .inr ⟨moved, own, left, left ▸ valid.normalize_ne_empty⟩

/-- The service is listed first in another spelling of its zone, and then in another zone. -/
theorem remembersMoves_of_directory_respelled :
    Layout.directory {} ⟨"svc", "a"⟩ " X.y.. " = .ok "/skydns/y/x/svc/a" ∧
    Layout.directory {} ⟨"svc", "a"⟩ "x.Y" = .ok "/skydns/y/x/svc/a" ∧
    Layout.directory {} ⟨"svc", "a"⟩ "z" = .ok "/skydns/z/svc/a" ∧
    Dns.Zone.normalize " X.y.. " = Dns.Zone.normalize "x.Y" ∧
    Dns.Zone.normalize " X.y.. " ≠ Dns.Zone.normalize "z" ∧
    ∃ observer : Observer, observer.stale.zones ⟨"svc", "a"⟩ = [] ∧
      Dns.Zone.normalize " X.y.. " ∉ (observer.apply
        (.listed (spelled "svc" "a" "x.Y" "e"))).2.stale.zones ⟨"svc", "a"⟩ ∧
      Dns.Zone.normalize " X.y.. " ∈ (observer.apply
        (.listed (spelled "svc" "a" "z" "e"))).2.stale.zones ⟨"svc", "a"⟩ := by
  have first : Layout.directory {} ⟨"svc", "a"⟩ " X.y.. " = .ok "/skydns/y/x/svc/a" := by
    decide +kernel
  have same : Layout.directory {} ⟨"svc", "a"⟩ "x.Y" = .ok "/skydns/y/x/svc/a" := by decide +kernel
  have elsewhere : Layout.directory {} ⟨"svc", "a"⟩ "z" = .ok "/skydns/z/svc/a" := by
    decide +kernel
  obtain ⟨respelled, -, -, stays⟩ := remembersMoves_of_directory first same
  obtain ⟨apart, -, -, moves⟩ := remembersMoves_of_directory first elsewhere
  let observer := (({} : Observer).apply (.applied (spelled "svc" "a" " X.y.. " "e"))).2
  have cached : observer.cache.find? ⟨"svc", "a"⟩ = some (spelled "svc" "a" " X.y.. " "e") := by
    decide +kernel
  have unmarked : observer.stale.zones ⟨"svc", "a"⟩ = [] := by decide +kernel
  refine ⟨first, same, elsewhere, respelled.mpr rfl, mt apart.mp (by decide), observer, unmarked,
    ?_, ?_⟩
  · rw [stays observer _ _ _ cached rfl rfl rfl (.inr rfl), unmarked]
    simp
  · rw [moves observer _ _ _ cached rfl rfl rfl (.inr rfl)]
    exact .inr ⟨by decide, rfl, rfl⟩

end Layout

end ServiceRecords
