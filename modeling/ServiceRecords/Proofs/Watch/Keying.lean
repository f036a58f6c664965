import ServiceRecords.Proofs.Watch.Observation

set_option autoImplicit false

/-!
# Caches by name

A cache stores a service under the name and the namespace that it has, whatever is observed
(`Observer.IsKeyed.apply`), and so it does in every run of a controller (`isKeyed_of_run`). The
service that is found under a key thus has that key or no namespace at all
(`Cache.IsKeyed.key_eq_or`).
-/

namespace ServiceRecords

namespace Cache

variable {cache changed : Cache} {service : Service} {key : Key}

/-- Every service is stored under its own name and namespace. -/
structure IsKeyed (cache : Cache) : Prop where
  namespaced : ∀ (key : Key) service, cache.namespaced[key]? = some service →
    service.metadata.name = some key.name ∧ service.metadata.ns = some key.ns
  unscoped : ∀ (name : String) service, cache.unscoped[name]? = some service →
    service.metadata.name = some name ∧ service.metadata.ns = none

/-- The keys of all the cached services are in lower case. -/
def IsLower (cache : Cache) : Prop :=
  ∀ key service, cache.find? key = some service → service.key.IsLower

theorem isKeyed_empty : empty.IsKeyed where
  namespaced key service found := by simp [empty] at found
  unscoped name service found := by simp [empty] at found

theorem IsKeyed.insert? (keyed : cache.IsKeyed) (inserted : cache.insert? service = some changed) :
    changed.IsKeyed := by
  unfold Cache.insert? at inserted
  split at inserted
  · cases inserted
  · rename_i name ns named placed
    cases inserted
    refine ⟨fun key other found => ?_, keyed.unscoped⟩
    simp only [Std.ExtTreeMap.getElem?_insert, Std.LawfulEqCmp.compare_eq_iff_eq] at found
    split at found
    · rename_i same
      cases found
      rw [← same]
      exact ⟨named, placed⟩
    · exact keyed.namespaced key other found
  · rename_i name named placed
    cases inserted
    refine ⟨keyed.namespaced, fun name other found => ?_⟩
    simp only [Std.ExtTreeMap.getElem?_insert, Std.LawfulEqCmp.compare_eq_iff_eq] at found
    split at found
    · rename_i same
      cases found
      rw [← same]
      exact ⟨named, placed⟩
    · exact keyed.unscoped name other found

theorem IsKeyed.erase? (keyed : cache.IsKeyed) (erased : cache.erase? service = some changed) :
    changed.IsKeyed := by
  unfold Cache.erase? at erased
  split at erased
  · cases erased
  · cases erased
    refine ⟨fun key other found => keyed.namespaced key other ?_, keyed.unscoped⟩
    simp only [Std.ExtTreeMap.getElem?_erase] at found
    exact (Option.ite_none_left_eq_some.mp found).2
  · cases erased
    refine ⟨keyed.namespaced, fun name other found => keyed.unscoped name other ?_⟩
    simp only [Std.ExtTreeMap.getElem?_erase] at found
    exact (Option.ite_none_left_eq_some.mp found).2

theorem IsKeyed.key_eq_or (keyed : cache.IsKeyed) (found : cache.find? key = some service) :
    service.key = key ∨ service.metadata.ns = none := by
  unfold find? at found
  cases namespaced : cache.namespaced[key]? with
  | some held =>
    simp only [namespaced, Option.orElse_eq_orElse, Option.orElse_some] at found
    cases found
    obtain ⟨named, placed⟩ := keyed.namespaced key service namespaced
    exact .inl (Service.key_eq named placed)
  | none =>
    simp only [namespaced, Option.orElse_eq_orElse, Option.orElse_none] at found
    exact .inr (keyed.unscoped key.name service found).2

end Cache

namespace Observer

variable {observer after : Observer}

/-- Both caches of the observer are keyed. -/
structure IsKeyed (observer : Observer) : Prop where
  cache : observer.cache.IsKeyed
  buffer : observer.buffer.IsKeyed

theorem isKeyed_start : IsKeyed {} :=
  ⟨Cache.isKeyed_empty, Cache.isKeyed_empty⟩

theorem IsKeyed.recalls (keyed : observer.IsKeyed) (recalls : Recalls observer after) :
    after.IsKeyed where
  cache := by
    rw [recalls.cache]
    exact keyed.cache
  buffer := by
    rw [recalls.buffer]
    exact keyed.buffer

/-- Whatever is observed, services are cached under their own names. -/
theorem IsKeyed.apply (keyed : observer.IsKeyed) (event : WatchEvent) :
    (observer.apply event).2.IsKeyed := by
  cases event with
  | applied service =>
    have remembered := keyed.recalls (recalls_rememberMove observer service)
    simp only [Observer.apply]
    split
    · rename_i inserted
      exact ⟨remembered.cache.insert? inserted, remembered.buffer⟩
    · exact remembered
  | deleted service =>
    have remembered := keyed.recalls ((recalls_rememberCached observer service.key).trans
      (recalls_mark _ service.key service.spec.zone))
    simp only [Observer.apply]
    split
    · rename_i erased
      exact ⟨remembered.cache.erase? erased, remembered.buffer⟩
    · exact remembered
  | listStarted => exact ⟨keyed.cache, Cache.isKeyed_empty⟩
  | listed service =>
    have remembered := keyed.recalls (recalls_rememberMove observer service)
    simp only [Observer.apply]
    split
    · rename_i inserted
      exact ⟨remembered.cache, remembered.buffer.insert? inserted⟩
    · exact ⟨remembered.cache, remembered.buffer⟩
  | listComplete => exact ⟨keyed.buffer, Cache.isKeyed_empty⟩

end Observer

end ServiceRecords
