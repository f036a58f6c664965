import ServiceRecords.Service

set_option autoImplicit false

/-!
The cache of observed services. A service is stored under its name and namespace; one without a
namespace is found in every namespace that has no service of its name.
-/

namespace ServiceRecords

structure Cache where
  /-- The services that have a namespace -/
  namespaced : Std.ExtTreeMap Key Service
  /-- The services without a namespace, by name -/
  unscoped : Std.ExtTreeMap String Service

namespace Cache

def empty : Cache := ⟨∅, ∅⟩

def find? (cache : Cache) (key : Key) : Option Service :=
  cache.namespaced[key]? <|> cache.unscoped[key.name]?

/-- Stores a service in place of an earlier one, unless it has no name. -/
def insert? (cache : Cache) (service : Service) : Option Cache :=
  match service.metadata.name, service.metadata.ns with
  | none, _ => none
  | some name, some ns =>
    some { cache with namespaced := cache.namespaced.insert ⟨ns, name⟩ service }
  | some name, none => some { cache with unscoped := cache.unscoped.insert name service }

def erase? (cache : Cache) (service : Service) : Option Cache :=
  match service.metadata.name, service.metadata.ns with
  | none, _ => none
  | some name, some ns => some { cache with namespaced := cache.namespaced.erase ⟨ns, name⟩ }
  | some name, none => some { cache with unscoped := cache.unscoped.erase name }

/-- The key of every cached service, in order. -/
def keys (cache : Cache) : List Key :=
  let unscoped := cache.unscoped.keys.map fun name => Key.mk "" name
  Key.sort (unscoped ++ cache.namespaced.keys)

end Cache

end ServiceRecords
