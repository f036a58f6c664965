import ServiceRecords.Proofs.Concurrent.Upkeep

set_option autoImplicit false

/-!
# What has been published

`IsPublished` compares the owned entries of one key with its cached service, `IsConverged` all
owned entries below the root with all cached services. Both follow from the invariant where
nobody is going to look at the keys any more and nothing is owed to them.
-/

namespace ServiceRecords.Concurrent

namespace Controller

/-- The service is cached, is not being deleted, and has the entry in its record. -/
def Wants (layout : Layout) (controller : Controller) (key : Key) (x : String) (entry : Entry) :
    Prop :=
  ∃ service record, controller.observer.cache.find? key = some service ∧
    service.isDeleting = false ∧ layout.record service = .ok record ∧
    record.entries[x]? = some entry

/-- The store holds the entry, and it is owned. -/
def Publishes (layout : Layout) (controller : Controller) (x : String) (entry : Entry) : Prop :=
  ∃ value, controller.contents[x]? = some value ∧ layout.owns value = true ∧
    Entry.ofText? value = some entry

/-- Every live cached service of the key has a record. -/
def IsRecorded (layout : Layout) (controller : Controller) (key : Key) : Prop :=
  ∀ service, controller.observer.cache.find? key = some service → service.isDeleting = false →
    ∃ record, layout.record service = .ok record

/-- The owned entries of the key are those of its cached service. -/
structure IsPublished (layout : Layout) (controller : Controller) (key : Key) : Prop where
  recorded : controller.IsRecorded layout key
  entries : ∀ x entry, (∃ zone, layout.Resides key zone x) ∧ controller.Publishes layout x entry ↔
    controller.Wants layout key x entry

/-- The owned entries below the root are those of the cached services. -/
structure IsConverged (layout : Layout) (controller : Controller) : Prop where
  recorded : ∀ key, controller.IsRecorded layout key
  entries : ∀ x entry,
    (∃ rest, layout.root ++ "/" ++ rest = x) ∧ controller.Publishes layout x entry ↔
      ∃ key, controller.Wants layout key x entry

/-- No notice is on its way, no key waits, and none is checked out. -/
structure IsQuiet (controller : Controller) : Prop where
  running : controller.queue.isShutDown = false
  delivered : controller.channel = []
  drained : controller.queue.waiting = []
  idle : controller.queue.taken = ∅

instance (controller : Controller) : Decidable controller.IsQuiet :=
  decidable_of_iff (controller.queue.isShutDown = false ∧ controller.channel = [] ∧
      controller.queue.waiting = [] ∧ controller.queue.taken.isEmpty = true)
    ⟨fun ⟨running, delivered, drained, idle⟩ =>
        ⟨running, delivered, drained, Std.ExtTreeSet.isEmpty_iff.mp idle⟩,
      fun quiet =>
        ⟨quiet.running, quiet.delivered, quiet.drained, Std.ExtTreeSet.isEmpty_iff.mpr quiet.idle⟩⟩

variable {controller : Controller} {key : Key}

theorem IsQuiet.not_isAnnounced (quiet : controller.IsQuiet) (exclusive : controller.IsExclusive) :
    ¬controller.IsAnnounced key := by
  rintro (stopped | noticed | dirty)
  · rw [quiet.running] at stopped
    cases stopped
  · rw [quiet.delivered] at noticed
    cases noticed
  · rcases exclusive.isOrderly.waiting_or_taken key dirty with waiting | taken
    · rw [quiet.drained] at waiting
      cases waiting
    · rw [quiet.idle] at taken
      exact Std.ExtTreeSet.not_mem_empty taken

theorem IsQuiet.not_isBusy (quiet : controller.IsQuiet) (exclusive : controller.IsExclusive) :
    ¬controller.IsBusy key := by
  rintro ⟨worker, rest, found⟩
  have taken := exclusive.taken worker _ found
  rw [quiet.idle] at taken
  exact Std.ExtTreeSet.not_mem_empty taken

end Controller

namespace Upkeep

open Controller

variable {layout : Layout} {failed : Key → Prop} {ledger : Ledger} {controller : Controller}
  {key : Key}

theorem isPublished (upkeep : Upkeep layout failed ledger controller) (lower : key.IsLower)
    (settled : ∀ zone, ¬ledger.unannounced key zone) (unannounced : ¬controller.IsAnnounced key)
    (idle : ¬controller.IsBusy key) (succeeded : ¬failed key) :
    controller.IsPublished layout key := by
  have site : (controller.site ledger key).Settled layout key := by
    rcases upkeep.progress key lower with announced | busy | gone | site
    · exact absurd announced unannounced
    · exact absurd busy idle
    · exact absurd gone succeeded
    · exact site
  refine ⟨?_, ?_⟩
  · intro service cached live
    obtain ⟨record, made, -⟩ := site.published service cached live
    exact ⟨record, made⟩
  intro x entry
  constructor
  · rintro ⟨⟨zone, resides⟩, value, stored, owned, read⟩
    have holds : layout.HoldsOwned controller.contents key (Dns.Zone.normalize zone) x :=
      ⟨resides.normalize, Dns.Zone.normalize_normalize resides.isValid, value, stored, owned⟩
    rcases site.wanted _ x holds with ⟨service, record, wanted, cached, live, made, member⟩ | owed
    · obtain ⟨record', made', published⟩ := site.published service cached live
      rw [made] at made'
      cases made'
      obtain ⟨value', stored', read'⟩ := published x wanted member
      rw [show (controller.site ledger key).contents[x]? = some value from stored] at stored'
      cases stored'
      rw [read] at read'
      cases read'
      exact ⟨service, record, cached, live, made, member⟩
    · exact absurd owed.2 (settled _)
  · rintro ⟨service, record, cached, live, made, member⟩
    obtain ⟨record', made', published⟩ := site.published service cached live
    rw [made] at made'
    cases made'
    obtain ⟨value, stored, read⟩ := published x entry member
    have resides := Layout.resides_of_record made member
    rw [site.own_key service cached] at resides
    exact ⟨⟨_, resides⟩, value, stored,
      Layout.owns_iff.mpr ⟨entry, read, Layout.owner_of_record made member⟩, read⟩

/-- Below the root there is nothing owned but what has been published for some key. -/
theorem isConverged (upkeep : Upkeep layout failed ledger controller)
    (settled : ∀ key zone, ¬ledger.unannounced key zone) (quiet : controller.IsQuiet)
    (succeeded : ∀ key, ¬failed key) : controller.IsConverged layout := by
  have published : ∀ key, key.IsLower → controller.IsPublished layout key :=
    fun key lower => upkeep.isPublished lower (settled key)
      (quiet.not_isAnnounced upkeep.exclusive) (quiet.not_isBusy upkeep.exclusive) (succeeded key)
  have lower : ∀ key service, controller.observer.cache.find? key = some service → key.IsLower :=
    fun key service cached => (upkeep.circulates.cached key service cached).2
  refine ⟨?_, ?_⟩
  · intro key service cached live
    exact (published key (lower key service cached)).recorded service cached live
  intro x entry
  constructor
  · rintro ⟨below, value, stored, owned, read⟩
    obtain ⟨key, zone, isLower, resides⟩ := upkeep.placed x value stored owned below
    exact ⟨key, ((published key isLower).entries x entry).mp
      ⟨⟨zone, resides⟩, value, stored, owned, read⟩⟩
  · rintro ⟨key, wants⟩
    obtain ⟨service, -, cached, -⟩ := id wants
    obtain ⟨⟨zone, resides⟩, publishes⟩ :=
      ((published key (lower key service cached)).entries x entry).mpr wants
    exact ⟨resides.exists_root, publishes⟩

end Upkeep

end ServiceRecords.Concurrent
