import ServiceRecords.Proofs.Reconcile.Caution
import ServiceRecords.Proofs.Reconcile.Terms
import ServiceRecords.Proofs.Watch.Observation

set_option autoImplicit false

/-!
# A store that holds what the services ask for

Where every entry of the services is stored and nothing else is owned (`IsInventory`), there is
nothing to do. A reconciliation that finds no zone marked as stale, and a sweep that finds all the
services in the cache, read and do nothing else (`achieves_reconcile`, `achieves_sweep`).
-/

namespace ServiceRecords

namespace Changes

variable {layout : Layout} {contents : Store.Contents} {directory x value : String} {entry : Entry}

theorem holds_of_stored (stored : contents[x]? = some value)
    (below : isDirectlyBelow directory x = true) (read : Entry.ofText? value = some entry) :
    holds (Store.listingIn contents directory) x entry = true := by
  refine holds_of_mem (Store.mem_listingIn.mpr ⟨stored, below⟩) ?_ read
  intro other listed
  exact Option.some.inj ((Store.mem_listingIn.mp listed).1.symm.trans stored)

/-- There is nothing to change where every desired entry is stored, and only those are owned. -/
theorem between_eq_nil {desired : Std.ExtTreeMap String Entry}
    (stored : ∀ (x : String) entry, desired[x]? = some entry →
      isDirectlyBelow directory x = true ∧
        ∃ value, contents[x]? = some value ∧ Entry.ofText? value = some entry)
    (owned : ∀ (x : String) value, contents[x]? = some value →
      isDirectlyBelow directory x = true → layout.owns value = true → desired[x]? ≠ none) :
    between layout desired (Store.listingIn contents directory) = ⟨[], []⟩ := by
  apply between_eq_nil_of_holds
  · intro x entry wanted
    obtain ⟨below, value, found, read⟩ := stored x entry wanted
    exact holds_of_stored found below read
  · intro x value listed own
    obtain ⟨found, below⟩ := Store.mem_listingIn.mp listed
    exact owned x value found below own

end Changes

theorem wantedZone?_some {service : Service} (alive : service.isDeleting = false) :
    wantedZone? (some service) = some (Dns.Zone.normalize service.spec.zone) := by
  simp [wantedZone?, alive]

/-- The owned entries in the store are just those of the services, which are alive. -/
structure Layout.IsInventory (layout : Layout) (services : List Service)
    (contents : Store.Contents) : Prop where
  named : ∀ service ∈ services, service.metadata.name.isSome = true
  isLower : ∀ service ∈ services, service.key.IsLower
  alive : ∀ service ∈ services, service.isDeleting = false
  distinct : ∀ service ∈ services, ∀ other ∈ services, service.key = other.key → service = other
  encodes : ∀ service ∈ services, ∃ record, layout.record service = .ok record
  stored : ∀ service ∈ services, ∀ x entry, layout.Names service x entry →
    ∃ value, contents[x]? = some value ∧ Entry.ofText? value = some entry
  owned : ∀ (x : String) value, contents[x]? = some value → layout.owns value = true →
    ∃ service ∈ services, ∃ entry, layout.Names service x entry

namespace Layout.IsInventory

variable {layout : Layout} {services : List Service} {contents : Store.Contents} {service : Service}
  {record : Record} {complete : Prop}

/-- A service that can be published has a namespace. -/
theorem isProper (inventory : layout.IsInventory services contents)
    (member : service ∈ services) : service.IsProper := by
  obtain ⟨name, named⟩ := Option.isSome_iff_exists.mp (inventory.named service member)
  obtain ⟨record, made⟩ := inventory.encodes service member
  obtain ⟨labels, found, -⟩ := directory_eq_ok.mp (directory_of_record made)
  have valid := (nameLabels_eq_ok.mp found).2.2.1
  refine ⟨?_, inventory.isLower service member⟩
  cases placed : service.metadata.ns with
  | some ns => exact ⟨name, ns, named, rfl⟩
  | none => exact absurd (by simp [Service.key, placed]) valid.ne_empty

theorem between_eq_nil (inventory : layout.IsInventory services contents)
    (member : service ∈ services) (made : layout.record service = .ok record) :
    Changes.between layout record.entries (Store.listingIn contents record.directory) =
      ⟨[], []⟩ := by
  apply Changes.between_eq_nil
  · intro x entry wanted
    exact ⟨(spec_of_record made wanted).1,
      inventory.stored service member x entry ⟨record, made, wanted⟩⟩
  · intro x value found below owned undesired
    -- It is an entry of some service, and the directory tells that it is this one.
    obtain ⟨other, present, entry, record', made', wanted⟩ := inventory.owned x value found owned
    have resides : layout.Resides service.key service.spec.zone x :=
      ⟨record.directory, directory_of_record made, below⟩
    have same := Resides.eq_of_isLower (inventory.isLower service member)
      (inventory.isLower other present) resides (resides_of_record made' wanted)
    obtain rfl := inventory.distinct service member other present same
    rw [made] at made'
    cases made'
    rw [undesired] at wanted
    cases wanted

/-- The requests that change nothing. -/
def Inquires : Request → Prop
  | .readService _ | .readStale _ | .list _ => True
  | _ => False

/-- What is read as long as no zone is stale and the cache holds some of the services, or all of
them if it is `complete`. -/
def Tells (services : List Service) (contents : Store.Contents) (complete : Prop) :
    (r : Request) → r.Reply → Prop
  | .readService key, reply => (∀ service, reply = some service → service ∈ services) ∧
      (complete → ∀ service ∈ services, service.key = key → reply = some service)
  | .readStale _, zones => zones = []
  | .list start, reply => ∀ entries, reply = .ok entries → entries = Store.listing contents start
  | _, _ => True

def terms (services : List Service) (contents : Store.Contents) (complete : Prop) : Terms where
  permits := Inquires
  tells := Tells services contents complete

theorem publishes (inventory : layout.IsInventory services contents)
    (member : service ∈ services) (made : layout.record service = .ok record) :
    (terms services contents complete).Publishes layout record where
  list := trivial
  put := by
    intro listed x entry told wanted missing
    obtain rfl := told listed rfl
    have differs : (x, entry.text) ∈ (Changes.between layout record.entries
        (Store.listingIn contents record.directory)).puts :=
      Changes.mem_puts.mpr ⟨entry, wanted, missing, rfl⟩
    rw [inventory.between_eq_nil member made] at differs
    cases differs
  delete := by
    intro listed x value told present below owned undesired
    obtain rfl := told listed rfl
    have differs : x ∈ (Changes.between layout record.entries
        (Store.listingIn contents record.directory)).deletes :=
      Changes.mem_deletes.mpr ⟨undesired, value, List.mem_filter.mpr ⟨present, below⟩, owned⟩
    rw [inventory.between_eq_nil member made] at differs
    cases differs

/-- No zone is stale, so that nothing is cleaned or cleared. -/
theorem grants (inventory : layout.IsInventory services contents) (key : Key) :
    (terms services contents complete).Grants layout key where
  readService := trivial
  readStale := trivial
  clearStale := by
    rintro _ zones rfl none nonempty
    exact absurd (List.subset_nil.mp none) nonempty
  clean := by
    rintro _ _ zone directory - rfl member
    cases member
  withdraw := by
    rintro service directory ⟨known, -⟩ deleting
    rw [inventory.alive service (known service rfl)] at deleting
    cases deleting
  publish := by
    rintro service record ⟨known, -⟩ - made
    exact inventory.publishes (known service rfl) made

theorem achieves_reconcile (inventory : layout.IsInventory services contents) (key : Key) :
    (terms services contents complete).agreement.Achieves (fun _ => True) (reconcile layout key)
      fun _ _ => True :=
  Terms.achieves_reconcile (inventory.grants key)

/-- No owned entry is an orphan. -/
theorem honours_markOrphans (inventory : layout.IsInventory services contents)
    (entries : List (String × String))
    (listed : ∀ x value, (x, value) ∈ entries → contents[x]? = some value) :
    (terms services contents True).agreement.Honours (fun orphans _ => orphans = ∅)
      (markOrphans layout entries) () := by
  induction entries with
  | nil => exact fun _ _ => rfl
  | cons entry rest ih =>
    obtain ⟨x, value⟩ := entry
    have others := ih fun y stored member => listed y stored (List.mem_cons_of_mem _ member)
    unfold markOrphans
    cases found : (if layout.owns value then layout.locate? x else none) with
    | none => exact others
    | some location =>
      obtain ⟨owned, found⟩ := Option.ite_none_right_eq_some.mp found
      -- The place of the entry tells the key and the zone of the service that it belongs to.
      obtain ⟨service, member, entry, record, made, wanted⟩ :=
        inventory.owned x value (listed x value (List.mem_cons_self ..)) owned
      obtain ⟨leaf, located⟩ := locate?_of_isLower (inventory.isLower service member)
        (resides_of_record made wanted)
      rw [found] at located
      cases located
      have reading : (terms services contents True).agreement.Honours
          (fun cached _ => Tells services contents True (.readService service.key) cached)
          (Procedure.request (.readService service.key)) () := Terms.honours_request trivial
      refine reading.bind ?_
      rintro cached _ ⟨-, told⟩
      obtain rfl := told trivial service member rfl
      rw [if_pos (wantedZone?_some (inventory.alive service member))]
      exact others

theorem achieves_sweep (inventory : layout.IsInventory services contents) :
    (terms services contents True).agreement.Achieves (fun _ => True) (sweep layout)
      fun _ _ => True := by
  unfold sweep
  refine (Terms.achieves_list trivial).bind fun entries => ⟨?_⟩
  intro _ told
  obtain rfl := told entries rfl
  have marking : (terms services contents True).agreement.Achieves (ε := StoreError) (fun _ => True)
      (ExceptT.lift (markOrphans layout (Store.listing contents (layout.root ++ "/"))))
      fun orphans _ => orphans = ∅ :=
    .lift (fun _ => Terms.stable _) fun _ _ =>
      inventory.honours_markOrphans _ fun x value member => (Store.mem_listing.mp member).1
  refine (marking.bind fun orphans => ⟨?_⟩).honours () trivial
  rintro _ rfl
  have empty : (∅ : Std.ExtTreeSet Key).toList = [] := by simp
  rw [empty]
  rintro _ - _ -
  trivial

end Layout.IsInventory

end ServiceRecords
