import ServiceRecords.Proofs.Reconcile.Agreement
import ServiceRecords.Proofs.Store.Writes

set_option autoImplicit false

/-!
# Agreements on fixed terms

Where the same requests are permitted all the time and the same can be said about their replies, an
agreement needs no state, and no condition has to be stable. What is known after a request is what
was known before and what the reply tells. A reconciliation keeps to all terms that grant what it
needs in view of what it has been told (`achieves_reconcile`).
-/

namespace ServiceRecords

/-- What a procedure may ask for, and what can be said about the replies. -/
structure Terms where
  permits : Request → Prop
  tells : (r : Request) → r.Reply → Prop

def Terms.agreement (terms : Terms) : Agreement Unit where
  yields _ _ := True
  yields_refl _ := trivial
  yields_trans _ _ := trivial
  permits r _ := terms.permits r
  answers r _ reply _ := terms.tells r reply

theorem Agreement.Achieves.forM {σ β ε : Type} {agreement : Agreement σ} {pre : σ → Prop}
    (items : List β) (attempt : β → ExceptT ε Procedure PUnit) (stable : agreement.Stable pre)
    (each : ∀ item ∈ items, agreement.Achieves pre (attempt item) fun _ => pre) :
    agreement.Achieves pre (items.forM attempt) fun _ => pre := by
  induction items with
  | nil => exact .pure stable fun _ begun => begun
  | cons item rest ih =>
    refine (each item (List.mem_cons_self ..)).bind fun _ => ?_
    exact ih fun other member => each other (List.mem_cons_of_mem _ member)

namespace Terms

variable {terms : Terms}

theorem stable (condition : Unit → Prop) : terms.agreement.Stable condition :=
  fun _ _ holds _ => holds

theorem honours_request {r : Request} (permitted : terms.permits r) :
    terms.agreement.Honours (fun reply _ => terms.tells r reply) (Procedure.request r) () :=
  Agreement.honours_request (stable fun _ => True) (fun _ _ => permitted)
    (fun _ _ _ _ told _ _ => told) trivial

theorem achieves_ask {r : Request} (permitted : terms.permits r) :
    terms.agreement.Achieves (fun _ => True) (Attempt.ask r) fun reply _ => terms.tells r reply :=
  .lift (fun _ => stable _) fun _ _ => honours_request permitted

theorem achieves_put {x value : String} (permitted : terms.permits (.put x value)) :
    terms.agreement.Achieves (fun _ => True) (Attempt.put x value) fun _ _ => True :=
  .request _ (stable _) (fun _ => stable _) (fun _ _ => permitted) fun _ _ _ _ _ _ _ => trivial

theorem achieves_delete {x : String} (permitted : terms.permits (.delete x)) :
    terms.agreement.Achieves (fun _ => True) (Attempt.delete x) fun _ _ => True :=
  .request _ (stable _) (fun _ => stable _) (fun _ _ => permitted) fun _ _ _ _ _ _ _ => trivial

theorem achieves_list {start : String} (permitted : terms.permits (.list start)) :
    terms.agreement.Achieves (ε := StoreError) (fun _ => True)
      (ExceptT.mk (Procedure.request (.list start)))
      fun entries _ => terms.tells (.list start) (.ok entries) := by
  refine .request (r := .list start) id (stable _) (fun _ => stable _) (fun _ _ => permitted) ?_
  rintro _ reply _ entries - told rfl
  exact told

/-- The listed entries of a directory are those of a listing that was told. -/
theorem achieves_listEntries {directory : String}
    (permitted : terms.permits (.list (directory ++ "/"))) :
    terms.agreement.Achieves (fun _ => True) (listEntries directory)
      fun entries _ => ∃ listed, terms.tells (.list (directory ++ "/")) (.ok listed) ∧
        entries = listed.filter fun (key, _) => isDirectlyBelow directory key := by
  have listing : terms.agreement.Achieves (fun _ => True) (Attempt.list (directory ++ "/"))
      fun listed _ => terms.tells (.list (directory ++ "/")) (.ok listed) := by
    refine .request _ (stable _) (fun _ => stable _) (fun _ _ => permitted) ?_
    intro _ reply _ listed _ told succeeded
    cases reply with
    | error error => cases succeeded
    | ok found =>
      cases succeeded
      exact told
  exact listing.bind fun listed => .pure (stable _) fun _ told => ⟨listed, told, rfl⟩

variable {layout : Layout} {key : Key} {directory : String} {service : Service}

/-- The owned entries of a directory may be deleted once they have been listed. -/
structure Clears (terms : Terms) (layout : Layout) (directory : String) : Prop where
  list : terms.permits (.list (directory ++ "/"))
  delete : ∀ {listed x value}, terms.tells (.list (directory ++ "/")) (.ok listed) →
    (x, value) ∈ listed → isDirectlyBelow directory x = true → layout.owns value = true →
      terms.permits (.delete x)

/-- What differs from a record may be written and deleted once its directory has been listed. -/
structure Publishes (terms : Terms) (layout : Layout) (record : Record) : Prop where
  list : terms.permits (.list (record.directory ++ "/"))
  put : ∀ {listed x entry}, terms.tells (.list (record.directory ++ "/")) (.ok listed) →
    record.entries[x]? = some entry →
    Changes.holds (listed.filter fun (key, _) => isDirectlyBelow record.directory key) x entry =
      false → terms.permits (.put x entry.text)
  delete : ∀ {listed x value}, terms.tells (.list (record.directory ++ "/")) (.ok listed) →
    (x, value) ∈ listed → isDirectlyBelow record.directory x = true → layout.owns value = true →
    record.entries[x]? = none → terms.permits (.delete x)

/-- What a reconciliation needs. -/
structure Grants (terms : Terms) (layout : Layout) (key : Key) : Prop where
  readService : terms.permits (.readService key)
  readStale : terms.permits (.readStale key)
  clearStale : ∀ {stale zones}, terms.tells (.readStale key) stale → zones ⊆ stale → zones ≠ [] →
    terms.permits (.clearStale key zones)
  clean : ∀ {copy stale zone directory}, terms.tells (.readService key) copy →
    terms.tells (.readStale key) stale → zone ∈ stale → wantedZone? copy ≠ some zone →
      layout.directory key zone = .ok directory → terms.Clears layout directory
  withdraw : ∀ {service directory}, terms.tells (.readService key) (some service) →
    service.isDeleting = true → layout.directory key service.spec.zone = .ok directory →
      terms.Clears layout directory
  publish : ∀ {service record}, terms.tells (.readService key) (some service) →
    service.isDeleting = false → layout.record service = .ok record →
      terms.Publishes layout record

theorem achieves_deleteOwned (clears : terms.Clears layout directory) :
    terms.agreement.Achieves (fun _ => True) (deleteOwned layout directory) fun _ _ => True := by
  unfold deleteOwned
  refine (achieves_listEntries clears.list).bind fun entries => ⟨?_⟩
  rintro _ ⟨listed, told, rfl⟩
  refine (Agreement.Achieves.bind (Agreement.Achieves.forM _ _ (stable fun _ => True) ?_)
    fun _ => Agreement.Achieves.pure (stable _) fun _ _ => trivial).honours _ trivial
  rintro ⟨x, value⟩ member
  obtain ⟨present, owned⟩ := List.mem_filter.mp member
  obtain ⟨present, below⟩ := List.mem_filter.mp present
  exact achieves_delete (clears.delete told present below owned)

theorem achieves_cleanZones (zones : List String)
    (clears : ∀ zone ∈ zones, ∀ directory, layout.directory key zone = .ok directory →
      terms.Clears layout directory) :
    terms.agreement.Achieves (fun _ => True) (cleanZones layout key zones) fun _ _ => True := by
  induction zones with
  | nil => exact .pure (stable _) fun _ _ => trivial
  | cons zone rest ih =>
    rw [List.forall_mem_cons] at clears
    have others := ih clears.2
    unfold cleanZones
    cases found : layout.directory key zone with
    | error error => exact others
    | ok directory =>
      exact (achieves_deleteOwned (clears.1 directory found)).bind fun _ => others.bind fun _ =>
        .pure (stable _) fun _ _ => trivial

theorem achieves_publish
    (publishes : ∀ record, layout.record service = .ok record → terms.Publishes layout record)
    (cleaned : Nat) :
    terms.agreement.Achieves (fun _ => True) (publish layout service cleaned) fun _ _ => True := by
  unfold publish
  refine (Agreement.Achieves.ofRecord (stable _)).bind fun record => ⟨?_⟩
  rintro _ ⟨made, -⟩
  have permitted := publishes record made
  refine ((achieves_listEntries permitted.list).bind fun current => ⟨?_⟩).honours () trivial
  rintro _ ⟨listed, told, rfl⟩
  refine ((Agreement.Achieves.forM _ _ (stable fun _ => True) ?puts).bind fun _ =>
    (Agreement.Achieves.forM _ _ (stable fun _ => True) ?deletes).bind fun _ =>
      .pure (stable _) fun _ _ => trivial).honours _ trivial
  case puts =>
    rintro ⟨x, value⟩ member
    obtain ⟨entry, wanted, missing, rfl⟩ := Changes.mem_puts.mp member
    exact achieves_put (permitted.put told wanted missing)
  case deletes =>
    intro x member
    obtain ⟨undesired, value, present, owned⟩ := Changes.mem_deletes.mp member
    obtain ⟨present, below⟩ := List.mem_filter.mp present
    exact achieves_delete (permitted.delete told present below owned undesired)

theorem achieves_withdraw
    (clears : ∀ directory, layout.directory key service.spec.zone = .ok directory →
      terms.Clears layout directory) (cleaned : Nat) :
    terms.agreement.Achieves (fun _ => True) (withdraw layout key service cleaned)
      fun _ _ => True := by
  unfold withdraw
  refine (Agreement.Achieves.ofRecord (stable _)).bind fun directory => ⟨?_⟩
  rintro _ ⟨found, -⟩
  exact ((achieves_deleteOwned (clears directory found)).bind fun _ =>
    .pure (stable _) fun _ _ => trivial).honours () trivial

theorem achieves_conclude (grants : terms.Grants layout key) {copy : Option Service}
    (told : terms.tells (.readService key) copy) (cleaned : Nat) :
    terms.agreement.Achieves (fun _ => True) (conclude layout key cleaned copy)
      fun _ _ => True := by
  cases copy with
  | none => exact .pure (stable _) fun _ _ => trivial
  | some service =>
    cases deleting : service.isDeleting with
    | true =>
      simp only [conclude, deleting, if_true]
      exact achieves_withdraw (fun _ => grants.withdraw told deleting) cleaned
    | false =>
      simp only [conclude, deleting, Bool.false_eq_true, if_false]
      exact achieves_publish (fun _ => grants.publish told deleting) cleaned

theorem achieves_reconcile (grants : terms.Grants layout key) :
    terms.agreement.Achieves (fun _ => True) (reconcile layout key) fun _ _ => True := by
  refine .reconcile
    (fun copy zones _ => terms.tells (.readService key) copy ∧
      (zones ≠ [] → terms.permits (.clearStale key zones)) ∧ ∀ zone ∈ zones, ∀ directory,
        layout.directory key zone = .ok directory → terms.Clears layout directory)
    (fun copy zones _ => terms.tells (.readService key) copy ∧
      (zones ≠ [] → terms.permits (.clearStale key zones)))
    (achieves_ask grants.readService) ?_ ?_ ?_ ?_
  · refine fun copy => ⟨fun _ told => ?_⟩
    refine ((achieves_ask grants.readStale).honours () trivial).mono ?_
    intro _ _ recalled stale ended
    have marked := recalled stale ended
    refine ⟨told, grants.clearStale marked (List.filter_subset_self _), ?_⟩
    intro zone member directory found
    obtain ⟨member, unwanted⟩ := List.mem_filter.mp member
    exact grants.clean told marked member (by simpa using unwanted) found
  · refine fun copy zones => ⟨?_⟩
    rintro _ ⟨told, clearing, clears⟩
    exact ((achieves_cleanZones zones clears).honours () trivial).mono
      fun _ _ _ _ _ => ⟨told, clearing⟩
  · refine fun copy zones nonempty => ⟨?_⟩
    rintro _ ⟨told, clearing⟩
    exact ((achieves_ask (clearing nonempty)).honours () trivial).mono
      fun _ _ _ _ _ => ⟨told, clearing⟩
  · refine fun copy zones cleaned => ⟨?_⟩
    rintro _ ⟨told, -⟩
    exact (achieves_conclude grants told cleaned).honours () trivial

end Terms

end ServiceRecords
