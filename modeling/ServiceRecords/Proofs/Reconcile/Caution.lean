import ServiceRecords.Proofs.Reconcile.Agreement
import ServiceRecords.Proofs.Store.Writes
import ServiceRecords.Reconcile.Sweep

set_option autoImplicit false

/-!
# The caution of a reconciliation

A reconciliation deletes only where nothing foreign is stored, and writes only entries of a service
that the cache has held (`Caution.achieves_reconcile`). It goes by listings that may be old. That is
safe as long as the others write nothing foreign either: a place that was free of foreign values
stays free. A sweep does not write at all (`Caution.achieves_sweep`).
-/

namespace ServiceRecords

/-- The entry is one of the record of the service. -/
def Layout.Names (layout : Layout) (service : Service) (x : String) (entry : Entry) : Prop :=
  ∃ record, layout.record service = .ok record ∧ record.entries[x]? = some entry

/-- What a reconciliation may go by. -/
structure Caution where
  /-- The services that the cache has held for the key -/
  held : Service → Prop
  contents : Store.Contents

namespace Caution

variable {layout : Layout} {key : Key} {directory x : String} {copy : Option Service}
  {service : Service} {pre : Caution → Prop}

/-- There is nothing stored at this place, or the entry is owned. -/
def IsFree (layout : Layout) (caution : Caution) (x : String) : Prop :=
  ∀ value, caution.contents[x]? = some value → layout.owns value = true

structure Yields (layout : Layout) (before after : Caution) : Prop where
  held : ∀ service, before.held service → after.held service
  free : ∀ x, before.IsFree layout x → after.IsFree layout x

theorem Yields.refl (caution : Caution) : Yields layout caution caution :=
  ⟨fun _ held => held, fun _ free => free⟩

theorem Yields.trans {before between after : Caution} (first : Yields layout before between)
    (second : Yields layout between after) : Yields layout before after :=
  ⟨fun service held => second.held service (first.held service held),
    fun x free => second.free x (first.free x free)⟩

def Permits (layout : Layout) : Request → Caution → Prop
  | .put x value, caution => ∃ service entry, caution.held service ∧
      layout.Names service x entry ∧ Entry.ofText? value = some entry
  | .delete x, caution => caution.IsFree layout x
  | _, _ => True

/-- What a reconciliation of the key learns from a reply. -/
def Tells (key : Key) : (r : Request) → r.Reply → Caution → Prop
  | .readService key', reply, after => key' = key → ∀ service, reply = some service →
      after.held service
  | .list start, reply, after => ∀ entries, reply = .ok entries →
      entries = Store.listing after.contents start
  | _, _, _ => True

/-- What holds between the reconciliation of a key and the rest of the controller. -/
def agreement (layout : Layout) (key : Key) : Agreement Caution where
  yields := Yields layout
  yields_refl _ := .refl _
  yields_trans := .trans
  permits := Permits layout
  answers r before reply after := Yields layout before after ∧ Tells key r reply after

/-- The service that the reconciliation goes by was cached. -/
def Holds (copy : Option Service) (caution : Caution) : Prop :=
  ∀ service, copy = some service → caution.held service

theorem stable_holds : (agreement layout key).Stable (Holds copy) := by
  intro caution later holds step service cached
  exact step.held service (holds service cached)

theorem stable_true : (agreement layout key).Stable fun _ => True :=
  fun _ _ _ _ => trivial

/-- Every place with an owned entry among the listed ones is free of foreign values. -/
def Vouches (layout : Layout) (entries : List (String × String)) (caution : Caution) : Prop :=
  ∀ x value, (x, value) ∈ entries → layout.owns value = true → caution.IsFree layout x

theorem stable_vouches (entries : List (String × String)) :
    (agreement layout key).Stable (Vouches layout entries) := by
  intro caution later vouches step x value listed owned
  exact step.free x (vouches x value listed owned)

theorem vouches_listing (caution : Caution) (start : String) :
    caution.Vouches layout (Store.listing caution.contents start) := by
  intro x value listed owned stored found
  rw [(Store.mem_listing.mp listed).1] at found
  cases found
  exact owned

/-- Reading a directory tells where something may be deleted. -/
theorem achieves_listEntries (stable : (agreement layout key).Stable pre) :
    (agreement layout key).Achieves pre (listEntries directory)
      fun entries caution => pre caution ∧ caution.Vouches layout entries := by
  have stable_both : ∀ entries, (agreement layout key).Stable
      fun caution => pre caution ∧ caution.Vouches layout entries := by
    intro entries caution later both step
    exact ⟨stable both.1 step, stable_vouches entries both.2 step⟩
  have listing : (agreement layout key).Achieves pre (Attempt.list (directory ++ "/"))
      fun entries caution => pre caution ∧ caution.Vouches layout entries := by
    refine Agreement.Achieves.request _ stable stable_both (fun _ _ => trivial) ?_
    rintro caution reply after entries begun ⟨step, listed⟩ succeeded
    refine ⟨stable begun step, ?_⟩
    cases reply with
    | error error => cases succeeded
    | ok found =>
      cases succeeded
      rw [listed _ rfl]
      exact vouches_listing after _
  refine listing.bind fun entries => Agreement.Achieves.pure (stable_both entries) ?_
  rintro caution ⟨begun, vouches⟩
  exact ⟨begun, fun x value listed => vouches x value (List.mem_filter.mp listed).1⟩

theorem achieves_deletes {β : Type} (items : List β) (place : β → String)
    (stable : (agreement layout key).Stable pre)
    (free : ∀ caution, pre caution → ∀ item ∈ items, caution.IsFree layout (place item)) :
    (agreement layout key).Achieves pre (items.forM fun item => Attempt.delete (place item))
      fun _ => pre := by
  induction items with
  | nil => exact Agreement.Achieves.pure stable fun _ begun => begun
  | cons item rest ih =>
    refine Agreement.Achieves.bind (Agreement.Achieves.request _ stable (fun _ => stable)
      (fun caution begun => free caution begun item (List.mem_cons_self ..)) ?_) fun _ =>
        ih fun caution begun other member =>
          free caution begun other (List.mem_cons_of_mem _ member)
    rintro caution reply after a begun ⟨step, -⟩ -
    exact stable begun step

theorem achieves_puts (puts : List (String × String)) (stable : (agreement layout key).Stable pre)
    (held : ∀ caution, pre caution → caution.held service)
    (named : ∀ put ∈ puts, ∃ entry, layout.Names service put.1 entry ∧
      Entry.ofText? put.2 = some entry) :
    (agreement layout key).Achieves pre (puts.forM fun (x, value) => Attempt.put x value)
      fun _ => pre := by
  induction puts with
  | nil => exact Agreement.Achieves.pure stable fun _ begun => begun
  | cons put rest ih =>
    obtain ⟨entry, names, read⟩ := named put (List.mem_cons_self ..)
    refine Agreement.Achieves.bind (Agreement.Achieves.request _ stable (fun _ => stable)
      (fun caution begun => ⟨service, entry, held caution begun, names, read⟩) ?_) fun _ =>
        ih fun other member => named other (List.mem_cons_of_mem _ member)
    rintro caution reply after a begun ⟨step, -⟩ -
    exact stable begun step

theorem achieves_deleteOwned (directory : String) :
    (agreement layout key).Achieves (Holds copy) (deleteOwned layout directory)
      fun _ => Holds copy := by
  refine (achieves_listEntries stable_holds).bind fun entries => ?_
  have stable : (agreement layout key).Stable
      fun caution => Holds copy caution ∧ caution.Vouches layout entries := by
    intro caution later both step
    exact ⟨stable_holds both.1 step, stable_vouches entries both.2 step⟩
  refine Agreement.Achieves.bind (achieves_deletes _ Prod.fst stable ?_) fun _ =>
    Agreement.Achieves.pure stable fun _ both => both.1
  rintro caution ⟨-, vouches⟩ ⟨x, value⟩ member
  obtain ⟨listed, owned⟩ := List.mem_filter.mp member
  exact vouches x value listed owned

theorem achieves_cleanZones (zones : List String) :
    (agreement layout key).Achieves (Holds copy) (cleanZones layout key zones)
      fun _ => Holds copy := by
  induction zones with
  | nil => exact Agreement.Achieves.pure stable_holds fun _ holds => holds
  | cons zone rest ih =>
    unfold cleanZones
    cases layout.directory key zone with
    | error error => exact ih
    | ok directory =>
      exact (achieves_deleteOwned directory).bind fun deleted => ih.bind fun others =>
        Agreement.Achieves.pure stable_holds fun _ holds => holds

theorem achieves_publish (cleaned : Nat) :
    (agreement layout key).Achieves (Holds (some service)) (publish layout service cleaned)
      fun _ _ => True := by
  unfold publish
  refine Agreement.Achieves.bind (Agreement.Achieves.ofRecord stable_holds) fun record => ⟨?_⟩
  rintro caution ⟨made, holds⟩
  refine ((achieves_listEntries stable_holds).bind fun current => ?_).honours caution holds
  have stable : (agreement layout key).Stable
      fun caution => Holds (some service) caution ∧ caution.Vouches layout current := by
    intro caution later both step
    exact ⟨stable_holds both.1 step, stable_vouches current both.2 step⟩
  refine Agreement.Achieves.bind (achieves_puts _ stable (fun _ both => both.1 service rfl) ?_)
    fun _ => (achieves_deletes _ id stable ?_).bind fun _ =>
      Agreement.Achieves.pure stable fun _ _ => trivial
  · rintro ⟨x, value⟩ member
    obtain ⟨entry, wanted, -, rfl⟩ := Changes.mem_puts.mp member
    exact ⟨entry, ⟨record, made, wanted⟩, Entry.ofText?_text entry⟩
  · rintro caution ⟨-, vouches⟩ x member
    obtain ⟨-, value, listed, owned⟩ := Changes.mem_deletes.mp member
    exact vouches x value listed owned

theorem achieves_withdraw (cleaned : Nat) :
    (agreement layout key).Achieves (Holds (some service)) (withdraw layout key service cleaned)
      fun _ _ => True := by
  unfold withdraw
  refine Agreement.Achieves.bind (Agreement.Achieves.ofRecord stable_holds) fun directory => ⟨?_⟩
  rintro caution ⟨-, holds⟩
  exact ((achieves_deleteOwned directory).bind fun deleted =>
    Agreement.Achieves.pure stable_holds fun _ _ => trivial).honours caution holds

theorem achieves_ask (r : Request) (permitted : ∀ caution, Permits layout r caution) :
    (agreement layout key).Achieves (Holds copy) (Attempt.ask r) fun _ => Holds copy := by
  refine Agreement.Achieves.request Except.ok stable_holds (fun _ => stable_holds)
    (fun caution _ => permitted caution) ?_
  rintro caution reply after a holds ⟨step, -⟩ - service cached
  exact step.held service (holds service cached)

theorem achieves_conclude (cleaned : Nat) :
    (agreement layout key).Achieves (Holds copy) (conclude layout key cleaned copy)
      fun _ _ => True := by
  cases copy with
  | none => exact Agreement.Achieves.pure stable_holds fun _ _ => trivial
  | some service =>
    cases deleting : service.isDeleting with
    | true =>
      simp only [conclude, deleting, if_true]
      exact achieves_withdraw cleaned
    | false =>
      simp only [conclude, deleting, Bool.false_eq_true, if_false]
      exact achieves_publish cleaned

theorem achieves_reconcile :
    (agreement layout key).Achieves (fun _ => True) (reconcile layout key) fun _ _ => True := by
  have reading : (agreement layout key).Achieves (fun _ => True) (Attempt.ask (.readService key))
      Holds := by
    refine Agreement.Achieves.request Except.ok stable_true (fun _ => stable_holds)
      (fun _ _ => trivial) ?_
    rintro caution reply after copy - ⟨-, told⟩ ⟨⟩
    exact told rfl
  refine Agreement.Achieves.reconcile (fun copy _ => Holds copy) (fun copy _ => Holds copy) reading
    ?_ ?_ ?_ ?_
  · intro copy
    exact achieves_ask (.readStale key) fun _ => trivial
  · intro copy unwanted
    exact achieves_cleanZones unwanted
  · intro copy unwanted _
    exact achieves_ask (.clearStale key unwanted) fun _ => trivial
  · intro copy unwanted cleaned
    exact achieves_conclude cleaned

/-- The request is one to change the store. -/
def writes : Request → Bool
  | .put .. => true
  | .delete _ => true
  | _ => false

/-- Others may do anything, but the procedure must not write. -/
def reading : Agreement Unit where
  yields _ _ := True
  yields_refl _ := trivial
  yields_trans _ _ := trivial
  permits r _ := writes r = false
  answers _ _ _ _ := True

theorem stable_reading (pre : Unit → Prop) : reading.Stable pre :=
  fun _ _ begun _ => begun

theorem honours_reading {r : Request} (reads : writes r = false) :
    reading.Honours (fun _ _ => True) (Procedure.request r) () :=
  Agreement.honours_request (stable_reading fun _ => True) (fun _ _ => reads)
    (fun _ _ _ _ _ _ _ => trivial) trivial

theorem honours_markOrphans (entries : List (String × String)) :
    reading.Honours (fun _ _ => True) (markOrphans layout entries) () := by
  induction entries with
  | nil => exact fun _ _ => trivial
  | cons entry rest ih =>
    obtain ⟨x, value⟩ := entry
    unfold markOrphans
    split
    · exact ih
    · refine (honours_reading rfl).bind fun cached _ _ => ?_
      split
      · exact ih
      · refine (honours_reading rfl).bind fun _ _ _ => ih.bind fun _ _ _ => ?_
        exact fun _ _ => trivial

/-- A sweep does not write. -/
theorem achieves_sweep : reading.Achieves (fun _ => True) (sweep layout) fun _ _ => True := by
  unfold sweep
  have listing : reading.Achieves (fun _ => True)
      (ExceptT.mk (Procedure.request (.list (layout.root ++ "/")))) fun _ _ => True :=
    Agreement.Achieves.request (r := .list _) id (stable_reading _) (fun _ => stable_reading _)
      (fun _ _ => rfl) fun _ _ _ _ _ _ _ => trivial
  have enqueuing : ∀ keys : List Key, reading.Achieves (ε := StoreError) (fun _ => True)
      (keys.forM fun key => ExceptT.lift (Procedure.request (.enqueue key))) fun _ _ => True := by
    intro keys
    induction keys with
    | nil => exact Agreement.Achieves.pure (stable_reading _) fun _ _ => trivial
    | cons key rest ih =>
      exact (Agreement.Achieves.lift (fun _ => stable_reading _)
        fun _ _ => honours_reading rfl).bind fun _ => ih
  refine listing.bind fun entries => ?_
  refine (Agreement.Achieves.lift (fun _ => stable_reading _)
    fun _ _ => honours_markOrphans entries).bind fun orphans => ?_
  exact (enqueuing orphans.toList).bind fun _ =>
    Agreement.Achieves.pure (stable_reading _) fun _ _ => trivial

end Caution

end ServiceRecords
