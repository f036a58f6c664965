import ServiceRecords.Proofs.Reconcile.Agreement
import ServiceRecords.Proofs.Store.Writes
import ServiceRecords.Proofs.Watch.Keying

set_option autoImplicit false

/-!
# What a reconciliation has to do with

A reconciliation asks for nothing but what belongs to its key (`Request.IsOwn`). A listing shows
entries of other keys as well when their directories lie further below, but nothing depends on
them: replies that differ in such entries only are followed by the same procedure
(`Request.Alike`). So a reconciliation `IsLocal` to its key (`isLocal_reconcile`).
-/

namespace ServiceRecords

namespace Request

/-- The request is about the key, its directories and its entries. -/
def IsOwn (layout : Layout) (key : Key) : Request → Prop
  | .readService key' | .readStale key' | .clearStale key' _ => key' = key
  | .markStale .. | .enqueue _ => False
  | .list start => ∃ zone directory, layout.directory key zone = .ok directory ∧
      start = directory ++ "/"
  | .put x _ | .delete x => ∃ zone, layout.Resides key zone x

/-- The replies are the same, or listings with the same entries in the directory itself. -/
def Alike : (r : Request) → r.Reply → r.Reply → Prop
  | .list start, reply, reply' => ∀ directory, start = directory ++ "/" →
      reply.map (List.filter fun entry => isDirectlyBelow directory entry.1) =
        reply'.map (List.filter fun entry => isDirectlyBelow directory entry.1)
  | _, reply, reply' => reply = reply'

/-- A service that is found under the key is published under no other. -/
def Tells (layout : Layout) (key : Key) : (r : Request) → r.Reply → Prop
  | .readService _, reply => ∀ service record, reply = some service →
      layout.record service = .ok record → service.key = key
  | _, _ => True

end Request

/-- A service without a namespace is published nowhere, and any other one under its key. -/
theorem Cache.IsKeyed.tells {cache : Cache} (keyed : cache.IsKeyed) (layout : Layout) (key : Key) :
    Request.Tells layout key (.readService key) (cache.find? key) := by
  intro service record found made
  rcases keyed.key_eq_or found with own | missing
  · exact own
  · obtain ⟨labels, named, -⟩ := Layout.directory_eq_ok.mp (Layout.directory_of_record made)
    have valid := (nameLabels_eq_ok.mp named).2.2.1
    exact absurd (by simp [Service.key, missing]) valid.ne_empty

namespace Procedure

variable {α β : Type} {layout : Layout} {key : Key}

/-- All requests are own ones, and what follows does not depend on foreign entries. -/
def IsLocal (layout : Layout) (key : Key) (post : α → Prop) : Procedure α → Prop
  | .done result => post result
  | .ask r resume => r.IsOwn layout key ∧
      (∀ reply reply', r.Alike reply reply' → resume reply = resume reply') ∧
      ∀ reply, r.Tells layout key reply → IsLocal layout key post (resume reply)

theorem IsLocal.bind {mid : α → Prop} {post : β → Prop} {first : Procedure α}
    {next : α → Procedure β} (isLocal : first.IsLocal layout key mid)
    (following : ∀ a, mid a → (next a).IsLocal layout key post) :
    (first.bind next).IsLocal layout key post := by
  induction first with
  | done result => exact following result isLocal
  | ask r resume ih =>
    obtain ⟨own, blind, rest⟩ := isLocal
    refine ⟨own, ?_, fun reply told => ih reply (rest reply told)⟩
    intro reply reply' alike
    change (resume reply).bind next = (resume reply').bind next
    rw [blind reply reply' alike]

theorem IsLocal.mono {post post' : α → Prop} {procedure : Procedure α}
    (isLocal : procedure.IsLocal layout key post) (weaker : ∀ a, post a → post' a) :
    procedure.IsLocal layout key post' := by
  induction procedure with
  | done result => exact weaker result isLocal
  | ask r resume ih =>
    exact ⟨isLocal.1, isLocal.2.1, fun reply told => ih reply (isLocal.2.2 reply told)⟩

end Procedure

namespace Attempt

variable {α β : Type} {layout : Layout} {key : Key} {attempt : Attempt α} {post : α → Prop}
  {zone directory x : String}

/-- The attempt is local to the key, and what it succeeds with satisfies `post`. -/
structure IsLocal (layout : Layout) (key : Key) (post : α → Prop) (attempt : Attempt α) : Prop where
  run : attempt.run.IsLocal layout key fun result => ∀ a, result = .ok a → post a

theorem isLocal_pure {a : α} (holds : post a) :
    IsLocal layout key post (pure a : Attempt α) := by
  constructor
  rintro _ ⟨⟩
  exact holds

theorem IsLocal.bind {post' : β → Prop} {next : α → Attempt β}
    (isLocal : IsLocal layout key post attempt)
    (following : ∀ a, post a → IsLocal layout key post' (next a)) :
    IsLocal layout key post' (attempt >>= next) := by
  refine ⟨isLocal.run.bind ?_⟩
  intro result holds
  cases result with
  | ok a => exact (following a (holds a rfl)).run
  | error error => rintro _ ⟨⟩

theorem isLocal_forM {items : List β} {attempt : β → Attempt PUnit}
    (each : ∀ item ∈ items, IsLocal layout key (fun _ => True) (attempt item)) :
    IsLocal layout key (fun _ => True) (items.forM attempt) := by
  induction items with
  | nil => exact isLocal_pure trivial
  | cons item rest ih =>
    rw [List.forall_mem_cons] at each
    exact each.1.bind fun _ _ => ih each.2

theorem isLocal_ofRecord {result : Except RecordError α} :
    IsLocal layout key (fun a => result = .ok a) (ofRecord result) := by
  constructor
  intro a succeeded
  cases result with
  | error error => cases succeeded
  | ok found =>
    cases succeeded
    rfl

theorem isLocal_ask {r : Request} (own : r.IsOwn layout key)
    (plain : ∀ reply reply', r.Alike reply reply' → reply = reply') :
    IsLocal layout key (r.Tells layout key) (Attempt.ask r) := by
  refine ⟨own, fun reply reply' alike => ?_, fun reply told a succeeded => ?_⟩
  · rw [plain reply reply' alike]
  · cases succeeded
    exact told

theorem isLocal_put {value : String} (resides : layout.Resides key zone x) :
    IsLocal layout key (fun _ => True) (Attempt.put x value) := by
  refine ⟨⟨zone, resides⟩, ?_, fun _ _ _ _ => trivial⟩
  rintro reply _ rfl
  rfl

theorem isLocal_delete (resides : layout.Resides key zone x) :
    IsLocal layout key (fun _ => True) (Attempt.delete x) := by
  refine ⟨⟨zone, resides⟩, ?_, fun _ _ _ _ => trivial⟩
  rintro reply _ rfl
  rfl

theorem isLocal_listEntries (found : layout.directory key zone = .ok directory) :
    IsLocal layout key (fun entries => ∀ entry ∈ entries, layout.Resides key zone entry.1)
      (listEntries directory) := by
  refine ⟨⟨zone, directory, found, rfl⟩, ?_, ?_⟩
  · intro reply reply' alike
    have same := alike directory rfl
    cases reply with
    | error error =>
      cases reply' with
      | error error' => cases same; rfl
      | ok entries' => cases same
    | ok entries =>
      cases reply' with
      | error error' => cases same
      | ok entries' =>
        exact congrArg (fun entries => Procedure.done (Except.ok entries)) (Except.ok.inj same)
  · intro reply _
    cases reply with
    | error error => rintro _ ⟨⟩
    | ok entries =>
      rintro _ ⟨⟩ entry member
      exact ⟨directory, found, (List.mem_filter.mp member).2⟩

theorem isLocal_deleteOwned (found : layout.directory key zone = .ok directory) :
    IsLocal layout key (fun _ => True) (deleteOwned layout directory) := by
  refine (isLocal_listEntries found).bind fun entries resides => ?_
  refine (isLocal_forM ?_).bind fun _ _ => isLocal_pure trivial
  rintro ⟨x, value⟩ member
  exact isLocal_delete (resides _ (List.mem_filter.mp member).1)

theorem isLocal_cleanZones (zones : List String) :
    IsLocal layout key (fun _ => True) (cleanZones layout key zones) := by
  induction zones with
  | nil => exact isLocal_pure trivial
  | cons zone rest ih =>
    unfold cleanZones
    cases found : layout.directory key zone with
    | error error => exact ih
    | ok directory =>
      exact (isLocal_deleteOwned found).bind fun _ _ => ih.bind fun _ _ => isLocal_pure trivial

theorem isLocal_publish {service : Service}
    (own_key : ∀ record, layout.record service = .ok record → service.key = key) (cleaned : Nat) :
    IsLocal layout key (fun _ => True) (publish layout service cleaned) := by
  refine isLocal_ofRecord.bind fun record made => ?_
  have found := Layout.directory_of_record made
  rw [own_key record made] at found
  refine (isLocal_listEntries found).bind fun current resides => ?_
  refine (isLocal_forM ?puts).bind fun _ _ => (isLocal_forM ?deletes).bind fun _ _ =>
    isLocal_pure trivial
  case puts =>
    rintro ⟨x, value⟩ member
    obtain ⟨entry, wanted, -⟩ := Changes.mem_puts.mp member
    have resides := Layout.resides_of_record made wanted
    rw [own_key record made] at resides
    exact isLocal_put resides
  case deletes =>
    intro x member
    obtain ⟨-, value, listed, -⟩ := Changes.mem_deletes.mp member
    exact isLocal_delete (resides _ listed)

theorem isLocal_withdraw (service : Service) (cleaned : Nat) :
    IsLocal layout key (fun _ => True) (withdraw layout key service cleaned) :=
  isLocal_ofRecord.bind fun _ found => (isLocal_deleteOwned found).bind fun _ _ =>
    isLocal_pure trivial

theorem isLocal_conclude {copy : Option Service}
    (told : Request.Tells layout key (.readService key) copy) (cleaned : Nat) :
    IsLocal layout key (fun _ => True) (conclude layout key cleaned copy) := by
  cases copy with
  | none => exact isLocal_pure trivial
  | some service =>
    unfold conclude
    dsimp only
    split
    · exact isLocal_withdraw service cleaned
    · exact isLocal_publish (fun record made => told service record rfl made) cleaned

theorem isLocal_clearMarks (zones : List String) :
    IsLocal layout key (fun _ => True) (clearMarks key zones) := by
  unfold clearMarks
  split
  · exact isLocal_pure trivial
  · have clearing : IsLocal layout key (Request.Tells layout key (.clearStale key zones))
        (Attempt.ask (.clearStale key zones)) := isLocal_ask rfl fun _ _ same => same
    exact clearing

end Attempt

open Attempt

theorem isLocal_reconcile (layout : Layout) (key : Key) :
    IsLocal layout key (fun _ => True) (reconcile layout key) := by
  have reading : IsLocal layout key (Request.Tells layout key (.readService key))
      (Attempt.ask (.readService key)) := isLocal_ask rfl fun _ _ same => same
  have recalling : IsLocal layout key (Request.Tells layout key (.readStale key))
      (Attempt.ask (.readStale key)) := isLocal_ask rfl fun _ _ same => same
  rw [reconcile_eq]
  refine reading.bind fun copy told => recalling.bind fun stale _ => ?_
  refine (isLocal_cleanZones _).bind fun cleaned _ => (isLocal_clearMarks _).bind fun _ _ => ?_
  exact isLocal_conclude told cleaned

end ServiceRecords
