import ServiceRecords.Proofs.Reconcile.Caution
import ServiceRecords.Proofs.Reconcile.Terms
import ServiceRecords.Proofs.Watch.Observation

set_option autoImplicit false

/-!
# Live entries

An entry of a live service is deleted only by mistake: by the place of an owned entry, the sweep
takes it for one of another key or zone, which has the directory of the service nevertheless
(`IsMistaken`). With no such entry in the store, no reconciliation deletes a live entry, whatever
else is stored (`achieves_reconcile`), and no sweep marks a zone without a reason
(`achieves_sweep`).
-/

namespace ServiceRecords

/-- The service is cached under its own key, and is not being deleted. -/
structure Cache.IsLive (cache : Cache) (service : Service) : Prop where
  cached : cache.find? service.key = some service
  alive : service.isDeleting = false

namespace Layout

/-- By its place, an owned entry in the store is taken for one of the key in the zone. -/
def Attributes (layout : Layout) (contents : Store.Contents) (key : Key) (zone : String) : Prop :=
  ∃ x value location, contents[x]? = some value ∧ layout.owns value = true ∧
    layout.locate? x = some location ∧ location.key = key ∧
    Dns.Zone.normalize location.zone = zone

/-- An entry is taken for one of another key or zone, although that has the directory of the
service. -/
def IsMistaken (layout : Layout) (contents : Store.Contents) (service : Service) : Prop :=
  ∃ key zone, layout.Attributes contents key zone ∧
    ¬(key = service.key ∧ zone = Dns.Zone.normalize service.spec.zone) ∧
    layout.directory key zone = layout.directory service.key service.spec.zone

end Layout

theorem eq_of_append_slash {before before' after after' : List Char}
    (same : before ++ '/' :: after = before' ++ '/' :: after') (whole : '/' ∉ after)
    (whole' : '/' ∉ after') : before = before' := by
  rcases List.append_eq_append_iff.mp same with ⟨between, rfl, rest⟩ | ⟨between, rfl, rest⟩
  · cases between with
    | nil => simp
    | cons first between =>
      obtain ⟨-, rfl⟩ := List.cons.inj rest
      simp at whole
  · cases between with
    | nil => simp
    | cons first between =>
      obtain ⟨-, rfl⟩ := List.cons.inj rest
      simp at whole'

/-- An entry lies directly in one directory only. -/
theorem isDirectlyBelow_unique {directory other x : String}
    (below : isDirectlyBelow directory x = true) (below' : isDirectlyBelow other x = true) :
    directory = other := by
  obtain ⟨leaf, rfl, -, whole⟩ := isDirectlyBelow_iff.mp below
  obtain ⟨leaf', same, -, whole'⟩ := isDirectlyBelow_iff.mp below'
  apply String.toList_inj.mp
  have chars : directory.toList ++ '/' :: leaf.toList = other.toList ++ '/' :: leaf'.toList := by
    simpa [Layout.entryKey] using congrArg String.toList same.symm
  exact eq_of_append_slash chars whole whole'

namespace Sparing

variable {layout : Layout} {cache : Cache} {contents : Store.Contents} {service : Service}
  {key : Key} {x zone directory : String} {entry : Entry}

/-- If an entry of a live service may be deleted, then by mistake. -/
def Permits (layout : Layout) (cache : Cache) (contents : Store.Contents) : Request → Prop
  | .delete x => ∀ service entry, cache.IsLive service → layout.Names service x entry →
      layout.IsMistaken contents service
  | .put x value => ∃ service entry, cache.IsLive service ∧ layout.Names service x entry ∧
      Entry.ofText? value = some entry
  | .markStale key zone => layout.Attributes contents key (Dns.Zone.normalize zone)
  | _ => True

/-- An owned entry was in the store from the start, or it is one of a live service. -/
def Accounts (layout : Layout) (cache : Cache) (contents : Store.Contents) (x value : String) :
    Prop :=
  contents[x]? = some value ∨
    ∃ service entry, cache.IsLive service ∧ layout.Names service x entry

def Tells (layout : Layout) (cache : Cache) (contents : Store.Contents) :
    (r : Request) → r.Reply → Prop
  | .readService key, reply => reply = cache.find? key
  | .readStale key, zones => ∀ zone ∈ zones, layout.Attributes contents key zone
  | .list _, reply => ∀ entries, reply = .ok entries → ∀ x value, (x, value) ∈ entries →
      layout.owns value = true → Accounts layout cache contents x value
  | _, _ => True

def terms (layout : Layout) (cache : Cache) (contents : Store.Contents) : Terms where
  permits := Permits layout cache contents
  tells := Tells layout cache contents

/-- A live service has the only record with entries in its directory. -/
theorem eq_of_names (wellFormed : cache.IsWellFormed) (live : cache.IsLive service)
    (names : layout.Names service x entry) {cached : Service}
    (found : cache.find? key = some cached) {zone : String}
    (resides : layout.Resides key zone x) : cached = service := by
  obtain ⟨record, made, wanted⟩ := names
  have same := Layout.Resides.eq_of_isLower (wellFormed _ _ found).2 (wellFormed _ _ live.cached).2
    resides (Layout.resides_of_record made wanted)
  rw [same, live.cached] at found
  exact (Option.some.inj found).symm

/-- Zones are cleaned that entries have been attributed to, but never the wanted one. -/
theorem permits_of_stray (attributed : layout.Attributes contents key zone)
    (unwanted : wantedZone? (cache.find? key) ≠ some zone)
    (found : layout.directory key zone = .ok directory)
    (below : isDirectlyBelow directory x = true) :
    Permits layout cache contents (.delete x) := by
  intro service entry live names
  obtain ⟨record, made, wanted⟩ := names
  -- What is cleaned is the directory of a live service, although the zone is not the wanted one.
  refine ⟨key, zone, attributed, ?_, ?_⟩
  · rintro ⟨rfl, rfl⟩
    apply unwanted
    rw [live.cached]
    simp [wantedZone?, live.alive]
  · rw [found, Layout.directory_of_record made]
    exact congrArg Except.ok (isDirectlyBelow_unique below (Layout.spec_of_record made wanted).1)

theorem publishes (wellFormed : cache.IsWellFormed) (live : cache.IsLive service) {record : Record}
    (made : layout.record service = .ok record) :
    (terms layout cache contents).Publishes layout record where
  list := trivial
  put _ wanted _ := ⟨service, _, live, ⟨record, made, wanted⟩, Entry.ofText?_text _⟩
  delete := by
    intro listed x value _ _ below _ undesired other entry live' names
    -- An entry of a live service in this directory would be desired.
    have resides : layout.Resides service.key service.spec.zone x :=
      ⟨record.directory, Layout.directory_of_record made, below⟩
    obtain rfl := eq_of_names wellFormed live' names live.cached resides
    obtain ⟨record', made', wanted⟩ := names
    rw [made] at made'
    cases made'
    rw [undesired] at wanted
    cases wanted

theorem grants (wellFormed : cache.IsWellFormed) (key : Key) :
    (terms layout cache contents).Grants layout key where
  readService := trivial
  readStale := trivial
  clearStale _ _ _ := trivial
  clean := by
    rintro _ stale zone directory rfl attributed marked unwanted found
    exact ⟨trivial, fun _ _ below _ =>
      permits_of_stray (attributed zone marked) unwanted found below⟩
  withdraw := by
    intro service directory cached deleting found
    refine ⟨trivial, fun _ _ below _ other entry live names => ?_⟩
    obtain rfl := eq_of_names wellFormed live names cached.symm ⟨directory, found, below⟩
    rw [live.alive] at deleting
    cases deleting
  publish := by
    intro service record cached alive made
    have same := (wellFormed key service cached.symm).1
    exact publishes wellFormed ⟨same ▸ cached.symm, alive⟩ made

theorem achieves_reconcile (wellFormed : cache.IsWellFormed) (key : Key) :
    (terms layout cache contents).agreement.Achieves (fun _ => True) (reconcile layout key)
      fun _ _ => True :=
  Terms.achieves_reconcile (grants wellFormed key)

/-- A zone is marked only for an entry that was there from the start. -/
theorem honours_markOrphans (wellFormed : cache.IsWellFormed) (entries : List (String × String))
    (accounted : ∀ x value, (x, value) ∈ entries → layout.owns value = true →
      Accounts layout cache contents x value) :
    (terms layout cache contents).agreement.Honours (fun _ _ => True)
      (markOrphans layout entries) () := by
  induction entries with
  | nil => exact fun _ _ => trivial
  | cons entry rest ih =>
    obtain ⟨x, value⟩ := entry
    have others := ih fun y stored member => accounted y stored (List.mem_cons_of_mem _ member)
    unfold markOrphans
    cases found : (if layout.owns value then layout.locate? x else none) with
    | none => exact others
    | some location =>
      obtain ⟨owned, found⟩ := Option.ite_none_right_eq_some.mp found
      have reading : (terms layout cache contents).agreement.Honours
          (fun cached _ => cached = cache.find? location.key)
          (Procedure.request (.readService location.key)) () := Terms.honours_request trivial
      refine reading.bind ?_
      rintro _ _ rfl
      by_cases wanted : wantedZone? (cache.find? location.key) = some location.zone
      · rw [if_pos wanted]
        exact others
      · rw [if_neg wanted]
        have attributed : layout.Attributes contents location.key
            (Dns.Zone.normalize location.zone) := by
          rcases accounted x value (List.mem_cons_self ..) owned with stored |
            ⟨service, entry, live, record, made, named⟩
          · exact ⟨x, value, location, stored, owned, found, rfl, rfl⟩
          -- An entry of a live service is taken for what it is, and is wanted.
          · obtain ⟨leaf, located⟩ := Layout.locate?_of_isLower (wellFormed _ _ live.cached).2
              (Layout.resides_of_record made named)
            rw [found] at located
            cases located
            rw [live.cached] at wanted
            simp [wantedZone?, live.alive] at wanted
        have marking : (terms layout cache contents).agreement.Honours (fun _ _ => True)
            (Procedure.request (.markStale location.key location.zone)) () :=
          (Terms.honours_request attributed).mono fun _ _ _ => trivial
        refine marking.bind fun _ _ _ => others.bind fun _ _ _ => ?_
        exact fun _ _ => trivial

theorem achieves_sweep (wellFormed : cache.IsWellFormed) :
    (terms layout cache contents).agreement.Achieves (fun _ => True) (sweep layout)
      fun _ _ => True := by
  unfold sweep
  refine (Terms.achieves_list trivial).bind fun entries => ⟨?_⟩
  intro _ told
  have marking : (terms layout cache contents).agreement.Achieves (ε := StoreError)
      (fun _ => True) (ExceptT.lift (markOrphans layout entries)) fun _ _ => True :=
    .lift (fun _ => Terms.stable _) fun _ _ =>
      honours_markOrphans wellFormed entries (told entries rfl)
  refine (marking.bind fun orphans => ?_).honours () trivial
  refine (Agreement.Achieves.forM _ _ (Terms.stable _) fun key _ => ?_).bind fun _ =>
    .pure (Terms.stable _) fun _ _ => trivial
  exact .lift (fun _ => Terms.stable _) fun _ _ =>
    (Terms.honours_request trivial).mono fun _ _ _ => trivial

end Sparing

end ServiceRecords
