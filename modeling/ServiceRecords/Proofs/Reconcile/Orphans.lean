import ServiceRecords.Proofs.Reconcile.Attempts
import ServiceRecords.Proofs.Reconcile.Site
import ServiceRecords.Proofs.Watch.Observation

set_option autoImplicit false

/-!
# Orphans

An orphan is an owned entry in a zone where its key is not published by the cached service
(`Layout.HasOrphan`). A sweep marks the zones of all orphans and of nothing else, and asks for their
keys (`exists_sweeps`).
-/

namespace ServiceRecords

namespace Layout

variable {layout : Layout} {cache : Cache} {contents : Store.Contents} {key : Key} {zone : String}

/-- Every owned entry below the root is one of a key in lower case. -/
def IsPlaced (layout : Layout) (contents : Store.Contents) : Prop :=
  ∀ x value, contents[x]? = some value → layout.owns value = true →
    (∃ rest, layout.root ++ "/" ++ rest = x) → ∃ key zone, key.IsLower ∧ layout.Resides key zone x

theorem isPlaced_empty : layout.IsPlaced ∅ := by
  intro x value stored
  simp at stored

theorem IsPlaced.insert {x value : String} (placed : layout.IsPlaced contents)
    (resides : layout.owns value = true → ∃ key zone, key.IsLower ∧ layout.Resides key zone x) :
    layout.IsPlaced (contents.insert x value) := by
  intro y other stored owned below
  rw [Store.getElem?_insert] at stored
  split at stored
  · rename_i own
    cases stored
    exact own ▸ resides owned
  · exact placed y other stored owned below

/-- An owned entry of the key is stored in the zone, and no live service of the key is cached that
is published there. -/
structure HasOrphan (layout : Layout) (cache : Cache) (contents : Store.Contents) (key : Key)
    (zone : String) : Prop where
  isLower : key.IsLower
  unwanted : wantedZone? (cache.find? key) ≠ some zone
  stored : ∃ x, layout.HoldsOwned contents key zone x

end Layout

namespace Surroundings

variable {layout : Layout} {entries : List (String × String)} {before after : Surroundings}
  {key : Key} {zone : String} {cache : Cache}

/-- An owned entry of a listing is not accounted for by the cached service of its place. -/
def Blames (layout : Layout) (cache : Cache) (entries : List (String × String)) (key : Key)
    (zone : String) : Prop :=
  ∃ x value leaf, (x, value) ∈ entries ∧ layout.owns value = true ∧
    layout.locate? x = some ⟨key, zone, leaf⟩ ∧ wantedZone? (cache.find? key) ≠ some zone

theorem blames_cons {entry : String × String} :
    Blames layout cache (entry :: entries) key zone ↔
      (∃ leaf, layout.owns entry.2 = true ∧ layout.locate? entry.1 = some ⟨key, zone, leaf⟩ ∧
        wantedZone? (cache.find? key) ≠ some zone) ∨ Blames layout cache entries key zone := by
  constructor
  · rintro ⟨x, value, leaf, member, rest⟩
    rcases List.mem_cons.mp member with rfl | member
    · exact .inl ⟨leaf, rest⟩
    · exact .inr ⟨x, value, leaf, member, rest⟩
  · rintro (⟨leaf, rest⟩ | ⟨x, value, leaf, member, rest⟩)
    · exact ⟨entry.1, entry.2, leaf, List.mem_cons_self .., rest⟩
    · exact ⟨x, value, leaf, List.mem_cons_of_mem _ member, rest⟩

structure Marks (layout : Layout) (entries : List (String × String)) (before : Surroundings)
    (orphans : Std.ExtTreeSet Key) (stale : StaleZones) : Prop where
  orphans : ∀ key, key ∈ orphans ↔
    ∃ zone, Blames layout before.observer.cache entries key zone
  stale : ∀ key zone, zone ∈ stale.zones key ↔ zone ∈ before.observer.stale.zones key ∨
    zone ≠ "" ∧ ∃ written, Blames layout before.observer.cache entries key written ∧
      Dns.Zone.normalize written = zone

theorem exists_marks (layout : Layout) (entries : List (String × String)) (before : Surroundings) :
    ∃ orphans stale, (markOrphans layout entries).run answer before =
        (orphans, before.updateStale fun _ => stale) ∧
      Marks layout entries before orphans stale := by
  induction entries generalizing before with
  | nil =>
    refine ⟨∅, before.observer.stale, rfl, fun key => ?_, fun key zone => ?_⟩
    · simp [Blames]
    · simp [Blames]
  | cons entry rest ih =>
    obtain ⟨x, value⟩ := entry
    unfold markOrphans
    cases found : (if layout.owns value then layout.locate? x else none) with
    | none =>
      obtain ⟨orphans, stale, ran, marks⟩ := ih before
      have others : ∀ key zone, Blames layout before.observer.cache ((x, value) :: rest) key zone ↔
          Blames layout before.observer.cache rest key zone := by
        intro key zone
        rw [blames_cons, or_iff_right]
        rintro ⟨leaf, owned, located, -⟩
        simp [owned, located] at found
      refine ⟨orphans, stale, ran, ?_, ?_⟩
      · simpa only [others] using marks.orphans
      · simpa only [others] using marks.stale
    | some location =>
      obtain ⟨owned, found⟩ := Option.ite_none_right_eq_some.mp found
      have here : ∀ key zone, Blames layout before.observer.cache ((x, value) :: rest) key zone ↔
          (key = location.key ∧ zone = location.zone ∧
            wantedZone? (before.observer.cache.find? location.key) ≠ some location.zone) ∨
          Blames layout before.observer.cache rest key zone := by
        intro key zone
        rw [blames_cons]
        apply or_congr_left
        constructor
        · rintro ⟨leaf, -, located, unwanted⟩
          rw [found] at located
          cases located
          exact ⟨rfl, rfl, unwanted⟩
        · rintro ⟨rfl, rfl, unwanted⟩
          exact ⟨location.endpoint, owned, found, unwanted⟩
      by_cases wanted : wantedZone? (before.observer.cache.find? location.key) = some location.zone
      · obtain ⟨orphans, stale, ran, marks⟩ := ih before
        have others : ∀ key zone,
            Blames layout before.observer.cache ((x, value) :: rest) key zone ↔
            Blames layout before.observer.cache rest key zone := by
          intro key zone
          rw [here, or_iff_right]
          exact fun unwanted => unwanted.2.2 wanted
        refine ⟨orphans, stale, ?_, ?_, ?_⟩
        · rw [← ran]
          change (if wantedZone? (before.observer.cache.find? location.key) = some location.zone
            then markOrphans layout rest else _).run answer before = _
          rw [if_pos wanted]
        · simpa only [others] using marks.orphans
        · simpa only [others] using marks.stale
      · -- The mark is made first, so the rest is gone through in other surroundings.
        obtain ⟨orphans, stale, ran, marks⟩ :=
          ih (before.updateStale (·.mark location.key location.zone))
        refine ⟨orphans.insert location.key, stale, ?_, ?_, ?_⟩
        · change (if wantedZone? (before.observer.cache.find? location.key) = some location.zone
            then markOrphans layout rest else _).run answer before = _
          rw [if_neg wanted]
          change ((markOrphans layout rest).bind _).run answer
            (before.updateStale (·.mark location.key location.zone)) = _
          rw [Procedure.run_bind, ran]
          rfl
        · intro key
          rw [Std.ExtTreeSet.mem_insert, Std.LawfulEqCmp.compare_eq_iff_eq, marks.orphans]
          simp only [here, exists_or]
          apply or_congr_left
          constructor
          · rintro rfl
            exact ⟨location.zone, rfl, rfl, wanted⟩
          · rintro ⟨zone, rfl, -⟩
            rfl
        · intro key zone
          rw [marks.stale]
          change zone ∈ (before.observer.stale.mark location.key location.zone).zones key ∨ _ ↔ _
          rw [StaleZones.mem_zones_mark]
          simp only [here]
          constructor
          · rintro ((member | ⟨rfl, rfl, nonempty⟩) | ⟨nonempty, written, blames, same⟩)
            · exact .inl member
            · exact .inr ⟨nonempty, location.zone, .inl ⟨rfl, rfl, wanted⟩, rfl⟩
            · exact .inr ⟨nonempty, written, .inr blames, same⟩
          · rintro (member | ⟨nonempty, written, ⟨rfl, rfl, -⟩ | blames, rfl⟩)
            · exact .inl (.inl member)
            · exact .inl (.inr ⟨rfl, rfl, nonempty⟩)
            · exact .inr ⟨nonempty, written, blames, rfl⟩

theorem run_enqueue (keys : List Key) (before : Surroundings) :
    (keys.forM fun key => ExceptT.lift (Procedure.request (.enqueue key)) :
      ExceptT StoreError Procedure PUnit).run.run answer before =
    (.ok (), { before with requested := keys.reverse ++ before.requested }) := by
  induction keys generalizing before with
  | nil => rfl
  | cons key rest ih =>
    change (rest.forM _ : ExceptT StoreError Procedure PUnit).run.run answer
      { before with requested := key :: before.requested } = _
    rw [ih]
    simp

/-- An exact sweep finds just the keys that have orphans and marks just the zones of these. -/
structure Sweeps (layout : Layout) (before : Surroundings) (orphans : List Key)
    (after : Surroundings) : Prop where
  nodup : orphans.Nodup
  mem_iff : ∀ key, key ∈ orphans ↔
    ∃ zone, layout.HasOrphan before.observer.cache before.memory.contents key zone
  stale : ∀ key zone, zone ∈ after.observer.stale.zones key ↔
    zone ∈ before.observer.stale.zones key ∨
      layout.HasOrphan before.observer.cache before.memory.contents key zone
  observer : after.observer = { before.observer with stale := after.observer.stale }
  requested : after.requested = orphans.reverse ++ before.requested
  contents : after.memory.contents = before.memory.contents
  calls : after.memory.calls = (.list (layout.root ++ "/"), true) :: before.memory.calls

/-- By its place, an owned entry tells which key it is an orphan of. -/
theorem blames_listing (placed : layout.IsPlaced before.memory.contents) :
    Blames layout cache (Store.listing before.memory.contents (layout.root ++ "/")) key zone ↔
      layout.HasOrphan cache before.memory.contents key zone := by
  constructor
  · rintro ⟨x, value, leaf, member, owned, located, unwanted⟩
    obtain ⟨stored, below⟩ := Store.mem_listing.mp member
    obtain ⟨key', zone', lower, resides⟩ := placed x value stored owned below
    obtain ⟨leaf', located'⟩ := Layout.locate?_of_isLower lower resides
    rw [located] at located'
    cases located'
    have normal := Dns.Zone.normalize_normalize resides.isValid
    exact ⟨lower, unwanted, x, resides.normalize, normal, value, stored, owned⟩
  · rintro ⟨lower, unwanted, x, resides, normal, value, stored, owned⟩
    obtain ⟨leaf, located⟩ := Layout.locate?_of_isLower lower resides
    rw [normal] at located
    exact ⟨x, value, leaf, Store.mem_listing.mpr ⟨stored, resides.exists_root⟩, owned, located,
      unwanted⟩

theorem call_of_ok {call : Store.Call} (succeeded : (before.call call).1 = .ok ()) :
    (before.call call).2.memory.contents = call.apply before.memory.contents ∧
      (before.call call).2.memory.calls = (call, true) :: before.memory.calls := by
  unfold Surroundings.call Store.Memory.call at succeeded ⊢
  cases plan : before.memory.fault with
  | none => exact ⟨rfl, rfl⟩
  | some fault =>
    by_cases concerned : fault.concerns call = true
    · cases spared : fault.spared with
      | zero => simp [plan, concerned, spared] at succeeded
      | succ left => simp [concerned, spared]
    · simp [concerned]

theorem exists_sweeps (placed : layout.IsPlaced before.memory.contents)
    (listed : (before.call (.list (layout.root ++ "/"))).1 = .ok ()) :
    ∃ orphans after, before.sweep layout = (.ok orphans.length, after) ∧
      Sweeps layout before orphans after := by
  have called := calls_call (.list (layout.root ++ "/")) before
  obtain ⟨stored, logged⟩ := call_of_ok listed
  have listing : (ExceptT.mk (Procedure.request (.list (layout.root ++ "/")))).run.run answer
      before = (.ok (Store.listing before.memory.contents (layout.root ++ "/")),
        (before.call (.list (layout.root ++ "/"))).2) := by
    change (((before.call (.list (layout.root ++ "/"))).1.map fun _ => Store.listing
      (before.call (.list (layout.root ++ "/"))).2.memory.contents (layout.root ++ "/")), _) = _
    rw [listed, stored]
    rfl
  generalize (before.call (.list (layout.root ++ "/"))).2 = between at *
  obtain ⟨orphans, stale, ran, marks⟩ :=
    exists_marks layout (Store.listing before.memory.contents (layout.root ++ "/")) between
  have marking := run_lift (ε := StoreError)
    (markOrphans layout (Store.listing before.memory.contents (layout.root ++ "/"))) between
  rw [ran] at marking
  refine ⟨orphans.toList, { between.updateStale (fun _ => stale) with
    requested := orphans.toList.reverse ++ before.requested }, ?_, ?_⟩
  · unfold Surroundings.sweep ServiceRecords.sweep
    rw [run_bind_of_ok listing, run_bind_of_ok marking,
      run_bind_of_ok (run_enqueue orphans.toList (between.updateStale fun _ => stale))]
    rw [called.requested.symm, ← Std.ExtTreeSet.length_toList]
    rfl
  · refine ⟨?_, ?_, ?_, ?_, rfl, stored, logged⟩
    · refine Std.ExtTreeSet.distinct_toList.imp ?_
      intro a b apart same
      exact apart (Std.LawfulEqCmp.compare_eq_iff_eq.mpr same)
    · intro key
      rw [Std.ExtTreeSet.mem_toList, marks.orphans, called.observer]
      simp only [blames_listing placed]
    · intro key zone
      change zone ∈ stale.zones key ↔ _
      rw [marks.stale, called.observer]
      simp only [blames_listing placed]
      apply or_congr_right
      constructor
      · rintro ⟨-, written, orphan, rfl⟩
        obtain ⟨x, holds⟩ := orphan.stored
        rw [holds.normal]
        exact orphan
      · intro orphan
        obtain ⟨x, holds⟩ := orphan.stored
        exact ⟨holds.zone_ne_empty, zone, orphan, holds.normal⟩
    · change { between.observer with stale := stale } = { before.observer with stale := stale }
      rw [called.observer]

end Surroundings

end ServiceRecords
