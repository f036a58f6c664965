import ServiceRecords.Proofs.Queue.Orderly
import ServiceRecords.Proofs.Reconcile.Locality
import ServiceRecords.Proofs.Reconcile.Orphans
import ServiceRecords.Proofs.Reconcile.Recovery

set_option autoImplicit false

/-!
# The end of the orphans

Once every orphan is marked, it stays so until it is gone, and no reconciliation makes another one
(`Accounts`). A key that has been reconciled with success has no orphans. So after a sweep and one
success for each of its keys there are none, and the next sweep finds nothing (`sweep_of_placed`).
-/

namespace ServiceRecords.Surroundings

variable {layout : Layout} {before after : Surroundings} {key key' : Key} {zone : String}
  {r : Request} {reply : r.Reply}

/-- Keys are reconciled one after the other, with whatever result. -/
inductive Works (layout : Layout) :
    List (Key × Except ReconcileError Outcome) → Surroundings → Surroundings → Prop
  | nil (surroundings : Surroundings) : Works layout [] surroundings surroundings
  | cons {key : Key} {result : Except ReconcileError Outcome}
      {attempts : List (Key × Except ReconcileError Outcome)}
      {before between after : Surroundings}
      (ends : Ends (ServiceRecords.reconcile layout key).run before result between)
      (works : Works layout attempts between after) :
      Works layout ((key, result) :: attempts) before after

/-- Every orphan is marked. -/
structure Accounts (layout : Layout) (surroundings : Surroundings) : Prop where
  keyed : surroundings.observer.cache.IsKeyed
  isLower : surroundings.observer.cache.IsLower
  placed : layout.IsPlaced surroundings.memory.contents
  marked : ∀ key zone,
    layout.HasOrphan surroundings.observer.cache surroundings.memory.contents key zone →
      zone ∈ surroundings.observer.stale.zones key

namespace Accounts

/-- What a reconciliation writes is not an orphan. -/
theorem wanted {x value : String} (accounts : Accounts layout before)
    (wants : layout.Wants (before.observer.cache.find? key') x value) :
    key'.IsLower ∧ ∃ zone, layout.Resides key' zone x ∧
      wantedZone? (before.observer.cache.find? key') = some (Dns.Zone.normalize zone) := by
  obtain ⟨service, entry, cached, alive, ⟨record, made, named⟩, -⟩ := wants
  obtain rfl := accounts.keyed.tells layout key' service record cached made
  refine ⟨accounts.isLower _ service cached, service.spec.zone,
    Layout.resides_of_record made named, ?_⟩
  rw [cached, wantedZone?_some alive]

/-- No request of a reconciliation makes an orphan. -/
theorem hasOrphan_before (accounts : Accounts layout before)
    (pursues : Pursues layout key' r before) (served : Serves r before reply after)
    (orphan : layout.HasOrphan after.observer.cache after.memory.contents key zone) :
    layout.HasOrphan before.observer.cache before.memory.contents key zone := by
  obtain ⟨lower, unwanted, x, holds⟩ := orphan
  rw [cache_of_serves served] at unwanted
  rcases stored_of_serves served x with same | ⟨value, rfl, -⟩ | ⟨-, gone⟩
  · exact ⟨lower, unwanted, x, holds.congr same.symm⟩
  · -- A place that is written is one of a zone where the service is wanted.
    obtain ⟨lower', zone', resides, wanted⟩ := accounts.wanted (pursues.writes x value rfl)
    obtain rfl := holds.resides.eq_of_isLower lower lower' resides
    rw [wanted, holds.zone_eq resides] at unwanted
    exact absurd rfl unwanted
  · obtain ⟨value, stored, -⟩ := holds.stored
    rw [gone] at stored
    cases stored

theorem step (accounts : Accounts layout before)
    (pursues : Pursues layout key' r before) (served : Serves r before reply after) :
    Accounts layout after where
  keyed := by
    rw [cache_of_serves served]
    exact accounts.keyed
  isLower := by
    rw [cache_of_serves served]
    exact accounts.isLower
  placed := by
    intro x value stored owned below
    rcases stored_of_serves served x with same | ⟨_, rfl, -⟩ | ⟨-, gone⟩
    · exact accounts.placed x value (same ▸ stored) owned below
    · obtain ⟨lower, zone, resides, -⟩ := accounts.wanted (pursues.writes x _ rfl)
      exact ⟨key', zone, lower, resides⟩
    · rw [gone] at stored
      cases stored
  marked := by
    intro key zone orphan
    have earlier := accounts.hasOrphan_before pursues served orphan
    -- The orphan was marked before; if the mark is gone now, then because the zone is clean.
    by_contra unmarked
    obtain ⟨rfl, clean⟩ :=
      pursues.isClean_of_unmarked served (accounts.marked key zone earlier) unmarked
    obtain ⟨x, holds⟩ := orphan.stored
    obtain ⟨value, stored, owned⟩ := holds.stored
    rw [clean x value holds.resides stored] at owned
    cases owned

/-- All through a reconciliation the orphans are marked, and they do not become more. -/
theorem proceeds {procedure : Procedure (Except ReconcileError Outcome)}
    (accounts : Accounts layout before)
    (proceeds : Relation.ReflTransGen Proceeds ((ServiceRecords.reconcile layout key').run, before)
      (procedure, after)) :
    Accounts layout after ∧ ∀ key zone,
      layout.HasOrphan after.observer.cache after.memory.contents key zone →
      layout.HasOrphan before.observer.cache before.memory.contents key zone := by
  generalize finish : (procedure, after) = last at proceeds
  induction proceeds generalizing procedure after with
  | refl =>
    cases finish
    exact ⟨accounts, fun _ _ orphan => orphan⟩
  | tail chain step ih =>
    cases step with
    | serve served =>
      cases finish
      obtain ⟨accounts, fewer⟩ := ih rfl
      have pursues := pursues_of_proceeds chain
      refine ⟨accounts.step pursues served, fun key zone orphan => fewer key zone ?_⟩
      exact accounts.hasOrphan_before pursues served orphan

/-- A key that has been reconciled has no orphans. -/
theorem not_hasOrphan {outcome : Outcome} (accounts : Accounts layout before)
    (ends : Ends (ServiceRecords.reconcile layout key).run before (.ok outcome) after) :
    ¬layout.HasOrphan after.observer.cache after.memory.contents key zone := by
  intro orphan
  have marked := (accounts.proceeds ends).1.marked key zone orphan
  have unwanted : zone ∈ after.unwanted key := by
    refine List.mem_filter.mpr ⟨marked, ?_⟩
    simpa using orphan.unwanted
  rw [(isDone_of_ends ends).unwanted] at unwanted
  cases unwanted

theorem works {attempts : List (Key × Except ReconcileError Outcome)}
    (works : Works layout attempts before after) (accounts : Accounts layout before) :
    Accounts layout after ∧ ∀ key zone,
      layout.HasOrphan after.observer.cache after.memory.contents key zone →
      layout.HasOrphan before.observer.cache before.memory.contents key zone ∧
        ∀ outcome, (key, .ok outcome) ∉ attempts := by
  induction works with
  | nil => exact ⟨accounts, fun _ _ orphan => ⟨orphan, fun _ => List.not_mem_nil⟩⟩
  | cons ends works ih =>
    obtain ⟨between, fewer⟩ := accounts.proceeds ends
    obtain ⟨final, later⟩ := ih between
    refine ⟨final, fun key zone orphan => ?_⟩
    obtain ⟨orphan, missing⟩ := later key zone orphan
    refine ⟨fewer key zone orphan, fun outcome member => ?_⟩
    rcases List.mem_cons.mp member with same | member
    · cases same
      exact accounts.not_hasOrphan ends orphan
    · exact missing outcome member

end Accounts

theorem Sweeps.accounts {orphans : List Key} (sweeps : Sweeps layout before orphans after)
    (keyed : before.observer.cache.IsKeyed)
    (isLower : before.observer.cache.IsLower)
    (placed : layout.IsPlaced before.memory.contents) : Accounts layout after := by
  have cache : after.observer.cache = before.observer.cache := by rw [sweeps.observer]
  refine ⟨?_, ?_, ?_, ?_⟩
  · rw [cache]
    exact keyed
  · rw [cache]
    exact isLower
  · rw [sweeps.contents]
    exact placed
  · intro key zone orphan
    rw [cache, sweeps.contents] at orphan
    exact (sweeps.stale key zone).mpr (.inr orphan)

theorem sweep_of_placed (keyed : before.observer.cache.IsKeyed)
    (isLower : before.observer.cache.IsLower)
    (placed : layout.IsPlaced before.memory.contents)
    (listed : (before.call (.list (layout.root ++ "/"))).1 = .ok ()) :
    ∃ orphans swept, before.sweep layout = (.ok orphans.length, swept) ∧
      Sweeps layout before orphans swept ∧
      (∀ (queue : WorkQueue Key) now, queue.isShutDown = false → ∀ key,
        key ∈ (orphans.foldl (·.add now ·) queue).dirty ↔ key ∈ queue.dirty ∨ key ∈ orphans) ∧
      ∀ attempts final, Works layout attempts swept final →
        (∀ key ∈ orphans, ∃ outcome, (key, .ok outcome) ∈ attempts) →
        (∀ key zone,
          ¬layout.HasOrphan final.observer.cache final.memory.contents key zone) ∧
        ((final.call (.list (layout.root ++ "/"))).1 = .ok () →
          (final.sweep layout).1 = .ok 0) := by
  obtain ⟨orphans, swept, ran, sweeps⟩ := exists_sweeps placed listed
  refine ⟨orphans, swept, ran, sweeps, fun queue now running key =>
    WorkQueue.mem_dirty_foldl_add running _, ?_⟩
  intro attempts final works succeeded
  have accounts := sweeps.accounts keyed isLower placed
  obtain ⟨accounts', fewer⟩ := accounts.works works
  have none : ∀ key zone,
      ¬layout.HasOrphan final.observer.cache final.memory.contents key zone := by
    intro key zone orphan
    obtain ⟨earlier, missing⟩ := fewer key zone orphan
    have cache : swept.observer.cache = before.observer.cache := by rw [sweeps.observer]
    rw [cache, sweeps.contents] at earlier
    obtain ⟨outcome, member⟩ := succeeded key ((sweeps.mem_iff key).mpr ⟨zone, earlier⟩)
    exact missing outcome member
  refine ⟨none, fun listed => ?_⟩
  obtain ⟨again, later, ran, sweeps⟩ := exists_sweeps accounts'.placed listed
  have empty : again = [] := by
    rw [List.eq_nil_iff_forall_not_mem]
    intro key member
    obtain ⟨zone, orphan⟩ := (sweeps.mem_iff key).mp member
    exact none key zone orphan
  rw [ran, empty]
  rfl

/-- A service that has moved from the zone `z1` to `z2`. -/
def movedService : Service where
  metadata := { name := some "a", ns := some "svc" }
  spec := { zone := "z2", endpoints := [⟨"e", "10.0.0.1", 9000, .grpc⟩] }

/-- Entries are left of the service that has moved and of another one that has gone, and there is a
value that is nobody's. -/
def leftBehind : Surroundings :=
  let left : Entry := { host := "10.0.0.1", port := 9000, owner := some "rpc-controller" }
  { observer := { cache := ⟨Std.ExtTreeMap.insert ∅ ⟨"svc", "a"⟩ movedService, ∅⟩ }
    memory := { contents := (((∅ : Store.Contents).insert "/skydns/z1/svc/a/e" left.text).insert
      "/skydns/z1/svc/b/e" left.text).insert "/skydns/note" "foreign" } }

theorem isKeyed_leftBehind : leftBehind.observer.cache.IsKeyed :=
  have inserted : Cache.empty.insert? movedService = some leftBehind.observer.cache := rfl
  Cache.isKeyed_empty.insert? inserted

theorem isLower_leftBehind : leftBehind.observer.cache.IsLower := by
  intro key service found
  have moved : service = movedService := by
    simp only [leftBehind, Cache.find?, Std.ExtTreeMap.getElem?_insert] at found
    split at found
    · exact (Option.some.inj found).symm
    · simp at found
  rw [moved]
  decide +kernel

theorem isPlaced_leftBehind : Layout.IsPlaced {} leftBehind.memory.contents := by
  have foreign : Layout.owns {} "foreign" = false := by decide +kernel
  refine ((Layout.isPlaced_empty.insert fun _ => ⟨⟨"svc", "a"⟩, "z1", ?_⟩).insert
    fun _ => ⟨⟨"svc", "b"⟩, "z1", ?_⟩).insert fun owned => absurd owned (by simp [foreign])
  · decide +kernel
  · decide +kernel

/-- The two keys that are announced are reconciled, and there is nothing left for another sweep. -/
theorem sweep_of_placed_leftBehind : ∃ swept final,
    leftBehind.sweep {} = (.ok 2, swept) ∧
    Works {} [(⟨"svc", "a"⟩, .ok .created), (⟨"svc", "b"⟩, .ok .deleted)] swept final ∧
    (final.sweep {}).1 = .ok 0 ∧
    final.memory.contents.toList.map Prod.fst = ["/skydns/note", "/skydns/z2/svc/a/e"] := by
  obtain ⟨orphans, swept, ran, sweeps, -, clears⟩ :=
    sweep_of_placed isKeyed_leftBehind isLower_leftBehind isPlaced_leftBehind rfl
  obtain rfl : (leftBehind.sweep {}).2 = swept := by rw [ran]
  have found : orphans = [⟨"svc", "a"⟩, ⟨"svc", "b"⟩] := by
    have requested : (leftBehind.sweep {}).2.requested = [⟨"svc", "b"⟩, ⟨"svc", "a"⟩] := by
      decide +kernel
    rw [sweeps.requested] at requested
    simpa [leftBehind] using congrArg List.reverse requested
  subst found
  have first : ((leftBehind.sweep {}).2.reconcile {} ⟨"svc", "a"⟩).1.toOption = some .created := by
    decide +kernel
  have second : (((leftBehind.sweep {}).2.reconcile {} ⟨"svc", "a"⟩).2.reconcile {}
      ⟨"svc", "b"⟩).1.toOption = some .deleted := by
    decide +kernel
  have works := Works.cons (ends_of_toOption first) (.cons (ends_of_toOption second) (.nil _))
  refine ⟨_, _, ran, works, ?_, by decide +kernel⟩
  exact (clears _ _ works (by simp)).2 (by decide +kernel)

end ServiceRecords.Surroundings
