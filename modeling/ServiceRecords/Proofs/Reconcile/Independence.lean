import ServiceRecords.Proofs.Reconcile.Attempts
import ServiceRecords.Proofs.Reconcile.Locality

set_option autoImplicit false

/-!
# Independence of services

Two keys in lower case share no place, even where the directory of one lies below the directory of
the other. So two reconciliations that take turns (`Alternates`) do not notice each other: each of
them goes on as it would have done alone, and together they leave what they leave one after the
other, in either order (`endsLike_of_alternates`).
-/

namespace ServiceRecords

/-- Only the entries of a directory itself matter for its listing. -/
theorem Store.listingIn_congr {contents contents' : Contents} {directory : String}
    (same : ∀ x : String, isDirectlyBelow directory x = true → contents[x]? = contents'[x]?) :
    listingIn contents directory = listingIn contents' directory := by
  have filtered : ∀ contents : Contents, listingIn contents directory =
      (contents.filter fun x _ => isDirectlyBelow directory x &&
        (Text.after? (directory ++ "/") x).isSome).toList := by
    intro contents
    rw [Std.ExtTreeMap.toList_filter, listingIn, listing, List.filter_filter]
  rw [filtered, filtered]
  congr 1
  apply Std.ExtTreeMap.ext_getElem?
  intro x
  rw [Std.ExtTreeMap.getElem?_filter', Std.ExtTreeMap.getElem?_filter']
  by_cases below : isDirectlyBelow directory x = true
  · rw [same x below]
  · simp [below]

theorem StaleZones.ext_zones {stale stale' : StaleZones}
    (same : ∀ key, stale.zones key = stale'.zones key) : stale = stale' := by
  have marks : stale.marks = stale'.marks := by
    apply Std.ExtTreeSet.ext_mem
    rintro ⟨key, zone⟩
    rw [← mem_zones, ← mem_zones, same key]
  cases stale
  cases stale'
  exact congrArg StaleZones.mk marks

namespace Surroundings

variable {α β : Type} {layout : Layout} {key other : Key} {before after start : Surroundings}
  {r : Request}

/-- All that a key has to do with is the same. -/
structure Agrees (layout : Layout) (key : Key) (before after : Surroundings) : Prop where
  cached : after.observer.cache.find? key = before.observer.cache.find? key
  stale : after.observer.stale.zones key = before.observer.stale.zones key
  stored : ∀ zone x, layout.Resides key zone x →
    after.memory.contents[x]? = before.memory.contents[x]?

/-- Nothing has changed but what belongs to the key. -/
structure Differs (layout : Layout) (key : Key) (before after : Surroundings) : Prop where
  observer : after.observer = { before.observer with stale := after.observer.stale }
  stale : ∀ other, other ≠ key →
    after.observer.stale.zones other = before.observer.stale.zones other
  stored : ∀ x, (∀ zone, ¬layout.Resides key zone x) →
    after.memory.contents[x]? = before.memory.contents[x]?

theorem differs_of_serves {reply : r.Reply} (own : r.IsOwn layout key)
    (served : Serves r before reply after) : Differs layout key before after where
  observer := by
    rcases observer_of_serves served with same | ⟨_, _, -, rfl⟩ | ⟨_, _, rfl, -⟩
    · rw [same]
    · rfl
    · exact own.elim
  stale other different := by
    rcases observer_of_serves served with same | ⟨_, zones, rfl, rfl⟩ | ⟨_, _, rfl, -⟩
    · rw [same]
    · cases own
      exact StaleZones.zones_clear_of_ne _ zones different
    · exact own.elim
  stored x foreign := by
    rcases stored_of_serves served x with same | ⟨value, rfl, -⟩ | ⟨rfl, -⟩
    · exact same
    · obtain ⟨zone, resides⟩ := own
      exact absurd resides (foreign zone)
    · obtain ⟨zone, resides⟩ := own
      exact absurd resides (foreign zone)

/-- What one key asks for is nothing to another. -/
theorem Differs.agrees (differs : Differs layout key before after) (lower : key.IsLower)
    (lower' : other.IsLower) (different : other ≠ key) : Agrees layout other before after where
  cached := by rw [differs.observer]
  stale := differs.stale other different
  stored zone x resides := differs.stored x fun zone' resides' =>
    different (resides.eq_of_isLower lower' lower resides')

/-- Where all is the same for the key, it is answered alike, and all stays the same. -/
theorem Agrees.answer (agrees : Agrees layout key before after)
    (flawless : before.memory.fault = none) (flawless' : after.memory.fault = none)
    (own : r.IsOwn layout key) :
    r.Alike (answer r after).1 (answer r before).1 ∧
      Agrees layout key (answer r before).2 (answer r after).2 := by
  cases r with
  | readService _ =>
    cases own
    exact ⟨agrees.cached, agrees⟩
  | readStale _ =>
    cases own
    exact ⟨agrees.stale, agrees⟩
  | markStale _ _ => exact own.elim
  | enqueue _ => exact own.elim
  | clearStale _ zones =>
    cases own
    refine ⟨rfl, agrees.cached, ?_, agrees.stored⟩
    have cleared := StaleZones.zones_clear after.observer.stale key zones
    rw [agrees.stale, ← StaleZones.zones_clear] at cleared
    exact cleared
  | list start =>
    obtain ⟨zone, directory, found, rfl⟩ := own
    simp only [Surroundings.answer, call_of_flawless flawless, call_of_flawless flawless']
    refine ⟨?_, agrees.cached, agrees.stale, agrees.stored⟩
    intro directory' same
    obtain rfl : directory = directory' := by simpa using same
    have listed := Store.listingIn_congr fun x below => agrees.stored zone x ⟨_, found, below⟩
    exact congrArg Except.ok listed
  | put x value =>
    simp only [Surroundings.answer, call_of_flawless flawless, call_of_flawless flawless']
    refine ⟨rfl, agrees.cached, agrees.stale, fun zone y resides => ?_⟩
    change (after.memory.contents.insert x value)[y]? = (before.memory.contents.insert x value)[y]?
    rw [Store.getElem?_insert, Store.getElem?_insert, agrees.stored zone y resides]
  | delete x =>
    simp only [Surroundings.answer, call_of_flawless flawless, call_of_flawless flawless']
    refine ⟨rfl, agrees.cached, agrees.stale, fun zone y resides => ?_⟩
    change (after.memory.contents.erase x)[y]? = (before.memory.contents.erase x)[y]?
    rw [Store.getElem?_erase, Store.getElem?_erase, agrees.stored zone y resides]

theorem tells_answer (keyed : before.observer.cache.IsKeyed) (own : r.IsOwn layout key) :
    r.Tells layout key (answer r before).1 := by
  cases r with
  | readService _ =>
    cases own
    exact keyed.tells layout key
  | _ => trivial

/-- One of two procedures makes its next request. -/
inductive Alternates :
    Procedure α × Procedure β × Surroundings → Procedure α × Procedure β × Surroundings → Prop
  | first {r : Request} (resume : r.Reply → Procedure α) (other : Procedure β)
      (before : Surroundings) :
      Alternates (.ask r resume, other, before)
        (resume (answer r before).1, other, (answer r before).2)
  | second {r : Request} (resume : r.Reply → Procedure β) (other : Procedure α)
      (before : Surroundings) :
      Alternates (other, .ask r resume, before)
        (other, resume (answer r before).1, (answer r before).2)

theorem alternates_run_first (procedure : Procedure α) (other : Procedure β)
    (start : Surroundings) :
    Relation.ReflTransGen Alternates (procedure, other, start)
      (.done (procedure.run answer start).1, other, (procedure.run answer start).2) := by
  induction procedure generalizing start with
  | done result => exact .refl
  | ask r resume ih => exact .head (.first resume other start) (ih _ _)

theorem alternates_run_second (procedure : Procedure β) (other : Procedure α)
    (start : Surroundings) :
    Relation.ReflTransGen Alternates (other, procedure, start)
      (other, .done (procedure.run answer start).1, (procedure.run answer start).2) := by
  induction procedure generalizing start with
  | done result => exact .refl
  | ask r resume ih => exact .head (.second resume other start) (ih _ _)

/-- From here, the procedure goes on as one that was begun at the start and never disturbed. -/
structure GoesOn (layout : Layout) (key : Key) (begun : Procedure α) (start : Surroundings)
    (procedure : Procedure α) (now : Surroundings) : Prop where
  isLocal : procedure.IsLocal layout key fun _ => True
  alone : ∃ alone, alone.memory.fault = none ∧ Agrees layout key alone now ∧
    begun.run answer start = procedure.run answer alone

variable {begun procedure : Procedure α} {begun' procedure' : Procedure β} {now : Surroundings}

theorem GoesOn.own {resume : r.Reply → Procedure α}
    (goesOn : GoesOn layout key begun start (.ask r resume) now)
    (flawless : now.memory.fault = none) (keyed : now.observer.cache.IsKeyed) :
    GoesOn layout key begun start (resume (answer r now).1) (answer r now).2 := by
  obtain ⟨⟨own, blind, rest⟩, alone, flawless', agrees, same⟩ := goesOn
  -- The replies may differ in entries of other keys, which the procedure is blind to.
  obtain ⟨alike, agrees⟩ := agrees.answer flawless' flawless own
  refine ⟨rest _ (tells_answer keyed own), (answer r alone).2, flawless_answer flawless' r, agrees,
    ?_⟩
  rw [same, blind _ _ alike]
  rfl

theorem GoesOn.foreign {after : Surroundings} (goesOn : GoesOn layout key begun start procedure now)
    (differs : Differs layout other now after) (lower : key.IsLower) (lower' : other.IsLower)
    (different : key ≠ other) : GoesOn layout key begun start procedure after := by
  obtain ⟨isLocal, alone, flawless, agrees, same⟩ := goesOn
  have next := differs.agrees lower' lower different
  refine ⟨isLocal, alone, flawless, ⟨?_, ?_, ?_⟩, same⟩
  · rw [next.cached, agrees.cached]
  · rw [next.stale, agrees.stale]
  · intro zone x resides
    rw [next.stored zone x resides, agrees.stored zone x resides]

/-- What two procedures that take turns have come to. -/
structure Apart (layout : Layout) (key other : Key) (begun : Procedure α) (begun' : Procedure β)
    (start : Surroundings) (procedure : Procedure α) (procedure' : Procedure β)
    (now : Surroundings) : Prop where
  first : GoesOn layout key begun start procedure now
  second : GoesOn layout other begun' start procedure' now
  flawless : now.memory.fault = none
  observer : now.observer = { start.observer with stale := now.observer.stale }
  stale : ∀ third, third ≠ key → third ≠ other →
    now.observer.stale.zones third = start.observer.stale.zones third
  stored : ∀ x, (∀ zone, ¬layout.Resides key zone x) → (∀ zone, ¬layout.Resides other zone x) →
    now.memory.contents[x]? = start.memory.contents[x]?

theorem apart_start (isLocal : begun.IsLocal layout key fun _ => True)
    (isLocal' : begun'.IsLocal layout other fun _ => True) (flawless : start.memory.fault = none) :
    Apart layout key other begun begun' start begun begun' start where
  first := ⟨isLocal, start, flawless, ⟨rfl, rfl, fun _ _ _ => rfl⟩, rfl⟩
  second := ⟨isLocal', start, flawless, ⟨rfl, rfl, fun _ _ _ => rfl⟩, rfl⟩
  flawless := flawless
  observer := rfl
  stale _ _ _ := rfl
  stored _ _ _ := rfl

namespace Apart

variable {now' : Surroundings}

theorem swap (apart : Apart layout key other begun begun' start procedure procedure' now) :
    Apart layout other key begun' begun start procedure' procedure now where
  first := apart.second
  second := apart.first
  flawless := apart.flawless
  observer := apart.observer
  stale third different different' := apart.stale third different' different
  stored x foreign foreign' := apart.stored x foreign' foreign

theorem keyed (apart : Apart layout key other begun begun' start procedure procedure' now)
    (keyed : start.observer.cache.IsKeyed) : now.observer.cache.IsKeyed := by
  rw [apart.observer]
  exact keyed

theorem next {resume : r.Reply → Procedure α}
    (apart : Apart layout key other begun begun' start (.ask r resume) procedure' now)
    (lower : key.IsLower) (lower' : other.IsLower) (different : key ≠ other)
    (keyed : start.observer.cache.IsKeyed) :
    Apart layout key other begun begun' start (resume (answer r now).1) procedure'
      (answer r now).2 := by
  have differs := differs_of_serves apart.first.isLocal.1 (serves_answer r now)
  refine ⟨apart.first.own apart.flawless (apart.keyed keyed),
    apart.second.foreign differs lower' lower different.symm, flawless_answer apart.flawless r,
    ?_, ?_, ?_⟩
  · rw [differs.observer, apart.observer]
  · intro third first second
    rw [differs.stale third first, apart.stale third first second]
  · intro x first second
    rw [differs.stored x first, apart.stored x first second]

/-- The first procedure has ended as it would have done alone. -/
theorem ended {result : α}
    (apart : Apart layout key other begun begun' start (.done result) procedure' now) :
    result = (begun.run answer start).1 ∧
      Agrees layout key (begun.run answer start).2 now := by
  obtain ⟨-, alone, -, agrees, same⟩ := apart.first
  rw [same]
  exact ⟨rfl, agrees⟩

/-- However the procedures have taken turns, they end alike. -/
theorem unique {result again : α} {result' again' : β}
    (apart : Apart layout key other begun begun' start (.done result) (.done result') now)
    (apart' : Apart layout key other begun begun' start (.done again) (.done again') now') :
    result = again ∧ result' = again' ∧ now.observer = now'.observer ∧
      now.memory.contents = now'.memory.contents := by
  obtain ⟨rfl, agrees⟩ := apart.ended
  obtain ⟨rfl, agrees'⟩ := apart'.ended
  obtain ⟨rfl, other_agrees⟩ := apart.swap.ended
  obtain ⟨rfl, other_agrees'⟩ := apart'.swap.ended
  have stale : now.observer.stale = now'.observer.stale := by
    apply StaleZones.ext_zones
    intro third
    by_cases first : third = key
    · rw [first, agrees.stale, agrees'.stale]
    by_cases second : third = other
    · rw [second, other_agrees.stale, other_agrees'.stale]
    · rw [apart.stale third first second, apart'.stale third first second]
  refine ⟨rfl, rfl, ?_, ?_⟩
  · rw [apart.observer, apart'.observer, stale]
  · apply Std.ExtTreeMap.ext_getElem?
    intro x
    -- A place of neither key has not been touched by either of the procedures.
    by_cases first : ∃ zone, layout.Resides key zone x
    · obtain ⟨zone, resides⟩ := first
      rw [agrees.stored zone x resides, agrees'.stored zone x resides]
    by_cases second : ∃ zone, layout.Resides other zone x
    · obtain ⟨zone, resides⟩ := second
      rw [other_agrees.stored zone x resides, other_agrees'.stored zone x resides]
    · rw [not_exists] at first second
      rw [apart.stored x first second, apart'.stored x first second]

end Apart

theorem apart_of_alternates (lower : key.IsLower) (lower' : other.IsLower)
    (different : key ≠ other) (keyed : start.observer.cache.IsKeyed)
    (flawless : start.memory.fault = none) (isLocal : begun.IsLocal layout key fun _ => True)
    (isLocal' : begun'.IsLocal layout other fun _ => True)
    (turns : Relation.ReflTransGen Alternates (begun, begun', start) (procedure, procedure', now)) :
    Apart layout key other begun begun' start procedure procedure' now := by
  generalize finish : (procedure, procedure', now) = last at turns
  induction turns generalizing procedure procedure' now with
  | refl =>
    cases finish
    exact apart_start isLocal isLocal' flawless
  | tail _ turn ih =>
    cases turn with
    | first resume waiting before =>
      cases finish
      exact (ih rfl).next lower lower' different keyed
    | second resume waiting before =>
      cases finish
      exact ((ih rfl).swap.next lower' lower different.symm keyed).swap

/-- One procedure after the other is a way of taking turns, too. -/
theorem eq_of_apart (isLocal : begun.IsLocal layout key fun _ => True)
    (isLocal' : begun'.IsLocal layout other fun _ => True) (flawless : start.memory.fault = none)
    (lower : key.IsLower) (lower' : other.IsLower) (different : key ≠ other)
    (keyed : start.observer.cache.IsKeyed) {result : α} {result' : β}
    (apart : Apart layout key other begun begun' start (.done result) (.done result') now) :
    result = (begun.run answer start).1 ∧
      result' = (begun'.run answer (begun.run answer start).2).1 ∧
      now.observer = (begun'.run answer (begun.run answer start).2).2.observer ∧
      now.memory.contents =
        (begun'.run answer (begun.run answer start).2).2.memory.contents := by
  have inOrder := (alternates_run_first begun begun' start).trans
    (alternates_run_second begun' (.done (begun.run answer start).1) (begun.run answer start).2)
  exact apart.unique
    (apart_of_alternates lower lower' different keyed flawless isLocal isLocal' inOrder)

/-- The next request of the procedure writes no entry of the key, and nothing that follows depends
on what those entries are. -/
structure Ignores (layout : Layout) (other : Key) (procedure : Procedure α)
    (now : Surroundings) : Prop where
  writes : ∀ r resume, procedure = .ask r resume → ∀ zone x, layout.Resides other zone x →
    (answer r now).2.memory.contents[x]? = now.memory.contents[x]?
  reads : ∀ r resume, procedure = .ask r resume → ∀ contents : Store.Contents,
    (∀ x, (∀ zone, ¬layout.Resides other zone x) → contents[x]? = now.memory.contents[x]?) →
    resume (answer r { now with memory := { now.memory with contents } }).1 =
      resume (answer r now).1

theorem Apart.ignores
    (apart : Apart layout key other begun begun' start procedure procedure' now)
    (lower : key.IsLower) (lower' : other.IsLower) (different : key ≠ other) :
    Ignores layout other procedure now where
  writes := by
    rintro r resume rfl zone x resides
    have differs := differs_of_serves apart.first.isLocal.1 (serves_answer r now)
    exact (differs.agrees lower lower' different.symm).stored zone x resides
  reads := by
    rintro r resume rfl contents same
    obtain ⟨own, blind, -⟩ := apart.first.isLocal
    have agrees : Agrees layout key now { now with memory := { now.memory with contents } } := by
      refine ⟨rfl, rfl, fun zone x resides => same x fun zone' resides' => ?_⟩
      exact different (resides.eq_of_isLower lower lower' resides')
    exact blind _ _ (agrees.answer apart.flawless apart.flawless own).1

/-- The results and the surroundings are those of one reconciliation after the other. -/
structure EndsLike (layout : Layout) (key next : Key) (start : Surroundings)
    (result result' : Except ReconcileError Outcome) (final : Surroundings) : Prop where
  first : result = (start.reconcile layout key).1
  second : result' = ((start.reconcile layout key).2.reconcile layout next).1
  observer : final.observer =
    ((start.reconcile layout key).2.reconcile layout next).2.observer
  contents : final.memory.contents =
    ((start.reconcile layout key).2.reconcile layout next).2.memory.contents

theorem endsLike_of_alternates (lower : key.IsLower) (lower' : other.IsLower)
    (different : key ≠ other) (keyed : start.observer.cache.IsKeyed)
    (flawless : start.memory.fault = none) :
    (∀ result result' final,
      Relation.ReflTransGen Alternates ((ServiceRecords.reconcile layout key).run,
        (ServiceRecords.reconcile layout other).run, start) (.done result, .done result', final) →
      EndsLike layout key other start result result' final ∧
        EndsLike layout other key start result' result final) ∧
    ∀ procedure procedure' now,
      Relation.ReflTransGen Alternates ((ServiceRecords.reconcile layout key).run,
        (ServiceRecords.reconcile layout other).run, start) (procedure, procedure', now) →
      Ignores layout other procedure now ∧ Ignores layout key procedure' now := by
  have isLocal : ∀ key, (ServiceRecords.reconcile layout key).run.IsLocal layout key
      fun _ => True := fun key => (isLocal_reconcile layout key).run.mono fun _ _ => trivial
  have apart : ∀ {procedure procedure' now},
      Relation.ReflTransGen Alternates ((ServiceRecords.reconcile layout key).run,
        (ServiceRecords.reconcile layout other).run, start) (procedure, procedure', now) →
      Apart layout key other (ServiceRecords.reconcile layout key).run
        (ServiceRecords.reconcile layout other).run start procedure procedure' now :=
    apart_of_alternates lower lower' different keyed flawless (isLocal key) (isLocal other)
  have ran : ∀ key (start : Surroundings),
      (ServiceRecords.reconcile layout key).run.run answer start = start.reconcile layout key :=
    fun _ _ => rfl
  constructor
  · intro result result' final turns
    have ended := apart turns
    have inOrder := eq_of_apart (isLocal key) (isLocal other) flawless lower lower' different keyed
      ended
    have inReverse := eq_of_apart (isLocal other) (isLocal key) flawless lower' lower
      different.symm keyed ended.swap
    simp only [ran] at inOrder inReverse
    obtain ⟨first, second, observer, contents⟩ := inOrder
    obtain ⟨first', second', observer', contents'⟩ := inReverse
    exact ⟨⟨first, second, observer, contents⟩, ⟨first', second', observer', contents'⟩⟩
  · intro procedure procedure' now turns
    exact ⟨(apart turns).ignores lower lower' different,
      (apart turns).swap.ignores lower' lower different.symm⟩

def sampleService (ns name zone endpoint : String) : Service where
  metadata := { name := some name, ns := some ns }
  spec := { zone, endpoints := [⟨endpoint, "10.0.0.1", 9000, .grpc⟩] }

/-- An entry of one service has the name of the directory of the other. -/
def nestedCache : Cache where
  namespaced := (Std.ExtTreeMap.insert ∅ ⟨"svc", "a"⟩ (sampleService "svc" "a" "x" "b")).insert
    ⟨"a", "b"⟩ (sampleService "a" "b" "svc.x" "c")
  unscoped := ∅

theorem isKeyed_nestedCache : nestedCache.IsKeyed :=
  have inserted : Cache.empty.insert? (sampleService "svc" "a" "x" "b") =
    some ⟨Std.ExtTreeMap.insert ∅ ⟨"svc", "a"⟩ (sampleService "svc" "a" "x" "b"), ∅⟩ := rfl
  have inserted' : Cache.insert? _ (sampleService "a" "b" "svc.x" "c") = some nestedCache := rfl
  (Cache.isKeyed_empty.insert? inserted).insert? inserted'

/-- The second service is reconciled between the requests of the first one. -/
theorem endsLike_of_alternates_nested : ∃ result result' final,
    Relation.ReflTransGen Alternates
      ((ServiceRecords.reconcile {} ⟨"svc", "a"⟩).run,
        (ServiceRecords.reconcile {} ⟨"a", "b"⟩).run, { observer := { cache := nestedCache } })
      (.done result, .done result', final) ∧
    EndsLike {} ⟨"svc", "a"⟩ ⟨"a", "b"⟩ { observer := { cache := nestedCache } } result result'
      final ∧
    final.memory.contents.contains "/skydns/x/svc/a/b" = true ∧
    final.memory.contents.contains "/skydns/x/svc/a/b/c" = true := by
  have turns : ∃ result result' final, Relation.ReflTransGen Alternates
      ((ServiceRecords.reconcile {} ⟨"svc", "a"⟩).run,
        (ServiceRecords.reconcile {} ⟨"a", "b"⟩).run, { observer := { cache := nestedCache } })
      (.done result, .done result', final) :=
    ⟨_, _, _, .head (.first _ _ _) (.head (.first _ _ _)
      ((alternates_run_second _ _ _).trans (alternates_run_first _ _ _)))⟩
  obtain ⟨result, result', final, turns⟩ := turns
  have lower : Key.IsLower ⟨"svc", "a"⟩ := by decide +kernel
  have lower' : Key.IsLower ⟨"a", "b"⟩ := by decide +kernel
  have ends := ((endsLike_of_alternates lower lower' (by decide) isKeyed_nestedCache rfl).1 _ _ _
    turns).1
  refine ⟨result, result', final, turns, ends, ?_, ?_⟩
  · rw [ends.contents]
    decide +kernel
  · rw [ends.contents]
    decide +kernel

end Surroundings

end ServiceRecords
