import ServiceRecords.Proofs.Reconcile.Effect

set_option autoImplicit false

/-!
# Recovery from attempts that failed

However many attempts to reconcile a key have been broken off, and wherever, the attempt that
succeeds in the end leaves the marks and the entries that a single attempt would have left
(`final_eq_of_failures`). Where no call fails, an attempt does succeed (`exists_reconcile`), and in
no attempt does a mark disappear too early (`forgetsOnlyClean`).
-/

namespace ServiceRecords

namespace Surroundings

variable {α β ε : Type} {layout : Layout} {key : Key} {copy : Option Service}
  {attempt : ExceptT ε Procedure α} {start failed final : Surroundings} {outcome : Outcome}

/-- The surroundings with another plan of what fails next. -/
def planning (surroundings : Surroundings) (fault : Option Store.Fault) : Surroundings :=
  { surroundings with memory := { surroundings.memory with fault } }

/-- Nothing is going to fail, and the key has the cached service `copy`. -/
structure Offers (key : Key) (copy : Option Service) (surroundings : Surroundings) : Prop where
  flawless : surroundings.memory.fault = none
  copied : surroundings.observer.cache.find? key = copy

theorem Offers.answer (offers : Offers key copy start) (r : Request) :
    Offers key copy (answer r start).2 where
  flawless := flawless_answer offers.flawless r
  copied := by
    rw [cache_of_serves (serves_answer r start)]
    exact offers.copied

/-- Whenever nothing is going to fail, the attempt does not fail. -/
def Completes (key : Key) (copy : Option Service) (attempt : ExceptT ε Procedure α) : Prop :=
  ∀ start, Offers key copy start → ∃ a final,
    attempt.run.run answer start = (.ok a, final) ∧ Offers key copy final

namespace Completes

theorem pure (a : α) : Completes key copy (Pure.pure a : ExceptT ε Procedure α) :=
  fun start offers => ⟨a, start, rfl, offers⟩

theorem bind {next : α → ExceptT ε Procedure β} (completes : Completes key copy attempt)
    (following : ∀ a, Completes key copy (next a)) : Completes key copy (attempt >>= next) := by
  intro start offers
  obtain ⟨a, between, ran, offers⟩ := completes start offers
  obtain ⟨b, final, ended, offers⟩ := following a between offers
  exact ⟨b, final, (run_bind_of_ok ran).trans ended, offers⟩

theorem forM {items : List β} {attempt : β → ExceptT ε Procedure PUnit}
    (each : ∀ item, Completes key copy (attempt item)) :
    Completes key copy (items.forM attempt) := by
  induction items with
  | nil => exact pure _
  | cons item rest ih => exact (each item).bind fun _ => ih

theorem ask (r : Request) : Completes key copy (Attempt.ask r) :=
  fun start offers => ⟨(answer r start).1, (answer r start).2, rfl, offers.answer r⟩

theorem request {r : Request} (read : r.Reply → Except ε α)
    (answered : ∀ start, Offers key copy start → ∃ a, read (answer r start).1 = .ok a) :
    Completes key copy
      (ExceptT.mk ((Procedure.request r).bind fun reply => .done (read reply))) := by
  intro start offers
  obtain ⟨a, succeeded⟩ := answered start offers
  exact ⟨a, (answer r start).2, Prod.ext succeeded rfl, offers.answer r⟩

theorem put (x value : String) : Completes key copy (Attempt.put x value) := by
  apply request
  intro start offers
  change ∃ a, (start.call (.put x value)).1.mapError _ = .ok a
  rw [call_of_flawless offers.flawless]
  exact ⟨(), rfl⟩

theorem delete (x : String) : Completes key copy (Attempt.delete x) := by
  apply request
  intro start offers
  change ∃ a, (start.call (.delete x)).1.mapError _ = .ok a
  rw [call_of_flawless offers.flawless]
  exact ⟨(), rfl⟩

theorem listEntries (directory : String) : Completes key copy (listEntries directory) := by
  refine bind (request _ ?_) fun _ => pure _
  intro start offers
  change ∃ a, ((start.call (.list (directory ++ "/"))).1.map _).mapError _ = .ok a
  rw [call_of_flawless offers.flawless]
  exact ⟨_, rfl⟩

theorem deleteOwned (directory : String) :
    Completes key copy (deleteOwned layout directory) := by
  refine (listEntries directory).bind fun entries => ?_
  exact (forM fun item : String × String => delete item.1).bind fun _ => pure _

theorem cleanZones (zones : List String) : Completes key copy (cleanZones layout key zones) := by
  induction zones with
  | nil => exact pure _
  | cons zone rest ih =>
    unfold ServiceRecords.cleanZones
    split
    · exact (deleteOwned _).bind fun _ => ih.bind fun _ => pure _
    · exact ih

theorem conclude (admits : layout.Admits key copy) (cleaned : Nat) :
    Completes key copy (conclude layout key cleaned copy) := by
  cases copy with
  | none => exact pure _
  | some service =>
    have admitted := admits service rfl
    unfold ServiceRecords.conclude
    dsimp only
    split at admitted
    · rename_i deleting
      obtain ⟨directory, found⟩ := admitted
      rw [if_pos deleting, withdraw, found]
      exact (pure directory).bind fun _ => (deleteOwned _).bind fun _ => pure _
    · rename_i alive
      obtain ⟨record, made⟩ := admitted
      rw [if_neg alive, publish, made]
      refine (pure record).bind fun _ => (listEntries _).bind fun _ => ?_
      refine (forM fun item : String × String => put item.1 item.2).bind fun _ => ?_
      exact (forM delete).bind fun _ => pure _

theorem clearMarks (zones : List String) : Completes key copy (clearMarks key zones) := by
  unfold ServiceRecords.clearMarks
  split
  · exact pure ()
  · exact ask _

theorem bind_readService {next : Option Service → ExceptT ReconcileError Procedure β}
    (following : Completes key copy (next copy)) :
    Completes key copy (Attempt.ask (.readService key) >>= next) := by
  intro start offers
  obtain ⟨b, final, ended, later⟩ := following start offers
  refine ⟨b, final, ?_, later⟩
  rw [← ended]
  change (next (start.observer.cache.find? key)).run.run answer start = _
  rw [offers.copied]

theorem reconcile (admits : layout.Admits key copy) :
    Completes key copy (ServiceRecords.reconcile layout key) := by
  rw [reconcile_eq]
  apply bind_readService
  refine (ask (.readStale key)).bind fun stale => (cleanZones _).bind fun cleaned => ?_
  exact (clearMarks _).bind fun _ => conclude admits cleaned

end Completes

/-- A reconciliation where no call fails is successful. -/
theorem exists_reconcile (flawless : start.memory.fault = none)
    (admits : layout.Admits key (start.observer.cache.find? key)) :
    ∃ outcome final, start.reconcile layout key = (.ok outcome, final) := by
  obtain ⟨outcome, final, ran, -⟩ := Completes.reconcile admits start ⟨flawless, rfl⟩
  exact ⟨outcome, final, ran⟩

/-- The attempt ends in failure. What is going to fail the next time is left open. -/
def Fails (layout : Layout) (key : Key) (before after : Surroundings) : Prop :=
  ∃ error later fault, Ends (ServiceRecords.reconcile layout key).run before (.error error) later ∧
    after = later.planning fault

theorem ends_reconcile (layout : Layout) (key : Key) (start : Surroundings) :
    Ends (ServiceRecords.reconcile layout key).run start (start.reconcile layout key).1
      (start.reconcile layout key).2 :=
  ends_run _ start

theorem ends_of_toOption
    (succeeded : (start.reconcile layout key).1.toOption = some outcome) :
    Ends (ServiceRecords.reconcile layout key).run start (.ok outcome)
      (start.reconcile layout key).2 := by
  have ends := ends_reconcile layout key start
  cases result : (start.reconcile layout key).1 with
  | ok reached =>
    rw [result] at succeeded ends
    rwa [← Option.some.inj succeeded]
  | error error =>
    rw [result] at succeeded
    cases succeeded

/-- While the key is being reconciled, no mark of it disappears from a zone that is not clean. -/
def ForgetsOnlyClean (layout : Layout) (key : Key) (start : Surroundings) : Prop :=
  ∀ (procedure next : Procedure (Except ReconcileError Outcome)) (before after : Surroundings)
    (zone : String),
    Relation.ReflTransGen Proceeds ((ServiceRecords.reconcile layout key).run, start)
      (procedure, before) →
    Proceeds (procedure, before) (next, after) →
    zone ∈ before.observer.stale.zones key → zone ∉ after.observer.stale.zones key →
      layout.IsClean after.memory.contents key zone

theorem aim_of_proceeds {procedure : Procedure (Except ReconcileError Outcome)}
    (proceeds : Relation.ReflTransGen Proceeds ((ServiceRecords.reconcile layout key).run, start)
      (procedure, final)) : final.aim layout key = start.aim layout key :=
  eq_of_proceeds (aim layout key) ((achieves_reconcile layout key).honours start trivial)
    (fun _ _ reply after pursues served => pursues.aim reply after served) proceeds

theorem aim_of_failures (failures : Relation.ReflTransGen (Fails layout key) start failed) :
    failed.aim layout key = start.aim layout key := by
  induction failures with
  | refl => rfl
  | tail _ fails ih =>
    obtain ⟨error, later, fault, ends, rfl⟩ := fails
    rw [← ih, ← aim_of_proceeds ends]
    rfl

theorem isDone_of_ends
    (ends : Ends (ServiceRecords.reconcile layout key).run start (.ok outcome) final) :
    final.IsDone layout key :=
  post_of_ends ((achieves_reconcile layout key).honours start trivial) ends outcome rfl

theorem aim_of_ends
    (ends : Ends (ServiceRecords.reconcile layout key).run start (.ok outcome) final) :
    start.aim layout key = ⟨final.observer, fun x => final.memory.contents[x]?⟩ := by
  rw [← aim_of_proceeds ends, (isDone_of_ends ends).aim]

theorem Pursues.isClean_of_unmarked {r : Request} {reply : r.Reply} {before after : Surroundings}
    {other : Key} {zone : String} (pursues : Pursues layout key r before)
    (served : Serves r before reply after) (marked : zone ∈ before.observer.stale.zones other)
    (unmarked : zone ∉ after.observer.stale.zones other) :
    other = key ∧ layout.IsClean after.memory.contents key zone := by
  rcases observer_of_serves served with same | ⟨key', zones, rfl, rfl⟩ | ⟨key', zone', rfl, rfl⟩
  · rw [same] at unmarked
    exact absurd marked unmarked
  · obtain ⟨rfl, clean⟩ := pursues.clears key' zones rfl
    change zone ∉ (before.observer.stale.clear key' zones).zones other at unmarked
    by_cases own : other = key'
    · subst own
      refine ⟨rfl, clean zone ?_⟩
      by_contra spared
      rw [StaleZones.zones_clear, List.mem_filter] at unmarked
      exact unmarked ⟨marked, by simpa using spared⟩
    · rw [StaleZones.zones_clear_of_ne _ _ own] at unmarked
      exact absurd marked unmarked
  · exact absurd (StaleZones.mem_zones_mark.mpr (.inl marked)) unmarked

theorem pursues_of_proceeds {r : Request}
    {resume : r.Reply → Procedure (Except ReconcileError Outcome)}
    (proceeds : Relation.ReflTransGen Proceeds ((ServiceRecords.reconcile layout key).run, start)
      (.ask r resume, final)) : Pursues layout key r final :=
  permits_of_proceeds ((achieves_reconcile layout key).honours start trivial) proceeds

theorem forgetsOnlyClean (layout : Layout) (key : Key) (start : Surroundings) :
    ForgetsOnlyClean layout key start := by
  intro procedure next before after zone proceeds step marked unmarked
  cases step with
  | serve served =>
    exact ((pursues_of_proceeds proceeds).isClean_of_unmarked served marked unmarked).2

theorem final_eq_of_failures (failures : Relation.ReflTransGen (Fails layout key) start failed)
    (success : Ends (ServiceRecords.reconcile layout key).run failed (.ok outcome) final) :
    (∃ outcome once, (start.planning none).reconcile layout key = (.ok outcome, once) ∧
      final.observer = once.observer ∧ final.memory.contents = once.memory.contents) ∧
    (∀ outcome once, Ends (ServiceRecords.reconcile layout key).run start (.ok outcome) once →
      final.observer = once.observer ∧ final.memory.contents = once.memory.contents) ∧
    ∀ attempted, Relation.ReflTransGen (Fails layout key) start attempted →
      ForgetsOnlyClean layout key attempted := by
  have reached : start.aim layout key = ⟨final.observer, fun x => final.memory.contents[x]?⟩ := by
    rw [← aim_of_failures failures, aim_of_ends success]
  -- A success ends where the aim was from the start, whether anything was planned to fail or not.
  have same : ∀ fault outcome once,
      Ends (ServiceRecords.reconcile layout key).run (start.planning fault) (.ok outcome) once →
      final.observer = once.observer ∧ final.memory.contents = once.memory.contents := by
    intro fault outcome once ends
    have unplanned : (start.planning fault).aim layout key = start.aim layout key := rfl
    rw [aim_of_ends ends, reached] at unplanned
    obtain ⟨observer, stored⟩ := Aim.mk.inj unplanned
    exact ⟨observer.symm, Std.ExtTreeMap.ext_getElem? fun x => (congrFun stored x).symm⟩
  refine ⟨?_, fun outcome once => same start.memory.fault outcome once, ?_⟩
  · have cache : start.observer.cache = final.observer.cache :=
      congrArg (fun aim => aim.observer.cache) reached
    have admits := (isDone_of_ends success).admits
    rw [← cache] at admits
    have flawless : (start.planning none).memory.fault = none := rfl
    obtain ⟨outcome, once, ran⟩ := exists_reconcile flawless admits
    have ends := ends_reconcile layout key (start.planning none)
    rw [ran] at ends
    exact ⟨outcome, once, ran, same none outcome once ends⟩
  · exact fun attempted _ => forgetsOnlyClean layout key attempted

/-- A service of the zone `z2`, an entry of it left in `z1`, and a store that fails to put. -/
def halfMoved : Surroundings :=
  let service : Service := {
    metadata := { name := some "a", ns := some "svc" }
    spec := { zone := "z2", endpoints := [⟨"e", "10.0.0.1", 9000, .grpc⟩] } }
  let left : Entry := { host := "10.0.0.1", port := 9000, owner := some "rpc-controller" }
  { observer := {
      cache := (Cache.empty.insert? service).getD .empty
      stale := StaleZones.empty.mark service.key "z1" }
    memory := {
      contents := (∅ : Store.Contents).insert "/skydns/z1/svc/a/e" left.text
      fault := some ⟨.unavailable, ["put"], 0⟩ } }

/-- The first attempt deletes what is left in `z1`, and the second one writes the entry in `z2`. -/
theorem final_eq_of_failures_halfMoved : ∃ failed final,
    Fails {} ⟨"svc", "a"⟩ halfMoved failed ∧
    Ends (ServiceRecords.reconcile {} ⟨"svc", "a"⟩).run failed (.ok .created) final ∧
    halfMoved.memory.contents.contains "/skydns/z1/svc/a/e" = true ∧
    failed.memory.contents.isEmpty = true ∧
    final.memory.contents.contains "/skydns/z2/svc/a/e" = true ∧
    ∃ outcome once,
      (halfMoved.planning none).reconcile {} ⟨"svc", "a"⟩ = (.ok outcome, once) ∧
      final.observer = once.observer ∧ final.memory.contents = once.memory.contents := by
  have broken : (halfMoved.reconcile {} ⟨"svc", "a"⟩).1.toOption = none := by decide +kernel
  have succeeded : (((halfMoved.reconcile {} ⟨"svc", "a"⟩).2.planning none).reconcile {}
    ⟨"svc", "a"⟩).1.toOption = some .created := by decide +kernel
  have fails : Fails {} ⟨"svc", "a"⟩ halfMoved
      ((halfMoved.reconcile {} ⟨"svc", "a"⟩).2.planning none) := by
    have ends := ends_reconcile {} ⟨"svc", "a"⟩ halfMoved
    cases result : (halfMoved.reconcile {} ⟨"svc", "a"⟩).1 with
    | ok outcome => simp [result, Except.toOption] at broken
    | error error => exact ⟨error, _, none, result ▸ ends, rfl⟩
  have ends := ends_of_toOption succeeded
  exact ⟨_, _, fails, ends, by decide +kernel, by decide +kernel, by decide +kernel,
    (final_eq_of_failures (.single fails) ends).1⟩

end Surroundings

end ServiceRecords
