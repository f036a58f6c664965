import ServiceRecords.Proofs.Concurrent.Upkeep

set_option autoImplicit false

/-!
# Every step keeps the invariant

One lemma for each kind of step. A request of a reconciliation is an answer at the site of its own
key and a step of somebody else at every other one, because keys in lower case share no place in
the store (`yields_answer`). A sweep only ever adds marks and announcements (`yields_survey`).
-/

namespace ServiceRecords.Concurrent

open Controller

variable {layout : Layout} {ceiling : RetryCeiling} {now : Nat} {action : Action}
  {failed failed' : Key → Prop} {ledger : Ledger} {controller after : Controller} {key other : Key}

namespace Controller

/-- A reconciliation is answered as it expects. -/
theorem answers_answer (now : Nat) (response : Response) {r : Request} (ledger : Ledger)
    (permitted : Site.Permits layout key r (controller.site ledger key)) :
    Site.Answers r (controller.site ledger key) (answer now response r controller).1
      ((answer now response r controller).2.site ledger key) := by
  cases r with
  | readService key' =>
    obtain rfl := permitted
    exact ⟨rfl, rfl⟩
  | readStale key' =>
    obtain rfl := permitted
    exact ⟨rfl, rfl⟩
  | clearStale key' zones =>
    obtain ⟨rfl, -⟩ := permitted
    have cleared := StaleZones.zones_clear controller.observer.stale key' zones
    exact congrArg (fun stale => { controller.site ledger key' with stale }) cleared
  | markStale key' zone => cases permitted
  | enqueue key' => cases permitted
  | list start =>
    refine ⟨rfl, ?_⟩
    intro entries succeeded
    cases response with
    | succeeds =>
      cases succeeded
      rfl
    | fails error takesEffect => cases succeeded
  | put x value =>
    cases response with
    | succeeds => exact .inl rfl
    | fails error takesEffect =>
      cases takesEffect
      · exact .inr ⟨rfl, nofun⟩
      · exact .inl rfl
  | delete x =>
    cases response with
    | succeeds => exact .inl rfl
    | fails error takesEffect =>
      cases takesEffect
      · exact .inr ⟨rfl, nofun⟩
      · exact .inl rfl

/-- A write to a place that is none of the key's. -/
theorem yields_write (response : Response) {call : Store.Call}
    (coherent : (controller.site ledger key).Coherent layout key)
    (elsewhere : ∀ zone x, layout.Resides key zone x →
      (call.apply controller.contents)[x]? = controller.contents[x]?) :
    Site.Yields layout key (controller.site ledger key)
      ((controller.write response call).2.site ledger key) := by
  refine coherent.yields coherent.own_key (fun _ remembered => remembered) ?_ id (fun _ => rfl)
    rfl rfl rfl
  intro zone x resides
  change (controller.write response call).2.contents[x]? = controller.contents[x]?
  rcases contents_write response call controller with written | same
  · rw [written]
    exact elsewhere zone x resides
  · rw [same]

/-- What a reconciliation of one key does is nothing to another key in lower case. -/
theorem yields_answer (response : Response) {r : Request}
    (permitted : Site.Permits layout other r (controller.site ledger other))
    (coherent : (controller.site ledger key).Coherent layout key) (lower : key.IsLower)
    (lower_other : other.IsLower) (different : key ≠ other) :
    Site.Yields layout key (controller.site ledger key)
      ((answer now response r controller).2.site ledger key) := by
  have apart : ∀ {zone zone' x y}, layout.Resides other zone x → layout.Resides key zone' y →
      x ≠ y := by
    rintro zone zone' x _ resides resides' rfl
    exact different (resides'.eq_of_isLower lower lower_other resides)
  cases r with
  | readService key' => exact .refl coherent
  | readStale key' => exact .refl coherent
  | clearStale key' zones =>
    obtain ⟨rfl, -⟩ := permitted
    have kept := StaleZones.zones_clear_of_ne controller.observer.stale zones different
    have same : (controller.updateStale (·.clear key' zones)).site ledger key =
        controller.site ledger key :=
      congrArg (fun stale => { controller.site ledger key with stale }) kept
    change Site.Yields layout key _ ((controller.updateStale (·.clear key' zones)).site ledger key)
    rw [same]
    exact .refl coherent
  | markStale key' zone => cases permitted
  | enqueue key' => cases permitted
  | list start => exact .refl coherent
  | put x value =>
    obtain ⟨zone, resides, -⟩ := permitted
    refine yields_write response coherent fun zone' y resides' => ?_
    exact (Store.getElem?_insert ..).trans (if_neg (apart resides resides'))
  | delete x =>
    obtain ⟨zone, resides⟩ := permitted
    refine yields_write response coherent fun zone' y resides' => ?_
    exact (Store.getElem?_erase ..).trans (if_neg (apart resides resides'))

/-- A sweep takes nothing away from any site. -/
theorem yields_survey (response : Response) {r : Request} {survey : Survey}
    (permitted : survey.Permits layout r)
    (coherent : (controller.site ledger key).Coherent layout key) :
    Site.Yields layout key (controller.site ledger key)
      ((answer now response r controller).2.site ledger key) := by
  cases r with
  | readService key' => exact .refl coherent
  | readStale key' => cases permitted
  | clearStale key' zones => cases permitted
  | markStale key' zone =>
    refine coherent.yields coherent.own_key ?_ (fun _ _ _ => rfl) id (fun _ => rfl) rfl rfl rfl
    rintro marked (empty | home | stale | lost)
    · exact .inl empty
    · exact .inr (.inl home)
    · exact .inr (.inr (.inl (StaleZones.mem_zones_mark.mpr (.inl stale))))
    · exact .inr (.inr (.inr lost))
  | enqueue key' =>
    refine coherent.yields coherent.own_key (fun _ remembered => remembered) (fun _ _ _ => rfl) ?_
      (fun _ => rfl) rfl rfl rfl
    exact isAnnounced_enqueue now key'
  | list start => exact .refl coherent
  | put x value => cases permitted
  | delete x => cases permitted

end Controller

namespace Upkeep

/-- The writes of a reconciliation stay below the root and among the keys in lower case. -/
theorem placed_answer (upkeep : Upkeep layout failed ledger controller) (response : Response)
    {r : Request} (permitted : Site.Permits layout key r (controller.site ledger key))
    (lower : key.IsLower) : IsPlaced layout (answer now response r controller).2.contents := by
  have written : ∀ call : Store.Call, IsPlaced layout (call.apply controller.contents) →
      IsPlaced layout (controller.write response call).2.contents := by
    intro call placed
    rcases contents_write response call controller with written | same
    · rwa [written]
    · rw [same]
      exact upkeep.placed
  cases r with
  | put x value =>
    obtain ⟨zone, resides, -⟩ := permitted
    refine written (.put x value) ?_
    intro y stored found owned below
    change (controller.contents.insert x value)[y]? = some stored at found
    rw [Store.getElem?_insert] at found
    split at found
    · rename_i same
      exact ⟨key, zone, lower, same ▸ resides⟩
    · exact upkeep.placed y stored found owned below
  | delete x =>
    refine written (.delete x) ?_
    intro y stored found owned below
    change (controller.contents.erase x)[y]? = some stored at found
    rw [Store.getElem?_erase] at found
    split at found
    · cases found
    · exact upkeep.placed y stored found owned below
  | readService => exact upkeep.placed
  | readStale => exact upkeep.placed
  | clearStale => exact upkeep.placed
  | markStale => exact upkeep.placed
  | enqueue => exact upkeep.placed
  | list => exact upkeep.placed

theorem circulates_answer (upkeep : Upkeep layout failed ledger controller) (now : Nat)
    (response : Response) {r : Request} (lower : ∀ key, r = .enqueue key → key.IsLower) :
    (answer now response r controller).2.Circulates := by
  cases r with
  | enqueue key => exact upkeep.circulates.enqueue now (lower key rfl)
  | _ => exact ⟨upkeep.circulates.cached, upkeep.circulates.channel, upkeep.circulates.dirty,
      upkeep.circulates.delayed, upkeep.circulates.workers⟩

/-- A request of a reconciliation. -/
theorem serve (upkeep : Upkeep layout failed ledger controller) {worker : Nat} {r : Request}
    {resume : r.Reply → Procedure (Except ReconcileError Outcome)}
    (asks : controller.workers worker = some ⟨key, .reconciling (.ask r resume)⟩)
    (response : Response) :
    Upkeep layout failed ledger ((answer now response r controller).2.assign worker
      (some ⟨key, .reconciling (resume (answer now response r controller).1)⟩)) := by
  have lower := upkeep.circulates.workers worker _ asks
  have coherent := upkeep.coherent key lower
  obtain ⟨permitted, answered⟩ := upkeep.honoured worker key _ asks _ (.refl coherent)
  have answers := answers_answer now response ledger permitted
  have asked := asks
  rw [← workers_answer now response r] at asked
  have circulates := upkeep.circulates_answer now response (r := r) (by
    rintro other rfl
    cases permitted)
  refine upkeep.transfer_except key ((upkeep.exclusive.answer now response r).assign asked rfl)
    (circulates.assign asked rfl)
    (upkeep.placed_answer response permitted lower) ?_ ?_ (fun _ _ failed => failed) ?_ ?_ ?_
  · intro other lower_other different
    exact yields_answer response permitted (upkeep.coherent other lower_other) lower_other lower
      different
  · intro worker' other rest different
    rw [workers_assign_of_ne key ?_ ?_ different, workers_answer]
    · intro found had
      rw [asked] at had
      cases had
      rfl
    · rintro found ⟨⟩
      rfl
  · intro _
    exact coherent.answered permitted answers
  · intro worker' rest found
    by_cases own : worker' = worker
    · subst own
      simp only [assign, Function.update_self, Option.some.injEq, Worker.mk.injEq, true_and,
        Duty.reconciling.injEq] at found
      rw [← found]
      exact answered _ _ answers
    -- No other worker is at the key.
    · simp only [assign, Function.update_of_ne own, workers_answer] at found
      exact absurd (upkeep.exclusive.apart worker' worker _ _ found asks rfl) own
  · intro _
    exact .inr (.inl ⟨worker, _, Function.update_self ..⟩)

/-- A worker begins to reconcile a key, which is not announced any more. -/
theorem take (upkeep : Upkeep layout failed ledger controller) {worker : Nat}
    {item : WorkItem Key} {queue : WorkQueue Key} (free : controller.workers worker = none)
    (took : controller.queue.take? now = some (item, queue)) :
    Upkeep layout failed ledger ({ controller with queue }.assign worker
      (some ⟨item.key, .reconciling (reconcile layout item.key).run⟩)) := by
  have takes := WorkQueue.takes_of_take? took
  have lower : item.key.IsLower :=
    upkeep.circulates.dirty item.key (upkeep.exclusive.isOrderly.dirty_of_waiting item.key
      (by simp [takes.waiting]))
  -- The key ceases to be dirty, which a worker at it could not allow for. There is none yet.
  have fresh : ∀ worker' found, controller.workers worker' = some found →
      found.key ≠ item.key := by
    intro worker' found had same
    exact takes.not_taken upkeep.exclusive.isOrderly
      (same ▸ upkeep.exclusive.taken worker' found had)
  have coherent := upkeep.coherent item.key lower
  refine upkeep.transfer_except item.key (upkeep.exclusive.take takes worker)
    ⟨upkeep.circulates.cached, upkeep.circulates.channel, ?_, upkeep.circulates.delayed, ?_⟩
    upkeep.placed ?_ ?_ (fun _ _ failed => failed) ?_ ?_ ?_
  · intro key dirty
    exact upkeep.circulates.dirty key (takes.mem_dirty.mp dirty).1
  · intro worker' found assigned
    by_cases own : worker' = worker
    · subst own
      simp only [assign, Function.update_self, Option.some.injEq] at assigned
      rw [← assigned]
      exact lower
    · simp only [assign, Function.update_of_ne own] at assigned
      exact upkeep.circulates.workers worker' found assigned
  · intro other lower_other different
    have coherent := upkeep.coherent other lower_other
    refine coherent.yields coherent.own_key (fun _ remembered => remembered) (fun _ _ _ => rfl) ?_
      (fun _ => rfl) rfl rfl rfl
    rintro (stopped | noticed | dirty)
    · exact .inl (takes.isShutDown.trans stopped)
    · exact .inr (.inl noticed)
    · exact .inr (.inr (takes.mem_dirty.mpr ⟨dirty, different⟩))
  · intro worker' other rest different
    refine workers_assign_of_ne item.key ?_ ?_ different
    · intro found had
      rw [show controller.workers worker = some found from had] at free
      cases free
    · rintro found ⟨⟩
      rfl
  · intro _
    exact ⟨coherent.own_key, coherent.accounted, coherent.unannounced_of_unmarked,
      coherent.unannounced_of_forgotten⟩
  · intro worker' rest found
    by_cases own : worker' = worker
    · subst own
      simp only [assign, Function.update_self, Option.some.injEq, Worker.mk.injEq, true_and,
        Duty.reconciling.injEq] at found
      rw [← found]
      exact Site.achieves_reconcile.honours _ ⟨coherent.own_key, coherent.accounted,
        coherent.unannounced_of_unmarked, coherent.unannounced_of_forgotten⟩
    · simp only [assign, Function.update_of_ne own] at found
      exact absurd rfl (fresh worker' _ found)
  · intro _
    exact .inr (.inl ⟨worker, _, Function.update_self ..⟩)

/-- A reconciliation ends: it has failed, or the site is as it should be. -/
theorem finish (upkeep : Upkeep layout failed ledger controller) {worker : Nat}
    {result : Except ReconcileError Outcome}
    (ends : controller.workers worker = some ⟨key, .reconciling (.done result)⟩)
    (weaker : ∀ other, other ≠ key → failed other → failed' other)
    (fails : ∀ error, result = .error error → failed' key) :
    Upkeep layout failed' ledger (controller.assign worker (some ⟨key, .reporting result⟩)) := by
  have lower := upkeep.circulates.workers worker _ ends
  have coherent := upkeep.coherent key lower
  have promised := upkeep.honoured worker key _ ends _ (.refl coherent)
  refine upkeep.transfer_except key (upkeep.exclusive.assign ends rfl)
    (upkeep.circulates.assign ends rfl) upkeep.placed ?_ ?_ weaker (fun _ => coherent) ?_ ?_
  · intro other lower_other _
    exact .refl (upkeep.coherent other lower_other)
  · intro worker' other rest different
    refine workers_assign_of_ne key ?_ ?_ different
    · intro found had
      rw [ends] at had
      cases had
      rfl
    · rintro found ⟨⟩
      rfl
  · intro worker' rest found
    by_cases own : worker' = worker
    · subst own
      simp [assign] at found
    · simp only [assign, Function.update_of_ne own] at found
      exact absurd (upkeep.exclusive.apart worker' worker _ _ found ends rfl) own
  · intro _
    cases result with
    | error error => exact .inr (.inr (.inl (fails error rfl)))
    | ok outcome =>
      by_cases announced : controller.IsAnnounced key
      · exact .inl announced
      · exact .inr (.inr (.inr (promised outcome rfl announced)))

/-- The task of a worker changes that is not reconciling. -/
theorem reassign (upkeep : Upkeep layout failed ledger controller) {worker : Nat}
    {task : Option Worker} (exclusive : (controller.assign worker task).IsExclusive)
    (circulates : (controller.assign worker task).Circulates)
    (before : ∀ key rest, controller.workers worker ≠ some ⟨key, .reconciling rest⟩)
    (now : ∀ key rest, task ≠ some ⟨key, .reconciling rest⟩) :
    Upkeep layout failed ledger (controller.assign worker task) :=
  upkeep.relay exclusive circulates rfl rfl (fun _ announced => announced)
    fun _ _ _ => reconciling_assign before now

theorem resync (upkeep : Upkeep layout failed ledger controller) :
    Upkeep layout failed ledger { controller with
      channel := controller.channel ++ controller.observer.resync.map (·.key) } := by
  refine upkeep.relay (upkeep.exclusive.congr rfl rfl) ⟨upkeep.circulates.cached, ?_,
    upkeep.circulates.dirty, upkeep.circulates.delayed, upkeep.circulates.workers⟩ rfl rfl ?_
    fun _ _ _ => .rfl
  · intro key member
    rcases List.mem_append.mp member with member | member
    · exact upkeep.circulates.channel key member
    · simp only [Observer.resync, List.map_map, List.mem_map, Function.comp_apply,
        exists_eq_right] at member
      obtain ⟨service, found⟩ := (Cache.mem_keys upkeep.circulates.cached.isNamespaced).mp member
      exact (upkeep.circulates.cached key service found).2
  · rintro key (stopped | noticed | dirty)
    · exact .inl stopped
    · exact .inr (.inl (List.mem_append_left _ noticed))
    · exact .inr (.inr dirty)

theorem forward (upkeep : Upkeep layout failed ledger controller) {rest : List Key}
    (first : controller.channel = key :: rest) :
    Upkeep layout failed ledger ({ controller with channel := rest }.enqueue now key) := by
  have lower := upkeep.circulates.channel key (by simp [first])
  have circulates : { controller with channel := rest }.Circulates :=
    ⟨upkeep.circulates.cached,
      fun key member => upkeep.circulates.channel key (by simp [first, member]),
      upkeep.circulates.dirty, upkeep.circulates.delayed, upkeep.circulates.workers⟩
  have exclusive : { controller with channel := rest }.IsExclusive :=
    upkeep.exclusive.congr rfl rfl
  refine upkeep.relay (exclusive.enqueue now key) (circulates.enqueue now lower) rfl rfl ?_
    fun _ _ _ => .rfl
  rintro other (stopped | noticed | dirty)
  · exact isAnnounced_enqueue now key (.inl stopped)
  · rw [first, List.mem_cons] at noticed
    rcases noticed with rfl | noticed
    · exact isAnnounced_enqueue_self now _ other
    · exact isAnnounced_enqueue now key (.inr (.inl noticed))
  · exact isAnnounced_enqueue now key (.inr (.inr dirty))

theorem fire (upkeep : Upkeep layout failed ledger controller) (waits : key ∈ controller.delayed) :
    Upkeep layout failed ledger
      ({ controller with delayed := controller.delayed.erase key }.enqueue now key) := by
  have lower := upkeep.circulates.delayed key waits
  have circulates : { controller with delayed := controller.delayed.erase key }.Circulates :=
    ⟨upkeep.circulates.cached, upkeep.circulates.channel, upkeep.circulates.dirty,
      fun key member => upkeep.circulates.delayed key (List.mem_of_mem_erase member),
      upkeep.circulates.workers⟩
  have exclusive : { controller with delayed := controller.delayed.erase key }.IsExclusive :=
    upkeep.exclusive.congr rfl rfl
  refine upkeep.relay (exclusive.enqueue now key) (circulates.enqueue now lower) rfl rfl ?_
    fun _ _ _ => .rfl
  intro other announced
  exact isAnnounced_enqueue now key announced

theorem settle (upkeep : Upkeep layout failed ledger controller) {worker : Nat} {verdict : Verdict}
    (decided : controller.workers worker = some ⟨key, .settling verdict⟩)
    (delay : Nat → Except BackoffError Duration) :
    Upkeep layout failed ledger (controller.settle now worker key verdict delay) := by
  have exclusive : (controller.settle now worker key verdict delay).IsExclusive :=
    upkeep.exclusive.settle decided delay
  have lower := upkeep.circulates.workers worker _ decided
  unfold Controller.settle at exclusive ⊢
  cases settled : verdict.settle delay now key controller.queue with
  | error error =>
    simp only [settled] at exclusive ⊢
    exact upkeep.reassign exclusive (upkeep.circulates.dismiss worker) (by simp [decided]) (by simp)
  | ok pair =>
    obtain ⟨wait, queue⟩ := pair
    simp only [settled] at exclusive ⊢
    have circulates : (controller.assign worker (some ⟨key, .leaving⟩)).Circulates :=
      upkeep.circulates.assign decided rfl
    obtain ⟨failures, changed⟩ := WorkQueue.exists_of_settle settled
    have dirty : ∀ other, other ∈ queue.dirty → other ∈ controller.queue.dirty ∨ other = key := by
      intro other member
      rcases changed with rfl | rfl
      · exact .inl member
      · exact (WorkQueue.mem_dirty_add.mp member).imp_right And.left
    refine upkeep.relay exclusive
      ⟨circulates.cached, circulates.channel, ?_, ?_, circulates.workers⟩ rfl rfl ?_
      fun _ _ _ => reconciling_assign (by simp [decided]) (by simp)
    · intro other member
      rcases dirty other member with dirty | rfl
      · exact upkeep.circulates.dirty other dirty
      · exact lower
    · intro other member
      dsimp only at member
      split at member
      · rcases List.mem_cons.mp member with rfl | member
        · exact lower
        · exact upkeep.circulates.delayed other member
      · exact upkeep.circulates.delayed other member
    · rintro other (stopped | noticed | member)
      · left
        rcases changed with rfl | rfl
        · exact stopped
        · exact (WorkQueue.isShutDown_add _ now key).trans stopped
      · exact .inr (.inl noticed)
      · refine .inr (.inr ?_)
        rcases changed with rfl | rfl
        · exact member
        · exact WorkQueue.mem_dirty_add.mpr (.inl member)

theorem release (upkeep : Upkeep layout failed ledger controller) {worker : Nat}
    (leaves : controller.workers worker = some ⟨key, .leaving⟩) :
    Upkeep layout failed ledger
      ({ controller with queue := controller.queue.release key }.assign worker none) := by
  have circulates := upkeep.circulates.dismiss worker
  refine upkeep.relay (upkeep.exclusive.release leaves) ⟨circulates.cached, circulates.channel, ?_,
    circulates.delayed, circulates.workers⟩ rfl rfl ?_ ?_
  · intro other dirty
    exact upkeep.circulates.dirty other (WorkQueue.dirty_release controller.queue key ▸ dirty)
  · rintro other (stopped | noticed | dirty)
    · exact .inl ((WorkQueue.isShutDown_release controller.queue key).trans stopped)
    · exact .inr (.inl noticed)
    · exact .inr (.inr (WorkQueue.dirty_release controller.queue key ▸ dirty))
  · intro worker' other rest
    exact reconciling_assign (by simp [leaves]) (by simp)

theorem shutDown (upkeep : Upkeep layout failed ledger controller) :
    Upkeep layout failed ledger { controller with queue := controller.queue.shutDown } :=
  upkeep.relay (upkeep.exclusive.transfer ⟨upkeep.exclusive.isOrderly.nodup,
      upkeep.exclusive.isOrderly.dirty_of_waiting, upkeep.exclusive.isOrderly.not_taken_of_waiting,
      upkeep.exclusive.isOrderly.waiting_or_taken⟩ (fun _ taken => taken)
      fun _ task found => ⟨task, found, rfl⟩)
    ⟨upkeep.circulates.cached, upkeep.circulates.channel, upkeep.circulates.dirty,
      upkeep.circulates.delayed, upkeep.circulates.workers⟩ rfl rfl (fun _ _ => .inl rfl)
    fun _ _ _ => .rfl

/-- Beginning or ending a sweep changes nothing else. -/
theorem conduct (upkeep : Upkeep layout failed ledger controller) (sweeper : Nat)
    (rest : Option (Procedure (Except StoreError Nat))) :
    Upkeep layout failed ledger (controller.conduct sweeper rest) :=
  upkeep.relay (upkeep.exclusive.congr rfl rfl)
    ⟨upkeep.circulates.cached, upkeep.circulates.channel, upkeep.circulates.dirty,
      upkeep.circulates.delayed, upkeep.circulates.workers⟩ rfl rfl (fun _ announced => announced)
    fun _ _ _ => .rfl

/-- A request of a sweep. -/
theorem survey (upkeep : Upkeep layout failed ledger controller) (now : Nat)
    (response : Response) {r : Request} {survey : Survey} (permitted : survey.Permits layout r) :
    Upkeep layout failed ledger (answer now response r controller).2 := by
  have placed : IsPlaced layout (answer now response r controller).2.contents := by
    cases r with
    | put => cases permitted
    | delete => cases permitted
    | _ => exact upkeep.placed
  refine upkeep.transfer (upkeep.exclusive.answer now response r) ?_ placed ?_ ?_ ?_
  · refine upkeep.circulates_answer now response ?_
    rintro key rfl
    exact permitted.1
  · intro key lower
    exact yields_survey response permitted (upkeep.coherent key lower)
  · intro worker key rest found
    rwa [workers_answer] at found
  · rintro key ⟨worker, rest, found⟩
    exact ⟨worker, rest, by rwa [workers_answer]⟩

/-- Whatever happens next, unless it is an event. -/
theorem step {history : List Occasion}
    (upkeep : Upkeep layout (HasFailed history) ledger controller)
    (acts : controller.Acts layout ceiling now action after)
    (unobserved : ∀ event, action ≠ .observe event)
    (surveys : ∀ sweeper r resume, controller.sweepers sweeper = some (.ask r resume) →
      ∃ survey : Survey, survey.Permits layout r) :
    Upkeep layout (HasFailed (⟨controller, now, action⟩ :: history)) ledger after := by
  have going : Occasion.result? ⟨controller, now, action⟩ = none →
      Upkeep layout (HasFailed (⟨controller, now, action⟩ :: history)) ledger controller :=
    fun unfinished => upkeep.mono fun _ failed => failed.cons unfinished
  cases acts with
  | observe event => exact absurd rfl (unobserved event)
  | resync => exact (going rfl).resync
  | forward first => exact (going rfl).forward first
  | fire waits => exact (going rfl).fire waits
  | take free took => exact (going rfl).take free took
  | serve asks response => exact (going rfl).serve asks response
  | @finish worker key result ends =>
    have finished : Occasion.result? ⟨controller, now, .finish worker⟩ = some (key, result) := by
      simp [Occasion.result?, ends]
    refine upkeep.finish ends ?_ ?_
    · rintro other different ⟨error, latest⟩
      exact ⟨error, by simp [latestResult?, finished, different.symm, latest]⟩
    · rintro error rfl
      exact ⟨error, by simp [latestResult?, finished]⟩
  | judge reports =>
    exact (going rfl).reassign (upkeep.exclusive.assign reports rfl)
      (upkeep.circulates.assign reports rfl) (by simp [reports]) (by simp)
  | settle decided delay => exact (going rfl).settle decided delay
  | release leaves => exact (going rfl).release leaves
  | startSweep free => exact (going rfl).conduct _ _
  | serveSweep asks response =>
    obtain ⟨survey, permitted⟩ := surveys _ _ _ asks
    exact ((going rfl).survey now response permitted).conduct _ _
  | finishSweep ends => exact (going rfl).conduct _ _
  | shutDown => exact (going rfl).shutDown

end Upkeep

end ServiceRecords.Concurrent
