import Mathlib.Algebra.BigOperators.Fin
import ServiceRecords.Proofs.Queue.Delivery

set_option autoImplicit false

/-!
# No wake-up is lost

Getters wait for keys. A getter registers, then looks at the queue, and parks only if there is
nothing to take; whoever makes a key wait, or shuts the queue down, sends a signal afterwards. All
of these are steps of their own, so that anything may happen in between. The notifier wakes the
getter that registered first, or keeps one permit; a getter that was woken and does not go on passes
the wake-up to the next. While there is something to be done, a getter does not stay parked unless
another one is about to look or a signal is about to be sent (`not_isStalled_of_run`): as long as
anybody is idle, there are as many of those as there are keys (`IsAlert.covered`).
-/

namespace ServiceRecords

/-- What has become of a registration. -/
inductive Ticket where
  | waiting
  /-- There was a permit, so that the getter need not wait. -/
  | permit
  /-- The getter alone was woken. -/
  | one
  /-- Every getter was woken. -/
  | all
  deriving DecidableEq

/-- How far a getter has come since it registered. -/
inductive Position where
  | registered
  /-- The getter has found nothing. -/
  | checked
  | parked
  /-- The getter has found a key, or that there will be none. -/
  | leaving
  deriving DecidableEq

inductive Getter where
  | away
  | holding (position : Position) (ticket : Ticket)
  deriving DecidableEq

namespace Getter

def ticket? : Getter → Option Ticket
  | away => none
  | holding _ ticket => some ticket

/-- The getter has found nothing, and nobody has woken it. -/
def isIdle : Getter → Bool
  | holding .checked .waiting | holding .parked .waiting => true
  | _ => false

/-- The getter is going to look again, or to pass its wake-up on. -/
def isWoken : Getter → Bool
  | holding .checked ticket | holding .parked ticket => ticket != .waiting
  | holding .leaving ticket => ticket == .one
  | _ => false

def canRegister : Getter → Bool
  | away => true
  | holding .checked ticket | holding .parked ticket => ticket != .waiting
  | _ => false

def wake (ticket : Ticket) : Getter → Getter
  | away => away
  | holding position _ => holding position ticket

/-- For how many keys the getter accounts: one if it is about to look, and one if it has a wake-up
to pass on. -/
def weight : Getter → Nat
  | away => 0
  | holding position ticket =>
    (if position = .registered then 1 else 0) + if ticket = .one then 1 else 0

theorem ticket?_of_isIdle {state : Getter} (idle : state.isIdle = true) :
    state.ticket? = some .waiting := by
  unfold isIdle at idle
  split at idle
  · rfl
  · rfl
  · cases idle

theorem of_canRegister {state : Getter} (free : state.canRegister = true) :
    state.ticket? ≠ some .waiting ∧ state.weight ≤ 1 := by
  unfold canRegister at free
  split at free
  · exact ⟨nofun, Nat.zero_le 1⟩
  · rename_i ticket
    cases ticket <;> simp [ticket?, weight] at free ⊢
  · rename_i ticket
    cases ticket <;> simp [ticket?, weight] at free ⊢
  · cases free

theorem weight_eq_zero {state : Getter} (unwoken : state.isWoken = false)
    (looked : ∀ ticket, state ≠ .holding .registered ticket) : state.weight = 0 := by
  cases state with
  | away => rfl
  | holding position ticket =>
    cases position with
    | registered => exact absurd rfl (looked ticket)
    | _ => cases ticket <;> simp [isWoken, weight] at unwoken ⊢

end Getter

inductive Signal where
  | one
  | all
  deriving DecidableEq

/-- Getters and a queue, with the notifier between them. -/
structure WaitingRoom (κ : Type) [Ord κ] (size : Nat) where
  shared : SharedQueue κ
  permit : Bool
  /-- Those who are registered and not woken, the first in front -/
  waiters : List (Fin size)
  getters : Fin size → Getter
  /-- The signals that are about to be sent -/
  due : List Signal

inductive WaitingAction (κ : Type) (size : Nat) where
  | register (getter : Fin size)
  | check (getter : Fin size)
  | park (getter : Fin size)
  /-- The registration ends: the getter has what it wanted, or it gives up. -/
  | drop (getter : Fin size)
  /-- Anybody uses the queue, except to take a key. -/
  | update (operation : QueueOperation κ)
  | notify (signal : Signal)

/-- The signals that are owed for an operation. -/
def QueueOccasion.signals {κ : Type} [Ord κ] [Std.TransOrd κ] (occasion : QueueOccasion κ) :
    List Signal :=
  match occasion.operation with
  | .shutDown => [.all]
  | _ => if occasion.entered?.isSome then [.one] else []

theorem QueueOccasion.length_entered?_le {κ : Type} [Ord κ] [Std.TransOrd κ]
    (occasion : QueueOccasion κ) :
    occasion.entered?.toList.length ≤ occasion.signals.count .one := by
  unfold signals
  split
  · rename_i stopping
    simp [entered?, released?, accepted?, added?, stopping]
  · cases occasion.entered? <;> simp

namespace WaitingRoom

variable {κ : Type} [Ord κ] {size : Nat}

def assign (room : WaitingRoom κ size) (getter : Fin size) (state : Getter) : WaitingRoom κ size :=
  { room with getters := Function.update room.getters getter state }

def register (room : WaitingRoom κ size) (getter : Fin size) : WaitingRoom κ size :=
  if room.permit then { room with permit := false }.assign getter (.holding .registered .permit)
  else
    { room with waiters := room.waiters ++ [getter] }.assign getter
      (.holding .registered .waiting)

def notifyOne (room : WaitingRoom κ size) : WaitingRoom κ size :=
  match room.waiters with
  | [] => { room with permit := true }
  | getter :: waiters =>
    { room with waiters }.assign getter ((room.getters getter).wake .one)

def notifyAll (room : WaitingRoom κ size) : WaitingRoom κ size :=
  { room with
    waiters := []
    getters := fun getter =>
      if getter ∈ room.waiters then (room.getters getter).wake .all else room.getters getter }

def drop (room : WaitingRoom κ size) (getter : Fin size) : Ticket → WaitingRoom κ size
  | .waiting => { room with waiters := room.waiters.erase getter }.assign getter .away
  | .one => (room.assign getter .away).notifyOne
  | .permit | .all => room.assign getter .away

section Run

variable [Std.TransOrd κ]

def check (room : WaitingRoom κ size) (now : Nat) (getter : Fin size) (ticket : Ticket) :
    WaitingRoom κ size :=
  match room.shared.queue.take? now with
  | some (item, queue) =>
    { room with
      shared := { room.shared with queue, held := (getter.val, item.key) :: room.shared.held }
    }.assign getter (.holding .leaving ticket)
  | none =>
    room.assign getter
      (.holding (if room.shared.queue.isShutDown then .leaving else .checked) ticket)

def start : WaitingRoom κ size := ⟨.empty, false, [], fun _ => .away, []⟩

variable [DecidableEq κ]

/-- What an action does, if it is one that can be taken. -/
def act? (now : Nat) (room : WaitingRoom κ size) :
    WaitingAction κ size → Option (WaitingRoom κ size)
  | .register getter =>
    if (room.getters getter).canRegister then some (room.register getter) else none
  | .check getter =>
    match room.getters getter with
    | .holding .registered ticket => some (room.check now getter ticket)
    | _ => none
  | .park getter =>
    match room.getters getter with
    | .holding .checked .waiting => some (room.assign getter (.holding .parked .waiting))
    | _ => none
  | .drop getter =>
    match room.getters getter with
    | .holding .leaving ticket | .holding .parked ticket => some (room.drop getter ticket)
    | _ => none
  | .update operation =>
    match operation with
    | .take _ => none
    | _ =>
      (room.shared.act? now operation).map fun shared =>
        { room with shared, due := QueueOccasion.signals ⟨room.shared, now, operation⟩ ++ room.due }
  | .notify signal =>
    if signal ∈ room.due then
      let told := { room with due := room.due.erase signal }
      match signal with
      | .one => some told.notifyOne
      | .all => some told.notifyAll
    else none

/-- What can come of a room where nobody has come yet. -/
inductive Run (size : Nat) : WaitingRoom κ size → Prop where
  | start : Run size start
  | step {before after : WaitingRoom κ size} {now : Nat} {action : WaitingAction κ size}
      (run : Run size before) (acted : before.act? now action = some after) : Run size after

def replay? (room : WaitingRoom κ size) : List (WaitingAction κ size) → Option (WaitingRoom κ size)
  | [] => some room
  | action :: rest => (room.act? 0 action).bind (replay? · rest)

end Run

/-- There is something to do, and a getter that sleeps, but nobody is about to do anything. -/
structure IsStalled (room : WaitingRoom κ size) : Prop where
  pending : room.shared.queue.waiting ≠ [] ∨ room.shared.queue.isShutDown = true
  asleep : ∃ getter, room.getters getter = .holding .parked .waiting
  unwoken : ∀ getter, (room.getters getter).isWoken = false
  looked : ∀ getter ticket, room.getters getter ≠ .holding .registered ticket
  silent : room.due = []

/-- The keys for which somebody accounts. -/
def promised (room : WaitingRoom κ size) : Nat :=
  room.due.count .one + ∑ getter, (room.getters getter).weight

/-- The waiters are those who are registered and not woken, and there is no permit meanwhile. -/
structure IsListed (room : WaitingRoom κ size) : Prop where
  nodup : room.waiters.Nodup
  mem_waiters : ∀ getter, getter ∈ room.waiters ↔ (room.getters getter).ticket? = some .waiting
  unpermitted : room.permit = true → room.waiters = []

/-- As long as somebody is idle, all the keys that wait are accounted for, but for some more. -/
structure IsAlert (room : WaitingRoom κ size) (more : Nat) : Prop extends IsListed room where
  covered : ∀ getter, (room.getters getter).isIdle = true →
    room.shared.queue.waiting.length ≤ room.promised + more
  stopped : ∀ getter, (room.getters getter).isIdle = true →
    room.shared.queue.isShutDown = true → .all ∈ room.due

variable {room after : WaitingRoom κ size} {now more : Nat} {getter other : Fin size}
  {state : Getter} {ticket : Ticket}

theorem promised_assign (room : WaitingRoom κ size) (getter : Fin size) (state : Getter) :
    (room.assign getter state).promised + (room.getters getter).weight =
      room.promised + state.weight := by
  unfold promised assign
  have composed : (fun other => (Function.update room.getters getter state other).weight) =
      Function.update (fun other => (room.getters other).weight) getter state.weight := by
    funext other
    by_cases same : other = getter
    · subst same
      simp
    · simp [same]
  have total := Finset.add_sum_erase Finset.univ (fun other => (room.getters other).weight)
    (Finset.mem_univ getter)
  simp only [composed, Finset.sum_update_of_mem (Finset.mem_univ getter),
    Finset.sdiff_singleton_eq_erase] at *
  omega

@[simp]
theorem shared_assign (room : WaitingRoom κ size) (getter : Fin size) (state : Getter) :
    (room.assign getter state).shared = room.shared := rfl

@[simp]
theorem getters_assign_self (room : WaitingRoom κ size) (getter : Fin size) (state : Getter) :
    (room.assign getter state).getters getter = state :=
  Function.update_self ..

theorem getters_assign_of_ne (different : other ≠ getter) (room : WaitingRoom κ size)
    (state : Getter) : (room.assign getter state).getters other = room.getters other :=
  Function.update_of_ne different ..

theorem isIdle_of_assign (busy : state.isIdle = false)
    (idle : ((room.assign getter state).getters other).isIdle = true) :
    (room.getters other).isIdle = true := by
  by_cases same : other = getter
  · subst same
    simp [busy] at idle
  · rwa [getters_assign_of_ne same] at idle

theorem IsListed.assign (listed : room.IsListed)
    (same : state.ticket? = (room.getters getter).ticket?) :
    (room.assign getter state).IsListed := by
  refine ⟨listed.nodup, ?_, listed.unpermitted⟩
  intro other
  by_cases own : other = getter
  · subst own
    rw [getters_assign_self, same]
    exact listed.mem_waiters other
  · rw [getters_assign_of_ne own]
    exact listed.mem_waiters other

/-- A getter comes that does not wait, or goes. -/
theorem IsListed.assign_of_ne (listed : room.IsListed) (idle : getter ∉ room.waiters)
    (unwaiting : state.ticket? ≠ some .waiting) : (room.assign getter state).IsListed := by
  refine ⟨listed.nodup, ?_, listed.unpermitted⟩
  intro other
  by_cases own : other = getter
  · subst own
    rw [getters_assign_self]
    exact iff_of_false idle unwaiting
  · rw [getters_assign_of_ne own]
    exact listed.mem_waiters other

/-- No fewer keys are accounted for than before, compared to those that wait. -/
theorem IsAlert.transfer (alert : room.IsAlert more) (listed : after.IsListed)
    (idle : ∀ getter, (after.getters getter).isIdle = true → (room.getters getter).isIdle = true)
    (balance : after.shared.queue.waiting.length + room.promised ≤
      room.shared.queue.waiting.length + after.promised)
    (stopped : after.shared.queue.isShutDown = room.shared.queue.isShutDown)
    (due : .all ∈ room.due → .all ∈ after.due) : after.IsAlert more := by
  refine ⟨listed, ?_, ?_⟩
  · intro getter is_idle
    have covered := alert.covered getter (idle getter is_idle)
    omega
  · intro getter is_idle stops
    rw [stopped] at stops
    exact due (alert.stopped getter (idle getter is_idle) stops)

theorem IsAlert.register (alert : room.IsAlert more)
    (free : (room.getters getter).canRegister = true) : (room.register getter).IsAlert more := by
  have unlisted : getter ∉ room.waiters := by
    rw [alert.mem_waiters]
    exact (Getter.of_canRegister free).1
  have weight := (Getter.of_canRegister free).2
  unfold WaitingRoom.register
  split
  · have listed : { room with permit := false }.IsListed := ⟨alert.nodup, alert.mem_waiters, nofun⟩
    have promised : ({ room with permit := false }.assign getter
        (.holding .registered .permit)).promised + (room.getters getter).weight =
          room.promised + 1 := promised_assign ..
    refine alert.transfer (listed.assign_of_ne unlisted nofun) (fun _ => isIdle_of_assign rfl) ?_
      rfl id
    simp only [shared_assign]
    omega
  · rename_i unpermitted
    have promised : ({ room with waiters := room.waiters ++ [getter] }.assign getter
        (.holding .registered .waiting)).promised + (room.getters getter).weight =
          room.promised + 1 := promised_assign ..
    refine alert.transfer ⟨?_, ?_, ?_⟩ (fun _ => isIdle_of_assign rfl) ?_ rfl id
    · exact List.nodup_append.mpr ⟨alert.nodup, by simp, by simp; grind⟩
    · intro other
      by_cases own : other = getter
      · subst own
        simp [assign, Getter.ticket?]
      · rw [getters_assign_of_ne own]
        simp [assign, own, alert.mem_waiters]
    · exact fun permitted => absurd permitted unpermitted
    · simp only [shared_assign]
      omega

theorem IsAlert.park (alert : room.IsAlert more)
    (found_nothing : room.getters getter = .holding .checked .waiting) :
    (room.assign getter (.holding .parked .waiting)).IsAlert more := by
  have was_idle : (room.getters getter).isIdle = true := by
    rw [found_nothing]
    rfl
  have idle : ∀ other,
      ((room.assign getter (.holding .parked .waiting)).getters other).isIdle = true →
      (room.getters other).isIdle = true := by
    intro other idle
    by_cases own : other = getter
    · rwa [own]
    · rwa [getters_assign_of_ne own] at idle
  have promised := promised_assign room getter (.holding .parked .waiting)
  refine alert.transfer (alert.assign (by rw [found_nothing]; rfl)) idle ?_ rfl id
  simp only [found_nothing, Getter.weight, reduceCtorEq, if_false] at promised
  simp only [shared_assign]
  omega

theorem IsAlert.notifyOne (alert : room.IsAlert (more + 1)) : room.notifyOne.IsAlert more := by
  unfold WaitingRoom.notifyOne
  split
  -- Who is idle would be on the list.
  · rename_i empty
    have busy : ∀ getter, ¬(room.getters getter).isIdle = true := by
      intro getter idle
      have waits := (alert.mem_waiters getter).mpr (Getter.ticket?_of_isIdle idle)
      simp [empty] at waits
    refine ⟨⟨alert.nodup, alert.mem_waiters, fun _ => empty⟩, ?_, ?_⟩
    · exact fun getter idle => absurd idle (busy getter)
    · exact fun getter idle => absurd idle (busy getter)
  · rename_i first waiters shape
    have waits := (alert.mem_waiters first).mp (by simp [shape])
    obtain ⟨position, holds⟩ : ∃ position, room.getters first = .holding position .waiting := by
      unfold Getter.ticket? at waits
      split at waits
      · cases waits
      · cases waits
        exact ⟨_, by assumption⟩
    have nodup := alert.nodup
    rw [shape, List.nodup_cons] at nodup
    have busy : ((Getter.holding position .waiting).wake .one).isIdle = false := by
      cases position <;> rfl
    rw [holds]
    refine ⟨⟨nodup.2, ?_, ?_⟩, ?_, ?_⟩
    · intro other
      by_cases own : other = first
      · subst own
        simp [assign, Getter.wake, Getter.ticket?, nodup.1]
      · rw [getters_assign_of_ne own]
        simp [assign, ← alert.mem_waiters, shape, own]
    · intro permitted
      simp [alert.unpermitted permitted] at shape
    · intro other idle
      have covered := alert.covered other (isIdle_of_assign busy idle)
      have promised : ({ room with waiters }.assign first (.holding position .one)).promised +
          (room.getters first).weight = room.promised + (Getter.holding position .one).weight :=
        promised_assign ..
      simp only [holds, Getter.weight, reduceCtorEq, if_true, if_false] at promised
      simp only [shared_assign, Getter.wake]
      omega
    · intro other idle
      exact alert.stopped other (isIdle_of_assign busy idle)

/-- Nobody is idle after all have been woken. -/
theorem IsListed.notifyAll (listed : room.IsListed) : room.notifyAll.IsAlert more := by
  have unwaiting : ∀ getter, (room.notifyAll.getters getter).ticket? ≠ some .waiting := by
    intro getter waits
    simp only [WaitingRoom.notifyAll] at waits
    split at waits
    · rename_i woken
      rw [listed.mem_waiters] at woken
      cases state : room.getters getter with
      | away => simp [state, Getter.ticket?] at woken
      | holding => simp [state, Getter.wake, Getter.ticket?] at waits
    · rename_i unlisted
      exact unlisted ((listed.mem_waiters getter).mpr waits)
  refine ⟨⟨List.nodup_nil, ?_, fun _ => rfl⟩, ?_, ?_⟩
  · exact fun getter => iff_of_false List.not_mem_nil (unwaiting getter)
  · exact fun getter idle => absurd (Getter.ticket?_of_isIdle idle) (unwaiting getter)
  · exact fun getter idle => absurd (Getter.ticket?_of_isIdle idle) (unwaiting getter)

theorem IsAlert.drop (alert : room.IsAlert more) {position : Position}
    (ends : room.getters getter = .holding position ticket) (looked : position ≠ .registered) :
    (room.drop getter ticket).IsAlert more := by
  have waits : getter ∈ room.waiters ↔ ticket = .waiting := by
    rw [alert.mem_waiters, ends]
    simp [Getter.ticket?]
  have promised := promised_assign room getter .away
  simp only [ends, Getter.weight, looked, if_false] at promised
  cases ticket with
  | waiting =>
    refine alert.transfer ⟨alert.nodup.erase getter, ?_, ?_⟩ (fun _ => isIdle_of_assign rfl) ?_
      rfl id
    · intro other
      by_cases own : other = getter
      · subst own
        simp [WaitingRoom.drop, assign, alert.nodup.mem_erase_iff, Getter.ticket?]
      · rw [WaitingRoom.drop, getters_assign_of_ne own]
        simp [assign, alert.nodup.mem_erase_iff, own, alert.mem_waiters]
    · intro permitted
      simp [WaitingRoom.drop, assign, alert.unpermitted permitted]
    · change room.shared.queue.waiting.length + room.promised ≤
        room.shared.queue.waiting.length + (room.assign getter .away).promised
      simp only [reduceCtorEq, if_false] at promised
      omega
  | one =>
    apply IsAlert.notifyOne
    refine ⟨alert.assign_of_ne (by simp [waits]) nofun, ?_, ?_⟩
    · intro other idle
      have covered := alert.covered other (isIdle_of_assign rfl idle)
      simp only [if_true] at promised
      simp only [shared_assign]
      omega
    · intro other idle
      exact alert.stopped other (isIdle_of_assign rfl idle)
  | permit | all =>
    refine alert.transfer (alert.assign_of_ne (by simp [waits]) nofun)
      (fun _ => isIdle_of_assign rfl) ?_ rfl id
    simp only [reduceCtorEq, if_false] at promised
    simp only [WaitingRoom.drop, shared_assign]
    omega

theorem IsAlert.send (alert : room.IsAlert more) (due : .one ∈ room.due) :
    { room with due := room.due.erase .one }.IsAlert (more + 1) := by
  refine ⟨⟨alert.nodup, alert.mem_waiters, alert.unpermitted⟩, ?_, ?_⟩
  · intro getter idle
    have covered := alert.covered getter idle
    have once := List.count_pos_iff.mpr due
    simp only [promised, List.count_erase_self] at *
    omega
  · intro getter idle stops
    exact (List.mem_erase_of_ne (by decide)).mpr (alert.stopped getter idle stops)

variable [Std.TransOrd κ]

theorem IsAlert.check (alert : room.IsAlert more)
    (looks : room.getters getter = .holding .registered ticket) :
    (room.check now getter ticket).IsAlert more := by
  have listed : ∀ position, (room.assign getter (.holding position ticket)).IsListed := by
    intro position
    apply alert.toIsListed.assign
    rw [looks]
    rfl
  unfold WaitingRoom.check
  split
  · rename_i item queue took
    have takes := WorkQueue.takes_of_take? took
    have listed := listed .leaving
    refine alert.transfer ⟨listed.nodup, listed.mem_waiters, listed.unpermitted⟩
      (fun _ => isIdle_of_assign rfl) ?_ takes.isShutDown id
    -- The getter took a key, and no longer accounts for one.
    have promised := promised_assign room getter (.holding .leaving ticket)
    have waiting := congrArg List.length takes.waiting
    simp only [looks, Getter.weight, reduceCtorEq, if_true, if_false] at promised
    rw [List.length_cons] at waiting
    change queue.waiting.length + room.promised ≤ room.shared.queue.waiting.length +
      (room.assign getter (.holding .leaving ticket)).promised
    omega
  · rename_i untaken
    have empty : room.shared.queue.waiting = [] := by
      unfold WorkQueue.take? at untaken
      split at untaken
      · assumption
      · cases untaken
    refine ⟨listed _, ?_, ?_⟩
    · simp [empty]
    · intro other idle stops
      rw [shared_assign] at stops
      simp only [stops, if_true] at idle
      exact alert.stopped other (isIdle_of_assign rfl idle) stops

variable [DecidableEq κ]

/-- Whoever makes a key wait owes a signal for it. -/
theorem IsAlert.update (alert : room.IsAlert more) {operation : QueueOperation κ}
    {shared : SharedQueue κ} (acted : room.shared.act? now operation = some shared)
    (untaken : ∀ client, operation ≠ .take client) :
    { room with
      shared
      due := QueueOccasion.signals ⟨room.shared, now, operation⟩ ++ room.due }.IsAlert more := by
  have waiting := congrArg List.length (QueueOccasion.affects_of_act? acted).waiting
  have taken : QueueOccasion.takenKey? ⟨room.shared, now, operation⟩ = none := by
    cases operation with
    | take client => exact absurd rfl (untaken client)
    | _ => rfl
  rw [taken] at waiting
  refine ⟨⟨alert.nodup, alert.mem_waiters, alert.unpermitted⟩, ?_, ?_⟩
  · intro getter idle
    have covered := alert.covered getter idle
    have signals := QueueOccasion.length_entered?_le ⟨room.shared, now, operation⟩
    simp only [promised, List.count_append, List.length_append, Option.toList_none,
      List.length_nil] at *
    omega
  · intro getter idle stops
    by_cases stopping : operation = .shutDown
    · subst stopping
      exact List.mem_cons_self
    · rw [QueueOccasion.isShutDown_of_act? acted stopping] at stops
      exact List.mem_append_right _ (alert.stopped getter idle stops)

theorem isAlert_of_run (run : Run size room) : room.IsAlert 0 := by
  induction run with
  | start => exact ⟨⟨List.nodup_nil, fun _ => by simp [start, Getter.ticket?], nofun⟩, nofun, nofun⟩
  | @step before after now action run acted alert =>
    cases action with
    | register getter =>
      simp only [act?] at acted
      split at acted
      · rename_i free
        cases acted
        exact alert.register free
      · cases acted
    | check getter =>
      simp only [act?] at acted
      split at acted
      · rename_i looks
        cases acted
        exact alert.check looks
      · cases acted
    | park getter =>
      simp only [act?] at acted
      split at acted
      · rename_i found_nothing
        cases acted
        exact alert.park found_nothing
      · cases acted
    | drop getter =>
      simp only [act?] at acted
      split at acted
      · rename_i ends
        cases acted
        exact alert.drop ends nofun
      · rename_i ends
        cases acted
        exact alert.drop ends nofun
      · cases acted
    | update operation =>
      simp only [act?] at acted
      split at acted
      · cases acted
      · rename_i untaken
        obtain ⟨shared, used, rfl⟩ := Option.map_eq_some_iff.mp acted
        exact alert.update used untaken
    | notify signal =>
      simp only [act?] at acted
      split at acted
      · rename_i due
        cases signal with
        | one =>
          cases acted
          exact (alert.send due).notifyOne
        | all =>
          cases acted
          exact IsListed.notifyAll ⟨alert.nodup, alert.mem_waiters, alert.unpermitted⟩
      · cases acted

theorem not_isStalled_of_run (run : Run size room) : ¬room.IsStalled := by
  intro stalled
  have alert := isAlert_of_run run
  obtain ⟨getter, parked⟩ := stalled.asleep
  have idle : (room.getters getter).isIdle = true := by
    rw [parked]
    rfl
  have nobody : room.promised = 0 := by
    have weightless : ∀ getter, (room.getters getter).weight = 0 := by
      intro other
      exact Getter.weight_eq_zero (stalled.unwoken other) (stalled.looked other)
    simp [promised, stalled.silent, weightless]
  have covered := alert.covered getter idle
  rcases stalled.pending with waiting | stops
  · rw [nobody] at covered
    exact waiting (List.eq_nil_of_length_eq_zero (Nat.le_zero.mp covered))
  · have due := alert.stopped getter idle stops
    simp [stalled.silent] at due

theorem run_of_replay? {actions : List (WaitingAction κ size)} (run : Run size room)
    (replayed : room.replay? actions = some after) : Run size after := by
  induction actions generalizing room with
  | nil =>
    cases replayed
    exact run
  | cons action rest ih =>
    obtain ⟨next, acted, replayed⟩ := Option.bind_eq_some_iff.mp replayed
    exact ih (run.step acted) replayed

/-- One getter has gone on with the first key; the other one is still parked while the second key
waits, and the signal for that one is about to be sent. -/
theorem not_isStalled_of_run_parked :
    ∃ room : WaitingRoom Nat 2, Run 2 room ∧ ¬room.IsStalled ∧
      room.getters 1 = .holding .parked .waiting ∧ room.shared.queue.waiting = [8] := by
  have replayed : ∃ room ∈ (start : WaitingRoom Nat 2).replay?
        [.register 0, .check 0, .park 0, .register 1, .check 1, .park 1, .update (.add 7),
          .notify .one, .register 0, .update (.add 8), .check 0],
      room.getters 1 = .holding .parked .waiting ∧ room.shared.queue.waiting = [8] := by
    decide +kernel
  obtain ⟨room, replayed, parked, waiting⟩ := replayed
  have run := run_of_replay? .start replayed
  exact ⟨room, run, not_isStalled_of_run run, parked, waiting⟩

end WaitingRoom

end ServiceRecords
