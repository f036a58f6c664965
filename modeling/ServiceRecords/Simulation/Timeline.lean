import ServiceRecords.Queue.WorkQueue

set_option autoImplicit false

/-!
Virtual time. A timeline holds a state, the present time and what is still to happen. Time jumps
from one due time to the next, and what falls due happens at its exact time, in order. Whatever
follows at once from that happens before time goes on. What is taken from an agenda is exactly
what is due (`mem_takeDue`, `later_of_takeDue`), and an advance takes the time that it is given
(`now_advance`).
-/

namespace ServiceRecords.Simulation

variable {σ ε : Type}

/-- What is still to happen, in the order in which it was planned. -/
structure Agenda (ε : Type) where
  entries : List (Nat × ε)

namespace Agenda

def empty : Agenda ε := ⟨[]⟩

def plan (agenda : Agenda ε) (due : Nat) (event : ε) : Agenda ε :=
  ⟨agenda.entries ++ [(due, event)]⟩

def earliest? (agenda : Agenda ε) : Option Nat := (agenda.entries.map (·.1)).min?

/-- What is due at a time, in the order of due times, and what is not. -/
def takeDue (agenda : Agenda ε) (now : Nat) : List ε × Agenda ε :=
  let (due, later) := agenda.entries.partition (·.1 ≤ now)
  ((due.mergeSort fun a b => a.1 ≤ b.1).map (·.2), ⟨later⟩)

theorem mem_takeDue {agenda : Agenda ε} {now : Nat} {event : ε} :
    event ∈ (agenda.takeDue now).1 ↔ ∃ due ≤ now, (due, event) ∈ agenda.entries := by
  simp only [takeDue, List.partition_eq_filter_filter, List.mem_map, List.mem_mergeSort,
    List.mem_filter, decide_eq_true_eq, Prod.exists, exists_eq_right]
  exact exists_congr fun due => and_comm

theorem later_of_takeDue {agenda : Agenda ε} {now : Nat} {entry : Nat × ε}
    (h : entry ∈ (agenda.takeDue now).2.entries) : now < entry.1 := by
  simp only [takeDue, List.partition_eq_filter_filter, List.mem_filter] at h
  simpa using h.2

end Agenda

structure Timeline (σ ε : Type) where
  now : Nat := 0
  agenda : Agenda ε := .empty
  state : σ

/-- A change of the state at a time, with what it causes after a number of milliseconds. -/
abbrev Happening (σ ε : Type) := Nat → σ → σ × List (Nat × ε)

/-- How a state behaves in time. -/
structure Behaviour (σ ε : Type) where
  /-- A planned event falls due. -/
  occur : ε → Happening σ ε
  /-- What follows at once after anything has happened. -/
  settle : Happening σ ε

namespace Timeline

def happen (timeline : Timeline σ ε) (happening : Happening σ ε) : Timeline σ ε :=
  let (state, planned) := happening timeline.now timeline.state
  { timeline with
    state
    agenda := planned.foldl (fun agenda (delay, event) => agenda.plan (timeline.now + delay) event)
      timeline.agenda }

@[simp] theorem now_happen (timeline : Timeline σ ε) (happening : Happening σ ε) :
    (timeline.happen happening).now = timeline.now := rfl

def happenAll (occur : ε → Happening σ ε) (timeline : Timeline σ ε) (events : List ε) :
    Timeline σ ε :=
  events.foldl (fun timeline event => timeline.happen (occur event)) timeline

@[simp] theorem now_happenAll (occur : ε → Happening σ ε) (timeline : Timeline σ ε)
    (events : List ε) : (timeline.happenAll occur events).now = timeline.now := by
  induction events generalizing timeline with
  | nil => rfl
  | cons event events ih => exact (ih _).trans (now_happen _ _)

/-- The next time at which something happens, which is after the present. -/
def next? (timeline : Timeline σ ε) : Option Nat :=
  timeline.agenda.earliest?.map (max (timeline.now + 1))

theorem now_lt_of_next? {timeline : Timeline σ ε} {time : Nat}
    (h : timeline.next? = some time) : timeline.now < time := by
  obtain ⟨_, _, rfl⟩ := Option.map_eq_some_iff.mp h
  omega

/-- Lets everything happen that is due until a time. -/
def runUntil (behaviour : Behaviour σ ε) (limit : Nat) (timeline : Timeline σ ε) :
    Timeline σ ε :=
  match _next_eq : timeline.next? with
  | none => { timeline with now := max timeline.now limit }
  | some now =>
    if now ≤ limit then
      let (events, agenda) := timeline.agenda.takeDue now
      runUntil behaviour limit
        (({ timeline with now, agenda }.happenAll behaviour.occur events).happen behaviour.settle)
    else { timeline with now := max timeline.now limit }
termination_by limit - timeline.now
decreasing_by
  have := now_lt_of_next? _next_eq
  simp only [now_happen, now_happenAll]
  omega

@[simp] theorem now_runUntil (behaviour : Behaviour σ ε) (limit : Nat) (timeline : Timeline σ ε) :
    (timeline.runUntil behaviour limit).now = max timeline.now limit := by
  fun_induction runUntil behaviour limit timeline with
  | case1 => rfl
  | case2 timeline now next_eq now_le events agenda takeDue_eq ih =>
    have := now_lt_of_next? next_eq
    simp only [now_happen, now_happenAll] at ih
    omega
  | case3 => rfl

def advance (behaviour : Behaviour σ ε) (milliseconds : Nat) (timeline : Timeline σ ε) :
    Timeline σ ε :=
  timeline.runUntil behaviour (timeline.now + milliseconds)

@[simp] theorem now_advance (behaviour : Behaviour σ ε) (milliseconds : Nat)
    (timeline : Timeline σ ε) :
    (timeline.advance behaviour milliseconds).now = timeline.now + milliseconds := by
  simp [advance]

/-- Something happens at the present time, with all that follows at once. -/
def act (behaviour : Behaviour σ ε) (happening : Happening σ ε) (timeline : Timeline σ ε) :
    Timeline σ ε :=
  (timeline.happen happening).happen behaviour.settle

/-- The state is changed from outside, with all that follows at once. -/
def change (behaviour : Behaviour σ ε) (f : Nat → σ → σ) (timeline : Timeline σ ε) :
    Timeline σ ε :=
  timeline.act behaviour fun now state => (f now state, [])

end Timeline

end ServiceRecords.Simulation
