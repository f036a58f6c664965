import ServiceRecords.Simulation.Timeline

set_option autoImplicit false

/-!
A work queue with customers who wait for one key each, first come first served.
-/

namespace ServiceRecords.Simulation

structure Desk where
  queue : WorkQueue String := .empty
  /-- The customers who wait, in the order in which they came -/
  waiting : List String := []
  /-- The customers who left, in order, with the key that they got -/
  served : List (String × Option String) := []

namespace Desk

/-- Hands out keys to customers; once there will be no more keys they leave without one. -/
def serve (now : Nat) (queue : WorkQueue String) : List String → Desk
  | [] => { queue }
  | customer :: others =>
    match queue.take? now with
    | some (item, queue) =>
      let desk := serve now queue others
      { desk with served := (customer, some item.key) :: desk.served }
    | none =>
      if queue.isShutDown then
        let desk := serve now queue others
        { desk with served := (customer, none) :: desk.served }
      else { queue, waiting := customer :: others }

def update (change : WorkQueue String → WorkQueue String) (desk : Desk) : Desk :=
  { desk with queue := change desk.queue }

/-- What a customer who does not wait learns. -/
inductive Taken where
  | item (item : WorkItem String)
  | blocked
  | closed

def take (now : Nat) (desk : Desk) : Taken × Desk :=
  match desk.queue.take? now with
  | some (item, queue) => (.item item, { desk with queue })
  | none => (if desk.queue.isShutDown then .closed else .blocked, desk)

/-- A new customer comes. -/
def enter (customer : String) (desk : Desk) : Desk :=
  { desk with waiting := desk.waiting ++ [customer] }

/-- Planned additions are made when they fall due, and customers are served at once. -/
def behaviour : Behaviour Desk String where
  occur key := fun now desk => (desk.update (·.add now key), [])
  settle := fun now desk =>
    let after := serve now desk.queue desk.waiting
    ({ after with served := desk.served ++ after.served }, [])

/-- A new state of the queue, with the addition of a key after milliseconds that it may ask for. -/
def plan (key : String) (line : Timeline Desk String)
    (planned : Option Nat × WorkQueue String) : Timeline Desk String :=
  line.act behaviour fun _ desk =>
    ({ desk with queue := planned.2 }, planned.1.toList.map (·, key))

def addAfter (delay : Duration) (key : String) (line : Timeline Desk String) :
    Timeline Desk String :=
  plan key line (line.state.queue.addAfter line.now delay key)

def retry (delay : Nat → Except BackoffError Duration) (key : String)
    (line : Timeline Desk String) : Except BackoffError (Timeline Desk String) :=
  (line.state.queue.retry line.now delay key).map (plan key line)

end Desk

end ServiceRecords.Simulation
