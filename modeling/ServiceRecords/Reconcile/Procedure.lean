import ServiceRecords.Service
import ServiceRecords.Store.Error

set_option autoImplicit false

/-!
Procedures: work that proceeds by single requests to its surroundings. Between two requests of
one procedure anything else may happen, so a procedure says nothing about the state it runs in;
whoever runs it answers its requests one at a time.
-/

namespace ServiceRecords

/-- What a procedure can ask of its surroundings. -/
inductive Request where
  | readService (key : Key)
  | readStale (key : Key)
  | clearStale (key : Key) (zones : List String)
  | markStale (key : Key) (zone : String)
  /-- Has a worker look at the key. -/
  | enqueue (key : Key)
  /-- The entries whose keys begin with a text, in key order. -/
  | list (start : String)
  | put (key value : String)
  | delete (key : String)
  deriving DecidableEq, Repr

namespace Request

/-- What a request is answered with. -/
abbrev Reply : Request → Type
  | readService _ => Option Service
  | readStale _ => List String
  | clearStale .. => Unit
  | markStale .. => Unit
  | enqueue _ => Unit
  | list _ => Except StoreError (List (String × String))
  | put .. => Except StoreError Unit
  | delete _ => Except StoreError Unit

end Request

inductive Procedure (α : Type) where
  | done (result : α)
  | ask (request : Request) (resume : request.Reply → Procedure α)

namespace Procedure

variable {α β σ : Type}

def bind : Procedure α → (α → Procedure β) → Procedure β
  | done result, next => next result
  | ask request resume, next => ask request fun reply => (resume reply).bind next

instance : Monad Procedure where
  pure := done
  bind := bind

/-- The procedure that makes one request and ends with its reply. -/
def request (r : Request) : Procedure r.Reply := ask r done

/-- Runs a procedure without interruption where `answer` serves the requests. -/
def run (answer : (r : Request) → σ → r.Reply × σ) : Procedure α → σ → α × σ
  | done result, state => (result, state)
  | ask r resume, state =>
    let (reply, state) := answer r state
    (resume reply).run answer state

@[simp] theorem pure_eq (result : α) : (pure result : Procedure α) = done result := rfl

@[simp] theorem bind_eq (first : Procedure α) (next : α → Procedure β) :
    (first >>= next) = first.bind next := rfl

@[simp] theorem bind_done (first : Procedure α) : first.bind done = first := by
  induction first with
  | done => rfl
  | ask request resume ih => simp [bind, ih]

theorem bind_assoc {γ : Type} (first : Procedure α) (second : α → Procedure β)
    (third : β → Procedure γ) :
    (first.bind second).bind third = first.bind fun a => (second a).bind third := by
  induction first with
  | done => rfl
  | ask request resume ih => simp [bind, ih]

instance : LawfulMonad Procedure :=
  LawfulMonad.mk' Procedure (fun first => bind_done first) (fun _ _ => rfl) bind_assoc

theorem run_bind (answer : (r : Request) → σ → r.Reply × σ) (first : Procedure α)
    (next : α → Procedure β) (state : σ) :
    (first.bind next).run answer state =
      (next (first.run answer state).1).run answer (first.run answer state).2 := by
  induction first generalizing state with
  | done => rfl
  | ask request resume ih => simp [bind, run, ih]

end Procedure

end ServiceRecords
