import Mathlib.Logic.Function.Basic

namespace Interleaving

/-! Programs over shared memory whose threads interleave at every atomic action.

A program is a tree of atomic actions on a shared state `σ`.  Each action reads
and writes the whole state at once; between two actions of one thread any number
of actions of the others may run.  Nothing here depends on what the state is.
-/

/-- One scheduling decision: the thread that moves and, for an action with
several outcomes, which of them it takes. -/
structure Pick where
  thread : Nat
  choice : Nat
deriving DecidableEq, Repr

/-- An action is not enabled in a state where it returns `none`.  A `wait` is an
await point: the caller may drop the program there, and then runs `dropped`. -/
inductive Program (σ : Type) : Type → Type 1 where
  | done {α : Type} (value : α) : Program σ α
  | atomic {α β : Type} (action : Pick → σ → Option (β × σ))
      (next : β → Program σ α) : Program σ α
  | wait {α β : Type} (action : Pick → σ → Option (β × σ))
      (next : β → Program σ α) (dropped : Program σ Unit) : Program σ α
  | loop {α β γ : Type} (body : γ → Program σ (γ ⊕ β)) (start : γ)
      (next : β → Program σ α) : Program σ α

namespace Program

variable {σ α β γ : Type}

def bind : Program σ α → (α → Program σ β) → Program σ β
  | .done value, f => f value
  | .atomic action next, f => .atomic action fun result => (next result).bind f
  | .wait action next dropped, f =>
      .wait action (fun result => (next result).bind f) dropped
  | .loop body start next, f => .loop body start fun result => (next result).bind f

instance : Monad (Program σ) where
  pure := .done
  bind := .bind

/-- A single atomic action as a program. -/
def act (action : Pick → σ → Option (β × σ)) : Program σ β := .atomic action .done

def read (view : σ → Option β) : Program σ β :=
  act fun _ s => (view s).map fun value => (value, s)

def modify (f : σ → σ) : Program σ Unit := act fun _ s => some ((), f s)

/-- An await point with nothing to clean up when it is dropped. -/
def await (action : Pick → σ → Option (β × σ)) : Program σ β :=
  .wait action .done (.done ())

/-- Repeats `body` from `start` until it answers `.inr`. -/
def iterate (start : γ) (body : γ → Program σ (γ ⊕ β)) : Program σ β :=
  .loop body start .done

@[simp] theorem done_bind (value : α) (f : α → Program σ β) :
    (Program.done value >>= f) = f value := rfl

@[simp] theorem pure_eq_done (value : α) : (pure value : Program σ α) = .done value := rfl

/-- The head of a loop unfolds by a step of its own that leaves the state as it is. -/
def step : Program σ α → Pick → σ → Option (Program σ α × σ)
  | .done _, _, _ => none
  | .atomic action next, pick, s => (action pick s).map fun result => (next result.1, result.2)
  | .wait action next _, pick, s => (action pick s).map fun result => (next result.1, result.2)
  | .loop body start next, _, s =>
      some ((body start).bind (Sum.elim (fun again => .loop body again next) next), s)

def drop : Program σ α → Option (Program σ Unit)
  | .wait _ _ dropped => some dropped
  | _ => none

end Program

/-- A pool of threads over one shared state. -/
structure Config (σ : Type) where
  shared : σ
  threads : Nat → Program σ Unit

inductive Move (ε : Type) where
  | run (pick : Pick)
  | drop (thread : Nat)
  | environment (event : ε)

def Move.actor {ε : Type} : Move ε → Option Nat
  | .run pick => some pick.thread
  | .drop thread => some thread
  | .environment _ => none

namespace Config

variable {σ ε : Type}

def move (environment : ε → σ → Option σ) (c : Config σ) : Move ε → Option (Config σ)
  | .run pick =>
      ((c.threads pick.thread).step pick c.shared).map fun result =>
        { shared := result.2, threads := Function.update c.threads pick.thread result.1 }
  | .drop thread =>
      (c.threads thread).drop.map fun dropped =>
        { c with threads := Function.update c.threads thread dropped }
  | .environment event =>
      (environment event c.shared).map fun shared => { c with shared }

def run (environment : ε → σ → Option σ) (c : Config σ) : List (Move ε) → Option (Config σ)
  | [] => some c
  | m :: rest => (c.move environment m).bind fun next => next.run environment rest

theorem run_append (environment : ε → σ → Option σ) (c : Config σ) (first second : List (Move ε)) :
    c.run environment (first ++ second) =
      (c.run environment first).bind fun middle => middle.run environment second := by
  induction first generalizing c with
  | nil => rfl
  | cons m rest ih =>
      simp only [List.cons_append, run]
      cases c.move environment m with
      | none => rfl
      | some next => exact ih next

end Config

end Interleaving
