import PolicyGate.Gate.Admit
import PolicyGate.Gate.Watcher

namespace PolicyGate

open Interleaving

variable {T P : Type} [DecidableEq T] (rt : Runtime)

namespace Admission

/-- A caller holds a handle only to an entry whose decision was read when the handle was made. -/
def issued (cell : EntryCell T P) : Bool :=
  cell.log.any fun
    | .observed _ _ now snapshot =>
        !cell.entry.isExpiredAt snapshot.word now && snapshot.state.Authoritative
    | _ => false

def hold (entry : Entry T) : Program (Gate T P) Unit :=
  .act fun _ s =>
    match s.cells entry.id with
    | some cell => if cell.entry = entry ∧ issued cell then some ((), s) else none
    | none => none

/-- `observe`, with the clock reading it used. -/
def observe (entry : Entry T) : Program (Gate T P) (Nat × Observed) := do
  let now ← clockNow
  let seen ← entry.observedAt .state now
  pure (now, seen)

/-- `state`, and with it `is_allowed` and the `Debug` output. -/
def state (entry : Entry T) : Program (Gate T P) (Outcome T P) := do
  let now ← clockNow
  let observed ← entry.observedAt .state now
  pure (.state entry now (match observed with
    | .allowed => .allowed
    | .denied => .denied
    | .expired | .stale => .stale))

def check (entry : Entry T) : Program (Gate T P) (Outcome T P) := do
  let now ← clockNow
  let (current, expired) ← entry.currentAt .check now
  if expired then pure (.checked entry now .stale false)
  else
    match current.state with
    | .pending => reachUnreachable
    | .allowed | .denied | .stale => do
        let due ← entry.refreshDueAt current now
        pure (.checked entry now current.state due)

/-- What `payload` answers where it read `current`. -/
def payloadOf (current : EntrySnapshot P) (expired : Bool) : Option P :=
  if !expired && current.state = .allowed then current.payload else none

def payload (entry : Entry T) : Program (Gate T P) (Outcome T P) := do
  let now ← clockNow
  let (current, expired) ← entry.currentAt .payload now
  pure (.payload entry now (payloadOf current expired))

end Admission

/-- What the threads beside the watcher may be asked to run, each any number of times. -/
inductive Call (T : Type) where
  | admitSubject (subject : T)
  | tryCached (subject : T)
  | checkWithoutRefresh (subject : T)
  | refresh (subject : T) (admission : Entry T)
  | state (admission : Entry T)
  | check (admission : Entry T)
  | payload (admission : Entry T)
  | invalidate (admission : Entry T)
  /-- the polls of one lookup's shared future -/
  | poll (generation : Nat)

def report (outcome : Outcome T P) : Program (Gate T P) Unit :=
  .act fun pick s =>
    some ((), { s with outcomes := Function.update s.outcomes pick.thread (some outcome) })

def Call.program : Call T → Program (Gate T P) Unit
  | .admitSubject subject => do
      let admission ← PolicyGate.admitSubject rt subject
      report (.admitted subject admission)
  | .tryCached subject => do
      let admission ← PolicyGate.check rt subject
      report (.cached subject admission)
  | .checkWithoutRefresh subject => do
      let admission ← PolicyGate.checkWithoutRefresh rt subject
      report (.cached subject admission)
  | .refresh subject admission => do
      Admission.hold admission
      refreshEntry rt subject admission
      report .refreshed
  | .state admission => do
      Admission.hold admission
      let outcome ← Admission.state admission
      report outcome
  | .check admission => do
      Admission.hold admission
      let outcome ← Admission.check admission
      report outcome
  | .payload admission => do
      Admission.hold admission
      let outcome ← Admission.payload admission
      report outcome
  | .invalidate admission => do
      Admission.hold admission
      admission.invalidate
      report .invalidated
  | .poll generation => runFetch rt generation

inductive GateEvent (T P : Type) where
  | advance (duration : Nat)
  /-- the authority changes a decision and emits the change on the open stream, if there is one -/
  | decide (change : DecisionChange T)
  | streamError (error : DecisionSourceError)
  | streamEnd
  /-- the source settles what it answers a call in flight -/
  | answer (generation : Nat) (answer : Answer P)

namespace Gate

def emit (s : Gate T P) (item : StreamItem T) : Gate T P :=
  { s with stream := s.stream.map fun items => items ++ [item] }

def environment : GateEvent T P → Gate T P → Option (Gate T P)
  | .advance duration, s => some { s with clock := s.clock + duration }
  | .decide change, s =>
      some { s.emit (.change change) with
        authority := Function.update s.authority change.subject change.decision }
  | .streamError error, s => some (s.emit (.error error))
  | .streamEnd, s => some (s.emit .ended)
  | .answer generation answer, s =>
      match s.flights generation with
      | some flight =>
          match flight.stage, flight.answer with
          | .calling _, none =>
              some (s.updateFlight generation fun flight =>
                { flight with answer := some answer, truth := s.authority flight.fetch.subject })
          | _, _ => none
      | none => none

end Gate

/-- The watcher is thread 0; every other thread runs one call. -/
def start (authority : T → Option Decision) (calls : Nat → Call T) : Config (Gate T P) where
  shared := .new rt.constructed authority
  threads
    | 0 => watchSource rt
    | thread + 1 => (calls thread).program rt

/-- `c` is reached in some interleaving of the watcher, the calls and the environment. -/
def Reachable (authority : T → Option Decision) (calls : Nat → Call T) (c : Config (Gate T P)) :
    Prop :=
  ∃ moves, (start rt authority calls).run Gate.environment moves = some c

/-- `later` is reached from `c` by further moves. -/
def Leads (c later : Config (Gate T P)) : Prop :=
  ∃ moves, c.run Gate.environment moves = some later

end PolicyGate
