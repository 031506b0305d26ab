import PolicyGate.Gate.State
import PolicyGate.Interleaving.Program

namespace PolicyGate

open Interleaving

variable {T P : Type}

/-! The operations of `Entry`, one atomic action for each access to shared memory. -/

def clockNow : Program (Gate T P) Nat := .read fun s => some s.clock

/-- A thread that runs into an `unreachable!` stops there. -/
def reachUnreachable {α : Type} : Program (Gate T P) α := do
  .modify fun s => { s with unreachable := true }
  .act fun _ _ => none

namespace Gate

def load (s : Gate T P) (entry : Entry T) : Option (SnapshotArc P) :=
  (s.cells entry.id).map EntryCell.current

/-- Notes a read that settles what its caller sees. -/
def observe (s : Gate T P) (entry : Entry T) (reader : Reader T) (thread now : Nat) : Gate T P :=
  s.updateCell entry.id fun cell => cell.observe reader thread now

/-- Replaces the entry's snapshot.  A watch change is applied when it is published. -/
def replaceCurrent (s : Gate T P) (entry : Entry T) (next : EntrySnapshot P)
    (event : EntryEvent T P) : Gate T P :=
  let replaced := s.updateCell entry.id fun cell => cell.replace next event
  if event.isChange then replaced.applied else replaced

/-- `ArcSwap::compare_and_swap` on the entry's snapshot; `missed` runs where it fails. -/
def compareAndSwap (entry : Entry T) (previous : SnapshotArc P) (next : EntrySnapshot P)
    (event : EntryEvent T P) (missed : Gate T P → Gate T P) (s : Gate T P) :
    Option (SnapshotArc P × Gate T P) :=
  (s.cells entry.id).map fun cell =>
    if cell.current.address = previous.address then
      (cell.current, s.replaceCurrent entry next event)
    else (cell.current, missed s)

/-- Stage of a lookup after it left its slot through `replace_pending`. -/
def leaveSlot : Stage → Stage
  | .claimed _ | .validated _ => .released
  | stage => stage

/-- `ArcSwapOption::compare_and_swap` on the pending slot, where it holds `current`. -/
def swapPending (s : Gate T P) (entry : Entry T) (current : PendingFetch T P)
    (replacement : Option (PendingFetch T P)) : Gate T P :=
  let emptied :=
    (s.updateCell entry.id fun cell => { cell with pending := replacement }).updateFlight
      current.generation fun flight => { flight with stage := leaveSlot flight.stage }
  match replacement with
  | none => emptied
  | some retry =>
      emptied.updateFlight retry.generation fun flight =>
        { flight with stage := .placed, placed := s.clock }

def holdsPending (cell : EntryCell T P) (current : PendingFetch T P) : Bool :=
  match cell.pending with
  | some pending => pending.generation = current.generation
  | none => false

end Gate

namespace Entry

variable (entry : Entry T)

def load : Program (Gate T P) (SnapshotArc P) := .read fun s => s.load entry

def compareAndSwap (previous : SnapshotArc P) (next : EntrySnapshot P) (event : EntryEvent T P) :
    Program (Gate T P) (SnapshotArc P) :=
  .act fun _ => Gate.compareAndSwap entry previous next event fun s => s

def loadObserved (reader : Reader T) (now : Nat) : Program (Gate T P) (SnapshotArc P) :=
  .act fun pick s => (s.load entry).map fun current =>
    (current, s.observe entry reader pick.thread now)

/-- The compare-and-swap of `current_at`; where it fails it loads the snapshot again. -/
def latchStale (reader : Reader T) (now : Nat) (current : SnapshotArc P) :
    Program (Gate T P) (SnapshotArc P) :=
  .act fun pick =>
    Gate.compareAndSwap entry current current.value.stale (.latched reader now)
      fun s => s.observe entry reader pick.thread now

def currentAt (reader : Reader T) (now : Nat) : Program (Gate T P) (EntrySnapshot P × Bool) := do
  let current ← entry.loadObserved reader now
  .iterate current fun current =>
    if entry.isExpiredAt current.value.word now = false then pure (.inr (current.value, false))
    else
      if current.value.word = staleWord current.value.word then pure (.inr (current.value, true))
      else do
        let changed ← entry.latchStale reader now current
        if changed.address = current.address then pure (.inr (current.value.stale, true))
        else pure (.inl changed)

def stateAt (reader : Reader T) (now : Nat) : Program (Gate T P) EntryState := do
  let (decision, expired) ← entry.currentAt reader now
  pure (if expired then .stale else decision.state)

end Entry

inductive Observed where
  | allowed
  | denied
  | expired
  | stale
deriving DecidableEq, Repr

namespace Entry

variable (entry : Entry T)

def observedAt (reader : Reader T) (now : Nat) : Program (Gate T P) Observed := do
  let (decision, expired) ← entry.currentAt reader now
  if expired then pure .expired
  else
    match decision.state with
    | .pending => reachUnreachable
    | .stale => pure .stale
    | .allowed => pure .allowed
    | .denied => pure .denied

def verdictAt (reader : Reader T) (now : Nat) : Program (Gate T P) (Option Decision) := do
  let (decision, expired) ← entry.currentAt reader now
  if expired then pure none
  else
    match decision.state with
    | .allowed => pure (some .allowed)
    | .denied => pure (some .denied)
    | .pending | .stale => pure none

def compareExchange (expected : EntryState) (next : EntrySnapshot P) (event : EntryEvent T P) :
    Program (Gate T P) (Except EntryState Unit) := do
  let previous ← entry.load
  .iterate previous fun previous =>
    if previous.value.state ≠ expected then pure (.inr (.error previous.value.state))
    else do
      let changed ← entry.compareAndSwap previous next event
      if changed.address = previous.address then pure (.inr (.ok ()))
      else pure (.inl changed)

def pendingOperation : Program (Gate T P) (Option (PendingFetch T P)) :=
  .read fun s => (s.cells entry.id).map EntryCell.pending

def refreshNotBefore : Program (Gate T P) Nat :=
  .read fun s => (s.cells entry.id).map EntryCell.refreshNotBefore

def refreshEligibleAt (current : EntrySnapshot P) (now : Nat) : Program (Gate T P) Bool :=
  if entry.inRefreshWindow current now then do
    let notBefore ← entry.refreshNotBefore
    pure (notBefore ≤ entry.tick now)
  else pure false

def refreshDueAt (current : EntrySnapshot P) (now : Nat) : Program (Gate T P) Bool := do
  if ← entry.refreshEligibleAt current now then
    let pending ← entry.pendingOperation
    pure pending.isNone
  else pure false

def pendingGeneration (generation : Nat) : Program (Gate T P) (Option (PendingFetch T P)) := do
  let pending ← entry.pendingOperation
  pure (pending.filter fun pending => pending.generation = generation)

def pendingIs (fetch : PendingFetch T P) : Program (Gate T P) Bool := do
  let pending ← entry.pendingOperation
  pure (pending.any fun current => current.generation = fetch.generation)

def casPending (current : PendingFetch T P) (replacement : Option (PendingFetch T P)) :
    Program (Gate T P) Bool :=
  .act fun _ s => (s.cells entry.id).map fun cell =>
    if Gate.holdsPending cell current then (true, s.swapPending entry current replacement)
    else (false, s)

def replacePending (generation : Nat) (replacement : Option (PendingFetch T P)) :
    Program (Gate T P) Bool := do
  match ← entry.pendingGeneration generation with
  | none => pure false
  | some current => entry.casPending current replacement

/-- `self.pending.swap(None)`. -/
def takePending : Program (Gate T P) (Option (PendingFetch T P)) :=
  .act fun _ s => (s.cells entry.id).map fun cell =>
    let emptied := s.updateCell entry.id fun cell => { cell with pending := none }
    match cell.pending with
    | none => (none, emptied)
    | some pending =>
        (some pending, emptied.updateFlight pending.generation fun flight =>
          { flight with taken := true })

def abortPending : Program (Gate T P) Unit := do
  match ← entry.takePending with
  | none => pure ()
  | some pending =>
      .modify fun s => s.updateFlight pending.generation fun flight => { flight with aborted := true }

/-- `Entry::admission`: the handle is the entry itself. -/
def admission (reader : Reader T) : Program (Gate T P) (Option (Entry T)) := do
  let now ← clockNow
  let verdict ← entry.verdictAt reader now
  pure (verdict.map fun _ => entry)

def invalidate : Program (Gate T P) Unit := do
  let previous ← entry.load
  .iterate previous fun previous => do
    let changed ← entry.compareAndSwap previous previous.value.stale .invalidated
    if changed.address = previous.address then pure (.inr ()) else pure (.inl changed)
  entry.abortPending

end Entry

end PolicyGate
