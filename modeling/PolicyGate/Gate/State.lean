import PolicyGate.Entry.Log
import PolicyGate.Data.Lru

namespace PolicyGate

/-! The memory the gate's threads share.

Fields the source does not have are marked as ghosts: they record what happened
and who holds what, and no action of the code depends on them.
-/

/-- A snapshot behind its `Arc`; `address` tells apart all snapshots one entry ever held. -/
structure SnapshotArc (P : Type) where
  address : Nat
  value : EntrySnapshot P

/-- One lookup.  Its `generation` is fresh, so it also identifies the `Arc`. -/
structure PendingFetch (T P : Type) where
  generation : Nat
  entry : Entry T
  subject : T
  delay : Option Nat
  refreshFrom : Option (SnapshotArc P)

structure EntryCell (T P : Type) where
  entry : Entry T
  current : SnapshotArc P
  pending : Option (PendingFetch T P)
  refreshNotBefore : Nat
  /-- ghost: what happened to the entry -/
  log : EntryLog T P
  /-- ghost: the session whose connect cleared the map the entry was inserted into -/
  session : Option Nat

/-- How far a lookup has come; the numbers name the thread that holds it. -/
inductive Stage where
  /-- made by `new_fetch_after`, not yet in a slot -/
  | created (maker : Nat)
  /-- a cold lookup put into its entry's slot, not yet polled -/
  | placed
  /-- a refresh that claimed the slot, under its enqueuer's guard -/
  | claimed (enqueuer : Nat)
  /-- the enqueuer saw the snapshot it refreshes still in place after the claim -/
  | validated (enqueuer : Nat)
  /-- given up by its enqueuer -/
  | released
  | queued
  /-- in the connected watcher's in-flight set, not yet polled -/
  | flying
  /-- polled past the abort check in the poll that runs, the source not yet called -/
  | polled (poller : Nat)
  /-- its poll returned in the sleep before the source call -/
  | asleep (poller : Nat)
  /-- the source call is in flight -/
  | calling (poller : Nat)
  /-- the source call returned or never started, the result not yet applied -/
  | returned (poller : Nat)
  | finished
deriving DecidableEq, Repr

def Stage.owner : Stage → Option Nat
  | .created thread | .claimed thread | .validated thread | .polled thread | .asleep thread
  | .calling thread | .returned thread => some thread
  | .placed | .released | .queued | .flying | .finished => none

abbrev FetchResult := Except DecisionSourceError Unit

/-- A lookup with its shared state. -/
structure Flight (T P : Type) where
  fetch : PendingFetch T P
  stage : Stage
  /-- an admission polls the shared future -/
  joined : Bool := false
  aborted : Bool := false
  outcome : Option FetchResult := none
  /-- what the source answers -/
  answer : Option (Answer P) := none
  /-- ghost: `abort_pending` took it out of its slot -/
  taken : Bool := false
  /-- ghost: the authority's decision when the source answered -/
  truth : Option Decision := none
  /-- ghost: how many watch streams had been opened when the source call began -/
  begun : Option Nat := none
  /-- ghost: when it was put into its slot as the retry of a failed lookup -/
  placed : Nat := 0

structure SubjectSlot (T : Type) where
  entry : Entry T
  lastTouched : Nat

structure SubjectMap (T : Type) where
  lock : Option Nat
  cache : Data.Lru T (SubjectSlot T)
  /-- ghost: entries the critical section in progress took out of the map -/
  limbo : List (Entry T)

structure PublishState where
  lock : Option Nat
  generation : Nat
  nextAllowed : Nat
  /-- ghost: the clock readings of the claims that were granted, latest first -/
  claims : List Nat

/-- ghost: a copy of the map that `thread` made to publish it for `generation`. -/
structure Rebuild where
  thread : Nat
  generation : Nat
  /-- the era of the map it copied -/
  era : Option Nat
deriving DecidableEq

inductive StreamItem (T : Type) where
  | change (change : DecisionChange T)
  | error (error : DecisionSourceError)
  | ended
deriving DecidableEq, Repr

/-- ghost: where the watcher stands between two of its sessions. -/
inductive Phase where
  /-- no stream, the last `watch_disconnected` has returned -/
  | idle
  /-- a stream is open and `watch_connected` has not yet sent `true` -/
  | opened
  | connected
  /-- the session's loop was left and `watch_disconnected` has not yet begun -/
  | ended
  /-- `watch_disconnected` runs -/
  | disconnecting
deriving DecidableEq, Repr

/-- What only the watcher writes. -/
structure Watch (T P : Type) where
  connected : Bool
  /-- counts the values sent on the connectivity channel -/
  version : Nat
  closed : Bool
  disconnectedSince : Option Nat
  /-- the in-flight set of refreshes -/
  inflight : List (PendingFetch T P)
  phase : Phase
  /-- ghost: how many watch streams were opened -/
  opened : Nat
  /-- ghost: the latest session that published `connected = true` -/
  reached : Nat
  /-- ghost: the session whose connect made the latest clear, if no disconnect did -/
  era : Option Nat
  /-- ghost: the change taken from the stream whose effect is still due -/
  applying : Option (DecisionChange T)
  /-- ghost: when the latest `connected = true` was sent, nobody held a copy that was made before
  the clear and could still be published -/
  orderly : Bool

/-- What a finished call returned to its caller, with the clock reading it used. -/
inductive Outcome (T P : Type) where
  | admitted (subject : T) (admission : Option (Entry T))
  | cached (subject : T) (admission : Option (Entry T))
  | refreshed
  | state (entry : Entry T) (now : Nat) (state : EntryState)
  | checked (entry : Entry T) (now : Nat) (state : EntryState) (refreshDue : Bool)
  | payload (entry : Entry T) (now : Nat) (payload : Option P)
  | invalidated

structure Gate (T P : Type) where
  clock : Nat
  cells : Nat → Option (EntryCell T P)
  nextEntry : Nat
  flights : Nat → Option (Flight T P)
  nextGeneration : Nat
  subjects : SubjectMap T
  snapshot : List (T × Entry T)
  publish : PublishState
  shapeDirty : Bool
  /-- ghost: the copies of the map that are not yet stored -/
  copies : List Rebuild
  queue : List (PendingFetch T P)
  queueClosed : Bool
  watch : Watch T P
  /-- the thread that polls a refresh: the watcher's task polls its refreshes one at a time -/
  refreshing : Option Nat
  /-- the items the open stream has emitted and not yet yielded -/
  stream : Option (List (StreamItem T))
  /-- the authority's decision for each subject -/
  authority : T → Option Decision
  /-- ghost: some thread ran into an `unreachable!` -/
  unreachable : Bool
  /-- ghost: what each thread's call returned -/
  outcomes : Nat → Option (Outcome T P)

namespace Gate

variable {T P : Type}

/-- `GateState::new` and `DecisionWatcher::new` at the clock reading `now`. -/
def new (now : Nat) (authority : T → Option Decision) : Gate T P where
  clock := now
  cells := fun _ => none
  nextEntry := 0
  flights := fun _ => none
  nextGeneration := 0
  subjects := { lock := none, cache := .empty, limbo := [] }
  snapshot := []
  publish := { lock := none, generation := 0, nextAllowed := now, claims := [] }
  shapeDirty := false
  copies := []
  queue := []
  queueClosed := false
  watch :=
    { connected := false, version := 0, closed := false, disconnectedSince := some now,
      inflight := [], phase := .idle, opened := 0, reached := 0, era := none, applying := none,
      orderly := true }
  refreshing := none
  stream := none
  authority
  unreachable := false
  outcomes := fun _ => none

def updateCell (s : Gate T P) (id : Nat) (f : EntryCell T P → EntryCell T P) : Gate T P :=
  { s with cells := Function.update s.cells id ((s.cells id).map f) }

def updateFlight (s : Gate T P) (generation : Nat) (f : Flight T P → Flight T P) : Gate T P :=
  { s with flights := Function.update s.flights generation ((s.flights generation).map f) }

def setStage (s : Gate T P) (generation : Nat) (stage : Stage) : Gate T P :=
  s.updateFlight generation fun flight => { flight with stage }

def updateWatch (s : Gate T P) (f : Watch T P → Watch T P) : Gate T P :=
  { s with watch := f s.watch }

/-- ghost: the change taken from the stream has had its effect. -/
def applied (s : Gate T P) : Gate T P := s.updateWatch fun watch => { watch with applying := none }

def note (s : Gate T P) (id : Nat) (event : EntryEvent T P) : Gate T P :=
  s.updateCell id fun cell => { cell with log := event :: cell.log }

def updateSubjects (s : Gate T P) (f : SubjectMap T → SubjectMap T) : Gate T P :=
  { s with subjects := f s.subjects }

@[simp] theorem updateCell_cells (s : Gate T P) (id : Nat) (f : EntryCell T P → EntryCell T P) :
    (s.updateCell id f).cells = Function.update s.cells id ((s.cells id).map f) := rfl

@[simp] theorem updateFlight_flights (s : Gate T P) (generation : Nat)
    (f : Flight T P → Flight T P) :
    (s.updateFlight generation f).flights =
      Function.update s.flights generation ((s.flights generation).map f) := rfl

theorem updateCell_at {s : Gate T P} {id : Nat} {cell : EntryCell T P}
    (found : s.cells id = some cell) (f : EntryCell T P → EntryCell T P) :
    (s.updateCell id f).cells id = some (f cell) := by
  rw [updateCell_cells, Function.update_self, found]
  rfl

theorem updateFlight_at {s : Gate T P} {generation : Nat} {flight : Flight T P}
    (flown : s.flights generation = some flight) (f : Flight T P → Flight T P) :
    (s.updateFlight generation f).flights generation = some (f flight) := by
  rw [updateFlight_flights, Function.update_self, flown]
  rfl

end Gate

namespace EntryCell

variable {T P : Type}

/-- A read of the snapshot that settles what its caller sees is noted in the log; where
the decision has expired and is not yet latched, the caller has still to latch it. -/
def observe (cell : EntryCell T P) (reader : Reader T) (thread now : Nat) : EntryCell T P :=
  if cell.entry.isExpiredAt cell.current.value.word now &&
      cell.current.value.word != staleWord cell.current.value.word then cell
  else { cell with log := .observed reader thread now cell.current.value :: cell.log }

def replace (cell : EntryCell T P) (next : EntrySnapshot P) (event : EntryEvent T P) :
    EntryCell T P :=
  { cell with current := ⟨cell.current.address + 1, next⟩, log := event :: cell.log }

end EntryCell

end PolicyGate
