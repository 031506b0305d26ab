import PolicyGate.Gate.System
import Mathlib.Data.List.Infix

namespace PolicyGate

/-! What holds of the shared memory in every interleaving.

Each group of facts names only the parts of the memory it speaks of, so an action
that leaves those parts alone keeps the group as it is.
-/

variable {T P : Type}

/-- An entry of this session may be looked up: the session has published `connected = true`. -/
def Permitted (reached : Nat) (session : Option Nat) : Prop := ∃ n, session = some n ∧ n ≤ reached

namespace Stage

/-- The lookup can still be asked or is being asked; it keeps its slot until it is taken out. -/
def live : Stage → Bool
  | .placed | .claimed _ | .validated _ | .queued | .flying | .polled _ | .asleep _ | .calling _ => true
  | .created _ | .released | .returned _ | .finished => false

def made : Stage → Bool
  | .created _ => false
  | _ => true

def early : Stage → Bool
  | .calling _ | .returned _ | .finished => false
  | _ => true

/-- The lookup has been polled. -/
def asked : Stage → Bool
  | .polled _ | .asleep _ | .calling _ | .returned _ | .finished => true
  | _ => false

def sent : Stage → Bool
  | .queued | .flying | .polled _ | .asleep _ | .calling _ | .returned _ | .finished => true
  | _ => false

def enqueued : Stage → Bool
  | .claimed _ | .validated _ | .queued | .flying => true
  | _ => false

/-- The lookup has been put into a slot and was not given up by its enqueuer. -/
def slotted : Stage → Bool
  | .created _ | .released => false
  | _ => true

theorem made_of_slotted {stage : Stage} (inSlot : stage.slotted = true) : stage.made = true := by
  cases stage <;> first | rfl | cases inSlot

def airborne : Stage → Bool
  | .flying | .polled _ | .asleep _ | .calling _ | .returned _ => true
  | _ => false

def enqueuer : Stage → Option Nat
  | .claimed thread | .validated thread => some thread
  | _ => none

end Stage

def SnapshotArc.CapturedFrom (config : PolicyGateConfig) (entry : Entry T) (log : EntryLog T P)
    (arc : SnapshotArc P) : Prop :=
  ∃ earlier, earlier <:+ log ∧ EntryLog.touches earlier = arc.address ∧
    arc.value = EntryLog.current config entry earlier

namespace PendingFetch

/-- The snapshot a lookup may replace. -/
def basis (fetch : PendingFetch T P) : Nat := (fetch.refreshFrom.map SnapshotArc.address).getD 0

end PendingFetch

namespace EntryCell

def state (cell : EntryCell T P) : EntryState := cell.current.value.state

/-- `Stale`, and the slot holds at most a refresh that was claimed in vain. -/
def Dead (flights : Nat → Option (Flight T P)) (cell : EntryCell T P) : Prop :=
  cell.state = .stale ∧ ∀ fetch, cell.pending = some fetch →
    ∃ flight enqueuer, flights fetch.generation = some flight ∧ flight.stage = .claimed enqueuer

/-- The cells of one entry agree with its log. -/
structure Sound (config : PolicyGateConfig) (cell : EntryCell T P) : Prop where
  address : cell.current.address = EntryLog.touches cell.log
  value : cell.current.value = EntryLog.current config cell.entry cell.log
  accounted : EntryLog.Accounted config cell.entry cell.log

end EntryCell

def Answered (flights : Nat → Option (Flight T P)) (entry : Entry T) (generation : Nat)
    (refresh : Bool) (result : DecisionResult P) : Prop :=
  ∃ flight, flights generation = some flight ∧ flight.fetch.entry = entry ∧
    flight.fetch.subject = entry.subject ∧ flight.fetch.refreshFrom.isSome = refresh ∧
    flight.answer = some (.result (some result))

/-- Where the publication came from is on record. -/
def Publication.Sourced (flights : Nat → Option (Flight T P)) (entry : Entry T)
    (session : Option Nat) (publication : Publication P) : Prop :=
  match publication.origin with
  | .cold generation => Answered flights entry generation false publication.result
  | .refresh generation => Answered flights entry generation true publication.result
  | .change => session = some publication.session

def EventSourced (flights : Nat → Option (Flight T P)) (entry : Entry T) (session : Option Nat) :
    EntryEvent T P → Prop
  | .published publication => publication.Sourced flights entry session
  | .observed (.cached subject) _ _ _ => subject = entry.subject
  | .started generation _ _ _ => ∃ flight, flights generation = some flight ∧
      flight.begun.isSome = true
  | _ => True

def PendingFetch.DueBy (fetch : PendingFetch T P) (now : Nat) : Prop :=
  ∀ current, fetch.refreshFrom = some current → fetch.entry.DueBy now current.value

structure CellOk (config : PolicyGateConfig) (clock : Nat) (flights : Nat → Option (Flight T P))
    (reached id : Nat) (cell : EntryCell T P) : Prop extends cell.Sound config where
  identity : cell.entry.id = id
  epoch : cell.entry.epoch ≤ clock
  window : cell.entry.refreshBefore = Entry.refreshBeforeOf config
  due : ∀ fetch current, cell.pending = some fetch → fetch.refreshFrom = some current →
    cell.entry.DueBy clock current.value
  sourced : ∀ event ∈ cell.log, EventSourced flights cell.entry cell.session event
  permitted : cell.state.Authoritative → Permitted reached cell.session

namespace Flight

def Asked (flight : Flight T P) : Prop :=
  flight.joined = true ∨ flight.fetch.refreshFrom.isSome = true

/-- The fields of one lookup agree with each other. -/
structure Sound (flight : Flight T P) : Prop where
  aborted : flight.aborted = true → flight.taken = true
  taken : flight.taken = true → flight.stage.made = true
  asked : flight.stage.asked = true → flight.Asked
  placed : flight.stage = .placed → flight.fetch.refreshFrom = none
  enqueued : flight.stage.enqueued = true → flight.fetch.refreshFrom.isSome = true
  early : flight.stage.early = true → flight.begun = none
  calling : ∀ poller, flight.stage = .calling poller → flight.begun.isSome = true
  answered : flight.answer.isSome = true → flight.begun.isSome = true
  outcome : flight.outcome.isSome = true → flight.stage = .finished

/-- What a lookup has to do with its entry. -/
structure Bound (config : PolicyGateConfig) (reached generation : Nat) (cell : EntryCell T P)
    (flight : Flight T P) : Prop where
  entry : cell.entry = flight.fetch.entry
  permitted : flight.Asked → Permitted reached cell.session
  captured : ∀ arc, flight.fetch.refreshFrom = some arc →
    arc.CapturedFrom config cell.entry cell.log ∧ arc.value.state.Authoritative
  started : flight.begun.isSome = true → ∃ earlier refresh held now,
    .started generation refresh held now :: earlier <:+ cell.log ∧
      flight.fetch.basis ≤ EntryLog.touches earlier
  begun : ∀ opened, flight.begun = some opened → ∃ session, cell.session = some session ∧
    session ≤ opened

/-- The lookup's result could still be published over the entry's snapshot. -/
def Applicable (flight : Flight T P) (cell : EntryCell T P) : Prop :=
  match flight.fetch.refreshFrom with
  | none => cell.state = .pending
  | some current => cell.current.address = current.address

end Flight

structure FlightOk (config : PolicyGateConfig) (cells : Nat → Option (EntryCell T P))
    (reached generation : Nat) (flight : Flight T P) : Prop extends flight.Sound where
  identity : flight.fetch.generation = generation
  subject : flight.fetch.subject = flight.fetch.entry.subject
  bound : ∃ cell, cells flight.fetch.entry.id = some cell ∧
    flight.Bound config reached generation cell

structure SlotsOk (cells : Nat → Option (EntryCell T P)) (flights : Nat → Option (Flight T P)) :
    Prop where
  held : ∀ id cell fetch, cells id = some cell → cell.pending = some fetch →
    ∃ flight, flights fetch.generation = some flight ∧ flight.fetch = fetch ∧
      fetch.entry = cell.entry ∧ flight.taken = false ∧ flight.stage.slotted = true ∧
      (fetch.refreshFrom.isSome = true → flight.stage ≠ .finished)
  live : ∀ generation flight, flights generation = some flight → flight.stage.live = true →
    flight.taken = false →
    ∃ cell, cells flight.fetch.entry.id = some cell ∧ cell.pending = some flight.fetch

namespace SubjectMap

def Holds (map : SubjectMap T) (id : Nat) : Prop := ∃ slot ∈ map.cache.entries, slot.2.entry.id = id

def Removed (map : SubjectMap T) (id : Nat) : Prop := ∃ entry ∈ map.limbo, entry.id = id

end SubjectMap

structure MapOk (cells : Nat → Option (EntryCell T P)) (flights : Nat → Option (Flight T P))
    (map : SubjectMap T) (era : Option Nat) : Prop where
  slots : ∀ slot ∈ map.cache.entries, ∃ cell, cells slot.2.entry.id = some cell ∧
    cell.entry = slot.2.entry ∧ slot.1 = cell.entry.subject ∧ cell.session = era
  limbo : ∀ entry ∈ map.limbo, ∃ cell, cells entry.id = some cell ∧ cell.entry = entry ∧
    (cell.Dead flights ∨ cell.session = era)
  placed : ∀ id cell, cells id = some cell → map.Holds id ∨ map.Removed id ∨ cell.Dead flights
  unlocked : map.lock = none → map.limbo = []
  apart : ∀ entry ∈ map.limbo, ¬ map.Holds entry.id

structure SessionOk (watch : Watch T P) (streaming : Bool) : Prop where
  era : ∀ n, watch.era = some n → n = watch.opened ∧ watch.phase ≠ .idle
  opened : watch.phase = .opened → watch.reached < watch.opened
  connected : watch.phase = .connected → watch.connected = true
  current : watch.connected = true →
    watch.era = some watch.opened ∧ watch.reached = watch.opened
  reached : watch.reached ≤ watch.opened
  down : watch.phase = .idle ∨ watch.phase = .opened → watch.connected = false
  stream : streaming = true ↔ watch.phase = .opened ∨ watch.phase = .connected

structure SnapshotOk (cells : Nat → Option (EntryCell T P)) (connected : Bool)
    (snapshot : List (T × Entry T)) : Prop where
  known : ∀ slot ∈ snapshot, ∃ cell, cells slot.2.id = some cell ∧ cell.entry = slot.2 ∧
    slot.1 = slot.2.subject
  empty : connected = false → snapshot = []

/-- Copies of the map are published only while no clear came in between. -/
structure CopiesOk (cells : Nat → Option (EntryCell T P)) (copies : List Rebuild)
    (generation : Nat) (watch : Watch T P) (snapshot : List (T × Entry T)) : Prop where
  bounded : ∀ copy ∈ copies, copy.generation ≤ generation
  fresh : watch.orderly = true → watch.connected = true → ∀ copy ∈ copies,
    copy.generation = generation → copy.era = watch.era
  stored : watch.orderly = true → watch.connected = true → ∀ slot ∈ snapshot,
    ∃ cell, cells slot.2.id = some cell ∧ cell.session = watch.era

/-- The lookup is of an earlier session than the one that is connected. -/
def Orphaned (cells : Nat → Option (EntryCell T P)) (watch : Watch T P)
    (fetch : PendingFetch T P) : Prop :=
  watch.phase = .connected → ∀ cell, cells fetch.entry.id = some cell →
    cell.session ≠ some watch.opened

structure QueueOk (cells : Nat → Option (EntryCell T P)) (flights : Nat → Option (Flight T P))
    (queue : List (PendingFetch T P)) (watch : Watch T P) : Prop where
  queued : ∀ fetch ∈ queue, ∃ flight, flights fetch.generation = some flight ∧
    flight.fetch = fetch ∧ flight.stage = .queued
  inflight : ∀ fetch ∈ watch.inflight, ∃ flight, flights fetch.generation = some flight ∧
    flight.fetch = fetch ∧ flight.fetch.refreshFrom.isSome = true ∧
    (flight.stage.airborne = true ∨ flight.stage = .finished)
  distinct : (queue ++ watch.inflight).Pairwise fun first second =>
    first.generation ≠ second.generation
  waiting : ∀ generation flight, flights generation = some flight → flight.stage = .queued →
    flight.fetch ∈ queue ∨ Orphaned cells watch flight.fetch
  flying : ∀ generation flight, flights generation = some flight →
    flight.fetch.refreshFrom.isSome = true → flight.aborted = false →
    flight.stage.airborne = true →
    flight.fetch ∈ watch.inflight ∨ Orphaned cells watch flight.fetch

namespace StreamItem

def decisionChange : StreamItem T → Option (DecisionChange T)
  | .change decided => some decided
  | .error _ | .ended => none

end StreamItem

def Observation (cells : Nat → Option (EntryCell T P)) (entry : Entry T) (reader : Reader T)
    (thread now : Nat) (snapshot : EntrySnapshot P) : Prop :=
  ∃ cell, cells entry.id = some cell ∧ cell.entry = entry ∧
    .observed reader thread now snapshot ∈ cell.log ∧
      entry.isExpiredAt snapshot.word now = false

def Outcome.Backed (cells : Nat → Option (EntryCell T P)) (thread : Nat) : Outcome T P → Prop
  | .admitted _ (some entry) => ∃ now snapshot,
      Observation cells entry .admission thread now snapshot ∧ snapshot.state.Authoritative
  | .cached subject (some entry) => ∃ now snapshot,
      Observation cells entry (.cached subject) thread now snapshot ∧ snapshot.state.Authoritative
  | .state entry now reported => reported.Authoritative → ∃ snapshot,
      Observation cells entry .state thread now snapshot ∧ snapshot.state = reported
  | .checked entry now reported _ => reported.Authoritative → ∃ snapshot,
      Observation cells entry .check thread now snapshot ∧ snapshot.state = reported
  | .payload entry now (some carried) => ∃ snapshot,
      Observation cells entry .payload thread now snapshot ∧ snapshot.state = .allowed ∧
        snapshot.payload = some carried
  | _ => True

namespace Gate

def stageOf (s : Gate T P) (generation : Nat) : Option Stage :=
  (s.flights generation).map Flight.stage

def Stale (s : Gate T P) (id : Nat) : Prop := ∃ cell, s.cells id = some cell ∧ cell.state = .stale

def Dead (s : Gate T P) (id : Nat) : Prop := ∃ cell, s.cells id = some cell ∧ cell.Dead s.flights

/-- The entry is out of the map for good. -/
def Gone (s : Gate T P) (id : Nat) : Prop := s.Dead id ∧ ¬ s.subjects.Holds id

/-- The source answers every lookup with the authority's decision of that instant. -/
def Honest (s : Gate T P) : Prop :=
  ∀ generation flight result, s.flights generation = some flight →
    flight.answer = some (.result result) → result.map DecisionResult.decision = flight.truth

def changes (s : Gate T P) : List (DecisionChange T) :=
  s.watch.applying.toList ++ (s.stream.getD []).filterMap StreamItem.decisionChange

/-- The entry's decision, and any answer that may still replace it, is the authority's. -/
structure Agrees (s : Gate T P) (id : Nat) (cell : EntryCell T P) : Prop where
  decided : ∀ decision, cell.state = .ofDecision decision →
    s.authority cell.entry.subject = some decision
  answered : ∀ generation flight result, s.flights generation = some flight →
    flight.fetch.entry.id = id → flight.Applicable cell →
    flight.answer = some (.result result) →
    s.authority cell.entry.subject = result.map DecisionResult.decision

variable [DecidableEq T]

/-- The changes for `subject` that were emitted and are not yet applied. -/
def due (s : Gate T P) (subject : T) : List (DecisionChange T) :=
  s.changes.filter fun change => change.subject = subject

/-- The cache agrees with the authority as far as the changes applied so far tell. -/
structure Agreement (s : Gate T P) : Prop where
  emitted : ∀ subject change, (s.due subject).getLast? = some change →
    s.authority subject = change.decision
  entries : ∀ id cell, s.cells id = some cell → s.subjects.Holds id →
    s.due cell.entry.subject = [] → s.Agrees id cell

structure Invariant (config : PolicyGateConfig) (s : Gate T P) : Prop where
  freshEntry : ∀ id, s.nextEntry ≤ id → s.cells id = none
  freshGeneration : ∀ generation, s.nextGeneration ≤ generation → s.flights generation = none
  cells : ∀ id cell, s.cells id = some cell →
    CellOk config s.clock s.flights s.watch.reached id cell
  flights : ∀ generation flight, s.flights generation = some flight →
    FlightOk config s.cells s.watch.reached generation flight
  slots : SlotsOk s.cells s.flights
  map : MapOk s.cells s.flights s.subjects s.watch.era
  session : SessionOk s.watch s.stream.isSome
  snapshot : SnapshotOk s.cells s.watch.connected s.snapshot
  copies : CopiesOk s.cells s.copies s.publish.generation s.watch s.snapshot
  queue : QueueOk s.cells s.flights s.queue s.watch
  agreement : s.stream.isSome = true → s.Honest → s.Agreement
  outcomes : ∀ thread outcome, s.outcomes thread = some outcome → outcome.Backed s.cells thread
  reachable : s.unreachable = false

end Gate

end PolicyGate
