import PolicyGate.Interleaving.Audit
import PolicyGate.Specs.Calls

namespace PolicyGate

open Interleaving Data

variable {T P : Type}

/-- What a step of `actor` may do to a lock. -/
def LockStep (actor before after : Option Nat) : Prop :=
  after = before ∨ before = none ∧ after = actor ∨ before = actor ∧ after = none

def QueueStep (capacity : Nat) (actor : Option Nat) (before after : Gate T P) : Prop :=
  after.queue = before.queue ∨
  before.queueClosed = false ∧ before.queue.length < capacity ∧
    (∃ fetch thread, after.queue = before.queue ++ [fetch] ∧
      before.At fetch.generation (.validated thread)) ∨
  actor = some 0 ∧ ∃ count, after.queue = before.queue.drop count

structure PeripheryStep (config : PolicyGateConfig) (actor : Option Nat) (before after : Gate T P) :
    Prop where
  subjects : LockStep actor before.subjects.lock after.subjects.lock
  publish : LockStep actor before.publish.lock after.publish.lock
  guarded : before.publish.lock ≠ none → before.publish.lock ≠ actor → after.publish = before.publish
  claims : before.publish.claims <:+ after.publish.claims
  queue : QueueStep config.refreshQueueCapacity actor before after
  closed : before.queueClosed = true → after.queueClosed = true
  dropped : before.watch.closed = false → after.watch.closed = true →
    after.queueClosed = true ∧ after.watch.phase = .idle
  watcher : before.watch.closed = true → actor ≠ some 0

/-- The rebuilds that were granted are an interval apart, and the next one is as far from the latest. -/
structure PublishOk (rt : Runtime) (clock : Nat) (publish : PublishState) : Prop where
  started : rt.constructed ≤ publish.nextAllowed
  allowance : publish.nextAllowed ≤ clock + rt.config.snapshotRepublishInterval
  spaced : publish.claims.Pairwise fun later earlier =>
    earlier + rt.config.snapshotRepublishInterval ≤ later
  claimed : ∀ now ∈ publish.claims, rt.constructed ≤ now ∧
    now + rt.config.snapshotRepublishInterval ≤ publish.nextAllowed

theorem PublishOk.mono {rt : Runtime} {earlier later : Nat} {publish : PublishState}
    (ok : PublishOk rt earlier publish) (ordered : earlier ≤ later) : PublishOk rt later publish :=
  { ok with allowance := ok.allowance.trans (Nat.add_le_add_right ordered _) }

structure PeripheryOk (rt : Runtime) (s : Gate T P) : Prop where
  apart : ∀ thread, s.subjects.lock = some thread → s.publish.lock ≠ some thread
  publish : PublishOk rt s.clock s.publish
  bounded : s.queue.length ≤ rt.config.refreshQueueCapacity
  drained : s.queueClosed = true → s.queue = []
  within : 0 < rt.config.maxSubjects → s.subjects.cache.entries.length ≤ rt.config.maxSubjects

namespace Stage

def underway : Stage → Bool
  | .queued | .flying | .polled _ | .asleep _ => true
  | _ => false

def waiting : Stage → Bool
  | .placed | .polled _ | .asleep _ => true
  | _ => false

end Stage

/-- Somebody may still bring the entry a decision. -/
structure LookupsOk (cells : Nat → Option (EntryCell T P)) (flights : Nat → Option (Flight T P)) :
    Prop where
  attended : ∀ id cell, cells id = some cell → cell.state = .pending → ∃ fetch flight,
    cell.pending = some fetch ∧ flights fetch.generation = some flight ∧ flight.stage ≠ .finished
  untaken : ∀ generation flight cell, flights generation = some flight → flight.taken = true →
    cells flight.fetch.entry.id = some cell → cell.state ≠ .pending

namespace EntryEvent

def Until (clock : Nat) : EntryEvent T P → Prop
  | .returned _ now | .cooled _ _ now => now ≤ clock
  | _ => True

/-- An event that neither begins nor ends a lookup; if it is a read, it is the thread's own. -/
def Plain (me : Nat) : EntryEvent T P → Prop
  | .started .. | .returned .. | .cooled .. => False
  | .observed _ thread _ _ => thread = me
  | .published _ | .latched .. | .invalidated | .failed => True

theorem Until.mono {earlier later : Nat} {event : EntryEvent T P} (past : event.Until earlier)
    (ordered : earlier ≤ later) : event.Until later := by
  cases event with
  | returned | cooled => exact le_trans past ordered
  | started | published | latched | invalidated | failed | observed => trivial

end EntryEvent

structure EntryCell.Cooled (config : PolicyGateConfig) (clock : Nat) (cell : EntryCell T P) : Prop where
  stored : ∀ generation held failed, .cooled generation held failed ∈ cell.log →
    cell.entry.cooledTick config failed ≤ cell.refreshNotBefore
  bound : cell.refreshNotBefore ≤ cell.entry.cooledTick config clock

/-- No cooldown lasts at `now` that a refresh set while it was in the entry's slot. -/
def EntryLog.Rested (config : PolicyGateConfig) (log : EntryLog T P) (now : Nat) : Prop :=
  ∀ generation failed, .cooled generation true failed ∈ log →
    failed + config.permanentFailureCooldown ≤ now

def Flight.Succeeds (config : PolicyGateConfig) (flight : Flight T P) (log : EntryLog T P) : Prop :=
  ∀ generation ended, .returned generation ended ∈ log →
    ended ≤ flight.placed ∧ flight.fetch.delay = some config.permanentFailureCooldown

structure CooldownsOk (config : PolicyGateConfig) (clock : Nat) (cells : Nat → Option (EntryCell T P))
    (flights : Nat → Option (Flight T P)) : Prop where
  past : ∀ id cell, cells id = some cell → ∀ event ∈ cell.log, event.Until clock
  since : ∀ generation flight, flights generation = some flight → flight.placed ≤ clock
  cooled : ∀ id cell, cells id = some cell → cell.Cooled config clock
  rested : ∀ generation flight cell, flights generation = some flight →
    flight.fetch.refreshFrom.isSome = true → flight.taken = false → flight.stage.underway = true →
    cells flight.fetch.entry.id = some cell → EntryLog.Rested config cell.log clock
  succeeds : ∀ id cell fetch flight, cells id = some cell → cell.state = .pending →
    cell.pending = some fetch → flights fetch.generation = some flight →
    flight.fetch.refreshFrom = none → flight.stage.waiting = true → flight.Succeeds config cell.log
  spaced : ∀ id cell later earlier generation refresh held now, cells id = some cell →
    cell.log = later ++ .started generation refresh held now :: earlier →
    (refresh = true → held = true) → EntryLog.Spaced config cell.entry earlier refresh now

/-- What a step may do to the cooldown of an entry: only a refresh of it whose call has returned stores
one, and every store is noted. -/
def EntryCell.Chills (config : PolicyGateConfig) (before : Gate T P) (cell cell' : EntryCell T P) : Prop :=
  (cell'.refreshNotBefore = cell.refreshNotBefore ∧ ∀ generation held failed,
    .cooled generation held failed ∈ cell'.log → .cooled generation held failed ∈ cell.log) ∨
  ∃ generation flight poller failed, before.flights generation = some flight ∧
    flight.fetch.entry = cell.entry ∧ flight.fetch.refreshFrom.isSome = true ∧
    flight.stage = .returned poller ∧ failed ≤ before.clock ∧
    cell' = cell.cool config cell.entry generation failed

structure EntriesStep (config : PolicyGateConfig) (actor : Option Nat) (before after : Gate T P) :
    Prop where
  observed : ∀ id reader thread now snapshot, after.Noted id (.observed reader thread now snapshot) →
    before.Noted id (.observed reader thread now snapshot) ∨ actor = some thread
  cooled : ∀ id cell cell', before.cells id = some cell → after.cells id = some cell' →
    cell.Chills config before cell'
  placed : ∀ generation flight flight', before.flights generation = some flight →
    after.flights generation = some flight' → flight.stage.made = true → flight'.placed = flight.placed
  answered : ∀ generation flight' answer, after.flights generation = some flight' →
    flight'.answer = some answer →
      (∃ flight, before.flights generation = some flight ∧ flight.answer = some answer) ∨ actor = none

namespace Gate

structure Audited (rt : Runtime) (s : Gate T P) : Prop where
  periphery : PeripheryOk rt s
  lookups : LookupsOk s.cells s.flights
  cooldowns : CooldownsOk rt.config s.clock s.cells s.flights

structure Step (config : PolicyGateConfig) (actor : Option Nat) (before after : Gate T P) : Prop where
  periphery : PeripheryStep config actor before after
  entries : EntriesStep config actor before after

def Locking (s : Gate T P) (me : Nat) : Prop :=
  s.subjects.lock = some me ∨ s.publish.lock = some me

end Gate

theorem LockStep.own {me : Nat} {actor before after : Option Nat} (step : LockStep actor before after)
    (other : actor ≠ some me) (mine : after = some me) : before = some me := by
  rcases step with same | ⟨_, taken⟩ | ⟨_, free⟩
  · exact same ▸ mine
  · exact absurd (taken.symm.trans mine) other
  · rw [free] at mine
    cases mine

theorem LockStep.keeps {me : Nat} {actor before after : Option Nat} (step : LockStep actor before after)
    (other : actor ≠ some me) (mine : before = some me) : after = some me := by
  rcases step with same | ⟨free, _⟩ | ⟨theirs, _⟩
  · exact same.trans mine
  · rw [free] at mine
    cases mine
  · exact absurd (theirs.symm.trans mine) other

/-- The gate's audit. -/
def audit [DecidableEq T] (rt : Runtime) : Audit (discipline (T := T) (P := P) rt) where
  invariant := Gate.Audited rt
  step := Gate.Step rt.config
  busy me s := s.Locking me
  busy_own _ _ _ _ other step :=
    Or.imp (step.periphery.subjects.own other) (step.periphery.publish.own other)

end PolicyGate
