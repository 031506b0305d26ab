import PolicyGate.Entry.Snapshot
import Mathlib.Data.List.Count
import Mathlib.Tactic.Cases

namespace PolicyGate

/-! The record of what happened to one entry, newest event first.

The gate keeps no such record.  Every atomic action on an entry notes here what
it did, so that a property of a run is a property of the entry's log.
-/

inductive Reader (T : Type) where
  | state
  | check
  | payload
  | cached (subject : T)
  | admission
  | map
deriving DecidableEq, Repr

/-- Where a published decision came from; lookups are named by their generation. -/
inductive Origin where
  | cold (generation : Nat)
  | refresh (generation : Nat)
  | change
deriving DecidableEq, Repr

/-- One decision published at the clock reading `now`.  A lookup's result is checked
once more at `checkedAt` before it is published.  `session` numbers the watch streams. -/
structure Publication (P : Type) where
  origin : Origin
  now : Nat
  checkedAt : Nat
  result : DecisionResult P
  session : Nat
deriving DecidableEq, Repr

inductive EntryEvent (T P : Type) where
  /-- a decision replaced the state word -/
  | published (publication : Publication P)
  /-- an observer saw the decision expired and latched `Stale` -/
  | latched (reader : Reader T) (now : Nat)
  /-- `Entry::invalidate` replaced the state word -/
  | invalidated
  /-- a failed cold lookup replaced `Pending` -/
  | failed
  /-- a read of `thread` that decided what its caller saw -/
  | observed (reader : Reader T) (thread now : Nat) (snapshot : EntrySnapshot P)
  /-- the source call of a lookup for this entry began; `held` says whether the lookup was still
  in the entry's slot -/
  | started (generation : Nat) (refresh held : Bool) (now : Nat)
  /-- the source call returned -/
  | returned (generation now : Nat)
  /-- a failed refresh stored the cooldown; `held` says whether it was still in the entry's slot -/
  | cooled (generation : Nat) (held : Bool) (now : Nat)
deriving DecidableEq, Repr

abbrev EntryLog (T P : Type) := List (EntryEvent T P)

namespace EntryEvent

variable {T P : Type}

/-- Events that replace the entry's snapshot. -/
def touches : EntryEvent T P → Bool
  | .published _ | .latched _ _ | .invalidated | .failed => true
  | .observed .. | .started .. | .returned .. | .cooled .. => false

def isPublication : EntryEvent T P → Bool
  | .published _ => true
  | _ => false

def isChange : EntryEvent T P → Bool
  | .published publication => publication.origin == .change
  | _ => false

def SawExpired (entry : Entry T) : EntryEvent T P → Prop
  | .latched _ _ => True
  | .observed _ _ now snapshot => entry.isExpiredAt snapshot.word now = true
  | _ => False

end EntryEvent

namespace EntryLog

variable {T P : Type} (config : PolicyGateConfig) (entry : Entry T)

def touches (log : EntryLog T P) : Nat := log.countP EntryEvent.touches

/-- The snapshot an entry with this log holds. -/
def current : EntryLog T P → EntrySnapshot P
  | [] => .pending
  | .published publication :: _ =>
      entry.decisionSnapshot config publication.now publication.result
  | .latched _ _ :: rest | .invalidated :: rest => (current rest).stale
  | .failed :: _ => .failed
  | .observed .. :: rest | .started .. :: rest | .returned .. :: rest | .cooled .. :: rest =>
      current rest

/-- The source call of `generation` began and the snapshot was not replaced since. -/
def StartedSince (generation : Nat) (log : EntryLog T P) : Prop :=
  ∃ later earlier refresh held now,
    log = later ++ .started generation refresh held now :: earlier ∧ touches later = 0

def Latest (publication : Publication P) (log : EntryLog T P) : Prop :=
  ∃ later earlier, log = later ++ .published publication :: earlier ∧
    later.countP EntryEvent.isPublication = 0

/-- `publication` is in force: it is the latest, and nothing replaced its snapshot since. -/
def InForce (publication : Publication P) (log : EntryLog T P) : Prop :=
  ∃ later earlier, log = later ++ .published publication :: earlier ∧ touches later = 0

/-- What must hold for a lookup's result to be published over `rest`. -/
def LookupAccounted (rest : EntryLog T P) (generation : Nat) (publication : Publication P) : Prop :=
  publication.now ≤ publication.checkedAt ∧
  entry.isExpiredAt (entry.decisionSnapshot config publication.now publication.result).word
    publication.checkedAt = false ∧
  StartedSince generation rest

def Spaced (rest : EntryLog T P) (refresh : Bool) (now : Nat) : Prop :=
  if refresh then
    ∀ generation failed, .cooled generation true failed ∈ rest →
      failed + config.permanentFailureCooldown ≤ now
  else (current config entry rest).state = .pending →
    ∀ generation ended, .returned generation ended ∈ rest →
      ended + config.permanentFailureCooldown ≤ now

/-- What must hold for an event to follow `rest`. -/
def EventAccounted (rest : EntryLog T P) : EntryEvent T P → Prop
  | .published publication =>
      entry.epoch ≤ publication.now ∧
      match publication.origin with
      | .cold generation =>
          (current config entry rest).state = .pending ∧
            LookupAccounted config entry rest generation publication
      | .refresh generation =>
          entry.DueBy publication.now (current config entry rest) ∧
            LookupAccounted config entry rest generation publication
      | .change => publication.result.payload = none ∧ publication.result.validUntil = none
  | .latched _ now =>
      entry.isExpiredAt (current config entry rest).word now = true ∧
        (current config entry rest).state ≠ .stale
  | .failed => (current config entry rest).state = .pending
  | .observed _ _ now snapshot =>
      snapshot = current config entry rest ∧
        (entry.isExpiredAt snapshot.word now = true → snapshot.state = .stale)
  | .started generation _ _ _ =>
      ∀ refresh held now, .started generation refresh held now ∉ rest
  | .invalidated | .returned .. | .cooled .. => True

/-- Every event of the log was due when it happened. -/
def Accounted : EntryLog T P → Prop
  | [] => True
  | event :: rest => EventAccounted config entry rest event ∧ Accounted rest

variable {config entry}

@[simp] theorem touches_nil : touches ([] : EntryLog T P) = 0 := rfl

theorem touches_cons (event : EntryEvent T P) (log : EntryLog T P) :
    touches (event :: log) = touches log + if event.touches then 1 else 0 :=
  List.countP_cons ..

theorem touches_append (later earlier : EntryLog T P) :
    touches (later ++ earlier) = touches later + touches earlier := List.countP_append ..

theorem Accounted.of_append {later earlier : EntryLog T P}
    (accounted : Accounted config entry (later ++ earlier)) : Accounted config entry earlier := by
  induction later with
  | nil => exact accounted
  | cons event rest ih => exact ih accounted.2

theorem Accounted.event {later earlier : EntryLog T P} {event : EntryEvent T P}
    (accounted : Accounted config entry (later ++ event :: earlier)) :
    EventAccounted config entry earlier event :=
  (Accounted.of_append accounted).1

theorem current_cons_of_not_touches {event : EntryEvent T P} {log : EntryLog T P}
    (untouched : event.touches = false) :
    current config entry (event :: log) = current config entry log := by
  cases event <;> first | rfl | cases untouched

theorem current_append_of_untouched {later earlier : EntryLog T P} (untouched : touches later = 0) :
    current config entry (later ++ earlier) = current config entry earlier := by
  induction later with
  | nil => rfl
  | cons event rest ih =>
      rw [touches_cons] at untouched
      have quiet : event.touches = false := by
        by_contra loud
        simp [loud] at untouched
      rw [List.cons_append, current_cons_of_not_touches quiet, ih (by omega)]

theorem current_word_lt (log : EntryLog T P) : (current config entry log).word < 2 ^ 64 := by
  induction log with
  | nil => exact word_lt _ (by decide)
  | cons event rest ih =>
      cases event with
      | published publication => exact entry.decisionSnapshot_word_lt config _ _
      | latched | invalidated => exact staleWord_lt ih
      | failed => exact word_lt _ (by decide)
      | observed | started | returned | cooled => exact ih

theorem current_pending_iff {log : EntryLog T P} :
    (current config entry log).state = .pending ↔ touches log = 0 := by
  induction log with
  | nil => simp [current]
  | cons event rest ih =>
      rw [touches_cons]
      cases event with
      | published publication =>
          simp only [current, Entry.decisionSnapshot_state, EntryEvent.touches]
          cases publication.result.decision <;> simp [EntryState.ofDecision]
      | latched | invalidated =>
          simp [current, EntrySnapshot.stale_state (current_word_lt rest), EntryEvent.touches]
      | failed => simp [current, EntryEvent.touches]
      | observed | started | returned | cooled => simpa [current, EntryEvent.touches] using ih

theorem InForce.cons {publication : Publication P} {log : EntryLog T P} {event : EntryEvent T P}
    (quiet : event.touches = false) (inForce : InForce publication log) :
    InForce publication (event :: log) := by
  obtain ⟨later, earlier, rfl, untouched⟩ := inForce
  exact ⟨event :: later, earlier, rfl, by rw [touches_cons, quiet, untouched]; rfl⟩

theorem current_authoritative {log : EntryLog T P}
    (authoritative : (current config entry log).state.Authoritative) :
    ∃ publication, InForce publication log ∧
      current config entry log =
        entry.decisionSnapshot config publication.now publication.result := by
  induction log with
  | nil => simp [current] at authoritative
  | cons event rest ih =>
      cases event with
      | published publication => exact ⟨publication, ⟨[], rest, rfl, rfl⟩, rfl⟩
      | latched | invalidated =>
          simp [current, EntrySnapshot.stale_state (current_word_lt rest)] at authoritative
      | failed => simp [current] at authoritative
      | observed | started | returned | cooled =>
          obtain ⟨publication, inForce, same⟩ := ih authoritative
          exact ⟨publication, inForce.cons rfl, same⟩

theorem InForce.current_eq {publication : Publication P} {log : EntryLog T P}
    (inForce : InForce publication log) :
    current config entry log =
      entry.decisionSnapshot config publication.now publication.result := by
  obtain ⟨later, earlier, rfl, quiet⟩ := inForce
  rw [current_append_of_untouched quiet, current]

theorem countP_isPublication_eq_zero {log : EntryLog T P} (untouched : touches log = 0) :
    log.countP EntryEvent.isPublication = 0 := by
  refine Nat.le_zero.mp (untouched ▸ List.countP_mono_left fun event _ publication => ?_)
  cases event <;> simp_all [EntryEvent.isPublication, EntryEvent.touches]

theorem InForce.latest {publication : Publication P} {log : EntryLog T P}
    (inForce : InForce publication log) : Latest publication log := by
  obtain ⟨later, earlier, split, quiet⟩ := inForce
  exact ⟨later, earlier, split, countP_isPublication_eq_zero quiet⟩

theorem InForce.mem {publication : Publication P} {log : EntryLog T P}
    (inForce : InForce publication log) : .published publication ∈ log := by
  obtain ⟨later, earlier, rfl, _⟩ := inForce
  simp

theorem current_payload {log : EntryLog T P} {payload : P}
    (carried : (current config entry log).payload = some payload) :
    ∃ publication, InForce publication log ∧ publication.result.decision = .allowed ∧
      publication.result.payload = some payload ∧
      (current config entry log).state = .allowed := by
  have authoritative : (current config entry log).state.Authoritative := by
    induction log with
    | nil => simp [current, EntrySnapshot.pending] at carried
    | cons event rest ih =>
        cases event with
        | published publication => simp [current]
        | latched | invalidated => simp [current, EntrySnapshot.stale] at carried
        | failed => simp [current, EntrySnapshot.failed] at carried
        | observed | started | returned | cooled => exact ih carried
  obtain ⟨publication, inForce, same⟩ := current_authoritative authoritative
  rw [same] at carried
  by_cases allowed : publication.result.decision = .allowed
  · refine ⟨publication, inForce, allowed, ?_, ?_⟩
    · simpa [Entry.decisionSnapshot, allowed] using carried
    · rw [same, Entry.decisionSnapshot_state, allowed]
      rfl
  · simp [Entry.decisionSnapshot, allowed] at carried

theorem current_deadline_cons {event : EntryEvent T P} {log : EntryLog T P}
    (accounted : EventAccounted config entry log event) (quiet : event.isPublication = false) :
    (current config entry (event :: log)).deadline = (current config entry log).deadline := by
  cases event with
  | published => cases quiet
  | latched | invalidated => exact EntrySnapshot.stale_deadline (current_word_lt log)
  | observed | started | returned | cooled => rfl
  | failed =>
      have untouched : touches log = 0 := current_pending_iff.mp accounted
      have initial : current config entry log = .pending := by
        simpa [current] using
          @current_append_of_untouched T P config entry log [] untouched
      rw [initial]
      simp [current]

theorem current_deadline_append {later earlier : EntryLog T P}
    (accounted : Accounted config entry (later ++ earlier))
    (quiet : later.countP EntryEvent.isPublication = 0) :
    (current config entry (later ++ earlier)).deadline = (current config entry earlier).deadline := by
  induction later with
  | nil => rfl
  | cons event rest ih =>
      rw [List.countP_cons] at quiet
      have notPublication : event.isPublication = false := by
        by_contra publication
        simp [publication] at quiet
      exact (current_deadline_cons accounted.1 notPublication).trans (ih accounted.2 (by omega))

theorem Latest.deadline {publication : Publication P} {log : EntryLog T P}
    (accounted : Accounted config entry log) (latest : Latest publication log) :
    (current config entry log).deadline =
      entry.publishedDeadline config publication.now publication.result := by
  obtain ⟨later, earlier, rfl, quiet⟩ := latest
  rw [current_deadline_append accounted quiet, current, Entry.decisionSnapshot_deadline]

/-- Once an observer has seen the entry expired, it stays `Stale` until a watch change. -/
theorem current_stale_of_sawExpired {later earlier : EntryLog T P} {event : EntryEvent T P}
    (accounted : Accounted config entry (later ++ event :: earlier))
    (saw : event.SawExpired entry) (quiet : later.countP EntryEvent.isChange = 0) :
    (current config entry (later ++ event :: earlier)).state = .stale := by
  induction later with
  | nil =>
      cases event with
      | latched => exact EntrySnapshot.stale_state (current_word_lt earlier)
      | observed reader thread now snapshot =>
          obtain ⟨same, latchedWord⟩ := accounted.1
          rw [List.nil_append, current, ← same]
          exact latchedWord saw
      | published | invalidated | failed | started | returned | cooled => exact saw.elim
  | cons next rest ih =>
      rw [List.countP_cons] at quiet
      have stale := ih accounted.2 (by omega)
      rw [List.cons_append]
      cases next with
      | published publication =>
          have due := accounted.1.2
          cases origin : publication.origin with
          | cold =>
              simp only [origin] at due
              exact absurd (stale.symm.trans due.1) (by decide)
          | refresh =>
              simp only [origin] at due
              exact absurd (stale ▸ due.1.authoritative) (by simp)
          | change => simp [EntryEvent.isChange, origin] at quiet
      | latched | invalidated => exact EntrySnapshot.stale_state (current_word_lt _)
      | failed => exact EntrySnapshot.failed_state
      | observed | started | returned | cooled => exact stale

end EntryLog

end PolicyGate
