import PolicyGate.Gate.Invariant
import PolicyGate.Data.Related
import PolicyGate.Interleaving.RelyGuarantee

namespace PolicyGate

open Interleaving Data

variable {T P : Type}

/-! What a step may do, and what each thread may rely on about the steps of the others. -/

def Stage.settled : Stage → Bool
  | .created _ | .claimed _ | .released | .returned _ | .finished => true
  | _ => false

structure EntryCell.Grows (before after : EntryCell T P) : Prop where
  entry : after.entry = before.entry
  session : after.session = before.session
  log : before.log <:+ after.log

namespace Flight

structure Grows (before after : Flight T P) : Prop where
  fetch : after.fetch = before.fetch
  joined : before.joined = true → after.joined = true
  aborted : before.aborted = true → after.aborted = true
  taken : before.taken = true → after.taken = true
  answer : before.answer.isSome = true → after.answer = before.answer ∧ after.truth = before.truth
  begun : before.begun.isSome = true → after.begun = before.begun
  made : before.stage.made = true → after.stage.made = true
  sent : before.stage.sent = true → after.stage.sent = true

def Halted (flight : Flight T P) : Prop :=
  flight.begun = none ∧ (flight.stage.settled = true ∨
    flight.aborted = true ∧ ∀ poller, flight.stage ≠ .polled poller)

end Flight

theorem EntryCell.Grows.refl (cell : EntryCell T P) : cell.Grows cell :=
  ⟨rfl, rfl, List.suffix_rfl⟩

theorem EntryCell.Grows.trans {a b c : EntryCell T P} (first : a.Grows b) (second : b.Grows c) :
    a.Grows c :=
  ⟨second.entry.trans first.entry, second.session.trans first.session,
    first.log.trans second.log⟩

theorem Flight.Grows.refl (flight : Flight T P) : flight.Grows flight :=
  ⟨rfl, id, id, id, fun _ => ⟨rfl, rfl⟩, fun _ => rfl, id, id⟩

theorem Flight.Grows.trans {a b c : Flight T P} (first : a.Grows b) (second : b.Grows c) :
    a.Grows c where
  fetch := second.fetch.trans first.fetch
  joined := second.joined ∘ first.joined
  aborted := second.aborted ∘ first.aborted
  taken := second.taken ∘ first.taken
  answer found :=
    have step := first.answer found
    have next := second.answer (step.1 ▸ found)
    ⟨next.1.trans step.1, next.2.trans step.2⟩
  begun found :=
    have step := first.begun found
    (second.begun (step ▸ found)).trans step
  made := second.made ∘ first.made
  sent := second.sent ∘ first.sent

namespace Gate

def Halted (s : Gate T P) (id generation : Nat) : Prop :=
  ∀ flight, s.flights generation = some flight → flight.fetch.entry.id = id → flight.Halted

/-- The lookup is in no slot. -/
def Vacated (s : Gate T P) (generation : Nat) : Prop :=
  ∀ id cell fetch, s.cells id = some cell → cell.pending = some fetch →
    fetch.generation ≠ generation

end Gate

def Gate.Noted (s : Gate T P) (id : Nat) (event : EntryEvent T P) : Prop :=
  ∃ cell, s.cells id = some cell ∧ event ∈ cell.log

def EntryEvent.Since (clock : Nat) : EntryEvent T P → Prop
  | .started _ _ _ now | .returned _ now => clock ≤ now
  | _ => True

/-- What lasts: `after` is a possible future of `before`. -/
structure Extends (before after : Gate T P) : Prop where
  clock : before.clock ≤ after.clock
  opened : before.watch.opened ≤ after.watch.opened
  reached : before.watch.reached ≤ after.watch.reached
  generation : before.publish.generation ≤ after.publish.generation
  cells : ∀ id cell, before.cells id = some cell → ∃ cell', after.cells id = some cell' ∧
    cell.Grows cell'
  timely : ∀ id cell', after.cells id = some cell' → ∀ event ∈ cell'.log,
    before.Noted id event ∨ event.Since before.clock
  flights : ∀ generation flight, before.flights generation = some flight →
    ∃ flight', after.flights generation = some flight' ∧ flight.Grows flight'
  gone : ∀ id, before.Gone id → after.Gone id
  halted : ∀ id generation, before.Gone id → before.Halted id generation →
    after.Halted id generation
  vacated : ∀ generation flight, before.flights generation = some flight →
    flight.stage.made = true → before.Vacated generation → after.Vacated generation

theorem EntryEvent.Since.mono {earlier later : Nat} {event : EntryEvent T P}
    (since : event.Since later) (ordered : earlier ≤ later) : event.Since earlier := by
  cases event with
  | started | returned => exact ordered.trans since
  | published | latched | invalidated | failed | observed | cooled => trivial

theorem Extends.refl (s : Gate T P) : Extends s s where
  clock := le_rfl
  opened := le_rfl
  reached := le_rfl
  generation := le_rfl
  cells _ cell found := ⟨cell, found, .refl cell⟩
  timely _ cell found _ member := .inl ⟨cell, found, member⟩
  flights _ flight found := ⟨flight, found, .refl flight⟩
  gone _ := id
  halted _ _ _ := id
  vacated _ _ _ _ := id

theorem Extends.trans {a b c : Gate T P} (first : Extends a b) (second : Extends b c) :
    Extends a c where
  clock := first.clock.trans second.clock
  opened := first.opened.trans second.opened
  reached := first.reached.trans second.reached
  generation := first.generation.trans second.generation
  timely id cell'' found'' event member := by
    rcases second.timely id cell'' found'' event member with ⟨cell', found', older⟩ | since
    · exact first.timely id cell' found' event older
    · exact .inr (since.mono first.clock)
  cells id cell found := by
    obtain ⟨cell', found', grows⟩ := first.cells id cell found
    obtain ⟨cell'', found'', grows'⟩ := second.cells id cell' found'
    exact ⟨cell'', found'', grows.trans grows'⟩
  flights generation flight found := by
    obtain ⟨flight', found', grows⟩ := first.flights generation flight found
    obtain ⟨flight'', found'', grows'⟩ := second.flights generation flight' found'
    exact ⟨flight'', found'', grows.trans grows'⟩
  gone id gone := second.gone id (first.gone id gone)
  halted id generation gone halted :=
    second.halted id generation (first.gone id gone) (first.halted id generation gone halted)
  vacated generation flight found made vacated := by
    obtain ⟨flight', found', grows⟩ := first.flights generation flight found
    exact second.vacated generation flight' found' (grows.made made)
      (first.vacated generation flight found made vacated)

def EntryLog.Paced (log log' : EntryLog T P) : Prop := log' = log ∨ ∃ event, log' = event :: log

/-- What a single step does besides. -/
structure Advance (before after : Gate T P) : Prop extends Extends before after where
  paced : ∀ id cell cell', before.cells id = some cell → after.cells id = some cell' →
    EntryLog.Paced cell.log cell'.log
  blank : ∀ id cell', before.cells id = none → after.cells id = some cell' → cell'.log = []
  stale : ∀ id, before.Stale id → after.Stale id ∨ before.subjects.Holds id
  dead : ∀ id, before.Dead id → after.Stale id → after.Dead id
  live : ∀ generation flight flight', before.flights generation = some flight →
    after.flights generation = some flight' → flight.stage.owner = none →
    flight.stage.live = true → flight'.stage.live = true
  cooldown : ∀ id cell cell', before.cells id = some cell → after.cells id = some cell' →
    cell'.refreshNotBefore ≠ cell.refreshNotBefore → ∃ generation flight poller,
      before.flights generation = some flight ∧ flight.fetch.entry.id = id ∧
        flight.fetch.refreshFrom.isSome = true ∧ flight.stage = .returned poller

/-- A step that respects thread `me`, save for what the locks it holds protect. -/
structure Beside (me : Nat) (before after : Gate T P) : Prop extends Advance before after where
  owned : ∀ generation stage, stage.owner = some me →
    (before.stageOf generation = some stage ↔ after.stageOf generation = some stage)
  watch : me = 0 → after.watch = before.watch ∧ after.stream.isSome = before.stream.isSome

/-- A step that leaves the thread its copies of the map as well. -/
structure Guarded (me : Nat) (before after : Gate T P) : Prop extends Beside me before after where
  copies : ∀ copy ∈ before.copies, copy.thread = me → copy ∈ after.copies

def SameCooldowns (before after : Gate T P) : Prop :=
  ∀ id cell cell', before.cells id = some cell → after.cells id = some cell' →
    cell'.refreshNotBefore = cell.refreshNotBefore

structure Rely (me : Nat) (before after : Gate T P) : Prop extends Guarded me before after where
  turn : before.refreshing = some me → after.refreshing = some me ∧ SameCooldowns before after
  publish : before.publish.lock = some me → after.publish.lock = some me ∧
    after.publish.generation = before.publish.generation ∧ after.snapshot = before.snapshot ∧
      (before.watch.connected = true → after.watch.connected = true)
  subjects : before.subjects.lock = some me → after.subjects = before.subjects ∧
    ∀ id, before.Stale id → after.Stale id

namespace Gate

/-- Apart from `kept`, no slot holds a refresh under the guard of this thread. -/
def RestingBut (me : Nat) (kept : Option Nat) (s : Gate T P) : Prop :=
  ∀ generation stage, s.stageOf generation = some stage → stage.enqueuer = some me →
    some generation ≠ kept → s.Vacated generation

abbrev Resting (me : Nat) (s : Gate T P) : Prop := s.RestingBut me none

end Gate

theorem Stage.owner_of_enqueuer {stage : Stage} {thread : Nat}
    (enqueuer : stage.enqueuer = some thread) : stage.owner = some thread := by
  cases stage <;> first | exact enqueuer | cases enqueuer

theorem Stage.made_of_enqueuer {stage : Stage} {thread : Nat}
    (enqueuer : stage.enqueuer = some thread) : stage.made = true := by
  cases stage <;> first | rfl | cases enqueuer

theorem Extends.resting {me : Nat} {kept : Option Nat} {before after : Gate T P}
    (extend : Extends before after) (resting : before.RestingBut me kept)
    (stages : ∀ generation stage, after.stageOf generation = some stage →
      stage.enqueuer = some me → some generation ≠ kept →
      before.stageOf generation = some stage ∨ after.Vacated generation) :
    after.RestingBut me kept := by
  intro generation stage found enqueuer other
  refine (stages generation stage found enqueuer other).elim (fun same => ?_) fun vacated => vacated
  have vacated := resting generation stage same enqueuer other
  obtain ⟨flight, flown, rfl⟩ := Option.map_eq_some_iff.mp same
  exact extend.vacated generation flight flown (Stage.made_of_enqueuer enqueuer) vacated

theorem Beside.resting {me : Nat} {kept : Option Nat} {before after : Gate T P}
    (beside : Beside me before after) (resting : before.RestingBut me kept) :
    after.RestingBut me kept :=
  beside.toExtends.resting resting fun generation stage found enqueuer _ =>
    .inl ((beside.owned generation stage (Stage.owner_of_enqueuer enqueuer)).mpr found)

/-- The gate's discipline. -/
def discipline [DecidableEq T] (rt : Runtime) : Discipline (Gate T P) where
  invariant := Gate.Invariant rt.config
  rely := Rely
  resting := Gate.Resting
  resting_stable _ _ _ _ _ rely := rely.toBeside.resting

structure CellStep (before after : Gate T P) (id : Nat) (cell cell' : EntryCell T P) : Prop where
  grows : cell.Grows cell'
  paced : cell'.log = cell.log ∨
    ∃ event, cell'.log = event :: cell.log ∧ event.Since before.clock
  stale : cell.state = .stale → cell'.state = .stale ∨ before.subjects.Holds id
  slot : ∀ fetch, cell'.pending = some fetch → cell.pending = some fetch ∨
    (∀ flight, before.flights fetch.generation = some flight → flight.stage.made = false) ∧
      (before.Dead id → ∃ flight enqueuer,
        after.flights fetch.generation = some flight ∧ flight.stage = .claimed enqueuer)
  cooldown : cell'.refreshNotBefore ≠ cell.refreshNotBefore → ∃ generation flight poller,
    before.flights generation = some flight ∧ flight.fetch.entry.id = id ∧
      flight.fetch.refreshFrom.isSome = true ∧ flight.stage = .returned poller

structure FlightStep (before after : Gate T P) (generation : Nat) (flight flight' : Flight T P) :
    Prop where
  grows : flight.Grows flight'
  halted : flight.Halted → flight'.Halted ∨ ¬ before.Gone flight.fetch.entry.id
  claimed : ∀ enqueuer, flight.stage = .claimed enqueuer → flight'.stage = .claimed enqueuer ∨
    ∀ id cell fetch, after.cells id = some cell → cell.state = .stale →
      cell.pending = some fetch → fetch.generation ≠ generation
  live : flight.stage.owner = none → flight.stage.live = true → flight'.stage.live = true

theorem CellStep.of_slot_eq {before after : Gate T P} {id : Nat} {cell cell' : EntryCell T P}
    (grows : cell.Grows cell')
    (paced : cell'.log = cell.log ∨
      ∃ event, cell'.log = event :: cell.log ∧ event.Since before.clock)
    (stale : cell.state = .stale → cell'.state = .stale)
    (pending : cell'.pending = cell.pending)
    (notBefore : cell'.refreshNotBefore = cell.refreshNotBefore) :
    CellStep before after id cell cell' :=
  ⟨grows, paced, fun h => .inl (stale h), fun _ found => .inl (pending ▸ found),
    fun changed => absurd notBefore changed⟩

theorem CellStep.refl {before after : Gate T P} (id : Nat) (cell : EntryCell T P) :
    CellStep before after id cell cell :=
  .of_slot_eq (.refl cell) (.inl rfl) (fun stale => stale) rfl rfl

theorem FlightStep.of_stage_eq {before after : Gate T P} {generation : Nat}
    {flight flight' : Flight T P} (grows : flight.Grows flight')
    (stage : flight'.stage = flight.stage) (begun : flight'.begun = flight.begun) :
    FlightStep before after generation flight flight' where
  grows := grows
  halted halted := by
    refine .inl ⟨begun.trans halted.1, ?_⟩
    rw [stage]
    exact halted.2.imp (fun settled => settled) fun ⟨aborted, unpolled⟩ =>
      ⟨grows.aborted aborted, unpolled⟩
  claimed _ claimed := .inl (stage.trans claimed)
  live _ live := stage ▸ live

theorem FlightStep.refl {before after : Gate T P} (generation : Nat) (flight : Flight T P) :
    FlightStep before after generation flight flight :=
  .of_stage_eq (.refl flight) rfl rfl

theorem Advance.of_grown {before after : Gate T P} (clock : before.clock ≤ after.clock)
    (opened : before.watch.opened ≤ after.watch.opened)
    (reached : before.watch.reached ≤ after.watch.reached)
    (published : before.publish.generation ≤ after.publish.generation)
    (cells : ∀ id cell, before.cells id = some cell → ∃ cell', after.cells id = some cell' ∧
      CellStep before after id cell cell')
    (newCells : ∀ id cell', before.cells id = none → after.cells id = some cell' →
      cell'.log = [] ∧
        ∀ fetch, cell'.pending = some fetch → before.flights fetch.generation = none)
    (flights : ∀ generation flight, before.flights generation = some flight →
      ∃ flight', after.flights generation = some flight' ∧
        FlightStep before after generation flight flight')
    (newFlights : ∀ generation flight', before.flights generation = none →
      after.flights generation = some flight' →
      flight'.Halted ∨ before.cells flight'.fetch.entry.id = none)
    (holds : ∀ id, after.subjects.Holds id → (before.cells id).isSome = true →
      before.subjects.Holds id) :
    Advance before after := by
  have stale : ∀ id, before.Stale id → after.Stale id ∨ before.subjects.Holds id := by
    rintro id ⟨cell, found, stale⟩
    obtain ⟨cell', found', step⟩ := cells id cell found
    exact (step.stale stale).imp (fun stale' => ⟨cell', found', stale'⟩) fun held => held
  have dead : ∀ id, before.Dead id → after.Stale id → after.Dead id := by
    rintro id ⟨cell, found, wasStale, slot⟩ ⟨cell', found', stale'⟩
    refine ⟨cell', found', stale', fun fetch pending' => ?_⟩
    obtain ⟨cell'', found'', step⟩ := cells id cell found
    obtain rfl : cell' = cell'' := Option.some.inj (found'.symm.trans found'')
    rcases step.slot fetch pending' with pending | ⟨_, claimed⟩
    · obtain ⟨flight, enqueuer, flown, claimed⟩ := slot fetch pending
      obtain ⟨flight', flown', step'⟩ := flights _ flight flown
      refine ⟨flight', enqueuer, flown', (step'.claimed enqueuer claimed).resolve_right ?_⟩
      exact fun elsewhere => elsewhere id cell' fetch found' stale' pending' rfl
    · exact claimed ⟨cell, found, wasStale, slot⟩
  have gone : ∀ id, before.Gone id → after.Gone id := by
    rintro id ⟨isDead, out⟩
    obtain ⟨cell, found, died⟩ := isDead
    have stale' := (stale id ⟨cell, found, died.1⟩).resolve_right out
    refine ⟨dead id ⟨cell, found, died⟩ stale', fun held => out (holds id held ?_)⟩
    rw [found]
    rfl
  refine
    { clock, opened, reached, gone, stale, dead
      generation := published
      timely := fun id cell' found' event member => ?_
      paced := fun id cell cell' found found' => ?_
      blank := fun id cell' new found' => (newCells id cell' new found').1
      cells := fun id cell found => ?_, flights := fun generation flight found => ?_,
      halted := fun id generation isGone halted flight' found' same => ?_,
      vacated := fun generation flight found made vacated id cell' fetch found' pending' => ?_,
      live := fun generation flight flight' found found' => ?_,
      cooldown := fun id cell cell' found found' => ?_ }
  · obtain ⟨cell', found', step⟩ := cells id cell found
    exact ⟨cell', found', step.grows⟩
  · cases found : before.cells id with
    | none =>
        rw [(newCells id cell' found found').1] at member
        cases member
    | some cell =>
        obtain ⟨cell'', found'', step⟩ := cells id cell found
        obtain rfl : cell' = cell'' := Option.some.inj (found'.symm.trans found'')
        rcases step.paced with same | ⟨newest, noted, since⟩
        · exact .inl ⟨cell, found, same ▸ member⟩
        · rw [noted] at member
          rcases List.mem_cons.mp member with rfl | older
          · exact .inr since
          · exact .inl ⟨cell, found, older⟩
  · obtain ⟨flight', found', step⟩ := flights generation flight found
    exact ⟨flight', found', step.grows⟩
  · cases found : before.flights generation with
    | none =>
        refine (newFlights generation flight' found found').resolve_right fun new => ?_
        obtain ⟨cell, known, _⟩ := isGone.1
        rw [same, known] at new
        cases new
    | some flight =>
        obtain ⟨flight'', found'', step⟩ := flights generation flight found
        obtain rfl : flight' = flight'' := Option.some.inj (found'.symm.trans found'')
        rw [step.grows.fetch] at same
        refine (step.halted (halted flight found same)).resolve_right fun notGone => notGone ?_
        rw [same]
        exact isGone
  · cases foundCell : before.cells id with
    | none =>
        rintro rfl
        exact absurd (found.symm.trans ((newCells id cell' foundCell found').2 fetch pending'))
          (by simp)
    | some cell =>
        obtain ⟨cell'', found'', step⟩ := cells id cell foundCell
        obtain rfl : cell' = cell'' := Option.some.inj (found'.symm.trans found'')
        rcases step.slot fetch pending' with pending | ⟨unmade, _⟩
        · exact vacated id cell fetch foundCell pending
        · rintro rfl
          exact absurd (made.symm.trans (unmade flight found)) (by decide)
  · obtain ⟨cell'', found'', step⟩ := cells id cell found
    obtain rfl : cell' = cell'' := Option.some.inj (found'.symm.trans found'')
    exact step.paced.imp_right fun ⟨event, noted, _⟩ => ⟨event, noted⟩
  · obtain ⟨flight'', found'', step⟩ := flights generation flight found
    obtain rfl : flight' = flight'' := Option.some.inj (found'.symm.trans found'')
    exact step.live
  · obtain ⟨cell'', found'', step⟩ := cells id cell found
    obtain rfl : cell' = cell'' := Option.some.inj (found'.symm.trans found'')
    exact step.cooldown

theorem Advance.of_related {before after : Gate T P} (clock : before.clock ≤ after.clock)
    (opened : before.watch.opened ≤ after.watch.opened)
    (reached : before.watch.reached ≤ after.watch.reached)
    (published : before.publish.generation ≤ after.publish.generation)
    (cells : Related (CellStep before after) before.cells after.cells)
    (flights : Related (FlightStep before after) before.flights after.flights)
    (holds : ∀ id, after.subjects.Holds id → (before.cells id).isSome = true →
      before.subjects.Holds id) :
    Advance before after := by
  refine .of_grown clock opened reached published (fun _ _ => cells.forward) (fun id cell' new found' => ?_)
    (fun _ _ => flights.forward) (fun generation flight' new found' => ?_) holds
  · rw [cells.eq_none_iff.mpr new] at found'
    cases found'
  · rw [flights.eq_none_iff.mpr new] at found'
    cases found'

end PolicyGate
