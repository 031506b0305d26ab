import PolicyGate.Gate.Rely

namespace PolicyGate

open Data

variable {T P : Type} {config : PolicyGateConfig} {before after : Gate T P}

/-! How each group of facts carries over a step that leaves alone what the group speaks of. -/

theorem Permitted.mono {reached reached' : Nat} {session : Option Nat}
    (permitted : Permitted reached session) (grown : reached ≤ reached') :
    Permitted reached' session := by
  obtain ⟨n, same, bound⟩ := permitted
  exact ⟨n, same, bound.trans grown⟩

theorem SnapshotArc.CapturedFrom.mono {entry : Entry T} {log log' : EntryLog T P}
    {arc : SnapshotArc P} (captured : arc.CapturedFrom config entry log) (grown : log <:+ log') :
    arc.CapturedFrom config entry log' := by
  obtain ⟨earlier, older, address, value⟩ := captured
  exact ⟨earlier, older.trans grown, address, value⟩

theorem Answered.mono {entry : Entry T} {generation : Nat} {refresh : Bool}
    {result : DecisionResult P} (extend : Extends before after)
    (answered : Answered before.flights entry generation refresh result) :
    Answered after.flights entry generation refresh result := by
  obtain ⟨flight, found, same, subject, kind, answer⟩ := answered
  obtain ⟨flight', found', grows⟩ := extend.flights generation flight found
  have answer' := (grows.answer (by rw [answer]; rfl)).1
  refine ⟨flight', found', ?_, ?_, ?_, answer'.trans answer⟩ <;> rw [grows.fetch] <;> assumption

theorem EventSourced.mono {entry : Entry T} {session : Option Nat} {event : EntryEvent T P}
    (extend : Extends before after) (sourced : EventSourced before.flights entry session event) :
    EventSourced after.flights entry session event := by
  cases event with
  | published publication =>
      simp only [EventSourced, Publication.Sourced] at sourced ⊢
      cases origin : publication.origin with
      | cold generation =>
          simp only [origin] at sourced ⊢
          exact sourced.mono extend
      | refresh generation =>
          simp only [origin] at sourced ⊢
          exact sourced.mono extend
      | change =>
          simp only [origin] at sourced ⊢
          exact sourced
  | observed reader thread now snapshot => cases reader <;> exact sourced
  | started generation refresh held now =>
      obtain ⟨flight, flown, begun⟩ := sourced
      obtain ⟨flight', flown', grows⟩ := extend.flights generation flight flown
      exact ⟨flight', flown', by rw [grows.begun begun]; exact begun⟩
  | latched | invalidated | failed | returned | cooled => exact sourced

theorem CellOk.mono {id : Nat} {cell : EntryCell T P} (extend : Extends before after)
    (ok : CellOk config before.clock before.flights before.watch.reached id cell) :
    CellOk config after.clock after.flights after.watch.reached id cell where
  toSound := ok.toSound
  identity := ok.identity
  epoch := ok.epoch.trans extend.clock
  window := ok.window
  due fetch current pending refresh := (ok.due fetch current pending refresh).mono extend.clock
  sourced event member := (ok.sourced event member).mono extend
  permitted authoritative := (ok.permitted authoritative).mono extend.reached

theorem Flight.Bound.mono {reached reached' generation : Nat} {cell cell' : EntryCell T P}
    {flight : Flight T P} (bound : flight.Bound config reached generation cell)
    (grown : reached ≤ reached') (grows : cell.Grows cell') :
    flight.Bound config reached' generation cell' where
  entry := grows.entry.trans bound.entry
  permitted asked := grows.session ▸ (bound.permitted asked).mono grown
  captured arc from_arc := by
    obtain ⟨captured, authoritative⟩ := bound.captured arc from_arc
    rw [grows.entry]
    exact ⟨captured.mono grows.log, authoritative⟩
  started begun := by
    obtain ⟨earlier, refresh, held, now, older, basis⟩ := bound.started begun
    exact ⟨earlier, refresh, held, now, older.trans grows.log, basis⟩
  begun opened begun := grows.session ▸ bound.begun opened begun

theorem FlightOk.mono {generation : Nat} {flight : Flight T P} (extend : Extends before after)
    (ok : FlightOk config before.cells before.watch.reached generation flight) :
    FlightOk config after.cells after.watch.reached generation flight where
  toSound := ok.toSound
  identity := ok.identity
  subject := ok.subject
  bound := by
    obtain ⟨cell, found, bound⟩ := ok.bound
    obtain ⟨cell', found', grows⟩ := extend.cells _ cell found
    exact ⟨cell', found', bound.mono extend.reached grows⟩

theorem Observation.mono {entry : Entry T} {reader : Reader T} {thread now : Nat}
    {snapshot : EntrySnapshot P} (extend : Extends before after)
    (observation : Observation before.cells entry reader thread now snapshot) :
    Observation after.cells entry reader thread now snapshot := by
  obtain ⟨cell, found, same, member, unexpired⟩ := observation
  obtain ⟨cell', found', grows⟩ := extend.cells _ cell found
  exact ⟨cell', found', grows.entry.trans same, grows.log.subset member, unexpired⟩

theorem Outcome.Backed.mono {thread : Nat} {outcome : Outcome T P} (extend : Extends before after)
    (backed : outcome.Backed before.cells thread) : outcome.Backed after.cells thread := by
  cases outcome with
  | admitted subject admission =>
      cases admission with
      | none => trivial
      | some entry =>
          obtain ⟨now, snapshot, observed, authoritative⟩ := backed
          exact ⟨now, snapshot, observed.mono extend, authoritative⟩
  | cached subject admission =>
      cases admission with
      | none => trivial
      | some entry =>
          obtain ⟨now, snapshot, observed, authoritative⟩ := backed
          exact ⟨now, snapshot, observed.mono extend, authoritative⟩
  | state entry now reported =>
      intro authoritative
      obtain ⟨snapshot, observed, same⟩ := backed authoritative
      exact ⟨snapshot, observed.mono extend, same⟩
  | checked entry now reported due =>
      intro authoritative
      obtain ⟨snapshot, observed, same⟩ := backed authoritative
      exact ⟨snapshot, observed.mono extend, same⟩
  | payload entry now carried =>
      cases carried with
      | none => trivial
      | some payload =>
          obtain ⟨snapshot, observed, allowed, carried⟩ := backed
          exact ⟨snapshot, observed.mono extend, allowed, carried⟩
  | refreshed | invalidated => trivial

theorem CopiesOk.transfer {copies : List Rebuild} {generation : Nat} {watch watch' : Watch T P}
    {snapshot : List (T × Entry T)} (ok : CopiesOk before.cells copies generation watch snapshot)
    (extend : Extends before after) (connected : watch'.connected = watch.connected)
    (orderly : watch'.orderly = watch.orderly) (era : watch'.era = watch.era) :
    CopiesOk after.cells copies generation watch' snapshot where
  bounded := ok.bounded
  fresh isOrderly isConnected copy member same := by
    rw [era]
    exact ok.fresh (orderly ▸ isOrderly) (connected ▸ isConnected) copy member same
  stored isOrderly isConnected slot member := by
    obtain ⟨cell, found, session⟩ :=
      ok.stored (orderly ▸ isOrderly) (connected ▸ isConnected) slot member
    obtain ⟨cell', found', grows⟩ := extend.cells _ cell found
    exact ⟨cell', found', by rw [grows.session, era]; exact session⟩

theorem Extends.honest (extend : Extends before after) (honest : after.Honest) :
    before.Honest := by
  intro generation flight result found answered
  obtain ⟨flight', found', grows⟩ := extend.flights generation flight found
  obtain ⟨answer, truth⟩ := grows.answer (by rw [answered]; rfl)
  rw [← truth]
  exact honest generation flight' result found' (answer.trans answered)

def SameSlot (_ : Nat) (cell cell' : EntryCell T P) : Prop :=
  cell'.entry = cell.entry ∧ cell'.session = cell.session ∧ cell'.pending = cell.pending

def SameHome (_ : Nat) (cell cell' : EntryCell T P) : Prop :=
  cell'.entry = cell.entry ∧ cell'.session = cell.session

structure Requeued (_ : Nat) (flight flight' : Flight T P) : Prop where
  fetch : flight'.fetch = flight.fetch
  aborted : flight'.aborted = false → flight.aborted = false
  queued : flight'.stage = .queued ↔ flight.stage = .queued
  airborne : flight.fetch.refreshFrom.isSome = true → flight'.stage.airborne = true →
    flight.stage.airborne = true
  flown : flight.stage.airborne = true ∨ flight.stage = .finished →
    flight'.stage.airborne = true ∨ flight'.stage = .finished

structure Reslotted (before : Gate T P) (generation : Nat) (flight flight' : Flight T P) : Prop where
  fetch : flight'.fetch = flight.fetch
  taken : flight'.taken = flight.taken
  slotted : flight.stage.slotted = true → flight'.stage.slotted = true
  live : flight'.stage.live = true → flight.stage.live = true
  finished : flight.fetch.refreshFrom.isSome = true → flight'.stage = .finished →
    flight.stage = .finished ∨ before.Vacated generation

structure Restaged (before : Gate T P) (generation : Nat) (flight flight' : Flight T P) : Prop
    extends Requeued generation flight flight', Reslotted before generation flight flight'

theorem Restaged.of_stage_eq {generation : Nat} {flight flight' : Flight T P}
    (fetch : flight'.fetch = flight.fetch) (taken : flight'.taken = flight.taken)
    (aborted : flight'.aborted = false → flight.aborted = false)
    (stage : flight'.stage = flight.stage) : Restaged before generation flight flight' where
  fetch := fetch
  taken := taken
  aborted := aborted
  slotted := by rw [stage]; exact fun slotted => slotted
  live := by rw [stage]; exact fun live => live
  queued := by rw [stage]
  airborne := by rw [stage]; exact fun _ airborne => airborne
  flown := by rw [stage]; exact fun flown => flown
  finished := by rw [stage]; exact fun _ finished => .inl finished

theorem Requeued.refl (generation : Nat) (flight : Flight T P) :
    Requeued generation flight flight :=
  ⟨rfl, fun unaborted => unaborted, .rfl, fun _ airborne => airborne, fun flown => flown⟩

theorem Restaged.refl (generation : Nat) (flight : Flight T P) :
    Restaged before generation flight flight :=
  .of_stage_eq rfl rfl (fun unaborted => unaborted) rfl

theorem SlotsOk.transfer {cells' : Nat → Option (EntryCell T P)}
    {flights' : Nat → Option (Flight T P)} (ok : SlotsOk before.cells before.flights)
    (cells : Related SameSlot before.cells cells')
    (flights : Related (Reslotted before) before.flights flights') : SlotsOk cells' flights' where
  held id cell' fetch found' pending' := by
    obtain ⟨cell, found, entry, session, pending⟩ := cells.backward found'
    rw [pending] at pending'
    obtain ⟨flight, flown, same, home, untaken, slotted, unfinished⟩ :=
      ok.held id cell fetch found pending'
    obtain ⟨flight', flown', step⟩ := flights.forward flown
    refine ⟨flight', flown', step.fetch.trans same, home.trans entry.symm, step.taken.trans untaken,
      step.slotted slotted, fun refresh finished => ?_⟩
    rcases step.finished (same ▸ refresh) finished with finished | vacated
    · exact unfinished refresh finished
    · exact vacated id cell fetch found pending' rfl
  live generation flight' flown' live untaken := by
    obtain ⟨flight, flown, step⟩ := flights.backward flown'
    obtain ⟨cell, found, pending⟩ :=
      ok.live generation flight flown (step.live live) (step.taken ▸ untaken)
    obtain ⟨cell', found', _, _, pending'⟩ := cells.forward found
    rw [step.fetch]
    exact ⟨cell', found', pending'.trans pending⟩

theorem Advance.dead_or_holds {id : Nat} (advance : Advance before after)
    (dead : before.Dead id) : after.Dead id ∨ before.subjects.Holds id := by
  obtain ⟨cell, found, died⟩ := dead
  exact (advance.stale id ⟨cell, found, died.1⟩).imp
    (fun stale => advance.dead id ⟨cell, found, died⟩ stale) fun held => held

theorem MapOk.transfer {map : SubjectMap T} {era : Option Nat}
    (ok : MapOk before.cells before.flights map era) (advance : Advance before after)
    (same : before.subjects = map)
    (known : ∀ id cell, after.cells id = some cell → (before.cells id).isSome = true) :
    MapOk after.cells after.flights map era where
  slots slot member := by
    obtain ⟨cell, found, entry, subject, session⟩ := ok.slots slot member
    obtain ⟨cell', found', grows⟩ := advance.cells _ cell found
    refine ⟨cell', found', grows.entry.trans entry, ?_, grows.session.trans session⟩
    rw [grows.entry]
    exact subject
  limbo entry member := by
    obtain ⟨cell, found, same_entry, state⟩ := ok.limbo entry member
    obtain ⟨cell', found', grows⟩ := advance.cells _ cell found
    refine ⟨cell', found', grows.entry.trans same_entry, ?_⟩
    rcases state with dead | session
    · rcases advance.dead_or_holds ⟨cell, found, dead⟩ with ⟨cell'', found'', dead'⟩ | held
      · obtain rfl : cell' = cell'' := Option.some.inj (found'.symm.trans found'')
        exact .inl dead'
      · rw [same] at held
        obtain ⟨slot, slot_member, slot_id⟩ := held
        obtain ⟨cell'', found'', _, _, session⟩ := ok.slots slot slot_member
        rw [slot_id] at found''
        obtain rfl : cell = cell'' := Option.some.inj (found.symm.trans found'')
        exact .inr (grows.session.trans session)
    · exact .inr (grows.session.trans session)
  placed id cell' found' := by
    obtain ⟨cell, found⟩ := Option.isSome_iff_exists.mp (known id cell' found')
    rcases ok.placed id cell found with held | removed | dead
    · exact .inl held
    · exact .inr (.inl removed)
    · rcases advance.dead_or_holds ⟨cell, found, dead⟩ with ⟨cell'', found'', dead'⟩ | held
      · obtain rfl : cell' = cell'' := Option.some.inj (found'.symm.trans found'')
        exact .inr (.inr dead')
      · exact .inl (same ▸ held)
  unlocked := ok.unlocked
  apart := ok.apart

theorem SnapshotOk.transfer {connected : Bool} {snapshot : List (T × Entry T)}
    (ok : SnapshotOk before.cells connected snapshot) (extend : Extends before after) :
    SnapshotOk after.cells connected snapshot where
  known slot member := by
    obtain ⟨cell, found, entry, subject⟩ := ok.known slot member
    obtain ⟨cell', found', grows⟩ := extend.cells _ cell found
    exact ⟨cell', found', grows.entry.trans entry, subject⟩
  empty := ok.empty

theorem Orphaned.transfer {watch watch' : Watch T P} {fetch : PendingFetch T P}
    (orphaned : Orphaned before.cells watch fetch)
    (cells : ∀ id cell', after.cells id = some cell' → ∃ cell, before.cells id = some cell ∧
      cell'.session = cell.session)
    (phase : watch'.phase = watch.phase) (opened : watch'.opened = watch.opened) :
    Orphaned after.cells watch' fetch := by
  intro connected cell' found'
  obtain ⟨cell, found, session⟩ := cells _ cell' found'
  rw [session, opened]
  exact orphaned (phase ▸ connected) cell found

theorem QueueOk.transfer {queue : List (PendingFetch T P)} {watch watch' : Watch T P}
    (ok : QueueOk before.cells before.flights queue watch)
    (cells : Related SameHome before.cells after.cells)
    (flights : Related Requeued before.flights after.flights)
    (inflight : watch'.inflight = watch.inflight) (phase : watch'.phase = watch.phase)
    (opened : watch'.opened = watch.opened) :
    QueueOk after.cells after.flights queue watch' := by
  have sessions : ∀ id cell', after.cells id = some cell' → ∃ cell, before.cells id = some cell ∧
      cell'.session = cell.session := by
    intro id cell' found'
    obtain ⟨cell, found, _, session⟩ := cells.backward found'
    exact ⟨cell, found, session⟩
  refine ⟨?_, ?_, ?_, ?_, ?_⟩
  · intro fetch member
    obtain ⟨flight, flown, same, queued⟩ := ok.queued fetch member
    obtain ⟨flight', flown', step⟩ := flights.forward flown
    exact ⟨flight', flown', step.fetch.trans same, step.queued.mpr queued⟩
  · intro fetch member
    obtain ⟨flight, flown, same, refresh, airborne⟩ := ok.inflight fetch (inflight ▸ member)
    obtain ⟨flight', flown', step⟩ := flights.forward flown
    exact ⟨flight', flown', step.fetch.trans same, by rw [step.fetch]; exact refresh,
      step.flown airborne⟩
  · rw [inflight]
    exact ok.distinct
  · intro generation flight' flown' queued
    obtain ⟨flight, flown, step⟩ := flights.backward flown'
    rw [step.fetch]
    exact (ok.waiting generation flight flown (step.queued.mp queued)).imp (fun member => member)
      fun orphaned => orphaned.transfer sessions phase opened
  · intro generation flight' flown' refresh unaborted airborne
    obtain ⟨flight, flown, step⟩ := flights.backward flown'
    rw [step.fetch] at refresh ⊢
    exact (ok.flying generation flight flown refresh (step.aborted unaborted)
      (step.airborne refresh airborne)).imp
      (fun member => inflight ▸ member) fun orphaned => orphaned.transfer sessions phase opened

structure Quiet (before after : Gate T P) : Prop where
  nextEntry : after.nextEntry = before.nextEntry
  nextGeneration : after.nextGeneration = before.nextGeneration
  subjects : after.subjects = before.subjects
  snapshot : after.snapshot = before.snapshot
  publish : after.publish = before.publish
  copies : after.copies = before.copies
  refreshing : after.refreshing = before.refreshing
  queue : after.queue = before.queue
  watch : ∃ applying, after.watch = { before.watch with applying }
  stream : after.stream.isSome = before.stream.isSome
  outcomes : after.outcomes = before.outcomes
  unreachable : after.unreachable = before.unreachable

theorem Quiet.reached (quiet : Quiet before after) : after.watch.reached = before.watch.reached := by
  obtain ⟨_, same⟩ := quiet.watch
  rw [same]

theorem Quiet.opened (quiet : Quiet before after) : after.watch.opened = before.watch.opened := by
  obtain ⟨_, same⟩ := quiet.watch
  rw [same]

def KeepsOwn (me _ : Nat) (flight flight' : Flight T P) : Prop :=
  flight'.stage = flight.stage ∨ flight.stage.owner ≠ some me ∧ flight'.stage.owner ≠ some me

theorem stageOf_iff_of_related {me : Nat}
    (flights : Related (KeepsOwn me) before.flights after.flights) (generation : Nat)
    (stage : Stage) (owned : stage.owner = some me) :
    before.stageOf generation = some stage ↔ after.stageOf generation = some stage := by
  unfold Gate.stageOf
  cases flown : before.flights generation with
  | none => rw [flights.eq_none_iff.mpr flown]
  | some flight =>
      obtain ⟨flight', flown', same | ⟨free, free'⟩⟩ := flights.forward flown
      · rw [flown', Option.map_some, Option.map_some, same]
      · rw [flown', Option.map_some, Option.map_some, Option.some.injEq, Option.some.injEq]
        constructor
        · rintro rfl
          exact absurd owned free
        · rintro rfl
          exact absurd owned free'

section

variable [DecidableEq T]

/-- The step keeps the invariant and every thread may rely on it. -/
structure NeutralStep (config : PolicyGateConfig) (before after : Gate T P) : Prop where
  invariant : after.Invariant config
  rely : ∀ me, Rely me before after

/-- A step of thread `me` under a lock it holds. -/
structure GuardedStep (config : PolicyGateConfig) (me : Nat) (before after : Gate T P) : Prop where
  invariant : after.Invariant config
  guarded : Guarded me before after
  rely : ∀ other, other ≠ me → Rely other before after

/-- A step of thread `me` on a lookup in its hands. -/
structure OwnStep (config : PolicyGateConfig) (me : Nat) (before after : Gate T P) : Prop where
  invariant : after.Invariant config
  advance : Advance before after
  rely : ∀ other, other ≠ me → Rely other before after

/-- A step of the watcher. -/
structure WatcherStep (config : PolicyGateConfig) (before after : Gate T P) : Prop where
  invariant : after.Invariant config
  advance : Advance before after
  owned : ∀ generation stage, stage.owner = some 0 →
    (before.stageOf generation = some stage ↔ after.stageOf generation = some stage)
  rely : ∀ other, other ≠ 0 → Rely other before after

theorem Gate.Invariant.passTurn (ok : after.Invariant config) (turn : Option Nat) :
    Gate.Invariant config { after with refreshing := turn } :=
  { ok with
    agreement := fun streaming honest =>
      have agreement := ok.agreement streaming honest
      ⟨agreement.emitted, fun id cell found held quiet =>
        have agrees := agreement.entries id cell found held quiet
        ⟨agrees.decided, agrees.answered⟩⟩ }

theorem OwnStep.passTurn {me : Nat} {turn : Option Nat} (step : OwnStep config me before after)
    (free : ∀ other, other ≠ me → before.refreshing ≠ some other) :
    OwnStep config me before { after with refreshing := turn } where
  invariant := step.invariant.passTurn turn
  advance := { step.advance with }
  rely other different :=
    { step.rely other different with turn := fun held => absurd held (free other different) }

theorem OwnStep.afterTurn {me : Nat} {turn : Option Nat}
    (step : OwnStep config me { before with refreshing := turn } after)
    (free : ∀ other, other ≠ me → before.refreshing ≠ some other) :
    OwnStep config me before after where
  invariant := step.invariant
  advance := { step.advance with }
  rely other different :=
    { step.rely other different with turn := fun held => absurd held (free other different) }

theorem NeutralStep.guarded {me : Nat} (step : NeutralStep config before after) :
    GuardedStep config me before after :=
  ⟨step.invariant, (step.rely me).toGuarded, fun other _ => step.rely other⟩

theorem NeutralStep.own {me : Nat} (step : NeutralStep config before after) :
    OwnStep config me before after :=
  ⟨step.invariant, (step.rely me).toAdvance, fun other _ => step.rely other⟩

end

theorem Quiet.rely {me : Nat} (quiet : Quiet before after) (advance : Advance before after)
    (flights : Related (KeepsOwn me) before.flights after.flights)
    (cooldowns : SameCooldowns before after) (watch : me = 0 → after.watch = before.watch)
    (stale : before.subjects.lock = some me → ∀ id, before.Stale id → after.Stale id) :
    Rely me before after where
  toAdvance := advance
  turn held := ⟨quiet.refreshing.trans held, cooldowns⟩
  publish held := by
    obtain ⟨_, same⟩ := quiet.watch
    rw [quiet.publish, quiet.snapshot, same]
    exact ⟨held, rfl, rfl, fun connected => connected⟩
  copies copy member _ := by
    rw [quiet.copies]
    exact member
  owned := stageOf_iff_of_related flights
  watch zero := ⟨watch zero, quiet.stream⟩
  subjects locked := ⟨quiet.subjects, stale locked⟩

def SameAnswers (before after : Gate T P) : Prop :=
  ∀ generation flight', after.flights generation = some flight' → flight'.answer.isSome = true →
    ∃ flight, before.flights generation = some flight ∧ flight'.fetch = flight.fetch ∧
      flight'.answer = flight.answer

theorem SameAnswers.of_related (flights : Related (fun _ flight flight' =>
    flight'.fetch = flight.fetch ∧ flight'.answer = flight.answer) before.flights after.flights) :
    SameAnswers before after :=
  fun _ _ flown _ => flights.backward flown

variable [DecidableEq T]

/-- The entry was in the map with the same decision, and no change was due to it. -/
def Undisturbed (before after : Gate T P) (id : Nat) (cell' : EntryCell T P) : Prop :=
  ∃ cell, before.cells id = some cell ∧ before.subjects.Holds id ∧ cell'.entry = cell.entry ∧
    cell'.current = cell.current ∧ before.due cell.entry.subject = [] ∧
    after.authority cell.entry.subject = before.authority cell.entry.subject

theorem Gate.Agreement.transfer (agreement : before.Agreement) (answers : SameAnswers before after)
    (emitted : ∀ subject change, (after.due subject).getLast? = some change →
      after.authority subject = change.decision)
    (entries : ∀ id cell', after.cells id = some cell' → after.subjects.Holds id →
      after.due cell'.entry.subject = [] →
      Undisturbed before after id cell' ∨ after.Agrees id cell') : after.Agreement where
  emitted := emitted
  entries id cell' found' held' quiet' := by
    rcases entries id cell' found' held' quiet' with ⟨cell, found, held, entry, current, quiet,
      authority⟩ | agrees
    · have agrees := agreement.entries id cell found held quiet
      refine ⟨fun decision decided => ?_, ?_⟩
      · rw [entry, authority]
        exact agrees.decided decision (by rw [← decided, EntryCell.state, EntryCell.state, current])
      · intro generation flight' result flown' home applicable answered
        obtain ⟨flight, flown, fetch, answer⟩ :=
          answers generation flight' flown' (by rw [answered]; rfl)
        rw [entry, authority]
        refine agrees.answered generation flight result flown (fetch ▸ home) ?_ (answer ▸ answered)
        unfold Flight.Applicable at applicable ⊢
        rw [fetch, EntryCell.state, current] at applicable
        exact applicable
    · exact agrees

theorem Gate.Invariant.basis_le (ok : before.Invariant config) {generation : Nat}
    {flight : Flight T P} {cell : EntryCell T P} (flown : before.flights generation = some flight)
    (found : before.cells flight.fetch.entry.id = some cell) :
    flight.fetch.basis ≤ cell.current.address := by
  obtain ⟨cell', found', bound⟩ := (ok.flights generation flight flown).bound
  obtain rfl : cell = cell' := Option.some.inj (found.symm.trans found')
  unfold PendingFetch.basis
  cases from_arc : flight.fetch.refreshFrom with
  | none => exact Nat.zero_le _
  | some arc =>
      obtain ⟨⟨earlier, older, address, _⟩, _⟩ := bound.captured arc from_arc
      rw [(ok.cells _ cell found).address]
      simp only [Option.map_some, Option.getD_some, ← address]
      exact older.sublist.countP_le

theorem Gate.Invariant.not_applicable (ok : before.Invariant config) {generation : Nat}
    {flight : Flight T P} {cell cell' : EntryCell T P}
    (flown : before.flights generation = some flight)
    (found : before.cells flight.fetch.entry.id = some cell) (settled : cell'.state ≠ .pending)
    (newer : cell.current.address < cell'.current.address) : ¬ flight.Applicable cell' := by
  have basis := ok.basis_le flown found
  unfold Flight.Applicable
  unfold PendingFetch.basis at basis
  cases from_arc : flight.fetch.refreshFrom with
  | none => exact settled
  | some arc =>
      rw [from_arc] at basis
      simp only [Option.map_some, Option.getD_some] at basis ⊢
      omega

/-- The slots, the changed cells, the changed lookups and the agreement with the authority are
what is left to show of a step that leaves the rest alone. -/
theorem Gate.Invariant.quiet (ok : before.Invariant config) (quiet : Quiet before after)
    (advance : Advance before after)
    (cells : Related SameHome before.cells after.cells)
    (flights : Related Requeued before.flights after.flights)
    (slots : SlotsOk after.cells after.flights)
    (cellsOk : ∀ id cell, after.cells id = some cell → before.cells id = some cell ∨
      CellOk config after.clock after.flights after.watch.reached id cell)
    (flightsOk : ∀ generation flight, after.flights generation = some flight →
      before.flights generation = some flight ∨
        FlightOk config after.cells after.watch.reached generation flight)
    (agreement : before.stream.isSome = true → after.Honest → before.Agreement → after.Agreement) :
    after.Invariant config := by
  obtain ⟨nextEntry, nextGeneration, subjects, snapshot, publish, copies, _, queue,
    ⟨applying, watch⟩, stream, outcomes, unreachable⟩ := quiet
  refine
    { freshEntry := fun id fresh => ?_, freshGeneration := fun generation fresh => ?_,
      cells := fun id cell found => ?_, flights := fun generation flight flown => ?_,
      slots, map := ?_, session := ?_, snapshot := ?_, copies := ?_, queue := ?_,
      agreement := fun streaming honest => ?_, outcomes := fun thread outcome returned => ?_,
      reachable := unreachable.trans ok.reachable }
  · exact cells.eq_none_iff.mpr (ok.freshEntry id (nextEntry ▸ fresh))
  · exact flights.eq_none_iff.mpr (ok.freshGeneration generation (nextGeneration ▸ fresh))
  · rcases cellsOk id cell found with unchanged | changed
    · exact (ok.cells id cell unchanged).mono advance.toExtends
    · exact changed
  · rcases flightsOk generation flight flown with unchanged | changed
    · exact (ok.flights generation flight unchanged).mono advance.toExtends
    · exact changed
  · rw [subjects, watch]
    refine ok.map.transfer advance rfl fun id cell' found' => ?_
    obtain ⟨cell, found, _⟩ := cells.backward found'
    rw [found]
    rfl
  · rw [watch, stream]
    exact { ok.session with }
  · rw [snapshot, watch]
    exact ok.snapshot.transfer advance.toExtends
  · rw [copies, publish, watch, snapshot]
    exact ok.copies.transfer advance.toExtends rfl rfl rfl
  · rw [queue, watch]
    exact ok.queue.transfer cells flights rfl rfl rfl
  · rw [stream] at streaming
    exact agreement streaming honest (ok.agreement streaming (advance.toExtends.honest honest))
  · rw [outcomes] at returned
    exact (ok.outcomes thread outcome returned).mono advance.toExtends

theorem Gate.Invariant.quiet_of_slots (ok : before.Invariant config) (quiet : Quiet before after)
    (advance : Advance before after)
    (cells : Related SameSlot before.cells after.cells)
    (flights : Related (Restaged before) before.flights after.flights)
    (cellsOk : ∀ id cell, after.cells id = some cell → before.cells id = some cell ∨
      CellOk config after.clock after.flights after.watch.reached id cell)
    (flightsOk : ∀ generation flight, after.flights generation = some flight →
      before.flights generation = some flight ∨
        FlightOk config after.cells after.watch.reached generation flight)
    (agreement : before.stream.isSome = true → after.Honest → before.Agreement → after.Agreement) :
    after.Invariant config :=
  ok.quiet quiet advance (cells.mono fun _ _ _ _ _ same => ⟨same.1, same.2.1⟩)
    (flights.mono fun _ _ _ _ _ step => step.toRequeued)
    (ok.slots.transfer cells (flights.mono fun _ _ _ _ _ step => step.toReslotted)) cellsOk flightsOk
    agreement

end PolicyGate
