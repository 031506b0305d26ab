import PolicyGate.Gate.Audit

namespace PolicyGate

open Interleaving Data

variable {T P : Type}

abbrev EntryLog.Plainly (me : Nat) (log log' : EntryLog T P) : Prop :=
  log' = log ∨ ∃ event, log' = event :: log ∧ event.Plain me

structure EntryCell.Aside (me : Nat) (cell cell' : EntryCell T P) : Prop where
  pending : cell'.pending = cell.pending
  notBefore : cell'.refreshNotBefore = cell.refreshNotBefore
  log : EntryLog.Plainly me cell.log cell'.log

structure Flight.Aside (flight flight' : Flight T P) : Prop where
  fetch : flight'.fetch = flight.fetch
  stage : flight'.stage = flight.stage
  taken : flight'.taken = flight.taken
  placed : flight'.placed = flight.placed
  answer : flight'.answer = flight.answer

structure Flight.New (stage : Stage) (flight : Flight T P) : Prop where
  stage : flight.stage = stage
  taken : flight.taken = false
  placed : flight.placed = 0
  answer : flight.answer = none

theorem EntryCell.Aside.chills {config : PolicyGateConfig} {before : Gate T P} {me : Nat}
    {cell cell' : EntryCell T P} (aside : cell.Aside me cell') : cell.Chills config before cell' := by
  refine .inl ⟨aside.notBefore, fun generation held failed member => ?_⟩
  rcases aside.log with same | ⟨newest, grown, plain⟩
  · exact same ▸ member
  · rcases List.mem_cons.mp (grown ▸ member) with rfl | older
    · exact plain.elim
    · exact older

theorem EntryCell.Aside.refl (me : Nat) (cell : EntryCell T P) : cell.Aside me cell :=
  ⟨rfl, rfl, .inl rfl⟩

theorem Flight.Aside.refl (flight : Flight T P) : flight.Aside flight := ⟨rfl, rfl, rfl, rfl, rfl⟩

namespace Gate

structure EntriesAside (me : Nat) (before after : Gate T P) : Prop where
  closed : after.watch.closed = before.watch.closed
  turn : after.refreshing = before.refreshing
  cells : ∀ id cell', after.cells id = some cell' → ∃ cell, before.cells id = some cell ∧
    cell.Aside me cell'
  flights : ∀ generation flight', after.flights generation = some flight' →
    (∃ flight, before.flights generation = some flight ∧ flight.Aside flight') ∨
      before.flights generation = none ∧ flight'.New (.created me)

structure Inside (before after : Gate T P) : Prop where
  closed : after.watch.closed = before.watch.closed
  lock : after.subjects.lock = before.subjects.lock
  limbo : after.subjects.limbo = before.subjects.limbo
  cache : after.subjects.cache.entries.length ≤ before.subjects.cache.entries.length
  publish : after.publish = before.publish
  queue : after.queue = before.queue
  queueClosed : after.queueClosed = before.queueClosed

structure Aside (me : Nat) (before after : Gate T P) : Prop extends EntriesAside me before after,
  Inside before after

structure Gentle (me : Nat) (before after : Gate T P) : Prop where
  closed : after.watch.closed = before.watch.closed
  turn : after.refreshing = before.refreshing
  owned : ∀ generation stage, stage.owner = some me → before.At generation stage →
    after.At generation stage

def Settled (s : Gate T P) (id : Nat) : Prop := ∃ cell, s.cells id = some cell ∧ cell.state ≠ .pending

def Awake (me : Nat) (s : Gate T P) : Prop := me = 0 → s.watch.closed = false

theorem EntriesAside.of_eq {me : Nat} {before after : Gate T P} (cells : after.cells = before.cells)
    (flights : after.flights = before.flights) (turn : after.refreshing = before.refreshing)
    (closed : after.watch.closed = before.watch.closed) : EntriesAside me before after where
  closed := closed
  turn := turn
  cells _ cell' found := ⟨cell', cells ▸ found, .refl me cell'⟩
  flights _ flight' flown := .inl ⟨flight', flights ▸ flown, .refl flight'⟩

theorem Aside.refl (me : Nat) (s : Gate T P) : Aside me s s :=
  ⟨.of_eq rfl rfl rfl rfl, rfl, rfl, le_rfl, rfl, rfl, rfl⟩

theorem Aside.updateCell {me : Nat} (s : Gate T P) (id : Nat) {f : EntryCell T P → EntryCell T P}
    (changed : ∀ cell, s.cells id = some cell → cell.Aside me (f cell)) :
    Aside me s (s.updateCell id f) where
  closed := rfl
  turn := rfl
  cells other cell' found := by
    rcases update_map_eq_some found with ⟨rfl, cell, was, rfl⟩ | ⟨_, was⟩
    · exact ⟨cell, was, changed cell was⟩
    · exact ⟨cell', was, .refl me cell'⟩
  flights _ flight' flown := .inl ⟨flight', flown, .refl flight'⟩
  lock := rfl
  limbo := rfl
  cache := le_rfl
  publish := rfl
  queue := rfl
  queueClosed := rfl

theorem Aside.updateFlight {me : Nat} (s : Gate T P) (generation : Nat)
    {f : Flight T P → Flight T P} (changed : ∀ flight : Flight T P, flight.Aside (f flight)) :
    Aside me s (s.updateFlight generation f) where
  closed := rfl
  turn := rfl
  cells _ cell' found := ⟨cell', found, .refl me cell'⟩
  flights other flight' flown := by
    rcases update_map_eq_some flown with ⟨rfl, flight, was, rfl⟩ | ⟨_, was⟩
    · exact .inl ⟨flight, was, changed flight⟩
    · exact .inl ⟨flight', was, .refl flight'⟩
  lock := rfl
  limbo := rfl
  cache := le_rfl
  publish := rfl
  queue := rfl
  queueClosed := rfl

end Gate

theorem EntryCell.Grows.pending {config : PolicyGateConfig} {cell cell' : EntryCell T P}
    (grows : cell.Grows cell') (sound : cell.Sound config) (sound' : cell'.Sound config)
    (idle : cell'.state = .pending) : cell.state = .pending := by
  rw [EntryCell.state, sound'.value, EntryLog.current_pending_iff] at idle
  rw [EntryCell.state, sound.value, EntryLog.current_pending_iff]
  obtain ⟨recent, split⟩ := grows.log
  rw [← split, EntryLog.touches_append] at idle
  omega

variable [DecidableEq T] {rt : Runtime} {me : Nat} {actor : Option Nat} {before after : Gate T P}

abbrev Follows (rt : Runtime) (actor : Option Nat) (before after : Gate T P) : Prop :=
  (discipline rt).Follows actor before after

namespace Follows

theorem advance (follows : Follows rt actor before after) : Advance before after ∨ after = before := by
  obtain ⟨witness, other⟩ : ∃ witness, actor ≠ some witness := by
    cases actor with
    | none => exact ⟨0, by simp⟩
    | some thread => exact ⟨thread + 1, by simp⟩
  exact (follows.relied witness other).imp_left fun rely => rely.toAdvance

theorem lasts (follows : Follows rt actor before after) : Extends before after := by
  rcases follows.advance with advance | rfl
  · exact advance.toExtends
  · exact .refl _

theorem cell (follows : Follows rt actor before after) {id : Nat} {cell : EntryCell T P}
    (found : before.cells id = some cell) : ∃ cell', after.cells id = some cell' ∧ cell.Grows cell' :=
  follows.lasts.cells id cell found

theorem pending (follows : Follows rt actor before after) {id : Nat} {cell cell' : EntryCell T P}
    (found : before.cells id = some cell) (found' : after.cells id = some cell')
    (idle : cell'.state = .pending) : cell.state = .pending := by
  obtain ⟨cell'', found'', grows⟩ := follows.cell found
  obtain rfl : cell' = cell'' := Option.some.inj (found'.symm.trans found'')
  exact grows.pending (follows.sound.cells id cell found).toSound
    (follows.kept.cells id cell' found').toSound idle

theorem settled (follows : Follows rt actor before after) {id : Nat} (settled : before.Settled id) :
    after.Settled id := by
  obtain ⟨cell, found, busy⟩ := settled
  obtain ⟨cell', found', _⟩ := follows.cell found
  exact ⟨cell', found', fun idle => busy (follows.pending found found' idle)⟩

end Follows

def EntryCell.Attends (before after : Gate T P) (id : Nat) (cell' : EntryCell T P) : Prop :=
  (∃ cell, before.cells id = some cell ∧ cell'.pending = cell.pending) ∨
    ∃ fetch flight, cell'.pending = some fetch ∧ after.flights fetch.generation = some flight ∧
      flight.stage ≠ .finished

theorem LookupsOk.transfer (ok : LookupsOk before.cells before.flights)
    (follows : Follows rt actor before after)
    (attends : ∀ id cell', after.cells id = some cell' → cell'.state = .pending →
      cell'.Attends before after id)
    (finished : ∀ generation flight flight', before.flights generation = some flight →
      after.flights generation = some flight' → flight.stage ≠ .finished →
      flight'.stage = .finished → ∀ id cell' fetch, after.cells id = some cell' →
        cell'.state = .pending → cell'.pending = some fetch → fetch.generation ≠ generation)
    (taken : ∀ generation flight', after.flights generation = some flight' → flight'.taken = true →
      (∃ flight, before.flights generation = some flight ∧ flight'.fetch = flight.fetch ∧
        flight.taken = true) ∨ after.Settled flight'.fetch.entry.id) :
    LookupsOk after.cells after.flights where
  attended id cell' found' idle := by
    rcases attends id cell' found' idle with ⟨cell, found, same⟩ | waits
    · obtain ⟨fetch, flight, pending, flown, unfinished⟩ :=
        ok.attended id cell found (follows.pending found found' idle)
      obtain ⟨flight', flown', _⟩ := follows.lasts.flights _ flight flown
      exact ⟨fetch, flight', same.trans pending, flown', fun ended =>
        finished _ flight flight' flown flown' unfinished ended id cell' fetch found' idle
          (same.trans pending) rfl⟩
    · exact waits
  untaken generation flight' cell' flown' isTaken found' idle := by
    rcases taken generation flight' flown' isTaken with ⟨flight, flown, same, was⟩ | settled
    · obtain ⟨_, cell, found, _⟩ := Gate.Booked.of_flight follows.sound flown
      rw [same] at found'
      exact ok.untaken generation flight cell flown was found (follows.pending found found' idle)
    · obtain ⟨cell, found, busy⟩ := settled
      obtain rfl : cell = cell' := Option.some.inj (found.symm.trans found')
      exact busy idle

structure EntryCell.Moves (config : PolicyGateConfig) (after : Gate T P) (cell cell' : EntryCell T P) :
    Prop where
  later : cell.refreshNotBefore ≤ cell'.refreshNotBefore
  bound : cell'.refreshNotBefore ≤ cell.entry.cooledTick config after.clock
  log : cell'.log = cell.log ∨ ∃ event, cell'.log = event :: cell.log ∧ event.Until after.clock
  pending : ∀ fetch, cell'.pending = some fetch → cell.pending = some fetch ∨
    ∀ flight, after.flights fetch.generation = some flight → flight.stage.waiting = true →
      flight.Succeeds config cell'.log

structure Flight.Eases (flight flight' : Flight T P) : Prop where
  fetch : flight'.fetch = flight.fetch
  placed : flight'.placed = flight.placed
  taken : flight'.taken = false → flight.taken = false
  underway : flight.fetch.refreshFrom.isSome = true → flight'.stage.underway = true →
    flight.stage.underway = true
  waiting : flight.fetch.refreshFrom = none → flight'.stage.waiting = true →
    flight.stage.waiting = true

def EntryCell.Blank (cell : EntryCell T P) : Prop := cell.log = [] ∧ cell.refreshNotBefore = 0

/-- What must hold of a lookup that moved to another stage. -/
structure Flight.Rests (config : PolicyGateConfig) (before after : Gate T P) (generation : Nat)
    (flight' : Flight T P) : Prop where
  placed : flight'.placed ≤ after.clock
  underway : flight'.taken = false → flight'.stage.underway = true → ∀ cell,
    after.cells flight'.fetch.entry.id = some cell → EntryLog.Rested config cell.log after.clock
  waiting : flight'.stage.waiting = false ∨
    ∀ flight, before.flights generation = some flight → flight.stage.slotted = false

omit [DecidableEq T] in
theorem Flight.Rests.idle {config : PolicyGateConfig} {generation : Nat} {flight' : Flight T P}
    (placed : flight'.placed ≤ after.clock) (idle : flight'.stage.underway = false)
    (waiting : flight'.stage.waiting = false ∨
      ∀ flight, before.flights generation = some flight → flight.stage.slotted = false) :
    flight'.Rests config before after generation :=
  ⟨placed, fun _ underway => (by rw [idle] at underway; cases underway), waiting⟩

structure CooldownsOk.Notes (config : PolicyGateConfig) (after : Gate T P) (cell cell' : EntryCell T P) :
    Prop where
  started : ∀ generation refresh held now, cell'.log = .started generation refresh held now :: cell.log →
    (refresh = true → held = true) → EntryLog.Spaced config cell.entry cell.log refresh now
  returned : ∀ generation now, cell'.log = .returned generation now :: cell.log →
    cell'.state = .pending → ∀ fetch flight', cell'.pending = some fetch →
      after.flights fetch.generation = some flight' → flight'.stage.waiting = false
  cooled : ∀ generation held now, cell'.log = .cooled generation held now :: cell.log →
    cell.entry.cooledTick config now ≤ cell'.refreshNotBefore ∧
    (held = true → ∀ generation' flight', after.flights generation' = some flight' →
      flight'.fetch.refreshFrom.isSome = true → flight'.taken = false →
      flight'.fetch.entry.id = cell.entry.id → flight'.stage.underway = false)

theorem CooldownsOk.advance
    (ok : CooldownsOk rt.config before.clock before.cells before.flights)
    (follows : Follows rt actor before after)
    (cells : ∀ id cell', after.cells id = some cell' → (∃ cell, before.cells id = some cell ∧
      cell.Moves rt.config after cell' ∧ Notes rt.config after cell cell') ∨ cell'.Blank)
    (flights : ∀ generation flight', after.flights generation = some flight' →
      (∃ flight, before.flights generation = some flight ∧ flight.Eases flight') ∨
        flight'.Rests rt.config before after generation) :
    CooldownsOk rt.config after.clock after.cells after.flights where
  past id cell' found' event member := by
    rcases cells id cell' found' with ⟨cell, found, step, _⟩ | ⟨blank, _⟩
    · rcases step.log with same | ⟨newest, grown, now⟩
      · exact (ok.past id cell found event (same ▸ member)).mono follows.lasts.clock
      · rcases List.mem_cons.mp (grown ▸ member) with rfl | older
        · exact now
        · exact (ok.past id cell found event older).mono follows.lasts.clock
    · rw [blank] at member
      cases member
  since generation flight' flown' := by
    rcases flights generation flight' flown' with ⟨flight, flown, same⟩ | ⟨placed, _⟩
    · exact same.placed ▸ (ok.since generation flight flown).trans follows.lasts.clock
    · exact placed
  cooled id cell' found' := by
    rcases cells id cell' found' with ⟨cell, found, step, notes⟩ | ⟨blank, notBefore⟩
    · obtain ⟨cell'', found'', grows⟩ := follows.cell found
      obtain rfl : cell' = cell'' := Option.some.inj (found'.symm.trans found'')
      refine ⟨fun generation held failed member => ?_, grows.entry ▸ step.bound⟩
      rw [grows.entry]
      rcases step.log with same | ⟨newest, grown, _⟩
      · exact ((ok.cooled id cell found).stored generation held failed (same ▸ member)).trans step.later
      · rcases List.mem_cons.mp (grown ▸ member) with rfl | older
        · exact (notes.cooled generation held failed grown).1
        · exact ((ok.cooled id cell found).stored generation held failed older).trans step.later
    · refine ⟨fun generation held failed member => ?_, ?_⟩
      · rw [blank] at member
        cases member
      · rw [notBefore]
        exact Nat.zero_le _
  rested generation flight' cell' flown' refresh untaken underway found' other failed member := by
    rcases flights _ flight' flown' with ⟨flight, flown, same⟩ | ⟨_, rested, _⟩
    · rcases cells _ cell' found' with ⟨cell, found, step, notes⟩ | ⟨blank, _⟩
      · have older : ∀ event, EntryEvent.cooled other true failed = event → event ∈ cell.log →
            failed + rt.config.permanentFailureCooldown ≤ after.clock := by
          rintro _ rfl older
          rw [same.fetch] at refresh found
          exact (ok.rested generation flight cell flown refresh (same.taken untaken)
            (same.underway refresh underway) found other failed older).trans follows.lasts.clock
        rcases step.log with unchanged | ⟨newest, grown, _⟩
        · exact older _ rfl (unchanged ▸ member)
        · rcases List.mem_cons.mp (grown ▸ member) with rfl | known
          · have home := (follows.sound.cells _ cell found).identity
            rw [(notes.cooled other true failed grown).2 rfl generation flight' flown' refresh untaken
              home.symm] at underway
            cases underway
          · exact older _ rfl known
      · rw [blank] at member
        cases member
    · exact rested untaken underway cell' found' other failed member
  succeeds id cell' fetch flight' found' idle pending flown' cold waiting other ended member := by
    rcases cells id cell' found' with ⟨cell, found, step, notes⟩ | ⟨blank, _⟩
    · rcases step.pending fetch pending with inSlot | fresh
      · have older : .returned other ended ∈ cell.log := by
          rcases step.log with same | ⟨newest, grown, _⟩
          · exact same ▸ member
          · rcases List.mem_cons.mp (grown ▸ member) with rfl | known
            · rw [notes.returned other ended grown idle fetch flight' pending flown'] at waiting
              cases waiting
            · exact known
        obtain ⟨known, flown, _, _, _, slotted, _⟩ := follows.sound.slots.held id cell fetch found inSlot
        rcases flights _ flight' flown' with ⟨flight, flown', same⟩ | ⟨_, _, resting | unslotted⟩
        · rw [same.fetch] at cold
          rw [same.fetch, same.placed]
          exact ok.succeeds id cell fetch flight found (follows.pending found found' idle) inSlot flown'
            cold (same.waiting cold waiting) other ended older
        · rw [resting] at waiting
          cases waiting
        · rw [unslotted known flown] at slotted
          cases slotted
      · exact fresh flight' flown' waiting other ended member
    · rw [blank] at member
      cases member
  spaced id cell' recent earlier generation refresh held now found' split slotted := by
    rcases cells id cell' found' with ⟨cell, found, step, notes⟩ | ⟨blank, _⟩
    · obtain ⟨cell'', found'', grows⟩ := follows.cell found
      obtain rfl : cell' = cell'' := Option.some.inj (found'.symm.trans found'')
      rw [grows.entry]
      rcases step.log with same | ⟨newest, grown, _⟩
      · exact ok.spaced id cell recent earlier generation refresh held now found (same ▸ split) slotted
      · have split' := grown.symm.trans split
        cases recent with
        | nil =>
            obtain ⟨rfl, rfl⟩ := List.cons.inj split'
            exact notes.started generation refresh held now grown slotted
        | cons head rest =>
            exact ok.spaced id cell rest earlier generation refresh held now found
              (List.cons.inj split').2 slotted
    · rw [blank] at split
      simp at split

structure EntryCell.Eases (me : Nat) (after : Gate T P) (cell cell' : EntryCell T P) : Prop where
  notBefore : cell'.refreshNotBefore = cell.refreshNotBefore
  log : EntryLog.Plainly me cell.log cell'.log
  pending : ∀ fetch, cell'.pending = some fetch → cell.pending = some fetch ∨
    ∀ flight, after.flights fetch.generation = some flight → flight.stage.waiting = false

theorem CooldownsOk.transfer (me : Nat)
    (ok : CooldownsOk rt.config before.clock before.cells before.flights)
    (follows : Follows rt actor before after)
    (cells : ∀ id cell', after.cells id = some cell' → (∃ cell, before.cells id = some cell ∧
      cell.Eases me after cell') ∨ cell'.Blank)
    (flights : ∀ generation flight', after.flights generation = some flight' →
      (∃ flight, before.flights generation = some flight ∧ flight.Eases flight') ∨
        flight'.Rests rt.config before after generation) :
    CooldownsOk rt.config after.clock after.cells after.flights := by
  refine ok.advance follows (fun id cell' found' => ?_) flights
  refine (cells id cell' found').imp_left fun ⟨cell, found, step⟩ => ⟨cell, found, ⟨?_, ?_, ?_, ?_⟩, ?_⟩
  · exact step.notBefore.ge
  · rw [step.notBefore]
    exact (ok.cooled id cell found).bound.trans
      (Entry.cooledTick_mono rt.config cell.entry follows.lasts.clock)
  · refine step.log.imp_right fun ⟨event, grown, plain⟩ => ⟨event, grown, ?_⟩
    cases event with
    | started | returned | cooled => exact plain.elim
    | published | latched | invalidated | failed | observed => trivial
  · exact fun fetch pending => (step.pending fetch pending).imp_right fun idle flight flown waiting => by
      rw [idle flight flown] at waiting
      cases waiting
  · have unplain : ∀ event : EntryEvent T P, cell'.log = event :: cell.log → event.Plain me := by
      intro event grown
      rcases step.log with same | ⟨newest, grown', plain⟩
      · exact absurd (grown.symm.trans same) (by simp)
      · exact (List.cons.inj (grown.symm.trans grown')).1 ▸ plain
    exact ⟨fun _ _ _ _ grown => (unplain _ grown).elim, fun _ _ grown => (unplain _ grown).elim,
      fun _ _ _ grown => (unplain _ grown).elim⟩

namespace Gate.EntriesAside

theorem gentle (aside : EntriesAside me before after) (follows : Follows rt actor before after) :
    Gentle me before after := by
  refine ⟨aside.closed, aside.turn, fun generation stage _ at_stage => ?_⟩
  obtain ⟨flight, flown, rfl⟩ := Option.map_eq_some_iff.mp at_stage
  obtain ⟨flight', flown', _⟩ := follows.lasts.flights _ flight flown
  rcases aside.flights _ flight' flown' with ⟨flight'', flown'', same⟩ | ⟨new, _⟩
  · obtain rfl : flight = flight'' := Option.some.inj (flown.symm.trans flown'')
    exact same.stage ▸ Gate.stageOf_of_flights flown'
  · rw [flown] at new
    cases new

omit [DecidableEq T] in
theorem noted (aside : EntriesAside me before after) {id : Nat} {event : EntryEvent T P}
    (noted : after.Noted id event) : before.Noted id event ∨ event.Plain me := by
  obtain ⟨cell', found', member⟩ := noted
  obtain ⟨cell, found, step⟩ := aside.cells id cell' found'
  rcases step.log with same | ⟨newest, grown, plain⟩
  · exact .inl ⟨cell, found, same ▸ member⟩
  · rcases List.mem_cons.mp (grown ▸ member) with rfl | older
    · exact .inr plain
    · exact .inl ⟨cell, found, older⟩

theorem lookups (aside : EntriesAside me before after) (follows : Follows rt actor before after)
    (ok : LookupsOk before.cells before.flights) : LookupsOk after.cells after.flights := by
  refine ok.transfer follows (fun id cell' found' _ => ?_)
    (fun generation flight flight' flown flown' unfinished finished => ?_)
    fun generation flight' flown' taken => ?_
  · obtain ⟨cell, found, step⟩ := aside.cells id cell' found'
    exact .inl ⟨cell, found, step.pending⟩
  · rcases aside.flights _ flight' flown' with ⟨flight'', flown'', same⟩ | ⟨new, _⟩
    · obtain rfl : flight = flight'' := Option.some.inj (flown.symm.trans flown'')
      exact absurd (same.stage.symm.trans finished) unfinished
    · rw [flown] at new
      cases new
  · rcases aside.flights _ flight' flown' with ⟨flight, flown, same⟩ | ⟨_, created⟩
    · exact .inl ⟨flight, flown, same.fetch, same.taken ▸ taken⟩
    · rw [created.taken] at taken
      cases taken

theorem cooldowns (aside : EntriesAside me before after) (follows : Follows rt actor before after)
    (ok : CooldownsOk rt.config before.clock before.cells before.flights) :
    CooldownsOk rt.config after.clock after.cells after.flights := by
  refine ok.transfer me follows (fun id cell' found' => ?_) fun generation flight' flown' => ?_
  · obtain ⟨cell, found, step⟩ := aside.cells id cell' found'
    exact .inl ⟨cell, found, step.notBefore, step.log,
      fun fetch pending => .inl (step.pending ▸ pending)⟩
  · rcases aside.flights _ flight' flown' with ⟨flight, flown, same⟩ | ⟨_, created⟩
    · exact .inl ⟨flight, flown, same.fetch, same.placed, fun untaken => same.taken ▸ untaken,
        fun _ underway => same.stage ▸ underway, fun _ waiting => same.stage ▸ waiting⟩
    · exact .inr (.idle (created.placed ▸ Nat.zero_le _) (by rw [created.stage]; rfl)
        (.inl (by rw [created.stage]; rfl)))

omit [DecidableEq T] in
theorem step (aside : EntriesAside me before after) : EntriesStep rt.config (some me) before after where
  observed id reader thread now snapshot noted :=
    (aside.noted noted).imp_right fun plain => congrArg some plain.symm
  cooled id cell cell' found found' := by
    obtain ⟨cell'', found'', step⟩ := aside.cells id cell' found'
    obtain rfl : cell = cell'' := Option.some.inj (found.symm.trans found'')
    exact step.chills
  placed generation flight flight' flown flown' _ := by
    rcases aside.flights generation flight' flown' with ⟨flight'', flown'', same⟩ | ⟨new, _⟩
    · obtain rfl : flight = flight'' := Option.some.inj (flown.symm.trans flown'')
      exact same.placed
    · rw [flown] at new
      cases new
  answered generation flight' answer flown' answered := by
    rcases aside.flights generation flight' flown' with ⟨flight, flown, same⟩ | ⟨_, created⟩
    · exact .inl ⟨flight, flown, same.answer ▸ answered⟩
    · rw [created.answer] at answered
      cases answered

end Gate.EntriesAside

omit [DecidableEq T] in
theorem Gate.undropped {fact : Prop} (same : after.watch.closed = before.watch.closed)
    (opened : before.watch.closed = false) (dropped : after.watch.closed = true) : fact := by
  rw [same, opened] at dropped
  cases dropped

namespace Gate.Inside

omit [DecidableEq T] in
theorem step {config : PolicyGateConfig} (inside : Inside before after)
    (awake : ∀ me, actor = some me → before.Awake me) : PeripheryStep config actor before after where
  subjects := .inl inside.lock
  publish := .inl (by rw [inside.publish])
  guarded _ _ := inside.publish
  claims := by rw [inside.publish]
  queue := .inl inside.queue
  closed closed := inside.queueClosed.trans closed
  dropped := Gate.undropped inside.closed
  watcher closed mine := by
    rw [awake 0 mine rfl] at closed
    cases closed

omit [DecidableEq T] in
theorem periphery (inside : Inside before after) (clock : before.clock ≤ after.clock)
    (ok : PeripheryOk rt before) : PeripheryOk rt after where
  apart thread held := by
    rw [inside.publish]
    exact ok.apart thread (inside.lock ▸ held)
  publish := by
    rw [inside.publish]
    exact ok.publish.mono clock
  bounded := inside.queue ▸ ok.bounded
  drained closed := inside.queue.trans (ok.drained (inside.queueClosed ▸ closed))
  within positive := inside.cache.trans (ok.within positive)

end Gate.Inside

/-- What the thread holds.  Under the map lock all it took out of the map is settled, except for
`last`; once it has emptied the map it is about to give the lock back. -/
inductive Hold (T : Type) where
  | none
  | map (last : Option (Entry T))
  | emptied
  | publish

def Gate.Holding (me : Nat) : Hold T → Gate T P → Prop
  | .none, s => ¬ s.Locking me
  | .map last, s => s.subjects.lock = some me ∧ s.publish.lock ≠ some me ∧
      ∀ entry ∈ s.subjects.limbo, some entry = last ∨ s.Settled entry.id
  | .emptied, s => s.subjects.lock = some me ∧ s.publish.lock ≠ some me
  | .publish, s => s.publish.lock = some me ∧ s.subjects.lock ≠ some me

theorem stable_holding (hold : Hold T) : (audit rt).Stable me (Gate.Holding (P := P) me hold) := by
  intro actor before after other follows _ _ step held
  have subjects := step.periphery.subjects
  have publish := step.periphery.publish
  cases hold with
  | none => exact fun locking => held ((audit rt).busy_own me actor before after other step locking)
  | publish => exact ⟨publish.keeps other held.1, fun taken => held.2 (subjects.own other taken)⟩
  | emptied => exact ⟨subjects.keeps other held.1, fun taken => held.2 (publish.own other taken)⟩
  | map last =>
      obtain ⟨locked, apart, swept⟩ := held
      refine ⟨subjects.keeps other locked, fun taken => apart (publish.own other taken), ?_⟩
      intro entry member
      have limbo : after.subjects = before.subjects := by
        rcases follows.relied me other with rely | same
        · exact (rely.subjects locked).1
        · rw [same]
      exact (swept entry (limbo ▸ member)).imp_right fun settled => Follows.settled follows settled

theorem Gate.Inside.holding {hold : Hold T} (inside : Gate.Inside before after)
    (follows : Follows rt actor before after) (held : before.Holding me hold) :
    after.Holding me hold := by
  cases hold with
  | none =>
      rintro (mine | mine)
      · exact held (.inl (inside.lock ▸ mine))
      · exact held (.inr (inside.publish ▸ mine))
  | publish =>
      refine ⟨?_, ?_⟩
      · rw [inside.publish]
        exact held.1
      · rw [inside.lock]
        exact held.2
  | emptied =>
      refine ⟨inside.lock.trans held.1, ?_⟩
      rw [inside.publish]
      exact held.2
  | map last =>
      refine ⟨inside.lock.trans held.1, ?_, fun entry member => ?_⟩
      · rw [inside.publish]
        exact held.2.1
      · exact (held.2.2 entry (inside.limbo ▸ member)).imp_right fun settled => follows.settled settled

/-- What neither the others falsify nor the thread itself in a gentle step. -/
structure Context (rt : Runtime) (me : Nat) (L : Gate T P → Prop) : Prop where
  stable : (audit rt).Stable me L
  own : ∀ before after, Follows rt (some me) before after → Gate.Step rt.config (some me) before after →
    Gate.Gentle me before after → L before → L after
  awake : ∀ s, L s → s.Awake me

namespace Context

variable {L : Gate T P → Prop}

theorem start : Context rt me (Gate.Awake (T := T) (P := P) me) where
  stable actor before after other follows _ _ _ awake := by
    rintro rfl
    rcases follows.relied 0 other with rely | same
    · rw [(rely.watch rfl).1]
      exact awake rfl
    · exact same ▸ awake rfl
  own _ _ _ _ gentle awake watcher := gentle.closed.trans (awake watcher)
  awake _ awake := awake

theorem lasting (context : Context rt me L) {M : Gate T P → Prop} (lasts : Lasting rt M) :
    Context rt me fun s => L s ∧ M s where
  stable := context.stable.and (.of_discipline lasts.stable)
  own before after follows step gentle held :=
    ⟨context.own before after follows step gentle held.1,
      lasts before after follows.sound follows.kept follows.lasts held.2⟩
  awake s held := context.awake s held.1

theorem queueClosed (context : Context rt me L) :
    Context rt me fun s => L s ∧ s.queueClosed = true where
  stable := context.stable.and fun _ _ _ _ _ _ _ step closed => step.periphery.closed closed
  own before after follows step gentle held :=
    ⟨context.own before after follows step gentle held.1, step.periphery.closed held.2⟩
  awake s held := context.awake s held.1

theorem held (context : Context rt me L) (hold : Hold T) :
    (audit rt).Stable me fun s => s.Holding me hold ∧ L s :=
  (stable_holding hold).and context.stable

end Context

/-- What no step falsifies, of the thread itself or another, while the gate stays open. -/
structure Firm (rt : Runtime) (me : Nat) (L : Gate T P → Prop) : Prop where
  stable : (audit rt).Stable me L
  own : ∀ before after, Follows rt (some me) before after → Gate.Step rt.config (some me) before after →
    after.watch.closed = before.watch.closed → L before → L after
  awake : ∀ s, L s → s.Awake me

namespace Firm

variable {L : Gate T P → Prop}

theorem context (firm : Firm rt me L) : Context rt me L :=
  ⟨firm.stable, fun before after follows step gentle =>
    firm.own before after follows step gentle.closed, firm.awake⟩

theorem start : Firm rt me (Gate.Awake (T := T) (P := P) me) where
  stable := Context.start.stable
  own _ _ _ _ closed awake watcher := closed.trans (awake watcher)
  awake _ awake := awake

theorem lasting (firm : Firm rt me L) {M : Gate T P → Prop} (lasts : Lasting rt M) :
    Firm rt me fun s => L s ∧ M s where
  stable := firm.stable.and (.of_discipline lasts.stable)
  own before after follows step closed held :=
    ⟨firm.own before after follows step closed held.1,
      lasts before after follows.sound follows.kept follows.lasts held.2⟩
  awake s held := firm.awake s held.1

end Firm

abbrev Gate.During (me : Nat) (hold : Hold T) (L : Gate T P → Prop) (s : Gate T P) : Prop :=
  s.Holding me hold ∧ L s

abbrev Keeps {α : Type} (rt : Runtime) (me : Nat) (hold : Hold T) (L : Gate T P → Prop)
    (program : Program (Gate T P) α) : Prop :=
  (audit rt).Spec me program (Gate.During me hold L) fun _ => Gate.During me hold L

section

variable {β : Type} {action : Pick → Gate T P → Option (β × Gate T P)} {hold : Hold T}
  {L : Gate T P → Prop} {M : β → Gate T P → Prop}

omit [DecidableEq T] in
theorem Gate.Holding.locking {s : Gate T P} (held : s.Holding me hold) (locking : s.Locking me) :
    hold ≠ .none := by
  rintro rfl
  exact held locking

theorem moveAct {H : β → Hold T} {X : Gate T P → Gate T P → Prop} {K : Gate T P → Prop}
    (stable : (audit rt).Stable me L)
    (own : ∀ before after, Follows rt (some me) before after → Gate.Step rt.config (some me) before after →
      X before after → L before → L after)
    (used : (audit rt).Stable me K)
    (ready : ∀ s, s.Invariant rt.config → L s → K s → hold ≠ .none →
      ∃ choice, (action ⟨me, choice⟩ s).isSome)
    (runs : ∀ s choice result after, Follows rt (some me) s after → s.Audited rt →
      s.During me hold L → K s → action ⟨me, choice⟩ s = some (result, after) →
        (PeripheryOk rt after ∧ PeripheryStep rt.config (some me) s after ∧
          after.Holding me (H result)) ∧
        X s after ∧
        (LookupsOk after.cells after.flights ∧
          CooldownsOk rt.config after.clock after.cells after.flights ∧ EntriesStep rt.config (some me) s after) ∧
        M result after) :
    (audit rt).Spec me (.act action) (fun s => s.During me hold L ∧ K s)
      fun result => Gate.During me (H result) fun s => L s ∧ M result s := by
  refine .act (((stable_holding hold).and stable).and used)
    (fun s sound _ held busy => ready s sound held.1.2 held.2 (held.1.1.locking busy))
    fun s choice result after follows ok held ran => ?_
  obtain ⟨⟨periphery, step, holding⟩, kind, ⟨lookups, cooldowns, entries⟩, ended⟩ :=
    runs s choice result after follows ok held.1 held.2 ran
  exact ⟨⟨periphery, lookups, cooldowns⟩, ⟨step, entries⟩, holding,
    own s after follows ⟨step, entries⟩ kind held.1.2, ended⟩

theorem gentleMove {H : β → Hold T} (context : Context rt me L)
    (ready : ∀ s, s.Invariant rt.config → L s → hold ≠ .none →
      ∃ choice, (action ⟨me, choice⟩ s).isSome)
    (runs : ∀ s choice result after, Follows rt (some me) s after → s.Audited rt →
      s.During me hold L → action ⟨me, choice⟩ s = some (result, after) →
        (PeripheryOk rt after ∧ PeripheryStep rt.config (some me) s after ∧
          after.Holding me (H result)) ∧
        s.Gentle me after ∧
        (LookupsOk after.cells after.flights ∧
          CooldownsOk rt.config after.clock after.cells after.flights ∧ EntriesStep rt.config (some me) s after) ∧
        M result after) :
    (audit rt).Spec me (.act action) (Gate.During me hold L)
      fun result => Gate.During me (H result) fun s => L s ∧ M result s :=
  (moveAct (X := Gate.Gentle me) (K := fun _ => True) context.stable context.own (.const True)
    (fun s sound held _ locked => ready s sound held locked)
    fun s choice result after follows ok held _ ran =>
      runs s choice result after follows ok held ran).pre fun _ _ _ held => ⟨held, trivial⟩

theorem gentleAct (context : Context rt me L)
    (ready : ∀ s, s.Invariant rt.config → L s → hold ≠ .none →
      ∃ choice, (action ⟨me, choice⟩ s).isSome)
    (runs : ∀ s choice result after, Follows rt (some me) s after → s.Audited rt →
      s.During me hold L → action ⟨me, choice⟩ s = some (result, after) →
        (s.Inside after ∧ s.Gentle me after) ∧ (LookupsOk after.cells after.flights ∧
          CooldownsOk rt.config after.clock after.cells after.flights ∧ EntriesStep rt.config (some me) s after) ∧
        M result after) :
    (audit rt).Spec me (.act action) (Gate.During me hold L)
      fun result => Gate.During me hold fun s => L s ∧ M result s := by
  refine gentleMove (H := fun _ => hold) context ready
    fun s choice result after follows ok held ran => ?_
  obtain ⟨⟨inside, gentle⟩, entries, ended⟩ := runs s choice result after follows ok held ran
  exact ⟨⟨inside.periphery (Follows.lasts follows).clock ok.periphery,
    inside.step fun _ mine => Option.some.inj mine ▸ context.awake s held.2,
    inside.holding follows held.1⟩, gentle, entries, ended⟩

theorem peripheryAct {H : β → Hold T} (context : Context rt me L)
    (ready : ∀ s, s.Invariant rt.config → L s → hold ≠ .none →
      ∃ choice, (action ⟨me, choice⟩ s).isSome)
    (runs : ∀ s choice result after, Follows rt (some me) s after → s.Audited rt →
      s.During me hold L → action ⟨me, choice⟩ s = some (result, after) →
        (PeripheryOk rt after ∧ PeripheryStep rt.config (some me) s after ∧
          after.Holding me (H result)) ∧
        s.EntriesAside me after ∧ M result after) :
    (audit rt).Spec me (.act action) (Gate.During me hold L)
      fun result => Gate.During me (H result) fun s => L s ∧ M result s := by
  refine gentleMove context ready fun s choice result after follows ok held ran => ?_
  obtain ⟨periphery, aside, ended⟩ := runs s choice result after follows ok held ran
  exact ⟨periphery, aside.gentle follows, ⟨aside.lookups follows ok.lookups,
    aside.cooldowns follows ok.cooldowns, aside.step⟩, ended⟩

theorem asideAct (context : Context rt me L)
    (ready : ∀ s, s.Invariant rt.config → L s → hold ≠ .none →
      ∃ choice, (action ⟨me, choice⟩ s).isSome)
    (runs : ∀ s choice result after, Follows rt (some me) s after → s.Audited rt →
      s.During me hold L → action ⟨me, choice⟩ s = some (result, after) →
        s.Aside me after ∧ M result after) :
    (audit rt).Spec me (.act action) (Gate.During me hold L)
      fun result => Gate.During me hold fun s => L s ∧ M result s := by
  refine gentleAct context ready fun s choice result after follows ok held ran => ?_
  obtain ⟨aside, ended⟩ := runs s choice result after follows ok held ran
  exact ⟨⟨aside.toInside, aside.gentle follows⟩,
    ⟨aside.lookups follows ok.lookups, aside.cooldowns follows ok.cooldowns, aside.step⟩, ended⟩

theorem keepsAct (context : Context rt me L)
    (ready : ∀ s, s.Invariant rt.config → L s → hold ≠ .none →
      ∃ choice, (action ⟨me, choice⟩ s).isSome)
    (runs : ∀ s choice result after, s.Invariant rt.config → L s →
      action ⟨me, choice⟩ s = some (result, after) → s.Aside me after) :
    Keeps rt me hold L (.act action) :=
  (asideAct (M := fun _ _ => True) context ready fun s choice result after follows _ held ran =>
    ⟨runs s choice result after follows.sound held.2 ran, trivial⟩).post
      fun _ _ _ _ held => ⟨held.1, held.2.1⟩

theorem asideRead {view : Gate T P → Option β} (context : Context rt me L)
    (ready : ∀ s, s.Invariant rt.config → L s → hold ≠ .none → (view s).isSome)
    (viewed : ∀ s result, s.Invariant rt.config → s.Audited rt → s.During me hold L →
      view s = some result → M result s) :
    (audit rt).Spec me (.read view) (Gate.During me hold L)
      fun result => Gate.During me hold fun s => L s ∧ M result s := by
  refine asideAct context (fun s sound held locked => ⟨0, ?_⟩)
    fun s choice result after follows ok held ran => ?_
  · rw [Option.isSome_map]
    exact ready s sound held locked
  · obtain ⟨value, found, same⟩ := Option.map_eq_some_iff.mp ran
    obtain ⟨rfl, rfl⟩ := Prod.mk.injEq .. ▸ same
    exact ⟨.refl me s, viewed s value follows.sound ok held found⟩

theorem keepsRead {view : Gate T P → Option β} (context : Context rt me L)
    (ready : ∀ s, s.Invariant rt.config → L s → hold ≠ .none → (view s).isSome) :
    Keeps rt me hold L (.read view) :=
  (asideRead (M := fun _ _ => True) context ready fun _ _ _ _ _ _ => trivial).post
    fun _ _ _ _ held => ⟨held.1, held.2.1⟩

theorem keepsModify {f : Gate T P → Gate T P} (context : Context rt me L)
    (runs : ∀ s, s.Invariant rt.config → L s → s.Aside me (f s)) : Keeps rt me hold L (.modify f) := by
  refine keepsAct context (fun _ _ _ _ => ⟨0, rfl⟩) fun s choice result after sound held ran => ?_
  obtain ⟨_, rfl⟩ := Prod.mk.injEq .. ▸ Option.some.inj ran
  exact runs s sound held

/-- A step of the thread that passes the audit and moves neither a lock nor a lookup in its hands. -/
structure Gate.Passes (rt : Runtime) (me : Nat) (before after : Gate T P) : Prop where
  audited : after.Audited rt
  step : Gate.Step rt.config (some me) before after
  gentle : Gate.Gentle me before after
  subjects : after.subjects.lock = before.subjects.lock
  publish : after.publish.lock = before.publish.lock

theorem Gate.Aside.passes (aside : before.Aside me after) (follows : Follows rt (some me) before after)
    (ok : before.Audited rt) (awake : before.Awake me) : Gate.Passes rt me before after where
  audited := ⟨aside.toInside.periphery (Follows.lasts follows).clock ok.periphery,
    aside.lookups follows ok.lookups, aside.cooldowns follows ok.cooldowns⟩
  step := ⟨aside.toInside.step fun _ mine => Option.some.inj mine ▸ awake, aside.step⟩
  gentle := aside.gentle follows
  subjects := aside.lock
  publish := congrArg PublishState.lock aside.publish

theorem passesWait {dropped : Program (Gate T P) Unit} (context : Context rt me L)
    (runs : ∀ s choice result after, Follows rt (some me) s after → s.Audited rt →
      L s → action ⟨me, choice⟩ s = some (result, after) → Gate.Passes rt me s after)
    (cleanup : (audit rt).Spec me dropped (Gate.During me .none L) fun _ s => ¬ s.Locking me) :
    Keeps rt me .none L (.wait action .done dropped) := by
  refine .wait (context.held .none) (fun s _ _ held => held.1)
    (fun s choice result after follows ok held ran => ?_) cleanup
  have passes := runs s choice result after follows ok held.2 ran
  refine ⟨passes.audited, passes.step, fun locking => held.1 ?_,
    context.own s after follows passes.step passes.gentle held.2⟩
  exact locking.imp (fun mine => passes.subjects ▸ mine) fun mine => passes.publish ▸ mine

theorem keepsAwait (context : Context rt me L)
    (idle : ∀ s choice result after, action ⟨me, choice⟩ s = some (result, after) → after = s) :
    Keeps rt me .none L (.await action) := by
  refine passesWait context (fun s choice result after follows ok held ran => ?_)
    (.done fun s _ _ held => held.1)
  rw [idle s choice result after ran] at follows ⊢
  exact (Gate.Aside.refl me s).passes follows ok (context.awake s held)

theorem keepsDone {value : β} : Keeps rt me hold L (.done value) := fun _ _ _ held => held

theorem keepsIterate {γ : Type} {start : γ} {body : γ → Program (Gate T P) (γ ⊕ β)}
    (context : Context rt me L) (rounds : ∀ again, Keeps rt me hold L (body again)) :
    Keeps rt me hold L (.iterate start body) := by
  refine .iterate (fun _ => context.held hold) fun again => (rounds again).post ?_
  intro value s _ _ held
  cases value <;> exact held

end

end PolicyGate
