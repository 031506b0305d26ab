import PolicyGate.Audit.Publish
import PolicyGate.Specs.Lookup

namespace PolicyGate

open Interleaving Data

variable {T P : Type} [DecidableEq T] {rt : Runtime} {me : Nat} {hold : Hold T} {L : Gate T P → Prop}
  {fetch : PendingFetch T P}

namespace Gate

def Handles (fetch : PendingFetch T P) (stage : Stage) (s : Gate T P) : Prop :=
  s.Booked fetch ∧ s.At fetch.generation stage

def PlacedBy (fetch : PendingFetch T P) (M : Nat → Gate T P → Prop) (s : Gate T P) : Prop :=
  ∀ flight, s.flights fetch.generation = some flight → M flight.placed s

abbrev Waited (fetch : PendingFetch T P) (s : Gate T P) : Prop :=
  s.PlacedBy fetch fun placed s => ∀ delay, fetch.delay = some delay → placed + delay ≤ s.clock

/-- The lookup keeps nobody waiting: its entry is settled, or it is in no slot. -/
def Resolved (fetch : PendingFetch T P) (s : Gate T P) : Prop :=
  s.Settled fetch.entry.id ∨ s.Parted fetch.generation

omit [DecidableEq T] in
theorem Handles.flight {stage : Stage} {s : Gate T P} (handles : s.Handles fetch stage) :
    ∃ flight, s.flights fetch.generation = some flight ∧ flight.fetch = fetch ∧
      flight.stage = stage := by
  obtain ⟨⟨⟨flight, flown, same⟩, _⟩, at_stage⟩ := handles
  exact ⟨flight, flown, same, Option.some.inj ((Gate.stageOf_of_flights flown).symm.trans at_stage)⟩

end Gate

theorem lasting_resolved (fetch : PendingFetch T P) : Lasting rt (Gate.Resolved fetch) :=
  .or (Lasting.settled fetch.entry.id) (lasting_parted fetch.generation)

theorem Context.handles {stage : Stage} (context : Context rt me L) (owned : stage.owner = some me) :
    Context rt me fun s => L s ∧ s.Handles fetch stage where
  stable := context.stable.and (.of_discipline
    ((lasting_booked fetch).stable.and (Sheltered.at fetch.generation owned).stable))
  own before after follows step gentle held :=
    ⟨context.own before after follows step gentle held.1,
      lasting_booked fetch before after follows.sound follows.kept (Follows.lasts follows) held.2.1,
      gentle.owned _ _ owned held.2.2⟩
  awake s held := context.awake s held.1

theorem Firm.handles {stage : Stage} (firm : Firm rt me L) (owned : stage.owner = some me) :
    Context rt me fun s => L s ∧ s.Handles fetch stage := firm.context.handles owned

theorem Context.turn (context : Context rt me L) (fetch : PendingFetch T P) :
    Context rt me fun s => L s ∧ s.Turn me fetch where
  stable := context.stable.and (.of_discipline fun _ _ _ _ rely turn refresh =>
    (rely.turn (turn refresh)).1)
  own before after follows step gentle held :=
    ⟨context.own before after follows step gentle held.1, fun refresh => gentle.turn.trans (held.2 refresh)⟩
  awake s held := context.awake s held.1

theorem Firm.placement {M : Nat → Gate T P → Prop} {stage : Stage} (firm : Firm rt me L)
    (fetch : PendingFetch T P) (owned : stage.owner = some me) (made : stage.made = true)
    (lasts : ∀ placed, Lasting rt (M placed)) :
    Context rt me fun s => (L s ∧ s.Handles fetch stage) ∧ s.PlacedBy fetch M := by
  have handles : Context rt me fun s => L s ∧ s.Handles fetch stage := firm.handles owned
  have kept : ∀ actor before after, Follows rt actor before after → EntriesStep rt.config actor before after →
      before.Handles fetch stage → before.PlacedBy fetch M → after.PlacedBy fetch M := by
    intro actor before after follows step held placed flight' flown'
    obtain ⟨flight, flown, _, at_stage⟩ := held.flight
    rw [step.placed _ flight flight' flown flown' (at_stage ▸ made)]
    exact lasts _ before after follows.sound follows.kept (Follows.lasts follows) (placed flight flown)
  exact ⟨fun actor before after other follows ok ok' step held =>
      ⟨handles.stable actor before after other follows ok ok' step held.1,
        kept actor before after follows step.entries held.1.2 held.2⟩,
    fun before after follows step gentle held =>
      ⟨handles.own before after follows step gentle held.1,
        kept (some me) before after follows step.entries held.1.2 held.2⟩,
    fun s held => handles.awake s held.1⟩

theorem firmAct {β : Type} {action : Pick → Gate T P → Option (β × Gate T P)}
    {K : Gate T P → Prop} {M : β → Gate T P → Prop} (firm : Firm rt me L)
    (used : (audit rt).Stable me K) (known : ∀ s, K s → L s)
    (runs : ∀ s choice result after, Follows rt (some me) s after → s.Audited rt → K s →
      action ⟨me, choice⟩ s = some (result, after) →
        s.Inside after ∧ (LookupsOk after.cells after.flights ∧
          CooldownsOk rt.config after.clock after.cells after.flights ∧ EntriesStep rt.config (some me) s after) ∧
        M result after) :
    (audit rt).Spec me (.act action) (Gate.During me .none K)
      fun result => Gate.During me .none fun s => L s ∧ M result s := by
  refine (moveAct (H := fun _ => .none)
    (X := fun before after => after.watch.closed = before.watch.closed) firm.stable firm.own used
    (fun _ _ _ _ locked => absurd rfl locked) fun s choice result after follows ok held used ran => ?_).pre
      fun s _ _ held => ⟨⟨held.1, known s held.2⟩, held.2⟩
  obtain ⟨inside, entries, ended⟩ := runs s choice result after follows ok used ran
  exact ⟨⟨inside.periphery (Follows.lasts follows).clock ok.periphery,
    inside.step fun _ mine => Option.some.inj mine ▸ firm.awake s held.2, inside.holding follows held.1⟩,
    inside.closed, entries, ended⟩

section

variable {s after : Gate T P} {generation : Nat} {flight flight' : Flight T P}

structure Flight.Proceeds (flight flight' : Flight T P) : Prop where
  fetch : flight'.fetch = flight.fetch
  placed : flight'.placed = flight.placed
  taken : flight'.taken = flight.taken
  answer : flight'.answer = flight.answer
  underway : flight.fetch.refreshFrom.isSome = true → flight'.stage.underway = true →
    flight.stage.underway = true
  waiting : flight.fetch.refreshFrom = none → flight'.stage.waiting = true →
    flight.stage.waiting = true

omit [DecidableEq T] in
theorem Gate.eq_or_of_update (flown : s.flights generation = some flight)
    (flights : after.flights = Function.update s.flights generation (some flight')) {other : Nat}
    {found : Flight T P} (at_other : after.flights other = some found) :
    other = generation ∧ found = flight' ∨ other ≠ generation ∧ s.flights other = some found := by
  rw [flights] at at_other
  by_cases same : other = generation
  · subst same
    rw [Function.update_self] at at_other
    exact .inl ⟨rfl, (Option.some.inj at_other).symm⟩
  · exact .inr ⟨same, (Function.update_of_ne same _ _).symm.trans at_other⟩

omit [DecidableEq T] in
theorem Gate.updateFlight_some (flown : s.flights generation = some flight)
    (f : Flight T P → Flight T P) : (s.updateFlight generation f).flights =
      Function.update s.flights generation (some (f flight)) := by
  rw [Gate.updateFlight_flights, flown]
  rfl

structure Flight.Stays (actor : Option Nat) (flight flight' : Flight T P) : Prop where
  fetch : flight'.fetch = flight.fetch
  placed : flight'.placed = flight.placed
  taken : flight'.taken = flight.taken
  answer : flight'.answer = flight.answer ∨ actor = none
  unfinished : flight'.stage = .finished → flight.stage = .finished

omit [DecidableEq T] in
theorem Gate.stays_of_update {actor : Option Nat} (flown : s.flights generation = some flight)
    (flights : after.flights = Function.update s.flights generation (some flight'))
    (moved : flight.Stays actor flight') :
    Data.Related (fun _ => Flight.Stays actor) s.flights after.flights := by
  intro other
  rw [flights]
  by_cases same : other = generation
  · subst same
    rw [flown, Function.update_self]
    exact .some moved
  · rw [Function.update_of_ne same]
    cases s.flights other with
    | none => exact .none
    | some one => exact .some ⟨rfl, rfl, rfl, .inl rfl, id⟩

theorem LookupsOk.stays {actor : Option Nat} (ok : LookupsOk s.cells s.flights)
    (follows : Follows rt actor s after)
    (stays : Data.Related (fun _ => Flight.Stays actor) s.flights after.flights)
    (attends : ∀ id cell', after.cells id = some cell' → cell'.state = .pending →
      cell'.Attends s after id) : LookupsOk after.cells after.flights := by
  refine ok.transfer follows attends
    (fun other one one' flownOne flownOne' unfinished finished => ?_)
    fun other one' flownOne' taken => ?_
  · obtain ⟨was, flownWas, moved⟩ := stays.backward flownOne'
    obtain rfl : one = was := Option.some.inj (flownOne.symm.trans flownWas)
    exact absurd (moved.unfinished finished) unfinished
  · obtain ⟨was, flownWas, moved⟩ := stays.backward flownOne'
    exact .inl ⟨was, flownWas, moved.fetch, moved.taken ▸ taken⟩

omit [DecidableEq T] in
theorem EntriesStep.stays {actor : Option Nat}
    (stays : Data.Related (fun _ => Flight.Stays actor) s.flights after.flights)
    (logs : ∀ id cell', after.cells id = some cell' → ∃ cell, s.cells id = some cell ∧
      cell'.log = cell.log ∧ cell'.refreshNotBefore = cell.refreshNotBefore) :
    EntriesStep rt.config actor s after := by
  refine .of_logs logs (fun other one one' flownOne flownOne' _ => ?_)
    fun other one' answer flownOne' answered => ?_
  · obtain ⟨was, flownWas, moved⟩ := stays.backward flownOne'
    obtain rfl : one = was := Option.some.inj (flownOne.symm.trans flownWas)
    exact moved.placed
  · obtain ⟨was, flownWas, moved⟩ := stays.backward flownOne'
    exact moved.answer.imp_left fun same => ⟨was, flownWas, same.symm.trans answered⟩

theorem Gate.Audited.proceeds (ok : s.Audited rt) (follows : Follows rt (some me) s after)
    (flown : s.flights generation = some flight)
    (flights : after.flights = Function.update s.flights generation (some flight'))
    (moved : flight.Proceeds flight')
    (finished : flight'.stage = .finished → s.Resolved flight.fetch)
    (cells : ∀ id cell', after.cells id = some cell' → ∃ cell, s.cells id = some cell ∧
      cell'.pending = cell.pending ∧ cell.Moves rt.config after cell' ∧
      CooldownsOk.Notes rt.config after cell cell') :
    LookupsOk after.cells after.flights ∧
      CooldownsOk rt.config after.clock after.cells after.flights := by
  refine ⟨ok.lookups.transfer follows (fun id cell' found' _ => ?_)
      (fun other one one' flownOne flownOne' unfinished ended id cell' fetch found' idle pending => ?_)
      fun other one' flownOne' taken => ?_,
    ok.cooldowns.advance follows (fun id cell' found' => ?_) fun other one' flownOne' => ?_⟩
  · obtain ⟨cell, found, same, _⟩ := cells id cell' found'
    exact .inl ⟨cell, found, same⟩
  · rcases eq_or_of_update flown flights flownOne' with ⟨rfl, rfl⟩ | ⟨_, was⟩
    · rintro rfl
      obtain ⟨cell, found, same, _⟩ := cells id cell' found'
      obtain ⟨flight'', flown'', home, entry, _⟩ :=
        follows.sound.slots.held id cell fetch found (same.symm.trans pending)
      obtain rfl : flight = flight'' := Option.some.inj (flown.symm.trans flown'')
      rcases finished ended with ⟨settled, foundSettled, busy⟩ | ⟨vacated, _⟩
      · rw [home, entry, (follows.sound.cells id cell found).identity, found] at foundSettled
        obtain rfl := Option.some.inj foundSettled
        exact busy (Follows.pending follows found found' idle)
      · refine vacated id cell fetch found (same.symm.trans pending) ?_
        rw [home]
    · obtain rfl : one = one' := Option.some.inj (flownOne.symm.trans was)
      exact absurd ended unfinished
  · rcases eq_or_of_update flown flights flownOne' with ⟨rfl, rfl⟩ | ⟨_, was⟩
    · exact .inl ⟨flight, flown, moved.fetch, moved.taken ▸ taken⟩
    · exact .inl ⟨one', was, rfl, taken⟩
  · obtain ⟨cell, found, _, moves, notes⟩ := cells id cell' found'
    exact .inl ⟨cell, found, moves, notes⟩
  · rcases eq_or_of_update flown flights flownOne' with ⟨rfl, rfl⟩ | ⟨_, was⟩
    · exact .inl ⟨flight, flown, moved.fetch, moved.placed, fun untaken => moved.taken ▸ untaken,
        moved.underway, moved.waiting⟩
    · exact .inl ⟨one', was, rfl, rfl, fun untaken => untaken, fun _ underway => underway,
        fun _ waiting => waiting⟩

omit [DecidableEq T] in
theorem EntriesStep.of_proceeds {actor : Option Nat} (flown : s.flights generation = some flight)
    (flights : after.flights = Function.update s.flights generation (some flight'))
    (moved : flight.Proceeds flight')
    (observed : ∀ id reader thread now snapshot, after.Noted id (.observed reader thread now snapshot) →
      s.Noted id (.observed reader thread now snapshot))
    (cooled : ∀ id cell cell', s.cells id = some cell → after.cells id = some cell' →
      cell.Chills rt.config s cell') :
    EntriesStep rt.config actor s after where
  observed id reader thread now snapshot noted := .inl (observed id reader thread now snapshot noted)
  cooled := cooled
  placed other one one' flownOne flownOne' _ := by
    rcases Gate.eq_or_of_update flown flights flownOne' with ⟨rfl, rfl⟩ | ⟨_, was⟩
    · obtain rfl : flight = one := Option.some.inj (flown.symm.trans flownOne)
      exact moved.placed
    · exact congrArg Flight.placed (Option.some.inj (was.symm.trans flownOne))
  answered other one' answer flownOne' answered := by
    rcases Gate.eq_or_of_update flown flights flownOne' with ⟨rfl, rfl⟩ | ⟨_, was⟩
    · exact .inl ⟨flight, flown, moved.answer ▸ answered⟩
    · exact .inl ⟨one', was, answered⟩

theorem Gate.Audited.kept (ok : s.Audited rt) (follows : Follows rt (some me) s after) {id : Nat}
    {cell : EntryCell T P} (found : s.cells id = some cell) :
    cell.Moves rt.config after cell ∧ CooldownsOk.Notes rt.config after cell cell := by
  refine ⟨⟨le_rfl, ?_, .inl rfl, fun _ pending => .inl pending⟩, ?_⟩
  · exact (ok.cooldowns.cooled id cell found).bound.trans
      (Entry.cooledTick_mono rt.config cell.entry (Follows.lasts follows).clock)
  · exact ⟨fun _ _ _ _ grown => by simp at grown, fun _ _ grown => by simp at grown,
      fun _ _ _ grown => by simp at grown⟩

theorem Gate.Audited.proceeds_alone (ok : s.Audited rt) (follows : Follows rt (some me) s after)
    (flown : s.flights generation = some flight)
    (flights : after.flights = Function.update s.flights generation (some flight'))
    (moved : flight.Proceeds flight')
    (finished : flight'.stage = .finished → s.Resolved flight.fetch)
    (cells : after.cells = s.cells) :
    LookupsOk after.cells after.flights ∧
      CooldownsOk rt.config after.clock after.cells after.flights ∧ EntriesStep rt.config (some me) s after := by
  obtain ⟨lookups, cooldowns⟩ := ok.proceeds follows flown flights moved finished fun id cell' found' => by
    have found := cells ▸ found'
    exact ⟨cell', found, rfl, ok.kept follows found⟩
  refine ⟨lookups, cooldowns, .of_proceeds flown flights moved
    (fun id _ _ _ _ ⟨cell, found, member⟩ => ⟨cell, cells ▸ found, member⟩)
    fun id cell cell' found found' => ?_⟩
  rw [cells, found] at found'
  obtain rfl := Option.some.inj found'
  exact .inl ⟨rfl, fun _ _ _ member => member⟩

def EntryEvent.Quiet : EntryEvent T P → Prop
  | .observed .. | .cooled .. => False
  | .started .. | .returned .. | .published _ | .latched .. | .invalidated | .failed => True

theorem Gate.Audited.proceeds_noted (ok : s.Audited rt) (follows : Follows rt (some me) s after)
    (flown : s.flights generation = some flight)
    (flights : after.flights = Function.update s.flights generation (some flight'))
    (moved : flight.Proceeds flight') (unfinished : flight'.stage ≠ .finished) {id : Nat}
    {event : EntryEvent T P} (cells : after.cells = (s.note id event).cells) (quiet : event.Quiet)
    (timely : event.Until after.clock)
    (notes : ∀ cell, s.cells id = some cell →
      CooldownsOk.Notes rt.config after cell { cell with log := event :: cell.log }) :
    LookupsOk after.cells after.flights ∧
      CooldownsOk rt.config after.clock after.cells after.flights ∧ EntriesStep rt.config (some me) s after := by
  have noted : ∀ other older, after.Noted other older → older = event ∨ s.Noted other older := by
    rintro other older ⟨cell', found', member⟩
    rw [cells] at found'
    rcases update_map_eq_some found' with ⟨rfl, cell, found, rfl⟩ | ⟨_, found⟩
    · exact (List.mem_cons.mp member).imp_right fun member => ⟨cell, found, member⟩
    · exact .inr ⟨cell', found, member⟩
  obtain ⟨lookups, cooldowns⟩ := ok.proceeds follows flown flights moved
    (fun finished => absurd finished unfinished) fun other cell' found' => by
      rw [cells] at found'
      rcases update_map_eq_some found' with ⟨rfl, cell, found, rfl⟩ | ⟨_, found⟩
      · have moves := (ok.kept follows found).1
        exact ⟨cell, found, rfl, ⟨moves.later, moves.bound, .inr ⟨event, rfl, timely⟩,
          fun _ pending => .inl pending⟩, notes cell found⟩
      · exact ⟨cell', found, rfl, ok.kept follows found⟩
  refine ⟨lookups, cooldowns, .of_proceeds flown flights moved
    (fun other _ _ _ _ known => (noted other _ known).resolve_left fun same => (same ▸ quiet :))
    fun other cell cell' found found' => ?_⟩
  rw [cells] at found'
  rcases update_map_eq_some found' with ⟨rfl, cell'', was, rfl⟩ | ⟨_, was⟩ <;>
    obtain rfl := Option.some.inj (found.symm.trans was)
  · exact .inl ⟨rfl, fun _ _ _ member =>
      (List.mem_cons.mp member).resolve_left fun same => (same ▸ quiet :)⟩
  · exact .inl ⟨rfl, fun _ _ _ member => member⟩

end

section

variable {s : Gate T P}

omit [DecidableEq T] in
theorem Gate.Inside.passTurn (s : Gate T P) (turn : Option Nat) (cells : Nat → Option (EntryCell T P))
    (flights : Nat → Option (Flight T P)) :
    s.Inside { s with refreshing := turn, cells, flights } := ⟨rfl, rfl, rfl, le_rfl, rfl, rfl, rfl⟩

end

theorem beginPoll_audit {generation : Nat} (firm : Firm rt me L) :
    (audit rt).Spec me (beginPoll generation) (Gate.During me .none L)
      fun fetch => Gate.During me .none fun s => L s ∧
        (fetch.generation = generation ∧ fetch.subject = fetch.entry.subject) ∧
        s.Handles fetch (.polled me) ∧ s.Turn me fetch := by
  refine firmAct firm firm.stable (fun _ held => held)
    fun s choice fetch after follows ok held ran => ?_
  cases flown : s.flights generation with
  | none =>
      simp only [flown] at ran
      cases ran
  | some flight =>
      simp only [flown] at ran
      split at ran
      · rename_i pollable
        simp only [Bool.and_eq_true, Bool.or_eq_true, decide_eq_true_eq, Bool.not_eq_eq_eq_not,
          Bool.not_true] at pollable
        obtain ⟨s', taken, same⟩ := Option.map_eq_some_iff.mp ran
        obtain ⟨rfl, rfl⟩ := Prod.mk.injEq .. ▸ same
        obtain ⟨turn, rfl, mine⟩ := takeTurn_with taken
        have flightOk := follows.sound.flights generation flight flown
        have polled := Gate.updateFlight_at (s := { s with refreshing := turn }) flown
          fun flight => { flight with stage := .polled me }
        refine ⟨.passTurn s turn s.cells _, ok.proceeds_alone follows flown
          (Gate.updateFlight_some flown fun flight => { flight with stage := .polled me })
          ⟨rfl, rfl, rfl, rfl, fun refresh _ => ?_, fun cold _ => ?_⟩ nofun rfl,
          ⟨flightOk.identity, flightOk.subject⟩, ⟨?_, ?_⟩, mine⟩
        · rcases pollable.1 with ⟨placed, _⟩ | flying
          · rw [flightOk.placed placed] at refresh
            cases refresh
          · rw [flying]
            rfl
        · rcases pollable.1 with ⟨placed, _⟩ | flying
          · rw [placed]
            rfl
          · have refresh := flightOk.enqueued (by rw [flying]; rfl)
            rw [cold] at refresh
            cases refresh
        · exact lasting_booked flight.fetch _ _ follows.sound follows.kept (Follows.lasts follows)
            (.of_flight follows.sound flown)
        · rw [flightOk.identity]
          exact Gate.stageOf_of_flights polled
      · cases ran

theorem Gate.Audited.sleep {s : Gate T P} {stage stage' : Stage} (ok : s.Audited rt)
    (follows : Follows rt (some me) s (s.setStage fetch.generation stage'))
    (handles : s.Handles fetch stage) (was : stage = .polled me ∨ stage = .asleep me)
    (becomes : stage' = .asleep me ∨ stage' = .polled me) :
    s.Inside (s.setStage fetch.generation stage') ∧
      (LookupsOk s.cells (s.setStage fetch.generation stage').flights ∧
        CooldownsOk rt.config s.clock s.cells (s.setStage fetch.generation stage').flights ∧
        EntriesStep rt.config (some me) s (s.setStage fetch.generation stage')) ∧
      (s.setStage fetch.generation stage').Handles fetch stage' := by
  have booked := lasting_booked fetch _ _ follows.sound follows.kept (Follows.lasts follows) handles.1
  obtain ⟨flight, flown, rfl, rfl⟩ := handles.flight
  refine ⟨.passTurn s s.refreshing s.cells _, ok.proceeds_alone follows flown
    (Gate.updateFlight_some flown fun flight => { flight with stage := stage' })
    ⟨rfl, rfl, rfl, rfl, fun _ _ => ?_, fun _ _ => ?_⟩ (fun finished => ?_) rfl, booked,
    Gate.stageOf_of_flights (Gate.updateFlight_at flown _)⟩
  · rcases was with stage | stage <;> rw [stage] <;> rfl
  · rcases was with stage | stage <;> rw [stage] <;> rfl
  · rcases becomes with rfl | rfl <;> cases finished

theorem sleepDelay_audit {delay : Nat} (firm : Firm rt me L) (delayed : fetch.delay = some delay) :
    (audit rt).Spec me (sleepDelay rt fetch.generation delay)
      (Gate.During me .none fun s => (L s ∧ s.Handles fetch (.polled me)) ∧ s.Turn me fetch)
      fun _ => Gate.During me .none fun s =>
        ((L s ∧ s.Handles fetch (.polled me)) ∧ s.Waited fetch) ∧ s.Turn me fetch := by
  have handles : Context rt me fun s => L s ∧ s.Handles fetch (.polled me) := firm.handles rfl
  refine .bind (clockNow_audit (M := fun now s => s.PlacedBy fetch fun placed _ => placed ≤ now)
    (handles.turn fetch) fun s _ ok _ => ok.cooldowns.since fetch.generation) fun now => ?_
  have resting : ∀ stage : Stage, stage.owner = some me → stage.made = true → Context rt me fun s =>
      ((L s ∧ s.Handles fetch stage) ∧ s.PlacedBy fetch fun placed _ => placed ≤ now) ∧
        s.Turn me fetch := fun stage owned made =>
    (firm.placement fetch owned made fun _ => .const _).turn fetch
  have waited : ∀ s : Gate T P, (s.PlacedBy fetch fun placed _ => placed ≤ now) →
      slept (checkedAdd rt now delay) s = true → s.Waited fetch := by
    intro s placed elapsed flight flown other same
    obtain ⟨wake, waking, late⟩ := (Option.any_eq_true _ _).mp elapsed
    obtain rfl := Option.some.inj (delayed.symm.trans same)
    have early := placed flight flown
    have reached := (Instant.checkedAdd_eq_some.mp waking).2
    have past := of_decide_eq_true late
    omega
  refine .bind (M := fun elapsed => Gate.During me .none fun s => L s ∧
      if elapsed then s.Handles fetch (.polled me) ∧ s.Waited fetch ∧ s.Turn me fetch
      else s.Handles fetch (.asleep me) ∧ (s.PlacedBy fetch fun placed _ => placed ≤ now) ∧
        s.Turn me fetch)
    ((firmAct firm (resting (.polled me) rfl rfl).stable (fun s held => held.1.1.1)
      fun s choice elapsed after follows ok held ran => ?_).pre
        fun s _ _ held => ⟨held.1, ⟨held.2.1.1, held.2.2⟩, held.2.1.2⟩) fun elapsed => ?_
  · obtain ⟨⟨⟨_, handles⟩, placed⟩, turn⟩ := held
    split at ran
    · rename_i past
      obtain ⟨rfl, rfl⟩ := Prod.mk.injEq .. ▸ Option.some.inj ran
      have aside : s.Aside me s := .refl me s
      exact ⟨aside.toInside, ⟨ok.lookups, ok.cooldowns, aside.step⟩, handles, waited s placed past, turn⟩
    · obtain ⟨rfl, rfl⟩ := Prod.mk.injEq .. ▸ Option.some.inj ran
      obtain ⟨inside, entries, asleep⟩ := ok.sleep follows handles (.inl rfl) (.inl rfl)
      refine ⟨inside, entries, asleep, fun flight' flown' => ?_, turn⟩
      obtain ⟨flight, flown, _⟩ := handles.flight
      obtain rfl := Option.some.inj ((Gate.updateFlight_at flown _).symm.trans flown')
      exact placed flight flown
  · cases elapsed with
    | true => exact .done fun s _ _ held => ⟨held.1, ⟨⟨held.2.1, held.2.2.1⟩, held.2.2.2.1⟩, held.2.2.2.2⟩
    | false =>
        refine ((firmAct (M := fun _ s => s.Handles fetch (.polled me) ∧ s.Waited fetch ∧ s.Turn me fetch)
          firm (resting (.asleep me) rfl rfl).stable (fun s held => held.1.1.1)
          fun s choice result after follows ok held ran => ?_).pre fun s _ _ held =>
            ⟨held.1, ⟨⟨held.2.1, held.2.2.1⟩, held.2.2.2.1⟩, held.2.2.2.2⟩).post fun _ s _ _ held =>
              ⟨held.1, ⟨⟨held.2.1, held.2.2.1⟩, held.2.2.2.1⟩, held.2.2.2.2⟩
        obtain ⟨⟨⟨_, handles⟩, placed⟩, turn⟩ := held
        split at ran
        · rename_i wakes
          obtain ⟨_, rfl⟩ := Prod.mk.injEq .. ▸ Option.some.inj ran
          obtain ⟨inside, entries, polled⟩ := ok.sleep follows handles (.inr rfl) (.inr rfl)
          refine ⟨inside, entries, polled, fun flight' flown' => ?_, turn⟩
          obtain ⟨flight, flown, _⟩ := handles.flight
          obtain rfl := Option.some.inj ((Gate.updateFlight_at flown _).symm.trans flown')
          exact waited s placed wakes.1 flight flown
        · cases ran

section

variable {s after : Gate T P} {cell : EntryCell T P} {flight : Flight T P}

theorem Gate.Audited.slotted (ok : s.Audited rt) (sound : s.Invariant rt.config)
    (flown : s.flights fetch.generation = some flight) (same : flight.fetch = fetch)
    (live : flight.stage.live = true) (found : s.cells fetch.entry.id = some cell)
    (idle : cell.state = .pending) : cell.pending = some fetch := by
  subst same
  cases taken : flight.taken with
  | true => exact absurd idle (ok.lookups.untaken _ flight cell flown taken found)
  | false =>
      obtain ⟨cell', found', pending⟩ := sound.slots.live _ flight flown live taken
      obtain rfl : cell = cell' := Option.some.inj (found.symm.trans found')
      exact pending

/-- The source is asked no sooner after a failure than the cooldown allows. -/
theorem Gate.Audited.spaced (ok : s.Audited rt) (sound : s.Invariant rt.config)
    (handles : s.Handles fetch (.polled me)) (waited : s.Waited fetch)
    (found : s.cells fetch.entry.id = some cell)
    (inSlot : fetch.refreshFrom.isSome = true → untaken s fetch.generation = true) :
    EntryLog.Spaced rt.config cell.entry cell.log fetch.refreshFrom.isSome s.clock := by
  obtain ⟨flight, flown, rfl, polled⟩ := handles.flight
  cases refresh : flight.fetch.refreshFrom.isSome with
  | true =>
      have held := inSlot refresh
      rw [untaken, flown, Bool.not_eq_true'] at held
      exact ok.cooldowns.rested _ flight cell flown refresh held (by rw [polled]; rfl) found
  | false =>
      intro idle other ended member
      rw [← (sound.cells _ cell found).value] at idle
      have pending := ok.slotted sound flown rfl (by rw [polled]; rfl) found idle
      obtain ⟨before, delay⟩ := ok.cooldowns.succeeds _ cell flight.fetch flight found idle pending flown
        (Option.isSome_eq_false_iff.mp refresh |> Option.isNone_iff_eq_none.mp) (by rw [polled]; rfl) other
        ended member
      exact (Nat.add_le_add_right before _).trans (waited flight flown _ delay)

end

theorem Firm.waited (firm : Firm rt me L) (fetch : PendingFetch T P) :
    Context rt me fun s => ((L s ∧ s.Handles fetch (.polled me)) ∧ s.Waited fetch) ∧ s.Turn me fetch :=
  (firm.placement fetch rfl rfl fun placed => .forall fun delay => .forall fun _ =>
    Lasting.clock (placed + delay)).turn fetch

theorem startCall_audit (firm : Firm rt me L) :
    (audit rt).Spec me (startCall fetch)
      (Gate.During me .none fun s =>
        ((L s ∧ s.Handles fetch (.polled me)) ∧ s.Waited fetch) ∧ s.Turn me fetch)
      fun _ => Gate.During me .none fun s => L s ∧ s.Handles fetch (.calling me) ∧ s.Turn me fetch := by
  refine firmAct firm (firm.waited fetch).stable (fun s held => held.1.1.1)
    fun s choice result after follows ok held ran => ?_
  obtain ⟨⟨⟨_, handles⟩, waited⟩, turn⟩ := held
  obtain ⟨_, rfl⟩ := Prod.mk.injEq .. ▸ Option.some.inj ran
  obtain ⟨flight, flown, same, polled⟩ := handles.flight
  refine ⟨.passTurn s s.refreshing _ _, ok.proceeds_noted follows flown
    (Gate.updateFlight_some flown fun flight =>
      { flight with stage := .calling me, begun := some s.watch.opened })
    ⟨rfl, rfl, rfl, rfl, fun _ underway => (by cases underway), fun _ waiting => (by cases waiting)⟩ nofun
    rfl trivial trivial fun cell found => ⟨fun generation refresh held now grown slotted => ?_, ?_, ?_⟩,
    ⟨?_, ?_⟩, turn⟩
  · obtain ⟨rfl, rfl, rfl, rfl⟩ := EntryEvent.started.injEq .. ▸ (List.cons.inj grown).1
    exact ok.spaced follows.sound handles waited found slotted
  · exact fun _ _ grown => by cases grown
  · exact fun _ _ _ grown => by cases grown
  · exact lasting_booked fetch _ _ follows.sound follows.kept (Follows.lasts follows) handles.1
  · exact Gate.stageOf_of_flights (Gate.updateFlight_at flown _)

theorem Gate.Audited.markReturned {s after : Gate T P} {stage : Stage} {turn : Option Nat} {choice : Nat}
    (ok : s.Audited rt) (follows : Follows rt (some me) s after)
    (handles : s.Handles fetch stage) (handled : stage = .polled me ∨ stage = .calling me)
    (ended : after = PolicyGate.markReturned { s with refreshing := turn } ⟨me, choice⟩ fetch) :
    s.Inside after ∧ (LookupsOk after.cells after.flights ∧
      CooldownsOk rt.config after.clock after.cells after.flights ∧ EntriesStep rt.config (some me) s after) ∧
      after.Handles fetch (.returned me) := by
  have booked := lasting_booked fetch _ _ follows.sound follows.kept (Follows.lasts follows) handles.1
  obtain ⟨flight, flown, rfl, at_stage⟩ := handles.flight
  have live : flight.stage.live = true := by
    rw [at_stage]
    rcases handled with rfl | rfl <;> rfl
  have moved : after.flights = Function.update s.flights flight.fetch.generation
      (some { flight with stage := .returned me }) := by
    rw [ended]
    change Function.update s.flights flight.fetch.generation ((s.flights flight.fetch.generation).map _) = _
    rw [flown]
    rfl
  have cells : after.cells =
      (s.note flight.fetch.entry.id (.returned flight.fetch.generation s.clock)).cells := by
    rw [ended]
    rfl
  have returned : after.flights flight.fetch.generation = some { flight with stage := .returned me } := by
    rw [moved, Function.update_self]
  refine ⟨ended ▸ .passTurn s turn _ _, ok.proceeds_noted follows flown moved
    ⟨rfl, rfl, rfl, rfl, fun _ underway => (by cases underway), fun _ waiting => (by cases waiting)⟩ nofun
    cells trivial (Follows.lasts follows).clock fun cell found => ⟨fun _ _ _ _ grown => ?_,
      fun other now grown idle fetch flight' pending flown' => ?_, fun _ _ _ grown => ?_⟩,
    booked, Gate.stageOf_of_flights returned⟩
  · cases grown
  · have inSlot := ok.slotted follows.sound flown rfl live found idle
    obtain rfl : flight.fetch = fetch := Option.some.inj (inSlot.symm.trans pending)
    obtain rfl := Option.some.inj (returned.symm.trans flown')
    rfl
  · cases grown

theorem skipCall_audit (firm : Firm rt me L) :
    (audit rt).Spec me (skipCall fetch)
      (Gate.During me .none fun s => (L s ∧ s.Handles fetch (.polled me)) ∧ s.Turn me fetch)
      fun _ => Gate.During me .none fun s => L s ∧ s.Handles fetch (.returned me) ∧ s.Turn me fetch := by
  have handles : Context rt me fun s => L s ∧ s.Handles fetch (.polled me) := firm.handles rfl
  refine firmAct firm (handles.turn fetch).stable (fun s held => held.1.1)
    fun s choice answer after follows ok held ran => ?_
  obtain ⟨_, rfl⟩ := Prod.mk.injEq .. ▸ Option.some.inj ran
  obtain ⟨inside, entries, returned⟩ := ok.markReturned follows held.1.2 (.inl rfl) rfl
  exact ⟨inside, entries, returned, held.2⟩

theorem awaitSource_audit {deadline : Option Nat} (firm : Firm rt me L) :
    (audit rt).Spec me (awaitSource fetch deadline)
      (Gate.During me .none fun s => (L s ∧ s.Handles fetch (.calling me)) ∧ s.Turn me fetch)
      fun _ => Gate.During me .none fun s => L s ∧ s.Handles fetch (.returned me) ∧ s.Turn me fetch := by
  have handles : Context rt me fun s => L s ∧ s.Handles fetch (.calling me) := firm.handles rfl
  refine .bind (firmAct (M := fun ready s => if ready.isSome then
      s.Handles fetch (.returned me) ∧ s.Turn me fetch else s.Handles fetch (.calling me)) firm
    (handles.turn fetch).stable (fun s held => held.1.1)
    fun s choice ready after follows ok held ran => ?_) fun ready => ?_
  · cases answered : answerOf s fetch.generation with
    | some answer =>
        simp only [answered] at ran
        obtain ⟨rfl, rfl⟩ := Prod.mk.injEq .. ▸ Option.some.inj ran
        obtain ⟨inside, entries, returned⟩ := ok.markReturned follows held.1.2 (.inr rfl) rfl
        exact ⟨inside, entries, returned, held.2⟩
    | none =>
        simp only [answered] at ran
        obtain ⟨rfl, rfl⟩ := Prod.mk.injEq .. ▸ Option.some.inj ran
        obtain ⟨flight, flown, _, _⟩ := held.1.2.flight
        obtain ⟨turn, same⟩ := endTurn_with s ⟨me, choice⟩
        rw [same] at follows ⊢
        exact ⟨.passTurn s turn s.cells s.flights, ok.proceeds_alone follows flown
          (Function.update_eq_self_iff.mpr flown.symm).symm
          ⟨rfl, rfl, rfl, rfl, fun _ underway => underway, fun _ waiting => waiting⟩
          (fun finished => by simp_all) rfl, held.1.2⟩
  · cases ready with
    | some answer => exact .done fun s _ _ held => held
    | none =>
        refine firmAct firm handles.stable (fun s held => held.1)
          fun s choice answer after follows ok held ran => ?_
        split at ran
        · obtain ⟨s', taken, ran⟩ := Option.bind_eq_some_iff.mp ran
          obtain ⟨turn, rfl, mine⟩ := takeTurn_with taken
          have ended : after = markReturned { s with refreshing := turn } ⟨me, choice⟩ fetch := by
            split at ran
            · split at ran
              · exact (Prod.mk.injEq .. ▸ Option.some.inj ran).2.symm
              · cases ran
            · obtain ⟨told, _, same⟩ := Option.map_eq_some_iff.mp ran
              exact (Prod.mk.injEq .. ▸ same).2.symm
          obtain ⟨inside, entries, returned⟩ := ok.markReturned follows held.2 (.inr rfl) ended
          exact ⟨inside, entries, returned, fun refresh => ended ▸ mine refresh⟩
        · cases ran

theorem callSource_audit (firm : Firm rt me L) :
    (audit rt).Spec me (callSource rt fetch)
      (Gate.During me .none fun s =>
        ((L s ∧ s.Handles fetch (.polled me)) ∧ s.Waited fetch) ∧ s.Turn me fetch)
      fun _ => Gate.During me .none fun s => L s ∧ s.Handles fetch (.returned me) ∧ s.Turn me fetch := by
  have waited : Context rt me fun s => ((L s ∧ s.Handles fetch (.polled me)) ∧ s.Waited fetch) ∧
      s.Turn me fetch := firm.waited fetch
  have called : ∀ deadline, (audit rt).Spec me (do
      startCall fetch
      awaitSource (T := T) (P := P) fetch deadline)
      (Gate.During me .none fun s =>
        ((L s ∧ s.Handles fetch (.polled me)) ∧ s.Waited fetch) ∧ s.Turn me fetch)
      fun _ => Gate.During me .none fun s => L s ∧ s.Handles fetch (.returned me) ∧ s.Turn me fetch :=
    fun deadline => .bind (startCall_audit firm) fun _ =>
      (awaitSource_audit firm).pre fun s _ _ held => ⟨held.1, ⟨held.2.1, held.2.2.1⟩, held.2.2.2⟩
  refine .bind (clockNow_keeps waited) fun now => ?_
  cases checkedAdd rt now rt.config.unaryTimeout with
  | none => exact called none
  | some deadline =>
      refine .bind (clockNow_keeps waited) fun now => ?_
      split
      · exact (skipCall_audit firm).pre fun s _ _ held => ⟨held.1, held.2.1.1, held.2.2⟩
      · exact called (some deadline)

theorem lookupResult_keeps {answer : Option (Answer P)} (context : Context rt me L) :
    Keeps rt me .none L (lookupResult (T := T) answer) := by
  unfold lookupResult
  split
  · exact keepsDone
  · exact keepsDone
  · exact keepsDone
  · exact keepsDone
  · split
    · exact keepsDone
    · refine .bind (clockNow_keeps context) fun now => ?_
      split <;> exact keepsDone

theorem upgradeEntry_audit {entry : Entry T} (context : Context rt me L)
    (known : ∀ s, L s → s.Known entry) :
    (audit rt).Spec me (upgradeEntry entry) (Gate.During me .none L)
      fun alive => Gate.During me .none fun s => L s ∧ (alive = false → s.Settled entry.id) := by
  refine asideAct context (fun _ _ _ locked => absurd rfl locked)
    fun s choice alive after follows ok held ran => ?_
  split at ran
  · obtain ⟨rfl, rfl⟩ := Prod.mk.injEq .. ▸ Option.some.inj ran
    exact ⟨.refl me s, nofun⟩
  · split at ran
    · rename_i released
      obtain ⟨rfl, rfl⟩ := Prod.mk.injEq .. ▸ Option.some.inj ran
      simp only [Bool.and_eq_true, List.all_eq_true, decide_eq_true_eq] at released
      obtain ⟨cell, found, _⟩ := known s held.2
      refine ⟨.refl me s, fun _ => ⟨cell, found, ?_⟩⟩
      rcases follows.sound.map.placed _ cell found with
        ⟨slot, member, here⟩ | ⟨entry, member, here⟩ | ⟨stale, _⟩
      · exact absurd here (released.1 slot member)
      · exact absurd here (released.2 entry member)
      · rw [stale]
        exact nofun
    · cases ran

end PolicyGate
