import PolicyGate.Preservation.Flights

namespace PolicyGate

open Data

variable {T P : Type} {config : PolicyGateConfig} {s before after : Gate T P}

def Gate.withPending (s : Gate T P) (id : Nat) (slot : Option (PendingFetch T P))
    (flights : Nat → Option (Flight T P)) : Gate T P :=
  { s.updateCell id fun cell => { cell with pending := slot } with flights }

theorem Gate.withPending_cells (s : Gate T P) (id : Nat) (slot : Option (PendingFetch T P))
    (flights : Nat → Option (Flight T P)) : (s.withPending id slot flights).cells =
      Function.update s.cells id ((s.cells id).map fun cell => { cell with pending := slot }) := rfl

theorem stale_withPending {slot : Option (PendingFetch T P)} {flights : Nat → Option (Flight T P)}
    {i : Nat} (id : Nat) (stale : s.Stale i) : (s.withPending id slot flights).Stale i := by
  have cells : Related (fun _ (cell cell' : EntryCell T P) => cell'.state = cell.state) s.cells
      (s.withPending id slot flights).cells := .update id (fun _ _ _ _ => rfl) fun _ _ => rfl
  obtain ⟨cell, found, isStale⟩ := stale
  obtain ⟨cell', found', state⟩ := cells.forward found
  exact ⟨cell', found', state.trans isStale⟩

theorem Gate.withPending_at {id : Nat} {cell : EntryCell T P} (found : s.cells id = some cell)
    (slot : Option (PendingFetch T P)) (flights : Nat → Option (Flight T P)) :
    (s.withPending id slot flights).cells id = some { cell with pending := slot } := by
  rw [Gate.withPending_cells, Function.update_self, found]
  rfl

theorem Quiet.rely_withPending {me id : Nat} {slot : Option (PendingFetch T P)}
    {flights : Nat → Option (Flight T P)} (advance : Advance s (s.withPending id slot flights))
    (own : Related (KeepsOwn me) s.flights flights) : Rely me s (s.withPending id slot flights) :=
  Quiet.rely ⟨rfl, rfl, rfl, rfl, rfl, rfl, rfl, rfl, ⟨_, rfl⟩, rfl, rfl, rfl⟩ advance own
    (.of_related (.update id (fun _ _ _ _ => rfl) fun _ _ => rfl)) (fun _ => rfl)
    fun _ _ stale => stale_withPending id stale

variable [DecidableEq T]

theorem Gate.Invariant.slot_unique (ok : s.Invariant config) {left right : Nat}
    {leftCell rightCell : EntryCell T P} {fetch fetch' : PendingFetch T P}
    (foundLeft : s.cells left = some leftCell) (foundRight : s.cells right = some rightCell)
    (pendingLeft : leftCell.pending = some fetch) (pendingRight : rightCell.pending = some fetch')
    (same : fetch.generation = fetch'.generation) : left = right := by
  obtain ⟨flight, flown, held, home, _⟩ := ok.slots.held left leftCell fetch foundLeft pendingLeft
  obtain ⟨flight', flown', held', home', _⟩ :=
    ok.slots.held right rightCell fetch' foundRight pendingRight
  rw [← same] at flown'
  obtain rfl : flight = flight' := Option.some.inj (flown.symm.trans flown')
  rw [← (ok.cells left leftCell foundLeft).identity, ← (ok.cells right rightCell foundRight).identity,
    ← home, ← home', ← held, ← held']

/-- Emptying or filling one slot: the lookup that was in it is no longer live in it, and the one
put in was in none. -/
theorem SlotsOk.refill {id : Nat} {cell cell' : EntryCell T P} (ok : before.Invariant config)
    (found : before.cells id = some cell) (found' : after.cells id = some cell')
    (entry : cell'.entry = cell.entry)
    (others : ∀ i, i ≠ id → after.cells i = before.cells i)
    (flights : ∀ generation, (∀ old, cell.pending = some old → old.generation ≠ generation) →
      (∀ new, cell'.pending = some new → new.generation ≠ generation) →
      after.flights generation = before.flights generation)
    (left : ∀ old flight, cell.pending = some old → after.flights old.generation = some flight →
      flight.stage.live = true → flight.taken = true)
    (put : ∀ new, cell'.pending = some new → before.Vacated new.generation ∧
      ∃ flight, after.flights new.generation = some flight ∧ flight.fetch = new ∧
        new.entry = cell.entry ∧ flight.taken = false ∧ flight.stage.slotted = true ∧
          flight.stage ≠ .finished) :
    SlotsOk after.cells after.flights where
  held i cell'' fetch at_i pending := by
    by_cases same : i = id
    · subst same
      obtain rfl : cell' = cell'' := Option.some.inj (found'.symm.trans at_i)
      obtain ⟨_, flight, flown, held, home, untaken, slotted, unfinished⟩ := put fetch pending
      exact ⟨flight, flown, held, home.trans entry.symm, untaken, slotted, fun _ => unfinished⟩
    · rw [others i same] at at_i
      obtain ⟨flight, flown, rest⟩ := ok.slots.held i cell'' fetch at_i pending
      refine ⟨flight, (flights fetch.generation (fun old was same_generation => ?_)
        fun new is same_generation => ?_).trans flown, rest⟩
      · exact same (ok.slot_unique at_i found pending was same_generation.symm)
      · exact (put new is).1 i cell'' fetch at_i pending same_generation.symm
  live generation flight flown live untaken := by
    by_cases wasHere : ∃ old, cell.pending = some old ∧ old.generation = generation
    · obtain ⟨old, was, rfl⟩ := wasHere
      exact absurd (left old flight was flown live) (by rw [untaken]; decide)
    by_cases isHere : ∃ new, cell'.pending = some new ∧ new.generation = generation
    · obtain ⟨new, is, rfl⟩ := isHere
      obtain ⟨_, flight', flown', held, home, _⟩ := put new is
      obtain rfl : flight = flight' := Option.some.inj (flown.symm.trans flown')
      rw [held, home, (ok.cells id cell found).identity]
      exact ⟨cell', found', is⟩
    · rw [flights generation (fun old was same => wasHere ⟨old, was, same⟩)
        fun new is same => isHere ⟨new, is, same⟩] at flown
      obtain ⟨cell'', found'', pending⟩ := ok.slots.live generation flight flown live untaken
      refine ⟨cell'', (others _ fun same => ?_).trans found'', pending⟩
      rw [same] at found''
      obtain rfl : cell = cell'' := Option.some.inj (found.symm.trans found'')
      exact wasHere ⟨flight.fetch, pending, (ok.flights generation flight flown).identity⟩

theorem Gate.Invariant.withPending {id : Nat} {slot : Option (PendingFetch T P)}
    {flights : Nat → Option (Flight T P)} (ok : s.Invariant config)
    (advance : Advance s (s.withPending id slot flights))
    (requeued : Related Requeued s.flights flights)
    (slots : SlotsOk (s.withPending id slot flights).cells flights)
    (due : ∀ cell fetch current, s.cells id = some cell → slot = some fetch →
      fetch.refreshFrom = some current → cell.entry.DueBy s.clock current.value)
    (flightsOk : ∀ generation flight, flights generation = some flight →
      s.flights generation = some flight ∨ FlightOk config s.cells s.watch.reached generation flight)
    (answers : Related (fun _ flight flight' => flight'.fetch = flight.fetch ∧
      flight'.answer = flight.answer) s.flights flights) :
    (s.withPending id slot flights).Invariant config := by
  have cells : Related (fun _ (cell cell' : EntryCell T P) => cell'.entry = cell.entry ∧
      cell'.session = cell.session ∧ cell'.current = cell.current) s.cells
      (s.withPending id slot flights).cells :=
    .update id (fun _ _ _ _ => ⟨rfl, rfl, rfl⟩) fun _ _ => ⟨rfl, rfl, rfl⟩
  have quiet : Quiet s (s.withPending id slot flights) :=
    ⟨rfl, rfl, rfl, rfl, rfl, rfl, rfl, rfl, ⟨_, rfl⟩, rfl, rfl, rfl⟩
  refine ok.quiet quiet advance (cells.mono fun _ _ _ _ _ same => ⟨same.1, same.2.1⟩) requeued slots
    (fun i cell' found' => ?_) (fun generation flight flown => ?_) fun _ _ agreement => ?_
  · rcases update_map_eq_some found' with ⟨rfl, cell, found, rfl⟩ | ⟨_, found⟩
    · exact .inr { (ok.cells i cell found).mono advance.toExtends with
        due := fun fetch current => due cell fetch current found }
    · exact .inl found
  · exact (flightsOk generation flight flown).imp (fun unchanged => unchanged) fun changed =>
      changed.mono advance.toExtends
  · refine agreement.transfer (.of_related answers) agreement.emitted fun i cell' found' held quiet => ?_
    obtain ⟨cell, found, entry, _, current⟩ := cells.backward found'
    exact .inl ⟨cell, found, held, entry, current, entry ▸ quiet, rfl⟩

theorem NeutralStep.emptyAgain {id : Nat} {cell : EntryCell T P} (ok : s.Invariant config)
    (found : s.cells id = some cell) (empty : cell.pending = none) :
    NeutralStep config s (s.updateCell id fun cell => { cell with pending := none }) := by
  have only : ∀ cell', s.cells id = some cell' → cell'.pending = none := fun cell' found' => by
    rw [← Option.some.inj (found.symm.trans found')]
    exact empty
  refine .updateCell ok (fun cell' found' => ⟨rfl, rfl, (only cell' found').symm⟩)
    (fun cell' found' => .of_slot_eq ⟨rfl, rfl, List.suffix_rfl⟩ (.inl rfl) (fun stale => stale)
      (only cell' found').symm rfl) (fun _ _ stale => stale) (fun _ _ => rfl)
    (fun cell' found' => { ok.cells _ cell' found' with
      due := fun _ _ filled => by cases filled }) fun _ _ agreement =>
      agreement.updateCell (fun _ _ => rfl) fun _ _ => .inl rfl

theorem NeutralStep.takePending {id : Nat} {cell : EntryCell T P} {fetch : PendingFetch T P}
    (ok : s.Invariant config) (found : s.cells id = some cell)
    (pending : cell.pending = some fetch) :
    NeutralStep config s ((s.updateCell id fun cell => { cell with pending := none }).updateFlight
      fetch.generation fun flight => { flight with taken := true }) := by
  change NeutralStep config s (s.withPending id none (s.updateFlight fetch.generation
    fun flight => { flight with taken := true }).flights)
  set after := s.withPending id none (s.updateFlight fetch.generation
    fun flight => { flight with taken := true }).flights
  have steps : Related (CellStep s after) s.cells after.cells :=
    .update id (fun i cell _ _ => .refl i cell) fun cell _ =>
      ⟨⟨rfl, rfl, List.suffix_rfl⟩, .inl rfl, .inl, fun _ filled => (by cases filled),
        fun changed => absurd rfl changed⟩
  have flown : Related (fun generation flight flight' =>
      FlightStep s after generation flight flight' ∧
        flight'.fetch = flight.fetch ∧ flight'.answer = flight.answer ∧
        flight'.aborted = flight.aborted ∧ flight'.stage = flight.stage) s.flights after.flights :=
    .update _ (fun i flight _ _ => ⟨.refl i flight, rfl, rfl, rfl, rfl⟩) fun flight _ =>
      ⟨.of_stage_eq { Flight.Grows.refl flight with taken := fun _ => rfl } rfl rfl, rfl, rfl, rfl,
        rfl⟩
  have advance : Advance s after :=
    .of_related le_rfl le_rfl le_rfl le_rfl steps (flown.mono fun _ _ _ _ _ step => step.1)
      fun _ held _ => held
  refine ⟨ok.withPending advance (flown.mono fun _ _ _ _ _ ⟨_, same, _, aborted, stage⟩ => ?_) ?_
    (fun _ _ _ _ empty => by cases empty) (fun generation flight' flown' => ?_)
    (flown.mono fun _ _ _ _ _ step => ⟨step.2.1, step.2.2.1⟩), fun me =>
    Quiet.rely_withPending advance (flown.mono fun _ _ _ _ _ step => .inl step.2.2.2.2)⟩
  · exact ⟨same, fun unaborted => aborted ▸ unaborted, by rw [stage],
      fun _ airborne => stage ▸ airborne, fun flown => by rw [stage]; exact flown⟩
  · refine SlotsOk.refill ok found (Gate.withPending_at found none _) rfl
      (fun i different => Function.update_of_ne different _ _)
      (fun generation gone _ => Function.update_of_ne (gone fetch pending).symm _ _) ?_
      fun _ put => (by cases put)
    intro old flight was flown' _
    obtain rfl : fetch = old := Option.some.inj (pending.symm.trans was)
    rcases update_map_eq_some flown' with ⟨_, flight', _, rfl⟩ | ⟨different, _⟩
    · rfl
    · exact absurd rfl different
  · rcases update_map_eq_some flown' with ⟨rfl, flight, flown, rfl⟩ | ⟨_, flown⟩
    · have flightOk := ok.flights _ flight flown
      obtain ⟨flight', flown', _, _, _, slotted, _⟩ := ok.slots.held id cell fetch found pending
      obtain rfl : flight = flight' := Option.some.inj (flown.symm.trans flown')
      obtain ⟨cell, found, bound⟩ := flightOk.bound
      exact .inr { flightOk with aborted := fun _ => rfl
                                 taken := fun _ => Stage.made_of_slotted slotted
                                 bound := ⟨cell, found, { bound with }⟩ }
    · exact .inl flown

theorem Gate.Invariant.vacated_of_unslotted (ok : s.Invariant config) {generation : Nat}
    {flight : Flight T P} (flown : s.flights generation = some flight)
    (unslotted : flight.stage.slotted = false) : s.Vacated generation := by
  rintro id cell fetch found pending rfl
  obtain ⟨flight', flown', _, _, _, slotted, _⟩ := ok.slots.held id cell fetch found pending
  obtain rfl : flight = flight' := Option.some.inj (flown.symm.trans flown')
  exact absurd (slotted.symm.trans unslotted) (by decide)

theorem Gate.Invariant.vacated_withPending (ok : s.Invariant config) {id : Nat}
    {cell : EntryCell T P} {fetch : PendingFetch T P} (found : s.cells id = some cell)
    (pending : cell.pending = some fetch) (flights : Nat → Option (Flight T P)) :
    (s.withPending id none flights).Vacated fetch.generation := by
  intro i cell' fetch' found' pending' same
  rcases update_map_eq_some found' with ⟨rfl, _, _, rfl⟩ | ⟨different, found'⟩
  · cases pending'
  · exact different (ok.slot_unique found' found pending' pending same)

theorem OwnStep.leaveSlot {me id : Nat} {cell : EntryCell T P} {fetch : PendingFetch T P}
    {flight : Flight T P} (ok : s.Invariant config) (found : s.cells id = some cell)
    (pending : cell.pending = some fetch) (flown : s.flights fetch.generation = some flight)
    (handled : flight.stage.enqueuer = some me ∨ flight.stage = .returned me) :
    OwnStep config me s (s.withPending id none (s.updateFlight fetch.generation
      fun flight => { flight with stage := Gate.leaveSlot flight.stage }).flights) := by
  set after := s.withPending id none (s.updateFlight fetch.generation
    fun flight => { flight with stage := Gate.leaveSlot flight.stage }).flights
  have flightOk := ok.flights _ flight flown
  have only : ∀ flight', s.flights fetch.generation = some flight' → flight' = flight :=
    fun flight' flown' => Option.some.inj (flown'.symm.trans flown)
  have stages : (∃ enqueuer, flight.stage = .claimed enqueuer ∧ enqueuer = me) ∨
      (∃ enqueuer, flight.stage = .validated enqueuer ∧ enqueuer = me) ∨
      flight.stage = .returned me := by
    rcases handled with enqueuer | returned
    · cases stage : flight.stage <;> rw [stage] at enqueuer <;>
        simp_all [Stage.enqueuer]
    · exact .inr (.inr returned)
  have steps : Related (CellStep s after) s.cells after.cells :=
    .update id (fun i cell _ _ => .refl i cell) fun cell _ =>
      ⟨⟨rfl, rfl, List.suffix_rfl⟩, .inl rfl, .inl, fun _ filled => (by cases filled),
        fun changed => absurd rfl changed⟩
  have step : FlightStep s after fetch.generation flight
      { flight with stage := Gate.leaveSlot flight.stage } := by
    refine
      { grows := { Flight.Grows.refl flight with made := fun _ => ?_, sent := fun sent => ?_ },
        halted := fun halted => .inl ?_,
        claimed := fun _ _ => .inr fun i cell' fetch' found' _ pending' =>
          ok.vacated_withPending found pending _ i cell' fetch' found' pending'
        live := fun free => ?_ }
    · rcases stages with ⟨_, stage, _⟩ | ⟨_, stage, _⟩ | stage <;> simp only [stage] <;> rfl
    · rcases stages with ⟨_, stage, _⟩ | ⟨_, stage, _⟩ | stage <;> simp only [stage] at sent ⊢ <;>
        first | rfl | cases sent
    · refine ⟨halted.1, .inl ?_⟩
      rcases stages with ⟨_, stage, _⟩ | ⟨_, stage, _⟩ | stage <;> simp only [stage] <;> rfl
    · rcases stages with ⟨_, stage, _⟩ | ⟨_, stage, _⟩ | stage <;> rw [stage] at free <;> cases free
  have requeued : Requeued fetch.generation flight
      { flight with stage := Gate.leaveSlot flight.stage } := by
    refine ⟨rfl, fun unaborted => unaborted, ?_, fun _ => ?_, ?_⟩ <;>
      rcases stages with ⟨_, stage, _⟩ | ⟨_, stage, _⟩ | stage <;>
      simp [stage, Gate.leaveSlot, Stage.airborne]
  have flights : Related (FlightStep s after) s.flights after.flights :=
    .update _ (fun i flight _ _ => .refl i flight) fun flight' flown' => by
      rw [only flight' flown']
      exact step
  have advance : Advance s after :=
    .of_related le_rfl le_rfl le_rfl le_rfl steps flights fun _ held _ => held
  refine ⟨ok.withPending advance (.update _ (fun i flight _ _ => .refl i flight)
      fun flight' flown' => ?_) ?_ (fun _ _ _ _ empty => by cases empty)
    (fun generation flight' flown' => ?_)
    (.update _ (fun _ _ _ _ => ⟨rfl, rfl⟩) fun _ _ => ⟨rfl, rfl⟩), advance,
    fun other different => Quiet.rely_withPending advance
      (.update _ (fun _ _ _ _ => .inl rfl) fun flight' flown' => ?_)⟩
  · rw [only flight' flown']
    exact requeued
  · refine SlotsOk.refill ok found (Gate.withPending_at found none _) rfl
      (fun i different => Function.update_of_ne different _ _)
      (fun generation gone _ => Function.update_of_ne (gone fetch pending).symm _ _)
      (fun old flight' was flown' live => ?_) fun _ put => (by cases put)
    obtain rfl : fetch = old := Option.some.inj (pending.symm.trans was)
    rcases update_map_eq_some flown' with ⟨_, flight'', flown'', rfl⟩ | ⟨different, _⟩
    · rw [only flight'' flown''] at live
      rcases stages with ⟨_, stage, _⟩ | ⟨_, stage, _⟩ | stage <;> simp only [stage] at live <;>
        cases live
    · exact absurd rfl different
  · rcases update_map_eq_some flown' with ⟨rfl, flight'', flown'', rfl⟩ | ⟨_, flown⟩
    · rw [only flight'' flown'']
      obtain ⟨cell, found, bound⟩ := flightOk.bound
      refine .inr { flightOk with
        taken := ?_, asked := ?_, placed := ?_, enqueued := ?_, early := ?_, calling := ?_,
        outcome := fun ended => ?_, bound := ⟨cell, found, { bound with }⟩ }
      · rcases stages with ⟨_, stage, _⟩ | ⟨_, stage, _⟩ | stage <;> simp only [stage] <;>
          exact fun _ => rfl
      · rcases stages with ⟨_, stage, _⟩ | ⟨_, stage, _⟩ | stage <;> simp only [stage]
        · intro impossible; cases impossible
        · intro impossible; cases impossible
        · exact fun _ => flightOk.asked (by rw [stage]; rfl)
      · rcases stages with ⟨_, stage, _⟩ | ⟨_, stage, _⟩ | stage <;> simp only [stage] <;>
          intro impossible <;> cases impossible
      · rcases stages with ⟨_, stage, _⟩ | ⟨_, stage, _⟩ | stage <;> simp only [stage] <;>
          intro impossible <;> cases impossible
      · rcases stages with ⟨_, stage, _⟩ | ⟨_, stage, _⟩ | stage <;> simp only [stage]
        · exact fun _ => flightOk.early (by rw [stage]; rfl)
        · exact fun _ => flightOk.early (by rw [stage]; rfl)
        · intro impossible; cases impossible
      · rcases stages with ⟨_, stage, _⟩ | ⟨_, stage, _⟩ | stage <;> simp only [stage] <;>
          intro _ impossible <;> cases impossible
      · have ended := flightOk.outcome ended
        rcases stages with ⟨_, stage, _⟩ | ⟨_, stage, _⟩ | stage <;> rw [stage] at ended <;>
          cases ended
    · exact .inl flown
  · rw [only flight' flown']
    right
    rcases stages with ⟨_, stage, rfl⟩ | ⟨_, stage, rfl⟩ | stage <;> simp only [stage]
    · exact ⟨owner_ne different, by simp [Gate.leaveSlot, Stage.owner]⟩
    · exact ⟨owner_ne different, by simp [Gate.leaveSlot, Stage.owner]⟩
    · exact ⟨owner_ne different, owner_ne different⟩

theorem OwnStep.claimPending {me id : Nat} {cell : EntryCell T P} {flight : Flight T P}
    (ok : s.Invariant config) (found : s.cells id = some cell) (empty : cell.pending = none)
    (flown : s.flights flight.fetch.generation = some flight)
    (created : flight.stage = .created me) (untaken : flight.taken = false)
    (refresh : flight.fetch.refreshFrom.isSome = true) (home : flight.fetch.entry = cell.entry)
    (due : ∀ current, flight.fetch.refreshFrom = some current →
      cell.entry.DueBy s.clock current.value) :
    OwnStep config me s (s.withPending id (some flight.fetch)
      (s.setStage flight.fetch.generation (.claimed me)).flights) := by
  set after := s.withPending id (some flight.fetch)
    (s.setStage flight.fetch.generation (.claimed me)).flights
  have flightOk := ok.flights _ flight flown
  have only : ∀ flight', s.flights flight.fetch.generation = some flight' → flight' = flight :=
    fun flight' flown' => Option.some.inj (flown'.symm.trans flown)
  have claimed : after.flights flight.fetch.generation = some { flight with stage := .claimed me } := by
    change Function.update s.flights _ ((s.flights _).map _) _ = _
    rw [Function.update_self, flown]
    rfl
  have steps : Related (CellStep s after) s.cells after.cells := by
    refine .update id (fun i cell _ _ => .refl i cell) fun cell' found' =>
      ⟨⟨rfl, rfl, List.suffix_rfl⟩, .inl rfl, .inl, fun fetch filled => .inr ?_,
        fun changed => absurd rfl changed⟩
    obtain rfl : flight.fetch = fetch := Option.some.inj filled
    refine ⟨fun flight' flown' => ?_, fun _ => ⟨_, me, claimed, rfl⟩⟩
    rw [only flight' flown', created]
    rfl
  have flights : Related (FlightStep s after) s.flights after.flights := by
    refine .update _ (fun i flight _ _ => .refl i flight) fun flight' flown' => ?_
    rw [only flight' flown']
    refine
      { grows := { Flight.Grows.refl flight with
          made := fun _ => rfl, sent := fun sent => by rw [created] at sent; cases sent },
        halted := fun halted => .inl ⟨halted.1, .inl rfl⟩, claimed := fun _ claimed => ?_,
        live := fun _ _ => rfl }
    rw [created] at claimed
    cases claimed
  have advance : Advance s after :=
    .of_related le_rfl le_rfl le_rfl le_rfl steps flights fun _ held _ => held
  refine ⟨ok.withPending advance (.update _ (fun i flight _ _ => .refl i flight)
      fun flight' flown' => ?_) ?_ (fun cell' fetch current found' filled refresh => ?_)
    (fun generation flight' flown' => ?_)
    (.update _ (fun _ _ _ _ => ⟨rfl, rfl⟩) fun _ _ => ⟨rfl, rfl⟩), advance,
    fun other different => Quiet.rely_withPending advance
      (.update _ (fun _ _ _ _ => .inl rfl) fun flight' flown' => ?_)⟩
  · rw [only flight' flown']
    exact ⟨rfl, fun unaborted => unaborted, by simp [created],
      by simp [Stage.airborne], by simp [created, Stage.airborne]⟩
  · refine SlotsOk.refill ok found (Gate.withPending_at found _ _) rfl
      (fun i different => Function.update_of_ne different _ _)
      (fun generation _ gone => Function.update_of_ne (gone flight.fetch rfl).symm _ _)
      (fun old flight' was => ?_) fun new put => ?_
    · rw [empty] at was
      cases was
    · obtain rfl : flight.fetch = new := Option.some.inj put
      exact ⟨ok.vacated_of_unslotted flown (by rw [created]; rfl), _, claimed, rfl, home, untaken,
        rfl, by simp⟩
  · obtain rfl : cell = cell' := Option.some.inj (found.symm.trans found')
    obtain rfl : flight.fetch = fetch := Option.some.inj filled
    exact due current refresh
  · rcases update_map_eq_some flown' with ⟨rfl, flight'', flown'', rfl⟩ | ⟨_, flown⟩
    · rw [only flight'' flown'']
      obtain ⟨cell, found, bound⟩ := flightOk.bound
      refine .inr { flightOk with
        taken := fun _ => rfl, asked := (by intro impossible; cases impossible),
        placed := (by intro impossible; cases impossible), enqueued := fun _ => refresh,
        calling := (by intro _ impossible; cases impossible),
        early := fun _ => flightOk.early (by rw [created]; rfl),
        outcome := fun ended => ?_, bound := ⟨cell, found, { bound with }⟩ }
      have ended := flightOk.outcome ended
      rw [created] at ended
      cases ended
    · exact .inl flown
  · rw [only flight' flown']
    exact .inr ⟨by rw [created]; exact owner_ne different, owner_ne different⟩

theorem OwnStep.retry {me id : Nat} {cell : EntryCell T P} {fetch : PendingFetch T P}
    {flight retry : Flight T P} (ok : s.Invariant config) (found : s.cells id = some cell)
    (pending : cell.pending = some fetch) (flown : s.flights fetch.generation = some flight)
    (returned : flight.stage = .returned me)
    (flownRetry : s.flights retry.fetch.generation = some retry)
    (created : retry.stage = .created me) (untaken : retry.taken = false)
    (cold : retry.fetch.refreshFrom = none) (home : retry.fetch.entry = cell.entry) :
    OwnStep config me s (s.withPending id (some retry.fetch)
      (s.updateFlight retry.fetch.generation fun flight =>
        { flight with stage := .placed, placed := s.clock }).flights) := by
  set after := s.withPending id (some retry.fetch)
    (s.updateFlight retry.fetch.generation fun flight =>
      { flight with stage := .placed, placed := s.clock }).flights
  have flightOk := ok.flights _ retry flownRetry
  have only : ∀ flight', s.flights retry.fetch.generation = some flight' → flight' = retry :=
    fun flight' flown' => Option.some.inj (flown'.symm.trans flownRetry)
  have different : fetch.generation ≠ retry.fetch.generation := by
    intro same
    rw [same] at flown
    rw [only flight flown, created] at returned
    cases returned
  have alive : ¬ s.Dead id := by
    rintro ⟨cell', found', _, slot⟩
    obtain rfl : cell = cell' := Option.some.inj (found.symm.trans found')
    obtain ⟨flight', enqueuer, flown', claimed⟩ := slot fetch pending
    obtain rfl : flight = flight' := Option.some.inj (flown.symm.trans flown')
    rw [returned] at claimed
    cases claimed
  have identity := (ok.cells id cell found).identity
  have placed : after.flights retry.fetch.generation = some
      { retry with stage := .placed, placed := s.clock } := by
    change Function.update s.flights _ ((s.flights _).map _) _ = _
    rw [Function.update_self, flownRetry]
    rfl
  have steps : Related (CellStep s after) s.cells after.cells := by
    refine .update id (fun i cell _ _ => .refl i cell) fun cell' found' =>
      ⟨⟨rfl, rfl, List.suffix_rfl⟩, .inl rfl, .inl, fun filling filled => .inr ?_,
        fun changed => absurd rfl changed⟩
    obtain rfl : retry.fetch = filling := Option.some.inj filled
    refine ⟨fun flight' flown' => ?_, fun dead => absurd dead alive⟩
    rw [only flight' flown', created]
    rfl
  have flights : Related (FlightStep s after) s.flights after.flights := by
    refine .update _ (fun i flight _ _ => .refl i flight) fun flight' flown' => ?_
    rw [only flight' flown']
    refine
      { grows := { Flight.Grows.refl retry with
          made := fun _ => rfl, sent := fun sent => by rw [created] at sent; cases sent },
        halted := fun _ => .inr fun gone => alive ?_, claimed := fun _ claimed => ?_,
        live := fun _ _ => rfl }
    · rw [home, identity] at gone
      exact gone.1
    · rw [created] at claimed
      cases claimed
  have advance : Advance s after :=
    .of_related le_rfl le_rfl le_rfl le_rfl steps flights fun _ held _ => held
  refine ⟨ok.withPending advance (.update _ (fun i flight _ _ => .refl i flight)
      fun flight' flown' => ?_) ?_ (fun cell' fetch current found' filled refresh => ?_)
    (fun generation flight' flown' => ?_)
    (.update _ (fun _ _ _ _ => ⟨rfl, rfl⟩) fun _ _ => ⟨rfl, rfl⟩), advance,
    fun other isOther => Quiet.rely_withPending advance
      (.update _ (fun _ _ _ _ => .inl rfl) fun flight' flown' => ?_)⟩
  · rw [only flight' flown']
    exact ⟨rfl, fun unaborted => unaborted, by simp [created],
      by simp [Stage.airborne], by simp [created, Stage.airborne]⟩
  · refine SlotsOk.refill ok found (Gate.withPending_at found _ _) rfl
      (fun i different => Function.update_of_ne different _ _)
      (fun generation _ gone => Function.update_of_ne (gone retry.fetch rfl).symm _ _)
      (fun old flight' was flown' live => ?_) fun new put => ?_
    · obtain rfl : fetch = old := Option.some.inj (pending.symm.trans was)
      rcases update_map_eq_some flown' with ⟨same, _⟩ | ⟨_, flown'⟩
      · exact absurd same different
      · obtain rfl : flight = flight' := Option.some.inj (flown.symm.trans flown')
        rw [returned] at live
        cases live
    · obtain rfl : retry.fetch = new := Option.some.inj put
      exact ⟨ok.vacated_of_unslotted flownRetry (by rw [created]; rfl), _, placed, rfl, home, untaken,
        rfl, by simp⟩
  · obtain rfl : retry.fetch = fetch := Option.some.inj filled
    rw [cold] at refresh
    cases refresh
  · rcases update_map_eq_some flown' with ⟨rfl, flight'', flown'', rfl⟩ | ⟨_, flown⟩
    · rw [only flight'' flown'']
      obtain ⟨cell, found, bound⟩ := flightOk.bound
      refine .inr { flightOk with
        taken := fun _ => rfl, asked := (by intro impossible; cases impossible), placed := fun _ => cold,
        enqueued := (by intro impossible; cases impossible), calling := (by intro _ impossible; cases impossible),
        early := fun _ => flightOk.early (by rw [created]; rfl),
        outcome := fun ended => ?_, bound := ⟨cell, found, { bound with }⟩ }
      have ended := flightOk.outcome ended
      rw [created] at ended
      cases ended
    · exact .inl flown
  · rw [only flight' flown']
    exact .inr ⟨by rw [created]; exact owner_ne isOther, by simp [Stage.owner]⟩

end PolicyGate
