import PolicyGate.Preservation.Cells

namespace PolicyGate

open Data

variable {T P : Type} {config : PolicyGateConfig} {s : Gate T P} {generation : Nat}
  {f : Flight T P → Flight T P}

theorem Advance.updateFlight (steps : ∀ flight, s.flights generation = some flight →
    FlightStep s (s.updateFlight generation f) generation flight (f flight)) :
    Advance s (s.updateFlight generation f) :=
  .of_related le_rfl le_rfl le_rfl le_rfl (.refl fun i cell _ => .refl i cell)
    (.update generation (fun i flight _ _ => .refl i flight) steps) fun _ held _ => held

theorem Quiet.updateFlight (s : Gate T P) (generation : Nat) (f : Flight T P → Flight T P) :
    Quiet s (s.updateFlight generation f) :=
  ⟨rfl, rfl, rfl, rfl, rfl, rfl, rfl, rfl, ⟨_, rfl⟩, rfl, rfl, rfl⟩

variable [DecidableEq T]

theorem Gate.Agreement.updateFlight (agreement : s.Agreement)
    (answer : ∀ flight, s.flights generation = some flight →
      (f flight).fetch = flight.fetch ∧ (f flight).answer = flight.answer) :
    (s.updateFlight generation f).Agreement :=
  agreement.transfer (.of_related (.update generation (fun _ _ _ _ => ⟨rfl, rfl⟩) answer))
    agreement.emitted fun _ cell found held quiet => .inl ⟨cell, found, held, rfl, rfl, quiet, rfl⟩

theorem Gate.Invariant.updateFlight (ok : s.Invariant config)
    (restaged : ∀ flight, s.flights generation = some flight →
      Restaged s generation flight (f flight))
    (advance : Advance s (s.updateFlight generation f))
    (flightOk : ∀ flight, s.flights generation = some flight →
      FlightOk config s.cells s.watch.reached generation (f flight))
    (agreement : s.stream.isSome = true → (s.updateFlight generation f).Honest → s.Agreement →
      (s.updateFlight generation f).Agreement) :
    (s.updateFlight generation f).Invariant config := by
  refine ok.quiet_of_slots (.updateFlight s generation f) advance (sameSlot_refl s)
    (.update generation (fun i flight _ _ => .refl i flight) restaged) (fun _ _ found => .inl found)
    (fun i flight' flown' => ?_) agreement
  by_cases same : i = generation
  · subst same
    rw [Gate.updateFlight_flights, Function.update_self, Option.map_eq_some_iff] at flown'
    obtain ⟨flight, flown, rfl⟩ := flown'
    exact .inr (flightOk flight flown)
  · rw [Gate.updateFlight_flights, Function.update_of_ne same] at flown'
    exact .inl flown'

omit [DecidableEq T] in
theorem Quiet.rely_updateFlight {me : Nat} (advance : Advance s (s.updateFlight generation f))
    (own : ∀ flight, s.flights generation = some flight →
      KeepsOwn me generation flight (f flight)) : Rely me s (s.updateFlight generation f) :=
  (Quiet.updateFlight s generation f).rely advance
    (.update generation (fun _ _ _ _ => .inl rfl) own) (.of_cells_eq rfl) (fun _ => rfl)
    fun _ _ stale => stale

theorem NeutralStep.updateFlight (ok : s.Invariant config)
    (grows : ∀ flight, s.flights generation = some flight → flight.Grows (f flight))
    (same : ∀ flight, s.flights generation = some flight → (f flight).stage = flight.stage ∧
      (f flight).begun = flight.begun ∧ (f flight).taken = flight.taken ∧
      (f flight).answer = flight.answer)
    (flightOk : ∀ flight, s.flights generation = some flight →
      FlightOk config s.cells s.watch.reached generation (f flight)) :
    NeutralStep config s (s.updateFlight generation f) := by
  have advance : Advance s (s.updateFlight generation f) := .updateFlight fun flight flown =>
    .of_stage_eq (grows flight flown) (same flight flown).1 (same flight flown).2.1
  refine ⟨ok.updateFlight (fun flight flown => ?_) advance flightOk fun _ _ agreement =>
    agreement.updateFlight fun flight flown =>
      ⟨(grows flight flown).fetch, (same flight flown).2.2.2⟩, fun me => ?_⟩
  · refine .of_stage_eq (grows flight flown).fetch (same flight flown).2.2.1 (fun unaborted => ?_)
      (same flight flown).1
    by_contra aborted
    rw [Bool.not_eq_false] at aborted
    exact absurd ((grows flight flown).aborted aborted) (by rw [unaborted]; decide)
  · exact Quiet.rely_updateFlight advance fun flight flown => .inl (same flight flown).1

/-- `AbortHandle::abort` on a lookup that was taken out of its slot. -/
theorem NeutralStep.abort (ok : s.Invariant config)
    (taken : ∀ flight, s.flights generation = some flight → flight.taken = true) :
    NeutralStep config s
      (s.updateFlight generation fun flight => { flight with aborted := true }) := by
  refine .updateFlight ok (fun flight _ => ?_) (fun _ _ => ⟨rfl, rfl, rfl, rfl⟩)
    fun flight flown => ?_
  · exact { Flight.Grows.refl flight with aborted := fun _ => rfl }
  · have flightOk := ok.flights generation flight flown
    obtain ⟨cell, found, bound⟩ := flightOk.bound
    exact { flightOk with aborted := fun _ => taken flight flown
                          bound := ⟨cell, found, { bound with }⟩ }

theorem NeutralStep.join (ok : s.Invariant config)
    (permitted : ∀ flight cell, s.flights generation = some flight →
      s.cells flight.fetch.entry.id = some cell → Permitted s.watch.reached cell.session) :
    NeutralStep config s
      (s.updateFlight generation fun flight => { flight with joined := true }) := by
  refine .updateFlight ok (fun flight _ => ?_) (fun _ _ => ⟨rfl, rfl, rfl, rfl⟩)
    fun flight flown => ?_
  · exact { Flight.Grows.refl flight with joined := fun _ => rfl }
  · have flightOk := ok.flights generation flight flown
    obtain ⟨cell, found, bound⟩ := flightOk.bound
    exact { flightOk with asked := fun _ => .inl rfl
                          bound := ⟨cell, found, { bound with
                            permitted := fun _ => permitted flight cell flown found }⟩ }

theorem OwnStep.updateFlight {me : Nat} {flight : Flight T P} (ok : s.Invariant config)
    (flown : s.flights generation = some flight) (restaged : Restaged s generation flight (f flight))
    (step : FlightStep s (s.updateFlight generation f) generation flight (f flight))
    (flightOk : FlightOk config s.cells s.watch.reached generation (f flight))
    (answer : (f flight).answer = flight.answer)
    (own : ∀ other, other ≠ me → flight.stage.owner ≠ some other ∧
      (f flight).stage.owner ≠ some other) :
    OwnStep config me s (s.updateFlight generation f) := by
  have only : ∀ flight', s.flights generation = some flight' → flight' = flight :=
    fun flight' flown' => Option.some.inj (flown'.symm.trans flown)
  have advance : Advance s (s.updateFlight generation f) := .updateFlight fun flight' flown' => by
    rw [only flight' flown']
    exact step
  refine ⟨ok.updateFlight (fun flight' flown' => ?_) advance (fun flight' flown' => ?_)
    fun _ _ agreement => agreement.updateFlight fun flight' flown' => ?_, advance,
    fun other different => Quiet.rely_updateFlight advance fun flight' flown' => ?_⟩ <;>
    rw [only flight' flown']
  · exact restaged
  · exact flightOk
  · exact ⟨restaged.fetch, answer⟩
  · exact .inr (own other different)

theorem owner_ne {me other : Nat} (different : other ≠ me) : some me ≠ some other :=
  fun same => different (Option.some.inj same).symm

theorem OwnStep.beginPoll {me : Nat} {flight : Flight T P} (ok : s.Invariant config)
    (flown : s.flights generation = some flight)
    (pollable : flight.stage = .placed ∧ flight.joined = true ∨ flight.stage = .flying)
    (unaborted : flight.aborted = false) :
    OwnStep config me s (s.setStage generation (.polled me)) := by
  have flightOk := ok.flights generation flight flown
  have refreshes : flight.fetch.refreshFrom.isSome = true → flight.stage = .flying := by
    intro refresh
    rcases pollable with ⟨placed, _⟩ | flying
    · rw [flightOk.placed placed] at refresh
      cases refresh
    · exact flying
  have early : flight.stage.early = true := by
    rcases pollable with ⟨stage, _⟩ | stage <;> rw [stage] <;> rfl
  refine .updateFlight ok flown
    { fetch := rfl, taken := rfl, aborted := fun unaborted => unaborted, slotted := fun _ => rfl,
      live := fun _ => ?_, queued := ?_, airborne := fun refresh _ => ?_, flown := fun _ => .inl rfl,
      finished := nofun }
    { grows := { Flight.Grows.refl flight with made := fun _ => rfl, sent := fun _ => rfl },
      halted := fun halted => ?_, claimed := fun _ claimed => ?_, live := fun _ _ => rfl }
    { flightOk with
      taken := fun _ => rfl, asked := fun _ => ?_, placed := nofun, enqueued := nofun,
      early := fun _ => flightOk.early early,
      calling := nofun, outcome := fun finished => ?_, bound := ?_ } rfl fun other different => ?_
  · rcases pollable with ⟨stage, _⟩ | stage <;> simp [stage]
  · rw [refreshes refresh]
    rfl
  · rcases pollable with ⟨stage, _⟩ | stage <;> rw [stage] <;> rfl
  · rcases halted.2 with settled | ⟨aborted, _⟩
    · rcases pollable with ⟨stage, _⟩ | stage <;> rw [stage] at settled <;> cases settled
    · exact absurd (unaborted.symm.trans aborted) (by decide)
  · rcases pollable with ⟨stage, _⟩ | stage <;> rw [stage] at claimed <;> cases claimed
  · rcases pollable with ⟨_, joined⟩ | stage
    · exact .inl joined
    · exact .inr (flightOk.enqueued (by rw [stage]; rfl))
  · have ended := flightOk.outcome finished
    rcases pollable with ⟨stage, _⟩ | stage <;> rw [stage] at ended <;> cases ended
  · obtain ⟨cell, found, bound⟩ := flightOk.bound
    exact ⟨cell, found, { bound with }⟩
  · refine ⟨?_, owner_ne different⟩
    rcases pollable with ⟨stage, _⟩ | stage <;> rw [stage] <;> simp [Stage.owner]

theorem OwnStep.sleep {me : Nat} {flight : Flight T P} {stage : Stage} (ok : s.Invariant config)
    (flown : s.flights generation = some flight)
    (polled : flight.stage = .polled me ∨ flight.stage = .asleep me ∧ flight.aborted = false)
    (becomes : stage = .asleep me ∨ stage = .polled me) :
    OwnStep config me s (s.setStage generation stage) := by
  have flightOk := ok.flights generation flight flown
  have was : flight.stage = .polled me ∨ flight.stage = .asleep me := polled.imp_right And.left
  obtain ⟨cell, found, bound⟩ := flightOk.bound
  have later : FlightOk config s.cells s.watch.reached generation { flight with stage } := by
    rcases becomes with rfl | rfl <;>
    exact { flightOk with
      taken := fun _ => rfl, placed := nofun, enqueued := nofun, calling := nofun
      asked := fun _ => flightOk.asked (by rcases was with stage | stage <;> rw [stage] <;> rfl)
      early := fun _ => flightOk.early (by rcases was with stage | stage <;> rw [stage] <;> rfl)
      outcome := fun finished => by
        have ended := flightOk.outcome finished
        rcases was with stage | stage <;> rw [stage] at ended <;> cases ended
      bound := ⟨cell, found, { bound with }⟩ }
  refine .updateFlight ok flown
    { fetch := rfl, taken := rfl, aborted := fun unaborted => unaborted
      slotted := fun _ => by rcases becomes with rfl | rfl <;> rfl
      live := fun _ => by rcases was with stage | stage <;> rw [stage] <;> rfl
      queued := by rcases was with stage | stage <;> rcases becomes with rfl | rfl <;> simp [stage]
      airborne := fun _ _ => by rcases was with stage | stage <;> rw [stage] <;> rfl
      flown := fun _ => .inl (by rcases becomes with rfl | rfl <;> rfl)
      finished := by rcases becomes with rfl | rfl <;> nofun }
    { grows := { Flight.Grows.refl flight with
        made := fun _ => by rcases becomes with rfl | rfl <;> rfl
        sent := fun _ => by rcases becomes with rfl | rfl <;> rfl }
      halted := fun halted => ?_, claimed := fun _ claimed => ?_
      live := fun _ _ => by rcases becomes with rfl | rfl <;> rfl }
    later rfl fun other different => ?_
  · rcases halted.2 with settled | ⟨aborted, unpolled⟩
    · rcases was with stage | stage <;> rw [stage] at settled <;> cases settled
    · rcases polled with stage | ⟨_, unaborted⟩
      · exact absurd stage (unpolled me)
      · exact absurd (unaborted.symm.trans aborted) (by decide)
  · rcases was with stage | stage <;> rw [stage] at claimed <;> cases claimed
  · rcases was with stage | stage <;> rcases becomes with rfl | rfl <;> rw [stage] <;>
      exact ⟨owner_ne different, owner_ne different⟩

theorem OwnStep.finishFetch {me : Nat} {flight : Flight T P} {result : FetchResult}
    (ok : s.Invariant config) (flown : s.flights generation = some flight)
    (returned : flight.stage = .returned me)
    (vacated : flight.fetch.refreshFrom.isSome = true → s.Vacated generation) :
    OwnStep config me s (s.updateFlight generation fun flight =>
      { flight with stage := .finished, outcome := some result }) := by
  have flightOk := ok.flights generation flight flown
  refine .updateFlight ok flown
    { fetch := rfl, taken := rfl, aborted := fun unaborted => unaborted, slotted := fun _ => rfl,
      live := nofun, queued := by simp [returned], airborne := nofun, flown := fun _ => .inr rfl,
      finished := fun refresh _ => .inr (vacated refresh) }
    { grows := { Flight.Grows.refl flight with made := fun _ => rfl, sent := fun _ => rfl },
      halted := fun halted => .inl ⟨halted.1, .inl rfl⟩,
      claimed := fun _ claimed => ?_, live := fun free => ?_ }
    { flightOk with
      taken := fun _ => rfl, asked := fun _ => flightOk.asked (by rw [returned]; rfl), placed := nofun,
      enqueued := nofun,
      early := nofun, calling := nofun, outcome := fun _ => rfl, bound := ?_ } rfl
    fun other different => ?_
  · rw [returned] at claimed
    cases claimed
  · rw [returned] at free
    cases free
  · obtain ⟨cell, found, bound⟩ := flightOk.bound
    exact ⟨cell, found, { bound with }⟩
  · rw [returned]
    exact ⟨owner_ne different, by simp [Stage.owner]⟩

theorem OwnStep.revalidate {me : Nat} {flight : Flight T P} {cell : EntryCell T P}
    (ok : s.Invariant config) (flown : s.flights generation = some flight)
    (claimed : flight.stage = .claimed me) (found : s.cells flight.fetch.entry.id = some cell)
    (fresh : cell.state ≠ .stale) :
    OwnStep config me s (s.setStage generation (.validated me)) := by
  have flightOk := ok.flights generation flight flown
  refine .updateFlight ok flown
    { fetch := rfl, taken := rfl, aborted := fun unaborted => unaborted, slotted := fun _ => rfl,
      live := fun _ => by rw [claimed]; rfl, queued := by simp [claimed], airborne := nofun,
      flown := by simp [claimed, Stage.airborne], finished := nofun }
    { grows := { Flight.Grows.refl flight with
        made := fun _ => rfl, sent := fun sent => by rw [claimed] at sent; cases sent },
      halted := fun _ => .inr fun gone => ?_, claimed := fun _ _ => .inr ?_, live := fun _ _ => rfl }
    { flightOk with
      taken := fun _ => rfl, asked := nofun, placed := nofun,
      enqueued := fun _ => flightOk.enqueued (by rw [claimed]; rfl),
      early := fun _ => flightOk.early (by rw [claimed]; rfl), calling := nofun,
      outcome := fun finished => ?_, bound := ?_ } rfl
    fun other different => ?_
  · obtain ⟨⟨cell', found', dead⟩, _⟩ := gone
    obtain rfl : cell = cell' := Option.some.inj (found.symm.trans found')
    exact fresh dead.1
  · intro id cell' fetch found' stale pending same
    obtain ⟨flight', flown', held, home, _⟩ := ok.slots.held id cell' fetch found' pending
    rw [same] at flown'
    obtain rfl : flight = flight' := Option.some.inj (flown.symm.trans flown')
    have identity := (ok.cells id cell' found').identity
    rw [held, home, identity] at found
    obtain rfl : cell = cell' := Option.some.inj (found.symm.trans found')
    exact fresh stale
  · have ended := flightOk.outcome finished
    rw [claimed] at ended
    cases ended
  · obtain ⟨cell, found, bound⟩ := flightOk.bound
    exact ⟨cell, found, { bound with }⟩
  · rw [claimed]
    exact ⟨owner_ne different, owner_ne different⟩

theorem OwnStep.noteFlight {me : Nat} {flight : Flight T P} {event : EntryEvent T P}
    (ok : s.Invariant config) (flown : s.flights generation = some flight)
    (quiet : event.touches = false) (since : event.Since s.clock)
    (restaged : Restaged s generation flight (f flight))
    (step : ∀ after, FlightStep s after generation flight (f flight))
    (sound : (f flight).Sound)
    (bound : ∀ home, s.cells flight.fetch.entry.id = some home →
      flight.Bound config s.watch.reached generation home →
        EntryLog.EventAccounted config home.entry home.log event ∧
        EventSourced (s.updateFlight generation f).flights home.entry home.session event ∧
        (f flight).Bound config s.watch.reached generation { home with log := event :: home.log })
    (answer : (f flight).answer = flight.answer)
    (own : ∀ other, other ≠ me → flight.stage.owner ≠ some other ∧
      (f flight).stage.owner ≠ some other) :
    OwnStep config me s ((s.updateFlight generation f).note flight.fetch.entry.id event) := by
  set after := (s.updateFlight generation f).note flight.fetch.entry.id event
  have flightOk := ok.flights generation flight flown
  obtain ⟨home, found, atHome⟩ := flightOk.bound
  have only : ∀ flight', s.flights generation = some flight' → flight' = flight :=
    fun flight' flown' => Option.some.inj (flown'.symm.trans flown)
  have onlyHome : ∀ cell, s.cells flight.fetch.entry.id = some cell → cell = home :=
    fun cell found' => Option.some.inj (found'.symm.trans found)
  obtain ⟨accounted, sourced, bound⟩ := bound home found atHome
  have steps : Related (CellStep s after) s.cells after.cells :=
    .update _ (fun i cell _ _ => .refl i cell) fun cell _ =>
      .of_slot_eq ⟨rfl, rfl, List.suffix_cons _ _⟩ (.inr ⟨event, rfl, since⟩) (fun stale => stale)
        rfl rfl
  have advance : Advance s after := by
    refine .of_related le_rfl le_rfl le_rfl le_rfl steps
      (.update _ (fun i flight _ _ => .refl i flight) fun flight' flown' => ?_) fun _ held _ => held
    rw [only flight' flown']
    exact step after
  have unmoved : Quiet s after :=
    ⟨rfl, rfl, rfl, rfl, rfl, rfl, rfl, rfl, ⟨_, rfl⟩, rfl, rfl, rfl⟩
  refine ⟨ok.quiet_of_slots unmoved advance
    (.update _ (fun _ _ _ _ => ⟨rfl, rfl, rfl⟩) fun _ _ => ⟨rfl, rfl, rfl⟩)
    (.update _ (fun i flight _ _ => .refl i flight) fun flight' flown' => ?_)
    (fun i cell' found' => ?_) (fun i flight' flown' => ?_) (fun _ _ agreement => ?_), advance,
    fun other different => unmoved.rely advance
      (.update _ (fun _ _ _ _ => .inl rfl) fun flight' flown' => ?_)
      (.of_related (.update _ (fun _ _ _ _ => rfl) fun _ _ => rfl)) (fun _ => rfl) fun _ => ?_⟩
  · rw [only flight' flown']
    exact restaged
  · rcases update_map_eq_some found' with ⟨rfl, cell, found'', rfl⟩ | ⟨_, found''⟩
    · obtain rfl := onlyHome cell found''
      exact .inr (((ok.cells _ _ found).mono advance.toExtends).note quiet accounted sourced)
    · exact .inl found''
  · rcases update_map_eq_some flown' with ⟨rfl, flight'', flown'', rfl⟩ | ⟨_, flown''⟩
    · obtain rfl := only flight'' flown''
      refine .inr { sound with
        identity := by rw [restaged.fetch]; exact flightOk.identity
        subject := by rw [restaged.fetch]; exact flightOk.subject
        bound := ⟨_, ?_, bound⟩ }
      rw [restaged.fetch]
      change Function.update s.cells _ ((s.cells _).map _) _ = _
      rw [Function.update_self, found, Option.map_some]
    · exact .inl flown''
  · refine agreement.transfer (.of_related (.update _ (fun _ _ _ _ => ⟨rfl, rfl⟩)
      fun flight' flown' => ?_)) agreement.emitted fun i cell' found' held quiet => ?_
    · rw [only flight' flown']
      exact ⟨restaged.fetch, answer⟩
    · have cells : Related (fun _ (cell cell' : EntryCell T P) =>
          cell'.entry = cell.entry ∧ cell'.current = cell.current) s.cells after.cells :=
        .update _ (fun _ _ _ _ => ⟨rfl, rfl⟩) fun _ _ => ⟨rfl, rfl⟩
      obtain ⟨cell, found, entry, current⟩ := cells.backward found'
      exact .inl ⟨cell, found, held, entry, current, entry ▸ quiet, rfl⟩
  · rw [only flight' flown']
    exact .inr (own other different)
  · intro id ⟨cell, found, stale⟩
    have cells : Related (fun _ (cell cell' : EntryCell T P) => cell'.state = cell.state)
        s.cells after.cells := .update _ (fun _ _ _ _ => rfl) fun _ _ => rfl
    obtain ⟨cell', found', state⟩ := cells.forward found
    exact ⟨cell', found', state.trans stale⟩

theorem OwnStep.startCall {me : Nat} {flight : Flight T P} (held : Bool) (ok : s.Invariant config)
    (flown : s.flights generation = some flight) (polled : flight.stage = .polled me) :
    OwnStep config me s ((s.updateFlight generation fun flight =>
      { flight with stage := .calling me, begun := some s.watch.opened }).note
        flight.fetch.entry.id
          (.started generation flight.fetch.refreshFrom.isSome held s.clock)) := by
  have flightOk := ok.flights generation flight flown
  have early := flightOk.early (by rw [polled]; rfl)
  have asked := flightOk.asked (by rw [polled]; rfl)
  refine .noteFlight ok flown rfl le_rfl
    { fetch := rfl, taken := rfl, aborted := fun unaborted => unaborted, slotted := fun _ => rfl,
      live := fun _ => by rw [polled]; rfl, queued := by simp [polled],
      airborne := fun _ _ => by rw [polled]; rfl, flown := fun _ => .inl rfl, finished := nofun }
    (fun after =>
      { grows := { Flight.Grows.refl flight with
          begun := fun begun => by rw [early] at begun; cases begun
          made := fun _ => rfl, sent := fun _ => rfl }
        halted := fun halted => ?_
        claimed := fun _ claimed => ?_
        live := fun _ _ => rfl })
    { flightOk.toSound with
      taken := fun _ => rfl, asked := fun _ => asked, placed := nofun, enqueued := nofun,
      early := nofun, calling := fun _ _ => rfl, answered := fun _ => rfl,
      outcome := fun ended => ?_ }
    (fun home found bound => ⟨fun refresh held now started => ?_, ?_, ?_⟩) rfl
    fun other different => ⟨by rw [polled]; exact owner_ne different, owner_ne different⟩
  · rcases halted.2 with settled | ⟨_, unpolled⟩
    · rw [polled] at settled
      cases settled
    · exact absurd polled (unpolled me)
  · rw [polled] at claimed
    cases claimed
  · have ended := flightOk.outcome ended
    rw [polled] at ended
    cases ended
  · obtain ⟨flight', flown', begun⟩ := (ok.cells _ home found).sourced _ started
    obtain rfl : flight' = flight := Option.some.inj (flown'.symm.trans flown)
    rw [early] at begun
    cases begun
  · refine ⟨{ flight with stage := .calling me, begun := some s.watch.opened }, ?_, rfl⟩
    rw [Gate.updateFlight_flights, Function.update_self, flown, Option.map_some]
  · refine { bound with
      captured := fun arc refreshes => ?_
      started := fun _ => ⟨home.log, _, _, _, List.suffix_rfl, ?_⟩
      begun := fun opened same => ?_ }
    · have captured := bound.captured arc refreshes
      exact ⟨captured.1.mono (List.suffix_cons _ _), captured.2⟩
    · rw [← (ok.cells _ home found).address]
      have basis : flight.fetch.basis ≤ home.current.address := ok.basis_le flown found
      exact basis
    · obtain ⟨n, session, reached⟩ := bound.permitted asked
      obtain rfl : s.watch.opened = opened := Option.some.inj same
      exact ⟨n, session, reached.trans ok.session.reached⟩

theorem OwnStep.markReturned {me : Nat} {flight : Flight T P} (ok : s.Invariant config)
    (flown : s.flights generation = some flight)
    (handled : flight.stage = .polled me ∨ flight.stage = .calling me) :
    OwnStep config me s ((s.setStage generation (.returned me)).note flight.fetch.entry.id
      (.returned generation s.clock)) := by
  have flightOk := ok.flights generation flight flown
  refine .noteFlight ok flown rfl le_rfl
    { fetch := rfl, taken := rfl, aborted := fun unaborted => unaborted, slotted := fun _ => rfl,
      live := nofun, queued := ?_, airborne := fun _ _ => ?_, flown := fun _ => .inl rfl,
      finished := nofun }
    (fun after =>
      { grows := { Flight.Grows.refl flight with made := fun _ => rfl, sent := fun _ => rfl },
        halted := fun halted => .inl ⟨halted.1, .inl rfl⟩,
        claimed := fun _ claimed => ?_, live := fun free => ?_ })
    { flightOk.toSound with
      taken := fun _ => rfl, asked := fun _ => flightOk.asked ?_, placed := nofun,
      enqueued := nofun, early := nofun, calling := nofun, outcome := fun finished => ?_ }
    (fun home found bound => ⟨trivial, trivial, ?_⟩) rfl fun other different => ?_
  · rcases handled with stage | stage <;> simp [stage]
  · rcases handled with stage | stage <;> rw [stage] <;> rfl
  · rcases handled with stage | stage <;> rw [stage] at claimed <;> cases claimed
  · rcases handled with stage | stage <;> rw [stage] at free <;> cases free
  · rcases handled with stage | stage <;> rw [stage] <;> rfl
  · have ended := flightOk.outcome finished
    rcases handled with stage | stage <;> rw [stage] at ended <;> cases ended
  · have grows : home.Grows
        { home with log := .returned generation s.clock :: home.log } :=
      ⟨rfl, rfl, List.suffix_cons _ _⟩
    exact { bound.mono le_rfl grows with }
  · refine ⟨?_, owner_ne different⟩
    rcases handled with stage | stage <;> rw [stage] <;> exact owner_ne different

/-- The source settles its answer to a call in flight: an honest one tells the authority's decision
of that instant. -/
theorem NeutralStep.answer {flight : Flight T P} {poller : Nat} {answer : Answer P}
    (ok : s.Invariant config) (flown : s.flights generation = some flight)
    (calling : flight.stage = .calling poller) (unanswered : flight.answer = none) :
    NeutralStep config s (s.updateFlight generation fun flight =>
      { flight with answer := some answer, truth := s.authority flight.fetch.subject }) := by
  have flightOk := ok.flights generation flight flown
  obtain ⟨home, foundHome, bound⟩ := flightOk.bound
  have only : ∀ flight', s.flights generation = some flight' → flight' = flight :=
    fun flight' flown' => Option.some.inj (flown'.symm.trans flown)
  have advance : Advance s (s.updateFlight generation fun flight =>
      { flight with answer := some answer, truth := s.authority flight.fetch.subject }) := by
    refine .updateFlight fun flight' flown' => .of_stage_eq ?_ rfl rfl
    rw [only flight' flown']
    refine { Flight.Grows.refl flight with answer := fun answered => ?_ }
    rw [unanswered] at answered
    cases answered
  refine ⟨ok.updateFlight (fun _ _ => .of_stage_eq rfl rfl (fun unaborted => unaborted) rfl) advance
    (fun flight' flown' => ?_) (fun _ honest agreement => ⟨agreement.emitted,
      fun id cell found held quiet => ?_⟩), fun me =>
    Quiet.rely_updateFlight advance fun _ _ => .inl rfl⟩
  · rw [only flight' flown']
    exact { flightOk with answered := fun _ => flightOk.calling poller calling
                          bound := ⟨home, foundHome, { bound with }⟩ }
  · have agrees := agreement.entries id cell found held quiet
    refine ⟨agrees.decided, fun generation' flight' result flown' at_home applicable answered => ?_⟩
    rcases update_map_eq_some flown' with ⟨rfl, flight'', flown'', rfl⟩ | ⟨_, flown''⟩
    · rw [only flight'' flown''] at at_home
      have truth := honest _ _ result flown' answered
      obtain rfl : flight'' = flight := only flight'' flown''
      subst at_home
      obtain rfl : home = cell := Option.some.inj (foundHome.symm.trans found)
      rw [truth, bound.entry, ← flightOk.subject]
      rfl
    · exact agrees.answered generation' flight' result flown'' at_home applicable answered

end PolicyGate
