import PolicyGate.Preservation.Watch

namespace PolicyGate

open Data

variable {T P : Type} [DecidableEq T] {config : PolicyGateConfig} {s : Gate T P}

/-- A refresh is handed on, by its enqueuer to the queue or from there to the watcher. -/
inductive HandedOn : Flight T P → Flight T P → Prop where
  | stays {flight : Flight T P} : HandedOn flight flight
  | queued {flight : Flight T P} {me : Nat} (validated : flight.stage = .validated me) :
      HandedOn flight { flight with stage := .queued }
  | flying {flight : Flight T P} (queued : flight.stage = .queued) :
      HandedOn flight { flight with stage := .flying }

namespace HandedOn

omit [DecidableEq T]

variable {before after : Gate T P} {generation : Nat} {flight flight' : Flight T P}

theorem flightStep (handed : HandedOn flight flight') :
    FlightStep before after generation flight flight' := by
  cases handed with
  | stays => exact .refl _ _
  | queued stood | flying stood =>
      refine ⟨{ Flight.Grows.refl flight with made := fun _ => rfl, sent := fun _ => rfl },
        fun halted => .inl ⟨halted.1, .inr ⟨?_, nofun⟩⟩, fun _ claimed => ?_, fun _ _ => rfl⟩
      · rcases halted.2 with settled | ⟨aborted, _⟩
        · rw [stood] at settled
          cases settled
        · exact aborted
      · rw [stood] at claimed
        cases claimed

theorem reslotted (handed : HandedOn flight flight') : Reslotted before generation flight flight' := by
  cases handed with
  | stays => exact (Restaged.refl generation flight).toReslotted
  | queued stood | flying stood => exact ⟨rfl, rfl, fun _ => rfl, fun _ => by rw [stood]; rfl, nofun⟩

theorem flightOk {cells : Nat → Option (EntryCell T P)} {reached : Nat}
    (handed : HandedOn flight flight') (ok : FlightOk config cells reached generation flight) :
    FlightOk config cells reached generation flight' := by
  cases handed with
  | stays => exact ok
  | queued stood | flying stood =>
      obtain ⟨cell, found, bound⟩ := ok.bound
      refine { ok with
        taken := fun _ => rfl, asked := nofun, placed := nofun
        enqueued := fun _ => ok.enqueued (by rw [stood]; rfl)
        early := fun _ => ok.early (by rw [stood]; rfl), calling := nofun
        outcome := fun ended => ?_, bound := ⟨cell, found, { bound with }⟩ }
      rw [ok.outcome ended] at stood
      cases stood

theorem answer (handed : HandedOn flight flight') :
    flight'.fetch = flight.fetch ∧ flight'.answer = flight.answer := by
  cases handed <;> exact ⟨rfl, rfl⟩

end HandedOn

section

variable {flights : Nat → Option (Flight T P)} {queue inflight : List (PendingFetch T P)}

omit [DecidableEq T] in
theorem Advance.handOn (handed : Related (fun _ => HandedOn) s.flights flights) :
    Advance s { s with flights, queue, watch := { s.watch with inflight } } :=
  .of_related le_rfl le_rfl le_rfl le_rfl (.refl fun id cell _ => .refl id cell)
    (handed.mono fun _ _ _ _ _ step => step.flightStep) fun _ held _ => held

/-- What is left to show of such a step is where the refreshes are. -/
theorem Gate.Invariant.handOn (ok : s.Invariant config)
    (handed : Related (fun _ => HandedOn) s.flights flights)
    (queueOk : QueueOk s.cells flights queue { s.watch with inflight }) :
    Gate.Invariant config { s with flights, queue, watch := { s.watch with inflight } } := by
  have advance : Advance s { s with flights, queue, watch := { s.watch with inflight } } := .handOn handed
  refine { ok with
    freshGeneration := fun generation fresh => handed.eq_none_iff.mpr (ok.freshGeneration generation fresh)
    cells := fun id cell found => (ok.cells id cell found).mono advance.toExtends
    flights := fun generation flight' flown' => ?_
    slots := .transfer ok.slots (.refl fun _ _ _ => ⟨rfl, rfl, rfl⟩)
      (handed.mono fun _ _ _ _ _ step => step.reslotted)
    map := ok.map.transfer advance rfl fun id cell found => ?_
    session := { ok.session with }
    copies := { ok.copies with }
    queue := queueOk
    agreement := fun streaming honest => ?_ }
  · obtain ⟨flight, flown, step⟩ := handed.backward flown'
    exact step.flightOk (ok.flights generation flight flown)
  · change s.cells id = some cell at found
    rw [found]
    rfl
  · have agreement := ok.agreement streaming (advance.toExtends.honest honest)
    exact agreement.transfer (.of_related (handed.mono fun _ _ _ _ _ step => step.answer))
      agreement.emitted fun id cell found held quiet => .inl ⟨cell, found, held, rfl, rfl, quiet, rfl⟩

end

omit [DecidableEq T] in
theorem QueueOk.send {me : Nat} {flight : Flight T P}
    (ok : QueueOk s.cells s.flights s.queue s.watch)
    (flown : s.flights flight.fetch.generation = some flight)
    (validated : flight.stage = .validated me) :
    QueueOk s.cells (s.setStage flight.fetch.generation .queued).flights (s.queue ++ [flight.fetch])
      s.watch := by
  have only : ∀ flight', s.flights flight.fetch.generation = some flight' → flight' = flight :=
    fun flight' flown' => Option.some.inj (flown'.symm.trans flown)
  have apart : ∀ fetch ∈ s.queue ++ s.watch.inflight,
      fetch.generation ≠ flight.fetch.generation := by
    intro fetch member same
    rcases List.mem_append.mp member with waits | flies
    · obtain ⟨flight', flown', _, queued⟩ := ok.queued fetch waits
      rw [same] at flown'
      rw [only flight' flown', validated] at queued
      cases queued
    · obtain ⟨flight', flown', _, _, airborne⟩ := ok.inflight fetch flies
      rw [same] at flown'
      rw [only flight' flown', validated] at airborne
      rcases airborne with airborne | finished
      · cases airborne
      · cases finished
  set flights := (s.setStage flight.fetch.generation .queued).flights
  have others : ∀ generation, generation ≠ flight.fetch.generation →
      flights generation = s.flights generation := fun generation different =>
    Function.update_of_ne different _ _
  have sent : flights flight.fetch.generation = some { flight with stage := .queued } := by
    change Function.update s.flights _ _ _ = _
    rw [Function.update_self, flown]
    rfl
  refine ⟨fun fetch member => ?_, fun fetch member => ?_, ?_,
    fun generation flight' flown' queued => ?_,
    fun generation flight' flown' refresh unaborted airborne => ?_⟩
  · rcases List.mem_append.mp member with old | new
    · obtain ⟨flight', flown', same, queued⟩ := ok.queued fetch old
      rw [others _ (apart fetch (List.mem_append_left _ old))]
      exact ⟨flight', flown', same, queued⟩
    · rw [List.mem_singleton.mp new]
      exact ⟨_, sent, rfl, rfl⟩
  · rw [others _ (apart fetch (List.mem_append_right _ member))]
    exact ok.inflight fetch member
  · refine List.Perm.pairwise (l := flight.fetch :: (s.queue ++ s.watch.inflight)) ?_
      (List.pairwise_cons.mpr ⟨fun fetch member => (apart fetch member).symm, ok.distinct⟩)
      fun different => Ne.symm different
    rw [List.append_assoc]
    exact List.perm_middle.symm
  · by_cases same : generation = flight.fetch.generation
    · subst same
      obtain rfl : flight' = { flight with stage := .queued } :=
        Option.some.inj (flown'.symm.trans sent)
      exact .inl (List.mem_append_right _ (List.mem_singleton.mpr rfl))
    · rw [others generation same] at flown'
      exact (ok.waiting generation flight' flown' queued).imp_left (List.mem_append_left _)
  · by_cases same : generation = flight.fetch.generation
    · subst same
      obtain rfl : flight' = { flight with stage := .queued } :=
        Option.some.inj (flown'.symm.trans sent)
      cases airborne
    · rw [others generation same] at flown'
      exact ok.flying generation flight' flown' refresh unaborted airborne

theorem OwnStep.sendRefresh {me : Nat} {flight : Flight T P} (ok : s.Invariant config)
    (flown : s.flights flight.fetch.generation = some flight)
    (validated : flight.stage = .validated me) :
    OwnStep config me s
      { s.setStage flight.fetch.generation .queued with queue := s.queue ++ [flight.fetch] } := by
  set after : Gate T P :=
    { s.setStage flight.fetch.generation .queued with queue := s.queue ++ [flight.fetch] }
  have only : ∀ flight', s.flights flight.fetch.generation = some flight' → flight' = flight :=
    fun flight' flown' => Option.some.inj (flown'.symm.trans flown)
  have handed : Related (fun _ => HandedOn) s.flights after.flights :=
    .update _ (fun _ _ _ _ => .stays) fun flight' flown' => .queued (only flight' flown' ▸ validated)
  have own : ∀ other, other ≠ me → Related (KeepsOwn other) s.flights after.flights := by
    refine fun other different => .update _ (fun _ _ _ _ => .inl rfl) fun flight' flown' => ?_
    rw [only flight' flown']
    exact .inr ⟨by rw [validated]; exact owner_ne different, nofun⟩
  have advance : Advance s after := .handOn handed
  refine ⟨ok.handOn handed (ok.queue.send flown validated), advance, fun other different => ?_⟩
  exact
    { toAdvance := advance, owned := stageOf_iff_of_related (own other different)
      watch := fun _ => ⟨rfl, rfl⟩
      turn := fun held => ⟨held, .of_cells_eq rfl⟩
      copies := fun _ member _ => member
      publish := fun held => ⟨held, rfl, rfl, fun connected => connected⟩
      subjects := fun _ => ⟨rfl, fun _ stale => stale⟩ }

section

omit [DecidableEq T]

theorem fly_flights (batch : List (PendingFetch T P)) (s : Gate T P) (generation : Nat) :
    (fly s batch).flights generation =
      if batch.any fun fetch => fetch.generation = generation then
        (s.flights generation).map fun flight => { flight with stage := .flying }
      else s.flights generation := by
  induction batch generalizing s with
  | nil => rfl
  | cons first rest ih =>
      change (fly (s.setStage first.generation .flying) rest).flights generation = _
      rw [ih, List.any_cons]
      by_cases same : first.generation = generation
      · subst same
        simp only [Gate.setStage, Gate.updateFlight_flights, Function.update_self, decide_true,
          Bool.true_or, ↓reduceIte, Option.map_map]
        split <;> rfl
      · simp only [Gate.setStage, Gate.updateFlight_flights, Function.update_of_ne (Ne.symm same), same,
          decide_false, Bool.false_or]

theorem fly_eq (batch : List (PendingFetch T P)) (s : Gate T P) :
    fly s batch = { s with flights := (fly s batch).flights } := by
  induction batch generalizing s with
  | nil => rfl
  | cons first rest ih => exact ih (s.setStage first.generation .flying)

end

/-- What becomes of one lookup where `batch` is received. -/
def Received (batch : List (PendingFetch T P)) (generation : Nat) (flight flight' : Flight T P) : Prop :=
  flight' = flight ∧ (∀ fetch ∈ batch, fetch.generation ≠ generation) ∨
    flight' = { flight with stage := .flying } ∧ ∃ fetch ∈ batch, fetch.generation = generation

omit [DecidableEq T] in
theorem receiveBatch_flights (rt : Runtime) (s : Gate T P) :
    Related (Received (s.queue.take rt.config.refreshQueueCapacity)) s.flights
      (receiveBatch rt s).flights := by
  intro generation
  change Option.Rel _ _ ((fly s _).flights generation)
  rw [fly_flights]
  split
  · rename_i received
    have received := List.any_eq_true.mp received
    cases flown : s.flights generation with
    | none => exact .none
    | some flight => exact .some (.inr ⟨rfl, by simpa using received⟩)
  · rename_i left
    cases flown : s.flights generation with
    | none => exact .none
    | some flight => exact .some (.inl ⟨rfl, by simpa using left⟩)

section

variable {batch left : List (PendingFetch T P)} {flights : Nat → Option (Flight T P)}

omit [DecidableEq T] in
theorem QueueOk.mem_batch (ok : QueueOk s.cells s.flights s.queue s.watch) (parts : batch ++ left = s.queue)
    {generation : Nat} {flight : Flight T P} (flown : s.flights generation = some flight)
    (here : ∃ fetch ∈ batch, fetch.generation = generation) :
    flight.stage = .queued ∧ flight.fetch ∈ batch := by
  obtain ⟨fetch, member, rfl⟩ := here
  obtain ⟨flight', flown', same, queued⟩ := ok.queued fetch (parts ▸ List.mem_append_left _ member)
  obtain rfl : flight = flight' := Option.some.inj (flown.symm.trans flown')
  exact ⟨queued, same ▸ member⟩

theorem Gate.Invariant.queueOk_received (ok : s.Invariant config) (parts : batch ++ left = s.queue)
    (related : Related (Received batch) s.flights flights) :
    QueueOk s.cells flights left { s.watch with inflight := s.watch.inflight ++ batch } := by
  have distinct := ok.queue.distinct
  rw [← parts] at distinct
  refine ⟨fun fetch member => ?_, fun fetch member => ?_, ?_,
    fun generation flight' flown' queued => ?_,
    fun generation flight' flown' refresh unaborted airborne => ?_⟩
  · obtain ⟨flight, flown, same, queued⟩ :=
      ok.queue.queued fetch (parts ▸ List.mem_append_right _ member)
    obtain ⟨flight', flown', step⟩ := related.forward flown
    rcases step with ⟨rfl, _⟩ | ⟨_, other, here, same_generation⟩
    · exact ⟨flight', flown', same, queued⟩
    · rw [List.append_assoc, List.pairwise_append] at distinct
      exact absurd same_generation
        (distinct.2.2 other here fetch (List.mem_append_left _ member))
  · rcases List.mem_append.mp member with old | new
    · obtain ⟨flight, flown, same, refresh, airborne⟩ := ok.queue.inflight fetch old
      obtain ⟨flight', flown', ⟨rfl, _⟩ | ⟨rfl, _⟩⟩ := related.forward flown
      · exact ⟨flight', flown', same, refresh, airborne⟩
      · exact ⟨_, flown', same, refresh, .inl rfl⟩
    · obtain ⟨flight, flown, same, queued⟩ :=
        ok.queue.queued fetch (parts ▸ List.mem_append_left _ new)
      have refresh := (ok.flights _ flight flown).enqueued (by rw [queued]; rfl)
      obtain ⟨flight', flown', ⟨_, left_alone⟩ | ⟨rfl, _⟩⟩ := related.forward flown
      · exact absurd rfl (left_alone fetch new)
      · exact ⟨_, flown', same, refresh, .inl rfl⟩
  · refine List.Perm.pairwise ?_ distinct fun different => Ne.symm different
    rw [List.append_assoc]
    refine (List.perm_append_comm.trans ?_)
    rw [List.append_assoc]
  · obtain ⟨flight, flown, ⟨rfl, left_alone⟩ | ⟨rfl, _⟩⟩ := related.backward flown'
    · refine (ok.queue.waiting generation flight' flown queued).imp_left fun member => ?_
      rw [← parts, List.mem_append] at member
      exact member.resolve_left fun here =>
        left_alone _ here (ok.flights generation flight' flown).identity
    · cases queued
  · obtain ⟨flight, flown, ⟨rfl, _⟩ | ⟨rfl, here⟩⟩ := related.backward flown'
    · exact (ok.queue.flying generation flight' flown refresh unaborted airborne).imp_left
        (List.mem_append_left _)
    · exact .inl (List.mem_append_right _ (ok.queue.mem_batch parts flown here).2)

end

/-- The connected watcher takes a batch of refreshes from the queue into its in-flight set. -/
theorem WatcherStep.receiveBatch {rt : Runtime} (ok : s.Invariant config) :
    WatcherStep config s (PolicyGate.receiveBatch rt s) := by
  set batch := s.queue.take rt.config.refreshQueueCapacity
  set left := s.queue.drop rt.config.refreshQueueCapacity
  set watch : Watch T P := { s.watch with inflight := s.watch.inflight ++ batch }
  have shape : PolicyGate.receiveBatch rt s =
      { s with flights := (PolicyGate.receiveBatch rt s).flights, queue := left, watch } :=
    congrArg (fun flown : Gate T P => { flown with queue := left, watch }) (fly_eq batch s)
  have related := receiveBatch_flights rt s
  generalize (PolicyGate.receiveBatch rt s).flights = flights at shape related
  rw [shape]
  have parts : batch ++ left = s.queue := List.take_append_drop _ _
  have handed : Related (fun _ => HandedOn) s.flights flights := by
    refine related.mono fun generation flight flight' flown _ step => ?_
    rcases step with ⟨rfl, _⟩ | ⟨rfl, here⟩
    · exact .stays
    · exact .flying (ok.queue.mem_batch parts flown here).1
  have stages : ∀ other generation stage, stage.owner = some other →
      (s.stageOf generation = some stage ↔
        Gate.stageOf { s with flights, queue := left, watch } generation = some stage) := by
    intro other
    refine fun generation stage owned => stageOf_iff_of_related
      (related.mono fun generation flight flight' flown _ step => ?_) generation stage owned
    rcases step with ⟨rfl, _⟩ | ⟨rfl, here⟩
    · exact .inl rfl
    · rw [KeepsOwn, (ok.queue.mem_batch parts flown here).1]
      exact .inr ⟨nofun, nofun⟩
  have advance : Advance s { s with flights, queue := left, watch } := .handOn handed
  refine ⟨ok.handOn handed (ok.queueOk_received parts related), advance, stages 0,
    fun other different => ?_⟩
  exact
    { toAdvance := advance, owned := stages other, watch := fun zero => absurd zero different
      turn := fun held => ⟨held, .of_cells_eq rfl⟩
      copies := fun _ member _ => member
      publish := fun held => ⟨held, rfl, rfl, fun connected => connected⟩
      subjects := fun _ => ⟨rfl, fun _ stale => stale⟩ }

end PolicyGate
