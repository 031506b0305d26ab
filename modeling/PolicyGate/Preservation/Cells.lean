import PolicyGate.Preservation.Transfer

namespace PolicyGate

open Data

variable {T P : Type} {config : PolicyGateConfig}

theorem SnapshotArc.CapturedFrom.value_eq {entry : Entry T} {log : EntryLog T P}
    {arc : SnapshotArc P} (captured : arc.CapturedFrom config entry log)
    (address : EntryLog.touches log = arc.address) :
    arc.value = EntryLog.current config entry log := by
  obtain ⟨earlier, ⟨later, rfl⟩, address', value⟩ := captured
  rw [EntryLog.touches_append] at address
  rw [value, EntryLog.current_append_of_untouched (by omega)]

theorem EntryCell.Sound.captured {cell : EntryCell T P} (sound : cell.Sound config) :
    cell.current.CapturedFrom config cell.entry cell.log :=
  ⟨cell.log, List.suffix_rfl, sound.address.symm, sound.value⟩

theorem CellOk.word_lt {clock reached id : Nat} {flights : Nat → Option (Flight T P)}
    {cell : EntryCell T P} (ok : CellOk config clock flights reached id cell) :
    cell.current.value.word < 2 ^ 64 := by
  rw [ok.value]
  exact EntryLog.current_word_lt cell.log

section

variable {clock reached id : Nat} {flights : Nat → Option (Flight T P)} {cell : EntryCell T P}
  {event : EntryEvent T P}

theorem CellOk.note (ok : CellOk config clock flights reached id cell)
    (quiet : event.touches = false)
    (accounted : EntryLog.EventAccounted config cell.entry cell.log event)
    (sourced : EventSourced flights cell.entry cell.session event) :
    CellOk config clock flights reached id { cell with log := event :: cell.log } where
  address := by
    rw [EntryLog.touches_cons, quiet]
    exact ok.address
  value := by
    rw [EntryLog.current_cons_of_not_touches quiet]
    exact ok.value
  accounted := ⟨accounted, ok.accounted⟩
  identity := ok.identity
  epoch := ok.epoch
  window := ok.window
  due := ok.due
  sourced earlier member := by
    rcases List.mem_cons.mp member with rfl | old
    · exact sourced
    · exact ok.sourced earlier old
  permitted := ok.permitted

theorem CellOk.replace {next : EntrySnapshot P} (ok : CellOk config clock flights reached id cell)
    (loud : event.touches = true)
    (value : next = EntryLog.current config cell.entry (event :: cell.log))
    (accounted : EntryLog.EventAccounted config cell.entry cell.log event)
    (sourced : EventSourced flights cell.entry cell.session event)
    (permitted : next.state.Authoritative → Permitted reached cell.session) :
    CellOk config clock flights reached id (cell.replace next event) where
  address := by
    change cell.current.address + 1 = EntryLog.touches (event :: cell.log)
    rw [EntryLog.touches_cons, loud, ok.address]
    rfl
  value := value
  accounted := ⟨accounted, ok.accounted⟩
  identity := ok.identity
  epoch := ok.epoch
  window := ok.window
  due := ok.due
  sourced earlier member := by
    rcases List.mem_cons.mp member with rfl | old
    · exact sourced
    · exact ok.sourced earlier old
  permitted := permitted

theorem EntryCell.replace_grows (cell : EntryCell T P) (next : EntrySnapshot P)
    (event : EntryEvent T P) : cell.Grows (cell.replace next event) :=
  ⟨rfl, rfl, List.suffix_cons event cell.log⟩

theorem EntryCell.observe_eq (cell : EntryCell T P) (reader : Reader T) (thread now : Nat) :
    cell.observe reader thread now = cell ∨ cell.observe reader thread now =
      { cell with log := .observed reader thread now cell.current.value :: cell.log } := by
  unfold observe
  split
  · exact .inl rfl
  · exact .inr rfl

theorem EntryCell.observe_grows (cell : EntryCell T P) (reader : Reader T) (thread now : Nat) :
    cell.Grows (cell.observe reader thread now) := by
  rcases cell.observe_eq reader thread now with same | noted
  · rw [same]
    exact .refl cell
  · rw [noted]
    exact ⟨rfl, rfl, List.suffix_cons _ _⟩

theorem EntryCell.observe_slot (id : Nat) (cell : EntryCell T P) (reader : Reader T) (thread now : Nat) :
    SameSlot id cell (cell.observe reader thread now) := by
  rcases cell.observe_eq reader thread now with same | noted
  · rw [same]
    exact ⟨rfl, rfl, rfl⟩
  · rw [noted]
    exact ⟨rfl, rfl, rfl⟩

theorem EntryCell.observe_current (cell : EntryCell T P) (reader : Reader T) (thread now : Nat) :
    (cell.observe reader thread now).current = cell.current := by
  rcases cell.observe_eq reader thread now with same | noted
  · rw [same]
  · rw [noted]

theorem EntryCell.observe_refreshNotBefore (cell : EntryCell T P) (reader : Reader T) (thread now : Nat) :
    (cell.observe reader thread now).refreshNotBefore = cell.refreshNotBefore := by
  rcases cell.observe_eq reader thread now with same | noted
  · rw [same]
  · rw [noted]

theorem EntryCell.observe_paced (cell : EntryCell T P) (reader : Reader T) (thread now clock : Nat) :
    (cell.observe reader thread now).log = cell.log ∨ ∃ event,
      (cell.observe reader thread now).log = event :: cell.log ∧ event.Since clock := by
  rcases cell.observe_eq reader thread now with same | noted
  · exact .inl (congrArg EntryCell.log same)
  · exact .inr ⟨_, congrArg EntryCell.log noted, trivial⟩

theorem EntryEvent.since_of_touches {event : EntryEvent T P} (loud : event.touches = true)
    (clock : Nat) : event.Since clock := by
  cases event with
  | published | latched | invalidated | failed => trivial
  | observed | started | returned | cooled => cases loud

theorem CellOk.observe {reader : Reader T} {thread now : Nat}
    (ok : CellOk config clock flights reached id cell)
    (subject : ∀ subject, reader = .cached subject → subject = cell.entry.subject) :
    CellOk config clock flights reached id (cell.observe reader thread now) := by
  unfold EntryCell.observe
  split
  · exact ok
  · rename_i settled
    refine ok.note rfl ⟨ok.value, fun expired => ?_⟩ ?_
    · have latched : cell.current.value.word = staleWord cell.current.value.word := by
        by_contra unlatched
        exact settled (by simpa using ⟨expired, unlatched⟩)
      rw [EntrySnapshot.state, latched]
      exact decodeEntryState_staleWord ok.word_lt
    · cases reader with
      | cached key => exact subject key rfl
      | _ => trivial

end

section

variable {s : Gate T P} {id : Nat} {f : EntryCell T P → EntryCell T P}

theorem Advance.updateCell
    (steps : ∀ cell, s.cells id = some cell → CellStep s (s.updateCell id f) id cell (f cell)) :
    Advance s (s.updateCell id f) :=
  .of_related le_rfl le_rfl le_rfl le_rfl
    (.update id (fun i cell _ _ => .refl i cell) steps)
    (.refl fun generation flight _ => .refl generation flight) fun _ held _ => held

theorem Quiet.updateCell (s : Gate T P) (id : Nat) (f : EntryCell T P → EntryCell T P) :
    Quiet s (s.updateCell id f) :=
  ⟨rfl, rfl, rfl, rfl, rfl, rfl, rfl, rfl, ⟨_, rfl⟩, rfl, rfl, rfl⟩

theorem SameCooldowns.of_related {before after : Gate T P}
    (cells : Related (fun _ (cell cell' : EntryCell T P) =>
      cell'.refreshNotBefore = cell.refreshNotBefore) before.cells after.cells) :
    SameCooldowns before after := by
  intro id cell cell' found found'
  obtain ⟨cell'', found'', same⟩ := cells.forward found
  exact Option.some.inj (found'.symm.trans found'') ▸ same

theorem SameCooldowns.of_cells_eq {before after : Gate T P} (same : after.cells = before.cells) :
    SameCooldowns before after :=
  .of_related (same ▸ .refl fun _ _ _ => rfl)

theorem SameCooldowns.updateCell
    (same : ∀ cell, s.cells id = some cell → (f cell).refreshNotBefore = cell.refreshNotBefore) :
    SameCooldowns s (s.updateCell id f) :=
  .of_related (.update id (fun _ _ _ _ => rfl) same)

theorem restaged_refl (s : Gate T P) : Related (Restaged s) s.flights s.flights :=
  .refl fun generation flight _ => .refl generation flight

theorem keepsOwn_refl (me : Nat) (s : Gate T P) : Related (KeepsOwn me) s.flights s.flights :=
  .refl fun _ _ _ => .inl rfl

theorem sameSlot_refl (s : Gate T P) : Related SameSlot s.cells s.cells :=
  .refl fun _ _ _ => ⟨rfl, rfl, rfl⟩

theorem stale_updateCell (stale : ∀ cell, s.cells id = some cell → cell.state = .stale →
    (f cell).state = .stale) (i : Nat) (held : s.Stale i) : (s.updateCell id f).Stale i := by
  obtain ⟨cell, found, isStale⟩ := held
  have related : Related (fun _ cell cell' => cell.state = .stale → cell'.state = .stale) s.cells
      (s.updateCell id f).cells :=
    .update id (fun _ _ _ _ stale => stale) stale
  obtain ⟨cell', found', keeps⟩ := related.forward found
  exact ⟨cell', found', keeps isStale⟩

variable [DecidableEq T]

theorem Gate.Invariant.updateCell (ok : s.Invariant config)
    (slot : ∀ cell, s.cells id = some cell → SameSlot id cell (f cell))
    (steps : ∀ cell, s.cells id = some cell → CellStep s (s.updateCell id f) id cell (f cell))
    (cellOk : ∀ cell, s.cells id = some cell →
      CellOk config s.clock s.flights s.watch.reached id (f cell))
    (agreement : s.stream.isSome = true → s.Honest → s.Agreement →
      (s.updateCell id f).Agreement) :
    (s.updateCell id f).Invariant config := by
  have advance := Advance.updateCell steps
  have slots : Related SameSlot s.cells (s.updateCell id f).cells :=
    .update id (fun _ _ _ _ => ⟨rfl, rfl, rfl⟩) slot
  refine ok.quiet_of_slots (.updateCell s id f) advance slots (restaged_refl s) ?_
    (fun _ _ flown => .inl flown) agreement
  intro i cell' found'
  by_cases same : i = id
  · subst same
    simp only [Gate.updateCell_cells, Function.update_self, Option.map_eq_some_iff] at found'
    obtain ⟨cell, found, rfl⟩ := found'
    exact .inr (cellOk cell found)
  · rw [Gate.updateCell_cells, Function.update_of_ne same] at found'
    exact .inl found'

theorem NeutralStep.updateCell (ok : s.Invariant config)
    (slot : ∀ cell, s.cells id = some cell → SameSlot id cell (f cell))
    (steps : ∀ cell, s.cells id = some cell → CellStep s (s.updateCell id f) id cell (f cell))
    (stale : ∀ cell, s.cells id = some cell → cell.state = .stale → (f cell).state = .stale)
    (cooldown : ∀ cell, s.cells id = some cell →
      (f cell).refreshNotBefore = cell.refreshNotBefore)
    (cellOk : ∀ cell, s.cells id = some cell →
      CellOk config s.clock s.flights s.watch.reached id (f cell))
    (agreement : s.stream.isSome = true → s.Honest → s.Agreement →
      (s.updateCell id f).Agreement) :
    NeutralStep config s (s.updateCell id f) :=
  ⟨ok.updateCell slot steps cellOk agreement, fun me =>
    (Quiet.updateCell s id f).rely (.updateCell steps) (keepsOwn_refl me s) (.updateCell cooldown)
      (fun _ => rfl) fun _ => stale_updateCell stale⟩

theorem NeutralStep.refl (ok : s.Invariant config) : NeutralStep config s s := by
  have advance : Advance s s := .of_related le_rfl le_rfl le_rfl le_rfl
    (.refl fun i cell _ => .refl i cell) (.refl fun i flight _ => .refl i flight)
    fun _ held _ => held
  have quiet : Quiet s s := ⟨rfl, rfl, rfl, rfl, rfl, rfl, rfl, rfl, ⟨_, rfl⟩, rfl, rfl, rfl⟩
  exact ⟨ok, fun me => quiet.rely advance (keepsOwn_refl me s) (.of_cells_eq rfl) (fun _ => rfl)
    fun _ _ stale => stale⟩

theorem Gate.Agreement.updateCell (agreement : s.Agreement)
    (entry : ∀ cell, s.cells id = some cell → (f cell).entry = cell.entry)
    (agrees : ∀ cell, s.cells id = some cell → (f cell).current = cell.current ∨
      (s.subjects.Holds id → s.due cell.entry.subject = [] → (s.updateCell id f).Agrees id (f cell))) :
    (s.updateCell id f).Agreement := by
  refine agreement.transfer (.of_related (.refl fun _ _ _ => ⟨rfl, rfl⟩)) agreement.emitted ?_
  intro i cell' found' held quiet
  by_cases same : i = id
  · subst same
    simp only [Gate.updateCell_cells, Function.update_self, Option.map_eq_some_iff] at found'
    obtain ⟨cell, found, rfl⟩ := found'
    rw [entry cell found] at quiet
    rcases agrees cell found with current | agrees
    · exact .inl ⟨cell, found, held, entry cell found, current, quiet, rfl⟩
    · exact .inr (agrees held quiet)
  · rw [Gate.updateCell_cells, Function.update_of_ne same] at found'
    exact .inl ⟨cell', found', held, rfl, rfl, quiet, rfl⟩

/-- No answer applies to a settled snapshot that has replaced the entry's. -/
theorem Gate.Invariant.unanswered_replace {event : EntryEvent T P} {next : EntrySnapshot P}
    {cell : EntryCell T P} (ok : s.Invariant config) (found : s.cells id = some cell)
    (settled : next.state ≠ .pending) {generation : Nat} {flight : Flight T P}
    (flown : s.flights generation = some flight) (home : flight.fetch.entry.id = id) :
    ¬ flight.Applicable (cell.replace next event) := by
  subst home
  exact ok.not_applicable flown found settled (Nat.lt_succ_self cell.current.address)

theorem Gate.Invariant.agrees_replace {event : EntryEvent T P} {next : EntrySnapshot P}
    {cell : EntryCell T P} (ok : s.Invariant config) (found : s.cells id = some cell)
    (settled : next.state ≠ .pending)
    (decided : ∀ decision, next.state = .ofDecision decision →
      s.authority cell.entry.subject = some decision) {cells : Nat → Option (EntryCell T P)} :
    Gate.Agrees { s with cells } id (cell.replace next event) where
  decided := decided
  answered _ _ _ flown home applicable :=
    absurd applicable (ok.unanswered_replace found settled flown home)

theorem NeutralStep.observe {entry : Entry T} {reader : Reader T} {thread now : Nat}
    (ok : s.Invariant config) (known : ∀ cell, s.cells entry.id = some cell → cell.entry = entry)
    (subject : ∀ subject, reader = .cached subject → subject = entry.subject) :
    NeutralStep config s (s.observe entry reader thread now) := by
  refine .updateCell ok (fun cell _ => cell.observe_slot entry.id reader thread now) (fun cell _ => ?_)
    (fun cell _ stale => ?_) (fun cell _ => cell.observe_refreshNotBefore reader thread now)
    (fun cell found => ?_) fun _ _ agreement => ?_
  · refine .of_slot_eq (cell.observe_grows reader thread now)
      (cell.observe_paced reader thread now s.clock) (fun stale => ?_)
      (cell.observe_slot entry.id reader thread now).2.2 (cell.observe_refreshNotBefore reader thread now)
    rw [EntryCell.state, cell.observe_current]
    exact stale
  · rw [EntryCell.state, cell.observe_current]
    exact stale
  · exact (ok.cells _ cell found).observe (known cell found ▸ subject)
  · exact agreement.updateCell (fun cell _ => (cell.observe_slot entry.id reader thread now).1)
      fun cell _ => .inl (cell.observe_current reader thread now)

theorem OwnStep.storeRefreshNotBefore {me generation now : Nat} {entry : Entry T}
    (ok : s.Invariant config) (turn : s.refreshing = some me)
    (polled : ∃ generation flight poller, s.flights generation = some flight ∧
      flight.fetch.entry.id = id ∧ flight.fetch.refreshFrom.isSome = true ∧
        flight.stage = .returned poller) :
    OwnStep config me s (s.updateCell id (EntryCell.cool config entry generation now)) := by
  have steps : ∀ cell, s.cells id = some cell →
      CellStep s (s.updateCell id (EntryCell.cool config entry generation now)) id cell
        (cell.cool config entry generation now) := fun cell _ =>
    ⟨⟨rfl, rfl, List.suffix_cons _ _⟩, .inr ⟨_, rfl, trivial⟩, .inl, fun _ => .inl, fun _ => polled⟩
  refine ⟨ok.updateCell (fun cell _ => ⟨rfl, rfl, rfl⟩) steps (fun cell found => ?_)
    fun _ _ agreement => ?_, .updateCell steps, fun other different => ?_⟩
  · have cellOk := ok.cells _ cell found
    have noted : CellOk config s.clock s.flights s.watch.reached _
        { cell with log := .cooled generation (cell.slots generation) now :: cell.log } :=
      cellOk.note rfl trivial trivial
    exact { noted with }
  · exact agreement.updateCell (fun _ _ => rfl) fun _ _ => .inl rfl
  · exact
      { toAdvance := .updateCell steps
        owned := stageOf_iff_of_related (keepsOwn_refl other s)
        watch := fun _ => ⟨rfl, rfl⟩
        copies := fun _ member _ => member
        turn := fun held => absurd (Option.some.inj (held.symm.trans turn)) different
        publish := fun held => ⟨held, rfl, rfl, fun connected => connected⟩
        subjects := fun _ => ⟨rfl, stale_updateCell fun _ _ stale => stale⟩ }

theorem NeutralStep.replaceStale {entry : Entry T} {cell : EntryCell T P} {next : EntrySnapshot P}
    {event : EntryEvent T P} (ok : s.Invariant config) (found : s.cells entry.id = some cell)
    (loud : event.touches = true) (noChange : event.isChange = false)
    (value : next = EntryLog.current config cell.entry (event :: cell.log))
    (stale : next.state = .stale)
    (accounted : EntryLog.EventAccounted config cell.entry cell.log event)
    (sourced : EventSourced s.flights cell.entry cell.session event) :
    NeutralStep config s (s.replaceCurrent entry next event) := by
  have only : ∀ cell', s.cells entry.id = some cell' → cell' = cell := fun cell' found' =>
    Option.some.inj (found'.symm.trans found)
  simp only [Gate.replaceCurrent, noChange, Bool.false_eq_true, ↓reduceIte]
  refine .updateCell ok (fun cell _ => ⟨rfl, rfl, rfl⟩) (fun cell _ => ?_) (fun cell _ _ => stale)
    (fun _ _ => rfl) (fun cell' found' => ?_) fun _ _ agreement => ?_
  · exact .of_slot_eq (cell.replace_grows next event)
      (.inr ⟨event, rfl, EntryEvent.since_of_touches loud s.clock⟩) (fun _ => stale) rfl rfl
  · rw [only cell' found']
    refine (ok.cells _ cell found).replace loud value accounted sourced fun authoritative => ?_
    rw [stale] at authoritative
    exact absurd authoritative (by simp)
  · refine agreement.updateCell (fun _ _ => rfl) fun cell' found' => .inr fun _ _ => ?_
    refine ok.agrees_replace found' (by rw [stale]; decide) fun decision decided => ?_
    rw [stale] at decided
    cases decision <;> cases decided

end

end PolicyGate
