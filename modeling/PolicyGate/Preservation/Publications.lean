import PolicyGate.Preservation.Cells

namespace PolicyGate

open Data

variable {T P : Type} {config : PolicyGateConfig} {s : Gate T P}

/-! The three writers of a decision: a cold lookup, a refresh, and a change of the watch stream. -/

theorem MapOk.holds_unique {cells : Nat → Option (EntryCell T P)}
    {flights : Nat → Option (Flight T P)} {map : SubjectMap T} {era : Option Nat}
    (ok : MapOk cells flights map era) {left right : Nat} {leftCell rightCell : EntryCell T P}
    (holdsLeft : map.Holds left) (holdsRight : map.Holds right)
    (foundLeft : cells left = some leftCell) (foundRight : cells right = some rightCell)
    (same : leftCell.entry.subject = rightCell.entry.subject) : left = right := by
  obtain ⟨⟨leftKey, leftSlot⟩, leftMember, rfl⟩ := holdsLeft
  obtain ⟨⟨rightKey, rightSlot⟩, rightMember, rfl⟩ := holdsRight
  obtain ⟨cell, found, _, leftSubject, _⟩ := ok.slots _ leftMember
  obtain ⟨cell', found', _, rightSubject, _⟩ := ok.slots _ rightMember
  obtain rfl : leftCell = cell := Option.some.inj (foundLeft.symm.trans found)
  obtain rfl : rightCell = cell' := Option.some.inj (foundRight.symm.trans found')
  obtain rfl : leftKey = rightKey := leftSubject.trans (same.trans rightSubject.symm)
  rw [map.cache.value_unique leftMember rightMember]

theorem MapOk.session_of_holds {cells : Nat → Option (EntryCell T P)}
    {flights : Nat → Option (Flight T P)} {map : SubjectMap T} {era : Option Nat}
    (ok : MapOk cells flights map era) {id : Nat} {cell : EntryCell T P} (holds : map.Holds id)
    (found : cells id = some cell) : cell.session = era := by
  obtain ⟨slot, member, rfl⟩ := holds
  obtain ⟨cell', found', _, _, session⟩ := ok.slots slot member
  obtain rfl : cell = cell' := Option.some.inj (found.symm.trans found')
  exact session

variable [DecidableEq T]

/-- A lookup whose result applies was made against the snapshot in place. -/
theorem Gate.Invariant.touches_eq (ok : s.Invariant config) {flight : Flight T P}
    {cell : EntryCell T P} (found : s.cells flight.fetch.entry.id = some cell) (applicable : flight.Applicable cell) :
    EntryLog.touches cell.log = flight.fetch.basis := by
  have sound := (ok.cells _ cell found).toSound
  unfold Flight.Applicable at applicable
  unfold PendingFetch.basis
  cases from_arc : flight.fetch.refreshFrom with
  | none =>
      rw [from_arc] at applicable
      rw [EntryCell.state, sound.value] at applicable
      exact EntryLog.current_pending_iff.mp applicable
  | some arc =>
      rw [from_arc] at applicable
      exact sound.address.symm.trans applicable

theorem Gate.Invariant.startedSince (ok : s.Invariant config) {generation : Nat}
    {flight : Flight T P} {cell : EntryCell T P} (flown : s.flights generation = some flight)
    (found : s.cells flight.fetch.entry.id = some cell) (applicable : flight.Applicable cell)
    (begun : flight.begun.isSome = true) : EntryLog.StartedSince generation cell.log := by
  have touches := ok.touches_eq found applicable
  obtain ⟨cell', found', bound⟩ := (ok.flights generation flight flown).bound
  obtain rfl : cell = cell' := Option.some.inj (found.symm.trans found')
  obtain ⟨earlier, refresh, held, now, ⟨later, split⟩, basis⟩ := bound.started begun
  refine ⟨later, earlier, refresh, held, now, split.symm, ?_⟩
  rw [← split, EntryLog.touches_append, EntryLog.touches_cons] at touches
  omega

theorem Gate.Invariant.value_of_applicable (ok : s.Invariant config) {generation : Nat}
    {flight : Flight T P} {cell : EntryCell T P} (flown : s.flights generation = some flight)
    (found : s.cells flight.fetch.entry.id = some cell) (applicable : flight.Applicable cell)
    {arc : SnapshotArc P} (refresh : flight.fetch.refreshFrom = some arc) :
    arc.value = EntryLog.current config cell.entry cell.log := by
  obtain ⟨cell', found', bound⟩ := (ok.flights generation flight flown).bound
  obtain rfl : cell = cell' := Option.some.inj (found.symm.trans found')
  unfold Flight.Applicable at applicable
  rw [refresh] at applicable
  exact (bound.captured arc refresh).1.value_eq
    ((ok.cells _ cell found).toSound.address.symm.trans applicable)

theorem Gate.Invariant.authoritative_of_applicable (ok : s.Invariant config) {generation : Nat}
    {flight : Flight T P} {cell : EntryCell T P} (flown : s.flights generation = some flight)
    (found : s.cells flight.fetch.entry.id = some cell) (applicable : flight.Applicable cell)
    (refresh : flight.fetch.refreshFrom.isSome = true) : cell.state.Authoritative := by
  obtain ⟨cell', found', bound⟩ := (ok.flights generation flight flown).bound
  obtain rfl : cell = cell' := Option.some.inj (found.symm.trans found')
  obtain ⟨arc, from_arc⟩ := Option.isSome_iff_exists.mp refresh
  rw [EntryCell.state, (ok.cells _ cell found).value,
    ← ok.value_of_applicable flown found applicable from_arc]
  exact (bound.captured arc from_arc).2

theorem Gate.Invariant.not_stale_of_applicable (ok : s.Invariant config) {generation : Nat}
    {flight : Flight T P} {cell : EntryCell T P} (flown : s.flights generation = some flight)
    (found : s.cells flight.fetch.entry.id = some cell) (applicable : flight.Applicable cell) :
    cell.state ≠ .stale := by
  intro stale
  cases from_arc : flight.fetch.refreshFrom with
  | none =>
      unfold Flight.Applicable at applicable
      rw [from_arc] at applicable
      exact absurd (applicable.symm.trans stale) (by decide)
  | some arc =>
      have authoritative := ok.authoritative_of_applicable flown found applicable
        (by rw [from_arc]; rfl)
      rw [stale] at authoritative
      exact absurd authoritative (by simp)

def PendingFetch.origin (fetch : PendingFetch T P) : Origin :=
  if fetch.refreshFrom.isSome then .refresh fetch.generation else .cold fetch.generation

/-- Publishing a lookup's result that still applies. -/
theorem NeutralStep.publishLookup {generation : Nat} {flight : Flight T P} {cell : EntryCell T P}
    {publication : Publication P} (ok : s.Invariant config)
    (flown : s.flights generation = some flight)
    (found : s.cells flight.fetch.entry.id = some cell) (applicable : flight.Applicable cell)
    (asked : flight.Asked) (answered : flight.answer = some (.result (some publication.result)))
    (origin : publication.origin = flight.fetch.origin)
    (due : flight.fetch.DueBy publication.now)
    (since : cell.entry.epoch ≤ publication.now) (ordered : publication.now ≤ publication.checkedAt)
    (unexpired : cell.entry.isExpiredAt
      (cell.entry.decisionSnapshot config publication.now publication.result).word
        publication.checkedAt = false) :
    NeutralStep config s (s.replaceCurrent flight.fetch.entry
      (flight.fetch.entry.decisionSnapshot config publication.now publication.result)
        (.published publication)) := by
  have flightOk := ok.flights generation flight flown
  obtain ⟨cell', found', bound⟩ := flightOk.bound
  obtain rfl : cell = cell' := Option.some.inj (found.symm.trans found')
  have only : ∀ cell', s.cells flight.fetch.entry.id = some cell' → cell' = cell :=
    fun cell' found' => Option.some.inj (found'.symm.trans found)
  have begun := flightOk.answered (by rw [answered]; rfl)
  have started := ok.startedSince flown found applicable begun
  have fresh := ok.not_stale_of_applicable flown found applicable
  have noChange : (EntryEvent.published publication : EntryEvent T P).isChange = false := by
    simp only [EntryEvent.isChange, origin, PendingFetch.origin]
    split <;> rfl
  have accounted : EntryLog.EventAccounted config cell.entry cell.log (.published publication) ∧
      EventSourced s.flights cell.entry cell.session (.published publication) := by
    simp only [EntryLog.EventAccounted, EventSourced, Publication.Sourced, origin,
      PendingFetch.origin, flightOk.identity]
    cases kind : flight.fetch.refreshFrom.isSome with
    | false =>
        have pending : cell.state = .pending := by
          unfold Flight.Applicable at applicable
          rwa [Option.isSome_eq_false_iff.mp kind |> Option.isNone_iff_eq_none.mp] at applicable
        simp only [Bool.false_eq_true, ↓reduceIte]
        refine ⟨⟨since, ?_, ordered, unexpired, started⟩, flight, flown, bound.entry.symm, ?_, kind,
          answered⟩
        · rw [← (ok.cells _ cell found).value]
          exact pending
        · rw [bound.entry]
          exact flightOk.subject
    | true =>
        obtain ⟨arc, from_arc⟩ := Option.isSome_iff_exists.mp kind
        have dueArc := due arc from_arc
        simp only [↓reduceIte]
        refine ⟨⟨since, ?_, ordered, unexpired, started⟩, flight, flown, bound.entry.symm, ?_, kind,
          answered⟩
        · rw [ok.value_of_applicable flown found applicable from_arc, ← bound.entry] at dueArc
          exact dueArc
        · rw [bound.entry]
          exact flightOk.subject
  simp only [Gate.replaceCurrent, noChange, Bool.false_eq_true, ↓reduceIte]
  refine .updateCell ok (fun cell _ => ⟨rfl, rfl, rfl⟩) (fun cell' found' => ?_)
    (fun cell' found' stale => absurd (only cell' found' ▸ stale) fresh) (fun _ _ => rfl)
    (fun cell' found' => ?_) fun _ _ agreement => ?_
  · exact .of_slot_eq (cell'.replace_grows _ _) (.inr ⟨_, rfl, trivial⟩)
      (fun stale => absurd (only cell' found' ▸ stale) fresh) rfl rfl
  · rw [only cell' found']
    refine (ok.cells _ cell found).replace rfl ?_ accounted.1 accounted.2 fun _ =>
      bound.permitted asked
    rw [← bound.entry]
    rfl
  · refine agreement.updateCell (fun _ _ => rfl) fun cell' found' => .inr fun held quiet => ?_
    have agrees := agreement.entries _ cell' found' held quiet
    refine ok.agrees_replace found' ?_ fun decision decided => ?_
    · rw [Entry.decisionSnapshot_state]
      cases publication.result.decision <;> decide
    · have same : publication.result.decision = decision := by
        rw [Entry.decisionSnapshot_state] at decided
        cases published : publication.result.decision <;> cases decision <;>
          simp_all [EntryState.ofDecision]
      rw [agrees.answered generation flight _ flown rfl (only cell' found' ▸ applicable) answered,
        Option.map_some, same]

section

variable (after : Gate T P) {change : DecisionChange T}

theorem Gate.due_of_applied (applying : s.watch.applying = some change)
    (applied : after.watch.applying = none) (stream : after.stream = s.stream) (subject : T) :
    s.due subject =
      if change.subject = subject then change :: after.due subject else after.due subject := by
  unfold Gate.due Gate.changes
  rw [applying, applied, stream]
  simp only [Option.toList_some, Option.toList_none, List.nil_append, List.cons_append,
    List.filter_cons, decide_eq_true_eq]

theorem Gate.Agreement.emitted_of_applied (agreement : s.Agreement)
    (applying : s.watch.applying = some change) (applied : after.watch.applying = none)
    (stream : after.stream = s.stream) (authority : after.authority = s.authority) :
    ∀ subject last, (after.due subject).getLast? = some last →
      after.authority subject = last.decision := by
  intro subject last found
  rw [authority]
  apply agreement.emitted subject last
  rw [Gate.due_of_applied after applying applied stream]
  split
  · rw [List.getLast?_cons, found]
    rfl
  · exact found

theorem Gate.due_eq_nil_of_applied (applying : s.watch.applying = some change)
    (applied : after.watch.applying = none) (stream : after.stream = s.stream) {subject : T}
    (other : change.subject ≠ subject) (quiet : after.due subject = []) : s.due subject = [] := by
  rw [Gate.due_of_applied after applying applied stream, if_neg other]
  exact quiet

/-- With the last change for a subject applied, that change is the authority's decision. -/
theorem Gate.Agreement.authority_of_applied (agreement : s.Agreement)
    (applying : s.watch.applying = some change) (applied : after.watch.applying = none)
    (stream : after.stream = s.stream) (quiet : after.due change.subject = []) :
    s.authority change.subject = change.decision := by
  apply agreement.emitted change.subject change
  rw [Gate.due_of_applied after applying applied stream, if_pos rfl, quiet]
  rfl

end

/-- Publishing a watch change on the entry the map holds for its subject. -/
theorem WatcherStep.publishChange {entry : Entry T} {cell : EntryCell T P}
    {publication : Publication P} {change : DecisionChange T} (ok : s.Invariant config)
    (found : s.cells entry.id = some cell) (same : cell.entry = entry)
    (held : s.subjects.Holds entry.id) (locked : s.subjects.lock = some 0)
    (connected : s.watch.phase = .connected) (applying : s.watch.applying = some change)
    (subject : change.subject = entry.subject)
    (decision : change.decision = some publication.result.decision)
    (origin : publication.origin = .change) (since : entry.epoch ≤ publication.now)
    (bare : publication.result.payload = none ∧ publication.result.validUntil = none)
    (session : publication.session = s.watch.opened) :
    WatcherStep config s (s.replaceCurrent entry
      (entry.decisionSnapshot config publication.now publication.result)
        (.published publication)) := by
  subst same
  have isChange : (EntryEvent.published publication : EntryEvent T P).isChange = true := by
    simp only [EntryEvent.isChange, origin]
    rfl
  have current := ok.session.current (ok.session.connected connected)
  have home : cell.session = some s.watch.opened :=
    (ok.map.session_of_holds held found).trans current.1
  have only : ∀ cell', s.cells cell.entry.id = some cell' → cell' = cell := fun cell' found' =>
    Option.some.inj (found'.symm.trans found)
  simp only [Gate.replaceCurrent, isChange, ↓reduceIte]
  set next := cell.entry.decisionSnapshot config publication.now publication.result
  set f : EntryCell T P → EntryCell T P := fun cell => cell.replace next (.published publication)
  have cells : Related (CellStep s (s.updateCell cell.entry.id f).applied) s.cells
      (s.updateCell cell.entry.id f).applied.cells :=
    .update cell.entry.id (fun i cell _ _ => .refl i cell) fun cell' _ =>
      ⟨cell'.replace_grows _ _, .inr ⟨_, rfl, trivial⟩, fun _ => .inr held, fun _ => .inl,
        fun changed => absurd rfl changed⟩
  have advance : Advance s (s.updateCell cell.entry.id f).applied :=
    .of_related le_rfl le_rfl le_rfl le_rfl cells (.refl fun i flight _ => .refl i flight)
      fun _ held _ => held
  have quiet : Quiet s (s.updateCell cell.entry.id f).applied :=
    ⟨rfl, rfl, rfl, rfl, rfl, rfl, rfl, rfl, ⟨_, rfl⟩, rfl, rfl, rfl⟩
  have slots : Related SameSlot s.cells (s.updateCell cell.entry.id f).applied.cells :=
    .update cell.entry.id (fun _ _ _ _ => ⟨rfl, rfl, rfl⟩) fun _ _ => ⟨rfl, rfl, rfl⟩
  have settled : next.state ≠ .pending := by
    rw [Entry.decisionSnapshot_state]
    cases publication.result.decision <;> decide
  refine ⟨ok.quiet_of_slots quiet advance slots (restaged_refl s) ?_ (fun _ _ flown => .inl flown) ?_,
    advance, fun _ _ _ => .rfl, fun me other => ?_⟩
  · intro i cell' found'
    by_cases same : i = cell.entry.id
    · subst same
      change Function.update s.cells cell.entry.id ((s.cells cell.entry.id).map f) cell.entry.id = _
        at found'
      rw [Function.update_self, found, Option.map_some, Option.some.injEq] at found'
      subst found'
      refine .inr ((ok.cells _ cell found).replace rfl rfl ?_ ?_ fun _ => ?_)
      · simp only [EntryLog.EventAccounted, origin]
        exact ⟨since, bare⟩
      · simp only [EventSourced, Publication.Sourced, origin]
        rw [home, session]
      · exact ⟨s.watch.opened, home, current.2.ge⟩
    · change Function.update s.cells cell.entry.id ((s.cells cell.entry.id).map f) i = _ at found'
      rw [Function.update_of_ne same] at found'
      exact .inl found'
  · intro _ _ agreement
    refine agreement.transfer (.of_related (.refl fun _ _ _ => ⟨rfl, rfl⟩))
      (agreement.emitted_of_applied _ applying rfl rfl rfl) fun i cell' found' held' quiet' => ?_
    by_cases same : i = cell.entry.id
    · subst same
      change Function.update s.cells cell.entry.id ((s.cells cell.entry.id).map f) cell.entry.id = _
        at found'
      rw [Function.update_self, found, Option.map_some, Option.some.injEq] at found'
      subst found'
      have authority := agreement.authority_of_applied (s.updateCell cell.entry.id f).applied
        applying rfl rfl (subject ▸ quiet')
      refine .inr ⟨fun published decided => ?_, ?_⟩
      · change s.authority cell.entry.subject = some published
        rw [← subject, authority, decision]
        congr 1
        change next.state = _ at decided
        rw [Entry.decisionSnapshot_state] at decided
        cases asked : publication.result.decision <;> cases published <;>
          simp_all [EntryState.ofDecision]
      · exact fun generation flight result flown home applicable =>
          absurd applicable (ok.unanswered_replace found settled flown home)
    · change Function.update s.cells cell.entry.id ((s.cells cell.entry.id).map f) i = _ at found'
      rw [Function.update_of_ne same] at found'
      refine .inl ⟨cell', found', held', rfl, rfl, ?_, rfl⟩
      refine Gate.due_eq_nil_of_applied (s.updateCell cell.entry.id f).applied applying rfl rfl
        (fun concerned => same ?_) quiet'
      exact ok.map.holds_unique held' held found' found (concerned.symm.trans subject)
  · exact quiet.rely advance (keepsOwn_refl me s)
      (.of_related (.update cell.entry.id (fun _ _ _ _ => rfl) fun _ _ => rfl))
      (fun zero => absurd zero other) fun mine => absurd (Option.some.inj (locked.symm.trans mine)).symm other

end PolicyGate
