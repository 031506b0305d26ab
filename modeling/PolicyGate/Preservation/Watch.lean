import PolicyGate.Preservation.Periphery
import PolicyGate.Preservation.Allocation

namespace PolicyGate

open Data

variable {T P : Type} [DecidableEq T] {config : PolicyGateConfig} {s : Gate T P}

theorem Gate.Invariant.requeue (ok : s.Invariant config) {watch : Watch T P}
    (inflight : watch.inflight = s.watch.inflight)
    (orphaned : ∀ generation flight, s.flights generation = some flight →
      flight.fetch.refreshFrom.isSome = true → Orphaned s.cells s.watch flight.fetch →
      Orphaned s.cells watch flight.fetch) :
    QueueOk s.cells s.flights s.queue watch where
  queued := ok.queue.queued
  inflight fetch member := ok.queue.inflight fetch (inflight ▸ member)
  distinct := by
    rw [inflight]
    exact ok.queue.distinct
  waiting generation flight flown queued := by
    have refresh := (ok.flights generation flight flown).enqueued (by rw [queued]; rfl)
    exact (ok.queue.waiting generation flight flown queued).imp_right
      (orphaned generation flight flown refresh)
  flying generation flight flown refresh unaborted airborne := by
    rw [inflight]
    exact (ok.queue.flying generation flight flown refresh unaborted airborne).imp_right
      (orphaned generation flight flown refresh)

theorem WatcherStep.rewatch {watch : Watch T P} {stream : Option (List (StreamItem T))}
    (ok : s.Invariant config) (opened : s.watch.opened ≤ watch.opened)
    (reached : s.watch.reached ≤ watch.reached) (era : watch.era = s.watch.era)
    (session : SessionOk watch stream.isSome) (snapshot : watch.connected = false → s.snapshot = [])
    (copies : CopiesOk s.cells s.copies s.publish.generation watch s.snapshot)
    (queue : QueueOk s.cells s.flights s.queue watch)
    (connected : s.publish.lock ≠ some 0 → s.watch.connected = true → watch.connected = true)
    (agreement : stream.isSome = true → s.Honest → Gate.Agreement { s with watch, stream }) :
    WatcherStep config s { s with watch, stream } := by
  have core : SameCore s { s with watch, stream } := ⟨rfl, rfl, rfl, rfl, rfl⟩
  have advance := core.advance le_rfl opened reached le_rfl
  refine ⟨{ ok with
      cells := fun id cell found => (ok.cells id cell found).mono advance.toExtends
      flights := fun generation flight flown =>
        (ok.flights generation flight flown).mono advance.toExtends
      map := ?_, session := session, snapshot := ⟨ok.snapshot.known, snapshot⟩
      copies := copies, queue := queue,
      agreement := agreement }, advance, fun _ _ _ => .rfl, fun other different =>
    core.rely advance (fun held => ⟨held, rfl, rfl, connected ?_⟩) fun zero => absurd zero different⟩
  · rw [era]
    exact ok.map
  · rw [held]
    exact owner_ne (Ne.symm different)

theorem Gate.Agreement.rewatch {watch : Watch T P} (agreement : s.Agreement)
    (applying : watch.applying = s.watch.applying) : Gate.Agreement { s with watch } :=
  agreement.of_core ⟨rfl, rfl, rfl, rfl, rfl⟩ rfl rfl applying

theorem WatcherStep.bookkeeping {disconnectedSince : Option Nat} {closed : Bool}
    (ok : s.Invariant config) : WatcherStep config s
      { s with watch := { s.watch with disconnectedSince, closed } } :=
  .rewatch ok le_rfl le_rfl rfl { ok.session with } ok.snapshot.empty { ok.copies with }
    { ok.queue with }
    (fun _ connected => connected) fun streaming honest => (ok.agreement streaming honest).rewatch rfl

theorem WatcherStep.setDisconnecting (ok : s.Invariant config)
    (phase : s.watch.phase = .idle ∨ s.watch.phase = .ended) :
    WatcherStep config s (s.updateWatch fun watch => { watch with phase := .disconnecting }) := by
  have stopped : ¬ s.stream.isSome = true := by
    rw [ok.session.stream]
    rcases phase with phase | phase <;> simp [phase]
  exact .rewatch ok le_rfl le_rfl rfl
    { era := fun n era => ⟨(ok.session.era n era).1, nofun⟩, opened := nofun, connected := nofun,
      current := ok.session.current, reached := ok.session.reached, down := by simp,
      stream := by simp [stopped] }
    ok.snapshot.empty { ok.copies with } (ok.requeue rfl fun _ _ _ _ _ => nofun) (fun _ connected => connected)
    fun streaming _ => absurd streaming stopped

theorem WatcherStep.sendDisconnected (ok : s.Invariant config)
    (phase : s.watch.phase = .disconnecting) (locked : s.publish.lock = some 0)
    (empty : s.snapshot = []) : WatcherStep config s (sendConnected s false) := by
  have stopped : ¬ s.stream.isSome = true := by
    rw [ok.session.stream]
    simp [phase]
  exact .rewatch ok le_rfl le_rfl rfl
    { ok.session with connected := by simp [phase], current := nofun, down := fun _ => rfl }
    (fun _ => empty) ⟨ok.copies.bounded, nofun, nofun⟩ (ok.requeue rfl fun _ _ _ _ orphaned => orphaned)
    (fun unlocked => absurd locked unlocked) fun streaming _ => absurd streaming stopped

theorem WatcherStep.setIdle (ok : s.Invariant config) (phase : s.watch.phase = .disconnecting)
    (era : s.watch.era = none) (disconnected : s.watch.connected = false) :
    WatcherStep config s (s.updateWatch fun watch => { watch with phase := .idle }) := by
  have stopped : ¬ s.stream.isSome = true := by
    rw [ok.session.stream]
    simp [phase]
  exact .rewatch ok le_rfl le_rfl rfl
    { era := fun n same => (by rw [era] at same; cases same), opened := nofun, connected := nofun,
      current := ok.session.current, reached := ok.session.reached, down := fun _ => disconnected,
      stream := by simp [stopped] }
    ok.snapshot.empty { ok.copies with } (ok.requeue rfl fun _ _ _ _ _ => nofun) (fun _ connected => connected)
    fun streaming _ => absurd streaming stopped

theorem WatcherStep.openStream (ok : s.Invariant config) (phase : s.watch.phase = .idle)
    (applying : s.watch.applying = none) : WatcherStep config s
      { s with
        stream := some []
        watch := { s.watch with phase := .opened, opened := s.watch.opened + 1 } } := by
  have era : s.watch.era = none := by
    cases same : s.watch.era with
    | none => rfl
    | some n => exact absurd phase (ok.session.era n same).2
  have down := ok.session.down (.inl phase)
  have quiet : ∀ subject, Gate.due { s with
      stream := some []
      watch := { s.watch with phase := .opened, opened := s.watch.opened + 1 } } subject = [] := by
    intro subject
    simp [Gate.due, Gate.changes, applying]
  refine .rewatch ok (Nat.le_succ _) le_rfl rfl
    { era := fun n same => (by rw [era] at same; cases same)
      opened := fun _ => Nat.lt_succ_of_le ok.session.reached, connected := by simp,
      current := fun connected => absurd (down.symm.trans connected) (by decide)
      reached := ok.session.reached.trans (Nat.le_succ _), down := fun _ => down,
      stream := by simp }
    ok.snapshot.empty { ok.copies with }
    (ok.requeue rfl fun _ _ _ _ _ => (by intro impossible; cases impossible))
    (fun _ connected => connected)
    fun _ _ => ⟨fun subject change last => ?_, fun id cell found held _ => ?_⟩
  · rw [quiet] at last
    cases last
  · have home := (ok.map.session_of_holds held found).trans era
    refine ⟨fun decision decided => ?_, fun generation flight result flown at_home _ answered => ?_⟩
    · obtain ⟨n, same, _⟩ := (ok.cells id cell found).permitted (by rw [decided]; simp)
      rw [home] at same
      cases same
    · have flightOk := ok.flights generation flight flown
      obtain ⟨cell', found', bound⟩ := flightOk.bound
      rw [at_home] at found'
      obtain rfl : cell = cell' := Option.some.inj (found.symm.trans found')
      obtain ⟨opened, begun⟩ := Option.isSome_iff_exists.mp (flightOk.answered (by rw [answered]; rfl))
      obtain ⟨n, same, _⟩ := bound.begun opened begun
      rw [home] at same
      cases same

/-- `connected.send(true)`: from here on this session's entries may be looked up. -/
theorem WatcherStep.sendConnected (ok : s.Invariant config) (phase : s.watch.phase = .opened)
    (era : s.watch.era = some s.watch.opened) : WatcherStep config s
      ((PolicyGate.sendConnected s true).updateWatch fun watch =>
        { watch with
          phase := .connected, reached := watch.opened, orderly := orderlyAt s }) := by
  have before := ok.session.opened phase
  have streaming : s.stream.isSome = true := ok.session.stream.mpr (.inl phase)
  refine .rewatch ok le_rfl before.le rfl
    { era := fun n same => ⟨(ok.session.era n same).1, nofun⟩, opened := nofun,
      connected := fun _ => rfl, current := fun _ => ⟨era, rfl⟩, reached := le_rfl, down := by simp,
      stream := ⟨fun _ => .inr rfl, fun _ => streaming⟩ }
    nofun ⟨ok.copies.bounded, fun orderly _ copy member same => ?_, fun _ _ slot member => ?_⟩
    (ok.requeue rfl fun generation flight flown refresh _ _ cell found => ?_) (fun _ _ => rfl)
    fun streaming honest => (ok.agreement streaming honest).rewatch rfl
  · have settled := List.all_eq_true.mp orderly copy member
    simp only [decide_eq_true_eq] at settled
    exact settled same
  · rw [ok.snapshot.empty (ok.session.down (.inr phase))] at member
    cases member
  · obtain ⟨cell', found', bound⟩ := (ok.flights generation flight flown).bound
    obtain rfl : cell = cell' := Option.some.inj (found.symm.trans found')
    obtain ⟨n, same, reached⟩ := bound.permitted (.inr refresh)
    change cell.session ≠ some s.watch.opened
    rw [same]
    intro opened
    obtain rfl := Option.some.inj opened
    omega

theorem WatcherStep.dropSession (ok : s.Invariant config) : WatcherStep config s
      { s with
        stream := none
        watch := { s.watch with inflight := [], applying := none, phase := .ended } } :=
  .rewatch ok le_rfl le_rfl rfl
    { era := fun n same => ⟨(ok.session.era n same).1, nofun⟩, opened := nofun, connected := nofun,
      current := ok.session.current, reached := ok.session.reached, down := by simp, stream := by simp }
    ok.snapshot.empty { ok.copies with }
    { queued := ok.queue.queued, inflight := nofun
      distinct := by
        rw [List.append_nil]
        exact ok.queue.distinct.sublist (List.sublist_append_left _ _)
      waiting := fun _ _ _ _ => .inr nofun, flying := fun _ _ _ _ _ _ => .inr nofun }
    (fun _ connected => connected) nofun

theorem WatcherStep.closeQueue (ok : s.Invariant config) (phase : s.watch.phase ≠ .connected) :
    WatcherStep config s { s with queue := [], queueClosed := true } := by
  have core : SameCore s { s with queue := [], queueClosed := true } := ⟨rfl, rfl, rfl, rfl, rfl⟩
  have advance := core.advance le_rfl le_rfl le_rfl le_rfl
  have orphaned : ∀ fetch, Orphaned s.cells s.watch fetch := fun _ connected =>
    absurd connected phase
  exact ⟨{ ok with
      queue :=
        { queued := nofun, inflight := ok.queue.inflight
          distinct := ok.queue.distinct.sublist (List.sublist_append_right _ _)
          waiting := fun _ flight _ _ => .inr (orphaned flight.fetch)
          flying := fun _ flight _ _ _ _ => .inr (orphaned flight.fetch) }
      agreement := fun streaming honest => (ok.agreement streaming honest).of_core core rfl rfl rfl },
    advance, fun _ _ _ => .rfl, fun _ different => core.rely advance
      (fun held => ⟨held, rfl, rfl, fun connected => connected⟩) fun zero => absurd zero different⟩

theorem WatcherStep.refreshDone {index : Nat} {fetch : PendingFetch T P} (ok : s.Invariant config)
    (at_index : s.watch.inflight[index]? = some fetch) (done : isDone s fetch = true) :
    WatcherStep config s (s.updateWatch fun watch =>
      { watch with inflight := watch.inflight.eraseIdx index }) := by
  have shrinks := List.eraseIdx_sublist s.watch.inflight index
  refine .rewatch ok le_rfl le_rfl rfl { ok.session with } ok.snapshot.empty { ok.copies with }
    { queued := ok.queue.queued, inflight := fun other member =>
        ok.queue.inflight other (shrinks.subset member)
      distinct := ok.queue.distinct.sublist (.append (.refl _) shrinks)
      waiting := ok.queue.waiting, flying := fun generation flight flown refresh unaborted airborne => ?_ }
    (fun _ connected => connected) fun streaming honest =>
      (ok.agreement streaming honest).rewatch rfl
  refine (ok.queue.flying generation flight flown refresh unaborted airborne).imp_left fun member => ?_
  obtain ⟨bound, rfl⟩ := List.getElem?_eq_some_iff.mp at_index
  obtain ⟨place, inside, same⟩ := List.mem_iff_getElem.mp member
  by_cases here : place = index
  · subst here
    rw [same] at done
    unfold isDone at done
    rw [(ok.flights generation flight flown).identity, flown] at done
    simp only [Bool.or_eq_true] at done
    rcases done with ended | aborted
    · rw [(ok.flights generation flight flown).outcome ended] at airborne
      cases airborne
    · exact absurd (unaborted.symm.trans aborted) (by decide)
  · exact List.mem_eraseIdx_iff_getElem.mpr ⟨place, inside, here, same⟩

theorem WatcherStep.takeItem {item : StreamItem T} {rest : List (StreamItem T)}
    (ok : s.Invariant config) (stream : s.stream = some (item :: rest))
    (applying : s.watch.applying = none) :
    WatcherStep config s (PolicyGate.takeItem s item rest) := by
  have streaming : s.stream.isSome = true := by rw [stream]; rfl
  have changes : (PolicyGate.takeItem s item rest).changes = s.changes := by
    unfold Gate.changes PolicyGate.takeItem
    rw [stream, applying]
    cases item <;> rfl
  refine .rewatch ok le_rfl le_rfl rfl
    { ok.session with stream := ⟨fun _ => ok.session.stream.mp streaming, fun _ => rfl⟩ }
    ok.snapshot.empty { ok.copies with } { ok.queue with } (fun _ connected => connected)
    fun _ honest => ?_
  have agreement := ok.agreement streaming honest
  have due : ∀ subject, (PolicyGate.takeItem s item rest).due subject = s.due subject := by
    intro subject
    rw [Gate.due, Gate.due, changes]
  change (PolicyGate.takeItem s item rest).Agreement
  exact agreement.transfer (.of_related (.refl fun _ _ _ => ⟨rfl, rfl⟩))
    (fun subject change last => agreement.emitted subject change (due subject ▸ last))
    fun id cell found held quiet => .inl ⟨cell, found, held, rfl, rfl, due _ ▸ quiet, rfl⟩

theorem WatcherStep.applied {change : DecisionChange T} {f : SubjectMap T → SubjectMap T}
    (ok : s.Invariant config) (applying : s.watch.applying = some change)
    (locked : s.subjects.lock = some 0)
    (mapOk : MapOk s.cells s.flights (f s.subjects) s.watch.era)
    (holds : ∀ id, (f s.subjects).Holds id → s.subjects.Holds id)
    (out : ∀ slot ∈ (f s.subjects).cache.entries, slot.1 ≠ change.subject) :
    WatcherStep config s (s.applied.updateSubjects f) := by
  have advance : Advance s (s.applied.updateSubjects f) :=
    .of_related le_rfl le_rfl le_rfl le_rfl (.refl fun i cell _ => .refl i cell)
      (.refl fun i flight _ => .refl i flight) fun id held _ => holds id held
  refine ⟨{ ok with
      map := mapOk, session := { ok.session with }, copies := { ok.copies with }
      queue := { ok.queue with },
      agreement := fun streaming honest => ?_ }, advance, fun _ _ _ => .rfl, fun other different => ?_⟩
  · have agreement := ok.agreement streaming honest
    refine agreement.transfer (.of_related (.refl fun _ _ _ => ⟨rfl, rfl⟩))
      (agreement.emitted_of_applied _ applying rfl rfl rfl) fun id cell found held quiet => ?_
    refine .inl ⟨cell, found, holds id held, rfl, rfl, ?_, rfl⟩
    refine Gate.due_eq_nil_of_applied (s.applied.updateSubjects f) applying rfl rfl
      (fun concerned => ?_) quiet
    obtain ⟨slot, member, here⟩ := held
    obtain ⟨cell', found', _, subject, _⟩ := mapOk.slots slot member
    rw [here] at found'
    obtain rfl : cell = cell' := Option.some.inj (found.symm.trans found')
    exact out slot member (subject.trans concerned.symm)
  · exact
      { toAdvance := advance, owned := fun _ _ _ => .rfl, watch := fun zero => absurd zero different
        turn := fun held => ⟨held, .of_cells_eq rfl⟩
        copies := fun _ member _ => member
        publish := fun held => ⟨held, rfl, rfl, fun connected => connected⟩
        subjects := fun theirs => absurd theirs (SubjectMap.not_locked locked different) }

theorem WatcherStep.emptied (ok : s.Invariant config) (locked : s.subjects.lock = some 0)
    (down : s.watch.connected = false)
    (dead : ∀ slot ∈ s.subjects.cache.entries, s.Dead slot.2.entry.id)
    (limbo : ∀ entry ∈ s.subjects.limbo, s.Dead entry.id) :
    WatcherStep config s (Subjects.emptied s) := by
  have died : ∀ entry : Entry T, s.Dead entry.id → (∃ cell, s.cells entry.id = some cell ∧
      cell.entry = entry) → ∃ cell, s.cells entry.id = some cell ∧ cell.entry = entry ∧
        (cell.Dead s.flights ∨ cell.session = Subjects.clearedEra s.watch) := by
    rintro entry ⟨cell, found, dead⟩ ⟨cell', found', same⟩
    obtain rfl : cell = cell' := Option.some.inj (found.symm.trans found')
    exact ⟨cell, found, same, .inl dead⟩
  have advance : Advance s (Subjects.emptied s) :=
    .of_related le_rfl le_rfl le_rfl le_rfl (.refl fun i cell _ => .refl i cell)
      (.refl fun i flight _ => .refl i flight) fun _ ⟨_, member, _⟩ _ => nomatch member
  refine ⟨{ ok with
      map := ⟨nofun, fun entry member => ?_, fun id cell found => ?_, fun free => ?_,
        fun _ _ ⟨_, held, _⟩ => nomatch held⟩
      session := { ok.session with era := fun n same => ?_, current := fun connected => ?_ }
      copies := ⟨ok.copies.bounded, fun _ connected => absurd (down.symm.trans connected) (by decide),
        fun _ connected => absurd (down.symm.trans connected) (by decide)⟩
      queue := { ok.queue with }
      agreement := fun streaming honest => ⟨(ok.agreement streaming honest).emitted, ?_⟩ },
    advance, fun _ _ _ => .rfl, fun other different => ?_⟩
  · rcases List.mem_append.mp member with held | removed
    · obtain ⟨slot, inside, rfl⟩ := List.mem_map.mp held
      obtain ⟨cell, found, same, _⟩ := ok.map.slots slot inside
      exact died _ (dead slot inside) ⟨cell, found, same⟩
    · obtain ⟨cell, found, same, _⟩ := ok.map.limbo entry removed
      exact died _ (limbo entry removed) ⟨cell, found, same⟩
  · rcases ok.map.placed id cell found with ⟨slot, member, rfl⟩ | ⟨entry, member, rfl⟩ | isDead
    · exact .inr (.inl ⟨_, List.mem_append_left _ (List.mem_map_of_mem member), rfl⟩)
    · exact .inr (.inl ⟨entry, List.mem_append_right _ member, rfl⟩)
    · exact .inr (.inr isDead)
  · change s.subjects.lock = none at free
    rw [locked] at free
    cases free
  · change Subjects.clearedEra s.watch = some n at same
    unfold Subjects.clearedEra at same
    split at same
    · rename_i opened
      refine ⟨(Option.some.inj same).symm, fun idle => ?_⟩
      change s.watch.phase = _ at idle
      rw [opened] at idle
      cases idle
    · cases same
  · exact absurd (down.symm.trans connected) (by decide)
  · exact fun id cell found held => nomatch held
  · exact
      { toAdvance := advance, owned := fun _ _ _ => .rfl, watch := fun zero => absurd zero different
        turn := fun held => ⟨held, .of_cells_eq rfl⟩
        copies := fun _ member _ => member
        publish := fun held => ⟨held, rfl, rfl, fun connected => connected⟩
        subjects := fun theirs => absurd theirs (SubjectMap.not_locked locked different) }

end PolicyGate
