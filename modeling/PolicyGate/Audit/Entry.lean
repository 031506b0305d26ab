import PolicyGate.Audit.Steps

namespace PolicyGate

open Interleaving Data

variable {T P : Type} [DecidableEq T] {rt : Runtime} {me : Nat} {hold : Hold T} {L : Gate T P → Prop}
  {entry : Entry T}

theorem clockNow_audit {M : Nat → Gate T P → Prop} (context : Context rt me L)
    (read : ∀ s, s.Invariant rt.config → s.Audited rt → s.During me hold L → M s.clock s) :
    (audit rt).Spec me clockNow (Gate.During me hold L)
      fun now => Gate.During me hold fun s => L s ∧ M now s :=
  asideRead context (fun _ _ _ _ => rfl) fun s _ sound ok held viewed =>
    Option.some.inj viewed ▸ read s sound ok held

theorem clockNow_keeps (context : Context rt me L) : Keeps rt me hold L clockNow :=
  keepsRead context fun _ _ _ _ => rfl

theorem Lasting.imp {fact : Prop} {M : Gate T P → Prop} (lasts : Lasting rt M) :
    Lasting rt fun s => fact → M s :=
  fun before after ok ok' extend held holds => lasts before after ok ok' extend (held holds)

theorem Lasting.settled (id : Nat) : Lasting rt fun s : Gate T P => s.Settled id := by
  rintro before after ok ok' lasts ⟨cell, found, busy⟩
  obtain ⟨cell', found', grows⟩ := lasts.cells id cell found
  refine ⟨cell', found', fun idle => busy ?_⟩
  exact grows.pending (ok.cells id cell found).toSound (ok'.cells id cell' found').toSound idle

section

variable {β : Type} {action : Pick → Gate T P → Option (β × Gate T P)}

theorem entryAct {M : β → Gate T P → Prop} (context : Context rt me L)
    (known : ∀ s, L s → s.Known entry)
    (total : ∀ s cell, s.cells entry.id = some cell → (action ⟨me, 0⟩ s).isSome)
    (runs : ∀ s cell choice result after, s.Invariant rt.config → s.Audited rt → L s →
      s.cells entry.id = some cell → action ⟨me, choice⟩ s = some (result, after) →
        s.Aside me after ∧ M result after) :
    (audit rt).Spec me (.act action) (Gate.During me hold L)
      fun result => Gate.During me hold fun s => L s ∧ M result s := by
  refine asideAct context (fun s _ held _ => ?_) fun s choice result after follows ok held ran => ?_
  · obtain ⟨cell, found, _⟩ := known s held
    exact ⟨0, total s cell found⟩
  · obtain ⟨cell, found, _⟩ := known s held.2
    exact runs s cell choice result after follows.sound ok held.2 found ran

end

namespace Gate.Aside

omit [DecidableEq T] in
theorem observe (s : Gate T P) (entry : Entry T) (reader : Reader T) (now : Nat) :
    Aside me s (s.observe entry reader me now) := by
  refine .updateCell s _ fun cell _ => ?_
  unfold EntryCell.observe
  split
  · exact .refl me cell
  · exact ⟨rfl, rfl, .inr ⟨_, rfl, rfl⟩⟩

omit [DecidableEq T] in
theorem replaceCurrent (s : Gate T P) (entry : Entry T) (next : EntrySnapshot P)
    {event : EntryEvent T P} (plain : event.Plain me) :
    Aside me s (s.replaceCurrent entry next event) := by
  have replaced : Aside me s (s.updateCell entry.id fun cell => cell.replace next event) :=
    .updateCell s _ fun _ _ => ⟨rfl, rfl, .inr ⟨event, rfl, plain⟩⟩
  unfold Gate.replaceCurrent
  split
  · exact ⟨⟨replaced.closed, replaced.turn, replaced.cells, replaced.flights⟩, replaced.lock,
      replaced.limbo, replaced.cache, replaced.publish, replaced.queue, replaced.queueClosed⟩
  · exact replaced

end Gate.Aside

namespace Entry

structure Telling (entry : Entry T) (arc : SnapshotArc P) (s : Gate T P) : Prop where
  fits : arc.value.word < 2 ^ 64
  settled : arc.value.state ≠ .pending → s.Settled entry.id

theorem lasting_telling (arc : SnapshotArc P) : Lasting rt (Telling entry arc) :=
  fun before after ok ok' lasts telling =>
    ⟨telling.fits, Lasting.imp (.settled entry.id) before after ok ok' lasts telling.settled⟩

theorem telling {s : Gate T P} {cell : EntryCell T P} (ok : s.Invariant rt.config)
    (found : s.cells entry.id = some cell) : Telling entry cell.current s :=
  ⟨(ok.cells _ cell found).word_lt, fun busy => ⟨cell, found, busy⟩⟩

theorem telling_observe {s : Gate T P} {cell : EntryCell T P} {reader : Reader T}
    {now : Nat} (ok : s.Invariant rt.config) (found : s.cells entry.id = some cell) :
    Telling entry cell.current (s.observe entry reader me now) := by
  refine ⟨(ok.cells _ cell found).word_lt, fun busy => ⟨_, Gate.updateCell_at found _, ?_⟩⟩
  unfold EntryCell.observe
  split <;> exact busy

theorem load_audit (context : Context rt me L) (known : ∀ s, L s → s.Known entry) :
    (audit rt).Spec me entry.load (Gate.During me hold L)
      fun arc => Gate.During me hold fun s => L s ∧ Telling entry arc s := by
  refine asideRead context (fun s _ held _ => ?_) fun s arc ok _ held viewed => ?_
  · obtain ⟨cell, found, _⟩ := known s held
    rw [Gate.load, found]
    rfl
  · obtain ⟨cell, found, rfl⟩ := Option.map_eq_some_iff.mp viewed
    exact telling ok found

theorem load_keeps (context : Context rt me L) (known : ∀ s, L s → s.Known entry) :
    Keeps rt me hold L entry.load :=
  (load_audit context known).post fun _ _ _ _ held => ⟨held.1, held.2.1⟩

theorem compareAndSwap_audit {previous : SnapshotArc P} {next : EntrySnapshot P}
    {event : EntryEvent T P} (context : Context rt me L) (known : ∀ s, L s → s.Known entry)
    (plain : event.Plain me) (settles : ∀ s, L s → next.state ≠ .pending) :
    (audit rt).Spec me (entry.compareAndSwap previous next event) (Gate.During me hold L)
      fun changed => Gate.During me hold fun s => L s ∧ Telling entry changed s ∧
        (changed.address = previous.address → s.Settled entry.id) := by
  refine entryAct context known (fun s cell found => ?_)
    fun s cell choice changed after sound ok held found ran => ?_
  · rw [Gate.compareAndSwap, found]
    rfl
  · have fits := (sound.cells _ cell found).word_lt
    simp only [Gate.compareAndSwap, found, Option.map_some, Option.some.injEq] at ran
    split at ran
    · obtain ⟨rfl, rfl⟩ := Prod.mk.injEq .. ▸ ran
      have settled : (s.replaceCurrent entry next event).Settled entry.id := by
        refine ⟨cell.replace next event, ?_, settles s held⟩
        unfold Gate.replaceCurrent
        split <;> exact Gate.updateCell_at found _
      exact ⟨.replaceCurrent s entry next plain, ⟨fits, fun _ => settled⟩, fun _ => settled⟩
    · rename_i different
      obtain ⟨rfl, rfl⟩ := Prod.mk.injEq .. ▸ ran
      exact ⟨.refl me s, telling sound found, fun same => absurd same different⟩

theorem currentAt_audit {reader : Reader T} {now : Nat} (context : Context rt me L)
    (known : ∀ s, L s → s.Known entry) :
    (audit rt).Spec me (entry.currentAt reader now) (Gate.During me hold L)
      fun current => Gate.During me hold fun s => L s ∧
        (current.2 = true ∨ current.1.state ≠ .pending → s.Settled entry.id) := by
  have contexts : ∀ current, Context rt me fun s => L s ∧ Telling entry current s := fun current =>
    context.lasting (lasting_telling current)
  refine .bind (entryAct (M := fun current s => Telling entry current s) context known
    (fun s cell found => ?_) fun s cell choice result after sound ok held found ran => ?_)
    fun current => .iterate (fun current => (contexts current).held hold) fun current => ?_
  · rw [Gate.load, found]
    rfl
  · rw [Gate.load, found, Option.map_some, Option.map_some, Option.some.injEq] at ran
    obtain ⟨rfl, rfl⟩ := Prod.mk.injEq .. ▸ ran
    exact ⟨.observe s entry reader now, telling_observe sound found⟩
  · split
    · refine .done fun s _ _ held => ⟨held.1, held.2.1, ?_⟩
      rintro (impossible | busy)
      · cases impossible
      · exact held.2.2.settled busy
    · split
      · rename_i latched
        refine .done fun s _ _ held => ⟨held.1, held.2.1, fun _ => held.2.2.settled ?_⟩
        have stale : current.value.stale.state = .stale := EntrySnapshot.stale_state held.2.2.fits
        rw [EntrySnapshot.state, latched]
        exact fun idle => by cases stale.symm.trans idle
      · refine .bind (entryAct (M := fun changed s => Telling entry changed s ∧
          (changed.address = current.address → s.Settled entry.id)) (contexts current)
          (fun s held => known s held.1) (fun s cell found => ?_)
          fun s cell choice changed after sound ok held found ran => ?_) fun changed => ?_
        · rw [Gate.compareAndSwap, found]
          rfl
        · have fits := (sound.cells _ cell found).word_lt
          simp only [Gate.compareAndSwap, found, Option.map_some, Option.some.injEq] at ran
          split at ran
          · obtain ⟨rfl, rfl⟩ := Prod.mk.injEq .. ▸ ran
            have settled : (s.replaceCurrent entry current.value.stale (.latched reader now)).Settled
                entry.id := by
              refine ⟨_, Gate.updateCell_at found _, ?_⟩
              change current.value.stale.state ≠ _
              rw [EntrySnapshot.stale_state held.2.fits]
              exact fun idle => by cases idle
            exact ⟨.replaceCurrent s entry _ trivial, ⟨fits, fun _ => settled⟩, fun _ => settled⟩
          · rename_i different
            obtain ⟨rfl, rfl⟩ := Prod.mk.injEq .. ▸ ran
            exact ⟨.observe s entry reader now, telling_observe sound found,
              fun same => absurd same different⟩
        · split
          · rename_i same
            exact .done fun s _ _ held => ⟨held.1, held.2.1.1, fun _ => held.2.2.2 same⟩
          · exact .done fun s _ _ held => ⟨held.1, held.2.1.1, held.2.2.1⟩

theorem currentAt_keeps {reader : Reader T} {now : Nat} (context : Context rt me L)
    (known : ∀ s, L s → s.Known entry) : Keeps rt me hold L (entry.currentAt reader now) :=
  (currentAt_audit context known).post fun _ _ _ _ held => ⟨held.1, held.2.1⟩

theorem stateAt_audit {reader : Reader T} {now : Nat} (context : Context rt me L)
    (known : ∀ s, L s → s.Known entry) :
    (audit rt).Spec me (entry.stateAt reader now) (Gate.During me hold L)
      fun state => Gate.During me hold fun s => L s ∧ (state ≠ .pending → s.Settled entry.id) := by
  refine .bind (currentAt_audit context known) fun ⟨decision, expired⟩ => ?_
  cases expired with
  | true => exact .done fun s _ _ held => ⟨held.1, held.2.1, fun _ => held.2.2 (.inl rfl)⟩
  | false => exact .done fun s _ _ held => ⟨held.1, held.2.1, fun busy => held.2.2 (.inr busy)⟩

theorem stateAt_keeps {reader : Reader T} {now : Nat} (context : Context rt me L)
    (known : ∀ s, L s → s.Known entry) : Keeps rt me hold L (entry.stateAt reader now) :=
  (stateAt_audit context known).post fun _ _ _ _ held => ⟨held.1, held.2.1⟩

theorem verdictAt_keeps {reader : Reader T} {now : Nat} (context : Context rt me L)
    (known : ∀ s, L s → s.Known entry) : Keeps rt me hold L (entry.verdictAt reader now) := by
  refine .bind (currentAt_keeps context known) fun ⟨decision, expired⟩ => ?_
  cases expired with
  | true => exact keepsDone
  | false =>
      dsimp only
      cases decision.state <;> exact keepsDone

theorem admission_keeps {reader : Reader T} (context : Context rt me L)
    (known : ∀ s, L s → s.Known entry) : Keeps rt me hold L (entry.admission reader) :=
  .bind (clockNow_keeps context) fun _ => .bind (verdictAt_keeps context known) fun _ => keepsDone

theorem compareExchange_audit {expected : EntryState} {next : EntrySnapshot P} {event : EntryEvent T P}
    (context : Context rt me L) (known : ∀ s, L s → s.Known entry) (plain : event.Plain me)
    (settles : next.state ≠ .pending) :
    (audit rt).Spec me (entry.compareExchange expected next event) (Gate.During me hold L)
      fun result => Gate.During me hold fun s => L s ∧
        (result.isOk = true ∨ expected = .pending → s.Settled entry.id) := by
  have contexts : ∀ previous, Context rt me fun s => L s ∧ Telling entry previous s := fun previous =>
    context.lasting (lasting_telling previous)
  refine .bind (load_audit context known) fun previous =>
    .iterate (fun previous => (contexts previous).held hold) fun previous => ?_
  split
  · rename_i different
    refine .done fun s _ _ held => ⟨held.1, held.2.1, ?_⟩
    rintro (succeeded | rfl)
    · cases succeeded
    · exact held.2.2.settled different
  · refine .bind (compareAndSwap_audit (contexts previous) (fun s held => known s held.1) plain
      fun _ _ => settles) fun changed => ?_
    split
    · rename_i same
      exact .done fun s _ _ held => ⟨held.1, held.2.1.1, fun _ => held.2.2.2 same⟩
    · exact .done fun s _ _ held => ⟨held.1, held.2.1.1, held.2.2.1⟩

theorem pendingOperation_keeps (context : Context rt me L) (known : ∀ s, L s → s.Known entry) :
    Keeps rt me hold L entry.pendingOperation := by
  refine keepsRead context fun s _ held _ => ?_
  obtain ⟨cell, found, _⟩ := known s held
  rw [found]
  rfl

theorem pendingIs_keeps {fetch : PendingFetch T P} (context : Context rt me L)
    (known : ∀ s, L s → s.Known entry) : Keeps rt me hold L (entry.pendingIs fetch) :=
  .bind (pendingOperation_keeps context known) fun _ => keepsDone

theorem refreshEligibleAt_keeps {current : EntrySnapshot P} {now : Nat} (context : Context rt me L)
    (known : ∀ s, L s → s.Known entry) : Keeps rt me hold L (entry.refreshEligibleAt current now) := by
  unfold refreshEligibleAt
  split
  · refine .bind (keepsRead context fun s _ held _ => ?_) fun _ => keepsDone
    obtain ⟨cell, found, _⟩ := known s held
    rw [found]
    rfl
  · exact keepsDone

theorem refreshDueAt_keeps {current : EntrySnapshot P} {now : Nat} (context : Context rt me L)
    (known : ∀ s, L s → s.Known entry) : Keeps rt me hold L (entry.refreshDueAt current now) := by
  refine .bind (refreshEligibleAt_keeps context known) fun eligible => ?_
  cases eligible with
  | true => exact .bind (pendingOperation_keeps context known) fun _ => keepsDone
  | false => exact keepsDone

end Entry

omit [DecidableEq T] in
theorem EntriesStep.of_logs {actor : Option Nat} {before after : Gate T P}
    (logs : ∀ id cell', after.cells id = some cell' → ∃ cell, before.cells id = some cell ∧
      cell'.log = cell.log ∧ cell'.refreshNotBefore = cell.refreshNotBefore)
    (placed : ∀ generation flight flight', before.flights generation = some flight →
      after.flights generation = some flight' → flight.stage.made = true →
      flight'.placed = flight.placed)
    (answered : ∀ generation flight' answer, after.flights generation = some flight' →
      flight'.answer = some answer →
        (∃ flight, before.flights generation = some flight ∧ flight.answer = some answer) ∨
          actor = none) : EntriesStep rt.config actor before after where
  observed := by
    rintro id _ _ _ _ ⟨cell', found', member⟩
    obtain ⟨cell, found, same, _⟩ := logs id cell' found'
    exact .inl ⟨cell, found, same ▸ member⟩
  cooled id cell cell' found found' := by
    obtain ⟨cell'', found'', same, notBefore⟩ := logs id cell' found'
    obtain rfl : cell = cell'' := Option.some.inj (found.symm.trans found'')
    exact .inl ⟨notBefore, fun _ _ _ member => same ▸ member⟩
  placed := placed
  answered := answered

structure Flight.Leaves (s : Gate T P) (flight flight' : Flight T P) : Prop where
  fetch : flight'.fetch = flight.fetch
  placed : flight'.placed = flight.placed
  answer : flight'.answer = flight.answer
  taken : flight'.taken = true → flight.taken = true ∨ s.Settled flight.fetch.entry.id
  untaken : flight'.taken = false → flight.taken = false
  stage : flight'.stage = flight.stage ∨ flight'.stage = .released

omit [DecidableEq T] in
theorem Flight.Leaves.refl (s : Gate T P) (flight : Flight T P) : flight.Leaves s flight :=
  ⟨rfl, rfl, rfl, .inl, fun untaken => untaken, .inl rfl⟩

section

variable {s : Gate T P} {id : Nat} {flights : Nat → Option (Flight T P)}

theorem Gate.Audited.emptied (ok : s.Audited rt)
    (follows : Follows rt (some me) s (s.withPending id none flights))
    (busy : ∀ cell, s.cells id = some cell → cell.state ≠ .pending)
    (leaves : Related (fun _ => Flight.Leaves s) s.flights flights) :
    LookupsOk (s.withPending id none flights).cells flights ∧
      CooldownsOk rt.config s.clock (s.withPending id none flights).cells flights ∧
      EntriesStep rt.config (some me) s (s.withPending id none flights) := by
  refine ⟨ok.lookups.transfer follows (fun i cell' found' idle => ?_)
      (fun generation flight flight' flown flown' unfinished finished => ?_)
      fun generation flight' flown' taken => ?_,
    ok.cooldowns.transfer me follows (fun i cell' found' => ?_) fun generation flight' flown' => ?_,
    .of_logs (fun i cell' found' => ?_) (fun generation flight flight' flown flown' _ => ?_)
      fun generation flight' answer flown' answered => ?_⟩
  · rcases update_map_eq_some found' with ⟨rfl, cell, found, rfl⟩ | ⟨_, found⟩
    · exact absurd idle (busy cell found)
    · exact .inl ⟨cell', found, rfl⟩
  · obtain ⟨flight'', flown'', step⟩ := leaves.forward flown
    obtain rfl : flight' = flight'' := Option.some.inj (flown'.symm.trans flown'')
    rcases step.stage with same | released
    · exact absurd (same.symm.trans finished) unfinished
    · rw [released] at finished
      cases finished
  · obtain ⟨flight, flown, step⟩ := leaves.backward flown'
    rcases step.taken taken with was | settled
    · exact .inl ⟨flight, flown, step.fetch, was⟩
    · rw [step.fetch]
      exact .inr (follows.settled settled)
  · rcases update_map_eq_some found' with ⟨rfl, cell, found, rfl⟩ | ⟨_, found⟩
    · exact .inl ⟨cell, found, rfl, .inl rfl, fun _ filled => by cases filled⟩
    · exact .inl ⟨cell', found, rfl, .inl rfl, fun _ pending => .inl pending⟩
  · obtain ⟨flight, flown, step⟩ := leaves.backward flown'
    rcases step.stage with same | released
    · exact .inl ⟨flight, flown, step.fetch, step.placed, step.untaken, fun _ underway => same ▸ underway,
        fun _ waiting => same ▸ waiting⟩
    · refine .inr (.idle ?_ (by rw [released]; rfl) (.inl (by rw [released]; rfl)))
      exact step.placed ▸ ok.cooldowns.since generation flight flown
  · rcases update_map_eq_some found' with ⟨rfl, cell, found, rfl⟩ | ⟨_, found⟩
    · exact ⟨cell, found, rfl, rfl⟩
    · exact ⟨cell', found, rfl, rfl⟩
  · obtain ⟨flight'', flown'', step⟩ := leaves.forward flown
    obtain rfl : flight' = flight'' := Option.some.inj (flown'.symm.trans flown'')
    exact step.placed
  · obtain ⟨flight, flown, step⟩ := leaves.backward flown'
    exact .inl ⟨flight, flown, step.answer ▸ answered⟩

omit [DecidableEq T] in
theorem Gate.Inside.withPending (slot : Option (PendingFetch T P)) :
    Gate.Inside s (s.withPending id slot flights) := ⟨rfl, rfl, rfl, le_rfl, rfl, rfl, rfl⟩

end

namespace Entry

theorem takePending_audit (context : Context rt me L) (known : ∀ s, L s → s.Known entry)
    (settled : ∀ s, L s → s.Settled entry.id) : Keeps rt me hold L entry.takePending := by
  refine (gentleAct (M := fun _ _ => True) context (fun s _ held _ => ?_)
    fun s choice taken after follows ok held ran => ?_).post fun _ _ _ _ held => ⟨held.1, held.2.1⟩
  · obtain ⟨cell, found, _⟩ := known s held
    exact ⟨0, by rw [found]; rfl⟩
  · obtain ⟨cell, found, busy⟩ := settled s held.2
    have only : ∀ cell', s.cells entry.id = some cell' → cell'.state ≠ .pending := fun cell' found' =>
      Option.some.inj (found.symm.trans found') ▸ busy
    rw [found, Option.map_some, Option.some.injEq] at ran
    obtain ⟨flights, rfl, leaves⟩ : ∃ flights, after = s.withPending entry.id none flights ∧
        Related (fun _ flight flight' => flight.Leaves s flight' ∧ flight'.stage = flight.stage)
          s.flights flights := by
      cases pending : cell.pending with
      | none =>
          simp only [pending] at ran
          obtain ⟨rfl, rfl⟩ := Prod.mk.injEq .. ▸ ran
          exact ⟨s.flights, rfl, .refl fun _ flight _ => ⟨.refl s flight, rfl⟩⟩
      | some fetch =>
          simp only [pending] at ran
          obtain ⟨rfl, rfl⟩ := Prod.mk.injEq .. ▸ ran
          refine ⟨_, rfl, .update _ (fun _ flight _ _ => ⟨.refl s flight, rfl⟩) fun flight flown =>
            ⟨⟨rfl, rfl, rfl, fun _ => .inr ?_, (by rintro ⟨⟩), .inl rfl⟩, rfl⟩⟩
          obtain ⟨flight', flown', same, home, _⟩ :=
            follows.sound.slots.held _ cell fetch found pending
          obtain rfl : flight = flight' := Option.some.inj (flown.symm.trans flown')
          rw [same, home, (follows.sound.cells _ cell found).identity]
          exact ⟨cell, found, busy⟩
    refine ⟨⟨.withPending none, rfl, rfl, fun generation stage _ at_stage => ?_⟩,
      ok.emptied follows only (leaves.mono fun _ _ _ _ _ step => step.1), trivial⟩
    obtain ⟨flight, flown, rfl⟩ := Option.map_eq_some_iff.mp at_stage
    obtain ⟨flight', flown', _, same⟩ := leaves.forward flown
    exact same ▸ Gate.stageOf_of_flights flown'

theorem abortPending_audit (context : Context rt me L) (known : ∀ s, L s → s.Known entry)
    (settled : ∀ s, L s → s.Settled entry.id) : Keeps rt me hold L entry.abortPending := by
  refine .bind (takePending_audit context known settled) fun taken => ?_
  cases taken with
  | none => exact keepsDone
  | some pending =>
      exact keepsModify context fun s _ _ => .updateFlight s _ fun flight => ⟨rfl, rfl, rfl, rfl, rfl⟩

theorem invalidate_audit (context : Context rt me L) (known : ∀ s, L s → s.Known entry) :
    (audit rt).Spec me entry.invalidate (Gate.During me hold L)
      fun _ => Gate.During me hold fun s => L s ∧ s.Settled entry.id := by
  have contexts : ∀ previous, Context rt me fun s => L s ∧ Telling entry previous s := fun previous =>
    context.lasting (lasting_telling previous)
  have settledContext : Context rt me fun s => L s ∧ s.Settled entry.id :=
    context.lasting (.settled entry.id)
  refine .bind (load_audit context known) fun previous => .bind (M := fun _ =>
    Gate.During me hold fun s => L s ∧ s.Settled entry.id)
    (.iterate (fun previous => (contexts previous).held hold) fun previous => ?_)
    fun _ => abortPending_audit settledContext (fun s held => known s held.1) fun s held => held.2
  refine .bind (compareAndSwap_audit (contexts previous) (fun s held => known s held.1) trivial
    fun s held => ?_) fun changed => ?_
  · rw [EntrySnapshot.stale_state held.2.fits]
    exact nofun
  · split
    · rename_i same
      exact .done fun s _ _ held => ⟨held.1, held.2.1.1, held.2.2.2 same⟩
    · exact .done fun s _ _ held => ⟨held.1, held.2.1.1, held.2.2.1⟩

end Entry

end PolicyGate
