import PolicyGate.Audit.Lookup

namespace PolicyGate

open Interleaving Data

variable {T P : Type} [DecidableEq T] {rt : Runtime} {me : Nat} {hold : Hold T} {L : Gate T P → Prop}
  {refresh : PendingFetch T P} {entry : Entry T} {reader : Reader T}

section

variable {s after : Gate T P} {cell : EntryCell T P} {flight : Flight T P}

theorem Gate.Audited.claimed (ok : s.Audited rt) (follows : Follows rt (some me) s after)
    (flown : s.flights flight.fetch.generation = some flight)
    (found : s.cells flight.fetch.entry.id = some cell) (empty : cell.pending = none)
    (cells : after.cells = (s.updateCell flight.fetch.entry.id fun cell =>
      { cell with pending := some flight.fetch }).cells)
    (flights : after.flights = Function.update s.flights flight.fetch.generation
      (some { flight with stage := .claimed me })) :
    LookupsOk after.cells after.flights ∧
      CooldownsOk rt.config after.clock after.cells after.flights ∧ EntriesStep rt.config (some me) s after := by
  have filled : ∀ id cell', after.cells id = some cell' → ∃ cell, s.cells id = some cell ∧
      cell'.refreshNotBefore = cell.refreshNotBefore ∧ cell'.log = cell.log ∧
        (cell'.pending = cell.pending ∨ cell.pending = none ∧ cell'.pending = some flight.fetch) := by
    intro id cell' found'
    rw [cells] at found'
    rcases update_map_eq_some found' with ⟨rfl, one, was, rfl⟩ | ⟨_, was⟩
    · obtain rfl : cell = one := Option.some.inj (found.symm.trans was)
      exact ⟨cell, was, rfl, rfl, .inr ⟨empty, rfl⟩⟩
    · exact ⟨cell', was, rfl, rfl, .inl rfl⟩
  have stays : Related (fun _ => Flight.Stays (some me)) s.flights after.flights :=
    stays_of_update flown flights ⟨rfl, rfl, rfl, .inl rfl, fun finished => by cases finished⟩
  refine ⟨ok.lookups.stays follows stays fun id cell' found' idle => ?_,
    ok.cooldowns.transfer me follows (fun id cell' found' => ?_) fun other one' flownOne' => ?_,
    .stays stays fun id cell' found' => ?_⟩
  · obtain ⟨one, was, _, _, same | ⟨unfilled, _⟩⟩ := filled id cell' found'
    · exact .inl ⟨one, was, same⟩
    · obtain ⟨fetch, _, inSlot, _⟩ := ok.lookups.attended _ one was (Follows.pending follows was found' idle)
      rw [unfilled] at inSlot
      cases inSlot
  · obtain ⟨one, was, notBefore, log, slot⟩ := filled id cell' found'
    refine .inl ⟨one, was, notBefore, .inl log, fun fetch inSlot => ?_⟩
    rcases slot with same | ⟨_, slot⟩
    · exact .inl (same ▸ inSlot)
    · obtain rfl := Option.some.inj (slot.symm.trans inSlot)
      refine .inr fun two flownTwo => ?_
      rw [flights, Function.update_self] at flownTwo
      obtain rfl := Option.some.inj flownTwo
      rfl
  · rcases eq_or_of_update flown flights flownOne' with ⟨rfl, rfl⟩ | ⟨_, was⟩
    · exact .inl ⟨flight, flown, rfl, rfl, fun untaken => untaken, fun _ underway => (by cases underway),
        fun _ waiting => (by cases waiting)⟩
    · exact .inl ⟨one', was, rfl, rfl, fun untaken => untaken, fun _ underway => underway,
        fun _ waiting => waiting⟩
  · obtain ⟨one, was, notBefore, log, _⟩ := filled id cell' found'
    exact ⟨one, was, log, notBefore⟩

end

theorem claimPending_audit (firm : Firm rt me L) (home : refresh.entry = entry) :
    (audit rt).Spec me (claimPending entry refresh)
      (Gate.During me .none fun s => L s ∧ s.Handles refresh (.created me))
      fun claimed => Gate.During me .none fun s => L s ∧
        (claimed = true → s.Handles refresh (.claimed me)) := by
  subst home
  refine firmAct firm (firm.handles rfl).stable (fun s held => held.1)
    fun s choice claimed after follows ok held ran => ?_
  have booked := lasting_booked refresh _ _ follows.sound follows.kept (Follows.lasts follows) held.2.1
  obtain ⟨flight, flown, rfl, created⟩ := held.2.flight
  obtain ⟨_, cell, found, _⟩ := held.2.1
  rw [found, Option.map_some, Option.some.injEq] at ran
  cases pending : cell.pending with
  | some inSlot =>
      simp only [pending] at ran
      obtain ⟨rfl, rfl⟩ := Prod.mk.injEq .. ▸ ran
      have aside : s.Aside me s := .refl me s
      exact ⟨aside.toInside, ⟨ok.lookups, ok.cooldowns, aside.step⟩, nofun⟩
  | none =>
      simp only [pending] at ran
      obtain ⟨rfl, rfl⟩ := Prod.mk.injEq .. ▸ ran
      exact ⟨⟨rfl, rfl, rfl, le_rfl, rfl, rfl, rfl⟩, ok.claimed follows flown found pending rfl
        (Gate.updateFlight_some flown fun flight => { flight with stage := .claimed me }),
        fun _ => ⟨booked, Gate.stageOf_of_flights (Gate.updateFlight_at flown _)⟩⟩

theorem revalidate_audit {current : SnapshotArc P} (firm : Firm rt me L) (known : ∀ s, L s → s.Known entry) :
    (audit rt).Spec me (revalidate entry refresh current)
      (Gate.During me .none fun s => L s ∧ s.Handles refresh (.claimed me))
      fun unchanged => Gate.During me .none fun s => L s ∧
        s.Handles refresh (if unchanged then .validated me else .claimed me) := by
  refine firmAct firm (firm.handles rfl).stable (fun s held => held.1)
    fun s choice unchanged after follows ok held ran => ?_
  obtain ⟨cell, found, _⟩ := known s held.1
  have booked := lasting_booked refresh _ _ follows.sound follows.kept (Follows.lasts follows) held.2.1
  rw [Gate.load, found, Option.map_some, Option.map_some, Option.some.injEq] at ran
  split at ran
  · obtain ⟨rfl, rfl⟩ := Prod.mk.injEq .. ▸ ran
    obtain ⟨flight, flown, rfl, _⟩ := held.2.flight
    refine ⟨.passTurn s s.refreshing s.cells _, ok.proceeds_alone follows flown
      (Gate.updateFlight_some flown fun flight => { flight with stage := .validated me })
      ⟨rfl, rfl, rfl, rfl, fun _ underway => (by cases underway), fun _ waiting => (by cases waiting)⟩
      (fun finished => by cases finished) rfl, booked, Gate.stageOf_of_flights (Gate.updateFlight_at flown _)⟩
  · obtain ⟨rfl, rfl⟩ := Prod.mk.injEq .. ▸ ran
    have aside : s.Aside me s := .refl me s
    exact ⟨aside.toInside, ⟨ok.lookups, ok.cooldowns, aside.step⟩, held.2⟩

theorem releaseClaim_audit {stage : Stage} (firm : Firm rt me L) (home : refresh.entry = entry)
    (refreshes : refresh.refreshFrom.isSome = true) (enqueuer : stage.enqueuer = some me) :
    (audit rt).Spec me (releaseClaim entry refresh.generation)
      (Gate.During me .none fun s => L s ∧ s.Handles refresh stage)
      fun _ => Gate.During me .none L := by
  subst home
  have settled : Firm rt me fun s => L s ∧ s.Settled refresh.entry.id := firm.lasting (.settled _)
  exact .bind ((Entry.replacePending_none_audit settled (fun s held => held.2)
    (Stage.owner_of_enqueuer enqueuer) (Stage.made_of_enqueuer enqueuer)).pre
      fun s sound _ held => ⟨held.1, ⟨held.2.1, held.2.2.settled sound refreshes⟩, held.2.2⟩)
    fun _ => .done fun s _ _ held => ⟨held.1, held.2.1.1⟩

/-- No cooldown of the entry lasts, as long as the refresh is in its slot. -/
def Gate.Rested (config : PolicyGateConfig) (refresh : PendingFetch T P) (s : Gate T P) : Prop :=
  ∀ flight cell, s.flights refresh.generation = some flight → flight.taken = false →
    s.cells refresh.entry.id = some cell → EntryLog.Rested config cell.log s.clock

theorem Gate.Rested.step {actor : Option Nat} {before after : Gate T P}
    (rested : before.Rested rt.config refresh) (handles : before.Handles refresh (.validated me))
    (follows : Follows rt actor before after) (step : EntriesStep rt.config actor before after) :
    after.Rested rt.config refresh := by
  intro flight' cell' flown' untaken found' generation failed member
  obtain ⟨flight, flown, rfl, validated⟩ := handles.flight
  obtain ⟨flight'', flown'', grows⟩ := (Follows.lasts follows).flights _ flight flown
  obtain rfl : flight' = flight'' := Option.some.inj (flown'.symm.trans flown'')
  have free : flight.taken = false := by
    by_contra taken
    rw [grows.taken (by simpa using taken)] at untaken
    cases untaken
  obtain ⟨cell, found, slot⟩ := follows.sound.slots.live _ flight flown (by rw [validated]; rfl) free
  have older : .cooled generation true failed ∈ cell.log →
      failed + rt.config.permanentFailureCooldown ≤ after.clock := fun known =>
    (rested flight cell flown free found generation failed known).trans (Follows.lasts follows).clock
  rcases step.cooled _ cell cell' found found' with 
    ⟨_, logs⟩ | ⟨other, asked, poller, now, flownOther, _, _, returned, _, rfl⟩
  · exact older (logs _ _ _ member)
  · rcases List.mem_cons.mp member with noted | known
    · obtain ⟨rfl, held, rfl⟩ := EntryEvent.cooled.injEq .. ▸ noted
      rw [EntryCell.slots, slot, Option.any_some, eq_comm, decide_eq_true_eq] at held
      rw [← held, flown] at flownOther
      obtain rfl := Option.some.inj flownOther
      rw [validated] at returned
      cases returned
    · exact older known

theorem Firm.rested (firm : Firm rt me L) (refresh : PendingFetch T P) : Context rt me fun s =>
    (L s ∧ s.Handles refresh (.validated me)) ∧ s.Rested rt.config refresh := by
  have handles : Context rt me fun s => L s ∧ s.Handles refresh (.validated me) := firm.handles rfl
  exact ⟨fun actor before after other follows ok ok' step held =>
      ⟨handles.stable actor before after other follows ok ok' step held.1,
        held.2.step held.1.2 follows step.entries⟩,
    fun before after follows step gentle held =>
      ⟨handles.own before after follows step gentle held.1, held.2.step held.1.2 follows step.entries⟩,
    fun s held => handles.awake s held.1⟩

theorem refreshEligibleAt_audit {current : EntrySnapshot P} {now : Nat} (context : Context rt me L)
    (known : ∀ s, L s → s.Known entry) (past : ∀ s, L s → now ≤ s.clock) :
    (audit rt).Spec me (entry.refreshEligibleAt current now) (Gate.During me hold L)
      fun eligible => Gate.During me hold fun s => L s ∧ (eligible = true → ∀ cell,
        s.cells entry.id = some cell → EntryLog.Rested rt.config cell.log s.clock) := by
  unfold Entry.refreshEligibleAt
  split
  · refine .bind (asideRead (M := fun notBefore s => notBefore ≤ entry.tick now → ∀ cell,
      s.cells entry.id = some cell → EntryLog.Rested rt.config cell.log s.clock) context
      (fun s _ held _ => ?_) fun s notBefore sound ok held viewed reached cell found other failed member => ?_)
      fun notBefore => .done fun s _ _ held =>
        ⟨held.1, held.2.1, fun eligible => held.2.2 (of_decide_eq_true eligible)⟩
    · obtain ⟨cell, found, _⟩ := known s held
      rw [found]
      rfl
    · obtain ⟨cell', found', same⟩ := known s held.2
      obtain rfl : cell = cell' := Option.some.inj (found.symm.trans found')
      rw [found] at viewed
      obtain rfl : cell.refreshNotBefore = notBefore := Option.some.inj viewed
      have stored := (ok.cooldowns.cooled _ cell found).stored other true failed member
      rw [same] at stored
      exact Entry.cooled_of_tick (ok.cooldowns.past _ cell found _ member) (past s held.2)
        (stored.trans reached)
  · exact .done fun s _ _ held => ⟨held.1, held.2, fun eligible => by cases eligible⟩

theorem Gate.Audited.enqueued {s after : Gate T P} (ok : s.Audited rt)
    (follows : Follows rt (some me) s after) (handles : s.Handles refresh (.validated me))
    (rested : s.Rested rt.config refresh) (awake : s.Awake me) (opened : s.queueClosed = false)
    (room : s.queue.length < rt.config.refreshQueueCapacity)
    (sent : after = { s.setStage refresh.generation .queued with queue := s.queue ++ [refresh] }) :
    after.Audited rt ∧ Gate.Step rt.config (some me) s after := by
  subst sent
  obtain ⟨flight, flown, rfl, validated⟩ := handles.flight
  have flights := Gate.updateFlight_some flown fun flight => { flight with stage := .queued }
  have stays : Related (fun _ => Flight.Stays (some me)) s.flights
      (s.setStage flight.fetch.generation .queued).flights :=
    Gate.stays_of_update flown flights ⟨rfl, rfl, rfl, .inl rfl, fun finished => by cases finished⟩
  have periphery := ok.periphery
  refine ⟨⟨⟨periphery.apart, periphery.publish, ?_, fun closed => ?_, periphery.within⟩,
      ok.lookups.stays follows stays fun id cell found _ => .inl ⟨cell, found, rfl⟩,
      ok.cooldowns.advance follows (fun id cell found => .inl ⟨cell, found, ok.kept follows found⟩)
        fun other one' flownOne' => ?_⟩,
    ⟨⟨.inl rfl, .inl rfl, fun _ _ => rfl, List.suffix_rfl,
        .inr (.inl ⟨opened, room, flight.fetch, me, rfl, handles.2⟩), id,
        Gate.undropped rfl, fun closed mine => ?_⟩,
      .stays stays fun id cell found => ⟨cell, found, rfl, rfl⟩⟩⟩
  · rw [List.length_append, List.length_singleton]
    exact room
  · rw [show s.queueClosed = true from closed] at opened
    cases opened
  · rcases Gate.eq_or_of_update flown flights flownOne' with ⟨rfl, rfl⟩ | ⟨_, was⟩
    · exact .inr ⟨ok.cooldowns.since _ flight flown, fun untaken _ cell found =>
        rested flight cell flown untaken found, .inl rfl⟩
    · exact .inl ⟨one', was, rfl, rfl, fun untaken => untaken, fun _ underway => underway,
        fun _ waiting => waiting⟩
  · rw [awake (Option.some.inj mine)] at closed
    cases closed

theorem sendRefresh_audit {deadline : Nat} (firm : Firm rt me L) (home : refresh.entry = entry)
    (refreshes : refresh.refreshFrom.isSome = true) :
    (audit rt).Spec me (sendRefresh rt entry refresh deadline)
      (Gate.During me .none fun s =>
        (L s ∧ s.Handles refresh (.validated me)) ∧ s.Rested rt.config refresh)
      fun queued => Gate.During me .none fun s => L s ∧
        (queued = false → s.Handles refresh (.validated me)) := by
  have rested := firm.rested refresh
  refine .bind (clockNow_keeps rested) fun now => ?_
  split
  · exact .done fun s _ _ held => ⟨held.1, held.2.1.1, fun _ => held.2.1.2⟩
  · refine .wait (rested.held .none) (fun s _ _ held => held.1)
      (fun s choice queued after follows ok held ran => ?_)
      ((releaseClaim_audit firm home refreshes rfl).weaken (fun s _ _ held => ⟨held.1, held.2.1⟩)
        fun _ s _ _ held => held.1)
    obtain ⟨free, ⟨kept, handles⟩, rests⟩ := held
    have awake := firm.awake s kept
    have refused : some (false, s) = some (queued, after) →
        (audit rt).invariant after ∧ (audit rt).step (some me) s after ∧
          after.During me .none fun s => L s ∧ (queued = false → s.Handles refresh (.validated me)) := by
      intro same
      obtain ⟨rfl, rfl⟩ := Prod.mk.injEq .. ▸ Option.some.inj same
      have aside : s.Aside me s := .refl me s
      exact ⟨ok, ⟨aside.toInside.step fun _ mine => Option.some.inj mine ▸ awake, aside.step⟩, free, kept,
        fun _ => handles⟩
    split at ran
    · split at ran
      · exact refused ran
      · cases ran
    · split at ran
      · exact refused ran
      · cases ran
    · split at ran
      · rename_i fits
        obtain ⟨rfl, sent⟩ := Prod.mk.injEq .. ▸ Option.some.inj ran
        obtain ⟨ok', step⟩ := ok.enqueued follows handles rests awake fits.1 fits.2 sent.symm
        refine ⟨ok', step, ?_, firm.own s after follows step ?_ kept, nofun⟩
        · subst sent
          exact free
        · rw [← sent]
          rfl
      · cases ran

theorem enqueueRefresh_audit {current : SnapshotArc P} {deadline : Nat} (firm : Firm rt me L)
    (known : ∀ s, L s → s.Known entry) (home : refresh.entry = entry)
    (refreshes : refresh.refreshFrom.isSome = true) :
    (audit rt).Spec me (enqueueRefresh rt reader entry refresh current deadline)
      (Gate.During me .none fun s => L s ∧ s.Handles refresh (.claimed me))
      fun _ => Gate.During me .none L := by
  have admits : ∀ {stage : Stage}, stage.enqueuer = some me →
      (audit rt).Spec me (do
        let admission ← entry.admission reader
        releaseClaim entry refresh.generation
        pure admission) (Gate.During me .none fun s => L s ∧ s.Handles refresh stage)
      fun _ => Gate.During me .none L := fun enqueuer =>
    .bind (Entry.admission_keeps (firm.handles (Stage.owner_of_enqueuer enqueuer))
      fun s held => known s held.1) fun _ =>
        .bind (releaseClaim_audit firm home refreshes enqueuer) fun _ => keepsDone
  have sends : (audit rt).Spec me (do
      let queued ← sendRefresh rt entry refresh deadline
      let admission ← entry.admission reader
      if !queued then releaseClaim entry refresh.generation
      pure admission) (Gate.During me .none fun s =>
        (L s ∧ s.Handles refresh (.validated me)) ∧ s.Rested rt.config refresh)
      fun _ => Gate.During me .none L := by
    refine .bind (sendRefresh_audit firm home refreshes) fun queued => ?_
    cases queued with
    | true =>
        exact .bind ((Entry.admission_keeps firm.context known).pre fun s _ _ held =>
          ⟨held.1, held.2.1⟩) fun _ => keepsDone
    | false =>
        refine (@admits (.validated me) rfl).pre fun s _ _ held => ⟨held.1, held.2.1, held.2.2 rfl⟩
  refine .bind (revalidate_audit firm known) fun unchanged => ?_
  cases unchanged with
  | true =>
      have validated : Context rt me fun s => L s ∧ s.Handles refresh (.validated me) := firm.handles rfl
      refine .bind (clockNow_audit (M := fun now s => now ≤ s.clock) validated fun _ _ _ _ => le_rfl)
        fun now => .bind (refreshEligibleAt_audit (validated.lasting (.clock now))
          (fun s held => known s held.1.1) fun s held => held.2) fun eligible => ?_
      cases eligible with
      | true =>
          refine sends.pre fun s _ _ held => ⟨held.1, held.2.1.1, fun flight cell _ _ found => ?_⟩
          exact held.2.2 rfl cell (home ▸ found)
      | false => exact (admits rfl).pre fun s _ _ held => ⟨held.1, held.2.1.1⟩
  | false =>
      refine .bind (M := fun eligible s => eligible = false ∧
        s.During me .none fun s => L s ∧ s.Handles refresh (.claimed me))
        (.done fun s _ _ held => ⟨rfl, held⟩) fun eligible =>
          .given (fun s _ _ held => held.1) fun ineligible => ?_
      subst ineligible
      exact (admits rfl).pre fun s _ _ held => held.2

theorem admissionOnAccess_keeps {subject : T} {deadline : Option Nat} (firm : Firm rt me L)
    (known : ∀ s, L s → s.Known entry) :
    Keeps rt me .none L (admissionOnAccess rt reader subject entry deadline) := by
  refine .bind (Entry.admission_keeps firm.context known) fun admission => ?_
  cases admission with
  | none => exact keepsDone
  | some admission =>
      dsimp only
      split
      · exact keepsDone
      · refine .bind (Entry.load_keeps firm.context known) fun current => ?_
        refine .bind (clockNow_keeps firm.context) fun accessTime => ?_
        refine .bind (Entry.refreshDueAt_keeps firm.context known) fun due => ?_
        split
        · split
          · exact keepsDone
          · refine .bind (newFetchAfter_audit firm.context known) fun refresh => ?_
            refine .given (fun s _ _ held => held.2.2.1) fun made => ?_
            have home : refresh.entry = entry := by rw [made]
            have refreshes : refresh.refreshFrom.isSome = true := by rw [made]; rfl
            refine .bind ((claimPending_audit firm home).pre fun s _ _ held =>
              ⟨held.1, held.2.1, held.2.2.2⟩) fun claimed => ?_
            cases claimed with
            | false => exact .done fun s _ _ held => ⟨held.1, held.2.1⟩
            | true =>
                exact (enqueueRefresh_audit firm known home refreshes).pre fun s _ _ held =>
                  ⟨held.1, held.2.1, held.2.2 rfl⟩
        · exact keepsDone

theorem snapshotGet_audit {subject : T} (context : Context rt me L) :
    (audit rt).Spec me (snapshotGet subject) (Gate.During me .none L)
      fun found => Gate.During me .none fun s => L s ∧ Subjects.Found subject found s := by
  refine asideRead context (fun _ _ _ locked => absurd rfl locked) fun s found sound _ held viewed => ?_
  rintro entry same
  rw [← Option.some.inj viewed] at same
  obtain ⟨slot, first, rfl⟩ := Option.map_eq_some_iff.mp same
  have key : slot.1 = subject := by simpa using List.find?_some first
  obtain ⟨cell, found, same, named⟩ := sound.snapshot.known slot (List.mem_of_find?_eq_some first)
  exact ⟨⟨cell, found, same⟩, named.symm.trans key⟩

theorem snapshotGet_keeps {subject : T} (context : Context rt me L) :
    Keeps rt me .none L (snapshotGet subject) :=
  (snapshotGet_audit context).post fun _ _ _ _ held => ⟨held.1, held.2.1⟩

theorem cachedRead_keeps {subject : T} {access : Entry T → Program (Gate T P) (Option (Entry T))}
    (firm : Firm rt me L)
    (accesses : ∀ entry, Keeps rt me .none (fun s => L s ∧ s.Known entry) (access entry)) :
    Keeps rt me .none L (do
      match ← snapshotGet subject with
      | none => pure none
      | some entry =>
          let now ← clockNow
          match ← entry.verdictAt (.cached subject) now with
          | none => pure none
          | some _ => do
              let now ← clockNow
              let _ ← Subjects.touch rt subject entry now
              access entry) := by
  refine .bind (snapshotGet_audit firm.context) fun found => ?_
  cases found with
  | none => exact .done fun s _ _ held => ⟨held.1, held.2.1⟩
  | some entry =>
      have context : Context rt me fun s => L s ∧ s.Known entry := firm.context.lasting (.known entry)
      refine .bind ((clockNow_keeps context).pre fun s _ _ held =>
        ⟨held.1, held.2.1, (held.2.2 entry rfl).1⟩) fun now => ?_
      refine .bind (Entry.verdictAt_keeps context fun s held => held.2) fun verdict => ?_
      cases verdict with
      | none => exact .done fun s _ _ held => ⟨held.1, held.2.1⟩
      | some verdict =>
          refine .bind (clockNow_keeps context) fun now => ?_
          refine .bind (Subjects.touch_keeps context) fun _ => ?_
          exact (accesses entry).post fun _ s _ _ held => ⟨held.1, held.2.1⟩

theorem check_keeps {subject : T} (firm : Firm rt me L) :
    Keeps rt me .none L (check (P := P) rt subject) :=
  cachedRead_keeps firm fun entry =>
    admissionOnAccess_keeps (firm.lasting (.known entry)) fun _ held => held.2

theorem checkWithoutRefresh_keeps {subject : T} (firm : Firm rt me L) :
    Keeps rt me .none L (checkWithoutRefresh (P := P) rt subject) :=
  cachedRead_keeps firm fun entry =>
    Entry.admission_keeps (firm.context.lasting (.known entry)) fun _ held => held.2

theorem refreshEntry_keeps {subject : T} (firm : Firm rt me L) (known : ∀ s, L s → s.Known entry) :
    Keeps rt me .none L (refreshEntry (P := P) rt subject entry) := by
  refine .bind (clockNow_keeps firm.context) fun now => ?_
  refine .bind (Subjects.touch_keeps firm.context) fun matched => ?_
  split
  · exact .bind (admissionOnAccess_keeps firm known) fun _ => keepsDone
  · exact keepsDone

end PolicyGate
