import PolicyGate.Audit.Fetch
import PolicyGate.Audit.SubjectMap

namespace PolicyGate

open Interleaving Data

variable {T P : Type} [DecidableEq T] {rt : Runtime} {me : Nat} {hold : Hold T} {L : Gate T P → Prop}
  {fetch : PendingFetch T P}

theorem Gate.leaveSlot_eq (stage : Stage) :
    Gate.leaveSlot stage = stage ∨
      stage.enqueuer.isSome = true ∧ Gate.leaveSlot stage = .released := by
  cases stage <;> first | exact .inl rfl | exact .inr ⟨rfl, rfl⟩

theorem Gate.Invariant.settled_of_refresh {s : Gate T P} {generation : Nat} {flight : Flight T P}
    (sound : s.Invariant rt.config) (flown : s.flights generation = some flight)
    (refresh : flight.fetch.refreshFrom.isSome = true) : s.Settled flight.fetch.entry.id := by
  obtain ⟨arc, captures⟩ := Option.isSome_iff_exists.mp refresh
  obtain ⟨cell, found, bound⟩ := (sound.flights _ flight flown).bound
  obtain ⟨⟨earlier, ⟨recent, split⟩, _, held⟩, authoritative⟩ := bound.captured arc captures
  refine ⟨cell, found, fun idle => ?_⟩
  rw [EntryCell.state, (sound.cells _ cell found).value, EntryLog.current_pending_iff, ← split,
    EntryLog.touches_append] at idle
  have untouched : EntryLog.touches earlier = 0 := by omega
  rw [held, EntryLog.current_pending_iff.mpr untouched] at authoritative
  exact EntryState.not_authoritative_pending authoritative

theorem Gate.Handles.settled {s : Gate T P} {stage : Stage} (handles : s.Handles fetch stage)
    (sound : s.Invariant rt.config) (refresh : fetch.refreshFrom.isSome = true) :
    s.Settled fetch.entry.id := by
  obtain ⟨flight, flown, rfl, _⟩ := handles.flight
  exact sound.settled_of_refresh flown refresh

namespace Entry

theorem pendingGeneration_audit {stage : Stage} (context : Context rt me L)
    (handles : ∀ s, L s → s.Handles fetch stage) (made : stage.made = true) :
    (audit rt).Spec me (fetch.entry.pendingGeneration fetch.generation) (Gate.During me hold L)
      fun current => Gate.During me hold fun s => L s ∧ (current = none → s.Parted fetch.generation) ∧
        ∀ found, current = some found → found.generation = fetch.generation := by
  refine .bind (asideRead (M := fun pending s =>
    (∀ found, pending = some found → found.generation ≠ fetch.generation) →
      s.Parted fetch.generation) context (fun s _ held _ => ?_)
    fun s pending sound _ held viewed away => ?_) fun pending => ?_
  · obtain ⟨⟨_, cell, found, _⟩, _⟩ := handles s held
    rw [found]
    rfl
  · have handled := handles s held.2
    obtain ⟨flight, flown, _, at_stage⟩ := handled.flight
    refine ⟨sound.vacated handled.1 fun cell found inCell inSlot => ?_, flight, flown, at_stage ▸ made⟩
    rw [inCell, Option.map_some, Option.some.injEq] at viewed
    exact away found (viewed.symm.trans inSlot)
  · refine .done fun s _ _ held => ⟨held.1, held.2.1, fun missing => held.2.2 ?_, fun found same => ?_⟩
    · rintro found rfl same
      simp [Option.filter, same] at missing
    · exact of_decide_eq_true (Option.filter_eq_some_iff.mp same).2

omit [DecidableEq T] in
theorem leaves_slot (s : Gate T P) (current : PendingFetch T P) :
    Related (fun _ => Flight.Leaves s) s.flights
      (s.updateFlight current.generation fun flight =>
        { flight with stage := Gate.leaveSlot flight.stage }).flights := by
  exact .update _ (fun _ flight _ _ => .refl s flight) fun flight _ =>
    ⟨rfl, rfl, rfl, .inl, fun untaken => untaken, (Gate.leaveSlot_eq flight.stage).imp_right And.right⟩

theorem replacePending_none_audit {stage : Stage} (firm : Firm rt me L)
    (settled : ∀ s, L s → s.Settled fetch.entry.id) (owned : stage.owner = some me)
    (made : stage.made = true) :
    (audit rt).Spec me (fetch.entry.replacePending fetch.generation none)
      (Gate.During me .none fun s => L s ∧ s.Handles fetch stage)
      fun _ => Gate.During me .none fun s => L s ∧
        (Gate.leaveSlot stage = stage → s.Handles fetch stage) := by
  have handles : Context rt me fun s => L s ∧ s.Handles fetch stage := firm.handles owned
  refine .bind (pendingGeneration_audit handles (fun s held => held.2) made) fun current => ?_
  cases current with
  | none => exact .done fun s _ _ held => ⟨held.1, held.2.1.1, fun _ => held.2.1.2⟩
  | some current =>
      refine (firmAct firm handles.stable (fun s held => held.1)
        fun s choice left after follows ok held ran => ?_).pre fun s _ _ held => ⟨held.1, held.2.1⟩
      have booked := lasting_booked fetch _ _ follows.sound follows.kept (Follows.lasts follows) held.2.1
      obtain ⟨flight, flown, same, at_stage⟩ := held.2.flight
      obtain ⟨cell, found, busy⟩ := settled s held.1
      rw [found, Option.map_some, Option.some.injEq] at ran
      split at ran
      · obtain ⟨_, rfl⟩ := Prod.mk.injEq .. ▸ ran
        refine ⟨.withPending none, ok.emptied follows (fun cell' found' => ?_) (leaves_slot s current),
          fun stays => ⟨booked, ?_⟩⟩
        · exact Option.some.inj (found.symm.trans found') ▸ busy
        · refine Option.map_eq_some_iff.mpr ?_
          by_cases here : fetch.generation = current.generation
          · refine ⟨{ flight with stage := Gate.leaveSlot flight.stage }, ?_, ?_⟩
            · exact here ▸ Gate.updateFlight_at flown _
            · rw [at_stage]
              exact stays
          · exact ⟨flight, (Function.update_of_ne here _ _).trans flown, at_stage⟩
      · obtain ⟨_, rfl⟩ := Prod.mk.injEq .. ▸ ran
        have aside : s.Aside me s := .refl me s
        exact ⟨aside.toInside, ⟨ok.lookups, ok.cooldowns, aside.step⟩, fun _ => held.2⟩

end Entry

section

variable {s : Gate T P} {cell : EntryCell T P} {flight : Flight T P}

/-- While the slot holds a refresh that has returned, no other refresh of the entry is underway. -/
theorem Gate.Invariant.idle_of_returned (sound : s.Invariant rt.config)
    (flown : s.flights fetch.generation = some flight) (returned : flight.stage = .returned me)
    (found : s.cells fetch.entry.id = some cell) {pending : PendingFetch T P}
    (inSlot : cell.pending = some pending) (same : pending.generation = fetch.generation) {other : Nat}
    {one : Flight T P} (flownOne : s.flights other = some one) (untaken : one.taken = false)
    (home : one.fetch.entry.id = fetch.entry.id) : one.stage.underway = false := by
  by_contra waits
  have underway : one.stage.underway = true := by simpa using waits
  have live : one.stage.live = true := by
    cases stage : one.stage <;> first | rfl | (rw [stage] at underway; cases underway)
  obtain ⟨cell', found', pending'⟩ := sound.slots.live other one flownOne live untaken
  rw [home] at found'
  obtain rfl : cell = cell' := Option.some.inj (found.symm.trans found')
  obtain rfl : pending = one.fetch := Option.some.inj (inSlot.symm.trans pending')
  rw [← (sound.flights other one flownOne).identity, same, flown] at flownOne
  obtain rfl := Option.some.inj flownOne
  rw [returned] at underway
  cases underway

theorem Gate.Audited.setCooldown {after : Gate T P} {now : Nat} (ok : s.Audited rt)
    (follows : Follows rt (some me) s after)
    (stored : after = s.updateCell fetch.entry.id
      (EntryCell.cool rt.config fetch.entry fetch.generation now))
    (handles : s.Handles fetch (.returned me)) (refresh : fetch.refreshFrom.isSome = true)
    (past : now ≤ s.clock) (cooled : ∀ cell, s.cells fetch.entry.id = some cell →
      cell.refreshNotBefore ≤ cell.entry.cooledTick rt.config now) :
    LookupsOk after.cells after.flights ∧
      CooldownsOk rt.config after.clock after.cells after.flights ∧ EntriesStep rt.config (some me) s after := by
  subst stored
  obtain ⟨flight, flown, own, returned⟩ := handles.flight
  obtain ⟨_, home, foundHome, same⟩ := handles.1
  have here : ∀ cell, s.cells fetch.entry.id = some cell → cell.entry = fetch.entry :=
    fun cell found => Option.some.inj (foundHome.symm.trans found) ▸ same
  obtain ⟨lookups, cooldowns⟩ := ok.proceeds follows flown (Function.update_eq_self_iff.mpr flown.symm).symm
    ⟨rfl, rfl, rfl, rfl, fun _ underway => underway, fun _ waiting => waiting⟩
    (fun finished => by rw [returned] at finished; cases finished) fun id cell' found' => by
      rcases update_map_eq_some found' with ⟨rfl, cell, found, rfl⟩ | ⟨_, found⟩
      · have bound : fetch.entry.cooledTick rt.config now ≤ cell.entry.cooledTick rt.config s.clock :=
          here cell found ▸ Entry.cooledTick_mono rt.config cell.entry past
        have later := cooled cell found
        rw [here cell found] at later
        refine ⟨cell, found, rfl, ⟨later, bound, .inr ⟨_, rfl, past⟩, fun _ pending => .inl pending⟩,
          ⟨nofun, nofun, fun other held failed grown =>
            ⟨?_, fun inSlot other one flownOne _ untaken home => ?_⟩⟩⟩ <;>
          obtain ⟨rfl, rfl, rfl⟩ := EntryEvent.cooled.injEq .. ▸ (List.cons.inj grown).1
        · rw [here cell found]
          rfl
        · obtain ⟨pending, inSlot, generation⟩ := (Option.any_eq_true _ _).mp inSlot
          exact follows.sound.idle_of_returned flown returned found inSlot (of_decide_eq_true generation)
            flownOne untaken (home.trans (congrArg Entry.id (here cell found)))
      · exact ⟨cell', found, rfl, ok.kept follows found⟩
  refine ⟨lookups, cooldowns, fun id _ _ _ _ ⟨cell', found', member⟩ => ?_,
    fun id cell cell' found found' => ?_, fun _ flight flight' flown flown' _ => ?_,
    fun _ flight' _ flown' answered => .inl ⟨flight', flown', answered⟩⟩
  · rcases update_map_eq_some found' with ⟨rfl, cell, found, rfl⟩ | ⟨_, found⟩
    · exact .inl ⟨cell, found, (List.mem_cons.mp member).resolve_left nofun⟩
    · exact .inl ⟨cell', found, member⟩
  · rcases update_map_eq_some found' with ⟨rfl, cell'', was, rfl⟩ | ⟨_, was⟩ <;>
      obtain rfl := Option.some.inj (found.symm.trans was)
    · refine .inr ⟨fetch.generation, flight, me, now, flown, ?_, own ▸ refresh, returned, past, ?_⟩
      · rw [here cell found, own]
      · rw [here cell found]
    · exact .inl ⟨rfl, fun _ _ _ member => member⟩
  · rw [Option.some.inj (flown.symm.trans flown')]

end

theorem storeRefreshNotBefore_audit (firm : Firm rt me L) (refresh : fetch.refreshFrom.isSome = true) :
    (audit rt).Spec me (storeRefreshNotBefore rt fetch.entry fetch.generation)
      (Gate.During me .none fun s => (L s ∧ s.Handles fetch (.returned me)) ∧ s.Turn me fetch)
      fun _ => Gate.During me .none fun s => L s ∧ s.Handles fetch (.returned me) := by
  have handles : Context rt me fun s => L s ∧ s.Handles fetch (.returned me) := firm.handles rfl
  refine .bind (clockNow_audit (M := fun now s => now ≤ s.clock ∧ ∀ cell,
    s.cells fetch.entry.id = some cell → cell.refreshNotBefore ≤ cell.entry.cooledTick rt.config now)
    (handles.turn fetch) fun s _ ok _ => ⟨le_rfl, fun cell found =>
      (ok.cooldowns.cooled _ cell found).bound⟩) fun now => ?_
  refine firmAct firm ?_ (fun s held => held.1.1.1) fun s choice result after follows ok held ran => ?_
  · intro actor before after other follows ok ok' step held
    refine ⟨(handles.turn fetch).stable actor before after other follows ok ok' step held.1,
      held.2.1.trans (Follows.lasts follows).clock, fun cell' found' => ?_⟩
    obtain ⟨_, cell, found, _⟩ := held.1.1.2.1
    obtain ⟨cell'', found'', grows⟩ := Follows.cell follows found
    obtain rfl : cell' = cell'' := Option.some.inj (found'.symm.trans found'')
    have same : cell'.refreshNotBefore = cell.refreshNotBefore := by
      rcases follows.relied me other with rely | unchanged
      · exact (rely.turn (held.1.2 refresh)).2 _ cell cell' found found'
      · rw [unchanged, found] at found'
        rw [Option.some.inj found']
    rw [same, grows.entry]
    exact held.2.2 cell found
  · obtain ⟨⟨⟨_, handles⟩, _⟩, past, cooled⟩ := held
    obtain ⟨_, rfl⟩ := Prod.mk.injEq .. ▸ Option.some.inj ran
    have booked := lasting_booked fetch _ _ follows.sound follows.kept (Follows.lasts follows) handles.1
    exact ⟨.passTurn s s.refreshing _ _, ok.setCooldown follows rfl handles refresh past cooled, booked, handles.2⟩

theorem applyRefreshResult_audit {current : SnapshotArc P} {now : Nat}
    {result : Except DecisionSourceError (Publication P)} (firm : Firm rt me L)
    (refresh : fetch.refreshFrom.isSome = true) :
    (audit rt).Spec me
      (applyRefreshResult rt fetch.entry fetch.generation now current result)
      (Gate.During me .none fun s => (L s ∧ s.Handles fetch (.returned me)) ∧ s.Turn me fetch)
      fun _ => Gate.During me .none fun s => (L s ∧ s.Handles fetch (.returned me)) ∧ s.Resolved fetch := by
  have settled : Firm rt me fun s => L s ∧ s.Settled fetch.entry.id := firm.lasting (.settled _)
  have handles : Context rt me fun s => (L s ∧ s.Settled fetch.entry.id) ∧ s.Handles fetch (.returned me) :=
    settled.handles rfl
  have finish : (audit rt).Spec me
      (do let _ ← fetch.entry.replacePending fetch.generation none; pure (discard result))
      (Gate.During me .none fun s => (L s ∧ s.Settled fetch.entry.id) ∧ s.Handles fetch (.returned me))
      fun _ => Gate.During me .none fun s => (L s ∧ s.Handles fetch (.returned me)) ∧ s.Resolved fetch :=
    .bind (Entry.replacePending_none_audit settled (fun s held => held.2) rfl rfl) fun _ =>
      .done fun s _ _ held => ⟨held.1, ⟨held.2.1.1, held.2.2 rfl⟩, .inl held.2.1.2⟩
  unfold applyRefreshResult
  cases result with
  | ok publication =>
      dsimp only
      split
      · have plain : (EntryEvent.published publication : EntryEvent T P).Plain me := trivial
        refine .bind ((Entry.compareAndSwap_audit handles (fun s held => held.2.1.2) plain
          fun s _ => ?_).weaken (fun s sound _ held => ⟨held.1, ⟨held.2.1.1,
            held.2.1.2.settled sound refresh⟩, held.2.1.2⟩) fun _ s _ _ held => ⟨held.1, held.2.1⟩)
          fun _ => finish
        rw [Entry.publishedSnapshot, Entry.decisionSnapshot_state]
        cases publication.result.decision <;> exact nofun
      · exact finish.pre fun s sound _ held =>
          ⟨held.1, ⟨held.2.1.1, held.2.1.2.settled sound refresh⟩, held.2.1.2⟩
  | error error =>
      exact .bind (storeRefreshNotBefore_audit firm refresh) fun _ => finish.pre fun s sound _ held =>
        ⟨held.1, ⟨held.2.1, held.2.2.settled sound refresh⟩, held.2.2⟩

theorem Gate.Invariant.settled_of_absent {s : Gate T P} {entry : Entry T} (sound : s.Invariant rt.config)
    (known : s.Known entry) (holding : s.Holding me (.map none))
    (absent : ∀ slot, s.subjects.cache.peek entry.subject = some slot → slot.entry.id ≠ entry.id) :
    s.Settled entry.id := by
  obtain ⟨cell, found, same⟩ := known
  rcases sound.map.placed _ cell found with ⟨slot, member, here⟩ | ⟨removed, member, here⟩ | ⟨stale, _⟩
  · obtain ⟨cell', found', _, subject, _⟩ := sound.map.slots slot member
    rw [here] at found'
    obtain rfl : cell = cell' := Option.some.inj (found.symm.trans found')
    rw [same] at subject
    exact absurd here (absent slot.2 (s.subjects.cache.peek_eq_some_iff.mpr (subject ▸ member)))
  · rcases holding.2.2 removed member with last | settled
    · cases last
    · exact here ▸ settled
  · exact ⟨cell, found, by rw [stale]; exact nofun⟩

theorem removeFailed_audit (context : Context rt me L)
    (handles : ∀ s, L s → s.Handles fetch (.returned me)) (named : fetch.subject = fetch.entry.subject) :
    (audit rt).Spec me (removeFailed rt fetch.subject fetch.entry fetch.generation)
      (Gate.During me .none L) fun _ => Gate.During me .none fun s => L s ∧ s.Resolved fetch := by
  have known : ∀ s, L s → s.Known fetch.entry := fun s held => (handles s held).1.2
  have resolved : Context rt me fun s => L s ∧ s.Resolved fetch := context.lasting (lasting_resolved fetch)
  refine .bind (clockNow_keeps context) fun now => .bind (Subjects.removeIf_audit
    (M := fun found s => found = some fetch.entry ∨
      (∀ current, found = some current → current.id ≠ fetch.entry.id) ∧ s.Resolved fetch)
    context resolved (fun s found sound held peeked => ?_) fun found => ?_) fun removed => ?_
  · by_cases here : ∀ current, found = some current → current.id ≠ fetch.entry.id
    · refine .inr ⟨here, .inl (sound.settled_of_absent (known s held.2) held.1 fun slot inMap => ?_)⟩
      rw [← named] at inMap
      exact here slot.entry (by rw [← peeked, inMap]; rfl)
    · simp only [not_forall, not_not] at here
      obtain ⟨current, rfl, same⟩ := here
      obtain ⟨slot, inMap, rfl⟩ := Option.map_eq_some_iff.mp peeked
      obtain ⟨cell, found, home⟩ := (Subjects.found_of_peek sound inMap).1
      obtain ⟨cell', found', home'⟩ := known s held.2
      rw [← same] at found'
      obtain rfl : cell = cell' := Option.some.inj (found.symm.trans found')
      exact .inl (congrArg some (home.symm.trans home'))
  · by_cases here : found = some fetch.entry
    · subst here
      dsimp only
      rw [if_pos rfl]
      refine .bind ((Entry.pendingGeneration_audit context handles rfl).pre fun s _ _ held =>
        ⟨held.1, held.2.1⟩) fun pending => ?_
      split
      · rename_i missing
        refine .done fun s _ _ held => ⟨held.1, held.2.1, .inr (held.2.2.1 ?_)⟩
        exact Option.isNone_iff_eq_none.mp missing
      · have plain : (EntryEvent.failed : EntryEvent T P).Plain me := trivial
        refine .bind ((Entry.compareExchange_audit context known plain ?_).pre fun s _ _ held =>
          ⟨held.1, held.2.1⟩) fun failed => .done fun s _ _ held =>
            ⟨held.1, held.2.1, .inl (held.2.2 (.inr rfl))⟩
        rw [EntrySnapshot.failed_state]
        exact nofun
    · refine .given (fun s _ _ held => (held.2.2.resolve_left here).1) fun away => ?_
      have gone : ∀ value, (audit rt).Spec me (.done value) (Gate.During me (.map none) fun s => L s ∧
          (found = some fetch.entry ∨ (∀ current, found = some current → current.id ≠ fetch.entry.id) ∧
            s.Resolved fetch)) fun _ => Gate.During me (.map none) fun s => L s ∧ s.Resolved fetch :=
        fun (_ : Bool) => .done fun s _ _ held => ⟨held.1, held.2.1, (held.2.2.resolve_left here).2⟩
      cases found with
      | none => exact gone false
      | some current =>
          dsimp only
          rw [if_neg (away current rfl)]
          exact gone false
  · split
    · exact .bind (Subjects.setDirty_keeps resolved) fun _ => republishIfDue_keeps resolved
    · exact republishIfDue_keeps resolved

theorem newFetchAfter_audit {entry : Entry T} {subject : T} {delay : Option Nat}
    {refreshFrom : Option (SnapshotArc P)} (context : Context rt me L) (known : ∀ s, L s → s.Known entry) :
    (audit rt).Spec me (newFetchAfter entry subject delay refreshFrom) (Gate.During me .none L)
      fun made => Gate.During me .none fun s => L s ∧
        made = { generation := made.generation, entry, subject, delay, refreshFrom } ∧
        s.Handles made (.created me) := by
  refine asideAct context (fun _ _ _ locked => absurd rfl locked)
    fun s choice made after follows ok held ran => ?_
  obtain ⟨rfl, same_after⟩ := Prod.mk.injEq .. ▸ Option.some.inj ran
  set made : PendingFetch T P := { generation := s.nextGeneration, entry, subject, delay, refreshFrom }
  have flown : after.flights made.generation = some { fetch := made, stage := .created me } := by
    rw [← same_after]
    exact Function.update_self ..
  refine ⟨?_, rfl, ⟨⟨_, flown, rfl⟩, ?_⟩, Gate.stageOf_of_flights flown⟩
  · subst same_after
    refine ⟨⟨rfl, rfl, fun _ cell' found => ⟨cell', found, .refl me cell'⟩,
      fun generation flight' flown' => ?_⟩, rfl, rfl, le_rfl, rfl, rfl, rfl⟩
    by_cases new : generation = s.nextGeneration
    · subst new
      obtain rfl := Option.some.inj (flown.symm.trans flown')
      exact .inr ⟨follows.sound.freshGeneration _ le_rfl, rfl, rfl, rfl, rfl⟩
    · exact .inl ⟨flight', (Function.update_of_ne new _ _).symm.trans flown', .refl flight'⟩
  · exact Lasting.known entry s after follows.sound follows.kept (Follows.lasts follows) (known s held.2)

section

variable {s after : Gate T P} {current retry : PendingFetch T P} {generation : Nat}

omit [DecidableEq T] in
theorem Gate.swapPending_flights {entry : Entry T} {flight' : Flight T P}
    (flown' : (s.swapPending entry current (some retry)).flights generation = some flight') :
    ∃ flight, s.flights generation = some flight ∧ flight'.fetch = flight.fetch ∧
      flight'.taken = flight.taken ∧ flight'.answer = flight.answer ∧
      (generation = retry.generation ∧ flight'.stage = .placed ∧ flight'.placed = s.clock ∨
        generation ≠ retry.generation ∧ flight'.placed = flight.placed ∧
          (flight'.stage = flight.stage ∨
            flight.stage.enqueuer.isSome = true ∧ flight'.stage = .released)) := by
  rcases update_map_eq_some flown' with ⟨same, mid, flownMid, rfl⟩ | ⟨other, flownMid⟩
  · rcases update_map_eq_some flownMid with ⟨left, flight, flown, rfl⟩ | ⟨_, flown⟩
    · exact ⟨flight, same ▸ left ▸ flown, rfl, rfl, rfl, .inl ⟨same, rfl, rfl⟩⟩
    · exact ⟨mid, same ▸ flown, rfl, rfl, rfl, .inl ⟨same, rfl, rfl⟩⟩
  · rcases update_map_eq_some flownMid with ⟨same, flight, flown, rfl⟩ | ⟨_, flown⟩
    · exact ⟨flight, same ▸ flown, rfl, rfl, rfl, .inr ⟨other, rfl, leaveSlot_eq flight.stage⟩⟩
    · exact ⟨flight', flown, rfl, rfl, rfl, .inr ⟨other, rfl, .inl rfl⟩⟩

theorem Gate.Audited.retried (ok : s.Audited rt) (follows : Follows rt (some me) s after)
    (fresh : s.Handles retry (.created me)) (delay : retry.delay = some rt.config.permanentFailureCooldown)
    (swapped : after = s.swapPending fetch.entry current (some retry)) :
    LookupsOk after.cells after.flights ∧
      CooldownsOk rt.config after.clock after.cells after.flights ∧ EntriesStep rt.config (some me) s after := by
  subst swapped
  obtain ⟨flight, flown, same, created⟩ := fresh.flight
  obtain ⟨placed, flownPlaced, isPlaced⟩ : ∃ flight',
      (s.swapPending fetch.entry current (some retry)).flights retry.generation = some flight' ∧
        flight'.stage = .placed := by
    obtain ⟨flight', flown', _⟩ := (Follows.lasts follows).flights _ flight flown
    obtain ⟨_, _, _, _, _, ⟨_, isPlaced, _⟩ | ⟨other, _⟩⟩ := Gate.swapPending_flights flown'
    · exact ⟨flight', flown', isPlaced⟩
    · exact absurd rfl other
  refine ⟨ok.lookups.transfer follows (fun id cell' found' _ => ?_)
      (fun generation one one' flownOne flownOne' unfinished finished => ?_)
      fun generation one' flownOne' taken => ?_,
    ok.cooldowns.advance follows (fun id cell' found' => ?_) fun generation one' flownOne' => ?_,
    .of_logs (fun id cell' found' => ?_) (fun generation one one' flownOne flownOne' made => ?_)
      fun generation one' answer flownOne' answered => ?_⟩
  · rcases update_map_eq_some found' with ⟨rfl, cell, found, rfl⟩ | ⟨_, found⟩
    · exact .inr ⟨retry, placed, rfl, flownPlaced, by rw [isPlaced]; exact nofun⟩
    · exact .inl ⟨cell', found, rfl⟩
  · obtain ⟨two, flownTwo, _, _, _, ⟨_, stage, _⟩ | ⟨_, _, stage | ⟨_, stage⟩⟩⟩ :=
      Gate.swapPending_flights flownOne'
    · rw [stage] at finished
      cases finished
    · obtain rfl : one = two := Option.some.inj (flownOne.symm.trans flownTwo)
      exact absurd (stage.symm.trans finished) unfinished
    · rw [stage] at finished
      cases finished
  · obtain ⟨one, flownOne, fetched, wasTaken, _⟩ := Gate.swapPending_flights flownOne'
    exact .inl ⟨one, flownOne, fetched, wasTaken ▸ taken⟩
  · rcases update_map_eq_some found' with ⟨rfl, cell, found, rfl⟩ | ⟨_, found⟩
    · obtain ⟨moves, _⟩ := ok.kept follows found
      refine .inl ⟨cell, found, ⟨moves.later, moves.bound, .inl rfl, ?_⟩, fun _ _ _ _ grown => ?_,
        fun _ _ grown => ?_, fun _ _ _ grown => ?_⟩
      · rintro _ ⟨⟩
        refine .inr fun one' flownOne' _ other ended member => ?_
        obtain ⟨one, flownOne, fetched, _, _, ⟨_, _, now⟩ | ⟨different, _⟩⟩ :=
          Gate.swapPending_flights flownOne'
        · obtain rfl : flight = one := Option.some.inj (flown.symm.trans flownOne)
          rw [now, fetched, same]
          exact ⟨ok.cooldowns.past _ cell found _ member, delay⟩
        · exact absurd rfl different
      · simp at grown
      · simp at grown
      · simp at grown
    · exact .inl ⟨cell', found, ok.kept follows found⟩
  · obtain ⟨one, flownOne, fetched, wasTaken, _, ⟨here, stage, now⟩ | ⟨_, before, stage | ⟨_, stage⟩⟩⟩ :=
      Gate.swapPending_flights flownOne'
    · refine .inr (.idle now.le (by rw [stage]; rfl) (.inr fun two flownTwo => ?_))
      obtain rfl : flight = two := Option.some.inj (flown.symm.trans (here ▸ flownTwo))
      rw [created]
      rfl
    · exact .inl ⟨one, flownOne, fetched, before, fun untaken => wasTaken ▸ untaken,
        fun _ underway => stage ▸ underway, fun _ waiting => stage ▸ waiting⟩
    · exact .inr (.idle (before ▸ ok.cooldowns.since generation one flownOne) (by rw [stage]; rfl)
        (.inl (by rw [stage]; rfl)))
  · rcases update_map_eq_some found' with ⟨rfl, cell, found, rfl⟩ | ⟨_, found⟩
    · exact ⟨cell, found, rfl, rfl⟩
    · exact ⟨cell', found, rfl, rfl⟩
  · obtain ⟨two, flownTwo, _, _, _, ⟨rfl, _⟩ | ⟨_, before, _⟩⟩ := Gate.swapPending_flights flownOne'
    · obtain rfl : flight = one := Option.some.inj (flown.symm.trans flownOne)
      rw [created] at made
      cases made
    · obtain rfl : one = two := Option.some.inj (flownOne.symm.trans flownTwo)
      exact before
  · obtain ⟨one, flownOne, _, _, told, _⟩ := Gate.swapPending_flights flownOne'
    exact .inl ⟨one, flownOne, told ▸ answered⟩

end

theorem placeRetry_audit {retry : PendingFetch T P} (firm : Firm rt me L)
    (delay : retry.delay = some rt.config.permanentFailureCooldown) :
    (audit rt).Spec me (fetch.entry.replacePending fetch.generation (some retry))
      (Gate.During me .none fun s =>
        (L s ∧ s.Handles fetch (.returned me)) ∧ s.Handles retry (.created me))
      fun _ => Gate.During me .none fun s => (L s ∧ s.Handles fetch (.returned me)) ∧ s.Resolved fetch := by
  have handles : Context rt me fun s =>
      (L s ∧ s.Handles fetch (.returned me)) ∧ s.Handles retry (.created me) :=
    (firm.handles rfl).handles rfl
  refine .bind (Entry.pendingGeneration_audit handles (fun s held => held.1.2) rfl) fun current => ?_
  cases current with
  | none => exact .done fun s _ _ held => ⟨held.1, held.2.1.1, .inr (held.2.2.1 rfl)⟩
  | some current =>
      refine .given (fun s _ _ held => held.2.2.2 current rfl) fun same => ?_
      refine Audit.Spec.weaken (P := Gate.During me .none fun s =>
        (L s ∧ s.Handles fetch (.returned me)) ∧ s.Handles retry (.created me))
        (Q := fun _ => Gate.During me .none fun s =>
          L s ∧ s.Handles fetch (.returned me) ∧ s.Resolved fetch) ?_
        (fun s _ _ held => ⟨held.1, held.2.1⟩)
        fun _ s _ _ held => ⟨held.1, ⟨held.2.1, held.2.2.1⟩, held.2.2.2⟩
      refine firmAct firm handles.stable (fun s held => held.1.1)
        fun s choice left after follows ok held ran => ?_
      obtain ⟨⟨_, handles⟩, fresh⟩ := held
      have booked := lasting_booked fetch _ _ follows.sound follows.kept (Follows.lasts follows) handles.1
      obtain ⟨flight, flown, _, returned⟩ := handles.flight
      obtain ⟨_, cell, found, _⟩ := handles.1
      have different : retry.generation ≠ fetch.generation := by
        intro equal
        have clash := fresh.2.symm.trans (equal ▸ handles.2)
        cases clash
      rw [found, Option.map_some, Option.some.injEq] at ran
      split at ran
      · obtain ⟨_, rfl⟩ := Prod.mk.injEq .. ▸ ran
        obtain ⟨flight', flown', grows⟩ := (Follows.lasts follows).flights _ flight flown
        have at_stage : flight'.stage = .returned me := by
          obtain ⟨one, flownOne, _, _, _, ⟨equal, _⟩ | ⟨_, _, stage | ⟨claimed, _⟩⟩⟩ :=
            Gate.swapPending_flights flown'
          · exact absurd equal.symm different
          · obtain rfl : flight = one := Option.some.inj (flown.symm.trans flownOne)
            exact stage.trans returned
          · obtain rfl : flight = one := Option.some.inj (flown.symm.trans flownOne)
            rw [returned] at claimed
            cases claimed
        refine ⟨⟨rfl, rfl, rfl, le_rfl, rfl, rfl, rfl⟩, ok.retried follows fresh delay rfl,
          ⟨booked, (Gate.stageOf_of_flights flown').trans (congrArg some at_stage)⟩, .inr ⟨?_, flight', flown', ?_⟩⟩
        · refine follows.kept.vacated booked fun cell' pending found' inSlot => ?_
          have foundAfter := Gate.updateCell_at found fun cell => { cell with pending := some retry }
          obtain rfl := Option.some.inj (foundAfter.symm.trans found')
          obtain rfl := Option.some.inj inSlot
          exact different
        · rw [at_stage]
          rfl
      · rename_i elsewhere
        obtain ⟨_, rfl⟩ := Prod.mk.injEq .. ▸ ran
        have aside : s.Aside me s := .refl me s
        refine ⟨aside.toInside, ⟨ok.lookups, ok.cooldowns, aside.step⟩, handles, .inr ⟨?_, flight, flown, ?_⟩⟩
        · refine follows.sound.vacated handles.1 fun cell' pending found' inSlot equal => elsewhere ?_
          obtain rfl : cell = cell' := Option.some.inj (found.symm.trans found')
          rw [Gate.holdsPending, inSlot]
          exact decide_eq_true (equal.trans same.symm)
        · rw [returned]
          rfl

theorem applyColdResult_audit {result : Except DecisionSourceError (Publication P)} (firm : Firm rt me L)
    (named : fetch.subject = fetch.entry.subject) :
    (audit rt).Spec me (applyColdResult rt fetch.subject fetch.entry fetch.generation result)
      (Gate.During me .none fun s => L s ∧ s.Handles fetch (.returned me))
      fun _ => Gate.During me .none fun s => (L s ∧ s.Handles fetch (.returned me)) ∧ s.Resolved fetch := by
  have handles : Context rt me fun s => L s ∧ s.Handles fetch (.returned me) := firm.handles rfl
  have settled : Firm rt me fun s => L s ∧ s.Settled fetch.entry.id := firm.lasting (.settled _)
  unfold applyColdResult
  cases result with
  | ok publication =>
      have plain : (EntryEvent.published publication : EntryEvent T P).Plain me := trivial
      refine .bind (Entry.compareExchange_audit handles (fun s held => held.2.1.2) plain ?_) fun swapped => ?_
      · rw [Entry.publishedSnapshot, Entry.decisionSnapshot_state]
        cases publication.result.decision <;> exact nofun
      · dsimp only
        split
        · exact .bind ((Entry.replacePending_none_audit settled (fun s held => held.2) rfl rfl).pre
            fun s _ _ held => ⟨held.1, ⟨held.2.1.1, held.2.2 (.inr rfl)⟩, held.2.1.2⟩) fun _ =>
              .done fun s _ _ held => ⟨held.1, ⟨held.2.1.1, held.2.2 rfl⟩, .inl held.2.1.2⟩
        · exact .done fun s _ _ held => ⟨held.1, held.2.1, .inl (held.2.2 (.inr rfl))⟩
  | error error =>
      dsimp only
      split
      · refine .bind (clockNow_keeps handles) fun now => ?_
        refine .bind (Entry.stateAt_audit handles fun s held => held.2.1.2) fun state => ?_
        split
        · refine .bind ((newFetchAfter_audit handles fun s held => held.2.1.2).pre
            fun s _ _ held => ⟨held.1, held.2.1⟩) fun retry => ?_
          refine .given (fun s _ _ held => held.2.2.1) fun made => ?_
          refine .bind ((placeRetry_audit firm ?_).pre fun s _ _ held =>
            ⟨held.1, held.2.1, held.2.2.2⟩) fun _ => keepsDone
          rw [made]
        · rename_i busy
          exact .done fun s _ _ held => ⟨held.1, held.2.1, .inl (held.2.2 busy)⟩
      · exact .bind (removeFailed_audit handles (fun s held => held.2) named) fun _ => keepsDone

theorem applyPublication_audit {prepared : Except DecisionSourceError (Publication P)}
    (firm : Firm rt me L) (named : fetch.subject = fetch.entry.subject) :
    (audit rt).Spec me (do
      let now ← clockNow
      let checked := checkPublication rt fetch.entry now prepared
      match fetch.refreshFrom with
      | some current => applyRefreshResult rt fetch.entry fetch.generation now current checked
      | none => applyColdResult rt fetch.subject fetch.entry fetch.generation checked)
      (Gate.During me .none fun s => (L s ∧ s.Handles fetch (.returned me)) ∧ s.Turn me fetch)
      fun _ => Gate.During me .none fun s =>
        (L s ∧ s.Handles fetch (.returned me)) ∧ s.Resolved fetch := by
  have turn : Context rt me fun s => (L s ∧ s.Handles fetch (.returned me)) ∧ s.Turn me fetch :=
    (firm.handles rfl).turn fetch
  refine .bind (clockNow_keeps turn) fun now => ?_
  dsimp only
  split
  · rename_i refresh
    exact applyRefreshResult_audit firm (by rw [refresh]; rfl)
  · exact (applyColdResult_audit firm named).pre fun s _ _ held => ⟨held.1, held.2.1⟩

theorem applyFetchResult_audit {result : Except DecisionSourceError (DecisionResult P)} (firm : Firm rt me L)
    (named : fetch.subject = fetch.entry.subject) :
    (audit rt).Spec me
      (applyFetchResult rt fetch.subject fetch.entry fetch.generation fetch.refreshFrom result)
      (Gate.During me .none fun s => (L s ∧ s.Handles fetch (.returned me)) ∧ s.Turn me fetch)
      fun _ => Gate.During me .none fun s => (L s ∧ s.Handles fetch (.returned me)) ∧ s.Resolved fetch := by
  have turn : Context rt me fun s => (L s ∧ s.Handles fetch (.returned me)) ∧ s.Turn me fetch :=
    (firm.handles rfl).turn fetch
  refine .bind (Entry.pendingGeneration_audit turn (fun s held => held.1.2) rfl) fun pending => ?_
  split
  · rename_i missing
    exact .done fun s _ _ held =>
      ⟨held.1, held.2.1.1, .inr (held.2.2.1 (Option.isNone_iff_eq_none.mp missing))⟩
  · cases result with
    | ok value =>
        exact .bind ((keepsRead turn fun _ _ _ _ => rfl).pre fun s _ _ held => ⟨held.1, held.2.1⟩)
          fun publication => .bind keepsDone fun _ => applyPublication_audit firm named
    | error error =>
        exact .bind (.done fun s _ _ held => ⟨held.1, held.2.1⟩) fun _ =>
          applyPublication_audit firm named

theorem finishFetch_audit {result : FetchResult} (firm : Firm rt me L) :
    (audit rt).Spec me (finishFetch fetch.generation result)
      (Gate.During me .none fun s => (L s ∧ s.Handles fetch (.returned me)) ∧ s.Resolved fetch)
      fun _ => Gate.During me .none L := by
  have handles : Context rt me fun s => L s ∧ s.Handles fetch (.returned me) := firm.handles rfl
  refine (firmAct (M := fun _ _ => True) firm (handles.lasting (lasting_resolved fetch)).stable
    (fun s held => held.1.1) fun s choice finished after follows ok held ran => ?_).post
      fun _ s _ _ held => ⟨held.1, held.2.1⟩
  obtain ⟨⟨_, handles⟩, resolved⟩ := held
  obtain ⟨_, rfl⟩ := Prod.mk.injEq .. ▸ Option.some.inj ran
  obtain ⟨flight, flown, rfl, _⟩ := handles.flight
  obtain ⟨turn, same⟩ := endTurn_with s ⟨me, choice⟩
  rw [same] at follows ⊢
  exact ⟨.passTurn s turn s.cells _, ok.proceeds_alone follows flown
    (Gate.updateFlight_some flown fun flight =>
      { flight with stage := .finished, outcome := some result })
    ⟨rfl, rfl, rfl, rfl, fun _ underway => (by cases underway), fun _ waiting => (by cases waiting)⟩
    (fun _ => resolved) rfl, trivial⟩

/-- The future of a lookup, whoever polls it. -/
theorem runFetch_keeps {generation : Nat} (firm : Firm rt me L) :
    Keeps rt me .none L (runFetch (T := T) (P := P) rt generation) := by
  refine .bind (beginPoll_audit firm) fun fetch => .given (fun s _ _ held => held.2.2.1) fun named => ?_
  obtain ⟨rfl, named⟩ := named
  have turn : Context rt me fun s => (L s ∧ s.Handles fetch (.returned me)) ∧ s.Turn me fetch :=
    (firm.handles rfl).turn fetch
  have rest : (audit rt).Spec me (do
      let answer ← callSource rt fetch
      let result ← lookupResult answer
      let alive ← upgradeEntry fetch.entry
      let result ←
        if alive then
          applyFetchResult rt fetch.subject fetch.entry fetch.generation fetch.refreshFrom result
        else pure (discard result)
      finishFetch fetch.generation result)
      (Gate.During me .none fun s =>
        ((L s ∧ s.Handles fetch (.polled me)) ∧ s.Waited fetch) ∧ s.Turn me fetch)
      fun _ => Gate.During me .none L := by
    refine .bind (callSource_audit firm) fun answer => ?_
    refine .bind ((lookupResult_keeps turn).pre fun s _ _ held =>
      ⟨held.1, ⟨held.2.1, held.2.2.1⟩, held.2.2.2⟩) fun result => ?_
    refine .bind (upgradeEntry_audit turn fun s held => held.1.2.1.2) fun alive => ?_
    cases alive with
    | true =>
        exact .bind ((applyFetchResult_audit firm named).pre fun s _ _ held => ⟨held.1, held.2.1⟩)
          fun _ => finishFetch_audit firm
    | false =>
        exact .bind (.done fun s _ _ held => ⟨held.1, held.2.1.1, .inl (held.2.2 rfl)⟩) fun _ =>
          finishFetch_audit firm
  dsimp only
  split
  · rename_i undelayed
    refine rest.pre fun s _ _ held => ⟨held.1, ⟨⟨held.2.1, held.2.2.2.1⟩, fun flight flown delay delayed => ?_⟩,
      held.2.2.2.2⟩
    rw [undelayed] at delayed
    cases delayed
  · rename_i delay delayed
    exact .bind ((sleepDelay_audit firm delayed).pre fun s _ _ held =>
      ⟨held.1, ⟨held.2.1, held.2.2.2.1⟩, held.2.2.2.2⟩) fun _ => rest

end PolicyGate
