import PolicyGate.Specs.Apply

namespace PolicyGate

open Interleaving

variable {T P : Type} [DecidableEq T] {rt : Runtime} {me : Nat} {fetch : PendingFetch T P}
  {answer : Option (Answer P)}

/-- The publication is of what the source answered to this lookup, fresh when it was last checked. -/
structure Publishable (rt : Runtime) (fetch : PendingFetch T P) (answer : Option (Answer P))
    (publication : Publication P) : Prop where
  origin : publication.origin = fetch.origin
  answered : answer = some (.result (some publication.result))
  due : fetch.DueBy publication.now
  since : fetch.entry.epoch ≤ publication.now
  ordered : publication.now ≤ publication.checkedAt
  unexpired : fetch.entry.isExpiredAt (fetch.entry.publishedSnapshot rt publication).word
    publication.checkedAt = false

theorem publish_step {s : Gate T P} {publication : Publication P} {cell : EntryCell T P}
    {flight : Flight T P} (ok : s.Invariant rt.config) (held : s.Returned me fetch answer)
    (publishable : Publishable rt fetch answer publication)
    (flown : s.flights fetch.generation = some flight)
    (found : s.cells fetch.entry.id = some cell) (applicable : flight.Applicable cell) :
    NeutralStep rt.config s (s.replaceCurrent fetch.entry
      (fetch.entry.publishedSnapshot rt publication) (.published publication)) := by
  obtain ⟨flight', flown', same, returned⟩ := held.1.flight
  obtain rfl : flight = flight' := Option.some.inj (flown.symm.trans flown')
  have flightOk := ok.flights _ flight flown
  obtain ⟨cell', found', bound⟩ := flightOk.bound
  rw [same] at found'
  obtain rfl : cell = cell' := Option.some.inj (found.symm.trans found')
  have home : cell.entry = fetch.entry := bound.entry.trans (congrArg PendingFetch.entry same)
  have answered : flight.answer = some (.result (some publication.result)) := by
    have told := held.2 _ publishable.answered
    rw [answerOf, flown] at told
    exact told
  subst same
  exact .publishLookup ok flown found applicable (flightOk.asked (by rw [returned]; rfl)) answered
    publishable.origin publishable.due (home ▸ publishable.since) publishable.ordered (home ▸ publishable.unexpired)

theorem Gate.Holds.loaded {s : Gate T P} {stage : Stage} {current : SnapshotArc P}
    (held : s.Holds me fetch stage) (ok : s.Invariant rt.config)
    (refresh : fetch.refreshFrom = some current) : s.Loaded rt.config fetch.entry current := by
  obtain ⟨flight, flown, rfl, _⟩ := held.flight
  obtain ⟨cell, found, bound⟩ := (ok.flights _ flight flown).bound
  exact ⟨cell, found, bound.entry, (bound.captured current refresh).1,
    fun _ => bound.permitted (.inr (by rw [refresh]; rfl))⟩

theorem storeRefreshNotBefore_spec {current : SnapshotArc P}
    (refresh : fetch.refreshFrom = some current) :
    (discipline rt).Spec me (storeRefreshNotBefore rt fetch.entry fetch.generation)
      (Gate.Settles me fetch answer) fun _ => Gate.Returned me fetch answer := by
  refine .bind (clockNow_past (stable_settles answer)) fun now => ?_
  refine (stepAct (stable_settles answer) fun s choice result after ok held ran => ?_).pre
    fun s _ held => held.1
  obtain ⟨_, rfl⟩ := Prod.mk.injEq .. ▸ Option.some.inj ran
  obtain ⟨⟨holds, told⟩, turn⟩ := held
  obtain ⟨flight, flown, same, returned⟩ := holds.flight
  have step : OwnStep rt.config me s (s.updateCell fetch.entry.id
      (EntryCell.cool rt.config fetch.entry fetch.generation now)) :=
    .storeRefreshNotBefore ok (turn (by rw [refresh]; rfl))
      ⟨fetch.generation, flight, me, flown, congrArg (fun fetch => fetch.entry.id) same,
        by rw [same, refresh]; rfl, returned⟩
  exact ⟨step, holds.advance ok step (fun _ _ => rfl) flown returned rfl,
    lasting_told fetch.generation answer _ _ ok step.invariant step.advance.toExtends told⟩

theorem applyRefreshResult_spec {current : SnapshotArc P} {now : Nat}
    {result : Except DecisionSourceError (Publication P)}
    (refresh : fetch.refreshFrom = some current)
    (publishable : ∀ publication, result = .ok publication →
      Publishable rt fetch answer publication) :
    (discipline rt).Spec me
      (applyRefreshResult rt fetch.entry fetch.generation now current result)
      (Gate.Settles me fetch answer)
      fun _ s => s.Holds me fetch (.returned me) ∧ s.Parted fetch.generation := by
  have stable : (discipline rt).Stable me (Gate.Returned me fetch answer) :=
    (sheltered_returned answer).stable
  have finish : (discipline rt).Spec me
      (do let _ ← fetch.entry.replacePending fetch.generation none; pure (discard result))
      (Gate.Returned me fetch answer)
      fun _ s => s.Holds me fetch (.returned me) ∧ s.Parted fetch.generation :=
    .bind ((releaseReturned_spec (R := fun _ => True) (.const _)).pre fun s _ held =>
      ⟨trivial, held.1⟩) fun _ => .done fun s _ held => held.2
  unfold applyRefreshResult
  cases result with
  | ok publication =>
      dsimp only
      split
      · refine .bind ((Entry.compareAndSwap_spec (R := fun s => s.Returned me fetch answer ∧
            s.Loaded rt.config fetch.entry current) (H := Gate.Returned me fetch answer)
          (stable.and (Lasting.loaded fetch.entry current).stable) (fun s held => held.2)
          fun s cell ok held found same address _ => ?_).weaken
            (fun s ok held => ⟨held.1, held.1.1.loaded ok refresh⟩)
            fun changed s _ held => ?_) fun _ => finish
        · obtain ⟨flight, flown, same_fetch, _⟩ := held.1.1.flight
          have applicable : flight.Applicable cell := by
            rw [Flight.Applicable, same_fetch, refresh]
            exact address
          exact .of_neutral stable ok held.1
            (publish_step ok held.1 (publishable publication rfl) flown found applicable)
        · by_cases unchanged : changed.address = current.address
          · exact held.1 unchanged
          · exact (held.2 unchanged).1.1
      · exact finish.pre fun s _ held => held.1
  | error error => exact .bind (storeRefreshNotBefore_spec refresh) fun _ => finish

theorem kept_holds {stage : Stage} :
    (discipline rt).Kept (Offers me) (Gate.Holds me fetch stage) :=
  fun before after ok ok' offers held =>
    ⟨lasting_booked fetch before after ok ok' offers.toExtends held.1, offers.at held.2.1,
      offers.resting held.2.2⟩

theorem removeFailed_spec {R : Gate T P → Prop} {subject : T} {entry : Entry T} {generation : Nat}
    (sheltered : Sheltered rt me R) (known : ∀ s, R s → s.Known entry) :
    (discipline rt).Spec me (removeFailed rt subject entry generation) R fun _ => R := by
  refine .bind (clockNow_past sheltered.stable) fun now => ?_
  refine .bind ((Subjects.removeIf_spec sheltered fun current _ => ?_).pre fun s _ held => held.1)
    fun removed => ?_
  · have stable : (discipline rt).Stable me fun s => (R s ∧ s.Locked me none) ∧ s.Known current :=
      (sheltered.stable.and (stable_locked none)).and (Lasting.known current).stable
    split
    · refine .bind (M := fun _ s => (R s ∧ s.Locked me none) ∧ s.Known current)
        (.bind (Entry.pendingOperation_spec stable fun s held => held.2) fun _ =>
          .done fun s _ held => held.1) fun pending => ?_
      split
      · exact .done fun s _ held => held.1
      · refine .bind ((Entry.compareExchange_spec (H := fun s => R s ∧ s.Locked me none)
          (sheltered.stable.and (stable_locked none)) (fun s held => known s held.1)
          fun s cell ok held found same pending => ?_).weaken (fun s _ held => held.1)
          fun result s _ held => (?_ : R s ∧ s.Locked me none)) fun _ => .done fun _ _ held => held
        · exact .of_neutral (sheltered.stable.and (stable_locked none)) ok held
            (.replaceStale ok found rfl rfl rfl EntrySnapshot.failed_state
              ((congrArg EntrySnapshot.state (ok.cells _ cell found).value).symm.trans pending) trivial)
        · split at held
          · exact held
          · exact held
    · exact .done fun s _ held => held.1
  · split
    · exact .bind (Subjects.setDirty_spec sheltered.stable) fun _ => republishIfDue_spec sheltered
    · exact republishIfDue_spec sheltered

theorem applyColdResult_spec {result : Except DecisionSourceError (Publication P)}
    (cold : fetch.refreshFrom = none) (named : fetch.subject = fetch.entry.subject)
    (publishable : ∀ publication, result = .ok publication →
      Publishable rt fetch answer publication) :
    (discipline rt).Spec me
      (applyColdResult rt fetch.subject fetch.entry fetch.generation result)
      (Gate.Returned me fetch answer) fun _ s => s.Holds me fetch (.returned me) := by
  have sheltered : Sheltered rt me (Gate.Returned me fetch answer) := sheltered_returned answer
  have stable := sheltered.stable
  unfold applyColdResult
  cases result with
  | ok publication =>
      refine .bind ((Entry.compareExchange_spec (H := Gate.Returned me fetch answer) stable
        (fun s held => held.1.1.2) fun s cell ok held found same pending => ?_).post
        fun swapped s _ held => (?_ : s.Returned me fetch answer)) fun swapped => ?_
      · obtain ⟨flight, flown, same_fetch, _⟩ := held.1.flight
        have applicable : flight.Applicable cell := by
          rw [Flight.Applicable, same_fetch, cold]
          exact pending
        exact .of_neutral stable ok held
          (publish_step ok held (publishable publication rfl) flown found applicable)
      · split at held
        · exact held
        · exact held
      · dsimp only
        split
        · exact .bind ((releaseReturned_spec (R := fun _ => True) (.const _)).pre
            fun s _ held => ⟨trivial, held.1⟩) fun _ => .done fun s _ held => held.2.1
        · exact .done fun s _ held => held.1
  | error error =>
      dsimp only
      split
      · refine .bind (clockNow_past stable) fun now => ?_
        refine .bind ((Entry.stateAt_any stable fun s held => held.1.1.2).pre fun s _ held => held.1)
          fun state => ?_
        split
        · refine .bind ((newFetchAfter_spec (sheltered_holds fetch rfl).stable kept_holds
            (fun s held => held.1.2) named fun _ _ _ some_arc => by cases some_arc).pre
              fun s _ held => held.1) fun retry => ?_
          exact .bind placeRetry_spec fun _ => .done fun _ _ held => held
        · exact .done fun s _ held => held.1
      · exact .bind (removeFailed_spec sheltered fun s held => held.1.1.2) fun _ =>
          .done fun s _ held => held.1

structure Prepared (fetch : PendingFetch T P) (answer : Option (Answer P))
    (publication : Publication P) : Prop where
  origin : publication.origin = fetch.origin
  answered : answer = some (.result (some publication.result))
  due : fetch.DueBy publication.now
  since : fetch.entry.epoch ≤ publication.now

theorem prepare_spec {value : DecisionResult P}
    (answered : answer = some (.result (some value))) :
    (discipline rt).Spec me (decisionSnapshot fetch.origin value)
      (fun s => s.Settles me fetch answer ∧ fetch.DueBy s.clock)
      fun publication s => s.Settles me fetch answer ∧ Prepared fetch answer publication ∧
        publication.now ≤ s.clock := by
  refine (readAct ((stable_settles answer).and (Lasting.dueBy fetch).stable)
    fun s publication ok held viewed => ?_).post fun _ _ _ held => ⟨held.1.1, held.2⟩
  obtain rfl := Option.some.inj viewed
  obtain ⟨cell, found, same⟩ := held.1.1.1.1.2
  exact ⟨⟨rfl, answered, held.2, same ▸ (ok.cells _ cell found).epoch⟩, le_rfl⟩

omit [DecidableEq T] in
theorem publishable_of_checked {now : Nat} {publication : Publication P}
    {prepared : Except DecisionSourceError (Publication P)}
    (prepares : ∀ publication, prepared = .ok publication →
      Prepared fetch answer publication ∧ publication.now ≤ now)
    (checked : checkPublication rt fetch.entry now prepared = .ok publication) :
    Publishable rt fetch answer publication := by
  unfold checkPublication at checked
  cases prepared with
  | error error => cases checked
  | ok publication' =>
      dsimp only at checked
      split at checked
      · cases checked
      · rename_i live
        obtain rfl := Except.ok.inj checked
        obtain ⟨prepared, ordered⟩ := prepares publication' rfl
        exact ⟨prepared.origin, prepared.answered, prepared.due, prepared.since, ordered,
          Bool.eq_false_iff.mpr live⟩

theorem settlePrepared_spec (named : fetch.subject = fetch.entry.subject)
    (prepared : Except DecisionSourceError (Publication P)) :
    (discipline rt).Spec me (do
        let now ← clockNow
        let checked := checkPublication rt fetch.entry now prepared
        match fetch.refreshFrom with
        | some current => applyRefreshResult rt fetch.entry fetch.generation now current checked
        | none => applyColdResult rt fetch.subject fetch.entry fetch.generation checked)
      (fun s => s.Settles me fetch answer ∧ ∀ publication, prepared = .ok publication →
        Prepared fetch answer publication ∧ publication.now ≤ s.clock)
      fun _ s => s.Holds me fetch (.returned me) ∧
        (fetch.refreshFrom.isSome = true → s.Parted fetch.generation) := by
  have stable : (discipline rt).Stable me (Gate.Settles me fetch answer) := stable_settles answer
  refine .bind ((clockNow_spec (M := fun now _ => ∀ publication, prepared = .ok publication →
    Prepared fetch answer publication ∧ publication.now ≤ now)
    (stable.and (.forall fun (publication : Publication P) => .forall fun _ =>
      Discipline.Kept.and (.const _) (Lasting.clock publication.now).stable))
    fun s _ held => held.2).post fun now s _ held => And.intro held.2 held.1.1) fun now => ?_
  refine .given fun prepares => ?_
  have publishable : ∀ publication,
      checkPublication rt fetch.entry now prepared = .ok publication →
        Publishable rt fetch answer publication := fun _ => publishable_of_checked prepares
  dsimp only
  split
  · rename_i current refresh
    exact (applyRefreshResult_spec refresh publishable).post fun _ s _ held =>
      ⟨held.1, fun _ => held.2⟩
  · rename_i cold
    refine (applyColdResult_spec cold named publishable).weaken (fun s _ held => held.1)
      fun _ s _ held => ⟨held, fun refresh => ?_⟩
    rw [cold] at refresh
    cases refresh

theorem applyFetchResult_spec {result : Except DecisionSourceError (DecisionResult P)}
    (named : fetch.subject = fetch.entry.subject)
    (answered : ∀ value, result = .ok value → answer = some (.result (some value))) :
    (discipline rt).Spec me
      (applyFetchResult rt fetch.subject fetch.entry fetch.generation fetch.refreshFrom result)
      (Gate.Settles me fetch answer)
      fun _ s => s.Holds me fetch (.returned me) ∧
        (fetch.refreshFrom.isSome = true → s.Parted fetch.generation) := by
  have stable : (discipline rt).Stable me (Gate.Settles me fetch answer) := stable_settles answer
  refine .bind (Entry.pendingGeneration_spec stable (fun s held => held.1.1.1)
    fun s held => ⟨_, held.1.1.2.1, rfl⟩) fun pending => ?_
  split
  · rename_i missing
    exact .done fun s _ held => ⟨held.1.1.1, fun _ => held.2.1 (by simpa using missing)⟩
  · cases result with
    | ok value =>
        obtain ⟨found, present⟩ : ∃ found, pending = some found := by
          cases pending with
          | none => exact absurd rfl ‹¬_›
          | some found => exact ⟨found, rfl⟩
        refine .bind ((prepare_spec (answered value rfl)).pre fun s _ held =>
          ⟨held.1, (held.2.2 found present).2⟩)
          fun publication => .bind (.done fun s _ held => ⟨held.1, ?_⟩)
            (settlePrepared_spec named)
        rintro _ same
        obtain rfl := Except.ok.inj same
        exact held.2
    | error error =>
        exact .bind (.done fun s _ held => ⟨held.1, by simp⟩) (settlePrepared_spec named)

theorem finishFetch_spec {result : FetchResult} :
    (discipline rt).Spec me (finishFetch fetch.generation result)
      (fun s => s.Holds me fetch (.returned me) ∧
        (fetch.refreshFrom.isSome = true → s.Parted fetch.generation))
      fun _ s => s.Resting me := by
  refine stepAct ((sheltered_holds fetch rfl).stable.and (.forall fun _ =>
    (lasting_parted fetch.generation).stable)) fun s choice finished after ok held ran => ?_
  obtain ⟨_, rfl⟩ := Prod.mk.injEq .. ▸ Option.some.inj ran
  obtain ⟨flight, flown, same, returned⟩ := held.1.flight
  have finished : OwnStep rt.config me s (s.updateFlight fetch.generation fun flight =>
      { flight with stage := .finished, outcome := some result }) :=
    .finishFetch ok flown returned fun refresh => (held.2 (same ▸ refresh)).1
  have step : OwnStep rt.config me s (endTurn _ ⟨me, choice⟩) := finished.endTurn rfl
  rw [endTurn_updateFlight] at step
  have flights := endTurn_flights s ⟨me, choice⟩
  refine ⟨step, step.advance.toExtends.resting_of_flights held.1.2.2 fetch.generation
    (fun other different => ?_) fun stage found enqueuer => ?_⟩
  · rw [Gate.updateFlight_flights, Function.update_of_ne different, flights]
  · rw [Gate.stageOf_of_flights (Gate.updateFlight_at (flights.symm ▸ flown) _),
      Option.some.injEq] at found
    rw [← found] at enqueuer
    cases enqueuer

/-- Whoever polls a lookup leaves nothing undone. -/
theorem runFetch_spec {generation : Nat} :
    (discipline rt).Spec me (runFetch (T := T) (P := P) rt generation) (fun s => s.Resting me)
      fun _ s => s.Resting me := by
  refine .bind beginPoll_spec fun fetch => .given fun ⟨same, named⟩ => ?_
  subst same
  have rest : (discipline rt).Spec me (do
      let answer ← callSource rt fetch
      let result ← lookupResult answer
      let alive ← upgradeEntry fetch.entry
      let result ←
        if alive then
          applyFetchResult rt fetch.subject fetch.entry fetch.generation fetch.refreshFrom result
        else pure (discard result)
      finishFetch fetch.generation result) (Gate.Polls me fetch (.polled me))
      fun _ s => s.Resting me := by
    refine .bind callSource_spec fun answer => ?_
    refine .bind (lookupResult_spec (stable_settles answer)) fun result => ?_
    refine .given fun answered => ?_
    refine .bind upgradeEntry_spec fun alive => ?_
    cases alive with
    | true => exact .bind ((applyFetchResult_spec named answered).pre fun s _ held => held.1) fun _ =>
        finishFetch_spec
    | false =>
        exact .bind (.done fun s _ held => ⟨held.1.1.1, fun _ => held.2 rfl⟩) fun _ => finishFetch_spec
  dsimp only
  split
  · exact rest
  · exact .bind sleepDelay_spec fun _ => rest

end PolicyGate
