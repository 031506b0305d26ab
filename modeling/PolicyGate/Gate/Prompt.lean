import PolicyGate.Gate.Aborts

namespace PolicyGate

open Interleaving Program
open Promptly (act modify cell)

variable {T P : Type} {rt : Runtime}

theorem newFetchAfter_prompt (entry : Entry T) (subject : T) (delay : Option Nat)
    (refreshFrom : Option (SnapshotArc P)) :
    Promptly (newFetchAfter entry subject delay refreshFrom) := by
  refine act fun pick s result after ran => ?_
  obtain ⟨rfl, rfl⟩ := Prod.mk.injEq .. ▸ Option.some.inj ran
  exact .made rfl rfl

theorem storeRefreshNotBefore_prompt (entry : Entry T) (generation : Nat) :
    Promptly (P := P) (storeRefreshNotBefore rt entry generation) :=
  .bind .read fun _ => modify fun _ => .of_flights rfl

theorem takeTurn_spares {s after : Gate T P} {pick : Pick} {refresh : Bool}
    (took : takeTurn s pick refresh = some after) : s.Spares after := by
  unfold takeTurn at took
  split at took
  · split at took
    · cases took
    · exact Option.some.inj took ▸ .of_flights rfl
  · exact Option.some.inj took ▸ .refl s

theorem endTurn_spares (s : Gate T P) (pick : Pick) : s.Spares (endTurn s pick) := by
  unfold endTurn
  split
  · exact .of_flights rfl
  · exact .refl s

theorem markReturned_spares (s : Gate T P) (pick : Pick) (fetch : PendingFetch T P) :
    s.Spares (markReturned s pick fetch) :=
  (Gate.Spares.setStage s fetch.generation _).trans (.note _ fetch.entry.id _)

theorem sleepDelay_prompt (generation delay : Nat) :
    Promptly (T := T) (P := P) (sleepDelay rt generation delay) := by
  refine .bind .read fun now => .bind (act fun pick s result after ran => ?_) fun _ => .ite .done
    (act fun pick s result after ran => ?_) <;> split at ran
  · obtain ⟨rfl, rfl⟩ := Prod.mk.injEq .. ▸ Option.some.inj ran
    exact .refl s
  · obtain ⟨rfl, rfl⟩ := Prod.mk.injEq .. ▸ Option.some.inj ran
    exact .setStage s generation _
  · obtain ⟨rfl, rfl⟩ := Prod.mk.injEq .. ▸ Option.some.inj ran
    exact .setStage s generation _
  · cases ran

theorem startCall_prompt (fetch : PendingFetch T P) : Promptly (startCall fetch) := by
  refine act fun pick s result after ran => ?_
  obtain ⟨rfl, rfl⟩ := Prod.mk.injEq .. ▸ Option.some.inj ran
  refine .trans ?_ (.note _ fetch.entry.id _)
  exact .updateFlight s fetch.generation (fun _ => rfl) fun _ aborted => aborted

theorem lookupResult_prompt (answer : Option (Answer P)) :
    Promptly (T := T) (lookupResult answer) := by
  unfold lookupResult
  split
  · exact .done
  · exact .done
  · exact .done
  · exact .done
  · split
    · exact .done
    · exact .bind .read fun _ => .ite .done .done

theorem upgradeEntry_prompt (entry : Entry T) : Promptly (P := P) (upgradeEntry entry) := by
  refine act fun pick s result after ran => ?_
  split at ran
  · obtain ⟨rfl, rfl⟩ := Prod.mk.injEq .. ▸ Option.some.inj ran
    exact .refl s
  · split at ran
    · obtain ⟨rfl, rfl⟩ := Prod.mk.injEq .. ▸ Option.some.inj ran
      exact .refl s
    · cases ran

variable [DecidableEq T]

omit [DecidableEq T] in
theorem applyRefreshResult_prompt (entry : Entry T) (generation now : Nat) (current : SnapshotArc P)
    (result : Except DecisionSourceError (Publication P)) :
    Promptly (applyRefreshResult rt entry generation now current result) := by
  have finish : Promptly (do
      let _ ← entry.replacePending generation none
      pure (discard result) : Program (Gate T P) FetchResult) :=
    .bind (entry.replacePending_prompt generation none) fun _ => .done
  cases result with
  | ok publication =>
      exact .ite (.bind (entry.compareAndSwap_prompt current _ _) fun _ => finish) finish
  | error error => exact .bind (storeRefreshNotBefore_prompt entry generation) fun _ => finish

theorem removeFailed_prompt (subject : T) (entry : Entry T) (generation : Nat) :
    Promptly (P := P) (removeFailed rt subject entry generation) := by
  refine .bind .read fun now => .bind (Subjects.removeIf_prompt subject now fun current => ?_) fun _ =>
    .ite (.bind (Subjects.setDirty_prompt true) fun _ => republishIfDue_prompt) republishIfDue_prompt
  exact .ite (.bind (current.pendingGeneration_prompt generation) fun _ => .ite .done
    (.bind (entry.compareExchange_prompt _ _ _) fun _ => .done)) .done

theorem applyColdResult_prompt (subject : T) (entry : Entry T) (generation : Nat)
    (result : Except DecisionSourceError (Publication P)) :
    Promptly (applyColdResult rt subject entry generation result) := by
  cases result with
  | ok publication =>
      exact .bind (entry.compareExchange_prompt _ _ _) fun _ =>
        .ite (.bind (entry.replacePending_prompt generation none) fun _ => .done) .done
  | error error =>
      refine .ite (.bind .read fun now => .bind (entry.stateAt_prompt .map now) fun _ =>
        .ite ?_ .done)
        (.bind (removeFailed_prompt subject entry generation) fun _ => .done)
      exact .bind (newFetchAfter_prompt entry subject _ none) fun retry =>
        .bind (entry.replacePending_prompt generation (some retry)) fun _ => .done

theorem applyFetchResult_prompt (subject : T) (entry : Entry T) (generation : Nat)
    (refreshFrom : Option (SnapshotArc P)) (result : Except DecisionSourceError (DecisionResult P)) :
    Promptly (applyFetchResult rt subject entry generation refreshFrom result) := by
  refine .bind (entry.pendingGeneration_prompt generation) fun _ => .ite .done ?_
  cases refreshFrom with
  | none =>
      cases result with
      | ok value =>
          exact .bind .read fun _ => .bind .done fun _ => .bind .read fun _ =>
            applyColdResult_prompt subject entry generation _
      | error error =>
          exact .bind .done fun _ => .bind .read fun _ => applyColdResult_prompt subject entry generation _
  | some current =>
      cases result with
      | ok value =>
          exact .bind .read fun _ => .bind .done fun _ => .bind .read fun now =>
            applyRefreshResult_prompt entry generation now current _
      | error error =>
          exact .bind .done fun _ => .bind .read fun now =>
            applyRefreshResult_prompt entry generation now current _

omit [DecidableEq T] in
theorem beginPoll_prompt (generation : Nat) : Promptly (T := T) (P := P) (beginPoll generation) := by
  refine act fun pick s result after ran => ?_
  split at ran
  · dsimp only at ran
    split at ran
    · obtain ⟨turned, took, same⟩ := Option.map_eq_some_iff.mp ran
      obtain ⟨rfl, rfl⟩ := Prod.mk.injEq .. ▸ same
      exact (takeTurn_spares took).trans (.setStage turned generation _)
    · cases ran
  · cases ran

omit [DecidableEq T] in
theorem awaitSource_prompt (fetch : PendingFetch T P) (deadline : Option Nat) :
    Promptly (awaitSource fetch deadline) := by
  refine .bind (act fun pick s result after ran => ?_) fun ready => ?_
  · split at ran
    · obtain ⟨rfl, rfl⟩ := Prod.mk.injEq .. ▸ Option.some.inj ran
      exact markReturned_spares s pick fetch
    · obtain ⟨rfl, rfl⟩ := Prod.mk.injEq .. ▸ Option.some.inj ran
      exact endTurn_spares s pick
  · cases ready with
    | some answer => exact .done
    | none =>
        refine act fun pick s result after ran => ?_
        split at ran
        · obtain ⟨turned, took, ran⟩ := Option.bind_eq_some_iff.mp ran
          refine (takeTurn_spares took).trans ?_
          split at ran
          · split at ran
            · obtain ⟨rfl, rfl⟩ := Prod.mk.injEq .. ▸ Option.some.inj ran
              exact markReturned_spares turned pick fetch
            · cases ran
          · obtain ⟨answer, _, same⟩ := Option.map_eq_some_iff.mp ran
            obtain ⟨rfl, rfl⟩ := Prod.mk.injEq .. ▸ same
            exact markReturned_spares turned pick fetch
        · cases ran

omit [DecidableEq T] in
theorem callSource_prompt (fetch : PendingFetch T P) : Promptly (callSource rt fetch) := by
  refine .bind .read fun now => ?_
  cases checkedAdd rt now rt.config.unaryTimeout with
  | none => exact .bind (startCall_prompt fetch) fun _ => awaitSource_prompt fetch none
  | some deadline =>
      refine .bind .read fun _ => .ite (act fun pick s result after ran => ?_)
        (.bind (startCall_prompt fetch) fun _ => awaitSource_prompt fetch (some deadline))
      obtain ⟨rfl, rfl⟩ := Prod.mk.injEq .. ▸ Option.some.inj ran
      exact markReturned_spares s pick fetch

omit [DecidableEq T] in
theorem finishFetch_prompt (generation : Nat) (result : FetchResult) :
    Promptly (T := T) (P := P) (finishFetch generation result) := by
  refine act fun pick s result after ran => ?_
  obtain ⟨rfl, rfl⟩ := Prod.mk.injEq .. ▸ Option.some.inj ran
  exact (endTurn_spares s pick).trans
    (.updateFlight _ generation (fun _ => rfl) fun _ aborted => aborted)

theorem runFetch_prompt (generation : Nat) : Promptly (T := T) (P := P) (runFetch rt generation) := by
  refine .bind (beginPoll_prompt generation) fun fetch => ?_
  have rest : Promptly (do
      let answer ← callSource rt fetch
      let result ← lookupResult answer
      let alive ← upgradeEntry fetch.entry
      let result ←
        if alive then applyFetchResult rt fetch.subject fetch.entry generation fetch.refreshFrom result
        else pure (discard result)
      finishFetch generation result : Program (Gate T P) Unit) :=
    .bind (callSource_prompt fetch) fun answer => .bind (lookupResult_prompt answer) fun result =>
      .bind (upgradeEntry_prompt fetch.entry) fun _ =>
        .ite (.bind (applyFetchResult_prompt _ _ _ _ result) (finishFetch_prompt generation))
          (.bind .done (finishFetch_prompt generation))
  cases fetch.delay with
  | none => exact rest
  | some delay => exact .bind (sleepDelay_prompt generation delay) fun _ => rest

omit [DecidableEq T] in
theorem claimPending_prompt (entry : Entry T) (refresh : PendingFetch T P) :
    Promptly (claimPending entry refresh) := by
  refine cell fun pick s cell => ?_
  cases cell.pending with
  | some pending => exact .refl s
  | none => exact .trans (.of_flights rfl) (.setStage _ refresh.generation _)

omit [DecidableEq T] in
theorem revalidate_prompt (entry : Entry T) (refresh : PendingFetch T P) (current : SnapshotArc P) :
    Promptly (revalidate entry refresh current) := by
  refine act fun pick s result after ran => ?_
  obtain ⟨latest, _, same⟩ := Option.map_eq_some_iff.mp ran
  split at same <;> obtain ⟨rfl, rfl⟩ := Prod.mk.injEq .. ▸ same
  · exact .setStage s refresh.generation _
  · exact .refl s

omit [DecidableEq T] in
theorem releaseClaim_prompt (entry : Entry T) (generation : Nat) :
    Promptly (P := P) (releaseClaim entry generation) :=
  .bind (entry.replacePending_prompt generation none) fun _ => .done

omit [DecidableEq T] in
theorem sendRefresh_prompt (entry : Entry T) (refresh : PendingFetch T P) (deadline : Nat) :
    Promptly (sendRefresh rt entry refresh deadline) := by
  refine .bind .read fun _ => .ite .done
    (.wait (fun pick s result after ran => ?_) (releaseClaim_prompt entry refresh.generation))
  split at ran <;> split at ran
  · obtain ⟨rfl, rfl⟩ := Prod.mk.injEq .. ▸ Option.some.inj ran
    exact Gate.Spares.refl s
  · cases ran
  · obtain ⟨rfl, rfl⟩ := Prod.mk.injEq .. ▸ Option.some.inj ran
    exact Gate.Spares.refl s
  · cases ran
  · obtain ⟨rfl, rfl⟩ := Prod.mk.injEq .. ▸ Option.some.inj ran
    exact (Gate.Spares.setStage s refresh.generation .queued).trans (.of_flights rfl)
  · cases ran

omit [DecidableEq T] in
theorem enqueueRefresh_prompt (reader : Reader T) (entry : Entry T) (refresh : PendingFetch T P)
    (current : SnapshotArc P) (deadline : Nat) :
    Promptly (enqueueRefresh rt reader entry refresh current deadline) := by
  refine .bind (revalidate_prompt entry refresh current) fun _ =>
    .ite (.bind .read fun now => .bind (entry.refreshEligibleAt_prompt current.value now) fun _ =>
      .ite ?_ ?_) (.bind .done fun _ => .ite ?_ ?_)
  all_goals first
    | exact .bind (sendRefresh_prompt entry refresh deadline) fun _ =>
        .bind (entry.admission_prompt reader) fun _ =>
          .ite (.bind (releaseClaim_prompt entry refresh.generation) fun _ => .done) .done
    | exact .bind (entry.admission_prompt reader) fun _ =>
        .bind (releaseClaim_prompt entry refresh.generation) fun _ => .done

omit [DecidableEq T] in
theorem admissionOnAccess_prompt (reader : Reader T) (subject : T) (entry : Entry T)
    (admissionDeadline : Option Nat) :
    Promptly (P := P) (admissionOnAccess rt reader subject entry admissionDeadline) := by
  refine .bind (entry.admission_prompt reader) fun found => ?_
  cases found with
  | none => exact .done
  | some admission =>
      refine .ite .done (.bind .read fun current => .bind .read fun accessTime =>
        .bind (entry.refreshDueAt_prompt current.value accessTime) fun _ => .ite ?_ .done)
      cases queueDeadline rt accessTime admissionDeadline with
      | none => exact .done
      | some deadline =>
          exact .bind (newFetchAfter_prompt entry subject none (some current)) fun refresh =>
            .bind (claimPending_prompt entry refresh) fun _ =>
              .ite (enqueueRefresh_prompt reader entry refresh current deadline) .done

theorem check_prompt (subject : T) : Promptly (P := P) (check rt subject) := by
  refine .bind .read fun found => ?_
  cases found with
  | none => exact .done
  | some entry =>
      refine .bind .read fun now => .bind (entry.verdictAt_prompt _ now) fun verdict => ?_
      cases verdict with
      | none => exact .done
      | some verdict =>
          exact .bind .read fun now => .bind (Subjects.touch_prompt subject entry now) fun _ =>
            admissionOnAccess_prompt _ subject entry none

theorem checkWithoutRefresh_prompt (subject : T) : Promptly (P := P) (checkWithoutRefresh rt subject) := by
  refine .bind .read fun found => ?_
  cases found with
  | none => exact .done
  | some entry =>
      refine .bind .read fun now => .bind (entry.verdictAt_prompt _ now) fun verdict => ?_
      cases verdict with
      | none => exact .done
      | some verdict =>
          exact .bind .read fun now => .bind (Subjects.touch_prompt subject entry now) fun _ =>
            entry.admission_prompt _

theorem refreshEntry_prompt (subject : T) (entry : Entry T) :
    Promptly (P := P) (refreshEntry rt subject entry) :=
  .bind .read fun now => .bind (Subjects.touch_prompt subject entry now) fun _ =>
    .ite (.bind (admissionOnAccess_prompt _ subject entry none) fun _ => .done) .done

omit [DecidableEq T] in
theorem awaitConnected_prompt (deadline seen : Nat) :
    Promptly (T := T) (P := P) (awaitConnected deadline seen) := by
  refine .bind .read fun _ => .ite .done (.iterate fun seen => .bind .read fun _ => .ite .done
    (.await fun pick s result after ran => ?_))
  split at ran <;> split at ran
  · obtain ⟨rfl, rfl⟩ := Prod.mk.injEq .. ▸ Option.some.inj ran
    exact Gate.Spares.refl s
  · cases ran
  · obtain ⟨rfl, rfl⟩ := Prod.mk.injEq .. ▸ Option.some.inj ran
    exact Gate.Spares.refl s
  · split at ran
    · obtain ⟨rfl, rfl⟩ := Prod.mk.injEq .. ▸ Option.some.inj ran
      exact Gate.Spares.refl s
    · cases ran

omit [DecidableEq T] in
theorem awaitFetch_prompt (deadline seen generation : Nat) :
    Promptly (T := T) (P := P) (awaitFetch deadline seen generation) := by
  refine .bind .read fun _ => .ite .done (.bind (modify fun s => .updateFlight s generation
    (fun _ => rfl) fun _ aborted => aborted) fun _ => .await fun pick s result after ran => ?_)
  have unmoved : after = s := by
    split at ran
    · split at ran <;> cases ran
      rfl
    · split at ran
      · cases ran
        rfl
      · split at ran <;> cases ran
        rfl
    · split at ran
      · cases ran
        rfl
      · split at ran <;> cases ran
        rfl
  exact unmoved ▸ Gate.Spares.refl s

omit [DecidableEq T] in
theorem sleepUntilRetry_prompt (deadline delay : Nat) :
    Promptly (T := T) (P := P) (sleepUntilRetry rt deadline delay) := by
  refine .bind .read fun _ => .bind .read fun _ => .ite .done (.await fun pick s result after ran => ?_)
  have unmoved : after = s := by
    split at ran
    · split at ran <;> cases ran
      rfl
    · split at ran
      · split at ran <;> cases ran
        rfl
      · cases ran
  exact unmoved ▸ Gate.Spares.refl s

omit [DecidableEq T] in
theorem joinableFetch_prompt (entry : Entry T) : Promptly (P := P) (joinableFetch entry) := by
  refine .bind .read fun pending => ?_
  cases pending with
  | none => exact .done
  | some fetch =>
      exact .bind .read fun now => .bind (entry.stateAt_prompt .map now) fun _ =>
        .ite (.bind (.bind .read fun _ => .done) fun _ => .done) .done

omit [DecidableEq T] in
theorem admitOnAccess_prompt (subject : T) (entry : Entry T) (deadline : Nat) (state : AdmitState) :
    Promptly (do
      match ← admissionOnAccess rt .admission subject entry (some deadline) with
      | some admission => pure (.inr (some admission))
      | none => pure (.inl state) : Program (Gate T P) (AdmitRound T)) := by
  refine .bind (admissionOnAccess_prompt _ subject entry (some deadline)) fun admission => ?_
  cases admission <;> exact .done

omit [DecidableEq T] in
theorem admitAfterLookup_prompt (subject : T) (entry : Entry T) (deadline : Nat) (state : AdmitState)
    (result : FetchResult) :
    Promptly (P := P) (admitAfterLookup rt subject entry deadline state result) := by
  refine .bind .read fun _ => .ite (.bind .read fun now => .bind (entry.stateAt_prompt .map now)
    fun entryState => ?_) .done
  cases entryState with
  | allowed | denied => exact admitOnAccess_prompt subject entry deadline state
  | pending | stale =>
      cases result with
      | ok value => exact .done
      | error error =>
          exact .ite .done (.bind (sleepUntilRetry_prompt deadline state.retryDelay) fun _ =>
            .ite .done .done)

omit [DecidableEq T] in
theorem admitPending_prompt (subject : T) (entry : Entry T) (deadline : Nat) (state : AdmitState) :
    Promptly (P := P) (admitPending rt subject entry deadline state) := by
  refine .bind (joinableFetch_prompt entry) fun joined => ?_
  cases joined with
  | none => exact .done
  | some fetch =>
      refine .bind (awaitFetch_prompt deadline state.seen fetch.generation) fun lookup => ?_
      cases lookup with
      | aborted | connectionChanged => exact .done
      | timedOut =>
          exact .bind (admissionOnAccess_prompt _ subject entry (some deadline)) fun _ => .done
      | result result => exact admitAfterLookup_prompt subject entry deadline state result

theorem removeEntry_prompt (subject : T) (now : Nat) {predicate : Entry T → Program (Gate T P) Bool}
    {rest : Program (Gate T P) (AdmitRound T)} (asks : ∀ entry, Promptly (predicate entry))
    (further : Promptly rest) : Promptly (do
      let removed ← Subjects.removeIf rt subject now predicate
      if removed then Subjects.setDirty true
      rest : Program (Gate T P) (AdmitRound T)) :=
  .bind (Subjects.removeIf_prompt subject now asks) fun _ =>
    .ite (.bind (Subjects.setDirty_prompt true) fun _ => further) further

theorem admitStale_prompt (subject : T) (entry : Entry T) (state : AdmitState) :
    Promptly (P := P) (admitStale rt subject entry state) :=
  .bind .read fun now => removeEntry_prompt subject now
    (fun current => .ite (.bind .read fun now => .bind (current.stateAt_prompt .map now) fun _ => .done)
      .done) (.bind republishIfDue_prompt fun _ => .done)

theorem admitEntry_prompt (subject : T) (entry : Entry T) (deadline : Nat) (state : AdmitState) :
    Promptly (P := P) (admitEntry rt subject entry deadline state) := by
  refine .bind .read fun now => .bind (entry.stateAt_prompt .map now) fun entryState => ?_
  cases entryState with
  | allowed | denied => exact admitOnAccess_prompt subject entry deadline state
  | pending => exact admitPending_prompt subject entry deadline state
  | stale => exact admitStale_prompt subject entry state

theorem admitRound_prompt (subject : T) (deadline : Nat) (state : AdmitState) :
    Promptly (P := P) (admitRound rt subject deadline state) := by
  refine .bind (awaitConnected_prompt deadline state.seen) fun connection => ?_
  cases connection with
  | timedOut | closed => exact .done
  | connected seen =>
      refine .bind .read fun now => .bind (Subjects.getOrInsertWith_prompt subject now) fun found => ?_
      have rest : Promptly (do
          republishIfDue rt
          let now ← clockNow
          if deadline ≤ now then pure (.inr none)
          else do
            if ← isConnected then admitEntry rt subject found.1 deadline { state with seen }
            else do
              let removed ← Subjects.removeIf rt subject now fun current =>
                pure (current.id = found.1.id : Bool)
              if removed then Subjects.setDirty true
              pure (.inl { state with seen }) : Program (Gate T P) (AdmitRound T)) :=
        .bind republishIfDue_prompt fun _ => .bind .read fun now => .ite .done (.bind .read fun _ =>
          .ite (admitEntry_prompt subject found.1 deadline _)
            (removeEntry_prompt subject now (fun _ => .done) .done))
      exact .ite (.bind (Subjects.setDirty_prompt true) fun _ => rest) (.bind .read fun _ =>
        .ite (.bind (Subjects.setDirty_prompt true) fun _ => rest) rest)

theorem admitSubject_prompt (subject : T) : Promptly (P := P) (admitSubject rt subject) := by
  refine .bind .read fun now => ?_
  cases checkedAdd rt now rt.config.admissionTimeout with
  | none => exact .done
  | some deadline => exact .iterate fun state => admitRound_prompt subject deadline state

omit [DecidableEq T] in
theorem publishChange_prompt (entry : Entry T) (decision : Decision) :
    Promptly (P := P) (publishChange rt entry decision) :=
  .iterate fun _ => .bind .read fun _ => .bind .read fun _ =>
    .bind (entry.compareExchange_prompt _ _ _) fun _ =>
      .ite (.bind entry.abortPending_prompt fun _ => .done) .done

theorem applyChange_prompt (change : DecisionChange T) : Promptly (P := P) (applyChange rt change) := by
  refine .bind .read fun now => ?_
  cases change.decision with
  | some decision =>
      exact .bind (Subjects.update_prompt change.subject now fun entry =>
        publishChange_prompt entry decision) fun _ => republishIfDue_prompt
  | none =>
      exact .bind (Subjects.remove_prompt change.subject now) fun _ =>
        .ite (.bind (Subjects.setDirty_prompt true) fun _ => republishIfDue_prompt) republishIfDue_prompt

omit [DecidableEq T] in
theorem watchConnected_prompt : Promptly (T := T) (P := P) watchConnected :=
  .bind (publishEmpty_prompt .done) fun _ => .bind Subjects.clear_prompt fun _ =>
    modify fun _ => .of_flights rfl

omit [DecidableEq T] in
theorem watchDisconnected_prompt : Promptly (T := T) (P := P) watchDisconnected :=
  .bind (modify fun _ => .of_flights rfl) fun _ =>
    .bind (publishEmpty_prompt (.bind (modify fun _ => .of_flights rfl) fun _ =>
      modify fun _ => .of_flights rfl)) fun _ =>
        .bind Subjects.clear_prompt fun _ => modify fun _ => .of_flights rfl

omit [DecidableEq T] in
theorem dropWatcher_prompt : Promptly (T := T) (P := P) dropWatcher :=
  .bind (modify fun _ => .of_flights rfl) fun _ => .bind (modify fun _ => .of_flights rfl) fun _ =>
    .bind watchDisconnected_prompt fun _ => modify fun _ => .of_flights rfl

omit [DecidableEq T] in
theorem watcherAwait_prompt {β : Type} {action : Pick → Gate T P → Option (β × Gate T P)}
    (spares : ∀ pick s result after, action pick s = some (result, after) → s.Spares after) :
    Promptly (watcherAwait action) := .wait spares dropWatcher_prompt

omit [DecidableEq T] in
theorem openWatch_prompt : Promptly (T := T) (P := P) (openWatch rt) := by
  refine .bind .read fun _ => watcherAwait_prompt fun pick s result after ran => ?_
  split at ran
  · split at ran
    · split at ran
      · obtain ⟨rfl, rfl⟩ := Prod.mk.injEq .. ▸ Option.some.inj ran
        exact .refl s
      · cases ran
    · cases ran
  · obtain ⟨rfl, rfl⟩ := Prod.mk.injEq .. ▸ Option.some.inj ran
    exact .refl s
  · obtain ⟨rfl, rfl⟩ := Prod.mk.injEq .. ▸ Option.some.inj ran
    exact .of_flights rfl

omit [DecidableEq T] in
theorem fly_spares (s : Gate T P) (batch : List (PendingFetch T P)) : s.Spares (fly s batch) := by
  induction batch generalizing s with
  | nil => exact .refl s
  | cons fetch rest ih => exact (Gate.Spares.setStage s fetch.generation .flying).trans (ih _)

omit [DecidableEq T] in
theorem nextWork_prompt (stableAt : Option Nat) :
    Promptly (T := T) (P := P) (nextWork rt stableAt) := by
  refine watcherAwait_prompt fun pick s result after ran => ?_
  split at ran
  · split at ran
    · split at ran
      · obtain ⟨rfl, rfl⟩ := Prod.mk.injEq .. ▸ Option.some.inj ran
        exact .refl s
      · cases ran
    · cases ran
  · split at ran
    · cases ran
    · obtain ⟨rfl, rfl⟩ := Prod.mk.injEq .. ▸ Option.some.inj ran
      exact (fly_spares s _).trans (.of_flights rfl)
  · split at ran
    · obtain ⟨rfl, rfl⟩ := Prod.mk.injEq .. ▸ Option.some.inj ran
      exact .of_flights rfl
    · cases ran
  · split at ran
    · split at ran
      · obtain ⟨rfl, rfl⟩ := Prod.mk.injEq .. ▸ Option.some.inj ran
        exact .of_flights rfl
      · cases ran
    · cases ran

theorem sessionRound_prompt (state : SessionState) :
    Promptly (T := T) (P := P) (sessionRound rt state) := by
  refine .bind (nextWork_prompt state.stableAt) fun work => ?_
  cases work with
  | stable => exact .bind (modify fun _ => .of_flights rfl) fun _ => .done
  | refreshBatch | refreshDone => exact .done
  | change item =>
      cases item with
      | ended | error => exact .done
      | change change =>
          refine .bind (applyChange_prompt change) fun _ => .ite (.bind (watcherAwait_prompt
            fun pick s result after ran => ?_) fun _ => .done) .done
          obtain ⟨rfl, rfl⟩ := Prod.mk.injEq .. ▸ Option.some.inj ran
          exact .refl s

theorem runSession_prompt (reconnectDelay : Nat) :
    Promptly (T := T) (P := P) (runSession rt reconnectDelay) :=
  .bind watchConnected_prompt fun _ => .bind .read fun _ =>
    .bind (.iterate fun state => sessionRound_prompt state) fun _ =>
      .bind (modify fun _ => .of_flights rfl) fun _ => .done

omit [DecidableEq T] in
theorem sleepReconnect_prompt (delay : Nat) :
    Promptly (T := T) (P := P) (sleepReconnect rt delay) := by
  refine .bind (act fun pick s result after ran => ?_) fun draw => .bind .read fun now =>
    watcherAwait_prompt fun pick s result after ran => ?_
  · obtain ⟨rfl, rfl⟩ := Prod.mk.injEq .. ▸ Option.some.inj ran
    exact .refl s
  · split at ran
    · split at ran
      · obtain ⟨rfl, rfl⟩ := Prod.mk.injEq .. ▸ Option.some.inj ran
        exact .refl s
      · cases ran
    · cases ran

theorem watchSource_prompt : Promptly (T := T) (P := P) (watchSource rt) := by
  refine .iterate fun reconnectDelay => .bind openWatch_prompt fun opened => ?_
  have rest : ∀ reconnectDelay, Promptly (do
      watchDisconnected
      sleepReconnect rt reconnectDelay
      pure (.inl (min (reconnectDelay * 2) rt.config.maxReconnectDelay)) :
        Program (Gate T P) (Nat ⊕ Unit)) := fun reconnectDelay =>
    .bind watchDisconnected_prompt fun _ => .bind (sleepReconnect_prompt reconnectDelay) fun _ => .done
  cases opened with
  | stream => exact .bind (runSession_prompt reconnectDelay) rest
  | error | timedOut => exact .bind .done rest

omit [DecidableEq T] in
theorem report_prompt (outcome : Outcome T P) : Promptly (report outcome) := by
  refine act fun pick s result after ran => ?_
  obtain ⟨rfl, rfl⟩ := Prod.mk.injEq .. ▸ Option.some.inj ran
  exact .of_flights rfl

theorem Admission.hold_prompt (entry : Entry T) : Promptly (P := P) (Admission.hold entry) := by
  refine act fun pick s result after ran => ?_
  split at ran
  · split at ran
    · obtain ⟨rfl, rfl⟩ := Prod.mk.injEq .. ▸ Option.some.inj ran
      exact .refl s
    · cases ran
  · cases ran

omit [DecidableEq T] in
theorem Admission.check_prompt (entry : Entry T) : Promptly (P := P) (Admission.check entry) := by
  refine .bind .read fun now => .bind (entry.currentAt_prompt .check now) fun seen => .ite .done ?_
  cases seen.1.state with
  | pending => exact reachUnreachable_prompt
  | allowed | denied | stale => exact .bind (entry.refreshDueAt_prompt seen.1 now) fun _ => .done

theorem Call.program_prompt (call : Call T) : Promptly (P := P) (call.program rt) := by
  cases call with
  | admitSubject subject => exact .bind (admitSubject_prompt subject) fun _ => report_prompt _
  | tryCached subject => exact .bind (check_prompt subject) fun _ => report_prompt _
  | checkWithoutRefresh subject =>
      exact .bind (checkWithoutRefresh_prompt subject) fun _ => report_prompt _
  | refresh subject admission =>
      exact .bind (Admission.hold_prompt admission) fun _ =>
        .bind (refreshEntry_prompt subject admission) fun _ => report_prompt _
  | state admission =>
      exact .bind (Admission.hold_prompt admission) fun _ =>
        .bind (.bind .read fun now => .bind (admission.observedAt_prompt .state now) fun _ => .done)
          fun outcome => report_prompt outcome
  | check admission =>
      exact .bind (Admission.hold_prompt admission) fun _ =>
        .bind (Admission.check_prompt admission) fun outcome => report_prompt outcome
  | payload admission =>
      exact .bind (Admission.hold_prompt admission) fun _ =>
        .bind (.bind .read fun now => .bind (admission.currentAt_prompt .payload now) fun _ => .done)
          fun outcome => report_prompt outcome
  | invalidate admission =>
      exact .bind (Admission.hold_prompt admission) fun _ =>
        .bind admission.invalidate_prompt fun _ => report_prompt _
  | poll generation => exact runFetch_prompt generation

omit [DecidableEq T] in
theorem Gate.environment_spares [DecidableEq T] {event : GateEvent T P} {s after : Gate T P}
    (ran : Gate.environment event s = some after) : s.Spares after := by
  cases event with
  | advance | decide | streamError | streamEnd => exact Option.some.inj ran ▸ .of_flights rfl
  | answer generation answer =>
      simp only [Gate.environment] at ran
      split at ran
      · split at ran
        · exact Option.some.inj ran ▸ .updateFlight s generation (fun _ => rfl) fun _ aborted => aborted
        · cases ran
      · cases ran

variable {authority : T → Option Decision} {calls : Nat → Call T} {c : Config (Gate T P)}

theorem start_prompt : (start (P := P) rt authority calls).Prompt Gate.Swapped where
  threads thread := by
    cases thread with
    | zero => exact watchSource_prompt
    | succ thread => exact (calls thread).program_prompt
  paid generation swapped := by
    obtain ⟨flight, flown, _⟩ := swapped
    cases flown

/-- Some thread's very next step aborts what `abort_pending` has taken out of a slot. -/
theorem Reachable.prompt (reached : Reachable rt authority calls c) : c.Prompt Gate.Swapped := by
  obtain ⟨moves, ran⟩ := reached
  exact start_prompt.run (fun event s after ran => Gate.environment_spares ran) ran

end PolicyGate
