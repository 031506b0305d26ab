import PolicyGate.Specs.Access

namespace PolicyGate

open Interleaving

variable {T P : Type} [DecidableEq T] {rt : Runtime} {me : Nat} {R : Gate T P → Prop}
  {entry : Entry T} {subject : T} {deadline : Nat} {state : AdmitState}

theorem awaitConnected_spec {seen : Nat} (stable : (discipline rt).Stable me R)
    (resting : ∀ s, R s → s.Resting me) :
    (discipline rt).Spec me (awaitConnected deadline seen) R fun _ => R := by
  refine .bind (clockNow_past stable) fun now => ?_
  split
  · exact .done fun s _ held => held.1
  · refine (Discipline.Spec.steady stable fun seen => ?_).pre fun s _ held => held.1
    refine .bind (isConnected_spec stable) fun connected => ?_
    split
    · exact .done fun s _ held => held.1
    · refine (idleAwait stable resting fun s choice result after ran => ?_).weaken
        (fun s _ held => held.1) fun result s _ held => ?_
      · split at ran
        · split at ran
          · exact (Prod.mk.injEq .. ▸ Option.some.inj ran).2.symm
          · cases ran
        · split at ran
          · exact (Prod.mk.injEq .. ▸ Option.some.inj ran).2.symm
          · split at ran
            · exact (Prod.mk.injEq .. ▸ Option.some.inj ran).2.symm
            · cases ran
      · cases result <;> exact held

theorem sleepUntilRetry_spec {delay : Nat} (stable : (discipline rt).Stable me R)
    (resting : ∀ s, R s → s.Resting me) :
    (discipline rt).Spec me (sleepUntilRetry rt deadline delay) R fun _ => R := by
  refine .bind (clockNow_past stable) fun start => ?_
  refine .bind ((clockNow_past stable).pre fun s _ held => held.1) fun now => ?_
  split
  · exact .done fun s _ held => held.1
  · refine (idleAwait stable resting fun s choice result after ran => ?_).pre fun s _ held => held.1
    split at ran
    · split at ran
      · exact (Prod.mk.injEq .. ▸ Option.some.inj ran).2.symm
      · cases ran
    · split at ran
      · split at ran
        · exact (Prod.mk.injEq .. ▸ Option.some.inj ran).2.symm
        · cases ran
      · cases ran

theorem awaitFetch_spec {seen : Nat} {fetch : PendingFetch T P}
    (stable : (discipline rt).Stable me R) (resting : ∀ s, R s → s.Resting me)
    (joinable : ∀ s, R s → s.Fetched fetch ∧ s.Permits fetch.entry) :
    (discipline rt).Spec me (awaitFetch deadline seen fetch.generation) R fun _ => R := by
  refine .bind (clockNow_past stable) fun now => ?_
  split
  · exact .done fun s _ held => held.1
  · refine .bind (M := fun _ => R) ((neutralAct (M := fun _ _ => True) stable
      fun s choice result after ok held ran => ?_).weaken (fun s _ held => held.1)
        fun _ _ _ held => held.1) fun _ => ?_
    · obtain ⟨_, rfl⟩ := Prod.mk.injEq .. ▸ Option.some.inj ran
      refine ⟨.join ok fun flight cell flown found => ?_, trivial⟩
      obtain ⟨⟨flight', flown', same⟩, cell', found', permitted⟩ := joinable s held
      obtain rfl : flight = flight' := Option.some.inj (flown.symm.trans flown')
      rw [same] at found
      obtain rfl : cell = cell' := Option.some.inj (found.symm.trans found')
      exact permitted
    · refine idleAwait stable resting fun s choice result after ran => ?_
      split at ran
      · split at ran
        · exact (Prod.mk.injEq .. ▸ Option.some.inj ran).2.symm
        · cases ran
      · split at ran
        · exact (Prod.mk.injEq .. ▸ Option.some.inj ran).2.symm
        · split at ran
          · exact (Prod.mk.injEq .. ▸ Option.some.inj ran).2.symm
          · cases ran
      · split at ran
        · exact (Prod.mk.injEq .. ▸ Option.some.inj ran).2.symm
        · split at ran
          · exact (Prod.mk.injEq .. ▸ Option.some.inj ran).2.symm
          · cases ran

/-- What a round knows of its entry once it has seen the watch connected after the insertion. -/
def Gate.Checked (subject : T) (entry : Entry T) (s : Gate T P) : Prop :=
  s.Known entry ∧ s.Admissible entry ∧ subject = entry.subject

theorem lasting_checked (subject : T) (entry : Entry T) :
    Lasting rt (Gate.Checked (P := P) subject entry) :=
  (Lasting.known entry).and ((Lasting.admissible entry).and (.const _))

theorem Gate.Invariant.admissible {s : Gate T P} (ok : s.Invariant rt.config) (known : s.Known entry)
    (connected : s.watch.connected = true) : s.Admissible entry := by
  obtain ⟨cell, found, same⟩ := known
  have current := ok.session.current connected
  have permits : cell.session = s.watch.era → s.Permits entry := fun session =>
    ⟨cell, found, s.watch.opened, session.trans current.1, current.2.ge⟩
  have held : s.subjects.Holds entry.id → s.Permits entry := fun holds =>
    permits (ok.map.session_of_holds holds found)
  have dead : cell.Dead s.flights → s.Admissible entry := fun isDead => by
    by_cases holds : s.subjects.Holds entry.id
    · exact .inl (held holds)
    · exact .inr ⟨⟨cell, found, isDead⟩, holds⟩
  rcases ok.map.placed entry.id cell found with holds | ⟨removed, member, here⟩ | isDead
  · exact .inl (held holds)
  · obtain ⟨cell', found', _, state⟩ := ok.map.limbo removed member
    rw [here] at found'
    obtain rfl : cell = cell' := Option.some.inj (found.symm.trans found')
    exact state.elim dead fun session => .inl (permits session)
  · exact dead isDead

theorem joinableFetch_spec (stable : (discipline rt).Stable me R)
    (known : ∀ s, R s → s.Known entry) (admissible : ∀ s, R s → s.Admissible entry) :
    (discipline rt).Spec me (joinableFetch entry) R fun found s => R s ∧
      ∀ fetch, found = some fetch → s.Fetched fetch ∧ s.Permits fetch.entry := by
  refine .bind (Entry.pendingOperation_spec stable known) fun pending => ?_
  cases pending with
  | none => exact .done fun s _ held => ⟨held.1, nofun⟩
  | some fetch =>
      have fetched : (discipline rt).Stable me fun s => R s ∧
          ∀ found, some fetch = some found → s.Fetched found ∧ found.entry = entry :=
        stable.and (.forall fun found => .forall fun _ =>
          (Lasting.fetched found).stable.and (.const _))
      refine .bind (clockNow_past fetched) fun now => ?_
      refine .bind ((Entry.stateAt_spec (M := fun value s => value.state = .pending → s.Permits entry)
        fetched (fun s held => known s held.1) (fun _ => .forall fun _ => (Lasting.permits entry).stable)
        fun s cell ok held found same pending => ?_).pre fun s _ held => held.1) fun state => ?_
      · refine (admissible s held.1).resolve_right fun gone => ?_
        obtain ⟨⟨cell', found', dead⟩, _⟩ := gone
        obtain rfl : cell = cell' := Option.some.inj (found.symm.trans found')
        exact absurd (pending.symm.trans dead.1) (by decide)
      · split
        · rename_i isPending
          have permits : (discipline rt).Stable me fun s => (R s ∧
              ∀ found, some fetch = some found → s.Fetched found ∧ found.entry = entry) ∧
                s.Permits entry := fetched.and (Lasting.permits entry).stable
          refine .bind ((Entry.pendingIs_spec permits fun s held => known s held.1.1).pre
            fun s _ held => ⟨held.1, ?_⟩) fun current => .done fun s _ held => ⟨held.1.1, ?_⟩
          · obtain ⟨value, same, permits⟩ := held.2 (by rw [isPending]; decide)
            exact permits (same.trans isPending)
          · intro found same
            split at same
            · obtain rfl := Option.some.inj same
              obtain ⟨isFetched, home⟩ := held.1.2 fetch rfl
              exact ⟨isFetched, home ▸ held.2⟩
            · cases same
        · exact .done fun s _ held => ⟨held.1.1, nofun⟩

def Ended (me : Nat) (subject : T) (round : AdmitRound T) (s : Gate T P) : Prop :=
  s.Resting me ∧ ∀ admission, round = .inr admission →
    Outcome.Backed s.cells me (.admitted subject admission) ∧
      ∀ handle, admission = some handle → handle.subject = subject

section

omit [DecidableEq T]

theorem ended_again {s : Gate T P} (resting : s.Resting me) : Ended me subject (.inl state) s :=
  ⟨resting, nofun⟩

theorem ended_none {s : Gate T P} (resting : s.Resting me) : Ended me subject (.inr none) s := by
  refine ⟨resting, fun admission same => ?_⟩
  obtain rfl := Sum.inr.inj same
  exact ⟨trivial, fun _ none => by cases none⟩

theorem ended_admitted {s : Gate T P} {admission : Option (Entry T)} (resting : s.Resting me)
    (named : subject = entry.subject) (admitted : Entry.Admitted me entry .admission admission s) :
    Ended me subject (.inr admission) s := by
  refine ⟨resting, fun other same => ?_⟩
  obtain rfl := Sum.inr.inj same
  cases admission with
  | none => exact ⟨trivial, fun _ none => by cases none⟩
  | some handle =>
      obtain ⟨rfl, backed⟩ := admitted handle rfl
      refine ⟨backed, fun handle' same => ?_⟩
      obtain rfl := Option.some.inj same
      exact named.symm

end

section

variable {again : AdmitState}

theorem answerAccess_spec :
    (discipline rt).Spec me
      (do let admission ← admissionOnAccess rt .admission subject entry (some deadline)
          pure (.inr admission))
      (fun s : Gate T P => s.Checked subject entry ∧ s.Resting me) (Ended me subject) := by
  by_cases named : subject = entry.subject
  · exact .bind (admissionOnAccess_spec (lasting_checked subject entry) (fun s held => held.1) named
      nofun) fun admission => .done fun s _ held => ended_admitted held.1.2 named held.2
  · exact Discipline.Spec.never.pre fun s _ held => named held.1.2.2

theorem tryAccess_spec :
    (discipline rt).Spec me
      (do match ← admissionOnAccess rt .admission subject entry (some deadline) with
          | some admission => pure (.inr (some admission))
          | none => pure (.inl again))
      (fun s : Gate T P => s.Checked subject entry ∧ s.Resting me) (Ended me subject) := by
  by_cases named : subject = entry.subject
  · refine .bind (admissionOnAccess_spec (lasting_checked subject entry) (fun s held => held.1) named
      nofun) fun admission => ?_
    cases admission with
    | none => exact .done fun s _ held => ended_again held.1.2
    | some admission => exact .done fun s _ held => ended_admitted held.1.2 named held.2
  · exact Discipline.Spec.never.pre fun s _ held => named held.1.2.2

end

theorem stable_checked_resting :
    (discipline rt).Stable me fun s : Gate T P => s.Checked subject entry ∧ s.Resting me :=
  (lasting_checked subject entry).stable.and (Sheltered.resting none).stable

theorem waitOut_spec {result : FetchResult} :
    (discipline rt).Spec me
      (match result with
      | .ok _ => pure (.inl state)
      | .error error =>
          if error.isPermanentStatus then pure (.inr none)
          else do
            let slept ← sleepUntilRetry rt deadline state.retryDelay
            if slept then
              pure (.inl { state with
                retryDelay := min (state.retryDelay * 2) rt.config.maxAdmissionRetryDelay })
            else pure (.inr none))
      (fun s : Gate T P => s.Checked subject entry ∧ s.Resting me) (Ended me subject) := by
  cases result with
  | ok => exact .done fun s _ held => ended_again held.2
  | error error =>
      dsimp only
      split
      · exact .done fun s _ held => ended_none held.2
      · refine .bind (sleepUntilRetry_spec stable_checked_resting fun s held => held.2)
          fun slept => ?_
        split
        · exact .done fun s _ held => ended_again held.2
        · exact .done fun s _ held => ended_none held.2

theorem admitAfterLookup_spec {result : FetchResult} :
    (discipline rt).Spec me (admitAfterLookup rt subject entry deadline state result)
      (fun s : Gate T P => s.Checked subject entry ∧ s.Resting me) (Ended me subject) := by
  refine .bind (isConnected_spec stable_checked_resting) fun connected => ?_
  split
  · refine .bind ((clockNow_past stable_checked_resting).pre fun s _ held => held.1) fun now => ?_
    refine .bind ((Entry.stateAt_any stable_checked_resting fun s held => held.1.1).pre
      fun s _ held => held.1) fun entryState => ?_
    cases entryState with
    | allowed => exact tryAccess_spec
    | denied => exact tryAccess_spec
    | pending => exact waitOut_spec
    | stale => exact waitOut_spec
  · exact .done fun s _ held => ended_again held.1.2

theorem admitPending_spec :
    (discipline rt).Spec me (admitPending rt subject entry deadline state)
      (fun s : Gate T P => s.Checked subject entry ∧ s.Resting me) (Ended me subject) := by
  refine .bind (joinableFetch_spec stable_checked_resting (fun s held => held.1.1)
    fun s held => held.1.2.1) fun found => ?_
  cases found with
  | none => exact .done fun s _ held => ended_again held.1.2
  | some fetch =>
      have joinable : (discipline rt).Stable me fun s => (s.Checked subject entry ∧ s.Resting me) ∧
          s.Fetched fetch ∧ s.Permits fetch.entry :=
        stable_checked_resting.and
          ((Lasting.fetched fetch).stable.and (Lasting.permits fetch.entry).stable)
      refine .bind ((awaitFetch_spec joinable (fun s held => held.1.2) fun s held => held.2).pre
        fun s _ held => ⟨held.1, held.2 fetch rfl⟩) fun lookup => ?_
      cases lookup with
      | aborted => exact .done fun s _ held => ended_again held.1.2
      | connectionChanged seen => exact .done fun s _ held => ended_again held.1.2
      | timedOut => exact answerAccess_spec.pre fun s _ held => held.1
      | result result => exact admitAfterLookup_spec.pre fun s _ held => held.1

theorem admitStale_spec :
    (discipline rt).Spec me (admitStale rt subject entry state)
      (fun s : Gate T P => s.Resting me) (Ended me subject) := by
  have resting : Sheltered rt me fun s : Gate T P => s.Resting me := Sheltered.resting none
  refine .bind (clockNow_past resting.stable) fun now => ?_
  refine .bind ((Subjects.removeIf_spec resting fun current _ => ?_).pre fun s _ held => held.1)
    fun removed => ?_
  · have stable : (discipline rt).Stable me fun s : Gate T P =>
        (s.Resting me ∧ s.Locked me none) ∧ s.Known current :=
      (resting.stable.and (stable_locked none)).and (Lasting.known current).stable
    split
    · refine .bind (clockNow_past stable) fun now => ?_
      refine .bind ((Entry.stateAt_any stable fun s held => held.2).pre fun s _ held => held.1)
        fun latest => .done fun s _ held => held.1
    · exact .done fun s _ held => held.1
  · have finish : (discipline rt).Spec me (do republishIfDue rt; pure (.inl state))
        (fun s : Gate T P => s.Resting me) (Ended me subject) :=
      .bind (republishIfDue_spec resting) fun _ => .done fun s _ held => ended_again held
    split
    · exact .bind (Subjects.setDirty_spec resting.stable) fun _ => finish
    · exact finish

theorem admitEntry_spec :
    (discipline rt).Spec me (admitEntry rt subject entry deadline state)
      (fun s : Gate T P => s.Checked subject entry ∧ s.Resting me) (Ended me subject) := by
  refine .bind (clockNow_past stable_checked_resting) fun now => ?_
  refine .bind ((Entry.stateAt_any stable_checked_resting fun s held => held.1.1).pre
    fun s _ held => held.1) fun entryState => ?_
  cases entryState with
  | allowed => exact tryAccess_spec
  | denied => exact tryAccess_spec
  | pending => exact admitPending_spec
  | stale => exact admitStale_spec.pre fun s _ held => held.2

theorem admitRound_spec :
    (discipline rt).Spec me (admitRound rt subject deadline state)
      (fun s : Gate T P => s.Resting me) (Ended me subject) := by
  have resting : Sheltered rt me fun s : Gate T P => s.Resting me := Sheltered.resting none
  refine .bind (awaitConnected_spec resting.stable fun s held => held) fun connection => ?_
  cases connection with
  | timedOut => exact .done fun s _ held => ended_none held
  | closed => exact .done fun s _ held => ended_none held
  | connected seen =>
      dsimp only
      refine .bind (clockNow_past resting.stable) fun now => ?_
      refine .bind (Subjects.getOrInsertWith_spec resting) fun ⟨entry, inserted⟩ => ?_
      have sheltered : Sheltered rt me fun s : Gate T P =>
          s.Resting me ∧ s.Known entry ∧ entry.subject = subject := by
        have known : Lasting rt fun s : Gate T P => s.Known entry ∧ entry.subject = subject :=
          (Lasting.known entry).and (.const _)
        exact resting.and known.sheltered
      have rest : (discipline rt).Spec me (do
          republishIfDue rt
          let now ← clockNow
          if deadline ≤ now then pure (.inr none)
          else do
            if ← isConnected then admitEntry rt subject entry deadline { state with seen }
            else do
              let removed ← Subjects.removeIf rt subject now fun current =>
                pure (current.id = entry.id : Bool)
              if removed then Subjects.setDirty true
              pure (.inl { state with seen }))
          (fun s : Gate T P => s.Resting me ∧ s.Known entry ∧ entry.subject = subject)
          (Ended me subject) := by
        refine .bind (republishIfDue_spec sheltered) fun _ => ?_
        refine .bind (clockNow_past sheltered.stable) fun now => ?_
        split
        · exact .done fun s _ held => ended_none held.1.1
        · refine .bind ((readAct (M := fun connected s => connected = true → s.Admissible entry)
            sheltered.stable fun s connected ok held viewed isConnected => ?_).pre
              fun s _ held => held.1) fun connected => ?_
          · rw [← Option.some.inj viewed] at isConnected
            exact ok.admissible held.2.1 isConnected
          · split
            · rename_i isConnected
              exact admitEntry_spec.pre fun s _ held =>
                ⟨⟨held.1.2.1, held.2 isConnected, held.1.2.2.symm⟩, held.1.1⟩
            · refine .bind ((Subjects.removeIf_spec resting fun current _ =>
                .done fun s _ held => held.1).pre fun s _ held => held.1.1) fun removed => ?_
              split
              · exact .bind (Subjects.setDirty_spec resting.stable) fun _ =>
                  .done fun s _ held => ended_again held
              · exact .done fun s _ held => ended_again held
      dsimp only
      split
      · exact .bind (Subjects.setDirty_spec sheltered.stable) fun _ => rest
      · refine .bind (snapshotGet_spec sheltered.stable) fun found => ?_
        split
        · exact .bind ((Subjects.setDirty_spec sheltered.stable).pre fun s _ held => held.1)
            fun _ => rest
        · exact rest.pre fun s _ held => held.1

/-- What `admit` answers is a handle to an entry of the subject, backed by a read of the entry. -/
theorem admit_spec :
    (discipline rt).Spec me (admitSubject (P := P) rt subject) (fun s => s.Resting me)
      fun admission s => s.Resting me ∧ Outcome.Backed s.cells me (.admitted subject admission) ∧
        ∀ handle, admission = some handle → handle.subject = subject := by
  refine .bind (clockNow_past (Sheltered.resting none).stable) fun now => ?_
  cases checkedAdd rt now rt.config.admissionTimeout with
  | none => exact .done fun s _ held => ⟨held.1, trivial, fun _ none => by cases none⟩
  | some deadline =>
      refine (Discipline.Spec.steady (Sheltered.resting none).stable fun state =>
        admitRound_spec.post fun round s _ held => ?_).pre fun s _ held => held.1
      cases round with
      | inl state => exact held.1
      | inr admission => exact ⟨held.1, held.2 admission rfl⟩

end PolicyGate
