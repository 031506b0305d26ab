import PolicyGate.Audit.Access

namespace PolicyGate

open Interleaving Data

variable {T P : Type} [DecidableEq T] {rt : Runtime} {me : Nat} {L : Gate T P → Prop} {entry : Entry T}
  {subject : T} {deadline : Nat} {state : AdmitState}

theorem awaitConnected_keeps {seen : Nat} (context : Context rt me L) :
    Keeps rt me .none L (awaitConnected (T := T) (P := P) deadline seen) := by
  refine .bind (clockNow_keeps context) fun now => ?_
  split
  · exact keepsDone
  · refine keepsIterate context fun seen => .bind (isConnected_keeps context) fun connected => ?_
    split
    · exact keepsDone
    · refine keepsAwait context fun s choice result after ran => ?_
      split at ran
      · split at ran
        · exact (Prod.mk.injEq .. ▸ Option.some.inj ran).2.symm
        · cases ran
      · split at ran
        · exact (Prod.mk.injEq .. ▸ Option.some.inj ran).2.symm
        · split at ran
          · exact (Prod.mk.injEq .. ▸ Option.some.inj ran).2.symm
          · cases ran

theorem sleepUntilRetry_keeps {delay : Nat} (context : Context rt me L) :
    Keeps rt me .none L (sleepUntilRetry (T := T) (P := P) rt deadline delay) := by
  refine .bind (clockNow_keeps context) fun start => .bind (clockNow_keeps context) fun now => ?_
  split
  · exact keepsDone
  · refine keepsAwait context fun s choice result after ran => ?_
    split at ran
    · split at ran
      · exact (Prod.mk.injEq .. ▸ Option.some.inj ran).2.symm
      · cases ran
    · split at ran
      · split at ran
        · exact (Prod.mk.injEq .. ▸ Option.some.inj ran).2.symm
        · cases ran
      · cases ran

theorem awaitFetch_keeps {seen generation : Nat} (context : Context rt me L) :
    Keeps rt me .none L (awaitFetch (T := T) (P := P) deadline seen generation) := by
  refine .bind (clockNow_keeps context) fun now => ?_
  split
  · exact keepsDone
  · refine .bind (keepsModify context fun s _ _ => .updateFlight s _ fun flight => ⟨rfl, rfl, rfl, rfl, rfl⟩)
      fun _ => keepsAwait context fun s choice result after ran => ?_
    split at ran
    · split at ran
      · exact (Prod.mk.injEq .. ▸ Option.some.inj ran).2.symm
      · cases ran
    · split at ran
      · exact (Prod.mk.injEq .. ▸ Option.some.inj ran).2.symm
      · split at ran
        · exact (Prod.mk.injEq .. ▸ Option.some.inj ran).2.symm
        · cases ran
    · split at ran
      · exact (Prod.mk.injEq .. ▸ Option.some.inj ran).2.symm
      · split at ran
        · exact (Prod.mk.injEq .. ▸ Option.some.inj ran).2.symm
        · cases ran

theorem joinableFetch_keeps (context : Context rt me L) (known : ∀ s, L s → s.Known entry) :
    Keeps rt me .none L (joinableFetch entry) := by
  refine .bind (Entry.pendingOperation_keeps context known) fun pending => ?_
  cases pending with
  | none => exact keepsDone
  | some fetch =>
      refine .bind (clockNow_keeps context) fun now => ?_
      refine .bind (Entry.stateAt_keeps context known) fun state => ?_
      split
      · exact .bind (Entry.pendingIs_keeps context known) fun current => keepsDone
      · exact keepsDone

theorem admitOnAccess_keeps (firm : Firm rt me L) (known : ∀ s, L s → s.Known entry) :
    Keeps rt me .none L (do
      match ← admissionOnAccess rt .admission subject entry (some deadline) with
      | some admission => pure (.inr (some admission))
      | none => pure (.inl state) : Program (Gate T P) (AdmitRound T)) := by
  refine .bind (admissionOnAccess_keeps firm known) fun admission => ?_
  cases admission <;> exact keepsDone

theorem admitAfterFailure_keeps {result : FetchResult} (context : Context rt me L) :
    Keeps rt me .none L (match result with
      | .ok _ => pure (.inl state)
      | .error error =>
          if error.isPermanentStatus then pure (.inr none)
          else do
            let slept ← sleepUntilRetry rt deadline state.retryDelay
            if slept then
              pure (.inl { state with
                retryDelay := min (state.retryDelay * 2) rt.config.maxAdmissionRetryDelay })
            else pure (.inr none) : Program (Gate T P) (AdmitRound T)) := by
  cases result with
  | ok => exact keepsDone
  | error error =>
      dsimp only
      split
      · exact keepsDone
      · refine .bind (sleepUntilRetry_keeps context) fun slept => ?_
        cases slept <;> exact keepsDone

theorem admitAfterLookup_keeps {result : FetchResult} (firm : Firm rt me L)
    (known : ∀ s, L s → s.Known entry) :
    Keeps rt me .none L (admitAfterLookup rt subject entry deadline state result) := by
  have context := firm.context
  refine .bind (isConnected_keeps context) fun connected => ?_
  split
  · refine .bind (clockNow_keeps context) fun now => ?_
    refine .bind (Entry.stateAt_keeps context known) fun entryState => ?_
    cases entryState with
    | allowed => exact admitOnAccess_keeps firm known
    | denied => exact admitOnAccess_keeps firm known
    | pending => exact admitAfterFailure_keeps context
    | stale => exact admitAfterFailure_keeps context
  · exact keepsDone

theorem admitPending_keeps (firm : Firm rt me L) (known : ∀ s, L s → s.Known entry) :
    Keeps rt me .none L (admitPending rt subject entry deadline state) := by
  refine .bind (joinableFetch_keeps firm.context known) fun joinable => ?_
  cases joinable with
  | none => exact keepsDone
  | some fetch =>
      refine .bind (awaitFetch_keeps firm.context) fun lookup => ?_
      cases lookup with
      | aborted => exact keepsDone
      | connectionChanged seen => exact keepsDone
      | timedOut => exact .bind (admissionOnAccess_keeps firm known) fun _ => keepsDone
      | result result => exact admitAfterLookup_keeps firm known

theorem removeEntry_keeps {now : Nat} {predicate : Entry T → Program (Gate T P) Bool}
    (context : Context rt me L)
    (decides : ∀ entry, Keeps rt me (.map none) (fun s => L s ∧ s.Known entry) (predicate entry)) :
    Keeps rt me .none L (Subjects.removeIf rt subject now predicate) := by
  refine Subjects.removeIf_audit (M := Subjects.Found subject) context context
    (fun s found sound held peeked => ?_) fun found => ?_
  · rintro entry rfl
    obtain ⟨slot, inMap, rfl⟩ := Option.map_eq_some_iff.mp peeked
    exact Subjects.found_of_peek sound inMap
  · cases found with
    | none => exact .done fun s _ _ held => ⟨held.1, held.2.1⟩
    | some entry =>
        exact (decides entry).weaken (fun s _ _ held => ⟨held.1, held.2.1, (held.2.2 entry rfl).1⟩)
          fun _ s _ _ held => ⟨held.1, held.2.1⟩

theorem admitStale_keeps (context : Context rt me L) :
    Keeps rt me .none L (admitStale rt subject entry state) := by
  refine .bind (clockNow_keeps context) fun now => .bind (removeEntry_keeps context fun current => ?_)
    fun removed => ?_
  · have known : Context rt me fun s => L s ∧ s.Known current := context.lasting (.known current)
    split
    · exact .bind (clockNow_keeps known) fun now =>
        .bind (Entry.stateAt_keeps known fun s held => held.2) fun latest => keepsDone
    · exact keepsDone
  · split
    · exact .bind (Subjects.setDirty_keeps context) fun _ =>
        .bind (republishIfDue_keeps context) fun _ => keepsDone
    · exact .bind (republishIfDue_keeps context) fun _ => keepsDone

theorem admitEntry_keeps (firm : Firm rt me L) (known : ∀ s, L s → s.Known entry) :
    Keeps rt me .none L (admitEntry rt subject entry deadline state) := by
  refine .bind (clockNow_keeps firm.context) fun now => ?_
  refine .bind (Entry.stateAt_keeps firm.context known) fun entryState => ?_
  cases entryState with
  | allowed => exact admitOnAccess_keeps firm known
  | denied => exact admitOnAccess_keeps firm known
  | pending => exact admitPending_keeps firm known
  | stale => exact admitStale_keeps firm.context

theorem admitRound_keeps (firm : Firm rt me L) :
    Keeps rt me .none L (admitRound (P := P) rt subject deadline state) := by
  have context := firm.context
  refine .bind (awaitConnected_keeps context) fun connection => ?_
  cases connection with
  | timedOut => exact keepsDone
  | closed => exact keepsDone
  | connected seen =>
      dsimp only
      refine .bind (clockNow_keeps context) fun now => ?_
      refine .bind (Subjects.getOrInsertWith_audit context) fun out => ?_
      obtain ⟨entry, inserted⟩ := out
      have home : Firm rt me fun s => L s ∧ s.Known entry := firm.lasting (.known entry)
      have rest : Keeps rt me .none (fun s => L s ∧ s.Known entry) (do
          republishIfDue rt
          let now ← clockNow
          if deadline ≤ now then pure (.inr none)
          else do
            if ← isConnected then admitEntry rt subject entry deadline { state with seen }
            else do
              let removed ← Subjects.removeIf rt subject now fun current =>
                pure (current.id = entry.id : Bool)
              if removed then Subjects.setDirty true
              pure (.inl { state with seen }) : Program (Gate T P) (AdmitRound T)) := by
        refine .bind (republishIfDue_keeps home.context) fun _ => ?_
        refine .bind (clockNow_keeps home.context) fun now => ?_
        split
        · exact keepsDone
        · refine .bind (isConnected_keeps home.context) fun connected => ?_
          split
          · exact admitEntry_keeps home fun s held => held.2
          · refine .bind (removeEntry_keeps home.context fun _ => keepsDone) fun removed => ?_
            split
            · exact .bind (Subjects.setDirty_keeps home.context) fun _ => keepsDone
            · exact keepsDone
      have enter : (audit rt).Spec me (do
          if inserted then Subjects.setDirty true
          else do
            if (← snapshotGet subject).isNone then Subjects.setDirty true
          republishIfDue rt
          let now ← clockNow
          if deadline ≤ now then pure (.inr none)
          else do
            if ← isConnected then admitEntry rt subject entry deadline { state with seen }
            else do
              let removed ← Subjects.removeIf rt subject now fun current =>
                pure (current.id = entry.id : Bool)
              if removed then Subjects.setDirty true
              pure (.inl { state with seen }) : Program (Gate T P) (AdmitRound T))
          (Gate.During me .none fun s => L s ∧ s.Known entry)
          fun _ => Gate.During me .none fun s => L s ∧ s.Known entry := by
        split
        · exact .bind (Subjects.setDirty_keeps home.context) fun _ => rest
        · refine .bind (snapshotGet_keeps home.context) fun found => ?_
          split
          · exact .bind (Subjects.setDirty_keeps home.context) fun _ => rest
          · exact rest
      exact enter.weaken (fun s _ _ held => ⟨held.1, held.2.1, held.2.2.1⟩)
        fun _ s _ _ held => ⟨held.1, held.2.1⟩

theorem admitSubject_keeps (firm : Firm rt me L) :
    Keeps rt me .none L (admitSubject (P := P) rt subject) := by
  refine .bind (clockNow_keeps firm.context) fun now => ?_
  cases checkedAdd rt now rt.config.admissionTimeout with
  | none => exact keepsDone
  | some deadline => exact keepsIterate firm.context fun state => admitRound_keeps firm

end PolicyGate
