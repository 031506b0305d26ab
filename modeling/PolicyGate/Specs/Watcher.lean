import PolicyGate.Specs.Session

namespace PolicyGate

open Interleaving

variable {T P : Type} [DecidableEq T] {rt : Runtime}

def Applying (change : DecisionChange T) (watch : Watch T P) : Prop :=
  watch.phase = .connected ∧ watch.applying = some change

theorem WatcherStep.refl {s : Gate T P} (ok : s.Invariant rt.config) : WatcherStep rt.config s s :=
  ⟨ok, ((NeutralStep.refl ok).rely 0).toAdvance, fun _ _ _ => .rfl, fun other _ =>
    (NeutralStep.refl ok).rely other⟩

namespace Subjects

def Kept (entry : Entry T) (s : Gate T P) : Prop := s.Locked 0 none ∧ s.subjects.Holds entry.id

theorem stable_kept (entry : Entry T) : (discipline rt).Stable 0 (Kept (P := P) entry) :=
  fun before after ok ok' rely held =>
    ⟨stable_locked none before after ok ok' rely held.1, by
      rw [(rely.subjects held.1.1).1]
      exact held.2⟩

end Subjects

section

variable {change : DecisionChange T} {entry : Entry T} {decision : Decision}

theorem publishChange_installs {publication : Publication P}
    (subject : change.subject = entry.subject) (decided : change.decision = some decision)
    {s : Gate T P} (ok : s.Invariant rt.config)
    (duty : Duty (fun watch => Applying change watch ∧ publication.session = watch.opened) s)
    (kept : Subjects.Kept entry s) (known : s.Known entry)
    (origin : publication.origin = .change) (since : entry.epoch ≤ publication.now)
    (result : publication.result = { decision, payload := none, validUntil := none }) :
    Entry.Installs rt 0 entry (entry.publishedSnapshot rt publication) (.published publication)
      (fun s => (Duty (Between .connected) s ∧ s.Locked 0 none) ∧ s.Known entry) s := by
  obtain ⟨cell, found, same⟩ := known
  obtain ⟨resting, ⟨connected, applying⟩, session⟩ := duty
  have step : WatcherStep rt.config s (s.replaceCurrent entry (entry.publishedSnapshot rt publication)
      (.published publication)) :=
    .publishChange ok found same kept.2 kept.1.1 connected applying subject
      (by rw [result]; exact decided) origin since (by rw [result]; exact ⟨rfl, rfl⟩) session
  have isChange : (EntryEvent.published publication : EntryEvent T P).isChange = true := by
    rw [EntryEvent.isChange, origin]
    rfl
  refine ⟨step.invariant, step.rely, ⟨⟨step.resting resting, ?_⟩, ?_⟩, ?_⟩
  · simp only [Gate.replaceCurrent, isChange, ↓reduceIte]
    exact ⟨connected, rfl⟩
  · have subjects : (s.replaceCurrent entry (entry.publishedSnapshot rt publication)
        (.published publication)).subjects = s.subjects := by
      simp only [Gate.replaceCurrent, isChange, ↓reduceIte]
      rfl
    refine ⟨by rw [subjects]; exact kept.1.1, fun removed member => .inr ?_⟩
    rw [subjects] at member
    have dead := (kept.1.2 removed member).resolve_left (by simp)
    exact (step.advance.dead_or_holds dead).resolve_right (ok.map.apart removed member)
  · exact Lasting.known entry s _ ok step.invariant step.advance.toExtends ⟨cell, found, same⟩

theorem publishChange_spec (subject : change.subject = entry.subject)
    (decided : change.decision = some decision) :
    (discipline rt).Spec 0 (publishChange rt entry decision)
      (fun s : Gate T P => Duty (Applying change) s ∧ s.Known entry ∧ Subjects.Kept entry s)
      fun _ s => Duty (Between .connected) s ∧ s.Locked 0 none := by
  have stable : ∀ F : Watch T P → Prop, (discipline rt).Stable 0
      fun s : Gate T P => Duty F s ∧ s.Known entry ∧ Subjects.Kept entry s := fun F =>
    (sheltered_duty F).stable.and ((Lasting.known entry).stable.and (Subjects.stable_kept entry))
  refine .steady (stable _) fun _ => ?_
  refine .bind (Entry.load_spec (stable _) fun s held => held.2.1) fun current => ?_
  refine .bind (M := fun publication s => (publication.origin = .change ∧
      entry.epoch ≤ publication.now ∧
      publication.result = { decision, payload := none, validUntil := none }) ∧
    Duty (fun watch => Applying change watch ∧ publication.session = watch.opened) s ∧
      s.Known entry ∧ Subjects.Kept entry s) ?_ fun publication => ?_
  · refine ((readAct (M := fun publication s => publication =
      { origin := .change, now := s.clock, checkedAt := s.clock,
        result := { decision, payload := none, validUntil := none }, session := s.watch.opened } ∧
        entry.epoch ≤ s.clock) (stable _) fun s publication ok held viewed => ?_).weaken
        (fun s _ held => held.1) fun publication s _ held => ?_)
    · obtain ⟨cell, found, rfl⟩ := held.2.1
      exact ⟨(Option.some.inj viewed).symm, (ok.cells _ cell found).epoch⟩
    · obtain ⟨⟨⟨resting, applying⟩, rest⟩, rfl, since⟩ := held
      exact ⟨⟨rfl, since, rfl⟩, ⟨resting, applying, rfl⟩, rest⟩
  · refine .given fun ⟨origin, since, result⟩ => ?_
    refine .bind (Entry.compareExchange_spec
      (H := fun s => (Duty (Between .connected) s ∧ s.Locked 0 none) ∧ s.Known entry) (stable _)
      (fun s held => held.2.1) fun s cell ok held found same _ =>
        publishChange_installs subject decided ok held.1 held.2.2 held.2.1 origin since result)
      fun swapped => ?_
    split
    · have settled : (discipline rt).Stable 0 fun s : Gate T P =>
          (Duty (Between .connected) s ∧ s.Locked 0 none) ∧ s.Known entry :=
        ((sheltered_duty _).stable.and (stable_locked none)).and (Lasting.known entry).stable
      refine .bind (Entry.abortPending_spec settled (fun s held => held.2) settled
        fun _ _ _ held _ _ => held) fun _ => ?_
      exact .done fun s _ held => held.1
    · exact .done fun s _ held => ⟨held.1.mono fun watch => And.left, held.2⟩

end

namespace Subjects

variable {change : DecisionChange T}

theorem applied_step {s : Gate T P} {f : SubjectMap T → SubjectMap T} (ok : s.Invariant rt.config)
    (duty : Duty (Applying change) s) (locked : s.Locked 0 none)
    (mapOk : MapOk s.cells s.flights (f s.subjects) s.watch.era)
    (holds : ∀ id, (f s.subjects).Holds id → s.subjects.Holds id)
    (out : ∀ slot ∈ (f s.subjects).cache.entries, slot.1 ≠ change.subject) :
    WatcherStep rt.config s (s.applied.updateSubjects f) ∧
      Duty (Between .connected) (s.applied.updateSubjects f) := by
  have step : WatcherStep rt.config s (s.applied.updateSubjects f) :=
    .applied ok duty.2.2 locked.1 mapOk holds out
  exact ⟨step, step.resting duty.1, duty.2.1, rfl⟩

theorem peekForUpdate_spec :
    (discipline rt).Spec 0 (peekForUpdate change.subject)
      (fun s : Gate T P => Duty (Applying change) s ∧ s.Locked 0 none)
      fun found s => match found with
        | some entry => change.subject = entry.subject ∧ Duty (Applying change) s ∧ s.Known entry ∧
            Kept entry s
        | none => Duty (Between .connected) s ∧ s.Locked 0 none := by
  refine watcherAct ((sheltered_duty _).stable.and (stable_locked none))
    fun s choice found after ok held ran => ?_
  cases peeked : s.subjects.cache.peek change.subject with
  | some slot =>
      simp only [peeked] at ran
      obtain ⟨rfl, rfl⟩ := Prod.mk.injEq .. ▸ Option.some.inj ran
      obtain ⟨known, subject⟩ := found_of_peek ok peeked
      have holds : s.subjects.Holds slot.entry.id :=
        ⟨_, s.subjects.cache.peek_eq_some_iff.mp peeked, rfl⟩
      exact ⟨.refl ok, subject.symm, held.1, known, held.2, holds⟩
  | none =>
      simp only [peeked] at ran
      obtain ⟨rfl, rfl⟩ := Prod.mk.injEq .. ▸ Option.some.inj ran
      have absent := s.subjects.cache.peek_eq_none_iff.mp peeked
      obtain ⟨step, duty⟩ := applied_step (f := id) ok held.1 held.2 ok.map (fun _ held => held)
        fun slot member same => absent slot.2 (same ▸ member)
      exact ⟨step, duty, held.2⟩

theorem update_spec {now : Nat} {decision : Decision} (decided : change.decision = some decision) :
    (discipline rt).Spec 0
      (update rt change.subject now fun entry => publishChange rt entry decision)
      (Duty (Applying (T := T) (P := P) change)) fun _ => Duty (Between .connected) := by
  have sheltered : Sheltered rt 0 (Duty (Applying (P := P) change)) := sheltered_duty _
  refine .bind (lock_spec sheltered) fun _ => .bind (evict_spec sheltered) fun _ => ?_
  refine .bind peekForUpdate_spec fun found => ?_
  cases found with
  | none => exact unlock_spec (sheltered_duty _)
  | some entry =>
      refine .given fun subject => ?_
      exact .bind (publishChange_spec subject decided) fun _ => unlock_spec (sheltered_duty _)

theorem popWithdrawn_spec :
    (discipline rt).Spec 0 (pop true change.subject)
      (fun s : Gate T P => Duty (Applying change) s ∧ s.Locked 0 none)
      fun taken s => Duty (Between .connected) s ∧ Taken 0 taken s := by
  refine watcherAct ((sheltered_duty _).stable.and (stable_locked none))
    fun s choice taken after ok held ran => ?_
  have cache : s.applied.subjects.cache = s.subjects.cache := rfl
  simp only [↓reduceIte, cache] at ran
  cases popped : s.subjects.cache.pop change.subject with
  | none =>
      simp only [popped] at ran
      obtain ⟨rfl, rfl⟩ := Prod.mk.injEq .. ▸ Option.some.inj ran
      have absent := s.subjects.cache.peek_eq_none_iff.mp (Option.map_eq_none_iff.mp popped)
      obtain ⟨step, duty⟩ := applied_step (f := id) ok held.1 held.2 ok.map (fun _ held => held)
        fun slot member same => absent slot.2 (same ▸ member)
      exact ⟨step, duty, held.2, nofun⟩
  | some out =>
      obtain ⟨slot, cache⟩ := out
      simp only [popped] at ran
      obtain ⟨rfl, rfl⟩ := Prod.mk.injEq .. ▸ Option.some.inj ran
      have leaves := LeavesCache.pop popped
      obtain ⟨step, duty⟩ := applied_step (f := fun map => map.remove cache slot.entry) ok held.1 held.2
        (ok.map.remove leaves (by rw [held.2.1]; nofun)) (fun _ => SubjectMap.holds_remove leaves)
        fun slot member => (leaves.only slot member).2
      exact ⟨step, duty, (remove_step ok held.2 leaves).2⟩

theorem remove_spec {now : Nat} :
    (discipline rt).Spec 0 (remove rt change.subject now)
      (Duty (Applying (T := T) (P := P) change)) fun _ => Duty (Between .connected) := by
  have sheltered : Sheltered rt 0 (Duty (Applying (P := P) change)) := sheltered_duty _
  refine .bind (lock_spec sheltered) fun _ => .bind (evict_spec sheltered) fun _ => ?_
  refine .bind popWithdrawn_spec fun taken => ?_
  cases taken with
  | some entry => exact invalidate_unlock_spec (sheltered_duty _)
  | none => exact (unlock_false_spec (sheltered_duty _)).pre fun s _ held => ⟨held.1, held.2.1⟩

end Subjects

theorem applyChange_spec (change : DecisionChange T) :
    (discipline rt).Spec 0 (applyChange rt change) (Duty (Applying (P := P) change)) fun _ =>
      Duty (Between .connected) := by
  have between : Sheltered rt 0 (Duty (Between (T := T) (P := P) .connected)) := sheltered_duty _
  refine .bind (clockNow_past (sheltered_duty _).stable) fun now => ?_
  cases decided : change.decision with
  | some decision =>
      refine .bind ((Subjects.update_spec decided).pre fun s _ held => held.1) fun _ => ?_
      exact republishIfDue_spec between
  | none =>
      refine .bind (Subjects.remove_spec.pre fun s _ held => held.1) fun removed => ?_
      dsimp only
      split
      · exact .bind (Subjects.setDirty_spec between.stable) fun _ => republishIfDue_spec between
      · exact republishIfDue_spec between

section

variable {F : Watch T P → Prop}

theorem watcherAwait_spec {β : Type} {action : Pick → Gate T P → Option (β × Gate T P)}
    {G : β → Watch T P → Prop}
    (runs : ∀ s choice result after, s.Invariant rt.config → F s.watch →
      action ⟨0, choice⟩ s = some (result, after) →
        WatcherStep rt.config s after ∧ G result after.watch) :
    (discipline rt).Spec 0 (watcherAwait action) (Duty F) fun result => Duty (G result) := by
  refine .wait (sheltered_duty F).stable (fun s choice result after ok held ran => ?_)
    dropWatcher_spec
  obtain ⟨step, known⟩ := runs s choice result after ok held.2 ran
  exact ⟨step.invariant, step.rely, step.resting held.1, known⟩

theorem watcherAwait_idle {β : Type} {action : Pick → Gate T P → Option (β × Gate T P)}
    (idle : ∀ s choice result after, action ⟨0, choice⟩ s = some (result, after) → after = s) :
    (discipline rt).Spec 0 (watcherAwait action) (Duty F) fun _ => Duty F :=
  watcherAwait_spec fun s choice result after ok known ran => by
    obtain rfl := idle s choice result after ran
    exact ⟨.refl ok, known⟩

end

theorem openWatch_spec :
    (discipline rt).Spec 0 (openWatch rt) (Duty (Between (T := T) (P := P) .idle)) fun opened =>
      match opened with
      | .stream => Duty (Between .opened)
      | .error | .timedOut => Duty (Between .idle) := by
  refine .bind (clockNow_past (sheltered_duty _).stable) fun start => ?_
  refine ((watcherAwait_spec (G := fun opened watch => match opened with
    | .stream => Between .opened watch
    | .error | .timedOut => Between .idle watch) fun s choice opened after ok known ran => ?_).pre
    fun s _ held => held.1).post fun opened s _ held => ?_
  · have waited : some (opened, after) = some (opened, s) → opened ≠ .stream →
        WatcherStep rt.config s after ∧ Between .idle after.watch := by
      intro same _
      obtain ⟨_, rfl⟩ := Prod.mk.injEq .. ▸ Option.some.inj same
      exact ⟨.refl ok, known⟩
    match choice with
    | 0 =>
        simp only at ran
        split at ran
        · split at ran
          · obtain ⟨rfl, rfl⟩ := Prod.mk.injEq .. ▸ Option.some.inj ran
            exact ⟨.refl ok, known⟩
          · cases ran
        · cases ran
    | 1 =>
        obtain ⟨rfl, rfl⟩ := Prod.mk.injEq .. ▸ Option.some.inj ran
        exact ⟨.refl ok, known⟩
    | _ + 2 =>
        obtain ⟨rfl, rfl⟩ := Prod.mk.injEq .. ▸ Option.some.inj ran
        exact ⟨.openStream ok known.1 known.2, rfl, known.2⟩
  · cases opened <;> exact held

def Woken : Work T → Watch T P → Prop
  | .change (.change change) => Applying change
  | .stable | .refreshBatch | .refreshDone | .change (.error _) | .change .ended =>
      Between .connected

theorem nextWork_spec (stableAt : Option Nat) :
    (discipline rt).Spec 0 (nextWork rt stableAt) (Duty (Between (T := T) (P := P) .connected))
      fun work => Duty (Woken work) := by
  refine watcherAwait_spec (G := Woken) fun s choice work after ok known ran => ?_
  rcases choice with _ | _ | _ | choice
  · simp only at ran
    split at ran
    · split at ran
      · obtain ⟨rfl, rfl⟩ := Prod.mk.injEq .. ▸ Option.some.inj ran
        exact ⟨.refl ok, known⟩
      · cases ran
    · cases ran
  · simp only at ran
    split at ran
    · cases ran
    · obtain ⟨rfl, rfl⟩ := Prod.mk.injEq .. ▸ Option.some.inj ran
      exact ⟨.receiveBatch ok, known⟩
  · simp only at ran
    split at ran
    · rename_i item rest stream
      obtain ⟨rfl, rfl⟩ := Prod.mk.injEq .. ▸ Option.some.inj ran
      refine ⟨.takeItem ok stream known.2, ?_⟩
      cases item with
      | change change => exact ⟨known.1, rfl⟩
      | error => exact ⟨known.1, rfl⟩
      | ended => exact ⟨known.1, rfl⟩
    · cases ran
  · simp only at ran
    split at ran
    · rename_i fetch at_index
      split at ran
      · rename_i done
        obtain ⟨rfl, rfl⟩ := Prod.mk.injEq .. ▸ Option.some.inj ran
        exact ⟨.refreshDone ok at_index done, known⟩
      · cases ran
    · cases ran

theorem sessionRound_spec (state : SessionState) :
    (discipline rt).Spec 0 (sessionRound rt state) (Duty (Between (T := T) (P := P) .connected))
      fun _ => Duty (Between .connected) := by
  refine .bind (nextWork_spec state.stableAt) fun work => ?_
  match work with
  | .stable =>
      exact .bind (watchStable_spec fun _ known => known) fun _ => .done fun _ _ held => held
  | .refreshBatch | .refreshDone => exact .done fun _ _ held => held
  | .change .ended | .change (.error _) => exact .done fun _ _ held => held
  | .change (.change change) =>
      refine .bind (applyChange_spec change) fun _ => ?_
      split
      · refine .bind (watcherAwait_idle fun s choice result after ran => ?_) fun _ =>
          .done fun _ _ held => held
        exact (Prod.mk.injEq .. ▸ Option.some.inj ran).2.symm
      · exact .done fun _ _ held => held

theorem runSession_spec (reconnectDelay : Nat) :
    (discipline rt).Spec 0 (runSession rt reconnectDelay) (Duty (Between (T := T) (P := P) .opened))
      fun _ => Duty (Between .ended) := by
  refine .bind watchConnected_spec fun _ => ?_
  refine .bind (clockNow_past (sheltered_duty _).stable) fun now => ?_
  refine .bind (M := fun _ => Duty (Between .connected)) ((Discipline.Spec.steady
    (sheltered_duty (Between .connected)).stable fun state =>
      (sessionRound_spec state).post ?_).pre fun s _ held => held.1) fun delay => ?_
  · rintro (_ | _) s _ held
    · exact held
    · exact held
  · exact .bind dropSession_spec fun _ => .done fun _ _ held => held

theorem sleepReconnect_spec {F : Watch T P → Prop} (delay : Nat) :
    (discipline rt).Spec 0 (sleepReconnect rt delay) (Duty F) fun _ => Duty F := by
  refine .bind (idleAct (sheltered_duty F).stable fun s choice result after ran => ?_) fun draw => ?_
  · exact (Prod.mk.injEq .. ▸ Option.some.inj ran).2.symm
  · refine .bind (clockNow_past (sheltered_duty F).stable) fun now => ?_
    refine (watcherAwait_idle fun s choice result after ran => ?_).pre fun s _ held => held.1
    split at ran
    · split at ran
      · exact (Prod.mk.injEq .. ▸ Option.some.inj ran).2.symm
      · cases ran
    · cases ran

/-- The watcher never ends of itself. -/
theorem watchSource_spec :
    (discipline rt).Spec 0 (watchSource (T := T) (P := P) rt) (Duty (Between .idle)) fun _ s =>
      s.Resting 0 := by
  refine (Discipline.Spec.steady (sheltered_duty (Between .idle)).stable fun reconnectDelay => ?_)
  refine .bind openWatch_spec fun opened => ?_
  have reconnect : ∀ delay, (discipline rt).Spec 0
      (do
        watchDisconnected
        sleepReconnect rt delay
        pure (.inl (min (delay * 2) rt.config.maxReconnectDelay)) : Program (Gate T P) (Nat ⊕ Unit))
      (Duty fun watch : Watch T P => Between .idle watch ∨ Between .ended watch)
      (Sum.elim (fun _ => Duty (Between .idle)) fun _ s => s.Resting 0) := fun delay =>
    .bind watchDisconnected_spec fun _ => .bind (sleepReconnect_spec delay) fun _ =>
      .done fun _ _ held => held
  cases opened with
  | stream =>
      exact .bind (runSession_spec reconnectDelay) fun delay =>
        (reconnect delay).pre fun s _ held => held.mono fun _ => .inr
  | error | timedOut =>
      exact .bind (M := fun _ => Duty (Between .idle)) (.done fun _ _ held => held) fun delay =>
        (reconnect delay).pre fun s _ held => held.mono fun _ => .inl

end PolicyGate
