import PolicyGate.Audit.Admit

namespace PolicyGate

open Interleaving Data

variable {T P : Type} [DecidableEq T] {rt : Runtime} {me : Nat} {hold : Hold T} {L : Gate T P → Prop}
  {entry : Entry T}

theorem publishChange_keeps {decision : Decision} (context : Context rt me L)
    (known : ∀ s, L s → s.Known entry) : Keeps rt me hold L (publishChange rt entry decision) := by
  refine keepsIterate context fun _ => .bind (Entry.load_keeps context known) fun current => ?_
  refine .bind (keepsRead context fun _ _ _ _ => rfl) fun publication => ?_
  have settles : (entry.publishedSnapshot rt publication).state ≠ .pending := by
    rw [Entry.publishedSnapshot, Entry.decisionSnapshot_state]
    cases publication.result.decision <;> exact fun idle => by cases idle
  refine .bind (Entry.compareExchange_audit context known trivial settles) fun swapped => ?_
  split
  · rename_i succeeded
    have settled : Context rt me fun s => L s ∧ s.Settled entry.id := context.lasting (.settled _)
    refine .bind ((Entry.abortPending_audit settled (fun s held => known s held.1) fun s held => held.2).pre
      fun s _ _ held => ⟨held.1, held.2.1, held.2.2 (.inl succeeded)⟩) fun _ => ?_
    exact .done fun s _ _ held => ⟨held.1, held.2.1⟩
  · exact .done fun s _ _ held => ⟨held.1, held.2.1⟩

theorem applyChange_keeps {change : DecisionChange T} (context : Context rt me L) :
    Keeps rt me .none L (applyChange rt change) := by
  refine .bind (clockNow_keeps context) fun now => ?_
  cases change.decision with
  | some decision =>
      refine .bind (Subjects.update_keeps context fun entry => ?_) fun _ => republishIfDue_keeps context
      exact publishChange_keeps (context.lasting (.known entry)) fun s held => held.2
  | none =>
      refine .bind (Subjects.remove_keeps context) fun removed => ?_
      dsimp only
      split
      · exact .bind (Subjects.setDirty_keeps context) fun _ => republishIfDue_keeps context
      · exact republishIfDue_keeps context

omit [DecidableEq T] in
theorem Gate.Aside.watch {s : Gate T P} {watch : Watch T P} {stream : Option (List (StreamItem T))}
    (closed : watch.closed = s.watch.closed) : s.Aside me { s with watch, stream } :=
  ⟨.of_eq rfl rfl rfl closed, rfl, rfl, le_rfl, rfl, rfl, rfl⟩

theorem watchConnected_keeps (context : Context rt me L) : Keeps rt me .none L watchConnected :=
  .bind (publishEmpty_keeps context keepsDone) fun _ => .bind (Subjects.clear_keeps context) fun _ =>
    keepsModify context fun _ _ _ => .watch rfl

theorem watchDisconnected_audit (context : Context rt me L) :
    (audit rt).Spec me watchDisconnected (Gate.During me .none L)
      fun _ => Gate.During me .none fun s => L s ∧ s.watch.phase = .idle := by
  refine .bind (keepsModify context fun _ _ _ => .watch rfl) fun _ => .bind (publishEmpty_keeps context
    (.bind (keepsModify context fun _ _ _ => .watch rfl) fun _ => keepsModify context fun _ _ _ =>
      .watch rfl)) fun _ => .bind (Subjects.clear_keeps context) fun _ => ?_
  refine asideAct context (fun _ _ _ _ => ⟨0, rfl⟩) fun s choice result after follows ok held ran => ?_
  obtain ⟨_, rfl⟩ := Prod.mk.injEq .. ▸ Option.some.inj ran
  exact ⟨.watch rfl, rfl⟩

theorem watchDisconnected_keeps (context : Context rt me L) : Keeps rt me .none L watchDisconnected :=
  (watchDisconnected_audit context).post fun _ _ _ _ held => ⟨held.1, held.2.1⟩

theorem dropSession_keeps (context : Context rt me L) : Keeps rt me .none L dropSession :=
  keepsModify context fun _ _ _ => .watch rfl

theorem closeQueue_audit (context : Context rt 0 L) :
    (audit rt).Spec 0 (.modify fun s : Gate T P => { s with queue := [], queueClosed := true })
      (Gate.During 0 .none L) fun _ => Gate.During 0 .none fun s => L s ∧ s.queueClosed = true := by
  refine peripheryAct (H := fun _ => .none) (M := fun _ s => s.queueClosed = true) context
    (fun _ _ _ _ => ⟨0, rfl⟩) fun s choice result after follows ok held ran => ?_
  obtain ⟨_, rfl⟩ := Prod.mk.injEq .. ▸ Option.some.inj ran
  have periphery := ok.periphery
  refine ⟨⟨⟨periphery.apart, periphery.publish, Nat.zero_le _, fun _ => rfl, periphery.within⟩,
    ⟨.inl rfl, .inl rfl, fun _ _ => rfl, List.suffix_rfl, .inr (.inr ⟨rfl, s.queue.length, ?_⟩), fun _ => rfl,
      Gate.undropped rfl, fun closed _ => ?_⟩, held.1⟩, .of_eq rfl rfl rfl rfl, rfl⟩
  · exact List.drop_length.symm
  · rw [context.awake s held.2 rfl] at closed
    cases closed

theorem stable_idle : (audit rt).Stable 0 fun s : Gate T P => s.watch.phase = .idle := by
  intro actor before after other follows _ _ _ idle
  rcases follows.relied 0 other with rely | same
  · rw [(rely.watch rfl).1]
    exact idle
  · exact same ▸ idle

theorem dropWatcher_audit (context : Context rt 0 L) :
    (audit rt).Spec 0 dropWatcher (Gate.During 0 .none L) fun _ s => ¬ s.Locking 0 := by
  have closing := context.queueClosed
  refine .bind (dropSession_keeps context) fun _ => .bind (closeQueue_audit context) fun _ =>
    .bind (watchDisconnected_audit closing) fun _ => Audit.Spec.pre (P := fun s =>
      s.During 0 .none (fun s => L s ∧ s.queueClosed = true) ∧ s.watch.phase = .idle) ?_
        fun s _ _ held => ⟨⟨held.1, held.2.1⟩, held.2.2⟩
  refine .act ((closing.held .none).and stable_idle) (fun s _ _ held busy => absurd busy held.1.1)
    fun s choice result after follows ok held ran => ?_
  obtain ⟨_, rfl⟩ := Prod.mk.injEq .. ▸ Option.some.inj ran
  obtain ⟨⟨free, known, closed⟩, idle⟩ := held
  have inside : s.Inside (s.updateWatch fun watch => { watch with closed := s.watch.closed }) :=
    ⟨rfl, rfl, rfl, le_rfl, rfl, rfl, rfl⟩
  have aside : s.EntriesAside 0 (s.updateWatch fun watch => { watch with closed := s.watch.closed }) :=
    .of_eq rfl rfl rfl rfl
  have periphery : PeripheryStep rt.config (some 0) s
      (s.updateWatch fun watch => { watch with closed := s.watch.closed }) :=
    inside.step fun _ mine => Option.some.inj mine ▸ context.awake s known
  exact ⟨⟨{ ok.periphery with }, ok.lookups, ok.cooldowns⟩,
    ⟨{ periphery with dropped := fun _ _ => ⟨closed, idle⟩ }, { aside.step with }⟩, free⟩

theorem Gate.Passes.receiveBatch {s : Gate T P}
    (follows : Follows rt (some 0) s (PolicyGate.receiveBatch rt s)) (ok : s.Audited rt)
    (awake : s.Awake 0) : Gate.Passes rt 0 s (PolicyGate.receiveBatch rt s) := by
  have shape : PolicyGate.receiveBatch rt s = { s with
      flights := (PolicyGate.receiveBatch rt s).flights
      queue := s.queue.drop rt.config.refreshQueueCapacity
      watch := { s.watch with
        inflight := s.watch.inflight ++ s.queue.take rt.config.refreshQueueCapacity } } :=
    congrArg (fun flown : Gate T P => { flown with
      queue := s.queue.drop rt.config.refreshQueueCapacity
      watch := { s.watch with
        inflight := s.watch.inflight ++ s.queue.take rt.config.refreshQueueCapacity } }) (fly_eq _ s)
  have related := receiveBatch_flights rt s
  generalize (PolicyGate.receiveBatch rt s).flights = flights at shape related
  rw [shape] at follows ⊢
  have moved : ∀ generation flight flight', s.flights generation = some flight →
      flights generation = some flight' → flight' = flight ∨
        flight' = { flight with stage := .flying } ∧ flight.stage = .queued := by
    intro generation flight flight' flown flown'
    obtain ⟨was, flown'', step⟩ := related.backward flown'
    obtain rfl : flight = was := Option.some.inj (flown.symm.trans flown'')
    refine step.imp And.left fun ⟨same, fetch, member, home⟩ => ⟨same, ?_⟩
    obtain ⟨found, flownFound, _, queued⟩ :=
      follows.sound.queue.queued fetch (List.mem_of_mem_take member)
    rw [home, flown] at flownFound
    exact Option.some.inj flownFound ▸ queued
  have stays : Related (fun _ => Flight.Stays (some 0)) s.flights flights := by
    refine related.mono fun generation flight flight' flown flown' _ => ?_
    rcases moved generation flight flight' flown flown' with rfl | ⟨rfl, _⟩
    · exact ⟨rfl, rfl, rfl, .inl rfl, id⟩
    · exact ⟨rfl, rfl, rfl, .inl rfl, fun finished => by cases finished⟩
  have periphery := ok.periphery
  refine ⟨⟨⟨periphery.apart, periphery.publish, ?_, fun closed => ?_, periphery.within⟩,
      ok.lookups.stays follows stays fun id cell found _ => .inl ⟨cell, found, rfl⟩,
      ok.cooldowns.transfer 0 follows (fun id cell found => .inl ⟨cell, found, rfl, .inl rfl,
        fun fetch pending => .inl pending⟩) ?_⟩,
    ⟨⟨.inl rfl, .inl rfl, fun _ _ => rfl, List.suffix_rfl, .inr (.inr ⟨rfl, _, rfl⟩), id,
        Gate.undropped rfl, ?_⟩, .stays stays fun id cell found => ⟨cell, found, rfl, rfl⟩⟩,
    ⟨rfl, rfl, ?_⟩, rfl, rfl⟩
  · rw [List.length_drop]
    exact (Nat.sub_le _ _).trans periphery.bounded
  · rw [periphery.drained closed, List.drop_nil]
  · intro generation flight' flown'
    obtain ⟨flight, flown, _⟩ := related.backward flown'
    rcases moved generation flight flight' flown flown' with rfl | ⟨rfl, queued⟩
    · exact .inl ⟨flight', flown, rfl, rfl, id, fun _ underway => underway, fun _ waiting => waiting⟩
    · exact .inl ⟨flight, flown, rfl, rfl, id, fun _ _ => by rw [queued]; rfl,
        fun _ waiting => (by cases waiting)⟩
  · intro closed _
    rw [awake rfl] at closed
    cases closed
  · intro generation stage owned at_stage
    obtain ⟨flight, flown, rfl⟩ := Option.map_eq_some_iff.mp at_stage
    obtain ⟨flight', flown', _⟩ := related.forward flown
    rcases moved generation flight flight' flown flown' with rfl | ⟨rfl, queued⟩
    · exact Gate.stageOf_of_flights flown'
    · rw [queued] at owned
      cases owned

theorem watcherAwait_keeps {β : Type} {action : Pick → Gate T P → Option (β × Gate T P)}
    (context : Context rt 0 L)
    (runs : ∀ s choice result after, Follows rt (some 0) s after → s.Audited rt → s.Awake 0 →
      action ⟨0, choice⟩ s = some (result, after) → Gate.Passes rt 0 s after) :
    Keeps rt 0 .none L (watcherAwait action) :=
  passesWait context (fun s choice result after follows ok held =>
    runs s choice result after follows ok (context.awake s held)) (dropWatcher_audit context)

theorem watcherAwait_aside {β : Type} {action : Pick → Gate T P → Option (β × Gate T P)}
    (context : Context rt 0 L)
    (runs : ∀ s choice result after, action ⟨0, choice⟩ s = some (result, after) → s.Aside 0 after) :
    Keeps rt 0 .none L (watcherAwait action) :=
  watcherAwait_keeps context fun s choice result after follows ok awake ran =>
    (runs s choice result after ran).passes follows ok awake

theorem openWatch_keeps (context : Context rt 0 L) : Keeps rt 0 .none L (openWatch rt) := by
  refine .bind (clockNow_keeps context) fun start =>
    watcherAwait_aside context fun s choice opened after ran => ?_
  match choice with
  | 0 =>
      simp only at ran
      split at ran
      · split at ran
        · obtain ⟨_, rfl⟩ := Prod.mk.injEq .. ▸ Option.some.inj ran
          exact .refl 0 s
        · cases ran
      · cases ran
  | 1 =>
      obtain ⟨_, rfl⟩ := Prod.mk.injEq .. ▸ Option.some.inj ran
      exact .refl 0 s
  | _ + 2 =>
      obtain ⟨_, rfl⟩ := Prod.mk.injEq .. ▸ Option.some.inj ran
      exact .watch rfl

theorem nextWork_keeps {stableAt : Option Nat} (context : Context rt 0 L) :
    Keeps rt 0 .none L (nextWork rt stableAt) := by
  refine watcherAwait_keeps context fun s choice work after follows ok awake ran => ?_
  have aside : s.Aside 0 after → Gate.Passes rt 0 s after := fun aside =>
    aside.passes follows ok awake
  rcases choice with _ | _ | _ | choice
  · simp only at ran
    split at ran
    · split at ran
      · obtain ⟨_, rfl⟩ := Prod.mk.injEq .. ▸ Option.some.inj ran
        exact aside (.refl 0 s)
      · cases ran
    · cases ran
  · simp only at ran
    split at ran
    · cases ran
    · obtain ⟨_, rfl⟩ := Prod.mk.injEq .. ▸ Option.some.inj ran
      exact .receiveBatch follows ok awake
  · simp only at ran
    split at ran
    · obtain ⟨_, rfl⟩ := Prod.mk.injEq .. ▸ Option.some.inj ran
      exact aside (.watch rfl)
    · cases ran
  · simp only at ran
    split at ran
    · split at ran
      · obtain ⟨_, rfl⟩ := Prod.mk.injEq .. ▸ Option.some.inj ran
        exact aside (.watch rfl)
      · cases ran
    · cases ran

theorem sessionRound_keeps {state : SessionState} (context : Context rt 0 L) :
    Keeps rt 0 .none L (sessionRound rt state) := by
  refine .bind (nextWork_keeps context) fun work => ?_
  match work with
  | .stable => exact .bind (keepsModify context fun _ _ _ => .watch rfl) fun _ => keepsDone
  | .refreshBatch | .refreshDone => exact keepsDone
  | .change .ended | .change (.error _) => exact keepsDone
  | .change (.change change) =>
      refine .bind (applyChange_keeps context) fun _ => ?_
      split
      · refine .bind (watcherAwait_aside context fun s choice result after ran => ?_) fun _ => keepsDone
        obtain ⟨_, rfl⟩ := Prod.mk.injEq .. ▸ Option.some.inj ran
        exact .refl 0 s
      · exact keepsDone

theorem runSession_keeps {reconnectDelay : Nat} (context : Context rt 0 L) :
    Keeps rt 0 .none L (runSession rt reconnectDelay) :=
  .bind (watchConnected_keeps context) fun _ => .bind (clockNow_keeps context) fun _ =>
    .bind (keepsIterate context fun _ => sessionRound_keeps context) fun _ =>
      .bind (dropSession_keeps context) fun _ => keepsDone

theorem sleepReconnect_keeps {delay : Nat} (context : Context rt 0 L) :
    Keeps rt 0 .none L (sleepReconnect rt delay) := by
  refine .bind (keepsAct context (fun _ _ _ _ => ⟨0, rfl⟩) fun s choice draw after _ _ ran => ?_)
    fun draw => .bind (clockNow_keeps context) fun now =>
      watcherAwait_aside context fun s choice result after ran => ?_
  · obtain ⟨_, rfl⟩ := Prod.mk.injEq .. ▸ Option.some.inj ran
    exact .refl 0 s
  · split at ran
    · split at ran
      · obtain ⟨_, rfl⟩ := Prod.mk.injEq .. ▸ Option.some.inj ran
        exact .refl 0 s
      · cases ran
    · cases ran

theorem watchSource_keeps (context : Context rt 0 L) : Keeps rt 0 .none L (watchSource rt) := by
  have rest : ∀ delay, Keeps rt 0 .none L (do
      watchDisconnected
      sleepReconnect rt delay
      pure (.inl (min (delay * 2) rt.config.maxReconnectDelay)) : Program (Gate T P) (Nat ⊕ Unit)) :=
    fun delay => .bind (watchDisconnected_keeps context) fun _ =>
      .bind (sleepReconnect_keeps context) fun _ => keepsDone
  refine keepsIterate context fun reconnectDelay => .bind (openWatch_keeps context) fun opened => ?_
  cases opened with
  | stream => exact .bind (runSession_keeps context) fun delay => rest delay
  | error => exact rest reconnectDelay
  | timedOut => exact rest reconnectDelay

end PolicyGate
