import PolicyGate.Watcher.Laws
import PolicyGate.Specs.Calls

namespace PolicyGate

open Interleaving WatchRecord

variable {T P : Type} [DecidableEq T] {rt : Runtime}

/-- The watcher by itself: the others leave the watch alone. -/
abbrev watching (T P : Type) [DecidableEq T] (rt : Runtime) : Discipline (Gate T P × WatchRecord T) :=
  (discipline rt).recording 0 fun s notes => Recorded rt s.watch notes

/-- What the watcher knows of its own state and record. -/
abbrev Stands (F : Watch T P → WatchRecord T → Prop) (x : Gate T P × WatchRecord T) : Prop :=
  F x.1.watch x.2

variable {F G : Watch T P → WatchRecord T → Prop} {delay : Nat} {α β : Type}

omit [DecidableEq T] in
theorem Rely.watch_eq {before after : Gate T P} (rely : Rely 0 before after) :
    after.watch = before.watch := (rely.watch rfl).1

theorem stable_stands : (watching T P rt).Stable 0 (Stands F) :=
  Discipline.recording_stable (P := fun (s : Gate T P) notes => F s.watch notes)
    fun before after notes (rely : Rely 0 before after) held => by
      rw [rely.watch_eq]
      exact held

def Unmoved (F : Watch T P → WatchRecord T → Prop) : Prop :=
  ∀ before after notes, Gate.Steady before after → F before.watch notes → F after.watch notes

theorem hosted_steadily {program : Program (Gate T P) α} (steadily : Steadily program)
    (unmoved : Unmoved F) :
    (watching T P rt).Spec 0 (program.hosted _) (Stands F) fun _ => Stands F := by
  refine (Discipline.Spec.of_each (Program.Each.hosted steadily) stable_stands
    fun before after step recorded held => ?_).post fun _ _ _ held => held.2
  obtain ⟨steady, same⟩ := step
  rw [Stands, same]
  exact ⟨recorded.steady steady, unmoved _ _ _ steady held⟩

theorem noteModify_stands {note : Gate T P → WatchNote T} {f : Gate T P → Gate T P}
    (runs : ∀ s notes, Recorded rt s.watch notes → F s.watch notes →
      Recorded rt (f s).watch (note (f s) :: notes) ∧ G (f s).watch (note (f s) :: notes)) :
    (watching T P rt).Spec 0 (.noteModify (Watching.note note) f) (Stands F) fun _ => Stands G :=
  .noteModify stable_stands runs

theorem hostedModify_stands {f : Gate T P → Gate T P}
    (runs : ∀ s notes, Recorded rt s.watch notes → F s.watch notes →
      Recorded rt (f s).watch notes ∧ G (f s).watch notes) :
    (watching T P rt).Spec 0 ((Program.modify f).hosted _) (Stands F) fun _ => Stands G :=
  .hosted_modify stable_stands runs

namespace Watching

variable {K : Nat → Prop}

def Unopened (config : PolicyGateConfig) (K : Nat → Prop) (watch : Watch T P)
    (notes : WatchRecord T) : Prop :=
  watch.phase ≠ .opened ∧ pending notes = none ∧ K (backoff config notes)

def Idle (config : PolicyGateConfig) (K : Nat → Prop) (watch : Watch T P)
    (notes : WatchRecord T) : Prop :=
  (∃ rest, notes = .idle :: rest) ∧ watch.phase ≠ .opened ∧ watch.disconnectedSince ≠ none ∧
    K (backoff config notes)

def Disconnecting (config : PolicyGateConfig) (K : Nat → Prop) (watch : Watch T P)
    (notes : WatchRecord T) : Prop :=
  watch.phase = .disconnecting ∧ pending notes = none ∧ K (backoff config notes)

def Leaving (config : PolicyGateConfig) (K : Nat → Prop) (watch : Watch T P)
    (notes : WatchRecord T) : Prop :=
  (∃ now rest, notes = .disconnected now :: rest) ∧ watch.phase = .disconnecting ∧
    watch.connected = false ∧ watch.disconnectedSince ≠ none ∧ K (backoff config notes)

section

omit [DecidableEq T]

theorem unmoved_unopened : Unmoved (T := T) (P := P) (Unopened rt.config K) := by
  intro before after notes steady held
  unfold Unopened
  rw [steady.phase]
  exact held

theorem unmoved_disconnecting : Unmoved (T := T) (P := P) (Disconnecting rt.config K) := by
  intro before after notes steady held
  exact ⟨steady.phase.trans held.1, held.2⟩

theorem unmoved_leaving : Unmoved (T := T) (P := P) (Leaving rt.config K) := by
  intro before after notes steady held
  unfold Leaving
  rw [steady.phase, steady.connected, steady.disconnectedSince]
  exact held

end

theorem publishEmpty_spec {afterPublish : Watching T P Unit} (unmoved : Unmoved F)
    (moved : Unmoved G)
    (spec : (watching T P rt).Spec 0 afterPublish (Stands F) fun _ => Stands G) :
    (watching T P rt).Spec 0 (publishEmpty afterPublish) (Stands F) fun _ => Stands G := by
  refine .bind (hosted_steadily lockPublish_steadily unmoved) fun _ => ?_
  refine .bind (hosted_steadily (.modify fun _ => rfl) unmoved) fun _ => ?_
  refine .bind (hosted_steadily (.modify fun _ => rfl) unmoved) fun _ => ?_
  exact .bind spec fun _ => hosted_steadily unlockPublish_steadily moved

theorem clear_spec :
    (watching T P rt).Spec 0 (Subjects.clear.hosted _) (Stands (Leaving rt.config K))
      fun _ => Stands fun watch notes => Leaving rt.config K watch notes ∧ watch.era = none := by
  have unmoved : Unmoved (T := T) (P := P) fun watch notes =>
      Leaving rt.config K watch notes ∧ watch.era = none := by
    intro before after notes steady held
    refine ⟨unmoved_leaving _ _ _ steady held.1, ?_⟩
    rcases steady.era with same | forgotten
    · rw [same, held.2]
    · rw [forgotten, Subjects.clearedEra, if_neg (by rw [held.1.2.1]; decide)]
  refine .hosted_bind (hosted_steadily Subjects.lock_steadily unmoved_leaving) fun _ => ?_
  refine .hosted_bind (hosted_steadily .read unmoved_leaving) fun entries => ?_
  refine .hosted_bind (hosted_steadily (Subjects.invalidateAll_steadily entries) unmoved_leaving)
    fun _ => ?_
  refine .hosted_bind (hostedModify_stands fun s notes recorded held => ?_) fun _ =>
    hosted_steadily Subjects.unlock_steadily unmoved
  refine ⟨recorded.steady ⟨rfl, rfl, rfl, rfl, .inr rfl⟩, held, ?_⟩
  have away : s.watch.phase ≠ .opened := by
    rw [held.2.1]
    decide
  exact if_neg away

theorem leave_spec :
    (watching T P rt).Spec 0
      (do
        (Program.modify fun s : Gate T P => sendConnected s false).hosted _
        markDisconnected)
      (Stands (Disconnecting rt.config K)) fun _ => Stands (Leaving rt.config K) := by
  refine .bind (hostedModify_stands
    (G := fun watch notes => Disconnecting rt.config K watch notes ∧ watch.connected = false)
    fun s notes recorded held => ?_) fun _ => noteModify_stands fun s notes recorded held => ?_
  · refine ⟨⟨recorded.regular, recorded.since, recorded.numbered, fun isDown => ?_,
      recorded.stable⟩, held, rfl⟩
    exact (recorded.down isDown).imp_right fun cleared => ⟨cleared.1, rfl⟩
  · exact ⟨recorded.disconnected held.1.2.1 rfl rfl ⟨rfl, rfl, rfl⟩, ⟨_, notes, rfl⟩, held.1.1,
      held.2, nofun, held.1.2.2⟩

theorem watchDisconnected_spec :
    (watching T P rt).Spec 0 watchDisconnected (Stands (Unopened rt.config K))
      fun _ => Stands (Idle rt.config K) := by
  refine .bind (hostedModify_stands (G := Disconnecting rt.config K)
    fun s notes recorded held => ?_) fun _ => ?_
  · refine ⟨⟨recorded.regular, recorded.since, recorded.numbered, fun isDown => .inr ?_,
      recorded.stable⟩, rfl, held.2⟩
    exact (recorded.down isDown).resolve_left held.1
  refine .bind (publishEmpty_spec unmoved_disconnecting unmoved_leaving leave_spec) fun _ => ?_
  refine .bind clear_spec fun _ => noteModify_stands fun s notes recorded held => ?_
  obtain ⟨⟨left, _, off, since, base⟩, era⟩ := held
  exact ⟨recorded.plain trivial left rfl rfl fun _ => .inr ⟨era, off⟩, ⟨notes, rfl⟩, nofun, since, base⟩

theorem dropSession_spec :
    (watching T P rt).Spec 0 (dropSession.hosted _) (Stands (Unopened rt.config K))
      fun _ => Stands (Unopened rt.config K) := by
  refine hostedModify_stands fun s notes recorded held => ?_
  refine ⟨⟨recorded.regular, recorded.since, recorded.numbered, fun isDown => .inr ?_,
    recorded.stable⟩, nofun, held.2⟩
  exact (recorded.down isDown).resolve_left held.1

theorem dropWatcher_spec :
    (watching T P rt).Spec 0 dropWatcher (Stands (Unopened rt.config fun _ => True))
      fun _ _ => True := by
  refine .bind dropSession_spec fun _ => ?_
  refine .bind (hosted_steadily (.modify fun _ => rfl) unmoved_unopened) fun _ => ?_
  refine .bind watchDisconnected_spec fun _ => ?_
  refine (hostedModify_stands (G := fun _ _ => True) fun s notes recorded held => ⟨?_, trivial⟩).post
    fun _ _ _ _ => trivial
  exact ⟨recorded.regular, recorded.since, recorded.numbered, recorded.down, recorded.stable⟩

def JustOpened (config : PolicyGateConfig) (K : Nat → Prop) (watch : Watch T P)
    (notes : WatchRecord T) : Prop :=
  (∃ rest, notes = .opened watch.opened :: rest) ∧ watch.phase = .opened ∧
    K (backoff config notes) ∧ taken watch.opened notes = [] ∧ applied watch.opened notes = []

def JustConnected (config : PolicyGateConfig) (K : Nat → Prop) (watch : Watch T P)
    (notes : WatchRecord T) : Prop :=
  (∃ rest, notes = .connected :: .opened watch.opened :: rest) ∧ watch.phase = .connected ∧
    K (backoff config notes) ∧ taken watch.opened notes = [] ∧ applied watch.opened notes = []

omit [DecidableEq T] in
theorem unmoved_justOpened : Unmoved (T := T) (P := P) (JustOpened rt.config K) := by
  intro before after notes steady held
  unfold JustOpened
  rw [steady.opened, steady.phase]
  exact held

theorem watchConnected_spec :
    (watching T P rt).Spec 0 watchConnected (Stands (JustOpened rt.config K))
      fun _ => Stands (JustConnected rt.config K) := by
  refine .bind (publishEmpty_spec unmoved_justOpened unmoved_justOpened (.done fun _ _ held => held))
    fun _ => .bind (hosted_steadily Subjects.clear_steadily unmoved_justOpened) fun _ => ?_
  refine noteModify_stands fun s notes recorded held => ?_
  obtain ⟨⟨rest, opened⟩, _, base, items, changes⟩ := held
  exact ⟨recorded.plain trivial ⟨_, rest, opened⟩ rfl rfl nofun, ⟨rest, congrArg _ opened⟩, rfl, base,
    items, changes⟩

def Ready (config : PolicyGateConfig) (K : Nat → Prop) (watch : Watch T P)
    (notes : WatchRecord T) : Prop :=
  (notes = [] ∨ ∃ now rest, notes = .woke now :: rest) ∧ watch.phase ≠ .opened ∧
    watch.disconnectedSince ≠ none ∧ K (backoff config notes)

omit [DecidableEq T] in
theorem Ready.unopened {config : PolicyGateConfig} {watch : Watch T P} {notes : WatchRecord T}
    (held : Ready config K watch notes) : Unopened config K watch notes := by
  obtain ⟨ready, away, _, base⟩ := held
  refine ⟨away, ?_, base⟩
  rcases ready with rfl | ⟨now, rest, rfl⟩ <;> rfl

theorem openWatch_spec :
    (watching T P rt).Spec 0 (openWatch rt) (Stands (Ready rt.config K)) fun opened =>
      Stands (match opened with
        | .stream => JustOpened rt.config K
        | .error | .timedOut => Unopened rt.config K) := by
  refine .noted_atomic (M := fun _ => Stands (Ready rt.config K)) stable_stands ?_ fun start => ?_
  · intro s notes choice result after recorded held ran
    obtain ⟨_, rfl⟩ := Prod.mk.injEq .. ▸ Option.some.inj ran
    exact ⟨recorded, held⟩
  refine .noted_wait stable_stands ?_ (fun _ => .done fun _ _ held => held)
    (dropWatcher_spec.pre fun _ _ held => ⟨held.2.1, held.unopened.2.1, trivial⟩)
  intro s notes choice result after recorded held ran
  obtain ⟨ready, away, since, base⟩ := held
  have failed : Recorded rt s.watch (.failed :: notes) := recorded.same trivial ready rfl
  match choice with
  | 0 =>
      simp only at ran
      split at ran
      · split at ran
        · obtain ⟨rfl, rfl⟩ := Prod.mk.injEq .. ▸ Option.some.inj ran
          exact ⟨failed, away, rfl, base⟩
        · cases ran
      · cases ran
  | 1 =>
      obtain ⟨rfl, rfl⟩ := Prod.mk.injEq .. ▸ Option.some.inj ran
      exact ⟨failed, away, rfl, base⟩
  | _ + 2 =>
      obtain ⟨rfl, rfl⟩ := Prod.mk.injEq .. ▸ Option.some.inj ran
      obtain ⟨items, changes⟩ := recorded.numbered (s.watch.opened + 1) (by omega)
      exact ⟨recorded.opened ready rfl rfl rfl since, ⟨notes, rfl⟩, rfl, base, items, changes⟩

def Reading (since : Nat) (watch : Watch T P) (notes : WatchRecord T) : Prop :=
  Attached watch.opened since notes ∧ pending notes = none ∧
    taken watch.opened notes = (applied watch.opened notes).map .change ∧ watch.phase ≠ .opened

def InSession (config : PolicyGateConfig) (state : SessionState) (watch : Watch T P)
    (notes : WatchRecord T) : Prop :=
  (∃ since, Reading since watch notes ∧
    ∀ due, state.stableAt = some due → due = since + config.maxReconnectDelay) ∧
    backoff config notes = state.reconnectDelay

def Took (config : PolicyGateConfig) (state : SessionState) (change : DecisionChange T)
    (watch : Watch T P) (notes : WatchRecord T) : Prop :=
  ∃ earlier, notes = .took watch.opened (.change change) :: earlier ∧
    InSession config state watch earlier

def Woken (config : PolicyGateConfig) (state : SessionState) :
    Work T → Gate T P × WatchRecord T → Prop
  | .stable, x => ∃ since, Reading since x.1.watch x.2 ∧
      since + config.maxReconnectDelay ≤ x.1.clock
  | .refreshBatch, x | .refreshDone, x => Stands (InSession config state) x
  | .change (.change change), x => Stands (Took config state change) x
  | .change (.error _), x | .change .ended, x =>
      Stands (Unopened config (· = state.reconnectDelay)) x

section

omit [DecidableEq T]

theorem InSession.unopened {config : PolicyGateConfig} {state : SessionState} {watch : Watch T P}
    {notes : WatchRecord T} (held : InSession config state watch notes) :
    Unopened config (· = state.reconnectDelay) watch notes := by
  obtain ⟨⟨since, reading, _⟩, base⟩ := held
  exact ⟨reading.2.2.2, reading.2.1, base⟩

theorem unmoved_reading (since : Nat) : Unmoved (T := T) (P := P) (Reading since) := by
  intro before after notes steady held
  unfold Reading
  rw [steady.opened, steady.phase]
  exact held

theorem unmoved_inSession (state : SessionState) :
    Unmoved (T := T) (P := P) (InSession rt.config state) := by
  rintro before after notes steady ⟨⟨since, reading, due⟩, base⟩
  exact ⟨⟨since, unmoved_reading since _ _ _ steady reading, due⟩, base⟩

end

omit [DecidableEq T] in
theorem take_item {s after : Gate T P} {notes : WatchRecord T} {state : SessionState}
    (item : StreamItem T) (steady : Gate.Steady s after) (recorded : Recorded rt s.watch notes)
    (held : InSession rt.config state s.watch notes) :
    Recorded rt after.watch (.took after.watch.opened item :: notes) ∧
      Woken rt.config state (.change item) (after, .took after.watch.opened item :: notes) := by
  have held' := unmoved_inSession state _ _ _ steady held
  obtain ⟨⟨since, ⟨streaming, settled, items, away⟩, due⟩, base⟩ := held'
  refine ⟨(recorded.steady steady).took ⟨settled, ⟨since, streaming⟩, items⟩, ?_⟩
  cases item with
  | change change => exact ⟨notes, rfl, ⟨since, ⟨streaming, settled, items, away⟩, due⟩, base⟩
  | error | ended => exact ⟨away, rfl, base⟩

theorem nextWork_spec (state : SessionState) :
    (watching T P rt).Spec 0 (nextWork rt state.stableAt) (Stands (InSession rt.config state))
      (Woken rt.config state) := by
  refine .noted_wait stable_stands ?_ (fun _ => .done fun _ _ held => held)
    (dropWatcher_spec.pre fun _ _ held => ⟨held.unopened.1, held.unopened.2.1, trivial⟩)
  intro s notes choice work after recorded held ran
  rcases choice with _ | _ | _ | choice
  · simp only at ran
    split at ran
    · rename_i due at_due
      split at ran
      · rename_i passed
        obtain ⟨rfl, rfl⟩ := Prod.mk.injEq .. ▸ Option.some.inj ran
        obtain ⟨⟨since, reading, timed⟩, _⟩ := held
        exact ⟨recorded, since, reading, timed due at_due ▸ passed⟩
      · cases ran
    · cases ran
  · simp only at ran
    split at ran
    · cases ran
    · obtain ⟨rfl, rfl⟩ := Prod.mk.injEq .. ▸ Option.some.inj ran
      have steady : Gate.Steady s (receiveBatch rt s) := ⟨rfl, rfl, rfl, rfl, .inl rfl⟩
      exact ⟨recorded.steady steady, unmoved_inSession state _ _ _ steady held⟩
  · simp only at ran
    split at ran
    · rename_i item rest stream
      obtain ⟨rfl, rfl⟩ := Prod.mk.injEq .. ▸ Option.some.inj ran
      have steady : Gate.Steady s (takeItem s item rest) := ⟨rfl, rfl, rfl, rfl, .inl rfl⟩
      exact take_item item steady recorded held
    · cases ran
  · simp only at ran
    split at ran
    · split at ran
      · obtain ⟨rfl, rfl⟩ := Prod.mk.injEq .. ▸ Option.some.inj ran
        have steady : Gate.Steady s (s.updateWatch fun watch =>
            { watch with inflight := watch.inflight.eraseIdx choice }) :=
          ⟨rfl, rfl, rfl, rfl, .inl rfl⟩
        exact ⟨recorded.steady steady, unmoved_inSession state _ _ _ steady held⟩
      · cases ran
    · cases ran

theorem watchStable_spec (state : SessionState) :
    (watching T P rt).Spec 0 watchStable (Woken (T := T) rt.config state .stable) fun _ =>
      Stands (InSession rt.config
        { state with reconnectDelay := rt.config.initialReconnectDelay, stableAt := none }) := by
  have stable : (watching T P rt).Stable 0 (Woken rt.config state .stable) :=
    Discipline.recording_stable (P := fun (s : Gate T P) notes => ∃ since,
      Reading since s.watch notes ∧ since + rt.config.maxReconnectDelay ≤ s.clock)
      fun before after notes (rely : Rely 0 before after) ⟨since, reading, passed⟩ =>
        ⟨since, rely.watch_eq ▸ reading, passed.trans rely.clock⟩
  refine .noteModify stable fun s notes recorded held => ?_
  obtain ⟨since, ⟨streaming, settled, items, away⟩, passed⟩ := held
  exact ⟨recorded.settled ⟨settled, since, streaming, passed⟩ rfl rfl ⟨rfl, rfl, rfl⟩,
    ⟨since, ⟨streaming, rfl, items, away⟩, nofun⟩, rfl⟩

omit [DecidableEq T] in
theorem unmoved_took (state : SessionState) (change : DecisionChange T) :
    Unmoved (T := T) (P := P) (Took rt.config state change) := by
  rintro before after notes steady ⟨earlier, took, session⟩
  exact ⟨earlier, steady.opened ▸ took, unmoved_inSession state _ _ _ steady session⟩

omit [DecidableEq T] in
theorem apply_taken {watch : Watch T P} {notes : WatchRecord T} {state : SessionState}
    {change : DecisionChange T} (recorded : Recorded rt watch notes)
    (held : Took rt.config state change watch notes) :
    Recorded rt watch (.applied watch.opened change :: notes) ∧
      InSession rt.config state watch (.applied watch.opened change :: notes) := by
  obtain ⟨earlier, rfl, ⟨since, ⟨streaming, _, items, away⟩, due⟩, base⟩ := held
  refine ⟨recorded.applied ⟨earlier, rfl⟩, ⟨since, ⟨streaming, rfl, ?_, away⟩, due⟩, base⟩
  simp only [taken, applied, ↓reduceIte, items, List.map_append, List.map_cons, List.map_nil]

theorem applyChange_spec (state : SessionState) (change : DecisionChange T) :
    (watching T P rt).Spec 0 (applyChange rt change) (Stands (Took rt.config state change))
      fun _ => Stands (InSession rt.config state) := by
  refine (Discipline.Spec.noteFirst (applyChange_steadily change) stable_stands stable_stands
    (fun s after notes steady recorded held => ?_) fun s after notes steady recorded held =>
      ⟨recorded.steady steady, unmoved_inSession state _ _ _ steady held⟩).post
    fun _ _ _ held => held.2
  exact apply_taken (recorded.steady steady) (unmoved_took state change _ _ _ steady held)

theorem sessionRound_spec (state : SessionState) :
    (watching T P rt).Spec 0 (sessionRound rt state) (Stands (InSession rt.config state))
      (Sum.elim (fun next => Stands (InSession rt.config next)) fun delay =>
        Stands (Unopened rt.config (· = delay))) := by
  refine .bind (nextWork_spec state) fun work => ?_
  match work with
  | .stable => exact .bind (watchStable_spec state) fun _ => .done fun _ _ held => held
  | .refreshBatch | .refreshDone => exact .done fun _ _ held => held
  | .change .ended | .change (.error _) => exact .done fun _ _ held => held
  | .change (.change change) =>
      refine .bind (applyChange_spec state change) fun _ => ?_
      split
      · refine .bind (M := fun _ => Stands (InSession rt.config state)) (.noted_wait stable_stands ?_
          (fun _ => .done fun _ _ held => held)
          (dropWatcher_spec.pre fun _ _ held => ⟨held.unopened.1, held.unopened.2.1, trivial⟩)) fun _ =>
            .done fun _ _ held => held
        intro s notes choice result after recorded held ran
        obtain ⟨_, rfl⟩ := Prod.mk.injEq .. ▸ Option.some.inj ran
        exact ⟨recorded, held⟩
      · exact .done fun _ _ held => held

theorem runSession_spec (delay : Nat) :
    (watching T P rt).Spec 0 (runSession rt delay) (Stands (JustOpened rt.config (· = delay)))
      fun delay => Stands (Unopened rt.config (· = delay)) := by
  refine .bind watchConnected_spec fun _ => ?_
  refine .bind (M := fun now => Stands (InSession rt.config
    { reconnectDelay := delay, stableAt := checkedAdd rt now rt.config.maxReconnectDelay,
      eventsSinceYield := 0 })) (.noted_atomic stable_stands ?_ fun _ =>
        .done fun _ _ held => held) fun now => ?_
  · intro s notes choice now after recorded held ran
    obtain ⟨rfl, rfl⟩ := Prod.mk.injEq .. ▸ Option.some.inj ran
    obtain ⟨⟨rest, connecting⟩, connected, base, items, changes⟩ := held
    change notes = .connected :: .opened s.watch.opened :: rest at connecting
    subst connecting
    refine ⟨recorded.same trivial ⟨_, rfl⟩ rfl, ⟨s.clock, ⟨⟨rfl, rfl⟩, rfl, ?_, ?_⟩, ?_⟩, base⟩
    · exact items.trans (congrArg (List.map StreamItem.change) changes).symm
    · rw [connected]
      decide
    · intro due timed
      exact (Instant.checkedAdd_eq_some.mp timed).2.symm
  have rounds : ∀ state, (watching T P rt).Stable 0 (Stands (InSession rt.config state)) :=
    fun _ => stable_stands
  refine .bind (.iterate rounds sessionRound_spec) fun delay => ?_
  exact .bind dropSession_spec fun _ => .done fun _ _ held => held

def Sleeping (base pause now : Nat) (watch : Watch T P)
    (notes : WatchRecord T) : Prop :=
  (∃ rest, notes = .sleeps base pause now :: rest) ∧ watch.phase ≠ .opened ∧
    watch.disconnectedSince ≠ none

omit [DecidableEq T] in
theorem Sleeping.settled {base pause now : Nat} {watch : Watch T P} {notes : WatchRecord T}
    (held : Sleeping base pause now watch notes) : pending notes = none := by
  obtain ⟨⟨rest, rfl⟩, _⟩ := held
  rfl

theorem sleepReconnect_spec (delay : Nat) :
    (watching T P rt).Spec 0 (sleepReconnect rt delay) (Stands (Idle rt.config (· = delay)))
      fun _ => Stands (Ready rt.config (· = min (delay * 2) rt.config.maxReconnectDelay)) := by
  refine .bind (M := fun draw x => draw < 2 ^ 64 ∧ Stands (Idle rt.config (· = delay)) x)
    (.hosted_act stable_stands ?_) fun draw => .given fun small => ?_
  · intro s notes choice draw after recorded held ran
    obtain ⟨rfl, rfl⟩ := Prod.mk.injEq .. ▸ Option.some.inj ran
    exact ⟨recorded, Nat.mod_lt _ (by decide), held⟩
  refine .bind (M := fun now => Stands (Sleeping delay (jitter delay draw) now))
    (.noted_atomic stable_stands ?_ fun _ => .done fun _ _ held => held) fun now => ?_
  · intro s notes choice now after recorded held ran
    obtain ⟨rfl, rfl⟩ := Prod.mk.injEq .. ▸ Option.some.inj ran
    obtain ⟨ended, away, since, base⟩ := held
    exact ⟨recorded.same trivial ⟨ended, base.symm, draw, small, rfl⟩ rfl, ⟨notes, rfl⟩, away, since⟩
  refine .noted_wait stable_stands ?_ (fun _ => .done fun _ _ held => held)
    (dropWatcher_spec.pre fun _ _ held => ⟨held.2.1, held.settled, trivial⟩)
  intro s notes choice result after recorded held ran
  split at ran
  · rename_i wake at_wake
    dsimp only at ran
    split at ran
    · rename_i passed
      obtain ⟨rfl, rfl⟩ := Prod.mk.injEq .. ▸ Option.some.inj ran
      obtain ⟨⟨rest, rfl⟩, away, since⟩ := held
      have due := (Instant.checkedAdd_eq_some.mp at_wake).2
      exact ⟨recorded.same trivial ⟨_, _, now, rest, rfl, due.trans_le passed⟩ rfl,
        .inr ⟨s.clock, _, rfl⟩, away, since, rfl⟩
    · cases ran
  · cases ran

/-- The watcher keeps its record in every interleaving. -/
theorem watchSource_spec :
    (watching T P rt).Spec 0 (watchSource rt)
      (Stands (Ready rt.config (· = rt.config.initialReconnectDelay))) fun _ _ => True := by
  have delays : ∀ delay, (watching T P rt).Stable 0 (Stands (Ready rt.config (· = delay))) :=
    fun _ => stable_stands
  refine .iterate delays fun delay => .bind openWatch_spec fun opened => ?_
  have reconnect : ∀ delay, (watching T P rt).Spec 0
      (do
        watchDisconnected
        sleepReconnect rt delay
        pure (.inl (min (delay * 2) rt.config.maxReconnectDelay)) : Watching T P (Nat ⊕ Unit))
      (Stands (Unopened rt.config (· = delay)))
      (Sum.elim (fun delay => Stands (Ready rt.config (· = delay))) fun _ _ => True) := fun delay =>
    .bind watchDisconnected_spec fun _ => .bind (sleepReconnect_spec delay) fun _ =>
      .done fun _ _ held => held
  cases opened with
  | stream => exact .bind (runSession_spec delay) reconnect
  | error | timedOut => exact reconnect delay

end Watching

variable {authority : T → Option Decision} {calls : Nat → Call T}

omit [DecidableEq T] in
theorem recorded_new (constructed : Nat) (same : constructed = rt.constructed) :
    Recorded rt (Gate.new (P := P) constructed authority).watch [] where
  regular := trivial
  since := congrArg some same
  numbered _ _ := ⟨rfl, rfl⟩
  down _ := .inr ⟨rfl, rfl⟩
  stable settled := nomatch settled

theorem WatchReachable.sound {w : Config (Gate T P × WatchRecord T)}
    (reached : WatchReachable rt authority calls w) :
    ∃ c, Reachable rt authority calls c ∧ w.Shadows 0 c ∧
      Recorded rt w.shared.1.watch w.shared.2 := by
  obtain ⟨moves, ran⟩ := reached
  have guided : (startWatched (P := P) rt authority calls).Guided (discipline rt) 0
      fun s notes => Recorded rt s.watch notes := by
    refine ⟨recorded_new rt.constructed rfl,
      Stands (Watching.Ready rt.config (· = rt.config.initialReconnectDelay)), stable_stands,
      ⟨.inl rfl, nofun, nofun, rfl⟩, ?_⟩
    rw [startWatched, Config.host_guest]
    exact Watching.watchSource_spec
  obtain ⟨c, ended, shadows, guided⟩ := guided.run environment_neutral
    (fun before after notes (rely : Rely 0 before after) recorded => rely.watch_eq ▸ recorded)
    startWatched_shadows (covered_start authority calls) ran
  exact ⟨c, ⟨moves, ended⟩, shadows, guided.1⟩

end PolicyGate
