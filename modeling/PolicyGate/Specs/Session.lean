import PolicyGate.Specs.Publish

namespace PolicyGate

open Interleaving

variable {T P : Type} [DecidableEq T] {rt : Runtime}

/-- The watcher keeps no claim, and of the watch, which only it writes, it knows `F`. -/
def Duty (F : Watch T P → Prop) (s : Gate T P) : Prop := s.Resting 0 ∧ F s.watch

theorem sheltered_duty (F : Watch T P → Prop) : Sheltered rt 0 (Duty F) :=
  fun _ _ _ _ beside duty => ⟨beside.resting duty.1, by
    rw [(beside.watch rfl).1]
    exact duty.2⟩

omit [DecidableEq T] in
theorem Duty.mono {F G : Watch T P → Prop} {s : Gate T P} (duty : Duty F s)
    (weaker : ∀ watch, F watch → G watch) : Duty G s :=
  ⟨duty.1, weaker _ duty.2⟩

theorem WatcherStep.resting {config : PolicyGateConfig} {before after : Gate T P}
    (step : WatcherStep config before after) (resting : before.Resting 0) : after.Resting 0 :=
  step.advance.toExtends.resting resting fun generation stage found enqueuer _ =>
    .inl ((step.owned generation stage (Stage.owner_of_enqueuer enqueuer)).mpr found)

section

variable {F : Watch T P → Prop} {L : Gate T P → Prop}

theorem dutyAct {β : Type} {action : Pick → Gate T P → Option (β × Gate T P)}
    {G : β → Watch T P → Prop} {M : β → Gate T P → Prop}
    (stable : (discipline rt).Stable 0 L)
    (runs : ∀ s choice result after, s.Invariant rt.config → F s.watch → L s →
      action ⟨0, choice⟩ s = some (result, after) →
        WatcherStep rt.config s after ∧ G result after.watch ∧ M result after) :
    (discipline rt).Spec 0 (.act action) (fun s => Duty F s ∧ L s)
      fun result s => Duty (G result) s ∧ M result s := by
  refine watcherAct ((sheltered_duty F).stable.and stable)
    fun s choice result after ok held ran => ?_
  obtain ⟨step, known, ended⟩ := runs s choice result after ok held.1.2 held.2 ran
  exact ⟨step, ⟨step.resting held.1.1, known⟩, ended⟩

theorem dutyModify {f : Gate T P → Gate T P} {G : Watch T P → Prop} {M : Gate T P → Prop}
    (stable : (discipline rt).Stable 0 L)
    (runs : ∀ s, s.Invariant rt.config → F s.watch → L s →
      WatcherStep rt.config s (f s) ∧ G (f s).watch ∧ M (f s)) :
    (discipline rt).Spec 0 (.modify f) (fun s => Duty F s ∧ L s)
      fun _ s => Duty G s ∧ M s := by
  refine dutyAct (G := fun _ => G) (M := fun _ => M) stable
    fun s choice result after ok known held ran => ?_
  obtain ⟨_, rfl⟩ := Prod.mk.injEq .. ▸ Option.some.inj ran
  exact runs s ok known held

theorem dutyUpdate {f : Gate T P → Gate T P} {G : Watch T P → Prop}
    (runs : ∀ s, s.Invariant rt.config → F s.watch →
      WatcherStep rt.config s (f s) ∧ G (f s).watch) :
    (discipline rt).Spec 0 (.modify f) (Duty F) fun _ => Duty G := by
  refine (dutyModify (L := fun _ => True) (M := fun _ => True) (.const True)
    fun s ok known _ => ?_).weaken (fun _ _ held => ⟨held, trivial⟩) fun _ _ _ held => held.1
  obtain ⟨step, ended⟩ := runs s ok known
  exact ⟨step, ended, trivial⟩

end

theorem stable_publishing_empty :
    (discipline rt).Stable 0 fun s : Gate T P => Publishing 0 s ∧ s.snapshot = [] :=
  fun _ _ _ _ rely held => ⟨(rely.publish held.1).1, (rely.publish held.1).2.2.1.trans held.2⟩

theorem publishEmpty_spec {F G : Watch T P → Prop}
    {afterPublish : Program (Gate T P) Unit}
    (spec : (discipline rt).Spec 0 afterPublish
      (fun s => Duty F s ∧ Publishing 0 s ∧ s.snapshot = [])
      fun _ s => Duty G s ∧ Publishing 0 s) :
    (discipline rt).Spec 0 (publishEmpty afterPublish) (Duty F) fun _ => Duty G := by
  have sheltered : Sheltered rt 0 (Duty F) := sheltered_duty F
  refine .bind (lockPublish_spec sheltered.stable) fun _ => ?_
  refine .bind (guardedAct (M := fun _ => Publishing 0) sheltered.guarded stable_publishing
    fun s choice result after ok held ran => ?_) fun _ => ?_
  · obtain ⟨_, rfl⟩ := Prod.mk.injEq .. ▸ Option.some.inj ran
    exact ⟨.bumpGeneration ok held.2, held.2⟩
  refine .bind (guardedAct (M := fun _ s => Publishing 0 s ∧ s.snapshot = []) sheltered.guarded
    stable_publishing fun s choice result after ok held ran => ?_) fun _ => ?_
  · obtain ⟨_, rfl⟩ := Prod.mk.injEq .. ▸ Option.some.inj ran
    exact ⟨.storeSnapshot ok held.2 nofun (fun _ => rfl) nofun, held.2, rfl⟩
  · exact .bind spec fun _ => unlockPublish_spec (sheltered_duty G)

namespace Subjects

def Listed (entries : List (Entry T)) (s : Gate T P) : Prop :=
  s.Locked 0 none ∧ s.subjects.cache.entries.map (fun slot => slot.2.entry) = entries

def AllDead (entries : List (Entry T)) (s : Gate T P) : Prop := ∀ entry ∈ entries, s.Dead entry.id

theorem stable_listed (entries : List (Entry T)) :
    (discipline rt).Stable 0 (Listed (P := P) entries) :=
  fun before after ok ok' rely held =>
    ⟨stable_locked none before after ok ok' rely held.1, by
      rw [(rely.subjects held.1.1).1]
      exact held.2⟩

theorem stable_listed_dead (entries dead : List (Entry T)) :
    (discipline rt).Stable 0 fun s : Gate T P => Listed entries s ∧ AllDead dead s :=
  fun before after ok ok' rely held =>
    ⟨stable_listed entries before after ok ok' rely held.1, fun entry member =>
      (stable_locked_dead none entry.id before after ok ok' rely
        ⟨held.1.1, held.2 entry member⟩).2⟩

theorem invalidateAll_spec {R : Gate T P → Prop} (sheltered : Sheltered rt 0 R)
    (entries : List (Entry T)) (rest : List (Entry T)) (done : List (Entry T)) :
    (discipline rt).Spec 0 (invalidateAll rest)
      (fun s => (R s ∧ ∀ entry ∈ rest, s.Known entry) ∧ Listed entries s ∧ AllDead done s)
      fun _ s => R s ∧ Listed entries s ∧ AllDead (rest ++ done) s := by
  induction rest generalizing done with
  | nil => exact .done fun s _ held => ⟨held.1.1, held.2⟩
  | cons entry rest ih =>
      have known : Sheltered rt 0 fun s => R s ∧ ∀ other ∈ entry :: rest, s.Known other :=
        sheltered.and (.forall fun other => .forall fun _ => (Lasting.known other).sheltered)
      refine .bind (Entry.invalidate_locked (R := fun s => (R s ∧ ∀ other ∈ entry :: rest, s.Known other) ∧
        Listed entries s ∧ AllDead done s) (known.stable.and (stable_listed_dead entries done))
        (fun s held => held.1.2 entry List.mem_cons_self) none |>.pre
        fun s _ held => ⟨held, held.2.1.1⟩) fun _ => ?_
      refine (ih (entry :: done)).weaken (fun s _ held => ?_) fun _ s _ held => ?_
      · obtain ⟨⟨⟨kept, known⟩, listed, dead⟩, _, died⟩ := held
        exact ⟨⟨kept, fun other member => known other (List.mem_cons_of_mem _ member)⟩, listed,
          fun other member => (List.mem_cons.mp member).elim (fun same => same ▸ died) (dead other)⟩
      · refine ⟨held.1, held.2.1, fun other member => held.2.2 other ?_⟩
        simp only [List.cons_append, List.mem_cons, List.mem_append] at member ⊢
        tauto

/-- After a clear with the watch down, the map belongs to the stream just opened, or to none. -/
theorem clear_spec {F : Watch T P → Prop}
    (down : ∀ watch : Watch T P, F watch → watch.connected = false ∧
      (watch.phase = .opened ∨ watch.phase = .disconnecting)) :
    (discipline rt).Spec 0 clear (Duty F) fun _ => Duty fun watch =>
      ∃ before, F before ∧ watch = { before with era := clearedEra before } := by
  refine .bind (lock_spec (sheltered_duty F)) fun _ => ?_
  refine .bind (readAct (M := fun entries s => Listed entries s ∧ ∀ entry ∈ entries, s.Known entry)
    ((sheltered_duty F).stable.and (stable_locked none)) fun s entries ok held viewed => ?_)
    fun entries => ?_
  · obtain rfl := Option.some.inj viewed
    refine ⟨⟨held.2, rfl⟩, fun entry member => ?_⟩
    obtain ⟨slot, inside, rfl⟩ := List.mem_map.mp member
    obtain ⟨cell, found, same, _⟩ := ok.map.slots slot inside
    exact ⟨cell, found, same⟩
  · refine .bind ((invalidateAll_spec (sheltered_duty F) entries entries []).pre fun s _ held =>
      ⟨⟨held.1.1, held.2.2⟩, held.2.1, nofun⟩) fun _ => ?_
    refine .bind (M := fun _ s => Duty (fun watch => ∃ before, F before ∧
      watch = { before with era := clearedEra before }) s ∧ s.Locked 0 none) ?_ fun _ =>
      unlock_spec (sheltered_duty _)
    refine dutyModify (stable_listed_dead entries (entries ++ [])) fun s ok known held => ?_
    obtain ⟨⟨locked, listed⟩, dead⟩ := held
    have slots : ∀ slot ∈ s.subjects.cache.entries, s.Dead slot.2.entry.id := fun slot member =>
      dead slot.2.entry (by
        rw [List.append_nil, ← listed]
        exact List.mem_map_of_mem member)
    have limbo : ∀ entry ∈ s.subjects.limbo, s.Dead entry.id := fun entry member =>
      (locked.2 entry member).resolve_left nofun
    refine ⟨.emptied ok locked.1 (down s.watch known).1 slots limbo,
      ⟨s.watch, known, rfl⟩, locked.1, fun entry member => .inr ?_⟩
    rcases List.mem_append.mp member with held | removed
    · obtain ⟨slot, inside, rfl⟩ := List.mem_map.mp held
      exact slots slot inside
    · exact limbo entry removed

end Subjects

def Between (phase : Phase) (watch : Watch T P) : Prop := watch.phase = phase ∧ watch.applying = none

theorem setPhase_spec {F G : Watch T P → Prop} {phase : Phase}
    (runs : ∀ s : Gate T P, s.Invariant rt.config → F s.watch →
      WatcherStep rt.config s (s.updateWatch fun watch => { watch with phase }) ∧
        G { s.watch with phase }) :
    (discipline rt).Spec 0 (setPhase phase) (Duty F) fun _ => Duty G :=
  dutyUpdate runs

theorem watchConnected_spec :
    (discipline rt).Spec 0 watchConnected (Duty (Between (T := T) (P := P) .opened)) fun _ =>
      Duty (Between .connected) := by
  refine .bind (publishEmpty_spec (F := Between .opened) (G := fun watch =>
    Between .opened watch ∧ watch.connected = false) ?_) fun _ => ?_
  · exact .done fun s ok held =>
      ⟨⟨held.1.1, held.1.2, ok.session.down (.inr held.1.2.1)⟩, held.2.1⟩
  · refine .bind (Subjects.clear_spec fun watch known => ⟨known.2, .inl known.1.1⟩) fun _ => ?_
    refine dutyUpdate fun s ok known => ?_
    obtain ⟨before, ⟨⟨phase, applying⟩, _⟩, cleared⟩ := known
    refine ⟨.sendConnected ok ?_ ?_, rfl, ?_⟩
    · rw [cleared]
      exact phase
    · rw [cleared, Subjects.clearedEra, if_pos phase]
    · change s.watch.applying = none
      rw [cleared]
      exact applying

theorem watchStable_spec {F : Watch T P → Prop}
    (kept : ∀ watch : Watch T P, F watch → F { watch with disconnectedSince := none }) :
    (discipline rt).Spec 0 watchStable (Duty F) fun _ => Duty F :=
  dutyUpdate fun s ok known => ⟨.bookkeeping ok, kept s.watch known⟩

theorem disconnect_spec :
    (discipline rt).Spec 0
      (publishEmpty do
        .modify fun s : Gate T P => sendConnected s false
        markDisconnected)
      (Duty (Between .disconnecting)) fun _ => Duty fun watch =>
        Between .disconnecting watch ∧ watch.connected = false := by
  refine publishEmpty_spec (.bind (M := fun _ s => Duty (fun watch =>
    Between .disconnecting watch ∧ watch.connected = false) s ∧ Publishing 0 s) ?_ fun _ => ?_)
  · exact dutyModify stable_publishing_empty fun s ok known held =>
      ⟨.sendDisconnected ok known.1 held.1 held.2, ⟨known, rfl⟩, held.1⟩
  · exact dutyModify stable_publishing fun s ok known held => ⟨.bookkeeping ok, known, held⟩

theorem watchDisconnected_spec :
    (discipline rt).Spec 0 watchDisconnected
      (Duty fun watch : Watch T P => Between .idle watch ∨ Between .ended watch) fun _ =>
        Duty (Between .idle) := by
  refine .bind (setPhase_spec (G := Between .disconnecting) fun s ok known =>
    ⟨.setDisconnecting ok (known.imp And.left And.left), rfl, ?_⟩) fun _ => ?_
  · exact known.elim And.right And.right
  · refine .bind disconnect_spec fun _ => ?_
    refine .bind (Subjects.clear_spec fun watch known => ⟨known.2, .inr known.1.1⟩) fun _ => ?_
    refine setPhase_spec fun s ok known => ?_
    obtain ⟨before, ⟨⟨phase, applying⟩, down⟩, cleared⟩ := known
    refine ⟨.setIdle ok ?_ ?_ ?_, rfl, ?_⟩
    · rw [cleared]
      exact phase
    · rw [cleared, Subjects.clearedEra, if_neg]
      rw [phase]
      nofun
    · rw [cleared]
      exact down
    · change s.watch.applying = none
      rw [cleared]
      exact applying

theorem dropSession_spec {F : Watch T P → Prop} :
    (discipline rt).Spec 0 dropSession (Duty F) fun _ => Duty (Between .ended) :=
  dutyUpdate fun _ ok _ => ⟨.dropSession ok, rfl, rfl⟩

/-- The watcher may be dropped wherever it awaits. -/
theorem dropWatcher_spec {F : Watch T P → Prop} :
    (discipline rt).Spec 0 dropWatcher (Duty F) fun _ s => s.Resting 0 := by
  refine .bind dropSession_spec fun _ => ?_
  refine .bind (dutyUpdate (G := Between .ended) fun s ok known =>
    ⟨.closeQueue ok (by rw [known.1]; nofun), known⟩) fun _ => ?_
  refine .bind (watchDisconnected_spec.pre fun s _ held => held.mono fun _ => .inr) fun _ => ?_
  exact (dutyUpdate (G := fun _ => True) fun s ok known => ⟨.bookkeeping ok, trivial⟩).post
    fun _ s _ held => held.1

end PolicyGate
