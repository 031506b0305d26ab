import PolicyGate.Specs.SubjectMap

namespace PolicyGate

open Interleaving

variable {T P : Type} [DecidableEq T] {rt : Runtime} {me : Nat} {R : Gate T P → Prop}

def Publishing (me : Nat) (s : Gate T P) : Prop := s.publish.lock = some me

theorem stable_publishing : (discipline rt).Stable me (Publishing (T := T) (P := P) me) :=
  fun _ _ _ _ rely locked => (rely.publish locked).1

theorem stable_publishing_for (generation : Nat) : (discipline rt).Stable me
    fun s : Gate T P => Publishing me s ∧ s.publish.generation = generation :=
  fun _ _ _ _ rely held =>
    ⟨(rely.publish held.1).1, (rely.publish held.1).2.1.trans held.2⟩

theorem stable_publishing_connected (generation : Nat) : (discipline rt).Stable me
    fun s : Gate T P => (Publishing me s ∧ s.publish.generation = generation) ∧
      s.watch.connected = true :=
  fun before after ok ok' rely held =>
    ⟨stable_publishing_for generation before after ok ok' rely held.1,
      (rely.publish held.1.1).2.2.2 held.2⟩

theorem isConnected_spec (stable : (discipline rt).Stable me R) :
    (discipline rt).Spec me isConnected R fun connected s => R s ∧ s.watch.connected = connected :=
  readAct stable fun _ _ _ _ viewed => Option.some.inj viewed

theorem lockPublish_spec (stable : (discipline rt).Stable me R) :
    (discipline rt).Spec me lockPublish R fun _ s => R s ∧ Publishing me s := by
  refine neutralAct stable fun s choice result after ok held ran => ?_
  cases free : s.publish.lock with
  | some owner =>
      simp only [free] at ran
      cases ran
  | none =>
      simp only [free] at ran
      obtain ⟨_, rfl⟩ := Prod.mk.injEq .. ▸ Option.some.inj ran
      exact ⟨.publish ok (.inr free) rfl, rfl⟩

theorem unlockPublish_spec (sheltered : Sheltered rt me R) :
    (discipline rt).Spec me unlockPublish (fun s => R s ∧ Publishing me s) fun _ => R := by
  refine (guardedAct (M := fun _ _ => True) sheltered.guarded stable_publishing
    fun s choice result after ok held ran => ?_).post fun _ _ _ held => held.1
  obtain ⟨_, rfl⟩ := Prod.mk.injEq .. ▸ Option.some.inj ran
  exact ⟨.unlockPublish ok held.2, trivial⟩

theorem modifyPublish_spec {f : PublishState → PublishState}
    (lock : ∀ publish, (f publish).lock = publish.lock)
    (generation : ∀ publish, (f publish).generation = publish.generation)
    (stable : (discipline rt).Stable me R) :
    (discipline rt).Spec me (.modify fun s : Gate T P => { s with publish := f s.publish }) R
      fun _ => R := by
  refine (neutralAct (M := fun _ _ => True) stable fun s choice result after ok held ran =>
    ?_).post fun _ _ _ held => held.1
  obtain ⟨_, rfl⟩ := Prod.mk.injEq .. ▸ Option.some.inj ran
  exact ⟨.publish ok (.inl (lock s.publish)) (generation s.publish), trivial⟩

theorem claimRepublish_spec (sheltered : Sheltered rt me R) :
    (discipline rt).Spec me (claimRepublish rt) R fun claimed s => R s ∧
      ∀ generation, claimed = some generation → generation ≤ s.publish.generation := by
  have stable : (discipline rt).Stable me fun s => R s ∧ Publishing me s :=
    sheltered.stable.and stable_publishing
  refine .bind (lockPublish_spec sheltered.stable) fun _ => ?_
  refine .bind (clockNow_spec (M := fun _ _ => True) stable fun _ _ _ => trivial) fun now => ?_
  refine .bind ((readAct (M := fun _ _ => True) stable fun _ _ _ _ _ => trivial).pre
    fun s _ held => held.1) fun nextAllowed => ?_
  split
  · exact .bind ((unlockPublish_spec sheltered).pre fun s _ held => held.1) fun _ =>
      .done fun _ _ held => ⟨held, nofun⟩
  · refine .bind ((modifyPublish_spec (f := fun publish =>
      { publish with nextAllowed := now + rt.config.snapshotRepublishInterval }) (fun _ => rfl)
      (fun _ => rfl) stable).pre fun s _ held => held.1) fun _ => ?_
    refine .bind (neutralAct (M := fun generation s => generation ≤ s.publish.generation) stable
      fun s choice result after ok held ran => ?_) fun generation => ?_
    · obtain ⟨rfl, rfl⟩ := Prod.mk.injEq .. ▸ Option.some.inj ran
      exact ⟨.publish ok (.inl rfl) rfl, le_rfl⟩
    have claimed : Sheltered rt me fun s : Gate T P => R s ∧ generation ≤ s.publish.generation :=
      sheltered.and fun _ _ _ _ beside below => below.trans beside.generation
    refine .bind ((unlockPublish_spec claimed).pre fun s _ held =>
      ⟨⟨held.1.1, held.2⟩, held.1.2⟩) fun _ => .done fun _ _ held => ⟨held.1, fun other same => ?_⟩
    obtain rfl := Option.some.inj same
    exact held.2

theorem finishStore_spec (sheltered : Sheltered rt me R) :
    (discipline rt).Spec me (do
      .act fun pick s =>
        some ((), { s with copies := s.copies.filter fun copy => copy.thread ≠ pick.thread })
      unlockPublish : Program (Gate T P) Unit) (fun s => R s ∧ Publishing me s) fun _ => R := by
  refine .bind (.within (M := fun _ => Publishing me) sheltered.stable sheltered
    stable_publishing fun s choice result after ok held ran => ?_) fun _ =>
      unlockPublish_spec sheltered
  obtain ⟨_, rfl⟩ := Prod.mk.injEq .. ▸ Option.some.inj ran
  have step : OwnStep rt.config me s _ := .dropCopies ok
  exact ⟨step.invariant, step.rely, .dropCopies, held.2⟩

/-- A copy of the map is stored only while the watch is connected, and no clear came in between if
the latest connection was orderly. -/
theorem storeSnapshot_spec {generation : Nat} {era : Option Nat} {entries : List (T × Entry T)}
    (sheltered : Sheltered rt me R) :
    (discipline rt).Spec me (storeSnapshot generation entries)
      (fun s => R s ∧ Subjects.Copied ⟨me, generation, era⟩ entries s) fun _ => R := by
  have kept : (discipline rt).Kept (Guarded me)
      fun s => R s ∧ Subjects.Copied ⟨me, generation, era⟩ entries s :=
    sheltered.guarded.and (Subjects.kept_copied generation era entries)
  have stable : (discipline rt).Stable me
      fun s => R s ∧ Subjects.Copied ⟨me, generation, era⟩ entries s :=
    kept.mono fun _ _ rely => rely.toGuarded
  refine .bind (lockPublish_spec stable) fun _ => ?_
  refine .bind (readAct (M := fun current s => s.publish.generation = current)
    (stable.and stable_publishing) fun s current _ _ viewed => Option.some.inj viewed)
    fun current => ?_
  dsimp only
  split
  · rename_i unchanged
    refine .bind ((isConnected_spec (stable.and (stable_publishing_for generation))).pre
      fun s _ held => ⟨held.1.1, held.1.2, held.2.trans unchanged⟩) fun connected => ?_
    split
    · rename_i isConnected
      refine .bind (M := fun _ s => R s ∧ Publishing me s) ((guardedAct (L := fun s =>
        (Publishing me s ∧ s.publish.generation = generation) ∧ s.watch.connected = true)
        (M := fun _ s => Publishing me s) kept (stable_publishing_connected generation)
        fun s choice result after ok held ran => ?_).weaken
        (fun s _ held => ⟨held.1.1, held.1.2, held.2.trans isConnected⟩)
        fun _ s _ held => ⟨held.1.1, held.2⟩) fun _ => finishStore_spec sheltered
      obtain ⟨_, rfl⟩ := Prod.mk.injEq .. ▸ Option.some.inj ran
      obtain ⟨⟨_, copied⟩, ⟨locked, sameGeneration⟩, up⟩ := held
      refine ⟨.storeSnapshot ok locked (fun slot member => ?_) (fun down => ?_)
        fun orderly _ slot member => ?_, locked⟩
      · obtain ⟨key, cell, found, same, _⟩ := copied.slots slot member
        exact ⟨cell, found, same, key⟩
      · exact absurd (down.symm.trans up) (by decide)
      · obtain ⟨_, cell, found, _, session⟩ := copied.slots slot member
        have fresh := ok.copies.fresh orderly up _ copied.noted sameGeneration.symm
        exact ⟨cell, found, session.trans fresh⟩
    · exact (finishStore_spec sheltered).pre fun s _ held => ⟨held.1.1.1, held.1.2.1⟩
  · exact (finishStore_spec sheltered).pre fun s _ held => ⟨held.1.1.1, held.1.2⟩

theorem republishIfDue_spec (sheltered : Sheltered rt me R) :
    (discipline rt).Spec me (republishIfDue rt) R fun _ => R := by
  refine .bind (readAct (M := fun _ _ => True) sheltered.stable fun _ _ _ _ _ => trivial)
    fun dirty => ?_
  split
  · refine .bind ((claimRepublish_spec sheltered).pre fun s _ held => held.1) fun claimed => ?_
    cases claimed with
    | none => exact .done fun _ _ held => held.1
    | some generation =>
        have claimed : Sheltered rt me fun s : Gate T P => R s ∧ generation ≤ s.publish.generation :=
          sheltered.and fun _ _ _ _ beside below => below.trans beside.generation
        refine .bind ((Subjects.setDirty_spec claimed.stable).pre fun s _ held =>
          ⟨held.1, held.2 generation rfl⟩) fun _ => ?_
        exact .bind (Subjects.copyEntries_spec sheltered) fun entries =>
          .cases fun era => storeSnapshot_spec sheltered
  · exact .done fun _ _ held => held.1

end PolicyGate
