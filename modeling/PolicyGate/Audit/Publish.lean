import PolicyGate.Audit.SubjectMap

namespace PolicyGate

open Interleaving Data

variable {T P : Type} [DecidableEq T] {rt : Runtime} {me : Nat} {hold : Hold T} {L : Gate T P → Prop}

theorem isConnected_keeps (context : Context rt me L) : Keeps rt me hold L isConnected :=
  keepsRead context fun _ _ _ _ => rfl

structure Gate.OnPublish (before after : Gate T P) : Prop where
  closed : after.watch.closed = before.watch.closed
  subjects : after.subjects = before.subjects
  queue : after.queue = before.queue
  queueClosed : after.queueClosed = before.queueClosed

namespace Gate.OnPublish

variable {actor : Option Nat} {before after : Gate T P}

omit [DecidableEq T] in
theorem step {config : PolicyGateConfig} (onPublish : OnPublish before after)
    (awake : ∀ me, actor = some me → before.Awake me)
    (lock : LockStep actor before.publish.lock after.publish.lock)
    (guarded : before.publish.lock ≠ none → before.publish.lock ≠ actor →
      after.publish = before.publish)
    (claims : before.publish.claims <:+ after.publish.claims) :
    PeripheryStep config actor before after where
  subjects := .inl (by rw [onPublish.subjects])
  publish := lock
  guarded := guarded
  claims := claims
  queue := .inl onPublish.queue
  closed closed := onPublish.queueClosed.trans closed
  dropped := Gate.undropped onPublish.closed
  watcher closed mine := by
    rw [awake 0 mine rfl] at closed
    cases closed

omit [DecidableEq T] in
theorem periphery (onPublish : OnPublish before after)
    (apart : ∀ thread, after.publish.lock = some thread → before.subjects.lock ≠ some thread)
    (publish : PublishOk rt after.clock after.publish)
    (ok : PeripheryOk rt before) : PeripheryOk rt after where
  apart thread held taken := apart thread taken (onPublish.subjects ▸ held)
  publish := publish
  bounded := onPublish.queue ▸ ok.bounded
  drained closed := onPublish.queue.trans (ok.drained (onPublish.queueClosed ▸ closed))
  within positive := by
    rw [onPublish.subjects]
    exact ok.within positive

end Gate.OnPublish

theorem lockPublish_audit (context : Context rt me L) :
    (audit rt).Spec me lockPublish (Gate.During me .none L) fun _ => Gate.During me .publish L := by
  refine (peripheryAct (H := fun _ => .publish) (M := fun _ _ => True) context
    (fun _ _ _ locked => absurd rfl locked) fun s choice result after follows ok held ran => ?_).post
      fun _ _ _ _ held => ⟨held.1, held.2.1⟩
  cases free : s.publish.lock with
  | some owner =>
      simp only [free] at ran
      cases ran
  | none =>
      simp only [free] at ran
      obtain ⟨_, rfl⟩ := Prod.mk.injEq .. ▸ Option.some.inj ran
      have apart : s.subjects.lock ≠ some me := fun mine => held.1 (.inl mine)
      have onPublish : s.OnPublish { s with publish := { s.publish with lock := some me } } :=
        ⟨rfl, rfl, rfl, rfl⟩
      refine ⟨⟨onPublish.periphery (fun thread taken => ?_) { ok.periphery.publish with } ok.periphery,
        onPublish.step (fun _ mine => Option.some.inj mine ▸ context.awake s held.2)
          (.inr (.inl ⟨free, rfl⟩)) (fun taken => absurd free taken) List.suffix_rfl, rfl, apart⟩,
        .of_eq rfl rfl rfl rfl, trivial⟩
      exact Option.some.inj taken ▸ apart

theorem unlockPublish_audit (context : Context rt me L) :
    (audit rt).Spec me unlockPublish (Gate.During me .publish L) fun _ => Gate.During me .none L := by
  refine (peripheryAct (H := fun _ => .none) (M := fun _ _ => True) context
    (fun _ _ _ _ => ⟨0, rfl⟩) fun s choice result after follows ok held ran => ?_).post
      fun _ _ _ _ held => ⟨held.1, held.2.1⟩
  obtain ⟨_, rfl⟩ := Prod.mk.injEq .. ▸ Option.some.inj ran
  obtain ⟨mine, apart⟩ := held.1
  have onPublish : s.OnPublish { s with publish := { s.publish with lock := none } } :=
    ⟨rfl, rfl, rfl, rfl⟩
  refine ⟨⟨onPublish.periphery nofun { ok.periphery.publish with } ok.periphery,
    onPublish.step (fun _ mine => Option.some.inj mine ▸ context.awake s held.2)
      (.inr (.inr ⟨mine, rfl⟩)) (fun _ others => absurd mine others) List.suffix_rfl, ?_⟩,
    .of_eq rfl rfl rfl rfl, trivial⟩
  rintro (taken | taken)
  · exact apart taken
  · cases taken

theorem updatePublish_audit {β : Type} {g : PublishState → β} {f : PublishState → PublishState}
    {K M : Gate T P → Prop} (context : Context rt me L) (used : (audit rt).Stable me K)
    (lock : ∀ publish, (f publish).lock = publish.lock)
    (claims : ∀ publish, publish.claims <:+ (f publish).claims)
    (updates : ∀ s, PublishOk rt s.clock s.publish → K s →
      PublishOk rt s.clock (f s.publish) ∧ M { s with publish := f s.publish }) :
    (audit rt).Spec me
      (.act fun _ (s : Gate T P) => some (g s.publish, { s with publish := f s.publish }))
      (fun s => s.During me .publish L ∧ K s) fun _ s => s.During me .publish L ∧ M s := by
  refine (moveAct (H := fun _ => .publish) (X := Gate.Gentle me) (M := fun _ => M) context.stable
    context.own used (fun _ _ _ _ _ => ⟨0, rfl⟩)
    fun s choice result after follows ok held known ran => ?_).post
      fun _ _ _ _ held => ⟨⟨held.1, held.2.1⟩, held.2.2⟩
  obtain ⟨_, rfl⟩ := Prod.mk.injEq .. ▸ Option.some.inj ran
  obtain ⟨mine, apart⟩ := held.1
  have onPublish : s.OnPublish { s with publish := f s.publish } := ⟨rfl, rfl, rfl, rfl⟩
  have aside : s.EntriesAside me { s with publish := f s.publish } := .of_eq rfl rfl rfl rfl
  obtain ⟨publish, ended⟩ := updates s ok.periphery.publish known
  refine ⟨⟨onPublish.periphery (fun thread taken => ?_) publish ok.periphery,
      onPublish.step (fun _ mine => Option.some.inj mine ▸ context.awake s held.2)
        (.inl (lock s.publish)) (fun _ others => absurd mine others) (claims s.publish),
      (lock s.publish).trans mine, apart⟩, aside.gentle follows,
    ⟨aside.lookups follows ok.lookups, aside.cooldowns follows ok.cooldowns, aside.step⟩, ended⟩
  exact Option.some.inj (mine.symm.trans ((lock s.publish).symm.trans taken)) ▸ apart

structure Gate.MayClaim (rt : Runtime) (me now allowed : Nat) (s : Gate T P) : Prop where
  locked : s.publish.lock = some me
  past : now ≤ s.clock
  started : rt.constructed ≤ now
  spaced : ∀ earlier ∈ s.publish.claims, earlier + rt.config.snapshotRepublishInterval ≤ now
  allowed : s.publish.nextAllowed = allowed

theorem stable_mayClaim (now allowed : Nat) :
    (audit rt).Stable me (Gate.MayClaim (T := T) (P := P) rt me now allowed) := by
  intro actor before after other follows _ _ step held
  have same : after.publish = before.publish := step.periphery.guarded (by simp [held.locked])
    fun mine => other (mine ▸ held.locked)
  exact ⟨same ▸ held.locked, held.past.trans (Follows.lasts follows).clock, held.started,
    same ▸ held.spaced, same ▸ held.allowed⟩

theorem claimRepublish_keeps (context : Context rt me L) : Keeps rt me .none L (claimRepublish rt) := by
  refine .bind (lockPublish_audit context) fun _ => .bind (clockNow_audit (M := fun now s => now ≤ s.clock)
    context fun _ _ _ _ => le_rfl) fun now => ?_
  refine .bind (asideRead (M := fun nextAllowed s => s.publish.nextAllowed = nextAllowed)
    (context.lasting (.clock now)) (fun _ _ _ _ => rfl)
    fun _ _ _ _ _ viewed => Option.some.inj viewed) fun nextAllowed => ?_
  split
  · exact .bind ((unlockPublish_audit context).pre fun s _ _ held => ⟨held.1, held.2.1.1⟩)
      fun _ => keepsDone
  · rename_i passed
    have due := Nat.le_of_not_lt passed
    refine .bind ((updatePublish_audit (M := Gate.MayClaim rt me now
        (now + rt.config.snapshotRepublishInterval)) (g := fun _ => ()) (f := fun publish =>
        { publish with nextAllowed := now + rt.config.snapshotRepublishInterval })
      context (stable_mayClaim now nextAllowed) (fun _ => rfl) (fun _ => List.suffix_rfl)
      fun s ok claims => ⟨?_, { claims with allowed := rfl }⟩).pre
        fun s _ ok held => ⟨⟨held.1, held.2.1.1⟩, ?_⟩) fun _ => ?_
    · exact { ok with
        started := claims.started.trans (Nat.le_add_right ..)
        allowance := Nat.add_le_add_right claims.past _
        claimed := fun earlier member => ⟨(ok.claimed earlier member).1,
          (claims.spaced earlier member).trans (Nat.le_add_right ..)⟩ }
    · have reached := held.2.2 ▸ due
      exact ⟨held.1.1, held.2.1.2, ok.periphery.publish.started.trans reached,
        fun earlier member => (ok.periphery.publish.claimed earlier member).2.trans reached, held.2.2⟩
    · refine .bind (updatePublish_audit (M := fun _ => True) (g := PublishState.generation)
        (f := fun publish => { publish with claims := now :: publish.claims })
        context (stable_mayClaim now _) (fun _ => rfl) (fun _ => List.suffix_cons _ _)
        fun s ok claims => ⟨?_, trivial⟩) fun _ =>
          .bind ((unlockPublish_audit context).pre fun s _ _ held => held.1) fun _ => keepsDone
      refine { ok with
        spaced := List.pairwise_cons.mpr ⟨claims.spaced, ok.spaced⟩
        claimed := fun earlier member => ?_ }
      rcases List.mem_cons.mp member with rfl | older
      · exact ⟨claims.started, claims.allowed.ge⟩
      · exact ok.claimed earlier older

theorem storeSnapshot_keeps {generation : Nat} {entries : List (T × Entry T)}
    (context : Context rt me L) : Keeps rt me .none L (storeSnapshot generation entries) := by
  have finish : (audit rt).Spec me (do
      .act fun pick s =>
        some ((), { s with copies := s.copies.filter fun copy => copy.thread ≠ pick.thread })
      unlockPublish : Program (Gate T P) Unit) (Gate.During me .publish L)
      fun _ => Gate.During me .none L :=
    .bind (keepsAct context (fun _ _ _ _ => ⟨0, rfl⟩) fun s choice result after _ _ ran => by
      obtain ⟨_, rfl⟩ := Prod.mk.injEq .. ▸ Option.some.inj ran
      exact { Gate.Aside.refl me s with }) fun _ => unlockPublish_audit context
  refine .bind (lockPublish_audit context) fun _ =>
    .bind (keepsRead context fun _ _ _ _ => rfl) fun current => ?_
  dsimp only
  split
  · refine .bind (isConnected_keeps context) fun connected => ?_
    split
    · exact .bind (keepsModify context fun s _ _ => { Gate.Aside.refl me s with }) fun _ => finish
    · exact finish
  · exact finish

theorem republishIfDue_keeps (context : Context rt me L) : Keeps rt me .none L (republishIfDue rt) := by
  refine .bind (keepsRead context fun _ _ _ _ => rfl) fun dirty => ?_
  split
  · refine .bind (claimRepublish_keeps context) fun claimed => ?_
    cases claimed with
    | none => exact keepsDone
    | some generation =>
        exact .bind (Subjects.setDirty_keeps context) fun _ =>
          .bind (Subjects.copyEntries_keeps context) fun _ => storeSnapshot_keeps context
  · exact keepsDone

theorem publishEmpty_keeps {afterPublish : Program (Gate T P) Unit} (context : Context rt me L)
    (rest : Keeps rt me .publish L afterPublish) :
    Keeps rt me .none L (publishEmpty afterPublish) :=
  .bind (lockPublish_audit context) fun _ =>
    .bind (((updatePublish_audit (g := fun _ => ()) (M := fun _ => True) (f := fun publish =>
      { publish with generation := publish.generation + 1 }) context (.const True) (fun _ => rfl)
      (fun _ => List.suffix_rfl) fun _ ok _ => ⟨{ ok with }, trivial⟩).pre fun _ _ _ held =>
        ⟨held, trivial⟩).post fun _ _ _ _ held => held.1) fun _ =>
    .bind (keepsModify context fun s _ _ => { Gate.Aside.refl me s with }) fun _ =>
    .bind rest fun _ => unlockPublish_audit context

end PolicyGate
