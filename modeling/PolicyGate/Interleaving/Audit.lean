import PolicyGate.Interleaving.RelyGuarantee

namespace Interleaving

/-! A second look at programs whose discipline is established.

Every step of such programs keeps the invariant and is one that the others may rely on.  An audit
builds on that: it keeps an invariant of its own, says of every step what it is and who took it, and
does not let a thread be held up while it is busy.
-/

variable {σ : Type}

structure Discipline.Follows (D : Discipline σ) (actor : Option Nat) (before after : σ) : Prop where
  sound : D.invariant before
  kept : D.invariant after
  relied : ∀ other, actor ≠ some other → D.rely other before after ∨ after = before

structure Audit (D : Discipline σ) where
  invariant : σ → Prop
  step : Option Nat → σ → σ → Prop
  /-- A busy thread neither waits nor ends, and its next action can be taken. -/
  busy : Nat → σ → Prop
  busy_own : ∀ me actor before after, actor ≠ some me → step actor before after → busy me after →
    busy me before

namespace Audit

variable {D : Discipline σ} {α β γ : Type}

def Stable (A : Audit D) (me : Nat) (P : σ → Prop) : Prop :=
  ∀ actor before after, actor ≠ some me → D.Follows actor before after → A.invariant before →
    A.invariant after → A.step actor before after → P before → P after

def Runs (A : Audit D) (me : Nat) (action : Pick → σ → Option (β × σ)) (P : σ → Prop)
    (M : β → σ → Prop) : Prop :=
  ∀ s choice result after, D.Follows (some me) s after → A.invariant s → P s →
    action ⟨me, choice⟩ s = some (result, after) →
      A.invariant after ∧ A.step (some me) s after ∧ M result after

def Ready (A : Audit D) (me : Nat) (action : Pick → σ → Option (β × σ)) (P : σ → Prop) : Prop :=
  ∀ s, D.invariant s → A.invariant s → P s → A.busy me s → ∃ choice, (action ⟨me, choice⟩ s).isSome

/-- From a state where `P` holds, thread `me` running `program` passes the audit in every
interleaving, and where it ends `Q` holds. -/
def Spec (A : Audit D) (me : Nat) :
    {α : Type} → Program σ α → (σ → Prop) → (α → σ → Prop) → Prop
  | _, .done value, P, Q => ∀ s, D.invariant s → A.invariant s → P s → Q value s
  | _, .atomic (β := β) action next, P, Q =>
      ∃ (pre : σ → Prop) (mid : β → σ → Prop),
        (∀ s, D.invariant s → A.invariant s → P s → pre s) ∧ A.Stable me pre ∧
        A.Runs me action pre mid ∧ A.Ready me action pre ∧
        ∀ result, Spec A me (next result) (mid result) Q
  | _, .wait (β := β) action next dropped, P, Q =>
      ∃ (pre : σ → Prop) (mid : β → σ → Prop),
        (∀ s, D.invariant s → A.invariant s → P s → pre s) ∧ A.Stable me pre ∧
        A.Runs me action pre mid ∧ (∀ s, D.invariant s → A.invariant s → pre s → ¬ A.busy me s) ∧
        (∀ result, Spec A me (next result) (mid result) Q) ∧
        Spec A me dropped pre fun _ s => ¬ A.busy me s
  | _, .loop (β := β) (γ := γ) body start next, P, Q =>
      ∃ (head : γ → σ → Prop) (exit : β → σ → Prop),
        (∀ s, D.invariant s → A.invariant s → P s → head start s) ∧
        (∀ again, A.Stable me (head again)) ∧
        (∀ again, Spec A me (body again) (head again) (Sum.elim head exit)) ∧
        ∀ result, Spec A me (next result) (exit result) Q

variable {A : Audit D} {me : Nat} {P P' : σ → Prop}

namespace Stable

theorem and {P Q : σ → Prop} (left : A.Stable me P) (right : A.Stable me Q) :
    A.Stable me fun s => P s ∧ Q s :=
  fun actor before after other follows ok ok' step held =>
    ⟨left actor before after other follows ok ok' step held.1,
      right actor before after other follows ok ok' step held.2⟩

theorem const (fact : Prop) : A.Stable me fun _ => fact := fun _ _ _ _ _ _ _ _ held => held

theorem of_discipline {P : σ → Prop} (stable : D.Stable me P) : A.Stable me P := by
  intro actor before after other follows _ _ _ held
  rcases follows.relied me other with relied | same
  · exact stable before after follows.sound follows.kept relied held
  · exact same ▸ held

theorem busy : A.Stable me fun s => ¬ A.busy me s :=
  fun actor before after other _ _ _ step held now => held (A.busy_own me actor before after other step now)

end Stable

namespace Spec

theorem weaken {program : Program σ α} {Q Q' : α → σ → Prop} (spec : A.Spec me program P Q)
    (pre : ∀ s, D.invariant s → A.invariant s → P' s → P s)
    (post : ∀ value s, D.invariant s → A.invariant s → Q value s → Q' value s) :
    A.Spec me program P' Q' := by
  induction program generalizing P P' with
  | done value => exact fun s sound ok held => post value s sound ok (spec s sound ok (pre s sound ok held))
  | atomic action next ih =>
      obtain ⟨stable, mid, enter, isStable, runs, ready, rest⟩ := spec
      exact ⟨stable, mid, fun s sound ok held => enter s sound ok (pre s sound ok held), isStable, runs,
        ready, fun result => ih result (rest result) (fun _ _ _ held => held) post⟩
  | wait action next dropped ih =>
      obtain ⟨stable, mid, enter, isStable, runs, free, rest, cleanup⟩ := spec
      exact ⟨stable, mid, fun s sound ok held => enter s sound ok (pre s sound ok held), isStable, runs,
        free, fun result => ih result (rest result) (fun _ _ _ held => held) post, cleanup⟩
  | loop body start next _ ih =>
      obtain ⟨head, exit, enter, isStable, each, rest⟩ := spec
      exact ⟨head, exit, fun s sound ok held => enter s sound ok (pre s sound ok held), isStable, each,
        fun result => ih result (rest result) (fun _ _ _ held => held) post⟩

theorem pre {program : Program σ α} {Q : α → σ → Prop} (spec : A.Spec me program P Q)
    (pre : ∀ s, D.invariant s → A.invariant s → P' s → P s) : A.Spec me program P' Q :=
  spec.weaken pre fun _ _ _ _ held => held

theorem post {program : Program σ α} {Q Q' : α → σ → Prop} (spec : A.Spec me program P Q)
    (post : ∀ value s, D.invariant s → A.invariant s → Q value s → Q' value s) :
    A.Spec me program P Q' :=
  spec.weaken (fun _ _ _ held => held) post

theorem bind {program : Program σ α} {f : α → Program σ β} {M : α → σ → Prop} {Q : β → σ → Prop}
    (spec : A.Spec me program P M) (rest : ∀ value, A.Spec me (f value) (M value) Q) :
    A.Spec me (program >>= f) P Q := by
  change A.Spec me (program.bind f) P Q
  induction program generalizing P with
  | done value => exact (rest value).pre spec
  | atomic action next ih =>
      obtain ⟨stable, mid, enter, isStable, runs, ready, tail⟩ := spec
      exact ⟨stable, mid, enter, isStable, runs, ready, fun result => ih result (tail result) rest⟩
  | wait action next dropped ih =>
      obtain ⟨stable, mid, enter, isStable, runs, free, tail, cleanup⟩ := spec
      exact ⟨stable, mid, enter, isStable, runs, free, fun result => ih result (tail result) rest, cleanup⟩
  | loop body start next _ ih =>
      obtain ⟨head, exit, enter, isStable, each, tail⟩ := spec
      exact ⟨head, exit, enter, isStable, each, fun result => ih result (tail result) rest⟩

theorem done {value : α} {Q : α → σ → Prop}
    (held : ∀ s, D.invariant s → A.invariant s → P s → Q value s) :
    A.Spec me (.done value) P Q := held

theorem act {action : Pick → σ → Option (β × σ)} {M : β → σ → Prop} (stable : A.Stable me P)
    (ready : A.Ready me action P) (runs : A.Runs me action P M) : A.Spec me (.act action) P M :=
  ⟨P, M, fun _ _ _ held => held, stable, runs, ready, fun _ _ _ _ held => held⟩

theorem wait {action : Pick → σ → Option (β × σ)} {dropped : Program σ Unit} {M : β → σ → Prop}
    (stable : A.Stable me P) (free : ∀ s, D.invariant s → A.invariant s → P s → ¬ A.busy me s)
    (runs : A.Runs me action P M) (cleanup : A.Spec me dropped P fun _ s => ¬ A.busy me s) :
    A.Spec me (.wait action .done dropped) P M :=
  ⟨P, M, fun _ _ _ held => held, stable, runs, free, fun _ _ _ _ held => held, cleanup⟩

theorem iterate {start : γ} {body : γ → Program σ (γ ⊕ β)} {head : γ → σ → Prop}
    {exit : β → σ → Prop} (stable : ∀ again, A.Stable me (head again))
    (each : ∀ again, A.Spec me (body again) (head again) (Sum.elim head exit)) :
    A.Spec me (.iterate start body) (head start) exit :=
  ⟨head, exit, fun _ _ _ held => held, stable, each, fun _ _ _ _ held => held⟩

theorem never {program : Program σ α} {Q : α → σ → Prop} : A.Spec me program (fun _ => False) Q := by
  induction program with
  | done value => exact fun _ _ _ held => held.elim
  | atomic action next ih =>
      exact ⟨fun _ => False, fun _ _ => False, fun _ _ _ held => held, .const _,
        fun _ _ _ _ _ _ held _ => held.elim, fun _ _ _ held _ => held.elim, fun result => ih result⟩
  | wait action next dropped ih ihDropped =>
      exact ⟨fun _ => False, fun _ _ => False, fun _ _ _ held => held, .const _,
        fun _ _ _ _ _ _ held _ => held.elim, fun _ _ _ held _ => held, fun result => ih result, ihDropped⟩
  | loop body start next ihBody ih =>
      exact ⟨fun _ _ => False, fun _ _ => False, fun _ _ _ held => held, fun _ => .const _,
        fun again => ihBody again, fun result => ih result⟩

theorem given {program : Program σ α} {fact : Prop} {Q : α → σ → Prop}
    (known : ∀ s, D.invariant s → A.invariant s → P s → fact) (spec : fact → A.Spec me program P Q) :
    A.Spec me program P Q := by
  by_cases holds : fact
  · exact spec holds
  · exact never.pre fun s sound ok held => holds (known s sound ok held)

theorem stabilize {program : Program σ α} {s : σ}
    (spec : A.Spec me program P fun _ s => ¬ A.busy me s) (sound : D.invariant s)
    (ok : A.invariant s) (held : P s) :
    ∃ P', A.Stable me P' ∧ P' s ∧ A.Spec me program P' fun _ s => ¬ A.busy me s := by
  cases program with
  | done value => exact ⟨_, .busy, spec s sound ok held, fun _ _ _ free => free⟩
  | atomic action next =>
      obtain ⟨pre, mid, enter, stable, runs, ready, rest⟩ := spec
      exact ⟨pre, stable, enter s sound ok held, pre, mid, fun _ _ _ held => held, stable, runs, ready,
        rest⟩
  | wait action next dropped =>
      obtain ⟨pre, mid, enter, stable, runs, free, rest, cleanup⟩ := spec
      exact ⟨pre, stable, enter s sound ok held, pre, mid, fun _ _ _ held => held, stable, runs, free,
        rest, cleanup⟩
  | loop body start next =>
      obtain ⟨head, exit, enter, stable, each, rest⟩ := spec
      exact ⟨head start, stable start, enter s sound ok held, head, exit, fun _ _ _ held => held, stable,
        each, rest⟩

theorem step {program next : Program σ α} {Q : α → σ → Prop} {s after : σ} {choice : Nat}
    (spec : A.Spec me program P Q) (follows : D.Follows (some me) s after) (ok : A.invariant s)
    (held : P s) (stepped : program.step ⟨me, choice⟩ s = some (next, after)) :
    A.invariant after ∧ (A.step (some me) s after ∨ after = s) ∧
      ∃ M, M after ∧ A.Spec me next M Q := by
  cases program with
  | done value => simp [Program.step] at stepped
  | atomic action rest =>
      obtain ⟨pre, mid, enter, stable, runs, ready, tail⟩ := spec
      simp only [Program.step, Option.map_eq_some_iff, Prod.mk.injEq] at stepped
      obtain ⟨⟨result, s'⟩, ran, rfl, rfl⟩ := stepped
      obtain ⟨kept, passed, ended⟩ :=
        runs s choice result s' follows ok (enter s follows.sound ok held) ran
      exact ⟨kept, .inl passed, mid result, ended, tail result⟩
  | wait action rest dropped =>
      obtain ⟨pre, mid, enter, stable, runs, free, tail, cleanup⟩ := spec
      simp only [Program.step, Option.map_eq_some_iff, Prod.mk.injEq] at stepped
      obtain ⟨⟨result, s'⟩, ran, rfl, rfl⟩ := stepped
      obtain ⟨kept, passed, ended⟩ :=
        runs s choice result s' follows ok (enter s follows.sound ok held) ran
      exact ⟨kept, .inl passed, mid result, ended, tail result⟩
  | loop body start rest =>
      obtain ⟨head, exit, enter, stable, each, tail⟩ := spec
      simp only [Program.step, Option.some.injEq, Prod.mk.injEq] at stepped
      obtain ⟨rfl, rfl⟩ := stepped
      refine ⟨ok, .inr rfl, head start, enter s follows.sound ok held, (each start).bind fun value => ?_⟩
      cases value with
      | inl again => exact ⟨head, exit, fun _ _ _ held => held, stable, each, tail⟩
      | inr result => exact tail result

theorem drop {program : Program σ α} {rest : Program σ Unit} {Q : α → σ → Prop} {s : σ}
    (spec : A.Spec me program P Q) (sound : D.invariant s) (ok : A.invariant s) (held : P s)
    (drops : program.drop = some rest) :
    ¬ A.busy me s ∧ ∃ M, M s ∧ A.Spec me rest M fun _ s => ¬ A.busy me s := by
  cases program with
  | wait action next cleanup =>
      obtain ⟨pre, mid, enter, stable, runs, free, tail, spec⟩ := spec
      simp only [Program.drop, Option.some.injEq] at drops
      subst drops
      exact ⟨free s sound ok (enter s sound ok held), pre, enter s sound ok held, spec⟩
  | _ => simp [Program.drop] at drops

theorem ready {program : Program σ α} {Q : α → σ → Prop} {s : σ} (spec : A.Spec me program P Q)
    (ended : ∀ value s, Q value s → ¬ A.busy me s) (sound : D.invariant s) (ok : A.invariant s)
    (held : P s) (busy : A.busy me s) : ∃ choice, (program.step ⟨me, choice⟩ s).isSome := by
  cases program with
  | done value => exact absurd busy (ended value s (spec s sound ok held))
  | atomic action next =>
      obtain ⟨pre, mid, enter, stable, runs, ready, rest⟩ := spec
      obtain ⟨choice, can⟩ := ready s sound ok (enter s sound ok held) busy
      exact ⟨choice, by rw [Program.step, Option.isSome_map]; exact can⟩
  | wait action next dropped =>
      obtain ⟨pre, mid, enter, stable, runs, free, rest, cleanup⟩ := spec
      exact absurd busy (free s sound ok (enter s sound ok held))
  | loop body start next => exact ⟨0, rfl⟩

end Spec

end Audit

namespace Config

variable {ε : Type} {D : Discipline σ} {environment : ε → σ → Option σ}

theorem Covered.follows {c next : Config σ} {m : Move ε}
    (env : ∀ event s after, D.invariant s → environment event s = some after →
      D.invariant after ∧ D.Neutral s after)
    (covered : c.Covered D) (moved : c.move environment m = some next) :
    D.Follows m.actor c.shared next.shared :=
  have stepped := covered.move env moved
  ⟨covered.1, stepped.1.1, stepped.2⟩

/-- The invariant holds and every thread stands at a point from which it passes the audit. -/
def Audited (A : Audit D) (c : Config σ) : Prop :=
  A.invariant c.shared ∧ ∀ thread, ∃ P, A.Stable thread P ∧ P c.shared ∧
    A.Spec thread (c.threads thread) P fun _ s => ¬ A.busy thread s

variable {A : Audit D} {c next final : Config σ}

theorem Audited.update {shared : σ} {thread : Nat} {program : Program σ Unit} {P : σ → Prop}
    (audited : c.Audited A) (ok : A.invariant shared)
    (follows : D.Follows (some thread) c.shared shared)
    (passed : A.step (some thread) c.shared shared ∨ shared = c.shared) (held : P shared)
    (spec : A.Spec thread program P fun _ s => ¬ A.busy thread s) :
    Config.Audited A { shared, threads := Function.update c.threads thread program } := by
  refine ⟨ok, fun other => ?_⟩
  by_cases same : other = thread
  · subst same
    simpa using spec.stabilize follows.kept ok held
  · obtain ⟨P', stable, held', spec'⟩ := audited.2 other
    refine ⟨P', stable, ?_, by simpa [Function.update_of_ne same] using spec'⟩
    rcases passed with step | unchanged
    · exact stable _ _ _ (fun equal => same (Option.some.inj equal).symm) follows audited.1 ok step held'
    · simpa only [unchanged] using held'

/-- Every step of a run passes the audit. -/
theorem Audited.move {m : Move ε}
    (env : ∀ event s after, D.invariant s → environment event s = some after →
      D.invariant after ∧ D.Neutral s after)
    (envPasses : ∀ event s after, D.Follows none s after → A.invariant s →
      environment event s = some after → A.invariant after ∧ A.step none s after)
    (covered : c.Covered D) (audited : c.Audited A) (moved : c.move environment m = some next) :
    next.Audited A ∧ (A.step m.actor c.shared next.shared ∨ next.shared = c.shared) := by
  have follows := covered.follows env moved
  cases m with
  | run pick =>
      simp only [Config.move, Option.map_eq_some_iff] at moved
      obtain ⟨⟨program, shared⟩, stepped, rfl⟩ := moved
      obtain ⟨P, stable, held, spec⟩ := audited.2 pick.thread
      obtain ⟨ok, passed, M, ended, rest⟩ := spec.step follows audited.1 held stepped
      exact ⟨audited.update ok follows passed ended rest, passed⟩
  | drop thread =>
      simp only [Config.move, Option.map_eq_some_iff] at moved
      obtain ⟨rest, drops, rfl⟩ := moved
      obtain ⟨P, stable, held, spec⟩ := audited.2 thread
      obtain ⟨_, M, ended, cleanup⟩ := spec.drop covered.1 audited.1 held drops
      exact ⟨audited.update audited.1 follows (.inr rfl) ended cleanup, .inr rfl⟩
  | environment event =>
      simp only [Config.move, Option.map_eq_some_iff] at moved
      obtain ⟨shared, happened, rfl⟩ := moved
      obtain ⟨ok, passed⟩ := envPasses event c.shared shared follows audited.1 happened
      refine ⟨⟨ok, fun thread => ?_⟩, .inl passed⟩
      obtain ⟨P, stable, held, spec⟩ := audited.2 thread
      refine ⟨P, stable, stable none _ _ ?_ follows audited.1 ok passed held, spec⟩
      simp

theorem Audited.run {moves : List (Move ε)}
    (env : ∀ event s after, D.invariant s → environment event s = some after →
      D.invariant after ∧ D.Neutral s after)
    (envPasses : ∀ event s after, D.Follows none s after → A.invariant s →
      environment event s = some after → A.invariant after ∧ A.step none s after)
    (covered : c.Covered D) (audited : c.Audited A) (ran : c.run environment moves = some final) :
    final.Audited A := by
  induction moves generalizing c with
  | nil =>
      simp only [Config.run, Option.some.injEq] at ran
      exact ran ▸ audited
  | cons m rest ih =>
      simp only [Config.run, Option.bind_eq_some_iff] at ran
      obtain ⟨next, moved, ran⟩ := ran
      exact ih (covered.move env moved).1 (audited.move env envPasses covered moved).1 ran

theorem Audited.free {thread : Nat} {rest : Program σ Unit} (covered : c.Covered D)
    (audited : c.Audited A) (drops : (c.threads thread).drop = some rest) :
    ¬ A.busy thread c.shared := by
  obtain ⟨P, _, held, spec⟩ := audited.2 thread
  exact (spec.drop covered.1 audited.1 held drops).1

theorem Audited.ready {thread : Nat} (covered : c.Covered D) (audited : c.Audited A)
    (busy : A.busy thread c.shared) :
    ∃ choice, ((c.threads thread).step ⟨thread, choice⟩ c.shared).isSome := by
  obtain ⟨P, _, held, spec⟩ := audited.2 thread
  exact spec.ready (fun _ _ free => free) covered.1 audited.1 held busy

end Config

end Interleaving
