import PolicyGate.Interleaving.Program
import Mathlib.Tactic.Choose

namespace Interleaving

/-! Rely-guarantee reasoning over `Program`.

A discipline fixes an invariant of the shared state and, for every thread, what
it may rely on about the steps of the others.  `Spec` is the proof rule for one
thread; `Config.Covered.run` turns a `Spec` for each thread into a fact about
every interleaving.
-/

/-- `resting` is what holds of a thread that has nothing left to run, however it ended. -/
structure Discipline (σ : Type) where
  invariant : σ → Prop
  rely : Nat → σ → σ → Prop
  resting : Nat → σ → Prop
  resting_stable : ∀ me before after, invariant before → invariant after → rely me before after →
    resting me before → resting me after

namespace Discipline

variable {σ : Type} (D : Discipline σ)

/-- What thread `me` owes the others: each of its steps is one they rely on. -/
def Guarantee (me : Nat) (before after : σ) : Prop :=
  ∀ other, other ≠ me → D.rely other before after

def Neutral (before after : σ) : Prop := ∀ thread, D.rely thread before after

/-- No step in `keep` falsifies `P`. -/
def Kept (keep : σ → σ → Prop) (P : σ → Prop) : Prop :=
  ∀ before after, D.invariant before → D.invariant after → keep before after → P before → P after

abbrev Stable (me : Nat) (P : σ → Prop) : Prop := D.Kept (D.rely me) P

variable {D} {me : Nat} {keep : σ → σ → Prop}

theorem Kept.and {P Q : σ → Prop} (left : D.Kept keep P) (right : D.Kept keep Q) :
    D.Kept keep fun s => P s ∧ Q s :=
  fun before after ok ok' step held =>
    ⟨left before after ok ok' step held.1, right before after ok ok' step held.2⟩

theorem Kept.const (fact : Prop) : D.Kept keep fun _ => fact := fun _ _ _ _ _ held => held

theorem Kept.forall {ι : Sort*} {P : ι → σ → Prop} (each : ∀ i, D.Kept keep (P i)) :
    D.Kept keep fun s => ∀ i, P i s :=
  fun before after ok ok' step held i => each i before after ok ok' step (held i)

theorem Kept.exists {ι : Sort*} {P : ι → σ → Prop} (each : ∀ i, D.Kept keep (P i)) :
    D.Kept keep fun s => ∃ i, P i s :=
  fun before after ok ok' step ⟨i, held⟩ => ⟨i, each i before after ok ok' step held⟩

theorem Kept.or {P Q : σ → Prop} (left : D.Kept keep P) (right : D.Kept keep Q) :
    D.Kept keep fun s => P s ∨ Q s :=
  fun before after ok ok' step held =>
    held.imp (left before after ok ok' step) (right before after ok ok' step)

theorem Kept.mono {P : σ → Prop} {fewer : σ → σ → Prop} (kept : D.Kept keep P)
    (included : ∀ before after, fewer before after → keep before after) : D.Kept fewer P :=
  fun before after ok ok' step held => kept before after ok ok' (included before after step) held

def Runs (D : Discipline σ) (me : Nat) {β : Type} (action : Pick → σ → Option (β × σ))
    (P : σ → Prop) (M : β → σ → Prop) : Prop :=
  ∀ s choice result after, D.invariant s → P s → action ⟨me, choice⟩ s = some (result, after) →
    D.invariant after ∧ D.Guarantee me s after ∧ M result after

/-- From a state where `P` holds, thread `me` running `program` keeps the
discipline in every interleaving, and where it ends `Q` holds. -/
def Spec (D : Discipline σ) (me : Nat) :
    {α : Type} → Program σ α → (σ → Prop) → (α → σ → Prop) → Prop
  | _, .done value, P, Q => ∀ s, D.invariant s → P s → Q value s
  | _, .atomic (β := β) action next, P, Q =>
      ∃ (pre : σ → Prop) (mid : β → σ → Prop),
        (∀ s, D.invariant s → P s → pre s) ∧ D.Stable me pre ∧ D.Runs me action pre mid ∧
        ∀ result, Spec D me (next result) (mid result) Q
  | _, .wait (β := β) action next dropped, P, Q =>
      ∃ (pre : σ → Prop) (mid : β → σ → Prop),
        (∀ s, D.invariant s → P s → pre s) ∧ D.Stable me pre ∧ D.Runs me action pre mid ∧
        (∀ result, Spec D me (next result) (mid result) Q) ∧
        Spec D me dropped pre fun _ s => D.resting me s
  | _, .loop (β := β) (γ := γ) body start next, P, Q =>
      ∃ (head : γ → σ → Prop) (exit : β → σ → Prop),
        (∀ s, D.invariant s → P s → head start s) ∧ (∀ again, D.Stable me (head again)) ∧
        (∀ again, Spec D me (body again) (head again) (Sum.elim head exit)) ∧
        ∀ result, Spec D me (next result) (exit result) Q

variable {α β γ : Type} {P P' : σ → Prop}

theorem Spec.weaken {program : Program σ α} {Q Q' : α → σ → Prop}
    (spec : D.Spec me program P Q) (pre : ∀ s, D.invariant s → P' s → P s)
    (post : ∀ value s, D.invariant s → Q value s → Q' value s) :
    D.Spec me program P' Q' := by
  induction program generalizing P P' with
  | done value => exact fun s ok held => post value s ok (spec s ok (pre s ok held))
  | atomic action next ih =>
      obtain ⟨stable, mid, enter, isStable, runs, rest⟩ := spec
      exact ⟨stable, mid, fun s ok held => enter s ok (pre s ok held), isStable, runs,
        fun result => ih result (rest result) (fun _ _ held => held) post⟩
  | wait action next dropped ih =>
      obtain ⟨stable, mid, enter, isStable, runs, rest, cleanup⟩ := spec
      exact ⟨stable, mid, fun s ok held => enter s ok (pre s ok held), isStable, runs,
        fun result => ih result (rest result) (fun _ _ held => held) post, cleanup⟩
  | loop body start next _ ih =>
      obtain ⟨head, exit, enter, isStable, each, rest⟩ := spec
      exact ⟨head, exit, fun s ok held => enter s ok (pre s ok held), isStable, each,
        fun result => ih result (rest result) (fun _ _ held => held) post⟩

theorem Spec.pre {program : Program σ α} {Q : α → σ → Prop}
    (spec : D.Spec me program P Q) (pre : ∀ s, D.invariant s → P' s → P s) :
    D.Spec me program P' Q :=
  spec.weaken pre fun _ _ _ held => held

theorem Spec.post {program : Program σ α} {Q Q' : α → σ → Prop}
    (spec : D.Spec me program P Q) (post : ∀ value s, D.invariant s → Q value s → Q' value s) :
    D.Spec me program P Q' :=
  spec.weaken (fun _ _ held => held) post

theorem Spec.bind {program : Program σ α} {f : α → Program σ β} {M : α → σ → Prop}
    {Q : β → σ → Prop} (spec : D.Spec me program P M)
    (rest : ∀ value, D.Spec me (f value) (M value) Q) :
    D.Spec me (program >>= f) P Q := by
  change D.Spec me (program.bind f) P Q
  induction program generalizing P with
  | done value => exact (rest value).pre spec
  | atomic action next ih =>
      obtain ⟨stable, mid, enter, isStable, runs, tail⟩ := spec
      exact ⟨stable, mid, enter, isStable, runs, fun result => ih result (tail result) rest⟩
  | wait action next dropped ih =>
      obtain ⟨stable, mid, enter, isStable, runs, tail, cleanup⟩ := spec
      exact ⟨stable, mid, enter, isStable, runs, fun result => ih result (tail result) rest, cleanup⟩
  | loop body start next _ ih =>
      obtain ⟨head, exit, enter, isStable, each, tail⟩ := spec
      exact ⟨head, exit, enter, isStable, each, fun result => ih result (tail result) rest⟩

theorem Spec.done {value : α} {Q : α → σ → Prop} (held : ∀ s, D.invariant s → P s → Q value s) :
    D.Spec me (.done value) P Q := held

theorem Spec.act {action : Pick → σ → Option (β × σ)} {M : β → σ → Prop}
    (stable : D.Stable me P) (runs : D.Runs me action P M) :
    D.Spec me (.act action) P M :=
  ⟨P, M, fun _ _ held => held, stable, runs, fun _ _ _ held => held⟩

theorem Spec.await {action : Pick → σ → Option (β × σ)} {M : β → σ → Prop}
    (stable : D.Stable me P) (resting : ∀ s, D.invariant s → P s → D.resting me s)
    (runs : D.Runs me action P M) : D.Spec me (.await action) P M :=
  ⟨P, M, fun _ _ held => held, stable, runs, fun _ _ _ held => held, resting⟩

theorem Spec.wait {action : Pick → σ → Option (β × σ)} {dropped : Program σ Unit}
    {M : β → σ → Prop} (stable : D.Stable me P) (runs : D.Runs me action P M)
    (cleanup : D.Spec me dropped P fun _ s => D.resting me s) :
    D.Spec me (.wait action .done dropped) P M :=
  ⟨P, M, fun _ _ held => held, stable, runs, fun _ _ _ held => held, cleanup⟩

theorem Spec.iterate {start : γ} {body : γ → Program σ (γ ⊕ β)} {head : γ → σ → Prop}
    {exit : β → σ → Prop} (stable : ∀ again, D.Stable me (head again))
    (each : ∀ again, D.Spec me (body again) (head again) (Sum.elim head exit)) :
    D.Spec me (.iterate start body) (head start) exit :=
  ⟨head, exit, fun _ _ held => held, stable, each, fun _ _ _ held => held⟩

theorem Spec.steady {start : γ} {body : γ → Program σ (γ ⊕ β)} {exit : β → σ → Prop}
    (stable : D.Stable me P)
    (each : ∀ again, D.Spec me (body again) P (Sum.elim (fun _ => P) exit)) :
    D.Spec me (.iterate start body) P exit :=
  .iterate (fun _ => stable) each

theorem Spec.frame {program : Program σ α} {Q : α → σ → Prop} {R : σ → Prop}
    (lasts : ∀ thread, D.Stable thread R) (spec : D.Spec me program P Q) :
    D.Spec me program (fun s => P s ∧ R s) fun value s => Q value s ∧ R s := by
  have kept : ∀ {δ : Type} {action : Pick → σ → Option (δ × σ)} {pre : σ → Prop}
      {mid : δ → σ → Prop}, D.Runs me action pre mid →
      D.Runs me action (fun s => pre s ∧ R s) fun result s => mid result s ∧ R s := by
    intro δ action pre mid runs s choice result after ok held ran
    obtain ⟨ok', promised, ended⟩ := runs s choice result after ok held.1 ran
    exact ⟨ok', promised, ended, lasts (me + 1) _ _ ok ok' (promised _ (by omega)) held.2⟩
  induction program generalizing P with
  | done value => exact fun s ok held => ⟨spec s ok held.1, held.2⟩
  | atomic action next ih =>
      obtain ⟨pre, mid, enter, stable, runs, rest⟩ := spec
      exact ⟨fun s => pre s ∧ R s, fun result s => mid result s ∧ R s,
        fun s ok held => ⟨enter s ok held.1, held.2⟩, stable.and (lasts me), kept runs,
        fun result => ih result (rest result)⟩
  | wait action next dropped ih ihDropped =>
      obtain ⟨pre, mid, enter, stable, runs, rest, cleanup⟩ := spec
      exact ⟨fun s => pre s ∧ R s, fun result s => mid result s ∧ R s,
        fun s ok held => ⟨enter s ok held.1, held.2⟩, stable.and (lasts me), kept runs,
        fun result => ih result (rest result), (ihDropped cleanup).post fun _ _ _ held => held.1⟩
  | loop body start next ihBody ih =>
      obtain ⟨head, exit, enter, stable, each, rest⟩ := spec
      refine ⟨fun again s => head again s ∧ R s, fun result s => exit result s ∧ R s,
        fun s ok held => ⟨enter s ok held.1, held.2⟩, fun again => (stable again).and (lasts me),
        fun again => (ihBody again (each again)).post ?_, fun result => ih result (rest result)⟩
      intro value s _ held
      cases value with
      | inl next => exact held
      | inr result => exact held

theorem Spec.cases {ι : Sort*} {program : Program σ α} {P : ι → σ → Prop} {Q : α → σ → Prop}
    (each : ∀ i, D.Spec me program (P i) Q) :
    D.Spec me program (fun s => ∃ i, P i s) Q := by
  induction program generalizing P with
  | done value => exact fun s ok ⟨i, held⟩ => each i s ok held
  | atomic action next ih =>
      choose stable mid enter isStable runs rest using each
      refine ⟨fun s => ∃ i, stable i s, fun result s => ∃ i, mid i result s,
        fun s ok ⟨i, held⟩ => ⟨i, enter i s ok held⟩, .exists isStable, ?_,
        fun result => ih result fun i => rest i result⟩
      intro s choice result after ok ⟨i, held⟩ ran
      obtain ⟨kept, promised, ended⟩ := runs i s choice result after ok held ran
      exact ⟨kept, promised, i, ended⟩
  | wait action next dropped ih ihDropped =>
      choose stable mid enter isStable runs rest cleanup using each
      refine ⟨fun s => ∃ i, stable i s, fun result s => ∃ i, mid i result s,
        fun s ok ⟨i, held⟩ => ⟨i, enter i s ok held⟩, .exists isStable, ?_,
        fun result => ih result fun i => rest i result, ihDropped cleanup⟩
      intro s choice result after ok ⟨i, held⟩ ran
      obtain ⟨kept, promised, ended⟩ := runs i s choice result after ok held ran
      exact ⟨kept, promised, i, ended⟩
  | loop body start next ihBody ih =>
      choose head exit enter isStable eachBody rest using each
      refine ⟨fun again s => ∃ i, head i again s, fun result s => ∃ i, exit i result s,
        fun s ok ⟨i, held⟩ => ⟨i, enter i s ok held⟩, fun again => .exists fun i => isStable i again,
        fun again => ?_, fun result => ih result fun i => rest i result⟩
      refine ihBody again fun i => (eachBody i again).post ?_
      intro value s _ held
      cases value with
      | inl next => exact ⟨i, held⟩
      | inr result => exact ⟨i, held⟩

theorem Spec.never {program : Program σ α} {Q : α → σ → Prop} :
    D.Spec me program (fun _ => False) Q :=
  (Spec.cases (P := fun (_ : Empty) _ => True) fun i => i.elim).pre fun _ _ held => held.elim

theorem Spec.given {program : Program σ α} {fact : Prop} {Q : α → σ → Prop}
    (spec : fact → D.Spec me program P Q) :
    D.Spec me program (fun s => fact ∧ P s) Q := by
  by_cases holds : fact
  · exact (spec holds).pre fun _ _ held => held.2
  · exact Spec.never.pre fun _ _ held => holds held.1

/-- The action keeps the invariant, the others may rely on it, and it is itself a step in
`keep`, wherever `P` holds. -/
def RunsWithin (D : Discipline σ) (me : Nat) (keep : σ → σ → Prop)
    (action : Pick → σ → Option (β × σ)) (P : σ → Prop) (M : β → σ → Prop) : Prop :=
  ∀ s choice result after, D.invariant s → P s → action ⟨me, choice⟩ s = some (result, after) →
    D.invariant after ∧ D.Guarantee me s after ∧ keep s after ∧ M result after

/-- What all steps in `keep` leave true stays true over an action that is one of them. -/
theorem Spec.within {action : Pick → σ → Option (β × σ)} {M : β → σ → Prop} {R : σ → Prop}
    (stable : D.Stable me R) (kept : D.Kept keep R) (stableOwn : D.Stable me P)
    (runs : D.RunsWithin me keep action (fun s => R s ∧ P s) M) :
    D.Spec me (.act action) (fun s => R s ∧ P s) fun result s => R s ∧ M result s := by
  refine .act (stable.and stableOwn) ?_
  intro s choice result after ok held ran
  obtain ⟨invariant, promised, step, ended⟩ := runs s choice result after ok held ran
  exact ⟨invariant, promised, kept s after ok invariant step held.1, ended⟩

theorem Spec.neutral {action : Pick → σ → Option (β × σ)} {M : β → σ → Prop}
    (stable : D.Stable me P) (runs : D.RunsWithin me (D.rely me) action P M) :
    D.Spec me (.act action) P fun result s => P s ∧ M result s := by
  refine .act stable ?_
  intro s choice result after ok held ran
  obtain ⟨invariant, promised, step, ended⟩ := runs s choice result after ok held ran
  exact ⟨invariant, promised, stable s after ok invariant step held, ended⟩

/-- Whatever a specified program knows, it knows something stable. -/
theorem Spec.stabilize {program : Program σ α} {s : σ}
    (spec : D.Spec me program P fun _ s => D.resting me s) (ok : D.invariant s) (held : P s) :
    ∃ P', D.Stable me P' ∧ P' s ∧ D.Spec me program P' fun _ s => D.resting me s := by
  cases program with
  | done value =>
      exact ⟨D.resting me, D.resting_stable me, spec s ok held, fun _ _ resting => resting⟩
  | atomic action next =>
      obtain ⟨pre, mid, enter, stable, runs, rest⟩ := spec
      exact ⟨pre, stable, enter s ok held, pre, mid, fun _ _ held => held, stable, runs,
        rest⟩
  | wait action next dropped =>
      obtain ⟨pre, mid, enter, stable, runs, rest, cleanup⟩ := spec
      exact ⟨pre, stable, enter s ok held, pre, mid, fun _ _ held => held, stable, runs,
        rest, cleanup⟩
  | loop body start next =>
      obtain ⟨head, exit, enter, stable, each, rest⟩ := spec
      exact ⟨head start, stable start, enter s ok held, head, exit, fun _ _ held => held, stable,
        each, rest⟩

theorem Spec.step {program next : Program σ α} {Q : α → σ → Prop} {s after : σ} {choice : Nat}
    (spec : D.Spec me program P Q) (ok : D.invariant s) (held : P s)
    (stepped : program.step ⟨me, choice⟩ s = some (next, after)) :
    D.invariant after ∧ (D.Guarantee me s after ∨ after = s) ∧
      ∃ M, M after ∧ D.Spec me next M Q := by
  cases program with
  | done value => simp [Program.step] at stepped
  | atomic action rest =>
      obtain ⟨pre, mid, enter, stable, runs, tail⟩ := spec
      simp only [Program.step, Option.map_eq_some_iff, Prod.mk.injEq] at stepped
      obtain ⟨⟨result, s'⟩, ran, rfl, rfl⟩ := stepped
      obtain ⟨kept, promised, ended⟩ := runs s choice result s' ok (enter s ok held) ran
      exact ⟨kept, .inl promised, mid result, ended, tail result⟩
  | wait action rest dropped =>
      obtain ⟨pre, mid, enter, stable, runs, tail, cleanup⟩ := spec
      simp only [Program.step, Option.map_eq_some_iff, Prod.mk.injEq] at stepped
      obtain ⟨⟨result, s'⟩, ran, rfl, rfl⟩ := stepped
      obtain ⟨kept, promised, ended⟩ := runs s choice result s' ok (enter s ok held) ran
      exact ⟨kept, .inl promised, mid result, ended, tail result⟩
  | loop body start rest =>
      obtain ⟨head, exit, enter, stable, each, tail⟩ := spec
      simp only [Program.step, Option.some.injEq, Prod.mk.injEq] at stepped
      obtain ⟨rfl, rfl⟩ := stepped
      refine ⟨ok, .inr rfl, head start, enter s ok held, (each start).bind fun value => ?_⟩
      cases value with
      | inl again => exact ⟨head, exit, fun _ _ held => held, stable, each, tail⟩
      | inr result => exact tail result

theorem Spec.drop {program : Program σ α} {rest : Program σ Unit} {Q : α → σ → Prop}
    {s : σ} (spec : D.Spec me program P Q) (ok : D.invariant s) (held : P s)
    (drops : program.drop = some rest) :
    ∃ M, M s ∧ D.Spec me rest M fun _ s => D.resting me s := by
  cases program with
  | wait action next cleanup =>
      obtain ⟨pre, mid, enter, stable, runs, tail, spec⟩ := spec
      simp only [Program.drop, Option.some.injEq] at drops
      subst drops
      exact ⟨pre, enter s ok held, spec⟩
  | _ => simp [Program.drop] at drops

end Discipline

namespace Config

variable {σ ε : Type} (D : Discipline σ)

/-- The invariant holds and every thread stands at a point its specification covers. -/
def Covered (c : Config σ) : Prop :=
  D.invariant c.shared ∧ ∀ thread, ∃ P, D.Stable thread P ∧ P c.shared ∧
    D.Spec thread (c.threads thread) P fun _ s => D.resting thread s

variable {D} {environment : ε → σ → Option σ}

theorem Covered.resting {c : Config σ} {thread : Nat} (covered : c.Covered D)
    (ended : c.threads thread = .done ()) : D.resting thread c.shared := by
  obtain ⟨P, _, held, spec⟩ := covered.2 thread
  rw [ended] at spec
  exact spec _ covered.1 held

theorem Covered.update {c : Config σ} {shared : σ} {thread : Nat} {program : Program σ Unit}
    {P : σ → Prop} (covered : c.Covered D) (ok : D.invariant shared)
    (relied : ∀ other, other ≠ thread → D.rely other c.shared shared ∨ shared = c.shared)
    (held : P shared) (spec : D.Spec thread program P fun _ s => D.resting thread s) :
    Config.Covered D { shared, threads := Function.update c.threads thread program } := by
  refine ⟨ok, fun other => ?_⟩
  by_cases same : other = thread
  · subst same
    simpa using spec.stabilize ok held
  · obtain ⟨P', stable, held', spec'⟩ := covered.2 other
    refine ⟨P', stable, ?_, by simpa [Function.update_of_ne same] using spec'⟩
    rcases relied other same with relied | unchanged
    · exact stable _ _ covered.1 ok relied held'
    · simpa only [unchanged] using held'

theorem Covered.move {c next : Config σ} {m : Move ε}
    (env : ∀ event s after, D.invariant s → environment event s = some after →
      D.invariant after ∧ D.Neutral s after)
    (covered : c.Covered D) (moved : c.move environment m = some next) :
    next.Covered D ∧ ∀ other, m.actor ≠ some other →
      D.rely other c.shared next.shared ∨ next.shared = c.shared := by
  cases m with
  | run pick =>
      simp only [Config.move, Option.map_eq_some_iff] at moved
      obtain ⟨⟨program, shared⟩, stepped, rfl⟩ := moved
      obtain ⟨P, stable, held, spec⟩ := covered.2 pick.thread
      obtain ⟨ok, promised, M, ended, rest⟩ := spec.step covered.1 held stepped
      have relied : ∀ other, other ≠ pick.thread →
          D.rely other c.shared shared ∨ shared = c.shared := fun other different =>
        promised.imp (fun promised => promised other different) id
      exact ⟨covered.update ok relied ended rest, fun other different =>
        relied other fun same => different (congrArg some same.symm)⟩
  | drop thread =>
      simp only [Config.move, Option.map_eq_some_iff] at moved
      obtain ⟨rest, drops, rfl⟩ := moved
      obtain ⟨P, stable, held, spec⟩ := covered.2 thread
      obtain ⟨M, ended, cleanup⟩ := spec.drop covered.1 held drops
      exact ⟨covered.update covered.1 (fun _ _ => .inr rfl) ended cleanup, fun _ _ => .inr rfl⟩
  | environment event =>
      simp only [Config.move, Option.map_eq_some_iff] at moved
      obtain ⟨shared, happened, rfl⟩ := moved
      obtain ⟨ok, neutral⟩ := env event c.shared shared covered.1 happened
      refine ⟨⟨ok, fun thread => ?_⟩, fun other _ => .inl (neutral other)⟩
      obtain ⟨P, stable, held, spec⟩ := covered.2 thread
      exact ⟨P, stable, stable _ _ covered.1 ok (neutral thread) held, spec⟩

/-- Every interleaving of specified threads keeps the invariant. -/
theorem Covered.run {c final : Config σ} {moves : List (Move ε)}
    (env : ∀ event s after, D.invariant s → environment event s = some after →
      D.invariant after ∧ D.Neutral s after)
    (covered : c.Covered D) (ran : c.run environment moves = some final) :
    final.Covered D := by
  induction moves generalizing c with
  | nil =>
      simp only [Config.run, Option.some.injEq] at ran
      exact ran ▸ covered
  | cons m rest ih =>
      simp only [Config.run, Option.bind_eq_some_iff] at ran
      obtain ⟨next, moved, ran⟩ := ran
      exact ih (covered.move env moved).1 ran

theorem Covered.run_extends {order : σ → σ → Prop} {c final : Config σ} {moves : List (Move ε)}
    (env : ∀ event s after, D.invariant s → environment event s = some after →
      D.invariant after ∧ D.Neutral s after)
    (reflexive : ∀ s, order s s) (transitive : ∀ a b c, order a b → order b c → order a c)
    (relied : ∀ thread s after, D.rely thread s after → order s after)
    (covered : c.Covered D) (ran : c.run environment moves = some final) :
    order c.shared final.shared := by
  induction moves generalizing c with
  | nil =>
      simp only [Config.run, Option.some.injEq] at ran
      exact ran ▸ reflexive _
  | cons m rest ih =>
      simp only [Config.run, Option.bind_eq_some_iff] at ran
      obtain ⟨next, moved, ran⟩ := ran
      obtain ⟨coveredNext, stepped⟩ := covered.move env moved
      refine transitive _ _ _ ?_ (ih coveredNext ran)
      obtain ⟨witness, other⟩ : ∃ witness, m.actor ≠ some witness := by
        cases m.actor with
        | none => exact ⟨0, by simp⟩
        | some thread => exact ⟨thread + 1, by simp⟩
      rcases stepped witness other with relied_on | same
      · exact relied witness _ _ relied_on
      · rw [same]
        exact reflexive _

end Config

end Interleaving
