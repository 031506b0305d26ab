import PolicyGate.Interleaving.Guest
import PolicyGate.Interleaving.Frame

namespace Option.Rel

variable {α β γ δ : Type*}

theorem map {R : α → β → Prop} {S : γ → δ → Prop} {f : α → γ} {g : β → δ} {left : Option α}
    {right : Option β} (related : Option.Rel R left right)
    (each : ∀ a b, R a b → S (f a) (g b)) : Option.Rel S (left.map f) (right.map g) := by
  cases related with
  | none => exact .none
  | some related => exact .some (each _ _ related)

theorem same {S : γ → δ → Prop} {f : α → γ} {g : α → δ} {value : Option α}
    (each : ∀ a, S (f a) (g a)) : Option.Rel S (value.map f) (value.map g) := by
  cases value with
  | none => exact .none
  | some a => exact .some (each a)

end Option.Rel

namespace Interleaving

/-! A record of what one thread did.

The thread runs the same actions as without the record (`Erases`), and notes what
it did in the very action that did it.  A run and its recorded run are the same
move by move, so what holds of every recorded run holds of every run.
-/

namespace Program

variable {σ τ α β γ : Type}

def noteAnswer (note : α → σ → τ → τ) : Program σ α → σ → τ → τ
  | .done value, s, memory => note value s memory
  | _, _, memory => memory

/-- The program with a note of its answer in its last action; where it is dropped, `cleanup` runs. -/
def noted (note : α → σ → τ → τ) :
    Program σ α → (cleanup : Program (σ × τ) Unit) → Program (σ × τ) α
  | .done value, _ => .done value
  | .atomic action next, cleanup =>
      .atomic (fun pick x => (action pick x.1).map fun ran =>
          (ran.1, ran.2, noteAnswer note (next ran.1) ran.2 x.2))
        fun result => (next result).noted note cleanup
  | .wait action next _, cleanup =>
      .wait (fun pick x => (action pick x.1).map fun ran =>
          (ran.1, ran.2, noteAnswer note (next ran.1) ran.2 x.2))
        (fun result => (next result).noted note cleanup) cleanup
  | .loop body start next, cleanup =>
      .loop (fun again => (body again).hosted τ) start fun result =>
        (next result).noted note cleanup

def noteAct (note : β → σ → τ → τ) (action : Pick → σ → Option (β × σ)) : Program (σ × τ) β :=
  (Program.act action).noted note (.done ())

def noteModify (note : σ → τ → τ) (f : σ → σ) : Program (σ × τ) Unit :=
  noteAct (fun _ => note) fun _ s => some ((), f s)

/-- The program with a note in its first action. -/
def noteFirst (note : σ → τ → τ) : Program σ α → Program (σ × τ) α
  | .atomic action next =>
      .atomic (fun pick x => (action pick x.1).map fun ran => (ran.1, ran.2, note ran.2 x.2))
        fun result => (next result).hosted τ
  | program => program.hosted τ

def Cleans : Program σ α → (cleanup : Program σ Unit) → Prop
  | .done _, _ => True
  | .atomic _ next, cleanup => ∀ result, (next result).Cleans cleanup
  | .wait _ next dropped, cleanup => dropped = cleanup ∧ ∀ result, (next result).Cleans cleanup
  | .loop _ _ next, cleanup => ∀ result, (next result).Cleans cleanup

inductive Erases : {α : Type} → Program (σ × τ) α → Program σ α → Prop where
  | done {α : Type} (value : α) : Erases (.done value) (.done value)
  | atomic {α β : Type} {recorded : Pick → σ × τ → Option (β × σ × τ)}
      {action : Pick → σ → Option (β × σ)} {next' : β → Program (σ × τ) α} {next : β → Program σ α}
      (same : ∀ pick x, (recorded pick x).map (fun ran => (ran.1, ran.2.1)) = action pick x.1)
      (rest : ∀ result, Erases (next' result) (next result)) :
      Erases (.atomic recorded next') (.atomic action next)
  | wait {α β : Type} {recorded : Pick → σ × τ → Option (β × σ × τ)}
      {action : Pick → σ → Option (β × σ)} {next' : β → Program (σ × τ) α} {next : β → Program σ α}
      {dropped' : Program (σ × τ) Unit} {dropped : Program σ Unit}
      (same : ∀ pick x, (recorded pick x).map (fun ran => (ran.1, ran.2.1)) = action pick x.1)
      (rest : ∀ result, Erases (next' result) (next result)) (cleanup : Erases dropped' dropped) :
      Erases (.wait recorded next' dropped') (.wait action next dropped)
  | loop {α β γ : Type} {body' : γ → Program (σ × τ) (γ ⊕ β)} {body : γ → Program σ (γ ⊕ β)}
      {start : γ} {next' : β → Program (σ × τ) α} {next : β → Program σ α}
      (rounds : ∀ again, Erases (body' again) (body again))
      (rest : ∀ result, Erases (next' result) (next result)) :
      Erases (.loop body' start next') (.loop body start next)

theorem map_recorded {ran : Option (β × σ)} (f : β × σ → τ) :
    (ran.map fun ran => (ran.1, ran.2, f ran)).map (fun ran => (ran.1, ran.2.1)) = ran := by
  cases ran <;> rfl

namespace Erases

theorem bind {recorded : Program (σ × τ) α} {program : Program σ α} {f' : α → Program (σ × τ) β}
    {f : α → Program σ β} (erases : recorded.Erases program)
    (rest : ∀ value, (f' value).Erases (f value)) : (recorded >>= f').Erases (program >>= f) := by
  change (recorded.bind f').Erases (program.bind f)
  induction erases with
  | done value => exact rest value
  | atomic same _ ih => exact .atomic same fun result => ih result rest
  | wait same _ cleanup ih => exact .wait same (fun result => ih result rest) cleanup
  | loop rounds _ _ ih => exact .loop rounds fun result => ih result rest

theorem hosted (program : Program σ α) : (program.hosted τ).Erases program := by
  induction program with
  | done value => exact .done value
  | atomic action next ih => exact .atomic (fun _ _ => map_recorded _) ih
  | wait action next dropped ih ihDropped => exact .wait (fun _ _ => map_recorded _) ih ihDropped
  | loop body start next ihBody ih => exact .loop ihBody ih

theorem noted {program : Program σ α} {note : α → σ → τ → τ} {recorded : Program (σ × τ) Unit}
    {cleanup : Program σ Unit} (erases : recorded.Erases cleanup) (cleans : program.Cleans cleanup) :
    (program.noted note recorded).Erases program := by
  induction program with
  | done value => exact .done value
  | atomic action next ih =>
      exact .atomic (fun _ _ => map_recorded _) fun result => ih result (cleans result)
  | wait action next dropped ih _ =>
      obtain ⟨rfl, cleans⟩ := cleans
      exact .wait (fun _ _ => map_recorded _) (fun result => ih result (cleans result)) erases
  | loop body start next _ ih =>
      exact .loop (fun again => hosted (body again)) fun result => ih result (cleans result)

theorem noteAct (note : β → σ → τ → τ) (action : Pick → σ → Option (β × σ)) :
    (Program.noteAct note action).Erases (.act action) := noted (.done ()) fun _ => trivial

theorem noteModify (note : σ → τ → τ) (f : σ → σ) :
    (Program.noteModify note f).Erases (.modify f) := noteAct _ _

theorem noteFirst (note : σ → τ → τ) (program : Program σ α) :
    (program.noteFirst note).Erases program := by
  cases program with
  | atomic action next => exact .atomic (fun _ _ => map_recorded _) fun result => hosted (next result)
  | done | wait | loop => exact hosted _

theorem iterate {body' : γ → Program (σ × τ) (γ ⊕ β)} {body : γ → Program σ (γ ⊕ β)} {start : γ}
    (rounds : ∀ again, (body' again).Erases (body again)) :
    (Program.iterate start body').Erases (Program.iterate start body) :=
  .loop rounds .done

theorem step {recorded : Program (σ × τ) α} {program : Program σ α} (erases : recorded.Erases program)
    (pick : Pick) (x : σ × τ) :
    Option.Rel (fun stepped' stepped => stepped'.1.Erases stepped.1 ∧ stepped'.2.1 = stepped.2)
      (recorded.step pick x) (program.step pick x.1) := by
  cases erases with
  | done value => exact .none
  | @atomic _ _ action' action _ _ same rest | @wait _ _ action' action _ _ _ _ same rest _ =>
      rw [Program.step, Program.step, ← same pick x]
      cases action' pick x with
      | none => exact .none
      | some ran => exact .some ⟨rest ran.1, rfl⟩
  | loop rounds rest =>
      refine .some ⟨(rounds _).bind fun value => ?_, rfl⟩
      cases value with
      | inl again => exact .loop rounds rest
      | inr result => exact rest result

theorem drop {recorded : Program (σ × τ) α} {program : Program σ α} (erases : recorded.Erases program) :
    Option.Rel Erases recorded.drop program.drop := by
  cases erases with
  | wait _ _ cleanup => exact .some cleanup
  | done | atomic | loop => exact .none

end Erases

theorem hosted_bind (program : Program σ α) (f : α → Program σ β) :
    (program.bind f).hosted τ = (program.hosted τ).bind fun value => (f value).hosted τ := by
  induction program with
  | done value => rfl
  | atomic action next ih => simp only [Program.bind, hosted, ih]
  | wait action next dropped ih _ => simp only [Program.bind, hosted, ih]
  | loop body start next _ ih => simp only [Program.bind, hosted, ih]

theorem hosted_step (program : Program σ α) (pick : Pick) (x : σ × τ) :
    (program.hosted τ).step pick x =
      (program.step pick x.1).map fun stepped => (stepped.1.hosted τ, stepped.2, x.2) := by
  cases program with
  | done value => rfl
  | atomic action next | wait action next dropped =>
      simp only [hosted, step, Option.map_map]
      rfl
  | loop body start next =>
      simp only [hosted, step, Option.map_some, hosted_bind]
      congr 3
      funext value
      cases value <;> rfl

theorem hosted_drop (program : Program σ α) :
    (program.hosted τ).drop = program.drop.map fun dropped => dropped.hosted τ := by
  cases program <;> rfl

theorem Each.hosted {K : σ → σ → Prop} {program : Program σ α} {Q : α → Prop}
    (each : program.Each K Q) :
    (program.hosted τ).Each (fun before after => K before.1 after.1 ∧ after.2 = before.2) Q := by
  have beside : ∀ {δ : Type} {action : Pick → σ → Option (δ × σ)} {M : δ → Prop},
      (∀ pick s result after, action pick s = some (result, after) → K s after ∧ M result) →
      ∀ pick (x : σ × τ) result after, (action pick x.1).map (fun ran => (ran.1, ran.2, x.2)) =
        some (result, after) → (K x.1 after.1 ∧ after.2 = x.2) ∧ M result := by
    intro δ action M runs pick x result after ran
    obtain ⟨⟨answer, s⟩, acted, same⟩ := Option.map_eq_some_iff.mp ran
    obtain ⟨rfl, rfl⟩ := Prod.mk.injEq .. ▸ same
    obtain ⟨kept, known⟩ := runs pick x.1 answer s acted
    exact ⟨⟨kept, rfl⟩, known⟩
  induction program with
  | done value => exact each
  | atomic action next ih =>
      obtain ⟨M, runs, rest⟩ := each
      exact ⟨M, beside runs, fun result known => ih result (rest result known)⟩
  | wait action next dropped ih ihDropped =>
      obtain ⟨⟨M, runs, rest⟩, cleanup⟩ := each
      exact ⟨⟨M, beside runs, fun result known => ih result (rest result known)⟩, ihDropped cleanup⟩
  | loop body start next ihBody ih =>
      obtain ⟨H, M, enter, rounds, rest⟩ := each
      exact ⟨H, M, enter, fun again held => ihBody again (rounds again held),
        fun result known => ih result (rest result known)⟩

theorem Always.hosted (program : Program σ α) :
    (program.hosted τ).Always fun before after => after.2 = before.2 :=
  (Each.hosted (Always.any program)).mono (fun _ _ kept => kept.2) fun _ _ => trivial

end Program

namespace Discipline

variable {σ τ : Type}

/-- A thread by itself that keeps `J` between the shared state and its record, while the others do
what `D` lets it rely on. -/
def recording (D : Discipline σ) (guest : Nat) (J : σ → τ → Prop) : Discipline (σ × τ) where
  invariant x := J x.1 x.2
  rely thread before after := thread = guest → D.rely guest before.1 after.1 ∧ after.2 = before.2
  resting _ _ := True
  resting_stable _ _ _ _ _ _ resting := resting

variable {D : Discipline σ} {guest : Nat} {J : σ → τ → Prop} {α β : Type} {P : σ × τ → Prop}

theorem recording_guarantee (before after : σ × τ) :
    (D.recording guest J).Guarantee guest before after :=
  fun _ other mine => absurd mine other

theorem recording_stable {P : σ → τ → Prop}
    (stable : ∀ before after memory, D.rely guest before after → P before memory → P after memory) :
    (D.recording guest J).Stable guest fun x => P x.1 x.2 := by
  intro before after _ _ relied held
  obtain ⟨relied, same⟩ := relied rfl
  rw [same]
  exact stable _ _ _ relied held

theorem Spec.of_each {K : σ × τ → σ × τ → Prop} {program : Program (σ × τ) α} {Q : α → Prop}
    (each : program.Each K Q) (stable : (D.recording guest J).Stable guest P)
    (keeps : ∀ before after, K before after → J before.1 before.2 → P before →
      J after.1 after.2 ∧ P after) :
    (D.recording guest J).Spec guest program P fun value x => Q value ∧ P x := by
  have runs : ∀ {δ : Type} {action : Pick → σ × τ → Option (δ × σ × τ)} {M : δ → Prop},
      (∀ pick s result after, action pick s = some (result, after) → K s after ∧ M result) →
      (D.recording guest J).Runs guest action P fun result x => M result ∧ P x := by
    intro δ action M each x choice result after ok held ran
    obtain ⟨kept, known⟩ := each _ x result after ran
    obtain ⟨ok', held'⟩ := keeps x after kept ok held
    exact ⟨ok', recording_guarantee x after, known, held'⟩
  induction program with
  | done value => exact fun x _ held => ⟨each, held⟩
  | atomic action next ih =>
      obtain ⟨M, bounded, rest⟩ := each
      exact ⟨P, fun result x => M result ∧ P x, fun _ _ held => held, stable, runs bounded,
        fun result => .given fun known => ih result (rest result known)⟩
  | wait action next dropped ih ihDropped =>
      obtain ⟨⟨M, bounded, rest⟩, cleanup⟩ := each
      exact ⟨P, fun result x => M result ∧ P x, fun _ _ held => held, stable, runs bounded,
        fun result => .given fun known => ih result (rest result known),
        (ihDropped cleanup).post fun _ _ _ _ => trivial⟩
  | loop body start next ihBody ih =>
      obtain ⟨H, M, enter, rounds, rest⟩ := each
      refine ⟨fun again x => H again ∧ P x, fun result x => M result ∧ P x,
        fun _ _ held => ⟨enter, held⟩, fun again => (Kept.const _).and stable,
        fun again => .given fun known => (ihBody again (rounds again known)).post ?_,
        fun result => .given fun known => ih result (rest result known)⟩
      intro value x _ held
      cases value <;> exact held

def RunsNoted (guest : Nat) (J : σ → τ → Prop) (note : β → σ → τ → τ)
    (action : Pick → σ → Option (β × σ)) (P : σ × τ → Prop) (M : β → σ × τ → Prop) : Prop :=
  ∀ s memory choice result after, J s memory → P (s, memory) →
    action ⟨guest, choice⟩ s = some (result, after) →
      J after (note result after memory) ∧ M result (after, note result after memory)

theorem RunsNoted.runs {note : β → σ → τ → τ} {action : Pick → σ → Option (β × σ)}
    {M : β → σ × τ → Prop} (runs : RunsNoted guest J note action P M) :
    (D.recording guest J).Runs guest (fun pick x => (action pick x.1).map fun ran =>
      (ran.1, ran.2, note ran.1 ran.2 x.2)) P M := by
  intro x choice result after ok held ran
  obtain ⟨⟨answer, s⟩, acted, same⟩ := Option.map_eq_some_iff.mp ran
  obtain ⟨rfl, rfl⟩ := Prod.mk.injEq .. ▸ same
  obtain ⟨ok', held'⟩ := runs x.1 x.2 choice answer s ok held acted
  exact ⟨ok', recording_guarantee _ _, held'⟩

theorem Spec.noted_atomic {action : Pick → σ → Option (β × σ)} {next : β → Program σ α}
    {note : α → σ → τ → τ} {cleanup : Program (σ × τ) Unit} {M : β → σ × τ → Prop}
    {Q : α → σ × τ → Prop} (stable : (D.recording guest J).Stable guest P)
    (runs : RunsNoted guest J (fun result => Program.noteAnswer note (next result)) action P M)
    (rest : ∀ result, (D.recording guest J).Spec guest ((next result).noted note cleanup)
      (M result) Q) :
    (D.recording guest J).Spec guest ((Program.atomic action next).noted note cleanup) P Q :=
  ⟨P, M, fun _ _ held => held, stable, runs.runs, rest⟩

theorem Spec.noted_wait {action : Pick → σ → Option (β × σ)} {next : β → Program σ α}
    {note : α → σ → τ → τ} {cleanup : Program (σ × τ) Unit} {dropped : Program σ Unit}
    {M : β → σ × τ → Prop} {Q : α → σ × τ → Prop}
    (stable : (D.recording guest J).Stable guest P)
    (runs : RunsNoted guest J (fun result => Program.noteAnswer note (next result)) action P M)
    (rest : ∀ result, (D.recording guest J).Spec guest ((next result).noted note cleanup)
      (M result) Q)
    (spec : (D.recording guest J).Spec guest cleanup P fun _ _ => True) :
    (D.recording guest J).Spec guest ((Program.wait action next dropped).noted note cleanup) P Q :=
  ⟨P, M, fun _ _ held => held, stable, runs.runs, rest, spec⟩

theorem Spec.hosted_bind {program : Program σ α} {f : α → Program σ β} {M : α → σ × τ → Prop}
    {Q : β → σ × τ → Prop} (spec : (D.recording guest J).Spec guest (program.hosted τ) P M)
    (rest : ∀ value, (D.recording guest J).Spec guest ((f value).hosted τ) (M value) Q) :
    (D.recording guest J).Spec guest ((program >>= f).hosted τ) P Q := by
  change (D.recording guest J).Spec guest ((program.bind f).hosted τ) P Q
  rw [Program.hosted_bind]
  exact .bind spec rest

theorem Spec.hosted_act {action : Pick → σ → Option (β × σ)} {Q : β → σ × τ → Prop}
    (stable : (D.recording guest J).Stable guest P)
    (runs : RunsNoted guest J (fun _ _ memory => memory) action P Q) :
    (D.recording guest J).Spec guest ((Program.act action).hosted τ) P Q :=
  ⟨P, Q, fun _ _ held => held, stable, runs.runs, fun _ => .done fun _ _ held => held⟩

theorem Spec.hosted_modify {f : σ → σ} {Q : Unit → σ × τ → Prop}
    (stable : (D.recording guest J).Stable guest P)
    (runs : ∀ s memory, J s memory → P (s, memory) → J (f s) memory ∧ Q () (f s, memory)) :
    (D.recording guest J).Spec guest ((Program.modify f).hosted τ) P Q := by
  refine .hosted_act stable fun s memory choice result after ok held ran => ?_
  obtain ⟨_, rfl⟩ := Prod.mk.injEq .. ▸ Option.some.inj ran
  exact runs s memory ok held

theorem Spec.noteFirst {action : Pick → σ → Option (β × σ)} {next : β → Program σ α}
    {note : σ → τ → τ} {K : σ → σ → Prop} {Q : α → Prop} {R : σ × τ → Prop}
    (each : (Program.atomic action next).Each K Q)
    (stable : (D.recording guest J).Stable guest P) (lasts : (D.recording guest J).Stable guest R)
    (first : ∀ s after memory, K s after → J s memory → P (s, memory) →
      J after (note after memory) ∧ R (after, note after memory))
    (keeps : ∀ s after memory, K s after → J s memory → R (s, memory) →
      J after memory ∧ R (after, memory)) :
    (D.recording guest J).Spec guest ((Program.atomic action next).noteFirst note) P
      fun value x => Q value ∧ R x := by
  obtain ⟨M, bounded, rest⟩ := each
  have noted : RunsNoted guest J (fun _ => note) action P fun result x => M result ∧ R x := by
    intro s memory choice result after ok held ran
    obtain ⟨kept, known⟩ := bounded _ s result after ran
    obtain ⟨ok', held'⟩ := first s after memory kept ok held
    exact ⟨ok', known, held'⟩
  refine ⟨P, fun result x => M result ∧ R x, fun _ _ held => held, stable, noted.runs, fun result =>
    .given fun known => .of_each (rest result known).hosted lasts fun before after step ok held => ?_⟩
  obtain ⟨kept, same⟩ := step
  have kept' := keeps before.1 after.1 before.2 kept ok held
  rw [← same] at kept'
  exact kept'

theorem Spec.noteAct {note : β → σ → τ → τ} {action : Pick → σ → Option (β × σ)}
    {Q : β → σ × τ → Prop} (stable : (D.recording guest J).Stable guest P)
    (runs : RunsNoted guest J note action P Q) :
    (D.recording guest J).Spec guest (.noteAct note action) P Q :=
  .noted_atomic stable runs fun _ => .done fun _ _ held => held

theorem Spec.noteModify {note : σ → τ → τ} {f : σ → σ} {Q : Unit → σ × τ → Prop}
    (stable : (D.recording guest J).Stable guest P)
    (runs : ∀ s memory, J s memory → P (s, memory) →
      J (f s) (note (f s) memory) ∧ Q () (f s, note (f s) memory)) :
    (D.recording guest J).Spec guest (.noteModify note f) P Q := by
  refine .noteAct stable fun s memory choice result after ok held ran => ?_
  obtain ⟨_, rfl⟩ := Prod.mk.injEq .. ▸ Option.some.inj ran
  exact runs s memory ok held

end Discipline

namespace Config

variable {σ τ ε : Type} {D : Discipline σ} {guest : Nat} {J : σ → τ → Prop}
  {environment : ε → σ → Option σ}

/-- `w` is `c` with a record of thread `guest`. -/
structure Shadows (guest : Nat) (w : Config (σ × τ)) (c : Config σ) : Prop where
  shared : w.shared.1 = c.shared
  recorded : (w.threads guest).Erases (c.threads guest)
  others : ∀ thread, thread ≠ guest → w.threads thread = (c.threads thread).hosted τ

theorem Shadows.host {c : Config σ} {memory : τ} {program : Program (σ × τ) Unit}
    (erases : program.Erases (c.threads guest)) : (c.host guest memory program).Shadows guest c where
  shared := rfl
  recorded := by
    rw [host_guest]
    exact erases
  others thread different := host_other c memory program different

theorem Shadows.update {w : Config (σ × τ)} {c : Config σ} (shadows : w.Shadows guest c)
    {thread : Nat} {shared : σ × τ} {shared' : σ} {recorded : Program (σ × τ) Unit}
    {program : Program σ Unit} (same : shared.1 = shared')
    (mine : thread = guest → recorded.Erases program)
    (other : thread ≠ guest → recorded = program.hosted τ) :
    Config.Shadows guest
      { shared, threads := Function.update w.threads thread recorded }
      { shared := shared', threads := Function.update c.threads thread program } where
  shared := same
  recorded := by
    by_cases same : guest = thread
    · subst same
      simpa using mine rfl
    · simpa [Function.update_of_ne same] using shadows.recorded
  others another different := by
    by_cases same : another = thread
    · subst same
      simpa using other different
    · simpa [Function.update_of_ne same] using shadows.others another different

/-- The run and its recorded run are the same, move by move. -/
theorem Shadows.move {w : Config (σ × τ)} {c : Config σ} (shadows : w.Shadows guest c) (m : Move ε) :
    Option.Rel (Shadows guest) (w.move (beside τ environment) m) (c.move environment m) := by
  obtain ⟨⟨s, memory⟩, threads⟩ := w
  obtain rfl : s = c.shared := shadows.shared
  cases m with
  | run pick =>
      by_cases mine : pick.thread = guest
      · have recorded : (threads pick.thread).Erases (c.threads pick.thread) := mine ▸ shadows.recorded
        refine (recorded.step pick (c.shared, memory)).map fun _ _ stepped => ?_
        exact shadows.update stepped.2 (fun _ => stepped.1) fun other => absurd mine other
      · have hosted : threads pick.thread = (c.threads pick.thread).hosted τ := shadows.others _ mine
        simp only [Config.move, hosted, Program.hosted_step, Option.map_map]
        exact .same fun stepped => shadows.update rfl (fun same => absurd same mine) fun _ => rfl
  | drop thread =>
      by_cases mine : thread = guest
      · have recorded : (threads thread).Erases (c.threads thread) := mine ▸ shadows.recorded
        refine recorded.drop.map fun _ _ dropped => ?_
        exact shadows.update rfl (fun _ => dropped) fun other => absurd mine other
      · have hosted : threads thread = (c.threads thread).hosted τ := shadows.others _ mine
        simp only [Config.move, hosted, Program.hosted_drop, Option.map_map]
        exact .same fun dropped => shadows.update rfl (fun same => absurd same mine) fun _ => rfl
  | environment event =>
      simp only [Config.move, beside, Option.map_map]
      exact .same fun after => ⟨rfl, shadows.recorded, shadows.others⟩

theorem Shadows.run {w : Config (σ × τ)} {c : Config σ} (shadows : w.Shadows guest c)
    (moves : List (Move ε)) :
    Option.Rel (Shadows guest) (w.run (beside τ environment) moves) (c.run environment moves) := by
  induction moves generalizing w c with
  | nil => exact .some shadows
  | cons m rest ih =>
      have moved : Option.Rel (Shadows guest) (w.move (beside τ environment) m)
          (c.move environment m) := shadows.move m
      simp only [Config.run]
      generalize w.move (beside τ environment) m = first, c.move environment m = second at moved
      cases moved with
      | none => exact .none
      | some shadows => exact ih shadows

theorem moved_beside {w next : Config (σ × τ)} {c : Config σ} {m : Move ε}
    (shadows : w.Shadows guest c) (other : m.actor ≠ some guest)
    (moved : w.move (beside τ environment) m = some next) :
    next.shared.2 = w.shared.2 ∧ next.threads guest = w.threads guest := by
  cases m with
  | run pick =>
      have different : guest ≠ pick.thread := fun same => other (congrArg some same.symm)
      obtain ⟨⟨program, after⟩, ran, rfl⟩ := Option.map_eq_some_iff.mp moved
      rw [shadows.others _ different.symm, Program.hosted_step] at ran
      obtain ⟨stepped, _, same⟩ := Option.map_eq_some_iff.mp ran
      obtain ⟨rfl, rfl⟩ := Prod.mk.injEq .. ▸ same
      exact ⟨rfl, Function.update_of_ne different _ _⟩
  | drop thread =>
      have different : guest ≠ thread := fun same => other (congrArg some same.symm)
      obtain ⟨program, _, rfl⟩ := Option.map_eq_some_iff.mp moved
      exact ⟨rfl, Function.update_of_ne different _ _⟩
  | environment event =>
      obtain ⟨after, happened, rfl⟩ := Option.map_eq_some_iff.mp moved
      obtain ⟨s, _, rfl⟩ := Option.map_eq_some_iff.mp happened
      exact ⟨rfl, rfl⟩

def Guided (D : Discipline σ) (guest : Nat) (J : σ → τ → Prop) (w : Config (σ × τ)) : Prop :=
  J w.shared.1 w.shared.2 ∧ ∃ P, (D.recording guest J).Stable guest P ∧ P w.shared ∧
    (D.recording guest J).Spec guest (w.threads guest) P fun _ _ => True

theorem Guided.relied {w next : Config (σ × τ)} (guided : w.Guided D guest J)
    (persists : ∀ before after memory, D.rely guest before after → J before memory → J after memory)
    (relied : D.rely guest w.shared.1 next.shared.1 ∨ next.shared.1 = w.shared.1)
    (memory : next.shared.2 = w.shared.2) (mine : next.threads guest = w.threads guest) :
    next.Guided D guest J := by
  obtain ⟨ok, P, stable, held, spec⟩ := guided
  rcases relied with relied | unchanged
  · have ok' : J next.shared.1 next.shared.2 := memory ▸ persists _ _ _ relied ok
    exact ⟨ok', P, stable, stable _ _ ok ok' (fun _ => ⟨relied, memory⟩) held, mine ▸ spec⟩
  · have same : next.shared = w.shared := Prod.ext unchanged memory
    exact ⟨same ▸ ok, P, stable, same ▸ held, mine ▸ spec⟩

theorem Guided.step {w : Config (σ × τ)} {program : Program (σ × τ) Unit} {after : σ × τ}
    {choice : Nat} (guided : w.Guided D guest J)
    (stepped : (w.threads guest).step ⟨guest, choice⟩ w.shared = some (program, after)) :
    Guided D guest J { shared := after, threads := Function.update w.threads guest program } := by
  obtain ⟨ok, P, stable, held, spec⟩ := guided
  obtain ⟨ok', _, M, ended, rest⟩ := spec.step ok held stepped
  refine ⟨ok', ?_⟩
  simp only [Function.update_self]
  exact rest.stabilize ok' ended

theorem Guided.drop {w : Config (σ × τ)} {program : Program (σ × τ) Unit}
    (guided : w.Guided D guest J) (drops : (w.threads guest).drop = some program) :
    Guided D guest J { w with threads := Function.update w.threads guest program } := by
  obtain ⟨ok, P, stable, held, spec⟩ := guided
  obtain ⟨M, ended, rest⟩ := spec.drop ok held drops
  refine ⟨ok, ?_⟩
  simp only [Function.update_self]
  exact rest.stabilize ok ended

theorem Guided.move {w next : Config (σ × τ)} {c : Config σ} {m : Move ε}
    (env : ∀ event s after, D.invariant s → environment event s = some after →
      D.invariant after ∧ D.Neutral s after)
    (persists : ∀ before after memory, D.rely guest before after → J before memory → J after memory)
    (guided : w.Guided D guest J) (shadows : w.Shadows guest c) (covered : c.Covered D)
    (moved : w.move (beside τ environment) m = some next) :
    ∃ c', c.move environment m = some c' ∧ next.Shadows guest c' ∧ next.Guided D guest J := by
  have both : Option.Rel (Shadows guest) (w.move (beside τ environment) m)
      (c.move environment m) := shadows.move m
  rw [moved] at both
  generalize stepped : c.move environment m = other at both
  cases both with
  | @some _ c' shadows' =>
      refine ⟨c', rfl, shadows', ?_⟩
      by_cases mine : m.actor = some guest
      · cases m with
        | run pick =>
            obtain ⟨⟨program, after⟩, ran, rfl⟩ := Option.map_eq_some_iff.mp moved
            obtain ⟨thread, choice⟩ := pick
            obtain rfl : thread = guest := Option.some.inj mine
            exact guided.step ran
        | drop thread =>
            obtain ⟨program, drops, rfl⟩ := Option.map_eq_some_iff.mp moved
            obtain rfl : thread = guest := Option.some.inj mine
            exact guided.drop drops
        | environment event => cases mine
      · have relied := (covered.move env stepped).2 guest mine
        rw [← shadows.shared, ← shadows'.shared] at relied
        obtain ⟨memory, threads⟩ := moved_beside shadows mine moved
        exact guided.relied persists relied memory threads

/-- What is proved of the guest beside its record holds in every interleaving. -/
theorem Guided.run {w final : Config (σ × τ)} {c : Config σ} {moves : List (Move ε)}
    (env : ∀ event s after, D.invariant s → environment event s = some after →
      D.invariant after ∧ D.Neutral s after)
    (persists : ∀ before after memory, D.rely guest before after → J before memory → J after memory)
    (guided : w.Guided D guest J) (shadows : w.Shadows guest c) (covered : c.Covered D)
    (ran : w.run (beside τ environment) moves = some final) :
    ∃ c', c.run environment moves = some c' ∧ final.Shadows guest c' ∧ final.Guided D guest J := by
  induction moves generalizing w c with
  | nil =>
      obtain rfl := Option.some.inj ran
      exact ⟨c, rfl, shadows, guided⟩
  | cons m rest ih =>
      obtain ⟨next, moved, ran⟩ := Option.bind_eq_some_iff.mp ran
      obtain ⟨c', stepped, shadows', guided'⟩ := guided.move env persists shadows covered moved
      obtain ⟨final', ended, further⟩ := ih guided' shadows' (covered.move env stepped).1 ran
      refine ⟨final', ?_, further⟩
      rw [Config.run, stepped]
      exact ended

end Config

end Interleaving
