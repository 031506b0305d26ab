import PolicyGate.Interleaving.Alone

namespace Interleaving

/-! One program that is served from outside and otherwise runs alone.

`early` is what may happen before an action of the program, `late` what may happen while it
waits.  `Settles` is total correctness: whatever happens and whatever the program chooses, it never
stands still for good, and it ends in states where `Q` holds.
-/

namespace Program

variable {σ α β γ : Type} {early late : σ → σ → Prop} {me : Nat} {s final : σ}
  {Q Q' : α → σ → Prop}

inductive Settles (early late : σ → σ → Prop) (me : Nat) :
    {α : Type} → Program σ α → (α → σ → Prop) → σ → Prop where
  | done {α : Type} {value : α} {Q : α → σ → Prop} {s : σ} (held : Q value s) :
      Settles early late me (.done value) Q s
  | atomic {α β : Type} {action : Pick → σ → Option (β × σ)} {next : β → Program σ α}
      {Q : α → σ → Prop} {s : σ}
      (live : (∃ choice, (action ⟨me, choice⟩ s).isSome = true) ∨ ∃ served, early s served)
      (each : ∀ choice result after, action ⟨me, choice⟩ s = some (result, after) →
        Settles early late me (next result) Q after)
      (serves : ∀ served, early s served → Settles early late me (.atomic action next) Q served) :
      Settles early late me (.atomic action next) Q s
  | wait {α β : Type} {action : Pick → σ → Option (β × σ)} {next : β → Program σ α}
      {dropped : Program σ Unit} {Q : α → σ → Prop} {s : σ}
      (live : (∃ choice, (action ⟨me, choice⟩ s).isSome = true) ∨ ∃ served, late s served)
      (each : ∀ choice result after, action ⟨me, choice⟩ s = some (result, after) →
        Settles early late me (next result) Q after)
      (serves : ∀ served, late s served →
        Settles early late me (.wait action next dropped) Q served) :
      Settles early late me (.wait action next dropped) Q s
  | loop {α β γ : Type} {body : γ → Program σ (γ ⊕ β)} {start : γ} {next : β → Program σ α}
      {Q : α → σ → Prop} {s : σ}
      (round : Settles early late me
        ((body start).bind (Sum.elim (fun again => .loop body again next) next)) Q s) :
      Settles early late me (.loop body start next) Q s

/-- The program ran to its end, served from outside. -/
inductive Served (early late : σ → σ → Prop) (me : Nat) :
    {α : Type} → Program σ α → σ → α → σ → Prop where
  | done {α : Type} {value : α} {s : σ} : Served early late me (.done value) s value s
  | atomic {α β : Type} {action : Pick → σ → Option (β × σ)} {next : β → Program σ α}
      {choice : Nat} {result : β} {value : α} {s after final : σ}
      (ran : action ⟨me, choice⟩ s = some (result, after))
      (rest : Served early late me (next result) after value final) :
      Served early late me (.atomic action next) s value final
  | before {α β : Type} {action : Pick → σ → Option (β × σ)} {next : β → Program σ α}
      {value : α} {s served final : σ} (serves : early s served)
      (rest : Served early late me (.atomic action next) served value final) :
      Served early late me (.atomic action next) s value final
  | wait {α β : Type} {action : Pick → σ → Option (β × σ)} {next : β → Program σ α}
      {dropped : Program σ Unit} {choice : Nat} {result : β} {value : α} {s after final : σ}
      (ran : action ⟨me, choice⟩ s = some (result, after))
      (rest : Served early late me (next result) after value final) :
      Served early late me (.wait action next dropped) s value final
  | meanwhile {α β : Type} {action : Pick → σ → Option (β × σ)} {next : β → Program σ α}
      {dropped : Program σ Unit} {value : α} {s served final : σ} (serves : late s served)
      (rest : Served early late me (.wait action next dropped) served value final) :
      Served early late me (.wait action next dropped) s value final
  | loop {α β γ : Type} {body : γ → Program σ (γ ⊕ β)} {start : γ} {next : β → Program σ α}
      {value : α} {s final : σ}
      (rest : Served early late me
        ((body start).bind (Sum.elim (fun again => .loop body again next) next)) s value final) :
      Served early late me (.loop body start next) s value final

theorem Solo.served {program : Program σ α} {value : α} (ran : program.Solo me s value final) :
    program.Served early late me s value final := by
  induction ran with
  | done => exact .done
  | atomic ran _ ih => exact .atomic ran ih
  | wait ran _ ih => exact .wait ran ih
  | loop _ ih => exact .loop ih

theorem Served.act {action : Pick → σ → Option (β × σ)} (choice : Nat) {result : β} {after : σ}
    (ran : action ⟨me, choice⟩ s = some (result, after)) :
    (Program.act action).Served early late me s result after := .atomic ran .done

theorem Served.await {action : Pick → σ → Option (β × σ)} (choice : Nat) {result : β} {after : σ}
    (ran : action ⟨me, choice⟩ s = some (result, after)) :
    (Program.await action).Served early late me s result after := .wait ran .done

theorem Served.read {view : σ → Option β} {value : β} (viewed : view s = some value) :
    (Program.read view).Served early late me s value s :=
  .act 0 (by rw [viewed]; rfl)

theorem Served.bind {program : Program σ α} {f : α → Program σ β} {value : α} {answer : β} {last : σ}
    (ran : program.Served early late me s value final)
    (rest : (f value).Served early late me final answer last) :
    (program >>= f).Served early late me s answer last := by
  change (program.bind f).Served early late me s answer last
  induction ran with
  | done => exact rest
  | atomic ran _ ih => exact .atomic ran (ih rest)
  | before serves _ ih => exact .before serves (ih rest)
  | wait ran _ ih => exact .wait ran (ih rest)
  | meanwhile serves _ ih => exact .meanwhile serves (ih rest)
  | loop _ ih =>
      refine .loop ?_
      have round := ih rest
      rw [bind_bind] at round
      refine (congrArg (fun rest => Served early late me (Program.bind _ rest) _ _ _)
        (funext fun value => ?_)).mp round
      cases value <;> rfl

theorem Served.stuck {action : Pick → σ → Option (β × σ)} {f : β → Program σ α} {value : α}
    (ran : (Program.act action >>= f).Served early late me s value final)
    (disabled : ∀ choice, action ⟨me, choice⟩ s = none) (quiet : ∀ served, ¬ early s served) : False := by
  change Served early late me (.atomic action _) s value final at ran
  cases ran with
  | atomic ran _ =>
      rw [disabled] at ran
      cases ran
  | before serves _ => exact quiet _ serves

def Waitless : {α : Type} → Program σ α → Prop
  | _, .done _ => True
  | _, .atomic _ next => ∀ result, Waitless (next result)
  | _, .wait _ _ _ => False
  | _, .loop body _ next => (∀ again, Waitless (body again)) ∧ ∀ result, Waitless (next result)

namespace Waitless

theorem bind {program : Program σ α} {f : α → Program σ β} (first : program.Waitless)
    (rest : ∀ value, (f value).Waitless) : (program >>= f).Waitless := by
  change (program.bind f).Waitless
  induction program with
  | done value => exact rest value
  | atomic action next ih => exact fun result => ih result (first result) rest
  | wait action next dropped ih => exact first
  | loop body start next _ ih => exact ⟨first.1, fun result => ih result (first.2 result) rest⟩

theorem done {value : α} : (Program.done value : Program σ α).Waitless := trivial

theorem act {action : Pick → σ → Option (β × σ)} : (Program.act action).Waitless := fun _ => trivial

theorem iterate {start : γ} {body : γ → Program σ (γ ⊕ β)} (rounds : ∀ again, (body again).Waitless) :
    (Program.iterate start body).Waitless := ⟨rounds, fun _ => trivial⟩

theorem ite {test : Prop} [Decidable test] {first second : Program σ α} (holds : first.Waitless)
    (fails : second.Waitless) : (if test then first else second).Waitless := by
  split
  · exact holds
  · exact fails

end Waitless

namespace Settles

theorem mono {program : Program σ α} (settles : program.Settles early late me Q s)
    (post : ∀ value after, Q value after → Q' value after) : program.Settles early late me Q' s := by
  induction settles with
  | done held => exact .done (post _ _ held)
  | atomic live _ _ each serves =>
      exact .atomic live (fun choice result after ran => each choice result after ran post)
        fun served early => serves served early post
  | wait live _ _ each serves =>
      exact .wait live (fun choice result after ran => each choice result after ran post)
        fun served late => serves served late post
  | loop _ ih => exact .loop (ih post)

theorem bind {program : Program σ α} {f : α → Program σ β} {Q : β → σ → Prop}
    (settles : program.Settles early late me
      (fun value after => (f value).Settles early late me Q after) s) :
    (program >>= f).Settles early late me Q s := by
  change (program.bind f).Settles early late me Q s
  generalize same : (fun value after => (f value).Settles early late me Q after) = M at settles
  induction settles with
  | done held =>
      subst same
      exact held
  | atomic live _ _ each serves =>
      exact .atomic live (fun choice result after ran => each choice result after ran same)
        fun served early => serves served early same
  | wait live _ _ each serves =>
      exact .wait live (fun choice result after ran => each choice result after ran same)
        fun served late => serves served late same
  | loop _ ih =>
      refine .loop ?_
      have round := ih same
      rw [bind_bind] at round
      refine (congrArg (fun rest => Settles early late me (Program.bind _ rest) Q _)
        (funext fun value => ?_)).mp round
      cases value <;> rfl

theorem iterate {start : γ} {body : γ → Program σ (γ ⊕ β)} {Q : β → σ → Prop}
    (round : (body start).Settles early late me
      (fun value after => Sum.elim
        (fun again => (Program.iterate again body).Settles early late me Q after)
        (fun result => Q result after) value) s) :
    (Program.iterate start body).Settles early late me Q s := by
  refine .loop (bind (round.mono fun value after held => ?_))
  cases value with
  | inl again => exact held
  | inr result => exact .done held

theorem always {action : Pick → σ → Option (β × σ)} {Q : β → σ → Prop}
    (quiet : ∀ served, ¬ early s served) (result : β) (after : σ)
    (ran : ∀ choice, action ⟨me, choice⟩ s = some (result, after)) (held : Q result after) :
    (Program.act action).Settles early late me Q s := by
  refine .atomic (.inl ⟨0, by rw [ran 0]; rfl⟩) (fun choice result' after' ran' => ?_)
    fun served early => absurd early (quiet served)
  rw [ran choice] at ran'
  cases ran'
  exact .done held

theorem read {view : σ → Option β} {Q : β → σ → Prop} (quiet : ∀ served, ¬ early s served)
    (value : β) (viewed : view s = some value) (held : Q value s) :
    (Program.read view).Settles early late me Q s :=
  always quiet value s (fun choice => by rw [viewed]; rfl) held

theorem served {program : Program σ α} {value : α} (settles : program.Settles early late me Q s)
    (ran : program.Served early late me s value final) : Q value final := by
  induction ran with
  | done =>
      cases settles with
      | done held => exact held
  | atomic ran _ ih =>
      cases settles with
      | atomic _ each _ => exact ih (each _ _ _ ran)
  | before early _ ih =>
      cases settles with
      | atomic _ _ serves => exact ih (serves _ early)
  | wait ran _ ih =>
      cases settles with
      | wait _ each _ => exact ih (each _ _ _ ran)
  | meanwhile late _ ih =>
      cases settles with
      | wait _ _ serves => exact ih (serves _ late)
  | loop _ ih =>
      cases settles with
      | loop round => exact ih round

theorem exists_served {program : Program σ α} (settles : program.Settles early late me Q s) :
    ∃ value final, program.Served early late me s value final ∧ Q value final := by
  induction settles with
  | done held => exact ⟨_, _, .done, held⟩
  | atomic live _ _ each serves =>
      rcases live with ⟨choice, enabled⟩ | ⟨served, early⟩
      · obtain ⟨⟨result, after⟩, ran⟩ := Option.isSome_iff_exists.mp enabled
        obtain ⟨value, final, rest, held⟩ := each choice result after ran
        exact ⟨value, final, .atomic ran rest, held⟩
      · obtain ⟨value, final, rest, held⟩ := serves served early
        exact ⟨value, final, .before early rest, held⟩
  | wait live _ _ each serves =>
      rcases live with ⟨choice, enabled⟩ | ⟨served, late⟩
      · obtain ⟨⟨result, after⟩, ran⟩ := Option.isSome_iff_exists.mp enabled
        obtain ⟨value, final, rest, held⟩ := each choice result after ran
        exact ⟨value, final, .wait ran rest, held⟩
      · obtain ⟨value, final, rest, held⟩ := serves served late
        exact ⟨value, final, .meanwhile late rest, held⟩
  | loop _ ih =>
      obtain ⟨value, final, rest, held⟩ := ih
      exact ⟨value, final, .loop rest, held⟩

/-- Where a whole program settles, so does what is left of it after a run of its first part. -/
theorem rest {program : Program σ α} {f : α → Program σ β} {Q : β → σ → Prop} {value : α}
    (settles : (program.bind f).Settles early late me Q s)
    (ran : program.Served early late me s value final) :
    (f value).Settles early late me Q final := by
  induction ran with
  | done => exact settles
  | atomic ran _ ih =>
      cases settles with
      | atomic _ each _ => exact ih (each _ _ _ ran)
  | before early _ ih =>
      cases settles with
      | atomic _ _ serves => exact ih (serves _ early)
  | wait ran _ ih =>
      cases settles with
      | wait _ each _ => exact ih (each _ _ _ ran)
  | meanwhile late _ ih =>
      cases settles with
      | wait _ _ serves => exact ih (serves _ late)
  | loop _ ih =>
      cases settles with
      | loop round =>
          refine ih ?_
          rw [bind_bind]
          refine (congrArg (fun rest => Settles early late me (Program.bind _ rest) Q _)
            (funext fun value => ?_)).mp round
          cases value <;> rfl

theorem within {program : Program σ α} {f : α → Program σ β} {rest : β → Program σ γ}
    {Q : γ → σ → Prop} {value : α}
    (settles : ((program >>= f).bind rest).Settles early late me Q s)
    (ran : program.Served early late me s value final) :
    ((f value).bind rest).Settles early late me Q final := by
  refine Settles.rest (f := fun value => (f value).bind rest) ?_ ran
  rw [← bind_bind]
  exact settles

theorem through {program : Program σ α} {f : α → Program σ β} {rest : β → Program σ γ}
    {Q : γ → σ → Prop} (settles : ((program >>= f).bind rest).Settles early late me Q s)
    (first : program.Settles early late me Q' s) :
    ∃ value after, Q' value after ∧ ((f value).bind rest).Settles early late me Q after := by
  obtain ⟨value, after, ran, held⟩ := first.exists_served
  exact ⟨value, after, held, settles.within ran⟩

theorem ends {program : Program σ α}
    (settles : program.Settles (fun _ _ => False) (fun _ _ => False) me Q s) : program.Ends me Q s := by
  induction settles with
  | done held => exact .done held
  | atomic live _ _ each _ =>
      exact .atomic (live.resolve_right fun served => served.elim fun _ never => never) each
  | wait live _ _ each _ =>
      exact .wait (live.resolve_right fun served => served.elim fun _ never => never) each
  | loop _ ih => exact .loop ih

end Settles

theorem Ends.settles {program : Program σ α} (quiet : ∀ s served, ¬ early s served)
    (ends : program.Ends me Q s) (waitless : program.Waitless) :
    program.Settles early late me Q s := by
  induction ends with
  | done held => exact .done held
  | atomic enabled _ ih =>
      exact .atomic (.inl enabled)
        (fun choice result after ran => ih choice result after ran (waitless result))
        fun served early => absurd early (quiet _ served)
  | wait _ _ _ => exact waitless.elim
  | loop _ ih =>
      refine .loop (ih (Waitless.bind (waitless.1 _) fun value => ?_))
      cases value with
      | inl again => exact waitless
      | inr result => exact waitless.2 result

end Program

end Interleaving
