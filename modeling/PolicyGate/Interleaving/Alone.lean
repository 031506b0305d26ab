import PolicyGate.Interleaving.Frame

namespace Interleaving

/-! One program that runs alone.

`Ends` is total correctness of a run in which no other thread moves: the program
never stops short, whatever it chooses, and ends in states where `Q` holds.
-/

namespace Program

variable {σ α β γ : Type} {me : Nat} {s : σ} {P : σ → Prop} {Q Q' : α → σ → Prop}

theorem bind_bind (program : Program σ α) (f : α → Program σ β) (g : β → Program σ γ) :
    (program.bind f).bind g = program.bind fun value => (f value).bind g := by
  induction program with
  | done value => rfl
  | atomic action next ih =>
      simp only [Program.bind, ih]
  | wait action next dropped ih =>
      simp only [Program.bind, ih]
  | loop body start next _ ih =>
      simp only [Program.bind, ih]

/-- Whatever it chooses, thread `me` runs the program alone to its end, and `Q` holds there. -/
inductive Ends (me : Nat) : {α : Type} → Program σ α → (α → σ → Prop) → σ → Prop where
  | done {α : Type} {value : α} {Q : α → σ → Prop} {s : σ} (held : Q value s) :
      Ends me (.done value) Q s
  | atomic {α β : Type} {action : Pick → σ → Option (β × σ)} {next : β → Program σ α}
      {Q : α → σ → Prop} {s : σ}
      (enabled : ∃ choice, (action ⟨me, choice⟩ s).isSome = true)
      (each : ∀ choice result after, action ⟨me, choice⟩ s = some (result, after) →
        Ends me (next result) Q after) : Ends me (.atomic action next) Q s
  | wait {α β : Type} {action : Pick → σ → Option (β × σ)} {next : β → Program σ α}
      {dropped : Program σ Unit} {Q : α → σ → Prop} {s : σ}
      (enabled : ∃ choice, (action ⟨me, choice⟩ s).isSome = true)
      (each : ∀ choice result after, action ⟨me, choice⟩ s = some (result, after) →
        Ends me (next result) Q after) : Ends me (.wait action next dropped) Q s
  | loop {α β γ : Type} {body : γ → Program σ (γ ⊕ β)} {start : γ} {next : β → Program σ α}
      {Q : α → σ → Prop} {s : σ}
      (round : Ends me
        ((body start).bind (Sum.elim (fun again => .loop body again next) next)) Q s) :
      Ends me (.loop body start next) Q s

namespace Ends

theorem mono {program : Program σ α} (ends : program.Ends me Q s)
    (post : ∀ value after, Q value after → Q' value after) : program.Ends me Q' s := by
  induction ends with
  | done held => exact .done (post _ _ held)
  | atomic enabled _ ih => exact .atomic enabled fun choice result after ran => ih choice result after ran post
  | wait enabled _ ih => exact .wait enabled fun choice result after ran => ih choice result after ran post
  | loop _ ih => exact .loop (ih post)

theorem bind {program : Program σ α} {f : α → Program σ β} {Q : β → σ → Prop}
    (ends : program.Ends me (fun value after => (f value).Ends me Q after) s) :
    (program >>= f).Ends me Q s := by
  change (program.bind f).Ends me Q s
  generalize same : (fun value after => (f value).Ends me Q after) = M at ends
  induction ends with
  | done held =>
      subst same
      exact held
  | atomic enabled _ ih => exact .atomic enabled fun choice result after ran => ih choice result after ran same
  | wait enabled _ ih => exact .wait enabled fun choice result after ran => ih choice result after ran same
  | loop _ ih =>
      refine .loop ?_
      have round := ih same
      rw [bind_bind] at round
      refine (congrArg (fun rest => Ends me (Program.bind _ rest) Q _) (funext fun value => ?_)).mp round
      cases value <;> rfl

theorem act {action : Pick → σ → Option (β × σ)} {Q : β → σ → Prop}
    (enabled : ∃ choice, (action ⟨me, choice⟩ s).isSome = true)
    (each : ∀ choice result after, action ⟨me, choice⟩ s = some (result, after) → Q result after) :
    (Program.act action).Ends me Q s :=
  .atomic enabled fun choice result after ran => .done (each choice result after ran)

theorem always {action : Pick → σ → Option (β × σ)} {Q : β → σ → Prop} (result : β) (after : σ)
    (ran : ∀ choice, action ⟨me, choice⟩ s = some (result, after)) (held : Q result after) :
    (Program.act action).Ends me Q s := by
  refine .act ⟨0, by rw [ran 0]; rfl⟩ fun choice result' after' ran' => ?_
  rw [ran choice] at ran'
  cases ran'
  exact held

theorem read {view : σ → Option β} {Q : β → σ → Prop} (value : β) (viewed : view s = some value)
    (held : Q value s) : (Program.read view).Ends me Q s :=
  always value s (fun choice => by rw [viewed]; rfl) held

theorem modify {f : σ → σ} {Q : Unit → σ → Prop} (held : Q () (f s)) :
    (Program.modify f).Ends me Q s :=
  always () (f s) (fun _ => rfl) held

theorem iterate {start : γ} {body : γ → Program σ (γ ⊕ β)} {Q : β → σ → Prop}
    (round : (body start).Ends me
      (fun value after => Sum.elim (fun again => (Program.iterate again body).Ends me Q after)
        (fun result => Q result after) value) s) : (Program.iterate start body).Ends me Q s := by
  refine .loop (bind (round.mono fun value after held => ?_))
  cases value with
  | inl again => exact held
  | inr result => exact .done held

theorem descend {body : γ → Program σ (γ ⊕ β)} {I : γ → σ → Prop} {Q : β → σ → Prop}
    (bound : γ → σ → Nat)
    (round : ∀ again s, I again s → (body again).Ends me
      (fun value after => Sum.elim (fun next => I next after ∧ bound next after < bound again s)
        (fun result => Q result after) value) s)
    {start : γ} (enter : I start s) : (Program.iterate start body).Ends me Q s := by
  induction size : bound start s using Nat.strongRecOn generalizing start s with
  | _ n ih =>
      refine iterate ((round start s enter).mono fun value after held => ?_)
      cases value with
      | inl next => exact ih _ (size ▸ held.2) held.1 rfl
      | inr result => exact held

theorem solo {program : Program σ α} {value : α} {final : σ} (ends : program.Ends me Q s)
    (ran : program.Solo me s value final) : Q value final := by
  induction ran with
  | done =>
      cases ends with
      | done held => exact held
  | atomic ran _ ih =>
      cases ends with
      | atomic _ each => exact ih (each _ _ _ ran)
  | wait ran _ ih =>
      cases ends with
      | wait _ each => exact ih (each _ _ _ ran)
  | loop _ ih =>
      cases ends with
      | loop round => exact ih round

theorem exists_solo {program : Program σ α} (ends : program.Ends me Q s) :
    ∃ value final, program.Solo me s value final ∧ Q value final := by
  induction ends with
  | done held => exact ⟨_, _, .done, held⟩
  | atomic enabled _ ih =>
      obtain ⟨choice, enabled⟩ := enabled
      obtain ⟨⟨result, after⟩, ran⟩ := Option.isSome_iff_exists.mp enabled
      obtain ⟨value, final, rest, held⟩ := ih choice result after ran
      exact ⟨value, final, .atomic ran rest, held⟩
  | wait enabled _ ih =>
      obtain ⟨choice, enabled⟩ := enabled
      obtain ⟨⟨result, after⟩, ran⟩ := Option.isSome_iff_exists.mp enabled
      obtain ⟨value, final, rest, held⟩ := ih choice result after ran
      exact ⟨value, final, .wait ran rest, held⟩
  | loop _ ih =>
      obtain ⟨value, final, rest, held⟩ := ih
      exact ⟨value, final, .loop rest, held⟩

end Ends

end Program

end Interleaving
