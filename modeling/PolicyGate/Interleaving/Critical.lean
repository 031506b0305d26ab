import PolicyGate.Interleaving.Frame
import Mathlib.Tactic.Choose

namespace Interleaving

/-! Critical sections: what a program does to a part of the memory that nobody else touches meanwhile.

`Amid` is a run of one program between whose actions the others take whatever steps are in `K`.
`Secures` is partial correctness of such runs, where the others leave what `view` shows as it is.
-/

namespace Program

variable {σ ω α β γ : Type} {K : σ → σ → Prop} {view : σ → ω} {me : Nat}

/-- Thread `me` runs the program from `s` to its end; before each action, and at the end, the others
take a step in `K`. -/
inductive Amid (K : σ → σ → Prop) (me : Nat) : {α : Type} → Program σ α → σ → α → σ → Prop where
  | done {α : Type} {value : α} {s final : σ} (others : K s final) :
      Amid K me (.done value) s value final
  | atomic {α β : Type} {action : Pick → σ → Option (β × σ)} {next : β → Program σ α}
      {s before middle final : σ} {choice : Nat} {result : β} {value : α} (others : K s before)
      (ran : action ⟨me, choice⟩ before = some (result, middle))
      (rest : Amid K me (next result) middle value final) :
      Amid K me (.atomic action next) s value final
  | wait {α β : Type} {action : Pick → σ → Option (β × σ)} {next : β → Program σ α}
      {dropped : Program σ Unit} {s before middle final : σ} {choice : Nat} {result : β} {value : α}
      (others : K s before) (ran : action ⟨me, choice⟩ before = some (result, middle))
      (rest : Amid K me (next result) middle value final) :
      Amid K me (.wait action next dropped) s value final
  | loop {α β γ : Type} {body : γ → Program σ (γ ⊕ β)} {start : γ} {next : β → Program σ α}
      {s final : σ} {value : α}
      (rest : Amid K me ((body start).bind (Sum.elim (fun again => .loop body again next) next))
        s value final) : Amid K me (.loop body start next) s value final

theorem Solo.amid {program : Program σ α} {s final : σ} {value : α} (reflexive : ∀ s, K s s)
    (solo : program.Solo me s value final) : program.Amid K me s value final := by
  induction solo with
  | done => exact .done (reflexive _)
  | atomic ran _ ih => exact .atomic (reflexive _) ran ih
  | wait ran _ ih => exact .wait (reflexive _) ran ih
  | loop _ ih => exact .loop ih

/-- Where the view shows `P`, the program takes it to `Q`. -/
def Secures (view : σ → ω) (me : Nat) :
    {α : Type} → Program σ α → (ω → Prop) → (α → ω → Prop) → Prop
  | _, .done value, P, Q => ∀ seen, P seen → Q value seen
  | _, .atomic action next, P, Q =>
      ∃ M : _ → ω → Prop, (∀ choice s result after, P (view s) →
        action ⟨me, choice⟩ s = some (result, after) → M result (view after)) ∧
        ∀ result, Secures view me (next result) (M result) Q
  | _, .wait action next _, P, Q =>
      ∃ M : _ → ω → Prop, (∀ choice s result after, P (view s) →
        action ⟨me, choice⟩ s = some (result, after) → M result (view after)) ∧
        ∀ result, Secures view me (next result) (M result) Q
  | _, .loop body start next, P, Q =>
      ∃ (H : _ → ω → Prop) (M : _ → ω → Prop), (∀ seen, P seen → H start seen) ∧
        (∀ again, Secures view me (body again) (H again) (Sum.elim H M)) ∧
        ∀ result, Secures view me (next result) (M result) Q

namespace Secures

variable {P P' : ω → Prop}

theorem weaken {program : Program σ α} {Q Q' : α → ω → Prop} (secures : program.Secures view me P Q)
    (pre : ∀ seen, P' seen → P seen) (post : ∀ value seen, Q value seen → Q' value seen) :
    program.Secures view me P' Q' := by
  induction program generalizing P P' with
  | done value => exact fun seen held => post value seen (secures seen (pre seen held))
  | atomic action next ih =>
      obtain ⟨M, runs, rest⟩ := secures
      exact ⟨M, fun choice s result after held => runs choice s result after (pre _ held),
        fun result => ih result (rest result) (fun _ held => held) post⟩
  | wait action next dropped ih =>
      obtain ⟨M, runs, rest⟩ := secures
      exact ⟨M, fun choice s result after held => runs choice s result after (pre _ held),
        fun result => ih result (rest result) (fun _ held => held) post⟩
  | loop body start next _ ih =>
      obtain ⟨H, M, enter, rounds, rest⟩ := secures
      exact ⟨H, M, fun seen held => enter seen (pre seen held), rounds,
        fun result => ih result (rest result) (fun _ held => held) post⟩

theorem bind {program : Program σ α} {f : α → Program σ β} {M : α → ω → Prop} {Q : β → ω → Prop}
    (secures : program.Secures view me P M)
    (rest : ∀ value, (f value).Secures view me (M value) Q) :
    (program >>= f).Secures view me P Q := by
  change (program.bind f).Secures view me P Q
  induction program generalizing P with
  | done value => exact (rest value).weaken secures fun _ _ held => held
  | atomic action next ih =>
      obtain ⟨M', runs, tail⟩ := secures
      exact ⟨M', runs, fun result => ih result (tail result) rest⟩
  | wait action next dropped ih =>
      obtain ⟨M', runs, tail⟩ := secures
      exact ⟨M', runs, fun result => ih result (tail result) rest⟩
  | loop body start next _ ih =>
      obtain ⟨H, M', enter, rounds, tail⟩ := secures
      exact ⟨H, M', enter, rounds, fun result => ih result (tail result) rest⟩

theorem act {action : Pick → σ → Option (β × σ)} {Q : β → ω → Prop}
    (runs : ∀ choice s result after, P (view s) → action ⟨me, choice⟩ s = some (result, after) →
      Q result (view after)) : (Program.act action).Secures view me P Q :=
  ⟨Q, runs, fun _ _ held => held⟩

theorem read {value : σ → Option β} {Q : β → ω → Prop}
    (reads : ∀ s result, P (view s) → value s = some result → Q result (view s)) :
    (Program.read value).Secures view me P Q := by
  refine act fun choice s result after held ran => ?_
  obtain ⟨found, seen, same⟩ := Option.map_eq_some_iff.mp ran
  obtain ⟨rfl, rfl⟩ := Prod.mk.injEq .. ▸ same
  exact reads s found held seen

theorem modify {f : σ → σ} {Q : Unit → ω → Prop} (runs : ∀ s, P (view s) → Q () (view (f s))) :
    (Program.modify f).Secures view me P Q := by
  refine act fun choice s result after held ran => ?_
  obtain ⟨rfl, rfl⟩ := Prod.mk.injEq .. ▸ Option.some.inj ran
  exact runs s held

theorem iterate {start : γ} {body : γ → Program σ (γ ⊕ β)} {H : γ → ω → Prop} {Q : β → ω → Prop}
    (enter : ∀ seen, P seen → H start seen)
    (rounds : ∀ again, (body again).Secures view me (H again) (Sum.elim H Q)) :
    (Program.iterate start body).Secures view me P Q :=
  ⟨H, Q, enter, rounds, fun _ _ held => held⟩

theorem never (program : Program σ α) (Q : α → ω → Prop) :
    program.Secures view me (fun _ => False) Q := by
  induction program with
  | done value => exact fun _ held => held.elim
  | atomic action next ih =>
      exact ⟨fun _ _ => False, fun _ _ _ _ held _ => held, fun result => ih result Q⟩
  | wait action next dropped ih =>
      exact ⟨fun _ _ => False, fun _ _ _ _ held _ => held, fun result => ih result Q⟩
  | loop body start next ihBody ih =>
      exact ⟨fun _ _ => False, fun _ _ => False, fun _ held => held, fun again => ihBody again _,
        fun result => ih result Q⟩

theorem given {program : Program σ α} {fact : Prop} {Q : α → ω → Prop}
    (secures : fact → program.Secures view me P Q) :
    program.Secures view me (fun seen => fact ∧ P seen) Q := by
  by_cases holds : fact
  · exact (secures holds).weaken (fun _ held => held.2) fun _ _ held => held
  · exact (never program Q).weaken (fun _ held => holds held.1) fun _ _ held => held

theorem cases {ι : Sort*} {program : Program σ α} {P : ι → ω → Prop} {Q : α → ω → Prop}
    (each : ∀ i, program.Secures view me (P i) Q) :
    program.Secures view me (fun seen => ∃ i, P i seen) Q := by
  induction program generalizing P with
  | done value => exact fun seen ⟨i, held⟩ => each i seen held
  | atomic action next ih =>
      choose M runs rest using each
      exact ⟨fun result seen => ∃ i, M i result seen,
        fun choice s result after ⟨i, held⟩ ran => ⟨i, runs i choice s result after held ran⟩,
        fun result => ih result fun i => rest i result⟩
  | wait action next dropped ih =>
      choose M runs rest using each
      exact ⟨fun result seen => ∃ i, M i result seen,
        fun choice s result after ⟨i, held⟩ ran => ⟨i, runs i choice s result after held ran⟩,
        fun result => ih result fun i => rest i result⟩
  | loop body start next ihBody ih =>
      choose H M enter rounds rest using each
      refine ⟨fun again seen => ∃ i, H i again seen, fun result seen => ∃ i, M i result seen,
        fun seen ⟨i, held⟩ => ⟨i, enter i seen held⟩,
        fun again => ihBody again fun i => (rounds i again).weaken (fun _ held => held) ?_,
        fun result => ih result fun i => rest i result⟩
      intro value seen held
      cases value with
      | inl next => exact ⟨i, held⟩
      | inr result => exact ⟨i, held⟩

theorem known {program : Program σ α} {Q : α → ω → Prop}
    (each : ∀ seen, P seen → program.Secures view me (· = seen) Q) :
    program.Secures view me P Q := by
  have union := cases fun start : { seen // P seen } => each start.1 start.2
  exact union.weaken (fun seen held => ⟨⟨seen, held⟩, rfl⟩) fun _ _ held => held

theorem of_each {program : Program σ α} {Q : α → Prop}
    (each : program.Each (fun s after => view after = view s) Q) :
    program.Secures view me P fun value seen => Q value ∧ P seen := by
  have keeps : ∀ {δ : Type} {action : Pick → σ → Option (δ × σ)} {M : δ → Prop},
      (∀ pick s result after, action pick s = some (result, after) →
        view after = view s ∧ M result) →
      ∀ choice s result after, P (view s) → action ⟨me, choice⟩ s = some (result, after) →
        M result ∧ P (view after) := by
    intro δ action M each choice s result after held ran
    obtain ⟨same, known⟩ := each _ s result after ran
    exact ⟨known, same ▸ held⟩
  induction program with
  | done value => exact fun seen held => ⟨each, held⟩
  | atomic action next ih =>
      obtain ⟨M, runs, rest⟩ := each
      exact ⟨fun result seen => M result ∧ P seen, keeps runs,
        fun result => given fun known => ih result (rest result known)⟩
  | wait action next dropped ih =>
      obtain ⟨⟨M, runs, rest⟩, _⟩ := each
      exact ⟨fun result seen => M result ∧ P seen, keeps runs,
        fun result => given fun known => ih result (rest result known)⟩
  | loop body start next ihBody ih =>
      obtain ⟨H, M, enter, rounds, rest⟩ := each
      refine ⟨fun again seen => H again ∧ P seen, fun result seen => M result ∧ P seen,
        fun _ held => ⟨enter, held⟩,
        fun again => given fun known => (ihBody again (rounds again known)).weaken (fun _ held => held) ?_,
        fun result => given fun known => ih result (rest result known)⟩
      intro value seen held
      cases value <;> exact held

end Secures

/-- Where the others leave what is seen as it is, a run comes to what the program secures. -/
theorem Amid.secured {program : Program σ α} {P : ω → Prop} {Q : α → ω → Prop} {s final : σ}
    {value : α} (amid : program.Amid (fun s after => view after = view s) me s value final)
    (secures : program.Secures view me P Q) (held : P (view s)) : Q value (view final) := by
  induction amid generalizing P with
  | done others => exact others ▸ secures _ held
  | atomic others ran _ ih =>
      obtain ⟨M, runs, tail⟩ := secures
      exact ih (tail _) (runs _ _ _ _ (others ▸ held) ran)
  | wait others ran _ ih =>
      obtain ⟨M, runs, tail⟩ := secures
      exact ih (tail _) (runs _ _ _ _ (others ▸ held) ran)
  | loop _ ih =>
      obtain ⟨H, M, enter, rounds, tail⟩ := secures
      refine ih (.bind (rounds _) fun value => ?_) (enter _ held)
      cases value with
      | inl again => exact ⟨H, M, fun _ held => held, rounds, tail⟩
      | inr result => exact tail result

end Program

end Interleaving
