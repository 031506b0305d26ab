import PolicyGate.Interleaving.Program

namespace Interleaving

/-! What the actions of one program do, whatever the others do in between.

`Each` bounds every single action of a program; `Solo` is a run of the program in which no other
thread moves.
-/

namespace Program

variable {σ α β γ : Type} {K L : σ → σ → Prop}

/-- Every action of the program relates the states before and after it by `K`, and what the program
returns satisfies `Q`. -/
def Each (K : σ → σ → Prop) : {α : Type} → Program σ α → (α → Prop) → Prop
  | _, .done value, Q => Q value
  | _, .atomic action next, Q =>
      ∃ M : _ → Prop, (∀ pick s result after, action pick s = some (result, after) →
        K s after ∧ M result) ∧ ∀ result, M result → Each K (next result) Q
  | _, .wait action next dropped, Q =>
      (∃ M : _ → Prop, (∀ pick s result after, action pick s = some (result, after) →
        K s after ∧ M result) ∧ ∀ result, M result → Each K (next result) Q) ∧
        Each K dropped fun _ => True
  | _, .loop body start next, Q =>
      ∃ (H : _ → Prop) (M : _ → Prop), H start ∧
        (∀ again, H again → Each K (body again) (Sum.elim H M)) ∧
        ∀ result, M result → Each K (next result) Q

theorem Each.mono {program : Program σ α} {Q Q' : α → Prop} (each : program.Each K Q)
    (included : ∀ s after, K s after → L s after) (post : ∀ value, Q value → Q' value) :
    program.Each L Q' := by
  induction program with
  | done value => exact post value each
  | atomic action next ih =>
      obtain ⟨M, runs, rest⟩ := each
      exact ⟨M, fun pick s result after ran =>
        ⟨included s after (runs pick s result after ran).1, (runs pick s result after ran).2⟩,
        fun result known => ih result (rest result known) post⟩
  | wait action next dropped ih ihDropped =>
      obtain ⟨⟨M, runs, rest⟩, cleanup⟩ := each
      exact ⟨⟨M, fun pick s result after ran =>
        ⟨included s after (runs pick s result after ran).1, (runs pick s result after ran).2⟩,
        fun result known => ih result (rest result known) post⟩,
        ihDropped cleanup fun _ _ => trivial⟩
  | loop body start next ihBody ih =>
      obtain ⟨H, M, enter, rounds, rest⟩ := each
      exact ⟨H, M, enter, fun again held => ihBody again (rounds again held) fun _ held => held,
        fun result known => ih result (rest result known) post⟩

theorem Each.bind {program : Program σ α} {f : α → Program σ β} {M : α → Prop} {Q : β → Prop}
    (each : program.Each K M) (rest : ∀ value, M value → (f value).Each K Q) :
    (program >>= f).Each K Q := by
  change (program.bind f).Each K Q
  induction program with
  | done value => exact rest value each
  | atomic action next ih =>
      obtain ⟨M', runs, tail⟩ := each
      exact ⟨M', runs, fun result known => ih result (tail result known) rest⟩
  | wait action next dropped ih =>
      obtain ⟨⟨M', runs, tail⟩, cleanup⟩ := each
      exact ⟨⟨M', runs, fun result known => ih result (tail result known) rest⟩, cleanup⟩
  | loop body start next _ ih =>
      obtain ⟨H, M', enter, rounds, tail⟩ := each
      exact ⟨H, M', enter, rounds, fun result known => ih result (tail result known) rest⟩

theorem Each.act {action : Pick → σ → Option (β × σ)} {M : β → Prop}
    (runs : ∀ pick s result after, action pick s = some (result, after) → K s after ∧ M result) :
    (Program.act action).Each K M :=
  ⟨M, runs, fun _ known => known⟩

theorem Each.read {view : σ → Option β} (reflexive : ∀ s, K s s) :
    (Program.read view).Each K fun _ => True := by
  refine .act fun pick s result after ran => ?_
  obtain ⟨value, _, same⟩ := Option.map_eq_some_iff.mp ran
  obtain ⟨rfl, rfl⟩ := Prod.mk.injEq .. ▸ same
  exact ⟨reflexive _, trivial⟩

theorem Each.modify {f : σ → σ} (runs : ∀ s, K s (f s)) :
    (Program.modify f).Each K fun _ => True := by
  refine .act fun pick s result after ran => ?_
  obtain ⟨rfl, rfl⟩ := Prod.mk.injEq .. ▸ Option.some.inj ran
  exact ⟨runs s, trivial⟩

theorem Each.step {program next : Program σ α} {Q : α → Prop} {pick : Pick} {s after : σ}
    (each : program.Each K Q) (ran : program.step pick s = some (next, after)) :
    (K s after ∨ after = s) ∧ next.Each K Q := by
  cases program with
  | done value => cases ran
  | atomic action rest =>
      obtain ⟨M, runs, tail⟩ := each
      obtain ⟨⟨result, _⟩, acted, same⟩ := Option.map_eq_some_iff.mp ran
      obtain ⟨rfl, rfl⟩ := Prod.mk.injEq .. ▸ same
      obtain ⟨kept, known⟩ := runs pick s result _ acted
      exact ⟨.inl kept, tail result known⟩
  | wait action rest dropped =>
      obtain ⟨⟨M, runs, tail⟩, _⟩ := each
      obtain ⟨⟨result, _⟩, acted, same⟩ := Option.map_eq_some_iff.mp ran
      obtain ⟨rfl, rfl⟩ := Prod.mk.injEq .. ▸ same
      obtain ⟨kept, known⟩ := runs pick s result _ acted
      exact ⟨.inl kept, tail result known⟩
  | loop body start rest =>
      obtain ⟨H, M, enter, rounds, tail⟩ := each
      obtain ⟨rfl, rfl⟩ := Prod.mk.injEq .. ▸ Option.some.inj ran
      refine ⟨.inr rfl, Each.bind (rounds start enter) fun value known => ?_⟩
      cases value with
      | inl again => exact ⟨H, M, known, rounds, tail⟩
      | inr result => exact tail result known

theorem Each.drop {program : Program σ α} {dropped : Program σ Unit} {Q : α → Prop}
    (each : program.Each K Q) (left : program.drop = some dropped) :
    dropped.Each K fun _ => True := by
  cases program with
  | wait action rest dropped =>
      obtain rfl := Option.some.inj left
      exact each.2
  | done | atomic | loop => cases left

abbrev Always (K : σ → σ → Prop) (program : Program σ α) : Prop := program.Each K fun _ => True

namespace Always

theorem mono {program : Program σ α} (always : program.Always K)
    (included : ∀ s after, K s after → L s after) : program.Always L :=
  Each.mono always included fun _ _ => trivial

theorem bind {program : Program σ α} {f : α → Program σ β} (first : program.Always K)
    (rest : ∀ value, (f value).Always K) : (program >>= f).Always K :=
  Each.bind first fun value _ => rest value

theorem done {value : α} : (Program.done value : Program σ α).Always K := trivial

theorem act {action : Pick → σ → Option (β × σ)}
    (runs : ∀ pick s result after, action pick s = some (result, after) → K s after) :
    (Program.act action).Always K :=
  Each.act fun pick s result after ran => ⟨runs pick s result after ran, trivial⟩

theorem iterate {start : γ} {body : γ → Program σ (γ ⊕ β)} (rounds : ∀ again, (body again).Always K) :
    (Program.iterate start body).Always K := by
  refine ⟨fun _ => True, fun _ => True, trivial, fun again _ => ?_, fun _ _ => trivial⟩
  refine Each.mono (rounds again) (fun _ _ kept => kept) fun value _ => ?_
  cases value <;> trivial

theorem ite {test : Prop} [Decidable test] {first second : Program σ α} (holds : first.Always K)
    (fails : second.Always K) : (if test then first else second).Always K := by
  split
  · exact holds
  · exact fails

theorem any (program : Program σ α) : program.Always fun _ _ => True := by
  induction program with
  | done value => trivial
  | atomic action next ih => exact ⟨fun _ => True, fun _ _ _ _ _ => ⟨trivial, trivial⟩, fun result _ => ih result⟩
  | wait action next dropped ih ihDropped =>
      exact ⟨⟨fun _ => True, fun _ _ _ _ _ => ⟨trivial, trivial⟩, fun result _ => ih result⟩, ihDropped⟩
  | loop body start next ihBody ih =>
      refine ⟨fun _ => True, fun _ => True, trivial, fun again _ => ?_, fun result _ => ih result⟩
      exact Each.mono (ihBody again) (fun _ _ kept => kept) fun value _ => by cases value <;> trivial

end Always

/-- Thread `me` runs the program from `s` to its end while no other thread moves. -/
inductive Solo (me : Nat) : {α : Type} → Program σ α → σ → α → σ → Prop where
  | done {α : Type} {value : α} {s : σ} : Solo me (.done value) s value s
  | atomic {α β : Type} {action : Pick → σ → Option (β × σ)} {next : β → Program σ α}
      {s middle final : σ} {choice : Nat} {result : β} {value : α}
      (ran : action ⟨me, choice⟩ s = some (result, middle))
      (rest : Solo me (next result) middle value final) : Solo me (.atomic action next) s value final
  | wait {α β : Type} {action : Pick → σ → Option (β × σ)} {next : β → Program σ α}
      {dropped : Program σ Unit} {s middle final : σ} {choice : Nat} {result : β} {value : α}
      (ran : action ⟨me, choice⟩ s = some (result, middle))
      (rest : Solo me (next result) middle value final) :
      Solo me (.wait action next dropped) s value final
  | loop {α β γ : Type} {body : γ → Program σ (γ ⊕ β)} {start : γ} {next : β → Program σ α}
      {s final : σ} {value : α}
      (rest : Solo me ((body start).bind (Sum.elim (fun again => .loop body again next) next))
        s value final) : Solo me (.loop body start next) s value final

variable {me : Nat}

/-- Runs the program alone for at most so many steps, with the same choice each time. -/
def alone (me choice : Nat) : Nat → Program σ α → σ → Option (α × σ)
  | _, .done value, s => some (value, s)
  | 0, _, _ => none
  | steps + 1, .atomic action next, s =>
      (action ⟨me, choice⟩ s).bind fun ran => alone me choice steps (next ran.1) ran.2
  | steps + 1, .wait action next _, s =>
      (action ⟨me, choice⟩ s).bind fun ran => alone me choice steps (next ran.1) ran.2
  | steps + 1, .loop body start next, s =>
      alone me choice steps
        ((body start).bind (Sum.elim (fun again => .loop body again next) next)) s

theorem Solo.of_alone {choice steps : Nat} {program : Program σ α} {s final : σ} {value : α}
    (ran : program.alone me choice steps s = some (value, final)) :
    program.Solo me s value final := by
  induction steps generalizing program s with
  | zero =>
      cases program with
      | done value' =>
          obtain ⟨rfl, rfl⟩ := Prod.mk.injEq .. ▸ Option.some.inj ran
          exact .done
      | _ => cases ran
  | succ steps ih =>
      cases program with
      | done value' =>
          obtain ⟨rfl, rfl⟩ := Prod.mk.injEq .. ▸ Option.some.inj ran
          exact .done
      | atomic action next =>
          obtain ⟨⟨result, middle⟩, acted, rest⟩ := Option.bind_eq_some_iff.mp ran
          exact .atomic acted (ih rest)
      | wait action next dropped =>
          obtain ⟨⟨result, middle⟩, acted, rest⟩ := Option.bind_eq_some_iff.mp ran
          exact .wait acted (ih rest)
      | loop body start next => exact .loop (ih ran)

end Program

namespace Config

variable {σ ε : Type} {K : σ → σ → Prop} {environment : ε → σ → Option σ} {c next : Config σ}

theorem always_update {thread : Nat} {program : Program σ Unit}
    (always : ∀ thread, (c.threads thread).Always K) (own : program.Always K) (other : Nat) :
    (Function.update c.threads thread program other).Always K := by
  by_cases same : other = thread
  · subst same
    rwa [Function.update_self]
  · rw [Function.update_of_ne same]
    exact always other

theorem move_always {m : Move ε} (reflexive : ∀ s, K s s)
    (outside : ∀ event s after, environment event s = some after → K s after)
    (always : ∀ thread, (c.threads thread).Always K) (moved : c.move environment m = some next) :
    K c.shared next.shared ∧ ∀ thread, (next.threads thread).Always K := by
  cases m with
  | run pick =>
      obtain ⟨⟨program, after⟩, ran, rfl⟩ := Option.map_eq_some_iff.mp moved
      obtain ⟨kept, rest⟩ := (always pick.thread).step ran
      refine ⟨?_, always_update always rest⟩
      rcases kept with kept | same
      · exact kept
      · exact same ▸ reflexive c.shared
  | drop thread =>
      obtain ⟨dropped, left, rfl⟩ := Option.map_eq_some_iff.mp moved
      exact ⟨reflexive c.shared, always_update always ((always thread).drop left)⟩
  | environment event =>
      obtain ⟨after, ran, rfl⟩ := Option.map_eq_some_iff.mp moved
      exact ⟨outside event _ _ ran, always⟩

theorem run_always {moves : List (Move ε)} (reflexive : ∀ s, K s s)
    (outside : ∀ event s after, environment event s = some after → K s after)
    (always : ∀ thread, (c.threads thread).Always K) (ran : c.run environment moves = some next) :
    ∀ thread, (next.threads thread).Always K := by
  induction moves generalizing c with
  | nil => exact Option.some.inj ran ▸ always
  | cons m rest ih =>
      obtain ⟨middle, moved, ran⟩ := Option.bind_eq_some_iff.mp ran
      exact ih (move_always reflexive outside always moved).2 ran

end Config

end Interleaving
