import PolicyGate.Interleaving.Program

namespace Interleaving

/-! Debts that one action of a program takes on and the next one pays.

A debt stands in the shared state.  Where all threads are prompt, some thread's very next step pays it,
whatever that thread chooses and whatever the others do before.
-/

namespace Program

variable {σ ι α β γ : Type} (owes : σ → ι → Prop)

/-- The next step can be taken in any state, and pays the debt. -/
structure Pays (debt : ι) (program : Program σ α) : Prop where
  pays : ∀ pick s, ∃ next after, program.step pick s = some (next, after) ∧ ¬ owes after debt
  stays : program.drop = none

def Prompts (action : Pick → σ → Option (β × σ)) (next : β → Program σ α) : Prop :=
  ∀ pick s result after, action pick s = some (result, after) →
    ∀ debt, owes after debt → owes s debt ∨ (next result).Pays owes debt

/-- Every debt that an action takes on is paid by the next one. -/
def Prompt : {α : Type} → Program σ α → Prop
  | _, .done _ => True
  | _, .atomic action next => Prompts owes action next ∧ ∀ result, Prompt (next result)
  | _, .wait action next dropped =>
      Prompts owes action next ∧ (∀ result, Prompt (next result)) ∧ Prompt dropped
  | _, .loop body _ next => (∀ again, Prompt (body again)) ∧ ∀ result, Prompt (next result)

def Spares (action : Pick → σ → Option (β × σ)) : Prop :=
  ∀ pick s result after, action pick s = some (result, after) →
    ∀ debt, owes after debt → owes s debt

variable {owes} {debt : ι}

theorem Pays.bind {program : Program σ α} (pays : program.Pays owes debt) (s : σ)
    (f : α → Program σ β) : (program.bind f).Pays owes debt := by
  cases program with
  | done value =>
      obtain ⟨next, after, ran, _⟩ := pays.pays ⟨0, 0⟩ s
      cases ran
  | atomic action next =>
      refine ⟨fun pick s => ?_, rfl⟩
      obtain ⟨rest, after, ran, paid⟩ := pays.pays pick s
      obtain ⟨result, acted, same⟩ := Option.map_eq_some_iff.mp ran
      obtain ⟨rfl, rfl⟩ := Prod.mk.injEq .. ▸ same
      exact ⟨_, result.2, Option.map_eq_some_iff.mpr ⟨result, acted, rfl⟩, paid⟩
  | wait action next dropped => cases pays.stays
  | loop body start next =>
      refine ⟨fun pick s => ⟨_, s, rfl, ?_⟩, rfl⟩
      obtain ⟨rest, after, ran, paid⟩ := pays.pays pick s
      obtain ⟨rfl, rfl⟩ := Prod.mk.injEq .. ▸ Option.some.inj ran
      exact paid

theorem Pays.modify {f : σ → σ} (pays : ∀ s, ¬ owes (f s) debt) : (Program.modify f).Pays owes debt :=
  ⟨fun _ s => ⟨_, f s, rfl, pays s⟩, rfl⟩

theorem Pays.update_self {threads : Nat → Program σ Unit} {thread : Nat} {program : Program σ Unit}
    (pays : program.Pays owes debt) : (Function.update threads thread program thread).Pays owes debt := by
  rwa [Function.update_self]

theorem Pays.update_of_ne {threads : Nat → Program σ Unit} {thread other : Nat}
    {program : Program σ Unit} (pays : (threads other).Pays owes debt) (ne : other ≠ thread) :
    (Function.update threads thread program other).Pays owes debt := by
  rwa [Function.update_of_ne ne]

theorem Prompts.bind {action : Pick → σ → Option (γ × σ)} {next : γ → Program σ α}
    (prompts : Prompts owes action next) (f : α → Program σ β) :
    Prompts owes action fun result => (next result).bind f :=
  fun pick s result after ran debt owed =>
    (prompts pick s result after ran debt owed).imp_right fun pays => pays.bind s f

namespace Prompt

theorem bind {program : Program σ α} {f : α → Program σ β} (first : program.Prompt owes)
    (rest : ∀ value, (f value).Prompt owes) : (program >>= f).Prompt owes := by
  change (program.bind f).Prompt owes
  induction program with
  | done value => exact rest value
  | atomic action next ih => exact ⟨first.1.bind f, fun result => ih result (first.2 result) rest⟩
  | wait action next dropped ih =>
      exact ⟨first.1.bind f, fun result => ih result (first.2.1 result) rest, first.2.2⟩
  | loop body start next _ ih => exact ⟨first.1, fun result => ih result (first.2 result) rest⟩

theorem done {value : α} : (Program.done value : Program σ α).Prompt owes := trivial

theorem act {action : Pick → σ → Option (β × σ)} (spares : Spares owes action) :
    (Program.act action).Prompt owes :=
  ⟨fun pick s result after ran debt owed => .inl (spares pick s result after ran debt owed),
    fun _ => trivial⟩

theorem read {view : σ → Option β} : (Program.read view).Prompt owes := by
  refine act fun pick s result after ran debt owed => ?_
  obtain ⟨value, _, same⟩ := Option.map_eq_some_iff.mp ran
  obtain ⟨rfl, rfl⟩ := Prod.mk.injEq .. ▸ same
  exact owed

theorem modify {f : σ → σ} (spares : ∀ s debt, owes (f s) debt → owes s debt) :
    (Program.modify f).Prompt owes := by
  refine act fun pick s result after ran => ?_
  obtain ⟨rfl, rfl⟩ := Prod.mk.injEq .. ▸ Option.some.inj ran
  exact spares s

theorem wait {action : Pick → σ → Option (β × σ)} {dropped : Program σ Unit}
    (spares : Spares owes action) (cleanup : dropped.Prompt owes) :
    (Program.wait action .done dropped).Prompt owes :=
  ⟨fun pick s result after ran debt owed => .inl (spares pick s result after ran debt owed),
    fun _ => trivial, cleanup⟩

theorem await {action : Pick → σ → Option (β × σ)} (spares : Spares owes action) :
    (Program.await action).Prompt owes := wait spares trivial

theorem iterate {start : γ} {body : γ → Program σ (γ ⊕ β)}
    (rounds : ∀ again, (body again).Prompt owes) : (Program.iterate start body).Prompt owes :=
  ⟨rounds, fun _ => trivial⟩

theorem ite {test : Prop} [Decidable test] {first second : Program σ α} (holds : first.Prompt owes)
    (fails : second.Prompt owes) : (if test then first else second).Prompt owes := by
  split
  · exact holds
  · exact fails

theorem act_bind {action : Pick → σ → Option (β × σ)} {f : β → Program σ α}
    (prompts : Prompts owes action f) (rest : ∀ value, (f value).Prompt owes) :
    (Program.act action >>= f).Prompt owes := ⟨prompts, rest⟩

theorem step {program next : Program σ α} {pick : Pick} {s after : σ}
    (prompt : program.Prompt owes) (ran : program.step pick s = some (next, after)) :
    next.Prompt owes ∧ ∀ debt, owes after debt → owes s debt ∨ next.Pays owes debt := by
  cases program with
  | done value => cases ran
  | atomic action rest =>
      obtain ⟨⟨result, _⟩, acted, same⟩ := Option.map_eq_some_iff.mp ran
      obtain ⟨rfl, rfl⟩ := Prod.mk.injEq .. ▸ same
      exact ⟨prompt.2 result, prompt.1 pick s result _ acted⟩
  | wait action rest dropped =>
      obtain ⟨⟨result, _⟩, acted, same⟩ := Option.map_eq_some_iff.mp ran
      obtain ⟨rfl, rfl⟩ := Prod.mk.injEq .. ▸ same
      exact ⟨prompt.2.1 result, prompt.1 pick s result _ acted⟩
  | loop body start rest =>
      obtain ⟨rfl, rfl⟩ := Prod.mk.injEq .. ▸ Option.some.inj ran
      refine ⟨bind (prompt.1 start) fun value => ?_, fun debt owed => .inl owed⟩
      cases value with
      | inl again => exact prompt
      | inr result => exact prompt.2 result

theorem drop {program : Program σ α} {dropped : Program σ Unit} (prompt : program.Prompt owes)
    (left : program.drop = some dropped) : dropped.Prompt owes := by
  cases program with
  | wait action rest dropped =>
      obtain rfl := Option.some.inj left
      exact prompt.2.2
  | done | atomic | loop => cases left

end Prompt

end Program

namespace Config

variable {σ ι ε : Type} {environment : ε → σ → Option σ} {owes : σ → ι → Prop} {c next : Config σ}

/-- All threads are prompt, and each debt is about to be paid. -/
structure Prompt (owes : σ → ι → Prop) (c : Config σ) : Prop where
  threads : ∀ thread, (c.threads thread).Prompt owes
  paid : ∀ debt, owes c.shared debt → ∃ thread, (c.threads thread).Pays owes debt

namespace Prompt

theorem pays {debt : ι} (prompt : c.Prompt owes) (owed : owes c.shared debt) :
    ∃ thread, ∀ choice, ∃ next, c.move environment (.run ⟨thread, choice⟩) = some next ∧
      ¬ owes next.shared debt := by
  obtain ⟨thread, pays⟩ := prompt.paid debt owed
  refine ⟨thread, fun choice => ?_⟩
  obtain ⟨rest, after, ran, paid⟩ := pays.pays ⟨thread, choice⟩ c.shared
  exact ⟨_, Option.map_eq_some_iff.mpr ⟨_, ran, rfl⟩, paid⟩

theorem update {thread : Nat} {program : Program σ Unit} (prompt : c.Prompt owes)
    (next : program.Prompt owes) (other : Nat) :
    (Function.update c.threads thread program other).Prompt owes := by
  by_cases same : other = thread
  · subst same
    rw [Function.update_self]
    exact next
  · rw [Function.update_of_ne same]
    exact prompt.threads other

theorem move {m : Move ε} (prompt : c.Prompt owes)
    (outside : ∀ event s after, environment event s = some after →
      ∀ debt, owes after debt → owes s debt)
    (moved : c.move environment m = some next) : next.Prompt owes := by
  cases m with
  | run pick =>
      obtain ⟨⟨program, after⟩, ran, rfl⟩ := Option.map_eq_some_iff.mp moved
      obtain ⟨kept, taken⟩ := (prompt.threads pick.thread).step ran
      refine ⟨prompt.update kept, fun debt owed => ?_⟩
      rcases taken debt owed with before | pays
      · obtain ⟨payer, pays⟩ := prompt.paid debt before
        have other : payer ≠ pick.thread := by
          rintro rfl
          obtain ⟨_, _, ran', paid⟩ := pays.pays pick c.shared
          obtain ⟨rfl, rfl⟩ := Prod.mk.injEq .. ▸ Option.some.inj (ran.symm.trans ran')
          exact paid owed
        exact ⟨payer, pays.update_of_ne other⟩
      · exact ⟨pick.thread, pays.update_self⟩
  | drop thread =>
      obtain ⟨dropped, left, rfl⟩ := Option.map_eq_some_iff.mp moved
      refine ⟨prompt.update ((prompt.threads thread).drop left), fun debt owed => ?_⟩
      obtain ⟨payer, pays⟩ := prompt.paid debt owed
      have other : payer ≠ thread := by
        rintro rfl
        rw [pays.stays] at left
        cases left
      exact ⟨payer, pays.update_of_ne other⟩
  | environment event =>
      obtain ⟨after, ran, rfl⟩ := Option.map_eq_some_iff.mp moved
      exact ⟨prompt.threads, fun debt owed => prompt.paid debt (outside event _ _ ran debt owed)⟩

/-- Over a run all debts are paid promptly. -/
theorem run {moves : List (Move ε)} (prompt : c.Prompt owes)
    (outside : ∀ event s after, environment event s = some after →
      ∀ debt, owes after debt → owes s debt)
    (ran : c.run environment moves = some next) : next.Prompt owes := by
  induction moves generalizing c with
  | nil => exact Option.some.inj ran ▸ prompt
  | cons m rest ih =>
      obtain ⟨middle, moved, ran⟩ := Option.bind_eq_some_iff.mp ran
      exact ih (prompt.move outside moved) ran

end Prompt

end Config

end Interleaving
