import PolicyGate.Interleaving.RelyGuarantee

namespace Interleaving

/-! A guest: one thread with memory of its own beside the shared state.

The other threads run programs that do not know of that memory.  What is proved
of a program alone carries over to it as a part of the guest (`Spec.hosted`), and
a relation between the memory and the shared state that no step of the others
breaks holds in every interleaving.
-/

namespace Program

variable {σ τ α β γ : Type}

/-- The program beside memory it does not touch. -/
def hosted (τ : Type) : {α : Type} → Program σ α → Program (σ × τ) α
  | _, .done value => .done value
  | _, .atomic action next =>
      .atomic (fun pick x => (action pick x.1).map fun ran => (ran.1, ran.2, x.2))
        fun result => (next result).hosted τ
  | _, .wait action next dropped =>
      .wait (fun pick x => (action pick x.1).map fun ran => (ran.1, ran.2, x.2))
        (fun result => (next result).hosted τ) (dropped.hosted τ)
  | _, .loop body start next =>
      .loop (fun again => (body again).hosted τ) start fun result => (next result).hosted τ

def own (action : Nat → σ → τ → Option (β × τ)) : Program (σ × τ) β :=
  .act fun pick x => (action pick.choice x.1 x.2).map fun ran => (ran.1, x.1, ran.2)

end Program

namespace Discipline

variable {σ τ : Type} (D : Discipline σ)

def Persists (J : σ → τ → Prop) : Prop :=
  ∀ me before after memory, D.invariant before → D.invariant after → D.rely me before after →
    J before memory → J after memory

/-- The discipline of `D` with a guest whose memory satisfies `J`. -/
def hosting (guest : Nat) (J : σ → τ → Prop) : Discipline (σ × τ) where
  invariant x := D.invariant x.1 ∧ J x.1 x.2
  rely me before after := D.rely me before.1 after.1 ∧ (me = guest → after.2 = before.2)
  resting me x := D.resting me x.1
  resting_stable me before after ok ok' relied resting :=
    D.resting_stable me before.1 after.1 ok.1 ok'.1 relied.1 resting

variable {D} {me guest : Nat} {J : σ → τ → Prop} {α β γ : Type} {P : σ → Prop} {R : τ → Prop}

theorem hosting_stable (stable : D.Stable me P) (owned : me = guest ∨ ∀ memory, R memory) :
    (D.hosting guest J).Stable me fun x => P x.1 ∧ R x.2 := by
  intro before after ok ok' relied held
  refine ⟨stable _ _ ok.1 ok'.1 relied.1 held.1, ?_⟩
  rcases owned with mine | always
  · rw [relied.2 mine]
    exact held.2
  · exact always _

theorem Runs.hosted {action : Pick → σ → Option (β × σ)} {M : β → σ → Prop}
    (persists : D.Persists J) (runs : D.Runs me action P M) :
    (D.hosting guest J).Runs me
      (fun pick x => (action pick x.1).map fun ran => (ran.1, ran.2, x.2))
      (fun x => P x.1 ∧ R x.2) fun result x => M result x.1 ∧ R x.2 := by
  intro x choice result after ok held ran
  obtain ⟨⟨answer, s⟩, acted, same⟩ := Option.map_eq_some_iff.mp ran
  obtain ⟨rfl, rfl⟩ := Prod.mk.injEq .. ▸ same
  obtain ⟨kept, promised, ended⟩ := runs x.1 choice answer s ok.1 held.1 acted
  have other : me + 1 ≠ me := by omega
  exact ⟨⟨kept, persists (me + 1) _ _ _ ok.1 kept (promised _ other) ok.2⟩,
    fun other different => ⟨promised other different, fun _ => rfl⟩, ended, held.2⟩

/-- A program that does not know of the guest's memory runs as it would without it. -/
theorem Spec.hosted {program : Program σ α} {Q : α → σ → Prop} (persists : D.Persists J)
    (owned : me = guest ∨ ∀ memory, R memory) (spec : D.Spec me program P Q) :
    (D.hosting guest J).Spec me (program.hosted τ) (fun x => P x.1 ∧ R x.2)
      fun value x => Q value x.1 ∧ R x.2 := by
  induction program generalizing P with
  | done value => exact fun x ok held => ⟨spec x.1 ok.1 held.1, held.2⟩
  | atomic action next ih =>
      obtain ⟨pre, mid, enter, stable, runs, rest⟩ := spec
      exact ⟨fun x => pre x.1 ∧ R x.2, fun result x => mid result x.1 ∧ R x.2,
        fun x ok held => ⟨enter x.1 ok.1 held.1, held.2⟩, hosting_stable stable owned,
        runs.hosted persists, fun result => ih result (rest result)⟩
  | wait action next dropped ih ihDropped =>
      obtain ⟨pre, mid, enter, stable, runs, rest, cleanup⟩ := spec
      exact ⟨fun x => pre x.1 ∧ R x.2, fun result x => mid result x.1 ∧ R x.2,
        fun x ok held => ⟨enter x.1 ok.1 held.1, held.2⟩, hosting_stable stable owned,
        runs.hosted persists, fun result => ih result (rest result),
        (ihDropped cleanup).post fun _ _ _ held => held.1⟩
  | loop body start next ihBody ih =>
      obtain ⟨head, exit, enter, stable, each, rest⟩ := spec
      refine ⟨fun again x => head again x.1 ∧ R x.2, fun result x => exit result x.1 ∧ R x.2,
        fun x ok held => ⟨enter x.1 ok.1 held.1, held.2⟩, fun again => hosting_stable (stable again) owned,
        fun again => (ihBody again (each again)).post ?_, fun result => ih result (rest result)⟩
      intro value x _ held
      cases value with
      | inl next => exact held
      | inr result => exact held

theorem Spec.own {action : Nat → σ → τ → Option (β × τ)} {M : β → σ → τ → Prop}
    (reflexive : ∀ s, D.invariant s → D.Neutral s s) (stable : D.Stable guest P)
    (runs : ∀ s memory choice result after, D.invariant s → J s memory → P s → R memory →
      action choice s memory = some (result, after) → J s after ∧ M result s after) :
    (D.hosting guest J).Spec guest (.own action) (fun x => P x.1 ∧ R x.2)
      fun result x => M result x.1 x.2 := by
  refine .act (hosting_stable stable (.inl rfl)) fun x choice result after ok held ran => ?_
  obtain ⟨⟨answer, memory⟩, acted, same⟩ := Option.map_eq_some_iff.mp ran
  obtain ⟨rfl, rfl⟩ := Prod.mk.injEq .. ▸ same
  obtain ⟨kept, ended⟩ := runs x.1 x.2 choice answer memory ok.1 ok.2 held.1 held.2 acted
  exact ⟨⟨ok.1, kept⟩, fun other different => ⟨reflexive x.1 ok.1 other, fun mine => absurd mine different⟩,
    ended⟩

end Discipline

namespace Config

variable {σ τ ε : Type}

def host (c : Config σ) (guest : Nat) (memory : τ) (program : Program (σ × τ) Unit) :
    Config (σ × τ) where
  shared := (c.shared, memory)
  threads := Function.update (fun thread => (c.threads thread).hosted τ) guest program

@[simp] theorem host_guest (c : Config σ) (guest : Nat) (memory : τ)
    (program : Program (σ × τ) Unit) : (c.host guest memory program).threads guest = program := by
  simp [Config.host]

theorem host_other (c : Config σ) {guest thread : Nat} (memory : τ)
    (program : Program (σ × τ) Unit) (different : thread ≠ guest) :
    (c.host guest memory program).threads thread = (c.threads thread).hosted τ := by
  simp [Config.host, Function.update_of_ne different]

def beside (τ : Type) (environment : ε → σ → Option σ) (event : ε) (x : σ × τ) : Option (σ × τ) :=
  (environment event x.1).map fun after => (after, x.2)

variable {D : Discipline σ} {guest : Nat} {J : σ → τ → Prop} {environment : ε → σ → Option σ}

theorem beside_neutral (persists : D.Persists J)
    (env : ∀ event s after, D.invariant s → environment event s = some after →
      D.invariant after ∧ D.Neutral s after)
    (event : ε) (x after : σ × τ) (ok : (D.hosting guest J).invariant x)
    (happened : beside τ environment event x = some after) :
    (D.hosting guest J).invariant after ∧ (D.hosting guest J).Neutral x after := by
  obtain ⟨s, became, rfl⟩ := Option.map_eq_some_iff.mp happened
  obtain ⟨kept, neutral⟩ := env event x.1 s ok.1 became
  exact ⟨⟨kept, persists 0 _ _ _ ok.1 kept (neutral 0) ok.2⟩, fun thread =>
    ⟨neutral thread, fun _ => rfl⟩⟩

/-- A guest that is specified beside threads that are. -/
theorem Covered.host {c : Config σ} {memory : τ} {program : Program (σ × τ) Unit}
    {P : σ → Prop} {R : τ → Prop} (persists : D.Persists J) (covered : c.Covered D)
    (begun : J c.shared memory) (stable : D.Stable guest P) (held : P c.shared) (owned : R memory)
    (spec : (D.hosting guest J).Spec guest program (fun x => P x.1 ∧ R x.2)
      fun _ x => (D.hosting guest J).resting guest x) :
    (c.host guest memory program).Covered (D.hosting guest J) := by
  refine ⟨⟨covered.1, begun⟩, fun thread => ?_⟩
  by_cases same : thread = guest
  · subst same
    refine ⟨_, Discipline.hosting_stable stable (.inl rfl), ⟨held, owned⟩, ?_⟩
    rw [host_guest]
    exact spec
  · obtain ⟨known, lasts, holds, runs⟩ := covered.2 thread
    refine ⟨fun x => known x.1 ∧ True, Discipline.hosting_stable lasts (.inr fun _ => trivial),
      ⟨holds, trivial⟩, ?_⟩
    have alone := (Discipline.Spec.hosted persists (.inr fun _ => trivial) runs :
      (D.hosting guest J).Spec thread _ (fun x => known x.1 ∧ True) _)
    rw [host_other c memory program same]
    exact alone.post fun _ _ _ held => held.1

end Config

end Interleaving
