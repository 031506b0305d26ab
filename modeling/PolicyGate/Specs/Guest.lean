import PolicyGate.Interleaving.Guest
import PolicyGate.Specs.Calls

namespace PolicyGate

open Interleaving

variable {T P : Type} [DecidableEq T] {rt : Runtime} {guest : Nat}

theorem ownAction {α τ : Type} {J : Gate T P → τ → Prop} {action : Nat → Gate T P → τ → Option (α × τ)}
    {G : Gate T P → Prop} {R : τ → Prop} {M : α → Gate T P → τ → Prop}
    (stable : (discipline rt).Stable guest G)
    (runs : ∀ s t choice result after, s.Invariant rt.config → J s t → G s → R t →
      action choice s t = some (result, after) → J s after ∧ M result s after) :
    ((discipline rt).hosting guest J).Spec guest (.own action) (fun x => G x.1 ∧ R x.2)
      fun result x => G x.1 ∧ M result x.1 x.2 := by
  refine Discipline.Spec.own (M := fun result s t => G s ∧ M result s t)
    (fun s ok => (NeutralStep.refl ok).rely) stable fun s t choice result after ok sound held known ran => ?_
  obtain ⟨sound', ended⟩ := runs s t choice result after ok sound held known ran
  exact ⟨sound', held, ended⟩

theorem Admission.observe_spec {entry : Entry T} :
    (discipline rt).Spec guest (Admission.observe (P := P) entry) (Admission.Holding guest entry)
      fun result s => Admission.Holding guest entry s ∧
        Observed.Backed s.cells entry .state guest result.1 result.2 := by
  refine .bind (clockNow_past Admission.stable_holding) fun now => ?_
  refine .bind ((Entry.observedAt_spec Admission.stable_holding (fun s held => held.2) (by simp)).pre
    fun s _ held => held.1) fun seen => .done fun s _ held => held

omit [DecidableEq T] in
theorem Observed.Backed.mono {entry : Entry T} {reader : Reader T} {thread now : Nat}
    {seen : Observed} {before after : Gate T P} (extend : Extends before after)
    (backed : Observed.Backed before.cells entry reader thread now seen) :
    Observed.Backed after.cells entry reader thread now seen := by
  cases seen with
  | expired => exact ReadExpired.mono extend backed
  | allowed =>
      obtain ⟨snapshot, observation, state⟩ := backed
      exact ⟨snapshot, observation.mono extend, state⟩
  | denied =>
      obtain ⟨snapshot, observation, state⟩ := backed
      exact ⟨snapshot, observation.mono extend, state⟩
  | stale =>
      obtain ⟨snapshot, observation, state⟩ := backed
      exact ⟨snapshot, observation.mono extend, state⟩

theorem observed_backed_lasting (admission : Entry T) (seen : Observed) (now : Nat) :
    Lasting rt fun s : Gate T P => Observed.Backed s.cells admission .state guest now seen :=
  fun _ _ _ _ extend backed => backed.mono extend

omit [DecidableEq T] in
theorem issued_of_observation {s : Gate T P} {entry : Entry T} {reader : Reader T} {now : Nat}
    {snapshot : EntrySnapshot P} (observation : Observation s.cells entry reader guest now snapshot)
    (authoritative : snapshot.state.Authoritative) : s.Issued entry := by
  obtain ⟨cell, found, rfl, member, unexpired⟩ := observation
  refine ⟨cell, found, rfl, List.any_eq_true.mpr ⟨_, member, ?_⟩⟩
  simp [unexpired, authoritative]

theorem Gate.Invariant.cached_subject {s : Gate T P} {subject : T} {entry : Entry T} {now : Nat}
    {snapshot : EntrySnapshot P} (ok : s.Invariant rt.config)
    (observation : Observation s.cells entry (.cached subject) guest now snapshot) :
    entry.subject = subject := by
  obtain ⟨cell, found, rfl, member, _⟩ := observation
  exact ((ok.cells _ cell found).sourced _ member).symm

theorem sheltered_rest : (discipline rt).Stable guest fun s : Gate T P => s.Resting guest :=
  (Sheltered.resting none).stable

end PolicyGate
