import PolicyGate.Specs.Admit
import PolicyGate.Specs.Watcher

namespace PolicyGate

open Interleaving

variable {T P : Type} [DecidableEq T] {rt : Runtime} {me : Nat} {entry : Entry T}

theorem stable_rested {R : Gate T P → Prop} (lasting : Lasting rt R) :
    (discipline rt).Stable me fun s => s.Resting me ∧ R s :=
  (Sheltered.resting none).stable.and lasting.stable

theorem report_spec {outcome : Outcome T P} :
    (discipline rt).Spec me (report outcome)
      (fun s => s.Resting me ∧ outcome.Backed s.cells me) fun _ s => s.Resting me := by
  refine (neutralAct (M := fun _ _ => True) (stable_rested (Lasting.backed me outcome))
    fun s choice result after ok held ran => ?_).post fun _ _ _ held => held.1.1
  obtain ⟨_, rfl⟩ := Prod.mk.injEq .. ▸ Option.some.inj ran
  exact ⟨.report ok held.2, trivial⟩

namespace Admission

theorem hold_spec :
    (discipline rt).Spec me (hold (P := P) entry) (fun s => s.Resting me)
      fun _ s => s.Resting me ∧ s.Issued entry := by
  refine neutralAct (Sheltered.resting none).stable fun s choice result after ok held ran => ?_
  cases found : s.cells entry.id with
  | none =>
      simp only [found] at ran
      cases ran
  | some cell =>
      simp only [found] at ran
      split at ran
      · rename_i handed
        obtain ⟨_, rfl⟩ := Prod.mk.injEq .. ▸ Option.some.inj ran
        exact ⟨.refl ok, cell, found, handed⟩
      · cases ran

omit [DecidableEq T] in
theorem known_of_issued {s : Gate T P} (issued : s.Issued entry) : s.Known entry := by
  obtain ⟨cell, found, same, _⟩ := issued
  exact ⟨cell, found, same⟩

abbrev Holding (me : Nat) (entry : Entry T) (s : Gate T P) : Prop := s.Resting me ∧ s.Issued entry

theorem stable_holding : (discipline rt).Stable me (Holding (P := P) me entry) :=
  stable_rested (Lasting.issued entry)

theorem state_spec :
    (discipline rt).Spec me (state (P := P) entry) (Holding me entry)
      fun outcome s => s.Resting me ∧ outcome.Backed s.cells me := by
  refine .bind (clockNow_past stable_holding) fun now => ?_
  refine .bind ((Entry.observedAt_spec stable_holding (fun s held => held.2) nofun).pre
    fun s _ held => held.1) fun observed => ?_
  refine .done fun s _ held => ⟨held.1.1, fun authoritative => ?_⟩
  cases observed with
  | allowed => exact held.2
  | denied => exact held.2
  | expired | stale => exact absurd authoritative EntryState.not_authoritative_stale

theorem check_spec :
    (discipline rt).Spec me (check (P := P) entry) (Holding me entry)
      fun outcome s => s.Resting me ∧ outcome.Backed s.cells me := by
  refine .bind (clockNow_past stable_holding) fun now => ?_
  refine .bind ((Entry.currentAt_spec (M := fun value _ => value.state ≠ .pending) stable_holding
    (fun s held => known_of_issued held.2) nofun (fun _ => .const _)
    fun s cell ok held found _ => Entry.not_pending_of_issued ok held.2 found).pre
    fun s _ held => held.1) ?_
  rintro ⟨current, expired⟩
  cases expired with
  | true =>
      exact .done fun s _ held => ⟨held.1.1, fun authoritative =>
        absurd authoritative EntryState.not_authoritative_stale⟩
  | false =>
      have observed : (discipline rt).Stable me fun s : Gate T P => Holding me entry s ∧
          Observation s.cells entry .check me now current :=
        stable_holding.and (Lasting.observation entry .check me now current).stable
      have answer : (discipline rt).Spec me
          (do
            let due ← entry.refreshDueAt current now
            pure (Outcome.checked entry now current.state due))
          (fun s : Gate T P => Holding me entry s ∧ Observation s.cells entry .check me now current ∧
            current.state ≠ .pending)
          fun outcome s => s.Resting me ∧ outcome.Backed s.cells me := by
        refine .bind ((Entry.refreshDueAt_spec observed fun s held => known_of_issued held.1.2).pre
          fun s _ held => ⟨held.1, held.2.1⟩) fun due => ?_
        exact .done fun s _ held => ⟨held.2.1.1, fun _ => ⟨current, held.2.2, rfl⟩⟩
      refine Discipline.Spec.pre (P := fun s => Holding me entry s ∧
        Observation s.cells entry .check me now current ∧ current.state ≠ .pending) ?_ fun s _ held =>
          ⟨held.1, held.2.2 rfl⟩
      simp only [Bool.false_eq_true, ↓reduceIte]
      split
      · rename_i pending
        exact Discipline.Spec.never.pre fun s _ held => held.2.2 pending
      · exact answer
      · exact answer
      · exact answer

theorem payload_spec :
    (discipline rt).Spec me (payload (P := P) entry) (Holding me entry)
      fun outcome s => s.Resting me ∧ outcome.Backed s.cells me := by
  refine .bind (clockNow_past stable_holding) fun now => ?_
  refine .bind ((Entry.currentAt_spec (M := fun _ _ => True) stable_holding
    (fun s held => known_of_issued held.2) nofun (fun _ => .const _) fun _ _ _ _ _ _ => trivial).pre
    fun s _ held => held.1) ?_
  rintro ⟨current, expired⟩
  refine .done fun s _ held => ⟨held.1.1, ?_⟩
  cases expired with
  | true => trivial
  | false =>
      cases carried : payloadOf current false with
      | none => trivial
      | some payload =>
          unfold payloadOf at carried
          split at carried
          · rename_i allowed
            simp only [Bool.not_false, Bool.true_and, decide_eq_true_eq] at allowed
            exact ⟨current, (held.2.2 rfl).1, allowed, carried⟩
          · cases carried

end Admission

theorem Call.program_spec (call : Call T) :
    (discipline rt).Spec me (call.program (P := P) rt) (fun s => s.Resting me)
      fun _ s => s.Resting me := by
  cases call with
  | admitSubject subject =>
      exact .bind admit_spec fun _ => report_spec.pre fun s _ held => ⟨held.1, held.2.1⟩
  | tryCached subject => exact .bind check_spec fun _ => report_spec
  | checkWithoutRefresh subject => exact .bind checkWithoutRefresh_spec fun _ => report_spec
  | refresh subject admission =>
      refine .bind Admission.hold_spec fun _ => ?_
      refine .bind (refreshEntry_spec.pre fun s _ held =>
        ⟨Admission.known_of_issued held.2, held.1⟩) fun _ => ?_
      exact report_spec.pre fun s _ held => ⟨held, trivial⟩
  | state admission =>
      exact .bind Admission.hold_spec fun _ => .bind Admission.state_spec fun _ => report_spec
  | check admission =>
      exact .bind Admission.hold_spec fun _ => .bind Admission.check_spec fun _ => report_spec
  | payload admission =>
      exact .bind Admission.hold_spec fun _ => .bind Admission.payload_spec fun _ => report_spec
  | invalidate admission =>
      refine .bind Admission.hold_spec fun _ => ?_
      refine .bind (Entry.invalidate_keeps Admission.stable_holding fun s held =>
        Admission.known_of_issued held.2) fun _ => ?_
      exact report_spec.pre fun s _ held => ⟨held.1, trivial⟩
  | poll generation => exact runFetch_spec

theorem environment_step {s after : Gate T P} {event : GateEvent T P} (ok : s.Invariant rt.config)
    (happened : Gate.environment event s = some after) : NeutralStep rt.config s after := by
  cases event with
  | advance duration =>
      obtain rfl := Option.some.inj happened
      exact .advance ok duration
  | decide change =>
      obtain rfl := Option.some.inj happened
      exact .decide ok
  | streamError error =>
      obtain rfl := Option.some.inj happened
      exact .emit ok rfl
  | streamEnd =>
      obtain rfl := Option.some.inj happened
      exact .emit ok rfl
  | answer generation answer =>
      simp only [Gate.environment] at happened
      split at happened
      · rename_i flight flown
        split at happened
        · rename_i poller calling unanswered
          obtain rfl := Option.some.inj happened
          exact .answer ok flown calling unanswered
        · cases happened
      · cases happened

theorem environment_neutral (event : GateEvent T P) (s after : Gate T P)
    (ok : (discipline rt).invariant s) (happened : Gate.environment event s = some after) :
    (discipline rt).invariant after ∧ (discipline rt).Neutral s after :=
  have step := environment_step ok happened
  ⟨step.invariant, step.rely⟩

theorem Gate.invariant_new (now : Nat) (authority : T → Option Decision) (config : PolicyGateConfig) :
    (Gate.new (P := P) now authority).Invariant config where
  freshEntry _ _ := rfl
  freshGeneration _ _ := rfl
  cells _ _ found := (nomatch found)
  flights _ _ flown := (nomatch flown)
  slots := ⟨fun _ _ _ found => (nomatch found), fun _ _ flown => (nomatch flown)⟩
  map :=
    { slots := fun _ member => (nomatch member), limbo := fun _ member => (nomatch member),
      placed := fun _ _ found => (nomatch found), unlocked := fun _ => rfl,
      apart := fun _ member => (nomatch member) }
  session :=
    { era := fun _ era => (nomatch era), opened := fun phase => (nomatch phase),
      connected := fun phase => (nomatch phase), current := fun connected => (nomatch connected),
      reached := le_rfl, down := fun _ => rfl, stream := by simp [Gate.new] }
  snapshot := ⟨fun _ member => (nomatch member), fun _ => rfl⟩
  copies :=
    { bounded := fun _ member => (nomatch member), fresh := fun _ connected => (nomatch connected),
      stored := fun _ connected => (nomatch connected) }
  queue :=
    { queued := fun _ member => (nomatch member), inflight := fun _ member => (nomatch member),
      distinct := .nil, waiting := fun _ _ flown => (nomatch flown),
      flying := fun _ _ flown => (nomatch flown) }
  agreement streaming := (nomatch streaming)
  outcomes _ _ returned := (nomatch returned)
  reachable := rfl

theorem covered_start (authority : T → Option Decision) (calls : Nat → Call T) :
    (start (P := P) rt authority calls).Covered (discipline rt) := by
  refine ⟨Gate.invariant_new rt.constructed authority rt.config, fun thread => ?_⟩
  cases thread with
  | zero => exact ⟨Duty (Between .idle), (sheltered_duty _).stable, ⟨nofun, rfl, rfl⟩, watchSource_spec⟩
  | succ thread =>
      exact ⟨_, (Sheltered.resting none).stable, nofun, (calls thread).program_spec⟩

section

variable {authority : T → Option Decision} {calls : Nat → Call T} {c later : Config (Gate T P)}

theorem Reachable.covered (reached : Reachable rt authority calls c) : c.Covered (discipline rt) := by
  obtain ⟨moves, ran⟩ := reached
  exact (covered_start authority calls).run environment_neutral ran

theorem Reachable.invariant (reached : Reachable rt authority calls c) :
    c.shared.Invariant rt.config :=
  reached.covered.1

theorem Reachable.leads (reached : Reachable rt authority calls c) (leads : Leads c later) :
    Reachable rt authority calls later := by
  obtain ⟨moves, ran⟩ := reached
  obtain ⟨more, further⟩ := leads
  refine ⟨moves ++ more, ?_⟩
  rw [Config.run_append, ran]
  exact further

/-- Whatever lasts, lasts through the run. -/
theorem Reachable.extends (reached : Reachable rt authority calls c) (leads : Leads c later) :
    Extends c.shared later.shared := by
  obtain ⟨more, further⟩ := leads
  exact reached.covered.run_extends environment_neutral Extends.refl (fun _ _ _ => Extends.trans)
    (fun _ _ _ rely => rely.toExtends) further

end

end PolicyGate
