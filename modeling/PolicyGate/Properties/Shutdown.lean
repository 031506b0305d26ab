import PolicyGate.Properties.RefreshQueue

namespace PolicyGate

open Interleaving

variable {T P : Type} [DecidableEq T] {rt : Runtime} {authority : T → Option Decision}
  {calls : Nat → Call T} {c next later : Config (Gate T P)} {moves : List (Move (GateEvent T P))}

/-- The watcher gives up the gate only after it has closed the queue and ended its session. -/
def Gate.Dropped (s : Gate T P) : Prop :=
  s.watch.closed = true → s.queueClosed = true ∧ s.watch.phase = .idle

theorem Reachable.dropped_move {m : Move (GateEvent T P)} (reached : Reachable rt authority calls c)
    (moved : c.move Gate.environment m = some next) (dropped : c.shared.watch.closed = true) :
    next.shared.watch = c.shared.watch := by
  rcases reached.step moved with step | same
  · have other : m.actor ≠ some 0 := step.periphery.watcher dropped
    rcases (reached.covered.move environment_neutral moved).2 0 other with rely | same
    · exact (rely.watch rfl).1
    · rw [same]
  · rw [same]

theorem Reachable.dropped_step {m : Move (GateEvent T P)} (reached : Reachable rt authority calls c)
    (moved : c.move Gate.environment m = some next) (was : c.shared.Dropped) : next.shared.Dropped := by
  intro dropped
  cases opened : c.shared.watch.closed with
  | true =>
      obtain ⟨closed, idle⟩ := was opened
      exact ⟨reached.closed_move moved closed, reached.dropped_move moved opened ▸ idle⟩
  | false =>
      rcases reached.step moved with step | same
      · exact step.periphery.dropped opened dropped
      · rw [same, opened] at dropped
        cases dropped

theorem Reachable.dropped_run (reached : Reachable rt authority calls c)
    (ran : c.run Gate.environment moves = some later) (was : c.shared.Dropped) :
    later.shared.Dropped ∧ (c.shared.watch.closed = true → later.shared.watch = c.shared.watch) := by
  induction moves generalizing c with
  | nil =>
      simp only [Config.run, Option.some.injEq] at ran
      exact ran ▸ ⟨was, fun _ => rfl⟩
  | cons m rest ih =>
      simp only [Config.run, Option.bind_eq_some_iff] at ran
      obtain ⟨next, moved, ran⟩ := ran
      obtain ⟨onward, frozen⟩ := ih (reached.leads (.of_move moved)) ran (reached.dropped_step moved was)
      refine ⟨onward, fun dropped => ?_⟩
      have same := reached.dropped_move moved dropped
      exact (frozen (same ▸ dropped)).trans same

theorem Reachable.dropped (reached : Reachable rt authority calls c) : c.shared.Dropped := by
  have first : Reachable rt authority calls (start (P := P) rt authority calls) := ⟨[], rfl⟩
  obtain ⟨moves, ran⟩ := reached
  exact (first.dropped_run ran fun dropped => by cases dropped).1

/-- A dropped watcher is final: from then on the watch stays as it is, disconnected and without a
stream, the snapshot stays empty, and the refresh queue stays closed and empty. -/
theorem dropped_watcher_is_final (reached : Reachable rt authority calls c)
    (dropped : c.shared.watch.closed = true) (leads : Leads c later) :
    later.shared.watch = c.shared.watch ∧ later.shared.watch.connected = false ∧
      later.shared.stream = none ∧ later.shared.snapshot = [] ∧
      later.shared.queueClosed = true ∧ later.shared.queue = [] := by
  have last := reached.leads leads
  obtain ⟨moves, ran⟩ := leads
  have frozen := (reached.dropped_run ran reached.dropped).2 dropped
  obtain ⟨closed, idle⟩ := last.dropped (frozen ▸ dropped)
  have ok := last.invariant
  have down := ok.session.down (.inl idle)
  refine ⟨frozen, down, ?_, ok.snapshot.empty down, closed, last.audited.1.periphery.drained closed⟩
  cases streaming : later.shared.stream with
  | none => rfl
  | some items =>
      have phase := ok.session.stream.mp (by rw [streaming]; rfl)
      rw [idle] at phase
      rcases phase with phase | phase <;> cases phase

def Sample.dropped (before after : Gate Nat Nat) : Bool :=
  before.watch.closed && before.clock < after.clock

theorem dropped_watcher_is_final_sample : ∃ c later : Config (Gate Nat Nat),
    Reachable Sample.runtime (fun _ => some .allowed) (Sample.asking []) c ∧ Leads c later ∧
      c.shared.watch.closed = true ∧ c.shared.clock < later.shared.clock ∧
      later.shared.watch.connected = false ∧ later.shared.queueClosed = true := by
  obtain ⟨c, later, reached, leads, passed⟩ := Reachable.leads_of_run Sample.runtime
    (fun _ => some .allowed) (Sample.asking []) (Sample.connects ++ [.drop 0] ++ Sample.turns 0 0 15)
    [.environment (.decide { subject := 0, decision := some .denied }), .environment (.advance 5)]
    Sample.dropped (by decide +kernel)
  simp only [Sample.dropped, Bool.and_eq_true, decide_eq_true_eq] at passed
  obtain ⟨_, down, _, _, closed, _⟩ := dropped_watcher_is_final reached passed.1 leads
  exact ⟨c, later, reached, leads, passed.1, passed.2, down, closed⟩

end PolicyGate
