import PolicyGate.Audit.Calls
import PolicyGate.Properties.Runs

namespace PolicyGate

open Interleaving

variable {T P : Type} [DecidableEq T] {rt : Runtime} {authority : T → Option Decision}
  {calls : Nat → Call T} {c next later : Config (Gate T P)}

def Gate.Sent (s : Gate T P) (generation : Nat) : Prop :=
  ∃ flight, s.flights generation = some flight ∧ flight.stage.sent = true

/-- The queue lost some refreshes at its front, and behind the others came refreshes that were handed
over since. -/
def Onward (before after : Gate T P) : Prop :=
  ∃ rest added, rest <:+ before.queue ∧ after.queue = rest ++ added ∧
    ∀ fetch ∈ added, ¬ before.Sent fetch.generation

omit [DecidableEq T] in
theorem Onward.refl (s : Gate T P) : Onward s s :=
  ⟨s.queue, [], List.suffix_rfl, (List.append_nil _).symm, nofun⟩

omit [DecidableEq T] in
theorem Onward.trans {first second third : Gate T P}
    (sent : ∀ generation, first.Sent generation → second.Sent generation)
    (head : Onward first second) (tail : Onward second third) : Onward first third := by
  obtain ⟨rest, added, left, isSecond, unsent⟩ := head
  obtain ⟨rest', added', left', isThird, unsent'⟩ := tail
  have later : ∀ fetch ∈ added', ¬ first.Sent fetch.generation := fun fetch member was =>
    unsent' fetch member (sent _ was)
  obtain ⟨taken, split⟩ := left'
  rcases List.append_eq_append_iff.mp (split.trans isSecond) with ⟨kept, rfl, rfl⟩ | ⟨gone, _, rfl⟩
  · refine ⟨kept, added ++ added', (List.suffix_append taken kept).trans left, ?_, fun fetch member => ?_⟩
    · rw [isThird, List.append_assoc]
    · exact (List.mem_append.mp member).elim (unsent fetch) (later fetch)
  · refine ⟨[], rest' ++ added', List.nil_suffix, isThird, fun fetch member => ?_⟩
    exact (List.mem_append.mp member).elim
      (fun old => unsent fetch (List.mem_append_right gone old)) (later fetch)

theorem Reachable.sent_move {m : Move (GateEvent T P)} (reached : Reachable rt authority calls c)
    (moved : c.move Gate.environment m = some next) {generation : Nat}
    (sent : c.shared.Sent generation) : next.shared.Sent generation := by
  rcases reached.advance moved with step | same
  · obtain ⟨flight, flown, sent⟩ := sent
    obtain ⟨flight', flown', grows⟩ := step.flights generation flight flown
    exact ⟨flight', flown', grows.sent sent⟩
  · exact same ▸ sent

theorem Reachable.queue_move {m : Move (GateEvent T P)} (reached : Reachable rt authority calls c)
    (moved : c.move Gate.environment m = some next) : Onward c.shared next.shared := by
  rcases reached.step moved with step | same
  · rcases step.periphery.queue with same | ⟨_, _, fetch, thread, appended, validated⟩ | ⟨_, count, taken⟩
    · exact ⟨c.shared.queue, [], List.suffix_rfl, same.trans (List.append_nil _).symm, nofun⟩
    · refine ⟨c.shared.queue, [fetch], List.suffix_rfl, appended, fun other member sent => ?_⟩
      obtain rfl := List.mem_singleton.mp member
      obtain ⟨flight, flown, sent⟩ := sent
      have stage : .validated thread = flight.stage :=
        Option.some.inj (validated.symm.trans (Gate.stageOf_of_flights flown))
      rw [← stage] at sent
      cases sent
    · exact ⟨c.shared.queue.drop count, [], List.drop_suffix _ _, taken.trans (List.append_nil _).symm, nofun⟩
  · exact same ▸ .refl _

theorem Reachable.closed_move {m : Move (GateEvent T P)} (reached : Reachable rt authority calls c)
    (moved : c.move Gate.environment m = some next) (closed : c.shared.queueClosed = true) :
    next.shared.queueClosed = true := by
  rcases reached.step moved with step | same
  · exact step.periphery.closed closed
  · rw [same]
    exact closed

theorem Reachable.queue_run {moves : List (Move (GateEvent T P))}
    (reached : Reachable rt authority calls c) (ran : c.run Gate.environment moves = some later) :
    Onward c.shared later.shared ∧
      (c.shared.queueClosed = true → later.shared.queueClosed = true) := by
  induction moves generalizing c with
  | nil =>
      simp only [Config.run, Option.some.injEq] at ran
      exact ran ▸ ⟨.refl _, id⟩
  | cons m rest ih =>
      simp only [Config.run, Option.bind_eq_some_iff] at ran
      obtain ⟨next, moved, ran⟩ := ran
      obtain ⟨onward, closed⟩ := ih (reached.leads (.of_move moved)) ran
      exact ⟨(reached.queue_move moved).trans (fun _ => reached.sent_move moved) onward,
        closed ∘ reached.closed_move moved⟩

/-- The queue never holds more refreshes than its capacity.  Over any run what stays in it is a suffix
of what was in it, and what came behind was handed over since; and once it is closed it stays so, and
empty. -/
theorem refresh_queue_in_order (reached : Reachable rt authority calls c) (leads : Leads c later) :
    later.shared.queue.length ≤ rt.config.refreshQueueCapacity ∧
    Onward c.shared later.shared ∧
    (c.shared.queueClosed = true → later.shared.queueClosed = true ∧ later.shared.queue = []) := by
  have periphery := (reached.leads leads).audited.1.periphery
  obtain ⟨moves, ran⟩ := leads
  obtain ⟨onward, closed⟩ := reached.queue_run ran
  exact ⟨periphery.bounded, onward, fun was => ⟨closed was, periphery.drained (closed was)⟩⟩

def Sample.received (before after : Gate Nat Nat) : Bool :=
  before.queue.length = 1 && after.queue.isEmpty

theorem refresh_queue_in_order_sample : ∃ c later : Config (Gate Nat Nat),
    Reachable Sample.runtime (fun _ => some .allowed)
        (Sample.asking [.admitSubject 0, .poll 0, .tryCached 0]) c ∧
      Leads c later ∧ c.shared.queue.length = 1 ∧ later.shared.queue = [] ∧
      Onward c.shared later.shared := by
  obtain ⟨c, later, reached, leads, passed⟩ := Reachable.leads_of_run Sample.runtime
    (fun _ => some .allowed) (Sample.asking [.admitSubject 0, .poll 0, .tryCached 0]) Sample.claims
    (Sample.turns 0 1 1) Sample.received (by decide +kernel)
  simp only [Sample.received, Bool.and_eq_true, decide_eq_true_eq, List.isEmpty_iff] at passed
  exact ⟨c, later, reached, leads, passed.1, passed.2, (refresh_queue_in_order reached leads).2.1⟩

end PolicyGate
