import PolicyGate.Audit.Calls
import PolicyGate.Properties.Lookups

namespace PolicyGate

open Interleaving

variable {T P : Type} [DecidableEq T] {rt : Runtime} {authority : T → Option Decision}
  {calls : Nat → Call T} {c next later : Config (Gate T P)} {moves : List (Move (GateEvent T P))}

theorem Reachable.answer_move {m : Move (GateEvent T P)} {generation : Nat} {flight' : Flight T P}
    {answer : Answer P} (reached : Reachable rt authority calls c)
    (moved : c.move Gate.environment m = some next)
    (flown' : next.shared.flights generation = some flight') (answered : flight'.answer = some answer) :
    (∃ flight, c.shared.flights generation = some flight ∧ flight.answer = some answer) ∨
      m = .environment (.answer generation answer) := by
  rcases reached.step moved with step | same
  · rcases step.entries.answered generation flight' answer flown' answered with known | outside
    · exact .inl known
    · cases m with
      | run pick => cases outside
      | drop thread => cases outside
      | environment event =>
          simp only [Config.move, Option.map_eq_some_iff] at moved
          obtain ⟨shared, happened, rfl⟩ := moved
          cases event with
          | advance duration =>
              obtain rfl := Option.some.inj happened
              exact .inl ⟨flight', flown', answered⟩
          | decide change =>
              obtain rfl := Option.some.inj happened
              exact .inl ⟨flight', flown', answered⟩
          | streamError error =>
              obtain rfl := Option.some.inj happened
              exact .inl ⟨flight', flown', answered⟩
          | streamEnd =>
              obtain rfl := Option.some.inj happened
              exact .inl ⟨flight', flown', answered⟩
          | answer asked given =>
              simp only [Gate.environment] at happened
              split at happened
              · rename_i flight flown
                split at happened
                · obtain rfl := Option.some.inj happened
                  rcases Data.update_map_eq_some flown' with ⟨rfl, one, _, rfl⟩ | ⟨_, was⟩
                  · exact .inr (by rw [Option.some.inj answered])
                  · exact .inl ⟨flight', was, answered⟩
                · cases happened
              · cases happened
  · exact .inl ⟨flight', same ▸ flown', answered⟩

theorem Reachable.answer_run {generation : Nat} {flight' : Flight T P} {answer : Answer P}
    (reached : Reachable rt authority calls c) (ran : c.run Gate.environment moves = some later)
    (flown' : later.shared.flights generation = some flight') (answered : flight'.answer = some answer) :
    (∃ flight, c.shared.flights generation = some flight ∧ flight.answer = some answer) ∨
      .environment (.answer generation answer) ∈ moves := by
  induction moves generalizing c with
  | nil =>
      simp only [Config.run, Option.some.injEq] at ran
      exact .inl ⟨flight', ran ▸ flown', answered⟩
  | cons m rest ih =>
      simp only [Config.run, Option.bind_eq_some_iff] at ran
      obtain ⟨next, moved, ran⟩ := ran
      rcases ih (reached.leads (.of_move moved)) ran with ⟨flight, flown, given⟩ | given
      · rcases reached.answer_move moved flown given with known | rfl
        · exact .inl known
        · exact .inr (List.mem_cons_self ..)
      · exact .inr (List.mem_cons_of_mem _ given)

/-- Whatever a lookup publishes, in any entry, the source answered that lookup with it in this run. -/
theorem published_decisions_answered
    (ran : (start rt authority calls).run Gate.environment moves = some c) {id : Nat}
    {cell : EntryCell T P} {publication : Publication P} {generation : Nat}
    (found : c.shared.cells id = some cell) (member : .published publication ∈ cell.log)
    (fetched : publication.origin.lookup = some generation) :
    .environment (.answer generation (.result (some publication.result))) ∈ moves := by
  have reached : Reachable rt authority calls c := ⟨moves, ran⟩
  have first : Reachable rt authority calls (start (P := P) rt authority calls) := ⟨[], rfl⟩
  obtain ⟨flight, flown, _, _, answered⟩ :=
    Publication.Sourced.answered ((reached.invariant.cells id cell found).sourced _ member) fetched
  rcases first.answer_run ran flown answered with ⟨flight, flown, _⟩ | given
  · cases flown
  · exact given

theorem published_decisions_answered_sample : ∃ (c : Config (Gate Nat Nat)) (cell : EntryCell Nat Nat)
    (publication : Publication Nat),
    (start Sample.runtime (fun _ => some .allowed) (Sample.asking [.admitSubject 0, .poll 0])).run
        Gate.environment (Sample.admits .allowed (some 7)) = some c ∧
      c.shared.cells 0 = some cell ∧ .published publication ∈ cell.log ∧
      .environment (.answer 0 (.result (some publication.result))) ∈
        Sample.admits .allowed (some 7) := by
  have runs : ((start Sample.runtime (fun _ => some .allowed)
      (Sample.asking [.admitSubject 0, .poll 0])).run Gate.environment
        (Sample.admits .allowed (some 7))).any (fun c => Sample.publishedByLookup c.shared) = true := by
    decide +kernel
  obtain ⟨c, ran, passed⟩ := (Option.any_eq_true _ _).mp runs
  obtain ⟨cell, found, passed⟩ := (Option.any_eq_true _ _).mp passed
  obtain ⟨event, member, passed⟩ := List.any_eq_true.mp passed
  split at passed
  · rename_i publication
    exact ⟨c, cell, publication, ran, found, member,
      published_decisions_answered ran found member (of_decide_eq_true passed)⟩
  · cases passed

end PolicyGate
