import PolicyGate.Specs.Calls

namespace PolicyGate

open Interleaving

variable {T P : Type} [DecidableEq T] {rt : Runtime} {authority : T → Option Decision}
  {calls : Nat → Call T} {c next later : Config (Gate T P)}

theorem Leads.refl (c : Config (Gate T P)) : Leads c c := ⟨[], rfl⟩

theorem Leads.of_move {m : Move (GateEvent T P)} (moved : c.move Gate.environment m = some next) :
    Leads c next := ⟨[m], by simp only [Config.run, moved, Option.bind_some]⟩

theorem Leads.trans (first : Leads c next) (second : Leads next later) : Leads c later := by
  obtain ⟨moves, ran⟩ := first
  obtain ⟨more, further⟩ := second
  refine ⟨moves ++ more, ?_⟩
  rw [Config.run_append, ran]
  exact further

theorem Reachable.advance {m : Move (GateEvent T P)} (reached : Reachable rt authority calls c)
    (moved : c.move Gate.environment m = some next) :
    Advance c.shared next.shared ∨ next.shared = c.shared := by
  obtain ⟨_, stepped⟩ := reached.covered.move environment_neutral moved
  obtain ⟨witness, other⟩ : ∃ witness, m.actor ≠ some witness := by
    cases m.actor with
    | none => exact ⟨0, nofun⟩
    | some thread => exact ⟨thread + 1, by simp⟩
  exact (stepped witness other).imp_left fun rely => rely.toAdvance

/-- The move from `before` to `after` notes `event` over `earlier` in the log of entry `id`. -/
structure Notes (id : Nat) (event : EntryEvent T P) (earlier : EntryLog T P)
    (before after : Gate T P) : Prop where
  before : ∃ cell, before.cells id = some cell ∧ cell.log = earlier
  after : ∃ cell, after.cells id = some cell ∧ cell.log = event :: earlier

theorem Reachable.noted {id : Nat} {cell : EntryCell T P} {event : EntryEvent T P}
    {recent earlier : EntryLog T P} (reached : Reachable rt authority calls c)
    (found : c.shared.cells id = some cell) (split : cell.log = recent ++ event :: earlier) :
    ∃ before after, Reachable rt authority calls before ∧
      (∃ m, before.move Gate.environment m = some after) ∧ Leads after c ∧
      Notes id event earlier before.shared after.shared := by
  obtain ⟨moves, ran⟩ := reached
  induction moves using List.reverseRecOn generalizing c cell recent with
  | nil =>
      obtain rfl := Option.some.inj ran
      cases found
  | append_singleton moves last ih =>
      obtain ⟨previous, ranPrevious, further⟩ := Option.bind_eq_some_iff.mp
        ((Config.run_append _ _ moves [last]).symm.trans ran)
      obtain ⟨after, moved, same⟩ := Option.bind_eq_some_iff.mp further
      obtain rfl := Option.some.inj same
      have fromPrevious : ∀ (cell' : EntryCell T P) (recent' : EntryLog T P),
          previous.shared.cells id = some cell' → cell'.log = recent' ++ event :: earlier →
          ∃ before after', Reachable rt authority calls before ∧
            (∃ m, before.move Gate.environment m = some after') ∧ Leads after' after ∧
            Notes id event earlier before.shared after'.shared := by
        intro cell' recent' found' split'
        obtain ⟨before, after', reachedBefore, moves', leads, notes⟩ := ih found' split' ranPrevious
        exact ⟨before, after', reachedBefore, moves', leads.trans (.of_move moved), notes⟩
      rcases Reachable.advance ⟨moves, ranPrevious⟩ moved with step | unchanged
      · cases known : previous.shared.cells id with
        | none =>
            rw [step.blank id cell known found] at split
            simp at split
        | some cell' =>
            rcases step.paced id cell' cell known found with same | ⟨newest, noted⟩
            · exact fromPrevious cell' recent known (same ▸ split)
            · rw [noted] at split
              cases recent with
              | nil =>
                  obtain ⟨rfl, rfl⟩ := List.cons.inj split
                  exact ⟨previous, after, ⟨moves, ranPrevious⟩, ⟨last, moved⟩, .refl after,
                    ⟨cell', known, rfl⟩, ⟨cell, found, noted⟩⟩
              | cons head rest => exact fromPrevious cell' rest known (List.cons.inj split).2
      · exact fromPrevious cell recent (unchanged ▸ found) split

/-- A run that exists, and what a test of its last state says. -/
theorem Reachable.of_run (rt : Runtime) (authority : T → Option Decision) (calls : Nat → Call T)
    (moves : List (Move (GateEvent T P))) (test : Gate T P → Bool)
    (ran : ((start rt authority calls).run Gate.environment moves).any
      (fun c => test c.shared) = true) :
    ∃ c, Reachable rt authority calls c ∧ test c.shared = true := by
  obtain ⟨c, ran, passed⟩ := (Option.any_eq_true _ _).mp ran
  exact ⟨c, ⟨moves, ran⟩, passed⟩

theorem Reachable.leads_of_run (rt : Runtime) (authority : T → Option Decision)
    (calls : Nat → Call T) (moves more : List (Move (GateEvent T P)))
    (test : Gate T P → Gate T P → Bool)
    (ran : ((start rt authority calls).run Gate.environment moves).any
      (fun c => (c.run Gate.environment more).any fun later => test c.shared later.shared) = true) :
    ∃ c later, Reachable rt authority calls c ∧ Leads c later ∧
      test c.shared later.shared = true := by
  obtain ⟨c, ran, further⟩ := (Option.any_eq_true _ _).mp ran
  obtain ⟨later, further, passed⟩ := (Option.any_eq_true _ _).mp further
  exact ⟨c, later, ⟨moves, ran⟩, ⟨more, further⟩, passed⟩

def Gate.testHonest (s : Gate T P) : Bool :=
  (List.range s.nextGeneration).all fun generation => (s.flights generation).all fun flight =>
    match flight.answer with
    | some (.result result) => result.map DecisionResult.decision = flight.truth
    | _ => true

omit [DecidableEq T] in
theorem Gate.Invariant.honest {config : PolicyGateConfig} {s : Gate T P} [DecidableEq T]
    (ok : s.Invariant config) (tested : s.testHonest = true) : s.Honest := by
  intro generation flight result flown answered
  have below : generation < s.nextGeneration := by
    by_contra beyond
    rw [ok.freshGeneration generation (Nat.le_of_not_lt beyond)] at flown
    cases flown
  have tested := List.all_eq_true.mp tested generation (List.mem_range.mpr below)
  rw [flown, Option.all_some, answered] at tested
  exact of_decide_eq_true tested

namespace Sample

def asking (asked : List (Call Nat)) (thread : Nat) : Call Nat := asked.getD thread (.tryCached 0)

def runtime : Runtime where
  config := { decisionFreshnessTtl := 100, refreshBeforeExpiry := 40 }
  latest := 10 ^ 30
  constructed := 0

def tiny : Runtime :=
  { runtime with config := { runtime.config with maxSubjects := 1 } }

def turns (thread choice count : Nat) : List (Move (GateEvent Nat Nat)) :=
  List.replicate count (.run ⟨thread, choice⟩)

def answers (generation : Nat) (decision : Decision) (payload : Option Nat) :
    List (Move (GateEvent Nat Nat)) :=
  [.environment (.answer generation (.result (some { decision, payload })))]

def connects : List (Move (GateEvent Nat Nat)) := turns 0 2 14

def admits (decision : Decision) (payload : Option Nat) : List (Move (GateEvent Nat Nat)) :=
  connects ++ turns 1 2 69 ++ turns 2 0 5 ++ answers 0 decision payload ++ turns 2 1 1 ++
    turns 2 0 10 ++ turns 1 1 11

def entry : Entry Nat := { id := 0, subject := 0, epoch := 0, refreshBefore := 40 }

def claims : List (Move (GateEvent Nat Nat)) :=
  admits .allowed none ++ [.environment (.advance 70)] ++ turns 3 2 29

def refreshes : List (Move (GateEvent Nat Nat)) := claims ++ turns 0 1 1 ++ turns 4 0 5

def disconnects : List (Move (GateEvent Nat Nat)) :=
  [.environment .streamEnd] ++ turns 0 2 14 ++ turns 0 0 2

def inState (state : EntryState) (s : Gate Nat Nat) : Bool :=
  (s.cells 0).any fun cell => cell.state = state

theorem cell_of_inState {state : EntryState} {s : Gate Nat Nat} (passed : inState state s = true) :
    ∃ cell, s.cells 0 = some cell ∧ cell.state = state := by
  obtain ⟨cell, found, same⟩ := (Option.any_eq_true _ _).mp passed
  exact ⟨cell, found, of_decide_eq_true same⟩

end Sample

end PolicyGate
