import PolicyGate.Audit.Calls
import PolicyGate.Properties.Runs

namespace PolicyGate

open Interleaving

variable {T P : Type} [DecidableEq T] {rt : Runtime} {authority : T → Option Decision}
  {calls : Nat → Call T} {c next later : Config (Gate T P)}

/-- An entry that is `Pending` is never left alone: in its slot there is a cold lookup of its own
subject that was neither aborted nor has finished. -/
theorem pending_entries_attended (reached : Reachable rt authority calls c) {id : Nat}
    {cell : EntryCell T P} (found : c.shared.cells id = some cell) (idle : cell.state = .pending) :
    ∃ fetch flight, cell.pending = some fetch ∧ c.shared.flights fetch.generation = some flight ∧
      flight.fetch = fetch ∧ fetch.entry = cell.entry ∧ fetch.subject = cell.entry.subject ∧
      fetch.refreshFrom = none ∧ flight.aborted = false ∧ flight.stage ≠ .finished := by
  have ok := reached.invariant
  obtain ⟨fetch, flight, inSlot, flown, unfinished⟩ :=
    reached.audited.1.lookups.attended id cell found idle
  obtain ⟨flight', flown', same, home, untaken, _⟩ := ok.slots.held id cell fetch found inSlot
  obtain rfl : flight = flight' := Option.some.inj (flown.symm.trans flown')
  have sound := ok.flights _ flight flown
  subst same
  refine ⟨_, flight, inSlot, flown, rfl, home, home ▸ sound.subject, ?_, ?_, unfinished⟩
  · cases refresh : flight.fetch.refreshFrom with
    | none => rfl
    | some current =>
        obtain ⟨settled, foundSettled, busy⟩ := ok.settled_of_refresh flown (by rw [refresh]; rfl)
        rw [home, (ok.cells id cell found).identity] at foundSettled
        exact absurd (Option.some.inj (found.symm.trans foundSettled) ▸ idle) busy
  · cases aborted : flight.aborted with
    | false => rfl
    | true =>
        rw [sound.aborted aborted] at untaken
        cases untaken

theorem pending_entries_attended_sample : ∃ (c : Config (Gate Nat Nat)) (cell : EntryCell Nat Nat)
    (fetch : PendingFetch Nat Nat) (flight : Flight Nat Nat),
    Reachable Sample.runtime (fun _ => some .allowed) (Sample.asking [.admitSubject 0]) c ∧
      c.shared.cells 0 = some cell ∧ cell.state = .pending ∧ cell.pending = some fetch ∧
      c.shared.flights fetch.generation = some flight ∧ flight.aborted = false ∧
      flight.stage ≠ .finished := by
  obtain ⟨c, reached, passed⟩ := Reachable.of_run Sample.runtime (fun _ => some .allowed)
    (Sample.asking [.admitSubject 0]) (Sample.connects ++ Sample.turns 1 2 69)
    (Sample.inState .pending) (by decide +kernel)
  obtain ⟨cell, found, idle⟩ := Sample.cell_of_inState passed
  obtain ⟨fetch, flight, inSlot, flown, _, _, _, _, unaborted, unfinished⟩ :=
    pending_entries_attended reached found idle
  exact ⟨c, cell, fetch, flight, reached, found, idle, inSlot, flown, unaborted, unfinished⟩

/-- A cold lookup that starts while the entry is still `Pending` does so a cooldown after every lookup
of it that returned, and a refresh that starts in its slot does so a cooldown after every failure that
was stored from the slot.  A move stores a cooldown only for a refresh of the entry that has returned:
it notes the store, and whether the refresh was still in the slot. -/
theorem lookups_wait_cooldown (reached : Reachable rt authority calls c) {id : Nat}
    {cell : EntryCell T P} (found : c.shared.cells id = some cell) :
    (∀ recent earlier generation refresh held now,
      cell.log = recent ++ .started generation refresh held now :: earlier →
        (refresh = false → (EntryLog.current rt.config cell.entry earlier).state = .pending →
          ∀ other ended, .returned other ended ∈ earlier →
            ended + rt.config.permanentFailureCooldown ≤ now) ∧
        (refresh = true → held = true → ∀ other failed, .cooled other true failed ∈ earlier →
          failed + rt.config.permanentFailureCooldown ≤ now)) ∧
    ∀ m next cell', c.move Gate.environment m = some next → next.shared.cells id = some cell' →
      cell.Chills rt.config c.shared cell' := by
  refine ⟨fun recent earlier generation refresh held now split => ?_, fun m next cell' moved found' => ?_⟩
  · have spaced := reached.audited.1.cooldowns.spaced id cell recent earlier generation refresh held now
      found split
    refine ⟨?_, ?_⟩
    · rintro rfl
      exact spaced nofun
    · rintro rfl rfl
      exact spaced fun _ => rfl
  · rcases reached.step moved with step | same
    · exact step.entries.cooled id cell cell' found found'
    · rw [same, found] at found'
      obtain rfl := Option.some.inj found'
      exact .inl ⟨rfl, fun _ _ _ member => member⟩

namespace Sample

def fails : List (Move (GateEvent Nat Nat)) :=
  connects ++ turns 1 2 69 ++ turns 2 0 5 ++
    [.environment (.answer 0 (.error { kind := .permanent, message := "" }))] ++ turns 2 1 1 ++ turns 2 0 10

/-- Thread 3 waits for the retry, which thread 4 runs when the cooldown has passed. -/
def retries : List (Move (GateEvent Nat Nat)) :=
  fails ++ turns 3 2 50 ++ turns 4 0 3 ++ [.environment (.advance 1000000000)] ++ turns 4 0 4

def retried (s : Gate Nat Nat) : Bool :=
  (s.cells 0).any fun cell =>
    match cell.log with
    | .started _ false _ _ :: earlier => cell.state = .pending && earlier.any fun
        | .returned _ _ => true
        | _ => false
    | _ => false

end Sample

theorem lookups_wait_cooldown_sample : ∃ (c : Config (Gate Nat Nat)) (cell : EntryCell Nat Nat)
    (generation other ended now : Nat) (held : Bool) (earlier : EntryLog Nat Nat),
    Reachable Sample.runtime (fun _ => some .allowed)
        (Sample.asking [.admitSubject 0, .poll 0, .admitSubject 0, .poll 1]) c ∧
      c.shared.cells 0 = some cell ∧ cell.log = .started generation false held now :: earlier ∧
      .returned other ended ∈ earlier ∧ ended + 1000000000 ≤ now := by
  obtain ⟨c, reached, passed⟩ := Reachable.of_run Sample.runtime (fun _ => some .allowed)
    (Sample.asking [.admitSubject 0, .poll 0, .admitSubject 0, .poll 1]) Sample.retries Sample.retried
    (by decide +kernel)
  obtain ⟨cell, found, passed⟩ := (Option.any_eq_true _ _).mp passed
  split at passed
  · rename_i generation held now earlier split
    obtain ⟨idle, passed⟩ := Bool.and_eq_true_iff.mp passed
    obtain ⟨event, member, passed⟩ := List.any_eq_true.mp passed
    split at passed
    · rename_i other ended
      have pending : (EntryLog.current Sample.runtime.config cell.entry earlier).state = .pending := by
        have value := (reached.invariant.cells 0 cell found).value
        rw [split] at value
        exact value ▸ of_decide_eq_true idle
      exact ⟨c, cell, generation, other, ended, now, held, earlier, reached, found, split, member,
        ((lookups_wait_cooldown reached found).1 [] earlier generation false held now split).1 rfl pending
          other ended member⟩
    · cases passed
  · cases passed

end PolicyGate
