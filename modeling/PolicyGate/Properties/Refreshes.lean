import PolicyGate.Properties.Sessions
import PolicyGate.Interleaving.Frame

namespace PolicyGate

open Interleaving

variable {T P : Type} [DecidableEq T] {rt : Runtime} {authority : T → Option Decision}
  {calls : Nat → Call T} {c later : Config (Gate T P)}

def HeldByEnqueuer (c : Config (Gate T P)) (fetch : PendingFetch T P) : Prop :=
  ∃ thread flight, c.shared.flights fetch.generation = some flight ∧
    flight.stage.enqueuer = some thread ∧ c.threads thread ≠ .done ()

def HeldByWatcher (c : Config (Gate T P)) (fetch : PendingFetch T P) : Prop :=
  c.shared.watch.phase = .connected ∧ fetch ∈ c.shared.watch.inflight

/-- Exactly one of the three holds. -/
def ExactlyOne (first second third : Prop) : Prop :=
  first ∧ ¬ second ∧ ¬ third ∨ ¬ first ∧ second ∧ ¬ third ∨ ¬ first ∧ ¬ second ∧ third

theorem Gate.Invariant.not_pending_of_refresh {config : PolicyGateConfig} {s : Gate T P}
    (ok : s.Invariant config) {generation : Nat} {flight : Flight T P} {cell : EntryCell T P}
    (flown : s.flights generation = some flight)
    (found : s.cells flight.fetch.entry.id = some cell)
    (refresh : flight.fetch.refreshFrom.isSome = true) : cell.state ≠ .pending := by
  obtain ⟨arc, from_arc⟩ := Option.isSome_iff_exists.mp refresh
  obtain ⟨cell', found', bound⟩ := (ok.flights generation flight flown).bound
  obtain rfl : cell = cell' := Option.some.inj (found.symm.trans found')
  obtain ⟨⟨earlier, ⟨recent, split⟩, _, value⟩, authoritative⟩ := bound.captured arc from_arc
  intro pending
  rw [EntryCell.state, (ok.cells _ cell found).value, EntryLog.current_pending_iff, ← split,
    EntryLog.touches_append] at pending
  have untouched : EntryLog.touches earlier = 0 := by omega
  rw [value, EntryLog.current_pending_iff.mpr untouched] at authoritative
  exact EntryState.not_authoritative_pending authoritative

theorem Gate.Invariant.connected_of_refresh {config : PolicyGateConfig} {s : Gate T P}
    (ok : s.Invariant config) (quiet : s.watch.phase ≠ .ended ∧ s.watch.phase ≠ .disconnecting)
    {id : Nat} {cell : EntryCell T P} (found : s.cells id = some cell)
    (authoritative : cell.state.Authoritative) :
    s.watch.phase = .connected ∧ cell.session = some s.watch.opened := by
  obtain ⟨session, reached, up⟩ := ok.session_of_authoritative found authoritative
  refine ⟨?_, session⟩
  cases phase : s.watch.phase with
  | idle => exact absurd phase up
  | opened =>
      have waiting := ok.session.opened phase
      omega
  | connected => rfl
  | ended => exact absurd phase quiet.1
  | disconnecting => exact absurd phase quiet.2

/-- What the drop of an enqueue guard may do: empty the slot where it still holds this claim. -/
def ReleasesOnly (entry : Entry T) (generation : Nat) (before after : Gate T P) : Prop :=
  ∀ id, after.cells id = before.cells id ∨ id = entry.id ∧ ∃ cell fetch,
    before.cells id = some cell ∧ cell.pending = some fetch ∧ fetch.generation = generation ∧
      after.cells id = some { cell with pending := none }

omit [DecidableEq T] in
theorem releaseClaim_each (entry : Entry T) (generation : Nat) :
    (releaseClaim (P := P) entry generation).Each (ReleasesOnly entry generation)
      fun _ => True := by
  have same : ∀ s : Gate T P, ReleasesOnly entry generation s s := fun s id => .inl rfl
  refine .bind (M := fun _ => True) (.bind (M := fun pending =>
    ∀ current, pending = some current → current.generation = generation) ?_ fun pending known => ?_)
    fun _ _ => trivial
  · refine .bind (.read same) fun pending _ current found => ?_
    simpa using (Option.filter_eq_some_iff.mp found).2
  · cases pending with
    | none => trivial
    | some current =>
        refine .act fun pick s result after ran => ⟨fun id => ?_, trivial⟩
        obtain ⟨cell, found, ran⟩ := Option.map_eq_some_iff.mp ran
        split at ran
        · rename_i holding
          obtain ⟨rfl, rfl⟩ := Prod.mk.injEq .. ▸ ran
          by_cases here : id = entry.id
          · subst here
            unfold Gate.holdsPending at holding
            cases inSlot : cell.pending with
            | none =>
                rw [inSlot] at holding
                cases holding
            | some fetch =>
                rw [inSlot] at holding
                refine .inr ⟨rfl, cell, fetch, found, inSlot,
                  (of_decide_eq_true holding).trans (known current rfl), ?_⟩
                change Function.update s.cells entry.id ((s.cells entry.id).map _) entry.id = _
                rw [Function.update_self, found]
                rfl
          · exact .inl (Function.update_of_ne here _ _)
        · obtain ⟨rfl, rfl⟩ := Prod.mk.injEq .. ▸ ran
          exact .inl rfl

/-- Outside a disconnect, a refresh in the slot of an entry that is not `Stale` is not aborted and is
held by exactly one of its enqueuer, the queue and the connected watcher; and a guard's drop frees
the slot only of its own claim and sets no cooldown. -/
theorem refresh_claims_are_held (reached : Reachable rt authority calls c) :
    (c.shared.watch.phase ≠ .ended ∧ c.shared.watch.phase ≠ .disconnecting →
      ∀ id cell fetch, c.shared.cells id = some cell → cell.state ≠ .stale →
        cell.pending = some fetch → fetch.refreshFrom.isSome = true →
          (∃ flight, c.shared.flights fetch.generation = some flight ∧ flight.fetch = fetch ∧
            flight.aborted = false) ∧
          ExactlyOne (HeldByEnqueuer c fetch) (fetch ∈ c.shared.queue) (HeldByWatcher c fetch)) ∧
    ∀ (entry : Entry T) generation,
      (releaseClaim (P := P) entry generation).Each (ReleasesOnly entry generation)
        fun _ => True := by
  have ok := reached.invariant
  refine ⟨fun quiet id cell fetch found live inSlot refresh => ?_, fun entry generation =>
    releaseClaim_each entry generation⟩
  obtain ⟨flight, flown, same, home, untaken, slotted, unfinished⟩ :=
    ok.slots.held id cell fetch found inSlot
  have flightOk := ok.flights _ flight flown
  subst same
  have foundHome : c.shared.cells flight.fetch.entry.id = some cell := by
    rw [home, (ok.cells id cell found).identity]
    exact found
  have settled := ok.not_pending_of_refresh flown foundHome refresh
  have authoritative : cell.state.Authoritative := by
    cases state : cell.state with
    | pending => exact absurd state settled
    | allowed => exact .inl rfl
    | denied => exact .inr rfl
    | stale => exact absurd state live
  obtain ⟨connected, session⟩ := ok.connected_of_refresh quiet found authoritative
  have unaborted : flight.aborted = false := by
    by_contra aborted
    have taken := flightOk.aborted (by simpa using aborted)
    rw [untaken] at taken
    cases taken
  have owned : ¬ Orphaned c.shared.cells c.shared.watch flight.fetch := fun orphaned =>
    orphaned connected cell foundHome session
  have only : ∀ other, c.shared.flights flight.fetch.generation = some other → other = flight :=
    fun other flown' => Option.some.inj (flown'.symm.trans flown)
  have enqueued : HeldByEnqueuer c flight.fetch → ∃ thread, flight.stage.enqueuer = some thread := by
    rintro ⟨thread, other, flown', enqueuer, _⟩
    exact ⟨thread, only other flown' ▸ enqueuer⟩
  have queued : flight.fetch ∈ c.shared.queue → flight.stage = .queued := by
    intro member
    obtain ⟨other, flown', _, stage⟩ := ok.queue.queued _ member
    exact only other flown' ▸ stage
  have polled : HeldByWatcher c flight.fetch →
      flight.stage.airborne = true ∨ flight.stage = .finished := by
    rintro ⟨_, member⟩
    obtain ⟨other, flown', _, _, stage⟩ := ok.queue.inflight _ member
    exact only other flown' ▸ stage
  have waits : ∀ thread, flight.stage.enqueuer = some thread → HeldByEnqueuer c flight.fetch := by
    intro thread enqueuer
    refine ⟨thread, flight, flown, enqueuer, fun ended => ?_⟩
    have resting : c.shared.Resting thread := reached.covered.resting ended
    exact resting _ _ (Gate.stageOf_of_flights flown) enqueuer nofun id cell _ found inSlot rfl
  have flies : flight.stage.airborne = true → HeldByWatcher c flight.fetch := fun airborne =>
    ⟨connected, (ok.queue.flying _ flight flown refresh unaborted airborne).resolve_right owned⟩
  refine ⟨⟨flight, flown, rfl, unaborted⟩, ?_⟩
  cases stage : flight.stage with
  | created | released =>
      rw [stage] at slotted
      cases slotted
  | placed =>
      rw [flightOk.placed stage] at refresh
      cases refresh
  | finished => exact absurd stage (unfinished refresh)
  | claimed thread | validated thread =>
      refine .inl ⟨waits thread (by rw [stage]; rfl), fun member => ?_, fun held => ?_⟩
      · have wrong := queued member
        rw [stage] at wrong
        cases wrong
      · rcases polled held with wrong | wrong <;> rw [stage] at wrong <;> cases wrong
  | queued =>
      refine .inr (.inl ⟨fun held => ?_,
        (ok.queue.waiting _ flight flown stage).resolve_right owned, fun held => ?_⟩)
      · obtain ⟨thread, wrong⟩ := enqueued held
        rw [stage] at wrong
        cases wrong
      · rcases polled held with wrong | wrong <;> rw [stage] at wrong <;> cases wrong
  | flying | polled _ | asleep _ | calling _ | returned _ =>
      refine .inr (.inr ⟨fun held => ?_, fun member => ?_, flies (by rw [stage]; rfl)⟩)
      · obtain ⟨thread, wrong⟩ := enqueued held
        rw [stage] at wrong
        cases wrong
      · have wrong := queued member
        rw [stage] at wrong
        cases wrong

def Sample.claimed (s : Gate Nat Nat) : Bool :=
  s.watch.phase = .connected && (s.cells 0).any fun cell =>
    cell.state = .allowed && cell.pending.any fun fetch => fetch.refreshFrom.isSome

theorem refresh_claims_are_held_sample : ∃ (c : Config (Gate Nat Nat)) (cell : EntryCell Nat Nat)
    (fetch : PendingFetch Nat Nat),
    Reachable Sample.runtime (fun _ => some .allowed)
        (Sample.asking [.admitSubject 0, .poll 0, .tryCached 0]) c ∧
      c.shared.cells 0 = some cell ∧ cell.state = .allowed ∧ cell.pending = some fetch ∧
      ExactlyOne (HeldByEnqueuer c fetch) (fetch ∈ c.shared.queue) (HeldByWatcher c fetch) := by
  obtain ⟨c, reached, passed⟩ := Reachable.of_run Sample.runtime (fun _ => some .allowed)
    (Sample.asking [.admitSubject 0, .poll 0, .tryCached 0]) Sample.claims Sample.claimed
    (by decide +kernel)
  simp only [Sample.claimed, Bool.and_eq_true, decide_eq_true_eq, Option.any_eq_true] at passed
  obtain ⟨connected, cell, found, allowed, fetch, inSlot, refresh⟩ := passed
  refine ⟨c, cell, fetch, reached, found, allowed, inSlot, ((refresh_claims_are_held reached).1
    ⟨?_, ?_⟩ 0 cell fetch found ?_ inSlot refresh).2⟩
  · rw [connected]
    nofun
  · rw [connected]
    nofun
  · rw [allowed]
    nofun

end PolicyGate
