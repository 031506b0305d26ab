import PolicyGate.Properties.Runs

namespace PolicyGate

open Interleaving

variable {T P : Type} [DecidableEq T] {rt : Runtime} {authority : T → Option Decision}
  {calls : Nat → Call T} {c later : Config (Gate T P)}

/-- The publication is of the session's stream, or of a lookup whose source call began after that
stream was opened. -/
def Publication.OfSession (s : Gate T P) (entry : Entry T) (publication : Publication P) : Prop :=
  match publication.origin with
  | .change => publication.session = s.watch.opened
  | .cold generation | .refresh generation => ∃ flight began,
      s.flights generation = some flight ∧ flight.fetch.entry = entry ∧
        flight.begun = some began ∧ s.watch.opened ≤ began

theorem Gate.Invariant.era_of_authoritative {config : PolicyGateConfig} {s : Gate T P}
    (ok : s.Invariant config) {id : Nat} {cell : EntryCell T P} (found : s.cells id = some cell)
    (authoritative : cell.state.Authoritative) : cell.session = s.watch.era := by
  have alive : ¬ cell.Dead s.flights := fun dead => by
    rw [dead.1] at authoritative
    exact EntryState.not_authoritative_stale authoritative
  rcases ok.map.placed id cell found with holds | ⟨entry, member, same⟩ | dead
  · exact ok.map.session_of_holds holds found
  · obtain ⟨cell', found', _, removed⟩ := ok.map.limbo entry member
    rw [same, found, Option.some.injEq] at found'
    exact found' ▸ removed.resolve_left (found' ▸ alive)
  · exact absurd dead alive

theorem Gate.Invariant.session_of_authoritative {config : PolicyGateConfig} {s : Gate T P}
    (ok : s.Invariant config) {id : Nat} {cell : EntryCell T P} (found : s.cells id = some cell)
    (authoritative : cell.state.Authoritative) :
    cell.session = some s.watch.opened ∧ s.watch.opened ≤ s.watch.reached ∧
      s.watch.phase ≠ .idle := by
  have session := ok.era_of_authoritative found authoritative
  obtain ⟨n, named, permitted⟩ := (ok.cells id cell found).permitted authoritative
  obtain ⟨rfl, up⟩ := ok.session.era n (session ▸ named)
  exact ⟨named, permitted, up⟩

theorem Gate.Invariant.ofSession {config : PolicyGateConfig} {s : Gate T P}
    (ok : s.Invariant config) {id : Nat} {cell : EntryCell T P} {publication : Publication P}
    (found : s.cells id = some cell) (session : cell.session = some s.watch.opened)
    (published : .published publication ∈ cell.log) : publication.OfSession s cell.entry := by
  have sourced : publication.Sourced s.flights cell.entry cell.session :=
    (ok.cells id cell found).sourced _ published
  have begun : ∀ generation refresh,
      Answered s.flights cell.entry generation refresh publication.result →
      ∃ flight began, s.flights generation = some flight ∧ flight.fetch.entry = cell.entry ∧
        flight.begun = some began ∧ s.watch.opened ≤ began := by
    rintro generation refresh ⟨flight, flown, home, _, _, answered⟩
    have flightOk := ok.flights generation flight flown
    obtain ⟨began, begun⟩ := Option.isSome_iff_exists.mp
      (flightOk.answered (by rw [answered]; rfl))
    obtain ⟨cell', found', bound⟩ := flightOk.bound
    rw [home, (ok.cells id cell found).identity, found, Option.some.injEq] at found'
    obtain ⟨n, named, ordered⟩ := bound.begun began begun
    rw [← found', session, Option.some.injEq] at named
    exact ⟨flight, began, flown, home, begun, named ▸ ordered⟩
  unfold Publication.OfSession
  unfold Publication.Sourced at sourced
  cases origin : publication.origin with
  | cold generation => exact begun generation false (by simpa only [origin] using sourced)
  | refresh generation => exact begun generation true (by simpa only [origin] using sourced)
  | change =>
      rw [origin, session, Option.some.injEq] at sourced
      exact sourced.symm

/-- From the clear with which a session ends to the next `connected = true` no entry answers
admissions; and in every state one that does was published within the session in force. -/
theorem watch_sessions_isolated (reached : Reachable rt authority calls c) {id : Nat}
    {cell : EntryCell T P} (found : c.shared.cells id = some cell)
    (authoritative : cell.state.Authoritative) :
    (c.shared.watch.era = some c.shared.watch.opened ∧ c.shared.watch.phase ≠ .idle ∧
        c.shared.watch.phase ≠ .opened) ∧
      ∃ publication, EntryLog.Latest publication cell.log ∧
        publication.OfSession c.shared cell.entry := by
  have ok := reached.invariant
  obtain ⟨session, connected, up⟩ := ok.session_of_authoritative found authoritative
  have era : c.shared.watch.era = some c.shared.watch.opened :=
    (ok.era_of_authoritative found authoritative).symm.trans session
  refine ⟨⟨era, up, fun opened => ?_⟩, ?_⟩
  · have waiting := ok.session.opened opened
    omega
  · have sound := (ok.cells id cell found).toSound
    rw [EntryCell.state, sound.value] at authoritative
    obtain ⟨publication, inForce, _⟩ := EntryLog.current_authoritative authoritative
    exact ⟨publication, inForce.latest, ok.ofSession found session inForce.mem⟩

theorem watch_sessions_isolated_sample : ∃ (c : Config (Gate Nat Nat)) (cell : EntryCell Nat Nat),
    Reachable Sample.runtime (fun _ => some .allowed) (Sample.asking [.admitSubject 0, .poll 0]) c ∧
      c.shared.cells 0 = some cell ∧ cell.state = .allowed ∧
      (c.shared.watch.era = some c.shared.watch.opened ∧ c.shared.watch.phase ≠ .idle ∧
        c.shared.watch.phase ≠ .opened) ∧
      ∃ publication, EntryLog.Latest publication cell.log ∧
        publication.OfSession c.shared cell.entry := by
  obtain ⟨c, reached, passed⟩ :=
    Reachable.of_run Sample.runtime (fun _ => some .allowed) (Sample.asking [.admitSubject 0, .poll 0])
      (Sample.admits .allowed none) (Sample.inState .allowed) (by decide +kernel)
  obtain ⟨cell, found, allowed⟩ := Sample.cell_of_inState passed
  exact ⟨c, cell, reached, found, allowed, watch_sessions_isolated reached found (.inl allowed)⟩

/-- If nobody held a copy from before the latest clear when `connected = true` was last sent, the
published snapshot holds no entry that a clear removed. -/
theorem snapshot_after_clear (reached : Reachable rt authority calls c)
    (orderly : c.shared.watch.orderly = true) :
    ∀ slot ∈ c.shared.snapshot, ∃ cell, c.shared.cells slot.2.id = some cell ∧
      cell.entry = slot.2 ∧ cell.session = c.shared.watch.era := by
  intro slot member
  have ok := reached.invariant
  have connected : c.shared.watch.connected = true := by
    by_contra down
    rw [ok.snapshot.empty (by simpa using down)] at member
    cases member
  obtain ⟨cell, found, same, _⟩ := ok.snapshot.known slot member
  obtain ⟨cell', found', session⟩ := ok.copies.stored orderly connected slot member
  obtain rfl : cell = cell' := Option.some.inj (found.symm.trans found')
  exact ⟨cell, found, same, session⟩

/-- Thread 1 claims a rebuild and copies the map; the stream ends and the watcher clears, and the copy
is dropped.  After the reconnect thread 1 inserts entry 1 and publishes its second rebuild. -/
def Sample.droppedRebuild : List (Move (GateEvent Nat Nat)) :=
  Sample.connects ++ Sample.turns 1 2 26 ++ [.environment .streamEnd] ++ Sample.turns 0 2 21 ++
    Sample.turns 1 2 6 ++ [.environment (.advance 200000000)] ++ Sample.turns 0 2 15 ++
    Sample.turns 1 2 73

def Sample.orderlySnapshot (s : Gate Nat Nat) : Bool :=
  decide (s.publish.claims = [200000000, 0]) && s.watch.orderly &&
    s.snapshot.any fun slot => slot.2.id = 1

theorem snapshot_after_clear_sample : ∃ c : Config (Gate Nat Nat),
    Reachable Sample.runtime (fun _ => some .allowed) (Sample.asking [.admitSubject 0]) c ∧
      c.shared.publish.claims = [200000000, 0] ∧
      ∃ slot ∈ c.shared.snapshot, slot.2.id = 1 ∧ ∃ cell, c.shared.cells slot.2.id = some cell ∧
        cell.entry = slot.2 ∧ cell.session = c.shared.watch.era := by
  obtain ⟨c, reached, passed⟩ :=
    Reachable.of_run Sample.runtime (fun _ => some .allowed) (Sample.asking [.admitSubject 0])
      Sample.droppedRebuild Sample.orderlySnapshot (by decide +kernel)
  simp only [Sample.orderlySnapshot, Bool.and_eq_true, List.any_eq_true, decide_eq_true_eq] at passed
  obtain ⟨⟨claims, orderly⟩, slot, member, key⟩ := passed
  exact ⟨c, reached, claims, slot, member, key, snapshot_after_clear reached orderly slot member⟩

/-- Thread 1 passes the connectivity check of session 1, inserts its entry while the watcher connects
session 2, and copies the map between that connect's empty publish and its clear. -/
def Sample.staleRebuild : List (Move (GateEvent Nat Nat)) :=
  Sample.connects ++ Sample.turns 1 2 6 ++ Sample.disconnects ++
    [.environment (.advance 200000000)] ++ Sample.turns 0 2 8 ++ Sample.turns 1 2 20 ++
    Sample.turns 0 2 10 ++ Sample.turns 1 2 4

def Sample.clearedInSnapshot (s : Gate Nat Nat) : Bool :=
  s.watch.connected && s.subjects.lock.isNone && s.snapshot.any fun slot =>
    s.subjects.cache.entries.isEmpty &&
      (s.cells slot.2.id).any fun cell => cell.session ≠ s.watch.era

/-- A rebuild that copied the map between the empty publish of a reconnect and its clear is
published after that clear. -/
theorem cleared_entry_republished : ∃ c : Config (Gate Nat Nat),
    Reachable Sample.runtime (fun _ => some .allowed) (Sample.asking [.admitSubject 0]) c ∧
      c.shared.watch.connected = true ∧ c.shared.subjects.lock = none ∧
      ∃ slot ∈ c.shared.snapshot, ∃ cell, c.shared.cells slot.2.id = some cell ∧
        c.shared.subjects.cache.entries = [] ∧ cell.session ≠ c.shared.watch.era := by
  obtain ⟨c, reached, passed⟩ :=
    Reachable.of_run Sample.runtime (fun _ => some .allowed) (Sample.asking [.admitSubject 0])
      Sample.staleRebuild Sample.clearedInSnapshot (by decide +kernel)
  simp only [Sample.clearedInSnapshot, Bool.and_eq_true, List.any_eq_true, List.isEmpty_iff,
    Option.any_eq_true, Option.isNone_iff_eq_none, decide_eq_true_eq] at passed
  obtain ⟨⟨connected, unlocked⟩, slot, member, empty, cell, found, cleared⟩ := passed
  exact ⟨c, reached, connected, unlocked, slot, member, cell, found, empty, cleared⟩

end PolicyGate
