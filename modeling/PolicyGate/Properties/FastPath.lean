import PolicyGate.Properties.Runs

namespace PolicyGate

open Interleaving

variable {T P : Type} [DecidableEq T] {rt : Runtime} {authority : T → Option Decision}
  {calls : Nat → Call T} {c later : Config (Gate T P)}

namespace Gate

def Maps (s : Gate T P) (subject : T) (entry : Entry T) : Prop :=
  ∃ slot, s.subjects.cache.peek subject = some slot ∧ slot.entry = entry

/-- A critical section is running that has taken the entry out of the map. -/
def Removing (s : Gate T P) (entry : Entry T) : Prop :=
  s.subjects.lock.isSome = true ∧ entry ∈ s.subjects.limbo

end Gate

/-- What is not `Stale` is in the map, or a running critical section is removing it. -/
theorem Gate.Invariant.mapped {config : PolicyGateConfig} {s : Gate T P} (ok : s.Invariant config)
    {id : Nat} {cell : EntryCell T P} (found : s.cells id = some cell) (live : cell.state ≠ .stale) :
    s.Maps cell.entry.subject cell.entry ∨ s.Removing cell.entry := by
  rcases ok.map.placed id cell found with ⟨⟨key, slot⟩, member, same⟩ | ⟨entry, member, same⟩ | dead
  · obtain ⟨cell', found', home, subject, _⟩ := ok.map.slots _ member
    rw [same, found, Option.some.injEq] at found'
    subst found'
    subst subject
    exact .inl ⟨slot, (s.subjects.cache.peek_eq_some_iff).mpr member, home.symm⟩
  · obtain ⟨cell', found', home, _⟩ := ok.map.limbo entry member
    rw [same, found, Option.some.injEq] at found'
    subst found'
    refine .inr ⟨?_, home ▸ member⟩
    by_contra unlocked
    rw [ok.map.unlocked (by simpa using unlocked)] at member
    cases member
  · exact absurd dead.1 live

/-- At some step of the run the thread read the entry through the cache, in the state `snapshot`,
and at that step the map held exactly that entry for the subject, or was removing it. -/
def HitWith (rt : Runtime) (authority : T → Option Decision) (calls : Nat → Call T)
    (c : Config (Gate T P)) (thread : Nat) (subject : T) (entry : Entry T) : Prop :=
  ∃ before after now cell, Reachable rt authority calls before ∧
    (∃ m, before.move Gate.environment m = some after) ∧ Leads after c ∧
    before.shared.cells entry.id = some cell ∧ cell.entry = entry ∧
    Notes entry.id (.observed (.cached subject) thread now cell.current.value) cell.log
      before.shared after.shared ∧
    entry.isExpiredAt cell.current.value.word now = false ∧ cell.state.Authoritative ∧
    (before.shared.Maps subject entry ∨ before.shared.Removing entry)

theorem Reachable.hit (reached : Reachable rt authority calls c) {thread : Nat} {subject : T}
    {entry : Entry T} (hit : c.shared.outcomes thread = some (.cached subject (some entry))) :
    HitWith rt authority calls c thread subject entry := by
  have ok := reached.invariant
  obtain ⟨now, snapshot, ⟨last, found, home, member, fresh⟩, authoritative⟩ := ok.outcomes thread _ hit
  obtain ⟨recent, earlier, split⟩ := List.append_of_mem member
  obtain ⟨before, after, reachedBefore, moved, leads, notes⟩ := reached.noted found split
  obtain ⟨cell, foundBefore, log⟩ := notes.before
  have okBefore := reachedBefore.invariant
  obtain ⟨m, moves⟩ := moved
  have sameEntry : last.entry = cell.entry := by
    obtain ⟨grown, foundGrown, grows⟩ :=
      (reachedBefore.extends ((Leads.of_move moves).trans leads)).cells _ cell foundBefore
    rw [found, Option.some.injEq] at foundGrown
    exact foundGrown ▸ grows.entry
  have cellEntry : cell.entry = entry := sameEntry.symm.trans home
  have accounted := (ok.cells _ last found).accounted
  rw [split] at accounted
  have read : snapshot = cell.current.value := by
    rw [(okBefore.cells _ cell foundBefore).value, log, ← sameEntry]
    exact accounted.event.1
  subst read
  have named : subject = entry.subject := by
    have sourced := (ok.cells _ last found).sourced _ member
    exact home ▸ sourced
  refine ⟨before, after, now, cell, reachedBefore, ⟨m, moves⟩, leads, foundBefore, cellEntry,
    log.symm ▸ notes, fresh, authoritative, ?_⟩
  have live : cell.state ≠ .stale := by
    intro stale
    rw [EntryCell.state] at stale
    rw [stale] at authoritative
    exact EntryState.not_authoritative_stale authoritative
  have mapped := okBefore.mapped foundBefore live
  rw [cellEntry, ← named] at mapped
  exact mapped

/-- While the watch is down the snapshot is empty; each of its entries is the map's current one,
`Stale`, or just being removed by a running critical section; and a cached read answers the entry
that the map holds at that instant, with its verdict, or is removing. -/
theorem snapshot_refines_map (reached : Reachable rt authority calls c) :
    (c.shared.watch.connected = false → c.shared.snapshot = []) ∧
    (∀ slot ∈ c.shared.snapshot, ∃ cell, c.shared.cells slot.2.id = some cell ∧
      cell.entry = slot.2 ∧
      (cell.state = .stale ∨ c.shared.Maps slot.1 slot.2 ∨ c.shared.Removing slot.2)) ∧
    ∀ thread subject entry, c.shared.outcomes thread = some (.cached subject (some entry)) →
      HitWith rt authority calls c thread subject entry := by
  have ok := reached.invariant
  refine ⟨ok.snapshot.empty, fun slot member => ?_, fun thread subject entry hit => reached.hit hit⟩
  obtain ⟨cell, found, same, key⟩ := ok.snapshot.known slot member
  refine ⟨cell, found, same, ?_⟩
  by_cases stale : cell.state = .stale
  · exact .inl stale
  · have mapped := ok.mapped found stale
    rw [same, ← key] at mapped
    exact .inr mapped

def Sample.readers : Nat → Call Nat :=
  Sample.asking [.admitSubject 0, .poll 0, .admitSubject 1, .tryCached 0]

def Sample.hitOf (s : Gate Nat Nat) : Option (Entry Nat) :=
  match s.outcomes 4 with
  | some (.cached 0 hit) => hit
  | _ => none

theorem Sample.outcome_of_hitOf {s : Gate Nat Nat} {entry : Entry Nat}
    (hit : Sample.hitOf s = some entry) : s.outcomes 4 = some (.cached 0 (some entry)) := by
  unfold Sample.hitOf at hit
  split at hit
  · rename_i same
    rw [same, hit]
  · cases hit

theorem snapshot_refines_map_sample : ∃ (c : Config (Gate Nat Nat)) (entry : Entry Nat),
    Reachable Sample.runtime (fun _ => some .allowed) Sample.readers c ∧
      c.shared.outcomes 4 = some (.cached 0 (some entry)) ∧
      HitWith Sample.runtime (fun _ => some .allowed) Sample.readers c 4 0 entry := by
  obtain ⟨c, reached, passed⟩ := Reachable.of_run Sample.runtime (fun _ => some .allowed)
    Sample.readers (Sample.admits .allowed none ++ Sample.turns 4 2 17)
    (fun s => (Sample.hitOf s).isSome) (by decide +kernel)
  obtain ⟨entry, hit⟩ := Option.isSome_iff_exists.mp passed
  have outcome := Sample.outcome_of_hitOf hit
  exact ⟨c, entry, reached, outcome, (snapshot_refines_map reached).2.2 4 0 entry outcome⟩

/-- Thread 4 has touched subject 0 and reads its entry while thread 3, which admits a second subject
to a full map, has taken the entry out and not yet invalidated it. -/
def Sample.hitsRemoved : List (Move (GateEvent Nat Nat)) :=
  Sample.admits .allowed none ++ Sample.turns 4 2 11 ++ Sample.turns 3 2 11 ++ Sample.turns 4 2 6

def Sample.hitRemoved (s : Gate Nat Nat) : Bool :=
  (Sample.hitOf s).isSome && (s.subjects.cache.peek 0).isNone && Sample.inState .allowed s &&
    s.snapshot.any fun slot => slot.1 = 0 && slot.2.id = 0

/-- The snapshot holds an entry that answers a cached read although the map no longer holds it. -/
theorem removed_entry_hit : ∃ (c : Config (Gate Nat Nat)) (entry : Entry Nat),
    Reachable Sample.tiny (fun _ => some .allowed) Sample.readers c ∧
      c.shared.outcomes 4 = some (.cached 0 (some entry)) ∧ c.shared.subjects.cache.peek 0 = none ∧
      (∃ slot ∈ c.shared.snapshot, slot.1 = 0 ∧ slot.2.id = 0) ∧
      ∃ cell, c.shared.cells 0 = some cell ∧ cell.state = .allowed := by
  obtain ⟨c, reached, passed⟩ := Reachable.of_run Sample.tiny (fun _ => some .allowed)
    Sample.readers Sample.hitsRemoved Sample.hitRemoved (by decide +kernel)
  simp only [Sample.hitRemoved, Bool.and_eq_true, Option.isNone_iff_eq_none, List.any_eq_true,
    decide_eq_true_eq] at passed
  obtain ⟨⟨⟨hit, unmapped⟩, allowed⟩, slot, member, key⟩ := passed
  obtain ⟨entry, hit⟩ := Option.isSome_iff_exists.mp hit
  exact ⟨c, entry, reached, Sample.outcome_of_hitOf hit, unmapped, ⟨slot, member, key⟩,
    Sample.cell_of_inState allowed⟩

end PolicyGate
