import PolicyGate.Entry.Lifecycle
import PolicyGate.Properties.Runs

namespace PolicyGate

open Interleaving

variable {T P : Type} [DecidableEq T] {rt : Runtime} {authority : T → Option Decision}
  {calls : Nat → Call T} {c later : Config (Gate T P)}

theorem Reachable.path (reached : Reachable rt authority calls c) (leads : Leads c later) {id : Nat}
    {cell : EntryCell T P} (found : c.shared.cells id = some cell) :
    ∃ cell' recent, later.shared.cells id = some cell' ∧ cell'.entry = cell.entry ∧
      recent ++ cell.log = cell'.log ∧
      cell'.current.address = cell.current.address + EntryLog.touches recent ∧
      Lifecycle.Path rt.config cell.entry cell.current.value (EntryLog.touches recent)
        cell'.current.value := by
  obtain ⟨cell', found', grows⟩ := (reached.extends leads).cells id cell found
  have sound := (reached.invariant.cells id cell found).toSound
  have sound' := ((reached.leads leads).invariant.cells id cell' found').toSound
  obtain ⟨recent, split⟩ := grows.log
  refine ⟨cell', recent, found', grows.entry, split, ?_, ?_⟩
  · rw [sound'.address, sound.address, ← split, EntryLog.touches_append, Nat.add_comm]
  · have accounted := sound'.accounted
    rw [sound'.value, sound.value, ← split, grows.entry]
    rw [← split, grows.entry] at accounted
    exact accounted.path

theorem Reachable.paced (reached : Reachable rt authority calls c) {m : Move (GateEvent T P)}
    {next : Config (Gate T P)} (moved : c.move Gate.environment m = some next) {id : Nat}
    {cell cell' : EntryCell T P} (found : c.shared.cells id = some cell)
    (found' : next.shared.cells id = some cell') :
    cell'.log = cell.log ∨ ∃ event, cell'.log = event :: cell.log := by
  rcases reached.advance moved with step | unchanged
  · exact step.paced id cell cell' found found'
  · rw [unchanged, found] at found'
    exact .inl (congrArg EntryCell.log (Option.some.inj found').symm)

theorem Reachable.held_of_revived (reached : Reachable rt authority calls c)
    {m : Move (GateEvent T P)} {next : Config (Gate T P)}
    (moved : c.move Gate.environment m = some next) {id : Nat} {cell cell' : EntryCell T P}
    (found : c.shared.cells id = some cell) (found' : next.shared.cells id = some cell')
    (stale : cell.state = .stale) (live : cell'.state ≠ .stale) : c.shared.subjects.Holds id := by
  rcases reached.advance moved with step | unchanged
  · rcases step.stale id ⟨cell, found, stale⟩ with ⟨other, foundOther, still⟩ | holds
    · obtain rfl : cell' = other := Option.some.inj (found'.symm.trans foundOther)
      exact absurd still live
    · exact holds
  · rw [unchanged, found] at found'
    exact absurd (Option.some.inj found' ▸ stale) live

/-- An entry's snapshots take the steps of its lifecycle: no move takes more than one, a `Pending`
entry is one that took none, and a `Stale` one comes back only while the map holds it and by the
publication of a watch change, whose plain decision it then is. -/
theorem entries_follow_lifecycle (reached : Reachable rt authority calls c) {id : Nat}
    {cell : EntryCell T P} (found : c.shared.cells id = some cell) :
    (∀ later, Leads c later → ∃ cell' count, later.shared.cells id = some cell' ∧
      cell'.entry = cell.entry ∧ cell'.current.address = cell.current.address + count ∧
      Lifecycle.Path rt.config cell.entry cell.current.value count cell'.current.value ∧
      (cell'.state = .pending → count = 0)) ∧
    ∀ m next, c.move Gate.environment m = some next → ∃ cell', next.shared.cells id = some cell' ∧
      (cell'.current = cell.current ∨
        cell'.current.address = cell.current.address + 1 ∧
        Lifecycle rt.config cell.entry cell.current.value cell'.current.value ∧
        (cell.state = .stale → cell'.state ≠ .stale → c.shared.subjects.Holds id ∧
          ∃ publication, cell'.log = .published publication :: cell.log ∧
            publication.origin = .change ∧ publication.result.payload = none ∧
            publication.result.validUntil = none ∧ cell'.current.value =
              cell.entry.decisionSnapshot rt.config publication.now publication.result)) := by
  have fits : cell.current.value.word < 2 ^ 64 := (reached.invariant.cells id cell found).word_lt
  refine ⟨fun later leads => ?_, fun m next moved => ?_⟩
  · obtain ⟨cell', recent, found', same, _, counted, path⟩ := reached.path leads found
    exact ⟨cell', _, found', same, counted, path, path.pending fits⟩
  · obtain ⟨cell', recent, found', same, split, counted, path⟩ := reached.path (.of_move moved) found
    refine ⟨cell', found', ?_⟩
    have sound := (reached.invariant.cells id cell found).toSound
    have sound' := ((reached.leads (.of_move moved)).invariant.cells id cell' found').toSound
    rcases reached.paced moved found found' with unchanged | ⟨event, noted⟩
    · rw [← split] at unchanged
      obtain rfl := List.append_left_eq_self.mp unchanged
      exact .inl (congrArg₂ SnapshotArc.mk counted path.eq_start)
    · rw [← split] at noted
      obtain rfl : recent = [event] := List.append_cancel_right noted
      rw [List.singleton_append] at split
      cases touches : event.touches with
      | false =>
          rw [EntryLog.touches_cons, touches] at counted path
          exact .inl (congrArg₂ SnapshotArc.mk counted path.eq_start)
      | true =>
          rw [EntryLog.touches_cons, touches] at counted path
          refine .inr ⟨counted, path.single, fun stale live => ⟨reached.held_of_revived moved found
            found' stale live, ?_⟩⟩
          have accounted := sound'.accounted
          have value := sound'.value
          rw [← split, same] at accounted value
          rw [EntryCell.state, sound.value] at stale
          rw [EntryCell.state, value] at live
          obtain ⟨publication, rfl, origin, bare, uncapped⟩ := accounted.1.revives stale live
          exact ⟨publication, split.symm, origin, bare, uncapped, value⟩

namespace Sample

def waits : List (Move (GateEvent Nat Nat)) := connects ++ turns 1 2 69

def resolves : List (Move (GateEvent Nat Nat)) :=
  turns 2 0 5 ++ answers 0 .allowed (some 7) ++ turns 2 1 1 ++ turns 2 0 10

end Sample

theorem entries_follow_lifecycle_sample : ∃ (c later : Config (Gate Nat Nat)) (cell cell' : EntryCell Nat Nat),
    Reachable Sample.runtime (fun _ => some .allowed) (Sample.asking [.admitSubject 0, .poll 0]) c ∧
      Leads c later ∧ c.shared.cells 0 = some cell ∧ cell.state = .pending ∧
      later.shared.cells 0 = some cell' ∧ cell'.state = .allowed ∧
      ∃ count, Lifecycle.Path Sample.runtime.config cell.entry cell.current.value count
        cell'.current.value := by
  obtain ⟨c, later, reached, leads, passed⟩ :=
    Reachable.leads_of_run Sample.runtime (fun _ => some .allowed)
      (Sample.asking [.admitSubject 0, .poll 0]) Sample.waits Sample.resolves
      (fun before after => Sample.inState .pending before && Sample.inState .allowed after)
      (by decide +kernel)
  obtain ⟨waiting, resolved⟩ := Bool.and_eq_true_iff.mp passed
  obtain ⟨cell, found, pending⟩ := Sample.cell_of_inState waiting
  obtain ⟨other, foundOther, allowed⟩ := Sample.cell_of_inState resolved
  obtain ⟨cell', count, found', _, _, path, _⟩ := (entries_follow_lifecycle reached found).1 later leads
  obtain rfl : cell' = other := Option.some.inj (found'.symm.trans foundOther)
  exact ⟨c, later, cell, cell', reached, leads, found, pending, found', allowed, count, path⟩

end PolicyGate
