import PolicyGate.Gate.Solo

namespace PolicyGate

open Interleaving Program

variable {T P : Type} {rt : Runtime} {me : Nat} {subject : T} {start middle s after : Gate T P}
  {cell : EntryCell T P} {flight : Flight T P}

/-- Since `start` only this call has moved: the map holds the entry under `subject`, touched just
now, and these are its cell, save for the log, and its lookup. -/
structure Gate.Hosts (s : Gate T P) (rt : Runtime) (subject : T) (start : Gate T P)
    (cell : EntryCell T P) (flight : Flight T P) : Prop where
  clock : s.clock = start.clock
  watch : s.watch = start.watch
  published : s.publish.lock = none
  shelved : Subjects.Shelved s
  slot : ∃ slot, (subject, slot) ∈ s.subjects.cache.entries ∧ slot.entry = cell.entry ∧
    Subjects.tick rt start.clock ≤ slot.lastTouched
  keyed : ∀ slot ∈ s.subjects.cache.entries, slot.2.entry.id = cell.entry.id → slot.1 = subject
  found : ∃ log, s.cells cell.entry.id = some { cell with log }
  flown : s.flights flight.fetch.generation = some flight
  apart : ∀ id cell' fetch, s.cells id = some cell' → cell'.pending = some fetch →
    fetch.generation = flight.fetch.generation → id = cell.entry.id

structure Gate.Rests (s : Gate T P) (rt : Runtime) (subject : T) (start : Gate T P)
    (cell : EntryCell T P) (flight : Flight T P) : Prop extends s.Hosts rt subject start cell flight where
  free : s.subjects.lock = none

namespace Gate.Hosts

theorem sweeps (hosts : s.Hosts rt subject start cell flight)
    (sweeps : Gate.Sweeps (fun id => id ≠ cell.entry.id) s after)
    (old : ∀ slot ∈ after.subjects.cache.entries, slot ∈ s.subjects.cache.entries)
    (stays : ∀ slot, (subject, slot) ∈ s.subjects.cache.entries →
      Subjects.tick rt start.clock ≤ slot.lastTouched →
      (subject, slot) ∈ after.subjects.cache.entries) : after.Hosts rt subject start cell flight := by
  obtain ⟨slot, member, here, recent⟩ := hosts.slot
  refine ⟨?_, ?_, ?_, fun slot member => ?_, ⟨slot, stays slot member recent, here, recent⟩,
    fun slot member => hosts.keyed slot (old slot member), ?_, ?_, fun id cell' fetch found held => ?_⟩
  · rw [sweeps.frame]
    exact hosts.clock
  · rw [sweeps.frame]
    exact hosts.watch
  · rw [sweeps.frame]
    exact hosts.published
  · obtain ⟨cell', found⟩ := hosts.shelved slot (old slot member)
    obtain ⟨cell'', found', _⟩ := sweeps.kept _ cell' found
    exact ⟨cell'', found'⟩
  · rw [sweeps.others _ (by simp)]
    exact hosts.found
  · refine (sweeps.flights _ fun id cell' fetch out found held same => out ?_).trans hosts.flown
    exact hosts.apart id cell' fetch found held same
  · obtain ⟨cell'', found', held'⟩ := sweeps.pending_before found held
    exact hosts.apart id cell'' fetch found' held'

theorem restart (hosts : s.Hosts rt subject middle cell flight) (clock : middle.clock = start.clock)
    (watch : middle.watch = start.watch) : s.Hosts rt subject start cell flight :=
  { hosts with
    clock := hosts.clock.trans clock
    watch := hosts.watch.trans watch
    slot := clock ▸ hosts.slot }

theorem relock (hosts : s.Hosts rt subject start cell flight) (lock : Option Nat)
    (limbo : List (Entry T)) :
    (s.updateSubjects fun map => { map with lock, limbo }).Hosts rt subject start cell flight :=
  ⟨hosts.clock, hosts.watch, hosts.published, hosts.shelved, hosts.slot, hosts.keyed, hosts.found,
    hosts.flown, hosts.apart⟩

theorem unlock (hosts : s.Hosts rt subject start cell flight) :
    (s.updateSubjects SubjectMap.unlocked).Rests rt subject start cell flight :=
  { hosts.relock none [] with free := rfl }

theorem of_bare (hosts : s.Hosts rt subject start cell flight) (same : after.bare = s.bare) :
    after.Hosts rt subject start cell flight := by
  have frame := Gate.frame_of_bare same
  have subjects : after.subjects = s.subjects := by rw [frame]
  obtain ⟨log, found⟩ := hosts.found
  have sameBack : s.bare = after.bare := same.symm
  refine ⟨?_, ?_, ?_, fun slot member => ?_, subjects ▸ hosts.slot, subjects ▸ hosts.keyed, ?_, ?_,
    fun id cell' fetch found' held => ?_⟩
  · rw [frame]
    exact hosts.clock
  · rw [frame]
    exact hosts.watch
  · rw [frame]
    exact hosts.published
  · obtain ⟨cell', found'⟩ := hosts.shelved slot (subjects ▸ member)
    obtain ⟨log', found''⟩ := Gate.cell_of_bare same found'
    exact ⟨_, found''⟩
  · have seen := Gate.cell_of_bare same found
    exact seen
  · rw [frame]
    exact hosts.flown
  · obtain ⟨log', found''⟩ := Gate.cell_of_bare sameBack found'
    exact hosts.apart id _ fetch found'' held

end Gate.Hosts

theorem Gate.Rests.of_bare (rests : s.Rests rt subject start cell flight) (same : after.bare = s.bare) :
    after.Rests rt subject start cell flight :=
  { rests.toHosts.of_bare same with
    free := by
      rw [Gate.frame_of_bare same]
      exact rests.free }

namespace Gate.Rests

theorem updateFlight (rests : s.Rests rt subject start cell flight) (f : Flight T P → Flight T P)
    (same : (f flight).fetch = flight.fetch) :
    (s.updateFlight flight.fetch.generation f).Rests rt subject start cell (f flight) := by
  refine { rests with flown := ?_, apart := ?_ }
  · rw [same]
    exact Gate.updateFlight_at rests.flown f
  · rw [same]
    exact rests.apart

theorem updateCell (rests : s.Rests rt subject start cell flight)
    {f : EntryCell T P → EntryCell T P} {cell' : EntryCell T P}
    (steps : ∀ log, ∃ log', f { cell with log } = { cell' with log := log' })
    (same : cell'.entry = cell.entry) :
    (s.updateCell cell.entry.id f).Rests rt subject start cell' flight := by
  obtain ⟨log, found⟩ := rests.found
  obtain ⟨log', step⟩ := steps log
  have here : (s.updateCell cell.entry.id f).cells cell.entry.id = some { cell' with log := log' } :=
    (Gate.updateCell_at found f).trans (congrArg some step)
  refine { rests with shelved := fun slot member => ?_, slot := same ▸ rests.slot,
                      keyed := same ▸ rests.keyed, found := ⟨log', same ▸ here⟩,
                      apart := fun id cell'' fetch found' pending generation => ?_ }
  · obtain ⟨cell'', found'⟩ := rests.shelved slot member
    by_cases own : slot.2.entry.id = cell.entry.id
    · rw [own]
      exact ⟨_, here⟩
    · exact ⟨cell'', (Function.update_of_ne own _ _).trans found'⟩
  · by_cases own : id = cell.entry.id
    · rw [own, same]
    · rw [Gate.updateCell_cells, Function.update_of_ne own] at found'
      rw [same]
      exact rests.apart id cell'' fetch found' pending generation

theorem setStage (rests : s.Rests rt subject start cell flight) (stage : Stage) :
    (s.setStage flight.fetch.generation stage).Rests rt subject start cell { flight with stage } :=
  rests.updateFlight (fun flight => { flight with stage }) rfl

theorem note (rests : s.Rests rt subject start cell flight) (event : EntryEvent T P) :
    (s.note cell.entry.id event).Rests rt subject start cell flight :=
  rests.updateCell (fun log => ⟨event :: log, rfl⟩) rfl

theorem endTurn (rests : s.Rests rt subject start cell flight) (pick : Pick) :
    (PolicyGate.endTurn s pick).Rests rt subject start cell flight := by
  unfold PolicyGate.endTurn
  split
  · exact { rests with }
  · exact rests

end Gate.Rests

namespace Subjects

theorem evict_hosted (hosts : s.Hosts rt subject start cell flight) :
    (evict rt (tick rt start.clock) : Program (Gate T P) _).Ends me
      (fun _ after => after.Hosts rt subject start cell flight) s := by
  obtain ⟨slot, member, here, recent⟩ := hosts.slot
  refine (evict_ends (fun id => id ≠ cell.entry.id) hosts.shelved fun other within long same => ?_).mono
    fun _ after swept => hosts.sweeps swept.1 swept.2.1 fun slot member recent =>
      swept.2.2 (subject, slot) member (by simp [Nat.sub_eq_zero_of_le recent])
  have key := hosts.keyed other within same
  have mine : other.2 = slot :=
    s.subjects.cache.value_unique (key ▸ within : (subject, other.2) ∈ s.subjects.cache.entries) member
  rw [mine, Nat.sub_eq_zero_of_le recent] at long
  exact absurd long (Nat.not_lt_zero _)

/-- What a gate has to show before an entry can be made: every entry so far is older, and so is
every lookup in a slot. -/
structure Fresh (s : Gate T P) : Prop where
  entries : ∀ id, s.nextEntry ≤ id → s.cells id = none
  slots : ∀ id cell fetch, s.cells id = some cell → cell.pending = some fetch →
    fetch.generation < s.nextGeneration
  shelved : Shelved s

theorem Fresh.sweeps {swept : Nat → Prop} (fresh : Fresh s) (sweeps : Gate.Sweeps swept s after)
    (old : ∀ slot ∈ after.subjects.cache.entries, slot ∈ s.subjects.cache.entries) : Fresh after := by
  refine ⟨fun id later => ?_, fun id cell fetch found held => ?_, fun slot member => ?_⟩
  · rw [sweeps.frame] at later
    refine Option.eq_none_iff_forall_ne_some.mpr fun cell found => ?_
    obtain ⟨cell', found'⟩ := sweeps.known id cell found
    rw [fresh.entries id later] at found'
    cases found'
  · obtain ⟨cell', found', held'⟩ := sweeps.pending_before found held
    rw [sweeps.frame]
    exact fresh.slots id cell' fetch found' held'
  · obtain ⟨cell, found⟩ := fresh.shelved slot (old slot member)
    obtain ⟨cell', found', _⟩ := sweeps.kept _ cell found
    exact ⟨cell', found'⟩

theorem Fresh.older (fresh : Fresh s) {slot : T × SubjectSlot T}
    (member : slot ∈ s.subjects.cache.entries) :
    ∃ cell, s.cells slot.2.entry.id = some cell ∧ slot.2.entry.id ≠ s.nextEntry := by
  obtain ⟨cell, found⟩ := fresh.shelved slot member
  refine ⟨cell, found, fun same => ?_⟩
  rw [same, fresh.entries s.nextEntry le_rfl] at found
  cases found

variable [DecidableEq T]

theorem getOrInsertWith_hosted (rests : s.Rests rt subject start cell flight) :
    (getOrInsertWith rt subject start.clock : Program (Gate T P) _).Ends me (fun result after =>
      result = (cell.entry, false) ∧ after.Rests rt subject start cell flight) s := by
  obtain ⟨slot, member, here, recent⟩ := rests.slot
  set locked := s.updateSubjects fun map => { map with lock := some me } with isLocked
  have got : locked.subjects.cache.getMut subject (fun slot => slot.touch (tick rt start.clock)) =
      some (slot.touch (tick rt start.clock),
        s.subjects.cache.place subject (slot.touch (tick rt start.clock))) := by
    rw [Data.Lru.getMut, isLocked]
    exact congrArg (Option.map _) (s.subjects.cache.peek_eq_some_iff.mpr member)
  set promoted := locked.updateSubjects fun map => map.setCache
    (s.subjects.cache.place subject (slot.touch (tick rt start.clock)))
  have hosts : promoted.Hosts rt subject start cell flight := by
    refine ⟨rests.clock, rests.watch, rests.published, fun other within => ?_,
      ⟨slot.touch (tick rt start.clock), Data.Lru.mem_place _ |>.mpr (.inl rfl), here, Nat.le_max_right _ _⟩,
      fun other within same => ?_, rests.found, rests.flown, rests.apart⟩
    · rcases (Data.Lru.mem_place _).mp within with rfl | old
      · exact rests.shelved (subject, slot) member
      · exact rests.shelved other old.1
    · rcases (Data.Lru.mem_place _).mp within with rfl | old
      · rfl
      · exact rests.keyed other old.1 same
  refine .bind (.always () locked (fun choice => by rw [rests.free]) ?_)
  refine .bind (.always (some cell.entry) promoted (fun choice => ?_) ?_)
  · rw [got]
    exact congrArg (fun entry => some (some entry, promoted)) here
  · exact .bind ((evict_hosted hosts).mono fun _ after hosts => .bind (.modify (.done ⟨rfl, hosts.unlock⟩)))

def createdFlight (rt : Runtime) (s : Gate T P) (subject : T) (now : Nat) : Flight T P :=
  { fetch := createdFetch rt s subject now, stage := .placed }

theorem insert_hosts (rt : Runtime) (subject : T) (fresh : Fresh s)
    (published : s.publish.lock = none) (limbo : List (Entry T)) :
    ((created rt s subject s.clock).updateSubjects fun map =>
      { map with
        cache := (s.subjects.cache.push rt.config.maxSubjects subject
          { entry := createdEntry rt s subject s.clock, lastTouched := tick rt s.clock }).2
        limbo }).Hosts rt subject s (createdCell rt s subject s.clock)
          (createdFlight rt s subject s.clock) := by
  refine ⟨rfl, rfl, published, fun slot member => ?_,
    ⟨_, Data.Lru.mem_push_self .., rfl, le_rfl⟩, fun slot member same => ?_,
    ⟨[], Function.update_self ..⟩, Function.update_self .., fun id cell fetch found held same => ?_⟩
  · rcases Data.Lru.mem_of_mem_push member with rfl | within
    · exact ⟨_, Function.update_self ..⟩
    · obtain ⟨cell, found, different⟩ := fresh.older within
      exact ⟨cell, (Function.update_of_ne different _ _).trans found⟩
  · rcases Data.Lru.mem_of_mem_push member with rfl | within
    · rfl
    · obtain ⟨_, _, different⟩ := fresh.older within
      exact absurd same different
  · by_contra different
    have found' : s.cells id = some cell := (Function.update_of_ne different _ _).symm.trans found
    have earlier := fresh.slots id cell fetch found' held
    rw [same] at earlier
    exact absurd earlier (Nat.lt_irrefl _)

/-- The first round of a call makes the entry and its lookup. -/
theorem getOrInsertWith_uncached (fresh : Fresh start) (free : start.subjects.lock = none)
    (published : start.publish.lock = none) (uncached : start.subjects.cache.peek subject = none) :
    (getOrInsertWith rt subject start.clock : Program (Gate T P) _).Ends me (fun result after =>
      result = (createdEntry rt start subject start.clock, true) ∧
        after.Rests rt subject start (createdCell rt start subject start.clock)
          (createdFlight rt start subject start.clock)) start := by
  set locked := start.updateSubjects fun map => { map with lock := some me } with isLocked
  refine .bind (.always () locked (fun choice => by rw [free]) ?_)
  refine .bind (.always none locked (fun choice => ?_) ?_)
  · have got : locked.subjects.cache.getMut subject
        (fun slot => slot.touch (tick rt start.clock)) = none := by
      rw [Data.Lru.getMut, isLocked]
      exact congrArg (Option.map _) uncached
    rw [got]
  refine .bind ((evict_ends (s := locked) (fun _ => True) fresh.shelved fun _ _ _ => trivial).mono
    fun _ swept held => ?_)
  obtain ⟨sweeps, old, _⟩ := held
  have freshSwept : Fresh swept := Fresh.sweeps (s := locked)
    ⟨fresh.entries, fresh.slots, fresh.shelved⟩ sweeps old
  have clock : swept.clock = start.clock := by rw [sweeps.frame]; rfl
  have watch : swept.watch = start.watch := by rw [sweeps.frame]; rfl
  have publishedSwept : swept.publish.lock = none := by
    rw [sweeps.frame]
    exact published
  have sameEntry : createdEntry rt swept subject start.clock =
      createdEntry rt start subject start.clock := by
    rw [sweeps.frame]
    rfl
  have sameCell : createdCell rt swept subject start.clock =
      createdCell rt start subject start.clock := by
    rw [sweeps.frame]
    rfl
  have sameFlight : createdFlight rt swept subject start.clock =
      createdFlight rt start subject start.clock := by
    rw [sweeps.frame]
    rfl
  have hosts := fun limbo => (insert_hosts rt subject freshSwept publishedSwept limbo).restart clock watch
  rw [clock, sameCell, sameFlight, sameEntry] at hosts
  generalize isPushed : swept.subjects.cache.push rt.config.maxSubjects subject
    { entry := createdEntry rt start subject start.clock, lastTouched := tick rt start.clock } = pushed
    at hosts
  obtain ⟨evicted, cache⟩ := pushed
  have rest : ∀ made : Gate T P, made.Hosts rt subject start (createdCell rt start subject start.clock)
      (createdFlight rt start subject start.clock) → (do
        evict rt (tick rt start.clock)
        unlock
        pure (createdEntry rt start subject start.clock, true) : Program (Gate T P) _).Ends me
          (fun result after => result = (createdEntry rt start subject start.clock, true) ∧
            after.Rests rt subject start (createdCell rt start subject start.clock)
              (createdFlight rt start subject start.clock)) made := fun made hosts =>
    .bind ((evict_hosted hosts).mono fun _ after hosts => .bind (.modify (.done ⟨rfl, hosts.unlock⟩)))
  cases evicted with
  | none =>
      refine .bind (.always (createdEntry rt start subject start.clock, none)
        ((created rt swept subject start.clock).updateSubjects fun map => map.setCache cache)
        (fun choice => ?_) (rest _ (hosts swept.subjects.limbo)))
      simp only [sameEntry, isPushed]
  | some slot =>
      have member : slot ∈ swept.subjects.cache.entries :=
        Data.Lru.mem_of_evicted (congrArg Prod.fst isPushed)
      obtain ⟨cell, found, different⟩ := freshSwept.older member
      set made := (created rt swept subject start.clock).updateSubjects fun map =>
        map.remove cache slot.2.entry with isMade
      have madeHosts : made.Hosts rt subject start (createdCell rt start subject start.clock)
          (createdFlight rt start subject start.clock) := hosts (slot.2.entry :: swept.subjects.limbo)
      refine .bind (.always (createdEntry rt start subject start.clock, some slot.2.entry) made
        (fun choice => ?_) ?_)
      · simp only [sameEntry, isPushed]
        rfl
      · have foundMade : made.cells slot.2.entry.id = some cell :=
          (Function.update_of_ne different _ _).trans found
        have out : slot.2.entry.id ≠ (createdCell rt start subject start.clock : EntryCell T P).entry.id := by
          rwa [← sameCell]
        have invalidates : (slot.2.entry.invalidate : Program (Gate T P) _).Ends me (fun _ after =>
            Gate.Invalidates
              (fun id => id ≠ (createdCell rt start subject start.clock : EntryCell T P).entry.id)
              slot.2.entry cell made after) made := Entry.invalidate_ends out foundMade
        refine .bind (invalidates.mono fun _ after held => .bind (.modify (rest _ ?_)))
        obtain ⟨invalidated, subjects, _⟩ := held
        have same : { after with shapeDirty := true }.subjects.cache = made.subjects.cache :=
          congrArg SubjectMap.cache subjects
        refine madeHosts.sweeps (invalidated.trans { Gate.Sweeps.refl after with frame := rfl })
          (fun slot member => same ▸ member) fun slot member _ => same ▸ member

end Subjects

structure Gate.Shapes (before after : Gate T P) : Prop where
  frame : after =
    { before with
      publish := after.publish
      shapeDirty := after.shapeDirty
      snapshot := after.snapshot
      copies := after.copies
      subjects := { before.subjects with lock := after.subjects.lock, limbo := after.subjects.limbo } }

structure Gate.Unlocked (s : Gate T P) : Prop where
  published : s.publish.lock = none
  free : s.subjects.lock = none

theorem Gate.Shapes.trans (first : Gate.Shapes s middle) (second : Gate.Shapes middle after) :
    Gate.Shapes s after := by
  refine ⟨?_⟩
  rw [second.frame, first.frame]

theorem Gate.Shapes.rests (shapes : Gate.Shapes s after) (unlocked : after.Unlocked)
    (rests : s.Rests rt subject start cell flight) : after.Rests rt subject start cell flight := by
  have frame := shapes.frame
  have cache : after.subjects.cache = s.subjects.cache := by rw [frame]
  refine { clock := ?_, watch := ?_, published := unlocked.published, shelved := ?_,
           slot := cache ▸ rests.slot, keyed := cache ▸ rests.keyed, found := ?_, flown := ?_,
           apart := ?_, free := unlocked.free }
  · rw [frame]
    exact rests.clock
  · rw [frame]
    exact rests.watch
  · rw [frame]
    exact rests.shelved
  · rw [frame]
    exact rests.found
  · rw [frame]
    exact rests.flown
  · rw [frame]
    exact rests.apart

theorem claimRepublish_shapes (unlocked : s.Unlocked) :
    (claimRepublish rt : Program (Gate T P) _).Ends me
      (fun _ after => Gate.Shapes s after ∧ after.Unlocked) s := by
  refine .bind (.always () { s with publish := { s.publish with lock := some me } }
    (fun choice => by rw [unlocked.published]) (.bind (.read s.clock rfl (.bind (.read _ rfl ?_)))))
  split
  · exact .bind (.modify (.done ⟨⟨rfl⟩, rfl, unlocked.free⟩))
  · exact .bind (.modify (.bind (.always _ _ (fun _ => rfl)
      (.bind (.modify (.done ⟨⟨rfl⟩, rfl, unlocked.free⟩))))))

theorem storeSnapshot_shapes (generation : Nat) (entries : List (T × Entry T)) (unlocked : s.Unlocked) :
    (storeSnapshot generation entries : Program (Gate T P) _).Ends me
      (fun _ after => Gate.Shapes s after ∧ after.Unlocked) s := by
  have rest : ∀ stored : Gate T P, Gate.Shapes s stored → stored.subjects.lock = none → (do
      Program.act fun pick s =>
        some ((), { s with copies := s.copies.filter fun copy => copy.thread ≠ pick.thread })
      unlockPublish : Program (Gate T P) Unit).Ends me
        (fun _ after => Gate.Shapes s after ∧ after.Unlocked) stored := by
    intro stored shapes free
    refine .bind (.always () { stored with copies := stored.copies.filter fun copy => copy.thread ≠ me }
      (fun choice => rfl) (.modify ⟨shapes.trans ⟨rfl⟩, rfl, free⟩))
  refine .bind (.always () { s with publish := { s.publish with lock := some me } }
    (fun choice => by rw [unlocked.published]) (.bind (.read _ rfl ?_)))
  split
  · refine .bind (.read _ rfl ?_)
    split
    · exact .bind (.modify (rest _ ⟨rfl⟩ unlocked.free))
    · exact rest _ ⟨rfl⟩ unlocked.free
  · exact rest _ ⟨rfl⟩ unlocked.free

theorem copyEntries_shapes (generation : Nat) (unlocked : s.Unlocked) :
    (Subjects.copyEntries generation : Program (Gate T P) _).Ends me
      (fun _ after => Gate.Shapes s after ∧ after.Unlocked) s := by
  refine .bind (.always () (s.updateSubjects fun map => { map with lock := some me })
    (fun choice => by rw [unlocked.free]) (.bind (.always _
      { s.updateSubjects fun map => { map with lock := some me } with
        copies := { thread := me, generation, era := s.watch.era } :: s.copies }
      (fun choice => rfl) (.bind (.modify (.done ⟨⟨rfl⟩, unlocked.published, rfl⟩))))))

theorem republishIfDue_shapes (unlocked : s.Unlocked) :
    (republishIfDue rt : Program (Gate T P) _).Ends me
      (fun _ after => Gate.Shapes s after ∧ after.Unlocked) s := by
  refine .bind (.read s.shapeDirty rfl ?_)
  split
  · refine .bind ((claimRepublish_shapes unlocked).mono fun claimed after held => ?_)
    obtain ⟨shapes, unlocked⟩ := held
    cases claimed with
    | none => exact .done ⟨shapes, unlocked⟩
    | some generation =>
        have cleaned : Gate.Shapes s { after with shapeDirty := false } := shapes.trans ⟨rfl⟩
        refine .bind (.modify (.bind ((copyEntries_shapes generation
          (s := { after with shapeDirty := false }) ⟨unlocked.published, unlocked.free⟩).mono
            fun entries copied held => ?_)))
        exact (storeSnapshot_shapes generation entries held.2).mono fun _ stored held' =>
          ⟨(cleaned.trans held.1).trans held'.1, held'.2⟩
  · exact .done ⟨⟨rfl⟩, unlocked⟩

theorem republishIfDue_hosted (rests : s.Rests rt subject start cell flight) :
    (republishIfDue rt : Program (Gate T P) _).Ends me
      (fun _ after => after.Rests rt subject start cell flight) s :=
  (republishIfDue_shapes ⟨rests.published, rests.free⟩).mono fun _ _ held => held.1.rests held.2 rests

end PolicyGate
