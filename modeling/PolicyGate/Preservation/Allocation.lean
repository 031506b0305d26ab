import PolicyGate.Preservation.Map

namespace PolicyGate

open Data

variable {T P : Type} {config : PolicyGateConfig} {s : Gate T P}

theorem QueueOk.grow {cells cells' : Nat → Option (EntryCell T P)}
    {flights flights' : Nat → Option (Flight T P)} {queue : List (PendingFetch T P)}
    {watch : Watch T P} (ok : QueueOk cells flights queue watch)
    (old : ∀ generation flight, flights generation = some flight →
      flights' generation = some flight)
    (new : ∀ generation flight, flights' generation = some flight →
      flights generation = some flight ∨
        flight.stage ≠ .queued ∧ flight.stage.airborne = false)
    (homes : ∀ generation flight cell, flights generation = some flight →
      cells' flight.fetch.entry.id = some cell → cells flight.fetch.entry.id = some cell) :
    QueueOk cells' flights' queue watch where
  queued fetch member := by
    obtain ⟨flight, flown, rest⟩ := ok.queued fetch member
    exact ⟨flight, old _ flight flown, rest⟩
  inflight fetch member := by
    obtain ⟨flight, flown, rest⟩ := ok.inflight fetch member
    exact ⟨flight, old _ flight flown, rest⟩
  distinct := ok.distinct
  waiting generation flight flown' queued := by
    rcases new generation flight flown' with flown | ⟨notQueued, _⟩
    · exact (ok.waiting generation flight flown queued).imp_right fun orphaned connected cell found =>
        orphaned connected cell (homes generation flight cell flown found)
    · exact absurd queued notQueued
  flying generation flight flown' refresh unaborted airborne := by
    rcases new generation flight flown' with flown | ⟨_, grounded⟩
    · exact (ok.flying generation flight flown refresh unaborted airborne).imp_right
        fun orphaned connected cell found =>
          orphaned connected cell (homes generation flight cell flown found)
    · exact absurd (grounded.symm.trans airborne) (by decide)

theorem OwnStep.newFetchAfter [DecidableEq T] {me : Nat} {cell : EntryCell T P}
    {fetch : PendingFetch T P} (ok : s.Invariant config)
    (generation : fetch.generation = s.nextGeneration)
    (found : s.cells fetch.entry.id = some cell) (home : cell.entry = fetch.entry)
    (subject : fetch.subject = fetch.entry.subject)
    (permitted : fetch.refreshFrom.isSome = true → Permitted s.watch.reached cell.session)
    (captured : ∀ arc, fetch.refreshFrom = some arc →
      arc.CapturedFrom config cell.entry cell.log ∧ arc.value.state.Authoritative) :
    OwnStep config me s { s with
      nextGeneration := s.nextGeneration + 1
      flights := Function.update s.flights s.nextGeneration
        (some { fetch, stage := .created me }) } := by
  set after : Gate T P := { s with
      nextGeneration := s.nextGeneration + 1
      flights := Function.update s.flights s.nextGeneration
        (some { fetch, stage := .created me }) }
  have fresh : s.flights s.nextGeneration = none := ok.freshGeneration _ le_rfl
  have old : ∀ generation flight, s.flights generation = some flight →
      after.flights generation = some flight := by
    intro generation flight flown
    refine (Function.update_of_ne ?_ _ _).trans flown
    rintro rfl
    rw [fresh] at flown
    cases flown
  have new : ∀ generation flight, after.flights generation = some flight →
      s.flights generation = some flight ∨ generation = s.nextGeneration ∧
        flight = { fetch, stage := .created me } := by
    intro generation flight flown
    by_cases same : generation = s.nextGeneration
    · subst same
      change Function.update s.flights _ _ _ = _ at flown
      rw [Function.update_self, Option.some.injEq] at flown
      exact .inr ⟨rfl, flown.symm⟩
    · exact .inl ((Function.update_of_ne same _ _).symm.trans flown)
  have advance : Advance s after := by
    refine .of_grown le_rfl le_rfl le_rfl le_rfl (fun id cell found => ⟨cell, found, .refl id cell⟩)
      (fun id cell' missing found => ?_)
      (fun generation flight flown => ⟨flight, old generation flight flown, .refl _ _⟩)
      (fun generation flight missing flown => ?_) fun _ held _ => held
    · rw [missing] at found
      cases found
    · rcases new generation flight flown with flown | ⟨_, rfl⟩
      · rw [missing] at flown
        cases flown
      · exact .inl ⟨rfl, .inl rfl⟩
  refine ⟨{ ok with
    freshGeneration := fun generation later => ?_, cells := fun id cell found =>
      (ok.cells id cell found).mono advance.toExtends, flights := fun generation flight flown => ?_,
    slots := ⟨fun id cell fetch found pending => ?_, fun generation flight flown live => ?_⟩,
    map := ok.map.transfer advance rfl fun id cell found => ?_,
    queue := ok.queue.grow old (fun generation flight flown => ?_) fun _ _ _ _ found => found,
    agreement := fun streaming honest => ?_ }, advance, fun other different => ?_⟩
  · have later : s.nextGeneration + 1 ≤ generation := later
    exact (Function.update_of_ne (by omega) _ _).trans (ok.freshGeneration generation (by omega))
  · rcases new generation flight flown with flown | ⟨rfl, rfl⟩
    · exact ok.flights generation flight flown
    · exact
        { aborted := nofun, taken := nofun, asked := nofun, placed := nofun, enqueued := nofun, early := fun _ => rfl,
          calling := nofun, answered := nofun, outcome := nofun, identity := generation,
          subject := subject
          bound := ⟨cell, found,
            { entry := home
              permitted := fun asked => permitted (asked.resolve_left nofun)
              captured := captured, started := nofun, begun := nofun }⟩ }
  · obtain ⟨flight, flown, rest⟩ := ok.slots.held id cell fetch found pending
    exact ⟨flight, old _ flight flown, rest⟩
  · rcases new generation flight flown with flown | ⟨_, rfl⟩
    · exact ok.slots.live generation flight flown live
    · cases live
  · change s.cells id = some cell at found
    rw [found]
    rfl
  · exact (new generation flight flown).imp_right fun made => by
      rw [made.2]
      exact ⟨nofun, rfl⟩
  · have agreement := ok.agreement streaming (advance.toExtends.honest honest)
    refine agreement.transfer (fun generation flight flown answered => ?_) agreement.emitted
      fun id cell found held quiet => .inl ⟨cell, found, held, rfl, rfl, quiet, rfl⟩
    rcases new generation flight flown with flown | ⟨_, rfl⟩
    · exact ⟨flight, flown, rfl, rfl⟩
    · cases answered
  · refine
      { toAdvance := advance, turn := fun held => ⟨held, .of_cells_eq rfl⟩
        copies := fun _ member _ => member, publish := fun held => ⟨held, rfl, rfl, fun connected => connected⟩,
        owned := fun generation stage owned => ?_, watch := fun _ => ⟨rfl, rfl⟩,
        subjects := fun _ => ⟨rfl, fun _ stale => stale⟩ }
    by_cases same : generation = s.nextGeneration
    · subst same
      unfold Gate.stageOf
      change _ ↔ (Function.update s.flights _ _ _).map _ = _
      rw [Function.update_self, fresh]
      refine ⟨nofun, fun made => ?_⟩
      obtain rfl := Option.some.inj made
      exact absurd owned (owner_ne different)
    · unfold Gate.stageOf
      change _ ↔ (Function.update s.flights _ _ _).map _ = _
      rw [Function.update_of_ne same]

structure Inserts (before after : SubjectMap T) (slot : T × SubjectSlot T) : Prop where
  lock : after.lock = before.lock
  member : slot ∈ after.cache.entries
  only : ∀ other ∈ after.cache.entries, other = slot ∨ other ∈ before.cache.entries
  covers : ∀ other ∈ before.cache.entries,
    other ∈ after.cache.entries ∨ other.2.entry ∈ after.limbo
  limbo : ∀ entry ∈ before.limbo, entry ∈ after.limbo
  removed : ∀ entry ∈ after.limbo, entry ∈ before.limbo ∨
    ∃ other ∈ before.cache.entries, other.2.entry = entry ∧
      ∀ kept ∈ after.cache.entries, kept = slot ∨ kept.1 ≠ other.1

section

variable [DecidableEq T]

theorem Inserts.setCache {map : SubjectMap T} {capacity : Nat} {slot : T × SubjectSlot T}
    {cache : Data.Lru T (SubjectSlot T)}
    (pushed : map.cache.push capacity slot.1 slot.2 = (none, cache)) :
    Inserts map (map.setCache cache) slot := by
  have after : (map.cache.push capacity slot.1 slot.2).2 = cache := by rw [pushed]
  subst after
  refine ⟨rfl, map.cache.mem_push_self capacity slot.1 slot.2, fun other member =>
    Data.Lru.mem_of_mem_push member, fun other member => .inl ?_, fun _ member => member,
    fun _ member => .inl member⟩
  refine (Data.Lru.mem_push_or_evicted capacity slot.1 slot.2 member).resolve_right ?_
  rw [pushed]
  nofun

theorem Inserts.remove {map : SubjectMap T} {capacity : Nat} {slot evicted : T × SubjectSlot T}
    {cache : Data.Lru T (SubjectSlot T)}
    (pushed : map.cache.push capacity slot.1 slot.2 = (some evicted, cache)) :
    Inserts map (map.remove cache evicted.2.entry) slot := by
  have after : (map.cache.push capacity slot.1 slot.2).2 = cache := by rw [pushed]
  have old : (map.cache.push capacity slot.1 slot.2).1 = some evicted := by rw [pushed]
  subst after
  refine ⟨rfl, map.cache.mem_push_self capacity slot.1 slot.2, fun other member =>
    Data.Lru.mem_of_mem_push member, fun other member => ?_, fun _ => List.mem_cons_of_mem _,
    fun entry member => ?_⟩
  · refine (Data.Lru.mem_push_or_evicted capacity slot.1 slot.2 member).imp_right fun out => ?_
    obtain rfl : evicted = other := Option.some.inj (old.symm.trans out)
    exact List.mem_cons_self
  · rcases List.mem_cons.mp member with rfl | before
    · exact .inr ⟨evicted, Data.Lru.mem_of_evicted old, rfl, fun kept member =>
        Data.Lru.key_ne_of_mem_push old member⟩
    · exact .inl before

abbrev Subjects.inserted (rt : Runtime) (s : Gate T P) (subject : T) (now : Nat)
    (map : SubjectMap T) : Gate T P :=
  { Subjects.created rt s subject now with subjects := map }

/-- One entry is new, and one lookup, which stands in its slot. -/
structure Creates (rt : Runtime) (subject : T) (now : Nat) (s after : Gate T P) : Prop where
  freshCell : s.cells s.nextEntry = none
  freshFlight : s.flights s.nextGeneration = none
  oldCell : ∀ id cell, s.cells id = some cell → after.cells id = some cell
  newCell : ∀ id cell, after.cells id = some cell → s.cells id = some cell ∨
    id = s.nextEntry ∧ cell = Subjects.createdCell rt s subject now
  oldFlight : ∀ generation flight, s.flights generation = some flight →
    after.flights generation = some flight
  newFlight : ∀ generation flight, after.flights generation = some flight →
    s.flights generation = some flight ∨ generation = s.nextGeneration ∧
      flight = { fetch := Subjects.createdFetch rt s subject now, stage := .placed }
  home : after.cells s.nextEntry = some (Subjects.createdCell rt s subject now)
  flown : after.flights s.nextGeneration =
    some { fetch := Subjects.createdFetch rt s subject now, stage := .placed }

section

variable {rt : Runtime} {subject : T} {map : SubjectMap T} {now tick me : Nat} {after : Gate T P}

theorem Creates.of_created (ok : s.Invariant rt.config) :
    Creates rt subject now s (Subjects.inserted rt s subject now map) := by
  have freshCell : s.cells s.nextEntry = none := ok.freshEntry _ le_rfl
  have freshFlight : s.flights s.nextGeneration = none := ok.freshGeneration _ le_rfl
  refine ⟨freshCell, freshFlight, fun id cell found => ?_, fun id cell found => ?_,
    fun generation flight flown => ?_, fun generation flight flown => ?_, Function.update_self ..,
    Function.update_self ..⟩
  · refine (Function.update_of_ne ?_ _ _).trans found
    rintro rfl
    rw [freshCell] at found
    cases found
  · by_cases same : id = s.nextEntry
    · subst same
      change Function.update s.cells _ _ _ = _ at found
      rw [Function.update_self, Option.some.injEq] at found
      exact .inr ⟨rfl, found.symm⟩
    · exact .inl ((Function.update_of_ne same _ _).symm.trans found)
  · refine (Function.update_of_ne ?_ _ _).trans flown
    rintro rfl
    rw [freshFlight] at flown
    cases flown
  · by_cases same : generation = s.nextGeneration
    · subst same
      change Function.update s.flights _ _ _ = _ at flown
      rw [Function.update_self, Option.some.injEq] at flown
      exact .inr ⟨rfl, flown.symm⟩
    · exact .inl ((Function.update_of_ne same _ _).symm.trans flown)

namespace Creates

omit [DecidableEq T] in
theorem dead (creates : Creates rt subject now s after) {cell : EntryCell T P}
    (dead : cell.Dead s.flights) : cell.Dead after.flights := by
  refine ⟨dead.1, fun filled pending => ?_⟩
  obtain ⟨flight, enqueuer, flown, claimed⟩ := dead.2 filled pending
  exact ⟨flight, enqueuer, creates.oldFlight _ flight flown, claimed⟩

omit [DecidableEq T] in
theorem held (creates : Creates rt subject now s after) (inserts : Inserts s.subjects map
      (subject, { entry := Subjects.createdEntry rt s subject now, lastTouched := tick }))
    {id : Nat} (known : (s.cells id).isSome = true) (holds : map.Holds id) : s.subjects.Holds id := by
  obtain ⟨slot, member, rfl⟩ := holds
  rcases inserts.only slot member with rfl | old
  · change (s.cells s.nextEntry).isSome = true at known
    rw [creates.freshCell] at known
    cases known
  · exact ⟨slot, old, rfl⟩

theorem slotsOk (creates : Creates rt subject now s after) (ok : s.Invariant rt.config) :
    SlotsOk after.cells after.flights := by
  refine ⟨fun id cell filled found pending => ?_, fun generation flight flown live untaken => ?_⟩
  · rcases creates.newCell id cell found with found | ⟨rfl, rfl⟩
    · obtain ⟨flight, flown, rest⟩ := ok.slots.held id cell filled found pending
      exact ⟨flight, creates.oldFlight _ flight flown, rest⟩
    · obtain rfl : Subjects.createdFetch rt s subject now = filled := Option.some.inj pending
      exact ⟨_, creates.flown, rfl, rfl, rfl, rfl, nofun⟩
  · rcases creates.newFlight generation flight flown with flown | ⟨_, rfl⟩
    · obtain ⟨cell, found, pending⟩ := ok.slots.live generation flight flown live untaken
      exact ⟨cell, creates.oldCell _ cell found, pending⟩
    · exact ⟨_, creates.home, rfl⟩

theorem apart (creates : Creates rt subject now s after) (ok : s.Invariant rt.config)
    (inserts : Inserts s.subjects map
      (subject, { entry := Subjects.createdEntry rt s subject now, lastTouched := tick }))
    {removed : Entry T} (member : removed ∈ map.limbo) : ¬ map.Holds removed.id := by
  have known : (s.cells removed.id).isSome = true := by
    rcases inserts.removed removed member with old | ⟨other, old, rfl, _⟩
    · obtain ⟨cell, found, _⟩ := ok.map.limbo removed old
      rw [found]
      rfl
    · obtain ⟨cell, found, _⟩ := ok.map.slots other old
      rw [found]
      rfl
  intro holds
  obtain ⟨before, old, same⟩ := creates.held inserts known holds
  obtain ⟨kept, stayed, same'⟩ := holds
  rcases inserts.removed removed member with gone | ⟨other, gone, rfl, apart⟩
  · exact ok.map.apart removed gone ⟨before, old, same⟩
  · obtain ⟨cell, found, _, subject, _⟩ := ok.map.slots other gone
    rcases apart kept stayed with rfl | different
    · change s.nextEntry = other.2.entry.id at same'
      rw [← same', creates.freshCell] at known
      cases known
    · rcases inserts.only kept stayed with rfl | before
      · change s.nextEntry = other.2.entry.id at same'
        rw [← same', creates.freshCell] at known
        cases known
      · obtain ⟨cell', found', _, subject', _⟩ := ok.map.slots kept before
        rw [same', found, Option.some.injEq] at found'
        exact different (subject'.trans (found' ▸ subject.symm))

theorem mapOk (creates : Creates rt subject now s after) (ok : s.Invariant rt.config)
    (locked : s.subjects.lock = some me) (inserts : Inserts s.subjects map
      (subject, { entry := Subjects.createdEntry rt s subject now, lastTouched := tick })) :
    MapOk after.cells after.flights map s.watch.era := by
  refine ⟨fun slot member => ?_, fun removed member => ?_, fun id cell found => ?_, fun free => ?_,
    fun removed member => creates.apart ok inserts member⟩
  · rcases inserts.only slot member with rfl | old
    · exact ⟨_, creates.home, rfl, rfl, rfl⟩
    · obtain ⟨cell, found, rest⟩ := ok.map.slots slot old
      exact ⟨cell, creates.oldCell _ cell found, rest⟩
  · rcases inserts.removed removed member with old | ⟨slot, old, rfl, _⟩
    · obtain ⟨cell, found, same, state⟩ := ok.map.limbo removed old
      exact ⟨cell, creates.oldCell _ cell found, same, state.imp_left creates.dead⟩
    · obtain ⟨cell, found, same, _, session⟩ := ok.map.slots slot old
      exact ⟨cell, creates.oldCell _ cell found, same, .inr session⟩
  · rcases creates.newCell id cell found with found | ⟨rfl, rfl⟩
    · rcases ok.map.placed id cell found with ⟨slot, old, rfl⟩ | ⟨removed, old, rfl⟩ | dead
      · exact (inserts.covers slot old).imp (fun stays => ⟨slot, stays, rfl⟩)
          fun out => .inl ⟨slot.2.entry, out, rfl⟩
      · exact .inr (.inl ⟨removed, inserts.limbo removed old, rfl⟩)
      · exact .inr (.inr (creates.dead dead))
    · exact .inl ⟨_, inserts.member, rfl⟩
  · rw [inserts.lock, locked] at free
    cases free

theorem queueOk (creates : Creates rt subject now s after) (ok : s.Invariant rt.config) :
    QueueOk after.cells after.flights s.queue s.watch := by
  refine ok.queue.grow creates.oldFlight (fun generation flight flown => ?_)
    fun generation flight cell flown found => ?_
  · exact (creates.newFlight generation flight flown).imp_right fun made => by
      rw [made.2]
      exact ⟨nofun, rfl⟩
  · obtain ⟨cell', known, _⟩ := (ok.flights generation flight flown).bound
    rw [creates.oldCell _ cell' known] at found
    rw [known, ← found]

theorem cellOk (creates : Creates rt subject now s after) (ok : s.Invariant rt.config)
    (past : now ≤ after.clock) (extend : Extends s after) {id : Nat} {cell : EntryCell T P}
    (found : after.cells id = some cell) :
    CellOk rt.config after.clock after.flights after.watch.reached id cell := by
  rcases creates.newCell id cell found with found | ⟨rfl, rfl⟩
  · exact (ok.cells id cell found).mono extend
  · exact
      { address := rfl, value := rfl, accounted := trivial, identity := rfl, epoch := past,
        window := rfl
        due := fun created current placed refresh => by
          obtain rfl : Subjects.createdFetch rt s subject now = created := Option.some.inj placed
          cases refresh
        sourced := nofun, permitted := fun authoritative =>
          absurd (EntrySnapshot.pending_state ▸ authoritative) EntryState.not_authoritative_pending }

theorem flightOk (creates : Creates rt subject now s after) (ok : s.Invariant rt.config)
    (extend : Extends s after) {generation : Nat} {flight : Flight T P}
    (flown : after.flights generation = some flight) :
    FlightOk rt.config after.cells after.watch.reached generation flight := by
  rcases creates.newFlight generation flight flown with flown | ⟨rfl, rfl⟩
  · exact (ok.flights generation flight flown).mono extend
  · exact
      { aborted := nofun, taken := nofun, asked := nofun, placed := fun _ => rfl, enqueued := nofun,
        early := fun _ => rfl, calling := nofun, answered := nofun, outcome := nofun,
        identity := rfl, subject := rfl
        bound := ⟨_, creates.home,
          { entry := rfl, permitted := fun asked => by rcases asked with asked | asked <;> cases asked
            captured := nofun, started := nofun, begun := nofun }⟩ }

omit [DecidableEq T] in
theorem advance (creates : Creates rt subject now s (Subjects.inserted rt s subject now map))
    (inserts : Inserts s.subjects map
      (subject, { entry := Subjects.createdEntry rt s subject now, lastTouched := tick })) :
    Advance s (Subjects.inserted rt s subject now map) := by
  refine .of_grown le_rfl le_rfl le_rfl le_rfl
    (fun id cell found => ⟨cell, creates.oldCell id cell found, .refl id cell⟩)
    (fun id cell' missing found => ?_)
    (fun generation flight flown => ⟨flight, creates.oldFlight generation flight flown, .refl _ _⟩)
    (fun generation flight missing flown => ?_) fun id holds known => creates.held inserts known holds
  · rcases creates.newCell id cell' found with found | ⟨_, rfl⟩
    · rw [missing] at found
      cases found
    · refine ⟨rfl, fun filled pending => ?_⟩
      obtain rfl : Subjects.createdFetch rt s subject now = filled := Option.some.inj pending
      exact creates.freshFlight
  · rcases creates.newFlight generation flight flown with flown | ⟨_, rfl⟩
    · rw [missing] at flown
      cases flown
    · exact .inr creates.freshCell

omit [DecidableEq T] in
theorem guarded (creates : Creates rt subject now s (Subjects.inserted rt s subject now map))
    (advance : Advance s (Subjects.inserted rt s subject now map)) (other : Nat) :
    Guarded other s (Subjects.inserted rt s subject now map) := by
  refine { toAdvance := advance, watch := fun _ => ⟨rfl, rfl⟩, copies := fun _ member _ => member,
           owned := fun generation stage owned => ?_ }
  unfold Gate.stageOf
  by_cases same : generation = s.nextGeneration
  · subst same
    rw [creates.flown, creates.freshFlight]
    refine ⟨nofun, fun made => ?_⟩
    obtain rfl := Option.some.inj made
    cases owned
  · change _ ↔ (Function.update s.flights _ _ _).map _ = _
    rw [Function.update_of_ne same]

theorem agreement (creates : Creates rt subject now s (Subjects.inserted rt s subject now map))
    (ok : s.Invariant rt.config) (inserts : Inserts s.subjects map
      (subject, { entry := Subjects.createdEntry rt s subject now, lastTouched := tick }))
    (agreement : s.Agreement) : (Subjects.inserted rt s subject now map).Agreement := by
  refine agreement.transfer (fun generation flight flown answered => ?_) agreement.emitted
    fun id cell found holds quiet => ?_
  · rcases creates.newFlight generation flight flown with flown | ⟨_, rfl⟩
    · exact ⟨flight, flown, rfl, rfl⟩
    · cases answered
  · rcases creates.newCell id cell found with found | ⟨rfl, rfl⟩
    · exact .inl ⟨cell, found, creates.held inserts (by rw [found]; rfl) holds, rfl, rfl, quiet, rfl⟩
    · refine .inr ⟨fun decision decided => ?_, fun generation flight result flown at_home _ answered => ?_⟩
      · change (EntrySnapshot.pending : EntrySnapshot P).state = _ at decided
        rw [EntrySnapshot.pending_state] at decided
        cases decision <;> cases decided
      · rcases creates.newFlight generation flight flown with flown | ⟨_, rfl⟩
        · obtain ⟨cell', known, _⟩ := (ok.flights generation flight flown).bound
          rw [at_home, creates.freshCell] at known
          cases known
        · cases answered

end Creates

/-- `create()` and the `push` of the new entry. -/
theorem GuardedStep.insert (ok : s.Invariant rt.config) (locked : s.subjects.lock = some me)
    (past : now ≤ s.clock) (inserts : Inserts s.subjects map
      (subject, { entry := Subjects.createdEntry rt s subject now, lastTouched := tick })) :
    GuardedStep rt.config me s (Subjects.inserted rt s subject now map) := by
  have creates : Creates rt subject now s (Subjects.inserted rt s subject now map) :=
    .of_created ok
  have advance := creates.advance inserts
  have extend := advance.toExtends
  refine ⟨
    { freshEntry := fun id later => ?_, freshGeneration := fun generation later => ?_,
      cells := fun id cell found => creates.cellOk ok past extend found,
      flights := fun generation flight flown => creates.flightOk ok extend flown,
      slots := creates.slotsOk ok, map := creates.mapOk ok locked inserts, session := ok.session,
      snapshot := ok.snapshot.transfer extend, copies := ok.copies.transfer extend rfl rfl rfl
      queue := creates.queueOk ok, agreement := fun streaming honest =>
        creates.agreement ok inserts (ok.agreement streaming (extend.honest honest)),
      outcomes := fun thread outcome returned => (ok.outcomes thread outcome returned).mono extend,
      reachable := ok.reachable },
    creates.guarded advance me, fun other different =>
      { toGuarded := creates.guarded advance other
        turn := fun turn => ⟨turn, fun id cell cell' found found' => ?_⟩
        publish := fun held => ⟨held, rfl, rfl, fun connected => connected⟩
        subjects := fun theirs => absurd theirs (SubjectMap.not_locked locked different) }⟩
  · have later : s.nextEntry + 1 ≤ id := later
    exact (Function.update_of_ne (by omega) _ _).trans (ok.freshEntry id (by omega))
  · have later : s.nextGeneration + 1 ≤ generation := later
    exact (Function.update_of_ne (by omega) _ _).trans (ok.freshGeneration generation (by omega))
  · rw [creates.oldCell id cell found, Option.some.injEq] at found'
    rw [found']

end

end

end PolicyGate
