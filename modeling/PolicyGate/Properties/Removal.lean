import PolicyGate.Gate.Prompt
import PolicyGate.Properties.Runs

namespace PolicyGate

open Interleaving

variable {T P : Type} [DecidableEq T] {rt : Runtime} {authority : T → Option Decision}
  {calls : Nat → Call T} {c later : Config (Gate T P)}

theorem Gate.Invariant.gone {config : PolicyGateConfig} {s : Gate T P} (ok : s.Invariant config)
    (unlocked : s.subjects.lock = none) {id : Nat} {cell : EntryCell T P}
    (found : s.cells id = some cell) (out : ¬ s.subjects.Holds id) : s.Gone id := by
  refine ⟨⟨cell, found, ?_⟩, out⟩
  rcases ok.map.placed id cell found with holds | ⟨entry, member, _⟩ | dead
  · exact absurd holds out
  · rw [ok.map.unlocked unlocked] at member
    cases member
  · exact dead

/-- An `abort_pending` that runs has taken the lookup out of its slot and not aborted it yet: its abort is
the very next step of some thread, whatever that thread chooses. -/
def Aborting (c : Config (Gate T P)) (generation : Nat) : Prop :=
  c.shared.Swapped generation ∧
    ∃ thread, ∀ choice, ∃ next flight, c.move Gate.environment (.run ⟨thread, choice⟩) = some next ∧
      next.shared.flights generation = some flight ∧ flight.aborted = true

theorem Reachable.aborting (reached : Reachable rt authority calls c) {generation : Nat}
    (swapped : c.shared.Swapped generation) : Aborting c generation := by
  obtain ⟨thread, pays⟩ := reached.prompt.pays swapped
  refine ⟨swapped, thread, fun choice => ?_⟩
  obtain ⟨next, moved, paid⟩ := pays choice
  obtain ⟨flight, flown, taken, _⟩ := swapped
  obtain ⟨flight', flown', grows⟩ := (reached.extends (.of_move moved)).flights generation flight flown
  refine ⟨next, flight', moved, flown', ?_⟩
  by_contra spared
  exact paid ⟨flight', flown', grows.taken taken, by simpa using spared⟩

/-- What may still start a lookup of an entry that is out of the map: the poll that runs, where it is
past the abort check, or any poll before the abort that comes next. -/
def Straggles (c : Config (Gate T P)) (generation : Nat) (flight : Flight T P) : Prop :=
  (∃ poller, flight.stage = .polled poller) ∨ Aborting c generation

theorem Gate.Invariant.halted {config : PolicyGateConfig} {s : Gate T P} (ok : s.Invariant config)
    {id generation : Nat} (gone : s.Gone id)
    (pending : ∀ flight, s.flights generation = some flight →
      flight.begun = none ∧ ∀ poller, flight.stage ≠ .polled poller)
    (kept : ¬ s.Swapped generation) : s.Halted id generation := by
  rintro flight flown rfl
  obtain ⟨unbegun, unpolled⟩ := pending flight flown
  refine ⟨unbegun, ?_⟩
  by_cases settled : flight.stage.settled = true
  · exact .inl settled
  · refine .inr ⟨?_, unpolled⟩
    by_contra unaborted
    rw [Bool.not_eq_true] at unaborted
    have untaken : flight.taken = false := by
      by_contra taken
      exact kept ⟨flight, flown, by simpa using taken, unaborted⟩
    have live : flight.stage.live = true := by
      cases stage : flight.stage <;> first | rfl | (rw [stage] at settled; exact absurd rfl settled)
    obtain ⟨cell, found, inSlot⟩ := ok.slots.live generation flight flown live untaken
    obtain ⟨cell', found', _, claims⟩ := gone.1
    obtain rfl : cell = cell' := Option.some.inj (found.symm.trans found')
    obtain ⟨flight', enqueuer, flown', claimed⟩ := claims flight.fetch inSlot
    rw [(ok.flights generation flight flown).identity, flown, Option.some.injEq] at flown'
    rw [flown', claimed] at settled
    exact settled rfl

theorem Reachable.not_pending (reached : Reachable rt authority calls c) (leads : Leads c later)
    {id : Nat} {cell cell' : EntryCell T P} (found : c.shared.cells id = some cell)
    (found' : later.shared.cells id = some cell') (settled : cell.state ≠ .pending) :
    cell'.state ≠ .pending := by
  obtain ⟨cell'', found'', grows⟩ := (reached.extends leads).cells id cell found
  obtain rfl : cell' = cell'' := Option.some.inj (found'.symm.trans found'')
  have sound := (reached.invariant.cells id cell found).toSound
  have sound' := ((reached.leads leads).invariant.cells id cell' found').toSound
  rw [EntryCell.state, sound.value, Ne, EntryLog.current_pending_iff] at settled
  rw [EntryCell.state, sound'.value, Ne, EntryLog.current_pending_iff]
  obtain ⟨recent, split⟩ := grows.log
  rw [← split, EntryLog.touches_append]
  omega

/-- Between critical sections, an entry that is not in the map is `Stale` and stays so, and only a
lookup that straggles may still begin for it.  No entry returns to `Pending`, no handle refers to one
that is, and no `unreachable!` is reached. -/
theorem removed_entries_stay_stale (reached : Reachable rt authority calls c)
    (leads : Leads c later) :
    (c.shared.subjects.lock = none → ∀ id cell, c.shared.cells id = some cell →
      ¬ c.shared.subjects.Holds id →
        cell.state = .stale ∧
        (∃ cell', later.shared.cells id = some cell' ∧ cell'.state = .stale) ∧
        ∀ generation flight', later.shared.flights generation = some flight' →
          flight'.fetch.entry.id = id → flight'.begun.isSome = true →
            ∃ flight, c.shared.flights generation = some flight ∧
              (flight.begun.isSome = true ∨ Straggles c generation flight)) ∧
    (∀ id cell cell', c.shared.cells id = some cell → later.shared.cells id = some cell' →
      cell.state ≠ .pending → cell'.state ≠ .pending) ∧
    (∀ entry cell, c.shared.Issued entry → c.shared.cells entry.id = some cell →
      cell.state ≠ .pending) ∧
    c.shared.unreachable = false := by
  have ok := reached.invariant
  have extend := reached.extends leads
  refine ⟨fun unlocked id cell found out => ?_, fun id cell cell' found found' settled =>
    reached.not_pending leads found found' settled,
    fun entry cell issued found => Entry.not_pending_of_issued ok issued found, ok.reachable⟩
  have gone := ok.gone unlocked found out
  obtain ⟨cell', found', dead⟩ := gone.1
  obtain rfl : cell = cell' := Option.some.inj (found.symm.trans found')
  obtain ⟨cell', found', dead'⟩ := (extend.gone id gone).1
  refine ⟨dead.1, ⟨cell', found', dead'.1⟩, fun generation flight' flown' home began => ?_⟩
  by_contra none
  have halted : c.shared.Halted id generation := by
    refine ok.halted gone (fun flight flown => ⟨?_, fun poller polled => ?_⟩) fun swapped => ?_
    · by_contra begun
      exact none ⟨flight, flown, .inl (Option.isSome_iff_ne_none.mpr begun)⟩
    · exact none ⟨flight, flown, .inr (.inl ⟨poller, polled⟩)⟩
    · have aborting := reached.aborting swapped
      obtain ⟨flight, flown, _⟩ := swapped
      exact none ⟨flight, flown, .inr (.inr aborting)⟩
  have unbegun := (extend.halted id generation gone halted flight' flown' home).1
  rw [unbegun] at began
  cases began

/-- A second subject evicts entry 0 while thread 2 polls its lookup. -/
def Sample.evicts : List (Move (GateEvent Nat Nat)) :=
  Sample.connects ++ Sample.turns 1 2 69 ++ Sample.turns 2 0 1 ++ Sample.turns 3 2 20

def Sample.removed (s : Gate Nat Nat) : Bool :=
  s.subjects.lock.isNone && (s.cells 0).isSome &&
    s.subjects.cache.entries.all fun slot => slot.2.entry.id ≠ 0

theorem Sample.of_removed {s : Gate Nat Nat} (passed : Sample.removed s = true) :
    s.subjects.lock = none ∧ (∃ cell, s.cells 0 = some cell) ∧ ¬ s.subjects.Holds 0 := by
  simp only [Sample.removed, Bool.and_eq_true, Option.isNone_iff_eq_none, List.all_eq_true,
    decide_eq_true_eq, Option.isSome_iff_exists] at passed
  exact ⟨passed.1.1, passed.1.2, fun ⟨slot, member, same⟩ => passed.2 slot member same⟩

theorem removed_entries_stay_stale_sample : ∃ (c later : Config (Gate Nat Nat)) (cell cell' : EntryCell Nat Nat),
    Reachable Sample.tiny (fun _ => some .allowed) (Sample.asking [.admitSubject 0, .poll 0, .admitSubject 1]) c ∧
      Leads c later ∧ c.shared.cells 0 = some cell ∧ cell.state = .stale ∧
      later.shared.cells 0 = some cell' ∧ cell'.state = .stale ∧ c.shared.unreachable = false := by
  obtain ⟨c, later, reached, leads, passed⟩ :=
    Reachable.leads_of_run Sample.tiny (fun _ => some .allowed)
      (Sample.asking [.admitSubject 0, .poll 0, .admitSubject 1]) Sample.evicts (Sample.turns 2 0 4)
      (fun s _ => Sample.removed s) (by decide +kernel)
  obtain ⟨unlocked, ⟨cell, found⟩, out⟩ := Sample.of_removed passed
  obtain ⟨removed, _, _, reachable⟩ := removed_entries_stay_stale reached leads
  obtain ⟨stale, ⟨cell', found', stale'⟩, _⟩ := removed unlocked 0 cell found out
  exact ⟨c, later, cell, cell', reached, leads, found, stale, found', stale', reachable⟩

def Sample.lookedUp (before after : Gate Nat Nat) : Bool :=
  Sample.removed before &&
    ((before.flights 0).any fun flight => flight.fetch.entry.id = 0 && flight.begun.isNone) &&
    (after.flights 0).any fun flight => flight.begun.isSome

/-- A lookup polled past the abort check begins after its entry was evicted. -/
theorem removed_entry_looked_up : ∃ c later : Config (Gate Nat Nat),
    Reachable Sample.tiny (fun _ => some .allowed) (Sample.asking [.admitSubject 0, .poll 0, .admitSubject 1]) c ∧
      Leads c later ∧ c.shared.subjects.lock = none ∧ ¬ c.shared.subjects.Holds 0 ∧
      (∃ flight, c.shared.flights 0 = some flight ∧ flight.fetch.entry.id = 0 ∧
        flight.begun = none) ∧
      ∃ flight', later.shared.flights 0 = some flight' ∧ flight'.begun.isSome = true := by
  obtain ⟨c, later, reached, leads, passed⟩ :=
    Reachable.leads_of_run Sample.tiny (fun _ => some .allowed)
      (Sample.asking [.admitSubject 0, .poll 0, .admitSubject 1]) Sample.evicts (Sample.turns 2 0 4)
      Sample.lookedUp (by decide +kernel)
  simp only [Sample.lookedUp, Bool.and_eq_true, Option.any_eq_true, decide_eq_true_eq,
    Option.isNone_iff_eq_none] at passed
  obtain ⟨⟨removed, flight, flown, home, unbegun⟩, flight', flown', begun⟩ := passed
  obtain ⟨unlocked, _, out⟩ := Sample.of_removed removed
  exact ⟨c, later, reached, leads, unlocked, out, ⟨flight, flown, home, unbegun⟩, flight', flown',
    begun⟩

/-- The source call of this lookup has started and not returned, and it is not aborted. -/
structure Flight.Calling (flight : Flight T P) : Prop where
  calling : ∃ poller, flight.stage = .calling poller
  unaborted : flight.aborted = false

theorem Gate.Invariant.held_of_calling {config : PolicyGateConfig} {s : Gate T P}
    (ok : s.Invariant config) (unlocked : s.subjects.lock = none) {generation : Nat}
    {flight : Flight T P} (flown : s.flights generation = some flight) (calling : flight.Calling)
    (kept : ¬ s.Swapped generation) :
    ∃ cell, s.cells flight.fetch.entry.id = some cell ∧ cell.pending = some flight.fetch ∧
      cell.entry.subject = flight.fetch.subject ∧ s.subjects.Holds flight.fetch.entry.id := by
  obtain ⟨poller, stage⟩ := calling.calling
  have flightOk := ok.flights generation flight flown
  have untaken : flight.taken = false := by
    by_contra taken
    exact kept ⟨flight, flown, by simpa using taken, calling.unaborted⟩
  obtain ⟨cell, found, inSlot⟩ := ok.slots.live generation flight flown (by rw [stage]; rfl) untaken
  obtain ⟨cell', found', bound⟩ := flightOk.bound
  obtain rfl : cell = cell' := Option.some.inj (found.symm.trans found')
  refine ⟨cell, found, inSlot, by rw [bound.entry, flightOk.subject], ?_⟩
  by_contra out
  obtain ⟨cell', found', _, claims⟩ := (ok.gone unlocked found out).1
  obtain rfl : cell = cell' := Option.some.inj (found.symm.trans found')
  obtain ⟨flight', enqueuer, flown', claimed⟩ := claims flight.fetch inSlot
  rw [flightOk.identity, flown, Option.some.injEq] at flown'
  rw [flown', claimed] at stage
  cases stage

/-- Between critical sections, at most one lookup for a subject is in flight that is not aborted and
whose abort is not the very next step of some thread. -/
theorem one_lookup_in_flight (reached : Reachable rt authority calls c)
    (unlocked : c.shared.subjects.lock = none) {first second : Nat} {flight other : Flight T P}
    (flown : c.shared.flights first = some flight)
    (flownOther : c.shared.flights second = some other)
    (calling : flight.Calling) (callingOther : other.Calling)
    (lasting : ¬ Aborting c first) (lastingOther : ¬ Aborting c second)
    (same : flight.fetch.subject = other.fetch.subject) : first = second := by
  have ok := reached.invariant
  obtain ⟨cell, found, inSlot, subject, holds⟩ :=
    ok.held_of_calling unlocked flown calling (lasting ∘ reached.aborting)
  obtain ⟨cell', found', inSlot', subject', holds'⟩ :=
    ok.held_of_calling unlocked flownOther callingOther (lastingOther ∘ reached.aborting)
  have one := ok.map.holds_unique holds holds' found found' (subject.trans (same.trans subject'.symm))
  rw [← one, found, Option.some.injEq] at found'
  rw [← found', inSlot, Option.some.injEq] at inSlot'
  rw [← (ok.flights first flight flown).identity, inSlot',
    (ok.flights second other flownOther).identity]

def Sample.refreshers : Nat → Call Nat :=
  Sample.asking [.admitSubject 0, .poll 0, .tryCached 0, .poll 1, .invalidate Sample.entry, .admitSubject 0, .poll 2]

def Sample.inFlight (s : Gate Nat Nat) : Bool :=
  s.subjects.lock.isNone && (s.flights 1).any fun flight =>
    flight.stage = .calling 4 && !flight.taken && !flight.aborted && flight.fetch.subject = 0

theorem one_lookup_in_flight_sample : ∃ (c : Config (Gate Nat Nat)) (flight : Flight Nat Nat),
    Reachable Sample.runtime (fun _ => some .allowed) Sample.refreshers c ∧
      c.shared.flights 1 = some flight ∧ flight.Calling ∧ ¬ Aborting c 1 ∧
      ∀ generation other, c.shared.flights generation = some other → other.Calling →
        ¬ Aborting c generation → other.fetch.subject = 0 → 1 = generation := by
  obtain ⟨c, reached, passed⟩ := Reachable.of_run Sample.runtime (fun _ => some .allowed)
    Sample.refreshers Sample.refreshes Sample.inFlight (by decide +kernel)
  simp only [Sample.inFlight, Bool.and_eq_true, Option.isNone_iff_eq_none, Option.any_eq_true,
    decide_eq_true_eq, Bool.not_eq_eq_eq_not, Bool.not_true] at passed
  obtain ⟨unlocked, flight, flown, ⟨⟨stage, untaken⟩, unaborted⟩, subject⟩ := passed
  have calling : flight.Calling := ⟨⟨4, stage⟩, unaborted⟩
  have lasting : ¬ Aborting c 1 := by
    rintro ⟨⟨other, flownOther, taken, _⟩, _⟩
    obtain rfl : flight = other := Option.some.inj (flown.symm.trans flownOther)
    rw [untaken] at taken
    cases taken
  exact ⟨c, flight, reached, flown, calling, lasting,
    fun generation other flownOther callingOther lastingOther named =>
      one_lookup_in_flight reached unlocked flown flownOther calling callingOther lasting lastingOther
        (subject.trans named.symm)⟩

/-- Thread 5 invalidates the entry and stands between the two steps of `abort_pending`; thread 6
admits the subject anew, and thread 7 starts its lookup. -/
def Sample.invalidates : List (Move (GateEvent Nat Nat)) :=
  Sample.refreshes ++ Sample.turns 5 2 5 ++ Sample.turns 6 2 98 ++ Sample.turns 7 0 5

def Sample.twoInFlight (s : Gate Nat Nat) : Bool :=
  s.subjects.lock.isNone &&
    ((s.flights 1).any fun flight =>
      flight.stage = .calling 4 && !flight.aborted && flight.fetch.subject = 0) &&
    (s.flights 2).any fun flight =>
      flight.stage = .calling 7 && !flight.aborted && flight.fetch.subject = 0

/-- While `Admission::invalidate` stands between its swap of the slot and its abort, two lookups for
one subject that are not aborted are in flight. -/
theorem two_lookups_in_flight : ∃ (c : Config (Gate Nat Nat)) (first second : Flight Nat Nat),
    Reachable Sample.runtime (fun _ => some .allowed) Sample.refreshers c ∧
      c.shared.subjects.lock = none ∧
      c.shared.flights 1 = some first ∧ c.shared.flights 2 = some second ∧
      first.fetch.subject = 0 ∧ second.fetch.subject = 0 ∧
      first.stage = .calling 4 ∧ second.stage = .calling 7 ∧
      first.aborted = false ∧ second.aborted = false := by
  obtain ⟨c, reached, passed⟩ := Reachable.of_run Sample.runtime (fun _ => some .allowed)
    Sample.refreshers Sample.invalidates Sample.twoInFlight (by decide +kernel)
  simp only [Sample.twoInFlight, Bool.and_eq_true, Option.isNone_iff_eq_none, Option.any_eq_true,
    decide_eq_true_eq, Bool.not_eq_eq_eq_not, Bool.not_true] at passed
  obtain ⟨⟨unlocked, first, flown, ⟨stage, unaborted⟩, subject⟩, second, flown', ⟨stage', unaborted'⟩,
    subject'⟩ := passed
  exact ⟨c, first, second, reached, unlocked, flown, flown', subject, subject', stage, stage',
    unaborted, unaborted'⟩

end PolicyGate
