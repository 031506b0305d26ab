import PolicyGate.Properties.Agreement

namespace PolicyGate

open Interleaving

variable {T P : Type} [DecidableEq T] {rt : Runtime} {authority : T → Option Decision}
  {calls : Nat → Call T} {c later : Config (Gate T P)}

def Origin.lookup : Origin → Option Nat
  | .cold generation | .refresh generation => some generation
  | .change => none

namespace EntryLog

variable {config : PolicyGateConfig} {entry : Entry T} {publication other : Publication P}
  {generation : Nat} {recent recent' earlier earlier' : EntryLog T P}

omit [DecidableEq T] in
theorem Accounted.startedSince
    (accounted : Accounted config entry (recent ++ .published publication :: earlier))
    (fetched : publication.origin.lookup = some generation) : StartedSince generation earlier := by
  have due := accounted.event.2
  cases origin : publication.origin with
  | cold =>
      rw [origin] at due fetched
      exact Option.some.inj fetched ▸ due.2.2.2
  | refresh =>
      rw [origin] at due fetched
      exact Option.some.inj fetched ▸ due.2.2.2
  | change =>
      rw [origin] at fetched
      cases fetched

omit [DecidableEq T] in
theorem Accounted.published_once
    (accounted : Accounted config entry (recent ++ .published publication :: earlier))
    (split : earlier = recent' ++ .published other :: earlier')
    (fetched : publication.origin.lookup = some generation) :
    other.origin.lookup ≠ some generation := by
  intro fetched'
  obtain rfl := split
  have since := accounted.startedSince fetched
  have onward := (Accounted.of_append accounted).2
  obtain ⟨later, before, refresh, held, now, rfl, _⟩ := onward.startedSince fetched'
  exact since.not_before onward rfl refresh held now
    (List.mem_append_right _ (List.mem_cons_self ..))

omit [DecidableEq T] in
theorem Accounted.published_unique
    (accounted : Accounted config entry (recent ++ .published publication :: earlier))
    (same : recent ++ .published publication :: earlier = recent' ++ .published other :: earlier')
    (fetched : publication.origin.lookup = some generation)
    (fetched' : other.origin.lookup = some generation) : recent' = recent := by
  rcases List.append_eq_append_iff.mp same with ⟨middle, rfl, tail⟩ | ⟨middle, rfl, tail⟩
  · cases middle with
    | nil => exact List.append_nil recent
    | cons head rest =>
        obtain ⟨rfl, split⟩ := List.cons.inj tail
        exact absurd fetched' (accounted.published_once split fetched)
  · cases middle with
    | nil => exact (List.append_nil recent').symm
    | cons head rest =>
        obtain ⟨rfl, split⟩ := List.cons.inj tail
        exact absurd fetched ((same ▸ accounted).published_once split fetched')

end EntryLog

omit [DecidableEq T] in
theorem Publication.Sourced.answered {flights : Nat → Option (Flight T P)} {entry : Entry T}
    {session : Option Nat} {publication : Publication P} {generation : Nat}
    (sourced : publication.Sourced flights entry session)
    (fetched : publication.origin.lookup = some generation) :
    ∃ flight, flights generation = some flight ∧ flight.fetch.entry = entry ∧
      flight.fetch.subject = entry.subject ∧
      flight.answer = some (.result (some publication.result)) := by
  unfold Publication.Sourced at sourced
  cases origin : publication.origin with
  | cold =>
      rw [origin] at sourced fetched
      obtain rfl := Option.some.inj fetched
      obtain ⟨flight, flown, home, subject, _, answered⟩ := sourced
      exact ⟨flight, flown, home, subject, answered⟩
  | refresh =>
      rw [origin] at sourced fetched
      obtain rfl := Option.some.inj fetched
      obtain ⟨flight, flown, home, subject, _, answered⟩ := sourced
      exact ⟨flight, flown, home, subject, answered⟩
  | change =>
      rw [origin] at fetched
      cases fetched

/-- A lookup publishes at most one decision, in its own subject's entry: the very result the source
answered it with, and over a snapshot that nothing replaced since the source was called. -/
theorem lookup_publishes_once (reached : Reachable rt authority calls c) {id : Nat}
    {cell : EntryCell T P} {publication : Publication P} {recent earlier : EntryLog T P}
    {generation : Nat} (found : c.shared.cells id = some cell)
    (split : cell.log = recent ++ .published publication :: earlier)
    (fetched : publication.origin.lookup = some generation) :
    (∃ flight, c.shared.flights generation = some flight ∧ flight.fetch.entry = cell.entry ∧
      flight.fetch.subject = cell.entry.subject ∧
      flight.answer = some (.result (some publication.result))) ∧
    EntryLog.StartedSince generation earlier ∧
    ∀ id' cell' publication' recent' earlier', c.shared.cells id' = some cell' →
      cell'.log = recent' ++ .published publication' :: earlier' →
      publication'.origin.lookup = some generation → id' = id ∧ recent' = recent := by
  have ok := reached.invariant
  have sourced : ∀ id cell publication recent earlier, c.shared.cells id = some cell →
      cell.log = recent ++ .published publication :: earlier →
      publication.origin.lookup = some generation →
      ∃ flight, c.shared.flights generation = some flight ∧ flight.fetch.entry = cell.entry ∧
        flight.fetch.subject = cell.entry.subject ∧
        flight.answer = some (.result (some publication.result)) := by
    intro id cell publication recent earlier found split fetched
    have noted : EntryEvent.published publication ∈ cell.log := by simp [split]
    exact Publication.Sourced.answered ((ok.cells id cell found).sourced _ noted) fetched
  have accounted := (ok.cells id cell found).toSound.accounted
  rw [split] at accounted
  refine ⟨sourced id cell publication recent earlier found split fetched,
    accounted.startedSince fetched, ?_⟩
  intro id' cell' publication' recent' earlier' found' split' fetched'
  obtain ⟨flight, flown, home, _⟩ := sourced id cell publication recent earlier found split fetched
  obtain ⟨flight', flown', home', _⟩ :=
    sourced id' cell' publication' recent' earlier' found' split' fetched'
  obtain rfl : flight = flight' := Option.some.inj (flown.symm.trans flown')
  have same : id' = id := by
    rw [← (ok.cells id cell found).identity, ← (ok.cells id' cell' found').identity, ← home, ← home']
  subst same
  obtain rfl : cell = cell' := Option.some.inj (found.symm.trans found')
  exact ⟨rfl, accounted.published_unique (split.symm.trans split') fetched fetched'⟩

def Sample.publishedByLookup (s : Gate Nat Nat) : Bool :=
  (s.cells 0).any fun cell => cell.log.any fun
    | .published publication => publication.origin.lookup = some 0
    | _ => false

theorem lookup_publishes_once_sample : ∃ (c : Config (Gate Nat Nat)) (cell : EntryCell Nat Nat)
    (publication : Publication Nat) (earlier : EntryLog Nat Nat) (flight : Flight Nat Nat),
    Reachable Sample.runtime (fun _ => some .allowed) (Sample.asking [.admitSubject 0, .poll 0]) c ∧
      c.shared.cells 0 = some cell ∧ .published publication ∈ cell.log ∧
      EntryLog.StartedSince 0 earlier ∧ c.shared.flights 0 = some flight ∧
      flight.answer = some (.result (some publication.result)) := by
  obtain ⟨c, reached, passed⟩ := Reachable.of_run Sample.runtime (fun _ => some .allowed)
    (Sample.asking [.admitSubject 0, .poll 0]) (Sample.admits .allowed (some 7))
    Sample.publishedByLookup (by decide +kernel)
  obtain ⟨cell, found, passed⟩ := (Option.any_eq_true _ _).mp passed
  obtain ⟨event, member, passed⟩ := List.any_eq_true.mp passed
  obtain ⟨recent, earlier, split⟩ := List.append_of_mem member
  split at passed
  · rename_i publication
    obtain ⟨⟨flight, flown, _, _, answered⟩, since, _⟩ :=
      lookup_publishes_once reached found split (of_decide_eq_true passed)
    exact ⟨c, cell, publication, earlier, flight, reached, found, member, since, flown, answered⟩
  · cases passed

end PolicyGate
