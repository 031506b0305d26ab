import PolicyGate.Properties.Runs

namespace PolicyGate

open Interleaving

variable {T P : Type} [DecidableEq T] {rt : Runtime} {authority : T → Option Decision}
  {calls : Nat → Call T} {c later : Config (Gate T P)}

section

variable {config : PolicyGateConfig} {entry : Entry T}

omit [DecidableEq T]

/-- The instant from which a publication's decision is expired; `none` where it never is. -/
def Publication.expiry (config : PolicyGateConfig) (entry : Entry T) (publication : Publication P) :
    Option Nat :=
  let deadline := entry.publishedDeadline config publication.now publication.result
  if deadline = noExpiry then none else some (entry.epoch + deadline)

structure Publication.Covers (config : PolicyGateConfig) (entry : Entry T)
    (publication : Publication P) (now : Nat) : Prop where
  before : ∀ expiry, publication.expiry config entry = some expiry → now < expiry
  ttl : ∀ expiry, publication.expiry config entry = some expiry →
    expiry ≤ publication.now + config.decisionFreshnessTtl
  cap : ∀ expiry cap, publication.expiry config entry = some expiry →
    publication.result.validUntil = some cap → expiry ≤ cap
  unbounded : publication.expiry config entry = none →
    config.decisionFreshnessTtl = Duration.max ∧ publication.result.validUntil = none

theorem Publication.expiry_eq_some {publication : Publication P} {expiry : Nat}
    (finite : publication.expiry config entry = some expiry) :
    entry.publishedDeadline config publication.now publication.result < noExpiry ∧
      expiry = entry.epoch + entry.publishedDeadline config publication.now publication.result := by
  unfold Publication.expiry at finite
  dsimp only at finite
  split at finite
  · cases finite
  · rename_i bounded
    exact ⟨lt_of_le_of_ne (entry.publishedDeadline_le config _ _) bounded,
      (Option.some.inj finite).symm⟩

theorem Entry.publishedDeadline_le_ttl {publication : Publication P}
    (since : entry.epoch ≤ publication.now)
    (finite : entry.publishedDeadline config publication.now publication.result < noExpiry) :
    entry.epoch + entry.publishedDeadline config publication.now publication.result ≤
      publication.now + config.decisionFreshnessTtl := by
  have ticked := entry.tick_eq publication.now
  by_cases unlimited : config.decisionFreshnessTtl = Duration.max
  · have long : noExpiry ≤ Duration.max := by decide
    omega
  · have bounded := entry.deadlineAfter_le_add publication.now unlimited
    have capped : entry.publishedDeadline config publication.now publication.result ≤
        entry.deadlineAfter publication.now config.decisionFreshnessTtl := by
      unfold Entry.publishedDeadline
      cases publication.result.validUntil with
      | none => exact le_rfl
      | some cap => exact min_le_left _ _
    omega

theorem Entry.publishedDeadline_le_cap {publication : Publication P} {cap : Nat}
    (valid : publication.result.validUntil = some cap) :
    entry.publishedDeadline config publication.now publication.result ≤ entry.tick cap := by
  unfold Entry.publishedDeadline
  rw [valid]
  exact min_le_right _ _

theorem Entry.tick_lt_of_unexpired {word now : Nat} (unexpired : entry.isExpiredAt word now = false)
    (finite : deadlineBits word < noExpiry) : entry.tick now < deadlineBits word := by
  have small : maxFiniteDeadline + 1 = noExpiry := by decide
  simp only [Entry.isExpiredAt, Bool.and_eq_false_iff, bne_eq_false_iff_eq,
    decide_eq_false_iff_not] at unexpired
  rcases unexpired with unlimited | later
  · exact absurd unlimited finite.ne
  · omega

theorem Publication.before_expiry {publication : Publication P} {now expiry : Nat}
    {snapshot : EntrySnapshot P}
    (bits : snapshot.deadline = entry.publishedDeadline config publication.now publication.result)
    (unexpired : entry.isExpiredAt snapshot.word now = false)
    (finite : publication.expiry config entry = some expiry) : now < expiry := by
  obtain ⟨bounded, rfl⟩ := Publication.expiry_eq_some finite
  have ahead := Entry.tick_lt_of_unexpired unexpired (bits.trans_lt bounded)
  have same : deadlineBits snapshot.word =
      entry.publishedDeadline config publication.now publication.result := bits
  have small : maxFiniteDeadline + 1 = noExpiry := by decide
  rw [entry.tick_eq now] at ahead
  omega

theorem Publication.covers_of_unexpired {publication : Publication P} {now : Nat}
    (since : entry.epoch ≤ publication.now)
    (unexpired : entry.isExpiredAt
      (entry.decisionSnapshot config publication.now publication.result).word now = false) :
    publication.Covers config entry now := by
  have bits : deadlineBits (entry.decisionSnapshot config publication.now publication.result).word =
      entry.publishedDeadline config publication.now publication.result :=
    entry.decisionSnapshot_deadline config _ _
  have ahead : entry.publishedDeadline config publication.now publication.result < noExpiry →
      entry.tick now < entry.publishedDeadline config publication.now publication.result :=
    fun finite => bits ▸ Entry.tick_lt_of_unexpired unexpired (bits ▸ finite)
  refine ⟨fun expiry same => ?_, fun expiry same => ?_, fun expiry cap same valid => ?_, fun none => ?_⟩
  · exact Publication.before_expiry bits unexpired same
  · obtain ⟨finite, rfl⟩ := Publication.expiry_eq_some same
    exact Entry.publishedDeadline_le_ttl since finite
  · obtain ⟨finite, rfl⟩ := Publication.expiry_eq_some same
    have ticks := ahead finite
    have capped : entry.publishedDeadline config publication.now publication.result ≤
        entry.tick cap := Entry.publishedDeadline_le_cap valid
    rw [entry.tick_eq cap] at capped
    omega
  · have absent : entry.publishedDeadline config publication.now publication.result = noExpiry := by
      by_contra finite
      simp [Publication.expiry, finite] at none
    exact Entry.publishedDeadline_eq_noExpiry absent

end

/-- At the clock reading `now` the thread read the entry as `reported`, which is what `publication`
decided: it is in force over the log `earlier`, and not expired. -/
structure ReportedWithin (config : PolicyGateConfig) (s : Gate T P) (thread : Nat) (entry : Entry T)
    (reader : Reader T) (now : Nat) (reported : EntryState) (cell : EntryCell T P)
    (earlier : EntryLog T P) (publication : Publication P) : Prop where
  found : s.cells entry.id = some cell
  home : cell.entry = entry
  read : ∃ recent, cell.log = recent ++ .observed reader thread now
    (entry.decisionSnapshot config publication.now publication.result) :: earlier
  state : .ofDecision publication.result.decision = reported
  inForce : EntryLog.InForce publication earlier
  covers : publication.Covers config entry now

theorem Gate.Invariant.reportedWithin {config : PolicyGateConfig} {s : Gate T P}
    (ok : s.Invariant config) {thread now : Nat} {entry : Entry T} {reader : Reader T}
    {snapshot : EntrySnapshot P}
    (observation : Observation s.cells entry reader thread now snapshot)
    (authoritative : snapshot.state.Authoritative) : ∃ cell earlier publication,
      ReportedWithin config s thread entry reader now snapshot.state cell earlier publication ∧
        snapshot = entry.decisionSnapshot config publication.now publication.result := by
  obtain ⟨cell, found, rfl, member, unexpired⟩ := observation
  obtain ⟨recent, earlier, split⟩ := List.append_of_mem member
  have accounted := (ok.cells _ cell found).accounted
  rw [split] at accounted
  have read := accounted.event.1
  rw [read] at authoritative unexpired
  obtain ⟨publication, inForce, same⟩ := EntryLog.current_authoritative authoritative
  have since : cell.entry.epoch ≤ publication.now := by
    obtain ⟨fresh, older, rfl, _⟩ := inForce
    exact (EntryLog.Accounted.of_append accounted).2.event.1
  have published := read.trans same
  rw [same] at unexpired
  rw [published] at split
  refine ⟨cell, earlier, publication, ⟨found, rfl, ⟨recent, split⟩, ?_, inForce,
    Publication.covers_of_unexpired since unexpired⟩, published⟩
  rw [published, Entry.decisionSnapshot_state]

/-- What a call on a handle reports, and through which reader. -/
inductive Outcome.Reports : Outcome T P → Entry T → Reader T → Nat → EntryState → Prop where
  | state {entry : Entry T} {now : Nat} {reported : EntryState} :
      Reports (.state entry now reported) entry .state now reported
  | checked {entry : Entry T} {now : Nat} {reported : EntryState} {due : Bool} :
      Reports (.checked entry now reported due) entry .check now reported
  | payload {entry : Entry T} {now : Nat} {payload : P} :
      Reports (.payload entry now (some payload)) entry .payload now .allowed

/-- What is reported is a decision before its expiry, at most the TTL after its publication and at
most the result's own validity; and only a publication moves a deadline. -/
theorem reports_precede_expiry (reached : Reachable rt authority calls c) :
    (∀ thread outcome entry reader now reported, c.shared.outcomes thread = some outcome →
      outcome.Reports entry reader now reported → reported.Authoritative →
        ∃ cell earlier publication, ReportedWithin rt.config c.shared thread entry reader now
          reported cell earlier publication) ∧
    (∀ thread subject entry, c.shared.outcomes thread = some (.cached subject (some entry)) →
      ∃ now reported cell earlier publication, reported.Authoritative ∧
        ReportedWithin rt.config c.shared thread entry (.cached subject) now reported cell earlier
          publication) ∧
    (∀ thread subject entry, c.shared.outcomes thread = some (.admitted subject (some entry)) →
      ∃ now reported cell earlier publication, reported.Authoritative ∧
        ReportedWithin rt.config c.shared thread entry .admission now reported cell earlier
          publication) ∧
    ∀ later, Leads c later → ∀ id cell cell', c.shared.cells id = some cell →
      later.shared.cells id = some cell' → ∃ recent, cell'.log = recent ++ cell.log ∧
        (recent.countP EntryEvent.isPublication = 0 →
          cell'.current.value.deadline = cell.current.value.deadline) := by
  have ok := reached.invariant
  refine ⟨fun thread outcome entry reader now reported returned reports authoritative => ?_,
    fun thread subject entry hit => ?_, fun thread subject entry admitted => ?_,
    fun later leads id cell cell' found found' => ?_⟩
  · have backed := ok.outcomes thread outcome returned
    cases reports with
    | state | checked =>
        obtain ⟨snapshot, observation, rfl⟩ := backed authoritative
        obtain ⟨cell, earlier, publication, within, _⟩ := ok.reportedWithin observation authoritative
        exact ⟨cell, earlier, publication, within⟩
    | payload =>
        obtain ⟨snapshot, observation, allowed, _⟩ := backed
        obtain ⟨cell, earlier, publication, within, _⟩ := ok.reportedWithin observation (.inl allowed)
        exact ⟨cell, earlier, publication, allowed ▸ within⟩
  · obtain ⟨now, snapshot, observation, authoritative⟩ := ok.outcomes thread _ hit
    obtain ⟨cell, earlier, publication, within, _⟩ := ok.reportedWithin observation authoritative
    exact ⟨now, _, cell, earlier, publication, authoritative, within⟩
  · obtain ⟨now, snapshot, observation, authoritative⟩ := ok.outcomes thread _ admitted
    obtain ⟨cell, earlier, publication, within, _⟩ := ok.reportedWithin observation authoritative
    exact ⟨now, _, cell, earlier, publication, authoritative, within⟩
  · obtain ⟨cell'', found'', grows⟩ := (reached.extends leads).cells id cell found
    obtain rfl : cell' = cell'' := Option.some.inj (found'.symm.trans found'')
    obtain ⟨recent, split⟩ := grows.log
    refine ⟨recent, split.symm, fun quiet => ?_⟩
    have sound := (ok.cells id cell found).toSound
    have sound' := ((reached.leads leads).invariant.cells id cell' found').toSound
    rw [sound'.value, sound.value, grows.entry, ← split]
    have accounted := sound'.accounted
    rw [grows.entry, ← split] at accounted
    exact EntryLog.current_deadline_append accounted quiet

def Sample.observers : Nat → Call Nat :=
  Sample.asking [.admitSubject 0, .poll 0, .state Sample.entry, .payload Sample.entry]

def Sample.stateReported (s : Gate Nat Nat) : Bool :=
  match s.outcomes 3 with
  | some (.state entry 0 .allowed) => entry = Sample.entry
  | _ => false

theorem reports_precede_expiry_sample : ∃ (c : Config (Gate Nat Nat)) (cell : EntryCell Nat Nat)
    (earlier : EntryLog Nat Nat) (publication : Publication Nat),
    Reachable Sample.runtime (fun _ => some .allowed) Sample.observers c ∧
      c.shared.outcomes 3 = some (.state Sample.entry 0 .allowed) ∧
      ReportedWithin Sample.runtime.config c.shared 3 Sample.entry .state 0 .allowed cell earlier
        publication := by
  obtain ⟨c, reached, passed⟩ := Reachable.of_run Sample.runtime (fun _ => some .allowed)
    Sample.observers (Sample.admits .allowed (some 7) ++ Sample.turns 3 2 5) Sample.stateReported
    (by decide +kernel)
  unfold Sample.stateReported at passed
  split at passed
  · rename_i entry returned
    obtain rfl : entry = Sample.entry := of_decide_eq_true passed
    obtain ⟨cell, earlier, publication, within⟩ :=
      (reports_precede_expiry reached).1 3 _ _ _ _ _ returned .state (.inl rfl)
    exact ⟨c, cell, earlier, publication, reached, returned, within⟩
  · cases passed

/-- After an observer has seen the entry expired, and until a watch change is published, nothing
reads it as a decision and no lookup publishes one. -/
theorem observed_expiry_is_final (reached : Reachable rt authority calls c) {id : Nat}
    {cell : EntryCell T P} {recent between earlier : EntryLog T P} {next event : EntryEvent T P}
    (found : c.shared.cells id = some cell)
    (split : cell.log = recent ++ next :: (between ++ event :: earlier))
    (saw : event.SawExpired cell.entry) (unchanged : between.countP EntryEvent.isChange = 0) :
    (∀ reader thread now snapshot, next = .observed reader thread now snapshot →
      ¬ snapshot.state.Authoritative) ∧
    ∀ publication, next = .published publication → publication.origin = .change := by
  have accounted := (reached.invariant.cells id cell found).accounted
  rw [split] at accounted
  have onward := EntryLog.Accounted.of_append accounted
  have stale := EntryLog.current_stale_of_sawExpired onward.2 saw unchanged
  constructor
  · rintro reader thread now snapshot rfl
    rw [onward.1.1, stale]
    exact EntryState.not_authoritative_stale
  · rintro publication rfl
    have due := onward.1.2
    cases origin : publication.origin with
    | cold generation =>
        rw [origin] at due
        exact absurd (stale.symm.trans due.1) (by decide)
    | refresh generation =>
        rw [origin] at due
        exact absurd (stale ▸ due.1.authoritative) EntryState.not_authoritative_stale
    | change => rfl

def Sample.expires : List (Move (GateEvent Nat Nat)) :=
  Sample.admits .allowed (some 7) ++ [.environment (.advance 150)] ++ Sample.turns 3 2 6 ++
    Sample.turns 4 2 5

def Sample.readAfterLatch (s : Gate Nat Nat) : Bool :=
  (s.cells 0).any fun cell =>
    match cell.log with
    | .observed .payload 4 150 _ :: .latched .state 150 :: _ => true
    | _ => false

theorem observed_expiry_is_final_sample : ∃ (c : Config (Gate Nat Nat)) (cell : EntryCell Nat Nat)
    (snapshot : EntrySnapshot Nat) (earlier : EntryLog Nat Nat),
    Reachable Sample.runtime (fun _ => some .allowed) Sample.observers c ∧
      c.shared.cells 0 = some cell ∧
      cell.log = .observed .payload 4 150 snapshot :: .latched .state 150 :: earlier ∧
      ¬ snapshot.state.Authoritative := by
  obtain ⟨c, reached, passed⟩ := Reachable.of_run Sample.runtime (fun _ => some .allowed)
    Sample.observers Sample.expires Sample.readAfterLatch (by decide +kernel)
  obtain ⟨cell, found, passed⟩ := (Option.any_eq_true _ _).mp passed
  split at passed
  · rename_i snapshot earlier log
    have apart : cell.log = [] ++ .observed .payload 4 150 snapshot ::
        ([] ++ .latched .state 150 :: earlier) := log
    exact ⟨c, cell, snapshot, earlier, reached, found, log,
      (observed_expiry_is_final reached found apart trivial rfl).1 _ _ _ _ rfl⟩
  · cases passed

def Publication.OfLookup (s : Gate T P) (entry : Entry T) (publication : Publication P) : Prop :=
  ∃ generation flight, (publication.origin = .cold generation ∨
      publication.origin = .refresh generation) ∧ s.flights generation = some flight ∧
    flight.fetch.entry = entry ∧ flight.fetch.subject = entry.subject ∧
    flight.answer = some (.result (some publication.result))

omit [DecidableEq T] in
theorem Publication.Sourced.ofLookup {s : Gate T P} {entry : Entry T} {session : Option Nat}
    {publication : Publication P} (sourced : publication.Sourced s.flights entry session)
    (lookup : publication.origin ≠ .change) : publication.OfLookup s entry := by
  unfold Publication.Sourced at sourced
  cases origin : publication.origin with
  | cold generation =>
      rw [origin] at sourced
      obtain ⟨flight, flown, home, subject, _, answered⟩ := sourced
      exact ⟨generation, flight, .inl origin, flown, home, subject, answered⟩
  | refresh generation =>
      rw [origin] at sourced
      obtain ⟨flight, flown, home, subject, _, answered⟩ := sourced
      exact ⟨generation, flight, .inr origin, flown, home, subject, answered⟩
  | change => exact absurd origin lookup

/-- A payload is what the lookup in force answered with `Allowed`, unexpired, and nothing has replaced
or latched the entry's snapshot since; and only an `Allowed` snapshot carries one. -/
theorem payload_of_verdict_in_force (reached : Reachable rt authority calls c) :
    (∀ thread entry now payload,
      c.shared.outcomes thread = some (.payload entry now (some payload)) →
        ∃ cell earlier publication, ReportedWithin rt.config c.shared thread entry .payload now
            .allowed cell earlier publication ∧
          publication.result.decision = .allowed ∧ publication.result.payload = some payload ∧
          publication.OfLookup c.shared entry) ∧
    ∀ id cell, c.shared.cells id = some cell → cell.state ≠ .allowed →
      cell.current.value.payload = none := by
  have ok := reached.invariant
  refine ⟨fun thread entry now payload returned => ?_, fun id cell found other => ?_⟩
  · obtain ⟨snapshot, observation, allowed, carried⟩ := ok.outcomes thread _ returned
    obtain ⟨cell, earlier, publication, within, published⟩ :=
      ok.reportedWithin observation (.inl allowed)
    have decided : publication.result.decision = .allowed := by
      have state := within.state
      rw [allowed] at state
      cases decision : publication.result.decision <;> simp_all [EntryState.ofDecision]
    rw [published, Entry.decisionSnapshot, if_pos decided] at carried
    have member : .published publication ∈ cell.log := by
      obtain ⟨recent, split⟩ := within.read
      rw [split]
      exact List.mem_append_right _ (List.mem_cons_of_mem _ within.inForce.mem)
    have lookup : publication.origin ≠ .change := by
      intro change
      obtain ⟨newer, older, split⟩ := List.append_of_mem member
      have accounted := (ok.cells _ cell within.found).accounted
      rw [split] at accounted
      have due := accounted.event.2
      rw [change] at due
      rw [due.1] at carried
      cases carried
    have sourced := (ok.cells _ cell within.found).sourced _ member
    rw [within.home] at sourced
    exact ⟨cell, earlier, publication, allowed ▸ within, decided, carried,
      Publication.Sourced.ofLookup sourced lookup⟩
  · by_contra carries
    obtain ⟨payload, carried⟩ := Option.ne_none_iff_exists'.mp carries
    have sound := (ok.cells id cell found).toSound
    rw [sound.value] at carried
    obtain ⟨_, _, _, _, allowed⟩ := EntryLog.current_payload carried
    exact other ((congrArg EntrySnapshot.state sound.value).trans allowed)

def Sample.payloadReported (s : Gate Nat Nat) : Bool :=
  match s.outcomes 4 with
  | some (.payload entry 0 (some 7)) => entry = Sample.entry
  | _ => false

theorem payload_of_verdict_in_force_sample : ∃ (c : Config (Gate Nat Nat))
    (cell : EntryCell Nat Nat) (earlier : EntryLog Nat Nat) (publication : Publication Nat),
    Reachable Sample.runtime (fun _ => some .allowed) Sample.observers c ∧
      c.shared.outcomes 4 = some (.payload Sample.entry 0 (some 7)) ∧
      ReportedWithin Sample.runtime.config c.shared 4 Sample.entry .payload 0 .allowed cell earlier
        publication ∧ publication.result.payload = some 7 := by
  obtain ⟨c, reached, passed⟩ := Reachable.of_run Sample.runtime (fun _ => some .allowed)
    Sample.observers (Sample.admits .allowed (some 7) ++ Sample.turns 4 2 5) Sample.payloadReported
    (by decide +kernel)
  unfold Sample.payloadReported at passed
  split at passed
  · rename_i entry returned
    obtain rfl : entry = Sample.entry := of_decide_eq_true passed
    obtain ⟨cell, earlier, publication, within, _, carried, _⟩ :=
      (payload_of_verdict_in_force reached).1 4 _ _ _ returned
    exact ⟨c, cell, earlier, publication, reached, returned, within, carried⟩
  · cases passed

end PolicyGate
