import PolicyGate.Gate.Admit
import PolicyGate.Gate.Answered
import PolicyGate.Gate.Waitless

namespace PolicyGate

open Interleaving Program

variable {T P : Type} [DecidableEq T] {rt : Runtime} {me : Nat} {subject : T}
  {start s after : Gate T P} {cell : EntryCell T P} {flight : Flight T P}
  {late : Gate T P → Gate T P → Prop} {deadline : Nat} {state : AdmitState}

abbrev Unaided (_ _ : Gate T P) : Prop := False

omit [DecidableEq T] in
theorem unaided (s served : Gate T P) : ¬ Unaided s served := id

omit [DecidableEq T] in
theorem unsettled (rests : s.Rests rt subject start cell flight)
    (live : cell.entry.isExpiredAt cell.current.value.word start.clock = false) :
    s.updateCell cell.entry.id (EntryCell.settle start.clock) = s := by
  obtain ⟨log, found⟩ := rests.found
  refine Gate.updateCell_of_eq fun cell' found' => ?_
  obtain rfl := Option.some.inj (found.symm.trans found')
  exact EntryCell.settle_of_unexpired live

namespace Entry

omit [DecidableEq T] in
theorem stateAt_hosted (reader : Reader T) (rests : s.Rests rt subject start cell flight)
    (live : cell.entry.isExpiredAt cell.current.value.word start.clock = false) :
    (cell.entry.stateAt reader start.clock : Program (Gate T P) _).Settles Unaided late me
      (fun seen after => seen = cell.state ∧ after.Rests rt subject start cell flight) s := by
  obtain ⟨log, found⟩ := rests.found
  have ends : (cell.entry.stateAt reader start.clock : Program (Gate T P) _).Ends me
      (fun seen after => seen = cell.state ∧ after.Rests rt subject start cell flight) s := by
    refine .bind ((currentAt_ends reader found rfl).mono fun seen after held => ?_)
    obtain ⟨rfl, same⟩ := held
    have settled : EntryCell.settle start.clock { cell with log } = { cell with log } :=
      EntryCell.settle_of_unexpired live
    rw [unsettled rests live] at same
    rw [settled]
    refine .done ⟨?_, rests.of_bare same⟩
    simp only [live]
    rfl
  exact ends.settles unaided (stateAt_waitless _ _ _)

end Entry

omit [DecidableEq T] in
theorem admissionOnAccess_hosted (admissionDeadline : Option Nat)
    (rests : s.Rests rt subject start cell flight) (answers : cell.answers start.clock = true)
    (settled : cell.dueAt start.clock = false) :
    (admissionOnAccess rt .admission subject cell.entry admissionDeadline :
      Program (Gate T P) _).Settles Unaided late me
        (fun admission after => admission = some cell.entry ∧ after.Rests rt subject start cell flight)
        s := by
  obtain ⟨log, found⟩ := rests.found
  have live : cell.entry.isExpiredAt cell.current.value.word start.clock = false := by
    simp only [EntryCell.answers, Bool.and_eq_true, Bool.not_eq_true'] at answers
    exact answers.1
  refine .bind (((Entry.admission_ends .admission found rfl).settles unaided
    (Entry.admission_waitless _ _)).mono fun admission after held => ?_)
  rw [rests.clock] at held
  obtain ⟨rfl, same⟩ := held
  rw [unsettled rests live] at same
  have rests' := rests.of_bare same
  obtain ⟨log', found'⟩ := rests'.found
  have answered : EntryCell.answers start.clock { cell with log } = true := answers
  rw [if_pos answered]
  dsimp only
  split
  · exact .done ⟨rfl, rests'⟩
  · refine .bind (.read (unaided _) cell.current (by rw [Gate.load, found']; rfl)
      (.bind (.read (unaided _) start.clock (by rw [rests'.clock]) (.bind
        (((Entry.refreshDueAt_ends found' rfl).settles unaided
          (Entry.refreshDueAt_waitless _ _ _)).mono fun due after' held => ?_)))))
    obtain ⟨rfl, rfl⟩ := held
    have notDue : ¬ EntryCell.dueAt start.clock { cell with log := log' } = true := by
      have : EntryCell.dueAt start.clock { cell with log := log' } = false := settled
      rw [this]
      exact Bool.false_ne_true
    rw [if_neg notDue]
    exact .done ⟨rfl, rests'⟩

theorem afterInsertion_settles {Q : AdmitRound T → Gate T P → Prop}
    (rests : s.Rests rt subject start cell flight) (connected : start.watch.connected = true)
    (ahead : start.clock < deadline)
    (rest : ∀ after, after.Rests rt subject start cell flight →
      (admitEntry rt subject cell.entry deadline state).Settles Unaided late me Q after) :
    (do
      republishIfDue rt
      let now ← clockNow
      if deadline ≤ now then pure (.inr none)
      else do
        if ← isConnected then admitEntry rt subject cell.entry deadline state
        else do
          let removed ← Subjects.removeIf rt subject now fun current =>
            pure (current.id = cell.entry.id : Bool)
          if removed then Subjects.setDirty true
          pure (.inl state) : Program (Gate T P) (AdmitRound T)).Settles Unaided late me Q s := by
  refine .bind (((republishIfDue_hosted rests).settles unaided republishIfDue_waitless).mono
    fun _ after rests => ?_)
  refine .bind (.read (unaided _) after.clock rfl ?_)
  have early : ¬ deadline ≤ after.clock := by
    rw [rests.clock]
    omega
  rw [if_neg early]
  refine .bind (.read (unaided _) after.watch.connected rfl ?_)
  rw [rests.watch, if_pos connected]
  exact rest after rests

omit [DecidableEq T] in
theorem awaitConnected_settles {Q : Connection → Gate T P → Prop} {seen : Nat}
    (connected : s.watch.connected = true) (ahead : s.clock < deadline) (held : Q (.connected seen) s) :
    (awaitConnected deadline seen : Program (Gate T P) _).Settles Unaided late me Q s := by
  refine .bind (.read (unaided _) s.clock rfl ?_)
  rw [if_neg (Nat.not_le_of_lt ahead)]
  refine .iterate (.bind (.read (unaided _) s.watch.connected rfl ?_))
  rw [if_pos connected]
  exact .done held

theorem admitRound_hosted {Q : AdmitRound T → Gate T P → Prop}
    (rests : s.Rests rt subject start cell flight) (connected : start.watch.connected = true)
    (ahead : start.clock < deadline)
    (rest : ∀ after, after.Rests rt subject start cell flight →
      (admitEntry rt subject cell.entry deadline state).Settles Unaided late me Q after) :
    (admitRound rt subject deadline state : Program (Gate T P) _).Settles Unaided late me Q s := by
  refine .bind (awaitConnected_settles (rests.watch ▸ connected) (rests.clock ▸ ahead) ?_)
  refine .bind (.read (unaided _) start.clock (by rw [rests.clock]) (.bind
    (((Subjects.getOrInsertWith_hosted rests).settles unaided
      (Subjects.getOrInsertWith_waitless _ _)).mono fun found after held => ?_)))
  obtain ⟨rfl, rests⟩ := held
  dsimp only
  rw [if_neg Bool.false_ne_true]
  refine .bind (.read (unaided _) _ rfl ?_)
  split
  · refine .bind (.always (unaided _) () { after with shapeDirty := true } (fun _ => rfl) ?_)
    exact afterInsertion_settles (Gate.Shapes.rests ⟨rfl⟩ ⟨rests.published, rests.free⟩ rests) connected ahead rest
  · exact afterInsertion_settles rests connected ahead rest

theorem admitRound_uncached {Q : AdmitRound T → Gate T P → Prop} (fresh : Subjects.Fresh start)
    (unlocked : start.Unlocked) (uncached : start.subjects.cache.peek subject = none)
    (connected : start.watch.connected = true) (ahead : start.clock < deadline)
    (rest : ∀ after, after.Rests rt subject start
        (Subjects.createdCell rt start subject start.clock)
        (Subjects.createdFlight rt start subject start.clock) →
      (admitEntry rt subject (Subjects.createdEntry rt start subject start.clock) deadline state).Settles
        Unaided late me Q after) :
    (admitRound rt subject deadline state : Program (Gate T P) _).Settles Unaided late me Q start := by
  refine .bind (awaitConnected_settles connected ahead ?_)
  refine .bind (.read (unaided _) start.clock rfl (.bind
    (((Subjects.getOrInsertWith_uncached fresh unlocked.free unlocked.published uncached).settles
      unaided (Subjects.getOrInsertWith_waitless _ _)).mono fun found after held => ?_)))
  obtain ⟨rfl, rests⟩ := held
  dsimp only
  rw [if_pos rfl]
  have dirtied : ({ after with shapeDirty := true } : Gate T P).Rests rt subject start
      (Subjects.createdCell rt start subject start.clock)
      (Subjects.createdFlight rt start subject start.clock) :=
    Gate.Shapes.rests ⟨rfl⟩ ⟨rests.published, rests.free⟩ rests
  have tail := afterInsertion_settles dirtied connected ahead rest
  refine .bind (.always (unaided _) () { after with shapeDirty := true } (fun _ => rfl) ?_)
  exact tail

variable {you : Nat} {result : DecisionResult P}

def Polls (rt : Runtime) (generation : Nat) (result : DecisionResult P) (you : Nat)
    (s served : Gate T P) : Prop :=
  (runFetch rt generation).Served (AnswersWith generation result) (fun _ _ => False) you s () served

theorem not_polls {generation : Nat} (flown : s.flights generation = some flight)
    (stage : flight.stage = .finished) (served : Gate T P) :
    ¬ Polls rt generation result you s served := by
  intro polls
  have quiet : ∀ served, ¬ AnswersWith generation result s served :=
    not_answersWith flown (.inl fun poller calling => by rw [stage] at calling; cases calling)
  refine polls.stuck (fun choice => ?_) quiet
  rw [flown]
  simp [stage]

/-- What an uncapped answer makes of the entry at `now`: a decision in force, not yet due for a refresh. -/
structure Admissible (rt : Runtime) (cell : EntryCell T P) (now : Nat) (result : DecisionResult P) :
    Prop where
  uncapped : result.validUntil = none
  live : cell.entry.isExpiredAt (cell.entry.decisionSnapshot rt.config now result).word now = false
  calm : (cell.decided rt now result).dueAt now = false

def Awaits (rt : Runtime) (subject : T) (start : Gate T P) (cell : EntryCell T P)
    (fetch : PendingFetch T P) (s : Gate T P) : Prop :=
  ∃ flight : Flight T P, flight.fetch = fetch ∧ flight.stage = .placed ∧
    Joined subject cell flight ∧ s.Rests rt subject start cell flight

omit [DecidableEq T] in
theorem Admissible.authoritative (cell : EntryCell T P) (rt : Runtime) (now : Nat)
    (result : DecisionResult P) :
    (cell.decided rt now result).state = .ofDecision result.decision := by
  rw [EntryCell.state, EntryCell.decided, Entry.decisionSnapshot_state]

/-- What the wait for the lookup comes to: its result, or the watch's version where the call has not
seen it, and then the lookup may or may not have ended meanwhile. -/
def Awaited (rt : Runtime) (subject : T) (start : Gate T P) (cell : EntryCell T P)
    (fetch : PendingFetch T P) (result : DecisionResult P) (seen : Nat) (lookup : Lookup)
    (s : Gate T P) : Prop :=
  lookup = .result (.ok ()) ∧ Applied rt subject start cell fetch result s ∨
    seen ≠ start.watch.version ∧ lookup = .connectionChanged start.watch.version ∧
      (Awaits rt subject start cell fetch s ∨ Applied rt subject start cell fetch result s)

theorem awaitFetch_settles {fetch : PendingFetch T P} {seen : Nat}
    (awaits : Awaits rt subject start cell fetch s) (admissible : Admissible rt cell start.clock result)
    (opened : start.watch.closed = false) (ahead : start.clock < deadline)
    (waits : 0 < rt.config.unaryTimeout) (timely : start.clock + rt.config.unaryTimeout ≤ rt.latest) :
    (awaitFetch deadline seen fetch.generation : Program (Gate T P) _).Settles Unaided
      (Polls rt fetch.generation result you) me (Awaited rt subject start cell fetch result seen) s := by
  obtain ⟨flight, rfl, stage, joined, rests⟩ := awaits
  refine .bind (.read (unaided _) s.clock rfl ?_)
  have early : ∀ s : Gate T P, s.clock = start.clock → ¬ deadline ≤ s.clock := by
    intro s clock
    omega
  rw [if_neg (early s rests.clock)]
  have joins : Joined subject cell { flight with joined := true } :=
    ⟨joined.pending, joined.undecided, joined.entry, joined.subject, joined.prompt, joined.cold, joined.sound⟩
  have rests' := rests.updateFlight (fun flight => { flight with joined := true }) rfl
  have polls := runFetch_settles you (fun _ _ => False) rests' joins stage rfl waits timely
    admissible.uncapped admissible.live
  refine .bind (.always (unaided _) ()
    (s.updateFlight flight.fetch.generation fun flight => { flight with joined := true })
    (fun _ => rfl) ?_)
  generalize (s.updateFlight flight.fetch.generation fun flight => { flight with joined := true }) = waiting
    at rests' polls ⊢
  refine .wait (.inr ?_) (fun choice lookup after ran => ?_) fun served polled => ?_
  · obtain ⟨_, served, ran, _⟩ := polls.exists_served
    exact ⟨served, ran⟩
  · have flown : waiting.flights flight.fetch.generation = some { flight with joined := true } := rests'.flown
    have late := early waiting rests'.clock
    match choice with
    | 0 => simp [flown, late] at ran
    | 1 => simp [flown, joined.sound] at ran
    | n + 2 =>
        simp only [flown, rests'.watch, opened] at ran
        split at ran
        · rename_i unseen
          cases ran
          exact .done (.inr ⟨Ne.symm unseen, rfl,
            .inl ⟨{ flight with joined := true }, rfl, stage, joins, rests'⟩⟩)
        · cases ran
  · have applied := polls.served polled
    obtain ⟨flight', same, finished, outcome, rests''⟩ := id applied
    have flown : served.flights flight.fetch.generation = some flight' := same ▸ rests''.flown
    have late := early served rests''.clock
    refine .wait (.inl ⟨1, ?_⟩) (fun choice lookup after ran => ?_) fun again polled' => ?_
    · simp [flown, outcome]
    · match choice with
      | 0 => simp [flown, late] at ran
      | 1 =>
          simp only [flown, outcome] at ran
          cases ran
          exact .done (.inl ⟨rfl, applied⟩)
      | n + 2 =>
          simp only [flown, rests''.watch, opened] at ran
          split at ran
          · rename_i unseen
            cases ran
            exact .done (.inr ⟨Ne.symm unseen, rfl, .inr applied⟩)
          · cases ran
    · exact absurd polled' (not_polls flown finished again)

def Admitted (rt : Runtime) (subject : T) (start : Gate T P) (cell : EntryCell T P)
    (fetch : PendingFetch T P) (result : DecisionResult P) (round : AdmitRound T) (s : Gate T P) :
    Prop :=
  round = .inr (some cell.entry) ∧ Applied rt subject start cell fetch result s

omit [DecidableEq T] in
theorem Admissible.answers (admissible : Admissible rt cell start.clock result) :
    (cell.decided rt start.clock result).answers start.clock = true := by
  have decided := Admissible.authoritative cell rt start.clock result
  have live : (cell.decided rt start.clock result).entry.isExpiredAt
      (cell.decided rt start.clock result).current.value.word start.clock = false := admissible.live
  rw [EntryCell.answers, live, decided]
  exact decide_eq_true (EntryState.authoritative_ofDecision _)

omit [DecidableEq T] in
theorem access_settles {fetch : PendingFetch T P}
    (applied : Applied rt subject start cell fetch result s)
    (admissible : Admissible rt cell start.clock result) :
    (do
      match ← admissionOnAccess rt .admission subject cell.entry (some deadline) with
      | some admission => pure (.inr (some admission))
      | none => pure (.inl state) : Program (Gate T P) (AdmitRound T)).Settles Unaided late me
        (Admitted rt subject start cell fetch result) s := by
  obtain ⟨flight, same, finished, outcome, rests⟩ := applied
  refine .bind ((admissionOnAccess_hosted (some deadline) rests admissible.answers admissible.calm).mono
    fun admission after held => ?_)
  obtain ⟨rfl, rests⟩ := held
  exact .done ⟨rfl, flight, same, finished, outcome, rests⟩

theorem admitEntry_decided {fetch : PendingFetch T P}
    (applied : Applied rt subject start cell fetch result s)
    (admissible : Admissible rt cell start.clock result) :
    (admitEntry rt subject cell.entry deadline state : Program (Gate T P) _).Settles Unaided late me
      (Admitted rt subject start cell fetch result) s := by
  obtain ⟨flight, same, finished, outcome, rests⟩ := applied
  refine .bind (.read (unaided _) start.clock (by rw [rests.clock]) (.bind
    ((Entry.stateAt_hosted .map rests admissible.live).mono fun seen after held => ?_)))
  obtain ⟨rfl, rests⟩ := held
  rw [Admissible.authoritative]
  cases result.decision with
  | allowed => exact access_settles ⟨flight, same, finished, outcome, rests⟩ admissible
  | denied => exact access_settles ⟨flight, same, finished, outcome, rests⟩ admissible

omit [DecidableEq T] in
theorem admitAfterLookup_settles {fetch : PendingFetch T P}
    (applied : Applied rt subject start cell fetch result s) (connected : start.watch.connected = true)
    (admissible : Admissible rt cell start.clock result) (outcome : FetchResult) :
    (admitAfterLookup rt subject cell.entry deadline state outcome :
      Program (Gate T P) _).Settles Unaided late me (Admitted rt subject start cell fetch result) s := by
  obtain ⟨flight, same, finished, outcome', rests⟩ := applied
  refine .bind (.read (unaided _) s.watch.connected rfl ?_)
  rw [rests.watch, if_pos connected]
  refine .bind (.read (unaided _) start.clock (by rw [rests.clock]) (.bind
    ((Entry.stateAt_hosted .map rests admissible.live).mono fun seen after held => ?_)))
  obtain ⟨rfl, rests⟩ := held
  rw [Admissible.authoritative]
  cases result.decision with
  | allowed => exact access_settles ⟨flight, same, finished, outcome', rests⟩ admissible
  | denied => exact access_settles ⟨flight, same, finished, outcome', rests⟩ admissible

/-- What a round comes to that joins the lookup: it admits, or the call has yet to see the watch's
version and starts another round. -/
def Joins (rt : Runtime) (subject : T) (start : Gate T P) (cell : EntryCell T P)
    (fetch : PendingFetch T P) (result : DecisionResult P) (state : AdmitState)
    (round : AdmitRound T) (s : Gate T P) : Prop :=
  Admitted rt subject start cell fetch result round s ∨
    state.seen ≠ start.watch.version ∧ round = .inl { state with seen := start.watch.version } ∧
      (Awaits rt subject start cell fetch s ∨ Applied rt subject start cell fetch result s)

omit [DecidableEq T] in
theorem Joined.live (idle : cell.current.value = .pending) :
    cell.entry.isExpiredAt cell.current.value.word start.clock = false := by
  have endless : deadlineBits cell.current.value.word = noExpiry := idle ▸ EntrySnapshot.pending_deadline
  rw [Entry.isExpiredAt, endless]
  rfl

omit [DecidableEq T] in
theorem joinableFetch_settles (joined : Joined subject cell flight)
    (idle : cell.current.value = .pending) (rests : s.Rests rt subject start cell flight) :
    (joinableFetch cell.entry : Program (Gate T P) _).Settles Unaided late me (fun joinable after =>
      joinable = some flight.fetch ∧ after.Rests rt subject start cell flight) s := by
  obtain ⟨log, found⟩ := rests.found
  refine .bind (.read (unaided _) cell.pending (by rw [found]; rfl) ?_)
  rw [joined.pending]
  refine .bind (.read (unaided _) start.clock (by rw [rests.clock]) (.bind
    ((Entry.stateAt_hosted .map rests (Joined.live idle)).mono fun seen after held => ?_)))
  obtain ⟨rfl, rests'⟩ := held
  obtain ⟨log', found'⟩ := rests'.found
  rw [if_pos joined.undecided]
  refine .bind (.bind (.read (unaided _) cell.pending (by rw [found']; rfl) (.done (.done ⟨?_, rests'⟩))))
  simp [joined.pending]

theorem admitEntry_awaits {fetch : PendingFetch T P} (awaits : Awaits rt subject start cell fetch s)
    (idle : cell.current.value = .pending) (admissible : Admissible rt cell start.clock result)
    (connected : start.watch.connected = true) (opened : start.watch.closed = false)
    (ahead : start.clock < deadline) (waits : 0 < rt.config.unaryTimeout)
    (timely : start.clock + rt.config.unaryTimeout ≤ rt.latest) :
    (admitEntry rt subject cell.entry deadline state : Program (Gate T P) _).Settles Unaided
      (Polls rt fetch.generation result you) me (Joins rt subject start cell fetch result state) s := by
  obtain ⟨flight, rfl, stage, joined, rests⟩ := awaits
  refine .bind (.read (unaided _) start.clock (by rw [rests.clock]) (.bind
    ((Entry.stateAt_hosted .map rests (Joined.live idle)).mono fun seen after held => ?_)))
  obtain ⟨rfl, rests'⟩ := held
  rw [joined.undecided]
  refine .bind ((joinableFetch_settles joined idle rests').mono fun joinable after held => ?_)
  obtain ⟨rfl, rests''⟩ := held
  refine .bind ((awaitFetch_settles ⟨flight, rfl, stage, joined, rests''⟩ admissible opened ahead waits
    timely).mono fun lookup after held => ?_)
  rcases held with ⟨rfl, applied⟩ | ⟨unseen, rfl, rest⟩
  · exact (admitAfterLookup_settles applied connected admissible _).mono fun _ _ admitted => .inl admitted
  · exact .done (.inr ⟨unseen, rfl, rest⟩)

omit [DecidableEq T] in
theorem awaits_of_created (rests : s.Rests rt subject start
    (Subjects.createdCell rt start subject start.clock)
    (Subjects.createdFlight rt start subject start.clock)) :
    Awaits rt subject start (Subjects.createdCell rt start subject start.clock)
      (Subjects.createdFetch rt start subject start.clock) s :=
  ⟨_, rfl, rfl, ⟨rfl, EntrySnapshot.pending_state, rfl, rfl, rfl, rfl, rfl, rfl, rfl⟩, rests⟩

theorem admitRound_decided {fetch : PendingFetch T P}
    (applied : Applied rt subject start cell fetch result s)
    (admissible : Admissible rt cell start.clock result) (connected : start.watch.connected = true)
    (ahead : start.clock < deadline) :
    (admitRound rt subject deadline state : Program (Gate T P) _).Settles Unaided late me
      (Admitted rt subject start cell fetch result) s := by
  obtain ⟨flight, same, finished, outcome, rests⟩ := applied
  exact admitRound_hosted rests connected ahead fun after rests =>
    admitEntry_decided ⟨flight, same, finished, outcome, rests⟩ admissible

theorem admitRound_awaits {fetch : PendingFetch T P} (awaits : Awaits rt subject start cell fetch s)
    (idle : cell.current.value = .pending) (admissible : Admissible rt cell start.clock result)
    (connected : start.watch.connected = true) (opened : start.watch.closed = false)
    (ahead : start.clock < deadline) (waits : 0 < rt.config.unaryTimeout)
    (timely : start.clock + rt.config.unaryTimeout ≤ rt.latest) :
    (admitRound rt subject deadline state : Program (Gate T P) _).Settles Unaided
      (Polls rt fetch.generation result you) me (Joins rt subject start cell fetch result state) s := by
  obtain ⟨flight, same, stage, joined, rests⟩ := awaits
  exact admitRound_hosted rests connected ahead fun after rests =>
    admitEntry_awaits ⟨flight, same, stage, joined, rests⟩ idle admissible connected opened ahead waits timely

/-- From a subject that is not cached to an admission. -/
theorem admitSubject_settles (fresh : Subjects.Fresh start) (unlocked : start.Unlocked)
    (uncached : start.subjects.cache.peek subject = none)
    (connected : start.watch.connected = true) (opened : start.watch.closed = false)
    (waits : 0 < rt.config.unaryTimeout)
    (ordered : rt.config.unaryTimeout ≤ rt.config.admissionTimeout)
    (timely : start.clock + rt.config.admissionTimeout ≤ rt.latest)
    (admissible : Admissible rt (Subjects.createdCell rt start subject start.clock) start.clock result) :
    (admitSubject rt subject : Program (Gate T P) _).Settles Unaided
      (Polls rt start.nextGeneration result you) me (fun admission after =>
        admission = some (Subjects.createdEntry rt start subject start.clock) ∧
          Applied rt subject start (Subjects.createdCell rt start subject start.clock)
            (Subjects.createdFetch rt start subject start.clock) result after) start := by
  have fits : checkedAdd rt start.clock rt.config.admissionTimeout =
      some (start.clock + rt.config.admissionTimeout) := by
    rw [checkedAdd, Instant.checkedAdd, if_pos timely]
  have ahead : start.clock < start.clock + rt.config.admissionTimeout := by omega
  have soon : start.clock + rt.config.unaryTimeout ≤ rt.latest := by omega
  refine .bind (.read (unaided _) start.clock rfl ?_)
  rw [fits]
  refine .iterate ((admitRound_uncached fresh unlocked uncached connected ahead fun after rests =>
    admitEntry_awaits (awaits_of_created rests) rfl admissible connected opened ahead waits soon).mono
      fun round after joins => ?_)
  rcases joins with ⟨rfl, applied⟩ | ⟨_, rfl, waiting | applied⟩
  · exact ⟨rfl, applied⟩
  · refine .iterate ((admitRound_awaits waiting rfl admissible connected opened ahead waits soon).mono
      fun round after joins => ?_)
    rcases joins with ⟨rfl, applied⟩ | ⟨unseen, _⟩
    · exact ⟨rfl, applied⟩
    · exact absurd rfl unseen
  · refine .iterate ((admitRound_decided applied admissible connected ahead).mono
      fun round after admitted => ?_)
    obtain ⟨rfl, applied⟩ := admitted
    exact ⟨rfl, applied⟩

end PolicyGate
