import PolicyGate.Gate.Cold
import PolicyGate.Interleaving.Served

namespace PolicyGate

open Interleaving Program

variable {T P : Type} [DecidableEq T] {rt : Runtime} {me you : Nat} {subject : T}
  {start s after : Gate T P} {cell : EntryCell T P} {flight : Flight T P} {result : DecisionResult P}
  {early late : Gate T P → Gate T P → Prop}

def AnswersWith (generation : Nat) (result : DecisionResult P) (s served : Gate T P) : Prop :=
  Gate.environment (.answer generation (.result (some result))) s = some served

theorem not_answersWith {generation : Nat} {result : DecisionResult P}
    (flown : s.flights generation = some flight)
    (quiet : (∀ poller, flight.stage ≠ .calling poller) ∨ flight.answer.isSome = true)
    (served : Gate T P) : ¬ AnswersWith generation result s served := by
  intro answered
  simp only [AnswersWith, Gate.environment, flown] at answered
  split at answered
  · rename_i poller stage open_
    rcases quiet with elsewhere | settled
    · exact elsewhere _ stage
    · rw [open_] at settled
      cases settled
  · cases answered

/-- The lookup of an admission that polls it: an entry's first, in the slot of its `Pending` entry. -/
structure Joined (subject : T) (cell : EntryCell T P) (flight : Flight T P) : Prop where
  pending : cell.pending = some flight.fetch
  undecided : cell.state = .pending
  entry : flight.fetch.entry = cell.entry
  subject : flight.fetch.subject = subject
  prompt : flight.fetch.delay = none
  cold : flight.fetch.refreshFrom = none
  sound : flight.aborted = false ∧ flight.answer = none ∧ flight.outcome = none

structure Calling (you : Nat) (flight : Flight T P) (answer : Option (Answer P)) : Prop where
  stage : flight.stage = .calling you
  cold : flight.fetch.refreshFrom = none
  untouched : flight.aborted = false
  answer : flight.answer = answer

theorem Calling.answered (calling : Calling you flight none)
    (rests : s.Rests rt subject start cell flight)
    (answers : AnswersWith flight.fetch.generation result s after) : ∃ flight',
      flight'.fetch = flight.fetch ∧ Calling you flight' (some (.result (some result))) ∧
        after.Rests rt subject start cell flight' := by
  simp only [AnswersWith, Gate.environment, rests.flown, calling.stage, calling.answer,
    Option.some.injEq] at answers
  subst answers
  exact ⟨{ flight with answer := some (.result (some result)),
                       truth := s.authority flight.fetch.subject }, rfl,
    ⟨calling.stage, calling.cold, calling.untouched, rfl⟩, rests.updateFlight _ rfl⟩

theorem Calling.exists_answer (calling : Calling you flight none)
    (rests : s.Rests rt subject start cell flight) (result : DecisionResult P) :
    ∃ served, AnswersWith flight.fetch.generation result s served := by
  simp only [AnswersWith, Gate.environment, rests.flown, calling.stage, calling.answer]
  exact ⟨_, rfl⟩

omit [DecidableEq T] in
theorem returned_hosted (rests : s.Rests rt subject start cell flight)
    (home : flight.fetch.entry = cell.entry) (pick : Pick) :
    (markReturned s pick flight.fetch).Rests rt subject start cell
      { flight with stage := .returned pick.thread } := by
  unfold markReturned
  rw [home]
  exact (rests.setStage (.returned pick.thread)).note _

omit [DecidableEq T] in
theorem answerOf_hosted {fetch : PendingFetch T P} {answer : Option (Answer P)}
    (rests : s.Rests rt subject start cell flight) (same : flight.fetch = fetch)
    (calling : Calling you flight answer) : answerOf s fetch.generation = answer := by
  rw [answerOf, ← same, rests.flown]
  exact calling.answer

def CallReturned (rt : Runtime) (subject : T) (start : Gate T P) (cell : EntryCell T P) (you : Nat)
    (fetch : PendingFetch T P) (result : DecisionResult P) (answer : Option (Answer P))
    (s : Gate T P) : Prop :=
  answer = some (.result (some result)) ∧ ∃ flight : Flight T P, flight.fetch = fetch ∧
    flight.stage = .returned you ∧ flight.aborted = false ∧ s.Rests rt subject start cell flight

theorem take_settles {fetch : PendingFetch T P} {β : Type} (answer : β)
    {action : Pick → Gate T P → Option (β × Gate T P)} {Q : β → Gate T P → Prop}
    (rests : s.Rests rt subject start cell flight) (same : flight.fetch = fetch)
    (calling : Calling you flight (some (.result (some result))))
    (enabled : action ⟨you, 1⟩ s = some (answer, markReturned s ⟨you, 0⟩ fetch))
    (takes : ∀ choice, action ⟨you, choice⟩ s = none ∨
      action ⟨you, choice⟩ s = some (answer, markReturned s ⟨you, 0⟩ fetch))
    (held : Q answer (markReturned s ⟨you, 0⟩ fetch)) :
    (Program.act action).Settles (AnswersWith fetch.generation result) late you Q s := by
  have settled : flight.answer.isSome = true := by rw [calling.answer]; rfl
  have quiet : ∀ served, ¬ AnswersWith fetch.generation result s served :=
    same ▸ not_answersWith rests.flown (.inr settled)
  refine .atomic (.inl ⟨1, by rw [enabled]; rfl⟩) (fun choice taken after ran => ?_)
    fun served answers => absurd answers (quiet served)
  rcases takes choice with stuck | takes
  · rw [stuck] at ran
    cases ran
  · rw [takes] at ran
    cases ran
    exact .done held

theorem awaitSource_settles {fetch : PendingFetch T P} {deadline : Nat}
    (rests : s.Rests rt subject start cell flight) (same : flight.fetch = fetch)
    (home : fetch.entry = cell.entry) (calling : Calling you flight none)
    (ahead : start.clock < deadline) :
    (awaitSource fetch (some deadline) : Program (Gate T P) _).Settles
      (AnswersWith fetch.generation result) late you
      (CallReturned rt subject start cell you fetch result) s := by
  have returned : ∀ (s : Gate T P) (flight' : Flight T P), flight'.fetch = fetch →
      Calling you flight' (some (.result (some result))) → s.Rests rt subject start cell flight' →
      CallReturned rt subject start cell you fetch result (some (.result (some result)))
        (markReturned s ⟨you, 0⟩ fetch) := by
    intro s flight' same calling rests
    subst same
    exact ⟨rfl, { flight' with stage := .returned you }, rfl, rfl, calling.untouched,
      returned_hosted rests home ⟨you, 0⟩⟩
  have unanswered := answerOf_hosted rests same calling
  refine .bind (.atomic (.inl ⟨0, ?_⟩) (fun choice ready ended ran => ?_) fun served answers => ?_)
  · rw [unanswered]
    rfl
  · rw [unanswered] at ran
    obtain ⟨rfl, rfl⟩ := Prod.mk.injEq .. ▸ Option.some.inj ran
    have ended := rests.endTurn ⟨you, choice⟩
    have early : ¬ deadline ≤ (endTurn s ⟨you, choice⟩).clock := by
      rw [ended.clock]
      omega
    have open_ := answerOf_hosted ended same calling
    have resumes : resumed (endTurn s ⟨you, choice⟩) fetch.generation = true := by
      rw [resumed, ← same, ended.flown]
      simp [calling.untouched]
    have cold : fetch.refreshFrom = none := same ▸ calling.cold
    refine .done (.atomic (.inr ?_) (fun choice' answer after ran => ?_) fun served answers => ?_)
    · exact same ▸ calling.exists_answer ended result
    · rw [if_pos resumes, cold] at ran
      match choice' with
      | 0 => simp [takeTurn, early] at ran
      | n + 1 => simp [takeTurn, open_] at ran
    · obtain ⟨flight', same', calling', rests'⟩ := calling.answered ended (same ▸ answers)
      have here : flight'.fetch = fetch := same'.trans same
      have late : ¬ deadline ≤ served.clock := by
        rw [rests'.clock]
        omega
      have resumes : resumed served fetch.generation = true := by
        rw [resumed, ← here, rests'.flown]
        simp [calling'.untouched]
      have found := answerOf_hosted rests' here calling'
      refine take_settles (some (.result (some result))) rests' here calling' ?_ (fun choice' => ?_)
        (returned served flight' here calling' rests')
      · rw [if_pos resumes, cold]
        simp [takeTurn, found, markReturned]
      · rw [if_pos resumes, cold]
        match choice' with
        | 0 => simp [takeTurn, late]
        | n + 1 => simp [takeTurn, found, markReturned]
  · obtain ⟨flight', same', calling', rests'⟩ := calling.answered rests (same ▸ answers)
    have here : flight'.fetch = fetch := same'.trans same
    have found := answerOf_hosted rests' here calling'
    refine take_settles (some (.result (some result))) rests' here calling' ?_ (fun choice => .inr ?_)
      (.done (returned served flight' here calling' rests'))
    · rw [found]
      rfl
    · rw [found]
      rfl

theorem callSource_settles (rests : s.Rests rt subject start cell flight)
    (joined : Joined subject cell flight) (stage : flight.stage = .polled you)
    (waits : 0 < rt.config.unaryTimeout)
    (timely : start.clock + rt.config.unaryTimeout ≤ rt.latest) :
    (callSource rt flight.fetch : Program (Gate T P) _).Settles
      (AnswersWith flight.fetch.generation result) late you
      (CallReturned rt subject start cell you flight.fetch result) s := by
  have deadline : checkedAdd rt s.clock rt.config.unaryTimeout =
      some (s.clock + rt.config.unaryTimeout) := by
    rw [checkedAdd, Instant.checkedAdd, if_pos (rests.clock ▸ timely)]
  have ahead : ¬ s.clock + rt.config.unaryTimeout ≤ s.clock := by omega
  have quiet : ∀ served, ¬ AnswersWith flight.fetch.generation result s served :=
    not_answersWith rests.flown (.inl fun poller calling => by rw [stage] at calling; cases calling)
  refine .bind (.read quiet s.clock rfl ?_)
  rw [deadline]
  refine .bind (.read quiet s.clock rfl ?_)
  rw [if_neg ahead]
  have begun := (rests.updateFlight (fun flight =>
    { flight with stage := .calling you, begun := some s.watch.opened }) rfl).note
      (.started flight.fetch.generation flight.fetch.refreshFrom.isSome
        (untaken s flight.fetch.generation) s.clock)
  have calling : Calling you { flight with stage := .calling you, begun := some s.watch.opened } none :=
    ⟨rfl, joined.cold, joined.sound.1, joined.sound.2.1⟩
  have timed : start.clock < s.clock + rt.config.unaryTimeout := by
    rw [rests.clock]
    omega
  refine .bind (.always quiet () _ (fun choice => ?_) (awaitSource_settles begun rfl joined.entry calling timed))
  rw [joined.entry]

def EntryCell.decided (cell : EntryCell T P) (rt : Runtime) (now : Nat) (result : DecisionResult P) :
    EntryCell T P :=
  { cell with
    current := ⟨cell.current.address + 1, cell.entry.decisionSnapshot rt.config now result⟩
    pending := none }

omit [DecidableEq T] in
theorem Entry.compareExchange_settles {entry : Entry T} {expected : EntryState}
    {next : EntrySnapshot P} {event : EntryEvent T P} {Q : Except EntryState Unit → Gate T P → Prop}
    (quiet : ∀ served, ¬ early s served) (found : s.cells entry.id = some cell)
    (state : cell.state = expected) (held : Q (.ok ()) (s.replaceCurrent entry next event)) :
    (entry.compareExchange expected next event).Settles early late me Q s := by
  refine .bind (.read quiet cell.current (by rw [Gate.load, found]; rfl) (.iterate ?_))
  have same : cell.current.value.state = expected := state
  rw [if_neg (not_not.mpr same)]
  refine .bind (.always quiet cell.current (s.replaceCurrent entry next event) (fun choice => ?_) ?_)
  · rw [Gate.compareAndSwap, found, Option.map_some, if_pos rfl]
  · rw [if_pos rfl]
    exact .done held

omit [DecidableEq T] in
theorem Entry.pendingGeneration_settles {entry : Entry T} {fetch : PendingFetch T P}
    {Q : Option (PendingFetch T P) → Gate T P → Prop} (quiet : ∀ served, ¬ early s served)
    (found : s.cells entry.id = some cell) (pending : cell.pending = some fetch)
    (held : Q (some fetch) s) :
    (entry.pendingGeneration fetch.generation).Settles early late me Q s := by
  refine .bind (.read quiet cell.pending (by rw [found]; rfl) (.done ?_))
  rw [pending, Option.filter_some, if_pos (decide_eq_true rfl)]
  exact held

omit [DecidableEq T] in
theorem Entry.replacePending_settles {entry : Entry T} {fetch : PendingFetch T P}
    {Q : Bool → Gate T P → Prop} (quiet : ∀ served, ¬ early s served)
    (found : s.cells entry.id = some cell) (pending : cell.pending = some fetch)
    (held : Q true (s.swapPending entry fetch none)) :
    (entry.replacePending fetch.generation none).Settles early late me Q s := by
  refine .bind (Entry.pendingGeneration_settles quiet found pending (.always quiet true _
    (fun choice => ?_) held))
  have holds : Gate.holdsPending cell fetch = true := by
    rw [Gate.holdsPending, pending]
    exact decide_eq_true rfl
  rw [found, Option.map_some, if_pos holds]

omit [DecidableEq T] in
theorem upgradeEntry_settles {entry : Entry T} {Q : Bool → Gate T P → Prop}
    (quiet : ∀ served, ¬ early s served)
    (held : ∃ slot ∈ s.subjects.cache.entries, slot.2.entry.id = entry.id) (upgraded : Q true s) :
    (upgradeEntry entry : Program (Gate T P) _).Settles early late me Q s := by
  refine .atomic (.inl ⟨0, rfl⟩) (fun choice alive after ran => ?_)
    fun served serves => absurd serves (quiet served)
  by_cases first : choice = 0
  · rw [if_pos first] at ran
    cases ran
    exact .done upgraded
  · rw [if_neg first, if_neg ?_] at ran
    · cases ran
    · obtain ⟨slot, member, here⟩ := held
      simp only [Bool.and_eq_true, List.all_eq_true, decide_eq_true_eq, not_and]
      exact fun gone => absurd here (gone slot member)

def Applied (rt : Runtime) (subject : T) (start : Gate T P) (cell : EntryCell T P)
    (fetch : PendingFetch T P) (result : DecisionResult P) (s : Gate T P) : Prop :=
  ∃ flight : Flight T P, flight.fetch = fetch ∧ flight.stage = .finished ∧
    flight.outcome = some (.ok ()) ∧
      s.Rests rt subject start (cell.decided rt start.clock result) flight

theorem applyFetchResult_settles {fetch : PendingFetch T P}
    (rests : s.Rests rt subject start cell flight) (same : flight.fetch = fetch)
    (stage : flight.stage = .returned you) (pending : cell.pending = some fetch)
    (undecided : cell.state = .pending)
    (live : cell.entry.isExpiredAt
      (cell.entry.decisionSnapshot rt.config start.clock result).word start.clock = false) :
    (applyFetchResult rt subject cell.entry fetch.generation none (.ok result) :
      Program (Gate T P) _).Settles (AnswersWith fetch.generation result) late you (fun applied after =>
        applied = .ok () ∧ after.Rests rt subject start (cell.decided rt start.clock result) flight) s := by
  have quiet : ∀ (s : Gate T P) (cell : EntryCell T P), s.Rests rt subject start cell flight →
      ∀ served, ¬ AnswersWith fetch.generation result s served := fun s cell rests =>
    same ▸ not_answersWith rests.flown (.inl fun poller calling => by rw [stage] at calling; cases calling)
  obtain ⟨log, found⟩ := rests.found
  refine .bind (Entry.pendingGeneration_settles (quiet s cell rests) found pending ?_)
  refine .bind (.read (quiet s cell rests) _ rfl (.bind (.done
    (.bind (.read (quiet s cell rests) s.clock rfl ?_)))))
  set publication : Publication P :=
    { origin := .cold fetch.generation, now := s.clock, checkedAt := s.clock, result,
      session := s.watch.opened }
  have snapshot : cell.entry.publishedSnapshot rt publication =
      cell.entry.decisionSnapshot rt.config start.clock result := by
    rw [Entry.publishedSnapshot, ← rests.clock]
  have checked : checkPublication rt cell.entry s.clock (.ok publication) = .ok publication := by
    have fresh : cell.entry.isExpiredAt (cell.entry.publishedSnapshot rt publication).word s.clock =
        false := by
      rw [snapshot, rests.clock]
      exact live
    exact if_neg (by simp [fresh])
  have swapped : (s.updateCell cell.entry.id fun cell' =>
      cell'.replace (cell.entry.publishedSnapshot rt publication) (.published publication)).Rests rt
        subject start { cell with
          current := ⟨cell.current.address + 1, cell.entry.decisionSnapshot rt.config start.clock result⟩ }
        flight := by
    rw [snapshot]
    exact rests.updateCell (fun log => ⟨.published publication :: log, rfl⟩) rfl
  set stored := s.updateCell cell.entry.id fun cell' =>
    cell'.replace (cell.entry.publishedSnapshot rt publication) (.published publication)
  obtain ⟨log', foundStored⟩ := swapped.found
  change Settles _ _ _ (applyColdResult rt subject cell.entry fetch.generation
    (checkPublication rt cell.entry s.clock (.ok publication))) _ s
  rw [checked]
  refine .bind (Entry.compareExchange_settles (quiet s cell rests) found undecided ?_)
  change Settles _ _ _ _ _ stored
  refine .bind (Entry.replacePending_settles (quiet stored _ swapped) foundStored pending ?_)
  refine .done ⟨rfl, ?_⟩
  have leaves : Gate.leaveSlot flight.stage = flight.stage := by
    rw [stage]
    rfl
  have kept : { flight with stage := Gate.leaveSlot flight.stage } = flight := by rw [leaves]
  have emptied : (stored.updateCell cell.entry.id fun cell' => { cell' with pending := none }).Rests rt
      subject start (cell.decided rt start.clock result) flight :=
    swapped.updateCell (fun log => ⟨log, rfl⟩) rfl
  have left := emptied.updateFlight (fun flight => { flight with stage := Gate.leaveSlot flight.stage }) rfl
  rw [kept, same] at left
  exact left

/-- The poll of a joined lookup, from its start to its outcome. -/
theorem runFetch_settles (you : Nat) (late : Gate T P → Gate T P → Prop)
    (rests : s.Rests rt subject start cell flight)
    (joined : Joined subject cell flight) (stage : flight.stage = .placed) (polled : flight.joined = true)
    (waits : 0 < rt.config.unaryTimeout)
    (timely : start.clock + rt.config.unaryTimeout ≤ rt.latest) (uncapped : result.validUntil = none)
    (live : cell.entry.isExpiredAt
      (cell.entry.decisionSnapshot rt.config start.clock result).word start.clock = false) :
    (runFetch rt flight.fetch.generation : Program (Gate T P) _).Settles
      (AnswersWith flight.fetch.generation result) late you
      (fun _ after => Applied rt subject start cell flight.fetch result after) s := by
  have quiet : ∀ served, ¬ AnswersWith flight.fetch.generation result s served :=
    not_answersWith rests.flown (.inl fun poller calling => by rw [stage] at calling; cases calling)
  have begun := rests.setStage (.polled you)
  have joins : Joined subject cell { flight with stage := .polled you } :=
    ⟨joined.pending, joined.undecided, joined.entry, joined.subject, joined.prompt, joined.cold, joined.sound⟩
  refine .bind (.always quiet flight.fetch (s.setStage flight.fetch.generation (.polled you))
    (fun choice => ?_) ?_)
  · simp [rests.flown, stage, polled, joined.sound.1, joined.cold, takeTurn]
  rw [joined.prompt]
  refine .bind ((callSource_settles begun joins rfl waits timely).mono fun answer returned held => ?_)
  obtain ⟨rfl, flight', same, stage', unaborted, rests'⟩ := held
  have quiet' : ∀ served, ¬ AnswersWith flight.fetch.generation result returned served :=
    same ▸ not_answersWith rests'.flown (.inl fun poller calling => by rw [stage'] at calling; cases calling)
  have held : ∃ slot ∈ returned.subjects.cache.entries, slot.2.entry.id = flight.fetch.entry.id := by
    obtain ⟨slot, member, here, _⟩ := rests'.slot
    exact ⟨_, member, joined.entry ▸ congrArg Entry.id here⟩
  have looked : lookupResult (some (.result (some result))) =
      (pure (.ok result) : Program (Gate T P) _) := by
    rw [lookupResult, uncapped]
  rw [looked]
  refine .bind (.done (.bind (upgradeEntry_settles quiet' held ?_)))
  rw [if_pos rfl, joined.cold, joined.subject, joined.entry]
  refine .bind ((applyFetchResult_settles rests' same stage' joined.pending joined.undecided live).mono
    fun applied after held => ?_)
  obtain ⟨rfl, rests''⟩ := held
  have quiet'' : ∀ served, ¬ AnswersWith flight.fetch.generation result after served :=
    same ▸ not_answersWith rests''.flown (.inl fun poller calling => by rw [stage'] at calling; cases calling)
  refine .always quiet'' () ((endTurn after ⟨you, 0⟩).updateFlight flight.fetch.generation fun flight =>
    { flight with stage := .finished, outcome := some (.ok ()) }) (fun choice => rfl) ?_
  have finished := (rests''.endTurn ⟨you, 0⟩).updateFlight (fun flight =>
    { flight with stage := .finished, outcome := some (.ok ()) }) rfl
  have generation : flight'.fetch.generation = flight.fetch.generation :=
    congrArg PendingFetch.generation same
  rw [generation] at finished
  exact ⟨{ flight' with stage := .finished, outcome := some (.ok ()) }, same, rfl, rfl, finished⟩

end PolicyGate
