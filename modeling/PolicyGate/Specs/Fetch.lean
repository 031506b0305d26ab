import PolicyGate.Specs.Publish

namespace PolicyGate

open Interleaving

variable {T P : Type} [DecidableEq T] {rt : Runtime} {me : Nat} {fetch : PendingFetch T P}

namespace Gate

/-- What lasts of a lookup that exists. -/
def Booked (fetch : PendingFetch T P) (s : Gate T P) : Prop :=
  s.Fetched fetch ∧ s.Known fetch.entry

def Holds (me : Nat) (fetch : PendingFetch T P) (stage : Stage) (s : Gate T P) : Prop :=
  s.Booked fetch ∧ s.At fetch.generation stage ∧ s.Resting me

/-- If the lookup is a refresh, it is the thread's turn to poll one. -/
def Turn (me : Nat) (fetch : PendingFetch T P) (s : Gate T P) : Prop :=
  fetch.refreshFrom.isSome = true → s.refreshing = some me

def Polls (me : Nat) (fetch : PendingFetch T P) (stage : Stage) (s : Gate T P) : Prop :=
  s.Holds me fetch stage ∧ s.Turn me fetch

/-- The lookup is in no slot, nor will it be. -/
def Parted (generation : Nat) (s : Gate T P) : Prop :=
  s.Vacated generation ∧ ∃ flight, s.flights generation = some flight ∧ flight.stage.made = true

def Told (generation : Nat) (answer : Option (Answer P)) (s : Gate T P) : Prop :=
  ∀ told, answer = some told → answerOf s generation = some told

end Gate

theorem lasting_booked (fetch : PendingFetch T P) : Lasting rt (Gate.Booked fetch) :=
  (Lasting.fetched fetch).and (Lasting.known fetch.entry)

theorem sheltered_holds {stage : Stage} (fetch : PendingFetch T P) (owned : stage.owner = some me) :
    Sheltered rt me (Gate.Holds me fetch stage) :=
  (lasting_booked fetch).sheltered.and <| (Sheltered.at fetch.generation owned).and (Sheltered.resting none)

theorem stable_polls {stage : Stage} (fetch : PendingFetch T P) (owned : stage.owner = some me) :
    (discipline rt).Stable me (Gate.Polls me fetch stage) :=
  (sheltered_holds fetch owned).stable.and fun _ _ _ _ rely turn refresh =>
    (rely.turn (turn refresh)).1

theorem lasting_parted (generation : Nat) : Lasting rt (Gate.Parted (T := T) (P := P) generation) := by
  rintro before after _ _ extend ⟨vacated, flight, flown, made⟩
  obtain ⟨flight', flown', grows⟩ := extend.flights generation flight flown
  exact ⟨extend.vacated generation flight flown made vacated, flight', flown', grows.made made⟩

theorem lasting_told (generation : Nat) (answer : Option (Answer P)) :
    Lasting rt (Gate.Told (T := T) generation answer) := by
  rintro before after _ _ extend told answer' same
  obtain ⟨flight, flown, answered⟩ := Option.bind_eq_some_iff.mp (told answer' same)
  obtain ⟨flight', flown', grows⟩ := extend.flights generation flight flown
  refine Option.bind_eq_some_iff.mpr ⟨flight', flown', ?_⟩
  rw [(grows.answer (by rw [answered]; rfl)).1, answered]

theorem Gate.Invariant.vacated {s : Gate T P} {config : PolicyGateConfig} (ok : s.Invariant config)
    (booked : s.Booked fetch)
    (away : ∀ cell pending, s.cells fetch.entry.id = some cell → cell.pending = some pending →
      pending.generation ≠ fetch.generation) : s.Vacated fetch.generation := by
  intro id cell pending found inSlot same
  obtain ⟨⟨flight, flown, rfl⟩, _⟩ := booked
  obtain ⟨flight', flown', same', home, _⟩ := ok.slots.held id cell pending found inSlot
  rw [same] at flown'
  obtain rfl : flight = flight' := Option.some.inj (flown.symm.trans flown')
  have identity := (ok.cells id cell found).identity
  rw [← home, ← same'] at identity
  exact away cell pending (identity ▸ found) inSlot same

theorem Gate.Invariant.dueBy_of_pending {s : Gate T P} {config : PolicyGateConfig}
    (ok : s.Invariant config) (booked : s.Booked fetch) {cell : EntryCell T P}
    {pending : PendingFetch T P} (found : s.cells fetch.entry.id = some cell)
    (inSlot : cell.pending = some pending) (same : pending.generation = fetch.generation) :
    fetch.DueBy s.clock := by
  obtain ⟨⟨flight, flown, rfl⟩, _⟩ := booked
  obtain ⟨flight', flown', same', home, _⟩ := ok.slots.held _ cell pending found inSlot
  rw [same] at flown'
  obtain rfl : flight = flight' := Option.some.inj (flown.symm.trans flown')
  intro current refresh
  rw [same'] at refresh ⊢
  exact home ▸ (ok.cells _ cell found).due pending current inSlot refresh

section

omit [DecidableEq T]

theorem Gate.RestingBut.resting {s : Gate T P} {generation : Nat}
    (resting : s.RestingBut me (some generation)) (vacated : s.Vacated generation) :
    s.Resting me := by
  intro other stage found enqueuer _
  by_cases same : other = generation
  · exact same ▸ vacated
  · exact resting other stage found enqueuer fun equal => same (Option.some.inj equal)

theorem Extends.resting_of_flights {kept : Option Nat} {before after : Gate T P}
    (extend : Extends before after) (resting : before.RestingBut me kept) (generation : Nat)
    (others : ∀ other, other ≠ generation → after.flights other = before.flights other)
    (own : ∀ stage, after.stageOf generation = some stage → stage.enqueuer = some me →
      some generation = kept) : after.RestingBut me kept := by
  refine extend.resting resting fun other stage found enqueuer different => .inl ?_
  have isOther : other ≠ generation := by
    rintro rfl
    exact different (own stage found enqueuer)
  rw [Gate.stageOf, others other isOther] at found
  exact found

theorem Gate.stageOf_of_flights {s : Gate T P} {generation : Nat} {flight : Flight T P}
    (flown : s.flights generation = some flight) : s.stageOf generation = some flight.stage := by
  rw [Gate.stageOf, flown]
  rfl

end

theorem Gate.Holds.advance {stage stage' : Stage} {s after : Gate T P} {flight : Flight T P}
    (held : s.Holds me fetch stage) (ok : s.Invariant rt.config)
    (step : OwnStep rt.config me s after)
    (others : ∀ other, other ≠ fetch.generation → after.flights other = s.flights other)
    (flown : after.flights fetch.generation = some flight) (moved : flight.stage = stage')
    (free : stage'.enqueuer = none) : after.Holds me fetch stage' := by
  have at_stage := moved ▸ Gate.stageOf_of_flights flown
  refine ⟨lasting_booked fetch _ _ ok step.invariant step.advance.toExtends held.1, at_stage,
    step.advance.toExtends.resting_of_flights held.2.2 _ others fun stage found enqueuer => ?_⟩
  obtain rfl : stage' = stage := Option.some.inj (at_stage.symm.trans found)
  rw [free] at enqueuer
  cases enqueuer

omit [DecidableEq T] in
theorem Gate.Holds.flight {stage : Stage} {s : Gate T P} (held : s.Holds me fetch stage) :
    ∃ flight, s.flights fetch.generation = some flight ∧ flight.fetch = fetch ∧
      flight.stage = stage := by
  obtain ⟨⟨⟨flight, flown, same⟩, _⟩, at_stage, _⟩ := held
  exact ⟨flight, flown, same, Option.some.inj ((Gate.stageOf_of_flights flown).symm.trans at_stage)⟩

theorem Gate.Booked.of_flight {s : Gate T P} {generation : Nat} {flight : Flight T P}
    {config : PolicyGateConfig} (ok : s.Invariant config)
    (flown : s.flights generation = some flight) : s.Booked flight.fetch := by
  have flightOk := ok.flights generation flight flown
  obtain ⟨cell, found, bound⟩ := flightOk.bound
  exact ⟨⟨flight, flightOk.identity ▸ flown, rfl⟩, cell, found, bound.entry⟩

section

variable {s after : Gate T P} {choice : Nat} {refresh : Bool}

omit [DecidableEq T] in
theorem takeTurn_eq (taken : takeTurn s ⟨me, choice⟩ refresh = some after) :
    refresh = false ∧ after = s ∨
      refresh = true ∧ s.refreshing = none ∧ after = { s with refreshing := some me } := by
  unfold takeTurn at taken
  cases refresh with
  | false => exact .inl ⟨rfl, (Option.some.inj taken).symm⟩
  | true =>
      cases turn : s.refreshing with
      | some other =>
          rw [turn] at taken
          cases taken
      | none =>
          rw [turn] at taken
          exact .inr ⟨rfl, rfl, (Option.some.inj taken).symm⟩

omit [DecidableEq T] in
theorem takeTurn_with (taken : takeTurn s ⟨me, choice⟩ refresh = some after) :
    ∃ turn, after = { s with refreshing := turn } ∧ (refresh = true → turn = some me) := by
  rcases takeTurn_eq taken with ⟨rfl, rfl⟩ | ⟨rfl, _, rfl⟩
  · exact ⟨after.refreshing, rfl, nofun⟩
  · exact ⟨some me, rfl, fun _ => rfl⟩

theorem Gate.Invariant.takeTurn (ok : s.Invariant rt.config)
    (taken : PolicyGate.takeTurn s ⟨me, choice⟩ refresh = some after) : after.Invariant rt.config := by
  obtain ⟨turn, rfl, _⟩ := takeTurn_with taken
  exact ok.passTurn turn

theorem OwnStep.takeTurn {before : Gate T P}
    (taken : PolicyGate.takeTurn before ⟨me, choice⟩ refresh = some s)
    (step : OwnStep rt.config me s after) : OwnStep rt.config me before after := by
  rcases takeTurn_eq taken with ⟨_, rfl⟩ | ⟨_, free, rfl⟩
  · exact step
  · refine step.afterTurn fun other _ held => ?_
    rw [free] at held
    cases held

theorem OwnStep.endTurn (step : OwnStep rt.config me s after)
    (same : after.refreshing = s.refreshing) :
    OwnStep rt.config me s (PolicyGate.endTurn after ⟨me, choice⟩) := by
  unfold PolicyGate.endTurn
  split
  · rename_i turn
    refine step.passTurn fun other different held => different ?_
    exact Option.some.inj (held.symm.trans (same.symm.trans turn))
  · exact step

omit [DecidableEq T] in
theorem endTurn_with (s : Gate T P) (pick : Pick) :
    ∃ turn, endTurn s pick = { s with refreshing := turn } := by
  unfold endTurn
  split
  · exact ⟨none, rfl⟩
  · exact ⟨s.refreshing, rfl⟩

omit [DecidableEq T] in
theorem endTurn_flights (s : Gate T P) (pick : Pick) : (endTurn s pick).flights = s.flights := by
  obtain ⟨turn, same⟩ := endTurn_with s pick
  rw [same]

omit [DecidableEq T] in
theorem endTurn_updateFlight (s : Gate T P) (pick : Pick) (generation : Nat)
    (f : Flight T P → Flight T P) :
    endTurn (s.updateFlight generation f) pick = (endTurn s pick).updateFlight generation f := by
  unfold endTurn
  by_cases turn : s.refreshing = some pick.thread
  · rw [if_pos turn]
    exact if_pos turn
  · rw [if_neg turn]
    exact if_neg turn

end

theorem beginPoll_spec {generation : Nat} :
    (discipline rt).Spec me (beginPoll generation) (fun s : Gate T P => s.Resting me)
      fun fetch s => (fetch.generation = generation ∧ fetch.subject = fetch.entry.subject) ∧
        s.Polls me fetch (.polled me) := by
  refine stepAct (Sheltered.resting none).stable fun s choice fetch after ok held ran => ?_
  cases flown : s.flights generation with
  | none =>
      simp only [flown] at ran
      cases ran
  | some flight =>
      simp only [flown] at ran
      split at ran
      · rename_i pollable
        simp only [Bool.and_eq_true, Bool.or_eq_true, decide_eq_true_eq, Bool.not_eq_eq_eq_not,
          Bool.not_true] at pollable
        obtain ⟨s', taken, same⟩ := Option.map_eq_some_iff.mp ran
        obtain ⟨rfl, rfl⟩ := Prod.mk.injEq .. ▸ same
        have ok' := ok.takeTurn taken
        obtain ⟨turn, rfl, mine⟩ := takeTurn_with taken
        have flightOk := ok.flights generation flight flown
        have step : OwnStep rt.config me { s with refreshing := turn }
            (Gate.setStage { s with refreshing := turn } generation (.polled me)) :=
          .beginPoll ok' flown pollable.1 pollable.2
        have booked := lasting_booked flight.fetch _ _ ok' step.invariant step.advance.toExtends
          (.of_flight ok' flown)
        have polled := Gate.updateFlight_at (s := { s with refreshing := turn }) flown
          fun flight => { flight with stage := .polled me }
        refine ⟨.takeTurn taken step, ⟨flightOk.identity, flightOk.subject⟩, ⟨booked, ?_, ?_⟩, mine⟩
        · rw [flightOk.identity]
          exact Gate.stageOf_of_flights polled
        · refine step.advance.toExtends.resting_of_flights held generation
            (fun other different => Function.update_of_ne different _ _) fun stage found enqueuer => ?_
          obtain rfl : .polled me = stage :=
            Option.some.inj ((Gate.stageOf_of_flights polled).symm.trans found)
          cases enqueuer
      · cases ran

theorem Gate.Polls.sleep {s : Gate T P} {stage stage' : Stage} (ok : s.Invariant rt.config)
    (held : s.Polls me fetch stage)
    (was : stage = .polled me ∨ stage = .asleep me ∧ resumed s fetch.generation = true)
    (becomes : stage' = .asleep me ∨ stage' = .polled me) :
    OwnStep rt.config me s (s.setStage fetch.generation stage') ∧
      (s.setStage fetch.generation stage').Polls me fetch stage' := by
  obtain ⟨flight, flown, rfl, rfl⟩ := held.1.flight
  have step : OwnStep rt.config me s (s.setStage flight.fetch.generation stage') := by
    refine .sleep ok flown (was.imp_right fun ⟨asleep, unaborted⟩ => ⟨asleep, ?_⟩) becomes
    simpa only [resumed, flown, Bool.not_eq_eq_eq_not, Bool.not_true] using unaborted
  refine ⟨step, held.1.advance ok step (fun other different => Function.update_of_ne different _ _)
    (Gate.updateFlight_at flown fun flight => { flight with stage := stage' }) rfl ?_, held.2⟩
  rcases becomes with rfl | rfl <;> rfl

theorem sleepDelay_spec {delay : Nat} :
    (discipline rt).Spec me (sleepDelay rt fetch.generation delay) (Gate.Polls me fetch (.polled me))
      fun _ => Gate.Polls (T := T) (P := P) me fetch (.polled me) := by
  refine .bind ((clockNow_past (stable_polls fetch rfl)).post fun _ _ _ held => held.1) fun now => ?_
  refine .bind (M := fun elapsed => Gate.Polls me fetch (if elapsed then .polled me else .asleep me))
    (stepAct (stable_polls fetch rfl) fun s choice result after ok held ran => ?_) fun elapsed => ?_
  · split at ran <;> obtain ⟨rfl, rfl⟩ := Prod.mk.injEq .. ▸ Option.some.inj ran
    · exact ⟨(NeutralStep.refl ok).own, held⟩
    · exact held.sleep ok (.inl rfl) (.inl rfl)
  · cases elapsed with
    | true => exact .done fun _ _ held => held
    | false =>
        refine stepAct (stable_polls fetch rfl) fun s choice result after ok held ran => ?_
        split at ran
        · rename_i wakes
          obtain ⟨_, rfl⟩ := Prod.mk.injEq .. ▸ Option.some.inj ran
          exact held.sleep ok (.inr ⟨rfl, wakes.2⟩) (.inr rfl)
        · cases ran

theorem startCall_spec :
    (discipline rt).Spec me (startCall fetch) (Gate.Polls me fetch (.polled me))
      fun _ => Gate.Polls me fetch (.calling me) := by
  refine stepAct (stable_polls fetch rfl) fun s choice result after ok held ran => ?_
  obtain ⟨_, rfl⟩ := Prod.mk.injEq .. ▸ Option.some.inj ran
  obtain ⟨flight, flown, rfl, polled⟩ := held.1.flight
  have step := OwnStep.startCall (untaken s flight.fetch.generation) ok flown polled
  exact ⟨step, held.1.advance ok step (fun other different => Function.update_of_ne different _ _)
    (Gate.updateFlight_at flown fun flight =>
      { flight with stage := .calling me, begun := some s.watch.opened }) rfl rfl, held.2⟩

theorem markReturned_step {s : Gate T P} {stage : Stage} {choice : Nat} (ok : s.Invariant rt.config)
    (held : s.Holds me fetch stage) (handled : stage = .polled me ∨ stage = .calling me) :
    OwnStep rt.config me s (markReturned s ⟨me, choice⟩ fetch) ∧
      (markReturned s ⟨me, choice⟩ fetch).Holds me fetch (.returned me) := by
  obtain ⟨flight, flown, rfl, rfl⟩ := held.flight
  have step : OwnStep rt.config me s (markReturned s ⟨me, choice⟩ flight.fetch) :=
    .markReturned ok flown handled
  exact ⟨step, held.advance ok step (fun other different => Function.update_of_ne different _ _)
    (Gate.updateFlight_at flown fun flight => { flight with stage := .returned me }) rfl rfl⟩

omit [DecidableEq T] in
theorem answerOf_markReturned (s : Gate T P) (pick : Pick) (fetch : PendingFetch T P) :
    answerOf (markReturned s pick fetch) fetch.generation = answerOf s fetch.generation := by
  change (Function.update s.flights fetch.generation _ fetch.generation).bind Flight.answer = _
  rw [Function.update_self, answerOf]
  cases s.flights fetch.generation <;> rfl

def Gate.Returned (me : Nat) (fetch : PendingFetch T P) (answer : Option (Answer P)) (s : Gate T P) :
    Prop :=
  s.Holds me fetch (.returned me) ∧ s.Told fetch.generation answer

theorem sheltered_returned (answer : Option (Answer P)) :
    Sheltered rt me (Gate.Returned me fetch answer) :=
  (sheltered_holds fetch rfl).and (lasting_told fetch.generation answer).sheltered

def Gate.Settles (me : Nat) (fetch : PendingFetch T P) (answer : Option (Answer P)) (s : Gate T P) :
    Prop :=
  s.Returned me fetch answer ∧ s.Turn me fetch

theorem stable_settles (answer : Option (Answer P)) :
    (discipline rt).Stable me (Gate.Settles me fetch answer) :=
  (sheltered_returned answer).stable.and fun _ _ _ _ rely turn refresh =>
    (rely.turn (turn refresh)).1

theorem skipCall_spec :
    (discipline rt).Spec me (skipCall fetch) (Gate.Polls me fetch (.polled me))
      fun answer s => s.Settles me fetch answer := by
  refine stepAct (stable_polls fetch rfl) fun s choice result after ok held ran => ?_
  obtain ⟨rfl, rfl⟩ := Prod.mk.injEq .. ▸ Option.some.inj ran
  obtain ⟨step, returned⟩ := markReturned_step ok held.1 (.inl rfl)
  exact ⟨step, ⟨returned, nofun⟩, held.2⟩

theorem markReturned_told {s : Gate T P} {choice : Nat} {answer : Answer P}
    (ok : s.Invariant rt.config) (held : s.Polls me fetch (.calling me))
    (answered : answerOf s fetch.generation = some answer) :
    OwnStep rt.config me s (markReturned s ⟨me, choice⟩ fetch) ∧
      (markReturned s ⟨me, choice⟩ fetch).Settles me fetch (some answer) := by
  obtain ⟨step, returned⟩ := markReturned_step ok held.1 (.inr rfl)
  refine ⟨step, ⟨returned, fun told same => ?_⟩, held.2⟩
  rw [answerOf_markReturned, answered]
  exact same

def Gate.Readied (me : Nat) (fetch : PendingFetch T P) (s : Gate T P) : Option (Answer P) → Prop
  | some answer => s.Settles me fetch (some answer)
  | none => s.Holds me fetch (.calling me)

theorem awaitSource_spec {deadline : Option Nat} :
    (discipline rt).Spec me (awaitSource fetch deadline)
      (Gate.Polls me fetch (.calling me)) fun answer s => s.Settles me fetch answer := by
  refine .bind (M := fun ready s => s.Readied me fetch ready)
    (stepAct (stable_polls fetch rfl) fun s choice ready after ok held ran => ?_) fun ready => ?_
  · cases answered : answerOf s fetch.generation with
    | some answer =>
        simp only [answered] at ran
        obtain ⟨rfl, rfl⟩ := Prod.mk.injEq .. ▸ Option.some.inj ran
        exact markReturned_told ok held answered
    | none =>
        simp only [answered] at ran
        obtain ⟨rfl, rfl⟩ := Prod.mk.injEq .. ▸ Option.some.inj ran
        refine ⟨(NeutralStep.refl ok).own.endTurn rfl, ?_⟩
        obtain ⟨turn, same⟩ := endTurn_with s ⟨me, choice⟩
        rw [same]
        exact held.1
  · cases ready with
    | some answer => exact .done fun s _ held => held
    | none =>
        refine stepAct (sheltered_holds fetch rfl).stable fun s choice answer after ok held ran => ?_
        split at ran
        · obtain ⟨s', taken, ran⟩ := Option.bind_eq_some_iff.mp ran
          have ok' := ok.takeTurn taken
          have polls : s'.Polls me fetch (.calling me) := by
            obtain ⟨turn, rfl, mine⟩ := takeTurn_with taken
            exact ⟨held, mine⟩
          have answers : (answerOf s' fetch.generation).map (fun answer =>
              (some answer, markReturned s' ⟨me, choice⟩ fetch)) = some (answer, after) →
              OwnStep rt.config me s after ∧ after.Settles me fetch answer := by
            intro mapped
            obtain ⟨told, answered, same⟩ := Option.map_eq_some_iff.mp mapped
            obtain ⟨rfl, rfl⟩ := Prod.mk.injEq .. ▸ same
            obtain ⟨step, settles⟩ := markReturned_told ok' polls answered
            exact ⟨.takeTurn taken step, settles⟩
          split at ran
          · split at ran
            · obtain ⟨rfl, rfl⟩ := Prod.mk.injEq .. ▸ Option.some.inj ran
              obtain ⟨step, returned⟩ := markReturned_step ok' polls.1 (.inr rfl)
              exact ⟨.takeTurn taken step,
                ⟨returned, fun _ impossible => by cases impossible⟩, polls.2⟩
            · cases ran
          · exact answers ran
        · cases ran

theorem callSource_spec :
    (discipline rt).Spec me (callSource rt fetch) (Gate.Polls me fetch (.polled me))
      fun answer s => s.Settles me fetch answer := by
  have stable : (discipline rt).Stable me (Gate.Polls me fetch (.polled me)) := stable_polls fetch rfl
  refine .bind (clockNow_past stable) fun now => ?_
  cases checkedAdd rt now rt.config.unaryTimeout with
  | none =>
      exact .bind (startCall_spec.pre fun s _ held => held.1) fun _ => awaitSource_spec
  | some deadline =>
      refine .bind ((clockNow_past stable).pre fun s _ held => held.1) fun now => ?_
      split
      · exact skipCall_spec.pre fun s _ held => held.1
      · exact .bind (startCall_spec.pre fun s _ held => held.1) fun _ => awaitSource_spec

theorem lookupResult_spec {R : Gate T P → Prop} {answer : Option (Answer P)}
    (stable : (discipline rt).Stable me R) :
    (discipline rt).Spec me (lookupResult answer) R fun result s =>
      (∀ value, result = .ok value → answer = some (.result (some value))) ∧ R s := by
  unfold lookupResult
  split
  · exact .done fun s _ held => ⟨nofun, held⟩
  · exact .done fun s _ held => ⟨nofun, held⟩
  · exact .done fun s _ held => ⟨nofun, held⟩
  · exact .done fun s _ held => ⟨nofun, held⟩
  · rename_i result
    have answered : ∀ value, (Except.ok result : Except DecisionSourceError (DecisionResult P)) =
        .ok value → some (.result (some result)) = some (Answer.result (some value)) := by
      rintro value same
      rw [Except.ok.inj same]
    split
    · exact .done fun s _ held => ⟨answered, held⟩
    · refine .bind (clockNow_past stable) fun now => ?_
      split
      · exact .done fun s _ held => ⟨nofun, held.1⟩
      · exact .done fun s _ held => ⟨answered, held.1⟩

theorem upgradeEntry_spec {answer : Option (Answer P)} :
    (discipline rt).Spec me (upgradeEntry fetch.entry) (Gate.Settles me fetch answer)
      fun alive s => s.Settles me fetch answer ∧ (alive = false → s.Parted fetch.generation) := by
  refine neutralAct (stable_settles answer) fun s choice alive after ok held ran => ?_
  split at ran
  · obtain ⟨rfl, rfl⟩ := Prod.mk.injEq .. ▸ Option.some.inj ran
    exact ⟨.refl ok, nofun⟩
  · split at ran
    · rename_i released
      obtain ⟨rfl, rfl⟩ := Prod.mk.injEq .. ▸ Option.some.inj ran
      obtain ⟨flight, flown, _, returned⟩ := held.1.1.flight
      refine ⟨.refl ok, fun _ => ⟨ok.vacated held.1.1.1 fun cell pending found inSlot same => ?_, flight,
        flown, by rw [returned]; rfl⟩⟩
      simp only [Bool.and_eq_true, List.all_eq_true, decide_eq_true_eq] at released
      rcases ok.map.placed _ cell found with ⟨slot, member, here⟩ | ⟨entry, member, here⟩ | dead
      · exact released.1 slot member here
      · exact released.2 entry member here
      · obtain ⟨flight', enqueuer, flown', claimed⟩ := dead.2 pending inSlot
        rw [same, flown] at flown'
        obtain rfl := Option.some.inj flown'
        rw [returned] at claimed
        cases claimed
    · cases ran

end PolicyGate
