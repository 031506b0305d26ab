import PolicyGate.Gate.Rounds

namespace PolicyGate

open Interleaving Program

variable {T P : Type} [DecidableEq T] {rt : Runtime} {me you : Nat} {subject : T}
  {start s after : Gate T P} {cell : EntryCell T P} {flight : Flight T P} {result : DecisionResult P}
  {late : Gate T P → Gate T P → Prop} {deadline : Nat} {state : AdmitState}

structure Expelled (start : Gate T P) (entry : Entry T) (generation : Nat) (s : Gate T P) : Prop where
  clock : s.clock = start.clock
  watch : s.watch = start.watch
  unlocked : s.Unlocked
  flown : ∃ flight, s.flights generation = some flight
  stale : ∃ cell, s.cells entry.id = some cell ∧ cell.entry = entry ∧
    cell.current.value = EntrySnapshot.failed.stale

omit [DecidableEq T] in
theorem Gate.Shapes.expelled {entry : Entry T} {generation : Nat} (shapes : Gate.Shapes s after)
    (unlocked : after.Unlocked) (expelled : Expelled start entry generation s) :
    Expelled start entry generation after := by
  have frame := shapes.frame
  refine ⟨?_, ?_, unlocked, ?_, ?_⟩
  · rw [frame]
    exact expelled.clock
  · rw [frame]
    exact expelled.watch
  · rw [frame]
    exact expelled.flown
  · rw [frame]
    exact expelled.stale

omit [DecidableEq T] in
theorem Expelled.endTurn {entry : Entry T} {generation : Nat} (expelled : Expelled start entry generation s)
    (pick : Pick) : Expelled start entry generation (PolicyGate.endTurn s pick) := by
  unfold PolicyGate.endTurn
  split
  · exact { expelled with unlocked := ⟨expelled.unlocked.published, expelled.unlocked.free⟩ }
  · exact expelled

theorem removeFailed_ends {fetch : PendingFetch T P}
    (rests : s.Rests rt subject start cell flight) (same : flight.fetch = fetch)
    (pending : cell.pending = some fetch) (undecided : cell.state = .pending) :
    (removeFailed rt subject cell.entry fetch.generation : Program (Gate T P) _).Ends me
      (fun _ after => Expelled start cell.entry fetch.generation after) s := by
  set locked := s.updateSubjects fun map => { map with lock := some me }
  have hosts : locked.Hosts rt subject start cell flight := rests.toHosts.relock _ _
  refine .bind (.read start.clock (by rw [rests.clock]) (.bind (.bind (.always () locked (fun choice => by rw [rests.free])
    (.bind ((Subjects.evict_hosted hosts).mono fun _ swept hosts => ?_))))))
  obtain ⟨slot, member, here, _⟩ := hosts.slot
  obtain ⟨log, found⟩ := hosts.found
  refine .bind (.read (some cell.entry) ?_ ?_)
  · rw [swept.subjects.cache.peek_eq_some_iff.mpr member, Option.map_some, here]
  have failedCell := Gate.updateCell_at found fun cell => cell.replace .failed .failed
  set failed := swept.updateCell cell.entry.id fun cell => cell.replace .failed .failed
  have foundAgain : failed.cells cell.entry.id =
      some ({ cell with log := log }.replace .failed .failed) := failedCell
  have subjects : failed.subjects = swept.subjects := rfl
  have predicate : (if cell.entry.id = cell.entry.id then do
        let pending ← cell.entry.pendingGeneration fetch.generation
        if pending.isNone then pure false
        else do
          let failed ← cell.entry.compareExchange .pending .failed .failed
          pure failed.isOk
      else pure false : Program (Gate T P) Bool).Ends me
        (fun holds after => holds = true ∧ after = failed) swept := by
    rw [if_pos rfl]
    refine Settles.ends (.bind (Entry.pendingGeneration_settles (fun _ => id) found pending ?_))
    rw [if_neg (by simp)]
    exact .bind (Entry.compareExchange_settles (fun _ => id) found undecided (.done ⟨rfl, rfl⟩))
  refine .bind (predicate.mono fun holds after held => ?_)
  obtain ⟨rfl, rfl⟩ := held
  beta_reduce
  rw [if_pos rfl]
  set popped := failed.updateSubjects fun map =>
    map.remove (swept.subjects.cache.without subject) cell.entry
  have foundPopped : popped.cells cell.entry.id =
      some ({ cell with log := log }.replace .failed .failed) := foundAgain
  have out : (fun id => id = cell.entry.id) cell.entry.id := rfl
  have invalidates : (cell.entry.invalidate : Program (Gate T P) _).Ends me (fun _ after =>
      Gate.Invalidates (fun id => id = cell.entry.id) cell.entry
        ({ cell with log := log }.replace .failed .failed) popped after) popped :=
    Entry.invalidate_ends out foundPopped
  refine .bind (.always (some cell.entry) popped (fun choice => ?_)
    (.bind (invalidates.mono fun _ after held => .bind (.modify (.done (.bind (.modify ?_)))))))
  · have seen : failed.subjects.cache.pop subject =
        some (slot, swept.subjects.cache.without subject) := by
      rw [subjects, Data.Lru.pop, swept.subjects.cache.peek_eq_some_iff.mpr member, Option.map_some]
    rw [if_neg Bool.false_ne_true]
    dsimp only
    rw [seen]
    exact congrArg (fun entry => some (some entry, failed.updateSubjects fun map =>
      map.remove (swept.subjects.cache.without subject) entry)) here
  · have frame := held.sweeps.frame
    obtain ⟨cell', foundStale, home, value, _⟩ := held.stale
    have expelled : Expelled start cell.entry fetch.generation
        { after.updateSubjects SubjectMap.unlocked with shapeDirty := true } := by
      refine ⟨?_, ?_, ⟨?_, rfl⟩, ?_, cell', foundStale, home, value⟩
      · change after.clock = start.clock
        rw [frame]
        exact hosts.clock
      · change after.watch = start.watch
        rw [frame]
        exact hosts.watch
      · change after.publish.lock = none
        rw [frame]
        exact hosts.published
      · exact held.sweeps.flown _ flight (same ▸ hosts.flown)
    exact (republishIfDue_shapes expelled.unlocked).mono fun _ _ held =>
      held.1.expelled held.2 expelled

/-- The lookup has ended without a decision, and its entry is out of the map. -/
structure Lapsed (start : Gate T P) (entry : Entry T) (generation : Nat) (s : Gate T P) : Prop extends
    Expelled start entry generation s where
  finished : ∃ flight error, s.flights generation = some flight ∧ flight.stage = .finished ∧
    flight.outcome = some (.error error) ∧ error.isPermanentStatus = false

theorem runFetch_lapses (you : Nat) (rests : s.Rests rt subject start cell flight)
    (joined : Joined subject cell flight) (stage : flight.stage = .placed) (polled : flight.joined = true)
    (none_ : rt.config.unaryTimeout = 0) (timely : start.clock ≤ rt.latest) :
    (runFetch rt flight.fetch.generation : Program (Gate T P) _).Ends you
      (fun _ after => Lapsed start cell.entry flight.fetch.generation after) s := by
  have begun := rests.setStage (.polled you)
  refine .bind (.always flight.fetch (s.setStage flight.fetch.generation (.polled you))
    (fun choice => ?_) ?_)
  · simp [rests.flown, stage, polled, joined.sound.1, joined.cold, takeTurn]
  rw [joined.prompt]
  set polling := s.setStage flight.fetch.generation (.polled you)
  have deadline : checkedAdd rt polling.clock rt.config.unaryTimeout = some polling.clock := by
    rw [checkedAdd, Instant.checkedAdd, none_, begun.clock, Nat.add_zero, if_pos timely]
  have returned := returned_hosted begun joined.entry ⟨you, 0⟩
  have skipped : (callSource rt flight.fetch : Program (Gate T P) _).Ends you (fun answer after =>
      answer = none ∧ after = markReturned polling ⟨you, 0⟩ flight.fetch) polling := by
    refine .bind (.read polling.clock rfl ?_)
    rw [deadline]
    refine .bind (.read polling.clock rfl ?_)
    rw [if_pos le_rfl]
    exact .always none (markReturned polling ⟨you, 0⟩ flight.fetch) (fun choice => rfl) ⟨rfl, rfl⟩
  refine .bind (skipped.mono fun answer after held => ?_)
  obtain ⟨rfl, rfl⟩ := held
  set called := markReturned polling ⟨you, 0⟩ flight.fetch
  obtain ⟨log, found⟩ := returned.found
  have held : ∃ slot ∈ called.subjects.cache.entries, slot.2.entry.id = flight.fetch.entry.id := by
    obtain ⟨slot, member, here, _⟩ := returned.slot
    exact ⟨_, member, joined.entry ▸ congrArg Entry.id here⟩
  have upgraded : (upgradeEntry flight.fetch.entry : Program (Gate T P) _).Ends you
      (fun alive after => alive = true ∧ after = called) called :=
    Settles.ends (upgradeEntry_settles (fun _ => id) held ⟨rfl, rfl⟩)
  refine .bind (.done (.bind (upgraded.mono fun alive after held => ?_)))
  obtain ⟨rfl, rfl⟩ := held
  rw [if_pos rfl, joined.cold, joined.subject, joined.entry]
  have applied : (applyFetchResult rt subject cell.entry flight.fetch.generation none
      (.error (transient "subject state lookup timed out")) : Program (Gate T P) _).Ends you
        (fun outcome after => outcome = .error (transient "subject state lookup timed out") ∧
          Expelled start cell.entry flight.fetch.generation after) called := by
    refine .bind (Settles.ends (Entry.pendingGeneration_settles (fun _ => id) found joined.pending ?_))
    refine .bind (.done (.bind (.read called.clock rfl (.bind ((removeFailed_ends returned rfl
      joined.pending joined.undecided).mono fun _ after expelled => .done ⟨rfl, expelled⟩)))))
  refine .bind (applied.mono fun outcome after held => ?_)
  obtain ⟨rfl, expelled⟩ := held
  have ended := expelled.endTurn ⟨you, 0⟩
  obtain ⟨flight', flown⟩ := ended.flown
  refine .always () ((endTurn after ⟨you, 0⟩).updateFlight flight.fetch.generation fun flight =>
    { flight with stage := .finished,
                  outcome := some (.error (transient "subject state lookup timed out")) })
    (fun choice => rfl) ?_
  have flownAfter := Gate.updateFlight_at flown fun flight =>
    { flight with stage := .finished,
                  outcome := some (.error (transient "subject state lookup timed out")) }
  exact { clock := ended.clock, watch := ended.watch, unlocked := ⟨ended.unlocked.published, ended.unlocked.free⟩,
          flown := ⟨_, flownAfter⟩, stale := ended.stale,
          finished := ⟨_, _, flownAfter, rfl, rfl, rfl⟩ }

theorem sleepUntilRetry_stuck {entry : Entry T} {generation : Nat} {β γ : Type}
    {f : Bool → Program (Gate T P) β} {rest : β → Program (Gate T P) γ} {Q : γ → Gate T P → Prop}
    (lapsed : Lapsed start entry generation s) (ahead : start.clock < deadline)
    {delay : Nat} (pause : 0 < delay) :
    ¬ ((sleepUntilRetry rt deadline delay >>= f).bind rest).Settles Unaided
      (Polls rt generation result you) me Q s := by
  intro settles
  change (((sleepUntilRetry rt deadline delay).bind f).bind rest).Settles _ _ _ _ _ at settles
  rw [bind_bind] at settles
  obtain ⟨flight, _, flown, finished, _⟩ := lapsed.finished
  have slept := (settles.within (.read rfl)).within (.read rfl)
  have early : ¬ deadline ≤ s.clock := by
    rw [lapsed.clock]
    omega
  rw [if_neg early] at slept
  cases slept with
  | wait live _ _ =>
      rcases live with ⟨choice, enabled⟩ | ⟨served, polled⟩
      · match choice with
        | 0 => simp [early] at enabled
        | n + 1 =>
            unfold checkedAdd Instant.checkedAdd at enabled
            split at enabled
            · rename_i wake fits
              have later : ¬ wake ≤ s.clock := by
                split at fits
                · cases fits
                  omega
                · cases fits
              simp [later] at enabled
            · simp at enabled
      · exact not_polls flown finished served polled

omit [DecidableEq T] in
theorem Lapsed.of_bare {entry : Entry T} {generation : Nat} (lapsed : Lapsed start entry generation s)
    (same : after.bare = s.bare) : Lapsed start entry generation after := by
  have frame := Gate.frame_of_bare same
  obtain ⟨cell, found, home, value⟩ := lapsed.stale
  obtain ⟨log, found'⟩ := Gate.cell_of_bare same found
  refine { clock := ?_, watch := ?_, unlocked := ⟨?_, ?_⟩, flown := ?_, finished := ?_,
           stale := ⟨_, found', home, value⟩ }
  · rw [frame]
    exact lapsed.clock
  · rw [frame]
    exact lapsed.watch
  · rw [frame]
    exact lapsed.unlocked.published
  · rw [frame]
    exact lapsed.unlocked.free
  · rw [frame]
    exact lapsed.flown
  · rw [frame]
    exact lapsed.finished

omit [DecidableEq T] in
theorem stateAt_lapsed {entry : Entry T} {generation : Nat} (reader : Reader T) (now : Nat)
    (lapsed : Lapsed start entry generation s) :
    (entry.stateAt reader now : Program (Gate T P) _).Ends me
      (fun seen after => seen = .stale ∧ Lapsed start entry generation after) s := by
  obtain ⟨cell, found, home, value⟩ := lapsed.stale
  have live : cell.entry.isExpiredAt cell.current.value.word now = false := by
    have endless : deadlineBits cell.current.value.word = noExpiry := by
      rw [value]
      exact (EntrySnapshot.stale_deadline EntrySnapshot.failed_fits).trans EntrySnapshot.failed_deadline
    rw [Entry.isExpiredAt, endless]
    rfl
  have kept : s.updateCell entry.id (EntryCell.settle now) = s :=
    Gate.updateCell_of_eq fun cell' found' => by
      obtain rfl := Option.some.inj (found.symm.trans found')
      exact EntryCell.settle_of_unexpired live
  refine .bind ((Entry.currentAt_ends reader found home).mono fun seen after held => ?_)
  obtain ⟨rfl, same⟩ := held
  rw [kept] at same
  refine .done ⟨?_, lapsed.of_bare same⟩
  rw [EntryCell.settle_of_unexpired live, ← home, live, value]
  exact EntrySnapshot.stale_state EntrySnapshot.failed_fits

theorem awaitFetch_lapses {fetch : PendingFetch T P} {seen : Nat}
    (awaits : Awaits rt subject start cell fetch s) (none_ : rt.config.unaryTimeout = 0)
    (timely : start.clock ≤ rt.latest) (ahead : start.clock < deadline) :
    ∃ error after, (awaitFetch deadline seen fetch.generation : Program (Gate T P) _).Served Unaided
      (Polls rt fetch.generation result you) me s (.result (.error error)) after ∧
        error.isPermanentStatus = false ∧ Lapsed start cell.entry fetch.generation after := by
  obtain ⟨flight, rfl, stage, joined, rests⟩ := awaits
  have joins : Joined subject cell { flight with joined := true } :=
    ⟨joined.pending, joined.undecided, joined.entry, joined.subject, joined.prompt, joined.cold, joined.sound⟩
  have rests' := rests.updateFlight (fun flight => { flight with joined := true }) rfl
  obtain ⟨_, served, polled, lapsed⟩ :=
    (runFetch_lapses you rests' joins stage rfl none_ timely).exists_solo
  obtain ⟨flight', error, flown, finished, outcome, passing⟩ := lapsed.finished
  refine ⟨error, served, ?_, passing, lapsed⟩
  refine .bind (.read rfl) ?_
  rw [if_neg (rests.clock ▸ Nat.not_le_of_lt ahead)]
  refine .bind (.act 0 rfl) (.meanwhile polled.served (.await 1 ?_))
  simp [flown, outcome]

theorem admitEntry_starves {fetch : PendingFetch T P} {γ : Type}
    {rest : AdmitRound T → Program (Gate T P) γ} {Q : γ → Gate T P → Prop}
    (awaits : Awaits rt subject start cell fetch s) (idle : cell.current.value = .pending)
    (connected : start.watch.connected = true) (none_ : rt.config.unaryTimeout = 0)
    (timely : start.clock ≤ rt.latest) (ahead : start.clock < deadline) (pause : 0 < state.retryDelay) :
    ¬ ((admitEntry rt subject cell.entry deadline state : Program (Gate T P) _).bind rest).Settles
      Unaided (Polls rt fetch.generation result you) me Q s := by
  intro settles
  obtain ⟨flight, rfl, stage, joined, rests⟩ := awaits
  have ready : s.clock = start.clock := rests.clock
  obtain ⟨seen, _, ⟨rfl, rests⟩, decided⟩ := (settles.within (.read (congrArg some ready))).through
    (Entry.stateAt_hosted .map rests (Joined.live idle))
  rw [joined.undecided] at decided
  obtain ⟨joinable, _, ⟨rfl, rests⟩, joining⟩ := decided.through (joinableFetch_settles joined idle rests)
  obtain ⟨error, lapsed, awaited, passing, ended⟩ := awaitFetch_lapses ⟨flight, rfl, stage, joined, rests⟩
    none_ timely ahead
  have looked := joining.within awaited
  have online : lapsed.watch.connected = true := by
    rw [ended.watch]
    exact connected
  have told := looked.within (.read rfl)
  rw [online, if_pos rfl] at told
  have clocked := told.within (.read rfl)
  obtain ⟨seen, after, ⟨rfl, lapses⟩, failed⟩ := clocked.through
    ((stateAt_lapsed .map lapsed.clock ended).settles unaided (Entry.stateAt_waitless _ _ _))
  simp only [passing] at failed
  rw [if_neg Bool.false_ne_true] at failed
  exact sleepUntilRetry_stuck lapses ahead pause failed

/-- With no time for the source's answer, a call for a subject that is not cached does not end while
the clock stands still. -/
theorem admitSubject_starves {Q : Option (Entry T) → Gate T P → Prop} (fresh : Subjects.Fresh start)
    (unlocked : start.Unlocked) (uncached : start.subjects.cache.peek subject = none)
    (connected : start.watch.connected = true) (none_ : rt.config.unaryTimeout = 0)
    (patient : 0 < rt.config.admissionTimeout) (pause : 0 < rt.config.initialAdmissionRetryDelay)
    (timely : start.clock + rt.config.admissionTimeout ≤ rt.latest) :
    ¬ (admitSubject rt subject : Program (Gate T P) _).Settles Unaided
      (Polls rt start.nextGeneration result you) me Q start := by
  intro settles
  have fits : checkedAdd rt start.clock rt.config.admissionTimeout =
      some (start.clock + rt.config.admissionTimeout) := by
    rw [checkedAdd, Instant.checkedAdd, if_pos timely]
  have ahead : start.clock < start.clock + rt.config.admissionTimeout := by omega
  have soon : start.clock ≤ rt.latest := by omega
  have calls := Settles.rest settles (.read rfl)
  rw [fits] at calls
  cases calls with
  | loop round =>
      have waited : (awaitConnected (start.clock + rt.config.admissionTimeout) 0 :
          Program (Gate T P) _).Settles Unaided (Polls rt start.nextGeneration result you) me
            (fun connection after => connection = .connected 0 ∧ after = start) start :=
        awaitConnected_settles connected ahead ⟨rfl, rfl⟩
      obtain ⟨_, waitedFor, ⟨rfl, same⟩, joins⟩ := Settles.through round waited
      rw [same] at joins
      obtain ⟨_, made, ⟨rfl, rests⟩, inserts⟩ := (joins.within (.read rfl)).through
        ((Subjects.getOrInsertWith_uncached fresh unlocked.free unlocked.published uncached).settles
          unaided (Subjects.getOrInsertWith_waitless _ _))
      dsimp only at inserts
      rw [if_pos rfl] at inserts
      have dirtied : ({ made with shapeDirty := true } : Gate T P).Rests rt subject start
          (Subjects.createdCell rt start subject start.clock)
          (Subjects.createdFlight rt start subject start.clock) :=
        Gate.Shapes.rests ⟨rfl⟩ ⟨rests.published, rests.free⟩ rests
      obtain ⟨_, shaped, rests, published⟩ := (inserts.within (.act 0 rfl)).through
        ((republishIfDue_hosted dirtied).settles unaided republishIfDue_waitless)
      have early : ¬ start.clock + rt.config.admissionTimeout ≤ shaped.clock := by
        rw [rests.clock]
        omega
      have online : shaped.watch.connected = true := by
        rw [rests.watch]
        exact connected
      have timed := published.within (.read rfl)
      rw [if_neg early] at timed
      have enters := timed.within (.read rfl)
      rw [online, if_pos rfl] at enters
      have awaits := awaits_of_created rests
      exact admitEntry_starves awaits rfl connected none_ soon ahead pause enters

end PolicyGate
