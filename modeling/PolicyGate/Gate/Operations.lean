import PolicyGate.Gate.SubjectMap

namespace PolicyGate

open Interleaving

variable {T P : Type} [DecidableEq T] (rt : Runtime)

def isConnected : Program (Gate T P) Bool := .read fun s => some s.watch.connected

def checkedAdd (now duration : Nat) : Option Nat := Instant.checkedAdd rt.latest now duration

def lockPublish : Program (Gate T P) Unit :=
  .act fun pick s =>
    match s.publish.lock with
    | some _ => none
    | none => some ((), { s with publish := { s.publish with lock := some pick.thread } })

def unlockPublish : Program (Gate T P) Unit :=
  .modify fun s => { s with publish := { s.publish with lock := none } }

def publishEmpty (afterPublish : Program (Gate T P) Unit) : Program (Gate T P) Unit := do
  lockPublish
  .modify fun s =>
    { s with publish := { s.publish with generation := s.publish.generation + 1 } }
  .modify fun s => { s with snapshot := [] }
  afterPublish
  unlockPublish

/-- Claims the rebuild under the publish lock; answers the generation it may publish for. -/
def claimRepublish : Program (Gate T P) (Option Nat) := do
  lockPublish
  let now ← clockNow
  let nextAllowed ← .read fun s => some s.publish.nextAllowed
  if now < nextAllowed then do
    unlockPublish
    pure none
  else do
    .modify fun s =>
      { s with publish :=
        { s.publish with nextAllowed := now + rt.config.snapshotRepublishInterval } }
    let generation ← .act fun _ s =>
      some (s.publish.generation, { s with publish :=
        { s.publish with claims := now :: s.publish.claims } })
    unlockPublish
    pure (some generation)

def storeSnapshot (generation : Nat) (entries : List (T × Entry T)) : Program (Gate T P) Unit := do
  lockPublish
  let current ← .read fun s => some s.publish.generation
  if current = generation then do
    if ← isConnected then
      .modify fun s => { s with snapshot := entries }
  .act fun pick s =>
    some ((), { s with copies := s.copies.filter fun copy => copy.thread ≠ pick.thread })
  unlockPublish

def republishIfDue : Program (Gate T P) Unit := do
  let dirty ← .read fun s => some s.shapeDirty
  if dirty then do
    match ← claimRepublish rt with
    | none => pure ()
    | some generation => do
        Subjects.setDirty false
        let entries ← Subjects.copyEntries generation
        storeSnapshot generation entries

/-- The clock reading of `decision_snapshot` and, as a ghost, the session it falls into. -/
def decisionSnapshot (origin : Origin) (result : DecisionResult P) :
    Program (Gate T P) (Publication P) :=
  .read fun s =>
    some { origin, now := s.clock, checkedAt := s.clock, result, session := s.watch.opened }

def Entry.publishedSnapshot (entry : Entry T) (publication : Publication P) : EntrySnapshot P :=
  entry.decisionSnapshot rt.config publication.now publication.result

/-- `new_fetch_after`, which runs nothing of the lookup yet. -/
def newFetchAfter (entry : Entry T) (subject : T) (delay : Option Nat)
    (refreshFrom : Option (SnapshotArc P)) : Program (Gate T P) (PendingFetch T P) :=
  .act fun pick s =>
    let fetch : PendingFetch T P :=
      { generation := s.nextGeneration, entry, subject, delay, refreshFrom }
    some (fetch, { s with
      nextGeneration := s.nextGeneration + 1
      flights := Function.update s.flights s.nextGeneration (some { fetch, stage := .created pick.thread }) })

def transient (message : String) : DecisionSourceError := { kind := .transient, message }

def discard {α : Type} (result : Except DecisionSourceError α) : FetchResult := result.map fun _ => ()

/-- Checks the prepared snapshot once more, not just the source's earlier timestamp. -/
def checkPublication (entry : Entry T) (now : Nat)
    (result : Except DecisionSourceError (Publication P)) :
    Except DecisionSourceError (Publication P) :=
  match result with
  | .error error => .error error
  | .ok publication =>
      if entry.isExpiredAt (entry.publishedSnapshot rt publication).word now then
        .error (transient "decision expired before publication")
      else .ok { publication with checkedAt := now }

def EntryCell.slots (cell : EntryCell T P) (generation : Nat) : Bool :=
  cell.pending.any fun fetch => fetch.generation = generation

/-- The store of a cooldown; an invalidation may have emptied the slot since it was checked. -/
def EntryCell.cool (config : PolicyGateConfig) (entry : Entry T) (generation now : Nat)
    (cell : EntryCell T P) : EntryCell T P :=
  { cell with
    refreshNotBefore := entry.cooledTick config now
    log := .cooled generation (cell.slots generation) now :: cell.log }

def storeRefreshNotBefore (entry : Entry T) (generation : Nat) : Program (Gate T P) Unit := do
  let now ← clockNow
  .modify fun s => s.updateCell entry.id (EntryCell.cool rt.config entry generation now)

/-- The branch of `apply_fetch_result` for a refresh. -/
def applyRefreshResult (entry : Entry T) (generation : Nat) (now : Nat) (current : SnapshotArc P)
    (result : Except DecisionSourceError (Publication P)) : Program (Gate T P) FetchResult := do
  match result with
  | .ok publication =>
      if entry.isExpiredAt current.value.word now = false then do
        let _ ← entry.compareAndSwap current (entry.publishedSnapshot rt publication)
          (.published publication)
        pure ()
  | .error _ => storeRefreshNotBefore rt entry generation
  let _ ← entry.replacePending generation none
  pure (discard result)

/-- Removes the entry of a failed cold lookup, where its slot still holds that lookup. -/
def removeFailed (subject : T) (entry : Entry T) (generation : Nat) : Program (Gate T P) Unit := do
  let now ← clockNow
  let removed ← Subjects.removeIf rt subject now fun current =>
    if current.id = entry.id then do
      let pending ← current.pendingGeneration generation
      if pending.isNone then pure false
      else do
        let failed ← entry.compareExchange .pending .failed .failed
        pure failed.isOk
    else pure false
  if removed then Subjects.setDirty true
  republishIfDue rt

/-- The branch of `apply_fetch_result` for a cold lookup. -/
def applyColdResult (subject : T) (entry : Entry T) (generation : Nat)
    (result : Except DecisionSourceError (Publication P)) : Program (Gate T P) FetchResult :=
  match result with
  | .ok publication => do
      let swapped ← entry.compareExchange .pending (entry.publishedSnapshot rt publication)
        (.published publication)
      if swapped.isOk then do
        let _ ← entry.replacePending generation none
        pure ()
      pure (discard result)
  | .error error =>
      if error.isPermanentStatus then do
        let now ← clockNow
        if (← entry.stateAt .map now) = .pending then do
          let retry ← newFetchAfter entry subject (some rt.config.permanentFailureCooldown) none
          let _ ← entry.replacePending generation (some retry)
          pure ()
        pure (discard result)
      else do
        removeFailed rt subject entry generation
        pure (discard result)

def applyFetchResult (subject : T) (entry : Entry T) (generation : Nat)
    (refreshFrom : Option (SnapshotArc P))
    (result : Except DecisionSourceError (DecisionResult P)) : Program (Gate T P) FetchResult := do
  let pending ← entry.pendingGeneration generation
  if pending.isNone then pure (discard result)
  else do
    let origin := if refreshFrom.isSome then Origin.refresh generation else Origin.cold generation
    let prepared ← match result with
      | .ok value => do
          let publication ← decisionSnapshot origin value
          pure (.ok publication)
      | .error error => pure (.error error)
    let now ← clockNow
    let checked := checkPublication rt entry now prepared
    match refreshFrom with
    | some current => applyRefreshResult rt entry generation now current checked
    | none => applyColdResult rt subject entry generation checked

/-- A poll of a refresh begins: the watcher's task polls no other meanwhile. -/
def takeTurn (s : Gate T P) (pick : Pick) (refresh : Bool) : Option (Gate T P) :=
  if refresh then
    match s.refreshing with
    | some _ => none
    | none => some { s with refreshing := some pick.thread }
  else some s

def endTurn (s : Gate T P) (pick : Pick) : Gate T P :=
  if s.refreshing = some pick.thread then { s with refreshing := none } else s

/-- `Abortable` and `Shared`: the first poll finds the lookup not aborted. -/
def beginPoll (generation : Nat) : Program (Gate T P) (PendingFetch T P) :=
  .act fun pick s =>
    match s.flights generation with
    | some flight =>
        let pollable := (flight.stage = .placed && flight.joined) || flight.stage = .flying
        if pollable && !flight.aborted then
          (takeTurn s pick flight.fetch.refreshFrom.isSome).map fun s =>
            (flight.fetch, s.setStage generation (.polled pick.thread))
        else none
    | none => none

/-- A later poll runs on only where `Abortable` finds the lookup not aborted. -/
def resumed (s : Gate T P) (generation : Nat) : Bool :=
  match s.flights generation with
  | some flight => !flight.aborted
  | none => false

def slept (wake : Option Nat) (s : Gate T P) : Bool := wake.any fun wake => wake ≤ s.clock

/-- `D::sleep(delay)` inside the lookup. -/
def sleepDelay (generation delay : Nat) : Program (Gate T P) Unit := do
  let now ← clockNow
  let wake := checkedAdd rt now delay
  let elapsed ← .act fun pick s =>
    if slept wake s then some (true, s) else some (false, s.setStage generation (.asleep pick.thread))
  if elapsed then pure ()
  else
    .act fun pick s =>
      if slept wake s ∧ resumed s generation then some ((), s.setStage generation (.polled pick.thread))
      else none

/-- No `abort_pending` has taken the lookup out of its slot. -/
def untaken (s : Gate T P) (generation : Nat) : Bool :=
  match s.flights generation with
  | some flight => !flight.taken
  | none => false

def startCall (fetch : PendingFetch T P) : Program (Gate T P) Unit :=
  .act fun pick s =>
    some ((), (s.updateFlight fetch.generation fun flight =>
      { flight with stage := .calling pick.thread, begun := some s.watch.opened }).note fetch.entry.id
        (.started fetch.generation fetch.refreshFrom.isSome (untaken s fetch.generation) s.clock))

def markReturned (s : Gate T P) (pick : Pick) (fetch : PendingFetch T P) : Gate T P :=
  (s.setStage fetch.generation (.returned pick.thread)).note fetch.entry.id
    (.returned fetch.generation s.clock)

def answerOf (s : Gate T P) (generation : Nat) : Option (Answer P) :=
  (s.flights generation).bind Flight.answer

/-- `none` where the call timed out before the source was polled. -/
def skipCall (fetch : PendingFetch T P) : Program (Gate T P) (Option (Answer P)) :=
  .act fun pick s => some (none, markReturned s pick fetch)

/-- Waits for the source, at most until `deadline`; `none` where the call timed out. -/
def awaitSource (fetch : PendingFetch T P) (deadline : Option Nat) :
    Program (Gate T P) (Option (Answer P)) := do
  let ready ← .act fun pick s =>
    match answerOf s fetch.generation with
    | some answer => some (some answer, markReturned s pick fetch)
    | none => some (none, endTurn s pick)
  match ready with
  | some answer => pure (some answer)
  | none =>
      .act fun pick s =>
        if resumed s fetch.generation then
          (takeTurn s pick fetch.refreshFrom.isSome).bind fun s =>
            match pick.choice, deadline with
            | 0, some deadline =>
                if deadline ≤ s.clock then some (none, markReturned s pick fetch) else none
            | _, _ =>
                (answerOf s fetch.generation).map fun answer =>
                  (some answer, markReturned s pick fetch)
        else none

/-- The source call under `D::timeout(unary_timeout, ..)`. -/
def callSource (fetch : PendingFetch T P) : Program (Gate T P) (Option (Answer P)) := do
  let now ← clockNow
  match checkedAdd rt now rt.config.unaryTimeout with
  | none => do
      startCall fetch
      awaitSource fetch none
  | some deadline => do
      let now ← clockNow
      if deadline ≤ now then skipCall fetch
      else do
        startCall fetch
        awaitSource fetch (some deadline)

def lookupResult (answer : Option (Answer P)) :
    Program (Gate T P) (Except DecisionSourceError (DecisionResult P)) :=
  match answer with
  | none => pure (.error (transient "subject state lookup timed out"))
  | some .panicked => pure (.error (transient "decision source panicked"))
  | some (.error error) => pure (.error error)
  | some (.result none) =>
      pure (.error (transient "decision source holds no decision for the subject"))
  | some (.result (some result)) =>
      match result.validUntil with
      | none => pure (.ok result)
      | some deadline => do
          let now ← clockNow
          if deadline ≤ now then
            pure (.error (transient "decision source returned an expired decision"))
          else pure (.ok result)

/-- Whether `Weak::upgrade` succeeds.  It may fail only where nothing holds the entry; the map
and the critical section that removes an entry do. -/
def upgradeEntry (entry : Entry T) : Program (Gate T P) Bool :=
  .act fun pick s =>
    if pick.choice = 0 then some (true, s)
    else if s.subjects.cache.entries.all (fun slot => slot.2.entry.id ≠ entry.id) &&
        s.subjects.limbo.all (fun removed => removed.id ≠ entry.id) then some (false, s)
    else none

def finishFetch (generation : Nat) (result : FetchResult) : Program (Gate T P) Unit :=
  .act fun pick s =>
    some ((), (endTurn s pick).updateFlight generation fun flight =>
      { flight with stage := .finished, outcome := some result })

/-- The future of a lookup, run by whoever polls it. -/
def runFetch (generation : Nat) : Program (Gate T P) Unit := do
  let fetch ← beginPoll generation
  match fetch.delay with
  | none => pure ()
  | some delay => sleepDelay rt generation delay
  let answer ← callSource rt fetch
  let result ← lookupResult answer
  let alive ← upgradeEntry fetch.entry
  let result ←
    if alive then applyFetchResult rt fetch.subject fetch.entry generation fetch.refreshFrom result
    else pure (discard result)
  finishFetch generation result

/-- Puts the refresh into an empty slot.  The slot's holder is the calling thread from here on. -/
def claimPending (entry : Entry T) (refresh : PendingFetch T P) : Program (Gate T P) Bool :=
  .act fun pick s => (s.cells entry.id).map fun cell =>
    match cell.pending with
    | some _ => (false, s)
    | none =>
        (true, (s.updateCell entry.id fun cell => { cell with pending := some refresh }).setStage
          refresh.generation (.claimed pick.thread))

def revalidate (entry : Entry T) (refresh : PendingFetch T P) (current : SnapshotArc P) :
    Program (Gate T P) Bool :=
  .act fun pick s => (s.load entry).map fun latest =>
    if latest.address = current.address then
      (true, s.setStage refresh.generation (.validated pick.thread))
    else (false, s)

/-- The drop of a `PendingEnqueueGuard` that was not marked as queued. -/
def releaseClaim (entry : Entry T) (generation : Nat) : Program (Gate T P) Unit := do
  let _ ← entry.replacePending generation none
  pure ()

/-- `D::timeout_at(queue_deadline, self.refresh_tx.send(..))`; dropping it releases the claim. -/
def sendRefresh (entry : Entry T) (refresh : PendingFetch T P) (deadline : Nat) :
    Program (Gate T P) Bool := do
  let now ← clockNow
  if deadline ≤ now then pure false
  else
    .wait
      (fun pick s =>
        match pick.choice with
        | 0 => if deadline ≤ s.clock then some (false, s) else none
        | 1 => if s.queueClosed then some (false, s) else none
        | _ =>
            if s.queueClosed = false ∧ s.queue.length < rt.config.refreshQueueCapacity then
              some (true, { s.setStage refresh.generation .queued with queue := s.queue ++ [refresh] })
            else none)
      .done (releaseClaim entry refresh.generation)

/-- The deadline for handing a refresh over, if one can be represented. -/
def queueDeadline (accessTime : Nat) (admissionDeadline : Option Nat) : Option Nat :=
  match checkedAdd rt accessTime rt.config.refreshEnqueueTimeout with
  | some deadline => some ((admissionDeadline.map (min deadline)).getD deadline)
  | none => admissionDeadline

def enqueueRefresh (reader : Reader T) (entry : Entry T) (refresh : PendingFetch T P)
    (current : SnapshotArc P) (deadline : Nat) : Program (Gate T P) (Option (Entry T)) := do
  let unchanged ← revalidate entry refresh current
  let eligible ←
    if unchanged then do
      let now ← clockNow
      entry.refreshEligibleAt current.value now
    else pure false
  if eligible then do
    let queued ← sendRefresh rt entry refresh deadline
    let admission ← entry.admission reader
    if !queued then releaseClaim entry refresh.generation
    pure admission
  else do
    let admission ← entry.admission reader
    releaseClaim entry refresh.generation
    pure admission

def admissionOnAccess (reader : Reader T) (subject : T) (entry : Entry T)
    (admissionDeadline : Option Nat) : Program (Gate T P) (Option (Entry T)) := do
  match ← entry.admission reader with
  | none => pure none
  | some admission =>
      if rt.config.refreshBeforeExpiry = 0 then pure (some admission)
      else do
        let current ← entry.load
        let accessTime ← clockNow
        if ← entry.refreshDueAt current.value accessTime then
          match queueDeadline rt accessTime admissionDeadline with
          | none => pure (some admission)
          | some deadline => do
              let refresh ← newFetchAfter entry subject none (some current)
              if ← claimPending entry refresh then
                enqueueRefresh rt reader entry refresh current deadline
              else pure (some admission)
        else pure (some admission)

/-- `snapshot.get(subject)`, on the published snapshot. -/
def Gate.snapshotEntry (s : Gate T P) (subject : T) : Option (Entry T) :=
  (s.snapshot.find? fun slot => slot.1 = subject).map Prod.snd

def snapshotGet (subject : T) : Program (Gate T P) (Option (Entry T)) :=
  .read fun s => some (s.snapshotEntry subject)

/-- `GateState::check`, the body of `try_cached`. -/
def check (subject : T) : Program (Gate T P) (Option (Entry T)) := do
  match ← snapshotGet subject with
  | none => pure none
  | some entry =>
      let now ← clockNow
      match ← entry.verdictAt (.cached subject) now with
      | none => pure none
      | some _ => do
          let now ← clockNow
          let _ ← Subjects.touch rt subject entry now
          admissionOnAccess rt (.cached subject) subject entry none

/-- The part of `check_without_refresh` that follows the load of the snapshot. -/
def admitCached (subject : T) (loaded : Option (Entry T)) : Program (Gate T P) (Option (Entry T)) := do
  match loaded with
  | none => pure none
  | some entry =>
      let now ← clockNow
      match ← entry.verdictAt (.cached subject) now with
      | none => pure none
      | some _ => do
          let now ← clockNow
          let _ ← Subjects.touch rt subject entry now
          entry.admission (.cached subject)

def checkWithoutRefresh (subject : T) : Program (Gate T P) (Option (Entry T)) := do
  let loaded ← snapshotGet subject
  admitCached rt subject loaded

def refreshEntry (subject : T) (entry : Entry T) : Program (Gate T P) Unit := do
  let now ← clockNow
  if ← Subjects.touch rt subject entry now then
    let _ ← admissionOnAccess rt .admission subject entry none
    pure ()

end PolicyGate
