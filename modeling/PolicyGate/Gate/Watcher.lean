import PolicyGate.Gate.Operations

namespace PolicyGate

open Interleaving

variable {T P : Type} [DecidableEq T] (rt : Runtime)

/-! `GateState::apply_change`, the session transitions, and the watcher's loop. -/

/-- The loop of `apply_change` under the map lock. -/
def publishChange (entry : Entry T) (decision : Decision) : Program (Gate T P) Unit := do
  .iterate () fun _ => do
    let current ← entry.load
    let publication ← decisionSnapshot .change
      { decision, payload := none, validUntil := none }
    let swapped ← entry.compareExchange current.value.state (entry.publishedSnapshot rt publication)
      (.published publication)
    if swapped.isOk then do
      entry.abortPending
      pure (.inr ())
    else pure (.inl ())

def applyChange (change : DecisionChange T) : Program (Gate T P) Unit := do
  let now ← clockNow
  match change.decision with
  | some decision => do
      Subjects.update rt change.subject now fun entry => publishChange rt entry decision
      republishIfDue rt
  | none => do
      let removed ← Subjects.remove rt change.subject now
      if removed then Subjects.setDirty true
      republishIfDue rt

def setPhase (phase : Phase) : Program (Gate T P) Unit :=
  .modify fun s => s.updateWatch fun watch => { watch with phase }

/-- `connected.send(value)`. -/
def sendConnected (s : Gate T P) (connected : Bool) : Gate T P :=
  s.updateWatch fun watch => { watch with connected, version := watch.version + 1 }

/-- ghost: nobody holds a copy of the map from before the latest clear that may still be stored. -/
def orderlyAt (s : Gate T P) : Bool :=
  s.copies.all fun copy => copy.generation = s.publish.generation → copy.era = s.watch.era

def watchConnected : Program (Gate T P) Unit := do
  publishEmpty (pure ())
  Subjects.clear
  .modify fun s => (sendConnected s true).updateWatch fun watch =>
    { watch with phase := .connected, reached := watch.opened, orderly := orderlyAt s }

def watchStable : Program (Gate T P) Unit :=
  .modify fun s => s.updateWatch fun watch => { watch with disconnectedSince := none }

def markDisconnected : Program (Gate T P) Unit :=
  .modify fun s => s.updateWatch fun watch =>
    { watch with disconnectedSince := some (watch.disconnectedSince.getD s.clock) }

def watchDisconnected : Program (Gate T P) Unit := do
  setPhase .disconnecting
  publishEmpty do
    .modify fun s => sendConnected s false
    markDisconnected
  Subjects.clear
  setPhase .idle

/-- The locals of one session are dropped: its stream and its in-flight refreshes. -/
def dropSession : Program (Gate T P) Unit :=
  .modify fun s =>
    { s with
      stream := none
      watch := { s.watch with inflight := [], applying := none, phase := .ended } }

/-- The drop of the whole watcher: its locals, the refresh queue, then the lease. -/
def dropWatcher : Program (Gate T P) Unit := do
  dropSession
  .modify fun s => { s with queue := [], queueClosed := true }
  watchDisconnected
  .modify fun s => s.updateWatch fun watch => { watch with closed := true }

/-- An await of the watcher, at which the watcher may be dropped. -/
def watcherAwait {β : Type} (action : Pick → Gate T P → Option (β × Gate T P)) :
    Program (Gate T P) β :=
  .wait action .done dropWatcher

inductive Opened where
  | stream
  | error
  | timedOut

/-- `D::timeout(admission_timeout, client.watch_subject_decisions())`. -/
def openWatch : Program (Gate T P) Opened := do
  let start ← clockNow
  watcherAwait fun pick s =>
    match pick.choice with
    | 0 =>
        match checkedAdd rt start rt.config.admissionTimeout with
        | some deadline => if deadline ≤ s.clock then some (.timedOut, s) else none
        | none => none
    | 1 => some (.error, s)
    | _ =>
        some (.stream, { s with
          stream := some []
          watch := { s.watch with phase := .opened, opened := s.watch.opened + 1 } })

inductive Work (T : Type) where
  | stable
  | refreshBatch
  | refreshDone
  | change (item : StreamItem T)

def isDone (s : Gate T P) (fetch : PendingFetch T P) : Bool :=
  match s.flights fetch.generation with
  | some flight => flight.outcome.isSome || flight.aborted
  | none => false

/-- The refreshes `recv_many` hands over start to be polled. -/
def fly (s : Gate T P) (batch : List (PendingFetch T P)) : Gate T P :=
  batch.foldl (fun s fetch => s.setStage fetch.generation .flying) s

/-- `recv_many` and the `extend` of the in-flight set with what it received. -/
def receiveBatch (s : Gate T P) : Gate T P :=
  let batch := s.queue.take rt.config.refreshQueueCapacity
  { fly s batch with
    queue := s.queue.drop rt.config.refreshQueueCapacity
    watch := { s.watch with inflight := s.watch.inflight ++ batch } }

/-- Takes one item from the stream; its effect, if it is a change, is due from here on. -/
def takeItem (s : Gate T P) (item : StreamItem T) (rest : List (StreamItem T)) : Gate T P :=
  { s with
    stream := some rest
    watch := { s.watch with applying := match item with
      | .change change => some change
      | _ => none } }

/-- The `select!` of the event loop.  `stableAt` is when the stability timer, if it has not
fired yet, is due. -/
def nextWork (stableAt : Option Nat) : Program (Gate T P) (Work T) :=
  watcherAwait fun pick s =>
    match pick.choice with
    | 0 =>
        match stableAt with
        | some due => if due ≤ s.clock then some (.stable, s) else none
        | none => none
    | 1 => if s.queue.isEmpty then none else some (.refreshBatch, receiveBatch rt s)
    | 2 =>
        match s.stream with
        | some (item :: rest) => some (.change item, takeItem s item rest)
        | _ => none
    | choice + 3 =>
        match s.watch.inflight[choice]? with
        | some fetch =>
            if isDone s fetch then
              some (.refreshDone, s.updateWatch fun watch =>
                { watch with inflight := watch.inflight.eraseIdx choice })
            else none
        | none => none

structure SessionState where
  reconnectDelay : Nat
  stableAt : Option Nat
  eventsSinceYield : Nat

def sessionRound (state : SessionState) : Program (Gate T P) (SessionState ⊕ Nat) := do
  match ← nextWork rt state.stableAt with
  | .stable => do
      watchStable
      pure (.inl { state with
        reconnectDelay := rt.config.initialReconnectDelay, stableAt := none })
  | .refreshBatch | .refreshDone => pure (.inl state)
  | .change .ended | .change (.error _) => pure (.inr state.reconnectDelay)
  | .change (.change change) => do
      applyChange rt change
      if state.eventsSinceYield + 1 = rt.config.watchEventsPerYield then do
        watcherAwait fun _ s => some ((), s)
        pure (.inl { state with eventsSinceYield := 0 })
      else pure (.inl { state with eventsSinceYield := state.eventsSinceYield + 1 })

def runSession (reconnectDelay : Nat) : Program (Gate T P) Nat := do
  watchConnected
  let now ← clockNow
  let delay ← .iterate
    { reconnectDelay, stableAt := checkedAdd rt now rt.config.maxReconnectDelay,
      eventsSinceYield := 0 } (sessionRound rt)
  dropSession
  pure delay

/-- `jitter` with the random draw `draw`, in whole milliseconds above one. -/
def jitter (delay draw : Nat) : Nat :=
  let millis := (toU64 (delay / 1000000)).getD u64Max
  let spread := millis / 2
  if spread = 0 then delay
  else Duration.ofMillis (millis - spread / 2 + draw % spread)

/-- `D::sleep(jitter(reconnect_delay))`; the draw is any 64-bit number. -/
def sleepReconnect (delay : Nat) : Program (Gate T P) Unit := do
  let draw ← .act fun pick s => some (pick.choice % 2 ^ 64, s)
  let now ← clockNow
  watcherAwait fun _ s =>
    match checkedAdd rt now (jitter delay draw) with
    | some wake => if wake ≤ s.clock then some ((), s) else none
    | none => none

def watchSource : Program (Gate T P) Unit :=
  .iterate rt.config.initialReconnectDelay fun reconnectDelay => do
    let opened ← openWatch rt
    let reconnectDelay ← match opened with
      | .stream => runSession rt reconnectDelay
      | .error | .timedOut => pure reconnectDelay
    watchDisconnected
    sleepReconnect rt reconnectDelay
    pure (.inl (min (reconnectDelay * 2) rt.config.maxReconnectDelay))

end PolicyGate
