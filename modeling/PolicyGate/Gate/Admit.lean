import PolicyGate.Gate.Operations

namespace PolicyGate

open Interleaving

variable {T P : Type} [DecidableEq T] (rt : Runtime)

/-- What the wait for the watch comes to.  `seen` is the version of the connectivity channel
this call's receiver has seen. -/
inductive Connection where
  | connected (seen : Nat)
  | closed
  | timedOut

/-- `D::timeout_at(deadline, connected_or_closed)`. -/
def awaitConnected (deadline seen : Nat) : Program (Gate T P) Connection := do
  let now ← clockNow
  if deadline ≤ now then pure .timedOut
  else
    .iterate seen fun seen => do
      if ← isConnected then pure (.inr (.connected seen))
      else
        .await fun pick s =>
          match pick.choice with
          | 0 => if deadline ≤ s.clock then some (.inr .timedOut, s) else none
          | _ =>
              if s.watch.version ≠ seen then some (.inl s.watch.version, s)
              else if s.watch.closed then some (.inr .closed, s)
              else none

inductive Lookup where
  | result (result : FetchResult)
  | aborted
  | connectionChanged (seen : Nat)
  | timedOut

/-- The first poll of the shared future. -/
def joinFetch (generation : Nat) : Program (Gate T P) Unit :=
  .modify fun s => s.updateFlight generation fun flight => { flight with joined := true }

/-- `D::timeout_at(deadline, select! { fetch, connected.changed() })`. -/
def awaitFetch (deadline seen generation : Nat) : Program (Gate T P) Lookup := do
  let now ← clockNow
  if deadline ≤ now then pure .timedOut
  else do
    joinFetch generation
    .await fun pick s =>
      match pick.choice, s.flights generation with
      | 0, _ => if deadline ≤ s.clock then some (.timedOut, s) else none
      | 1, some flight =>
          match flight.outcome with
          | some result => some (.result result, s)
          | none => if flight.aborted then some (.aborted, s) else none
      | _, _ =>
          if s.watch.version ≠ seen then some (.connectionChanged s.watch.version, s)
          else if s.watch.closed then some (.connectionChanged seen, s)
          else none

/-- `D::timeout_at(deadline, D::sleep(delay))`; answers whether the sleep ended first. -/
def sleepUntilRetry (deadline delay : Nat) : Program (Gate T P) Bool := do
  let start ← clockNow
  let now ← clockNow
  if deadline ≤ now then pure false
  else
    .await fun pick s =>
      match pick.choice with
      | 0 => if deadline ≤ s.clock then some (false, s) else none
      | _ =>
          match checkedAdd rt start delay with
          | some wake => if wake ≤ s.clock then some (true, s) else none
          | none => none

/-- What one call carries from one round of the loop to the next. -/
structure AdmitState where
  retryDelay : Nat
  seen : Nat

/-- How a round of the loop ends: another round, or the call's answer. -/
abbrev AdmitRound (T : Type) := AdmitState ⊕ Option (Entry T)

/-- The lookup an admission may join, where the entry is still `Pending` under it. -/
def joinableFetch (entry : Entry T) : Program (Gate T P) (Option (PendingFetch T P)) := do
  match ← entry.pendingOperation with
  | none => pure none
  | some fetch =>
      let now ← clockNow
      let state ← entry.stateAt .map now
      if state = .pending then do
        let current ← entry.pendingIs fetch
        pure (if current then some fetch else none)
      else pure none

def admitAfterLookup (subject : T) (entry : Entry T) (deadline : Nat) (state : AdmitState)
    (result : FetchResult) : Program (Gate T P) (AdmitRound T) := do
  if ← isConnected then do
    let now ← clockNow
    let entryState ← entry.stateAt .map now
    match entryState with
    | .allowed | .denied => do
        match ← admissionOnAccess rt .admission subject entry (some deadline) with
        | some admission => pure (.inr (some admission))
        | none => pure (.inl state)
    | .pending | .stale =>
        match result with
        | .ok _ => pure (.inl state)
        | .error error =>
            if error.isPermanentStatus then pure (.inr none)
            else do
              let slept ← sleepUntilRetry rt deadline state.retryDelay
              if slept then
                pure (.inl { state with
                  retryDelay := min (state.retryDelay * 2) rt.config.maxAdmissionRetryDelay })
              else pure (.inr none)
  else pure (.inl state)

/-- The part of a round that joins the lookup of a `Pending` entry. -/
def admitPending (subject : T) (entry : Entry T) (deadline : Nat) (state : AdmitState) :
    Program (Gate T P) (AdmitRound T) := do
  match ← joinableFetch entry with
  | none => pure (.inl state)
  | some fetch => do
      match ← awaitFetch deadline state.seen fetch.generation with
      | .aborted => pure (.inl state)
      | .connectionChanged seen => pure (.inl { state with seen })
      | .timedOut => do
          let admission ← admissionOnAccess rt .admission subject entry (some deadline)
          pure (.inr admission)
      | .result result => admitAfterLookup rt subject entry deadline state result

/-- The part of a round that removes an entry found `Stale`. -/
def admitStale (subject : T) (entry : Entry T) (state : AdmitState) :
    Program (Gate T P) (AdmitRound T) := do
  let now ← clockNow
  let removed ← Subjects.removeIf rt subject now fun current =>
    if current.id = entry.id then do
      let now ← clockNow
      let latest ← current.stateAt .map now
      pure (latest = .stale : Bool)
    else pure false
  if removed then Subjects.setDirty true
  republishIfDue rt
  pure (.inl state)

/-- The part of a round after the connectivity check that follows the insertion. -/
def admitEntry (subject : T) (entry : Entry T) (deadline : Nat) (state : AdmitState) :
    Program (Gate T P) (AdmitRound T) := do
  let now ← clockNow
  let entryState ← entry.stateAt .map now
  match entryState with
  | .allowed | .denied => do
      match ← admissionOnAccess rt .admission subject entry (some deadline) with
      | some admission => pure (.inr (some admission))
      | none => pure (.inl state)
  | .pending => admitPending rt subject entry deadline state
  | .stale => admitStale rt subject entry state

def admitRound (subject : T) (deadline : Nat) (state : AdmitState) :
    Program (Gate T P) (AdmitRound T) := do
  match ← awaitConnected deadline state.seen with
  | .timedOut | .closed => pure (.inr none)
  | .connected seen => do
      let state := { state with seen }
      let now ← clockNow
      let (entry, inserted) ← Subjects.getOrInsertWith rt subject now
      if inserted then Subjects.setDirty true
      else do
        if (← snapshotGet subject).isNone then Subjects.setDirty true
      republishIfDue rt
      let now ← clockNow
      if deadline ≤ now then pure (.inr none)
      else do
        if ← isConnected then admitEntry rt subject entry deadline state
        else do
          let removed ← Subjects.removeIf rt subject now fun current =>
            pure (current.id = entry.id : Bool)
          if removed then Subjects.setDirty true
          pure (.inl state)

def admitSubject (subject : T) : Program (Gate T P) (Option (Entry T)) := do
  let now ← clockNow
  match checkedAdd rt now rt.config.admissionTimeout with
  | none => pure none
  | some deadline =>
      .iterate { retryDelay := rt.config.initialAdmissionRetryDelay, seen := 0 }
        fun state => admitRound rt subject deadline state

end PolicyGate
