import PolicyGate.Interleaving.Record
import PolicyGate.Gate.System

namespace PolicyGate

open Interleaving

variable {T P : Type}

/-! What the watcher did, noted by its own actions.

The recorded watcher takes the actions of `watchSource` (`watchSource_erases`), so
every run of the gate is recorded, and every recorded run is one of the gate.
-/

inductive WatchNote (T : Type) where
  /-- the call that opens a stream failed or timed out -/
  | failed
  | opened (session : Nat)
  /-- `connected = true` was sent -/
  | connected
  /-- the stability timer of the stream was started -/
  | timer (now : Nat)
  /-- the stability event was processed -/
  | stable (session now : Nat)
  | took (session : Nat) (item : StreamItem T)
  /-- `apply_change` was called -/
  | applied (session : Nat) (change : DecisionChange T)
  /-- `mark_disconnected` -/
  | disconnected (now : Nat)
  /-- `watch_disconnected` returned -/
  | idle
  /-- the reconnect delay began, with its base and what `jitter` made of it -/
  | sleeps (base pause now : Nat)
  | woke (now : Nat)
deriving DecidableEq, Repr

abbrev WatchRecord (T : Type) := List (WatchNote T)

namespace WatchNote

def isStable : WatchNote T → Bool
  | .stable .. => true
  | _ => false

def isDisconnected : WatchNote T → Bool
  | .disconnected _ => true
  | _ => false

end WatchNote

namespace WatchRecord

/-- What the health indicator reads. -/
def since (constructed : Nat) : WatchRecord T → Option Nat
  | [] => some constructed
  | .stable .. :: _ => none
  | .disconnected now :: earlier => some ((since constructed earlier).getD now)
  | _ :: earlier => since constructed earlier

/-- The base of the next reconnect delay. -/
def backoff (config : PolicyGateConfig) : WatchRecord T → Nat
  | [] => config.initialReconnectDelay
  | .stable .. :: _ => config.initialReconnectDelay
  | .sleeps base _ _ :: _ => min (base * 2) config.maxReconnectDelay
  | _ :: earlier => backoff config earlier

def retries : WatchRecord T → Nat
  | [] => 0
  | .stable .. :: _ => 0
  | .sleeps .. :: earlier => retries earlier + 1
  | _ :: earlier => retries earlier

def taken (session : Nat) : WatchRecord T → List (StreamItem T)
  | [] => []
  | .took n item :: earlier =>
      if n = session then taken session earlier ++ [item] else taken session earlier
  | _ :: earlier => taken session earlier

def applied (session : Nat) : WatchRecord T → List (DecisionChange T)
  | [] => []
  | .applied n change :: earlier =>
      if n = session then applied session earlier ++ [change] else applied session earlier
  | _ :: earlier => applied session earlier

/-- `watch_disconnected` returned, and `connected = true` was not sent since. -/
def down : WatchRecord T → Bool
  | [] => true
  | .idle :: _ => true
  | .connected :: _ => false
  | _ :: earlier => down earlier

/-- The stream of `session` is the current one, and its stability timer was started at `since`. -/
def Attached (session since : Nat) : WatchRecord T → Prop
  | .timer now :: .connected :: .opened n :: _ => n = session ∧ now = since
  | .took _ (.change _) :: earlier | .applied .. :: earlier | .stable .. :: earlier =>
      Attached session since earlier
  | _ => False

def pending : WatchRecord T → Option (Nat × DecisionChange T)
  | .took session (.change change) :: _ => some (session, change)
  | _ => none

end WatchRecord

abbrev Watching (T P α : Type) := Program (Gate T P × WatchRecord T) α

namespace Watching

open Program

def note (make : Gate T P → WatchNote T) (s : Gate T P) (notes : WatchRecord T) : WatchRecord T :=
  make s :: notes

def publishEmpty (afterPublish : Watching T P Unit) : Watching T P Unit := do
  lockPublish.hosted _
  (modify fun s : Gate T P =>
    { s with publish := { s.publish with generation := s.publish.generation + 1 } }).hosted _
  (modify fun s : Gate T P => { s with snapshot := [] }).hosted _
  afterPublish
  unlockPublish.hosted _

def watchConnected : Watching T P Unit := do
  publishEmpty (pure ())
  Subjects.clear.hosted _
  noteModify (note fun _ => .connected) fun s => (sendConnected s true).updateWatch fun watch =>
    { watch with phase := .connected, reached := watch.opened, orderly := orderlyAt s }

def watchStable : Watching T P Unit :=
  noteModify (note fun s => .stable s.watch.opened s.clock) fun s =>
    s.updateWatch fun watch => { watch with disconnectedSince := none }

def markDisconnected : Watching T P Unit :=
  noteModify (note fun s => .disconnected s.clock) fun s => s.updateWatch fun watch =>
    { watch with disconnectedSince := some (watch.disconnectedSince.getD s.clock) }

def watchDisconnected : Watching T P Unit := do
  (setPhase .disconnecting).hosted _
  publishEmpty do
    (modify fun s : Gate T P => sendConnected s false).hosted _
    markDisconnected
  Subjects.clear.hosted _
  noteModify (note fun _ => .idle) fun s => s.updateWatch fun watch => { watch with phase := .idle }

def dropWatcher : Watching T P Unit := do
  dropSession.hosted _
  (modify fun s : Gate T P => { s with queue := [], queueClosed := true }).hosted _
  watchDisconnected
  (modify fun s : Gate T P => s.updateWatch fun watch => { watch with closed := true }).hosted _

def noteOpened (opened : Opened) : Gate T P → WatchRecord T → WatchRecord T :=
  note fun s => match opened with
    | .stream => .opened s.watch.opened
    | .error | .timedOut => .failed

def noteWork (work : Work T) (s : Gate T P) (notes : WatchRecord T) : WatchRecord T :=
  match work with
  | .change item => .took s.watch.opened item :: notes
  | .stable | .refreshBatch | .refreshDone => notes

variable (rt : Runtime)

def openWatch : Watching T P Opened := (PolicyGate.openWatch rt).noted noteOpened dropWatcher

def nextWork (stableAt : Option Nat) : Watching T P (Work T) :=
  (PolicyGate.nextWork rt stableAt).noted noteWork dropWatcher

def yieldNow : Watching T P Unit :=
  (watcherAwait fun _ (s : Gate T P) => some ((), s)).noted (fun _ _ notes => notes) dropWatcher

def sleepReconnect (delay : Nat) : Watching T P Unit := do
  let draw ← (act fun pick (s : Gate T P) => some (pick.choice % 2 ^ 64, s)).hosted _
  let now ← clockNow.noted (fun now => note fun _ => .sleeps delay (jitter delay draw) now) (.done ())
  (watcherAwait fun _ (s : Gate T P) =>
    match checkedAdd rt now (jitter delay draw) with
    | some wake => if wake ≤ s.clock then some ((), s) else none
    | none => none).noted (fun _ => note fun s => .woke s.clock) dropWatcher

variable [DecidableEq T]

def applyChange (change : DecisionChange T) : Watching T P Unit :=
  (PolicyGate.applyChange rt change).noteFirst (note fun s => .applied s.watch.opened change)

def sessionRound (state : SessionState) : Watching T P (SessionState ⊕ Nat) := do
  match ← nextWork rt state.stableAt with
  | .stable => do
      watchStable
      pure (.inl { state with
        reconnectDelay := rt.config.initialReconnectDelay, stableAt := none })
  | .refreshBatch | .refreshDone => pure (.inl state)
  | .change .ended | .change (.error _) => pure (.inr state.reconnectDelay)
  | .change (.change change) => do
      applyChange rt change
      if state.eventsSinceYield + 1 = rt.config.watchEventsPerYield then do
        yieldNow
        pure (.inl { state with eventsSinceYield := 0 })
      else pure (.inl { state with eventsSinceYield := state.eventsSinceYield + 1 })

def runSession (reconnectDelay : Nat) : Watching T P Nat := do
  watchConnected
  let now ← clockNow.noted (fun now => note fun _ => .timer now) (.done ())
  let delay ← iterate
    { reconnectDelay, stableAt := checkedAdd rt now rt.config.maxReconnectDelay,
      eventsSinceYield := 0 } (sessionRound rt)
  dropSession.hosted _
  pure delay

def watchSource : Watching T P Unit :=
  iterate rt.config.initialReconnectDelay fun reconnectDelay => do
    let opened ← openWatch rt
    let reconnectDelay ← match opened with
      | .stream => runSession rt reconnectDelay
      | .error | .timedOut => pure reconnectDelay
    watchDisconnected
    sleepReconnect rt reconnectDelay
    pure (.inl (min (reconnectDelay * 2) rt.config.maxReconnectDelay))

section

omit [DecidableEq T]

theorem publishEmpty_erases {recorded : Watching T P Unit} {afterPublish : Program (Gate T P) Unit}
    (erases : recorded.Erases afterPublish) :
    (publishEmpty recorded).Erases (PolicyGate.publishEmpty afterPublish) :=
  .bind (.hosted _) fun _ => .bind (.hosted _) fun _ => .bind (.hosted _) fun _ =>
    .bind erases fun _ => .hosted _

theorem watchConnected_erases : (watchConnected (T := T) (P := P)).Erases PolicyGate.watchConnected :=
  .bind (publishEmpty_erases (.done ())) fun _ => .bind (.hosted _) fun _ => .noteModify _ _

theorem watchDisconnected_erases :
    (watchDisconnected (T := T) (P := P)).Erases PolicyGate.watchDisconnected := by
  refine .bind (.hosted _) fun _ => .bind (publishEmpty_erases ?_) fun _ => .bind (.hosted _) fun _ =>
    .noteModify _ _
  exact .bind (.hosted _) fun _ => .noteModify _ _

theorem dropWatcher_erases : (dropWatcher (T := T) (P := P)).Erases PolicyGate.dropWatcher :=
  .bind (.hosted _) fun _ => .bind (.hosted _) fun _ => .bind watchDisconnected_erases fun _ =>
    .hosted _

theorem openWatch_erases : (openWatch (T := T) (P := P) rt).Erases (PolicyGate.openWatch rt) :=
  .noted dropWatcher_erases fun _ => ⟨rfl, fun _ => trivial⟩

theorem nextWork_erases (stableAt : Option Nat) :
    (nextWork (T := T) (P := P) rt stableAt).Erases (PolicyGate.nextWork rt stableAt) :=
  .noted dropWatcher_erases ⟨rfl, fun _ => trivial⟩

theorem sleepReconnect_erases (delay : Nat) :
    (sleepReconnect (T := T) (P := P) rt delay).Erases (PolicyGate.sleepReconnect rt delay) :=
  .bind (.hosted _) fun _ => .bind (.noted (.done ()) fun _ => trivial) fun _ =>
    .noted dropWatcher_erases ⟨rfl, fun _ => trivial⟩

end

theorem sessionRound_erases (state : SessionState) :
    (sessionRound (T := T) (P := P) rt state).Erases (PolicyGate.sessionRound rt state) := by
  refine .bind (nextWork_erases rt state.stableAt) fun work => ?_
  match work with
  | .stable => exact .bind (.noteModify _ _) fun _ => .done _
  | .refreshBatch | .refreshDone | .change .ended | .change (.error _) => exact .done _
  | .change (.change change) =>
      refine .bind (.noteFirst _ _) fun _ => ?_
      split
      · exact .bind (.noted dropWatcher_erases ⟨rfl, fun _ => trivial⟩) fun _ => .done _
      · exact .done _

theorem runSession_erases (reconnectDelay : Nat) :
    (runSession (T := T) (P := P) rt reconnectDelay).Erases
      (PolicyGate.runSession rt reconnectDelay) :=
  .bind watchConnected_erases fun _ => .bind (.noted (.done ()) fun _ => trivial) fun _ =>
    .bind (.iterate (sessionRound_erases rt)) fun _ => .bind (.hosted _) fun _ => .done _

theorem watchSource_erases :
    (watchSource (T := T) (P := P) rt).Erases (PolicyGate.watchSource rt) := by
  refine .iterate fun reconnectDelay => .bind (openWatch_erases rt) fun opened => ?_
  have reconnect : ∀ delay : Nat, Erases
      (do
        watchDisconnected
        sleepReconnect rt delay
        pure (.inl (min (delay * 2) rt.config.maxReconnectDelay)) : Watching T P (Nat ⊕ Unit))
      (do
        PolicyGate.watchDisconnected
        PolicyGate.sleepReconnect rt delay
        pure (.inl (min (delay * 2) rt.config.maxReconnectDelay))) := fun delay =>
    .bind watchDisconnected_erases fun _ => .bind (sleepReconnect_erases rt delay) fun _ => .done _
  cases opened with
  | stream => exact .bind (runSession_erases rt reconnectDelay) reconnect
  | error | timedOut => exact reconnect reconnectDelay

end Watching

variable (rt : Runtime) [DecidableEq T]

def startWatched (authority : T → Option Decision) (calls : Nat → Call T) :
    Config (Gate T P × WatchRecord T) :=
  (start rt authority calls).host 0 [] (Watching.watchSource rt)

/-- `w` is reached in some recorded run. -/
def WatchReachable (authority : T → Option Decision) (calls : Nat → Call T)
    (w : Config (Gate T P × WatchRecord T)) : Prop :=
  ∃ moves, (startWatched rt authority calls).run (Config.beside _ Gate.environment) moves = some w

variable {rt} {authority : T → Option Decision} {calls : Nat → Call T}

theorem startWatched_shadows :
    (startWatched (P := P) rt authority calls).Shadows 0 (start rt authority calls) :=
  .host (Watching.watchSource_erases rt)

/-- The recorded runs are the runs of the gate. -/
theorem Reachable.recorded {c : Config (Gate T P)} (reached : Reachable rt authority calls c) :
    ∃ w, WatchReachable rt authority calls w ∧ w.Shadows 0 c := by
  obtain ⟨moves, ran⟩ := reached
  have begun : (startWatched rt authority calls).Shadows 0 (start (P := P) rt authority calls) :=
    startWatched_shadows
  have both : Option.Rel (Config.Shadows 0)
      ((startWatched rt authority calls).run (Config.beside _ Gate.environment) moves)
      ((start rt authority calls).run Gate.environment moves) := begun.run moves
  rw [ran] at both
  generalize same : (startWatched rt authority calls).run _ moves = other at both
  cases both with
  | some shadows => exact ⟨_, ⟨moves, same⟩, shadows⟩

end PolicyGate
