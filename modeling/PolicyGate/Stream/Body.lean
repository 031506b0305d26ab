import PolicyGate.Gate.System
import PolicyGate.Interleaving.Guest

namespace PolicyGate

open Interleaving

/-! `EnforcedBody`, a request or response body that is cut once its subject is
no longer allowed.

The body is the memory of a guest of the gate: its owner calls `poll_frame`,
`is_end_stream` and `size_hint` in any order, and every other thread runs as
before.  `T` is the subject, `D` and `H` are the data and the trailers of a frame,
`E` and `X` the errors of the wrapped body and of the wrapper.
-/

variable {T P B D H E X : Type}

inductive Poll (α : Type) where
  | pending
  | ready (value : α)
deriving DecidableEq, Repr

inductive Frame (D H : Type) where
  | data (data : D)
  | trailers (trailers : H)
deriving DecidableEq, Repr

def Frame.isTrailers : Frame D H → Bool
  | .data _ => false
  | .trailers _ => true

abbrev FramePoll (D H E : Type) := Poll (Option (Except E (Frame D H)))

/-- The wrapped body.  `drift` is what becomes of it while its wrapper does not look. -/
structure InnerBody (B D H E : Type) where
  pollFrame : B → FramePoll D H E × B
  isEndStream : B → Bool
  drift : Nat → B → B

inductive BodySide where
  | request
  | response
deriving DecidableEq, Repr

inductive StreamRejection (H X : Type) where
  | error (error : X)
  | trailers (trailers : H)

structure StreamContext (H E X : Type) where
  streamDenied : BodySide → String → StreamRejection H X
  rejectionMessage : String
  /-- `Into<BoxBodyError>` -/
  into : E → X

/-- How far a readmission future has come.  It runs `admit` as a call of thread `task`. -/
inductive ReadmissionState where
  | admitting (task : Nat)
  /-- `admit_after`, not yet polled -/
  | delayed (delay : Nat)
  /-- in the sleep of `admit_after`; without a deadline it never ends -/
  | sleeping (deadline : Option Nat)
  /-- its poll has returned `Ready` -/
  | returned
deriving DecidableEq, Repr

structure Readmission where
  state : ReadmissionState
  /-- ghost: the call of `poll_frame` whose waker it was last polled with -/
  waker : Option Nat
deriving DecidableEq, Repr

structure EnforcedBody (T B : Type) where
  inner : B
  subject : T
  admission : Entry T
  readmission : Option Readmission
  side : BodySide
  ended : Bool
deriving DecidableEq

def EnforcedBody.new (inner : B) (subject : T) (admission : Entry T) (side : BodySide) :
    EnforcedBody T B where
  inner
  subject
  admission
  readmission := none
  side
  ended := false

/-- What one call of `poll_frame` does, step by step. -/
inductive PollStep (T D H E : Type) where
  /-- `observe` of the handle the body holds -/
  | observed (held : Entry T) (now : Nat) (seen : Observed)
  /-- `check_without_refresh` loaded the snapshot and took this entry of the body's subject -/
  | loaded (entry : Option (Entry T))
  /-- what it made of that entry -/
  | lookedUp (loaded found : Option (Entry T))
  /-- `is_allowed` of another handle -/
  | isAllowed (admission : Entry T) (now : Nat) (seen : Observed)
  /-- `state` of another handle -/
  | state (admission : Entry T) (now : Nat) (seen : Observed)
  | adopted (admission : Entry T)
  | readmitted
  /-- the stored readmission was polled and is pending -/
  | waited
  /-- the stored readmission was polled and returned -/
  | resolved (result : Option (Entry T))
  /-- `Ok(_) => continue` -/
  | again
  /-- a readmission that failed is replaced -/
  | replaced
  /-- the replacement returned when it was first polled -/
  | resolvedAtOnce (result : Option (Entry T))
  /-- a readmission that had returned was polled again -/
  | resumed
  | woken
  | innerPolled (answer : FramePoll D H E)
  /-- `stream_cutoff` and `stream_denied` -/
  | cutOff
deriving DecidableEq

structure PollRecord (T B D H E X : Type) where
  number : Nat
  /-- the wrapped body when the call began -/
  began : B
  steps : List (PollStep T D H E)
  answer : FramePoll D H X
  stored : Option Readmission
deriving DecidableEq

inductive BodyCall (T B D H E X : Type) where
  | polled (record : PollRecord T B D H E X)
  | isEndStream (answer : Bool)
  | sizeHint (exact : Option Nat)
deriving DecidableEq

/-- A body and what happened to it. -/
structure Stream (T B D H E X : Type) where
  body : EnforcedBody T B
  /-- ghost: how often `poll_frame` was called -/
  polls : Nat
  /-- ghost: the wrapped body when the latest call of `poll_frame` began -/
  began : B
  /-- ghost: the steps of the latest call of `poll_frame`, latest first -/
  steps : List (PollStep T D H E)
  /-- ghost: the calls that returned, latest first -/
  calls : List (BodyCall T B D H E X)

namespace Stream

def new (inner : B) (subject : T) (admission : Entry T) (side : BodySide) :
    Stream T B D H E X where
  body := .new inner subject admission side
  polls := 0
  began := inner
  steps := []
  calls := []

def step (t : Stream T B D H E X) (event : PollStep T D H E) : Stream T B D H E X :=
  { t with steps := event :: t.steps }

def setReadmission (t : Stream T B D H E X) (readmission : Option Readmission) : Stream T B D H E X :=
  { t with body := { t.body with readmission } }

def adopt (t : Stream T B D H E X) (admission : Entry T) : Stream T B D H E X :=
  { t with body := { t.body with admission } }

def finish (t : Stream T B D H E X) : Stream T B D H E X :=
  { t with body := { t.body with ended := true, readmission := none } }

/-- The wrapped body as the wrapper finds it when it looks again. -/
def look (inner : InnerBody B D H E) (choice : Nat) (t : Stream T B D H E X) :
    Stream T B D H E X :=
  { t with body := { t.body with inner := inner.drift choice t.body.inner } }

def record (t : Stream T B D H E X) (call : BodyCall T B D H E X) : Stream T B D H E X :=
  { t with calls := call :: t.calls }

def polledCall (t : Stream T B D H E X) (answer : FramePoll D H X) : BodyCall T B D H E X :=
  .polled ⟨t.polls, t.began, t.steps, answer, t.body.readmission⟩

end Stream

abbrev Streaming (T P B D H E X α : Type) := Program (Gate T P × Stream T B D H E X) α

def onBody {α : Type} (action : Nat → Stream T B D H E X → α × Stream T B D H E X) :
    Streaming T P B D H E X α :=
  .own fun choice _ t => some (action choice t)

def modifyBody (f : Stream T B D H E X → Stream T B D H E X) : Streaming T P B D H E X Unit :=
  onBody fun _ t => ((), f t)

variable [DecidableEq T] (rt : Runtime)

def readHandle (read : Nat → Observed → PollStep T D H E) (admission : Entry T) :
    Streaming T P B D H E X Observed := do
  let (now, seen) ← (Admission.observe admission).hosted _
  modifyBody fun t => t.step (read now seen)
  pure seen

/-- `Admission::is_allowed`. -/
def isAllowed (admission : Entry T) : Streaming T P B D H E X Bool := do
  let seen ← readHandle (.isAllowed admission) admission
  pure (seen = .allowed : Bool)

/-- `admission.state() == AdmissionState::Denied`. -/
def isDenied (admission : Entry T) : Streaming T P B D H E X Bool := do
  let seen ← readHandle (.state admission) admission
  pure (seen = .denied : Bool)

inductive PollRound where
  | again
  | cut
  | forward
deriving DecidableEq, Repr

/-- The part of a poll of a readmission that is the sleep of `admit_after`.  Its deadline is set
at the first poll; `choice` says whether the driver has ended the sleep, which it does not
before the deadline, and which call of `admit` follows it. -/
def pollSleep : Streaming T P B D H E X Unit := do
  .own fun _ s t =>
    match t.body.readmission with
    | some { state := .delayed delay, waker } =>
        some ((), t.setReadmission (some { state := .sleeping (checkedAdd rt s.clock delay), waker }))
    | _ => some ((), t)
  .own fun choice s t =>
    match choice, t.body.readmission with
    | task + 1, some { state := .sleeping (some deadline), waker } =>
        if deadline ≤ s.clock ∧ (s.outcomes task).isNone then
          some ((), t.setReadmission (some { state := .admitting task, waker }))
        else none
    | _, _ => some ((), t)

def readmissionResult (s : Gate T P) (subject : T) : ReadmissionState → Option (Option (Entry T))
  | .admitting task =>
      match s.outcomes task with
      | some (.admitted asked admission) => if asked = subject then some admission else none
      | _ => none
  | .delayed _ | .sleeping _ | .returned => none

/-- `readmission.poll(cx)`.  A future that has returned must not be polled again: that panics. -/
def pollReadmission : Streaming T P B D H E X (Poll (Option (Entry T))) := do
  pollSleep rt
  let poll ← .own fun _ s t =>
    match t.body.readmission with
    | none => none
    | some readmission =>
        if readmission.state = .returned then some (none, t.step .resumed)
        else
          match readmissionResult s t.body.subject readmission.state with
          | some result =>
              some (some (.ready result), t.setReadmission (some ⟨.returned, some t.polls⟩))
          | none => some (some .pending, t.setReadmission (some { readmission with waker := some t.polls }))
  match poll with
  | some poll => pure poll
  | none => .act fun _ _ => none

/-- The load in `check_without_refresh`. -/
def loadSnapshot : Streaming T P B D H E X (Option (Entry T)) :=
  .own fun _ s t =>
    let entry := s.snapshotEntry t.body.subject
    some (entry, t.step (.loaded entry))

/-- `check_without_refresh` for the body's subject. -/
def lookUpSnapshot : Streaming T P B D H E X (Option (Entry T)) := do
  let subject ← onBody fun _ t => (t.body.subject, t)
  let loaded ← loadSnapshot
  let found ← (admitCached rt subject loaded).hosted _
  modifyBody fun t => t.step (.lookedUp loaded found)
  pure found

/-- The `Stale` arm up to the readmission; `forward` stands for going on with it. -/
def consultSnapshot : Streaming T P B D H E X PollRound := do
  match ← lookUpSnapshot rt with
  | none => pure .forward
  | some admission => do
      if ← isAllowed admission then
        if rt.config.refreshBeforeExpiry = 0 then do
          modifyBody fun t => ((t.setReadmission none).adopt admission).step (.adopted admission)
          pure .again
        else pure .forward
      else if ← isDenied admission then do
        modifyBody fun t => t.setReadmission none
        pure .cut
      else pure .forward

/-- A readmission of `gate.admit(&subject)`, unless there is one; the call it stands for has not
returned. -/
def startReadmission : Streaming T P B D H E X Unit :=
  .own fun task s t =>
    match t.body.readmission with
    | some _ => some ((), t)
    | none =>
        if (s.outcomes task).isNone then
          some ((), (t.setReadmission (some ⟨.admitting task, none⟩)).step .readmitted)
        else none

/-- The arm of a readmission that failed. -/
def replaceReadmission : Streaming T P B D H E X PollRound := do
  modifyBody fun t =>
    (t.setReadmission (some ⟨.delayed rt.config.admissionTimeout, none⟩)).step .replaced
  match ← pollReadmission rt with
  | .pending => pure ()
  | .ready result => modifyBody fun t => (t.step (.resolvedAtOnce result)).step .woken
  pure .forward

/-- The arms of a readmission that returned. -/
def readmissionReturned (result : Option (Entry T)) : Streaming T P B D H E X PollRound := do
  modifyBody fun t => (t.setReadmission none).step (.resolved result)
  match result with
  | some admission => do
      if ← isAllowed admission then
        modifyBody fun t => (t.adopt admission).step (.adopted admission)
        pure .again
      else if ← isDenied admission then pure .cut
      else do
        modifyBody fun t => t.step .again
        pure .again
  | none => replaceReadmission rt

def consultReadmission : Streaming T P B D H E X PollRound := do
  startReadmission
  match ← pollReadmission rt with
  | .pending => do
      modifyBody fun t => t.step .waited
      pure .forward
  | .ready result => readmissionReturned rt result

def pollRound : Streaming T P B D H E X PollRound := do
  let held ← onBody fun _ t => (t.body.admission, t)
  match ← readHandle (.observed held) held with
  | .allowed => pure .forward
  | .denied | .expired => pure .cut
  | .stale => do
      match ← consultSnapshot rt with
      | .again => pure .again
      | .cut => pure .cut
      | .forward => consultReadmission rt

/-- The loop of `poll_frame`; answers whether it goes on to the wrapped body. -/
def pollRounds : Streaming T P B D H E X Bool :=
  .iterate () fun _ => do
    match ← pollRound rt with
    | .again => pure (.inl ())
    | .cut => pure (.inr false)
    | .forward => pure (.inr true)

variable (inner : InnerBody B D H E) (context : StreamContext H E X)

/-- What the wrapper makes of the wrapped body's answer. -/
def StreamContext.pass : FramePoll D H E → FramePoll D H X
  | .pending => .pending
  | .ready none => .ready none
  | .ready (some (.ok frame)) => .ready (some (.ok frame))
  | .ready (some (.error error)) => .ready (some (.error (context.into error)))

def FramePoll.terminal : FramePoll D H E → Bool
  | .ready none => true
  | .ready (some (.ok frame)) => frame.isTrailers
  | .ready (some (.error _)) | .pending => false

def pollInnerTerminal : Streaming T P B D H E X (FramePoll D H X) :=
  onBody fun choice t =>
    let looked := t.look inner choice
    let polled := inner.pollFrame looked.body.inner
    let after := Stream.step
      { looked with body := { looked.body with inner := polled.2 } } (.innerPolled polled.1)
    (context.pass polled.1, if FramePoll.terminal polled.1 then after.finish else after)

def StreamContext.rejection (side : BodySide) : FramePoll D H X :=
  match context.streamDenied side context.rejectionMessage with
  | .trailers trailers => .ready (some (.ok (.trailers trailers)))
  | .error error => .ready (some (.error error))

def cutOff : Streaming T P B D H E X (FramePoll D H X) :=
  onBody fun _ t => (context.rejection t.body.side, t.finish.step .cutOff)

/-- The poll begins; answers whether the body has ended. -/
def beginFrame : Streaming T P B D H E X Bool :=
  onBody fun choice t =>
    let looked := t.look inner choice
    let begun := { looked with polls := t.polls + 1, began := looked.body.inner, steps := [] }
    let closed := t.body.ended || inner.isEndStream looked.body.inner
    (closed, if closed then begun.finish else begun)

def pollFrame : Streaming T P B D H E X (FramePoll D H X) := do
  if ← beginFrame inner then pure (.ready none)
  else do
    if ← pollRounds rt then pollInnerTerminal inner context else cutOff context

def isEndStream : Streaming T P B D H E X Bool :=
  onBody fun choice t =>
    let looked := t.look inner choice
    (t.body.ended || inner.isEndStream looked.body.inner, looked)

/-- `size_hint`; `none` is the hint that promises nothing. -/
def sizeHint : Streaming T P B D H E X (Option Nat) :=
  onBody fun _ t => (if t.body.ended then some 0 else none, t)

/-- The body's owner calls it in any order. -/
def ownBody (admission : Entry T) : Streaming T P B D H E X Unit := do
  (Admission.hold admission).hosted _
  .iterate () fun _ => do
    match ← onBody fun choice t => (choice, t) with
    | 0 => do
        let answer ← pollFrame rt inner context
        modifyBody fun t => t.record (t.polledCall answer)
    | 1 => do
        let answer ← isEndStream inner
        modifyBody fun t => t.record (.isEndStream answer)
    | _ => do
        let exact ← sizeHint
        modifyBody fun t => t.record (.sizeHint exact)
    pure (.inl ())

def startStream (authority : T → Option Decision) (calls : Nat → Call T) (guest : Nat)
    (body : B) (subject : T) (admission : Entry T) (side : BodySide) :
    Config (Gate T P × Stream T B D H E X) :=
  (start rt authority calls).host guest (.new body subject admission side)
    (ownBody rt inner context admission)

/-- `c` is reached in some interleaving of the owner's calls with everything else. -/
def StreamReachable (authority : T → Option Decision) (calls : Nat → Call T) (guest : Nat)
    (body : B) (subject : T) (admission : Entry T) (side : BodySide)
    (c : Config (Gate T P × Stream T B D H E X)) : Prop :=
  ∃ moves, (startStream rt inner context authority calls guest body subject admission side).run
    (Config.beside _ Gate.environment) moves = some c

def StreamLeads (c later : Config (Gate T P × Stream T B D H E X)) : Prop :=
  ∃ moves, c.run (Config.beside _ Gate.environment) moves = some later

end PolicyGate
