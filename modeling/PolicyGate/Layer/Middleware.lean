import PolicyGate.Stream.Body

namespace PolicyGate

open Interleaving

/-! `PolicyGateMiddleware::call`.

The call is a guest of the gate, and its memory is what it did so far.  `Q` is a
request without its body, `B` is a body and `R` a response the layer renders.
-/

variable {T P Q B R : Type}

structure Request (Q B : Type) where
  head : Q
  body : B
deriving DecidableEq

structure RequestPolicy (T Q : Type) where
  subject : Q → Option T
  enforceRequestBody : Q → Bool
  enforceResponseBody : Q → Bool

inductive AdmissionUnavailable where
  | unavailable

structure RejectionResponse (R : Type) where
  denied : String → R
  missingSubject : String → R
  unavailable : AdmissionUnavailable → String → R

/-- The layer: its policy, its responses and the texts of its context. -/
structure Layer (T Q R : Type) where
  policy : RequestPolicy T Q
  response : RejectionResponse R
  rejectionMessage : String
  missingSubjectMessage : String

def unavailableMessage : String :=
  "Policy decision source is unavailable; retry the request."

inductive AdaptedBody (T B : Type) where
  | plain (body : B)
  | enforced (body : EnforcedBody T B)
deriving DecidableEq

/-- The call of the inner service that `pass_through` makes, and the future it wraps around it. -/
structure EnforcedResponseFuture (T Q B : Type) where
  inner : Request Q (AdaptedBody T B)
  subject : T
  admission : Entry T
  enforceResponseBody : Bool
deriving DecidableEq

def passThrough (policy : RequestPolicy T Q) (request : Request Q B) (subject : T)
    (admission : Entry T) : EnforcedResponseFuture T Q B where
  inner :=
    { head := request.head
      body := if policy.enforceRequestBody request.head then
          .enforced (.new request.body subject admission .request)
        else .plain request.body }
  subject
  admission
  enforceResponseBody := policy.enforceResponseBody request.head

/-- What one call does, step by step. -/
inductive CallStep (T Q B : Type) where
  /-- `missing_subject_rejection` -/
  | missingSubject
  /-- `check_without_refresh` or `try_cached` -/
  | lookedUp (found : Option (Entry T))
  /-- `snapshot_miss` -/
  | snapshotMiss
  | admitted (result : Option (Entry T))
  | isAllowed (admission : Entry T) (now : Nat) (seen : Observed)
  | state (admission : Entry T) (now : Nat) (seen : Observed)
  /-- the inner service is called -/
  | passed (future : EnforcedResponseFuture T Q B)
  /-- `denial` -/
  | denial
  /-- `unavailable_rejection` -/
  | unavailable
deriving DecidableEq

inductive Served (T Q B R : Type) where
  | rejected (response : R)
  | passed (future : EnforcedResponseFuture T Q B)

structure Serving (T Q B R : Type) where
  /-- ghost: what it did, latest first -/
  steps : List (CallStep T Q B)
  served : Option (Served T Q B R)

namespace Serving

def new : Serving T Q B R where
  steps := []
  served := none

def step (t : Serving T Q B R) (event : CallStep T Q B) : Serving T Q B R :=
  { t with steps := event :: t.steps }

def finish (t : Serving T Q B R) (served : Served T Q B R) : Serving T Q B R :=
  { t with served := some served }

end Serving

abbrev Handling (T P Q B R α : Type) := Program (Gate T P × Serving T Q B R) α

namespace Layer

def modify (f : Serving T Q B R → Serving T Q B R) : Handling T P Q B R Unit :=
  .own fun _ _ t => some ((), f t)

variable [DecidableEq T] (rt : Runtime) (layer : Layer T Q R)

def readHandle (read : Nat → Observed → CallStep T Q B) (admission : Entry T) :
    Handling T P Q B R Observed := do
  let (now, seen) ← (Admission.observe admission).hosted _
  modify fun t => t.step (read now seen)
  pure seen

def isAllowed (admission : Entry T) : Handling T P Q B R Bool := do
  let seen ← readHandle (.isAllowed admission) admission
  pure (seen = .allowed : Bool)

def isDenied (admission : Entry T) : Handling T P Q B R Bool := do
  let seen ← readHandle (.state admission) admission
  pure (seen = .denied : Bool)

def deny : Handling T P Q B R Unit :=
  modify fun t => (t.step .denial).finish (.rejected (layer.response.denied layer.rejectionMessage))

/-- The two reads of a handle; answers whether the request is served by them. -/
def serveHandle (request : Request Q B) (subject : T) (admission : Entry T) :
    Handling T P Q B R Bool := do
  if ← isAllowed admission then
    modify fun t =>
      (t.step (.passed (passThrough layer.policy request subject admission))).finish
        (.passed (passThrough layer.policy request subject admission))
    pure true
  else if ← isDenied admission then
    layer.deny
    pure true
  else pure false

/-- The part of a call before its loop; answers whether the request is served by it. -/
def serveCached (request : Request Q B) (subject : T)
    (lookup : Program (Gate T P) (Option (Entry T))) : Handling T P Q B R Bool := do
  let found ← lookup.hosted _
  modify fun t => t.step (.lookedUp found)
  let served ← match found with
    | some admission => layer.serveHandle request subject admission
    | none => pure false
  if served then pure true
  else do
    modify fun t => t.step .snapshotMiss
    pure false

def serveAdmitted (request : Request Q B) (subject : T) : Handling T P Q B R Unit :=
  .iterate () fun _ => do
    let result ← (admitSubject rt subject).hosted _
    modify fun t => t.step (.admitted result)
    match result with
    | some admission => do
        if ← layer.serveHandle request subject admission then pure (.inr ()) else pure (.inl ())
    | none => do
        modify fun t => (t.step .unavailable).finish
          (.rejected (layer.response.unavailable .unavailable unavailableMessage))
        pure (.inr ())

/-- `PolicyGateMiddleware::call`, with the future it returns. -/
def call (request : Request Q B) : Handling T P Q B R Unit := do
  match layer.policy.subject request.head with
  | none =>
      modify fun t => (t.step .missingSubject).finish
        (.rejected (layer.response.missingSubject layer.missingSubjectMessage))
  | some subject => do
      let served ←
        if rt.config.refreshBeforeExpiry = 0 then
          layer.serveCached request subject (checkWithoutRefresh rt subject)
        else layer.serveCached request subject (check rt subject)
      if served then pure () else layer.serveAdmitted rt request subject

/-- The gate with a call of the middleware, which thread `guest` runs. -/
def start (authority : T → Option Decision) (calls : Nat → Call T) (guest : Nat)
    (request : Request Q B) : Config (Gate T P × Serving T Q B R) :=
  (PolicyGate.start rt authority calls).host guest .new (layer.call rt request)

def Reachable (authority : T → Option Decision) (calls : Nat → Call T) (guest : Nat)
    (request : Request Q B) (c : Config (Gate T P × Serving T Q B R)) : Prop :=
  ∃ moves, (layer.start rt authority calls guest request).run
    (Config.beside _ Gate.environment) moves = some c

end Layer

end PolicyGate
