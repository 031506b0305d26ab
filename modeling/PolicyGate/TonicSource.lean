import PolicyGate.Gate.State

namespace PolicyGate

variable {T : Type}

/-- `SubjectDecisionChange` of the wire contract; `decision` is an `i32`. -/
structure ProtoSubjectDecisionChange where
  subjectId : String
  decision : Int
  scope : String
deriving DecidableEq, Repr

inductive Code where
  | ok
  | cancelled
  | unknown
  | invalidArgument
  | deadlineExceeded
  | notFound
  | alreadyExists
  | permissionDenied
  | resourceExhausted
  | failedPrecondition
  | aborted
  | outOfRange
  | unimplemented
  | internal
  | unavailable
  | dataLoss
  | unauthenticated
deriving DecidableEq, Repr

/-- `tonic::Status`; `text` is what `to_string` makes of it. -/
structure Status where
  code : Code
  text : String
deriving DecidableEq, Repr

namespace TonicSource

def sourceError (status : Status) : DecisionSourceError :=
  let kind := match status.code with
    | .notFound | .invalidArgument | .permissionDenied | .unauthenticated | .unimplemented
    | .dataLoss => .permanent
    | _ => .transient
  { kind, message := status.text }

def decodeDecision (state : Int) : Except DecisionSourceError (Option Decision) :=
  match state with
  | 0 => .ok none
  | 1 => .ok (some .allowed)
  | 2 => .ok (some .denied)
  | _ => .error { kind := .wire, message := "decision source returned an unknown decision" }

def validateScopeEcho (expected actual : String) : Except DecisionSourceError Unit :=
  if actual = expected then .ok ()
  else .error { kind := .wire, message := "decision source returned a mismatched scope" }

/-- `subject_id.parse()`; `parse` is the `FromStr` of the subject type. -/
def parseSubject (parse : String → Option T) (subjectId : String) : Except DecisionSourceError T :=
  match parse subjectId with
  | some subject => .ok subject
  | none =>
      .error { kind := .wire, message := "decision source returned an invalid subject identifier" }

def decodeChange (parse : String → Option T) (change : ProtoSubjectDecisionChange)
    (scope : String) : Except DecisionSourceError (DecisionChange T) := do
  validateScopeEcho scope change.scope
  let subject ← parseSubject parse change.subjectId
  let decision ← decodeDecision change.decision
  return { subject, decision }

/-- What the wire's stream yields: a message or a gRPC error. -/
abbrev WireItem := Except Status ProtoSubjectDecisionChange

/-- `poll_next` where the wire's stream is ready; `none` is its end. -/
def pollNext (scope : String) (parse : String → Option T) (result : Option WireItem) :
    Option (Except DecisionSourceError (DecisionChange T)) :=
  result.map fun result =>
    (result.mapError sourceError).bind fun change => decodeChange parse change scope

def streamItem (item : Option (Except DecisionSourceError (DecisionChange T))) : StreamItem T :=
  match item with
  | some (.ok change) => .change change
  | some (.error error) => .error error
  | none => .ended

/-- What the polls of a stream yield over which the wire sends these items, to the end of it. -/
def yields (scope : String) (parse : String → Option T) (sent : List WireItem) :
    List (StreamItem T) :=
  sent.map (fun item => streamItem (pollNext scope parse (some item))) ++
    [streamItem (pollNext scope parse none)]

/-- The change a message carries if it is of the bound scope, names a subject and is a decision the
contract knows. -/
def reading (scope : String) (parse : String → Option T) (message : ProtoSubjectDecisionChange) :
    Option (DecisionChange T) :=
  if message.scope = scope then
    (parse message.subjectId).bind fun subject =>
      if message.decision = 0 then some { subject, decision := none }
      else if message.decision = 1 then some { subject, decision := some .allowed }
      else if message.decision = 2 then some { subject, decision := some .denied }
      else none
  else none

/-- The readings of the longest prefix of messages that can be read. -/
def readings (scope : String) (parse : String → Option T) : List WireItem → List (DecisionChange T)
  | .ok message :: rest =>
      match reading scope parse message with
      | some change => change :: readings scope parse rest
      | none => []
  | .error _ :: _ | [] => []

theorem decodeDecision_eq {state : Int} (other : state ≠ 0 ∧ state ≠ 1 ∧ state ≠ 2) :
    decodeDecision state =
      .error { kind := .wire, message := "decision source returned an unknown decision" } := by
  unfold decodeDecision
  split <;> simp_all

theorem decodeChange_eq_ok_iff {scope : String} {parse : String → Option T}
    {message : ProtoSubjectDecisionChange} {change : DecisionChange T} :
    decodeChange parse message scope = .ok change ↔ reading scope parse message = some change := by
  unfold decodeChange reading validateScopeEcho parseSubject
  by_cases same : message.scope = scope
  · cases parse message.subjectId with
    | none => simp [same, bind, Except.bind]
    | some subject =>
        by_cases withdrawn : message.decision = 0
        · simp [same, withdrawn, bind, Except.bind, decodeDecision, pure, Except.pure]
        · by_cases allowed : message.decision = 1
          · simp [same, allowed, bind, Except.bind, decodeDecision, pure, Except.pure]
          · by_cases denied : message.decision = 2
            · simp [same, denied, bind, Except.bind, decodeDecision, pure, Except.pure]
            · simp [same, withdrawn, allowed, denied, bind, Except.bind,
                decodeDecision_eq ⟨withdrawn, allowed, denied⟩]
  · simp [same, bind, Except.bind]

end TonicSource

namespace StreamItem

def isChange : StreamItem T → Bool
  | .change _ => true
  | .error _ | .ended => false

end StreamItem

namespace TonicSource

theorem yields_split (scope : String) (parse : String → Option T) (sent : List WireItem) :
    ∃ other rest, yields scope parse sent =
      (readings scope parse sent).map .change ++ other :: rest ∧ other.isChange = false := by
  induction sent with
  | nil => exact ⟨.ended, [], rfl, rfl⟩
  | cons item sent ih =>
      obtain ⟨other, rest, split, isOther⟩ := ih
      cases item with
      | error status => exact ⟨.error (sourceError status), yields scope parse sent, rfl, rfl⟩
      | ok message =>
          have decoded := @decodeChange_eq_ok_iff T scope parse message
          have yielded : yields scope parse (.ok message :: sent) =
              streamItem (some (decodeChange parse message scope)) :: yields scope parse sent := rfl
          cases read : reading scope parse message with
          | some change =>
              refine ⟨other, rest, ?_, isOther⟩
              rw [yielded, decoded.mpr read, split, readings, read]
              rfl
          | none =>
              refine ⟨streamItem (some (decodeChange parse message scope)), yields scope parse sent, ?_, ?_⟩
              · rw [yielded, readings, read]
                rfl
              · cases result : decodeChange parse message scope with
                | error => rfl
                | ok change =>
                    rw [decoded.mp result] at read
                    cases read

end TonicSource

end PolicyGate
