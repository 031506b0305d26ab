import PolicyGate.Time

namespace PolicyGate

inductive Decision where
  | allowed
  | denied
deriving DecidableEq, Repr

inductive DecisionSourceErrorKind where
  | transient
  | permanent
  | wire
deriving DecidableEq, Repr

structure DecisionSourceError where
  kind : DecisionSourceErrorKind
  message : String
deriving DecidableEq, Repr

/-- The payload type stands for `Arc<P>`. -/
structure DecisionResult (P : Type) where
  decision : Decision
  payload : Option P := none
  validUntil : Option Nat := none
deriving DecidableEq, Repr

structure DecisionChange (T : Type) where
  subject : T
  decision : Option Decision
deriving DecidableEq, Repr

def DecisionSourceError.isPermanentStatus (error : DecisionSourceError) : Bool :=
  match error.kind with
  | .permanent | .wire => true
  | .transient => false

/-- What a source call can come to: a result, the statement that the authority
holds no decision, an error, or a panic, which the gate catches. -/
inductive Answer (P : Type) where
  | result (result : Option (DecisionResult P))
  | error (error : DecisionSourceError)
  | panicked
deriving DecidableEq, Repr

end PolicyGate
