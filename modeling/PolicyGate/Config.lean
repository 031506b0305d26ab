import PolicyGate.Time

namespace PolicyGate

structure PolicyGateConfig where
  unaryTimeout : Nat := Duration.ofSecs 2
  admissionTimeout : Nat := Duration.ofSecs 10
  initialAdmissionRetryDelay : Nat := Duration.ofMillis 100
  maxAdmissionRetryDelay : Nat := Duration.ofSecs 1
  permanentFailureCooldown : Nat := Duration.ofSecs 1
  snapshotRepublishInterval : Nat := Duration.ofMillis 10
  initialReconnectDelay : Nat := Duration.ofMillis 100
  maxReconnectDelay : Nat := Duration.ofSecs 5
  watchEventsPerYield : Nat := 64
  maxSubjects : Nat := 65536
  subjectTtl : Nat := Duration.ofSecs 3600
  decisionFreshnessTtl : Nat := Duration.max
  refreshBeforeExpiry : Nat := 0
  refreshEnqueueTimeout : Nat := Duration.ofMillis 100
  refreshQueueCapacity : Nat := 1024
deriving DecidableEq, Repr

inductive ConfigError where
  | unaryExceedsAdmission
  | initialAdmissionRetryDelayZero
  | initialRetryExceedsMaximum
  | initialReconnectDelayZero
  | initialReconnectExceedsMaximum
  | watchEventsPerYieldZero
  | admissionDeadlineOverflow
  | durationOverflow (name : String)
  | maxSubjectsZero
  | refreshQueueCapacityZero
  | refreshEnqueueTimeoutZero
  | decisionFreshnessTtlZero
  | refreshRequiresFiniteDecisionFreshnessTtl
  | refreshWindowNotLessThanDecisionFreshnessTtl
deriving DecidableEq, Repr

namespace PolicyGateConfig

/-- The durations `build` checks one by one, under the names its error carries. -/
def checkedDurations (candidate : PolicyGateConfig) : List (String × Nat) :=
  [("initial admission retry delay", candidate.initialAdmissionRetryDelay),
   ("maximum admission retry delay", candidate.maxAdmissionRetryDelay),
   ("permanent failure cooldown", candidate.permanentFailureCooldown),
   ("snapshot republish interval", candidate.snapshotRepublishInterval),
   ("initial reconnect delay", candidate.initialReconnectDelay),
   ("maximum reconnect delay", candidate.maxReconnectDelay),
   ("refresh enqueue timeout", candidate.refreshEnqueueTimeout)]

/-- `PolicyGateConfigBuilder::build` at the clock reading `now`, on a platform
whose latest instant is `latest`. -/
def build (latest now : Nat) (candidate : PolicyGateConfig) :
    Except ConfigError PolicyGateConfig := do
  if candidate.unaryTimeout > candidate.admissionTimeout then
    throw .unaryExceedsAdmission
  if candidate.initialAdmissionRetryDelay = 0 then
    throw .initialAdmissionRetryDelayZero
  if candidate.initialAdmissionRetryDelay > candidate.maxAdmissionRetryDelay then
    throw .initialRetryExceedsMaximum
  if candidate.initialReconnectDelay = 0 then
    throw .initialReconnectDelayZero
  if candidate.initialReconnectDelay > candidate.maxReconnectDelay then
    throw .initialReconnectExceedsMaximum
  if candidate.watchEventsPerYield = 0 then
    throw .watchEventsPerYieldZero
  if (Instant.checkedAdd latest now candidate.admissionTimeout).isNone then
    throw .admissionDeadlineOverflow
  match candidate.checkedDurations.find? fun entry =>
      (Instant.checkedAdd latest now entry.2).isNone with
  | some (name, _) => throw (.durationOverflow name)
  | none => pure ()
  if candidate.maxSubjects = 0 then
    throw .maxSubjectsZero
  if candidate.refreshQueueCapacity = 0 then
    throw .refreshQueueCapacityZero
  if candidate.refreshEnqueueTimeout = 0 then
    throw .refreshEnqueueTimeoutZero
  if candidate.decisionFreshnessTtl = 0 then
    throw .decisionFreshnessTtlZero
  if candidate.refreshBeforeExpiry ≠ 0 ∧ candidate.decisionFreshnessTtl = Duration.max then
    throw .refreshRequiresFiniteDecisionFreshnessTtl
  if candidate.refreshBeforeExpiry ≥ candidate.decisionFreshnessTtl then
    throw .refreshWindowNotLessThanDecisionFreshnessTtl
  if candidate.decisionFreshnessTtl ≠ Duration.max ∧
      (Instant.checkedAdd latest now candidate.decisionFreshnessTtl).isNone then
    throw (.durationOverflow "decision freshness TTL")
  return candidate

/-- What `build` accepts at the clock reading `now`. -/
structure Valid (latest now : Nat) (config : PolicyGateConfig) : Prop where
  unary : config.unaryTimeout ≤ config.admissionTimeout
  admissionRetry : 0 < config.initialAdmissionRetryDelay
  admissionRetries : config.initialAdmissionRetryDelay ≤ config.maxAdmissionRetryDelay
  reconnect : 0 < config.initialReconnectDelay
  reconnects : config.initialReconnectDelay ≤ config.maxReconnectDelay
  eventsPerYield : 0 < config.watchEventsPerYield
  admission : now + config.admissionTimeout ≤ latest
  durations : ∀ entry ∈ config.checkedDurations, now + entry.2 ≤ latest
  subjects : 0 < config.maxSubjects
  queue : 0 < config.refreshQueueCapacity
  enqueue : 0 < config.refreshEnqueueTimeout
  freshness : 0 < config.decisionFreshnessTtl
  finite : config.refreshBeforeExpiry ≠ 0 → config.decisionFreshnessTtl ≠ Duration.max
  window : config.refreshBeforeExpiry < config.decisionFreshnessTtl
  freshnessFits : config.decisionFreshnessTtl ≠ Duration.max →
    now + config.decisionFreshnessTtl ≤ latest

theorem isNone_checkedAdd {latest now duration : Nat} :
    (Instant.checkedAdd latest now duration).isNone = true ↔ latest < now + duration := by
  unfold Instant.checkedAdd
  split <;> simp <;> omega

theorem passed_iff {fails : Prop} [Decidable fails] {error : ConfigError}
    {rest : Except ConfigError PolicyGateConfig} {config : PolicyGateConfig} :
    (if fails then .error error else rest) = .ok config ↔ ¬ fails ∧ rest = .ok config := by
  split <;> simp [*]

theorem find_overflow_eq_none {latest now : Nat} {durations : List (String × Nat)} :
    (durations.find? fun entry => (Instant.checkedAdd latest now entry.2).isNone) = none ↔
      ∀ entry ∈ durations, now + entry.2 ≤ latest := by
  rw [List.find?_eq_none]
  refine forall₂_congr fun entry _ => ?_
  rw [isNone_checkedAdd]
  omega

/-- `build` hands out the candidate itself, and only a valid one. -/
theorem build_eq_ok_iff {latest now : Nat} {candidate config : PolicyGateConfig} :
    candidate.build latest now = .ok config ↔ candidate = config ∧ candidate.Valid latest now := by
  have overflow := @find_overflow_eq_none latest now candidate.checkedDurations
  unfold build
  cases found : candidate.checkedDurations.find? fun entry =>
      (Instant.checkedAdd latest now entry.2).isNone with
  | some entry =>
      have invalid : ¬ candidate.Valid latest now := fun valid => by
        rw [overflow.mpr valid.durations] at found
        cases found
      simp [throw, throwThe, MonadExceptOf.throw, bind, Except.bind, passed_iff, invalid]
  | none =>
      have durations := overflow.mp found
      simp only [throw, throwThe, MonadExceptOf.throw, bind, Except.bind, pure, Except.pure,
        passed_iff, isNone_checkedAdd, Except.ok.injEq]
      constructor
      · rintro ⟨unary, admissionRetry, admissionRetries, reconnect, reconnects, events, admission,
          subjects, queue, enqueue, freshness, finite, window, freshnessFits, same⟩
        refine ⟨same, ?_⟩
        constructor <;> first | assumption | omega
      · rintro ⟨same, valid⟩
        obtain ⟨unary, admissionRetry, admissionRetries, reconnect, reconnects, events, admission,
          durations, subjects, queue, enqueue, freshness, finite, window, freshnessFits⟩ := valid
        refine ⟨?_, ?_, ?_, ?_, ?_, ?_, ?_, ?_, ?_, ?_, ?_, ?_, ?_, ?_, same⟩ <;> omega

end PolicyGateConfig

/-- What the gate's code is run with: its configuration, the platform's latest instant, and
the clock reading at its construction. -/
structure Runtime where
  config : PolicyGateConfig
  latest : Nat
  constructed : Nat

end PolicyGate
