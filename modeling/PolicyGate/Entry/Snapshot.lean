import PolicyGate.Entry.Word

namespace PolicyGate

/-- The fields of an entry that never change.  `id` is the identity of its `Arc`;
the source keeps `subject` only in the closures made for the entry. -/
structure Entry (T : Type) where
  id : Nat
  subject : T
  epoch : Nat
  refreshBefore : Nat
deriving DecidableEq, Repr

/-- Encoded state and deadline, payload, and earliest refresh tick. -/
structure EntrySnapshot (P : Type) where
  word : Nat
  payload : Option P
  refreshTick : Nat
deriving DecidableEq, Repr

namespace EntrySnapshot

variable {P : Type}

def state (snapshot : EntrySnapshot P) : EntryState := decodeEntryState snapshot.word

def deadline (snapshot : EntrySnapshot P) : Nat := deadlineBits snapshot.word

def pending : EntrySnapshot P := ⟨PolicyGate.word .pending noExpiry, none, 0⟩

/-- What a failed cold lookup leaves. -/
def failed : EntrySnapshot P := ⟨PolicyGate.word .stale noExpiry, none, 0⟩

/-- What the expiry latch and `Entry::invalidate` leave. -/
def stale (snapshot : EntrySnapshot P) : EntrySnapshot P := ⟨staleWord snapshot.word, none, 0⟩

end EntrySnapshot

namespace Entry

variable {T P : Type}

def refreshBeforeOf (config : PolicyGateConfig) : Nat :=
  (toU64 config.refreshBeforeExpiry).getD u64Max

def tick (entry : Entry T) (now : Nat) : Nat :=
  min ((toU64 (now - entry.epoch)).getD maxFiniteDeadline) maxFiniteDeadline

def deadlineAfter (entry : Entry T) (now : Nat) (ttl : Nat) : Nat :=
  if ttl = Duration.max then noExpiry
  else
    let now := entry.tick now
    match toU64 ttl with
    | none => now
    | some ttl =>
        ((checkedAddU64 now ttl).filter fun deadline => deadline < noExpiry).getD now

def isExpiredAt (entry : Entry T) (decision : Nat) (now : Nat) : Bool :=
  deadlineBits decision != noExpiry && deadlineBits decision ≤ entry.tick now

def cooledTick (config : PolicyGateConfig) (entry : Entry T) (now : Nat) : Nat :=
  saturatingAddU64 (entry.tick now) ((toU64 config.permanentFailureCooldown).getD u64Max)

/-- The part of `refresh_eligible_at` that needs no more than the snapshot. -/
def inRefreshWindow (entry : Entry T) (current : EntrySnapshot P) (now : Nat) : Bool :=
  current.deadline != noExpiry && current.state.Authoritative &&
    entry.tick now < current.deadline && current.refreshTick ≤ entry.tick now &&
    current.deadline - entry.tick now ≤ entry.refreshBefore

/-- The decision was inside its refresh window no later than at `now`. -/
def DueBy (entry : Entry T) (now : Nat) (current : EntrySnapshot P) : Prop :=
  ∃ t, t ≤ now ∧ entry.inRefreshWindow current t = true

def publishedDeadline (config : PolicyGateConfig) (entry : Entry T) (now : Nat)
    (result : DecisionResult P) : Nat :=
  let configured := entry.deadlineAfter now config.decisionFreshnessTtl
  match result.validUntil with
  | none => configured
  | some cap => min configured (entry.tick cap)

/-- `decision_snapshot` at the clock reading `now`. -/
def decisionSnapshot (config : PolicyGateConfig) (entry : Entry T) (now : Nat)
    (result : DecisionResult P) : EntrySnapshot P :=
  let deadline := publishedDeadline config entry now result
  let remaining := deadline - entry.tick now
  let refreshAfter :=
    if remaining ≤ entry.refreshBefore then entry.tick now + (remaining + 1) / 2 else 0
  { word := word (.ofDecision result.decision) deadline
    payload := if result.decision = .allowed then result.payload else none
    refreshTick := refreshAfter }

theorem authoritative_of_inRefreshWindow {entry : Entry T} {now : Nat} {current : EntrySnapshot P}
    (inside : entry.inRefreshWindow current now = true) : current.state.Authoritative := by
  simp only [inRefreshWindow, Bool.and_eq_true, decide_eq_true_eq] at inside
  exact inside.1.1.1.2

theorem DueBy.authoritative {entry : Entry T} {now : Nat} {current : EntrySnapshot P}
    (due : entry.DueBy now current) : current.state.Authoritative := by
  obtain ⟨_, _, inside⟩ := due
  exact authoritative_of_inRefreshWindow inside

theorem DueBy.mono {entry : Entry T} {now later : Nat} {current : EntrySnapshot P}
    (due : entry.DueBy now current) (ordered : now ≤ later) : entry.DueBy later current := by
  obtain ⟨t, past, inside⟩ := due
  exact ⟨t, past.trans ordered, inside⟩

theorem tick_le (entry : Entry T) (now : Nat) : entry.tick now ≤ maxFiniteDeadline :=
  min_le_right _ _

theorem tick_eq (entry : Entry T) (now : Nat) :
    entry.tick now = min (now - entry.epoch) maxFiniteDeadline := by
  unfold tick toU64
  split
  · rfl
  · rename_i large
    have : maxFiniteDeadline ≤ u64Max := by decide
    simp only [Option.getD_none]
    omega

theorem tick_mono (entry : Entry T) {earlier later : Nat} (ordered : earlier ≤ later) :
    entry.tick earlier ≤ entry.tick later := by
  rw [tick_eq, tick_eq]
  omega

theorem cooledTick_mono (config : PolicyGateConfig) (entry : Entry T) {earlier later : Nat}
    (ordered : earlier ≤ later) : entry.cooledTick config earlier ≤ entry.cooledTick config later := by
  have ticks := entry.tick_mono ordered
  unfold cooledTick saturatingAddU64
  omega

theorem cooled_of_tick {config : PolicyGateConfig} {entry : Entry T} {failed now clock : Nat}
    (past : failed ≤ clock) (ordered : now ≤ clock)
    (cooled : entry.cooledTick config failed ≤ entry.tick now) :
    failed + config.permanentFailureCooldown ≤ clock := by
  have below : maxFiniteDeadline < u64Max := by decide
  have bound := entry.tick_le now
  unfold cooledTick saturatingAddU64 toU64 at cooled
  split at cooled
  · rw [tick_eq, tick_eq, Option.getD_some] at cooled
    rw [tick_eq] at bound
    omega
  · rw [Option.getD_none] at cooled
    omega

/-- With a finite TTL the deadline is exact where it is representable, and expired at once elsewhere. -/
theorem deadlineAfter_eq (entry : Entry T) (now : Nat) {ttl : Nat}
    (finite : ttl ≠ Duration.max) :
    entry.deadlineAfter now ttl =
      if entry.tick now + ttl < noExpiry then entry.tick now + ttl else entry.tick now := by
  have small : noExpiry ≤ u64Max := by decide
  unfold deadlineAfter checkedAddU64 toU64
  rw [if_neg finite]
  by_cases representable : entry.tick now + ttl < noExpiry
  · have fits : ttl ≤ u64Max := by omega
    have fitsSum : entry.tick now + ttl ≤ u64Max := by omega
    simp [fits, fitsSum, representable, Option.filter]
  · by_cases fits : ttl ≤ u64Max
    · by_cases fitsSum : entry.tick now + ttl ≤ u64Max <;>
        simp [fits, fitsSum, representable, Option.filter]
    · simp [fits, representable]

theorem deadlineAfter_lt (entry : Entry T) (now : Nat) {ttl : Nat}
    (finite : ttl ≠ Duration.max) : entry.deadlineAfter now ttl < noExpiry := by
  have bound := entry.tick_le now
  have below : maxFiniteDeadline < noExpiry := by decide
  rw [deadlineAfter_eq entry now finite]
  split <;> omega

theorem deadlineAfter_le (entry : Entry T) (now : Nat) (ttl : Nat) :
    entry.deadlineAfter now ttl ≤ noExpiry := by
  by_cases finite : ttl = Duration.max
  · simp [deadlineAfter, finite]
  · exact (entry.deadlineAfter_lt now finite).le

theorem deadlineAfter_le_add (entry : Entry T) (now : Nat) {ttl : Nat}
    (finite : ttl ≠ Duration.max) : entry.deadlineAfter now ttl ≤ entry.tick now + ttl := by
  rw [deadlineAfter_eq entry now finite]
  split <;> omega

theorem publishedDeadline_le (config : PolicyGateConfig) (entry : Entry T) (now : Nat)
    (result : DecisionResult P) : publishedDeadline config entry now result ≤ noExpiry := by
  have bound := entry.deadlineAfter_le now config.decisionFreshnessTtl
  unfold publishedDeadline
  cases result.validUntil with
  | none => exact bound
  | some cap => exact le_trans (min_le_left _ _) bound

theorem publishedDeadline_lt (config : PolicyGateConfig) (entry : Entry T) (now : Nat)
    (result : DecisionResult P) : publishedDeadline config entry now result < 2 ^ 62 :=
  lt_of_le_of_lt (publishedDeadline_le config entry now result) (by decide)

theorem publishedDeadline_eq_noExpiry {config : PolicyGateConfig} {entry : Entry T} {now : Nat}
    {result : DecisionResult P} (absent : publishedDeadline config entry now result = noExpiry) :
    config.decisionFreshnessTtl = Duration.max ∧ result.validUntil = none := by
  have below : maxFiniteDeadline < noExpiry := by decide
  unfold publishedDeadline at absent
  cases cap : result.validUntil with
  | none =>
      simp only [cap] at absent
      refine ⟨?_, rfl⟩
      by_contra finite
      exact absurd absent (entry.deadlineAfter_lt now finite).ne
  | some cap' =>
      simp only [cap] at absent
      have := entry.tick_le cap'
      omega

@[simp] theorem decisionSnapshot_state (config : PolicyGateConfig) (entry : Entry T) (now : Nat)
    (result : DecisionResult P) :
    (decisionSnapshot config entry now result).state = .ofDecision result.decision :=
  decodeEntryState_word _ (publishedDeadline_lt config entry now result)

@[simp] theorem decisionSnapshot_deadline (config : PolicyGateConfig) (entry : Entry T)
    (now : Nat) (result : DecisionResult P) :
    (decisionSnapshot config entry now result).deadline =
      publishedDeadline config entry now result :=
  deadlineBits_word _ (publishedDeadline_lt config entry now result)

theorem decisionSnapshot_word_lt (config : PolicyGateConfig) (entry : Entry T) (now : Nat)
    (result : DecisionResult P) : (decisionSnapshot config entry now result).word < 2 ^ 64 :=
  word_lt _ (publishedDeadline_lt config entry now result)

end Entry

namespace EntryState

@[simp] theorem authoritative_ofDecision (decision : Decision) :
    (EntryState.ofDecision decision).Authoritative := by
  cases decision <;> simp [Authoritative, ofDecision]

@[simp] theorem not_authoritative_pending : ¬ EntryState.pending.Authoritative := by
  simp [Authoritative]

@[simp] theorem not_authoritative_stale : ¬ EntryState.stale.Authoritative := by
  simp [Authoritative]

end EntryState

namespace EntrySnapshot

variable {P : Type}

@[simp] theorem pending_state : (pending : EntrySnapshot P).state = .pending :=
  decodeEntryState_word _ (by decide)

@[simp] theorem pending_deadline : (pending : EntrySnapshot P).deadline = noExpiry :=
  deadlineBits_word _ (by decide)

@[simp] theorem failed_state : (failed : EntrySnapshot P).state = .stale :=
  decodeEntryState_word _ (by decide)

@[simp] theorem failed_deadline : (failed : EntrySnapshot P).deadline = noExpiry :=
  deadlineBits_word _ (by decide)

theorem failed_fits : (failed : EntrySnapshot P).word < 2 ^ 64 := word_lt _ (by decide)

theorem stale_state {snapshot : EntrySnapshot P} (fits : snapshot.word < 2 ^ 64) :
    snapshot.stale.state = .stale :=
  decodeEntryState_staleWord fits

theorem stale_deadline {snapshot : EntrySnapshot P} (fits : snapshot.word < 2 ^ 64) :
    snapshot.stale.deadline = snapshot.deadline :=
  deadlineBits_staleWord fits

end EntrySnapshot

end PolicyGate
