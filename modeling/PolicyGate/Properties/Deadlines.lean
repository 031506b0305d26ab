import PolicyGate.Gate.State

namespace PolicyGate

variable {T P : Type} {config : PolicyGateConfig} {entry : Entry T} {now t : Nat}

/-- The instant from which a result published at `now` is to be expired; `none` where never. -/
def exactExpiry (config : PolicyGateConfig) (now : Nat) (result : DecisionResult P) : Option Nat :=
  match result.validUntil with
  | none =>
      if config.decisionFreshnessTtl = Duration.max then none
      else some (now + config.decisionFreshnessTtl)
  | some cap =>
      if config.decisionFreshnessTtl = Duration.max then some cap
      else some (min (now + config.decisionFreshnessTtl) cap)

namespace Entry

theorem deadline_le_tick {deadline : Nat} (small : deadline ≤ maxFiniteDeadline)
    (since : entry.epoch ≤ t) : deadline ≤ entry.tick t ↔ entry.epoch + deadline ≤ t := by
  rw [tick_eq]
  omega

theorem isExpiredAt_word {state : EntryState} {deadline : Nat} (small : deadline < 2 ^ 62) :
    entry.isExpiredAt (word state deadline) t = true ↔
      deadline ≠ noExpiry ∧ deadline ≤ entry.tick t := by
  rw [isExpiredAt, deadlineBits_word state small]
  simp

theorem deadlineAfter_exact {ttl : Nat} (finite : ttl ≠ Duration.max) (since : entry.epoch ≤ now)
    (inRange : now + ttl ≤ entry.epoch + maxFiniteDeadline) :
    entry.epoch + entry.deadlineAfter now ttl = now + ttl := by
  have below : maxFiniteDeadline < noExpiry := by decide
  have ticked := entry.tick_eq now
  rw [deadlineAfter_eq entry now finite]
  split <;> omega

theorem deadlineAfter_unrepresentable {ttl : Nat} (finite : ttl ≠ Duration.max)
    (outOfRange : entry.epoch + maxFiniteDeadline < now + ttl) :
    entry.deadlineAfter now ttl ≤ entry.tick now := by
  have small : maxFiniteDeadline + 1 = noExpiry := by decide
  have ticked := entry.tick_eq now
  rw [deadlineAfter_eq entry now finite]
  split <;> omega

theorem tick_cap_le {cap : Nat} (inRange : cap ≤ entry.epoch + maxFiniteDeadline)
    (since : entry.epoch ≤ t) : entry.tick cap ≤ entry.tick t ↔ cap ≤ t := by
  rw [tick_eq, tick_eq]
  omega

theorem publishedDeadline_le_deadlineAfter (result : DecisionResult P) :
    publishedDeadline config entry now result ≤
      entry.deadlineAfter now config.decisionFreshnessTtl := by
  unfold publishedDeadline
  cases result.validUntil with
  | none => exact le_rfl
  | some cap => exact min_le_left _ _

theorem isExpiredAt_exact {result : DecisionResult P} (since : entry.epoch ≤ now)
    (ttl : config.decisionFreshnessTtl = Duration.max ∨
      now + config.decisionFreshnessTtl ≤ entry.epoch + maxFiniteDeadline)
    (inRange : ∀ expiry, exactExpiry config now result = some expiry →
      expiry ≤ entry.epoch + maxFiniteDeadline) (later : entry.epoch ≤ t) :
    entry.isExpiredAt (entry.decisionSnapshot config now result).word t = true ↔
      ∃ expiry, exactExpiry config now result = some expiry ∧ expiry ≤ t := by
  have below : maxFiniteDeadline < noExpiry := by decide
  have bound := entry.tick_le t
  rw [decisionSnapshot, isExpiredAt_word (entry.publishedDeadline_lt config now result)]
  unfold publishedDeadline exactExpiry at *
  by_cases unlimited : config.decisionFreshnessTtl = Duration.max
  · have configured : entry.deadlineAfter now config.decisionFreshnessTtl = noExpiry := by
      rw [deadlineAfter, if_pos unlimited]
    rw [configured]
    cases capped : result.validUntil with
    | none => simp [unlimited]
    | some cap =>
        simp only [capped, if_pos unlimited, Option.some.injEq, forall_eq'] at inRange ⊢
        have ticked := entry.tick_le cap
        have early := entry.tick_cap_le inRange later
        simp only [exists_eq_left']
        omega
  · have finite := ttl.resolve_left unlimited
    have configured := entry.deadlineAfter_exact unlimited since finite
    have small := entry.deadlineAfter_lt now unlimited
    have ticked : entry.deadlineAfter now config.decisionFreshnessTtl ≤ entry.tick t ↔
        entry.epoch + entry.deadlineAfter now config.decisionFreshnessTtl ≤ t :=
      entry.deadline_le_tick (by omega) later
    cases capped : result.validUntil with
    | none =>
        simp only [if_neg unlimited, Option.some.injEq, exists_eq_left']
        omega
    | some cap =>
        have ticked' := entry.tick_le cap
        have early : cap ≤ entry.epoch + maxFiniteDeadline → (entry.tick cap ≤ entry.tick t ↔ cap ≤ t) :=
          fun inside => entry.tick_cap_le inside later
        have saturated := entry.tick_eq cap
        simp only [if_neg unlimited, Option.some.injEq, exists_eq_left']
        omega

end Entry

/-- The deadline fits its 62 bits and comes back from the word, whose state bits are all that a latch
changes; no step of the arithmetic leaves its type; in range the word is expired from the exact instant
on; and a finite TTL out of range is expired at once. -/
theorem packed_deadlines_exact (config : PolicyGateConfig) (entry : Entry T) {now : Nat}
    (since : entry.epoch ≤ now) (result : DecisionResult P) :
    (entry.publishedDeadline config now result < 2 ^ 62 ∧
      (entry.decisionSnapshot config now result).state = .ofDecision result.decision ∧
      (entry.decisionSnapshot config now result).deadline =
        entry.publishedDeadline config now result) ∧
    (∀ state deadline, deadline < 2 ^ 62 → deadline <<< 2 ≤ u64Max ∧
      decodeEntryState (word state deadline) = state ∧
      deadlineBits (word state deadline) = deadline ∧
      staleWord (word state deadline) = word .stale deadline) ∧
    (entry.tick now + (entry.publishedDeadline config now result - entry.tick now + 1) / 2 ≤ u64Max ∧
      entry.deadlineAfter now config.decisionFreshnessTtl ≤ u64Max ∧
      ∀ (current : EntrySnapshot P) t, entry.inRefreshWindow current t = true →
        entry.tick t < current.deadline) ∧
    ((config.decisionFreshnessTtl = Duration.max ∨
        now + config.decisionFreshnessTtl ≤ entry.epoch + (2 ^ 62 - 2)) →
      (∀ expiry, exactExpiry config now result = some expiry →
        expiry ≤ entry.epoch + (2 ^ 62 - 2)) →
      ∀ t, entry.epoch ≤ t →
        (entry.isExpiredAt (entry.decisionSnapshot config now result).word t = true ↔
          ∃ expiry, exactExpiry config now result = some expiry ∧ expiry ≤ t)) ∧
    (config.decisionFreshnessTtl ≠ Duration.max →
      entry.epoch + (2 ^ 62 - 2) < now + config.decisionFreshnessTtl →
      ∀ t, now ≤ t →
        entry.isExpiredAt (entry.decisionSnapshot config now result).word t = true) := by
  have small := entry.publishedDeadline_lt config now result
  have ticked := entry.tick_le now
  have largest : maxFiniteDeadline = 2 ^ 62 - 2 := by decide
  have wide : u64Max = 2 ^ 64 - 1 := rfl
  have sentinel : noExpiry = 2 ^ 62 - 1 := rfl
  refine ⟨⟨small, entry.decisionSnapshot_state config now result,
    entry.decisionSnapshot_deadline config now result⟩, fun state deadline fits => ?_, ⟨?_, ?_, ?_⟩,
    fun ttl inRange t later => ?_, fun finite outOfRange t later => ?_⟩
  · refine ⟨?_, decodeEntryState_word state fits, deadlineBits_word state fits,
      staleWord_word state fits⟩
    rw [Nat.shiftLeft_eq]
    omega
  · omega
  · have configured := entry.deadlineAfter_le now config.decisionFreshnessTtl
    omega
  · intro current t inside
    simp only [Entry.inRefreshWindow, Bool.and_eq_true, decide_eq_true_eq] at inside
    exact inside.1.1.2
  · exact Entry.isExpiredAt_exact since ttl inRange later
  · have past := entry.deadlineAfter_unrepresentable finite outOfRange
    have capped : entry.publishedDeadline config now result ≤
        entry.deadlineAfter now config.decisionFreshnessTtl :=
      entry.publishedDeadline_le_deadlineAfter result
    have onward := entry.tick_mono later
    rw [Entry.decisionSnapshot, Entry.isExpiredAt_word small]
    omega

theorem packed_deadlines_exact_sample :
    let entry : Entry Nat := { id := 0, subject := 0, epoch := 5, refreshBefore := 40 }
    let config : PolicyGateConfig := { decisionFreshnessTtl := 100 }
    let result : DecisionResult Nat := { decision := .allowed, validUntil := some 60 }
    entry.isExpiredAt (entry.decisionSnapshot config 7 result).word 59 = false ∧
      entry.isExpiredAt (entry.decisionSnapshot config 7 result).word 60 = true := by
  intro entry config result
  have decides := (packed_deadlines_exact config entry (by decide : 5 ≤ 7) result).2.2.2.1 (by decide)
    (by decide)
  refine ⟨Bool.eq_false_iff.mpr fun expired => ?_, (decides 60 (by decide)).mpr ⟨60, rfl, le_rfl⟩⟩
  obtain ⟨expiry, same, passed⟩ := (decides 59 (by decide)).mp expired
  obtain rfl : 60 = expiry := Option.some.inj same
  omega

end PolicyGate
