import PolicyGate.Entry.Log

namespace PolicyGate

variable {T P : Type}

/-! What an entry is for: a verdict that is looked up, renewed, overruled and given up, one step at a
time.

Nothing is said here of who takes a step, or of what happens between two of them.
-/

/-- One change of an entry's snapshot. -/
inductive Lifecycle (config : PolicyGateConfig) (entry : Entry T) (before : EntrySnapshot P) :
    EntrySnapshot P → Prop where
  /-- the first lookup answers, in time -/
  | resolve (published checked : Nat) (result : DecisionResult P) (pending : before.state = .pending)
      (ordered : published ≤ checked)
      (inTime : entry.isExpiredAt (entry.decisionSnapshot config published result).word checked = false) :
      Lifecycle config entry before (entry.decisionSnapshot config published result)
  /-- a refresh renews a decision that had come into its refresh window, in time -/
  | renew (published checked : Nat) (result : DecisionResult P) (due : entry.DueBy published before)
      (ordered : published ≤ checked)
      (inTime : entry.isExpiredAt (entry.decisionSnapshot config published result).word checked = false) :
      Lifecycle config entry before (entry.decisionSnapshot config published result)
  /-- the authority changes its mind -/
  | overrule (published : Nat) (decision : Decision) :
      Lifecycle config entry before
        (entry.decisionSnapshot config published { decision, payload := none, validUntil := none })
  | expire (now : Nat) (expired : entry.isExpiredAt before.word now = true)
      (live : before.state ≠ .stale) : Lifecycle config entry before before.stale
  | invalidate : Lifecycle config entry before before.stale
  /-- the first lookup fails -/
  | fail (pending : before.state = .pending) : Lifecycle config entry before .failed

namespace Lifecycle

variable {config : PolicyGateConfig} {entry : Entry T} {before after final : EntrySnapshot P}

theorem fits (step : Lifecycle config entry before after) (fits : before.word < 2 ^ 64) :
    after.word < 2 ^ 64 := by
  cases step with
  | resolve published _ result => exact entry.decisionSnapshot_word_lt config published result
  | renew published _ result => exact entry.decisionSnapshot_word_lt config published result
  | overrule published => exact entry.decisionSnapshot_word_lt config published _
  | expire => exact staleWord_lt fits
  | invalidate => exact staleWord_lt fits
  | fail => exact EntrySnapshot.failed_fits

theorem leaves_pending (step : Lifecycle config entry before after) (fits : before.word < 2 ^ 64) :
    after.state ≠ .pending := by
  have decided : ∀ (published : Nat) (result : DecisionResult P),
      (entry.decisionSnapshot config published result).state ≠ .pending := by
    intro published result
    rw [Entry.decisionSnapshot_state]
    cases result.decision <;> simp [EntryState.ofDecision]
  cases step with
  | resolve published _ result => exact decided published result
  | renew published _ result => exact decided published result
  | overrule published => exact decided published _
  | expire => simp [EntrySnapshot.stale_state fits]
  | invalidate => simp [EntrySnapshot.stale_state fits]
  | fail => simp

inductive Path (config : PolicyGateConfig) (entry : Entry T) (start : EntrySnapshot P) :
    Nat → EntrySnapshot P → Prop where
  | start : Path config entry start 0 start
  | step {count : Nat} {before after : EntrySnapshot P} (path : Path config entry start count before)
      (step : Lifecycle config entry before after) : Path config entry start (count + 1) after

namespace Path

variable {start : EntrySnapshot P} {count : Nat}

theorem fits (path : Path config entry start count final) (fits : start.word < 2 ^ 64) :
    final.word < 2 ^ 64 := by
  induction path with
  | start => exact fits
  | step _ step ih => exact step.fits ih

theorem pending (path : Path config entry start count final) (fits : start.word < 2 ^ 64)
    (pending : final.state = .pending) : count = 0 := by
  cases path with
  | start => rfl
  | step path step => exact absurd pending (step.leaves_pending (path.fits fits))

theorem eq_start (path : Path config entry start 0 final) : final = start := by
  cases path with
  | start => rfl

theorem single (path : Path config entry start 1 final) : Lifecycle config entry start final := by
  cases path with
  | step path step => exact path.eq_start ▸ step

end Path

end Lifecycle

namespace EntryLog

variable {config : PolicyGateConfig} {entry : Entry T} {event : EntryEvent T P} {log : EntryLog T P}

theorem EventAccounted.lifecycle (accounted : EventAccounted config entry log event)
    (touches : event.touches = true) :
    Lifecycle config entry (current config entry log) (current config entry (event :: log)) := by
  cases event with
  | published publication =>
      obtain ⟨_, due⟩ := accounted
      cases origin : publication.origin with
      | cold =>
          simp only [origin] at due
          obtain ⟨pending, ordered, inTime, _⟩ := due
          exact .resolve _ _ _ pending ordered inTime
      | refresh =>
          simp only [origin] at due
          obtain ⟨due, ordered, inTime, _⟩ := due
          exact .renew _ _ _ due ordered inTime
      | change =>
          simp only [origin] at due
          obtain ⟨noPayload, uncapped⟩ := due
          have plain : publication.result =
              { decision := publication.result.decision, payload := none, validUntil := none } := by
            rw [← noPayload, ← uncapped]
          rw [current, plain]
          exact .overrule _ _
  | latched reader now => exact .expire now accounted.1 accounted.2
  | invalidated => exact .invalidate
  | failed => exact .fail accounted
  | started | returned | cooled | observed => cases touches

theorem EventAccounted.revives (accounted : EventAccounted config entry log event)
    (stale : (current config entry log).state = .stale)
    (live : (current config entry (event :: log)).state ≠ .stale) :
    ∃ publication, event = .published publication ∧ publication.origin = .change ∧
      publication.result.payload = none ∧ publication.result.validUntil = none := by
  cases event with
  | published publication =>
      obtain ⟨_, due⟩ := accounted
      refine ⟨publication, rfl, ?_⟩
      cases origin : publication.origin with
      | cold =>
          simp only [origin] at due
          exact absurd (stale.symm.trans due.1) (by decide)
      | refresh =>
          simp only [origin] at due
          exact absurd (stale ▸ due.1.authoritative) (by simp)
      | change =>
          simp only [origin] at due
          exact ⟨rfl, due⟩
  | latched | invalidated => exact absurd (EntrySnapshot.stale_state (current_word_lt log)) live
  | failed => exact absurd (stale.symm.trans accounted) (by decide)
  | started | returned | cooled | observed => exact absurd stale live

/-- The log tells the path from any earlier snapshot to the one in force. -/
theorem Accounted.path {later earlier : EntryLog T P}
    (accounted : Accounted config entry (later ++ earlier)) :
    Lifecycle.Path config entry (current config entry earlier) (EntryLog.touches later)
      (current config entry (later ++ earlier)) := by
  induction later with
  | nil => exact .start
  | cons event rest ih =>
      have path := ih accounted.2
      rw [touches_cons]
      cases touches : event.touches with
      | true => exact path.step (accounted.1.lifecycle touches)
      | false =>
          rw [List.cons_append, current_cons_of_not_touches touches]
          exact path

end EntryLog

end PolicyGate
