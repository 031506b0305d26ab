import PolicyGate.Properties.Announcements
import PolicyGate.Gate.Lapsed

namespace PolicyGate

open Interleaving Program

variable {T P : Type} [DecidableEq T] {rt : Runtime} {authority : T → Option Decision}
  {calls : Nat → Call T} {c : Config (Gate T P)} {me you built : Nat} {subject : T}
  {start s : Gate T P} {result : DecisionResult P}

/-- The call returned an admission for `subject` that carries the decision of `result`, in force. -/
def Carries (subject : T) (result : DecisionResult P) (admission : Option (Entry T)) (s : Gate T P) :
    Prop :=
  ∃ entry cell, admission = some entry ∧ entry.subject = subject ∧ s.cells entry.id = some cell ∧
    cell.entry = entry ∧ cell.state = .ofDecision result.decision ∧
    cell.current.value.payload = (if result.decision = .allowed then result.payload else none) ∧
    entry.isExpiredAt cell.current.value.word s.clock = false

structure Gate.Connected (s : Gate T P) : Prop where
  connected : s.watch.connected = true
  opened : s.watch.closed = false

omit [DecidableEq T] in
theorem Gate.Invariant.fresh [DecidableEq T] (ok : s.Invariant rt.config) : Subjects.Fresh s := by
  refine ⟨ok.freshEntry, fun id cell fetch found held => ?_, ok.map.shelved⟩
  obtain ⟨flight, flown, _⟩ := ok.slots.held id cell fetch found held
  by_contra later
  rw [ok.freshGeneration _ (Nat.le_of_not_lt later)] at flown
  cases flown

omit [DecidableEq T] in
theorem refreshBeforeOf_lt {config : PolicyGateConfig} {ttl : Nat} (fits : ttl ≤ u64Max)
    (window : config.refreshBeforeExpiry < ttl) : Entry.refreshBeforeOf config < ttl := by
  have small : config.refreshBeforeExpiry ≤ u64Max := by omega
  rw [Entry.refreshBeforeOf, toU64, if_pos small]
  exact window

omit [DecidableEq T] in
/-- Under an accepted configuration an uncapped answer is in force when it is published, and a
refresh is not yet due. -/
theorem admissible_of_valid (valid : rt.config.Valid rt.latest built)
    (ttl : rt.config.decisionFreshnessTtl = Duration.max ∨ rt.config.decisionFreshnessTtl < 2 ^ 62 - 1)
    (uncapped : result.validUntil = none) :
    Admissible rt (Subjects.createdCell rt start subject start.clock) start.clock result := by
  set cell : EntryCell T P := Subjects.createdCell rt start subject start.clock
  have tick : cell.entry.tick start.clock = 0 := by
    rw [Entry.tick_eq]
    simp [cell, Subjects.createdCell, Subjects.createdEntry]
  have deadline : (cell.entry.decisionSnapshot rt.config start.clock result).deadline =
      cell.entry.deadlineAfter start.clock rt.config.decisionFreshnessTtl := by
    rw [Entry.decisionSnapshot_deadline, Entry.publishedDeadline, uncapped]
  have bits : deadlineBits (cell.entry.decisionSnapshot rt.config start.clock result).word =
      cell.entry.deadlineAfter start.clock rt.config.decisionFreshnessTtl := deadline
  have window : (cell.decided rt start.clock result).entry.refreshBefore =
      Entry.refreshBeforeOf rt.config := rfl
  have far : cell.entry.deadlineAfter start.clock rt.config.decisionFreshnessTtl = noExpiry ∨
      Entry.refreshBeforeOf rt.config <
        cell.entry.deadlineAfter start.clock rt.config.decisionFreshnessTtl := by
    rcases ttl with endless | finite
    · exact .inl (if_pos endless)
    · right
      have short : rt.config.decisionFreshnessTtl ≠ Duration.max := by
        have : 2 ^ 62 - 1 < Duration.max := by decide
        omega
      have within : rt.config.decisionFreshnessTtl < noExpiry := finite
      have small : rt.config.decisionFreshnessTtl ≤ u64Max := by
        have : noExpiry ≤ u64Max := by decide
        omega
      rw [Entry.deadlineAfter_eq _ _ short, tick, Nat.zero_add, if_pos within]
      exact refreshBeforeOf_lt small valid.window
  refine ⟨uncapped, ?_, ?_⟩
  · rw [Entry.isExpiredAt, bits, tick]
    rcases far with endless | later
    · simp [endless]
    · simp only [Bool.and_eq_false_iff, decide_eq_false_iff_not]
      exact .inr (by omega)
  · have outside : (cell.decided rt start.clock result).entry.inRefreshWindow
        (cell.decided rt start.clock result).current.value start.clock = false := by
      have same : (cell.decided rt start.clock result).current.value.deadline =
          cell.entry.deadlineAfter start.clock rt.config.decisionFreshnessTtl := deadline
      rcases far with endless | later
      · simp [Entry.inRefreshWindow, same, endless]
      · have tick' : (cell.decided rt start.clock result).entry.tick start.clock = 0 := tick
        have early : ¬ cell.entry.deadlineAfter start.clock rt.config.decisionFreshnessTtl ≤
            Entry.refreshBeforeOf rt.config := Nat.not_le_of_lt later
        simp [Entry.inRefreshWindow, same, tick', window, early]
    rw [EntryCell.dueAt, outside, Bool.false_and, Bool.false_and]

omit [DecidableEq T] in
theorem carries_of_applied {fetch : PendingFetch T P} {cell : EntryCell T P}
    (applied : Applied rt subject start cell fetch result s)
    (admissible : Admissible rt cell start.clock result) (key : cell.entry.subject = subject) :
    Carries subject result (some cell.entry) s := by
  obtain ⟨flight, _, _, _, rests⟩ := applied
  obtain ⟨log, found⟩ := rests.found
  refine ⟨cell.entry, _, rfl, key, found, rfl, Admissible.authoritative cell rt start.clock result, rfl, ?_⟩
  rw [rests.clock]
  exact admissible.live

theorem admitSubject_declines (hopeless : rt.latest < s.clock + rt.config.admissionTimeout ∨
    rt.config.admissionTimeout = 0) :
    (admitSubject rt subject : Program (Gate T P) _).Ends me (fun admission _ => admission = none) s := by
  refine .bind (.read s.clock rfl ?_)
  by_cases fits : s.clock + rt.config.admissionTimeout ≤ rt.latest
  · have late : rt.config.admissionTimeout = 0 := hopeless.resolve_left (Nat.not_lt_of_le fits)
    rw [checkedAdd, Instant.checkedAdd, if_pos fits]
    have past : s.clock + rt.config.admissionTimeout ≤ s.clock := by omega
    have expired : (awaitConnected (s.clock + rt.config.admissionTimeout) 0 :
        Program (Gate T P) _).Ends me (fun connection _ => connection = .timedOut) s := by
      refine .bind (.read s.clock rfl ?_)
      rw [if_pos past]
      exact .done rfl
    refine .iterate (.bind (expired.mono fun connection after held => ?_))
    subst held
    exact .done rfl
  · rw [checkedAdd, Instant.checkedAdd, if_neg fits]
    exact .done rfl

namespace Sample

def hasty : Runtime := { runtime with config := { runtime.config with unaryTimeout := 0 } }

/-- The gate is connected, nobody is in a critical section, and subject 0 is not cached. -/
def readyFor (s : Gate Nat Nat) : Bool :=
  s.watch.connected && !s.watch.closed && s.publish.lock.isNone && s.subjects.lock.isNone &&
    (s.subjects.cache.peek 0).isNone && s.clock ≤ 1000

theorem of_readyFor {s : Gate Nat Nat} (passed : readyFor s = true) :
    s.Connected ∧ s.Unlocked ∧ s.subjects.cache.peek 0 = none ∧ s.clock ≤ 1000 := by
  simp only [readyFor, Bool.and_eq_true, Bool.not_eq_true', Option.isNone_iff_eq_none,
    decide_eq_true_eq] at passed
  obtain ⟨⟨⟨⟨⟨connected, opened⟩, published⟩, free⟩, uncached⟩, early⟩ := passed
  exact ⟨⟨connected, opened⟩, ⟨published, free⟩, uncached, early⟩

def allows : DecisionResult Nat := { decision := .allowed, payload := some 7, validUntil := none }

end Sample

end PolicyGate
