import PolicyGate.Properties.Runs
import Mathlib.Data.Nat.Log

namespace PolicyGate

open Interleaving

variable {T P : Type} {config : PolicyGateConfig} {entry : Entry T} {now t cap : Nat}
  {result : DecisionResult P}

def Origin.isRefresh : Origin → Bool
  | .refresh _ => true
  | .cold _ | .change => false

namespace EntryEvent

def isRefresh : EntryEvent T P → Bool
  | .published publication => publication.origin.isRefresh
  | _ => false

theorem isPublication_of_isRefresh {event : EntryEvent T P} (refresh : event.isRefresh = true) :
    event.isPublication = true := by
  cases event with
  | published => rfl
  | latched | invalidated | failed | observed | started | returned | cooled => cases refresh

end EntryEvent

namespace Entry

def lifetime (config : PolicyGateConfig) (entry : Entry T) (publication : Publication P) : Nat :=
  publishedDeadline config entry publication.now publication.result - entry.tick publication.now

theorem inRefreshWindow_decisionSnapshot
    (inside : entry.inRefreshWindow (decisionSnapshot config entry now result) t = true) :
    entry.tick t < publishedDeadline config entry now result ∧
      publishedDeadline config entry now result ≤ entry.tick t + entry.refreshBefore ∧
      (publishedDeadline config entry now result ≤ entry.tick now + entry.refreshBefore →
        entry.tick now + (publishedDeadline config entry now result - entry.tick now + 1) / 2 ≤
          entry.tick t) := by
  simp only [inRefreshWindow, Bool.and_eq_true, decide_eq_true_eq, decisionSnapshot_deadline]
    at inside
  obtain ⟨⟨⟨_, live⟩, waited⟩, near⟩ := inside
  refine ⟨live, by omega, fun short => ?_⟩
  simp only [decisionSnapshot] at waited
  rwa [if_pos (by omega)] at waited

theorem refreshEligibleAt_of_outside {current : EntrySnapshot P}
    (outside : entry.inRefreshWindow current t ≠ true) :
    entry.refreshEligibleAt current t = (pure false : Program (Gate T P) Bool) := by
  rw [refreshEligibleAt, if_neg outside]

theorem publishedDeadline_eq_cap {checked : Nat} (capped : result.validUntil = some cap)
    (binding : entry.tick cap ≤ entry.tick now + config.decisionFreshnessTtl)
    (ordered : now ≤ checked) (unexpired :
      entry.isExpiredAt (decisionSnapshot config entry now result).word checked = false) :
    publishedDeadline config entry now result = entry.tick cap ∧
      entry.tick now < entry.tick cap := by
  have below : maxFiniteDeadline < noExpiry := by decide
  have ticked := entry.tick_le cap
  have onward := entry.tick_mono ordered
  have deadline : publishedDeadline config entry now result =
      min (entry.deadlineAfter now config.decisionFreshnessTtl) (entry.tick cap) := by
    rw [publishedDeadline, capped]
  have finite : publishedDeadline config entry now result ≠ noExpiry := by omega
  have live : entry.tick checked < publishedDeadline config entry now result := by
    have same := decisionSnapshot_deadline config entry now result
    rw [EntrySnapshot.deadline] at same
    simpa [isExpiredAt, same, finite] using unexpired
  have configured : entry.tick cap ≤ entry.deadlineAfter now config.decisionFreshnessTtl := by
    by_cases unlimited : config.decisionFreshnessTtl = Duration.max
    · rw [deadlineAfter, if_pos unlimited]
      omega
    · have after := deadlineAfter_eq entry now unlimited
      split at after <;> omega
  omega

end Entry

namespace EntryLog

/-- The publication carries the cap, which is its deadline. -/
structure Capped (config : PolicyGateConfig) (entry : Entry T) (cap : Nat)
    (publication : Publication P) : Prop where
  deadline : entry.publishedDeadline config publication.now publication.result = entry.tick cap
  binding : entry.tick cap ≤ entry.tick publication.now + config.decisionFreshnessTtl
  live : entry.tick publication.now < entry.tick cap

theorem Latest.unique {log : EntryLog T P} {first second : Publication P}
    (left : Latest first log) (right : Latest second log) : first = second := by
  obtain ⟨later, earlier, rfl, quiet⟩ := left
  obtain ⟨later', earlier', same, quiet'⟩ := right
  induction later generalizing later' with
  | nil =>
      cases later' with
      | nil => exact EntryEvent.published.inj (List.cons.inj same).1
      | cons event rest =>
          obtain ⟨rfl, _⟩ := List.cons.inj same
          simp [EntryEvent.isPublication] at quiet'
  | cons event rest ih =>
      cases later' with
      | nil =>
          obtain ⟨rfl, _⟩ := List.cons.inj same
          simp [EntryEvent.isPublication] at quiet
      | cons event' rest' =>
          obtain ⟨rfl, tail⟩ := List.cons.inj same
          rw [List.countP_cons] at quiet quiet'
          exact ih (by omega) rest' tail (by omega)

theorem Latest.of_cons {log : EntryLog T P} {publication : Publication P} {event : EntryEvent T P}
    (quiet : event.isPublication = false) (latest : Latest publication (event :: log)) :
    Latest publication log := by
  obtain ⟨later, earlier, split, none_later⟩ := latest
  cases later with
  | nil =>
      obtain ⟨rfl, _⟩ := List.cons.inj split
      cases quiet
  | cons head rest =>
      obtain ⟨rfl, rfl⟩ := List.cons.inj split
      rw [List.countP_cons] at none_later
      exact ⟨rest, earlier, rfl, by omega⟩

theorem Capped.refresh {rest : EntryLog T P} {previous next : Publication P} {generation : Nat}
    (capped : Capped config entry cap previous) (inForce : InForce previous rest)
    (origin : next.origin = .refresh generation) (carried : next.result.validUntil = some cap)
    (accounted : EventAccounted config entry rest (.published next)) :
    Capped config entry cap next ∧ entry.lifetime config next ≤ entry.refreshBefore ∧
      (entry.lifetime config previous ≤ entry.refreshBefore →
        2 * entry.lifetime config next ≤ entry.lifetime config previous) := by
  have due := accounted.2
  simp only [origin] at due
  obtain ⟨⟨t, past, inside⟩, ordered, unexpired, _⟩ := due
  rw [inForce.current_eq] at inside
  obtain ⟨_, near, half⟩ := Entry.inRefreshWindow_decisionSnapshot inside
  rw [capped.deadline] at near half
  have onward := entry.tick_mono past
  have binding := capped.binding
  have began := capped.live
  obtain ⟨deadline, live⟩ := Entry.publishedDeadline_eq_cap carried (by omega) ordered unexpired
  refine ⟨⟨deadline, by omega, live⟩, ?_⟩
  rw [Entry.lifetime, Entry.lifetime, capped.deadline, deadline]
  omega

/-- As many refreshes as were published halved what the window left. -/
structure Halved (config : PolicyGateConfig) (entry : Entry T) (cap : Nat) (log : EntryLog T P) :
    Prop where
  capped : ∀ publication, Latest publication log → Capped config entry cap publication
  halved : ∀ publication, Latest publication log → 0 < log.countP EntryEvent.isRefresh →
    2 ^ log.countP EntryEvent.isRefresh * entry.lifetime config publication ≤
      2 * entry.refreshBefore

theorem Halved.short {log : EntryLog T P} {publication : Publication P}
    (halved : Halved config entry cap log) (latest : Latest publication log)
    (refreshed : 0 < log.countP EntryEvent.isRefresh) :
    entry.lifetime config publication ≤ entry.refreshBefore := by
  have bound := halved.halved publication latest refreshed
  have two : 2 ≤ 2 ^ log.countP EntryEvent.isRefresh := Nat.le_self_pow refreshed.ne' 2
  have := Nat.mul_le_mul_right (entry.lifetime config publication) two
  omega

theorem Halved.quiet {rest : EntryLog T P} {event : EntryEvent T P}
    (before : Halved config entry cap rest) (quiet : event.isPublication = false) :
    Halved config entry cap (event :: rest) := by
  have same : (event :: rest).countP EntryEvent.isRefresh = rest.countP EntryEvent.isRefresh := by
    rw [List.countP_cons, if_neg fun refresh => ?_, Nat.add_zero]
    rw [EntryEvent.isPublication_of_isRefresh refresh] at quiet
    cases quiet
  refine ⟨fun publication latest => before.capped _ (latest.of_cons quiet),
    fun publication latest => ?_⟩
  rw [same]
  exact before.halved publication (latest.of_cons quiet)

theorem Halved.cold {rest : EntryLog T P} {publication : Publication P} {generation : Nat}
    (origin : publication.origin = .cold generation)
    (capped : Capped config entry cap publication)
    (first : rest.countP EntryEvent.isPublication = 0) :
    Halved config entry cap (.published publication :: rest) := by
  have newest : Latest publication (.published publication :: rest) := ⟨[], rest, rfl, rfl⟩
  have unrefreshed : rest.countP EntryEvent.isRefresh = 0 :=
    Nat.le_zero.mp (first ▸ List.countP_mono_left fun _ _ => EntryEvent.isPublication_of_isRefresh)
  refine ⟨fun other latest => latest.unique newest ▸ capped, fun other latest refreshed => ?_⟩
  rw [List.countP_cons, unrefreshed] at refreshed
  simp [EntryEvent.isRefresh, origin, Origin.isRefresh] at refreshed

theorem Halved.refresh {rest : EntryLog T P} {publication : Publication P} {generation : Nat}
    (before : Halved config entry cap rest) (origin : publication.origin = .refresh generation)
    (carried : publication.result.validUntil = some cap)
    (accounted : EventAccounted config entry rest (.published publication)) :
    Halved config entry cap (.published publication :: rest) := by
  have newest : Latest publication (.published publication :: rest) := ⟨[], rest, rfl, rfl⟩
  have due := accounted.2
  simp only [origin] at due
  obtain ⟨previous, inForce, _⟩ := current_authoritative due.1.authoritative
  obtain ⟨capped, near, half⟩ :=
    (before.capped previous inForce.latest).refresh inForce origin carried accounted
  refine ⟨fun other latest => latest.unique newest ▸ capped, fun other latest _ => ?_⟩
  have counted : (EntryEvent.published publication :: rest).countP EntryEvent.isRefresh =
      rest.countP EntryEvent.isRefresh + 1 := by
    rw [List.countP_cons, if_pos]
    rw [EntryEvent.isRefresh, origin, Origin.isRefresh]
  rw [latest.unique newest, counted, Nat.pow_succ]
  rcases Nat.eq_zero_or_pos (rest.countP EntryEvent.isRefresh) with first | later
  · rw [first]
    omega
  · have bound := before.halved previous inForce.latest later
    have short := before.short inForce.latest later
    calc 2 ^ rest.countP EntryEvent.isRefresh * 2 * entry.lifetime config publication
        = 2 ^ rest.countP EntryEvent.isRefresh * (2 * entry.lifetime config publication) :=
          Nat.mul_assoc ..
      _ ≤ 2 ^ rest.countP EntryEvent.isRefresh * entry.lifetime config previous :=
          Nat.mul_le_mul_left _ (half short)
      _ ≤ 2 * entry.refreshBefore := bound

theorem halved_of_capped {log : EntryLog T P} (accounted : Accounted config entry log)
    (carried : ∀ publication, .published publication ∈ log →
      publication.result.validUntil = some cap)
    (unchanged : log.countP EntryEvent.isChange = 0)
    (binding : ∀ recent first earlier, log = recent ++ .published first :: earlier →
      earlier.countP EntryEvent.isPublication = 0 →
      entry.tick cap ≤ entry.tick first.now + config.decisionFreshnessTtl) :
    Halved config entry cap log := by
  induction log with
  | nil => exact ⟨fun _ ⟨later, _, split, _⟩ => by simp at split, fun _ _ some => by simp at some⟩
  | cons event rest ih =>
      rw [List.countP_cons] at unchanged
      have before : Halved config entry cap rest :=
        ih accounted.2 (fun publication member => carried publication (List.mem_cons_of_mem _ member))
          (by omega) fun recent first earlier split =>
            binding (event :: recent) first earlier (by rw [split, List.cons_append])
      cases event with
      | latched | invalidated | failed | observed | started | returned | cooled =>
          exact before.quiet rfl
      | published publication =>
          have capping := carried publication List.mem_cons_self
          cases origin : publication.origin with
          | cold generation =>
              have due := accounted.1.2
              simp only [origin] at due
              obtain ⟨pending, ordered, unexpired, _⟩ := due
              have first := countP_isPublication_eq_zero (current_pending_iff.mp pending)
              have bound := binding [] publication rest rfl first
              obtain ⟨deadline, live⟩ :=
                Entry.publishedDeadline_eq_cap capping bound ordered unexpired
              exact .cold origin ⟨deadline, bound, live⟩ first
          | refresh generation => exact before.refresh origin capping accounted.1
          | change => simp [EntryEvent.isChange, origin] at unchanged

theorem Halved.lifetime_le {between earlier : EntryLog T P} {previous next : Publication P}
    {generation : Nat} (before : Halved config entry cap (between ++ .published previous :: earlier))
    (started : Halved config entry cap (.published previous :: earlier))
    (quiet : between.countP EntryEvent.isPublication = 0)
    (refreshed : previous.origin.isRefresh = true) (origin : next.origin = .refresh generation)
    (carried : next.result.validUntil = some cap)
    (accounted : EventAccounted config entry (between ++ .published previous :: earlier)
      (.published next)) :
    2 * entry.lifetime config next ≤ entry.lifetime config previous := by
  have latest : Latest previous (between ++ .published previous :: earlier) :=
    ⟨between, earlier, rfl, quiet⟩
  have due := accounted.2
  simp only [origin] at due
  obtain ⟨other, inForce, _⟩ := current_authoritative due.1.authoritative
  obtain rfl := inForce.latest.unique latest
  have short := started.short ⟨[], earlier, rfl, rfl⟩ (List.countP_pos_iff.mpr
    ⟨.published other, List.mem_cons_self, refreshed⟩)
  exact ((before.capped other latest).refresh inForce origin carried accounted).2.2 short

theorem exists_latest {log : EntryLog T P} (some_published : 0 < log.countP EntryEvent.isPublication) :
    ∃ publication, Latest publication log := by
  induction log with
  | nil => simp at some_published
  | cons event rest ih =>
      cases loud : event.isPublication with
      | true =>
          cases event with
          | published publication => exact ⟨publication, [], rest, rfl, rfl⟩
          | latched | invalidated | failed | observed | started | returned | cooled => cases loud
      | false =>
          rw [List.countP_cons, loud] at some_published
          obtain ⟨publication, later, earlier, split, quiet⟩ := ih some_published
          refine ⟨publication, event :: later, earlier, by rw [split, List.cons_append], ?_⟩
          rw [List.countP_cons, loud, quiet]
          rfl

theorem Halved.count_le {log : EntryLog T P} (halved : Halved config entry cap log) :
    log.countP EntryEvent.isRefresh ≤ Nat.log 2 entry.refreshBefore + 1 := by
  rcases Nat.eq_zero_or_pos (log.countP EntryEvent.isRefresh) with unrefreshed | refreshed
  · omega
  · obtain ⟨publication, latest⟩ := exists_latest (refreshed.trans_le
      (List.countP_mono_left fun _ _ => EntryEvent.isPublication_of_isRefresh))
    have live : 1 ≤ entry.lifetime config publication := by
      have capped := halved.capped publication latest
      rw [Entry.lifetime, capped.deadline]
      exact Nat.sub_pos_of_lt capped.live
    have bound : 2 ^ log.countP EntryEvent.isRefresh ≤ entry.refreshBefore * 2 := by
      have := halved.halved publication latest refreshed
      have := Nat.mul_le_mul_left (2 ^ log.countP EntryEvent.isRefresh) live
      omega
    have window : entry.refreshBefore ≠ 0 := by
      have := Nat.two_pow_pos (log.countP EntryEvent.isRefresh)
      omega
    rw [← Nat.log_mul_base Nat.one_lt_two window]
    exact Nat.le_log_of_pow_le Nat.one_lt_two bound

end EntryLog

variable [DecidableEq T] {rt : Runtime} {authority : T → Option Decision} {calls : Nat → Call T}
  {c : Config (Gate T P)}

/-- Without watch changes, an entry whose lookups all answered with one cap has only that cap in its log. -/
theorem Gate.Invariant.carried {s : Gate T P} (ok : s.Invariant config) {id : Nat}
    {cell : EntryCell T P} (found : s.cells id = some cell)
    (capped : ∀ generation flight result, s.flights generation = some flight →
      flight.fetch.entry.id = id → flight.answer = some (.result (some result)) →
      result.validUntil = some cap)
    (unchanged : cell.log.countP EntryEvent.isChange = 0) (publication : Publication P)
    (member : .published publication ∈ cell.log) : publication.result.validUntil = some cap := by
  have cellOk := ok.cells id cell found
  have sourced := cellOk.sourced _ member
  have answered : ∀ generation refresh,
      Answered s.flights cell.entry generation refresh publication.result →
      publication.result.validUntil = some cap := by
    rintro generation refresh ⟨flight, flown, home, _, _, answer⟩
    exact capped generation flight _ flown (home ▸ cellOk.identity) answer
  cases origin : publication.origin with
  | cold generation =>
      simp only [EventSourced, Publication.Sourced, origin] at sourced
      exact answered _ _ sourced
  | refresh generation =>
      simp only [EventSourced, Publication.Sourced, origin] at sourced
      exact answered _ _ sourced
  | change =>
      refine absurd (List.countP_eq_zero.mp unchanged _ member) (not_not.mpr ?_)
      simp [EntryEvent.isChange, origin]

theorem Entry.refreshBeforeOf_le (config : PolicyGateConfig) :
    Entry.refreshBeforeOf config ≤ config.refreshBeforeExpiry := by
  unfold Entry.refreshBeforeOf toU64
  split
  · exact le_rfl
  · rename_i large
    simp only [Option.getD_none]
    omega

/-- A snapshot is not refreshed before half of a lifetime within the window is over, nor before the
window, so never at the tick of its publication; and while every lookup answers with one cap that
binds from the first, every refresh halves what is left, so that few are published before the cap. -/
theorem refreshes_halve_lifetimes :
    (∀ (config : PolicyGateConfig) (entry : Entry T) (now t : Nat) (result : DecisionResult P),
      let deadline := entry.publishedDeadline config now result
      let lifetime := deadline - entry.tick now
      lifetime ≤ entry.refreshBefore ∧ entry.tick t < entry.tick now + (lifetime + 1) / 2 ∨
          entry.refreshBefore < lifetime ∧ entry.tick t < deadline - entry.refreshBefore ∨
          entry.tick t = entry.tick now →
        entry.refreshEligibleAt (entry.decisionSnapshot config now result) t =
          (pure false : Program (Gate T P) Bool)) ∧
    ∀ c : Config (Gate T P), Reachable rt authority calls c →
      ∀ id cell cap, c.shared.cells id = some cell →
      (∀ generation flight result, c.shared.flights generation = some flight →
        flight.fetch.entry.id = id → flight.answer = some (.result (some result)) →
        result.validUntil = some cap) →
      cell.log.countP EntryEvent.isChange = 0 →
      (∀ recent first earlier, cell.log = recent ++ .published first :: earlier →
        earlier.countP EntryEvent.isPublication = 0 →
        cell.entry.tick cap ≤ cell.entry.tick first.now + rt.config.decisionFreshnessTtl) →
      (∀ recent next between previous earlier,
        cell.log = recent ++ .published next :: (between ++ .published previous :: earlier) →
        between.countP EntryEvent.isPublication = 0 →
        next.origin.isRefresh = true → previous.origin.isRefresh = true →
        2 * cell.entry.lifetime rt.config next ≤ cell.entry.lifetime rt.config previous) ∧
      (∀ publication, .published publication ∈ cell.log → publication.origin.isRefresh = true →
        publication.now < cap) ∧
      cell.log.countP EntryEvent.isRefresh ≤ Nat.log 2 rt.config.refreshBeforeExpiry + 1 := by
  refine ⟨fun config entry now t result => ?_, fun c reached id cell cap found capped unchanged
    binding => ?_⟩
  · intro deadline lifetime early
    refine Entry.refreshEligibleAt_of_outside fun inside => ?_
    have ⟨live, near, half⟩ := Entry.inRefreshWindow_decisionSnapshot inside
    change entry.tick t < deadline at live
    change deadline ≤ _ at near
    change deadline ≤ _ → entry.tick now + (lifetime + 1) / 2 ≤ _ at half
    omega
  · have ok := reached.invariant
    have cellOk := ok.cells id cell found
    have carried := fun publication => ok.carried found capped unchanged publication
    have halved : ∀ recent earlier, cell.log = recent ++ earlier →
        EntryLog.Halved rt.config cell.entry cap earlier := by
      intro recent earlier split
      have accounted := cellOk.accounted
      rw [split] at accounted unchanged
      rw [List.countP_append] at unchanged
      refine EntryLog.halved_of_capped accounted.of_append (fun publication member =>
        carried publication (split ▸ List.mem_append_right _ member)) (by omega)
        fun recent' first earlier' split' => binding (recent ++ recent') first earlier' ?_
      rw [split, split', List.append_assoc]
    refine ⟨?_, ?_, ?_⟩
    · intro recent next between previous earlier split quiet refresh refresh'
      cases origin : next.origin with
      | cold | change =>
          rw [origin] at refresh
          cases refresh
      | refresh generation =>
          have before := halved (recent ++ [.published next]) _ (by rw [split, List.append_assoc]; rfl)
          have started := halved (recent ++ .published next :: between) (.published previous :: earlier)
            (by rw [split, List.append_assoc]; rfl)
          exact before.lifetime_le started quiet refresh' origin
            (carried next (by rw [split]; simp)) (split ▸ cellOk.accounted).event
    · intro publication member refresh
      obtain ⟨recent, earlier, split⟩ := List.append_of_mem member
      have live := ((halved recent _ split).capped publication ⟨[], earlier, rfl, rfl⟩).live
      by_contra past
      have := cell.entry.tick_mono (Nat.le_of_not_lt past)
      omega
    · have bound := (halved [] cell.log rfl).count_le
      have window : cell.entry.refreshBefore ≤ rt.config.refreshBeforeExpiry :=
        cellOk.window ▸ Entry.refreshBeforeOf_le rt.config
      exact bound.trans (Nat.add_le_add_right (Nat.log_mono_right window) 1)

namespace Sample

def cappedAnswer (generation : Nat) : List (Move (GateEvent Nat Nat)) :=
  [.environment (.answer generation (.result (some
    { decision := .allowed, payload := none, validUntil := some 60 })))]

def halves : List (Move (GateEvent Nat Nat)) :=
  connects ++ turns 1 2 69 ++ turns 2 0 5 ++ cappedAnswer 0 ++ turns 2 1 1 ++ turns 2 0 11 ++
    turns 1 1 11 ++ [.environment (.advance 30)] ++ turns 3 2 29 ++ turns 0 1 1 ++ turns 4 0 5 ++
    cappedAnswer 1 ++ turns 4 1 1 ++ turns 4 0 9 ++ [.environment (.advance 15)] ++ turns 5 2 29 ++
    turns 0 1 2 ++ turns 6 0 5 ++ cappedAnswer 2 ++ turns 6 1 1 ++ turns 6 0 9

/-- Two refreshes of entry 0 were published, all its lookups answered with a cap at 60, and 60 is no
later than the TTL after any of its publications. -/
def halved (s : Gate Nat Nat) : Bool :=
  ((s.cells 0).any fun cell => cell.log.countP EntryEvent.isRefresh = 2 &&
    cell.log.countP EntryEvent.isChange = 0 && cell.log.all fun event =>
      match event with
      | .published publication => cell.entry.tick 60 ≤ cell.entry.tick publication.now + 100
      | _ => true) &&
    (List.range s.nextGeneration).all fun generation => (s.flights generation).all fun flight =>
      match flight.answer with
      | some (.result (some result)) => result.validUntil = some 60
      | _ => true

end Sample

theorem refreshes_halve_lifetimes_sample : ∃ (c : Config (Gate Nat Nat)) (cell : EntryCell Nat Nat),
    c.shared.cells 0 = some cell ∧ cell.log.countP EntryEvent.isRefresh = 2 ∧
      cell.log.countP EntryEvent.isRefresh ≤ Nat.log 2 40 + 1 ∧
      ∀ publication, .published publication ∈ cell.log → publication.origin.isRefresh = true →
        publication.now < 60 := by
  obtain ⟨c, reached, passed⟩ := Reachable.of_run Sample.runtime (fun _ => some .allowed)
    (Sample.asking [.admitSubject 0, .poll 0, .tryCached 0, .poll 1, .tryCached 0, .poll 2])
    Sample.halves Sample.halved (by decide +kernel)
  simp only [Sample.halved, Bool.and_eq_true, decide_eq_true_eq, Option.any_eq_true,
    List.all_eq_true] at passed
  obtain ⟨⟨cell, found, ⟨refreshed, unchanged⟩, bound⟩, answered⟩ := passed
  have halved := refreshes_halve_lifetimes.2 c reached 0 cell 60 found ?_ unchanged ?_
  · exact ⟨c, cell, found, refreshed, halved.2.2, halved.2.1⟩
  · intro generation flight result flown _ answer
    have below : generation < c.shared.nextGeneration := by
      by_contra beyond
      rw [reached.invariant.freshGeneration generation (Nat.le_of_not_lt beyond)] at flown
      cases flown
    have capped := answered generation (List.mem_range.mpr below)
    rw [flown, Option.all_some, answer] at capped
    exact of_decide_eq_true capped
  · intro recent first earlier split _
    exact of_decide_eq_true (bound (.published first) (by rw [split]; simp))

end PolicyGate
