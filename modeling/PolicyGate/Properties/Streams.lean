import PolicyGate.Stream.Runs
import PolicyGate.Properties.Freshness

namespace PolicyGate

open Interleaving

variable {T P B D H E X : Type} [DecidableEq T] {rt : Runtime} {inner : InnerBody B D H E}
  {context : StreamContext H E X} {authority : T → Option Decision} {calls : Nat → Call T}
  {guest : Nat} {body : B} {subject : T} {admission : Entry T} {side : BodySide}
  {c : Config (Gate T P × Stream T B D H E X)}

theorem StreamReachable.of_run (rt : Runtime) (inner : InnerBody B D H E)
    (context : StreamContext H E X) (authority : T → Option Decision) (calls : Nat → Call T)
    (guest : Nat) (body : B) (subject : T) (admission : Entry T) (side : BodySide)
    (moves : List (Move (GateEvent T P))) (test : Gate T P → Stream T B D H E X → Bool)
    (ran : ((startStream rt inner context authority calls guest body subject admission side).run
      (Config.beside _ Gate.environment) moves).any (fun c => test c.shared.1 c.shared.2) = true) :
    ∃ c, StreamReachable rt inner context authority calls guest body subject admission side c ∧
      test c.shared.1 c.shared.2 = true := by
  obtain ⟨c, ran, passed⟩ := (Option.any_eq_true _ _).mp ran
  exact ⟨c, ⟨moves, ran⟩, passed⟩

namespace Sample

def frames : InnerBody (List Nat) Nat Nat Nat where
  pollFrame
    | [] => (.ready none, [])
    | frame :: rest => (.ready (some (.ok (.data frame))), rest)
  isEndStream := List.isEmpty
  drift _ body := body

theorem frames_latches : frames.Latches where
  polled body closed := by
    obtain rfl := List.isEmpty_iff.mp closed
    rfl
  drifted _ _ closed := closed

def streamContext : StreamContext Nat Nat Nat where
  streamDenied _ _ := .trailers 16
  rejectionMessage := "denied"
  into := id

abbrev StreamConfig := Config (Gate Nat Nat × Stream Nat (List Nat) Nat Nat Nat Nat)

abbrev Streams (c : StreamConfig) : Prop :=
  StreamReachable runtime frames streamContext (fun _ => some .allowed)
    (asking [.admitSubject 0, .poll 0]) 3 [7, 8] 0 entry .response c

def firstPoll : PollRecord Nat (List Nat) Nat Nat Nat Nat where
  number := 1
  began := [7, 8]
  steps := [.innerPolled (.ready (some (.ok (.data 7)))), .observed entry 0 .allowed]
  answer := .ready (some (.ok (.data 7)))
  stored := none

def cutPoll : PollRecord Nat (List Nat) Nat Nat Nat Nat where
  number := 2
  began := [8]
  steps := [.cutOff, .observed entry 0 .denied]
  answer := .ready (some (.ok (.trailers 16)))
  stored := none

def closedPoll : PollRecord Nat (List Nat) Nat Nat Nat Nat where
  number := 3
  began := [8]
  steps := []
  answer := .ready none
  stored := none

def cutCalls : List (BodyCall Nat (List Nat) Nat Nat Nat Nat) :=
  [.sizeHint (some 0), .isEndStream true, .polled closedPoll, .polled cutPoll, .polled firstPoll]

theorem streams_cutCalls : ∃ c, Streams c ∧ c.shared.2.calls = cutCalls := by
  obtain ⟨c, reached, passed⟩ := StreamReachable.of_run runtime frames streamContext
    (fun _ => some .allowed) (asking [.admitSubject 0, .poll 0]) 3 [7, 8] 0 entry .response
    (admits .allowed none ++ turns 3 0 12 ++ [.environment (.decide ⟨0, some .denied⟩)] ++
      turns 0 2 16 ++ turns 3 0 15 ++ turns 3 1 4 ++ turns 3 2 4)
    (fun _ t => decide (t.calls = cutCalls)) (by decide +kernel)
  exact ⟨c, reached, of_decide_eq_true passed⟩

end Sample

/-- The thread read `held` at `now`, and whatever was published of it last was not over. -/
def ReadWithin (config : PolicyGateConfig) (s : Gate T P) (thread : Nat) (held : Entry T)
    (now : Nat) : Prop :=
  ∃ cell snapshot, s.cells held.id = some cell ∧ cell.entry = held ∧
    .observed .state thread now snapshot ∈ cell.log ∧
    ∀ recent earlier, cell.log = recent ++ .observed .state thread now snapshot :: earlier →
      ∀ publication expiry, EntryLog.Latest publication earlier →
        publication.expiry config held = some expiry → now < expiry

theorem Gate.Invariant.readWithin {s : Gate T P} {thread now : Nat} {held : Entry T}
    {snapshot : EntrySnapshot P} (ok : s.Invariant rt.config)
    (observation : Observation s.cells held .state thread now snapshot) :
    ReadWithin rt.config s thread held now := by
  obtain ⟨cell, found, rfl, member, unexpired⟩ := observation
  refine ⟨cell, snapshot, found, rfl, member, fun recent earlier split publication expiry latest finite => ?_⟩
  have accounted := (ok.cells _ cell found).accounted
  rw [split] at accounted
  have read := accounted.event.1
  have bits := EntryLog.Latest.deadline (EntryLog.Accounted.of_append accounted).2 latest
  rw [← read] at bits
  exact Publication.before_expiry bits unexpired finite

/-- The wrapped body is polled only under the handle the body holds, just seen `Allowed`, or `Stale` with a
snapshot lookup since that gave no handle then read as `Denied`; a handle seen `Denied` or expired
ends the body at once; and no handle is seen other than expired from the deadline of its latest
publication on. -/
theorem forwarded_only_under_live_handles
    (reached : StreamReachable rt inner context authority calls guest body subject admission side c) :
    (∀ m next, c.move (Config.beside _ Gate.environment) m = some next →
      Stream.Drives inner c.shared.2 next.shared.2) ∧
    (∀ number steps, c.shared.2.Polls number steps →
      (∃ before, StreamReachable rt inner context authority calls guest body subject admission side before ∧
        StreamLeads before c ∧ before.shared.2.polls = number ∧ before.shared.2.steps = steps ∧
        Holds before.shared.2.body.admission steps) ∧
      (∀ event ∈ steps, event.Backed c.shared.1.cells guest subject) ∧
      (∀ held now seen, .observed held now seen ∈ steps → seen ≠ .expired →
        ReadWithin rt.config c.shared.1 guest held now) ∧
      (∀ later entry earlier, steps = later ++ .loaded entry :: earlier →
        LoadedFrom (StreamReachable rt inner context authority calls guest body subject admission side)
          subject number entry earlier c) ∧
      ∀ later answer earlier, steps = later ++ .innerPolled answer :: earlier → later = [] ∧
        ((∃ held now before, earlier = .observed held now .allowed :: before) ∨ Consulted earlier)) ∧
    (∀ record, .polled record ∈ c.shared.2.calls → ∀ held now seen,
      .observed held now seen ∈ record.steps → seen = .denied ∨ seen = .expired →
        (∃ before, record.steps = .cutOff :: .observed held now seen :: before) ∧
          record.answer = .ready (some (context.rejectionItem side)) ∧ record.stored = none) ∧
    ∀ later earlier record, c.shared.2.calls = later ++ .polled record :: earlier →
      .cutOff ∈ record.steps → ∀ next ∈ later, next.Silent := by
  obtain ⟨ok, sound⟩ := reached.sound
  refine ⟨fun m next moved => (reached.grows moved).drives, fun number steps polls => ?_,
    fun record member held now seen observed refuses =>
      (sound.recorded record member).1.refused observed refuses, fun later earlier record split cut => ?_⟩
  · have known : Forwarded steps ∧ ∀ event ∈ steps, event.Backed c.shared.1.cells guest subject := by
      cases polls with
      | latest => exact ⟨sound.forwarded, sound.backed⟩
      | earlier member =>
          exact ⟨(sound.recorded _ member).1.forwards, (sound.recorded _ member).2⟩
    refine ⟨?_, known.2, fun held now seen observed unexpired => ?_,
      fun later entry earlier split => reached.loaded_of_polls polls split,
      fun later answer earlier split => ?_⟩
    · obtain ⟨before, reachedBefore, leads, same, rfl⟩ := reached.polled polls
      exact ⟨before, reachedBefore, leads, same, rfl, reachedBefore.sound.2.holds⟩
    · have backed := known.2 _ observed
      cases seen with
      | expired => exact absurd rfl unexpired
      | allowed | denied | stale =>
          obtain ⟨snapshot, observation, _⟩ := backed
          exact ok.readWithin observation
    · obtain ⟨last, number, stored, forwarding⟩ := known.1 later answer earlier split
      exact ⟨last, forwarding.reason⟩
  · have lawful := sound.lawful
    have shape := (sound.recorded record (by simp [split])).1
    rw [split] at lawful
    exact lawful.later (shape.ends_of_terminal (.inr (.inr cut)))

namespace Sample

def successor : Entry Nat := { id := 1, subject := 0, epoch := 0, refreshBefore := 40 }

def eager : Runtime :=
  { runtime with config := { runtime.config with snapshotRepublishInterval := 0 } }

/-- Thread 3 invalidates entry 0, thread 4 admits its subject anew, and its lookup, which thread 6
runs, comes to `Denied`.  Thread 5 polls a body that holds entry 0; between its snapshot lookup and its
`is_allowed`, the authority changes the decision to `Allowed`.  Thread 8 then invalidates the entry it
read, so the readmission, the call of thread 7, comes to wait for the lookup of a third one. -/
def flips : List (Move (GateEvent Nat Nat)) :=
  admits .allowed none ++ turns 3 0 6 ++ turns 4 2 93 ++ turns 6 0 5 ++ answers 1 .denied none ++
    turns 6 1 1 ++ turns 6 0 10 ++ turns 5 0 16 ++
    [.environment (.decide ⟨0, some .allowed⟩)] ++ turns 0 2 16 ++ turns 5 7 14 ++ turns 8 0 6 ++
    turns 5 7 1 ++ turns 7 2 118 ++ turns 5 7 6

def flipping : List (Call Nat) :=
  [.admitSubject 0, .poll 0, .invalidate entry, .admitSubject 0, .tryCached 0, .poll 1,
    .admitSubject 0, .invalidate successor]

def flippedPoll : PollRecord Nat (List Nat) Nat Nat Nat Nat where
  number := 1
  began := [7, 8]
  steps := [.innerPolled (.ready (some (.ok (.data 7)))), .waited, .readmitted,
    .isAllowed successor 0 .allowed, .lookedUp (some successor) (some successor),
    .loaded (some successor), .observed entry 0 .stale]
  answer := .ready (some (.ok (.data 7)))
  stored := some ⟨.admitting 7, some 1⟩

abbrev Flips (c : StreamConfig) : Prop :=
  StreamReachable eager frames streamContext (fun _ => some .allowed) (asking flipping) 5 [7, 8] 0
    entry .response c

def flippedRead (s : Gate Nat Nat) (t : Stream Nat (List Nat) Nat Nat Nat Nat) : Bool :=
  decide (t.calls = [.polled flippedPoll]) && ((s.cells 1).any fun cell => cell.log.any fun
    | .observed (.cached 0) 5 now snapshot =>
        snapshot.state = .denied && !successor.isExpiredAt snapshot.word now
    | _ => false) && (s.cells 2).any fun cell => cell.state = .pending && cell.pending.isSome

theorem flips_flippedPoll : ∃ c, Flips c ∧ flippedRead c.shared.1 c.shared.2 = true :=
  StreamReachable.of_run eager frames streamContext (fun _ => some .allowed) (asking flipping) 5
    [7, 8] 0 entry .response flips flippedRead (by decide +kernel)

end Sample

theorem forwarded_only_under_live_handles_sample : ∃ c, Sample.Flips c ∧
    c.shared.2.calls = [.polled Sample.flippedPoll] ∧
      ReadWithin Sample.eager.config c.shared.1 5 Sample.entry 0 ∧
      LoadedFrom Sample.Flips 0 1 (some Sample.successor) [.observed Sample.entry 0 .stale] c := by
  obtain ⟨c, reached, passed⟩ := Sample.flips_flippedPoll
  simp only [Sample.flippedRead, Bool.and_eq_true, decide_eq_true_eq] at passed
  obtain ⟨⟨called, _⟩, _⟩ := passed
  have member : .polled Sample.flippedPoll ∈ c.shared.2.calls := by simp [called]
  obtain ⟨_, _, within, loaded, _⟩ :=
    (forwarded_only_under_live_handles reached).2.1 _ _ (.earlier member)
  refine ⟨c, reached, called, within Sample.entry 0 .stale (by simp [Sample.flippedPoll]) (by simp), ?_⟩
  exact loaded (Sample.flippedPoll.steps.take 5) (some Sample.successor) _ rfl

/-- A frame is forwarded by a poll whose snapshot lookup read an unexpired `Denied` for the subject. -/
theorem forwarded_after_denied_lookup : ∃ c, Sample.Flips c ∧
    c.shared.2.calls = [.polled Sample.flippedPoll] ∧
      (∃ cell now snapshot, c.shared.1.cells 1 = some cell ∧
        .observed (.cached 0) 5 now snapshot ∈ cell.log ∧ snapshot.state = .denied ∧
        Sample.successor.isExpiredAt snapshot.word now = false) ∧
      ∃ cell, c.shared.1.cells 2 = some cell ∧ cell.state = .pending ∧ cell.pending.isSome = true := by
  obtain ⟨c, reached, passed⟩ := Sample.flips_flippedPoll
  simp only [Sample.flippedRead, Bool.and_eq_true, decide_eq_true_eq, Option.any_eq_true,
    List.any_eq_true] at passed
  obtain ⟨⟨called, cell, found, event, member, read⟩, pending⟩ := passed
  split at read
  · rename_i now snapshot
    simp only [Bool.and_eq_true, decide_eq_true_eq, Bool.not_eq_true'] at read
    exact ⟨c, reached, called, ⟨cell, now, snapshot, found, member, read.1, read.2⟩, pending⟩
  · cases read

/-- A body yields the items of the wrapped body in order, and after them one rejection if it is cut;
once it is known to be over nothing follows. -/
theorem items_follow_inner_body (latches : inner.Latches)
    (reached : StreamReachable rt inner context authority calls guest body subject admission side c) :
    (items c.shared.2.calls = (innerItems c.shared.2.calls).map context.passItem ++
        List.replicate (cutoffs c.shared.2.calls) (context.rejectionItem side) ∧
      cutoffs c.shared.2.calls ≤ 1) ∧
    (∃ after, inner.Yields body (innerItems c.shared.2.calls) after) ∧
    (∀ record, .polled record ∈ c.shared.2.calls →
      (BodyCall.polled record).Yields context side ∧
        (inner.isEndStream record.began = true → .cutOff ∉ record.steps ∧ record.answer = .ready none)) ∧
    (∀ later call earlier, c.shared.2.calls = later ++ call :: earlier → call.Terminal →
      ∀ next ∈ later, next.Silent) ∧
    ∀ later exact earlier record, c.shared.2.calls = later ++ .sizeHint exact :: earlier →
      .polled record ∈ earlier → (BodyCall.polled record).Terminal → exact = some 0 := by
  have sound := reached.sound.2
  have shaped : ∀ record, .polled record ∈ c.shared.2.calls → record.Shape inner context side :=
    fun record member => (sound.recorded record member).1
  obtain ⟨same, once, _⟩ := items_eq shaped sound.lawful
  refine ⟨⟨same, once⟩, sound.yields, fun record member => ⟨(shaped record member).yields, fun closed => ?_⟩,
    fun later call earlier split terminal => ?_,
    fun later exact earlier record split member terminal => ?_⟩
  · cases shaped record member with
    | closed => exact ⟨by simp, rfl⟩
    | forwarded unfinished => exact absurd (unfinished.symm.trans closed) (by simp)
    | cut unfinished => exact absurd (unfinished.symm.trans closed) (by simp)
  · have latched := sound.latched latches
    rw [split] at latched
    refine latched.later ?_
    cases call with
    | polled record =>
        have shape := shaped record (by simp [split])
        exact BodyCall.closed_of_ends (shape.ends_of_terminal terminal)
    | isEndStream answer => exact terminal
    | sizeHint exact => exact terminal.elim
  · have ends := (shaped record (by simp [split, member])).ends_of_terminal terminal
    have hinted := sound.hinted
    rw [split] at hinted
    exact hinted.later.trans (if_pos (List.any_eq_true.mpr ⟨_, member, ends⟩))

theorem items_follow_inner_body_sample : ∃ c, Sample.Streams c ∧
    c.shared.2.calls = Sample.cutCalls ∧ cutoffs c.shared.2.calls = 1 ∧
      items c.shared.2.calls = [.ok (.data 7), .ok (.trailers 16)] ∧
      ∀ next ∈ Sample.cutCalls.take 3, next.Silent := by
  obtain ⟨c, reached, called⟩ := Sample.streams_cutCalls
  obtain ⟨⟨same, _⟩, _, _, after, _⟩ := items_follow_inner_body Sample.frames_latches reached
  refine ⟨c, reached, called, by rw [called]; rfl, ?_, ?_⟩
  · rw [same, called]
    rfl
  · exact after (Sample.cutCalls.take 3) (.polled Sample.cutPoll) [.polled Sample.firstPoll] called
      (.inr (.inl ⟨16, rfl⟩))

theorem readmissions_kept_iff
    (reached : StreamReachable rt inner context authority calls guest body subject admission side c) :
    ((∀ record, .polled record ∈ c.shared.2.calls → record.Readmits) ∧
      .resumed ∉ c.shared.2.steps) ↔
      ∀ record result, .polled record ∈ c.shared.2.calls → .resolvedAtOnce result ∉ record.steps := by
  have sound := reached.sound.2
  constructor
  · intro kept record result member
    exact (sound.recorded record member).1.unlost_of_readmits (kept.1 record member) result
  · intro unlost
    have none : c.shared.2.calls.any BodyCall.loses = false := by
      refine Bool.eq_false_iff.mpr fun lost => ?_
      obtain ⟨call, member, loses⟩ := List.any_eq_true.mp lost
      cases call with
      | polled record =>
          obtain ⟨event, inside, same⟩ := List.any_eq_true.mp loses
          cases event <;> first | exact unlost record _ member inside | cases same
      | isEndStream answer => cases loses
      | sizeHint exact => cases loses
    exact ⟨fun record member => (sound.recorded record member).1.readmits
      (sound.running none record member) fun result => unlost record result member, sound.resumed none⟩

namespace Sample

def brief : Runtime :=
  { runtime with config := { runtime.config with unaryTimeout := 1, admissionTimeout := 1 } }

def timesOut (thread : Nat) : List (Move (GateEvent Nat Nat)) :=
  turns thread 0 1 ++ [.environment (.advance 1)] ++ turns thread 0 3

def lapsesOnce : List (Move (GateEvent Nat Nat)) :=
  admits .allowed none ++ turns 3 0 6 ++ turns 5 0 10 ++ turns 5 4 7 ++ timesOut 4

/-- The replacement sleeps through the first poll.  In the second one its admission begins, the call of
thread 6, and waits for the lookup that thread 7 runs; the third one adopts what it returned. -/
def readmits : List (Move (GateEvent Nat Nat)) :=
  lapsesOnce ++ turns 5 0 13 ++ [.environment (.advance 1)] ++ turns 5 7 15 ++ turns 6 2 98 ++
    turns 5 7 4 ++ turns 7 0 5 ++ answers 1 .allowed none ++ turns 7 1 1 ++ turns 7 0 10 ++
    turns 6 1 11 ++ turns 5 0 33

def readmitting : List (Call Nat) :=
  [.admitSubject 0, .poll 0, .invalidate entry, .admitSubject 0, .tryCached 0, .admitSubject 0,
    .poll 1]

def readmitted : Entry Nat := { id := 1, subject := 0, epoch := 2, refreshBefore := 40 }

def replacingPoll : PollRecord Nat (List Nat) Nat Nat Nat Nat where
  number := 1
  began := [7, 8, 9]
  steps := [.innerPolled (.ready (some (.ok (.data 7)))), .replaced, .resolved none, .readmitted,
    .lookedUp (some entry) none, .loaded (some entry), .observed entry 0 .stale]
  answer := .ready (some (.ok (.data 7)))
  stored := some ⟨.sleeping (some 2), some 1⟩

def waitingPoll : PollRecord Nat (List Nat) Nat Nat Nat Nat where
  number := 2
  began := [8, 9]
  steps := [.innerPolled (.ready (some (.ok (.data 8)))), .waited, .lookedUp (some entry) none,
    .loaded (some entry), .observed entry 2 .stale]
  answer := .ready (some (.ok (.data 8)))
  stored := some ⟨.admitting 6, some 2⟩

def adoptingPoll : PollRecord Nat (List Nat) Nat Nat Nat Nat where
  number := 3
  began := [9]
  steps := [.innerPolled (.ready (some (.ok (.data 9)))), .observed readmitted 2 .allowed,
    .adopted readmitted, .isAllowed readmitted 2 .allowed, .resolved (some readmitted),
    .lookedUp (some entry) none, .loaded (some entry), .observed entry 2 .stale]
  answer := .ready (some (.ok (.data 9)))
  stored := none

def readmittingCalls : List (BodyCall Nat (List Nat) Nat Nat Nat Nat) :=
  [.polled adoptingPoll, .polled waitingPoll, .polled replacingPoll]

end Sample

theorem readmissions_kept_iff_sample : ∃ c : Sample.StreamConfig, StreamReachable Sample.brief
      Sample.frames Sample.streamContext (fun _ => some .allowed) (Sample.asking Sample.readmitting) 5 [7, 8, 9] 0
      Sample.entry .response c ∧
    c.shared.2.calls = Sample.readmittingCalls ∧
      ∀ record, .polled record ∈ Sample.readmittingCalls → record.Readmits := by
  obtain ⟨c, reached, passed⟩ := StreamReachable.of_run Sample.brief Sample.frames
    Sample.streamContext (fun _ => some .allowed) (Sample.asking Sample.readmitting) 5 [7, 8, 9] 0
    Sample.entry .response Sample.readmits (fun _ t => decide (t.calls = Sample.readmittingCalls))
    (by decide +kernel)
  have called := of_decide_eq_true passed
  refine ⟨c, reached, called, called ▸ ((readmissions_kept_iff reached).mpr ?_).1⟩
  intro record result member
  rw [called] at member
  simp only [Sample.readmittingCalls, List.mem_cons, List.not_mem_nil, or_false] at member
  rcases member with same | same | same <;> obtain rfl := BodyCall.polled.inj same
  · simp [Sample.adoptingPoll]
  · simp [Sample.waitingPoll]
  · simp [Sample.replacingPoll]

namespace Sample

/-- The replacement's delay has passed when it is first polled, and its admission, the call of
thread 6, times out in the same poll.  Thread 5 polls the body again. -/
def outruns : List (Move (GateEvent Nat Nat)) :=
  lapsesOnce ++ turns 5 0 6 ++ [.environment (.advance 1)] ++ turns 5 7 1 ++ timesOut 6 ++
    turns 5 0 23

def outrunning : List (Call Nat) :=
  [.admitSubject 0, .poll 0, .invalidate entry, .admitSubject 0, .tryCached 0, .admitSubject 0]

def outrunPoll : PollRecord Nat (List Nat) Nat Nat Nat Nat where
  number := 1
  began := [7, 8]
  steps := [.innerPolled (.ready (some (.ok (.data 7)))), .woken, .resolvedAtOnce none, .replaced,
    .resolved none, .readmitted, .lookedUp (some entry) none, .loaded (some entry),
    .observed entry 0 .stale]
  answer := .ready (some (.ok (.data 7)))
  stored := some ⟨.returned, some 1⟩

end Sample

/-- A readmission that has returned stays in the body, what it returned is lost, and the next poll polls
it again. -/
theorem finished_readmission_resumed :
    Sample.brief.config.build Sample.brief.latest Sample.brief.constructed = .ok Sample.brief.config ∧
    ∃ c : Sample.StreamConfig, StreamReachable Sample.brief Sample.frames Sample.streamContext (fun _ => some .allowed)
        (Sample.asking Sample.outrunning) 5 [7, 8] 0 Sample.entry .response c ∧
      c.shared.2.calls = [.polled Sample.outrunPoll] ∧
      c.shared.2.steps = [.resumed, .lookedUp (some Sample.entry) none,
        .loaded (some Sample.entry), .observed Sample.entry 3 .stale] ∧
      ¬ Sample.outrunPoll.Readmits := by
  obtain ⟨c, reached, passed⟩ := StreamReachable.of_run Sample.brief Sample.frames
    Sample.streamContext (fun _ => some .allowed) (Sample.asking Sample.outrunning) 5 [7, 8] 0
    Sample.entry .response Sample.outruns (fun _ t => decide (t.calls = [.polled Sample.outrunPoll] ∧
      t.steps = [.resumed, .lookedUp (some Sample.entry) none,
        .loaded (some Sample.entry), .observed Sample.entry 3 .stale])) (by decide +kernel)
  obtain ⟨called, steps⟩ := of_decide_eq_true passed
  exact ⟨by decide, c, reached, called, steps, fun readmits => readmits.running ⟨.returned, some 1⟩ rfl rfl⟩

end PolicyGate
