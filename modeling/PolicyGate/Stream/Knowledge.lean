import PolicyGate.Stream.Record
import PolicyGate.Specs.Guest

namespace PolicyGate

variable {T P B D H E X : Type} {guest : Nat} {inner : InnerBody B D H E}
  {context : StreamContext H E X} {first : EnforcedBody T B}

/-- `first` is the body as it was made. -/
structure StreamOk (inner : InnerBody B D H E) (context : StreamContext H E X) (guest : Nat)
    (first : EnforcedBody T B) (s : Gate T P) (t : Stream T B D H E X) : Prop where
  held : 0 < t.polls → s.Issued t.body.admission
  home : t.body.subject = first.subject ∧ t.body.side = first.side
  backed : ∀ event ∈ t.steps, event.Backed s.cells guest first.subject
  recorded : ∀ record, .polled record ∈ t.calls → record.Shape inner context first.side ∧
    ∀ event ∈ record.steps, event.Backed s.cells guest first.subject
  forwarded : Forwarded t.steps
  holds : Holds t.body.admission t.steps
  resumed : t.calls.any BodyCall.loses = false → .resumed ∉ t.steps
  running : t.calls.any BodyCall.loses = false → ∀ record, .polled record ∈ t.calls →
    ∀ readmission, record.stored = some readmission → readmission.state ≠ .returned
  lawful : Lawful BodyCall.ends t.calls
  latched : inner.Latches → Lawful BodyCall.closed t.calls
  hinted : Hinted t.calls
  yields : ∃ body, inner.Yields first.inner (innerItems t.calls) body

theorem PollStep.Backed.mono {event : PollStep T D H E} {subject : T} {before after : Gate T P}
    (extend : Extends before after) (backed : event.Backed before.cells guest subject) :
    event.Backed after.cells guest subject := by
  cases event with
  | observed | isAllowed | state => exact Observed.Backed.mono extend backed
  | lookedUp => exact Cached.mono extend backed
  | loaded | adopted | readmitted | waited | resolved | again | replaced | resolvedAtOnce | resumed | woken
  | innerPolled | cutOff => trivial

theorem StreamOk.note {s : Gate T P} {t : Stream T B D H E X} {event : PollStep T D H E}
    (ok : StreamOk inner context guest first s t)
    (unpolled : ∀ answer, .innerPolled answer ∉ t.steps)
    (backed : event.Backed s.cells guest first.subject)
    (holds : Holds t.body.admission (event :: t.steps))
    (due : ∀ answer, event = .innerPolled answer → ∃ number stored, Forwarding number stored t.steps)
    (unresumed : t.calls.any BodyCall.loses = false → event ≠ .resumed) :
    StreamOk inner context guest first s (t.step event) := by
  refine { ok with
    backed := fun other member => ?_
    forwarded := .cons unpolled due
    holds
    resumed := fun unlost member => ?_ }
  · rcases List.mem_cons.mp member with rfl | member
    · exact backed
    · exact ok.backed other member
  · rcases List.mem_cons.mp member with same | member
    · exact unresumed unlost same.symm
    · exact ok.resumed unlost member

theorem StreamOk.step {s : Gate T P} {t : Stream T B D H E X} {event : PollStep T D H E}
    (ok : StreamOk inner context guest first s t) (plain : ∀ event ∈ t.steps, event.plain = true)
    (backed : event.Backed s.cells guest first.subject) (elsewhere : event.onHandle = false)
    (unpolled : ∀ answer, event ≠ .innerPolled answer) (unresumed : event ≠ .resumed) :
    StreamOk inner context guest first s (t.step event) :=
  ok.note (unpolled_of_plain plain) backed (.other elsewhere ok.holds)
    (fun answer same => absurd same (unpolled answer)) fun _ => unresumed

theorem StreamOk.setReadmission {s : Gate T P} {t : Stream T B D H E X}
    (ok : StreamOk inner context guest first s t) (readmission : Option Readmission) :
    StreamOk inner context guest first s (t.setReadmission readmission) :=
  { ok with home := ok.home }

theorem StreamOk.adopt {s : Gate T P} {t : Stream T B D H E X} {admission : Entry T} {now : Nat}
    {before : List (PollStep T D H E)} (ok : StreamOk inner context guest first s t)
    (issued : s.Issued admission) (plain : ∀ event ∈ t.steps, event.plain = true)
    (read : t.steps = .isAllowed admission now .allowed :: before) :
    StreamOk inner context guest first s ((t.adopt admission).step (.adopted admission)) := by
  have unpolled := unpolled_of_plain plain
  exact { ok with
    held := fun _ => issued
    home := ok.home
    backed := by simpa [Stream.step, Stream.adopt, PollStep.Backed] using ok.backed
    forwarded := .cons unpolled (by simp)
    holds := by
      have holds := ok.holds
      rw [read] at holds
      change Holds admission (.adopted admission :: t.steps)
      rw [read]
      exact .adopted holds
    resumed := fun unlost => by simpa [Stream.step, Stream.adopt] using ok.resumed unlost }

structure Polling (inner : InnerBody B D H E) (first : EnforcedBody T B)
    (t : Stream T B D H E X) : Prop where
  unended : t.body.ended = false
  begun : 0 < t.polls
  unfinished : inner.isEndStream t.began = false
  running : t.calls.any BodyCall.ends = false
  latched : inner.Latches → t.calls.any BodyCall.closed = false
  yields : inner.Yields first.inner (innerItems t.calls) t.body.inner

/-- As long as no outcome was lost, the stored readmission has not returned. -/
def Intact (t : Stream T B D H E X) : Prop :=
  t.calls.any BodyCall.loses = false → ∀ readmission, t.body.readmission = some readmission →
    readmission.state ≠ .returned

/-- A poll runs, its steps so far are in `Q`. -/
structure InPoll (inner : InnerBody B D H E) (first : EnforcedBody T B)
    (Q : List (PollStep T D H E) → Prop) (t : Stream T B D H E X) : Prop
    extends Polling inner first t where
  intact : Intact t
  steps : Q t.steps

theorem InPoll.mono {Q Q' : List (PollStep T D H E) → Prop} {t : Stream T B D H E X}
    (known : InPoll inner first Q t) (included : ∀ steps, Q steps → Q' steps) :
    InPoll inner first Q' t :=
  { known with steps := included _ known.steps }

theorem Polling.of_eq {t after : Stream T B D H E X} (known : Polling inner first t)
    (ended : after.body.ended = t.body.ended) (polls : after.polls = t.polls)
    (began : after.began = t.began) (calls : after.calls = t.calls) (same : after.body.inner = t.body.inner) :
    Polling inner first after where
  unended := ended.trans known.unended
  begun := polls ▸ known.begun
  unfinished := began ▸ known.unfinished
  running := calls ▸ known.running
  latched := calls ▸ known.latched
  yields := by
    rw [calls, same]
    exact known.yields

theorem InPoll.read {t : Stream T B D H E X} (known : InPoll inner first Undecided t)
    (event : PollStep T D H E) (plain : event.plain = true)
    (silent : event.resolves = none) (unobserved : event.isObserved = false)
    (undenied : ∀ admission now, event ≠ .state admission now .denied) :
    InPoll inner first Undecided (t.step event) :=
  { known with
    toPolling := known.toPolling.of_eq rfl rfl rfl rfl rfl
    steps := known.steps.cons plain silent unobserved undenied }

theorem InPoll.look {t : Stream T B D H E X} {looked : List (PollStep T D H E)}
    (known : InPoll inner first (Facing looked) t) (event : PollStep T D H E)
    (plain : event.plain = true) (silent : event.resolves = none)
    (unobserved : event.isObserved = false) :
    InPoll inner first (Facing (event :: looked)) (t.step event) :=
  { known with
    toPolling := known.toPolling.of_eq rfl rfl rfl rfl rfl
    steps := known.steps.cons plain silent unobserved }

def Looked (inner : InnerBody B D H E) (first : EnforcedBody T B) (found : Option (Entry T))
    (reads : List (PollStep T D H E)) (t : Stream T B D H E X) : Prop :=
  ∃ entry, InPoll inner first (Facing (reads ++ [.lookedUp entry found, .loaded entry])) t

theorem Looked.plain {found : Option (Entry T)} {reads : List (PollStep T D H E)}
    {t : Stream T B D H E X} (looked : Looked inner first found reads t) :
    ∀ event ∈ t.steps, event.plain = true := by
  obtain ⟨entry, known⟩ := looked
  exact known.steps.ongoing.plain

theorem Looked.look {found : Option (Entry T)} {reads : List (PollStep T D H E)}
    {t : Stream T B D H E X} (looked : Looked inner first found reads t) (event : PollStep T D H E)
    (plain : event.plain = true) (silent : event.resolves = none)
    (unobserved : event.isObserved = false) :
    Looked inner first found (event :: reads) (t.step event) := by
  obtain ⟨entry, known⟩ := looked
  exact ⟨entry, known.look event plain silent unobserved⟩

def RoundEnds (inner : InnerBody B D H E) (first : EnforcedBody T B)
    (going : List (PollStep T D H E) → Stream T B D H E X → Prop) :
    PollRound → Stream T B D H E X → Prop
  | .again, t => InPoll inner first Ongoing t
  | .cut, t => Polling inner first t ∧ Cutting t.steps
  | .forward, t => Polling inner first t ∧ going t.steps t

theorem InPoll.setReadmission {Q : List (PollStep T D H E) → Prop} {t : Stream T B D H E X}
    (known : InPoll inner first Q t) {readmission : Readmission}
    (running : readmission.state ≠ .returned) :
    InPoll inner first Q (t.setReadmission (some readmission)) :=
  { known with
    toPolling := known.toPolling.of_eq rfl rfl rfl rfl rfl
    intact := fun _ other same => by
      obtain rfl := Option.some.inj same
      exact running }

def Waiting (t : Stream T B D H E X) : Prop :=
  ∃ readmission, t.body.readmission = some readmission ∧ readmission.waker = some t.polls ∧
    readmission.state ≠ .returned

def Going (steps : List (PollStep T D H E)) (t : Stream T B D H E X) : Prop :=
  Forwarding t.polls t.body.readmission steps ∧
    (Intact t ∨ ∃ result, .resolvedAtOnce result ∈ steps)

structure Returned (inner : InnerBody B D H E) (first : EnforcedBody T B)
    (result : Option (Entry T)) (later : List (PollStep T D H E)) (t : Stream T B D H E X) : Prop
    extends Polling inner first t where
  cleared : t.body.readmission = none
  split : ∃ earlier, t.steps = later ++ .resolved result :: earlier ∧ Undecided earlier

theorem Returned.step {result : Option (Entry T)} {later : List (PollStep T D H E)}
    {t : Stream T B D H E X} (known : Returned inner first result later t)
    (event : PollStep T D H E) : Returned inner first result (event :: later) (t.step event) := by
  obtain ⟨earlier, split, undecided⟩ := known.split
  exact
    { known with
      toPolling := known.toPolling.of_eq rfl rfl rfl rfl rfl
      split := ⟨earlier, congrArg (event :: ·) split, undecided⟩ }

theorem Returned.plain {result : Option (Entry T)} {later : List (PollStep T D H E)}
    {t : Stream T B D H E X} (known : Returned inner first result later t)
    (plain : ∀ event ∈ later, event.plain = true) : ∀ event ∈ t.steps, event.plain = true := by
  obtain ⟨earlier, split, undecided⟩ := known.split
  intro event member
  rw [split] at member
  rcases List.mem_append.mp member with member | member
  · exact plain event member
  · rcases List.mem_cons.mp member with rfl | member
    · rfl
    · exact undecided.1.plain event member

theorem Returned.ongoing {result : Option (Entry T)} {later : List (PollStep T D H E)}
    {t : Stream T B D H E X} (known : Returned inner first result later t)
    (plain : ∀ event ∈ later, event.plain = true)
    (silent : ∀ event ∈ later, event.resolves = none)
    (unobserved : ∀ event ∈ later, event.isObserved = false) (acted : ActedOn result later) :
    Ongoing t.steps := by
  obtain ⟨earlier, split, undecided⟩ := known.split
  refine ⟨split ▸ undecided.1.settled.append acted silent, known.plain plain, ?_⟩
  intro held now seen member
  rw [split] at member
  rcases List.mem_append.mp member with member | member
  · have impossible := unobserved _ member
    cases impossible
  · rcases List.mem_cons.mp member with same | member
    · cases same
    · exact undecided.1.stale held now seen member

structure Idle (inner : InnerBody B D H E) (first : EnforcedBody T B)
    (t : Stream T B D H E X) : Prop where
  begun : t.polls = 0 → t.body.admission = first.admission
  ended : t.body.ended = t.calls.any BodyCall.ends
  latched : inner.Latches → t.calls.any BodyCall.closed = true → t.body.ended = true ∨
    inner.isEndStream t.body.inner = true
  yields : inner.Yields first.inner (innerItems t.calls) t.body.inner
  intact : Intact t

structure Concluded (inner : InnerBody B D H E) (context : StreamContext H E X)
    (first : EnforcedBody T B) (call : BodyCall T B D H E X) (t : Stream T B D H E X) : Prop where
  idle : Idle inner first (t.record call)
  shaped : ∀ record, call = .polled record → record.Shape inner context first.side ∧
    record.steps = t.steps ∧ record.stored = t.body.readmission
  lawful : t.calls.any BodyCall.ends = true → call.Silent
  latched : inner.Latches → t.calls.any BodyCall.closed = true → call.Silent
  hinted : ∀ exact, call = .sizeHint exact →
    exact = if t.calls.any BodyCall.ends then some 0 else none

theorem Idle.polled {t : Stream T B D H E X} {answer : FramePoll D H X}
    (begun : 0 < t.polls) (yields : inner.Yields first.inner
      (innerItems t.calls ++ (t.polledCall answer).innerItem.toList) t.body.inner)
    (ended : t.body.ended = (t.polledCall answer).ends) (running : t.calls.any BodyCall.ends = false)
    (latched : inner.Latches → t.calls.any BodyCall.closed = false)
    (intact : Intact t ∨ (t.polledCall answer).loses = true) :
    Idle inner first (t.record (t.polledCall answer)) where
  begun none := absurd none begun.ne'
  ended := by simpa [Stream.record, running] using ended
  latched latches closed := by
    simp only [Stream.record, List.any_cons, latched latches, Bool.or_false] at closed
    exact .inl (ended.trans closed)
  yields := yields
  intact unlost := by
    simp only [Stream.record, List.any_cons, Bool.or_eq_false_iff] at unlost
    rcases intact with intact | lost
    · exact intact unlost.2
    · simp [lost] at unlost

theorem InnerBody.Yields.answered {items : List (Except E (Frame D H))} {looked : B}
    (yields : inner.Yields first.inner items looked) (record : PollRecord T B D H E X)
    {rest : List (PollStep T D H E)}
    (steps : record.steps = .innerPolled (inner.pollFrame looked).1 :: rest) :
    inner.Yields first.inner (items ++ (BodyCall.polled record).innerItem.toList)
      (inner.pollFrame looked).2 := by
  have polled := yields.polled
  simp only [BodyCall.innerItem, steps]
  cases same : (inner.pollFrame looked).1 with
  | pending => simpa [same] using polled
  | ready item => simpa [same] using polled

theorem StreamOk.start (now : Nat) (authority : T → Option Decision) (body : B) (subject : T)
    (admission : Entry T) (side : BodySide) :
    StreamOk (P := P) (X := X) inner context guest (.new body subject admission side)
      (.new now authority) (.new body subject admission side) where
  held := by simp [Stream.new]
  home := ⟨rfl, rfl⟩
  backed := by simp [Stream.new]
  recorded := by simp [Stream.new]
  forwarded := .of_unpolled (by simp [Stream.new])
  holds := .start _
  resumed := by simp [Stream.new]
  running := by simp [Stream.new]
  lawful := trivial
  latched _ := trivial
  hinted := trivial
  yields := ⟨body, .start⟩

theorem Idle.start {body : B} {subject : T} {admission : Entry T} {side : BodySide} :
    Idle (X := X) inner (.new body subject admission side) (.new body subject admission side) where
  begun _ := rfl
  ended := rfl
  latched _ closed := by simp [Stream.new] at closed
  yields := .start
  intact _ _ none := by cases none

end PolicyGate
