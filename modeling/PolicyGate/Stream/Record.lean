import PolicyGate.Stream.Body
import PolicyGate.Specs.Access

namespace PolicyGate

variable {T P B D H E X : Type}

namespace PollStep

def plain : PollStep T D H E → Bool
  | .resolvedAtOnce _ | .resumed | .woken | .innerPolled _ | .cutOff => false
  | _ => true

def isObserved : PollStep T D H E → Bool
  | .observed .. => true
  | _ => false

def onHandle : PollStep T D H E → Bool
  | .observed .. | .adopted _ => true
  | _ => false

def isCutOff : PollStep T D H E → Bool
  | .cutOff => true
  | _ => false

def resolves : PollStep T D H E → Option (Option (Entry T))
  | .resolved result | .resolvedAtOnce result => some result
  | _ => none

def Backed (cells : Nat → Option (EntryCell T P)) (guest : Nat) (subject : T) :
    PollStep T D H E → Prop
  | .observed admission now seen | .isAllowed admission now seen | .state admission now seen =>
      Observed.Backed cells admission .state guest now seen
  | .lookedUp entry found => Cached cells guest subject entry found
  | _ => True

end PollStep

/-- The body holds `admission` after these steps: what was observed is the handle it held then, and
another one took its place only right after it was read as `Allowed`. -/
inductive Holds : Entry T → List (PollStep T D H E) → Prop where
  | start (admission : Entry T) : Holds admission []
  | observed {admission : Entry T} {steps : List (PollStep T D H E)} (now : Nat) (seen : Observed)
      (holds : Holds admission steps) : Holds admission (.observed admission now seen :: steps)
  | adopted {admission next : Entry T} {now : Nat} {steps : List (PollStep T D H E)}
      (holds : Holds admission (.isAllowed next now .allowed :: steps)) :
      Holds next (.adopted next :: .isAllowed next now .allowed :: steps)
  | other {admission : Entry T} {event : PollStep T D H E} {steps : List (PollStep T D H E)}
      (elsewhere : event.onHandle = false) (holds : Holds admission steps) :
      Holds admission (event :: steps)

inductive ActedOn : Option (Entry T) → List (PollStep T D H E) → Prop where
  | adopted {admission : Entry T} {now : Nat} (later : List (PollStep T D H E)) :
      ActedOn (some admission) (later ++ [.adopted admission, .isAllowed admission now .allowed])
  | cut {admission : Entry T} {now now' : Nat} {seen : Observed} (later : List (PollStep T D H E)) :
      ActedOn (some admission)
        (later ++ [.cutOff, .state admission now' .denied, .isAllowed admission now seen])
  | retried {admission : Entry T} {now now' : Nat} {seen seen' : Observed}
      (later : List (PollStep T D H E)) (neither : seen ≠ .allowed ∧ seen' ≠ .denied) :
      ActedOn (some admission)
        (later ++ [.again, .state admission now' seen', .isAllowed admission now seen])
  | replaced (later : List (PollStep T D H E)) : ActedOn none (later ++ [.replaced])

theorem ActedOn.cons {result : Option (Entry T)} {later : List (PollStep T D H E)}
    (event : PollStep T D H E) (acted : ActedOn result later) : ActedOn result (event :: later) := by
  cases acted with
  | adopted later => exact .adopted (event :: later)
  | cut later => exact .cut (event :: later)
  | retried later neither => exact .retried (event :: later) neither
  | replaced later => exact .replaced (event :: later)

theorem ActedOn.append {result : Option (Entry T)} {between : List (PollStep T D H E)}
    (acted : ActedOn result between) (later : List (PollStep T D H E)) :
    ActedOn result (later ++ between) := by
  induction later with
  | nil => exact acted
  | cons event later ih => exact ih.cons event

theorem ActedOn.last {result : Option (Entry T)} {later : List (PollStep T D H E)}
    (acted : ActedOn result later) : ∃ event, later.getLast? = some event ∧ event.plain = true := by
  cases acted with
  | adopted | cut | retried => exact ⟨_, List.getLast?_append.trans rfl, rfl⟩
  | replaced => exact ⟨.replaced, by simp, rfl⟩

def Settled (steps : List (PollStep T D H E)) : Prop :=
  ∀ later event earlier result, steps = later ++ event :: earlier → event.resolves = some result →
    ActedOn result later

theorem Settled.nil : Settled ([] : List (PollStep T D H E)) := by
  intro later event earlier result split
  simp at split

theorem Settled.cons {steps : List (PollStep T D H E)} {event : PollStep T D H E}
    (settled : Settled steps) (silent : event.resolves = none) : Settled (event :: steps) := by
  intro later event' earlier result split resolved
  cases later with
  | nil =>
      obtain ⟨rfl, rfl⟩ := List.cons.inj split
      rw [silent] at resolved
      cases resolved
  | cons first later =>
      obtain ⟨rfl, tail⟩ := List.cons.inj split
      exact (settled later event' earlier result tail resolved).cons _

theorem Settled.append {later steps : List (PollStep T D H E)} {result : Option (Entry T)}
    (settled : Settled steps) (acted : ActedOn result later)
    (silent : ∀ event ∈ later, event.resolves = none) :
    Settled (later ++ .resolved result :: steps) := by
  intro later' event earlier result' split resolved
  rcases List.append_eq_append_iff.mp split with ⟨between, rfl, rest⟩ | ⟨between, rfl, rest⟩
  · cases between with
    | nil =>
        obtain ⟨rfl, rfl⟩ := List.cons.inj rest
        obtain rfl := Option.some.inj resolved
        simpa using acted
    | cons first between =>
        obtain ⟨rfl, tail⟩ := List.cons.inj rest
        exact ((settled between event earlier result' tail resolved).cons _).append later
  · cases between with
    | nil =>
        obtain ⟨rfl, rfl⟩ := List.cons.inj rest
        obtain rfl := Option.some.inj resolved
        simpa using acted
    | cons first between =>
        obtain ⟨rfl, rfl⟩ := List.cons.inj rest
        have none := silent event (by simp)
        rw [none] at resolved
        cases resolved

structure Ongoing (steps : List (PollStep T D H E)) : Prop where
  settled : Settled steps
  plain : ∀ event ∈ steps, event.plain = true
  stale : ∀ held now seen, .observed held now seen ∈ steps → seen = .stale

theorem Ongoing.nil : Ongoing ([] : List (PollStep T D H E)) := ⟨.nil, by simp, by simp⟩

theorem Ongoing.cons {steps : List (PollStep T D H E)} {event : PollStep T D H E} (ongoing : Ongoing steps)
    (plain : event.plain = true) (silent : event.resolves = none)
    (unobserved : event.isObserved = false) : Ongoing (event :: steps) where
  settled := ongoing.settled.cons silent
  plain := by simpa [plain] using ongoing.plain
  stale held now seen member := by
    rcases List.mem_cons.mp member with same | member
    · rw [← same] at unobserved
      cases unobserved
    · exact ongoing.stale held now seen member

inductive LookedUp : List (PollStep T D H E) → Prop where
  | nothing {entry : Option (Entry T)} : LookedUp [.lookedUp entry none, .loaded entry]
  | allowed {entry : Option (Entry T)} {admission : Entry T} {now : Nat} : LookedUp
      [.isAllowed admission now .allowed, .lookedUp entry (some admission), .loaded entry]
  | undenied {entry : Option (Entry T)} {admission : Entry T} {now now' : Nat} {seen seen' : Observed}
      (neither : seen ≠ .allowed ∧ seen' ≠ .denied) : LookedUp
        [.state admission now' seen', .isAllowed admission now seen,
          .lookedUp entry (some admission), .loaded entry]

/-- The latest round found its handle `Stale`, looked up the snapshot, and read no handle as
`Denied`. -/
inductive Consulted : List (PollStep T D H E) → Prop where
  | looked {looked before : List (PollStep T D H E)} {held : Entry T} {now : Nat}
      (found : LookedUp looked) : Consulted (looked ++ .observed held now .stale :: before)
  | later {event : PollStep T D H E} {steps : List (PollStep T D H E)}
      (unobserved : event.isObserved = false)
      (undenied : ∀ admission now, event ≠ .state admission now .denied)
      (consulted : Consulted steps) : Consulted (event :: steps)

/-- Why a poll goes on to the wrapped body, with the readmission it leaves. -/
inductive Forwarding (number : Nat) (stored : Option Readmission) :
    List (PollStep T D H E) → Prop where
  | allowed {held : Entry T} {now : Nat} {rest : List (PollStep T D H E)} (ongoing : Ongoing rest) :
      Forwarding number stored (.observed held now .allowed :: rest)
  | waiting {steps : List (PollStep T D H E)} {readmission : Readmission}
      (kept : stored = some readmission) (polled : readmission.waker = some number)
      (running : readmission.state ≠ .returned) (ongoing : Ongoing steps)
      (consulted : Consulted steps) : Forwarding number stored steps
  | outran {result : Option (Entry T)} {rest : List (PollStep T D H E)} (ongoing : Ongoing rest)
      (consulted : Consulted rest) :
      Forwarding number stored (.woken :: .resolvedAtOnce result :: rest)

structure Cutting (steps : List (PollStep T D H E)) : Prop where
  settled : Settled (.cutOff :: steps)
  plain : ∀ event ∈ steps, event.plain = true
  refused : ∀ held now seen, .observed held now seen ∈ steps → seen = .stale ∨
    (seen = .denied ∨ seen = .expired) ∧ ∃ rest, steps = .observed held now seen :: rest

structure Facing (looked steps : List (PollStep T D H E)) : Prop where
  ongoing : Ongoing steps
  stale : ∃ held now before, steps = looked ++ .observed held now .stale :: before

theorem Facing.cons {looked steps : List (PollStep T D H E)} {event : PollStep T D H E}
    (facing : Facing looked steps) (plain : event.plain = true) (silent : event.resolves = none)
    (unobserved : event.isObserved = false) : Facing (event :: looked) (event :: steps) := by
  obtain ⟨held, now, before, split⟩ := facing.stale
  exact ⟨facing.ongoing.cons plain silent unobserved, held, now, before, congrArg (event :: ·) split⟩

abbrev Undecided (steps : List (PollStep T D H E)) : Prop := Ongoing steps ∧ Consulted steps

theorem Undecided.cons {steps : List (PollStep T D H E)} {event : PollStep T D H E}
    (undecided : Undecided steps) (plain : event.plain = true) (silent : event.resolves = none)
    (unobserved : event.isObserved = false)
    (undenied : ∀ admission now, event ≠ .state admission now .denied) :
    Undecided (event :: steps) :=
  ⟨undecided.1.cons plain silent unobserved, undecided.2.later unobserved undenied⟩

theorem Facing.undecided {looked steps : List (PollStep T D H E)} (facing : Facing looked steps)
    (found : LookedUp looked) : Undecided steps := by
  obtain ⟨held, now, before, split⟩ := facing.stale
  exact ⟨facing.ongoing, split ▸ .looked found⟩

theorem Ongoing.denied {steps : List (PollStep T D H E)} {admission : Entry T} {now : Nat}
    (ongoing : Ongoing steps) : Cutting (.state admission now .denied :: steps) where
  settled := (ongoing.settled.cons rfl).cons rfl
  plain event member := by
    rcases List.mem_cons.mp member with rfl | member
    · rfl
    · exact ongoing.plain event member
  refused held now seen member := by
    rcases List.mem_cons.mp member with same | member
    · cases same
    · exact .inl (ongoing.stale held now seen member)

theorem Ongoing.cutting {steps : List (PollStep T D H E)} {held : Entry T} {now : Nat}
    {seen : Observed} (ongoing : Ongoing steps) (refused : seen = .denied ∨ seen = .expired) :
    Cutting (.observed held now seen :: steps) where
  settled := (ongoing.settled.cons rfl).cons rfl
  plain event member := by
    rcases List.mem_cons.mp member with rfl | member
    · rfl
    · exact ongoing.plain event member
  refused held' now' seen' member := by
    rcases List.mem_cons.mp member with same | member
    · cases same
      exact .inr ⟨refused, steps, rfl⟩
    · exact .inl (ongoing.stale held' now' seen' member)

theorem Ongoing.facing {steps : List (PollStep T D H E)} {held : Entry T} {now : Nat}
    (ongoing : Ongoing steps) : Facing [] (.observed held now .stale :: steps) := by
  refine ⟨⟨ongoing.settled.cons rfl, fun event member => ?_, fun held' now' seen member => ?_⟩,
    held, now, steps, rfl⟩
  · rcases List.mem_cons.mp member with rfl | member
    · rfl
    · exact ongoing.plain event member
  · rcases List.mem_cons.mp member with same | member
    · cases same
      rfl
    · exact ongoing.stale held' now' seen member

def StreamContext.rejectionItem (context : StreamContext H E X) (side : BodySide) :
    Except X (Frame D H) :=
  match context.streamDenied side context.rejectionMessage with
  | .trailers trailers => .ok (.trailers trailers)
  | .error error => .error error

theorem StreamContext.rejection_eq (context : StreamContext H E X) (side : BodySide) :
    context.rejection side = (.ready (some (context.rejectionItem side)) : FramePoll D H X) := by
  unfold StreamContext.rejection StreamContext.rejectionItem
  split <;> simp [*]

inductive PollRecord.Shape (inner : InnerBody B D H E) (context : StreamContext H E X)
    (side : BodySide) : PollRecord T B D H E X → Prop where
  | closed {number : Nat} {began : B} : Shape inner context side ⟨number, began, [], .ready none, none⟩
  | forwarded {number : Nat} {began : B} {answer : FramePoll D H E} {rest : List (PollStep T D H E)}
      {stored : Option Readmission} (unfinished : inner.isEndStream began = false)
      (forwarding : Forwarding number stored rest) :
      Shape inner context side ⟨number, began, .innerPolled answer :: rest, context.pass answer,
        if FramePoll.terminal answer then none else stored⟩
  | cut {number : Nat} {began : B} {rest : List (PollStep T D H E)}
      (unfinished : inner.isEndStream began = false) (cutting : Cutting rest) :
      Shape inner context side ⟨number, began, .cutOff :: rest, context.rejection side, none⟩

def lastSeen : List (PollStep T D H E) → Option Observed
  | [] => none
  | .observed _ _ seen :: _ => some seen
  | _ :: earlier => lastSeen earlier

/-- What a call of `poll_frame` owes its readmissions: every one that returned was acted on, the one
it leaves has not returned, and a caller told to wait after a `Stale` observation is woken for it. -/
structure PollRecord.Readmits (record : PollRecord T B D H E X) : Prop where
  settled : Settled record.steps
  running : ∀ readmission, record.stored = some readmission → readmission.state ≠ .returned
  armed : record.answer = .pending → lastSeen record.steps = some .stale →
    (∃ readmission, record.stored = some readmission ∧ readmission.waker = some record.number) ∨
      .woken ∈ record.steps

theorem PollRecord.Shape.readmits {inner : InnerBody B D H E} {context : StreamContext H E X}
    {side : BodySide} {record : PollRecord T B D H E X} (shape : record.Shape inner context side)
    (running : ∀ readmission, record.stored = some readmission → readmission.state ≠ .returned)
    (unlost : ∀ result, .resolvedAtOnce result ∉ record.steps) : record.Readmits := by
  refine ⟨?_, running, fun pending stale => ?_⟩
  · cases shape with
    | closed => exact .nil
    | cut _ cutting => exact cutting.settled
    | forwarded _ forwarding =>
        cases forwarding with
        | allowed ongoing => exact (ongoing.settled.cons rfl).cons rfl
        | waiting _ _ _ ongoing => exact ongoing.settled.cons rfl
        | @outran lost rest => exact absurd (by simp) (unlost lost)
  · cases shape with
    | closed => cases pending
    | cut =>
        rw [StreamContext.rejection_eq] at pending
        cases pending
    | @forwarded number began answer rest stored _ forwarding =>
        cases forwarding with
        | allowed => cases stale
        | @outran lost rest => exact absurd (by simp) (unlost lost)
        | waiting kept polled =>
            rcases answer with _ | _ | _ | _ <;> cases pending
            exact .inl ⟨_, kept, polled⟩

theorem PollRecord.Shape.unlost_of_readmits {inner : InnerBody B D H E}
    {context : StreamContext H E X} {side : BodySide} {record : PollRecord T B D H E X}
    (shape : record.Shape inner context side) (readmits : record.Readmits)
    (result : Option (Entry T)) : .resolvedAtOnce result ∉ record.steps := by
  have plain : ∀ steps : List (PollStep T D H E), (∀ event ∈ steps, event.plain = true) →
      .resolvedAtOnce result ∉ steps := by
    intro steps plain member
    have impossible := plain _ member
    cases impossible
  cases shape with
  | closed => simp
  | cut _ cutting => simpa using plain _ cutting.plain
  | @forwarded number began answer rest stored _ forwarding =>
      cases forwarding with
      | allowed ongoing => simpa using plain _ ongoing.plain
      | waiting _ _ _ ongoing => simpa using plain _ ongoing.plain
      | @outran lost rest ongoing =>
          obtain ⟨event, same, plain⟩ := (readmits.settled [.innerPolled answer, .woken]
            (.resolvedAtOnce lost) rest lost rfl rfl).last
          obtain rfl := Option.some.inj same
          cases plain

def Forwarded (steps : List (PollStep T D H E)) : Prop :=
  ∀ later answer earlier, steps = later ++ .innerPolled answer :: earlier →
    later = [] ∧ ∃ number stored, Forwarding number stored earlier

theorem unpolled_of_plain {steps : List (PollStep T D H E)}
    (plain : ∀ event ∈ steps, event.plain = true) (answer : FramePoll D H E) :
    .innerPolled answer ∉ steps := by
  intro member
  have impossible := plain _ member
  cases impossible

theorem Forwarded.of_unpolled {steps : List (PollStep T D H E)}
    (unpolled : ∀ answer, .innerPolled answer ∉ steps) : Forwarded steps := by
  intro later answer earlier split
  exact absurd (by simp [split]) (unpolled answer)

theorem Forwarded.cons {steps : List (PollStep T D H E)} {event : PollStep T D H E}
    (unpolled : ∀ answer, .innerPolled answer ∉ steps)
    (due : ∀ answer, event = .innerPolled answer → ∃ number stored, Forwarding number stored steps) :
    Forwarded (event :: steps) := by
  intro later answer earlier split
  cases later with
  | nil =>
      obtain ⟨rfl, rfl⟩ := List.cons.inj split
      exact ⟨rfl, due answer rfl⟩
  | cons first later =>
      obtain ⟨rfl, rfl⟩ := List.cons.inj split
      exact absurd (by simp) (unpolled answer)

theorem Forwarding.unpolled {number : Nat} {stored : Option Readmission}
    {steps : List (PollStep T D H E)} (forwarding : Forwarding number stored steps)
    (answer : FramePoll D H E) : .innerPolled answer ∉ steps := by
  intro member
  cases forwarding with
  | allowed ongoing =>
      have plain := ongoing.plain (.innerPolled answer) (by simpa using member)
      cases plain
  | waiting _ _ _ ongoing =>
      have plain := ongoing.plain _ member
      cases plain
  | outran ongoing =>
      have plain := ongoing.plain (.innerPolled answer) (by simpa using member)
      cases plain

theorem PollRecord.Shape.forwards {inner : InnerBody B D H E} {context : StreamContext H E X}
    {side : BodySide} {record : PollRecord T B D H E X} (shape : record.Shape inner context side) :
    Forwarded record.steps := by
  cases shape with
  | closed => exact .of_unpolled (by simp)
  | forwarded _ forwarding => exact .cons forwarding.unpolled fun _ _ => ⟨_, _, forwarding⟩
  | cut _ cutting => exact .of_unpolled (by simpa using unpolled_of_plain cutting.plain)

theorem Forwarding.reason {number : Nat} {stored : Option Readmission}
    {steps : List (PollStep T D H E)} (forwarding : Forwarding number stored steps) :
    (∃ held now before, steps = .observed held now .allowed :: before) ∨ Consulted steps := by
  cases forwarding with
  | allowed => exact .inl ⟨_, _, _, rfl⟩
  | waiting _ _ _ _ consulted => exact .inr consulted
  | outran _ consulted => exact .inr (.later rfl (by simp) (.later rfl (by simp) consulted))

theorem PollRecord.Shape.refused {inner : InnerBody B D H E} {context : StreamContext H E X}
    {side : BodySide} {record : PollRecord T B D H E X} (shape : record.Shape inner context side)
    {held : Entry T} {now : Nat} {seen : Observed} (observed : .observed held now seen ∈ record.steps)
    (refuses : seen = .denied ∨ seen = .expired) :
    (∃ before, record.steps = .cutOff :: .observed held now seen :: before) ∧
      record.answer = .ready (some (context.rejectionItem side)) ∧ record.stored = none := by
  have unstale : seen ≠ .stale := by rcases refuses with rfl | rfl <;> simp
  cases shape with
  | closed => simp at observed
  | cut _ cutting =>
      have member := (List.mem_cons.mp observed).resolve_left (by simp)
      obtain ⟨_, before, rfl⟩ := (cutting.refused held now seen member).resolve_left unstale
      exact ⟨⟨before, rfl⟩, context.rejection_eq side, rfl⟩
  | @forwarded number began answer rest stored _ forwarding =>
      have member := (List.mem_cons.mp observed).resolve_left (by simp)
      cases forwarding with
      | waiting _ _ _ ongoing => exact absurd (ongoing.stale held now seen member) unstale
      | allowed ongoing =>
          rcases List.mem_cons.mp member with same | member
          · cases same
            simp at refuses
          · exact absurd (ongoing.stale held now seen member) unstale
      | outran ongoing =>
          exact absurd (ongoing.stale held now seen (by simpa using member)) unstale

namespace BodyCall

def ends : BodyCall T B D H E X → Bool
  | .polled record =>
      match record.steps with
      | .innerPolled answer :: _ => FramePoll.terminal answer
      | .cutOff :: _ | [] => true
      | _ => false
  | .isEndStream _ | .sizeHint _ => false

def closed : BodyCall T B D H E X → Bool
  | .isEndStream answer => answer
  | call => call.ends

def innerItem : BodyCall T B D H E X → Option (Except E (Frame D H))
  | .polled record =>
      match record.steps with
      | .innerPolled (.ready item) :: _ => item
      | _ => none
  | .isEndStream _ | .sizeHint _ => none

def item : BodyCall T B D H E X → Option (Except X (Frame D H))
  | .polled record =>
      match record.answer with
      | .ready item => item
      | .pending => none
  | .isEndStream _ | .sizeHint _ => none

def Silent : BodyCall T B D H E X → Prop
  | .polled record => record.steps = [] ∧ record.answer = .ready none
  | .isEndStream answer => answer = true
  | .sizeHint _ => True

/-- How often this call cut the body, which is how often it called `stream_denied` and
`stream_cutoff`. -/
def cutoffs : BodyCall T B D H E X → Nat
  | .polled record => record.steps.countP PollStep.isCutOff
  | .isEndStream _ | .sizeHint _ => 0

def Terminal : BodyCall T B D H E X → Prop
  | .polled record => record.answer = .ready none ∨
      (∃ trailers, record.answer = .ready (some (.ok (.trailers trailers)))) ∨
      .cutOff ∈ record.steps
  | .isEndStream answer => answer = true
  | .sizeHint _ => False

/-- A readmission returned when it was first polled as a replacement, in this call. -/
def loses : BodyCall T B D H E X → Bool
  | .polled record => record.steps.any fun
      | .resolvedAtOnce _ => true
      | _ => false
  | .isEndStream _ | .sizeHint _ => false

end BodyCall

/-- Once a call is in `over`, every later call finds the body ended. -/
def Lawful (closed : BodyCall T B D H E X → Bool) : List (BodyCall T B D H E X) → Prop
  | [] => True
  | call :: earlier => (earlier.any closed = true → call.Silent) ∧ Lawful closed earlier

def Hinted : List (BodyCall T B D H E X) → Prop
  | [] => True
  | call :: earlier =>
      (∀ exact, call = .sizeHint exact →
        exact = if earlier.any BodyCall.ends then some 0 else none) ∧ Hinted earlier

def innerItems : List (BodyCall T B D H E X) → List (Except E (Frame D H))
  | [] => []
  | call :: earlier => innerItems earlier ++ call.innerItem.toList

def items : List (BodyCall T B D H E X) → List (Except X (Frame D H))
  | [] => []
  | call :: earlier => items earlier ++ call.item.toList

/-- How often the body was cut. -/
def cutoffs (calls : List (BodyCall T B D H E X)) : Nat := (calls.map BodyCall.cutoffs).sum

def StreamContext.passItem (context : StreamContext H E X) :
    Except E (Frame D H) → Except X (Frame D H)
  | .ok frame => .ok frame
  | .error error => .error (context.into error)

theorem Lawful.later {closed : BodyCall T B D H E X → Bool} {later earlier : List (BodyCall T B D H E X)}
    {call : BodyCall T B D H E X} (lawful : Lawful closed (later ++ call :: earlier))
    (found : closed call = true) : ∀ next ∈ later, next.Silent := by
  induction later with
  | nil => simp
  | cons first later ih =>
      intro next member
      rcases List.mem_cons.mp member with rfl | member
      · exact lawful.1 (by simp [found])
      · exact ih lawful.2 next member

theorem Hinted.later {later earlier : List (BodyCall T B D H E X)} {exact : Option Nat}
    (hinted : Hinted (later ++ .sizeHint exact :: earlier)) :
    exact = if earlier.any BodyCall.ends then some 0 else none := by
  induction later with
  | nil => exact hinted.1 exact rfl
  | cons first later ih => exact ih hinted.2

theorem BodyCall.closed_of_ends {call : BodyCall T B D H E X} (ends : call.ends = true) :
    call.closed = true := by
  cases call with
  | polled record => exact ends
  | isEndStream answer => cases ends
  | sizeHint exact => cases ends

theorem uncut_of_plain {steps : List (PollStep T D H E)} (plain : ∀ event ∈ steps, event.plain = true) :
    .cutOff ∉ steps := by
  intro member
  have impossible := plain _ member
  cases impossible

theorem Forwarding.uncut {number : Nat} {stored : Option Readmission}
    {steps : List (PollStep T D H E)} (forwarding : Forwarding number stored steps) :
    .cutOff ∉ steps := by
  cases forwarding with
  | allowed ongoing => simpa using uncut_of_plain ongoing.plain
  | waiting _ _ _ ongoing => exact uncut_of_plain ongoing.plain
  | outran ongoing => simpa using uncut_of_plain ongoing.plain

theorem countP_isCutOff_eq_zero {steps : List (PollStep T D H E)} (uncut : .cutOff ∉ steps) :
    steps.countP PollStep.isCutOff = 0 := by
  refine List.countP_eq_zero.mpr fun event member cuts => ?_
  cases event <;> first | exact uncut member | cases cuts

inductive BodyCall.Yields (context : StreamContext H E X) (side : BodySide)
    (call : BodyCall T B D H E X) : Prop where
  | passed (uncut : call.cutoffs = 0) (same : call.item = call.innerItem.map context.passItem)
  | rejected (once : call.cutoffs = 1) (rejection : call.item = some (context.rejectionItem side))
      (none : call.innerItem = none) (ended : call.ends = true)

theorem PollRecord.Shape.yields {inner : InnerBody B D H E} {context : StreamContext H E X}
    {side : BodySide} {record : PollRecord T B D H E X} (shape : record.Shape inner context side) :
    (BodyCall.polled record).Yields context side := by
  cases shape with
  | closed => exact .passed rfl rfl
  | @forwarded number began answer rest stored _ forwarding =>
      refine .passed ?_ ?_
      · exact countP_isCutOff_eq_zero (by simpa using forwarding.uncut)
      · cases answer with
        | pending => rfl
        | ready item =>
            rcases item with _ | _ | _
            · rfl
            · rfl
            · rfl
  | cut _ cutting =>
      refine .rejected ?_ ?_ rfl rfl
      · have rest := countP_isCutOff_eq_zero (uncut_of_plain cutting.plain)
        exact (List.countP_cons_of_pos rfl).trans (by rw [rest])
      · simp [BodyCall.item, StreamContext.rejection_eq]

theorem PollRecord.Shape.ends_of_terminal {inner : InnerBody B D H E}
    {context : StreamContext H E X} {side : BodySide} {record : PollRecord T B D H E X}
    (shape : record.Shape inner context side) (terminal : (BodyCall.polled record).Terminal) :
    (BodyCall.polled record).ends = true := by
  cases shape with
  | closed => rfl
  | cut => rfl
  | @forwarded number began answer rest stored _ forwarding =>
      rcases terminal with none | ⟨trailers, same⟩ | cut
      · rcases answer with _ | _ | _ | _ <;> first | rfl | cases none
      · rcases answer with _ | _ | _ | frame <;> cases same
        rfl
      · exact absurd cut (by simpa using forwarding.uncut)

/-- The items of a body are the wrapped body's, and after them its rejection if it was cut. -/
theorem items_eq {inner : InnerBody B D H E} {context : StreamContext H E X} {side : BodySide}
    {calls : List (BodyCall T B D H E X)}
    (shaped : ∀ record, .polled record ∈ calls → record.Shape inner context side)
    (lawful : Lawful BodyCall.ends calls) :
    items calls = (innerItems calls).map context.passItem ++
        List.replicate (cutoffs calls) (context.rejectionItem side) ∧ cutoffs calls ≤ 1 ∧
      (cutoffs calls ≠ 0 → calls.any BodyCall.ends = true) := by
  induction calls with
  | nil => exact ⟨rfl, by simp [cutoffs], by simp [cutoffs]⟩
  | cons call earlier ih =>
      obtain ⟨same, once, ends⟩ := ih (fun record member => shaped record (by simp [member])) lawful.2
      have yields : call.Yields context side := by
        cases call with
        | polled record => exact (shaped record (by simp)).yields
        | isEndStream answer => exact .passed rfl rfl
        | sizeHint exact => exact .passed rfl rfl
      have total : cutoffs (call :: earlier) = call.cutoffs + cutoffs earlier := by simp [cutoffs]
      by_cases uncut : cutoffs earlier = 0
      · cases yields with
        | passed none passed =>
            rw [uncut, List.replicate_zero, List.append_nil] at same
            rw [total, none, uncut, items, innerItems, same, passed]
            refine ⟨?_, by simp, by simp⟩
            cases call.innerItem <;> simp
        | rejected one rejection none ended =>
            rw [uncut, List.replicate_zero, List.append_nil] at same
            rw [total, one, uncut, items, innerItems, same, rejection, none]
            exact ⟨by simp, le_rfl, fun _ => by simp [ended]⟩
      · have silent := lawful.1 (ends uncut)
        have nothing : call.cutoffs = 0 ∧ call.item = none ∧ call.innerItem = none := by
          cases call with
          | polled record =>
              obtain ⟨steps, answer⟩ := silent
              simp [BodyCall.cutoffs, BodyCall.item, BodyCall.innerItem, steps, answer]
          | isEndStream answer => exact ⟨rfl, rfl, rfl⟩
          | sizeHint exact => exact ⟨rfl, rfl, rfl⟩
        rw [total, nothing.1, Nat.zero_add, items, innerItems, nothing.2.1, nothing.2.2]
        exact ⟨by simpa using same, once, fun cut => by simp [ends cut]⟩

inductive InnerBody.Yields (inner : InnerBody B D H E) (body : B) :
    List (Except E (Frame D H)) → B → Prop where
  | start : Yields inner body [] body
  | drifted {items : List (Except E (Frame D H))} {after : B} (choice : Nat)
      (yields : Yields inner body items after) : Yields inner body items (inner.drift choice after)
  | polled {items : List (Except E (Frame D H))} {after : B} (yields : Yields inner body items after) :
      Yields inner body
        (items ++ (match (inner.pollFrame after).1 with
          | .ready item => item.toList
          | .pending => []))
        (inner.pollFrame after).2

structure InnerBody.Latches (inner : InnerBody B D H E) : Prop where
  polled : ∀ body, inner.isEndStream body = true → inner.isEndStream (inner.pollFrame body).2 = true
  drifted : ∀ choice body, inner.isEndStream body = true →
    inner.isEndStream (inner.drift choice body) = true

end PolicyGate
