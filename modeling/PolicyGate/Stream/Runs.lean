import PolicyGate.Interleaving.Record
import PolicyGate.Stream.Calls

namespace PolicyGate

open Interleaving

variable {T P B D H E X : Type} [DecidableEq T] {rt : Runtime} {inner : InnerBody B D H E}
  {context : StreamContext H E X}

inductive Stream.Records (s : Gate T P) (before after : Stream T B D H E X) : Prop where
  | noted (events : List (PollStep T D H E)) (polls : after.polls = before.polls)
      (calls : after.calls = before.calls) (steps : after.steps = events ++ before.steps)
      (loads : ∀ entry, .loaded entry ∈ events →
        events = [.loaded entry] ∧ entry = s.snapshotEntry before.body.subject)
  | begun (polls : after.polls = before.polls + 1) (calls : after.calls = before.calls)
      (steps : after.steps = [])
  | recorded {call : BodyCall T B D H E X} (polls : after.polls = before.polls)
      (calls : after.calls = call :: before.calls) (steps : after.steps = before.steps)
      (told : ∀ record, call = .polled record →
        record.number = before.polls ∧ record.steps = before.steps)

/-- What one move does to the wrapped body: if it polls it, it notes the answer. -/
inductive Stream.Drives (inner : InnerBody B D H E) (before after : Stream T B D H E X) : Prop where
  | kept (same : after.body.inner = before.body.inner)
  | drifted (choice : Nat) (same : after.body.inner = inner.drift choice before.body.inner)
  | polled (choice : Nat)
      (same : after.body.inner = (inner.pollFrame (inner.drift choice before.body.inner)).2)
      (steps : after.steps =
        .innerPolled (inner.pollFrame (inner.drift choice before.body.inner)).1 :: before.steps)

structure Stream.Grows (inner : InnerBody B D H E) (s : Gate T P)
    (before after : Stream T B D H E X) : Prop where
  records : Records s before after
  drives : Drives inner before after

namespace Stream.Grows

theorem refl (s : Gate T P) (t : Stream T B D H E X) : Grows inner s t t :=
  ⟨.noted [] rfl rfl rfl (by simp), .kept rfl⟩

theorem step {s : Gate T P} {t after : Stream T B D H E X} (event : PollStep T D H E)
    (polls : after.polls = t.polls) (calls : after.calls = t.calls) (steps : after.steps = event :: t.steps)
    (same : after.body.inner = t.body.inner) (elsewhere : ∀ entry, event ≠ .loaded entry) :
    Grows inner s t after :=
  ⟨.noted [event] polls calls steps fun entry member =>
    absurd (List.mem_singleton.mp member).symm (elsewhere entry), .kept same⟩

end Stream.Grows

abbrev Growing {α : Type} (inner : InnerBody B D H E) (program : Streaming T P B D H E X α) : Prop :=
  program.Always fun before after => Stream.Grows inner before.1 before.2 after.2

namespace Growing

open Program

variable {α : Type}

theorem hosted (program : Program (Gate T P) α) :
    Growing inner (program.hosted (Stream T B D H E X)) :=
  Always.mono (Always.hosted program) fun before after same => by
    rw [same]
    exact .refl before.1 before.2

theorem own {action : Nat → Gate T P → Stream T B D H E X → Option (α × Stream T B D H E X)}
    (grows : ∀ choice s t result after, action choice s t = some (result, after) →
      Stream.Grows inner s t after) : Growing inner (.own action) := by
  refine Always.act fun pick x result after ran => ?_
  obtain ⟨⟨answer, t⟩, acted, same⟩ := Option.map_eq_some_iff.mp ran
  obtain ⟨rfl, rfl⟩ := Prod.mk.injEq .. ▸ same
  exact grows pick.choice x.1 x.2 answer t acted

theorem body {action : Nat → Stream T B D H E X → α × Stream T B D H E X}
    (grows : ∀ choice (s : Gate T P) t, Stream.Grows inner s t (action choice t).2) :
    Growing inner (onBody (T := T) (P := P) action) := by
  refine own fun choice s t result after ran => ?_
  obtain ⟨rfl, rfl⟩ := Prod.mk.injEq .. ▸ Option.some.inj ran
  exact grows choice s t

theorem modify {f : Stream T B D H E X → Stream T B D H E X}
    (grows : ∀ (s : Gate T P) t, Stream.Grows inner s t (f t)) :
    Growing inner (modifyBody (T := T) (P := P) f) := body fun _ => grows

end Growing

open Program

theorem readHandle_growing (read : Nat → Observed → PollStep T D H E) (admission : Entry T)
    (elsewhere : ∀ now seen entry, read now seen ≠ .loaded entry) :
    Growing (P := P) (X := X) inner (readHandle read admission) :=
  .bind (Growing.hosted _) fun _ => .bind (Growing.modify fun _ _ => .step _ rfl rfl rfl rfl (elsewhere _ _))
    fun _ => .done

theorem isAllowed_growing (admission : Entry T) :
    Growing (P := P) (D := D) (H := H) (E := E) (X := X) inner (isAllowed admission) :=
  .bind (readHandle_growing _ _ (by simp)) fun _ => .done

theorem isDenied_growing (admission : Entry T) :
    Growing (P := P) (D := D) (H := H) (E := E) (X := X) inner (isDenied admission) :=
  .bind (readHandle_growing _ _ (by simp)) fun _ => .done

theorem Stream.Grows.setReadmission (s : Gate T P) (t : Stream T B D H E X)
    (readmission : Option Readmission) : Stream.Grows inner s t (t.setReadmission readmission) :=
  ⟨.noted [] rfl rfl rfl (by simp), .kept rfl⟩

theorem lookUpSnapshot_growing : Growing inner (lookUpSnapshot (T := T) (P := P) (B := B) (X := X) rt) := by
  refine .bind (Growing.body fun _ s t => .refl s t) fun subject => .bind (Growing.own ?_) fun entry =>
    .bind (Growing.hosted _) fun found => .bind (Growing.modify fun _ _ => .step _ rfl rfl rfl rfl (by simp)) fun _ => .done
  intro choice s t result after ran
  obtain ⟨rfl, rfl⟩ := Prod.mk.injEq .. ▸ Option.some.inj ran
  refine ⟨.noted [_] rfl rfl rfl fun entry member => ?_, .kept rfl⟩
  obtain rfl := PollStep.loaded.inj (List.mem_singleton.mp member)
  exact ⟨rfl, rfl⟩

theorem consultSnapshot_growing : Growing inner (consultSnapshot (T := T) (P := P) (B := B) (X := X) rt) := by
  refine .bind lookUpSnapshot_growing fun found => ?_
  cases found with
  | none => exact .done
  | some admission =>
      refine .bind (isAllowed_growing admission) fun _ => .ite (.ite ?_ .done)
        (.bind (isDenied_growing admission) fun _ => .ite ?_ .done)
      · exact .bind (Growing.modify fun _ _ => .step _ rfl rfl rfl rfl (by simp)) fun _ => .done
      · exact .bind (Growing.modify fun s t => .setReadmission s t none) fun _ => .done

theorem pollSleep_growing : Growing (T := T) (P := P) inner (pollSleep (X := X) rt) := by
  refine .bind (Growing.own fun choice s t result after ran => ?_) fun _ =>
    Growing.own fun choice s t result after ran => ?_
  · split at ran <;> obtain ⟨_, rfl⟩ := Prod.mk.injEq .. ▸ Option.some.inj ran
    · exact .setReadmission s t _
    · exact .refl s t
  · split at ran
    · split at ran
      · obtain ⟨_, rfl⟩ := Prod.mk.injEq .. ▸ Option.some.inj ran
        exact .setReadmission s t _
      · cases ran
    · obtain ⟨_, rfl⟩ := Prod.mk.injEq .. ▸ Option.some.inj ran
      exact .refl s t

theorem pollReadmission_growing : Growing (P := P) inner (pollReadmission (T := T) (X := X) rt) := by
  refine .bind pollSleep_growing fun _ => .bind (Growing.own fun choice s t result after ran => ?_) fun poll => ?_
  · split at ran
    · cases ran
    · split at ran
      · obtain ⟨_, rfl⟩ := Prod.mk.injEq .. ▸ Option.some.inj ran
        exact .step .resumed rfl rfl rfl rfl (by simp)
      · split at ran <;> obtain ⟨_, rfl⟩ := Prod.mk.injEq .. ▸ Option.some.inj ran
        · exact .setReadmission s t _
        · exact .setReadmission s t _
  · cases poll with
    | some poll => exact .done
    | none => exact .act fun _ _ _ _ ran => by cases ran

theorem startReadmission_growing :
    Growing (T := T) (P := P) inner (startReadmission (B := B) (X := X)) := by
  refine Growing.own fun choice s t result after ran => ?_
  split at ran
  · obtain ⟨_, rfl⟩ := Prod.mk.injEq .. ▸ Option.some.inj ran
    exact .refl s t
  · split at ran
    · obtain ⟨_, rfl⟩ := Prod.mk.injEq .. ▸ Option.some.inj ran
      exact .step .readmitted rfl rfl rfl rfl (by simp)
    · cases ran

theorem replaceReadmission_growing :
    Growing (P := P) inner (replaceReadmission (T := T) (X := X) rt) := by
  refine .bind (Growing.modify fun _ _ => .step .replaced rfl rfl rfl rfl (by simp)) fun _ =>
    .bind pollReadmission_growing fun poll => ?_
  cases poll with
  | pending => exact .done
  | ready result =>
      exact .bind (Growing.modify fun _ _ => ⟨.noted [.woken, .resolvedAtOnce result] rfl rfl rfl
        (by simp), .kept rfl⟩) fun _ => .done

theorem readmissionReturned_growing (result : Option (Entry T)) :
    Growing (P := P) inner (readmissionReturned (X := X) rt result) := by
  refine .bind (Growing.modify fun _ _ => .step (.resolved result) rfl rfl rfl rfl (by simp)) fun _ => ?_
  cases result with
  | none => exact replaceReadmission_growing
  | some admission =>
      refine .bind (isAllowed_growing admission) fun _ => .ite ?_
        (.bind (isDenied_growing admission) fun _ => .ite .done ?_)
      · exact .bind (Growing.modify fun _ _ => .step (.adopted admission) rfl rfl rfl rfl (by simp))
          fun _ => .done
      · exact .bind (Growing.modify fun _ _ => .step .again rfl rfl rfl rfl (by simp)) fun _ => .done

theorem consultReadmission_growing :
    Growing (P := P) inner (consultReadmission (T := T) (X := X) rt) := by
  refine .bind startReadmission_growing fun _ => .bind pollReadmission_growing fun poll => ?_
  cases poll with
  | pending => exact .bind (Growing.modify fun _ _ => .step .waited rfl rfl rfl rfl (by simp)) fun _ => .done
  | ready result => exact readmissionReturned_growing result

theorem pollRound_growing : Growing (P := P) inner (pollRound (T := T) (X := X) rt) := by
  refine .bind (Growing.body fun _ s t => .refl s t) fun held =>
    .bind (readHandle_growing _ _ (by simp)) fun seen => ?_
  cases seen with
  | allowed | denied | expired => exact .done
  | stale =>
      refine .bind consultSnapshot_growing fun round => ?_
      cases round with
      | again | cut => exact .done
      | forward => exact consultReadmission_growing

theorem pollRounds_growing : Growing (P := P) inner (pollRounds (T := T) (X := X) rt) := by
  refine .iterate fun _ => .bind pollRound_growing fun round => ?_
  cases round <;> exact .done

theorem pollInnerTerminal_growing :
    Growing (T := T) (P := P) inner (pollInnerTerminal inner context) := by
  refine Growing.body fun choice s t => ?_
  dsimp only
  split <;> exact ⟨.noted [_] rfl rfl rfl (by simp), .polled choice rfl rfl⟩

theorem cutOff_growing : Growing (T := T) (P := P) (B := B) inner (cutOff context) :=
  Growing.body fun _ _ _ => .step .cutOff rfl rfl rfl rfl (by simp)

theorem beginFrame_growing : Growing (T := T) (P := P) (X := X) inner (beginFrame inner) := by
  refine Growing.body fun choice s t => ?_
  dsimp only
  split <;> exact ⟨.begun rfl rfl rfl, .drifted choice rfl⟩

theorem pollFrame_growing : Growing (T := T) (P := P) inner (pollFrame rt inner context) :=
  .bind beginFrame_growing fun _ => .ite .done (.bind pollRounds_growing fun _ =>
    .ite pollInnerTerminal_growing cutOff_growing)

theorem record_growing {call : Stream T B D H E X → BodyCall T B D H E X}
    (told : ∀ t record, call t = .polled record → record.number = t.polls ∧ record.steps = t.steps) :
    Growing (P := P) inner (modifyBody fun t => t.record (call t)) :=
  Growing.modify fun _ t => ⟨.recorded rfl rfl rfl (told t), .kept rfl⟩

theorem ownBody_growing (admission : Entry T) :
    Growing (P := P) inner (ownBody rt inner context admission) := by
  refine .bind (Growing.hosted _) fun _ => .iterate fun _ => .bind (Growing.body fun _ s t => .refl s t) fun choice => ?_
  rcases choice with _ | _ | choice
  · refine .bind pollFrame_growing fun answer => .bind (record_growing fun t record same => ?_) fun _ => .done
    obtain rfl := BodyCall.polled.inj same
    exact ⟨rfl, rfl⟩
  · refine .bind (Growing.body fun choice s t => ⟨.noted [] rfl rfl rfl (by simp), .drifted choice rfl⟩)
      fun answer => .bind (record_growing fun t record same => by cases same) fun _ => .done
  · exact .bind (Growing.body fun _ s t => .refl s t) fun exact =>
      .bind (record_growing fun t record same => by cases same) fun _ => .done

section

variable {authority : T → Option Decision} {calls : Nat → Call T} {guest : Nat} {body : B}
  {subject : T} {admission : Entry T} {side : BodySide}
  {c next later : Config (Gate T P × Stream T B D H E X)}

theorem StreamLeads.refl (c : Config (Gate T P × Stream T B D H E X)) : StreamLeads c c := ⟨[], rfl⟩

theorem StreamLeads.of_move {m : Move (GateEvent T P)}
    (moved : c.move (Config.beside _ Gate.environment) m = some next) : StreamLeads c next :=
  ⟨[m], by simp only [Config.run, moved, Option.bind_some]⟩

theorem StreamLeads.trans (first : StreamLeads c next) (second : StreamLeads next later) :
    StreamLeads c later := by
  obtain ⟨moves, ran⟩ := first
  obtain ⟨more, further⟩ := second
  refine ⟨moves ++ more, ?_⟩
  rw [Config.run_append, ran]
  exact further

theorem StreamReachable.always
    (reached : StreamReachable rt inner context authority calls guest body subject admission side c)
    (thread : Nat) : Growing inner (c.threads thread) := by
  obtain ⟨moves, ran⟩ := reached
  refine Config.run_always (fun x => .refl x.1 x.2) (fun event x after happened => ?_)
    (fun thread => ?_) ran thread
  · obtain ⟨s, _, rfl⟩ := Option.map_eq_some_iff.mp happened
    exact .refl x.1 x.2
  · by_cases same : thread = guest
    · subst same
      rw [startStream, Config.host_guest]
      exact ownBody_growing admission
    · rw [startStream, Config.host_other _ _ _ same]
      exact Growing.hosted _

theorem StreamReachable.grows {m : Move (GateEvent T P)}
    (reached : StreamReachable rt inner context authority calls guest body subject admission side c)
    (moved : c.move (Config.beside _ Gate.environment) m = some next) :
    Stream.Grows inner c.shared.1 c.shared.2 next.shared.2 := by
  refine (Config.move_always (fun x => .refl x.1 x.2) (fun event x after happened => ?_)
    reached.always moved).1
  obtain ⟨s, _, rfl⟩ := Option.map_eq_some_iff.mp happened
  exact .refl x.1 x.2

inductive Stream.Polls (t : Stream T B D H E X) : Nat → List (PollStep T D H E) → Prop where
  | latest : Polls t t.polls t.steps
  | earlier {record : PollRecord T B D H E X} (member : .polled record ∈ t.calls) :
      Polls t record.number record.steps

theorem StreamReachable.induct
    {motive : Config (Gate T P × Stream T B D H E X) → Prop}
    (reached : StreamReachable rt inner context authority calls guest body subject admission side c)
    (start : motive (startStream rt inner context authority calls guest body subject admission side))
    (move : ∀ before m after,
      StreamReachable rt inner context authority calls guest body subject admission side before →
      before.move (Config.beside _ Gate.environment) m = some after → motive before → motive after) :
    motive c := by
  obtain ⟨moves, ran⟩ := reached
  induction moves using List.reverseRecOn generalizing c with
  | nil => exact Option.some.inj ran ▸ start
  | append_singleton moves last ih =>
      obtain ⟨before, ranBefore, further⟩ := Option.bind_eq_some_iff.mp
        ((Config.run_append _ _ moves [last]).symm.trans ran)
      obtain ⟨after, moved, same⟩ := Option.bind_eq_some_iff.mp further
      obtain rfl := Option.some.inj same
      exact move before last after ⟨moves, ranBefore⟩ moved (ih ranBefore)

theorem StreamReachable.polled {number : Nat} {steps : List (PollStep T D H E)}
    (reached : StreamReachable rt inner context authority calls guest body subject admission side c)
    (polls : c.shared.2.Polls number steps) :
    ∃ before, StreamReachable rt inner context authority calls guest body subject admission side before ∧
      StreamLeads before c ∧ before.shared.2.polls = number ∧ before.shared.2.steps = steps := by
  cases polls with
  | latest => exact ⟨c, reached, .refl c, rfl, rfl⟩
  | @earlier record member =>
      refine reached.induct (motive := fun c => .polled record ∈ c.shared.2.calls → ∃ before,
        StreamReachable rt inner context authority calls guest body subject admission side before ∧
          StreamLeads before c ∧ before.shared.2.polls = record.number ∧
          before.shared.2.steps = record.steps) (fun impossible => by cases impossible)
        (fun before m after reachedBefore moved ih member => ?_) member
      have leads : StreamLeads before after := .of_move moved
      have onwards : .polled record ∈ before.shared.2.calls → ∃ first,
          StreamReachable rt inner context authority calls guest body subject admission side first ∧
            StreamLeads first after ∧ first.shared.2.polls = record.number ∧
            first.shared.2.steps = record.steps := by
        intro member
        obtain ⟨first, reachedFirst, onto, known⟩ := ih member
        exact ⟨first, reachedFirst, onto.trans leads, known⟩
      cases (reachedBefore.grows moved).records with
      | noted _ polls calls | begun polls calls => exact onwards (calls ▸ member)
      | recorded polls calls steps told =>
          rw [calls] at member
          rcases List.mem_cons.mp member with same | member
          · obtain ⟨number, same⟩ := told record same.symm
            exact ⟨before, reachedBefore, leads, number.symm, same.symm⟩
          · exact onwards member

/-- On the way to `c`, call `number` of `poll_frame`, which had done `earlier`, took `entry` from the
snapshot that was published in that very state. -/
def LoadedFrom (reachable : Config (Gate T P × Stream T B D H E X) → Prop) (subject : T)
    (number : Nat) (entry : Option (Entry T)) (earlier : List (PollStep T D H E))
    (c : Config (Gate T P × Stream T B D H E X)) : Prop :=
  ∃ before after, reachable before ∧ (∃ m, before.move (Config.beside _ Gate.environment) m = some after) ∧
    StreamLeads after c ∧ before.shared.2.polls = number ∧ before.shared.2.steps = earlier ∧
    after.shared.2.steps = .loaded entry :: earlier ∧ entry = before.shared.1.snapshotEntry subject

theorem LoadedFrom.trans {reachable : Config (Gate T P × Stream T B D H E X) → Prop} {number : Nat}
    {entry : Option (Entry T)} {earlier : List (PollStep T D H E)}
    (loaded : LoadedFrom reachable subject number entry earlier c) (leads : StreamLeads c later) :
    LoadedFrom reachable subject number entry earlier later := by
  obtain ⟨before, after, reached, moves, first, known⟩ := loaded
  exact ⟨before, after, reached, moves, first.trans leads, known⟩

/-- What a poll took from the snapshot, the published snapshot held when it did. -/
theorem StreamReachable.loaded {entry : Option (Entry T)} {recent earlier : List (PollStep T D H E)}
    (reached : StreamReachable rt inner context authority calls guest body subject admission side c)
    (split : c.shared.2.steps = recent ++ .loaded entry :: earlier) :
    LoadedFrom (StreamReachable rt inner context authority calls guest body subject admission side)
      subject c.shared.2.polls entry earlier c := by
  refine reached.induct (motive := fun c => ∀ recent,
    c.shared.2.steps = recent ++ .loaded entry :: earlier → LoadedFrom
      (StreamReachable rt inner context authority calls guest body subject admission side)
      subject c.shared.2.polls entry earlier c)
    (fun recent split => absurd split (by simp [startStream, Config.host, Stream.new]))
    (fun before m after reachedBefore moved ih recent split => ?_) recent split
  have leads : StreamLeads before after := .of_move moved
  cases (reachedBefore.grows moved).records with
  | recorded polls calls steps =>
      rw [polls]
      exact (ih recent (steps ▸ split)).trans leads
  | begun polls calls steps =>
      rw [steps] at split
      simp at split
  | noted events polls calls steps loads =>
      rw [polls]
      rw [steps] at split
      rcases List.append_eq_append_iff.mp split with ⟨between, rfl, rest⟩ | ⟨between, rfl, rest⟩
      · exact (ih between rest).trans leads
      · cases between with
        | nil => exact (ih [] rest.symm).trans leads
        | cons event between =>
            obtain ⟨rfl, rfl⟩ := List.cons.inj rest
            obtain ⟨alone, held⟩ := loads entry (by simp)
            have none := congrArg List.length alone
            simp only [List.length_append, List.length_cons, List.length_nil] at none
            obtain rfl := List.eq_nil_of_length_eq_zero (by omega : between.length = 0)
            obtain rfl := List.eq_nil_of_length_eq_zero (by omega : recent.length = 0)
            exact ⟨before, after, reachedBefore, ⟨m, moved⟩, .refl after, rfl, rfl, steps,
              held.trans (congrArg _ reachedBefore.sound.2.home.1)⟩

theorem StreamReachable.loaded_of_polls {number : Nat} {entry : Option (Entry T)}
    {steps recent earlier : List (PollStep T D H E)}
    (reached : StreamReachable rt inner context authority calls guest body subject admission side c)
    (polls : c.shared.2.Polls number steps) (split : steps = recent ++ .loaded entry :: earlier) :
    LoadedFrom (StreamReachable rt inner context authority calls guest body subject admission side)
      subject number entry earlier c := by
  obtain ⟨before, reachedBefore, leads, rfl, rfl⟩ := reached.polled polls
  exact (reachedBefore.loaded split).trans leads

end

end PolicyGate
