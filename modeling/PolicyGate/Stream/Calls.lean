import PolicyGate.Stream.Specs

namespace PolicyGate

open Interleaving

variable {T P B D H E X : Type} {rt : Runtime} {guest : Nat}
  {inner : InnerBody B D H E} {context : StreamContext H E X} {first : EnforcedBody T B}

variable [DecidableEq T]

theorem pollInnerTerminal_spec :
    (streaming rt inner context guest first).Spec guest (pollInnerTerminal (P := P) inner context)
      (fun x => x.1.Resting guest ∧ Polling inner first x.2 ∧ Going x.2.steps x.2)
      fun answer x => x.1.Resting guest ∧
        Concluded inner context first (x.2.polledCall answer) x.2 := by
  refine onBody_spec (M := fun answer t => Concluded inner context first (t.polledCall answer) t)
    (R := fun t => Polling inner first t ∧ Going t.steps t)
    sheltered_rest fun s t choice ok sound held known => ?_
  obtain ⟨known, forwarding, intact⟩ := known
  have noted : StreamOk inner context guest first s
      (t.step (.innerPolled (inner.pollFrame (inner.drift choice t.body.inner)).1)) :=
    sound.note forwarding.unpolled trivial (.other rfl sound.holds) (fun _ _ => ⟨_, _, forwarding⟩)
      (by simp)
  have yields := known.yields.drifted choice
  have lawful : t.calls.any BodyCall.ends ≠ true := by simp [known.running]
  have latched : inner.Latches → t.calls.any BodyCall.closed ≠ true := fun latches => by
    simp [known.latched latches]
  have home : t.body.side = first.side := sound.home.2
  have shape := @PollRecord.Shape.forwarded T B D H E X inner context t.body.side t.polls t.began
    (inner.pollFrame (inner.drift choice t.body.inner)).1 t.steps t.body.readmission known.unfinished forwarding
  rw [home] at shape
  cases closed : FramePoll.terminal (inner.pollFrame (inner.drift choice t.body.inner)).1 with
  | true =>
      simp only [Stream.look, closed, ↓reduceIte] at shape ⊢
      exact ⟨{ noted with home := sound.home },
        { idle := .polled known.begun (yields.answered _ rfl) closed.symm known.running known.latched
            (.inl fun _ _ none => by cases none)
          shaped := fun record same => by
            cases same
            exact ⟨shape, rfl, rfl⟩
          lawful := fun closed => absurd closed lawful
          latched := fun latches closed => absurd closed (latched latches)
          hinted := fun exact same => by cases same }⟩
  | false =>
      simp only [Stream.look, closed, Bool.false_eq_true, ↓reduceIte] at shape ⊢
      refine ⟨{ noted with home := sound.home },
        { idle := .polled known.begun (yields.answered _ rfl) (known.unended.trans closed.symm)
            known.running known.latched (intact.imp_right fun lost => ?_)
          shaped := fun record same => by
            cases same
            exact ⟨shape, rfl, rfl⟩
          lawful := fun closed => absurd closed lawful
          latched := fun latches closed => absurd closed (latched latches)
          hinted := fun exact same => by cases same }⟩
      obtain ⟨result, member⟩ := lost
      exact List.any_eq_true.mpr ⟨_, List.mem_cons_of_mem _ member, rfl⟩

theorem cutOff_spec :
    (streaming rt inner context guest first).Spec guest (cutOff (P := P) context)
      (fun x => x.1.Resting guest ∧ Polling inner first x.2 ∧ Cutting x.2.steps)
      fun answer x => x.1.Resting guest ∧
        Concluded inner context first (x.2.polledCall answer) x.2 := by
  refine onBody_spec (M := fun answer t => Concluded inner context first (t.polledCall answer) t)
    (R := fun t => Polling inner first t ∧ Cutting t.steps)
    sheltered_rest fun s t choice ok sound held known => ?_
  obtain ⟨known, cutting⟩ := known
  have noted : StreamOk inner context guest first s (t.step .cutOff) :=
    sound.step cutting.plain trivial rfl (by simp) (by simp)
  have yields : inner.Yields first.inner (innerItems t.calls ++ []) t.body.inner := by
    simpa using known.yields
  exact ⟨{ noted with home := sound.home },
    { idle := .polled known.begun yields rfl known.running known.latched
        (.inl fun _ _ none => by cases none)
      shaped := fun record same => by
        cases same
        rw [sound.home.2]
        exact ⟨.cut known.unfinished cutting, rfl, rfl⟩
      lawful := fun closed => absurd closed (by simp [Stream.step, Stream.finish, known.running])
      latched := fun latches closed =>
        absurd closed (by simp [Stream.step, Stream.finish, known.latched latches])
      hinted := fun exact same => by cases same }⟩

abbrev Owning (inner : InnerBody B D H E) (first : EnforcedBody T B) (guest : Nat)
    (x : Gate T P × Stream T B D H E X) : Prop :=
  Admission.Holding guest first.admission x.1 ∧ Idle inner first x.2

theorem beginFrame_spec :
    (streaming rt inner context guest first).Spec guest (beginFrame (P := P) inner)
      (Owning inner first guest)
      fun closed x => Admission.Holding guest first.admission x.1 ∧
        if closed = true then Concluded inner context first (x.2.polledCall (.ready none)) x.2
        else InPoll inner first Ongoing x.2 := by
  refine onBody_spec (M := fun closed t =>
      if closed = true then Concluded inner context first (t.polledCall (.ready none)) t
      else InPoll inner first Ongoing t)
    Admission.stable_holding fun s t choice ok sound held idle => ?_
  have begun : StreamOk inner context guest first s { t.look inner choice with
      polls := t.polls + 1, began := (t.look inner choice).body.inner, steps := [] } :=
    { sound with
      held := fun _ => by
        rcases Nat.eq_zero_or_pos t.polls with none | some
        · change s.Issued t.body.admission
          rw [idle.begun none]
          exact held.2
        · exact sound.held some
      home := sound.home
      backed := by simp
      forwarded := .of_unpolled (by simp)
      holds := .start _
      resumed := by simp }
  cases closed : t.body.ended || inner.isEndStream (t.look inner choice).body.inner with
  | true =>
      simp only [closed, ↓reduceIte]
      exact ⟨{ begun with home := sound.home },
        { idle :=
            { begun := fun none => by cases none
              ended := by simp [Stream.record, Stream.polledCall, Stream.finish, BodyCall.ends]
              latched := fun _ _ => .inl rfl
              yields := by
                change inner.Yields first.inner (innerItems t.calls ++ []) _
                rw [List.append_nil]
                exact idle.yields.drifted choice
              intact := fun _ _ none => by cases none }
          shaped := fun record same => by
            cases same
            exact ⟨.closed, rfl, rfl⟩
          lawful := fun _ => ⟨rfl, rfl⟩
          latched := fun _ _ => ⟨rfl, rfl⟩
          hinted := fun exact same => by cases same }⟩
  | false =>
      simp only [closed, Bool.false_eq_true, ↓reduceIte]
      obtain ⟨unended, going⟩ := Bool.or_eq_false_iff.mp closed
      refine ⟨begun,
        { unended
          begun := Nat.succ_pos _
          unfinished := going
          running := idle.ended.symm.trans unended
          latched := fun latches => ?_
          yields := idle.yields.drifted choice
          intact := idle.intact
          steps := .nil }⟩
      refine Bool.eq_false_iff.mpr fun closed => ?_
      rcases idle.latched latches closed with ended | finished
      · rw [unended] at ended
        cases ended
      · have finished := latches.drifted choice _ finished
        rw [Stream.look, finished] at going
        cases going

theorem pollFrame_spec :
    (streaming rt inner context guest first).Spec guest (pollFrame (P := P) rt inner context)
      (Owning inner first guest)
      fun answer x => Admission.Holding guest first.admission x.1 ∧
        Concluded inner context first (x.2.polledCall answer) x.2 := by
  have issued : ∀ thread, (streaming (P := P) rt inner context guest first).Stable thread
      fun x => x.1.Issued first.admission := fun thread before after ok ok' relied =>
    (Lasting.issued first.admission).stable before.1 after.1 ok.1 ok'.1 relied.1
  refine .bind beginFrame_spec fun closed => ?_
  cases closed with
  | true => exact .done fun x _ held => held
  | false =>
      have ends : ∀ forward, (streaming rt inner context guest first).Spec guest
          (if forward = true then pollInnerTerminal (P := P) inner context else cutOff context)
          (fun x => x.1.Resting guest ∧ Polling inner first x.2 ∧
            if forward = true then Going x.2.steps x.2 else Cutting x.2.steps)
          fun answer x => x.1.Resting guest ∧
            Concluded inner context first (x.2.polledCall answer) x.2 := by
        intro forward
        cases forward with
        | true => exact pollInnerTerminal_spec
        | false => exact cutOff_spec
      exact (Discipline.Spec.frame issued (.bind pollRounds_spec ends)).weaken
        (fun x _ held => ⟨⟨held.1.1, held.2⟩, held.1.2⟩)
        fun answer x _ held => ⟨⟨held.1.1, held.2⟩, held.1.2⟩

theorem isEndStream_spec :
    (streaming rt inner context guest first).Spec guest (isEndStream (P := P) inner)
      (Owning inner first guest)
      fun answer x => Admission.Holding guest first.admission x.1 ∧
        Concluded inner context first (.isEndStream answer) x.2 := by
  refine onBody_spec (M := fun answer t => Concluded inner context first (.isEndStream answer) t)
    Admission.stable_holding fun s t choice ok sound held idle => ?_
  have closed : inner.Latches → t.calls.any BodyCall.closed = true →
      (t.body.ended || inner.isEndStream (t.look inner choice).body.inner) = true := by
    intro latches closed
    rcases idle.latched latches closed with ended | finished
    · rw [ended, Bool.true_or]
    · rw [Stream.look, latches.drifted choice _ finished, Bool.or_true]
  refine ⟨{ sound with home := sound.home },
    { idle :=
        { begun := idle.begun
          ended := idle.ended
          latched := fun latches found => ?_
          yields := by
            change inner.Yields first.inner (innerItems t.calls ++ []) _
            rw [List.append_nil]
            exact idle.yields.drifted choice
          intact := idle.intact }
      shaped := fun record same => by cases same
      lawful := fun ends => by
        change (t.body.ended || _) = true
        rw [idle.ended.trans ends, Bool.true_or]
      latched := closed
      hinted := fun exact same => by cases same }⟩
  simp only [Stream.record, List.any_cons, Bool.or_eq_true] at found
  rcases found with answer | earlier
  · exact Bool.or_eq_true _ _ ▸ answer
  · exact Bool.or_eq_true _ _ ▸ closed latches earlier

theorem sizeHint_spec :
    (streaming rt inner context guest first).Spec guest (sizeHint (P := P))
      (Owning inner first guest)
      fun exact x => Admission.Holding guest first.admission x.1 ∧
        Concluded inner context first (.sizeHint exact) x.2 := by
  refine onBody_spec (M := fun exact t => Concluded inner context first (.sizeHint exact) t)
    Admission.stable_holding fun s t choice ok sound held idle => ?_
  exact ⟨sound,
    { idle :=
        { begun := idle.begun
          ended := idle.ended
          latched := idle.latched
          yields := by simpa [Stream.record, innerItems, BodyCall.innerItem] using idle.yields
          intact := idle.intact }
      shaped := fun record same => by cases same
      lawful := fun _ => trivial
      latched := fun _ _ => trivial
      hinted := fun exact same => by
        obtain rfl := BodyCall.sizeHint.inj same
        rw [idle.ended] }⟩

theorem record_spec {call : Stream T B D H E X → BodyCall T B D H E X} :
    (streaming rt inner context guest first).Spec guest (modifyBody (P := P) fun t => t.record (call t))
      (fun x => Admission.Holding guest first.admission x.1 ∧ Concluded inner context first (call x.2) x.2)
      fun _ => Owning inner first guest := by
  refine modifyBody_spec (R := fun t => Concluded inner context first (call t) t)
    (Q := Idle inner first) Admission.stable_holding fun s t ok sound held concluded => ?_
  refine ⟨{ sound with
    home := sound.home
    recorded := fun record member => ?_
    resumed := fun unlost => ?_
    running := fun unlost record member => ?_
    lawful := ⟨concluded.lawful, sound.lawful⟩
    latched := fun latches => ⟨concluded.latched latches, sound.latched latches⟩
    hinted := ⟨concluded.hinted, sound.hinted⟩
    yields := ⟨_, concluded.idle.yields⟩ }, concluded.idle⟩
  · rcases List.mem_cons.mp member with same | member
    · obtain ⟨shape, steps, _⟩ := concluded.shaped record same.symm
      exact ⟨shape, fun event inside => sound.backed event (steps ▸ inside)⟩
    · exact sound.recorded record member
  · simp only [Stream.record, List.any_cons, Bool.or_eq_false_iff] at unlost
    exact sound.resumed unlost.2
  · rcases List.mem_cons.mp member with same | member
    · obtain ⟨_, _, stored⟩ := concluded.shaped record same.symm
      rw [stored]
      exact concluded.idle.intact unlost
    · simp only [Stream.record, List.any_cons, Bool.or_eq_false_iff] at unlost
      exact sound.running unlost.2 record member

theorem ownBody_spec :
    (streaming rt inner context guest first).Spec guest
      (ownBody (P := P) rt inner context first.admission)
      (fun x => x.1.Resting guest ∧ Idle inner first x.2) fun _ x => x.1.Resting guest := by
  refine .bind (Discipline.Spec.hosted streamOk_persists (.inl rfl) Admission.hold_spec) fun _ => ?_
  refine (Discipline.Spec.steady (P := Owning inner first guest)
    (Discipline.hosting_stable Admission.stable_holding (.inl rfl)) fun _ => ?_).pre
    fun x _ held => ⟨held.1, held.2⟩
  have choose : (streaming rt inner context guest first).Spec guest
      (onBody (P := P) fun choice t => (choice, t)) (Owning inner first guest)
      fun _ => Owning inner first guest :=
    onBody_spec (M := fun _ => Idle inner first) Admission.stable_holding
      fun s t choice ok sound held idle => ⟨sound, idle⟩
  refine .bind choose fun choice => ?_
  rcases choice with _ | _ | choice
  · exact .bind pollFrame_spec fun _ => .bind record_spec fun _ => .done fun x _ held => held
  · exact .bind isEndStream_spec fun _ => .bind record_spec fun _ => .done fun x _ held => held
  · exact .bind sizeHint_spec fun _ => .bind record_spec fun _ => .done fun x _ held => held

section

variable {authority : T → Option Decision} {calls : Nat → Call T} {body : B} {subject : T}
  {admission : Entry T} {side : BodySide} {c : Config (Gate T P × Stream T B D H E X)}

theorem StreamReachable.covered
    (reached : StreamReachable rt inner context authority calls guest body subject admission side c) :
    c.Covered (streaming rt inner context guest (.new body subject admission side)) := by
  obtain ⟨moves, ran⟩ := reached
  have started : (startStream (P := P) rt inner context authority calls guest body subject admission
      side).Covered (streaming rt inner context guest (.new body subject admission side)) :=
    Config.Covered.host (R := Idle inner (.new body subject admission side)) streamOk_persists
      (covered_start authority calls) (.start rt.constructed authority body subject admission side) sheltered_rest
      nofun .start ownBody_spec
  exact started.run (Config.beside_neutral streamOk_persists environment_neutral) ran

theorem StreamReachable.sound
    (reached : StreamReachable rt inner context authority calls guest body subject admission side c) :
    c.shared.1.Invariant rt.config ∧
      StreamOk inner context guest (.new body subject admission side) c.shared.1 c.shared.2 :=
  reached.covered.1

end

end PolicyGate
