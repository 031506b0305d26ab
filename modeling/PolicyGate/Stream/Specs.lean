import PolicyGate.Stream.Knowledge

namespace PolicyGate

open Interleaving

variable {T P B D H E X : Type} [DecidableEq T] {rt : Runtime} {guest : Nat}
  {inner : InnerBody B D H E} {context : StreamContext H E X} {first : EnforcedBody T B}

theorem streamOk_persists :
    (discipline (T := T) (P := P) rt).Persists (StreamOk inner context guest first) := by
  intro me before after t ok ok' rely sound
  have extend := rely.toExtends
  exact { sound with
    held := fun begun => (Lasting.issued t.body.admission : Lasting rt _) _ _ ok ok' extend (sound.held begun)
    backed := fun event member => (sound.backed event member).mono extend
    recorded := fun record member => ⟨(sound.recorded record member).1, fun event inside =>
      ((sound.recorded record member).2 event inside).mono extend⟩ }

/-- The discipline of the gate with a body. -/
abbrev streaming (rt : Runtime) (inner : InnerBody B D H E) (context : StreamContext H E X)
    (guest : Nat) (first : EnforcedBody T B) : Discipline (Gate T P × Stream T B D H E X) :=
  (discipline rt).hosting guest (StreamOk inner context guest first)

theorem onBody_spec {α : Type} {action : Nat → Stream T B D H E X → α × Stream T B D H E X}
    {G : Gate T P → Prop} {R : Stream T B D H E X → Prop} {M : α → Stream T B D H E X → Prop}
    (stable : (discipline rt).Stable guest G)
    (runs : ∀ s t choice, s.Invariant rt.config → StreamOk inner context guest first s t → G s →
      R t → StreamOk inner context guest first s (action choice t).2 ∧
        M (action choice t).1 (action choice t).2) :
    (streaming rt inner context guest first).Spec guest (onBody action) (fun x => G x.1 ∧ R x.2)
      fun result x => G x.1 ∧ M result x.2 := by
  refine ownAction (M := fun result _ t => M result t) stable
    fun s t choice result after ok sound held known ran => ?_
  obtain ⟨rfl, rfl⟩ := Prod.mk.injEq .. ▸ Option.some.inj ran
  exact runs s t choice ok sound held known

theorem modifyBody_spec {f : Stream T B D H E X → Stream T B D H E X} {G : Gate T P → Prop}
    {R Q : Stream T B D H E X → Prop} (stable : (discipline rt).Stable guest G)
    (runs : ∀ s t, s.Invariant rt.config → StreamOk inner context guest first s t → G s → R t →
      StreamOk inner context guest first s (f t) ∧ Q (f t)) :
    (streaming rt inner context guest first).Spec guest (modifyBody f) (fun x => G x.1 ∧ R x.2)
      fun _ x => G x.1 ∧ Q x.2 :=
  onBody_spec (M := fun _ t => Q t) stable fun s t _ => runs s t

section

variable {Q : List (PollStep T D H E) → Prop} {admission : Entry T}
  {R : Stream T B D H E X → Prop}

theorem readHandle_spec (read : Nat → Observed → PollStep T D H E)
    (backs : ∀ (cells : Nat → Option (EntryCell T P)) now seen,
      Observed.Backed cells admission .state guest now seen →
        (read now seen).Backed cells guest first.subject)
    (unpolled : ∀ now seen answer, read now seen ≠ .innerPolled answer)
    (unresumed : ∀ now seen, read now seen ≠ .resumed)
    (plain : ∀ t, R t → ∀ event ∈ t.steps, event.plain = true)
    (holds : ∀ t now seen, R t → Holds t.body.admission t.steps →
      Holds t.body.admission (read now seen :: t.steps)) :
    (streaming rt inner context guest first).Spec guest (readHandle (P := P) read admission)
      (fun x => Admission.Holding guest admission x.1 ∧ R x.2)
      fun seen x => Admission.Holding guest admission x.1 ∧
        ∃ now before, R before ∧ x.2 = before.step (read now seen) := by
  refine .bind (Discipline.Spec.hosted streamOk_persists (.inl rfl) Admission.observe_spec)
    fun ⟨now, seen⟩ => ?_
  refine .bind (modifyBody_spec (Q := fun t => ∃ before, R before ∧ t = before.step (read now seen))
    (Admission.stable_holding.and (observed_backed_lasting admission seen now).stable)
    fun s t ok sound held known => ?_) fun _ => .done fun x _ held => ⟨held.1.1, now, held.2⟩
  exact ⟨sound.note (unpolled_of_plain (plain t known)) (backs _ _ _ held.2)
    (holds t now seen known sound.holds) (fun answer same => absurd same (unpolled now seen answer))
    fun _ => unresumed now seen, t, known, rfl⟩

theorem isAllowed_spec (plain : ∀ t, R t → ∀ event ∈ t.steps, event.plain = true) :
    (streaming rt inner context guest first).Spec guest (isAllowed (P := P) admission)
      (fun x => Admission.Holding guest admission x.1 ∧ R x.2)
      fun allowed x => Admission.Holding guest admission x.1 ∧ ∃ now seen before, R before ∧
        x.2 = before.step (.isAllowed admission now seen) ∧ (allowed = true ↔ seen = .allowed) := by
  refine .bind (readHandle_spec (.isAllowed admission) (fun _ _ _ backed => backed) (by simp)
    (by simp) plain fun _ _ _ _ => .other rfl) fun seen => .done fun x _ held => ?_
  obtain ⟨reading, now, before, known, same⟩ := held
  exact ⟨reading, now, seen, before, known, same, by simp⟩

theorem isDenied_spec (plain : ∀ t, R t → ∀ event ∈ t.steps, event.plain = true) :
    (streaming rt inner context guest first).Spec guest (isDenied (P := P) admission)
      (fun x => Admission.Holding guest admission x.1 ∧ R x.2)
      fun denied x => Admission.Holding guest admission x.1 ∧ ∃ now seen before, R before ∧
        x.2 = before.step (.state admission now seen) ∧ (denied = true ↔ seen = .denied) := by
  refine .bind (readHandle_spec (.state admission) (fun _ _ _ backed => backed) (by simp)
    (by simp) plain fun _ _ _ _ => .other rfl) fun seen => .done fun x _ held => ?_
  obtain ⟨reading, now, before, known, same⟩ := held
  exact ⟨reading, now, seen, before, known, same, by simp⟩

end

theorem lookUpSnapshot_spec :
    (streaming rt inner context guest first).Spec guest (lookUpSnapshot (P := P) rt)
      (fun x => x.1.Resting guest ∧ InPoll inner first (Facing []) x.2)
      fun found x => (x.1.Resting guest ∧ ∀ admission, found = some admission → x.1.Issued admission) ∧
        Looked inner first found [] x.2 := by
  refine .bind (onBody_spec (M := fun subject t => InPoll inner first (Facing []) t ∧
    subject = first.subject) sheltered_rest fun s t choice ok sound held known =>
      ⟨sound, known, sound.home.1⟩) fun subject => ?_
  refine .bind (ownAction (R := fun t => InPoll inner first (Facing []) t ∧ subject = first.subject)
    (M := fun entry s t => Subjects.Found first.subject entry s ∧
      InPoll inner first (Facing [.loaded entry]) t ∧ subject = first.subject)
    sheltered_rest fun s t choice entry after ok sound held known ran => ?_) fun entry => ?_
  · obtain ⟨rfl, rfl⟩ := Prod.mk.injEq .. ▸ Option.some.inj ran
    have found : Subjects.Found first.subject (s.snapshotEntry t.body.subject) s :=
      sound.home.1 ▸ found_of_snapshotEntry ok t.body.subject
    exact ⟨sound.step known.1.steps.ongoing.plain trivial rfl (by simp) (by simp), found,
      known.1.look _ rfl rfl rfl, known.2⟩
  · refine Discipline.Spec.pre (P := fun x => subject = first.subject ∧
      (x.1.Resting guest ∧ Subjects.Found subject entry x.1) ∧
        InPoll inner first (Facing [.loaded entry]) x.2) (.given fun home => ?_)
      fun x _ held => ⟨held.2.2.2, ⟨held.1, held.2.2.2 ▸ held.2.1⟩, held.2.2.1⟩
    refine .bind (Discipline.Spec.hosted streamOk_persists (.inl rfl) admitCached_spec) fun found => ?_
    refine .bind (modifyBody_spec (Q := InPoll inner first (Facing [.lookedUp entry found, .loaded entry]))
      (R := InPoll inner first (Facing [.loaded entry])) (stable_rested (lasting_cached subject entry found))
      fun s t ok sound held known => ?_) fun _ => .done fun x _ held =>
        ⟨⟨held.1.1, fun admission same => ?_⟩, entry, held.2⟩
    · exact ⟨sound.step known.steps.ongoing.plain (home ▸ held.2) rfl (by simp) (by simp),
        known.look _ rfl rfl rfl⟩
    · subst same
      obtain ⟨_, _, now, snapshot, observation, authoritative⟩ := held.1.2
      exact issued_of_observation observation authoritative

theorem consultSnapshot_spec :
    (streaming rt inner context guest first).Spec guest (consultSnapshot (P := P) rt)
      (fun x => x.1.Resting guest ∧ InPoll inner first (Facing []) x.2)
      fun round x => x.1.Resting guest ∧
        RoundEnds inner first (fun steps t => Intact t ∧ Undecided steps) round x.2 := by
  refine .bind lookUpSnapshot_spec fun found => ?_
  cases found with
  | none =>
      refine .done fun x _ held => ⟨held.1.1, ?_⟩
      obtain ⟨entry, known⟩ := held.2
      exact ⟨known.toPolling, known.intact, known.steps.undecided .nothing⟩
  | some admission =>
      refine .bind ((isAllowed_spec fun _ => Looked.plain).pre fun x ok held =>
        ⟨⟨held.1.1, held.1.2 admission rfl⟩, held.2⟩) fun allowed => ?_
      cases allowed with
      | true =>
          simp only [↓reduceIte]
          split
          · refine .bind ((modifyBody_spec (Q := InPoll inner first Ongoing)
              (R := fun t => ∃ now, Looked inner first (some admission)
                [.isAllowed admission now .allowed] t) Admission.stable_holding
              fun s t ok sound held known => ?_).pre fun x _ held => ⟨held.1, ?_⟩)
              fun _ => .done fun x _ held => ⟨held.1.1, held.2⟩
            · obtain ⟨now, entry, known⟩ := known
              obtain ⟨held', now', before, split⟩ := known.steps.stale
              exact ⟨(sound.setReadmission none).adopt held.2 known.steps.ongoing.plain split,
                { known with
                  toPolling := known.toPolling.of_eq rfl rfl rfl rfl rfl
                  intact := fun _ _ none => by cases none
                  steps := known.steps.ongoing.cons rfl rfl rfl }⟩
            · obtain ⟨now, seen, before, known, same, read⟩ := held.2
              obtain rfl := read.mp (by simp)
              exact ⟨now, same ▸ known.look _ rfl rfl rfl⟩
          · refine .done fun x _ held => ⟨held.1.1, ?_⟩
            obtain ⟨now, seen, before, known, same, read⟩ := held.2
            obtain rfl := read.mp (by simp)
            rw [same]
            obtain ⟨entry, known⟩ := known.look (.isAllowed admission now .allowed) rfl rfl rfl
            exact ⟨known.toPolling, known.intact, known.steps.undecided .allowed⟩
      | false =>
          simp only [Bool.false_eq_true, ↓reduceIte]
          refine .bind ((isDenied_spec (R := fun t => ∃ now seen, seen ≠ .allowed ∧
            Looked inner first (some admission) [.isAllowed admission now seen] t)
            fun t known => ?_).pre fun x _ held => ⟨held.1, ?_⟩) fun denied => ?_
          · obtain ⟨now, seen, _, known⟩ := known
            exact known.plain
          · obtain ⟨now, seen, before, known, same, read⟩ := held.2
            rw [same]
            exact ⟨now, seen, fun allowed => absurd (read.mpr allowed) (by simp),
              known.look _ rfl rfl rfl⟩
          · cases denied with
            | true =>
                simp only [↓reduceIte]
                refine .bind ((modifyBody_spec
                  (Q := fun t => Polling inner first t ∧ Cutting t.steps)
                  (R := fun t => Polling inner first t ∧ Cutting t.steps)
                  Admission.stable_holding fun s t ok sound held known => ?_).pre
                  fun x _ held => ⟨held.1, ?_⟩) fun _ => .done fun x _ held => ⟨held.1.1, held.2⟩
                · exact ⟨sound.setReadmission none, known.1.of_eq rfl rfl rfl rfl rfl, known.2⟩
                · obtain ⟨now, seen, before, ⟨now', seen', _, entry, known⟩, same, read⟩ := held.2
                  obtain rfl := read.mp (by simp)
                  rw [same]
                  exact ⟨known.toPolling.of_eq rfl rfl rfl rfl rfl, known.steps.ongoing.denied⟩
            | false =>
                refine .done fun x _ held => ⟨held.1.1, ?_⟩
                obtain ⟨now, seen, before, ⟨now', seen', unallowed, known⟩, same, read⟩ := held.2
                have undenied : seen ≠ .denied := fun denied => absurd (read.mpr denied) (by simp)
                rw [same]
                obtain ⟨entry, known⟩ := known.look (.state admission now seen) rfl rfl rfl
                exact ⟨known.toPolling, known.intact,
                  known.steps.undecided (.undenied ⟨unallowed, undenied⟩)⟩

section

variable {Q : List (PollStep T D H E) → Prop}

theorem pollSleep_spec :
    (streaming rt inner context guest first).Spec guest (pollSleep (P := P) rt)
      (fun x => x.1.Resting guest ∧ InPoll inner first Q x.2)
      fun _ x => x.1.Resting guest ∧ InPoll inner first Q x.2 := by
  refine .bind (ownAction (M := fun _ _ t => InPoll inner first Q t) (R := InPoll inner first Q)
    sheltered_rest fun s t choice result after ok sound held known ran => ?_) fun _ => ?_
  · split at ran
    · obtain ⟨_, rfl⟩ := Prod.mk.injEq .. ▸ Option.some.inj ran
      exact ⟨sound.setReadmission _, known.setReadmission (by simp)⟩
    · obtain ⟨_, rfl⟩ := Prod.mk.injEq .. ▸ Option.some.inj ran
      exact ⟨sound, known⟩
  · refine (ownAction (M := fun _ _ t => InPoll inner first Q t) (R := InPoll inner first Q)
      sheltered_rest fun s t choice result after ok sound held known ran => ?_)
    split at ran
    · split at ran
      · obtain ⟨_, rfl⟩ := Prod.mk.injEq .. ▸ Option.some.inj ran
        exact ⟨sound.setReadmission _, known.setReadmission (by simp)⟩
      · cases ran
    · obtain ⟨_, rfl⟩ := Prod.mk.injEq .. ▸ Option.some.inj ran
      exact ⟨sound, known⟩

def Polled (inner : InnerBody B D H E) (first : EnforcedBody T B) (guest : Nat)
    (Q : List (PollStep T D H E) → Prop) :
    Poll (Option (Entry T)) → Gate T P × Stream T B D H E X → Prop
  | .pending, x => x.1.Resting guest ∧ InPoll inner first Q x.2 ∧ Waiting x.2
  | .ready result, x =>
      (x.1.Resting guest ∧ ∀ admission, result = some admission → x.1.Issued admission) ∧
        Polling inner first x.2 ∧ Q x.2.steps

theorem pollReadmission_spec
    (plain : ∀ steps, Q steps → ∀ event ∈ steps, event.plain = true) :
    (streaming rt inner context guest first).Spec guest (pollReadmission (P := P) rt)
      (fun x => x.1.Resting guest ∧ InPoll inner first Q x.2) (Polled inner first guest Q) := by
  refine .bind pollSleep_spec fun _ => ?_
  refine .bind (ownAction (R := InPoll inner first Q)
    (M := fun poll s t => ∀ answer, poll = some answer → s.Resting guest →
      Polled inner first guest Q answer (s, t))
    sheltered_rest fun s t choice poll after ok sound held known ran => ?_) fun poll => ?_
  · split at ran
    · cases ran
    · rename_i readmission stored
      split at ran
      · rename_i returned
        obtain ⟨rfl, rfl⟩ := Prod.mk.injEq .. ▸ Option.some.inj ran
        exact ⟨sound.note (unpolled_of_plain (plain _ known.steps)) trivial (.other rfl sound.holds)
          (by simp) fun unlost => absurd returned (known.intact unlost readmission stored),
          fun answer none => by cases none⟩
      · rename_i running
        split at ran
        · rename_i result read
          obtain ⟨rfl, rfl⟩ := Prod.mk.injEq .. ▸ Option.some.inj ran
          refine ⟨sound.setReadmission _, fun answer same resting => ?_⟩
          obtain rfl := Option.some.inj same
          refine ⟨⟨resting, fun admission same => ?_⟩, known.toPolling.of_eq rfl rfl rfl rfl rfl,
            known.steps⟩
          subst same
          cases state : readmission.state with
          | admitting task =>
              rw [state, readmissionResult] at read
              split at read
              · rename_i asked admitted outcome
                split at read
                · obtain rfl := Option.some.inj read
                  obtain ⟨now, snapshot, observation, authoritative⟩ := ok.outcomes task _ outcome
                  exact issued_of_observation observation authoritative
                · cases read
              · cases read
          | delayed => rw [state] at read; cases read
          | sleeping => rw [state] at read; cases read
          | returned => exact absurd state running
        · obtain ⟨rfl, rfl⟩ := Prod.mk.injEq .. ▸ Option.some.inj ran
          refine ⟨sound.setReadmission _, fun answer same resting => ?_⟩
          obtain rfl := Option.some.inj same
          exact ⟨resting, known.setReadmission running, _, rfl, rfl, running⟩
  · cases poll with
    | some answer => exact .done fun x _ held => held.2 answer rfl held.1
    | none =>
        refine (Discipline.Spec.act (M := Polled inner first guest Q)
          (Discipline.hosting_stable (R := fun _ => True) sheltered_rest (.inr fun _ => trivial))
          fun x choice result after ok held ran => ?_).pre fun x _ held => ⟨held.1, trivial⟩
        cases ran

end

theorem startReadmission_spec :
    (streaming rt inner context guest first).Spec guest (startReadmission (P := P))
      (fun x => x.1.Resting guest ∧ InPoll inner first Undecided x.2)
      fun _ x => x.1.Resting guest ∧ InPoll inner first Undecided x.2 := by
  refine ownAction (M := fun _ _ t => InPoll inner first Undecided t)
    (R := InPoll inner first Undecided) sheltered_rest
    fun s t choice result after ok sound held known ran => ?_
  split at ran
  · obtain ⟨_, rfl⟩ := Prod.mk.injEq .. ▸ Option.some.inj ran
    exact ⟨sound, known⟩
  · split at ran
    · obtain ⟨_, rfl⟩ := Prod.mk.injEq .. ▸ Option.some.inj ran
      have made : InPoll inner first Undecided (t.setReadmission (some ⟨.admitting choice, none⟩)) :=
        known.setReadmission (by simp)
      exact ⟨(sound.setReadmission _).step known.steps.1.plain trivial rfl (by simp) (by simp),
        made.read _ rfl rfl rfl (by simp)⟩
    · cases ran

theorem replaceReadmission_spec :
    (streaming rt inner context guest first).Spec guest (replaceReadmission (P := P) rt)
      (fun x => x.1.Resting guest ∧ Returned inner first none [] x.2)
      fun round x => x.1.Resting guest ∧ RoundEnds inner first Going round x.2 := by
  refine .bind (modifyBody_spec (Q := InPoll inner first Undecided)
    (R := Returned inner first none []) sheltered_rest fun s t ok sound held known => ?_) fun _ => ?_
  · have replaced := known.step .replaced
    obtain ⟨earlier, split, undecided⟩ := known.split
    refine ⟨(sound.setReadmission _).step (known.plain (by simp)) trivial rfl (by simp) (by simp),
      { known with
        toPolling := known.toPolling.of_eq rfl rfl rfl rfl rfl
        intact := fun _ readmission same => ?_
        steps := ⟨replaced.ongoing (by simp [PollStep.plain]) (by simp [PollStep.resolves])
          (by simp [PollStep.isObserved]) (.replaced []), ?_⟩ }⟩
    · obtain rfl := Option.some.inj same
      simp
    · change Consulted (.replaced :: t.steps)
      rw [split]
      exact .later rfl (by simp) (.later rfl (by simp) undecided.2)
  · refine .bind (pollReadmission_spec fun steps known => known.1.plain) fun poll => ?_
    cases poll with
    | pending =>
        refine .done fun x _ ⟨resting, known, readmission, stored, polled, running⟩ =>
          ⟨resting, known.toPolling, ?_, .inl known.intact⟩
        exact .waiting stored polled running known.steps.1 known.steps.2
    | ready result =>
        refine .bind ((modifyBody_spec (Q := fun t => Polling inner first t ∧ Going t.steps t)
          (R := fun t => Polling inner first t ∧ Undecided t.steps) sheltered_rest
          fun s t ok sound held known => ?_).pre fun x _ held => ⟨held.1.1, held.2⟩) fun _ =>
            .done fun x _ held => held
        have unpolled := unpolled_of_plain known.2.1.plain
        have lost : StreamOk inner context guest first s (t.step (.resolvedAtOnce result)) :=
          sound.note unpolled trivial (.other rfl sound.holds) (by simp) (by simp)
        refine ⟨lost.note (fun answer member => ?_) trivial (.other rfl lost.holds) (by simp) (by simp),
          known.1.of_eq rfl rfl rfl rfl rfl, .outran known.2.1 known.2.2,
          .inr ⟨result, by simp [Stream.step]⟩⟩
        rcases List.mem_cons.mp member with same | member
        · cases same
        · exact unpolled answer member

theorem readmissionReturned_spec {result : Option (Entry T)} :
    (streaming rt inner context guest first).Spec guest
      (readmissionReturned (P := P) rt result)
      (fun x => (x.1.Resting guest ∧ ∀ admission, result = some admission → x.1.Issued admission) ∧
        Polling inner first x.2 ∧ Undecided x.2.steps)
      fun round x => x.1.Resting guest ∧ RoundEnds inner first Going round x.2 := by
  have issued : (discipline rt).Stable guest fun s : Gate T P =>
      s.Resting guest ∧ ∀ admission, result = some admission → s.Issued admission :=
    stable_rested (.forall fun admission => .forall fun _ => Lasting.issued admission)
  refine .bind (modifyBody_spec (Q := Returned inner first result []) (R := fun t =>
    Polling inner first t ∧ Undecided t.steps) issued fun s t ok sound held known => ?_) fun _ => ?_
  · exact ⟨(sound.setReadmission none).step known.2.1.plain trivial rfl (by simp) (by simp),
      { known.1.of_eq rfl rfl rfl rfl rfl with
        cleared := rfl
        split := ⟨t.steps, rfl, known.2⟩ }⟩
  · cases result with
    | none => exact replaceReadmission_spec.pre fun x _ held => ⟨held.1.1, held.2⟩
    | some admission =>
        refine .bind ((isAllowed_spec (R := Returned inner first (some admission) [])
          fun t known => known.plain (by simp)).pre fun x _ held =>
            ⟨⟨held.1.1, held.1.2 admission rfl⟩, held.2⟩) fun allowed => ?_
        cases allowed with
        | true =>
            refine .bind ((modifyBody_spec (Q := InPoll inner first Ongoing)
              (R := fun t => ∃ now, Returned inner first (some admission)
                [.isAllowed admission now .allowed] t) Admission.stable_holding
              fun s t ok sound held known => ?_).pre fun x _ held => ⟨held.1, ?_⟩)
              fun _ => .done fun x _ held => ⟨held.1.1, held.2⟩
            · obtain ⟨now, known⟩ := known
              obtain ⟨earlier, split, _⟩ := known.split
              refine ⟨sound.adopt held.2 (known.plain (by simp [PollStep.plain])) split,
                { known.toPolling.of_eq rfl rfl rfl rfl rfl with
                  intact := fun _ readmission same =>
                    absurd (known.cleared.symm.trans same) (by simp)
                  steps := (known.step (.adopted admission)).ongoing (by simp [PollStep.plain])
                    (by simp [PollStep.resolves]) (by simp [PollStep.isObserved]) (.adopted []) }⟩
            · obtain ⟨now, seen, before, known, same, read⟩ := held.2
              obtain rfl := read.mp rfl
              exact ⟨now, same ▸ known.step _⟩
        | false =>
            refine .bind ((isDenied_spec (R := fun t => ∃ now seen, seen ≠ .allowed ∧
              Returned inner first (some admission) [.isAllowed admission now seen] t)
              fun t known => ?_).pre fun x _ held => ⟨held.1, ?_⟩) fun denied => ?_
            · obtain ⟨now, seen, _, known⟩ := known
              exact known.plain (by simp [PollStep.plain])
            · obtain ⟨now, seen, before, known, same, read⟩ := held.2
              exact ⟨now, seen, fun allowed => absurd (read.mpr allowed) (by simp),
                same ▸ known.step _⟩
            · cases denied with
              | true =>
                  refine .done fun x _ held => ⟨held.1.1, ?_⟩
                  obtain ⟨now, seen, before, ⟨now', seen', _, known⟩, same, read⟩ := held.2
                  obtain rfl := read.mp rfl
                  have stated := known.step (.state admission now .denied)
                  obtain ⟨earlier, split, undecided⟩ := stated.split
                  rw [same]
                  refine ⟨stated.toPolling, ?_, stated.plain (by simp [PollStep.plain]), ?_⟩
                  · rw [split]
                    have acted := @ActedOn.cut T D H E admission now' now seen' []
                    exact undecided.1.settled.append acted (by simp [PollStep.resolves])
                  · intro held now seen member
                    rw [split] at member
                    simp only [List.mem_append, List.mem_cons, reduceCtorEq, List.not_mem_nil,
                      or_self, false_or] at member
                    exact .inl (undecided.1.stale held now seen member)
              | false =>
                  refine .bind ((modifyBody_spec (Q := InPoll inner first Ongoing)
                    (R := fun t => ∃ now seen now' seen', (seen ≠ .allowed ∧ seen' ≠ .denied) ∧
                      Returned inner first (some admission)
                        [.state admission now' seen', .isAllowed admission now seen] t)
                    Admission.stable_holding fun s t ok sound held known => ?_).pre
                    fun x _ held => ⟨held.1, ?_⟩) fun _ => .done fun x _ held => ⟨held.1.1, held.2⟩
                  · obtain ⟨now, seen, now', seen', neither, known⟩ := known
                    exact ⟨sound.step (known.plain (by simp [PollStep.plain])) trivial rfl (by simp)
                      (by simp),
                      { known.toPolling.of_eq rfl rfl rfl rfl rfl with
                        intact := fun _ readmission same =>
                          absurd (known.cleared.symm.trans same) (by simp)
                        steps := (known.step .again).ongoing (by simp [PollStep.plain])
                          (by simp [PollStep.resolves]) (by simp [PollStep.isObserved])
                          (.retried [] neither) }⟩
                  · obtain ⟨now, seen, before, ⟨now', seen', unallowed, known⟩, same, read⟩ := held.2
                    exact ⟨now', seen', now, seen, ⟨unallowed, fun denied =>
                      absurd (read.mpr denied) (by simp)⟩, same ▸ known.step _⟩

theorem consultReadmission_spec :
    (streaming rt inner context guest first).Spec guest (consultReadmission (P := P) rt)
      (fun x => x.1.Resting guest ∧ InPoll inner first Undecided x.2)
      fun round x => x.1.Resting guest ∧ RoundEnds inner first Going round x.2 := by
  refine .bind startReadmission_spec fun _ => ?_
  refine .bind (pollReadmission_spec fun steps known => known.1.plain) fun poll => ?_
  cases poll with
  | ready result => exact readmissionReturned_spec
  | pending =>
      refine .bind ((modifyBody_spec (Q := fun t => Polling inner first t ∧ Going t.steps t)
        (R := fun t => InPoll inner first Undecided t ∧ Waiting t) sheltered_rest
        fun s t ok sound held known => ?_).pre fun x _ held => held) fun _ => .done fun x _ held => held
      obtain ⟨known, readmission, stored, polled, running⟩ := known
      have waited := known.read .waited rfl rfl rfl (by simp)
      exact ⟨sound.step known.steps.1.plain trivial rfl (by simp) (by simp), waited.toPolling,
        .waiting stored polled running waited.steps.1 waited.steps.2, .inl waited.intact⟩

theorem readHeld_spec {held : Entry T} :
    (streaming rt inner context guest first).Spec guest (readHandle (P := P) (.observed held) held)
      (fun x => Admission.Holding guest held x.1 ∧ InPoll inner first Ongoing x.2 ∧
        x.2.body.admission = held)
      fun seen x => Admission.Holding guest held x.1 ∧ ∃ now before, InPoll inner first Ongoing before ∧
        x.2 = before.step (.observed held now seen) := by
  refine (readHandle_spec (.observed held)
    (R := fun t => InPoll inner first Ongoing t ∧ t.body.admission = held)
    (fun _ _ _ backed => backed) (by simp) (by simp) (fun t known => known.1.steps.plain)
    fun t now seen known holds => ?_).post fun seen x _ ⟨reading, now, before, known, same⟩ =>
      ⟨reading, now, before, known.1, same⟩
  obtain ⟨_, rfl⟩ := known
  exact .observed now seen holds

theorem pollRound_spec :
    (streaming rt inner context guest first).Spec guest (pollRound (P := P) rt)
      (fun x => x.1.Resting guest ∧ InPoll inner first Ongoing x.2)
      fun round x => x.1.Resting guest ∧ RoundEnds inner first Going round x.2 := by
  refine .bind (ownAction (R := InPoll inner first Ongoing)
    (M := fun held s t => s.Issued held ∧ InPoll inner first Ongoing t ∧ t.body.admission = held)
    sheltered_rest
    fun s t choice held after ok sound resting known ran => ?_) fun held => ?_
  · obtain ⟨rfl, rfl⟩ := Prod.mk.injEq .. ▸ Option.some.inj ran
    exact ⟨sound, sound.held known.begun, known, rfl⟩
  · refine .bind (readHeld_spec.pre fun x _ known => ⟨⟨known.1, known.2.1⟩, known.2.2⟩) fun seen => ?_
    have going : ∀ {before : Stream T B D H E X} {now : Nat}, InPoll inner first Ongoing before →
        Polling inner first (before.step (.observed held now seen)) := fun known =>
      known.toPolling.of_eq rfl rfl rfl rfl rfl
    cases seen with
    | allowed =>
        refine .done fun x _ ⟨reading, now, before, known, same⟩ => ⟨reading.1, ?_⟩
        rw [same]
        exact ⟨going known, .allowed known.steps, .inl known.intact⟩
    | denied =>
        refine .done fun x _ ⟨reading, now, before, known, same⟩ => ⟨reading.1, ?_⟩
        rw [same]
        exact ⟨going known, known.steps.cutting (.inl rfl)⟩
    | expired =>
        refine .done fun x _ ⟨reading, now, before, known, same⟩ => ⟨reading.1, ?_⟩
        rw [same]
        exact ⟨going known, known.steps.cutting (.inr rfl)⟩
    | stale =>
        refine .bind (consultSnapshot_spec.pre fun x _ held => ?_) fun round => ?_
        · obtain ⟨reading, now, before, known, same⟩ := held
          refine ⟨reading.1, ?_⟩
          rw [same]
          exact { going known with intact := known.intact, steps := known.steps.facing }
        · cases round with
          | again => exact .done fun x _ held => held
          | cut => exact .done fun x _ held => held
          | forward =>
              exact consultReadmission_spec.pre fun x _ held =>
                ⟨held.1, { held.2.1 with intact := held.2.2.1, steps := held.2.2.2 }⟩

theorem pollRounds_spec :
    (streaming rt inner context guest first).Spec guest (pollRounds (P := P) rt)
      (fun x => x.1.Resting guest ∧ InPoll inner first Ongoing x.2)
      fun forward x => x.1.Resting guest ∧ Polling inner first x.2 ∧
        if forward = true then Going x.2.steps x.2 else Cutting x.2.steps := by
  refine .steady (Discipline.hosting_stable sheltered_rest (.inl rfl))
    fun _ => .bind pollRound_spec fun round => ?_
  cases round with
  | again => exact .done fun x _ held => held
  | cut => exact .done fun x _ held => held
  | forward => exact .done fun x _ held => held

end PolicyGate
