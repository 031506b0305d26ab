import PolicyGate.Specs.Fetch

namespace PolicyGate

open Interleaving

variable {T P : Type} [DecidableEq T] {rt : Runtime} {me : Nat} {fetch : PendingFetch T P}

namespace Entry

theorem pendingGeneration_spec {R : Gate T P → Prop} (stable : (discipline rt).Stable me R)
    (booked : ∀ s, R s → s.Booked fetch)
    (made : ∀ s, R s → ∃ stage, s.At fetch.generation stage ∧ stage.made = true) :
    (discipline rt).Spec me (fetch.entry.pendingGeneration fetch.generation) R fun current s =>
      R s ∧ (current = none → s.Parted fetch.generation) ∧
        ∀ found, current = some found → found.generation = fetch.generation ∧ fetch.DueBy s.clock := by
  refine .bind (M := fun pending s => R s ∧
    ((∀ found, pending = some found → found.generation ≠ fetch.generation) →
      s.Parted fetch.generation) ∧
    ∀ found, pending = some found → found.generation = fetch.generation → fetch.DueBy s.clock)
    (readAct stable fun s pending ok held viewed => ⟨?_, ?_⟩) fun pending => ?_
  · intro away
    obtain ⟨stage, at_stage, isMade⟩ := made s held
    obtain ⟨flight, flown, rfl⟩ := Option.map_eq_some_iff.mp at_stage
    refine ⟨ok.vacated (booked s held) fun cell found inCell inSlot => ?_, flight, flown, isMade⟩
    rw [inCell, Option.map_some, Option.some.injEq] at viewed
    exact away found (viewed.symm.trans inSlot)
  · rintro found rfl same
    obtain ⟨cell, inCell, inSlot⟩ := Option.map_eq_some_iff.mp viewed
    exact ok.dueBy_of_pending (booked s held) inCell inSlot same
  · refine .done fun s _ held => ⟨held.1, fun missing => held.2.1 ?_, fun found same => ?_⟩
    · rintro found rfl same
      simp [Option.filter, same] at missing
    · obtain ⟨inSlot, same⟩ := Option.filter_eq_some_iff.mp same
      simp only [decide_eq_true_eq] at same
      exact ⟨same, held.2.2 found inSlot same⟩

theorem casPending_spec {R : Gate T P → Prop} {stage : Stage} {current : PendingFetch T P}
    (lasting : Lasting rt R) (booked : ∀ s, R s → s.Booked fetch)
    (same : current.generation = fetch.generation)
    (handled : stage.enqueuer = some me ∨ stage = .returned me) :
    (discipline rt).Spec me (fetch.entry.casPending current none)
      (fun s => R s ∧ s.At fetch.generation stage ∧ s.RestingBut me (some fetch.generation))
      fun _ s => R s ∧ s.Parted fetch.generation ∧ s.RestingBut me (some fetch.generation) ∧
        (stage = .returned me → s.At fetch.generation stage) := by
  have owned : stage.owner = some me := by
    rcases handled with enqueuer | rfl
    · exact Stage.owner_of_enqueuer enqueuer
    · rfl
  have made : stage.made = true := by
    rcases handled with enqueuer | rfl
    · exact Stage.made_of_enqueuer enqueuer
    · rfl
  refine ownAct lasting ((Sheltered.at fetch.generation owned).stable.and
    (Sheltered.resting _).stable) fun s choice result after ok held ran => ?_
  obtain ⟨kept, at_stage, resting⟩ := held
  obtain ⟨⟨flight, flown, same_fetch⟩, cell, found, same_entry⟩ := booked s kept
  obtain rfl : flight.stage = stage :=
    Option.some.inj ((Gate.stageOf_of_flights flown).symm.trans at_stage)
  rw [found, Option.map_some, Option.some.injEq] at ran
  cases pending : cell.pending with
  | none =>
      simp only [Gate.holdsPending, pending, Bool.false_eq_true, ↓reduceIte] at ran
      obtain ⟨rfl, rfl⟩ := Prod.mk.injEq .. ▸ ran
      refine ⟨(NeutralStep.refl ok).own, ⟨ok.vacated (booked s kept) fun cell' held found' inSlot => ?_,
        flight, flown, made⟩, resting, fun _ => at_stage⟩
      obtain rfl : cell = cell' := Option.some.inj (found.symm.trans found')
      rw [pending] at inSlot
      cases inSlot
  | some inSlot =>
      simp only [Gate.holdsPending, pending, decide_eq_true_eq] at ran
      by_cases here : inSlot.generation = current.generation
      · rw [if_pos here] at ran
        obtain ⟨rfl, rfl⟩ := Prod.mk.injEq .. ▸ ran
        have generation : inSlot.generation = fetch.generation := here.trans same
        have step : OwnStep rt.config me s (s.swapPending fetch.entry current none) := by
          unfold Gate.swapPending
          rw [← here]
          exact .leaveSlot ok found pending (generation ▸ flown) handled
        have flownAfter : (s.swapPending fetch.entry current none).flights fetch.generation =
            some { flight with stage := Gate.leaveSlot flight.stage } := by
          change Function.update s.flights current.generation
            ((s.flights current.generation).map _) _ = _
          rw [same, Function.update_self, flown]
          rfl
        have vacated : (s.swapPending fetch.entry current none).Vacated fetch.generation := by
          rw [← generation]
          exact ok.vacated_withPending found pending _
        refine ⟨step, ⟨vacated, _, flownAfter, ?_⟩, ?_, fun returned => ?_⟩
        · rcases handled with enqueuer | returned
          · cases stage : flight.stage <;> first | rfl | (rw [stage] at made; cases made)
          · rw [returned]
            rfl
        · exact step.advance.toExtends.resting_of_flights resting _
            (fun other different => Function.update_of_ne (same ▸ different) _ _) fun _ _ _ => rfl
        · refine (Gate.stageOf_of_flights flownAfter).trans ?_
          rw [returned]
          rfl
      · rw [if_neg here] at ran
        obtain ⟨rfl, rfl⟩ := Prod.mk.injEq .. ▸ ran
        refine ⟨(NeutralStep.refl ok).own, ⟨ok.vacated (booked s kept)
          fun cell' held found' inSlot' => ?_, flight, flown, made⟩, resting, fun _ => at_stage⟩
        obtain rfl : cell = cell' := Option.some.inj (found.symm.trans found')
        obtain rfl : inSlot = held := Option.some.inj (pending.symm.trans inSlot')
        exact fun equal => here (equal.trans same.symm)

theorem replacePending_spec {R : Gate T P → Prop} {stage : Stage} (lasting : Lasting rt R)
    (booked : ∀ s, R s → s.Booked fetch)
    (handled : stage.enqueuer = some me ∨ stage = .returned me) :
    (discipline rt).Spec me (fetch.entry.replacePending fetch.generation none)
      (fun s => R s ∧ s.At fetch.generation stage ∧ s.RestingBut me (some fetch.generation))
      fun _ s => R s ∧ s.Parted fetch.generation ∧ s.RestingBut me (some fetch.generation) ∧
        (stage = .returned me → s.At fetch.generation stage) := by
  have owned : stage.owner = some me ∧ stage.made = true := by
    rcases handled with enqueuer | rfl
    · exact ⟨Stage.owner_of_enqueuer enqueuer, Stage.made_of_enqueuer enqueuer⟩
    · exact ⟨rfl, rfl⟩
  refine .bind (pendingGeneration_spec (lasting.stable.and ((Sheltered.at fetch.generation owned.1).stable.and
    (Sheltered.resting _).stable)) (fun s held => booked s held.1)
    fun s held => ⟨stage, held.2.1, owned.2⟩) fun current => ?_
  cases current with
  | none => exact .done fun s _ held =>
      ⟨held.1.1, held.2.1 rfl, held.1.2.2, fun _ => held.1.2.1⟩
  | some current =>
      by_cases same : current.generation = fetch.generation
      · exact (casPending_spec lasting booked same handled).pre fun s _ held => held.1
      · exact Discipline.Spec.never.pre fun s _ held => same (held.2.2 current rfl).1

end Entry

theorem releaseReturned_spec {R : Gate T P → Prop} (lasting : Lasting rt R) :
    (discipline rt).Spec me (fetch.entry.replacePending fetch.generation none)
      (fun s => R s ∧ s.Holds me fetch (.returned me))
      fun _ s => R s ∧ s.Holds me fetch (.returned me) ∧ s.Parted fetch.generation := by
  refine (Entry.replacePending_spec (R := fun s => R s ∧ s.Booked fetch) (lasting.and
    (lasting_booked fetch)) (fun s held => held.2) (.inr rfl)).weaken (fun s _ held =>
      ⟨⟨held.1, held.2.1⟩, held.2.2.1, fun generation stage found enqueuer _ =>
        held.2.2.2 generation stage found enqueuer nofun⟩) fun _ s _ held => ?_
  obtain ⟨⟨kept, booked⟩, parted, resting, at_stage⟩ := held
  exact ⟨kept, ⟨booked, at_stage rfl, resting.resting parted.1⟩, parted⟩

structure Offers (me : Nat) (before after : Gate T P) : Prop extends Extends before after where
  old : ∀ generation flight, before.flights generation = some flight →
    after.flights generation = some flight
  new : ∀ generation flight, after.flights generation = some flight →
    before.flights generation = some flight ∨ flight.stage = .created me

section

omit [DecidableEq T]

theorem Offers.at {before after : Gate T P} {generation : Nat} {stage : Stage}
    (offers : Offers me before after) (held : before.At generation stage) :
    after.At generation stage := by
  obtain ⟨flight, flown, rfl⟩ := Option.map_eq_some_iff.mp held
  exact Gate.stageOf_of_flights (offers.old generation flight flown)

theorem Offers.resting {before after : Gate T P} {kept : Option Nat}
    (offers : Offers me before after) (resting : before.RestingBut me kept) :
    after.RestingBut me kept := by
  refine offers.toExtends.resting resting fun generation stage found enqueuer _ => ?_
  obtain ⟨flight, flown, rfl⟩ := Option.map_eq_some_iff.mp found
  rcases offers.new generation flight flown with old | created
  · exact .inl (Gate.stageOf_of_flights old)
  · rw [created] at enqueuer
    cases enqueuer

end

def Gate.Offered (me : Nat) (entry : Entry T) (refreshFrom : Option (SnapshotArc P))
    (made : PendingFetch T P) (s : Gate T P) : Prop :=
  (made.entry = entry ∧ made.refreshFrom = refreshFrom) ∧ s.Booked made ∧
    s.At made.generation (.created me)

theorem sheltered_offered (entry : Entry T) (refreshFrom : Option (SnapshotArc P))
    (made : PendingFetch T P) : Sheltered rt me (Gate.Offered me entry refreshFrom made) :=
  Discipline.Kept.and (.const _) ((lasting_booked made).sheltered.and (Sheltered.at _ rfl))

theorem newFetchAfter_spec {R : Gate T P → Prop} {entry : Entry T} {subject : T}
    {delay : Option Nat} {refreshFrom : Option (SnapshotArc P)}
    (stable : (discipline rt).Stable me R) (kept : (discipline rt).Kept (Offers me) R)
    (known : ∀ s, R s → s.Known entry) (named : subject = entry.subject)
    (loaded : ∀ s arc, R s → refreshFrom = some arc →
      s.Loaded rt.config entry arc ∧ arc.value.state.Authoritative) :
    (discipline rt).Spec me (newFetchAfter entry subject delay refreshFrom) R
      fun made s => R s ∧ s.Offered me entry refreshFrom made := by
  refine stepAct stable fun s choice made after ok held ran => ?_
  obtain ⟨rfl, same_after⟩ := Prod.mk.injEq .. ▸ Option.some.inj ran
  set made : PendingFetch T P :=
    { generation := s.nextGeneration, entry, subject, delay, refreshFrom }
  obtain ⟨cell, found, same⟩ := known s held
  have fresh := ok.freshGeneration s.nextGeneration le_rfl
  have flownAfter : after.flights made.generation = some { fetch := made, stage := .created me } := by
    rw [← same_after]
    exact Function.update_self ..
  have others : ∀ generation, generation ≠ s.nextGeneration →
      after.flights generation = s.flights generation := by
    rw [← same_after]
    exact fun generation different => Function.update_of_ne different _ _
  have step : OwnStep rt.config me s after := by
    rw [← same_after]
    refine .newFetchAfter ok rfl found same named (fun refresh => ?_) fun arc some_arc => ?_
    · obtain ⟨arc, some_arc⟩ := Option.isSome_iff_exists.mp refresh
      obtain ⟨⟨cell', found', _, _, permitted⟩, authoritative⟩ := loaded s arc held some_arc
      obtain rfl : cell = cell' := Option.some.inj (found.symm.trans found')
      exact permitted authoritative
    · obtain ⟨⟨cell', found', _, captured, _⟩, authoritative⟩ := loaded s arc held some_arc
      obtain rfl : cell = cell' := Option.some.inj (found.symm.trans found')
      exact ⟨captured, authoritative⟩
  have offers : Offers me s after := by
    refine { toExtends := step.advance.toExtends, old := fun generation flight flown => ?_,
             new := fun generation flight flown => ?_ }
    · refine (others generation ?_).trans flown
      rintro rfl
      rw [fresh] at flown
      cases flown
    · by_cases here : generation = s.nextGeneration
      · subst here
        exact .inr (Option.some.inj (flownAfter.symm.trans flown) ▸ rfl)
      · exact .inl ((others generation here).symm.trans flown)
  have known' := Lasting.known entry s after ok step.invariant step.advance.toExtends ⟨cell, found, same⟩
  exact ⟨step, kept s after ok step.invariant offers held, ⟨rfl, rfl⟩,
    ⟨⟨_, flownAfter, rfl⟩, known'⟩, Gate.stageOf_of_flights flownAfter⟩

theorem untaken_of_created {s : Gate T P} {config : PolicyGateConfig} {generation : Nat}
    {flight : Flight T P} (ok : s.Invariant config) (flown : s.flights generation = some flight)
    (created : flight.stage = .created me) : flight.taken = false := by
  by_contra taken
  have made := (ok.flights generation flight flown).taken (by simpa using taken)
  rw [created] at made
  cases made

omit [DecidableEq T] in
theorem swapPending_of_stays {s : Gate T P} {entry : Entry T} {current retry : PendingFetch T P}
    {flight : Flight T P} (flown : s.flights current.generation = some flight)
    (stays : Gate.leaveSlot flight.stage = flight.stage) :
    s.swapPending entry current (some retry) =
      s.withPending entry.id (some retry) (s.updateFlight retry.generation fun flight =>
        { flight with stage := .placed, placed := s.clock }).flights := by
  have same : Function.update s.flights current.generation ((s.flights current.generation).map
      fun flight => { flight with stage := Gate.leaveSlot flight.stage }) = s.flights := by
    rw [flown, Option.map_some, stays]
    exact Function.update_eq_self_iff.mpr flown.symm
  unfold Gate.swapPending Gate.updateFlight Gate.withPending
  dsimp only [Gate.updateCell]
  rw [same]

theorem placeRetry_spec {retry : PendingFetch T P} :
    (discipline rt).Spec me (fetch.entry.replacePending fetch.generation (some retry))
      (fun s => s.Holds me fetch (.returned me) ∧ s.Offered me fetch.entry none retry)
      fun _ s => s.Holds me fetch (.returned me) := by
  have stable : (discipline rt).Stable me
      fun s => s.Holds me fetch (.returned me) ∧ s.Offered me fetch.entry none retry :=
    (sheltered_holds fetch rfl).stable.and (sheltered_offered fetch.entry none retry).stable
  refine .bind (Entry.pendingGeneration_spec stable (fun s held => held.1.1)
    fun s held => ⟨_, held.1.2.1, rfl⟩) fun current => ?_
  cases current with
  | none => exact .done fun s _ held => held.1.1
  | some current =>
      by_cases same : current.generation = fetch.generation
      · refine (stepAct stable fun s choice result after ok held ran => ?_).pre fun s _ held => held.1
        obtain ⟨holds, ⟨home, cold⟩, booked, at_created⟩ := held
        obtain ⟨flight, flown, same_fetch, returned⟩ := holds.flight
        obtain ⟨_, cell, found, same_entry⟩ := holds.1
        obtain ⟨⟨offered, flownRetry, rfl⟩, _⟩ := booked
        have created : offered.stage = .created me :=
          Option.some.inj ((Gate.stageOf_of_flights flownRetry).symm.trans at_created)
        rw [found, Option.map_some, Option.some.injEq] at ran
        split at ran
        · rename_i holding
          obtain ⟨rfl, same_after⟩ := Prod.mk.injEq .. ▸ ran
          unfold Gate.holdsPending at holding
          cases pending : cell.pending with
          | none =>
              rw [pending] at holding
              cases holding
          | some inSlot =>
              rw [pending] at holding
              have here : inSlot.generation = fetch.generation :=
                (of_decide_eq_true holding).trans same
              have different : fetch.generation ≠ offered.fetch.generation := by
                intro equal
                rw [equal, flownRetry, Option.some.injEq] at flown
                rw [← flown, created] at returned
                cases returned
              have shape : after = s.withPending fetch.entry.id (some offered.fetch)
                  (s.updateFlight offered.fetch.generation fun flight =>
                    { flight with stage := .placed, placed := s.clock }).flights := by
                rw [← same_after]
                exact swapPending_of_stays (same ▸ flown) (by rw [returned]; rfl)
              have step : OwnStep rt.config me s after := by
                rw [shape]
                exact .retry ok found pending (here ▸ flown) returned flownRetry created
                  (untaken_of_created ok flownRetry created) cold (home.trans same_entry.symm)
              have others : after.flights fetch.generation = s.flights fetch.generation := by
                rw [shape]
                exact Function.update_of_ne different _ _
              have placed : after.flights offered.fetch.generation =
                  some { offered with stage := .placed, placed := s.clock } := by
                rw [shape]
                exact Gate.updateFlight_at flownRetry fun flight =>
                  { flight with stage := .placed, placed := s.clock }
              refine ⟨step, lasting_booked fetch s after ok step.invariant step.advance.toExtends holds.1, ?_,
                step.advance.toExtends.resting_of_flights holds.2.2
                  offered.fetch.generation (fun other isOther => ?_) fun stage atStage enqueuer => ?_⟩
              · exact (Gate.stageOf_of_flights (others.trans flown)).trans (congrArg some returned)
              · rw [shape]
                exact Function.update_of_ne isOther _ _
              · obtain rfl : .placed = stage :=
                  Option.some.inj ((Gate.stageOf_of_flights placed).symm.trans atStage)
                cases enqueuer
        · obtain ⟨rfl, rfl⟩ := Prod.mk.injEq .. ▸ ran
          exact ⟨(NeutralStep.refl ok).own, holds⟩
      · exact Discipline.Spec.never.pre fun s _ held => same (held.2.2 current rfl).1

end PolicyGate
