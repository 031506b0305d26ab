import PolicyGate.Specs.Lookup

namespace PolicyGate

open Interleaving

variable {T P : Type} [DecidableEq T] {rt : Runtime} {me : Nat} {R : Gate T P → Prop}
  {refresh : PendingFetch T P} {entry : Entry T} {reader : Reader T}

/-- The thread is the enqueuer of this refresh, and of no other. -/
def Gate.Claims (me : Nat) (refresh : PendingFetch T P) (stage : Stage) (s : Gate T P) : Prop :=
  s.Booked refresh ∧ s.At refresh.generation stage ∧ s.RestingBut me (some refresh.generation)

theorem sheltered_claims {stage : Stage} (enqueuer : stage.enqueuer = some me) :
    Sheltered rt me (Gate.Claims me refresh stage) :=
  (lasting_booked refresh).sheltered.and <|
    (Sheltered.at refresh.generation (Stage.owner_of_enqueuer enqueuer)).and (Sheltered.resting _)

def Gate.Keeps (me : Nat) (refresh : PendingFetch T P) (claim : Option Stage) (s : Gate T P) : Prop :=
  match claim with
  | none => s.Resting me
  | some stage => s.Claims me refresh stage

theorem Gate.Claims.advance {stage stage' : Stage} {s after : Gate T P} {flight : Flight T P}
    (held : s.Claims me refresh stage) (ok : s.Invariant rt.config)
    (step : OwnStep rt.config me s after)
    (others : ∀ other, other ≠ refresh.generation → after.flights other = s.flights other)
    (flown : after.flights refresh.generation = some flight) (moved : flight.stage = stage') :
    after.Claims me refresh stage' :=
  ⟨lasting_booked refresh _ _ ok step.invariant step.advance.toExtends held.1,
    moved ▸ Gate.stageOf_of_flights flown,
    step.advance.toExtends.resting_of_flights held.2.2 refresh.generation others fun _ _ _ => rfl⟩

omit [DecidableEq T] in
theorem Gate.Claims.flight {stage : Stage} {s : Gate T P} (held : s.Claims me refresh stage) :
    ∃ flight, s.flights refresh.generation = some flight ∧ flight.fetch = refresh ∧
      flight.stage = stage := by
  obtain ⟨⟨⟨flight, flown, same⟩, _⟩, at_stage, _⟩ := held
  exact ⟨flight, flown, same, Option.some.inj ((Gate.stageOf_of_flights flown).symm.trans at_stage)⟩

omit [DecidableEq T] in
theorem Gate.Claims.resting {stage : Stage} {s : Gate T P} (held : s.Claims me refresh stage)
    (free : stage.enqueuer = none) : s.Resting me := by
  intro generation stage' found enqueuer _
  by_cases same : generation = refresh.generation
  · subst same
    obtain rfl : stage = stage' := Option.some.inj (held.2.1.symm.trans found)
    rw [free] at enqueuer
    cases enqueuer
  · exact held.2.2 generation stage' found enqueuer fun equal => same (Option.some.inj equal)

theorem claimPending_spec {current : Option (SnapshotArc P)} (lasting : Lasting rt R)
    (refreshes : current.isSome = true)
    (due : ∀ s arc, R s → current = some arc → entry.DueBy s.clock arc.value) :
    (discipline rt).Spec me (claimPending entry refresh)
      (fun s => R s ∧ s.Resting me ∧ s.Offered me entry current refresh)
      fun claimed s => R s ∧ s.Keeps me refresh (if claimed then some (.claimed me) else none) := by
  refine ownAct lasting ((Sheltered.resting none).stable.and
    (sheltered_offered entry current refresh).stable)
    fun s choice claimed after ok held ran => ?_
  obtain ⟨kept, resting, ⟨home, same_current⟩, booked, at_created⟩ := held
  obtain ⟨⟨flight, flown, rfl⟩, cell, found, same⟩ := booked
  have created : flight.stage = .created me :=
    Option.some.inj ((Gate.stageOf_of_flights flown).symm.trans at_created)
  rw [home] at found
  rw [found, Option.map_some, Option.some.injEq] at ran
  cases pending : cell.pending with
  | some inSlot =>
      simp only [pending] at ran
      obtain ⟨rfl, rfl⟩ := Prod.mk.injEq .. ▸ ran
      exact ⟨(NeutralStep.refl ok).own, resting⟩
  | none =>
      simp only [pending] at ran
      obtain ⟨rfl, same_after⟩ := Prod.mk.injEq .. ▸ ran
      have step : OwnStep rt.config me s after := by
        rw [← same_after]
        refine .claimPending ok found pending flown created (untaken_of_created ok flown created)
          (same_current ▸ refreshes) same.symm fun arc refresh => ?_
        rw [same, home]
        exact due s arc kept (same_current.symm.trans refresh)
      have flownAfter : after.flights flight.fetch.generation =
          some { flight with stage := .claimed me } := by
        rw [← same_after]
        exact Gate.updateFlight_at flown fun flight => { flight with stage := .claimed me }
      refine ⟨step, lasting_booked flight.fetch s after ok step.invariant step.advance.toExtends
        (.of_flight ok flown), Gate.stageOf_of_flights flownAfter,
        step.advance.toExtends.resting_of_flights (fun generation stage found enqueuer _ =>
          resting generation stage found enqueuer nofun) flight.fetch.generation
          (fun other different => ?_) fun _ _ _ => rfl⟩
      rw [← same_after]
      exact Function.update_of_ne different _ _

theorem revalidate_spec {current : SnapshotArc P} (lasting : Lasting rt R)
    (home : refresh.entry = entry) (loaded : ∀ s, R s → s.Loaded rt.config entry current)
    (authoritative : current.value.state.Authoritative) :
    (discipline rt).Spec me (revalidate entry refresh current)
      (fun s => R s ∧ s.Claims me refresh (.claimed me))
      fun unchanged s => R s ∧
        s.Claims me refresh (if unchanged then .validated me else .claimed me) := by
  refine ownAct lasting (sheltered_claims rfl).stable fun s choice unchanged after ok held ran => ?_
  obtain ⟨cell, found, _⟩ := (loaded s held.1).known
  rw [Gate.load, found, Option.map_some, Option.map_some, Option.some.injEq] at ran
  split at ran
  · rename_i address
    obtain ⟨rfl, same_after⟩ := Prod.mk.injEq .. ▸ ran
    obtain ⟨flight, flown, same, claimed⟩ := held.2.flight
    have value := (loaded s held.1).value_eq ok found address
    have foundHome : s.cells flight.fetch.entry.id = some cell := by
      rw [same, home]
      exact found
    have step : OwnStep rt.config me s after := by
      rw [← same_after]
      refine .revalidate ok flown claimed foundHome fun stale => ?_
      rw [EntryCell.state, ← value] at stale
      rw [stale] at authoritative
      exact absurd authoritative (by decide)
    have flownAfter : after.flights refresh.generation =
        some { flight with stage := .validated me } := by
      rw [← same_after]
      exact Gate.updateFlight_at flown fun flight => { flight with stage := .validated me }
    refine ⟨step, held.2.advance ok step (fun other different => ?_) flownAfter rfl⟩
    rw [← same_after]
    exact Function.update_of_ne different _ _
  · obtain ⟨rfl, rfl⟩ := Prod.mk.injEq .. ▸ ran
    exact ⟨(NeutralStep.refl ok).own, held.2⟩

theorem releaseClaim_spec {stage : Stage} (lasting : Lasting rt R) (home : refresh.entry = entry)
    (enqueuer : stage.enqueuer = some me) :
    (discipline rt).Spec me (releaseClaim entry refresh.generation)
      (fun s => R s ∧ s.Claims me refresh stage) fun _ s => R s ∧ s.Resting me := by
  subst home
  refine .bind ((Entry.replacePending_spec (R := fun s => R s ∧ s.Booked refresh)
    (lasting.and (lasting_booked refresh)) (fun s held => held.2) (.inl enqueuer)).pre
    fun s _ held => ⟨⟨held.1, held.2.1⟩, held.2.2⟩) fun _ => .done fun s _ held => ?_
  obtain ⟨⟨kept, _⟩, parted, resting, _⟩ := held
  exact ⟨kept, resting.resting parted.1⟩

theorem sendRefresh_spec {deadline : Nat} (lasting : Lasting rt R) (home : refresh.entry = entry) :
    (discipline rt).Spec me (sendRefresh rt entry refresh deadline)
      (fun s => R s ∧ s.Claims me refresh (.validated me))
      fun queued s => R s ∧ s.Keeps me refresh (if queued then none else some (.validated me)) := by
  have stable : (discipline rt).Stable me fun s => R s ∧ s.Claims me refresh (.validated me) :=
    lasting.stable.and (sheltered_claims rfl).stable
  refine .bind (clockNow_past stable) fun now => ?_
  split
  · exact .done fun s _ held => held.1
  · refine (Discipline.Spec.wait stable (fun s choice queued after ok held ran => ?_)
      ((releaseClaim_spec lasting home rfl).post fun _ s _ held => held.2)).pre fun s _ held => held.1
    have refused : some (false, s) = some (queued, after) →
        (discipline rt).invariant after ∧ (discipline rt).Guarantee me s after ∧
          R after ∧ after.Keeps me refresh (if queued then none else some (.validated me)) := by
      intro same
      obtain ⟨rfl, rfl⟩ := Prod.mk.injEq .. ▸ Option.some.inj same
      exact ⟨ok, fun other _ => (NeutralStep.refl ok).rely other, held⟩
    split at ran
    · split at ran
      · exact refused ran
      · cases ran
    · split at ran
      · exact refused ran
      · cases ran
    · split at ran
      · obtain ⟨rfl, same_after⟩ := Prod.mk.injEq .. ▸ Option.some.inj ran
        obtain ⟨flight, flown, same, validated⟩ := held.2.flight
        have step : OwnStep rt.config me s after := by
          rw [← same_after, ← same]
          exact .sendRefresh ok (same ▸ flown) validated
        have flownAfter : after.flights refresh.generation =
            some { flight with stage := .queued } := by
          rw [← same_after]
          exact Gate.updateFlight_at flown fun flight => { flight with stage := .queued }
        have claims : after.Claims me refresh .queued := by
          refine held.2.advance ok step (fun other different => ?_) flownAfter rfl
          rw [← same_after]
          exact Function.update_of_ne different _ _
        exact ⟨step.invariant, step.rely,
          lasting s after ok step.invariant step.advance.toExtends held.1, claims.resting rfl⟩
      · cases ran

theorem enqueueRefresh_spec {current : SnapshotArc P} {deadline : Nat} (lasting : Lasting rt R)
    (home : refresh.entry = entry) (loaded : ∀ s, R s → s.Loaded rt.config entry current)
    (authoritative : current.value.state.Authoritative)
    (subject : ∀ subject, reader = .cached subject → subject = entry.subject) :
    (discipline rt).Spec me (enqueueRefresh rt reader entry refresh current deadline)
      (fun s => R s ∧ s.Claims me refresh (.claimed me))
      fun admission s => (R s ∧ s.Resting me) ∧ Entry.Admitted me entry reader admission s := by
  have claimed : ∀ {stage : Stage}, stage.enqueuer = some me →
      (discipline rt).Stable me fun s => R s ∧ s.Claims me refresh stage :=
    fun enqueuer => lasting.stable.and (sheltered_claims enqueuer).stable
  have known : ∀ s, R s → s.Known entry := fun s held => (loaded s held).known
  have admits : ∀ {stage : Stage}, stage.enqueuer = some me →
      (discipline rt).Spec me (do
        let admission ← entry.admission reader
        releaseClaim entry refresh.generation
        pure admission) (fun s => R s ∧ s.Claims me refresh stage)
      fun admission s => (R s ∧ s.Resting me) ∧ Entry.Admitted me entry reader admission s := by
    intro stage enqueuer
    refine .bind (Entry.admission_spec (claimed enqueuer) (fun s held => known s held.1) subject)
      fun admission => ?_
    refine .bind ((releaseClaim_spec (lasting.and (Entry.lasting_admitted reader admission)) home
      enqueuer).pre fun s _ held => ⟨⟨held.1.1, held.2⟩, held.1.2⟩) fun _ => ?_
    exact .done fun s _ held => ⟨⟨held.1.1, held.2⟩, held.1.2⟩
  have sends : (discipline rt).Spec me (do
      let queued ← sendRefresh rt entry refresh deadline
      let admission ← entry.admission reader
      if !queued then releaseClaim entry refresh.generation
      pure admission) (fun s => R s ∧ s.Claims me refresh (.validated me))
      fun admission s => (R s ∧ s.Resting me) ∧ Entry.Admitted me entry reader admission s := by
    refine .bind (sendRefresh_spec lasting home) fun queued => ?_
    cases queued with
    | true => exact .bind (Entry.admission_spec (lasting.stable.and (Sheltered.resting none).stable)
        (fun s held => known s held.1) subject) fun admission => .done fun s _ held => held
    | false => exact admits rfl
  refine .bind (revalidate_spec lasting home loaded authoritative) fun unchanged => ?_
  cases unchanged with
  | true =>
      refine .bind (clockNow_past (claimed rfl)) fun now => ?_
      refine .bind ((Entry.refreshEligibleAt_spec (claimed rfl)).pre fun s _ held => held.1)
        fun eligible => ?_
      cases eligible with
      | true => exact sends.pre fun s _ held => held.2
      | false => exact (admits rfl).pre fun s _ held => held.2
  | false =>
      refine .bind (M := fun eligible s => eligible = false ∧ R s ∧ s.Claims me refresh (.claimed me))
        (.done fun s _ held => ⟨rfl, held⟩) fun eligible => .given fun ineligible => ?_
      subst ineligible
      exact admits rfl

theorem admissionOnAccess_spec {subject : T} {deadline : Option Nat} (lasting : Lasting rt R)
    (known : ∀ s, R s → s.Known entry) (named : subject = entry.subject)
    (read : ∀ subject, reader = .cached subject → subject = entry.subject) :
    (discipline rt).Spec me (admissionOnAccess rt reader subject entry deadline)
      (fun s => R s ∧ s.Resting me)
      fun admission s => (R s ∧ s.Resting me) ∧ Entry.Admitted me entry reader admission s := by
  have stable : (discipline rt).Stable me fun s => R s ∧ s.Resting me :=
    lasting.stable.and (Sheltered.resting none).stable
  refine .bind (Entry.admission_spec stable (fun s held => known s held.1) read) fun admission => ?_
  cases admission with
  | none => exact .done fun s _ held => held
  | some admission =>
      have backed : Lasting rt fun s => R s ∧ Entry.Admitted me entry reader (some admission) s :=
        lasting.and (Entry.lasting_admitted reader (some admission))
      have answer : (discipline rt).Spec me (.done (some admission))
          (fun s => (R s ∧ Entry.Admitted me entry reader (some admission) s) ∧ s.Resting me)
          fun admission s => (R s ∧ s.Resting me) ∧ Entry.Admitted me entry reader admission s :=
        .done fun s _ held => ⟨⟨held.1.1, held.2⟩, held.1.2⟩
      have kept : (discipline rt).Stable me
          fun s => (R s ∧ Entry.Admitted me entry reader (some admission) s) ∧ s.Resting me :=
        backed.stable.and (Sheltered.resting none).stable
      refine Discipline.Spec.pre (P := fun s =>
        (R s ∧ Entry.Admitted me entry reader (some admission) s) ∧ s.Resting me) ?_
        fun s _ held => ⟨⟨held.1.1, held.2⟩, held.1.2⟩
      dsimp only
      split
      · exact answer
      · refine .bind (Entry.load_spec kept fun s held => known s held.1.1) fun current => ?_
        have loaded : (discipline rt).Stable me fun s =>
            ((R s ∧ Entry.Admitted me entry reader (some admission) s) ∧ s.Resting me) ∧
              s.Loaded rt.config entry current := kept.and (Lasting.loaded entry current).stable
        refine .bind (clockNow_past loaded) fun accessTime => ?_
        have loads : Lasting rt fun s => ((R s ∧ Entry.Admitted me entry reader (some admission) s) ∧
            s.Loaded rt.config entry current) ∧ accessTime ≤ s.clock :=
          (backed.and (Lasting.loaded entry current)).and (Lasting.clock accessTime)
        refine .bind (Entry.refreshDueAt_spec (loaded.and (Lasting.clock accessTime).stable)
          fun s held => known s held.1.1.1.1) fun due => .given fun inside => ?_
        split
        · rename_i isDue
          split
          · exact answer.pre fun s _ held => held.1.1
          · rename_i deadline _
            have authoritative := Entry.authoritative_of_inRefreshWindow (inside isDue)
            refine .bind ((newFetchAfter_spec (loaded.and (Lasting.clock accessTime).stable)
              (fun before after ok ok' offers held => ?_)
              (fun s held => held.1.2.known) named fun s arc held same => ?_).post
              fun refresh s _ held => And.intro held.2.1.1 held) fun refresh => .given fun home => ?_
            · exact ⟨⟨⟨backed before after ok ok' offers.toExtends held.1.1.1,
                offers.resting held.1.1.2⟩,
                Lasting.loaded entry current before after ok ok' offers.toExtends held.1.2⟩,
                held.2.trans offers.toExtends.clock⟩
            · obtain rfl := Option.some.inj same
              exact ⟨held.1.2, authoritative⟩
            · refine .bind ((claimPending_spec loads rfl fun s arc held same => ?_).pre fun s _ held =>
                ⟨⟨⟨held.1.1.1.1, held.1.1.2⟩, held.1.2⟩, held.1.1.1.2, held.2⟩) fun claimed => ?_
              · obtain rfl := Option.some.inj same
                exact ⟨accessTime, held.2, inside isDue⟩
              cases claimed with
              | false => exact answer.pre fun s _ held => ⟨held.1.1.1, held.2⟩
              | true =>
                  exact (enqueueRefresh_spec loads home (fun s held => held.1.2)
                    authoritative read).post fun _ s _ held =>
                      ⟨⟨held.1.1.1.1.1, held.1.2⟩, held.2⟩
        · exact answer.pre fun s _ held => held.1.1

theorem found_of_snapshotEntry {s : Gate T P} (ok : s.Invariant rt.config) (subject : T) :
    Subjects.Found subject (s.snapshotEntry subject) s := by
  intro entry same
  obtain ⟨slot, first, rfl⟩ := Option.map_eq_some_iff.mp same
  have key : slot.1 = subject := by simpa using List.find?_some first
  obtain ⟨cell, found, same, named⟩ := ok.snapshot.known slot (List.mem_of_find?_eq_some first)
  exact ⟨⟨cell, found, same⟩, named.symm.trans key⟩

theorem snapshotGet_spec {subject : T} (stable : (discipline rt).Stable me R) :
    (discipline rt).Spec me (snapshotGet subject) R fun found s =>
      R s ∧ Subjects.Found subject found s := by
  refine readAct stable fun s found ok held viewed => ?_
  obtain rfl := Option.some.inj viewed
  exact found_of_snapshotEntry ok subject

omit [DecidableEq T] in
theorem backed_of_admitted {subject : T} {admission : Option (Entry T)} {s : Gate T P}
    (admitted : Entry.Admitted me entry (.cached subject) admission s) :
    Outcome.Backed s.cells me (.cached subject admission) := by
  cases admission with
  | none => trivial
  | some handle =>
      obtain ⟨rfl, backed⟩ := admitted handle rfl
      exact backed

/-- What a cached read makes of the entry that the snapshot holds. -/
def Cached (cells : Nat → Option (EntryCell T P)) (thread : Nat) (subject : T)
    (loaded : Option (Entry T)) : Option (Entry T) → Prop
  | none => ∀ entry, loaded = some entry → ∃ now,
      Entry.ReadUndecided cells entry (.cached subject) thread now
  | some admission => loaded = some admission ∧ admission.subject = subject ∧ ∃ now snapshot,
      Observation cells admission (.cached subject) thread now snapshot ∧ snapshot.state.Authoritative

omit [DecidableEq T] in
theorem Cached.mono {subject : T} {loaded found : Option (Entry T)} {before after : Gate T P}
    (extend : Extends before after) (cached : Cached before.cells me subject loaded found) :
    Cached after.cells me subject loaded found := by
  cases found with
  | none =>
      intro entry same
      obtain ⟨now, read⟩ := cached entry same
      exact ⟨now, read.mono extend⟩
  | some admission =>
      obtain ⟨same, named, now, snapshot, observation, authoritative⟩ := cached
      exact ⟨same, named, now, snapshot, observation.mono extend, authoritative⟩

theorem lasting_cached (subject : T) (loaded found : Option (Entry T)) :
    Lasting rt fun s : Gate T P => Cached s.cells me subject loaded found :=
  fun _ _ _ _ extend cached => cached.mono extend

theorem cachedRead_spec {subject : T} {access : Program (Gate T P) (Option (Entry T))}
    {Q : Option (Entry T) → Gate T P → Prop} (named : entry.subject = subject)
    (undecided : ∀ (s : Gate T P) now,
      Entry.ReadUndecided s.cells entry (.cached subject) me now → Q none s)
    (accesses : (discipline rt).Spec me access (fun s => s.Known entry ∧ s.Resting me)
      fun admission s => s.Resting me ∧ Q admission s) :
    (discipline rt).Spec me (do
      let now ← clockNow
      match ← entry.verdictAt (.cached subject) now with
      | none => pure none
      | some _ => do
          let now ← clockNow
          let _ ← Subjects.touch rt subject entry now
          access) (fun s => s.Known entry ∧ s.Resting me)
      fun admission s => s.Resting me ∧ Q admission s := by
  have sheltered : Sheltered rt me fun s : Gate T P => s.Known entry ∧ s.Resting me :=
    (Lasting.known entry).sheltered.and (Sheltered.resting none)
  have known : ∀ s : Gate T P, s.Known entry ∧ s.Resting me → s.Known entry := fun s held => held.1
  have read : ∀ other, Reader.cached subject = .cached other → other = entry.subject := by
    rintro other same
    rw [named, Reader.cached.inj same]
  refine .bind (clockNow_past sheltered.stable) fun now => ?_
  refine .bind ((Entry.verdictAt_spec sheltered.stable known read).pre fun s _ held => held.1)
    fun verdict => ?_
  cases verdict with
  | none => exact .done fun s _ held => ⟨held.1.2, undecided s now (held.2.2 rfl)⟩
  | some verdict =>
      refine .bind ((clockNow_past sheltered.stable).pre fun s _ held => held.1) fun now => ?_
      refine .bind ((Subjects.touch_spec sheltered known).pre fun s _ held => held.1) fun _ => ?_
      exact accesses.pre fun s _ held => held.2

theorem check_spec {subject : T} :
    (discipline rt).Spec me (check (P := P) rt subject) (fun s => s.Resting me)
      fun admission s => s.Resting me ∧ Outcome.Backed s.cells me (.cached subject admission) := by
  refine .bind (snapshotGet_spec (Sheltered.resting none).stable) fun loaded => ?_
  cases loaded with
  | none => exact .done fun s _ held => ⟨held.1, trivial⟩
  | some entry =>
      refine Discipline.Spec.pre (P := fun s => entry.subject = subject ∧ s.Known entry ∧ s.Resting me)
        (.given fun named => ?_) fun s _ held => ⟨(held.2 entry rfl).2, (held.2 entry rfl).1, held.1⟩
      refine cachedRead_spec named (fun _ _ _ => trivial) ?_
      refine (admissionOnAccess_spec (Lasting.known entry) (fun s held => held) named.symm ?_).post
        fun admission s _ held => ⟨held.1.2, backed_of_admitted held.2⟩
      rintro other same
      rw [named, Reader.cached.inj same]

theorem admitCached_spec {subject : T} {loaded : Option (Entry T)} :
    (discipline rt).Spec me (admitCached (P := P) rt subject loaded)
      (fun s => s.Resting me ∧ Subjects.Found subject loaded s)
      fun admission s => s.Resting me ∧ Cached s.cells me subject loaded admission := by
  cases loaded with
  | none => exact .done fun s _ held => ⟨held.1, fun entry none => by cases none⟩
  | some entry =>
      refine Discipline.Spec.pre (P := fun s => entry.subject = subject ∧ s.Known entry ∧ s.Resting me)
        (.given fun named => ?_) fun s _ held => ⟨(held.2 entry rfl).2, (held.2 entry rfl).1, held.1⟩
      refine cachedRead_spec (Q := fun admission s => Cached s.cells me subject (some entry) admission)
        named (fun s now read other same => ?_) ?_
      · obtain rfl := Option.some.inj same
        exact ⟨now, read⟩
      · refine (Entry.admission_reads ((Lasting.known entry).stable.and (Sheltered.resting none).stable)
          (fun s held => held.1) ?_).post fun admission s _ held => ⟨held.1.2, ?_⟩
        · rintro other same
          rw [named, Reader.cached.inj same]
        · cases admission with
          | none =>
              rintro other same
              obtain rfl := Option.some.inj same
              exact held.2.2 rfl
          | some handle =>
              obtain ⟨rfl, observed⟩ := held.2.1 handle rfl
              exact ⟨rfl, named, observed⟩

omit [DecidableEq T] in
theorem Cached.backed {cells : Nat → Option (EntryCell T P)} {subject : T}
    {loaded found : Option (Entry T)} (cached : Cached cells me subject loaded found) :
    Outcome.Backed cells me (.cached subject found) := by
  cases found with
  | none => trivial
  | some admission => exact cached.2.2

theorem checkWithoutRefresh_spec {subject : T} :
    (discipline rt).Spec me (checkWithoutRefresh (P := P) rt subject) (fun s => s.Resting me)
      fun admission s => s.Resting me ∧ Outcome.Backed s.cells me (.cached subject admission) :=
  .bind (snapshotGet_spec (Sheltered.resting none).stable) fun _ =>
    admitCached_spec.post fun _ _ _ held => ⟨held.1, held.2.backed⟩

theorem refreshEntry_spec {subject : T} :
    (discipline rt).Spec me (refreshEntry (P := P) rt subject entry)
      (fun s => s.Known entry ∧ s.Resting me) fun _ s => s.Resting me := by
  have sheltered : Sheltered rt me fun s : Gate T P => s.Known entry ∧ s.Resting me :=
    (Lasting.known entry).sheltered.and (Sheltered.resting none)
  refine .bind (clockNow_past sheltered.stable) fun now => ?_
  refine .bind ((Subjects.touch_spec sheltered fun s held => held.1).pre fun s _ held => held.1)
    fun matched => .given fun named => ?_
  split
  · rename_i isMatched
    exact .bind (admissionOnAccess_spec (Lasting.known entry) (fun s held => held)
      (named isMatched).symm nofun) fun _ => .done fun s _ held => held.1.2
  · exact .done fun s _ held => held.2

end PolicyGate
