import PolicyGate.Specs.Knowledge

namespace PolicyGate

open Interleaving

variable {T P : Type} [DecidableEq T] {rt : Runtime} {me : Nat} {R : Gate T P → Prop}
  {entry : Entry T}

theorem clockNow_spec {M : Nat → Gate T P → Prop} (stable : (discipline rt).Stable me R)
    (read : ∀ s, s.Invariant rt.config → R s → M s.clock s) :
    (discipline rt).Spec me clockNow R fun now s => R s ∧ M now s := by
  refine readAct stable fun s now ok held viewed => ?_
  obtain rfl := Option.some.inj viewed
  exact read s ok held

theorem clockNow_past (stable : (discipline rt).Stable me R) :
    (discipline rt).Spec me clockNow R fun now s => R s ∧ now ≤ s.clock :=
  clockNow_spec stable fun _ _ _ => le_rfl

def Observed.Backed (cells : Nat → Option (EntryCell T P)) (entry : Entry T) (reader : Reader T)
    (thread now : Nat) : Observed → Prop
  | .allowed => ∃ snapshot : EntrySnapshot P,
      Observation cells entry reader thread now snapshot ∧ snapshot.state = .allowed
  | .denied => ∃ snapshot : EntrySnapshot P,
      Observation cells entry reader thread now snapshot ∧ snapshot.state = .denied
  | .stale => ∃ snapshot : EntrySnapshot P,
      Observation cells entry reader thread now snapshot ∧ snapshot.state = .stale
  | .expired => ReadExpired cells entry reader thread now

namespace Entry

theorem load_spec (stable : (discipline rt).Stable me R) (known : ∀ s, R s → s.Known entry) :
    (discipline rt).Spec me entry.load R fun arc s => R s ∧ s.Loaded rt.config entry arc := by
  refine readAct stable fun s arc ok held viewed => ?_
  obtain ⟨cell, found, same⟩ := known s held
  rw [Gate.load, found, Option.map_some, Option.some.injEq] at viewed
  subst viewed
  exact ok.loaded found same

/-- The entry was seen unexpired, holding `value`, when `M` held of it. -/
def Seen (entry : Entry T) (reader : Reader T) (thread now : Nat) (M : EntrySnapshot P → Gate T P → Prop)
    (value : EntrySnapshot P) (s : Gate T P) : Prop :=
  entry.isExpiredAt value.word now = false → Observation s.cells entry reader thread now value ∧ M value s

/-- What is known of an entry after one of the loads of `current_at`. -/
def Observing (config : PolicyGateConfig) (entry : Entry T) (reader : Reader T) (thread now : Nat)
    (M : EntrySnapshot P → Gate T P → Prop) (current : SnapshotArc P) (s : Gate T P) : Prop :=
  s.Loaded config entry current ∧ entry.Seen reader thread now M current.value s ∧
    (entry.isExpiredAt current.value.word now = true →
      current.value.word = staleWord current.value.word → ReadExpired s.cells entry reader thread now)

section

variable {reader : Reader T} {now : Nat} {M : EntrySnapshot P → Gate T P → Prop}

theorem observe_step {s : Gate T P} {cell : EntryCell T P} (ok : s.Invariant rt.config)
    (held : R s) (stable : (discipline rt).Stable me R)
    (subject : ∀ subject, reader = .cached subject → subject = entry.subject)
    (read : ∀ s cell, s.Invariant rt.config → R s → s.cells entry.id = some cell →
      cell.entry = entry → M cell.current.value s)
    (found : s.cells entry.id = some cell) (same : cell.entry = entry) :
    NeutralStep rt.config s (s.observe entry reader me now) ∧
      Observing rt.config entry reader me now M cell.current (s.observe entry reader me now) := by
  have step : NeutralStep rt.config s (s.observe entry reader me now) :=
    .observe ok (fun cell' found' => Option.some.inj (found'.symm.trans found) ▸ same) subject
  have found' : (s.observe entry reader me now).cells entry.id = some (cell.observe reader me now) := by
    rw [Gate.observe, Gate.updateCell_cells, Function.update_self, found, Option.map_some]
  have same' : (cell.observe reader me now).entry = entry :=
    (cell.observe_grows reader me now).entry.trans same
  have current := cell.observe_current reader me now
  refine ⟨step, current ▸ step.invariant.loaded found' same', fun live => ⟨?_, ?_⟩,
    fun expired stale => ⟨_, found', same', .inr ⟨cell.current.value, ?_, expired⟩⟩⟩
  · refine ⟨_, found', same', ?_, live⟩
    rw [← same] at live
    simp [EntryCell.observe, live]
  · exact current ▸ read _ _ step.invariant
      (stable s _ ok step.invariant (step.rely me) held) found' same'
  · simp [EntryCell.observe, ← stale]

theorem currentAt_spec (stable : (discipline rt).Stable me R) (known : ∀ s, R s → s.Known entry)
    (subject : ∀ subject, reader = .cached subject → subject = entry.subject)
    (noted : ∀ value, (discipline rt).Stable me (M value))
    (read : ∀ s cell, s.Invariant rt.config → R s → s.cells entry.id = some cell →
      cell.entry = entry → M cell.current.value s) :
    (discipline rt).Spec me (entry.currentAt reader now) R fun result s => R s ∧
      (result.2 = true → ReadExpired s.cells entry reader me now) ∧
      (result.2 = false → Observation s.cells entry reader me now result.1 ∧ M result.1 s) := by
  have observing : ∀ current, (discipline rt).Stable me
      (Observing rt.config entry reader me now M current) := fun current =>
    (Lasting.loaded entry current).stable.and <| .and
      (.forall fun _ => (Lasting.observation entry reader me now current.value).stable.and
        (noted current.value))
      (.forall fun _ => .forall fun _ => (Lasting.readExpired entry reader me now).stable)
  unfold currentAt
  refine .bind (M := fun current s => R s ∧ Observing rt.config entry reader me now M current s)
    (neutralAct stable fun s choice current after ok held ran => ?_) fun current => ?_
  · obtain ⟨cell, found, same⟩ := known s held
    rw [Gate.load, found, Option.map_some, Option.map_some, Option.some.injEq, Prod.mk.injEq] at ran
    obtain ⟨rfl, rfl⟩ := ran
    exact observe_step ok held stable subject read found same
  · refine .iterate (fun current => stable.and (observing current)) fun current => ?_
    split
    · rename_i live
      exact .done fun s _ held => ⟨held.1, nofun, fun _ => held.2.2.1 live⟩
    · rename_i expired
      rw [Bool.not_eq_false] at expired
      split
      · rename_i stale
        exact .done fun s _ held => ⟨held.1, fun _ => held.2.2.2 expired stale, nofun⟩
      · rename_i live
        refine .bind (M := fun changed s => R s ∧
          (changed.address = current.address → ReadExpired s.cells entry reader me now) ∧
          (changed.address ≠ current.address →
            Observing rt.config entry reader me now M changed s)) ?_ fun changed => ?_
        · refine (neutralAct (stable.and (observing current)) fun s choice changed after ok held ran =>
            (?_ : _ ∧ (changed.address = current.address → ReadExpired after.cells entry reader me now) ∧
              (changed.address ≠ current.address →
                Observing rt.config entry reader me now M changed after))).post
            fun changed s _ held => ⟨held.1.1, held.2⟩
          obtain ⟨held, loaded, _⟩ := held
          obtain ⟨cell, found, same⟩ := known s held
          simp only [Gate.compareAndSwap, found, Option.map_some, Option.some.injEq] at ran
          split at ran
          · rename_i unchanged
            obtain ⟨rfl, rfl⟩ := Prod.mk.injEq .. ▸ ran
            have value := loaded.value_eq ok found unchanged
            have cellOk := ok.cells _ cell found
            have fits := cellOk.word_lt
            rw [value] at expired live ⊢
            refine ⟨.replaceStale ok found rfl rfl ?_ (EntrySnapshot.stale_state fits) ⟨?_, ?_⟩ trivial,
              fun _ => ?_, fun different => absurd unchanged different⟩
            · rw [cellOk.value]
              rfl
            · rw [← cellOk.value, same]
              exact expired
            · rw [← cellOk.value]
              exact fun stale => live (staleWord_eq_self fits stale).symm
            · refine ⟨cell.replace cell.current.value.stale (.latched reader now), ?_, same, .inl ?_⟩
              · change Function.update s.cells entry.id ((s.cells entry.id).map _) entry.id = _
                rw [Function.update_self, found, Option.map_some]
              · exact List.mem_cons_self
          · rename_i different
            obtain ⟨rfl, rfl⟩ := Prod.mk.injEq .. ▸ ran
            obtain ⟨step, observing⟩ :=
              observe_step ok held stable subject read found same
            exact ⟨step, fun unchanged => absurd unchanged different, fun _ => observing⟩
        · split
          · rename_i unchanged
            exact .done fun s _ held => ⟨held.1, fun _ => held.2.1 unchanged, nofun⟩
          · rename_i different
            exact .done fun s _ held => ⟨held.1, held.2.2 different⟩

theorem stateAt_spec (stable : (discipline rt).Stable me R) (known : ∀ s, R s → s.Known entry)
    (noted : ∀ value, (discipline rt).Stable me (M value))
    (read : ∀ s cell, s.Invariant rt.config → R s → s.cells entry.id = some cell →
      cell.entry = entry → M cell.current.value s) :
    (discipline rt).Spec me (entry.stateAt .map now) R fun state s => R s ∧
      (state ≠ .stale → ∃ value, value.state = state ∧ M value s) := by
  refine .bind (currentAt_spec stable known nofun noted read) fun ⟨decision, expired⟩ => ?_
  refine .done fun s _ held => ⟨held.1, fun fresh => ?_⟩
  cases expired with
  | true => exact absurd rfl fresh
  | false => exact ⟨decision, rfl, (held.2.2 rfl).2⟩

theorem stateAt_any (stable : (discipline rt).Stable me R) (known : ∀ s, R s → s.Known entry) :
    (discipline rt).Spec me (entry.stateAt .map now) R fun _ => R :=
  (stateAt_spec (M := fun _ _ => True) stable known (fun _ => .const _) fun _ _ _ _ _ _ => trivial).post
    fun _ _ _ held => held.1

/-- The thread read the entry at `now`, and found no decision in force. -/
def ReadUndecided (cells : Nat → Option (EntryCell T P)) (entry : Entry T) (reader : Reader T)
    (thread now : Nat) : Prop :=
  ReadExpired cells entry reader thread now ∨ ∃ snapshot : EntrySnapshot P,
    Observation cells entry reader thread now snapshot ∧ ¬ snapshot.state.Authoritative

omit [DecidableEq T] in
theorem ReadUndecided.mono {reader : Reader T} {thread now : Nat} {before after : Gate T P}
    (extend : Extends before after) (read : ReadUndecided before.cells entry reader thread now) :
    ReadUndecided after.cells entry reader thread now := by
  rcases read with expired | ⟨snapshot, observation, undecided⟩
  · exact .inl (expired.mono extend)
  · exact .inr ⟨snapshot, observation.mono extend, undecided⟩

theorem verdictAt_spec (stable : (discipline rt).Stable me R) (known : ∀ s, R s → s.Known entry)
    (subject : ∀ subject, reader = .cached subject → subject = entry.subject) :
    (discipline rt).Spec me (entry.verdictAt reader now) R fun verdict s => R s ∧
      (verdict.isSome = true → ∃ snapshot : EntrySnapshot P,
        Observation s.cells entry reader me now snapshot ∧ snapshot.state.Authoritative) ∧
      (verdict = none → ReadUndecided s.cells entry reader me now) := by
  refine .bind (currentAt_spec (M := fun _ _ => True) stable known subject (fun _ => .const _)
    fun _ _ _ _ _ _ => trivial) fun ⟨decision, expired⟩ => ?_
  cases expired with
  | true => exact .done fun s _ held => ⟨held.1, nofun, fun _ => .inl (held.2.1 rfl)⟩
  | false =>
      dsimp only
      cases state : decision.state with
      | allowed =>
          exact .done fun s _ held => ⟨held.1, fun _ => ⟨decision, (held.2.2 rfl).1, .inl state⟩, nofun⟩
      | denied =>
          exact .done fun s _ held => ⟨held.1, fun _ => ⟨decision, (held.2.2 rfl).1, .inr state⟩, nofun⟩
      | pending | stale =>
          exact .done fun s _ held => ⟨held.1, nofun, fun _ =>
            .inr ⟨decision, (held.2.2 rfl).1, by simp [EntryState.Authoritative, state]⟩⟩

def Admitted (thread : Nat) (entry : Entry T) (reader : Reader T) (admission : Option (Entry T))
    (s : Gate T P) : Prop :=
  ∀ handle, admission = some handle → handle = entry ∧ ∃ now snapshot,
    Observation s.cells entry reader thread now snapshot ∧ snapshot.state.Authoritative

theorem lasting_admitted (reader : Reader T) (admission : Option (Entry T)) :
    Lasting rt (Admitted (P := P) me entry reader admission) :=
  .forall fun _ => .forall fun _ => Discipline.Kept.and (.const _) <|
    .exists fun _ => .exists fun _ => (Lasting.observation entry reader _ _ _).and (.const _)

theorem admission_reads (stable : (discipline rt).Stable me R) (known : ∀ s, R s → s.Known entry)
    (subject : ∀ subject, reader = .cached subject → subject = entry.subject) :
    (discipline rt).Spec me (entry.admission reader) R fun admission s =>
      R s ∧ Admitted me entry reader admission s ∧
        (admission = none → ∃ now, ReadUndecided s.cells entry reader me now) := by
  refine .bind (clockNow_past stable) fun now => ?_
  refine .bind ((verdictAt_spec stable known subject).pre fun s _ held => held.1) fun verdict => ?_
  refine .done fun s _ held => ⟨held.1, fun handle handed => ?_, fun none => ⟨now, held.2.2 ?_⟩⟩
  · obtain ⟨decision, found, rfl⟩ := Option.map_eq_some_iff.mp handed
    obtain ⟨snapshot, observed⟩ := held.2.1 (by rw [found]; rfl)
    exact ⟨rfl, now, snapshot, observed⟩
  · exact Option.map_eq_none_iff.mp none

theorem admission_spec (stable : (discipline rt).Stable me R) (known : ∀ s, R s → s.Known entry)
    (subject : ∀ subject, reader = .cached subject → subject = entry.subject) :
    (discipline rt).Spec me (entry.admission reader) R fun admission s =>
      R s ∧ Admitted me entry reader admission s :=
  (admission_reads stable known subject).post fun _ _ _ held => ⟨held.1, held.2.1⟩

theorem not_pending_of_issued {s : Gate T P} {cell : EntryCell T P} (ok : s.Invariant rt.config)
    (issued : s.Issued entry) (found : s.cells entry.id = some cell) :
    cell.current.value.state ≠ .pending := by
  obtain ⟨cell', found', _, issued⟩ := issued
  obtain rfl : cell = cell' := Option.some.inj (found.symm.trans found')
  have cellOk := ok.cells _ cell found
  obtain ⟨event, member, observed⟩ := List.any_eq_true.mp issued
  cases event with
  | observed reader thread now snapshot =>
      obtain ⟨later, earlier, split⟩ := List.append_of_mem member
      have accounted := cellOk.accounted
      rw [split] at accounted
      have read := accounted.event.1
      simp only [Bool.and_eq_true, decide_eq_true_eq] at observed
      intro pending
      rw [cellOk.value, EntryLog.current_pending_iff, split, EntryLog.touches_append,
        EntryLog.touches_cons] at pending
      have untouched : EntryLog.touches earlier = 0 := by omega
      rw [read, EntryLog.current_pending_iff.mpr untouched] at observed
      exact absurd observed.2 (by decide)
  | published | latched | invalidated | failed | started | returned | cooled => cases observed

theorem observedAt_spec (stable : (discipline rt).Stable me R) (issued : ∀ s, R s → s.Issued entry)
    (subject : ∀ subject, reader = .cached subject → subject = entry.subject) :
    (discipline rt).Spec me (entry.observedAt reader now) R fun observed s => R s ∧
      Observed.Backed s.cells entry reader me now observed := by
  have known : ∀ s, R s → s.Known entry := fun s held =>
    have ⟨cell, found, same, _⟩ := issued s held
    ⟨cell, found, same⟩
  refine .bind (currentAt_spec (M := fun value _ => value.state ≠ .pending) stable known subject
    (fun _ => .const _) fun s cell ok held found _ => not_pending_of_issued ok (issued s held) found)
    fun ⟨decision, expired⟩ => ?_
  cases expired with
  | true => exact .done fun s _ held => ⟨held.1, held.2.1 rfl⟩
  | false =>
      dsimp only
      cases state : decision.state with
      | pending => exact Discipline.Spec.never.pre fun s _ held => (held.2.2 rfl).2 rfl
      | stale => exact .done fun s _ held => ⟨held.1, decision, (held.2.2 rfl).1, state⟩
      | allowed => exact .done fun s _ held => ⟨held.1, decision, (held.2.2 rfl).1, state⟩
      | denied => exact .done fun s _ held => ⟨held.1, decision, (held.2.2 rfl).1, state⟩

end

def Installs (rt : Runtime) (me : Nat) (entry : Entry T) (next : EntrySnapshot P)
    (event : EntryEvent T P) (H : Gate T P → Prop) (s : Gate T P) : Prop :=
  (s.replaceCurrent entry next event).Invariant rt.config ∧
    (discipline rt).Guarantee me s (s.replaceCurrent entry next event) ∧
    H (s.replaceCurrent entry next event)

theorem Installs.of_neutral {next : EntrySnapshot P} {event : EntryEvent T P} {s : Gate T P}
    (stable : (discipline rt).Stable me R) (ok : s.Invariant rt.config) (held : R s)
    (step : NeutralStep rt.config s (s.replaceCurrent entry next event)) :
    Installs rt me entry next event R s :=
  ⟨step.invariant, fun other _ => step.rely other,
    stable _ _ ok step.invariant (step.rely me) held⟩

section

variable {next : EntrySnapshot P} {event : EntryEvent T P} {H : Gate T P → Prop}

theorem compareAndSwap_spec {previous : SnapshotArc P} (stable : (discipline rt).Stable me R)
    (loaded : ∀ s, R s → s.Loaded rt.config entry previous)
    (hit : ∀ s cell, s.Invariant rt.config → R s → s.cells entry.id = some cell →
      cell.entry = entry → cell.current.address = previous.address →
        previous.value = cell.current.value → Installs rt me entry next event H s) :
    (discipline rt).Spec me (entry.compareAndSwap previous next event) R fun changed s =>
      (changed.address = previous.address → H s) ∧
        (changed.address ≠ previous.address → R s ∧ s.Loaded rt.config entry changed) := by
  refine .act stable fun s choice changed after ok held ran => ?_
  obtain ⟨cell, found, same⟩ := (loaded s held).known
  simp only [Gate.compareAndSwap, found, Option.map_some, Option.some.injEq] at ran
  split at ran
  · rename_i unchanged
    obtain ⟨rfl, rfl⟩ := Prod.mk.injEq .. ▸ ran
    obtain ⟨invariant, promised, ended⟩ := hit s cell ok held found same unchanged
      ((loaded s held).value_eq ok found unchanged)
    exact ⟨invariant, promised, fun _ => ended, fun different => absurd unchanged different⟩
  · rename_i different
    obtain ⟨rfl, rfl⟩ := Prod.mk.injEq .. ▸ ran
    exact ⟨ok, fun other _ => (NeutralStep.refl ok).rely other,
      fun unchanged => absurd unchanged different, fun _ => ⟨held, ok.loaded found same⟩⟩

theorem compareExchange_spec {expected : EntryState} (stable : (discipline rt).Stable me R)
    (known : ∀ s, R s → s.Known entry)
    (hit : ∀ s cell, s.Invariant rt.config → R s → s.cells entry.id = some cell →
      cell.entry = entry → cell.state = expected → Installs rt me entry next event H s) :
    (discipline rt).Spec me (entry.compareExchange expected next event) R fun result s =>
      if result.isOk then H s else R s := by
  have stableLoaded : ∀ previous, (discipline rt).Stable me
      fun s => R s ∧ s.Loaded rt.config entry previous := fun previous =>
    stable.and (Lasting.loaded entry previous).stable
  refine .bind (load_spec stable known) fun previous => ?_
  refine .iterate stableLoaded fun previous => ?_
  split
  · exact .done fun s _ held => held.1
  · rename_i state
    rw [not_not] at state
    refine .bind (compareAndSwap_spec (H := H) (stableLoaded previous) (fun s held => held.2)
      fun s cell ok held found same _ value =>
        hit s cell ok held.1 found same ((congrArg EntrySnapshot.state value).symm.trans state))
      fun changed => ?_
    split
    · rename_i unchanged
      exact .done fun s _ held => held.1 unchanged
    · rename_i different
      exact .done fun s _ held => ⟨(held.2 different).1.1, (held.2 different).2⟩

end

theorem pendingOperation_spec (stable : (discipline rt).Stable me R)
    (known : ∀ s, R s → s.Known entry) :
    (discipline rt).Spec me entry.pendingOperation R fun pending s => R s ∧
      ∀ fetch, pending = some fetch → s.Fetched fetch ∧ fetch.entry = entry := by
  refine readAct stable fun s pending ok held viewed => ?_
  obtain ⟨cell, found, same⟩ := known s held
  rw [found, Option.map_some, Option.some.injEq] at viewed
  rintro fetch rfl
  obtain ⟨flight, flown, same_fetch, home, _⟩ := ok.slots.held _ cell fetch found viewed
  exact ⟨⟨flight, flown, same_fetch⟩, home.trans same⟩

theorem pendingIs_spec {fetch : PendingFetch T P} (stable : (discipline rt).Stable me R)
    (known : ∀ s, R s → s.Known entry) :
    (discipline rt).Spec me (entry.pendingIs fetch) R fun _ => R :=
  .bind (pendingOperation_spec stable known) fun _ => .done fun _ _ held => held.1

theorem refreshEligibleAt_spec {current : EntrySnapshot P} {now : Nat}
    (stable : (discipline rt).Stable me R) :
    (discipline rt).Spec me (entry.refreshEligibleAt current now) R fun eligible s =>
      (eligible = true → entry.inRefreshWindow current now = true) ∧ R s := by
  unfold refreshEligibleAt
  split
  · rename_i window
    refine .bind (readAct (M := fun _ _ => True) stable fun _ _ _ _ _ => trivial) fun notBefore => ?_
    exact .done fun _ _ held => ⟨fun _ => window, held.1⟩
  · exact .done fun _ _ held => ⟨nofun, held⟩

theorem refreshDueAt_spec {current : EntrySnapshot P} {now : Nat}
    (stable : (discipline rt).Stable me R) (known : ∀ s, R s → s.Known entry) :
    (discipline rt).Spec me (entry.refreshDueAt current now) R fun due s =>
      (due = true → entry.inRefreshWindow current now = true) ∧ R s := by
  refine .bind (refreshEligibleAt_spec stable) fun eligible => ?_
  split
  · rename_i chosen
    refine .given fun window => ?_
    exact .bind (pendingOperation_spec stable known) fun _ =>
      .done fun _ _ held => ⟨fun _ => window chosen, held.1⟩
  · exact .done fun _ _ held => ⟨nofun, held.2⟩

theorem abortPending_spec {G : Gate T P → Prop} (stable : (discipline rt).Stable me R)
    (known : ∀ s, R s → s.Known entry) (stableEmptied : (discipline rt).Stable me G)
    (emptied : ∀ s cell, s.Invariant rt.config → R s → s.cells entry.id = some cell →
      cell.pending = none → G s) :
    (discipline rt).Spec me entry.abortPending R fun _ => G := by
  refine .bind (M := fun taken s => G s ∧ ∀ fetch, taken = some fetch →
    ∃ flight, s.flights fetch.generation = some flight ∧ flight.taken = true) ?_ fun taken => ?_
  · refine (neutralAct stable fun s choice taken after ok held ran =>
      (?_ : _ ∧ (∃ cell, after.cells entry.id = some cell ∧ cell.pending = none) ∧
        ∀ fetch, taken = some fetch →
          ∃ flight, after.flights fetch.generation = some flight ∧ flight.taken = true)).post
      fun taken s ok held => ?_
    · obtain ⟨cell, found, same⟩ := known s held
      rw [found, Option.map_some, Option.some.injEq] at ran
      cases pending : cell.pending with
      | none =>
          simp only [pending] at ran
          obtain ⟨rfl, rfl⟩ := Prod.mk.injEq .. ▸ ran
          refine ⟨.emptyAgain ok found pending, ⟨{ cell with pending := none }, ?_, rfl⟩, nofun⟩
          rw [Gate.updateCell_cells, Function.update_self, found, Option.map_some]
      | some fetch =>
          simp only [pending] at ran
          obtain ⟨rfl, rfl⟩ := Prod.mk.injEq .. ▸ ran
          obtain ⟨flight, flown, _⟩ := ok.slots.held _ cell fetch found pending
          refine ⟨.takePending ok found pending, ⟨{ cell with pending := none }, ?_, rfl⟩, ?_⟩
          · change Function.update s.cells entry.id ((s.cells entry.id).map _) entry.id = _
            rw [Function.update_self, found, Option.map_some]
          · rintro fetch' same_fetch
            obtain rfl := Option.some.inj same_fetch
            refine ⟨{ flight with taken := true }, ?_, rfl⟩
            change Function.update s.flights _ ((s.flights _).map _) _ = _
            rw [Function.update_self, flown, Option.map_some]
    · obtain ⟨held, ⟨cell, found, empty⟩, taken⟩ := held
      exact ⟨emptied s cell ok held found empty, taken⟩
  · cases taken with
    | none => exact .done fun s _ held => held.1
    | some fetch =>
        have stableTaken : (discipline rt).Stable me fun s : Gate T P =>
            ∃ flight, s.flights fetch.generation = some flight ∧ flight.taken = true := by
          rintro before after _ _ rely ⟨flight, flown, taken⟩
          obtain ⟨flight', flown', grows⟩ := rely.flights _ flight flown
          exact ⟨flight', flown', grows.taken taken⟩
        refine ((neutralAct (M := fun _ _ => True) (stableEmptied.and stableTaken)
          fun s choice result after ok held ran => ⟨?_, trivial⟩).weaken
            (fun s _ held => ⟨held.1, held.2 fetch rfl⟩) fun _ _ _ held => held.1.1)
        obtain ⟨_, rfl⟩ := Prod.mk.injEq .. ▸ Option.some.inj ran
        refine .abort ok fun flight flown => ?_
        obtain ⟨flight', flown', taken⟩ := held.2
        obtain rfl : flight = flight' := Option.some.inj (flown.symm.trans flown')
        exact taken

theorem invalidate_spec {F G : Gate T P → Prop} (stable : (discipline rt).Stable me R)
    (known : ∀ s, R s → s.Known entry) (stableStaled : (discipline rt).Stable me F)
    (staled : ∀ s, s.Invariant rt.config → R s → s.Stale entry.id → F s)
    (knownStaled : ∀ s, F s → s.Known entry) (stableEmptied : (discipline rt).Stable me G)
    (emptied : ∀ s cell, s.Invariant rt.config → F s → s.cells entry.id = some cell →
      cell.pending = none → G s) :
    (discipline rt).Spec me entry.invalidate R fun _ => G := by
  have stableLoaded : ∀ previous, (discipline rt).Stable me
      fun s => R s ∧ s.Loaded rt.config entry previous := fun previous =>
    stable.and (Lasting.loaded entry previous).stable
  refine .bind (load_spec stable known) fun previous => ?_
  refine .bind (M := fun _ => F) (.iterate stableLoaded fun previous => ?_) fun _ =>
    abortPending_spec stableStaled knownStaled stableEmptied emptied
  refine .bind (compareAndSwap_spec (H := F) (stableLoaded previous) (fun s held => held.2)
    fun s cell ok held found same unchanged value => ?_) fun changed => ?_
  · have cellOk := ok.cells _ cell found
    have stale : previous.value.stale.state = .stale :=
      EntrySnapshot.stale_state (value ▸ cellOk.word_lt)
    have step : NeutralStep rt.config s
        (s.replaceCurrent entry previous.value.stale .invalidated) := by
      refine .replaceStale ok found rfl rfl ?_ stale trivial trivial
      rw [value, cellOk.value]
      rfl
    have held' := stable _ _ ok step.invariant (step.rely me) held.1
    refine ⟨step.invariant, fun other _ => step.rely other, staled _ step.invariant held' ?_⟩
    refine ⟨cell.replace previous.value.stale .invalidated, ?_, stale⟩
    change Function.update s.cells entry.id ((s.cells entry.id).map _) entry.id = _
    rw [Function.update_self, found, Option.map_some]
  · split
    · rename_i unchanged
      exact .done fun s _ held => held.1 unchanged
    · rename_i different
      exact .done fun s _ held => ⟨(held.2 different).1.1, (held.2 different).2⟩

theorem invalidate_keeps (stable : (discipline rt).Stable me R) (known : ∀ s, R s → s.Known entry) :
    (discipline rt).Spec me entry.invalidate R fun _ => R :=
  invalidate_spec stable known stable (fun _ _ held _ => held) known stable fun _ _ _ held _ _ => held

end Entry

end PolicyGate
