import PolicyGate.Preservation.Queue

namespace PolicyGate

open Interleaving

variable {T P : Type} [DecidableEq T] {rt : Runtime} {me : Nat}

/-- Nothing that happens to the gate falsifies `R`. -/
abbrev Lasting (rt : Runtime) (R : Gate T P → Prop) : Prop := (discipline rt).Kept Extends R

/-- Nothing falsifies `R` but a step of thread `me` on a lookup in its hands. -/
abbrev Sheltered (rt : Runtime) (me : Nat) (R : Gate T P → Prop) : Prop :=
  (discipline rt).Kept (Beside me) R

section

variable {R L : Gate T P → Prop}

theorem Lasting.sheltered (lasting : Lasting rt R) : Sheltered rt me R :=
  lasting.mono fun _ _ beside => beside.toExtends

theorem Sheltered.guarded (sheltered : Sheltered rt me R) : (discipline rt).Kept (Guarded me) R :=
  sheltered.mono fun _ _ guarded => guarded.toBeside

theorem Sheltered.stable (sheltered : Sheltered rt me R) : (discipline rt).Stable me R :=
  sheltered.mono fun _ _ rely => rely.toBeside

theorem Lasting.stable (lasting : Lasting rt R) : (discipline rt).Stable me R :=
  lasting.sheltered.stable

end

namespace Gate

def Known (entry : Entry T) (s : Gate T P) : Prop :=
  ∃ cell, s.cells entry.id = some cell ∧ cell.entry = entry

/-- The entry held `arc` once; if that was a decision, its session may be looked up. -/
def Loaded (config : PolicyGateConfig) (entry : Entry T) (arc : SnapshotArc P) (s : Gate T P) :
    Prop :=
  ∃ cell, s.cells entry.id = some cell ∧ cell.entry = entry ∧
    arc.CapturedFrom config cell.entry cell.log ∧
    (arc.value.state.Authoritative → Permitted s.watch.reached cell.session)

def Permits (entry : Entry T) (s : Gate T P) : Prop :=
  ∃ cell, s.cells entry.id = some cell ∧ Permitted s.watch.reached cell.session

def Admissible (entry : Entry T) (s : Gate T P) : Prop := s.Permits entry ∨ s.Gone entry.id

def Issued (entry : Entry T) (s : Gate T P) : Prop :=
  ∃ cell, s.cells entry.id = some cell ∧ cell.entry = entry ∧ Admission.issued cell = true

def Fetched (fetch : PendingFetch T P) (s : Gate T P) : Prop :=
  ∃ flight, s.flights fetch.generation = some flight ∧ flight.fetch = fetch

def At (generation : Nat) (stage : Stage) (s : Gate T P) : Prop :=
  s.stageOf generation = some stage

end Gate

theorem Lasting.known (entry : Entry T) : Lasting rt (Gate.Known (P := P) entry) := by
  rintro before after _ _ extend ⟨cell, found, same⟩
  obtain ⟨cell', found', grows⟩ := extend.cells _ cell found
  exact ⟨cell', found', grows.entry.trans same⟩

theorem Lasting.loaded (entry : Entry T) (arc : SnapshotArc P) :
    Lasting rt (Gate.Loaded rt.config entry arc) := by
  rintro before after _ _ extend ⟨cell, found, same, captured, permitted⟩
  obtain ⟨cell', found', grows⟩ := extend.cells _ cell found
  refine ⟨cell', found', grows.entry.trans same, ?_, fun authoritative => ?_⟩
  · rw [grows.entry]
    exact captured.mono grows.log
  · rw [grows.session]
    exact (permitted authoritative).mono extend.reached

theorem Lasting.permits (entry : Entry T) : Lasting rt (Gate.Permits (P := P) entry) := by
  rintro before after _ _ extend ⟨cell, found, permitted⟩
  obtain ⟨cell', found', grows⟩ := extend.cells _ cell found
  exact ⟨cell', found', grows.session ▸ permitted.mono extend.reached⟩

theorem Lasting.admissible (entry : Entry T) : Lasting rt (Gate.Admissible (P := P) entry) :=
  .or (Lasting.permits entry) fun _ _ _ _ extend => extend.gone entry.id

theorem Lasting.issued (entry : Entry T) : Lasting rt (Gate.Issued (P := P) entry) := by
  rintro before after _ _ extend ⟨cell, found, same, issued⟩
  obtain ⟨cell', found', grows⟩ := extend.cells _ cell found
  refine ⟨cell', found', grows.entry.trans same, ?_⟩
  unfold Admission.issued at issued ⊢
  rw [grows.entry]
  obtain ⟨event, member, observed⟩ := List.any_eq_true.mp issued
  exact List.any_eq_true.mpr ⟨event, grows.log.subset member, observed⟩

theorem Lasting.fetched (fetch : PendingFetch T P) : Lasting rt (Gate.Fetched fetch) := by
  rintro before after _ _ extend ⟨flight, flown, same⟩
  obtain ⟨flight', flown', grows⟩ := extend.flights _ flight flown
  exact ⟨flight', flown', grows.fetch.trans same⟩

theorem Lasting.clock (now : Nat) : Lasting rt fun s : Gate T P => now ≤ s.clock :=
  fun _ _ _ _ extend earlier => earlier.trans extend.clock

theorem Lasting.dueBy (fetch : PendingFetch T P) :
    Lasting rt fun s : Gate T P => fetch.DueBy s.clock :=
  fun _ _ _ _ extend due current refresh => (due current refresh).mono extend.clock

theorem Lasting.observation (entry : Entry T) (reader : Reader T) (thread now : Nat)
    (snapshot : EntrySnapshot P) :
    Lasting rt fun s : Gate T P => Observation s.cells entry reader thread now snapshot :=
  fun _ _ _ _ extend observation => observation.mono extend

/-- The thread's read found the entry expired at `now`. -/
def ReadExpired (cells : Nat → Option (EntryCell T P)) (entry : Entry T) (reader : Reader T)
    (thread now : Nat) : Prop :=
  ∃ cell, cells entry.id = some cell ∧ cell.entry = entry ∧
    (.latched reader now ∈ cell.log ∨ ∃ snapshot, .observed reader thread now snapshot ∈ cell.log ∧
      entry.isExpiredAt snapshot.word now = true)

omit [DecidableEq T] in
theorem ReadExpired.mono {entry : Entry T} {reader : Reader T} {thread now : Nat}
    {before after : Gate T P} (extend : Extends before after)
    (read : ReadExpired before.cells entry reader thread now) :
    ReadExpired after.cells entry reader thread now := by
  obtain ⟨cell, found, same, noted⟩ := read
  obtain ⟨cell', found', grows⟩ := extend.cells _ cell found
  refine ⟨cell', found', grows.entry.trans same, ?_⟩
  rcases noted with latched | ⟨snapshot, member, expired⟩
  · exact .inl (grows.log.subset latched)
  · exact .inr ⟨snapshot, grows.log.subset member, expired⟩

theorem Lasting.readExpired (entry : Entry T) (reader : Reader T) (thread now : Nat) :
    Lasting rt fun s : Gate T P => ReadExpired s.cells entry reader thread now :=
  fun _ _ _ _ extend read => read.mono extend

theorem Lasting.backed (thread : Nat) (outcome : Outcome T P) :
    Lasting rt fun s : Gate T P => outcome.Backed s.cells thread :=
  fun _ _ _ _ extend backed => backed.mono extend

theorem Sheltered.resting (kept : Option Nat) :
    Sheltered rt me fun s : Gate T P => s.RestingBut me kept :=
  fun _ _ _ _ beside resting => beside.resting resting

theorem Sheltered.at {stage : Stage} (generation : Nat) (owned : stage.owner = some me) :
    Sheltered rt me fun s : Gate T P => s.At generation stage :=
  fun _ _ _ _ beside found => (beside.owned generation stage owned).mp found

omit [DecidableEq T] in
theorem Gate.Loaded.known {config : PolicyGateConfig} {entry : Entry T} {arc : SnapshotArc P}
    {s : Gate T P} (loaded : s.Loaded config entry arc) : s.Known entry := by
  obtain ⟨cell, found, same, _⟩ := loaded
  exact ⟨cell, found, same⟩

theorem Gate.Invariant.loaded {s : Gate T P} {cell : EntryCell T P} {entry : Entry T}
    {config : PolicyGateConfig} (ok : s.Invariant config) (found : s.cells entry.id = some cell)
    (same : cell.entry = entry) : s.Loaded config entry cell.current :=
  ⟨cell, found, same, (ok.cells _ cell found).toSound.captured, (ok.cells _ cell found).permitted⟩

theorem Gate.Loaded.value_eq {s : Gate T P} {cell : EntryCell T P} {entry : Entry T}
    {config : PolicyGateConfig} {arc : SnapshotArc P} (loaded : s.Loaded config entry arc)
    (ok : s.Invariant config) (found : s.cells entry.id = some cell)
    (address : cell.current.address = arc.address) : arc.value = cell.current.value := by
  obtain ⟨cell', found', _, captured, _⟩ := loaded
  obtain rfl : cell = cell' := Option.some.inj (found.symm.trans found')
  have cellOk := ok.cells _ cell found
  rw [captured.value_eq (cellOk.address.symm.trans address), cellOk.value]

section

variable {β : Type} {action : Pick → Gate T P → Option (β × Gate T P)} {R L : Gate T P → Prop}
  {M : β → Gate T P → Prop}

theorem neutralAct (stable : (discipline rt).Stable me R)
    (runs : ∀ s choice result after, s.Invariant rt.config → R s →
      action ⟨me, choice⟩ s = some (result, after) → NeutralStep rt.config s after ∧ M result after) :
    (discipline rt).Spec me (.act action) R fun result s => R s ∧ M result s := by
  refine .neutral stable fun s choice result after ok held ran => ?_
  obtain ⟨step, ended⟩ := runs s choice result after ok held ran
  exact ⟨step.invariant, fun other _ => step.rely other, step.rely me, ended⟩

theorem guardedAct (kept : (discipline rt).Kept (Guarded me) R) (stable : (discipline rt).Stable me L)
    (runs : ∀ s choice result after, s.Invariant rt.config → R s ∧ L s →
      action ⟨me, choice⟩ s = some (result, after) →
        GuardedStep rt.config me s after ∧ M result after) :
    (discipline rt).Spec me (.act action) (fun s => R s ∧ L s) fun result s => R s ∧ M result s := by
  refine .within (kept.mono fun _ _ rely => rely.toGuarded) kept stable
    fun s choice result after ok held ran => ?_
  obtain ⟨step, ended⟩ := runs s choice result after ok held ran
  exact ⟨step.invariant, step.rely, step.guarded, ended⟩

theorem ownAct (lasting : Lasting rt R) (stable : (discipline rt).Stable me L)
    (runs : ∀ s choice result after, s.Invariant rt.config → R s ∧ L s →
      action ⟨me, choice⟩ s = some (result, after) →
        OwnStep rt.config me s after ∧ M result after) :
    (discipline rt).Spec me (.act action) (fun s => R s ∧ L s) fun result s => R s ∧ M result s := by
  refine .within lasting.stable lasting stable fun s choice result after ok held ran => ?_
  obtain ⟨step, ended⟩ := runs s choice result after ok held ran
  exact ⟨step.invariant, step.rely, step.advance.toExtends, ended⟩

theorem watcherAct {L : Gate T P → Prop} (stable : (discipline rt).Stable 0 L)
    (runs : ∀ s choice result after, s.Invariant rt.config → L s →
      action ⟨0, choice⟩ s = some (result, after) →
        WatcherStep rt.config s after ∧ M result after) :
    (discipline rt).Spec 0 (.act action) L M := by
  refine .act stable fun s choice result after ok held ran => ?_
  obtain ⟨step, ended⟩ := runs s choice result after ok held ran
  exact ⟨step.invariant, step.rely, ended⟩

theorem stepAct (stable : (discipline rt).Stable me L)
    (runs : ∀ s choice result after, s.Invariant rt.config → L s →
      action ⟨me, choice⟩ s = some (result, after) →
        OwnStep rt.config me s after ∧ M result after) :
    (discipline rt).Spec me (.act action) L M := by
  refine .act stable fun s choice result after ok held ran => ?_
  obtain ⟨step, ended⟩ := runs s choice result after ok held ran
  exact ⟨step.invariant, step.rely, ended⟩

theorem idleAct (stable : (discipline rt).Stable me R)
    (idle : ∀ s choice result after, action ⟨me, choice⟩ s = some (result, after) → after = s) :
    (discipline rt).Spec me (.act action) R fun _ => R := by
  refine (neutralAct (M := fun _ _ => True) stable fun s choice result after ok held ran =>
    ?_).post fun _ _ _ held => held.1
  obtain rfl := idle s choice result after ran
  exact ⟨.refl ok, trivial⟩

theorem idleAwait (stable : (discipline rt).Stable me R)
    (resting : ∀ s, R s → s.Resting me)
    (idle : ∀ s choice result after, action ⟨me, choice⟩ s = some (result, after) → after = s) :
    (discipline rt).Spec me (.await action) R fun _ => R := by
  refine .await stable (fun s _ held => resting s held) fun s choice result after ok held ran => ?_
  obtain rfl := idle s choice result after ran
  exact ⟨ok, fun other _ => (NeutralStep.refl ok).rely other, held⟩

theorem readAct {view : Gate T P → Option β} (stable : (discipline rt).Stable me R)
    (viewed : ∀ s result, s.Invariant rt.config → R s → view s = some result → M result s) :
    (discipline rt).Spec me (.read view) R fun result s => R s ∧ M result s := by
  refine neutralAct stable fun s choice result after ok held ran => ?_
  simp only [Option.map_eq_some_iff, Prod.mk.injEq] at ran
  obtain ⟨value, found, rfl, rfl⟩ := ran
  exact ⟨.refl ok, viewed _ _ ok held found⟩

end

end PolicyGate
