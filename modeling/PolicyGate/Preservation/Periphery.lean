import PolicyGate.Preservation.Cells

namespace PolicyGate

open Data

variable {T P : Type} {config : PolicyGateConfig} {s after : Gate T P}

/-- The step leaves entries, lookups, the map, its copies and the turns as they are. -/
structure SameCore (before after : Gate T P) : Prop where
  cells : after.cells = before.cells
  flights : after.flights = before.flights
  subjects : after.subjects = before.subjects
  refreshing : after.refreshing = before.refreshing
  copies : after.copies = before.copies

theorem SameCore.advance (core : SameCore s after) (clock : s.clock ≤ after.clock)
    (opened : s.watch.opened ≤ after.watch.opened)
    (reached : s.watch.reached ≤ after.watch.reached)
    (published : s.publish.generation ≤ after.publish.generation) : Advance s after := by
  refine .of_related clock opened reached published ?_ ?_ fun _ held _ => core.subjects ▸ held
  · rw [core.cells]
    exact .refl fun i cell _ => .refl i cell
  · rw [core.flights]
    exact .refl fun i flight _ => .refl i flight

theorem SameCore.stageOf (core : SameCore s after) (generation : Nat) :
    after.stageOf generation = s.stageOf generation := by
  rw [Gate.stageOf, Gate.stageOf, core.flights]

theorem SameCore.stale (core : SameCore s after) {id : Nat} (stale : s.Stale id) :
    after.Stale id := by
  obtain ⟨cell, found, isStale⟩ := stale
  exact ⟨cell, core.cells ▸ found, isStale⟩

theorem SameCore.rely {me : Nat} (core : SameCore s after) (advance : Advance s after)
    (publish : s.publish.lock = some me → after.publish.lock = some me ∧
      after.publish.generation = s.publish.generation ∧ after.snapshot = s.snapshot ∧
        (s.watch.connected = true → after.watch.connected = true))
    (watch : me = 0 → after.watch = s.watch ∧ after.stream.isSome = s.stream.isSome) :
    Rely me s after where
  toAdvance := advance
  turn held := ⟨core.refreshing.trans held, .of_cells_eq core.cells⟩
  copies _ member _ := core.copies ▸ member
  owned generation _ _ := by rw [core.stageOf]
  watch := watch
  publish := publish
  subjects _ := ⟨core.subjects, fun _ => core.stale⟩

variable [DecidableEq T]

theorem Gate.Agreement.of_core (agreement : s.Agreement) (core : SameCore s after)
    (authority : after.authority = s.authority) (stream : after.stream = s.stream)
    (applying : after.watch.applying = s.watch.applying) : after.Agreement := by
  have due : ∀ subject, after.due subject = s.due subject := fun subject => by
    rw [Gate.due, Gate.due, Gate.changes, Gate.changes, stream, applying]
  refine agreement.transfer (.of_related ?_) (fun subject change last => ?_)
    fun id cell found held quiet => .inl ⟨cell, core.cells ▸ found, core.subjects ▸ held, rfl, rfl,
      due _ ▸ quiet, by rw [authority]⟩
  · rw [core.flights]
    exact .refl fun _ _ _ => ⟨rfl, rfl⟩
  · rw [authority]
    exact agreement.emitted subject change (due subject ▸ last)

theorem NeutralStep.shapeDirty (ok : s.Invariant config) (dirty : Bool) :
    NeutralStep config s { s with shapeDirty := dirty } := by
  have core : SameCore s { s with shapeDirty := dirty } := ⟨rfl, rfl, rfl, rfl, rfl⟩
  have advance := core.advance le_rfl le_rfl le_rfl le_rfl
  exact ⟨{ ok with agreement := fun streaming honest =>
      (ok.agreement streaming honest).of_core core rfl rfl rfl }, fun _ =>
    core.rely advance (fun held => ⟨held, rfl, rfl, fun connected => connected⟩) fun _ => ⟨rfl, rfl⟩⟩

theorem NeutralStep.publish (ok : s.Invariant config) {publish : PublishState}
    (lock : publish.lock = s.publish.lock ∨ s.publish.lock = none)
    (generation : publish.generation = s.publish.generation) :
    NeutralStep config s { s with publish } := by
  have core : SameCore s { s with publish } := ⟨rfl, rfl, rfl, rfl, rfl⟩
  have advance := core.advance le_rfl le_rfl le_rfl generation.ge
  refine ⟨{ ok with
      copies := generation ▸ ok.copies
      agreement := fun streaming honest =>
        (ok.agreement streaming honest).of_core core rfl rfl rfl }, fun me =>
    core.rely advance (fun held => ⟨?_, generation, rfl, fun connected => connected⟩)
      fun _ => ⟨rfl, rfl⟩⟩
  rcases lock with same | free
  · exact same.trans held
  · rw [free] at held
    cases held

theorem GuardedStep.of_publish {me : Nat} (ok : after.Invariant config) (core : SameCore s after)
    (advance : Advance s after) (watch : after.watch = s.watch) (stream : after.stream = s.stream)
    (locked : s.publish.lock = some me) : GuardedStep config me s after where
  invariant := ok
  guarded :=
    { toAdvance := advance, owned := fun generation _ _ => by rw [core.stageOf]
      watch := fun _ => ⟨watch, by rw [stream]⟩, copies := fun _ member _ => core.copies ▸ member }
  rely other different := core.rely advance
    (fun theirs => absurd (Option.some.inj (locked.symm.trans theirs)).symm different)
    fun _ => ⟨watch, by rw [stream]⟩

/-- From here on no copy made so far is published. -/
theorem GuardedStep.bumpGeneration {me : Nat} (ok : s.Invariant config)
    (locked : s.publish.lock = some me) : GuardedStep config me s
      { s with publish := { s.publish with generation := s.publish.generation + 1 } } := by
  set after :=
    { s with publish := { s.publish with generation := s.publish.generation + 1 } }
  have core : SameCore s after := ⟨rfl, rfl, rfl, rfl, rfl⟩
  refine .of_publish { ok with
      copies := ⟨fun copy member => (ok.copies.bounded copy member).trans (Nat.le_succ _),
        fun _ _ copy member same => ?_, ok.copies.stored⟩
      agreement := fun streaming honest =>
        (ok.agreement streaming honest).of_core core rfl rfl rfl } core
    (core.advance le_rfl le_rfl le_rfl (Nat.le_succ _)) rfl rfl locked
  have bounded := ok.copies.bounded copy member
  change copy.generation = s.publish.generation + 1 at same
  omega

theorem NeutralStep.copy {me generation : Nat} (ok : s.Invariant config)
    (claimed : generation ≤ s.publish.generation) : NeutralStep config s
      { s with copies := { thread := me, generation, era := s.watch.era } :: s.copies } := by
  set after := { s with copies := { thread := me, generation, era := s.watch.era } :: s.copies }
  have same : SameCore s { s with shapeDirty := s.shapeDirty } := ⟨rfl, rfl, rfl, rfl, rfl⟩
  have advance : Advance s after := { same.advance le_rfl le_rfl le_rfl le_rfl with }
  refine ⟨{ ok with
      copies := ⟨fun copy member => ?_, fun orderly connected copy member same => ?_,
        ok.copies.stored⟩
      agreement := fun streaming honest =>
        have agreement := ok.agreement streaming honest
        ⟨agreement.emitted, fun id cell found held quiet =>
          have agrees := agreement.entries id cell found held quiet
          ⟨agrees.decided, agrees.answered⟩⟩ }, fun other => ?_⟩
  · rcases List.mem_cons.mp member with rfl | older
    · exact claimed
    · exact ok.copies.bounded copy older
  · rcases List.mem_cons.mp member with rfl | older
    · rfl
    · exact ok.copies.fresh orderly connected copy older same
  · exact
      { toAdvance := advance
        owned := fun _ _ _ => .rfl
        watch := fun _ => ⟨rfl, rfl⟩
        turn := fun held => ⟨held, .of_cells_eq rfl⟩
        copies := fun _ member _ => List.mem_cons_of_mem _ member
        publish := fun held => ⟨held, rfl, rfl, fun connected => connected⟩
        subjects := fun _ => ⟨rfl, fun _ stale => stale⟩ }

omit [DecidableEq T] in
theorem Beside.dropCopies {me : Nat} : Beside me s
    { s with copies := s.copies.filter fun copy => copy.thread ≠ me } := by
  have same : SameCore s { s with shapeDirty := s.shapeDirty } := ⟨rfl, rfl, rfl, rfl, rfl⟩
  have advance := same.advance le_rfl le_rfl le_rfl le_rfl
  exact { advance with owned := fun _ _ _ => .rfl, watch := fun _ => ⟨rfl, rfl⟩ }

theorem OwnStep.dropCopies {me : Nat} (ok : s.Invariant config) : OwnStep config me s
      { s with copies := s.copies.filter fun copy => copy.thread ≠ me } := by
  set after := { s with copies := s.copies.filter fun copy => copy.thread ≠ me }
  have same : SameCore s { s with shapeDirty := s.shapeDirty } := ⟨rfl, rfl, rfl, rfl, rfl⟩
  have advance : Advance s after := { same.advance le_rfl le_rfl le_rfl le_rfl with }
  refine ⟨{ ok with
      copies := ⟨fun copy member => ok.copies.bounded copy (List.mem_of_mem_filter member),
        fun orderly connected copy member =>
          ok.copies.fresh orderly connected copy (List.mem_of_mem_filter member),
        ok.copies.stored⟩
      agreement := fun streaming honest =>
        have agreement := ok.agreement streaming honest
        ⟨agreement.emitted, fun id cell found held quiet =>
          have agrees := agreement.entries id cell found held quiet
          ⟨agrees.decided, agrees.answered⟩⟩ }, advance, fun other different => ?_⟩
  exact
    { toAdvance := advance
      owned := fun _ _ _ => .rfl
      watch := fun _ => ⟨rfl, rfl⟩
      turn := fun held => ⟨held, .of_cells_eq rfl⟩
      copies := fun copy member theirs =>
        List.mem_filter.mpr ⟨member, by simpa [theirs] using different⟩
      publish := fun held => ⟨held, rfl, rfl, fun connected => connected⟩
      subjects := fun _ => ⟨rfl, fun _ stale => stale⟩ }

theorem GuardedStep.unlockPublish {me : Nat} (ok : s.Invariant config)
    (locked : s.publish.lock = some me) :
    GuardedStep config me s { s with publish := { s.publish with lock := none } } := by
  have core : SameCore s { s with publish := { s.publish with lock := none } } := ⟨rfl, rfl, rfl, rfl, rfl⟩
  exact .of_publish { ok with agreement := fun streaming honest =>
      (ok.agreement streaming honest).of_core core rfl rfl rfl } core
    (core.advance le_rfl le_rfl le_rfl le_rfl) rfl rfl locked

theorem GuardedStep.storeSnapshot {me : Nat} {snapshot : List (T × Entry T)}
    (ok : s.Invariant config) (locked : s.publish.lock = some me)
    (known : ∀ slot ∈ snapshot, ∃ cell, s.cells slot.2.id = some cell ∧ cell.entry = slot.2 ∧
      slot.1 = slot.2.subject)
    (empty : s.watch.connected = false → snapshot = [])
    (stored : s.watch.orderly = true → s.watch.connected = true → ∀ slot ∈ snapshot,
      ∃ cell, s.cells slot.2.id = some cell ∧ cell.session = s.watch.era) :
    GuardedStep config me s { s with snapshot } := by
  have core : SameCore s { s with snapshot } := ⟨rfl, rfl, rfl, rfl, rfl⟩
  exact .of_publish { ok with
      snapshot := ⟨known, empty⟩
      copies := ⟨ok.copies.bounded, ok.copies.fresh, stored⟩
      agreement := fun streaming honest =>
        (ok.agreement streaming honest).of_core core rfl rfl rfl } core
    (core.advance le_rfl le_rfl le_rfl le_rfl) rfl rfl locked

theorem NeutralStep.report {me : Nat} {outcome : Outcome T P} (ok : s.Invariant config)
    (backed : outcome.Backed s.cells me) : NeutralStep config s
      { s with outcomes := Function.update s.outcomes me (some outcome) } := by
  have core : SameCore s { s with outcomes := Function.update s.outcomes me (some outcome) } :=
    ⟨rfl, rfl, rfl, rfl, rfl⟩
  refine ⟨{ ok with
      agreement := fun streaming honest => (ok.agreement streaming honest).of_core core rfl rfl rfl
      outcomes := fun thread outcome' returned => ?_ }, fun _ =>
    core.rely (core.advance le_rfl le_rfl le_rfl le_rfl)
      (fun held => ⟨held, rfl, rfl, fun connected => connected⟩) fun _ => ⟨rfl, rfl⟩⟩
  by_cases same : thread = me
  · subst same
    change Function.update s.outcomes _ _ _ = _ at returned
    rw [Function.update_self, Option.some.injEq] at returned
    exact returned ▸ backed
  · change Function.update s.outcomes _ _ _ = _ at returned
    rw [Function.update_of_ne same] at returned
    exact ok.outcomes thread outcome' returned

theorem NeutralStep.advance (ok : s.Invariant config) (duration : Nat) :
    NeutralStep config s { s with clock := s.clock + duration } := by
  have core : SameCore s { s with clock := s.clock + duration } := ⟨rfl, rfl, rfl, rfl, rfl⟩
  have advance := core.advance (Nat.le_add_right _ _) le_rfl le_rfl le_rfl
  exact ⟨{ ok with
      cells := fun id cell found => (ok.cells id cell found).mono advance.toExtends
      agreement := fun streaming honest => (ok.agreement streaming honest).of_core core rfl rfl rfl },
    fun _ => core.rely advance (fun held => ⟨held, rfl, rfl, fun connected => connected⟩)
      fun _ => ⟨rfl, rfl⟩⟩

theorem Gate.due_emit {items : List (StreamItem T)} (open_stream : s.stream = some items)
    (item : StreamItem T) (subject : T) : (s.emit item).due subject =
      s.due subject ++ item.decisionChange.toList.filter fun change => change.subject = subject := by
  unfold Gate.due Gate.changes Gate.emit
  rw [open_stream]
  simp only [Option.map_some, Option.getD_some, List.filterMap_append, List.filterMap_cons,
    List.filterMap_nil, List.filter_append, List.append_assoc]
  cases item.decisionChange <;> rfl

theorem NeutralStep.emit {item : StreamItem T} (ok : s.Invariant config)
    (noChange : item.decisionChange = none) : NeutralStep config s (s.emit item) := by
  have core : SameCore s (s.emit item) := ⟨rfl, rfl, rfl, rfl, rfl⟩
  have streaming : (s.emit item).stream.isSome = s.stream.isSome := Option.isSome_map
  refine ⟨{ ok with
      session := ?_
      agreement := fun isOpen honest => ?_ }, fun _ =>
    core.rely (core.advance le_rfl le_rfl le_rfl le_rfl)
      (fun held => ⟨held, rfl, rfl, fun connected => connected⟩) fun _ => ⟨rfl, streaming⟩⟩
  · rw [streaming]
    exact ok.session
  · rw [streaming] at isOpen
    have agreement := ok.agreement isOpen honest
    obtain ⟨items, open_stream⟩ := Option.isSome_iff_exists.mp isOpen
    have due : ∀ subject, (s.emit item).due subject = s.due subject := fun subject => by
      rw [Gate.due_emit open_stream, noChange]
      exact List.append_nil _
    exact agreement.transfer (.of_related (.refl fun _ _ _ => ⟨rfl, rfl⟩))
      (fun subject change last => agreement.emitted subject change (due subject ▸ last))
      fun id cell found held quiet => .inl ⟨cell, found, held, rfl, rfl, due _ ▸ quiet, rfl⟩

theorem NeutralStep.decide {change : DecisionChange T} (ok : s.Invariant config) :
    NeutralStep config s { s.emit (.change change) with
      authority := Function.update s.authority change.subject change.decision } := by
  set after := { s.emit (.change change) with
      authority := Function.update s.authority change.subject change.decision }
  have core : SameCore s after := ⟨rfl, rfl, rfl, rfl, rfl⟩
  have streaming : after.stream.isSome = s.stream.isSome := Option.isSome_map
  refine ⟨{ ok with
      session := ?_
      agreement := fun isOpen honest => ?_ }, fun _ =>
    core.rely (core.advance le_rfl le_rfl le_rfl le_rfl)
      (fun held => ⟨held, rfl, rfl, fun connected => connected⟩) fun _ => ⟨rfl, streaming⟩⟩
  · rw [streaming]
    exact ok.session
  · rw [streaming] at isOpen
    have agreement := ok.agreement isOpen honest
    obtain ⟨items, open_stream⟩ := Option.isSome_iff_exists.mp isOpen
    have due : ∀ subject, after.due subject =
        s.due subject ++ if change.subject = subject then [change] else [] := by
      intro subject
      refine (Gate.due_emit open_stream (.change change) subject).trans ?_
      simp only [StreamItem.decisionChange, Option.toList_some, List.filter_cons, List.filter_nil,
        decide_eq_true_eq]
    refine agreement.transfer (.of_related (.refl fun _ _ _ => ⟨rfl, rfl⟩)) ?_ ?_
    · intro subject last found
      rw [due] at found
      change Function.update s.authority _ _ _ = _
      by_cases concerned : change.subject = subject
      · subst concerned
        rw [if_pos rfl, List.getLast?_concat, Option.some.injEq] at found
        rw [Function.update_self, found]
      · rw [if_neg concerned, List.append_nil] at found
        rw [Function.update_of_ne (Ne.symm concerned)]
        exact agreement.emitted subject last found
    · intro id cell found held quiet
      rw [due, List.append_eq_nil_iff] at quiet
      by_cases concerned : change.subject = cell.entry.subject
      · rw [if_pos concerned] at quiet
        cases quiet.2
      · exact .inl ⟨cell, found, held, rfl, rfl, quiet.1,
          Function.update_of_ne (Ne.symm concerned) _ _⟩

end PolicyGate
