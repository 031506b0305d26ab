import PolicyGate.Specs.Entry

namespace PolicyGate

open Interleaving

variable {T P : Type} [DecidableEq T] {rt : Runtime} {me : Nat} {R : Gate T P → Prop}

namespace Gate

/-- The thread's critical section has invalidated all it took out of the map, except for `last`. -/
def Locked (me : Nat) (last : Option (Entry T)) (s : Gate T P) : Prop :=
  s.subjects.lock = some me ∧ ∀ entry ∈ s.subjects.limbo, some entry = last ∨ s.Dead entry.id

end Gate

theorem stable_locked (last : Option (Entry T)) :
    (discipline rt).Stable me (Gate.Locked (P := P) me last) := by
  rintro before after _ _ rely ⟨locked, dead⟩
  obtain ⟨same, stale⟩ := rely.subjects locked
  refine ⟨by rw [same, locked], fun entry member => ?_⟩
  rw [same] at member
  exact (dead entry member).imp_right fun died =>
    have ⟨cell, found, isDead⟩ := died
    rely.dead entry.id died (stale entry.id ⟨cell, found, isDead.1⟩)

theorem stable_locked_stale (last : Option (Entry T)) (id : Nat) :
    (discipline rt).Stable me fun s : Gate T P => s.Locked me last ∧ s.Stale id :=
  fun before after ok ok' rely held =>
    ⟨stable_locked last before after ok ok' rely held.1, (rely.subjects held.1.1).2 id held.2⟩

theorem stable_locked_dead (last : Option (Entry T)) (id : Nat) :
    (discipline rt).Stable me fun s : Gate T P => s.Locked me last ∧ s.Dead id :=
  fun before after ok ok' rely held =>
    have ⟨cell, found, isDead⟩ := held.2
    ⟨stable_locked last before after ok ok' rely held.1,
      rely.dead id held.2 ((rely.subjects held.1.1).2 id ⟨cell, found, isDead.1⟩)⟩

namespace Entry

variable {entry : Entry T}

theorem invalidate_locked (stable : (discipline rt).Stable me R)
    (known : ∀ s, R s → s.Known entry) (last : Option (Entry T)) :
    (discipline rt).Spec me entry.invalidate (fun s => R s ∧ s.Locked me last)
      fun _ s => R s ∧ s.Locked me last ∧ s.Dead entry.id := by
  refine invalidate_spec (F := fun s => R s ∧ s.Locked me last ∧ s.Stale entry.id)
    (stable.and (stable_locked last)) (fun s held => known s held.1)
    (stable.and (stable_locked_stale last entry.id)) (fun s _ held stale => ⟨held.1, held.2, stale⟩)
    (fun s held => known s held.1) (stable.and (stable_locked_dead last entry.id))
    fun s cell _ held found empty => ?_
  obtain ⟨cell', found', stale⟩ := held.2.2
  obtain rfl : cell = cell' := Option.some.inj (found.symm.trans found')
  refine ⟨held.1, held.2.1, cell, found, stale, fun fetch pending => ?_⟩
  rw [empty] at pending
  cases pending

end Entry

namespace Subjects

theorem lock_spec (sheltered : Sheltered rt me R) :
    (discipline rt).Spec me lock R fun _ s => R s ∧ s.Locked me none := by
  refine (guardedAct sheltered.guarded (.const True) fun s choice result after ok held ran =>
    ?_).pre fun s _ held => ⟨held, trivial⟩
  cases free : s.subjects.lock with
  | some owner =>
      simp only [free] at ran
      cases ran
  | none =>
      simp only [free] at ran
      obtain ⟨_, rfl⟩ := Prod.mk.injEq .. ▸ Option.some.inj ran
      refine ⟨.lock ok free, rfl, fun entry member => ?_⟩
      change entry ∈ s.subjects.limbo at member
      rw [ok.map.unlocked free] at member
      cases member

theorem unlock_keeps (kept : (discipline rt).Kept (Guarded me) R) :
    (discipline rt).Spec me unlock (fun s => R s ∧ s.Locked me none) fun _ => R := by
  refine (guardedAct (M := fun _ _ => True) kept (stable_locked none)
    fun s choice result after ok held ran => ?_).post fun _ _ _ held => held.1
  obtain ⟨_, rfl⟩ := Prod.mk.injEq .. ▸ Option.some.inj ran
  exact ⟨.unlock ok held.2.1 fun entry member => (held.2.2 entry member).resolve_left nofun, trivial⟩

theorem unlock_spec (sheltered : Sheltered rt me R) :
    (discipline rt).Spec me unlock (fun s => R s ∧ s.Locked me none) fun _ => R :=
  unlock_keeps sheltered.guarded

theorem setDirty_spec {dirty : Bool} (stable : (discipline rt).Stable me R) :
    (discipline rt).Spec me (setDirty dirty) R fun _ => R := by
  refine (neutralAct (M := fun _ _ => True) stable fun s choice result after ok held ran =>
    ?_).post fun _ _ _ held => held.1
  obtain ⟨_, rfl⟩ := Prod.mk.injEq .. ▸ Option.some.inj ran
  exact ⟨.shapeDirty ok dirty, trivial⟩

def Taken (me : Nat) (taken : Option (Entry T)) (s : Gate T P) : Prop :=
  s.Locked me taken ∧ ∀ entry, taken = some entry → s.Known entry

theorem remove_step {s : Gate T P} {cache : Data.Lru T (SubjectSlot T)} {slot : T × SubjectSlot T}
    (ok : s.Invariant rt.config) (locked : s.Locked me none)
    (leaves : LeavesCache s.subjects.cache cache slot) :
    GuardedStep rt.config me s (s.updateSubjects fun map => map.remove cache slot.2.entry) ∧
      Taken me (some slot.2.entry) (s.updateSubjects fun map => map.remove cache slot.2.entry) := by
  refine ⟨.remove ok locked.1 leaves, ⟨locked.1, fun entry member => ?_⟩, fun entry same => ?_⟩
  · rcases List.mem_cons.mp member with rfl | old
    · exact .inl rfl
    · exact .inr ((locked.2 entry old).resolve_left nofun)
  · obtain rfl := Option.some.inj same
    obtain ⟨cell, found, entry, _⟩ := ok.map.slots slot leaves.member
    exact ⟨cell, found, entry⟩

theorem invalidateTaken_spec {entry : Entry T} (sheltered : Sheltered rt me R) :
    (discipline rt).Spec me entry.invalidate (fun s => R s ∧ Taken me (some entry) s)
      fun _ s => R s ∧ s.Locked me none := by
  refine (Entry.invalidate_locked (R := fun s => R s ∧ s.Known entry)
    (sheltered.stable.and (Lasting.known entry).stable) (fun s held => held.2) (some entry)).weaken
    (fun s _ held => ⟨⟨held.1, held.2.2 entry rfl⟩, held.2.1⟩) fun _ s _ held => ?_
  obtain ⟨⟨kept, _⟩, locked, died⟩ := held
  refine ⟨kept, locked.1, fun other member => .inr ?_⟩
  rcases locked.2 other member with same | dead
  · exact Option.some.inj same ▸ died
  · exact dead

theorem popIdle_spec {now : Nat} (sheltered : Sheltered rt me R) :
    (discipline rt).Spec me (popIdle rt now) (fun s => R s ∧ s.Locked me none)
      fun taken s => R s ∧ Taken me taken s := by
  refine guardedAct sheltered.guarded (stable_locked none) fun s choice taken after ok held ran => ?_
  have idle : some ((none : Option (Entry T)), s) = some (taken, after) →
      GuardedStep rt.config me s after ∧ Taken me taken after := by
    rintro same
    obtain ⟨rfl, rfl⟩ := Prod.mk.injEq .. ▸ Option.some.inj same
    exact ⟨(NeutralStep.refl ok).guarded, held.2, nofun⟩
  cases popped : s.subjects.cache.popLru with
  | none =>
      simp only [popped] at ran
      exact idle ran
  | some out =>
      obtain ⟨slot, cache⟩ := out
      simp only [popped] at ran
      split at ran
      · obtain ⟨rfl, rfl⟩ := Prod.mk.injEq .. ▸ Option.some.inj ran
        exact remove_step ok held.2 (.popLru popped)
      · exact idle ran

theorem evict_spec {now : Nat} (sheltered : Sheltered rt me R) :
    (discipline rt).Spec me (evict rt now) (fun s => R s ∧ s.Locked me none)
      fun _ s => R s ∧ s.Locked me none := by
  refine .iterate (fun _ => sheltered.stable.and (stable_locked none)) fun _ => ?_
  refine .bind (popIdle_spec sheltered) fun taken => ?_
  cases taken with
  | none => exact .done fun s _ held => ⟨held.1, held.2.1⟩
  | some entry =>
      refine .bind (invalidateTaken_spec sheltered) fun _ => ?_
      refine .bind (setDirty_spec (sheltered.stable.and (stable_locked none))) fun _ => ?_
      exact .done fun s _ held => held

/-- What a lookup of the subject's slot under the lock finds. -/
def Found (subject : T) (found : Option (Entry T)) (s : Gate T P) : Prop :=
  ∀ entry, found = some entry → s.Known entry ∧ entry.subject = subject

theorem lasting_found (subject : T) (found : Option (Entry T)) :
    Lasting rt (Found (P := P) subject found) :=
  .forall fun entry => .forall fun _ => (Lasting.known entry).and (.const _)

theorem found_of_peek {s : Gate T P} {subject : T} {slot : SubjectSlot T}
    (ok : s.Invariant rt.config) (peeked : s.subjects.cache.peek subject = some slot) :
    s.Known slot.entry ∧ slot.entry.subject = subject := by
  obtain ⟨cell, found, same, key, _⟩ :=
    ok.map.slots _ (s.subjects.cache.peek_eq_some_iff.mp peeked)
  exact ⟨⟨cell, found, same⟩, same ▸ key.symm⟩

theorem peek_spec {subject : T} (stable : (discipline rt).Stable me R) :
    (discipline rt).Spec me (peek subject) R fun found s => R s ∧ Found subject found s := by
  refine readAct stable fun s found ok held viewed => ?_
  obtain rfl := Option.some.inj viewed
  rintro entry mapped
  obtain ⟨slot, peeked, rfl⟩ := Option.map_eq_some_iff.mp mapped
  exact found_of_peek ok peeked

theorem promote_spec {subject : T} {tick : Nat} (sheltered : Sheltered rt me R) :
    (discipline rt).Spec me (promote subject tick) (fun s => R s ∧ s.Locked me none)
      fun found s => R s ∧ s.Locked me none ∧ Found subject found s := by
  refine guardedAct sheltered.guarded (stable_locked none) fun s choice found after ok held ran => ?_
  cases promoted : s.subjects.cache.getMut subject (fun slot => slot.touch tick) with
  | none =>
      simp only [promoted] at ran
      obtain ⟨rfl, rfl⟩ := Prod.mk.injEq .. ▸ Option.some.inj ran
      exact ⟨(NeutralStep.refl ok).guarded, held.2, nofun⟩
  | some out =>
      obtain ⟨slot, cache⟩ := out
      simp only [promoted] at ran
      obtain ⟨rfl, rfl⟩ := Prod.mk.injEq .. ▸ Option.some.inj ran
      refine ⟨.promote ok held.2.1 promoted, held.2, fun entry same => ?_⟩
      obtain rfl := Option.some.inj same
      obtain ⟨old, peeked, touched⟩ := Option.map_eq_some_iff.mp promoted
      have known := found_of_peek ok peeked
      obtain ⟨rfl, _⟩ := Prod.mk.injEq .. ▸ touched
      exact known

theorem insert_spec {subject : T} {now tick : Nat} (sheltered : Sheltered rt me R) :
    (discipline rt).Spec me (insert rt subject now tick)
      (fun s => R s ∧ s.Locked me none ∧ now ≤ s.clock)
      fun result s => R s ∧ Taken me result.2 s ∧ s.Known result.1 ∧ result.1.subject = subject := by
  refine guardedAct sheltered.guarded ((stable_locked none).and (Lasting.clock now).stable)
    fun s choice result after ok held ran => ?_
  obtain ⟨_, locked, past⟩ := held
  have fresh := ok.freshEntry s.nextEntry le_rfl
  have old : ∀ map id, s.Dead id → Gate.Dead { created rt s subject now with subjects := map } id := by
    rintro map id ⟨cell, found, dead⟩
    refine ⟨cell, ?_, dead.1, fun fetch pending => ?_⟩
    · refine (Function.update_of_ne ?_ _ _).trans found
      rintro rfl
      rw [fresh] at found
      cases found
    · obtain ⟨flight, enqueuer, flown, claimed⟩ := dead.2 fetch pending
      refine ⟨flight, enqueuer, (Function.update_of_ne ?_ _ _).trans flown, claimed⟩
      intro same
      rw [same, ok.freshGeneration _ le_rfl] at flown
      cases flown
  have new : ∀ map, Gate.Known (createdEntry rt s subject now)
      { created rt s subject now with subjects := map } := fun map =>
    ⟨createdCell rt s subject now, Function.update_self .., rfl⟩
  set slot : T × SubjectSlot T :=
    (subject, { entry := createdEntry rt s subject now, lastTouched := tick })
  cases pushed : s.subjects.cache.push rt.config.maxSubjects subject slot.2 with
  | mk evicted cache =>
      simp only [slot] at pushed
      simp only [pushed, Option.some.injEq] at ran
      cases evicted with
      | none =>
          obtain ⟨rfl, rfl⟩ := Prod.mk.injEq .. ▸ ran
          refine ⟨.insert ok locked.1 past (.setCache pushed), ⟨⟨locked.1, fun entry member => ?_⟩, nofun⟩,
            new _, rfl⟩
          exact .inr (old _ _ ((locked.2 entry member).resolve_left nofun))
      | some evicted =>
          obtain ⟨rfl, rfl⟩ := Prod.mk.injEq .. ▸ ran
          have step := GuardedStep.insert ok locked.1 past (.remove pushed)
          refine ⟨step, ⟨⟨locked.1, fun entry member => ?_⟩, fun entry same => ?_⟩, new _, rfl⟩
          · rcases List.mem_cons.mp member with rfl | waiting
            · exact .inl rfl
            · exact .inr (old _ _ ((locked.2 entry waiting).resolve_left nofun))
          · obtain rfl := Option.some.inj same
            have member : evicted ∈ s.subjects.cache.entries :=
              Data.Lru.mem_of_evicted (congrArg Prod.fst pushed)
            obtain ⟨cell, found, same, _⟩ := ok.map.slots evicted member
            obtain ⟨cell', found', grows⟩ := step.guarded.cells _ cell found
            exact ⟨cell', found', grows.entry.trans same⟩

theorem evict_unlock_spec {α : Type} {now : Nat} {value : α} (sheltered : Sheltered rt me R) :
    (discipline rt).Spec me (do evict rt now; unlock; pure value)
      (fun s => R s ∧ s.Locked me none) fun result s => result = value ∧ R s :=
  .bind (evict_spec sheltered) fun _ => .bind (unlock_spec sheltered) fun _ =>
    .done fun _ _ held => ⟨rfl, held⟩

theorem getOrInsertWith_spec {subject : T} {now : Nat} (sheltered : Sheltered rt me R) :
    (discipline rt).Spec me (getOrInsertWith rt subject now) (fun s => R s ∧ now ≤ s.clock)
      fun result s => R s ∧ s.Known result.1 ∧ result.1.subject = subject := by
  have kept : Sheltered rt me fun s => R s ∧ now ≤ s.clock := sheltered.and (Lasting.clock now).sheltered
  refine .bind (lock_spec kept) fun _ => .bind (promote_spec kept) fun promoted => ?_
  cases promoted with
  | some entry =>
      have found : Sheltered rt me fun s => R s ∧ Found subject (some entry) s :=
        sheltered.and (lasting_found subject (some entry)).sheltered
      refine (evict_unlock_spec found).weaken (fun s _ held => ⟨⟨held.1.1, held.2.2⟩, held.2.1⟩) ?_
      rintro _ s _ ⟨rfl, held⟩
      exact ⟨held.1, held.2 entry rfl⟩
  | none =>
      refine .bind ((evict_spec kept).pre fun s _ held => ⟨held.1, held.2.1⟩) fun _ => ?_
      refine .bind ((insert_spec sheltered).pre fun s _ held => ⟨held.1.1, held.2, held.1.2⟩) ?_
      rintro ⟨entry, evicted⟩
      have known : Lasting rt fun s : Gate T P => s.Known entry ∧ entry.subject = subject :=
        (Lasting.known entry).and (.const _)
      have inserted : Sheltered rt me fun s => R s ∧ s.Known entry ∧ entry.subject = subject :=
        sheltered.and known.sheltered
      have finish : (discipline rt).Spec me
          (do evict rt (tick rt now); unlock; pure (entry, true))
          (fun s => (R s ∧ s.Known entry ∧ entry.subject = subject) ∧ s.Locked me none)
          fun (result : Entry T × Bool) s => R s ∧ s.Known result.1 ∧ result.1.subject = subject := by
        refine (evict_unlock_spec inserted).post ?_
        rintro _ s _ ⟨rfl, held⟩
        exact held
      cases evicted with
      | none => exact finish.pre fun s _ held => ⟨⟨held.1, held.2.2⟩, held.2.1.1⟩
      | some old =>
          refine .bind ((invalidateTaken_spec inserted).pre fun s _ held =>
            ⟨⟨held.1, held.2.2⟩, held.2.1⟩) fun _ => ?_
          exact .bind (setDirty_spec (inserted.stable.and (stable_locked none))) fun _ => finish

omit [DecidableEq T] in
theorem eq_of_known {s : Gate T P} {left right : Entry T} (knownLeft : s.Known left)
    (knownRight : s.Known right) (same : left.id = right.id) : left = right := by
  obtain ⟨cell, found, rfl⟩ := knownLeft
  obtain ⟨cell', found', rfl⟩ := knownRight
  rw [same] at found
  obtain rfl := Option.some.inj (found.symm.trans found')
  rfl

theorem touch_spec {subject : T} {entry : Entry T} {now : Nat} (sheltered : Sheltered rt me R)
    (known : ∀ s, R s → s.Known entry) :
    (discipline rt).Spec me (touch rt subject entry now) R fun matched s =>
      (matched = true → entry.subject = subject) ∧ R s := by
  refine .bind (lock_spec sheltered) fun _ => ?_
  refine .bind ((peek_spec (sheltered.stable.and (stable_locked none))).post fun found s _ held =>
    (?_ : (found.any (fun current => current.id = entry.id) = true → entry.subject = subject) ∧
      R s ∧ s.Locked me none)) fun found => .given fun named => ?_
  · refine ⟨fun matched => ?_, held.1⟩
    obtain ⟨current, same, here⟩ := (Option.any_eq_true _ _).mp matched
    obtain ⟨knownCurrent, subject⟩ := held.2 current same
    exact eq_of_known knownCurrent (known s held.1.1) (of_decide_eq_true here) ▸ subject
  · have finish : (discipline rt).Spec me
        (do evict rt (tick rt now); unlock; pure (found.any fun current => current.id = entry.id))
        (fun s => R s ∧ s.Locked me none)
        fun matched s => (matched = true → entry.subject = subject) ∧ R s := by
      refine (evict_unlock_spec sheltered).post ?_
      rintro _ s _ ⟨rfl, held⟩
      exact ⟨named, held⟩
    dsimp only
    split
    · exact .bind (promote_spec sheltered) fun _ => finish.pre fun s _ held => ⟨held.1, held.2.1⟩
    · exact finish

theorem pop_spec {subject : T} (sheltered : Sheltered rt me R) :
    (discipline rt).Spec me (pop false subject) (fun s => R s ∧ s.Locked me none)
      fun taken s => R s ∧ Taken me taken s := by
  refine guardedAct sheltered.guarded (stable_locked none) fun s choice taken after ok held ran => ?_
  simp only [Bool.false_eq_true, ↓reduceIte] at ran
  cases popped : s.subjects.cache.pop subject with
  | none =>
      simp only [popped] at ran
      obtain ⟨rfl, rfl⟩ := Prod.mk.injEq .. ▸ Option.some.inj ran
      exact ⟨(NeutralStep.refl ok).guarded, held.2, nofun⟩
  | some out =>
      obtain ⟨slot, cache⟩ := out
      simp only [popped] at ran
      obtain ⟨rfl, rfl⟩ := Prod.mk.injEq .. ▸ Option.some.inj ran
      exact remove_step ok held.2 (.pop popped)

theorem invalidate_unlock_spec {entry : Entry T} (sheltered : Sheltered rt me R) :
    (discipline rt).Spec me (do entry.invalidate; unlock; pure true)
      (fun s => R s ∧ Taken me (some entry) s) fun _ => R :=
  .bind (invalidateTaken_spec sheltered) fun _ => .bind (unlock_spec sheltered) fun _ =>
    .done fun _ _ held => held

theorem unlock_false_spec (sheltered : Sheltered rt me R) :
    (discipline rt).Spec me (do unlock; pure false) (fun s => R s ∧ s.Locked me none) fun _ => R :=
  .bind (unlock_spec sheltered) fun _ => .done fun _ _ held => held

theorem popInvalidate_spec {subject : T} (sheltered : Sheltered rt me R) :
    (discipline rt).Spec me (do
        match ← pop false subject with
        | some entry => do
            entry.invalidate
            unlock
            pure true
        | none => do
            unlock
            pure false) (fun s : Gate T P => R s ∧ s.Locked me none) fun _ => R := by
  refine .bind (pop_spec sheltered) fun taken => ?_
  cases taken with
  | some entry => exact invalidate_unlock_spec sheltered
  | none => exact (unlock_false_spec sheltered).pre fun s _ held => ⟨held.1, held.2.1⟩

theorem removeIf_spec {subject : T} {now : Nat} {predicate : Entry T → Program (Gate T P) Bool}
    (sheltered : Sheltered rt me R)
    (decides : ∀ entry, entry.subject = subject → (discipline rt).Spec me (predicate entry)
      (fun s => (R s ∧ s.Locked me none) ∧ s.Known entry) fun _ s => R s ∧ s.Locked me none) :
    (discipline rt).Spec me (removeIf rt subject now predicate) R fun _ => R := by
  refine .bind (lock_spec sheltered) fun _ => .bind (evict_spec sheltered) fun _ => ?_
  refine .bind (peek_spec (sheltered.stable.and (stable_locked none))) fun found => ?_
  cases found with
  | none =>
      refine .bind (M := fun _ s => R s ∧ s.Locked me none) (.done fun s _ held => held.1)
        fun holds => ?_
      cases holds with
      | true => exact popInvalidate_spec sheltered
      | false => exact unlock_false_spec sheltered
  | some entry =>
      by_cases subject_eq : entry.subject = subject
      · refine .bind ((decides entry subject_eq).pre fun s _ held =>
          ⟨held.1, (held.2 entry rfl).1⟩) fun holds => ?_
        cases holds with
        | true => exact popInvalidate_spec sheltered
        | false => exact unlock_false_spec sheltered
      · exact Discipline.Spec.never.pre fun s _ held => subject_eq (held.2 entry rfl).2

structure Copied (copy : Rebuild) (entries : List (T × Entry T)) (s : Gate T P) : Prop where
  noted : copy ∈ s.copies
  slots : ∀ slot ∈ entries, slot.1 = slot.2.subject ∧ ∃ cell, s.cells slot.2.id = some cell ∧
    cell.entry = slot.2 ∧ cell.session = copy.era

theorem kept_copied (generation : Nat) (era : Option Nat) (entries : List (T × Entry T)) :
    (discipline rt).Kept (Guarded me) (Copied (P := P) ⟨me, generation, era⟩ entries) := by
  intro before after _ _ guarded copied
  refine ⟨guarded.copies _ copied.noted rfl, fun slot member => ?_⟩
  obtain ⟨key, cell, found, same, session⟩ := copied.slots slot member
  obtain ⟨cell', found', grows⟩ := guarded.cells _ cell found
  exact ⟨key, cell', found', grows.entry.trans same, grows.session.trans session⟩

theorem copyEntries_spec {generation : Nat} (sheltered : Sheltered rt me R) :
    (discipline rt).Spec me (copyEntries generation)
      (fun s => R s ∧ generation ≤ s.publish.generation)
      fun entries s => ∃ era, R s ∧ Copied ⟨me, generation, era⟩ entries s := by
  have claimed : Sheltered rt me fun s : Gate T P => R s ∧ generation ≤ s.publish.generation :=
    sheltered.and fun _ _ _ _ beside below => below.trans beside.generation
  refine .bind (lock_spec claimed) fun _ => ?_
  refine .bind (neutralAct (M := fun entries s => ∃ era, Copied ⟨me, generation, era⟩ entries s)
    (claimed.stable.and (stable_locked none)) fun s choice entries after ok held ran => ?_)
    fun entries => ?_
  · obtain ⟨rfl, rfl⟩ := Prod.mk.injEq .. ▸ Option.some.inj ran
    refine ⟨.copy ok held.1.2, s.watch.era, List.mem_cons_self, fun slot member => ?_⟩
    obtain ⟨slot, inside, rfl⟩ := List.mem_map.mp member
    obtain ⟨cell, found, same, key, session⟩ := ok.map.slots slot inside
    exact ⟨same ▸ key, cell, found, same, session⟩
  · refine .bind ((unlock_keeps (sheltered.guarded.and (.exists fun era =>
      kept_copied generation era entries))).pre
      fun s _ held => ⟨⟨held.1.1.1, held.2⟩, held.1.2⟩) fun _ =>
        .done fun _ _ ⟨held, era, copied⟩ => ⟨era, held, copied⟩

end Subjects

end PolicyGate
