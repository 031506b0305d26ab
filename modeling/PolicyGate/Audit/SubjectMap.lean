import PolicyGate.Audit.Entry
import PolicyGate.Data.Recency

namespace PolicyGate

open Interleaving Data

variable {T P : Type} [DecidableEq T] {rt : Runtime} {me : Nat} {hold : Hold T} {L : Gate T P → Prop}

structure Gate.OnMap (actor : Option Nat) (before after : Gate T P) : Prop where
  lock : LockStep actor before.subjects.lock after.subjects.lock
  apart : ∀ thread, after.subjects.lock = some thread → before.publish.lock ≠ some thread
  closed : after.watch.closed = before.watch.closed
  publish : after.publish = before.publish
  queue : after.queue = before.queue
  queueClosed : after.queueClosed = before.queueClosed

namespace Gate.OnMap

variable {actor : Option Nat} {before after : Gate T P}

omit [DecidableEq T] in
theorem step {config : PolicyGateConfig} (onMap : OnMap actor before after)
    (awake : ∀ me, actor = some me → before.Awake me) : PeripheryStep config actor before after where
  subjects := onMap.lock
  publish := .inl (by rw [onMap.publish])
  guarded _ _ := onMap.publish
  claims := by rw [onMap.publish]
  queue := .inl onMap.queue
  closed closed := onMap.queueClosed.trans closed
  dropped := Gate.undropped onMap.closed
  watcher closed mine := by
    rw [awake 0 mine rfl] at closed
    cases closed

omit [DecidableEq T] in
theorem periphery (onMap : OnMap actor before after) (clock : before.clock ≤ after.clock)
    (within : 0 < rt.config.maxSubjects →
      before.subjects.cache.entries.length ≤ rt.config.maxSubjects →
        after.subjects.cache.entries.length ≤ rt.config.maxSubjects)
    (ok : PeripheryOk rt before) : PeripheryOk rt after where
  apart thread held := by
    rw [onMap.publish]
    exact onMap.apart thread held
  publish := by
    rw [onMap.publish]
    exact ok.publish.mono clock
  bounded := onMap.queue ▸ ok.bounded
  drained closed := onMap.queue.trans (ok.drained (onMap.queueClosed ▸ closed))
  within positive := within positive (ok.within positive)

end Gate.OnMap

theorem mapAct {β : Type} {action : Pick → Gate T P → Option (β × Gate T P)} {H : β → Hold T}
    {M : β → Gate T P → Prop} (context : Context rt me L)
    (ready : ∀ s, s.Invariant rt.config → L s → hold ≠ .none →
      ∃ choice, (action ⟨me, choice⟩ s).isSome)
    (runs : ∀ s choice result after, Follows rt (some me) s after → s.During me hold L →
      action ⟨me, choice⟩ s = some (result, after) →
        s.OnMap (some me) after ∧
        (0 < rt.config.maxSubjects → s.subjects.cache.entries.length ≤ rt.config.maxSubjects →
          after.subjects.cache.entries.length ≤ rt.config.maxSubjects) ∧
        after.Holding me (H result) ∧ s.EntriesAside me after ∧ M result after) :
    (audit rt).Spec me (.act action) (Gate.During me hold L)
      fun result => Gate.During me (H result) fun s => L s ∧ M result s := by
  refine peripheryAct context ready fun s choice result after follows ok held ran => ?_
  obtain ⟨onMap, within, holding, aside, ended⟩ := runs s choice result after follows held ran
  exact ⟨⟨onMap.periphery (Follows.lasts follows).clock within ok.periphery,
    onMap.step fun _ mine => Option.some.inj mine ▸ context.awake s held.2, holding⟩, aside, ended⟩

namespace Subjects

theorem lock_audit (context : Context rt me L) :
    (audit rt).Spec me lock (Gate.During me .none L) fun _ => Gate.During me (.map none) L := by
  refine (mapAct (H := fun _ => .map none) (M := fun _ _ => True) context (fun _ _ _ locked => absurd rfl locked)
    fun s choice result after follows held ran => ?_).post fun _ _ _ _ held => ⟨held.1, held.2.1⟩
  cases free : s.subjects.lock with
  | some owner =>
      simp only [free] at ran
      cases ran
  | none =>
      simp only [free] at ran
      obtain ⟨_, rfl⟩ := Prod.mk.injEq .. ▸ Option.some.inj ran
      have apart : s.publish.lock ≠ some me := fun mine => held.1 (.inr mine)
      refine ⟨⟨.inr (.inl ⟨free, rfl⟩), fun thread taken => ?_, rfl, rfl, rfl, rfl⟩, fun _ within => within,
        ⟨rfl, apart, fun entry member => ?_⟩, .of_eq rfl rfl rfl rfl, trivial⟩
      · exact Option.some.inj taken ▸ apart
      · change entry ∈ s.subjects.limbo at member
        rw [follows.sound.map.unlocked free] at member
        cases member

theorem giveBack_audit (context : Context rt me L)
    (locked : ∀ s : Gate T P, s.Holding me hold →
      s.subjects.lock = some me ∧ s.publish.lock ≠ some me) :
    (audit rt).Spec me unlock (Gate.During me hold L) fun _ => Gate.During me .none L := by
  refine (mapAct (H := fun _ => .none) (M := fun _ _ => True) context (fun _ _ _ _ => ⟨0, rfl⟩)
    fun s choice result after follows held ran => ?_).post fun _ _ _ _ held => ⟨held.1, held.2.1⟩
  obtain ⟨_, rfl⟩ := Prod.mk.injEq .. ▸ Option.some.inj ran
  obtain ⟨mine, apart⟩ := locked s held.1
  refine ⟨⟨.inr (.inr ⟨mine, rfl⟩), nofun, rfl, rfl, rfl, rfl⟩, fun _ within => within, ?_,
    .of_eq rfl rfl rfl rfl, trivial⟩
  rintro (mine | mine)
  · cases mine
  · exact apart mine

theorem unlock_audit (context : Context rt me L) :
    (audit rt).Spec me unlock (Gate.During me (.map none) L) fun _ => Gate.During me .none L :=
  giveBack_audit context fun _ held => ⟨held.1, held.2.1⟩

theorem setDirty_keeps {dirty : Bool} (context : Context rt me L) :
    Keeps rt me hold L (setDirty dirty) :=
  keepsModify context fun s _ _ => { Gate.Aside.refl me s with }

def Out (taken : Option (Entry T)) (s : Gate T P) : Prop := ∀ entry, taken = some entry → s.Known entry

structure Works (rt : Runtime) (me : Nat) (taken : Option (Entry T)) (s after : Gate T P) : Prop where
  onMap : s.OnMap (some me) after
  within : 0 < rt.config.maxSubjects → s.subjects.cache.entries.length ≤ rt.config.maxSubjects →
    after.subjects.cache.entries.length ≤ rt.config.maxSubjects
  holding : after.Holding me (.map taken)
  aside : s.EntriesAside me after

omit [DecidableEq T] in
theorem works_idle {s : Gate T P} (held : s.Holding me (.map none)) : Works rt me none s s where
  onMap := ⟨.inl rfl, fun _ taken => Option.some.inj (held.1.symm.trans taken) ▸ held.2.1, rfl, rfl,
    rfl, rfl⟩
  within _ within := within
  holding := held
  aside := .of_eq rfl rfl rfl rfl

omit [DecidableEq T] in
theorem works_removed {s : Gate T P} {cache : Lru T (SubjectSlot T)} (slot : T × SubjectSlot T)
    (held : s.Holding me (.map none))
    (fewer : cache.entries.length ≤ s.subjects.cache.entries.length) :
    Works rt me (some slot.2.entry) s (s.updateSubjects fun map => map.remove cache slot.2.entry) := by
  obtain ⟨locked, apart, swept⟩ := held
  refine ⟨⟨.inl rfl, fun thread taken => ?_, rfl, rfl, rfl, rfl⟩, fun _ within => fewer.trans within,
    ⟨locked, apart, fun entry member => ?_⟩, .of_eq rfl rfl rfl rfl⟩
  · exact Option.some.inj (locked.symm.trans taken) ▸ apart
  · rcases List.mem_cons.mp member with rfl | old
    · exact .inl rfl
    · exact .inr ((swept entry old).resolve_left nofun)

theorem out_of_member {s : Gate T P} (slot : T × SubjectSlot T) (sound : s.Invariant rt.config)
    (member : slot ∈ s.subjects.cache.entries) : Out (some slot.2.entry) s := by
  rintro entry same
  obtain rfl := Option.some.inj same
  obtain ⟨cell, found, entry, _⟩ := sound.map.slots slot member
  exact ⟨cell, found, entry⟩

theorem lasting_out (taken : Option (Entry T)) : Lasting rt (Out (P := P) taken) :=
  .forall fun entry => .forall fun _ => Lasting.known entry

theorem worksAct {action : Pick → Gate T P → Option (Option (Entry T) × Gate T P)}
    (context : Context rt me L)
    (ready : ∀ s, ∃ choice, (action ⟨me, choice⟩ s).isSome)
    (runs : ∀ s choice taken after, s.Invariant rt.config → s.Holding me (.map none) →
      action ⟨me, choice⟩ s = some (taken, after) → Works rt me taken s after ∧ Out taken s) :
    (audit rt).Spec me (.act action) (Gate.During me (.map none) L)
      fun taken => Gate.During me (.map taken) fun s => L s ∧ Out taken s := by
  refine mapAct context (fun s _ _ _ => ready s) fun s choice taken after follows held ran => ?_
  obtain ⟨works, out⟩ := runs s choice taken after follows.sound held.1 ran
  exact ⟨works.onMap, works.within, works.holding, works.aside,
    lasting_out taken s after follows.sound follows.kept (Follows.lasts follows) out⟩

theorem popIdle_audit {now : Nat} (context : Context rt me L) :
    (audit rt).Spec me (popIdle rt now) (Gate.During me (.map none) L)
      fun taken => Gate.During me (.map taken) fun s => L s ∧ Out taken s := by
  refine worksAct context (fun s => ⟨0, ?_⟩) fun s choice taken after sound held ran => ?_
  · cases s.subjects.cache.popLru with
    | none => rfl
    | some out => dsimp only; split <;> rfl
  · cases popped : s.subjects.cache.popLru with
    | none =>
        simp only [popped] at ran
        obtain ⟨rfl, rfl⟩ := Prod.mk.injEq .. ▸ Option.some.inj ran
        exact ⟨works_idle held, nofun⟩
    | some out =>
        obtain ⟨slot, cache⟩ := out
        simp only [popped] at ran
        split at ran
        · obtain ⟨rfl, rfl⟩ := Prod.mk.injEq .. ▸ Option.some.inj ran
          obtain ⟨last, peeked, same⟩ := Option.map_eq_some_iff.mp popped
          obtain ⟨rfl, rfl⟩ := Prod.mk.injEq .. ▸ same
          refine ⟨works_removed last held ?_, out_of_member last sound (Lru.mem_of_peekLru peeked)⟩
          simp [Lru.withoutLru]
        · obtain ⟨rfl, rfl⟩ := Prod.mk.injEq .. ▸ Option.some.inj ran
          exact ⟨works_idle held, nofun⟩

theorem invalidateTaken_audit {entry : Entry T} (context : Context rt me L) :
    (audit rt).Spec me entry.invalidate
      (Gate.During me (.map (some entry)) fun s => L s ∧ Out (some entry) s)
      fun _ => Gate.During me (.map none) L := by
  refine (Entry.invalidate_audit (context.lasting (lasting_out (some entry)))
    fun s held => held.2 entry rfl).post fun _ s _ _ held => ?_
  obtain ⟨⟨locked, apart, swept⟩, ⟨kept, _⟩, settled⟩ := held
  refine ⟨⟨locked, apart, fun other member => .inr ?_⟩, kept⟩
  rcases swept other member with same | before
  · exact Option.some.inj same ▸ settled
  · exact before

theorem evict_keeps {now : Nat} (context : Context rt me L) :
    Keeps rt me (.map none) L (evict rt now) := by
  refine keepsIterate context fun _ => .bind (popIdle_audit context) fun taken => ?_
  cases taken with
  | none => exact .done fun s _ _ held => ⟨held.1, held.2.1⟩
  | some entry =>
      exact .bind (invalidateTaken_audit context) fun _ =>
        .bind (setDirty_keeps context) fun _ => keepsDone

theorem peek_audit {subject : T} {M : Option (Entry T) → Gate T P → Prop} (context : Context rt me L)
    (looks : ∀ s found, s.Invariant rt.config → s.During me hold L →
      (s.subjects.cache.peek subject).map SubjectSlot.entry = found → M found s) :
    (audit rt).Spec me (peek subject) (Gate.During me hold L)
      fun found => Gate.During me hold fun s => L s ∧ M found s :=
  asideRead context (fun _ _ _ _ => rfl) fun s found sound _ held viewed =>
    looks s found sound held (Option.some.inj viewed)

theorem promote_audit {subject : T} {tick : Nat} (context : Context rt me L) :
    (audit rt).Spec me (promote subject tick) (Gate.During me (.map none) L)
      fun found => Gate.During me (.map none) fun s => L s ∧ Found subject found s := by
  refine mapAct (H := fun _ => .map none) context (fun s _ _ _ => ⟨0, ?_⟩)
    fun s choice found after follows held ran => ?_
  · cases s.subjects.cache.getMut subject fun slot => slot.touch tick <;> rfl
  · cases promoted : s.subjects.cache.getMut subject (fun slot => slot.touch tick) with
    | none =>
        simp only [promoted] at ran
        obtain ⟨rfl, rfl⟩ := Prod.mk.injEq .. ▸ Option.some.inj ran
        have works : Works rt me none s s := works_idle held.1
        exact ⟨works.onMap, works.within, works.holding, works.aside, nofun⟩
    | some out =>
        obtain ⟨slot, cache⟩ := out
        simp only [promoted] at ran
        obtain ⟨rfl, rfl⟩ := Prod.mk.injEq .. ▸ Option.some.inj ran
        obtain ⟨old, peeked, touched⟩ := Option.map_eq_some_iff.mp promoted
        obtain ⟨rfl, rfl⟩ := Prod.mk.injEq .. ▸ touched
        obtain ⟨locked, apart, swept⟩ := held.1
        refine ⟨⟨.inl rfl, fun thread taken => ?_, rfl, rfl, rfl, rfl⟩,
          fun _ => (Lru.length_place_of_present peeked).trans, ⟨locked, apart, swept⟩,
          .of_eq rfl rfl rfl rfl, fun entry same => ?_⟩
        · exact Option.some.inj (locked.symm.trans taken) ▸ apart
        · obtain rfl := Option.some.inj same
          have known : s.Known old.entry ∧ old.entry.subject = subject :=
            found_of_peek follows.sound peeked
          exact known

structure Creates (before after : Gate T P) : Prop where
  cells : ∀ id cell', after.cells id = some cell' → before.cells id = some cell' ∨
    before.cells id = none ∧ cell'.Blank ∧ ∃ fetch flight, cell'.pending = some fetch ∧
      after.flights fetch.generation = some flight ∧ flight.stage = .placed
  flights : ∀ generation flight', after.flights generation = some flight' →
    before.flights generation = some flight' ∨ before.flights generation = none ∧ flight'.New .placed

theorem creates {s after : Gate T P} {subject : T} {now : Nat} (sound : s.Invariant rt.config)
    (cells : after.cells = (created rt s subject now).cells)
    (flights : after.flights = (created rt s subject now).flights) : Creates s after where
  cells id cell' found := by
    rw [cells] at found
    change Function.update s.cells s.nextEntry _ id = _ at found
    by_cases same : id = s.nextEntry
    · rw [same, Function.update_self] at found
      obtain rfl := Option.some.inj found
      let fetch := createdFetch rt s subject now
      refine .inr ⟨same ▸ sound.freshEntry _ le_rfl, ⟨rfl, rfl⟩, fetch, { fetch, stage := .placed }, rfl, ?_, rfl⟩
      rw [flights]
      exact Function.update_self ..
    · exact .inl ((Function.update_of_ne same _ _).symm.trans found)
  flights generation flight' flown := by
    rw [flights] at flown
    change Function.update s.flights s.nextGeneration _ generation = _ at flown
    by_cases same : generation = s.nextGeneration
    · rw [same, Function.update_self] at flown
      obtain rfl := Option.some.inj flown
      exact .inr ⟨same ▸ sound.freshGeneration _ le_rfl, rfl, rfl, rfl, rfl⟩
    · exact .inl ((Function.update_of_ne same _ _).symm.trans flown)

namespace Creates

variable {before after : Gate T P}

theorem gentle (creates : Creates before after) (follows : Follows rt (some me) before after)
    (turn : after.refreshing = before.refreshing)
    (closed : after.watch.closed = before.watch.closed) : Gate.Gentle me before after := by
  refine ⟨closed, turn, fun generation stage _ at_stage => ?_⟩
  obtain ⟨flight, flown, rfl⟩ := Option.map_eq_some_iff.mp at_stage
  obtain ⟨flight', flown', _⟩ := (Follows.lasts follows).flights _ flight flown
  rcases creates.flights generation flight' flown' with same | ⟨new, _⟩
  · obtain rfl := Option.some.inj (flown.symm.trans same)
    exact Gate.stageOf_of_flights flown'
  · rw [flown] at new
    cases new

theorem entries (creates : Creates before after) (follows : Follows rt (some me) before after)
    (ok : before.Audited rt) : LookupsOk after.cells after.flights ∧
      CooldownsOk rt.config after.clock after.cells after.flights ∧
      EntriesStep rt.config (some me) before after := by
  have known : ∀ generation flight flight', before.flights generation = some flight →
      after.flights generation = some flight' → flight' = flight := by
    intro generation flight flight' flown flown'
    rcases creates.flights generation flight' flown' with same | ⟨new, _⟩
    · exact Option.some.inj (same.symm.trans flown)
    · rw [flown] at new
      cases new
  refine ⟨ok.lookups.transfer follows (fun id cell' found' _ => ?_)
      (fun generation flight flight' flown flown' unfinished finished => ?_)
      fun generation flight' flown' taken => ?_,
    ok.cooldowns.transfer me follows (fun id cell' found' => ?_) fun generation flight' flown' => ?_,
    ⟨fun id _ _ _ _ ⟨cell', found', member⟩ => ?_, fun id cell cell' found found' => ?_,
      fun generation flight flight' flown flown' _ => by rw [known generation flight flight' flown flown'],
      fun generation flight' answer flown' answered => ?_⟩⟩
  · rcases creates.cells id cell' found' with same | ⟨_, _, fetch, flight, pending, flown, placed⟩
    · exact .inl ⟨cell', same, rfl⟩
    · exact .inr ⟨fetch, flight, pending, flown, by rw [placed]; exact nofun⟩
  · rw [known generation flight flight' flown flown'] at finished
    exact absurd finished unfinished
  · rcases creates.flights generation flight' flown' with same | ⟨_, made⟩
    · exact .inl ⟨flight', same, rfl, taken⟩
    · rw [made.taken] at taken
      cases taken
  · rcases creates.cells id cell' found' with same | ⟨_, blank, _⟩
    · exact .inl ⟨cell', same, rfl, .inl rfl, fun _ pending => .inl pending⟩
    · exact .inr blank
  · rcases creates.flights generation flight' flown' with same | ⟨new, made⟩
    · exact .inl ⟨flight', same, rfl, rfl, fun untaken => untaken, fun _ underway => underway,
        fun _ waiting => waiting⟩
    · exact .inr (.idle (made.placed ▸ Nat.zero_le _) (by rw [made.stage]; rfl)
        (.inr fun _ flown => by rw [new] at flown; cases flown))
  · rcases creates.cells id cell' found' with same | ⟨_, ⟨blank, _⟩, _⟩
    · exact .inl ⟨cell', same, member⟩
    · rw [blank] at member
      cases member
  · rcases creates.cells id cell' found' with same | ⟨new, _⟩
    · obtain rfl := Option.some.inj (found.symm.trans same)
      exact .inl ⟨rfl, fun _ _ _ member => member⟩
    · rw [found] at new
      cases new
  · rcases creates.flights generation flight' flown' with same | ⟨_, made⟩
    · exact .inl ⟨flight', same, answered⟩
    · rw [made.answer] at answered
      cases answered

end Creates

theorem insert_audit {subject : T} {now tick : Nat} (context : Context rt me L) :
    (audit rt).Spec me (insert rt subject now tick) (Gate.During me (.map none) L)
      fun result => Gate.During me (.map result.2) fun s => L s ∧ Out result.2 s ∧
        s.Known result.1 ∧ result.1.subject = subject := by
  refine gentleMove context (fun s _ _ _ => ⟨0, rfl⟩) fun s choice result after follows ok held ran => ?_
  obtain ⟨locked, apart, swept⟩ := held.1
  have clock := (Follows.lasts follows).clock
  have settled : ∀ id, s.Settled id → after.Settled id := fun _ => Follows.settled follows
  have finish : ∀ {evicted : Option (T × SubjectSlot T)} {cache : Lru T (SubjectSlot T)},
      s.subjects.cache.push rt.config.maxSubjects subject
        { entry := createdEntry rt s subject now, lastTouched := tick } = (evicted, cache) →
      after.cells = (created rt s subject now).cells → after.flights = (created rt s subject now).flights →
      after.refreshing = s.refreshing → after.subjects.lock = s.subjects.lock →
      after.subjects.cache = cache → after.publish = s.publish → after.queue = s.queue →
      after.queueClosed = s.queueClosed → after.watch.closed = s.watch.closed →
      (∀ entry ∈ after.subjects.limbo, some entry = evicted.map (fun slot => slot.2.entry) ∨
        entry ∈ s.subjects.limbo) →
      (PeripheryOk rt after ∧ PeripheryStep rt.config (some me) s after ∧
        after.Holding me (.map (evicted.map fun slot => slot.2.entry))) ∧ s.Gentle me after ∧
      (LookupsOk after.cells after.flights ∧
        CooldownsOk rt.config after.clock after.cells after.flights ∧ EntriesStep rt.config (some me) s after) ∧
      Out (evicted.map fun slot => slot.2.entry) after ∧ after.Known (createdEntry rt s subject now) ∧
        (createdEntry rt s subject now).subject = subject := by
    intro evicted cache pushed cells flights turn lock cached publish queue queueClosed closed limbo
    have creates : Creates s after := creates follows.sound cells flights
    have onMap : s.OnMap (some me) after :=
      ⟨.inl lock, fun thread taken => Option.some.inj (locked.symm.trans (lock.symm.trans taken)) ▸ apart,
        closed, publish, queue, queueClosed⟩
    refine ⟨⟨onMap.periphery clock (fun positive within => ?_) ok.periphery,
        onMap.step fun _ mine => Option.some.inj mine ▸ context.awake s held.2,
        lock.trans locked, publish ▸ apart, fun entry member => ?_⟩,
      creates.gentle follows turn closed, creates.entries follows ok, fun entry same => ?_, ?_, rfl⟩
    · rw [cached]
      have bound := Lru.length_push positive subject
        ({ entry := createdEntry rt s subject now, lastTouched := tick } : SubjectSlot T) within
      rwa [pushed] at bound
    · exact (limbo entry member).imp_right fun old => settled _ ((swept entry old).resolve_left nofun)
    · obtain ⟨slot, rfl, rfl⟩ := Option.map_eq_some_iff.mp same
      obtain ⟨cell, found, same, _⟩ := follows.sound.map.slots slot
        (Lru.mem_of_evicted (congrArg Prod.fst pushed))
      obtain ⟨cell', found', grows⟩ := Follows.cell follows found
      exact ⟨cell', found', grows.entry.trans same⟩
    · refine ⟨createdCell rt s subject now, ?_, rfl⟩
      rw [cells]
      exact Function.update_self ..
  cases pushed : s.subjects.cache.push rt.config.maxSubjects subject
      { entry := createdEntry rt s subject now, lastTouched := tick } with
  | mk evicted cache =>
      simp only [pushed, Option.some.injEq] at ran
      cases evicted with
      | none =>
          obtain ⟨rfl, rfl⟩ := Prod.mk.injEq .. ▸ ran
          exact finish pushed rfl rfl rfl rfl rfl rfl rfl rfl rfl fun entry old => .inr old
      | some evicted =>
          obtain ⟨rfl, rfl⟩ := Prod.mk.injEq .. ▸ ran
          refine finish pushed rfl rfl rfl rfl rfl rfl rfl rfl rfl fun entry member => ?_
          exact (List.mem_cons.mp member).imp_left fun same => congrArg some same

theorem evict_unlock_audit {α : Type} {now : Nat} {value : α} (context : Context rt me L) :
    (audit rt).Spec me (do evict rt now; unlock; pure value : Program (Gate T P) α)
      (Gate.During me (.map none) L) fun result s => result = value ∧ s.During me .none L :=
  .bind (evict_keeps context) fun _ => .bind (unlock_audit context) fun _ =>
    .done fun _ _ _ held => ⟨rfl, held⟩

theorem getOrInsertWith_audit {subject : T} {now : Nat} (context : Context rt me L) :
    (audit rt).Spec me (getOrInsertWith rt subject now) (Gate.During me .none L)
      fun result => Gate.During me .none fun s => L s ∧ s.Known result.1 ∧ result.1.subject = subject := by
  refine .bind (lock_audit context) fun _ => .bind (promote_audit context) fun promoted => ?_
  cases promoted with
  | some entry =>
      refine (evict_unlock_audit (context.lasting (lasting_found subject (some entry)))).post ?_
      rintro _ s _ _ ⟨rfl, held⟩
      exact ⟨held.1, held.2.1, held.2.2 entry rfl⟩
  | none =>
      refine .bind ((evict_keeps context).pre fun s _ _ held => ⟨held.1, held.2.1⟩) fun _ => ?_
      refine .bind (insert_audit context) ?_
      rintro ⟨entry, evicted⟩
      have inserted : Context rt me fun s => L s ∧ s.Known entry ∧ entry.subject = subject :=
        context.lasting ((Lasting.known entry).and (.const _))
      have finish : (audit rt).Spec me (do evict rt (tick rt now); unlock; pure (entry, true))
          (Gate.During me (.map none) fun s => L s ∧ s.Known entry ∧ entry.subject = subject)
          fun (result : Entry T × Bool) => Gate.During me .none fun s => L s ∧ s.Known result.1 ∧
            result.1.subject = subject := by
        refine (evict_unlock_audit inserted).post ?_
        rintro _ s _ _ ⟨rfl, held⟩
        exact held
      cases evicted with
      | none => exact finish.pre fun s _ _ held => ⟨held.1, held.2.1, held.2.2.2⟩
      | some old =>
          refine .bind ((invalidateTaken_audit inserted).pre fun s _ _ held =>
            ⟨held.1, ⟨held.2.1, held.2.2.2⟩, held.2.2.1⟩) fun _ => ?_
          exact .bind (setDirty_keeps inserted) fun _ => finish

theorem touch_keeps {subject : T} {entry : Entry T} {now : Nat} (context : Context rt me L) :
    Keeps rt me .none L (touch rt subject entry now) := by
  have finish : ∀ matched : Bool, (audit rt).Spec me
      (do evict rt (tick rt now); unlock; pure matched : Program (Gate T P) Bool)
      (Gate.During me (.map none) L) fun _ => Gate.During me .none L := fun matched =>
    (evict_unlock_audit context).post fun _ _ _ _ held => held.2
  refine .bind (lock_audit context) fun _ =>
    .bind (peek_audit (M := fun _ _ => True) context fun _ _ _ _ _ => trivial) fun found => ?_
  dsimp only
  split
  · exact .bind ((promote_audit context).pre fun s _ _ held => ⟨held.1, held.2.1⟩) fun _ =>
      (finish _).pre fun s _ _ held => ⟨held.1, held.2.1⟩
  · exact (finish _).pre fun s _ _ held => ⟨held.1, held.2.1⟩

omit [DecidableEq T] in
theorem Works.of_applied {taken : Option (Entry T)} {s after : Gate T P}
    (works : Works rt me taken s.applied after) : Works rt me taken s after where
  onMap := ⟨works.onMap.lock, works.onMap.apart, works.onMap.closed, works.onMap.publish,
    works.onMap.queue, works.onMap.queueClosed⟩
  within := works.within
  holding := works.holding
  aside := ⟨works.aside.closed, works.aside.turn, works.aside.cells, works.aside.flights⟩

theorem works_popped {s after : Gate T P} {subject : T} {taken : Option (Entry T)}
    (held : s.Holding me (.map none))
    (out : ∀ slot ∈ s.subjects.cache.entries, Out (some slot.2.entry) s)
    (ran : (match s.subjects.cache.pop subject with
      | some (slot, cache) =>
          some (some slot.entry, s.updateSubjects fun map => map.remove cache slot.entry)
      | none => some (none, s)) = some (taken, after)) : Works rt me taken s after ∧ Out taken s := by
  cases popped : s.subjects.cache.pop subject with
  | none =>
      simp only [popped] at ran
      obtain ⟨rfl, rfl⟩ := Prod.mk.injEq .. ▸ Option.some.inj ran
      exact ⟨works_idle held, fun _ same => by cases same⟩
  | some found =>
      obtain ⟨slot, cache⟩ := found
      simp only [popped] at ran
      obtain ⟨rfl, rfl⟩ := Prod.mk.injEq .. ▸ Option.some.inj ran
      obtain ⟨old, peeked, same⟩ := Option.map_eq_some_iff.mp popped
      obtain ⟨rfl, rfl⟩ := Prod.mk.injEq .. ▸ same
      refine ⟨works_removed (subject, old) held (List.length_filter_le _ _), ?_⟩
      exact out (subject, old) (s.subjects.cache.peek_eq_some_iff.mp peeked)

theorem pop_audit {withdrawal : Bool} {subject : T} (context : Context rt me L) :
    (audit rt).Spec me (pop withdrawal subject) (Gate.During me (.map none) L)
      fun taken => Gate.During me (.map taken) fun s => L s ∧ Out taken s := by
  refine worksAct context (fun s => ⟨0, ?_⟩) fun s choice taken after sound held ran => ?_
  · cases withdrawal <;> simp only [Bool.false_eq_true, ↓reduceIte]
    · cases s.subjects.cache.pop subject <;> rfl
    · cases s.applied.subjects.cache.pop subject <;> rfl
  · have out : ∀ slot ∈ s.subjects.cache.entries, Out (some slot.2.entry) s := fun slot member =>
      out_of_member slot sound member
    cases withdrawal with
    | false => exact works_popped held out ran
    | true =>
        have applied : s.applied.Holding me (.map none) := held
        obtain ⟨works, known⟩ := works_popped applied out ran
        exact ⟨works.of_applied, known⟩

theorem invalidate_unlock_audit {entry : Entry T} (context : Context rt me L) :
    (audit rt).Spec me (do entry.invalidate; unlock; pure true)
      (Gate.During me (.map (some entry)) fun s => L s ∧ Out (some entry) s)
      fun _ => Gate.During me .none L :=
  .bind (invalidateTaken_audit context) fun _ => .bind (unlock_audit context) fun _ => keepsDone

theorem unlock_false_audit (context : Context rt me L) :
    (audit rt).Spec me (do unlock; pure false : Program (Gate T P) Bool)
      (Gate.During me (.map none) L) fun _ => Gate.During me .none L :=
  .bind (unlock_audit context) fun _ => keepsDone

theorem popInvalidate_audit {withdrawal : Bool} {subject : T} (context : Context rt me L) :
    (audit rt).Spec me (do
        match ← pop withdrawal subject with
        | some entry => do
            entry.invalidate
            unlock
            pure true
        | none => do
            unlock
            pure false) (Gate.During (P := P) me (.map none) L) fun _ => Gate.During me .none L := by
  refine .bind (pop_audit context) fun taken => ?_
  cases taken with
  | some entry => exact invalidate_unlock_audit context
  | none => exact (unlock_false_audit context).pre fun s _ _ held => ⟨held.1, held.2.1⟩

theorem remove_keeps {subject : T} {now : Nat} (context : Context rt me L) :
    Keeps rt me .none L (remove rt subject now) :=
  .bind (lock_audit context) fun _ => .bind (evict_keeps context) fun _ => popInvalidate_audit context

theorem removeIf_audit {subject : T} {now : Nat} {predicate : Entry T → Program (Gate T P) Bool}
    {M : Option (Entry T) → Gate T P → Prop} {F : Gate T P → Prop} (context : Context rt me L)
    (final : Context rt me F)
    (looks : ∀ s found, s.Invariant rt.config → s.During me (.map none) L →
      (s.subjects.cache.peek subject).map SubjectSlot.entry = found → M found s)
    (decides : ∀ found, (audit rt).Spec me
      (match found with
        | some entry => predicate entry
        | none => pure false) (Gate.During me (.map none) fun s => L s ∧ M found s)
      fun _ => Gate.During me (.map none) F) :
    (audit rt).Spec me (removeIf rt subject now predicate) (Gate.During me .none L)
      fun _ => Gate.During me .none F := by
  refine .bind (lock_audit context) fun _ => .bind (evict_keeps context) fun _ => ?_
  refine .bind (peek_audit context looks) fun found => ?_
  have decided := decides found
  cases found with
  | none =>
      refine .bind decided fun holds => ?_
      cases holds with
      | true => exact popInvalidate_audit final
      | false => exact unlock_false_audit final
  | some entry =>
      refine .bind decided fun holds => ?_
      cases holds with
      | true => exact popInvalidate_audit final
      | false => exact unlock_false_audit final

theorem update_keeps {subject : T} {now : Nat} {change : Entry T → Program (Gate T P) Unit}
    (context : Context rt me L)
    (changes : ∀ entry, Keeps rt me (.map none) (fun s => L s ∧ s.Known entry) (change entry)) :
    Keeps rt me .none L (update rt subject now change) := by
  refine .bind (lock_audit context) fun _ => .bind (evict_keeps context) fun _ => ?_
  refine .bind (asideAct (M := Out) context (fun s _ _ _ => ⟨0, ?_⟩)
    fun s choice found after follows ok held ran => ?_) fun found => ?_
  · cases s.subjects.cache.peek subject <;> rfl
  · cases peeked : s.subjects.cache.peek subject with
    | none =>
        simp only [peeked] at ran
        obtain ⟨rfl, rfl⟩ := Prod.mk.injEq .. ▸ Option.some.inj ran
        exact ⟨{ Gate.Aside.refl me s with }, fun _ same => by cases same⟩
    | some slot =>
        simp only [peeked] at ran
        obtain ⟨rfl, rfl⟩ := Prod.mk.injEq .. ▸ Option.some.inj ran
        exact ⟨.refl me s, out_of_member (subject, slot) follows.sound
          (s.subjects.cache.peek_eq_some_iff.mp peeked)⟩
  · cases found with
    | none =>
        exact (unlock_audit context).pre fun s _ _ held => ⟨held.1, held.2.1⟩
    | some entry =>
        refine .bind ((changes entry).weaken (fun s _ _ held => ⟨held.1, held.2.1, held.2.2 entry rfl⟩)
          fun _ s _ _ held => ⟨held.1, held.2.1⟩) fun _ => unlock_audit context

theorem copyEntries_keeps {generation : Nat} (context : Context rt me L) :
    Keeps rt me .none L (copyEntries generation) :=
  .bind (lock_audit context) fun _ => .bind (keepsAct context (fun _ _ _ _ => ⟨0, rfl⟩)
    fun s choice entries after _ _ ran => by
      obtain ⟨_, rfl⟩ := Prod.mk.injEq .. ▸ Option.some.inj ran
      exact { Gate.Aside.refl me s with }) fun _ =>
    .bind (unlock_audit context) fun _ => keepsDone

theorem invalidateAll_keeps {entries : List (Entry T)} (context : Context rt me L)
    (known : ∀ s, L s → ∀ entry ∈ entries, s.Known entry) :
    Keeps rt me hold L (invalidateAll entries) := by
  induction entries with
  | nil => exact keepsDone
  | cons entry rest ih =>
      refine .bind ((Entry.invalidate_audit context fun s held => known s held entry
        (List.mem_cons_self ..)).post fun _ s _ _ held => ⟨held.1, held.2.1⟩) fun _ => ih ?_
      exact fun s held other member => known s held other (List.mem_cons_of_mem _ member)

theorem clear_keeps (context : Context rt me L) : Keeps rt me .none L clear := by
  refine .bind (lock_audit context) fun _ => .bind (asideRead
    (M := fun entries s => ∀ entry ∈ entries, s.Known entry) context (fun _ _ _ _ => rfl)
    fun s entries sound _ held viewed => ?_) fun entries => ?_
  · obtain rfl := Option.some.inj viewed
    intro entry member
    obtain ⟨slot, inside, rfl⟩ := List.mem_map.mp member
    exact out_of_member slot sound inside _ rfl
  · have known : Lasting rt fun s : Gate T P => ∀ entry ∈ entries, s.Known entry :=
      .forall fun entry => .forall fun _ => Lasting.known entry
    refine .bind ((invalidateAll_keeps (context.lasting known) fun s held => held.2).post
      fun _ s _ _ held => ⟨held.1, held.2.1⟩) fun _ => .bind ((mapAct (H := fun _ => .emptied)
        (M := fun _ _ => True) context (fun _ _ _ _ => ⟨0, rfl⟩)
        fun s choice result after follows held ran => ?_).post fun _ _ _ _ held => ⟨held.1, held.2.1⟩)
          fun _ => giveBack_audit context fun (s : Gate T P) (held : s.Holding me .emptied) => held
    obtain ⟨_, rfl⟩ := Prod.mk.injEq .. ▸ Option.some.inj ran
    obtain ⟨locked, apart, _⟩ := held.1
    refine ⟨⟨.inl rfl, fun thread taken => ?_, rfl, rfl, rfl, rfl⟩, fun _ _ => Nat.zero_le _,
      ⟨locked, apart⟩, .of_eq rfl rfl rfl rfl, trivial⟩
    exact Option.some.inj (locked.symm.trans taken) ▸ apart

end Subjects

end PolicyGate
