import PolicyGate.Data.Recency
import PolicyGate.Interleaving.Critical
import PolicyGate.Gate.Footprint

namespace PolicyGate

open Interleaving Data

variable {T P : Type} {rt : Runtime} {me : Nat} {c : Lru T (SubjectSlot T)}

namespace Gate

def cache (s : Gate T P) : Lru T (SubjectSlot T) := s.subjects.cache

def SameCache (before after : Gate T P) : Prop := after.cache = before.cache

theorem OnEntries.sameCache {before after : Gate T P} (step : before.OnEntries after) :
    SameCache before after := by
  rw [SameCache, step.same]
  rfl

end Gate

abbrev Blind {α : Type} (program : Program (Gate T P) α) : Prop := program.Always Gate.SameCache

theorem Blind.of_onEntries {α : Type} {program : Program (Gate T P) α}
    (onEntries : OnEntries program) : Blind program :=
  Program.Always.mono onEntries fun _ _ step => step.sameCache

abbrev Makes {α : Type} (me : Nat) (program : Program (Gate T P) α) (c : Lru T (SubjectSlot T))
    (Q : α → Lru T (SubjectSlot T) → Prop) : Prop :=
  program.Secures Gate.cache me (· = c) Q

namespace Makes

open Program

variable {α β : Type} {Q : α → Lru T (SubjectSlot T) → Prop}

theorem bind {program : Program (Gate T P) β} {f : β → Program (Gate T P) α}
    {M : β → Lru T (SubjectSlot T) → Prop} (makes : Makes me program c M)
    (rest : ∀ value c', M value c' → Makes me (f value) c' Q) : Makes me (program >>= f) c Q :=
  Secures.bind makes fun value => .known (rest value)

theorem done {value : α} (held : Q value c) : Makes me (.done value : Program (Gate T P) α) c Q := by
  rintro _ rfl
  exact held

theorem blind {program : Program (Gate T P) β} {f : β → Program (Gate T P) α}
    (blind : Blind program) (rest : ∀ value, Makes me (f value) c Q) :
    Makes me (program >>= f) c Q :=
  Secures.bind (Secures.of_each blind) fun value => .given fun _ => rest value

theorem act {action : Pick → Gate T P → Option (α × Gate T P)}
    (runs : ∀ choice s result after, s.cache = c → action ⟨me, choice⟩ s = some (result, after) →
      Q result after.cache) : Makes me (.act action) c Q := Secures.act runs

end Makes

namespace Subjects

open Program Makes

theorem lock_blind : Blind (lock : Program (Gate T P) Unit) := by
  refine Always.act fun pick s result after ran => ?_
  split at ran
  · cases ran
  · obtain ⟨rfl, rfl⟩ := Prod.mk.injEq .. ▸ Option.some.inj ran
    rfl

theorem unlock_blind : Blind (unlock : Program (Gate T P) Unit) := Each.modify fun _ => rfl

theorem setDirty_blind (dirty : Bool) : Blind (setDirty dirty : Program (Gate T P) Unit) :=
  Each.modify fun _ => rfl

theorem unlock_makes {Q : Unit → Lru T (SubjectSlot T) → Prop} (held : Q () c) :
    Makes me (unlock : Program (Gate T P) Unit) c Q :=
  Secures.modify fun s same => by
    subst same
    exact held

def idle (rt : Runtime) (n : Nat) (slot : T × SubjectSlot T) : Bool :=
  ttl rt < n - slot.2.lastTouched

theorem evict_makes (n : Nat) :
    Makes me (evict rt n : Program (Gate T P) Unit) c fun _ c' => c' = c.sweep (idle rt n) := by
  have popped : ∀ c' : Lru T (SubjectSlot T), c'.sweep (idle rt n) = c.sweep (idle rt n) →
      Makes me (popIdle rt n : Program (Gate T P) _) c' fun popped c'' =>
        popped.elim (c'' = c.sweep (idle rt n)) fun _ => c''.sweep (idle rt n) = c.sweep (idle rt n) := by
    intro c' same
    refine act fun choice s result after start ran => ?_
    subst start
    cases last : s.cache.peekLru with
    | none =>
        have nothing : s.subjects.cache.popLru = none := by
          rw [Lru.popLru, show s.subjects.cache.peekLru = none from last, Option.map_none]
        simp only [nothing] at ran
        obtain ⟨rfl, rfl⟩ := Prod.mk.injEq .. ▸ Option.some.inj ran
        exact (Lru.sweep_of_none last).symm.trans same
    | some slot =>
        have found : s.subjects.cache.popLru = some (slot, s.subjects.cache.withoutLru) := by
          rw [Lru.popLru, show s.subjects.cache.peekLru = some slot from last, Option.map_some]
        simp only [found] at ran
        split at ran
        · rename_i expired
          obtain ⟨rfl, rfl⟩ := Prod.mk.injEq .. ▸ Option.some.inj ran
          exact (Lru.sweep_of_dropped last (decide_eq_true expired)).symm.trans same
        · rename_i fresh
          obtain ⟨rfl, rfl⟩ := Prod.mk.injEq .. ▸ Option.some.inj ran
          exact (Lru.sweep_of_kept last (decide_eq_false fresh)).symm.trans same
  refine Secures.iterate (H := fun _ c' => c'.sweep (idle rt n) = c.sweep (idle rt n))
    (fun _ start => start ▸ rfl) fun _ => .known fun c' same => bind (popped c' same) ?_
  intro popped c'' held
  cases popped with
  | none => exact done held
  | some entry =>
      exact blind (Blind.of_onEntries entry.invalidate_onEntries) fun _ =>
        blind (setDirty_blind true) fun _ => done held

theorem clear_makes : Makes me (clear : Program (Gate T P) Unit) c fun _ c' => c' = .empty := by
  have invalidates : ∀ entries : List (Entry T), Blind (invalidateAll (P := P) entries) := by
    intro entries
    induction entries with
    | nil => exact Always.done
    | cons entry rest ih =>
        exact Always.bind (Blind.of_onEntries entry.invalidate_onEntries) fun _ => ih
  refine blind lock_blind fun _ => blind (Each.read fun _ => rfl) fun entries =>
    blind (invalidates entries) fun _ => bind (Secures.modify fun s _ => ?_) fun _ _ made =>
      unlock_makes made
  rfl

variable [DecidableEq T]

theorem promote_makes (subject : T) (n : Nat) :
    Makes me (promote subject n : Program (Gate T P) _) c fun found c' =>
      (∃ slot, c.peek subject = some slot ∧ found = some slot.entry ∧
        c' = c.place subject (slot.touch n)) ∨ c.peek subject = none ∧ found = none ∧ c' = c := by
  refine act fun choice s result after start ran => ?_
  subst start
  cases found : s.subjects.cache.peek subject with
  | none =>
      simp only [Lru.getMut, found, Option.map_none] at ran
      obtain ⟨rfl, rfl⟩ := Prod.mk.injEq .. ▸ Option.some.inj ran
      exact .inr ⟨found, rfl, rfl⟩
  | some slot =>
      simp only [Lru.getMut, found, Option.map_some] at ran
      obtain ⟨rfl, rfl⟩ := Prod.mk.injEq .. ▸ Option.some.inj ran
      exact .inl ⟨slot, found, rfl, rfl⟩

theorem peek_makes (subject : T) :
    Makes me (peek subject : Program (Gate T P) _) c fun found c' =>
      found = (c.peek subject).map SubjectSlot.entry ∧ c' = c := by
  refine Secures.read fun s found start same => ?_
  subst start
  exact ⟨(Option.some.inj same).symm, rfl⟩

theorem insert_makes (subject : T) (now n : Nat) :
    Makes me (insert rt subject now n : Program (Gate T P) _) c fun _ c' =>
      ∃ entry, c' = (c.push rt.config.maxSubjects subject { entry, lastTouched := n }).2 := by
  refine act fun choice s result after start ran => ?_
  subst start
  refine ⟨createdEntry rt s subject now, ?_⟩
  simp only [Option.some.injEq] at ran
  split at ran <;>
  · obtain ⟨rfl, rfl⟩ := Prod.mk.injEq .. ▸ ran
    rfl

theorem pop_makes (withdrawal : Bool) (subject : T) :
    Makes me (pop withdrawal subject : Program (Gate T P) _) c fun _ c' => c' = c.without subject := by
  refine act fun choice s result after start ran => ?_
  subst start
  have same : (if withdrawal then s.applied else s).subjects.cache = s.cache := by
    cases withdrawal <;> rfl
  generalize (if withdrawal then s.applied else s) = middle at ran same
  cases found : middle.subjects.cache.peek subject with
  | none =>
      simp only [Lru.pop, found, Option.map_none] at ran
      obtain ⟨rfl, rfl⟩ := Prod.mk.injEq .. ▸ Option.some.inj ran
      rw [same] at found
      exact same.trans (Lru.without_of_absent found).symm
  | some slot =>
      simp only [Lru.pop, found, Option.map_some] at ran
      obtain ⟨rfl, rfl⟩ := Prod.mk.injEq .. ▸ Option.some.inj ran
      exact congrArg (Lru.without · subject) same

end Subjects

/-- An operation of `SubjectMap`, with the instant it is given; a callback gets an entry and cannot
touch the map. -/
inductive MapOp (T P : Type) where
  | getOrInsertWith (subject : T) (now : Nat)
  | touch (subject : T) (entry : Entry T) (now : Nat)
  | update (subject : T) (now : Nat) (change : Entry T → Program (Gate T P) Unit)
      (blind : ∀ entry, Blind (change entry))
  | remove (subject : T) (now : Nat)
  | removeIf (subject : T) (now : Nat) (predicate : Entry T → Program (Gate T P) Bool)
      (blind : ∀ entry, Blind (predicate entry))
  | clear

namespace MapOp

def tick (rt : Runtime) : MapOp T P → Option Nat
  | getOrInsertWith _ now | touch _ _ now | update _ now _ _ | remove _ now | removeIf _ now _ _ =>
      some (Subjects.tick rt now)
  | clear => none

variable [DecidableEq T]

def program (rt : Runtime) : MapOp T P → Program (Gate T P) Unit
  | getOrInsertWith subject now => do
      let _ ← Subjects.getOrInsertWith rt subject now
      pure ()
  | touch subject entry now => do
      let _ ← Subjects.touch rt subject entry now
      pure ()
  | update subject now change _ => Subjects.update rt subject now change
  | remove subject now => do
      let _ ← Subjects.remove rt subject now
      pure ()
  | removeIf subject now predicate _ => do
      let _ ← Subjects.removeIf rt subject now predicate
      pure ()
  | clear => Subjects.clear

def swept (rt : Runtime) (now : Nat) (c : Lru T (SubjectSlot T)) : Lru T (SubjectSlot T) :=
  c.sweep (Subjects.idle rt (Subjects.tick rt now))

/-- What the operation makes of the cache `c`. -/
inductive Effect (rt : Runtime) (c : Lru T (SubjectSlot T)) :
    MapOp T P → Lru T (SubjectSlot T) → Prop where
  | promoted {subject : T} {now : Nat} {slot : SubjectSlot T} (found : c.peek subject = some slot) :
      Effect rt c (.getOrInsertWith subject now)
        (swept rt now (c.place subject (slot.touch (Subjects.tick rt now))))
  | inserted {subject : T} {now : Nat} (entry : Entry T) (absent : c.peek subject = none) :
      Effect rt c (.getOrInsertWith subject now)
        (swept rt now ((swept rt now c).push rt.config.maxSubjects subject
          { entry, lastTouched := Subjects.tick rt now }).2)
  | touched {subject : T} {entry : Entry T} {now : Nat} {slot : SubjectSlot T}
      (found : c.peek subject = some slot) (same : slot.entry.id = entry.id) :
      Effect rt c (.touch subject entry now)
        (swept rt now (c.place subject (slot.touch (Subjects.tick rt now))))
  | missed {subject : T} {entry : Entry T} {now : Nat}
      (other : ∀ slot, c.peek subject = some slot → slot.entry.id ≠ entry.id) :
      Effect rt c (.touch subject entry now) (swept rt now c)
  | updated {subject : T} {now : Nat} {change : Entry T → Program (Gate T P) Unit}
      {blind : ∀ entry, Blind (change entry)} :
      Effect rt c (.update subject now change blind) (swept rt now c)
  | removed {subject : T} {now : Nat} :
      Effect rt c (.remove subject now) ((swept rt now c).without subject)
  | kept {subject : T} {now : Nat} {predicate : Entry T → Program (Gate T P) Bool}
      {blind : ∀ entry, Blind (predicate entry)} :
      Effect rt c (.removeIf subject now predicate blind) (swept rt now c)
  | removedIf {subject : T} {now : Nat} {predicate : Entry T → Program (Gate T P) Bool}
      {blind : ∀ entry, Blind (predicate entry)} :
      Effect rt c (.removeIf subject now predicate blind) ((swept rt now c).without subject)
  | cleared : Effect rt c .clear .empty

open Program Makes Subjects

theorem getOrInsertWith_makes (subject : T) (now : Nat) :
    Makes me (Subjects.getOrInsertWith rt subject now : Program (Gate T P) _) c fun _ c' =>
      Effect (P := P) rt c (.getOrInsertWith subject now) c' := by
  refine blind lock_blind fun _ => bind (promote_makes subject _) fun found c₁ promoted => ?_
  rcases promoted with ⟨slot, present, rfl, rfl⟩ | ⟨absent, rfl, rfl⟩
  · refine bind (evict_makes _) fun _ c₂ same => blind unlock_blind fun _ => done ?_
    subst same
    exact .promoted present
  · refine bind (evict_makes _) fun _ c₂ same => bind (insert_makes subject now _) ?_
    rintro ⟨entry, evicted⟩ c₃ ⟨inserted, rfl⟩
    subst same
    have last : Makes me (do
        evict rt (Subjects.tick rt now)
        unlock
        pure (entry, true) : Program (Gate T P) (Entry T × Bool))
        ((swept rt now c₁).push rt.config.maxSubjects subject
          { entry := inserted, lastTouched := Subjects.tick rt now }).2
        fun _ c' => Effect (P := P) rt c₁ (.getOrInsertWith subject now) c' := by
      refine bind (evict_makes _) fun _ c₄ same => blind unlock_blind fun _ => done ?_
      subst same
      exact .inserted inserted absent
    cases evicted with
    | none => exact last
    | some old =>
        exact blind (Blind.of_onEntries old.invalidate_onEntries) fun _ =>
          blind (setDirty_blind true) fun _ => last

theorem touch_makes (subject : T) (entry : Entry T) (now : Nat) :
    Makes me (Subjects.touch rt subject entry now : Program (Gate T P) _) c fun _ c' =>
      Effect (P := P) rt c (.touch subject entry now) c' := by
  refine blind lock_blind fun _ => bind (peek_makes subject) fun found c₁ peeked => ?_
  obtain ⟨rfl, rfl⟩ := peeked
  have last : ∀ (matched : Bool) c', Effect (P := P) rt c₁ (.touch subject entry now) (swept rt now c') →
      Makes me (do
        evict rt (Subjects.tick rt now)
        unlock
        pure matched : Program (Gate T P) Bool) c' fun _ c' =>
          Effect (P := P) rt c₁ (.touch subject entry now) c' := by
    intro matched c' effect
    refine bind (evict_makes _) fun _ c₂ same => blind unlock_blind fun _ => done ?_
    subst same
    exact effect
  dsimp only
  split
  · rename_i matched
    refine Makes.bind (promote_makes subject _) fun found c₂ promoted => last _ _ ?_
    rcases promoted with ⟨slot, present, rfl, rfl⟩ | ⟨absent, rfl, rfl⟩
    · rw [present] at matched
      exact .touched present (of_decide_eq_true matched)
    · rw [absent] at matched
      cases matched
  · rename_i unmatched
    refine last _ _ (.missed fun slot present same => unmatched ?_)
    rw [present]
    exact decide_eq_true same

theorem update_makes (subject : T) (now : Nat) (change : Entry T → Program (Gate T P) Unit)
    (changes : ∀ entry, Blind (change entry)) :
    Makes me (Subjects.update rt subject now change) c fun _ c' => c' = swept rt now c := by
  refine blind lock_blind fun _ => bind (evict_makes _) fun _ c₁ same => ?_
  subst same
  refine blind (Always.act fun pick s result after ran => ?_) fun found => ?_
  · split at ran <;>
    · obtain ⟨rfl, rfl⟩ := Prod.mk.injEq .. ▸ Option.some.inj ran
      rfl
  · cases found with
    | none => exact unlock_makes rfl
    | some entry => exact blind (changes entry) fun _ => unlock_makes rfl

theorem popInvalidate_makes (withdrawal : Bool) (subject : T) :
    Makes me (do
      match ← pop withdrawal subject with
      | some entry => do
          entry.invalidate
          unlock
          pure true
      | none => do
          unlock
          pure false : Program (Gate T P) Bool) c fun _ c' => c' = c.without subject := by
  refine bind (pop_makes withdrawal subject) fun popped c₁ same => ?_
  cases popped with
  | none => exact blind unlock_blind fun _ => done same
  | some entry =>
      exact blind (Blind.of_onEntries entry.invalidate_onEntries) fun _ => blind unlock_blind fun _ =>
        done same

theorem remove_makes (subject : T) (now : Nat) :
    Makes me (Subjects.remove rt subject now : Program (Gate T P) _) c fun _ c' =>
      c' = (swept rt now c).without subject := by
  refine blind lock_blind fun _ => bind (evict_makes _) fun _ c₁ same => ?_
  subst same
  exact popInvalidate_makes true subject

theorem removeIf_makes (subject : T) (now : Nat) (predicate : Entry T → Program (Gate T P) Bool)
    (tests : ∀ entry, Blind (predicate entry)) :
    Makes me (Subjects.removeIf rt subject now predicate) c fun _ c' =>
      c' = swept rt now c ∨ c' = (swept rt now c).without subject := by
  refine blind lock_blind fun _ => bind (evict_makes _) fun _ c₁ same => ?_
  subst same
  refine bind (peek_makes subject) fun found c₁ peeked => ?_
  obtain ⟨rfl, rfl⟩ := peeked
  have last : ∀ holds : Bool, Makes me (if holds then do
      match ← pop false subject with
      | some entry => do
          entry.invalidate
          unlock
          pure true
      | none => do
          unlock
          pure false
    else do
      unlock
      pure false : Program (Gate T P) Bool) (swept rt now c) fun _ c' =>
        c' = swept rt now c ∨ c' = (swept rt now c).without subject := by
    intro holds
    cases holds with
    | true => exact Secures.weaken (popInvalidate_makes false subject) (fun _ held => held) fun _ _ => .inr
    | false => exact blind unlock_blind fun _ => done (.inl rfl)
  cases (c.sweep (idle rt (Subjects.tick rt now))).peek subject with
  | none => exact last false
  | some slot => exact blind (tests slot.entry) fun holds => last holds

theorem program_makes (op : MapOp T P) :
    Makes me (op.program rt) c fun _ c' => Effect rt c op c' := by
  cases op with
  | getOrInsertWith subject now =>
      exact bind (getOrInsertWith_makes subject now) fun _ _ effect => done effect
  | touch subject entry now =>
      exact bind (touch_makes subject entry now) fun _ _ effect => done effect
  | update subject now change changes =>
      exact Secures.weaken (update_makes subject now change changes) (fun _ held => held)
        fun _ _ same => same ▸ .updated
  | remove subject now =>
      exact bind (remove_makes subject now) fun _ _ same => done (same ▸ .removed)
  | removeIf subject now predicate tests =>
      refine bind (removeIf_makes subject now predicate tests) fun _ _ same => done ?_
      rcases same with rfl | rfl
      · exact .kept
      · exact .removedIf
  | clear =>
      exact Secures.weaken clear_makes (fun _ held => held) fun _ _ same => same ▸ .cleared

abbrev Recent (d latest : Nat) (c : Lru T (SubjectSlot T)) : Prop :=
  c.Recent SubjectSlot.lastTouched d latest

variable {op : MapOp T P} {c' : Lru T (SubjectSlot T)} {d latest now : Nat}

theorem recent_promoted {subject : T} {slot : SubjectSlot T} {n : Nat} (recent : Recent d latest c)
    (found : c.peek subject = some slot) (timely : latest ≤ n + d) :
    Recent d (max n latest) (c.place subject (slot.touch n)) := by
  have stamped : slot.lastTouched ≤ latest := recent.stamped _ (c.peek_eq_some_iff.mp found)
  refine (Lru.Recent.mono recent (le_max_right n latest)).place ?_ ?_ <;>
  · simp only [SubjectSlot.touch]
    omega

theorem Effect.swept (effect : Effect rt c op c') {n : Nat} (ticked : op.tick rt = some n) :
    ∃ c₁ : Lru T (SubjectSlot T), c'.entries.Sublist (c₁.sweep (Subjects.idle rt n)).entries ∧
      ∀ {d latest}, Recent d latest c → latest ≤ n + d → Recent d (max n latest) c₁ := by
  cases effect with
  | cleared => cases ticked
  | promoted found | touched found =>
      obtain rfl := Option.some.inj ticked
      exact ⟨_, .refl _, fun recent timely => recent_promoted recent found timely⟩
  | inserted entry absent =>
      obtain rfl := Option.some.inj ticked
      refine ⟨_, .refl _, fun recent timely => Lru.Recent.push (recent.mono (le_max_right _ _)).sweep ?_ ?_⟩ <;>
      · dsimp only
        omega
  | missed | updated | kept =>
      obtain rfl := Option.some.inj ticked
      exact ⟨c, .refl _, fun recent _ => recent.mono (le_max_right _ _)⟩
  | removed | removedIf =>
      obtain rfl := Option.some.inj ticked
      exact ⟨c, List.filter_sublist, fun recent _ => recent.mono (le_max_right _ _)⟩

theorem Effect.recent (effect : Effect rt c op c')
    (recent : c.Recent SubjectSlot.lastTouched d latest)
    (timely : ∀ n, op.tick rt = some n → latest ≤ n + d) :
    c'.Recent SubjectSlot.lastTouched d (max ((op.tick rt).getD 0) latest) := by
  cases ticked : op.tick rt with
  | none =>
      cases effect with
      | cleared => exact Lru.recent_empty
      | _ => cases ticked
  | some n =>
      obtain ⟨c₁, left, recent₁⟩ := effect.swept ticked
      exact (recent₁ recent (timely n ticked)).sweep.sublist left

theorem Effect.length (effect : Effect rt c op c') (positive : 0 < rt.config.maxSubjects)
    (within : c.entries.length ≤ rt.config.maxSubjects) :
    c'.entries.length ≤ rt.config.maxSubjects := by
  have swept : ∀ now (c : Lru T (SubjectSlot T)), (MapOp.swept rt now c).entries.length ≤ c.entries.length :=
    fun now c => (c.sweep_prefix _).length_le
  have without : ∀ now subject,
      ((MapOp.swept rt now c).without subject).entries.length ≤ c.entries.length :=
    fun now subject => (List.length_filter_le _ _).trans (swept now c)
  cases effect with
  | promoted found | touched found =>
      exact (swept _ _).trans ((Lru.length_place_of_present found).trans within)
  | inserted entry absent =>
      exact (swept _ _).trans (Lru.length_push positive _ _ ((swept _ _).trans within))
  | missed | updated | kept => exact (swept _ _).trans within
  | removed | removedIf => exact (without _ _).trans within
  | cleared => exact Nat.zero_le _

/-- The operation is a hit of this slot, or a touch of its entry. -/
def Promotes (slot : T × SubjectSlot T) : MapOp T P → Prop
  | getOrInsertWith subject _ => subject = slot.1
  | touch subject entry _ => subject = slot.1 ∧ slot.2.entry.id = entry.id
  | _ => False

/-- The slot is still there as it was, unless the operation promoted it. -/
def Stays (rt : Runtime) (c' : Lru T (SubjectSlot T)) (op : MapOp T P) (slot : T × SubjectSlot T) :
    Prop :=
  slot ∈ c'.entries ∨
    op.Promotes slot ∧ ∃ n, op.tick rt = some n ∧ (slot.1, slot.2.touch n) ∈ c'.entries

/-- The operation itself is to take out the subject's slot. -/
def Takes (key : T) : MapOp T P → Prop
  | remove subject _ | removeIf subject _ _ _ => subject = key
  | clear => True
  | _ => False

/-- The slot is the least recently promoted one where the operation inserts into a full map. -/
def Displaces (rt : Runtime) (c : Lru T (SubjectSlot T)) (slot : T × SubjectSlot T)
    (op : MapOp T P) : Prop :=
  ∃ subject now, op = .getOrInsertWith subject now ∧ c.peek subject = none ∧
    rt.config.maxSubjects ≤ (swept rt now c).entries.length ∧
    (swept rt now c).peekLru = some slot

omit [DecidableEq T] in
theorem stays_or_idle {slot : T × SubjectSlot T} (member : slot ∈ c.entries) (now : Nat) :
    slot ∈ (swept rt now c).entries ∨ Subjects.idle rt (Subjects.tick rt now) slot = true :=
  Classical.or_iff_not_imp_left.mpr fun gone => Lru.passed_of_swept member gone

theorem stays_promoted {subject : T} {value : SubjectSlot T} {slot : T × SubjectSlot T}
    (found : c.peek subject = some value) (member : slot ∈ c.entries) (now : Nat) :
    slot ∈ (swept rt now (c.place subject (value.touch (Subjects.tick rt now)))).entries ∨
      slot = (subject, value) ∧ (subject, value.touch (Subjects.tick rt now)) ∈
        (swept rt now (c.place subject (value.touch (Subjects.tick rt now)))).entries ∨
      Subjects.idle rt (Subjects.tick rt now) slot = true := by
  by_cases same : slot.1 = subject
  · obtain ⟨key, value'⟩ := slot
    subst same
    obtain rfl : value' = value := c.value_unique member (c.peek_eq_some_iff.mp found)
    have placed : (key, value'.touch (Subjects.tick rt now)) ∈
        (c.place key (value'.touch (Subjects.tick rt now))).entries := List.mem_cons_self
    rcases stays_or_idle placed now with stays | idle
    · exact .inr (.inl ⟨rfl, stays⟩)
    · have overdue : Subjects.ttl rt <
          Subjects.tick rt now - max value'.lastTouched (Subjects.tick rt now) := of_decide_eq_true idle
      omega
  · have placed : slot ∈ (c.place subject (value.touch (Subjects.tick rt now))).entries :=
      c.mem_place.mpr (.inr ⟨member, same⟩)
    exact (stays_or_idle placed now).imp_right .inr

theorem Effect.fate (effect : Effect rt c op c') {slot : T × SubjectSlot T}
    (member : slot ∈ c.entries) :
    Stays rt c' op slot ∨ (∃ n, op.tick rt = some n ∧ Subjects.idle rt n slot = true) ∨
      op.Takes slot.1 ∨ op.Displaces rt c slot := by
  cases effect with
  | @promoted subject now value found =>
      rcases stays_promoted found member now with stays | ⟨rfl, touched⟩ | idle
      · exact .inl (.inl stays)
      · exact .inl (.inr ⟨rfl, _, rfl, touched⟩)
      · exact .inr (.inl ⟨_, rfl, idle⟩)
  | @touched subject _ now value found same =>
      rcases stays_promoted found member now with stays | ⟨rfl, touched⟩ | idle
      · exact .inl (.inl stays)
      · exact .inl (.inr ⟨⟨rfl, same⟩, _, rfl, touched⟩)
      · exact .inr (.inl ⟨_, rfl, idle⟩)
  | @inserted subject now entry absent =>
      rcases stays_or_idle member now with stays | idle
      · rcases Lru.mem_push_or_evicted rt.config.maxSubjects subject
          { entry, lastTouched := Subjects.tick rt now } stays with pushed | evicted
        · rcases stays_or_idle pushed now with stays | idle
          · exact .inl (.inl stays)
          · exact .inr (.inl ⟨_, rfl, idle⟩)
        · have absent' : (MapOp.swept rt now c).peek subject = none := Lru.peek_sweep_of_absent absent
          exact .inr (.inr (.inr ⟨subject, now, rfl, absent, Lru.displaced_of_absent absent' evicted⟩))
      · exact .inr (.inl ⟨_, rfl, idle⟩)
  | @missed _ _ now other | @updated _ now | @kept _ now =>
      exact (stays_or_idle member now).imp .inl fun idle => .inl ⟨_, rfl, idle⟩
  | @removed subject now | @removedIf subject now =>
      rcases stays_or_idle member now with stays | idle
      · by_cases same : slot.1 = subject
        · exact .inr (.inr (.inl same.symm))
        · exact .inl (.inl ((Lru.mem_without _).mpr ⟨stays, same⟩))
      · exact .inr (.inl ⟨_, rfl, idle⟩)
  | cleared => exact .inr (.inr (.inl trivial))

theorem Effect.sublist (effect : Effect rt c op c')
    (other : ∀ subject now, op ≠ .getOrInsertWith subject now)
    (unmoved : ∀ slot ∈ c.entries, ¬ op.Promotes slot) : c'.entries.Sublist c.entries := by
  cases effect with
  | promoted | inserted => exact absurd rfl (other _ _)
  | touched found same => exact absurd ⟨rfl, same⟩ (unmoved _ (c.peek_eq_some_iff.mp found))
  | missed | updated | kept => exact (c.sweep_prefix _).sublist
  | removed | removedIf => exact List.filter_sublist.trans (c.sweep_prefix _).sublist
  | cleared => exact List.nil_sublist _

end MapOp

namespace Subjects

theorem idle_iff {now : Nat} {slot : T × SubjectSlot T} :
    idle rt (tick rt now) slot = true ↔
      rt.config.subjectTtl < tick rt now - slot.2.lastTouched := by
  have ticked : tick rt now ≤ u64Max := by
    unfold tick toU64
    split
    · assumption
    · exact le_rfl
  unfold idle ttl toU64
  rw [decide_eq_true_eq]
  split
  · simp only [Option.getD_some]
  · simp only [Option.getD_none]
    omega

theorem ttl_le (rt : Runtime) : ttl rt ≤ rt.config.subjectTtl := by
  unfold ttl toU64
  split <;> simp only [Option.getD_some, Option.getD_none] <;> omega

end Subjects

section

variable [DecidableEq T]

/-- `s` is reached from an empty map by these operations, the latest one first.  The others take what
steps they like between the actions, but the cache is locked. -/
inductive MapReached (rt : Runtime) : List (MapOp T P) → Gate T P → Prop where
  | new {s : Gate T P} (empty : s.cache = .empty) : MapReached rt [] s
  | run {ops : List (MapOp T P)} {op : MapOp T P} {me : Nat} {s s' : Gate T P}
      (reached : MapReached rt ops s)
      (ran : (op.program rt).Amid Gate.SameCache me s () s') : MapReached rt (op :: ops) s'

def MapOp.latest (rt : Runtime) : List (MapOp T P) → Nat
  | [] => 0
  | op :: ops => max ((op.tick rt).getD 0) (latest rt ops)

/-- No operation's tick is earlier than the largest one before it by more than `d`. -/
def MapOp.Timely (rt : Runtime) (d : Nat) : List (MapOp T P) → Prop
  | [] => True
  | op :: ops => (∀ n, op.tick rt = some n → latest rt ops ≤ n + d) ∧ Timely rt d ops

variable {d : Nat} {ops : List (MapOp T P)} {op : MapOp T P} {s s' : Gate T P}

/-- What an operation does to the cache while nobody else touches it. -/
theorem MapOp.effect (ran : (op.program rt).Amid Gate.SameCache me s () s') :
    op.Effect rt s.cache s'.cache := by
  have makes : Makes me (op.program rt) s.cache fun _ c' => op.Effect rt s.cache c' :=
    op.program_makes
  exact Program.Amid.secured ran makes rfl

theorem MapReached.ordered (positive : 0 < rt.config.maxSubjects) (reached : MapReached rt ops s)
    (timely : MapOp.Timely rt d ops) :
    s.cache.Recent SubjectSlot.lastTouched d (MapOp.latest rt ops) ∧
      s.cache.entries.length ≤ rt.config.maxSubjects := by
  induction reached with
  | new empty =>
      rw [empty]
      exact ⟨Lru.recent_empty, Nat.zero_le _⟩
  | run _ ran ih =>
      obtain ⟨recent, within⟩ := ih timely.2
      have effect := MapOp.effect ran
      exact ⟨effect.recent recent timely.1, effect.length positive within⟩

/-- The map holds at most its capacity of slots.  A hit and a touch of the mapped entry put its slot in
front, used at the operation's tick; an insertion puts the new one in front, and at capacity takes out
exactly the least recently promoted one; any other operation keeps what stays in order and as it was.
Otherwise a slot goes only where it has been idle for longer than the TTL at the operation's tick, or
where the operation is to take it out; after an operation that sweeps none that stays is idle for longer
than the TTL and `d`; and a touch of another entry leaves what stays as it is. -/
theorem idle_slots_are_swept (positive : 0 < rt.config.maxSubjects) (reached : MapReached rt ops s)
    (timely : MapOp.Timely rt d (op :: ops))
    (ran : (op.program rt).Amid Gate.SameCache me s () s') :
    s'.cache.entries.length ≤ rt.config.maxSubjects ∧
    (∀ subject now slot, s.cache.peek subject = some slot →
      op = .getOrInsertWith subject now ∨
        (∃ entry, op = .touch subject entry now ∧ slot.entry.id = entry.id) →
      s'.cache = MapOp.swept rt now (s.cache.place subject (slot.touch (Subjects.tick rt now)))) ∧
    (∀ subject now, op = .getOrInsertWith subject now → s.cache.peek subject = none →
      ∃ entry, let slot : SubjectSlot T := { entry, lastTouched := Subjects.tick rt now }
        let swept := MapOp.swept rt now s.cache
        (swept.entries.length < rt.config.maxSubjects →
          s'.cache = MapOp.swept rt now (swept.place subject slot)) ∧
        (swept.entries.length = rt.config.maxSubjects →
          s'.cache = MapOp.swept rt now (swept.withoutLru.place subject slot))) ∧
    ((∀ subject now, op ≠ .getOrInsertWith subject now) →
      (∀ slot ∈ s.cache.entries, ¬ op.Promotes slot) → s'.cache.entries.Sublist s.cache.entries) ∧
    (∀ slot ∈ s.cache.entries, MapOp.Stays rt s'.cache op slot ∨
      (∃ n, op.tick rt = some n ∧ rt.config.subjectTtl < n - slot.2.lastTouched) ∨
      op.Takes slot.1 ∨ op.Displaces rt s.cache slot) ∧
    (∀ n, op.tick rt = some n → ∀ slot ∈ s'.cache.entries,
      n - slot.2.lastTouched ≤ rt.config.subjectTtl + d) ∧
    ∀ subject entry now, op = .touch subject entry now →
      (∀ slot, s.cache.peek subject = some slot → slot.entry.id ≠ entry.id) →
        s'.cache.entries <+: s.cache.entries := by
  obtain ⟨recent, within⟩ := reached.ordered positive timely.2
  have effect := MapOp.effect ran
  generalize s'.cache = c' at effect ⊢
  refine ⟨effect.length positive within, ?_, ?_, effect.sublist, fun slot member => ?_,
    fun n ticked slot member => ?_, ?_⟩
  · rintro subject now slot present (rfl | ⟨entry, rfl, same⟩)
    · cases effect with
      | promoted found => rw [Option.some.inj (present.symm.trans found)]
      | inserted entry absent =>
          rw [present] at absent
          cases absent
    · cases effect with
      | touched found _ => rw [Option.some.inj (present.symm.trans found)]
      | missed other => exact absurd same (other slot present)
  · rintro subject now rfl absent
    cases effect with
    | promoted found =>
        rw [absent] at found
        cases found
    | inserted entry _ =>
        have absent' : (MapOp.swept rt now s.cache).peek subject = none :=
          Lru.peek_sweep_of_absent absent
        refine ⟨entry, fun room => ?_, fun full => ?_⟩
        · rw [Lru.push_of_room _ absent' room]
        · rw [Lru.push_of_full _ absent' full.ge]
  · refine (effect.fate member).imp_right fun gone => gone.imp_left ?_
    rintro ⟨n, ticked, idle⟩
    refine ⟨n, ticked, ?_⟩
    cases op with
    | clear => cases ticked
    | _ =>
        obtain rfl := Option.some.inj ticked
        exact Subjects.idle_iff.mp idle
  · obtain ⟨c₁, left, recent₁⟩ := effect.swept ticked
    have bounded := (recent₁ recent (timely.1 n ticked)).idle_of_swept (left.subset member)
    have configured := Subjects.ttl_le rt
    omega
  · rintro subject entry now rfl other
    cases effect with
    | touched found same => exact absurd same (other _ found)
    | missed => exact s.cache.sweep_prefix _

namespace Sample

def narrow : Runtime :=
  { config := { maxSubjects := 2, subjectTtl := 100 }, latest := 10 ^ 30, constructed := 0 }

def after (ops : List (MapOp Nat Nat)) : Option (Gate Nat Nat) :=
  ops.foldr (fun op s => s.bind fun s => ((op.program narrow).alone 1 0 20 s).map Prod.snd)
    (some (Gate.new 0 fun _ => none))

theorem after_cons (op : MapOp Nat Nat) (ops : List (MapOp Nat Nat)) :
    after (op :: ops) =
      (after ops).bind fun s => ((op.program narrow).alone 1 0 20 s).map Prod.snd := rfl

theorem reached_after {ops : List (MapOp Nat Nat)} {s : Gate Nat Nat} (ran : after ops = some s) :
    MapReached narrow ops s := by
  induction ops generalizing s with
  | nil =>
      obtain rfl := Option.some.inj ran
      exact .new rfl
  | cons op ops ih =>
      obtain ⟨before, reached, further⟩ := Option.bind_eq_some_iff.mp (after_cons op ops ▸ ran)
      obtain ⟨⟨_, final⟩, alone, rfl⟩ := Option.map_eq_some_iff.mp further
      exact .run (ih reached) ((Program.Solo.of_alone alone).amid fun _ => rfl)

end Sample

/-- A hit puts the older of two slots in front again. -/
theorem idle_slots_are_swept_sample : ∃ (s s' : Gate Nat Nat) (slot : SubjectSlot Nat),
    Sample.after [.getOrInsertWith 1 5, .getOrInsertWith 0 0] = some s ∧
      Sample.after [.getOrInsertWith 0 10, .getOrInsertWith 1 5, .getOrInsertWith 0 0] = some s' ∧
      s.cache.peek 0 = some slot ∧
      s'.cache = MapOp.swept Sample.narrow 10
        (s.cache.place 0 (slot.touch (Subjects.tick Sample.narrow 10))) ∧
      s'.cache.entries.length ≤ 2 ∧ ∀ slot ∈ s'.cache.entries, 10 - slot.2.lastTouched ≤ 100 := by
  have runs : (Sample.after
      [.getOrInsertWith 0 10, .getOrInsertWith 1 5, .getOrInsertWith 0 0]).isSome = true := by
    decide +kernel
  have held : (Sample.after [.getOrInsertWith 1 5, .getOrInsertWith 0 0]).all
      (fun s => (s.cache.peek 0).isSome) = true := by decide +kernel
  obtain ⟨s', ran⟩ := Option.isSome_iff_exists.mp runs
  obtain ⟨s, first, further⟩ := Option.bind_eq_some_iff.mp (Sample.after_cons _ _ ▸ ran)
  obtain ⟨⟨_, final⟩, alone, rfl⟩ := Option.map_eq_some_iff.mp further
  rw [first, Option.all_some, Option.isSome_iff_exists] at held
  obtain ⟨slot, present⟩ := held
  have timely : MapOp.Timely (P := Nat) Sample.narrow 0
      [.getOrInsertWith 0 10, .getOrInsertWith 1 5, .getOrInsertWith 0 0] := by
    refine ⟨fun n ticked => ?_, fun n ticked => ?_, fun _ _ => Nat.zero_le _, trivial⟩ <;>
    · obtain rfl := Option.some.inj ticked
      decide
  obtain ⟨within, hit, _, _, _, fresh, _⟩ := idle_slots_are_swept (by decide)
    (Sample.reached_after first) timely ((Program.Solo.of_alone alone).amid fun _ => rfl)
  exact ⟨s, final, slot, first, ran, present, hit 0 10 slot present (.inl rfl), within, fresh 10 rfl⟩

end

end PolicyGate
