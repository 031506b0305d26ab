import PolicyGate.Preservation.Publications
import PolicyGate.Preservation.Slots

namespace PolicyGate

open Data

variable {T P : Type} {config : PolicyGateConfig} {s : Gate T P}

theorem Guarded.updateSubjects {me : Nat} {f : SubjectMap T → SubjectMap T}
    (holds : ∀ id, (s.cells id).isSome = true → (f s.subjects).Holds id → s.subjects.Holds id) :
    Guarded me s (s.updateSubjects f) where
  toAdvance := .of_related le_rfl le_rfl le_rfl le_rfl (.refl fun i cell _ => .refl i cell)
    (.refl fun i flight _ => .refl i flight) fun id held known => holds id known held
  owned _ _ _ := .rfl
  watch _ := ⟨rfl, rfl⟩
  copies _ member _ := member

structure LeavesCache (before after : Data.Lru T (SubjectSlot T)) (slot : T × SubjectSlot T) :
    Prop where
  member : slot ∈ before.entries
  stays : ∀ other ∈ before.entries, other ∈ after.entries ∨ other = slot
  only : ∀ other ∈ after.entries, other ∈ before.entries ∧ other.1 ≠ slot.1

theorem LeavesCache.popLru {before after : Data.Lru T (SubjectSlot T)} {slot : T × SubjectSlot T}
    (popped : before.popLru = some (slot, after)) : LeavesCache before after slot := by
  obtain ⟨last, peeked, same⟩ := Option.map_eq_some_iff.mp popped
  obtain ⟨rfl, rfl⟩ := Prod.mk.injEq .. ▸ same
  refine ⟨Data.Lru.mem_of_peekLru peeked, fun other member => ?_, fun other member =>
    (Data.Lru.mem_withoutLru peeked).mp member⟩
  have split := Data.Lru.entries_of_peekLru peeked
  rw [split, List.mem_append, List.mem_singleton] at member
  exact member

theorem MapOk.remove {cells : Nat → Option (EntryCell T P)} {flights : Nat → Option (Flight T P)}
    {map : SubjectMap T} {era : Option Nat} {cache : Data.Lru T (SubjectSlot T)}
    {slot : T × SubjectSlot T} (ok : MapOk cells flights map era)
    (leaves : LeavesCache map.cache cache slot) (locked : map.lock ≠ none) :
    MapOk cells flights (map.remove cache slot.2.entry) era where
  slots other member := ok.slots other (leaves.only other member).1
  limbo entry member := by
    rcases List.mem_cons.mp member with rfl | old
    · obtain ⟨cell, found, same, _, session⟩ := ok.slots slot leaves.member
      exact ⟨cell, found, same, .inr session⟩
    · exact ok.limbo entry old
  placed id cell found := by
    rcases ok.placed id cell found with ⟨other, member, rfl⟩ | ⟨entry, member, rfl⟩ | dead
    · rcases leaves.stays other member with stays | rfl
      · exact .inl ⟨other, stays, rfl⟩
      · exact .inr (.inl ⟨other.2.entry, List.mem_cons_self, rfl⟩)
    · exact .inr (.inl ⟨entry, List.mem_cons_of_mem _ member, rfl⟩)
    · exact .inr (.inr dead)
  unlocked free := absurd free locked
  apart entry member := by
    rintro ⟨other, stayed, same⟩
    obtain ⟨old, different⟩ := leaves.only other stayed
    rcases List.mem_cons.mp member with rfl | before
    · obtain ⟨cell, found, _, subject, _⟩ := ok.slots other old
      obtain ⟨cell', found', _, subject', _⟩ := ok.slots slot leaves.member
      rw [same, found', Option.some.injEq] at found
      exact different (subject.trans (found ▸ subject'.symm))
    · exact ok.apart entry before ⟨other, old, same⟩

theorem SubjectMap.holds_remove {map : SubjectMap T} {cache : Data.Lru T (SubjectSlot T)}
    {slot : T × SubjectSlot T} (leaves : LeavesCache map.cache cache slot) {id : Nat} {entry : Entry T}
    (held : (map.remove cache entry).Holds id) : map.Holds id := by
  obtain ⟨other, member, same⟩ := held
  exact ⟨other, (leaves.only other member).1, same⟩

variable [DecidableEq T]

theorem GuardedStep.updateSubjects {me : Nat} {f : SubjectMap T → SubjectMap T} (ok : s.Invariant config)
    (mine : ∀ other, other ≠ me → s.subjects.lock ≠ some other)
    (mapOk : MapOk s.cells s.flights (f s.subjects) s.watch.era)
    (holds : ∀ id, (f s.subjects).Holds id → s.subjects.Holds id) :
    GuardedStep config me s (s.updateSubjects f) := by
  refine ⟨{ ok with map := mapOk, agreement := fun streaming honest => ?_ },
    .updateSubjects fun id _ => holds id, fun other different =>
    { toGuarded := .updateSubjects fun id _ => holds id
      turn := fun held => ⟨held, .of_cells_eq rfl⟩
      publish := fun held => ⟨held, rfl, rfl, fun connected => connected⟩
      subjects := fun theirs => absurd theirs (mine other different) }⟩
  have agreement := ok.agreement streaming honest
  exact agreement.transfer (.of_related (.refl fun _ _ _ => ⟨rfl, rfl⟩)) agreement.emitted
    fun id cell found held quiet => .inl ⟨cell, found, holds id held, rfl, rfl, quiet, rfl⟩

omit [DecidableEq T] in
theorem SubjectMap.not_locked {map : SubjectMap T} {me other : Nat} (locked : map.lock = some me)
    (different : other ≠ me) : map.lock ≠ some other := by
  rw [locked]
  exact owner_ne different

theorem GuardedStep.lock {me : Nat} (ok : s.Invariant config) (free : s.subjects.lock = none) :
    GuardedStep config me s (s.updateSubjects fun map => { map with lock := some me }) :=
  .updateSubjects ok (fun _ _ theirs => by rw [free] at theirs; cases theirs)
    { ok.map with unlocked := nofun } fun _ held => held

theorem GuardedStep.unlock {me : Nat} (ok : s.Invariant config) (locked : s.subjects.lock = some me)
    (dead : ∀ entry ∈ s.subjects.limbo, s.Dead entry.id) :
    GuardedStep config me s (s.updateSubjects SubjectMap.unlocked) := by
  refine .updateSubjects ok (fun _ => SubjectMap.not_locked locked)
    { slots := ok.map.slots, limbo := nofun, unlocked := fun _ => rfl, apart := nofun,
      placed := fun id cell found => ?_ }
    fun _ held => held
  rcases ok.map.placed id cell found with held | ⟨entry, member, rfl⟩ | died
  · exact .inl held
  · obtain ⟨cell', found', died⟩ := dead entry member
    obtain rfl : cell = cell' := Option.some.inj (found.symm.trans found')
    exact .inr (.inr died)
  · exact .inr (.inr died)

theorem LeavesCache.pop {before after : Data.Lru T (SubjectSlot T)} {subject : T}
    {slot : SubjectSlot T} (popped : before.pop subject = some (slot, after)) :
    LeavesCache before after (subject, slot) := by
  obtain ⟨found, peeked, same⟩ := Option.map_eq_some_iff.mp popped
  obtain ⟨rfl, rfl⟩ := Prod.mk.injEq .. ▸ same
  have member := before.peek_eq_some_iff.mp peeked
  refine ⟨member, fun other at_other => ?_, fun other at_other => before.mem_without.mp at_other⟩
  by_cases same : other.1 = subject
  · obtain ⟨key, value⟩ := other
    subst same
    exact .inr (by rw [before.value_unique at_other member])
  · exact .inl (before.mem_without.mpr ⟨at_other, same⟩)

theorem GuardedStep.remove {me : Nat} {cache : Data.Lru T (SubjectSlot T)} {slot : T × SubjectSlot T}
    (ok : s.Invariant config) (locked : s.subjects.lock = some me)
    (leaves : LeavesCache s.subjects.cache cache slot) :
    GuardedStep config me s (s.updateSubjects fun map => map.remove cache slot.2.entry) :=
  .updateSubjects ok (fun _ => SubjectMap.not_locked locked)
    (ok.map.remove leaves (by rw [locked]; nofun)) fun _ => SubjectMap.holds_remove leaves

theorem GuardedStep.promote {me : Nat} {subject : T} {tick : Nat} {slot : SubjectSlot T}
    {cache : Data.Lru T (SubjectSlot T)} (ok : s.Invariant config)
    (locked : s.subjects.lock = some me)
    (promoted : s.subjects.cache.getMut subject (fun slot => slot.touch tick) = some (slot, cache)) :
    GuardedStep config me s (s.updateSubjects fun map => map.setCache cache) := by
  obtain ⟨found, peeked, same⟩ := Option.map_eq_some_iff.mp promoted
  obtain ⟨rfl, rfl⟩ := Prod.mk.injEq .. ▸ same
  have member := s.subjects.cache.peek_eq_some_iff.mp peeked
  have old : ∀ other ∈ (s.subjects.cache.place subject (found.touch tick)).entries,
      ∃ other' ∈ s.subjects.cache.entries, other'.1 = other.1 ∧ other'.2.entry = other.2.entry := by
    intro other at_other
    rcases s.subjects.cache.mem_place.mp at_other with rfl | ⟨old, _⟩
    · exact ⟨_, member, rfl, rfl⟩
    · exact ⟨other, old, rfl, rfl⟩
  have new : ∀ other ∈ s.subjects.cache.entries,
      ∃ other' ∈ (s.subjects.cache.place subject (found.touch tick)).entries,
        other'.2.entry = other.2.entry := by
    rintro ⟨key, value⟩ at_other
    by_cases same : key = subject
    · subst same
      rw [s.subjects.cache.value_unique at_other member]
      exact ⟨_, s.subjects.cache.mem_place.mpr (.inl rfl), rfl⟩
    · exact ⟨_, s.subjects.cache.mem_place.mpr (.inr ⟨at_other, same⟩), rfl⟩
  refine .updateSubjects ok (fun _ => SubjectMap.not_locked locked)
    { slots := fun other at_other => ?_, limbo := ok.map.limbo, placed := fun id cell found => ?_,
      unlocked := ok.map.unlocked, apart := fun entry removed => ?_ } ?_
  · obtain ⟨other', member', key, entry⟩ := old other at_other
    rw [← key, ← entry]
    exact ok.map.slots other' member'
  · rcases ok.map.placed id cell found with ⟨other, at_other, rfl⟩ | rest
    · obtain ⟨other', member', entry⟩ := new other at_other
      exact .inl ⟨other', member', by rw [entry]⟩
    · exact .inr rest
  · rintro ⟨other, at_other, same⟩
    obtain ⟨other', member', _, entry'⟩ := old other at_other
    exact ok.map.apart entry removed ⟨other', member', by rw [entry', same]⟩
  · rintro id ⟨other, at_other, rfl⟩
    obtain ⟨other', member', _, entry⟩ := old other at_other
    exact ⟨other', member', by rw [entry]⟩

end PolicyGate
