import Mathlib.Data.List.Nodup
import Mathlib.Data.List.Pairwise
import Mathlib.Data.List.Basic

namespace Data

/-- A least-recently-used cache: distinct keys, the most recently promoted first. -/
structure Lru (α β : Type) where
  entries : List (α × β)
  distinct : (entries.map Prod.fst).Nodup

namespace Lru

variable {α β : Type}

def empty : Lru α β := ⟨[], List.nodup_nil⟩

theorem value_unique (cache : Lru α β) {key : α} {left right : β}
    (first : (key, left) ∈ cache.entries) (second : (key, right) ∈ cache.entries) :
    left = right :=
  congrArg Prod.snd (List.inj_on_of_nodup_map cache.distinct first second rfl)

def keep (cache : Lru α β) (test : α × β → Bool) : Lru α β :=
  ⟨cache.entries.filter test, cache.distinct.sublist (List.filter_sublist.map Prod.fst)⟩

def peekLru (cache : Lru α β) : Option (α × β) := cache.entries.getLast?

def withoutLru (cache : Lru α β) : Lru α β :=
  ⟨cache.entries.dropLast, cache.distinct.sublist ((List.dropLast_sublist _).map Prod.fst)⟩

def popLru (cache : Lru α β) : Option ((α × β) × Lru α β) :=
  cache.peekLru.map fun slot => (slot, cache.withoutLru)

theorem entries_of_peekLru {cache : Lru α β} {slot : α × β} (last : cache.peekLru = some slot) :
    cache.entries = cache.withoutLru.entries ++ [slot] :=
  (List.dropLast_append_getLast? slot last).symm

theorem mem_of_peekLru {cache : Lru α β} {slot : α × β} (last : cache.peekLru = some slot) :
    slot ∈ cache.entries := by
  rw [entries_of_peekLru last]
  simp

theorem mem_withoutLru {cache : Lru α β} {slot other : α × β}
    (last : cache.peekLru = some slot) :
    other ∈ cache.withoutLru.entries ↔ other ∈ cache.entries ∧ other.1 ≠ slot.1 := by
  have split := entries_of_peekLru last
  have distinct := cache.distinct
  rw [split, List.map_append, List.nodup_append] at distinct
  rw [split]
  simp only [List.mem_append, List.mem_singleton]
  constructor
  · intro member
    exact ⟨.inl member, distinct.2.2 _ (List.mem_map_of_mem member) _ (by simp)⟩
  · rintro ⟨member | rfl, different⟩
    · exact member
    · exact absurd rfl different

variable [DecidableEq α]

def peek (cache : Lru α β) (key : α) : Option β :=
  (cache.entries.find? fun slot => slot.1 = key).map Prod.snd

def without (cache : Lru α β) (key : α) : Lru α β := cache.keep fun slot => slot.1 ≠ key

def place (cache : Lru α β) (key : α) (value : β) : Lru α β :=
  ⟨(key, value) :: (cache.without key).entries, by
    simp only [List.map_cons, List.nodup_cons]
    refine ⟨?_, (cache.without key).distinct⟩
    simp [without, keep]⟩

def getMut (cache : Lru α β) (key : α) (update : β → β) : Option (β × Lru α β) :=
  (cache.peek key).map fun value => (update value, cache.place key (update value))

def push (cache : Lru α β) (capacity : Nat) (key : α) (value : β) :
    Option (α × β) × Lru α β :=
  match cache.peek key with
  | some old => (some (key, old), cache.place key value)
  | none =>
      if cache.entries.length < capacity then (none, cache.place key value)
      else (cache.peekLru, cache.withoutLru.place key value)

def pop (cache : Lru α β) (key : α) : Option (β × Lru α β) :=
  (cache.peek key).map fun value => (value, cache.without key)

theorem peek_eq_some_iff (cache : Lru α β) {key : α} {value : β} :
    cache.peek key = some value ↔ (key, value) ∈ cache.entries := by
  constructor
  · intro found
    obtain ⟨⟨key', value'⟩, first, rfl⟩ := Option.map_eq_some_iff.mp found
    have same : key' = key := by simpa using List.find?_some first
    exact same ▸ List.mem_of_find?_eq_some first
  · intro member
    cases found : cache.entries.find? fun slot => slot.1 = key with
    | none =>
        have absent := List.find?_eq_none.mp found (key, value) member
        simp at absent
    | some slot =>
        obtain ⟨key', value'⟩ := slot
        have same : key' = key := by simpa using List.find?_some found
        subst same
        rw [peek, found, Option.map_some,
          cache.value_unique (List.mem_of_find?_eq_some found) member]

theorem peek_eq_none_iff (cache : Lru α β) {key : α} :
    cache.peek key = none ↔ ∀ value, (key, value) ∉ cache.entries := by
  rw [Option.eq_none_iff_forall_ne_some]
  exact forall_congr' fun value => not_congr cache.peek_eq_some_iff

theorem mem_without (cache : Lru α β) {key : α} {slot : α × β} :
    slot ∈ (cache.without key).entries ↔ slot ∈ cache.entries ∧ slot.1 ≠ key := by
  simp [without, keep]

theorem without_of_absent {cache : Lru α β} {key : α} (absent : cache.peek key = none) :
    cache.without key = cache := by
  have none : cache.entries.filter (fun slot => slot.1 ≠ key) = cache.entries := by
    refine List.filter_eq_self.mpr fun slot member => decide_eq_true ?_
    rintro rfl
    exact cache.peek_eq_none_iff.mp absent slot.2 member
  cases cache
  simpa [without, keep] using none

theorem mem_place (cache : Lru α β) {key : α} {value : β} {slot : α × β} :
    slot ∈ (cache.place key value).entries ↔
      slot = (key, value) ∨ (slot ∈ cache.entries ∧ slot.1 ≠ key) := by
  rw [← mem_without, place, List.mem_cons]

theorem mem_push_self (cache : Lru α β) (capacity : Nat) (key : α) (value : β) :
    (key, value) ∈ (cache.push capacity key value).2.entries := by
  unfold push
  cases cache.peek key with
  | some old => exact cache.mem_place.mpr (.inl rfl)
  | none =>
      dsimp only
      split
      · exact cache.mem_place.mpr (.inl rfl)
      · exact cache.withoutLru.mem_place.mpr (.inl rfl)

theorem mem_of_mem_push {cache : Lru α β} {capacity : Nat} {key : α} {value : β} {slot : α × β}
    (member : slot ∈ (cache.push capacity key value).2.entries) :
    slot = (key, value) ∨ slot ∈ cache.entries := by
  unfold push at member
  cases found : cache.peek key with
  | some old =>
      rw [found] at member
      exact (cache.mem_place.mp member).imp_right And.left
  | none =>
      rw [found] at member
      dsimp only at member
      split at member
      · exact (cache.mem_place.mp member).imp_right And.left
      · exact (cache.withoutLru.mem_place.mp member).imp_right fun old =>
          (List.dropLast_sublist cache.entries).subset old.1

/-- Whatever a `push` displaces, it hands back. -/
theorem mem_push_or_evicted {cache : Lru α β} {slot : α × β} (capacity : Nat) (key : α) (value : β)
    (member : slot ∈ cache.entries) :
    slot ∈ (cache.push capacity key value).2.entries ∨
      (cache.push capacity key value).1 = some slot := by
  unfold push
  cases found : cache.peek key with
  | some old =>
      by_cases same : slot.1 = key
      · obtain ⟨key', value'⟩ := slot
        subst same
        rw [cache.value_unique member (cache.peek_eq_some_iff.mp found)]
        exact .inr rfl
      · exact .inl (cache.mem_place.mpr (.inr ⟨member, same⟩))
  | none =>
      have different : slot.1 ≠ key := by
        rintro rfl
        exact cache.peek_eq_none_iff.mp found slot.2 member
      dsimp only
      split
      · exact .inl (cache.mem_place.mpr (.inr ⟨member, different⟩))
      · cases last : cache.peekLru with
        | none =>
            rw [List.getLast?_eq_none_iff.mp last] at member
            cases member
        | some evicted =>
            rw [entries_of_peekLru last, List.mem_append, List.mem_singleton] at member
            rcases member with stays | rfl
            · exact .inl (cache.withoutLru.mem_place.mpr (.inr ⟨stays, different⟩))
            · exact .inr rfl

theorem mem_of_evicted {cache : Lru α β} {capacity : Nat} {key : α} {value : β} {slot : α × β}
    (evicted : (cache.push capacity key value).1 = some slot) : slot ∈ cache.entries := by
  unfold push at evicted
  cases found : cache.peek key with
  | some old =>
      rw [found] at evicted
      obtain rfl := Option.some.inj evicted
      exact cache.peek_eq_some_iff.mp found
  | none =>
      rw [found] at evicted
      dsimp only at evicted
      split at evicted
      · cases evicted
      · exact mem_of_peekLru evicted

theorem key_ne_of_mem_push {cache : Lru α β} {capacity : Nat} {key : α} {value : β}
    {slot evicted : α × β} (displaced : (cache.push capacity key value).1 = some evicted)
    (member : slot ∈ (cache.push capacity key value).2.entries) :
    slot = (key, value) ∨ slot.1 ≠ evicted.1 := by
  unfold push at displaced member
  cases found : cache.peek key with
  | some old =>
      rw [found] at displaced member
      obtain rfl := Option.some.inj displaced
      exact (cache.mem_place.mp member).imp_right And.right
  | none =>
      rw [found] at displaced member
      dsimp only at displaced member
      split at displaced
      · cases displaced
      · rename_i full
        rw [if_neg full] at member
        exact (cache.withoutLru.mem_place.mp member).imp_right fun kept =>
          ((mem_withoutLru displaced).mp kept.1).2

end Lru

end Data
