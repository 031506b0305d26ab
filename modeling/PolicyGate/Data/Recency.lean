import PolicyGate.Data.Lru
import Mathlib.Data.List.DropRight

namespace Data.Lru

/-! The order in which a cache was promoted, against the times at which its slots were last used.

Where the times of the uses come out of order by at most `slack`, so do the stamps along the cache,
and a sweep from the least recently promoted end misses idle slots by no more than that.
-/

variable {α β : Type} {stamp : β → Nat} {slack latest now limit : Nat} {cache : Lru α β}
  {test : α × β → Bool} {slot : α × β}

def sweep (test : α × β → Bool) (cache : Lru α β) : Lru α β :=
  ⟨cache.entries.rdropWhile test,
    cache.distinct.sublist ((List.rdropWhile_prefix test _).sublist.map Prod.fst)⟩

theorem entries_sweep (test : α × β → Bool) (cache : Lru α β) :
    (cache.sweep test).entries = cache.entries.rdropWhile test := rfl

theorem ext_entries {left right : Lru α β} (same : left.entries = right.entries) : left = right := by
  cases left
  cases right
  simpa using same

theorem sweep_of_none (empty : cache.peekLru = none) : cache.sweep test = cache := by
  have none : cache.entries = [] := List.getLast?_eq_none_iff.mp empty
  apply ext_entries
  simp [sweep, none]

theorem sweep_of_kept (last : cache.peekLru = some slot) (kept : test slot = false) :
    cache.sweep test = cache := by
  apply ext_entries
  rw [entries_sweep, entries_of_peekLru last]
  exact List.rdropWhile_concat_neg _ _ _ (by simp [kept])

theorem sweep_of_dropped (last : cache.peekLru = some slot) (dropped : test slot = true) :
    cache.sweep test = cache.withoutLru.sweep test := by
  apply ext_entries
  rw [entries_sweep, entries_of_peekLru last]
  exact List.rdropWhile_concat_pos _ _ _ dropped

theorem sweep_prefix (test : α × β → Bool) (cache : Lru α β) :
    (cache.sweep test).entries <+: cache.entries := List.rdropWhile_prefix _ _

theorem passed_of_swept (member : slot ∈ cache.entries) (gone : slot ∉ (cache.sweep test).entries) :
    test slot = true := by
  have both : (cache.sweep test).entries ++ cache.entries.rtakeWhile test = cache.entries :=
    List.rdropWhile_append_rtakeWhile
  rw [← both, List.mem_append] at member
  exact List.mem_rtakeWhile_imp (member.resolve_left gone)

theorem failed_of_last (last : (cache.sweep test).peekLru = some slot) : test slot = false := by
  obtain ⟨nonempty, rfl⟩ := List.mem_getLast?_eq_getLast last
  exact Bool.eq_false_iff.mpr (List.rdropWhile_last_not _ _ nonempty)

/-- No stamp is later than `latest`, and none is later than that of a slot promoted since by more
than `slack`. -/
structure Recent (stamp : β → Nat) (slack latest : Nat) (cache : Lru α β) : Prop where
  ordered : cache.entries.Pairwise fun newer older => stamp older.2 ≤ stamp newer.2 + slack
  stamped : ∀ slot ∈ cache.entries, stamp slot.2 ≤ latest

theorem recent_empty : Recent stamp slack latest (empty : Lru α β) := ⟨.nil, nofun⟩

theorem Recent.mono {later : Nat} (recent : Recent stamp slack latest cache)
    (since : latest ≤ later) : Recent stamp slack later cache :=
  ⟨recent.ordered, fun slot member => (recent.stamped slot member).trans since⟩

theorem Recent.sublist {fewer : Lru α β} (recent : Recent stamp slack latest cache)
    (sub : fewer.entries.Sublist cache.entries) : Recent stamp slack latest fewer :=
  ⟨recent.ordered.sublist sub, fun slot member => recent.stamped slot (sub.subset member)⟩

theorem Recent.sweep (recent : Recent stamp slack latest cache) :
    Recent stamp slack latest (cache.sweep test) :=
  recent.sublist (cache.sweep_prefix test).sublist

/-- A sweep for idle slots leaves none that is idle for longer than the limit and the slack. -/
theorem Recent.idle_of_swept (recent : Recent stamp slack latest cache)
    (member : slot ∈ (cache.sweep fun slot => limit < now - stamp slot.2).entries) :
    now - stamp slot.2 ≤ limit + slack := by
  have swept : Recent stamp slack latest (cache.sweep fun slot => limit < now - stamp slot.2) :=
    recent.sweep
  cases last : (cache.sweep fun slot => limit < now - stamp slot.2).peekLru with
  | none =>
      rw [List.getLast?_eq_none_iff.mp last] at member
      cases member
  | some oldest =>
      have fresh := failed_of_last last
      have ordered := swept.ordered
      rw [entries_of_peekLru last] at member ordered
      simp only [decide_eq_false_iff_not] at fresh
      rcases List.mem_append.mp member with newer | same
      · have close := (List.pairwise_append.mp ordered).2.2 slot newer oldest (by simp)
        omega
      · obtain rfl := List.mem_singleton.mp same
        omega

variable [DecidableEq α]

theorem Recent.without (recent : Recent stamp slack latest cache) (key : α) :
    Recent stamp slack latest (cache.without key) :=
  recent.sublist List.filter_sublist

theorem Recent.place {key : α} {value : β} (recent : Recent stamp slack latest cache)
    (timely : latest ≤ stamp value + slack) (bounded : stamp value ≤ latest) :
    Recent stamp slack latest (cache.place key value) := by
  have others := recent.without key
  refine ⟨List.pairwise_cons.mpr ⟨fun slot member => ?_, others.ordered⟩, fun slot member => ?_⟩
  · exact (others.stamped slot member).trans timely
  · rcases List.mem_cons.mp member with rfl | older
    · exact bounded
    · exact others.stamped slot older

theorem Recent.push {capacity : Nat} {key : α} {value : β}
    (recent : Recent stamp slack latest cache) (timely : latest ≤ stamp value + slack)
    (bounded : stamp value ≤ latest) :
    Recent stamp slack latest (cache.push capacity key value).2 := by
  unfold Lru.push
  cases cache.peek key with
  | some old => exact recent.place timely bounded
  | none =>
      dsimp only
      split
      · exact recent.place timely bounded
      · exact (recent.sublist (List.dropLast_sublist _)).place timely bounded

theorem length_place (cache : Lru α β) (key : α) (value : β) :
    (cache.place key value).entries.length ≤ cache.entries.length + 1 := by
  simp only [place, List.length_cons, without, keep]
  have := List.length_filter_le (fun slot : α × β => decide (slot.1 ≠ key)) cache.entries
  omega

theorem length_place_of_present {key : α} {value old : β} (present : cache.peek key = some old) :
    (cache.place key value).entries.length ≤ cache.entries.length := by
  have member := cache.peek_eq_some_iff.mp present
  have fewer : (cache.without key).entries.length < cache.entries.length := by
    refine List.length_filter_lt_length_iff_exists.mpr ⟨_, member, ?_⟩
    simp
  simp only [place, List.length_cons]
  omega

theorem length_push {capacity : Nat} (positive : 0 < capacity) (key : α) (value : β)
    (within : cache.entries.length ≤ capacity) :
    (cache.push capacity key value).2.entries.length ≤ capacity := by
  unfold push
  cases found : cache.peek key with
  | some old => exact (length_place_of_present found).trans within
  | none =>
      dsimp only
      split
      · have grown := cache.length_place key value
        dsimp only
        omega
      · have grown := cache.withoutLru.length_place key value
        have shorter : cache.withoutLru.entries.length = cache.entries.length - 1 :=
          List.length_dropLast
        dsimp only
        omega

theorem push_of_room {capacity : Nat} {key : α} (value : β) (absent : cache.peek key = none)
    (room : cache.entries.length < capacity) :
    cache.push capacity key value = (none, cache.place key value) := by
  simp only [push, absent, if_pos room]

theorem push_of_full {capacity : Nat} {key : α} (value : β) (absent : cache.peek key = none)
    (full : capacity ≤ cache.entries.length) :
    cache.push capacity key value = (cache.peekLru, cache.withoutLru.place key value) := by
  simp only [push, absent, if_neg (Nat.not_lt.mpr full)]

theorem displaced_of_absent {capacity : Nat} {key : α} {value : β} {slot : α × β}
    (absent : cache.peek key = none) (evicted : (cache.push capacity key value).1 = some slot) :
    capacity ≤ cache.entries.length ∧ cache.peekLru = some slot := by
  rcases Nat.lt_or_ge cache.entries.length capacity with room | full
  · rw [push_of_room value absent room] at evicted
    cases evicted
  · rw [push_of_full value absent full] at evicted
    exact ⟨full, evicted⟩

theorem peek_sweep_of_absent {key : α} (absent : cache.peek key = none) :
    (cache.sweep test).peek key = none := by
  rw [peek_eq_none_iff] at absent ⊢
  exact fun value member => absent value ((cache.sweep_prefix test).subset member)

end Data.Lru
