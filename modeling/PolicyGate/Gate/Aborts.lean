import PolicyGate.Data.Related
import PolicyGate.Gate.System
import PolicyGate.Interleaving.Debts

namespace PolicyGate

open Interleaving Program Data

variable {T P : Type} {rt : Runtime}

/-! What `abort_pending` takes out of a slot it aborts with its next step; nothing else takes a lookup
out of its slot without putting another there. -/

namespace Gate

/-- `abort_pending` has taken the lookup out of its slot and not aborted it yet. -/
def Swapped (s : Gate T P) (generation : Nat) : Prop :=
  ∃ flight, s.flights generation = some flight ∧ flight.taken = true ∧ flight.aborted = false

theorem not_swapped_of_aborted (s : Gate T P) (generation : Nat) :
    ¬ (s.updateFlight generation fun flight => { flight with aborted := true }).Swapped generation := by
  rintro ⟨flight, flown, _, unaborted⟩
  rcases update_map_eq_some flown with ⟨_, before, _, rfl⟩ | ⟨other, _⟩
  · cases unaborted
  · exact other rfl

def Spares (before after : Gate T P) : Prop :=
  ∀ generation, after.Swapped generation → before.Swapped generation

namespace Spares

variable {s middle after : Gate T P}

theorem of_flights (same : after.flights = s.flights) : Spares s after := by
  rintro generation ⟨flight, flown, swapped⟩
  exact ⟨flight, same ▸ flown, swapped⟩

theorem refl (s : Gate T P) : Spares s s := of_flights rfl

theorem trans (first : Spares s middle) (second : Spares middle after) : Spares s after :=
  fun generation swapped => first generation (second generation swapped)

theorem updateFlight (s : Gate T P) (generation : Nat) {f : Flight T P → Flight T P}
    (taken : ∀ flight, (f flight).taken = flight.taken)
    (aborted : ∀ flight : Flight T P, flight.aborted = true → (f flight).aborted = true) :
    Spares s (s.updateFlight generation f) := by
  rintro other ⟨flight, flown, wasTaken, unaborted⟩
  rcases update_map_eq_some flown with ⟨rfl, before, was, rfl⟩ | ⟨_, was⟩
  · refine ⟨before, was, (taken before).symm.trans wasTaken, ?_⟩
    by_contra early
    rw [Bool.not_eq_false] at early
    rw [aborted before early] at unaborted
    cases unaborted
  · exact ⟨flight, was, wasTaken, unaborted⟩

theorem setStage (s : Gate T P) (generation : Nat) (stage : Stage) :
    Spares s (s.setStage generation stage) :=
  updateFlight s generation (fun _ => rfl) fun _ aborted => aborted

theorem note (s : Gate T P) (id : Nat) (event : EntryEvent T P) : Spares s (s.note id event) :=
  of_flights rfl

theorem made {generation : Nat} {flight : Flight T P} (untaken : flight.taken = false)
    (flights : after.flights = Function.update s.flights generation (some flight)) :
    Spares s after := by
  rintro other ⟨flight', flown, taken, unaborted⟩
  rw [flights] at flown
  by_cases same : other = generation
  · subst same
    rw [Function.update_self, Option.some.injEq] at flown
    rw [← flown, untaken] at taken
    cases taken
  · rw [Function.update_of_ne same] at flown
    exact ⟨flight', flown, taken, unaborted⟩

theorem swapPending (s : Gate T P) (entry : Entry T) (current : PendingFetch T P)
    (replacement : Option (PendingFetch T P)) : Spares s (s.swapPending entry current replacement) := by
  set emptied := (s.updateCell entry.id fun cell => { cell with pending := replacement }).updateFlight
    current.generation fun flight => { flight with stage := leaveSlot flight.stage } with isEmptied
  have first : Spares s emptied := (of_flights rfl).trans
    (updateFlight (s.updateCell entry.id fun cell => { cell with pending := replacement })
      current.generation (fun _ => rfl) fun _ aborted => aborted)
  cases replacement with
  | none => exact first
  | some retry =>
      exact first.trans (updateFlight emptied retry.generation (fun _ => rfl) fun _ aborted => aborted)

theorem replaceCurrent (s : Gate T P) (entry : Entry T) (next : EntrySnapshot P)
    (event : EntryEvent T P) : Spares s (s.replaceCurrent entry next event) := by
  unfold Gate.replaceCurrent
  split <;> exact of_flights rfl

end Spares

end Gate

abbrev Promptly {α : Type} (program : Program (Gate T P) α) : Prop := program.Prompt Gate.Swapped

namespace Promptly

variable {α β : Type}

theorem act {action : Pick → Gate T P → Option (β × Gate T P)}
    (spares : ∀ pick s result after, action pick s = some (result, after) → s.Spares after) :
    Promptly (.act action) := Prompt.act spares

theorem modify {f : Gate T P → Gate T P} (spares : ∀ s, Gate.Spares s (f s)) :
    Promptly (.modify f) := Prompt.modify spares

theorem cell {id : Nat} {action : Pick → Gate T P → EntryCell T P → β × Gate T P}
    (spares : ∀ pick s cell, Gate.Spares s (action pick s cell).2) :
    Promptly (.act fun pick s => (s.cells id).map (action pick s)) := by
  refine act fun pick s result after ran => ?_
  obtain ⟨cell, _, same⟩ := Option.map_eq_some_iff.mp ran
  have moved : (action pick s cell).2 = after := congrArg Prod.snd same
  exact moved ▸ spares pick s cell

end Promptly

open Promptly (act modify cell)

theorem reachUnreachable_prompt {α : Type} : Promptly (reachUnreachable : Program (Gate T P) α) := by
  refine .bind (modify fun _ => .of_flights rfl) fun _ => act fun pick s result after ran => ?_
  cases ran

namespace Entry

variable (entry : Entry T)

theorem compareAndSwap_prompt (previous : SnapshotArc P) (next : EntrySnapshot P)
    (event : EntryEvent T P) : Promptly (entry.compareAndSwap previous next event) := by
  refine cell fun pick s cell => ?_
  split
  · exact .replaceCurrent s entry next event
  · exact .refl s

theorem latchStale_prompt (reader : Reader T) (now : Nat) (current : SnapshotArc P) :
    Promptly (entry.latchStale reader now current) := by
  refine cell fun pick s cell => ?_
  split
  · exact .replaceCurrent s entry current.value.stale (.latched reader now)
  · exact .of_flights rfl

theorem currentAt_prompt (reader : Reader T) (now : Nat) :
    Promptly (P := P) (entry.currentAt reader now) := by
  refine .bind (act fun pick s result after ran => ?_) fun _ => .iterate fun current =>
    .ite .done (.ite .done (.bind (entry.latchStale_prompt reader now current) fun _ => .ite .done .done))
  obtain ⟨_, _, same⟩ := Option.map_eq_some_iff.mp ran
  obtain ⟨rfl, rfl⟩ := Prod.mk.injEq .. ▸ same
  exact .of_flights rfl

theorem stateAt_prompt (reader : Reader T) (now : Nat) :
    Promptly (P := P) (entry.stateAt reader now) :=
  .bind (entry.currentAt_prompt reader now) fun _ => .done

theorem observedAt_prompt (reader : Reader T) (now : Nat) :
    Promptly (P := P) (entry.observedAt reader now) := by
  refine .bind (entry.currentAt_prompt reader now) fun seen => .ite .done ?_
  cases seen.1.state with
  | pending => exact reachUnreachable_prompt
  | allowed | denied | stale => exact .done

theorem verdictAt_prompt (reader : Reader T) (now : Nat) :
    Promptly (P := P) (entry.verdictAt reader now) := by
  refine .bind (entry.currentAt_prompt reader now) fun seen => .ite .done ?_
  cases seen.1.state <;> exact .done

theorem compareExchange_prompt (expected : EntryState) (next : EntrySnapshot P)
    (event : EntryEvent T P) : Promptly (entry.compareExchange expected next event) :=
  .bind .read fun _ => .iterate fun previous =>
    .ite .done (.bind (entry.compareAndSwap_prompt previous next event) fun _ => .ite .done .done)

theorem refreshEligibleAt_prompt (current : EntrySnapshot P) (now : Nat) :
    Promptly (entry.refreshEligibleAt current now) := .ite (.bind .read fun _ => .done) .done

theorem refreshDueAt_prompt (current : EntrySnapshot P) (now : Nat) :
    Promptly (entry.refreshDueAt current now) :=
  .bind (entry.refreshEligibleAt_prompt current now) fun _ => .ite (.bind .read fun _ => .done) .done

theorem pendingGeneration_prompt (generation : Nat) :
    Promptly (P := P) (entry.pendingGeneration generation) := .bind .read fun _ => .done

theorem replacePending_prompt (generation : Nat) (replacement : Option (PendingFetch T P)) :
    Promptly (entry.replacePending generation replacement) := by
  refine .bind (entry.pendingGeneration_prompt generation) fun found => ?_
  cases found with
  | none => exact .done
  | some current =>
      refine cell fun pick s cell => ?_
      split
      · exact .swapPending s entry current replacement
      · exact .refl s

/-- The abort follows the swap. -/
theorem abortPending_prompt : Promptly (P := P) entry.abortPending := by
  refine .act_bind (fun pick s result after ran generation swapped => ?_) fun taken => ?_
  · obtain ⟨cell, _, same⟩ := Option.map_eq_some_iff.mp ran
    cases pending : cell.pending with
    | none =>
        rw [pending] at same
        obtain ⟨rfl, rfl⟩ := Prod.mk.injEq .. ▸ same
        exact .inl swapped
    | some fetch =>
        rw [pending] at same
        obtain ⟨rfl, rfl⟩ := Prod.mk.injEq .. ▸ same
        by_cases this : generation = fetch.generation
        · subst this
          exact .inr (.modify fun s => s.not_swapped_of_aborted fetch.generation)
        · obtain ⟨flight, flown, wasSwapped⟩ := swapped
          rcases update_map_eq_some flown with ⟨rfl, _⟩ | ⟨_, was⟩
          · exact absurd rfl this
          · exact .inl ⟨flight, was, wasSwapped⟩
  · cases taken with
    | none => exact .done
    | some fetch => exact modify fun s => .updateFlight s _ (fun _ => rfl) fun _ _ => rfl

theorem admission_prompt (reader : Reader T) : Promptly (P := P) (entry.admission reader) :=
  .bind .read fun now => .bind (entry.verdictAt_prompt reader now) fun _ => .done

theorem invalidate_prompt : Promptly (P := P) entry.invalidate :=
  .bind .read fun _ => .bind (.iterate fun previous =>
    .bind (entry.compareAndSwap_prompt previous _ _) fun _ => .ite .done .done) fun _ =>
      entry.abortPending_prompt

end Entry

namespace Subjects

theorem lock_prompt : Promptly (T := T) (P := P) lock := by
  refine act fun pick s result after ran => ?_
  split at ran
  · cases ran
  · obtain ⟨rfl, rfl⟩ := Prod.mk.injEq .. ▸ Option.some.inj ran
    exact .of_flights rfl

theorem unlock_prompt : Promptly (T := T) (P := P) unlock := modify fun _ => .of_flights rfl

theorem setDirty_prompt (dirty : Bool) : Promptly (T := T) (P := P) (setDirty dirty) :=
  modify fun _ => .of_flights rfl

theorem evict_prompt (now : Nat) : Promptly (T := T) (P := P) (evict rt now) := by
  refine .iterate fun _ => .bind (act fun pick s result after ran => ?_) fun popped => ?_
  · split at ran
    · split at ran <;>
      · obtain ⟨rfl, rfl⟩ := Prod.mk.injEq .. ▸ Option.some.inj ran
        exact .of_flights rfl
    · obtain ⟨rfl, rfl⟩ := Prod.mk.injEq .. ▸ Option.some.inj ran
      exact .refl s
  · cases popped with
    | none => exact .done
    | some entry => exact .bind entry.invalidate_prompt fun _ => .bind (setDirty_prompt true) fun _ => .done

theorem copyEntries_prompt (generation : Nat) : Promptly (T := T) (P := P) (copyEntries generation) := by
  refine .bind lock_prompt fun _ => .bind (act fun pick s result after ran => ?_) fun _ =>
    .bind unlock_prompt fun _ => .done
  obtain ⟨rfl, rfl⟩ := Prod.mk.injEq .. ▸ Option.some.inj ran
  exact .of_flights rfl

theorem invalidateAll_prompt (entries : List (Entry T)) : Promptly (P := P) (invalidateAll entries) := by
  induction entries with
  | nil => exact .done
  | cons entry rest ih => exact .bind entry.invalidate_prompt fun _ => ih

theorem clear_prompt : Promptly (T := T) (P := P) clear :=
  .bind lock_prompt fun _ => .bind .read fun entries => .bind (invalidateAll_prompt entries) fun _ =>
    .bind (modify fun _ => .of_flights rfl) fun _ => unlock_prompt

variable [DecidableEq T]

theorem promote_prompt (subject : T) (tick : Nat) : Promptly (P := P) (promote subject tick) := by
  refine act fun pick s result after ran => ?_
  split at ran <;>
  · obtain ⟨rfl, rfl⟩ := Prod.mk.injEq .. ▸ Option.some.inj ran
    exact .of_flights rfl

theorem insert_prompt (subject : T) (now tick : Nat) :
    Promptly (P := P) (insert rt subject now tick) := by
  refine act fun pick s result after ran => ?_
  have same := congrArg Prod.snd (Option.some.inj ran)
  split at same <;>
  · subst same
    exact .made rfl rfl

theorem pop_prompt (withdrawal : Bool) (subject : T) : Promptly (P := P) (pop withdrawal subject) := by
  refine act fun pick s result after ran => ?_
  cases withdrawal <;>
  · dsimp only at ran
    split at ran <;>
    · obtain ⟨rfl, rfl⟩ := Prod.mk.injEq .. ▸ Option.some.inj ran
      exact .of_flights rfl

theorem getOrInsertWith_prompt (subject : T) (now : Nat) :
    Promptly (P := P) (getOrInsertWith rt subject now) := by
  refine .bind lock_prompt fun _ => .bind (promote_prompt subject _) fun found => ?_
  cases found with
  | some entry => exact .bind (evict_prompt _) fun _ => .bind unlock_prompt fun _ => .done
  | none =>
      refine .bind (evict_prompt _) fun _ => .bind (insert_prompt subject now _) fun inserted => ?_
      have rest : ∀ entry : Entry T, Promptly (do
          evict rt (tick rt now)
          unlock
          pure (entry, true) : Program (Gate T P) (Entry T × Bool)) := fun _ =>
        .bind (evict_prompt _) fun _ => .bind unlock_prompt fun _ => .done
      obtain ⟨entry, evicted⟩ := inserted
      cases evicted with
      | none => exact rest entry
      | some old =>
          exact .bind old.invalidate_prompt fun _ => .bind (setDirty_prompt true) fun _ => rest entry

theorem touch_prompt (subject : T) (entry : Entry T) (now : Nat) :
    Promptly (P := P) (touch rt subject entry now) := by
  have finish : ∀ matched : Bool, Promptly (do
      evict rt (tick rt now)
      unlock
      pure matched : Program (Gate T P) Bool) := fun _ =>
    .bind (evict_prompt _) fun _ => .bind unlock_prompt fun _ => .done
  exact .bind lock_prompt fun _ => .bind .read fun _ =>
    .ite (.bind (promote_prompt subject _) fun _ => finish _) (finish _)

theorem update_prompt (subject : T) (now : Nat) {change : Entry T → Program (Gate T P) Unit}
    (changes : ∀ entry, Promptly (change entry)) : Promptly (update rt subject now change) := by
  refine .bind lock_prompt fun _ => .bind (evict_prompt _) fun _ =>
    .bind (act fun pick s result after ran => ?_) fun found => ?_
  · split at ran <;>
    · obtain ⟨rfl, rfl⟩ := Prod.mk.injEq .. ▸ Option.some.inj ran
      exact .of_flights rfl
  · cases found with
    | none => exact unlock_prompt
    | some entry => exact .bind (changes entry) fun _ => unlock_prompt

theorem popInvalidate_prompt (withdrawal : Bool) (subject : T) : Promptly (do
    match ← pop withdrawal subject with
    | some entry => do
        entry.invalidate
        unlock
        pure true
    | none => do
        unlock
        pure false : Program (Gate T P) Bool) := by
  refine .bind (pop_prompt withdrawal subject) fun popped => ?_
  cases popped with
  | none => exact .bind unlock_prompt fun _ => .done
  | some entry => exact .bind entry.invalidate_prompt fun _ => .bind unlock_prompt fun _ => .done

theorem remove_prompt (subject : T) (now : Nat) : Promptly (P := P) (remove rt subject now) :=
  .bind lock_prompt fun _ => .bind (evict_prompt _) fun _ => popInvalidate_prompt true subject

theorem removeIf_prompt (subject : T) (now : Nat) {predicate : Entry T → Program (Gate T P) Bool}
    (asks : ∀ entry, Promptly (predicate entry)) : Promptly (removeIf rt subject now predicate) := by
  refine .bind lock_prompt fun _ => .bind (evict_prompt _) fun _ => .bind .read fun found => ?_
  cases found with
  | none =>
      exact .bind .done fun _ =>
        .ite (popInvalidate_prompt false subject) (.bind unlock_prompt fun _ => .done)
  | some entry =>
      exact .bind (asks entry) fun _ =>
        .ite (popInvalidate_prompt false subject) (.bind unlock_prompt fun _ => .done)

end Subjects

theorem lockPublish_prompt : Promptly (T := T) (P := P) lockPublish := by
  refine act fun pick s result after ran => ?_
  split at ran
  · cases ran
  · obtain ⟨rfl, rfl⟩ := Prod.mk.injEq .. ▸ Option.some.inj ran
    exact .of_flights rfl

theorem unlockPublish_prompt : Promptly (T := T) (P := P) unlockPublish := modify fun _ => .of_flights rfl

theorem publishEmpty_prompt {afterPublish : Program (Gate T P) Unit} (prompt : Promptly afterPublish) :
    Promptly (publishEmpty afterPublish) :=
  .bind lockPublish_prompt fun _ => .bind (modify fun _ => .of_flights rfl) fun _ =>
    .bind (modify fun _ => .of_flights rfl) fun _ => .bind prompt fun _ => unlockPublish_prompt

theorem claimRepublish_prompt : Promptly (T := T) (P := P) (claimRepublish rt) := by
  refine .bind lockPublish_prompt fun _ => .bind .read fun _ => .bind .read fun _ =>
    .ite (.bind unlockPublish_prompt fun _ => .done) (.bind (modify fun _ => .of_flights rfl) fun _ =>
      .bind (act fun pick s result after ran => ?_) fun _ => .bind unlockPublish_prompt fun _ => .done)
  obtain ⟨rfl, rfl⟩ := Prod.mk.injEq .. ▸ Option.some.inj ran
  exact .of_flights rfl

theorem storeSnapshot_prompt (generation : Nat) (entries : List (T × Entry T)) :
    Promptly (P := P) (storeSnapshot generation entries) := by
  have finish : Promptly (Program.act (fun pick (s : Gate T P) =>
      some ((), { s with copies := s.copies.filter fun copy => copy.thread ≠ pick.thread })) >>=
        fun _ => unlockPublish) := by
    refine .bind (act fun pick s result after ran => ?_) fun _ => unlockPublish_prompt
    obtain ⟨rfl, rfl⟩ := Prod.mk.injEq .. ▸ Option.some.inj ran
    exact .of_flights rfl
  exact .bind lockPublish_prompt fun _ => .bind .read fun _ =>
    .ite (.bind .read fun _ => .ite (.bind (modify fun _ => .of_flights rfl) fun _ => finish) finish) finish

theorem republishIfDue_prompt : Promptly (T := T) (P := P) (republishIfDue rt) := by
  refine .bind .read fun _ => .ite (.bind claimRepublish_prompt fun claimed => ?_) .done
  cases claimed with
  | none => exact .done
  | some generation =>
      exact .bind (Subjects.setDirty_prompt false) fun _ =>
        .bind (Subjects.copyEntries_prompt generation) fun entries => storeSnapshot_prompt generation entries

end PolicyGate
