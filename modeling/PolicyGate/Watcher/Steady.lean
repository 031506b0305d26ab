import PolicyGate.Gate.Footprint
import PolicyGate.Gate.System

namespace PolicyGate

open Interleaving

variable {T P : Type} {rt : Runtime}

/-- The step neither opens nor ends a stream nor changes what the health indicator reads; a clear
may forget the session the map belongs to. -/
structure Gate.Steady (before after : Gate T P) : Prop where
  phase : after.watch.phase = before.watch.phase
  opened : after.watch.opened = before.watch.opened
  disconnectedSince : after.watch.disconnectedSince = before.watch.disconnectedSince
  connected : after.watch.connected = before.watch.connected
  era : after.watch.era = before.watch.era ∨
    after.watch.era = Subjects.clearedEra before.watch

namespace Gate.Steady

theorem of_watch {before after : Gate T P} (same : after.watch = before.watch) :
    Steady before after := by
  constructor <;> simp [same]

theorem refl (s : Gate T P) : Steady s s := of_watch rfl

theorem applied (s : Gate T P) : Steady s s.applied := ⟨rfl, rfl, rfl, rfl, .inl rfl⟩

end Gate.Steady

abbrev Steadily {α : Type} (program : Program (Gate T P) α) : Prop :=
  program.Each Gate.Steady fun _ => True

namespace Steadily

variable {α β γ : Type}

theorem bind {program : Program (Gate T P) α} {f : α → Program (Gate T P) β}
    (first : Steadily program) (rest : ∀ value, Steadily (f value)) : Steadily (program >>= f) :=
  Program.Always.bind first rest

theorem read {view : Gate T P → Option β} : Steadily (.read view) := Program.Each.read .refl

theorem modify {f : Gate T P → Gate T P} (same : ∀ s, (f s).watch = s.watch) :
    Steadily (.modify f) := Program.Each.modify fun s => .of_watch (same s)

theorem act {action : Pick → Gate T P → Option (β × Gate T P)}
    (runs : ∀ pick s result after, action pick s = some (result, after) → Gate.Steady s after) :
    Steadily (.act action) := Program.Always.act runs

theorem iterate {start : γ} {body : γ → Program (Gate T P) (γ ⊕ β)}
    (rounds : ∀ again, Steadily (body again)) : Steadily (.iterate start body) :=
  Program.Always.iterate rounds

theorem ite {test : Prop} [Decidable test] {first second : Program (Gate T P) α}
    (holds : Steadily first) (fails : Steadily second) :
    Steadily (if test then first else second) := Program.Always.ite holds fails

theorem done {value : α} : Steadily (T := T) (P := P) (.done value) := trivial

end Steadily

open Steadily

theorem Steadily.of_onEntries {α : Type} {program : Program (Gate T P) α}
    (onEntries : OnEntries program) : Steadily program := by
  refine Program.Always.mono onEntries fun s after step => ?_
  rw [step.same]
  exact ⟨rfl, rfl, rfl, rfl, .inl rfl⟩

namespace Subjects

theorem lock_steadily : Steadily (T := T) (P := P) lock := by
  refine act fun pick s result after ran => ?_
  split at ran
  · cases ran
  · obtain ⟨rfl, rfl⟩ := Prod.mk.injEq .. ▸ Option.some.inj ran
    exact .of_watch rfl

theorem unlock_steadily : Steadily (T := T) (P := P) unlock := modify fun _ => rfl

theorem setDirty_steadily (dirty : Bool) : Steadily (T := T) (P := P) (setDirty dirty) :=
  modify fun _ => rfl

theorem evict_steadily (now : Nat) : Steadily (T := T) (P := P) (evict rt now) := by
  refine iterate fun _ => bind (act fun pick s result after ran => ?_) fun popped => ?_
  · split at ran
    · split at ran <;>
      · obtain ⟨rfl, rfl⟩ := Prod.mk.injEq .. ▸ Option.some.inj ran
        exact .of_watch rfl
    · obtain ⟨rfl, rfl⟩ := Prod.mk.injEq .. ▸ Option.some.inj ran
      exact .refl s
  · cases popped with
    | none => exact done
    | some entry =>
        exact bind (of_onEntries entry.invalidate_onEntries) fun _ => bind (setDirty_steadily true) fun _ => done

theorem copyEntries_steadily (generation : Nat) :
    Steadily (T := T) (P := P) (copyEntries generation) := by
  refine bind lock_steadily fun _ => bind (act fun pick s result after ran => ?_) fun entries =>
    bind unlock_steadily fun _ => done
  obtain ⟨rfl, rfl⟩ := Prod.mk.injEq .. ▸ Option.some.inj ran
  exact .of_watch rfl

theorem invalidateAll_steadily (entries : List (Entry T)) :
    Steadily (P := P) (invalidateAll entries) := by
  induction entries with
  | nil => exact done
  | cons entry rest ih => exact bind (of_onEntries entry.invalidate_onEntries) fun _ => ih

theorem clear_steadily : Steadily (T := T) (P := P) clear := by
  refine bind lock_steadily fun _ => bind read fun entries =>
    bind (invalidateAll_steadily entries) fun _ => bind ?_ fun _ => unlock_steadily
  exact Program.Each.modify fun s => ⟨rfl, rfl, rfl, rfl, .inr rfl⟩

variable [DecidableEq T]

theorem pop_steadily (withdrawal : Bool) (subject : T) :
    Steadily (P := P) (pop withdrawal subject) := by
  refine act fun pick s result after ran => ?_
  have first : Gate.Steady s (if withdrawal then s.applied else s) := by
    cases withdrawal
    · exact .refl s
    · exact .applied s
  generalize (if withdrawal then s.applied else s) = middle at ran first
  cases popped : middle.subjects.cache.pop subject <;>
  · simp only [popped] at ran
    obtain ⟨rfl, rfl⟩ := Prod.mk.injEq .. ▸ Option.some.inj ran
    exact ⟨first.phase, first.opened, first.disconnectedSince, first.connected, first.era⟩

theorem remove_steadily (subject : T) (now : Nat) : Steadily (P := P) (remove rt subject now) := by
  refine bind lock_steadily fun _ => bind (evict_steadily _) fun _ =>
    bind (pop_steadily true subject) fun popped => ?_
  cases popped with
  | none => exact bind unlock_steadily fun _ => done
  | some entry => exact bind (of_onEntries entry.invalidate_onEntries) fun _ => bind unlock_steadily fun _ => done

theorem update_steadily (subject : T) (now : Nat) {change : Entry T → Program (Gate T P) Unit}
    (changes : ∀ entry, Steadily (change entry)) : Steadily (update rt subject now change) := by
  refine bind lock_steadily fun _ => bind (evict_steadily _) fun _ =>
    bind (act fun pick s result after ran => ?_) fun found => ?_
  · split at ran
    · obtain ⟨rfl, rfl⟩ := Prod.mk.injEq .. ▸ Option.some.inj ran
      exact .refl s
    · obtain ⟨rfl, rfl⟩ := Prod.mk.injEq .. ▸ Option.some.inj ran
      exact .applied s
  · cases found with
    | none => exact unlock_steadily
    | some entry => exact bind (changes entry) fun _ => unlock_steadily

end Subjects

theorem lockPublish_steadily : Steadily (T := T) (P := P) lockPublish := by
  refine act fun pick s result after ran => ?_
  split at ran
  · cases ran
  · obtain ⟨rfl, rfl⟩ := Prod.mk.injEq .. ▸ Option.some.inj ran
    exact .of_watch rfl

theorem unlockPublish_steadily : Steadily (T := T) (P := P) unlockPublish := modify fun _ => rfl

theorem claimRepublish_steadily : Steadily (T := T) (P := P) (claimRepublish rt) := by
  refine bind lockPublish_steadily fun _ => bind read fun now => bind read fun nextAllowed =>
    ite (bind unlockPublish_steadily fun _ => done) ?_
  refine bind (modify fun _ => rfl) fun _ => bind (act fun pick s result after ran => ?_)
    fun generation => bind unlockPublish_steadily fun _ => done
  obtain ⟨rfl, rfl⟩ := Prod.mk.injEq .. ▸ Option.some.inj ran
  exact .of_watch rfl

theorem storeSnapshot_steadily (generation : Nat) (entries : List (T × Entry T)) :
    Steadily (P := P) (storeSnapshot generation entries) := by
  have store : Steadily (Program.act (fun pick (s : Gate T P) =>
      some ((), { s with copies := s.copies.filter fun copy => copy.thread ≠ pick.thread })) >>=
        fun _ => unlockPublish) := by
    refine bind (act fun pick s result after ran => ?_) fun _ => unlockPublish_steadily
    obtain ⟨rfl, rfl⟩ := Prod.mk.injEq .. ▸ Option.some.inj ran
    exact .of_watch rfl
  refine bind lockPublish_steadily fun _ => bind read fun current => ?_
  refine ite (bind read fun connected => ite (bind (modify fun _ => rfl) fun _ => store) store) store

theorem republishIfDue_steadily : Steadily (T := T) (P := P) (republishIfDue rt) := by
  refine bind read fun dirty => ite (bind claimRepublish_steadily fun claimed => ?_) done
  cases claimed with
  | none => exact done
  | some generation =>
      exact bind (Subjects.setDirty_steadily false) fun _ =>
        bind (Subjects.copyEntries_steadily generation) fun entries =>
          storeSnapshot_steadily generation entries

theorem applyChange_steadily [DecidableEq T] (change : DecisionChange T) :
    Steadily (P := P) (applyChange rt change) := by
  refine bind read fun now => ?_
  cases change.decision with
  | some decision =>
      exact bind (Subjects.update_steadily change.subject now fun entry =>
        of_onEntries (publishChange_onEntries entry decision)) fun _ => republishIfDue_steadily
  | none =>
      refine bind (Subjects.remove_steadily change.subject now) fun removed => ite ?_
        republishIfDue_steadily
      exact bind (Subjects.setDirty_steadily true) fun _ => republishIfDue_steadily

end PolicyGate
