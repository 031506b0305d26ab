import PolicyGate.Interleaving.Frame
import PolicyGate.Gate.Watcher

namespace PolicyGate

open Interleaving

variable {T P : Type} {rt : Runtime}

/-- The step changes entries and lookups only; a watch change may have its effect. -/
structure Gate.OnEntries (before after : Gate T P) : Prop where
  same : after =
    { before with
      cells := after.cells
      flights := after.flights
      watch := { before.watch with applying := after.watch.applying } }

namespace Gate.OnEntries

theorem refl (s : Gate T P) : OnEntries s s := ⟨rfl⟩

theorem updateCell (s : Gate T P) (id : Nat) (f : EntryCell T P → EntryCell T P) :
    OnEntries s (s.updateCell id f) := ⟨rfl⟩

theorem updateFlight (s : Gate T P) (generation : Nat) (f : Flight T P → Flight T P) :
    OnEntries s (s.updateFlight generation f) := ⟨rfl⟩

theorem replaceCurrent (s : Gate T P) (entry : Entry T) (next : EntrySnapshot P)
    (event : EntryEvent T P) : OnEntries s (s.replaceCurrent entry next event) := by
  unfold Gate.replaceCurrent
  split <;> exact ⟨rfl⟩

end Gate.OnEntries

abbrev OnEntries {α : Type} (program : Program (Gate T P) α) : Prop :=
  program.Always Gate.OnEntries

namespace OnEntries

open Program

theorem read {β : Type} {view : Gate T P → Option β} : OnEntries (.read view) := Each.read .refl

theorem cell {β : Type} {id : Nat} {action : Pick → Gate T P → EntryCell T P → β × Gate T P}
    (runs : ∀ pick s cell, Gate.OnEntries s (action pick s cell).2) :
    OnEntries (.act fun pick s => (s.cells id).map (action pick s)) := by
  refine Always.act fun pick s result after ran => ?_
  obtain ⟨cell, _, same⟩ := Option.map_eq_some_iff.mp ran
  have moved : (action pick s cell).2 = after := congrArg Prod.snd same
  exact moved ▸ runs pick s cell

end OnEntries

namespace Entry

open Program OnEntries

variable (entry : Entry T)

theorem compareAndSwap_onEntries (previous : SnapshotArc P) (next : EntrySnapshot P)
    (event : EntryEvent T P) : OnEntries (entry.compareAndSwap previous next event) := by
  refine cell fun pick s cell => ?_
  split
  · exact .replaceCurrent s entry next event
  · exact .refl s

theorem compareExchange_onEntries (expected : EntryState) (next : EntrySnapshot P)
    (event : EntryEvent T P) : OnEntries (entry.compareExchange expected next event) :=
  Always.bind read fun _ => Always.iterate fun previous =>
    Always.ite Always.done
      (Always.bind (entry.compareAndSwap_onEntries previous next event) fun _ =>
        Always.ite Always.done Always.done)

theorem abortPending_onEntries : OnEntries (P := P) entry.abortPending := by
  refine Always.bind (cell fun pick s cell => ?_) fun taken => ?_
  · cases cell.pending <;> exact ⟨rfl⟩
  · cases taken with
    | none => exact Always.done
    | some pending => exact Each.modify fun s => .updateFlight s _ _

theorem invalidate_onEntries : OnEntries (P := P) entry.invalidate := by
  refine Always.bind read fun _ => Always.bind (Always.iterate fun previous => ?_) fun _ =>
    entry.abortPending_onEntries
  exact Always.bind (entry.compareAndSwap_onEntries previous _ _) fun _ =>
    Always.ite Always.done Always.done

end Entry

open Program OnEntries

theorem publishChange_onEntries (entry : Entry T) (decision : Decision) :
    OnEntries (P := P) (publishChange rt entry decision) := by
  refine Always.iterate fun _ => Always.bind read fun _ => Always.bind read fun _ =>
    Always.bind (entry.compareExchange_onEntries _ _ _) fun _ => Always.ite ?_ Always.done
  exact Always.bind entry.abortPending_onEntries fun _ => Always.done

end PolicyGate
