import PolicyGate.Gate.Operations
import PolicyGate.Interleaving.Served

namespace PolicyGate

open Interleaving Program

variable {T P : Type} {rt : Runtime}

namespace Entry

variable (entry : Entry T)

theorem currentAt_waitless (reader : Reader T) (now : Nat) :
    (entry.currentAt reader now : Program (Gate T P) _).Waitless :=
  .bind .act fun _ => .iterate fun _ => .ite .done (.ite .done (.bind .act fun _ => .ite .done .done))

theorem stateAt_waitless (reader : Reader T) (now : Nat) :
    (entry.stateAt reader now : Program (Gate T P) _).Waitless :=
  .bind (entry.currentAt_waitless reader now) fun _ => .done

theorem admission_waitless (reader : Reader T) : (entry.admission reader : Program (Gate T P) _).Waitless := by
  refine .bind .act fun now => .bind (.bind (entry.currentAt_waitless reader now) fun seen => .ite .done ?_)
    fun _ => .done
  cases seen.1.state <;> exact .done

theorem refreshDueAt_waitless (current : EntrySnapshot P) (now : Nat) :
    (entry.refreshDueAt current now : Program (Gate T P) _).Waitless :=
  .bind (.ite (.bind .act fun _ => .done) .done) fun _ => .ite (.bind .act fun _ => .done) .done

theorem invalidate_waitless : (entry.invalidate : Program (Gate T P) _).Waitless := by
  refine .bind .act fun _ => .bind (.iterate fun _ => .bind .act fun _ => .ite .done .done) fun _ =>
    .bind .act fun taken => ?_
  cases taken with
  | none => exact .done
  | some fetch => exact .act

end Entry

namespace Subjects

theorem evict_waitless (now : Nat) : (evict rt now : Program (Gate T P) _).Waitless := by
  refine .iterate fun _ => .bind .act fun idle => ?_
  cases idle with
  | none => exact .done
  | some entry => exact .bind entry.invalidate_waitless fun _ => .bind .act fun _ => .done

theorem getOrInsertWith_waitless [DecidableEq T] (subject : T) (now : Nat) :
    (getOrInsertWith rt subject now : Program (Gate T P) _).Waitless := by
  refine .bind .act fun _ => .bind .act fun found => ?_
  cases found with
  | some entry => exact .bind (evict_waitless _) fun _ => .bind .act fun _ => .done
  | none =>
      refine .bind (evict_waitless _) fun _ => .bind .act fun inserted => ?_
      have rest : ∀ entry : Entry T, (do
          evict rt (tick rt now)
          unlock
          pure (entry, true) : Program (Gate T P) (Entry T × Bool)).Waitless := fun _ =>
        .bind (evict_waitless _) fun _ => .bind .act fun _ => .done
      obtain ⟨entry, evicted⟩ := inserted
      cases evicted with
      | none => exact rest entry
      | some old => exact .bind old.invalidate_waitless fun _ => .bind .act fun _ => rest entry

end Subjects

theorem republishIfDue_waitless : (republishIfDue rt : Program (Gate T P) _).Waitless := by
  refine .bind .act fun _ => .ite (.bind ?_ fun claimed => ?_) .done
  · exact .bind .act fun _ => .bind .act fun _ => .bind .act fun _ => .ite
      (.bind .act fun _ => .done) (.bind .act fun _ => .bind .act fun _ => .bind .act fun _ => .done)
  · cases claimed with
    | none => exact .done
    | some generation =>
        refine .bind .act fun _ => .bind (.bind .act fun _ => .bind .act fun _ => .bind .act fun _ => .done)
          fun _ => .bind .act fun _ => .bind .act fun _ => .ite (.bind .act fun _ => .ite ?_ ?_) ?_
        · exact .bind .act fun _ => .bind .act fun _ => .act
        · exact .bind .act fun _ => .act
        · exact .bind .act fun _ => .act

end PolicyGate
