import Mathlib.Logic.Function.Basic
import Mathlib.Data.Option.Basic

namespace Data

/-! Two partial maps with the same domain whose values are related pointwise. -/

def Related {ι α : Type} (R : ι → α → α → Prop) (before after : ι → Option α) : Prop :=
  ∀ i, Option.Rel (R i) (before i) (after i)

theorem update_map_eq_some {ι α : Type} [DecidableEq ι] {m : ι → Option α} {f : α → α} {key i : ι}
    {y : α} (found : Function.update m key ((m key).map f) i = some y) :
    (i = key ∧ ∃ x, m key = some x ∧ y = f x) ∨ (i ≠ key ∧ m i = some y) := by
  by_cases same : i = key
  · subst same
    rw [Function.update_self] at found
    obtain ⟨x, found_x, rfl⟩ := Option.map_eq_some_iff.mp found
    exact .inl ⟨rfl, x, found_x, rfl⟩
  · rw [Function.update_of_ne same] at found
    exact .inr ⟨same, found⟩

namespace Related

variable {ι α : Type} {R S : ι → α → α → Prop} {before after : ι → Option α} {i : ι} {x y : α}

theorem refl (reflexive : ∀ i x, before i = some x → R i x x) : Related R before before := by
  intro i
  cases found : before i with
  | none => exact .none
  | some x => exact .some (reflexive i x found)

theorem forward (related : Related R before after) (found : before i = some x) :
    ∃ y, after i = some y ∧ R i x y := by
  have at_i := related i
  rw [found] at at_i
  cases after_i : after i with
  | none =>
      rw [after_i] at at_i
      cases at_i
  | some y =>
      rw [after_i] at at_i
      cases at_i with
      | some holds => exact ⟨y, rfl, holds⟩

theorem backward (related : Related R before after) (found : after i = some y) :
    ∃ x, before i = some x ∧ R i x y := by
  cases before_i : before i with
  | none =>
      have at_i := related i
      rw [found, before_i] at at_i
      cases at_i
  | some x =>
      obtain ⟨y', found', holds⟩ := related.forward before_i
      exact ⟨x, rfl, Option.some.inj (found.symm.trans found') ▸ holds⟩

theorem eq_none_iff (related : Related R before after) : after i = none ↔ before i = none := by
  constructor
  · intro missing
    cases before_i : before i with
    | none => rfl
    | some x =>
        obtain ⟨y, found, _⟩ := related.forward before_i
        exact absurd (missing.symm.trans found) (by simp)
  · intro missing
    cases after_i : after i with
    | none => rfl
    | some y =>
        obtain ⟨x, found, _⟩ := related.backward after_i
        exact absurd (missing.symm.trans found) (by simp)

theorem mono (related : Related R before after)
    (implied : ∀ i x y, before i = some x → after i = some y → R i x y → S i x y) :
    Related S before after := by
  intro i
  cases before_i : before i with
  | none =>
      rw [related.eq_none_iff.mpr before_i]
      exact .none
  | some x =>
      obtain ⟨y, found, holds⟩ := related.forward before_i
      rw [found]
      exact .some (implied i x y before_i found holds)

theorem update [DecidableEq ι] {f : α → α} (key : ι)
    (reflexive : ∀ i x, i ≠ key → before i = some x → R i x x)
    (changed : ∀ x, before key = some x → R key x (f x)) :
    Related R before (Function.update before key ((before key).map f)) := by
  intro i
  by_cases same : i = key
  · subst same
    rw [Function.update_self]
    cases found : before i with
    | none => exact .none
    | some x => exact .some (changed x found)
  · rw [Function.update_of_ne same]
    cases found : before i with
    | none => exact .none
    | some x => exact .some (reflexive i x same found)

end Related

end Data
