import Mathlib.Algebra.Group.Nat.Defs

namespace PolicyGate

/-! Clock readings and durations.

Both are naturals: an instant counts nanoseconds from the clock's origin, a
duration counts nanoseconds.  The places where the source's narrower types
matter say so (`toU64`, `Instant.checkedAdd`).
-/

/-- `Duration::MAX`: `u64::MAX` seconds and 999,999,999 nanoseconds. -/
def Duration.max : Nat := (2 ^ 64 - 1) * 1000000000 + 999999999

def Duration.ofMillis (millis : Nat) : Nat := millis * 1000000

def Duration.ofSecs (secs : Nat) : Nat := secs * 1000000000

def u64Max : Nat := 2 ^ 64 - 1

/-- `u64::try_from(..).ok()`. -/
def toU64 (value : Nat) : Option Nat := if value ≤ u64Max then some value else none

def checkedAddU64 (left right : Nat) : Option Nat := toU64 (left + right)

def saturatingAddU64 (left right : Nat) : Nat := min (left + right) u64Max

/-- `Instant::checked_add` on a platform whose latest instant is `latest`. -/
def Instant.checkedAdd (latest now : Nat) (duration : Nat) : Option Nat :=
  if now + duration ≤ latest then some (now + duration) else none

theorem Instant.checkedAdd_eq_some {latest now deadline : Nat} {duration : Nat} :
    Instant.checkedAdd latest now duration = some deadline ↔
      now + duration ≤ latest ∧ now + duration = deadline := by
  simp [Instant.checkedAdd]

end PolicyGate
