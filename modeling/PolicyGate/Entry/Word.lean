import PolicyGate.Decision
import PolicyGate.Config
import Mathlib.Data.Nat.Bitwise
import Mathlib.Tactic.Ring

namespace PolicyGate

/-! The packed state word of an entry: two state bits under a 62-bit deadline. -/

inductive EntryState where
  | pending
  | allowed
  | denied
  | stale
deriving DecidableEq, Repr

/-- The `#[repr(u8)]` discriminant. -/
def EntryState.code : EntryState → Nat
  | .pending => 0
  | .allowed => 1
  | .denied => 2
  | .stale => 3

def EntryState.ofDecision : Decision → EntryState
  | .allowed => .allowed
  | .denied => .denied

/-- The states that answer an admission. -/
def EntryState.Authoritative (state : EntryState) : Prop := state = .allowed ∨ state = .denied

instance (state : EntryState) : Decidable state.Authoritative :=
  inferInstanceAs (Decidable (_ ∨ _))

def stateMask : Nat := 0b11

def noExpiry : Nat := 2 ^ 62 - 1

def maxFiniteDeadline : Nat := noExpiry - 1

/-- `(deadline << 2) | state`, where the shift drops what leaves the 64-bit word. -/
def word (state : EntryState) (deadline : Nat) : Nat := (deadline <<< 2) % 2 ^ 64 ||| state.code

def decodeEntryState (decision : Nat) : EntryState :=
  match decision &&& stateMask with
  | 0 => .pending
  | 1 => .allowed
  | 2 => .denied
  | _ => .stale

/-- `(decision & !STATE_MASK) | Stale`. -/
def staleWord (decision : Nat) : Nat :=
  decision &&& (u64Max - stateMask) ||| EntryState.stale.code

def deadlineBits (decision : Nat) : Nat := decision >>> 2

theorem EntryState.code_lt (state : EntryState) : state.code < 4 := by
  cases state <;> decide

theorem word_eq {deadline : Nat} (state : EntryState) (small : deadline < 2 ^ 62) :
    word state deadline = 4 * deadline + state.code := by
  have fits : deadline <<< 2 % 2 ^ 64 = deadline <<< 2 := by
    rw [Nat.shiftLeft_eq]
    exact Nat.mod_eq_of_lt (by omega)
  rw [word, fits, ← Nat.shiftLeft_add_eq_or_of_lt (by simpa using state.code_lt), Nat.shiftLeft_eq]
  ring

theorem decodeEntryState_of_mod {decision : Nat} {state : EntryState}
    (code : decision % 4 = state.code) : decodeEntryState decision = state := by
  have mask : decision &&& stateMask = state.code := by
    rw [← code]
    exact Nat.and_two_pow_sub_one_eq_mod decision 2
  rw [decodeEntryState, mask]
  cases state <;> rfl

@[simp] theorem decodeEntryState_word {deadline : Nat} (state : EntryState)
    (small : deadline < 2 ^ 62) : decodeEntryState (word state deadline) = state := by
  apply decodeEntryState_of_mod
  have below := state.code_lt
  rw [word_eq state small]
  omega

@[simp] theorem deadlineBits_word {deadline : Nat} (state : EntryState)
    (small : deadline < 2 ^ 62) : deadlineBits (word state deadline) = deadline := by
  have below := state.code_lt
  rw [deadlineBits, Nat.shiftRight_eq_div_pow, word_eq state small]
  omega

/-- Clearing the state bits and setting them to `Stale` is exact on every 64-bit word. -/
theorem staleWord_eq {decision : Nat} (fits : decision < 2 ^ 64) :
    staleWord decision = 4 * (decision / 4) + 3 := by
  have cleared : decision &&& (u64Max - stateMask) = (decision / 4) <<< 2 := by
    apply Nat.eq_of_testBit_eq
    intro i
    have mask : u64Max - stateMask = (2 ^ 62 - 1) <<< 2 := by decide
    rw [Nat.testBit_and, mask, Nat.testBit_shiftLeft, Nat.testBit_shiftLeft,
      Nat.testBit_two_pow_sub_one, show (4 : Nat) = 2 ^ 2 from rfl, Nat.testBit_div_two_pow]
    by_cases low : i < 2
    · simp [show ¬ 2 ≤ i by omega]
    · have high : 2 ≤ i := by omega
      by_cases inside : i < 64
      · simp [high, show i - 2 < 62 by omega]
      · have zero : decision.testBit i = false :=
          Nat.testBit_lt_two_pow (lt_of_lt_of_le fits (Nat.pow_le_pow_right (by decide) (by omega)))
        simp [high, zero]
  rw [staleWord, cleared, ← Nat.shiftLeft_add_eq_or_of_lt (by decide), Nat.shiftLeft_eq]
  simp only [EntryState.code]
  ring

@[simp] theorem decodeEntryState_staleWord {decision : Nat} (fits : decision < 2 ^ 64) :
    decodeEntryState (staleWord decision) = .stale := by
  apply decodeEntryState_of_mod
  rw [staleWord_eq fits]
  simp only [EntryState.code]
  omega

@[simp] theorem deadlineBits_staleWord {decision : Nat} (fits : decision < 2 ^ 64) :
    deadlineBits (staleWord decision) = deadlineBits decision := by
  rw [deadlineBits, deadlineBits, staleWord_eq fits, Nat.shiftRight_eq_div_pow,
    Nat.shiftRight_eq_div_pow]
  omega

theorem staleWord_lt {decision : Nat} (fits : decision < 2 ^ 64) : staleWord decision < 2 ^ 64 := by
  rw [staleWord_eq fits]
  omega

theorem word_lt (state : EntryState) {deadline : Nat} (small : deadline < 2 ^ 62) :
    word state deadline < 2 ^ 64 := by
  have below := state.code_lt
  rw [word_eq state small]
  omega

theorem staleWord_word {deadline : Nat} (state : EntryState) (small : deadline < 2 ^ 62) :
    staleWord (word state deadline) = word .stale deadline := by
  have below := state.code_lt
  have stale : EntryState.stale.code = 3 := rfl
  rw [staleWord_eq (word_lt state small), word_eq state small, word_eq .stale small, stale]
  omega

theorem staleWord_eq_self {decision : Nat} (fits : decision < 2 ^ 64)
    (stale : decodeEntryState decision = .stale) : staleWord decision = decision := by
  have mask : decision &&& stateMask = decision % 4 := Nat.and_two_pow_sub_one_eq_mod decision 2
  rw [decodeEntryState, mask] at stale
  rw [staleWord_eq fits]
  have codes : decision % 4 = 0 ∨ decision % 4 = 1 ∨ decision % 4 = 2 ∨ decision % 4 = 3 := by omega
  rcases codes with code | code | code | code <;> rw [code] at stale
  · cases stale
  · cases stale
  · cases stale
  · omega

end PolicyGate
