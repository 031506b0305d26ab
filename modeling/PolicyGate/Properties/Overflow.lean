import PolicyGate.Interleaving.Alone
import PolicyGate.Properties.Runs

namespace PolicyGate

open Interleaving

variable {T P : Type} {rt : Runtime} {built : Nat}

/-! The additions that the runtime does not check.

An `Instant` past the platform's latest one cannot be represented, and `now + interval`
panics there.
-/

def Gate.claimedNext (rt : Runtime) (s : Gate T P) : Nat :=
  if s.clock < s.publish.nextAllowed then s.publish.nextAllowed
  else s.clock + rt.config.snapshotRepublishInterval

theorem lockPublish_ends {me : Nat} {s : Gate T P} {Q : Unit → Gate T P → Prop}
    (free : s.publish.lock = none)
    (held : Q () { s with publish := { s.publish with lock := some me } }) :
    (lockPublish (T := T) (P := P)).Ends me Q s :=
  .always _ _ (fun _ => by simp [free]) held

theorem claimRepublish_ends {me : Nat} {s : Gate T P} (free : s.publish.lock = none) :
    (claimRepublish rt).Ends me (fun _ after => after.publish.nextAllowed = s.claimedNext rt) s := by
  refine .bind (lockPublish_ends free (.bind (.read _ rfl (.bind (.read _ rfl ?_)))))
  unfold Gate.claimedNext
  dsimp only
  split
  · exact .bind (.modify (.done rfl))
  · exact .bind (.modify (.bind (.always _ _ (fun _ => rfl) (.bind (.modify (.done rfl))))))

/-- No addition under the publish lock leaves the platform's instants, at any clock reading since the
configuration was built. -/
def RepublishFits (T P : Type) (rt : Runtime) (built : Nat) : Prop :=
  ∀ me (s final : Gate T P) claimed, s.publish.lock = none → built ≤ s.clock → s.clock ≤ rt.latest →
    s.publish.nextAllowed ≤ rt.latest → (claimRepublish rt).Solo me s claimed final →
      final.publish.nextAllowed ≤ rt.latest

theorem republishFits_iff (early : built ≤ rt.latest) :
    RepublishFits T P rt built ↔ rt.config.snapshotRepublishInterval = 0 := by
  constructor
  · intro fits
    let s : Gate T P := { Gate.new 0 fun _ => none with clock := rt.latest }
    have free : s.publish.lock = none := rfl
    obtain ⟨claimed, final, ran, next⟩ :=
      (claimRepublish_ends free : (claimRepublish rt).Ends 0 _ s).exists_solo
    have bounded := fits 0 s final claimed rfl early le_rfl (Nat.zero_le _) ran
    rw [next] at bounded
    simp only [Gate.claimedNext, s, Gate.new, Nat.not_lt_zero, ↓reduceIte] at bounded
    omega
  · intro none me s final claimed free _ inTime allowed ran
    rw [(claimRepublish_ends free).solo ran, Gate.claimedNext, none]
    split <;> omega

/-- `reconnect_delay` after so many reconnects without a stable stream. -/
def reconnectDelay (config : PolicyGateConfig) : Nat → Nat
  | 0 => config.initialReconnectDelay
  | n + 1 => min (reconnectDelay config n * 2) config.maxReconnectDelay

/-- `u64::try_from(delay.as_millis()).unwrap_or(u64::MAX)`. -/
def jitterMillis (delay : Nat) : Nat := (toU64 (delay / 1000000)).getD u64Max

/-- The arithmetic of `jitter` stays in its 64 bits for every delay the doubling reaches and every
draw. -/
def JitterFits (config : PolicyGateConfig) : Prop :=
  ∀ n draw, draw < 2 ^ 64 → jitterMillis (reconnectDelay config n) / 2 ≠ 0 →
    let millis := jitterMillis (reconnectDelay config n)
    millis / 2 / 2 ≤ millis ∧ millis - millis / 2 / 2 + draw % (millis / 2) ≤ u64Max

theorem jitterMillis_mono {first second : Nat} (ordered : first ≤ second) :
    jitterMillis first ≤ jitterMillis second := by
  have whole := Nat.div_le_div_right (c := 1000000) ordered
  unfold jitterMillis toU64
  split <;> split <;> simp only [Option.getD_some, Option.getD_none] <;> omega

theorem jitterMillis_le (delay : Nat) : jitterMillis delay ≤ u64Max := by
  unfold jitterMillis toU64
  split
  · assumption
  · exact le_rfl

theorem reconnectDelay_eq {config : PolicyGateConfig}
    (ordered : config.initialReconnectDelay ≤ config.maxReconnectDelay) (n : Nat) :
    reconnectDelay config n = min (config.initialReconnectDelay * 2 ^ n) config.maxReconnectDelay := by
  induction n with
  | zero =>
      simp only [reconnectDelay]
      omega
  | succ n ih =>
      rw [reconnectDelay, ih, pow_succ, ← mul_assoc]
      omega

theorem reconnectDelay_max {config : PolicyGateConfig} (positive : 0 < config.initialReconnectDelay)
    (ordered : config.initialReconnectDelay ≤ config.maxReconnectDelay) :
    reconnectDelay config config.maxReconnectDelay = config.maxReconnectDelay := by
  have grown : config.maxReconnectDelay ≤ config.initialReconnectDelay * 2 ^ config.maxReconnectDelay :=
    Nat.lt_two_pow_self.le.trans (Nat.le_mul_of_pos_left _ positive)
  rw [reconnectDelay_eq ordered]
  omega

theorem jitterFits_iff {config : PolicyGateConfig} (positive : 0 < config.initialReconnectDelay)
    (ordered : config.initialReconnectDelay ≤ config.maxReconnectDelay) :
    JitterFits config ↔
      jitterMillis config.maxReconnectDelay + (jitterMillis config.maxReconnectDelay / 2 -
        jitterMillis config.maxReconnectDelay / 2 / 2) ≤ 2 ^ 64 := by
  have wide : u64Max = 2 ^ 64 - 1 := rfl
  have small := jitterMillis_le config.maxReconnectDelay
  constructor
  · intro fits
    by_cases spread : jitterMillis config.maxReconnectDelay / 2 = 0
    · omega
    · have bounded := fits config.maxReconnectDelay
        (jitterMillis config.maxReconnectDelay / 2 - 1) (by omega)
      rw [reconnectDelay_max positive ordered] at bounded
      obtain ⟨_, bounded⟩ := bounded spread
      rw [Nat.mod_eq_of_lt (by omega)] at bounded
      omega
  · intro fits n draw _ spread
    have reached : reconnectDelay config n ≤ config.maxReconnectDelay := by
      rw [reconnectDelay_eq ordered]
      omega
    have millis := jitterMillis_mono reached
    have drawn := Nat.mod_lt draw (Nat.pos_of_ne_zero spread)
    refine ⟨by omega, ?_⟩
    omega

/-- The unchecked additions of an accepted configuration fit, at every clock reading since it was
built and for every draw, exactly where the rebuild interval is zero and the longest reconnect delay
leaves room for its jitter. -/
theorem configured_additions_fit_iff (accepted : rt.config.build rt.latest built = .ok rt.config) :
    (RepublishFits T P rt built ∧ JitterFits rt.config) ↔
      rt.config.snapshotRepublishInterval = 0 ∧
        jitterMillis rt.config.maxReconnectDelay + (jitterMillis rt.config.maxReconnectDelay / 2 -
          jitterMillis rt.config.maxReconnectDelay / 2 / 2) ≤ 2 ^ 64 := by
  have valid := (PolicyGateConfig.build_eq_ok_iff.mp accepted).2
  have early : built ≤ rt.latest := (Nat.le_add_right _ _).trans valid.admission
  rw [republishFits_iff early, jitterFits_iff valid.reconnect valid.reconnects]

namespace Sample

def endless : Runtime where
  config := { runtime.config with snapshotRepublishInterval := 10 ^ 20 }
  latest := 10 ^ 20
  constructed := 0

def unlimited : Runtime where
  config := { runtime.config with snapshotRepublishInterval := 0 }
  latest := 10 ^ 20
  constructed := 0

/-- The longest reconnect delay whose milliseconds the jitter does not saturate. -/
def farthest : PolicyGateConfig :=
  { runtime.config with maxReconnectDelay := Duration.ofMillis u64Max }

end Sample

theorem configured_additions_fit_iff_sample :
    RepublishFits Nat Nat Sample.unlimited 0 ∧ JitterFits Sample.unlimited.config := by
  have accepted : Sample.unlimited.config.build Sample.unlimited.latest 0 = .ok Sample.unlimited.config := rfl
  exact (configured_additions_fit_iff accepted).mpr ⟨rfl, by decide⟩

/-- An accepted configuration, and a run that leaves the platform's instants: one nanosecond after the
gate was constructed its first rebuild is claimed.  Another one overflows the jitter. -/
theorem republish_overflows :
    (Sample.endless.config.build Sample.endless.latest 0 = .ok Sample.endless.config ∧
      ∃ c : Config (Gate Nat Nat), Reachable Sample.endless (fun _ => some .allowed)
        (Sample.asking [.admitSubject 0]) c ∧ c.shared.clock ≤ Sample.endless.latest ∧
          Sample.endless.latest < c.shared.publish.nextAllowed) ∧
    ∃ config : PolicyGateConfig, config.build (10 ^ 30) 0 = .ok config ∧ ¬ JitterFits config := by
  constructor
  · refine ⟨rfl, ?_⟩
    obtain ⟨c, reached, passed⟩ := Reachable.of_run Sample.endless (fun _ => some .allowed)
      (Sample.asking [.admitSubject 0])
      (Sample.connects ++ [.environment (.advance 1)] ++ Sample.turns 1 2 20)
      (fun s => decide (s.clock ≤ Sample.endless.latest ∧ Sample.endless.latest < s.publish.nextAllowed))
      (by decide +kernel)
    exact ⟨c, reached, of_decide_eq_true passed⟩
  · refine ⟨Sample.farthest, rfl, fun fits => ?_⟩
    have bounded := (jitterFits_iff (by decide) (by decide)).mp fits
    revert bounded
    decide

end PolicyGate
