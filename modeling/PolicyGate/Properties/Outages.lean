import PolicyGate.Watcher.Specs
import PolicyGate.Properties.Runs

namespace PolicyGate

open Interleaving WatchRecord

variable {T P : Type} [DecidableEq T] {rt : Runtime} {authority : T → Option Decision}
  {calls : Nat → Call T} {w : Config (Gate T P × WatchRecord T)}

theorem WatchReachable.of_run (rt : Runtime) (authority : T → Option Decision)
    (calls : Nat → Call T) (moves : List (Move (GateEvent T P)))
    (test : Gate T P → WatchRecord T → Bool)
    (ran : ((startWatched rt authority calls).run (Config.beside _ Gate.environment) moves).any
      (fun w => test w.shared.1 w.shared.2) = true) :
    ∃ w, WatchReachable rt authority calls w ∧ test w.shared.1 w.shared.2 = true := by
  obtain ⟨w, ran, passed⟩ := (Option.any_eq_true _ _).mp ran
  exact ⟨w, ⟨moves, ran⟩, passed⟩

/-- What `jitter` may make of a base delay: the base itself below two milliseconds, and otherwise
whole milliseconds within a quarter of it. -/
def Jittered (base pause : Nat) : Prop :=
  (base / 1000000 < 2 → pause = base) ∧
    (2 ≤ base / 1000000 → ∃ millis, pause = Duration.ofMillis millis ∧
      base / 1000000 - base / 1000000 / 2 / 2 ≤ millis ∧
      millis ≤ base / 1000000 + (base / 1000000 / 2 + 1) / 2 - 1 ∧
      4 * (base / 1000000 - millis) ≤ base / 1000000 ∧
      4 * (millis - base / 1000000) ≤ base / 1000000)

theorem jittered {base : Nat} (small : base < Duration.ofMillis (2 ^ 62)) (draw : Nat) :
    Jittered base (jitter base draw) := by
  have whole : toU64 (base / 1000000) = some (base / 1000000) := by
    have bound : base / 1000000 ≤ u64Max := by
      unfold Duration.ofMillis at small
      have wide : u64Max = 2 ^ 64 - 1 := rfl
      omega
    rw [toU64, if_pos bound]
  unfold jitter
  simp only [whole, Option.getD_some]
  refine ⟨fun tiny => if_pos (by omega), fun enough => ?_⟩
  have spread : base / 1000000 / 2 ≠ 0 := by omega
  have drawn := Nat.mod_lt draw (Nat.pos_of_ne_zero spread)
  rw [if_neg spread]
  refine ⟨_, rfl, ?_, ?_, ?_, ?_⟩ <;> omega

def WatchNote.reopens : WatchNote T → Bool
  | .failed | .opened _ => true
  | _ => false

/-- The base doubles with each delay from the initial one up to the maximum, and starts over only at
the stability event of a stream that was open for the maximal delay; the delay is the base jittered,
and no stream is opened before it has passed. -/
theorem reconnect_delays_back_off (reached : WatchReachable rt authority calls w) {built : Nat}
    (accepted : rt.config.build rt.latest built = .ok rt.config)
    (small : rt.config.maxReconnectDelay < Duration.ofMillis (2 ^ 62)) :
    (∀ later base pause now earlier, w.shared.2 = later ++ .sleeps base pause now :: earlier →
      base = min (rt.config.initialReconnectDelay * 2 ^ retries earlier)
        rt.config.maxReconnectDelay ∧ Jittered base pause) ∧
    (∀ later session now earlier, w.shared.2 = later ++ .stable session now :: earlier →
      ∃ since, Attached session since earlier ∧ since + rt.config.maxReconnectDelay ≤ now) ∧
    ∀ later note earlier, w.shared.2 = later ++ note :: earlier → note.reopens = true →
      earlier = [] ∨ ∃ woke base pause start rest,
        earlier = .woke woke :: .sleeps base pause start :: rest ∧ start + pause ≤ woke := by
  obtain ⟨c, _, _, recorded⟩ := reached.sound
  have ordered := (PolicyGateConfig.build_eq_ok_iff.mp accepted).2.reconnects
  refine ⟨fun later base pause now earlier split => ?_, fun later session now earlier split => ?_,
    fun later note earlier split reopens => ?_⟩
  · obtain ⟨_, based, draw, _, drawn⟩ := recorded.regular.allowed split
    have doubled := backoff_eq rfl ordered (recorded.regular.before split)
    rw [← based] at doubled
    refine ⟨doubled, ?_⟩
    rw [drawn]
    exact jittered (by omega) draw
  · exact (recorded.regular.allowed split).2
  · have allowed : earlier = [] ∨ ∃ now rest, earlier = .woke now :: rest := by
      have allowed := recorded.regular.allowed split
      cases note with
      | failed | opened => exact allowed
      | connected | timer | stable | took | applied | disconnected | idle | sleeps | woke =>
          cases reopens
    refine allowed.imp_right fun ⟨woke, rest, woken⟩ => ?_
    subst woken
    obtain ⟨base, pause, start, rest, rfl, passed⟩ := (recorded.regular.before split).1
    exact ⟨woke, base, pause, start, rest, rfl, passed⟩

namespace Sample

abbrev Watched (w : Config (Gate Nat Nat × WatchRecord Nat)) : Prop :=
  WatchReachable runtime (fun _ => some .allowed) (asking [.admitSubject 0, .poll 0]) w

def failures : List (Move (GateEvent Nat Nat)) :=
  turns 0 1 17 ++ [.environment (.advance 200000000)] ++ turns 0 1 18

def failuresRecord : WatchRecord Nat :=
  [.sleeps 200000000 151000000 200000000, .idle, .disconnected 200000000, .failed, .woke 200000000,
    .sleeps 100000000 76000000 0, .idle, .disconnected 0, .failed]

end Sample

theorem reconnect_delays_back_off_sample : ∃ w, Sample.Watched w ∧
    w.shared.2 = Sample.failuresRecord ∧ 200000000 = min (100000000 * 2 ^ 1) 5000000000 ∧
      Jittered 200000000 151000000 := by
  obtain ⟨w, reached, passed⟩ := WatchReachable.of_run Sample.runtime (fun _ => some .allowed)
    (Sample.asking [.admitSubject 0, .poll 0]) Sample.failures
    (fun _ notes => decide (notes = Sample.failuresRecord)) (by decide +kernel)
  have recorded : w.shared.2 = Sample.failuresRecord := of_decide_eq_true passed
  have accepted : Sample.runtime.config.build Sample.runtime.latest 0 = .ok Sample.runtime.config := rfl
  have delayed := (reconnect_delays_back_off reached accepted (by decide)).1 [] 200000000 151000000
    200000000 _ recorded
  exact ⟨w, reached, recorded, delayed⟩

inductive DecisionSourceHealthStatus where
  | stable
  | notYetStable
  | failed
deriving DecidableEq, Repr

/-- `DecisionSourceHealth::status` at the clock reading `now`. -/
def Gate.status (rt : Runtime) (s : Gate T P) (now : Nat) : DecisionSourceHealthStatus :=
  match s.watch.disconnectedSince with
  | none => .stable
  | some since => if now - since ≥ rt.config.admissionTimeout then .failed else .notYetStable

/-- `Stable` is reported exactly while the current stream has processed its stability event, after it
was open for the maximal reconnect delay, and no disconnect followed; otherwise the instant on record
is the construction or the first disconnect after the last such event, and `Failed` is reported
exactly from `admission_timeout` after it on. -/
theorem health_reflects_stability (reached : WatchReachable rt authority calls w) (t : Nat) :
    (w.shared.1.status rt t = .stable ↔ Steadied rt w.shared.1.watch.opened w.shared.2) ∧
    (¬ Steadied rt w.shared.1.watch.opened w.shared.2 → ∃ instant,
      w.shared.1.watch.disconnectedSince = some instant ∧
      ((∀ note ∈ w.shared.2, note.isStable = false) ∧ instant = rt.constructed ∨
        FirstDisconnect instant w.shared.2) ∧
      (w.shared.1.status rt t = .failed ↔ rt.config.admissionTimeout ≤ t - instant)) := by
  obtain ⟨c, _, _, recorded⟩ := reached.sound
  unfold Gate.status
  cases known : w.shared.1.watch.disconnectedSince with
  | none =>
      have settled := recorded.stable (recorded.since ▸ known)
      exact ⟨⟨fun _ => settled, fun _ => rfl⟩, fun unsettled => absurd settled unsettled⟩
  | some instant =>
      have since : since rt.constructed w.shared.2 = some instant := recorded.since ▸ known
      have unsettled : ¬ Steadied rt w.shared.1.watch.opened w.shared.2 := fun steadied => by
        rw [since_of_steadied steadied] at since
        cases since
      refine ⟨⟨fun reported => ?_, fun steadied => absurd steadied unsettled⟩, fun _ =>
        ⟨instant, rfl, since_eq_some since, ?_⟩⟩
      · dsimp only at reported
        split at reported <;> cases reported
      · dsimp only
        split <;> simp [*]

def Sample.stabilizes : List (Move (GateEvent Nat Nat)) :=
  connects ++ [.environment (.advance 5000000000)] ++ turns 0 0 3

theorem health_reflects_stability_sample : ∃ w, Sample.Watched w ∧
    w.shared.2 = [.stable 1 5000000000, .timer 0, .connected, .opened 1] ∧
      w.shared.1.status Sample.runtime 7000000000 = .stable := by
  obtain ⟨w, reached, passed⟩ := WatchReachable.of_run Sample.runtime (fun _ => some .allowed)
    (Sample.asking [.admitSubject 0, .poll 0]) Sample.stabilizes
    (fun s notes => decide (s.watch.opened = 1 ∧
      notes = [.stable 1 5000000000, .timer 0, .connected, .opened 1])) (by decide +kernel)
  obtain ⟨opened, recorded⟩ := of_decide_eq_true passed
  refine ⟨w, reached, recorded, (health_reflects_stability reached 7000000000).1.mpr ?_⟩
  rw [opened, recorded]
  exact ⟨[], 5000000000, _, 0, rfl, nofun, ⟨rfl, rfl⟩, by decide⟩

end PolicyGate
