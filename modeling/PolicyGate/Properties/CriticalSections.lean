import PolicyGate.Audit.Calls
import PolicyGate.Interleaving.Critical
import PolicyGate.Properties.Runs

namespace PolicyGate

open Interleaving

variable {T P : Type} [DecidableEq T] {rt : Runtime} {authority : T → Option Decision}
  {calls : Nat → Call T} {c next later : Config (Gate T P)}

theorem Reachable.guarded {m : Move (GateEvent T P)} {thread : Nat}
    (reached : Reachable rt authority calls c) (moved : c.move Gate.environment m = some next)
    (other : m.actor ≠ some thread) :
    (c.shared.subjects.lock = some thread → next.shared.subjects = c.shared.subjects) ∧
      (c.shared.publish.lock = some thread → next.shared.publish = c.shared.publish) := by
  refine ⟨fun mine => ?_, fun mine => ?_⟩
  · rcases (reached.covered.move environment_neutral moved).2 thread other with rely | same
    · exact (rely.subjects mine).1
    · rw [same]
  · rcases reached.step moved with step | same
    · exact step.periphery.guarded (by simp [mine]) fun taken => other (taken ▸ mine)
    · rw [same]

/-- Nobody holds both locks.  Who holds one is at no await point, has not ended and can take its next
step, and until it gives the lock back nobody else changes what the lock protects. -/
theorem critical_sections_exclusive (reached : Reachable rt authority calls c) :
    (∀ thread, c.shared.subjects.lock = some thread → c.shared.publish.lock ≠ some thread) ∧
    ∀ thread, c.shared.Locking thread →
      (c.threads thread).drop = none ∧
      (∃ choice next, c.move Gate.environment (.run ⟨thread, choice⟩) = some next) ∧
      ∀ m next, c.move Gate.environment m = some next → m.actor ≠ some thread →
        next.shared.Locking thread ∧
        (c.shared.subjects.lock = some thread → next.shared.subjects = c.shared.subjects) ∧
        (c.shared.publish.lock = some thread → next.shared.publish = c.shared.publish) := by
  have audited := reached.audited
  refine ⟨audited.1.periphery.apart, fun thread locking => ⟨?_, ?_, fun m next moved other => ?_⟩⟩
  · cases drops : (c.threads thread).drop with
    | none => rfl
    | some rest => exact absurd locking (audited.free reached.covered drops)
  · obtain ⟨choice, can⟩ := audited.ready reached.covered locking
    obtain ⟨⟨program, shared⟩, stepped⟩ := Option.isSome_iff_exists.mp can
    refine ⟨choice, { shared, threads := Function.update c.threads thread program }, ?_⟩
    simp only [Config.move, stepped, Option.map_some]
  · have guarded := reached.guarded moved other
    exact ⟨locking.imp (fun mine => (guarded.1 mine) ▸ mine) fun mine => (guarded.2 mine) ▸ mine, guarded⟩

def Sample.inserting (s : Gate Nat Nat) : Bool := s.subjects.lock = some 1

theorem critical_sections_exclusive_sample : ∃ c : Config (Gate Nat Nat),
    Reachable Sample.runtime (fun _ => some .allowed) (Sample.asking [.admitSubject 0]) c ∧
      c.shared.publish.lock ≠ some 1 ∧ (c.threads 1).drop = none ∧
      ∃ choice next, c.move Gate.environment (.run ⟨1, choice⟩) = some next := by
  obtain ⟨c, reached, passed⟩ := Reachable.of_run Sample.runtime (fun _ => some .allowed)
    (Sample.asking [.admitSubject 0]) (Sample.connects ++ Sample.turns 1 2 8) Sample.inserting
    (by decide +kernel)
  have locked : c.shared.subjects.lock = some 1 := of_decide_eq_true passed
  obtain ⟨apart, inside⟩ := critical_sections_exclusive reached
  obtain ⟨standing, moves, _⟩ := inside 1 (.inl locked)
  exact ⟨c, reached, apart 1 locked, standing, moves⟩

section

variable {me : Nat} {s final : Gate T P}

/-- What `claim_republish` makes of what the publish lock protects. -/
def Claimed (rt : Runtime) (before : PublishState) (claimed : Option Nat) (after : PublishState) : Prop :=
  claimed = none ∧ after = before ∨
    ∃ now, before.nextAllowed ≤ now ∧ claimed = some before.generation ∧
      after = { before with
        nextAllowed := now + rt.config.snapshotRepublishInterval, claims := now :: before.claims }

omit [DecidableEq T] in
theorem claimRepublish_secures (publish : PublishState) :
    (claimRepublish rt : Program (Gate T P) _).Secures Gate.publish me (· = publish)
      (Claimed rt publish) := by
  refine .bind (M := fun _ seen => publish.lock = none ∧ seen = { publish with lock := some me })
    (.act fun choice s result after same ran => ?_) fun _ => .given fun free => ?_
  · subst same
    split at ran
    · cases ran
    · rename_i free
      obtain ⟨rfl, rfl⟩ := Prod.mk.injEq .. ▸ Option.some.inj ran
      exact ⟨free, rfl⟩
  refine .bind (M := fun _ seen => seen = { publish with lock := some me })
    (.read fun s now same _ => same) fun now => ?_
  refine .bind (M := fun nextAllowed seen => publish.nextAllowed = nextAllowed ∧
      seen = { publish with lock := some me }) (.read fun s nextAllowed same viewed => ?_)
    fun nextAllowed => .given fun allowed => ?_
  · rw [same] at viewed
    exact ⟨Option.some.inj viewed, same⟩
  have unlocks : ∀ claimed after, Claimed rt publish claimed { after with lock := none } →
      (do unlockPublish; pure claimed : Program (Gate T P) _).Secures Gate.publish me (· = after)
        (Claimed rt publish) := fun claimed after held =>
    .bind (M := fun _ seen => seen = { after with lock := none })
      (.modify fun s same => congrArg (fun publish => { publish with lock := none }) same) fun _ => by
        rintro _ rfl
        exact held
  have whole : { publish with lock := none } = publish := by rw [← free]
  split
  · exact unlocks none { publish with lock := some me } (.inl ⟨rfl, whole⟩)
  · rename_i reached
    refine .bind (M := fun _ seen => seen = { publish with
        lock := some me, nextAllowed := now + rt.config.snapshotRepublishInterval })
      (.modify fun s same => congrArg (fun publish => { publish with
        nextAllowed := now + rt.config.snapshotRepublishInterval }) same) fun _ => ?_
    refine .bind (M := fun generation seen => generation = publish.generation ∧ seen = { publish with
        lock := some me, nextAllowed := now + rt.config.snapshotRepublishInterval,
        claims := now :: publish.claims })
      (.act fun choice s generation after same ran => ?_) fun generation => .given fun same => ?_
    · obtain ⟨rfl, rfl⟩ := Prod.mk.injEq .. ▸ Option.some.inj ran
      exact ⟨by rw [same],
        congrArg (fun publish => { publish with claims := now :: publish.claims }) same⟩
    · refine unlocks (some generation) _ (.inr ⟨now, ?_, congrArg some same, ?_⟩)
      · exact allowed ▸ Nat.le_of_not_lt reached
      · rw [← free]

end

theorem length_mul_le_of_spaced {interval start bound : Nat} {claims : List Nat}
    (spaced : claims.Pairwise fun later earlier => earlier + interval ≤ later)
    (started : ∀ now ∈ claims, start ≤ now ∧ now + interval ≤ bound) (reached : start ≤ bound) :
    claims.length * interval + start ≤ bound := by
  induction claims generalizing bound with
  | nil => simpa using reached
  | cons now rest ih =>
      obtain ⟨later, spaced⟩ := List.pairwise_cons.mp spaced
      obtain ⟨known, next⟩ := started now List.mem_cons_self
      have earlier := ih spaced
        (fun one member => ⟨(started one (List.mem_cons_of_mem now member)).1, later one member⟩) known
      rw [List.length_cons, Nat.add_mul, Nat.one_mul]
      omega

theorem Reachable.claims_suffix {moves : List (Move (GateEvent T P))}
    (reached : Reachable rt authority calls c) (ran : c.run Gate.environment moves = some later) :
    c.shared.publish.claims <:+ later.shared.publish.claims := by
  induction moves generalizing c with
  | nil => exact Option.some.inj ran ▸ List.suffix_rfl
  | cons m rest ih =>
      obtain ⟨next, moved, ran⟩ := Option.bind_eq_some_iff.mp ran
      refine List.IsSuffix.trans ?_ (ih (reached.leads (.of_move moved)) ran)
      rcases reached.step moved with step | same
      · exact step.periphery.claims
      · rw [same]

/-- `claim_republish` grants a rebuild only where the clock has reached `next_allowed`, and puts the
next one off by an interval.  Over every run the rebuilds it grants, none of which is forgotten, are at
least an interval apart, and none comes before the gate was made. -/
theorem rebuilds_rate_limited (reached : Reachable rt authority calls c) (leads : Leads c later) :
    (∀ me (s final : Gate T P) claimed,
      (claimRepublish rt).Amid (fun before after => after.publish = before.publish) me s claimed final →
        Claimed rt s.publish claimed final.publish) ∧
    c.shared.publish.claims <:+ later.shared.publish.claims ∧
    (later.shared.publish.claims.Pairwise fun later earlier =>
      earlier + rt.config.snapshotRepublishInterval ≤ later) ∧
    (∀ now ∈ later.shared.publish.claims, rt.constructed ≤ now ∧
      now + rt.config.snapshotRepublishInterval ≤ later.shared.publish.nextAllowed) ∧
    later.shared.publish.claims.length * rt.config.snapshotRepublishInterval + rt.constructed ≤
      later.shared.clock + rt.config.snapshotRepublishInterval := by
  have publish := (reached.leads leads).audited.1.periphery.publish
  obtain ⟨moves, ran⟩ := leads
  refine ⟨fun me s final claimed amid => amid.secured (claimRepublish_secures s.publish) rfl,
    reached.claims_suffix ran, publish.spaced, publish.claimed, ?_⟩
  exact (length_mul_le_of_spaced publish.spaced publish.claimed publish.started).trans publish.allowance

def Sample.rebuilt (before after : Gate Nat Nat) : Bool :=
  before.publish.claims.length = 1 && after.publish.claims.length = 2

theorem rebuilds_rate_limited_sample : ∃ (c later : Config (Gate Nat Nat)) (first second : Nat),
    Reachable Sample.runtime (fun _ => some .allowed)
        (Sample.asking [.admitSubject 0, .admitSubject 1]) c ∧
      Leads c later ∧ c.shared.publish.claims = [first] ∧
      later.shared.publish.claims = [second, first] ∧
      first + Sample.runtime.config.snapshotRepublishInterval ≤ second := by
  obtain ⟨c, later, reached, leads, passed⟩ := Reachable.leads_of_run Sample.runtime
    (fun _ => some .allowed) (Sample.asking [.admitSubject 0, .admitSubject 1])
    (Sample.connects ++ Sample.turns 1 2 69)
    ([.environment (.advance Sample.runtime.config.snapshotRepublishInterval)] ++ Sample.turns 2 2 69)
    Sample.rebuilt (by decide +kernel)
  obtain ⟨_, suffix, spaced, _⟩ := rebuilds_rate_limited reached leads
  simp only [Sample.rebuilt, Bool.and_eq_true, decide_eq_true_eq] at passed
  obtain ⟨first, once⟩ := List.length_eq_one_iff.mp passed.1
  obtain ⟨second, last, twice⟩ := List.length_eq_two.mp passed.2
  rw [once, twice] at suffix
  obtain rfl : first = last := by
    obtain ⟨front, split⟩ := suffix
    have ends : front ++ [first] = [second] ++ [last] := split
    exact (List.append_singleton_inj.mp ends).2
  rw [twice] at spaced
  exact ⟨c, later, first, second, reached, leads, once, twice,
    (List.pairwise_cons.mp spaced).1 first (List.mem_singleton_self _)⟩

end PolicyGate
