import PolicyGate.Layer.Specs
import PolicyGate.Properties.Runs

namespace PolicyGate

open Interleaving

variable {T P Q B R : Type} {rt : Runtime} {layer : Layer T Q R} {request : Request Q B}
  {guest : Nat} {authority : T → Option Decision} {calls : Nat → Call T}
  {c : Config (Gate T P × Serving T Q B R)}

inductive CallStep.Final : CallStep T Q B → Prop where
  | missingSubject : Final .missingSubject
  | passed {future : EnforcedResponseFuture T Q B} : Final (.passed future)
  | denial : Final .denial
  | unavailable : Final .unavailable

theorem CallStep.Follows.not_final {next last : CallStep T Q B} {earlier : List (CallStep T Q B)}
    (follows : next.Follows layer request (last :: earlier)) : ¬ last.Final := by
  intro final
  cases final <;> cases follows

namespace Coherent

variable {later earlier : List (CallStep T Q B)} {event next : CallStep T Q B}

theorem follows (coherent : Coherent layer request (later ++ event :: earlier)) :
    event.Follows layer request earlier :=
  coherent.of_append.1

theorem last (coherent : Coherent layer request (later ++ event :: earlier)) (final : event.Final) :
    later = [] := by
  rcases later.eq_nil_or_concat with rfl | ⟨more, next, rfl⟩
  · rfl
  · rw [List.concat_eq_append, List.append_assoc] at coherent
    exact absurd final coherent.follows.not_final

end Coherent

theorem ServingOk.subject {s : Gate T P} {t : Serving T Q B R} {admission : Entry T}
    {now : Nat} {seen : Observed} {subject : T} {earlier : List (CallStep T Q B)}
    (ok : ServingOk layer request guest s t) (later : List (CallStep T Q B))
    (split : t.steps = later ++ .isAllowed admission now seen :: earlier)
    (named : layer.policy.subject request.head = some subject) : admission.subject = subject := by
  have follows := (split ▸ ok.coherent).follows
  cases follows with
  | readFound =>
      exact ok.backed (.lookedUp (some admission)) (by simp [split]) admission subject rfl named
  | readAdmitted =>
      exact ok.backed (.admitted (some admission)) (by simp [split]) admission subject rfl named

/-- The thread read the handle as unexpired in this state. -/
def ReadAs (s : Gate T P) (thread : Nat) (admission : Entry T) (now : Nat) (state : EntryState) :
    Prop :=
  ∃ snapshot, Observation s.cells admission .state thread now snapshot ∧ snapshot.state = state

variable [DecidableEq T]

/-- The inner service is called at most once, last, and under a handle of the request's subject that
was just read as `Allowed`; each rejection has its cause; and a handle whose `state` was not read as
`Denied` is followed by another admission. -/
theorem nothing_unadmitted_passes
    (reached : layer.Reachable rt authority calls guest request c) :
    (∀ later future earlier, c.shared.2.steps = later ++ .passed future :: earlier → later = [] ∧
      ∃ subject admission now before, layer.policy.subject request.head = some subject ∧
        admission.subject = subject ∧ future = passThrough layer.policy request subject admission ∧
        earlier = .isAllowed admission now .allowed :: before ∧
        ReadAs c.shared.1 guest admission now .allowed) ∧
    (∀ later earlier, c.shared.2.steps = later ++ .denial :: earlier → later = [] ∧
      ∃ admission now before, layer.policy.subject request.head = some admission.subject ∧
        earlier = .state admission now .denied :: before ∧
        ReadAs c.shared.1 guest admission now .denied) ∧
    (∀ later earlier, c.shared.2.steps = later ++ .missingSubject :: earlier →
      later = [] ∧ earlier = [] ∧ layer.policy.subject request.head = none) ∧
    (∀ later earlier, c.shared.2.steps = later ++ .unavailable :: earlier →
      later = [] ∧ ∃ before, earlier = .admitted none :: before) ∧
    (∀ later next admission now seen earlier,
      c.shared.2.steps = later ++ next :: .isAllowed admission now seen :: earlier →
        seen ≠ .allowed → ∃ now' seen', next = .state admission now' seen') ∧
    (∀ later next admission now seen earlier,
      c.shared.2.steps = later ++ next :: .state admission now seen :: earlier → seen ≠ .denied →
        (∃ result, next = .admitted result) ∨ (next = .snapshotMiss ∧
          ∀ rest after, later = rest ++ [after] → ∃ result, after = .admitted result)) ∧
    ∀ served, c.shared.2.served = some served → served.Ends layer c.shared.2.steps := by
  obtain ⟨_, sound⟩ := reached.sound
  have coherent := sound.coherent
  refine ⟨fun later future earlier split => ?_, fun later earlier split => ?_,
    fun later earlier split => ?_, fun later earlier split => ?_,
    fun later next admission now seen earlier split unallowed => ?_,
    fun later next admission now seen earlier split undenied => ?_, sound.served⟩
  · rw [split] at coherent
    refine ⟨coherent.last .passed, ?_⟩
    cases coherent.follows with
    | @passed subject admission now before named =>
        have member : .isAllowed admission now .allowed ∈ c.shared.2.steps := by simp [split]
        exact ⟨subject, admission, now, before, named,
          sound.subject (later ++ [_]) (by simpa using split) named, rfl, rfl,
          sound.backed _ member⟩
  · rw [split] at coherent
    refine ⟨coherent.last .denial, ?_⟩
    cases coherent.follows with
    | @denial subject admission now before named =>
        have member : .state admission now .denied ∈ c.shared.2.steps := by simp [split]
        refine ⟨admission, now, before, ?_, rfl, sound.backed _ member⟩
        rw [List.append_cons] at coherent
        cases coherent.follows with
        | state =>
            rw [named, sound.subject (later ++ [_, _]) (by simpa using split) named]
  · rw [split] at coherent
    refine ⟨coherent.last .missingSubject, ?_⟩
    cases coherent.follows with
    | missingSubject none => exact ⟨rfl, none⟩
  · rw [split] at coherent
    refine ⟨coherent.last .unavailable, ?_⟩
    cases coherent.follows with
    | unavailable => exact ⟨_, rfl⟩
  · rw [split] at coherent
    cases coherent.follows with
    | state => exact ⟨_, _, rfl⟩
    | passed => exact absurd rfl unallowed
  · rw [split] at coherent
    cases coherent.follows with
    | denial => exact absurd rfl undenied
    | again => exact .inl ⟨_, rfl⟩
    | missedRead =>
        refine .inr ⟨rfl, fun rest after same => ?_⟩
        rw [same, List.append_assoc] at coherent
        cases Coherent.follows coherent with
        | admitted => exact ⟨_, rfl⟩

namespace Sample

def perSubject : Layer Nat Nat Nat where
  policy :=
    { subject := fun head => if head = 0 then none else some (head - 1)
      enforceRequestBody := fun _ => false
      enforceResponseBody := fun _ => true }
  response :=
    { denied := fun _ => 7
      missingSubject := fun _ => 16
      unavailable := fun _ _ => 14 }
  rejectionMessage := "denied"
  missingSubjectMessage := "missing"

abbrev ServingConfig := Config (Gate Nat Nat × Serving Nat Nat (List Nat) Nat)

abbrev Serves (c : ServingConfig) : Prop :=
  perSubject.Reachable runtime (fun _ => some .allowed) (asking [.admitSubject 0, .poll 0]) 3
    { head := 1, body := [7] } c

theorem serves_of_run (moves : List (Move (GateEvent Nat Nat)))
    (test : Serving Nat Nat (List Nat) Nat → Bool)
    (ran : ((perSubject.start runtime (fun _ => some .allowed) (asking [.admitSubject 0, .poll 0]) 3
      { head := 1, body := [7] }).run (Config.beside _ Gate.environment) moves).any
        (fun c => test c.shared.2) = true) : ∃ c, Serves c ∧ test c.shared.2 = true := by
  obtain ⟨c, ran, passed⟩ := (Option.any_eq_true _ _).mp ran
  exact ⟨c, ⟨moves, ran⟩, passed⟩

def passing : List (CallStep Nat Nat (List Nat)) :=
  [.passed (passThrough perSubject.policy { head := 1, body := [7] } 0 entry),
    .isAllowed entry 0 .allowed, .lookedUp (some entry)]

/-- The handle is expired when `is_allowed` reads it; before `state` reads it the authority denies the
subject, and the watcher publishes the change in the entry. -/
def lapses : List (Move (GateEvent Nat Nat)) :=
  admits .allowed none ++ turns 3 0 17 ++ [.environment (.advance 100)] ++ turns 3 0 5 ++
    [.environment (.decide ⟨0, some .denied⟩)] ++ turns 0 2 16 ++ turns 3 0 5

end Sample

theorem nothing_unadmitted_passes_sample : ∃ c, Sample.Serves c ∧
    c.shared.2.steps = Sample.passing ∧
      ReadAs c.shared.1 3 Sample.entry 0 .allowed := by
  obtain ⟨c, reached, passed⟩ := Sample.serves_of_run (Sample.admits .allowed none ++ Sample.turns 3 0 22)
    (fun t => decide (t.steps = Sample.passing)) (by decide +kernel)
  have steps := of_decide_eq_true passed
  obtain ⟨_, subject, admission, now, before, _, _, _, same, read⟩ :=
    (nothing_unadmitted_passes reached).1 [] _ _ steps
  obtain ⟨rfl, rfl⟩ := (CallStep.isAllowed.inj (List.cons.inj same).1).imp id And.left
  exact ⟨c, reached, steps, read⟩

/-- A handle that is no longer valid when `is_allowed` reads it, and read as `Denied` by `state`, leads
to a denial. -/
theorem expired_then_denied : ∃ c, Sample.Serves c ∧ c.shared.2.steps =
    [.denial, .state Sample.entry 100 .denied, .isAllowed Sample.entry 100 .expired,
      .lookedUp (some Sample.entry)] := by
  obtain ⟨c, reached, passed⟩ := Sample.serves_of_run Sample.lapses
    (fun t => decide (t.steps = [.denial, .state Sample.entry 100 .denied,
      .isAllowed Sample.entry 100 .expired, .lookedUp (some Sample.entry)])) (by decide +kernel)
  exact ⟨c, reached, of_decide_eq_true passed⟩

end PolicyGate
