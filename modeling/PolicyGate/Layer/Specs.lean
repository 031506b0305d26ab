import PolicyGate.Layer.Middleware
import PolicyGate.Specs.Guest

namespace PolicyGate

open Interleaving

variable {T P Q B R : Type} {rt : Runtime} {layer : Layer T Q R} {request : Request Q B}
  {guest : Nat} {subject : T} {admission : Entry T}

inductive CallStep.Follows (layer : Layer T Q R) (request : Request Q B) :
    CallStep T Q B → List (CallStep T Q B) → Prop where
  | missingSubject (none : layer.policy.subject request.head = none) :
      Follows layer request .missingSubject []
  | lookedUp {subject : T} {found : Option (Entry T)}
      (named : layer.policy.subject request.head = some subject) :
      Follows layer request (.lookedUp found) []
  | readFound {admission : Entry T} {now : Nat} {seen : Observed} :
      Follows layer request (.isAllowed admission now seen) [.lookedUp (some admission)]
  | readAdmitted {admission : Entry T} {now : Nat} {seen : Observed}
      {earlier : List (CallStep T Q B)} :
      Follows layer request (.isAllowed admission now seen) (.admitted (some admission) :: earlier)
  | state {admission : Entry T} {now now' : Nat} {seen seen' : Observed}
      {earlier : List (CallStep T Q B)} (unallowed : seen ≠ .allowed) :
      Follows layer request (.state admission now' seen') (.isAllowed admission now seen :: earlier)
  | passed {subject : T} {admission : Entry T} {now : Nat} {earlier : List (CallStep T Q B)}
      (named : layer.policy.subject request.head = some subject) :
      Follows layer request (.passed (passThrough layer.policy request subject admission))
        (.isAllowed admission now .allowed :: earlier)
  | denial {subject : T} {admission : Entry T} {now : Nat} {earlier : List (CallStep T Q B)}
      (named : layer.policy.subject request.head = some subject) :
      Follows layer request .denial (.state admission now .denied :: earlier)
  | missed : Follows layer request .snapshotMiss [.lookedUp none]
  | missedRead {admission : Entry T} {now now' : Nat} {seen seen' : Observed}
      (undenied : seen' ≠ .denied) : Follows layer request .snapshotMiss
        [.state admission now' seen', .isAllowed admission now seen, .lookedUp (some admission)]
  | admitted {result : Option (Entry T)} {earlier : List (CallStep T Q B)} :
      Follows layer request (.admitted result) (.snapshotMiss :: earlier)
  | again {admission : Entry T} {result : Option (Entry T)} {now now' : Nat} {seen seen' : Observed}
      {earlier : List (CallStep T Q B)} (undenied : seen' ≠ .denied) :
      Follows layer request (.admitted result) (.state admission now' seen' ::
        .isAllowed admission now seen :: .admitted (some admission) :: earlier)
  | unavailable {earlier : List (CallStep T Q B)} :
      Follows layer request .unavailable (.admitted none :: earlier)

/-- Every step may come where it does. -/
def Coherent (layer : Layer T Q R) (request : Request Q B) : List (CallStep T Q B) → Prop
  | [] => True
  | event :: earlier => event.Follows layer request earlier ∧ Coherent layer request earlier

theorem Coherent.of_append {later earlier : List (CallStep T Q B)}
    (coherent : Coherent layer request (later ++ earlier)) : Coherent layer request earlier := by
  induction later with
  | nil => exact coherent
  | cons event later ih => exact ih coherent.2

/-- What the step says of the gate is so. -/
def CallStep.Backed (layer : Layer T Q R) (request : Request Q B)
    (cells : Nat → Option (EntryCell T P)) (guest : Nat) : CallStep T Q B → Prop
  | .isAllowed admission now seen | .state admission now seen =>
      Observed.Backed cells admission .state guest now seen
  | .lookedUp found | .admitted found => ∀ admission subject, found = some admission →
      layer.policy.subject request.head = some subject → admission.subject = subject
  | _ => True

inductive Served.Ends (layer : Layer T Q R) : Served T Q B R → List (CallStep T Q B) → Prop where
  | passed {future : EnforcedResponseFuture T Q B} {earlier : List (CallStep T Q B)} :
      Ends layer (.passed future) (.passed future :: earlier)
  | denied {earlier : List (CallStep T Q B)} :
      Ends layer (.rejected (layer.response.denied layer.rejectionMessage)) (.denial :: earlier)
  | missingSubject {earlier : List (CallStep T Q B)} :
      Ends layer (.rejected (layer.response.missingSubject layer.missingSubjectMessage))
        (.missingSubject :: earlier)
  | unavailable {earlier : List (CallStep T Q B)} :
      Ends layer (.rejected (layer.response.unavailable .unavailable unavailableMessage))
        (.unavailable :: earlier)

structure ServingOk (layer : Layer T Q R) (request : Request Q B) (guest : Nat) (s : Gate T P)
    (t : Serving T Q B R) : Prop where
  coherent : Coherent layer request t.steps
  backed : ∀ event ∈ t.steps, event.Backed layer request s.cells guest
  served : ∀ served, t.served = some served → served.Ends layer t.steps

theorem CallStep.Backed.mono {event : CallStep T Q B} {before after : Gate T P}
    (extend : Extends before after) (backed : event.Backed layer request before.cells guest) :
    event.Backed layer request after.cells guest := by
  cases event with
  | isAllowed | state => exact Observed.Backed.mono extend backed
  | lookedUp | admitted => exact backed
  | missingSubject | snapshotMiss | passed | denial | unavailable => trivial

theorem ServingOk.step {s : Gate T P} {t : Serving T Q B R} {event : CallStep T Q B}
    (ok : ServingOk layer request guest s t) (running : t.served = none)
    (follows : event.Follows layer request t.steps)
    (backed : event.Backed layer request s.cells guest) :
    ServingOk layer request guest s (t.step event) where
  coherent := ⟨follows, ok.coherent⟩
  backed other member := by
    rcases List.mem_cons.mp member with rfl | member
    · exact backed
    · exact ok.backed other member
  served served same := by
    rw [Serving.step, running] at same
    cases same

theorem ServingOk.finish {s : Gate T P} {t : Serving T Q B R} {served : Served T Q B R}
    (ok : ServingOk layer request guest s t) (ends : served.Ends layer t.steps) :
    ServingOk layer request guest s (t.finish served) :=
  { ok with
    served := fun other same => by
      obtain rfl := Option.some.inj same
      exact ends }

structure Running (M : List (CallStep T Q B) → Prop) (t : Serving T Q B R) : Prop where
  unserved : t.served = none
  steps : M t.steps

def Given (admission : Entry T) (steps : List (CallStep T Q B)) : Prop :=
  steps = [.lookedUp (some admission)] ∨ ∃ earlier, steps = .admitted (some admission) :: earlier

def Undetermined (M : List (CallStep T Q B) → Prop) (admission : Entry T)
    (steps : List (CallStep T Q B)) : Prop :=
  ∃ now now' seen seen' given, seen' ≠ Observed.denied ∧ M given ∧
    steps = .state admission now' seen' :: .isAllowed admission now seen :: given

def Unserved (layer : Layer T Q R) (request : Request Q B) (steps : List (CallStep T Q B)) : Prop :=
  ∀ result, CallStep.Follows layer request (.admitted result) steps

theorem Given.isAllowed {steps : List (CallStep T Q B)} (given : Given admission steps) (now : Nat)
    (seen : Observed) : CallStep.Follows layer request (.isAllowed admission now seen) steps := by
  rcases given with rfl | ⟨earlier, rfl⟩
  · exact .readFound
  · exact .readAdmitted

variable [DecidableEq T]

theorem servingOk_persists :
    (discipline (T := T) (P := P) rt).Persists (ServingOk layer request guest) := by
  intro me before after t ok ok' rely sound
  exact { sound with
    backed := fun event member => (sound.backed event member).mono rely.toExtends }

/-- The discipline of the gate with a call of the middleware. -/
abbrev handling (rt : Runtime) (layer : Layer T Q R) (request : Request Q B) (guest : Nat) :
    Discipline (Gate T P × Serving T Q B R) :=
  (discipline rt).hosting guest (ServingOk layer request guest)

namespace Layer

theorem modify_spec {f : Serving T Q B R → Serving T Q B R} {G : Gate T P → Prop}
    {M N : Serving T Q B R → Prop} (stable : (discipline rt).Stable guest G)
    (runs : ∀ s t, s.Invariant rt.config → ServingOk layer request guest s t → G s → M t →
      ServingOk layer request guest s (f t) ∧ N (f t)) :
    (handling rt layer request guest).Spec guest (modify f) (fun x => G x.1 ∧ M x.2)
      fun _ x => G x.1 ∧ N x.2 := by
  refine ownAction (M := fun _ _ t => N t) stable
    fun s t choice result after ok sound held known ran => ?_
  obtain ⟨_, rfl⟩ := Prod.mk.injEq .. ▸ Option.some.inj ran
  exact runs s t ok sound held known

theorem readHandle_spec {M : List (CallStep T Q B) → Prop} (read : Nat → Observed → CallStep T Q B)
    (follows : ∀ now seen steps, M steps → (read now seen).Follows layer request steps)
    (backs : ∀ (cells : Nat → Option (EntryCell T P)) now seen,
      Observed.Backed cells admission .state guest now seen →
        (read now seen).Backed layer request cells guest) :
    (handling rt layer request guest).Spec guest (readHandle (P := P) read admission)
      (fun x => Admission.Holding guest admission x.1 ∧ Running M x.2)
      fun seen x => Admission.Holding guest admission x.1 ∧
        Running (fun steps => ∃ now earlier, M earlier ∧ steps = read now seen :: earlier) x.2 := by
  refine .bind (Discipline.Spec.hosted servingOk_persists (.inl rfl) Admission.observe_spec)
    fun observed => ?_
  obtain ⟨now, seen⟩ := observed
  refine .bind (modify_spec (N := Running fun steps => ∃ now earlier, M earlier ∧
      steps = read now seen :: earlier) (M := Running M)
    (Admission.stable_holding.and (observed_backed_lasting admission seen now).stable)
    fun s t ok sound held known => ?_) fun _ => .done fun x _ held => ⟨held.1.1, held.2⟩
  exact ⟨sound.step known.unserved (follows now seen _ known.steps) (backs _ now seen held.2),
    known.unserved, now, t.steps, known.steps, rfl⟩

theorem isAllowed_spec {M : List (CallStep T Q B) → Prop} (given : ∀ steps, M steps → Given admission steps) :
    (handling rt layer request guest).Spec guest (isAllowed (P := P) admission)
      (fun x => Admission.Holding guest admission x.1 ∧ Running M x.2)
      fun allowed x => Admission.Holding guest admission x.1 ∧
        Running (fun steps => ∃ now seen given, M given ∧
          steps = .isAllowed admission now seen :: given ∧ (allowed = true ↔ seen = .allowed)) x.2 := by
  refine .bind (readHandle_spec (.isAllowed admission)
    (fun now seen steps known => (given steps known).isAllowed now seen) fun _ _ _ backed => backed)
    fun seen => .done fun x _ held => ⟨held.1, held.2.unserved, ?_⟩
  obtain ⟨now, given, found, same⟩ := held.2.steps
  exact ⟨now, seen, given, found, same, by simp⟩

theorem isDenied_spec {M : List (CallStep T Q B) → Prop} :
    (handling rt layer request guest).Spec guest (isDenied (P := P) admission)
      (fun x => Admission.Holding guest admission x.1 ∧
        Running (fun steps => ∃ now seen given, M given ∧
          steps = .isAllowed admission now seen :: given ∧ seen ≠ .allowed) x.2)
      fun denied x => Admission.Holding guest admission x.1 ∧
        Running (fun steps => ∃ now now' seen seen' given, M given ∧
          steps = .state admission now' seen' :: .isAllowed admission now seen :: given ∧
            (denied = true ↔ seen' = .denied)) x.2 := by
  refine .bind (readHandle_spec (.state admission) (fun now seen steps known => ?_)
    fun _ _ _ backed => backed) fun seen => .done fun x _ held => ⟨held.1, held.2.unserved, ?_⟩
  · obtain ⟨now', seen', given, _, rfl, unallowed⟩ := known
    exact .state unallowed
  · obtain ⟨now, earlier, ⟨now', seen', given, found, rfl, _⟩, same⟩ := held.2.steps
    exact ⟨now', now, seen', seen, given, found, same, by simp⟩

theorem finish_spec {M : List (CallStep T Q B) → Prop} {G : Gate T P → Prop}
    {event : CallStep T Q B} {served : Served T Q B R} (stable : (discipline rt).Stable guest G)
    (follows : ∀ steps, M steps → event.Follows layer request steps)
    (backs : ∀ cells : Nat → Option (EntryCell T P), event.Backed layer request cells guest)
    (ends : ∀ steps, served.Ends layer (event :: steps)) :
    (handling rt layer request guest).Spec guest
      (modify (P := P) fun t => (t.step event).finish served) (fun x => G x.1 ∧ Running M x.2)
      fun _ x => G x.1 :=
  (modify_spec (M := Running M) (N := fun _ => True) stable fun _ _ _ sound _ known =>
    ⟨(sound.step known.unserved (follows _ known.steps) (backs _)).finish (ends _), trivial⟩).post
      fun _ _ _ held => held.1

theorem serveHandle_spec {M : List (CallStep T Q B) → Prop}
    (given : ∀ steps, M steps → Given admission steps)
    (named : layer.policy.subject request.head = some subject) :
    (handling rt layer request guest).Spec guest
      (layer.serveHandle (P := P) request subject admission)
      (fun x => Admission.Holding guest admission x.1 ∧ Running M x.2)
      fun served x => x.1.Resting guest ∧
        (served = false → Running (Undetermined M admission) x.2) := by
  refine .bind (isAllowed_spec given) fun allowed => ?_
  cases allowed with
  | true =>
      refine .bind (finish_spec Admission.stable_holding (fun steps known => ?_) (fun _ => trivial)
        fun _ => .passed) fun _ => .done fun x _ held => ⟨held.1, by simp⟩
      obtain ⟨now, seen, given, _, rfl, read⟩ := known
      obtain rfl := read.mp rfl
      exact .passed named
  | false =>
      refine .bind ((isDenied_spec (M := M)).pre fun x _ held => ⟨held.1, held.2.unserved, ?_⟩) fun denied => ?_
      · obtain ⟨now, seen, given, found, same, read⟩ := held.2.steps
        exact ⟨now, seen, given, found, same, fun allowed => absurd (read.mpr allowed) (by simp)⟩
      · cases denied with
        | true =>
            refine .bind (finish_spec Admission.stable_holding (fun steps known => ?_)
              (fun _ => trivial) fun _ => .denied) fun _ => .done fun x _ held => ⟨held.1, by simp⟩
            obtain ⟨now, now', seen, seen', given, _, rfl, read⟩ := known
            obtain rfl := read.mp rfl
            exact .denial named
        | false =>
            refine .done fun x _ held => ⟨held.1.1, fun _ => ⟨held.2.unserved, ?_⟩⟩
            obtain ⟨now, now', seen, seen', given, found, same, read⟩ := held.2.steps
            exact ⟨now, now', seen, seen', given, fun denied => absurd (read.mpr denied) (by simp),
              found, same⟩

def Finds (rt : Runtime) (guest : Nat) (subject : T)
    (lookup : Program (Gate T P) (Option (Entry T))) : Prop :=
  (discipline rt).Spec guest lookup (fun s => s.Resting guest)
    fun found s => s.Resting guest ∧ Outcome.Backed s.cells guest (.cached subject found)

theorem serveCached_spec {lookup : Program (Gate T P) (Option (Entry T))}
    (named : layer.policy.subject request.head = some subject) (finds : Finds rt guest subject lookup) :
    (handling rt layer request guest).Spec guest (layer.serveCached request subject lookup)
      (fun x => x.1.Resting guest ∧ Running (· = []) x.2)
      fun served x => x.1.Resting guest ∧
        (served = false → Running (Unserved layer request) x.2) := by
  refine .bind (Discipline.Spec.hosted servingOk_persists (.inl rfl) finds) fun found => ?_
  refine .bind (modify_spec (M := Running (· = [])) (N := Running (· = [.lookedUp found]))
    (stable_rested (Lasting.backed guest (.cached subject found)))
    fun s t ok sound held known => ?_) fun _ => ?_
  · refine ⟨sound.step known.unserved ?_ ?_, known.unserved, congrArg (_ :: ·) known.steps⟩
    · rw [known.steps]
      exact .lookedUp named
    · rintro admission other rfl named'
      obtain rfl := Option.some.inj (named.symm.trans named')
      obtain ⟨now, snapshot, observation, _⟩ := held.2
      exact ok.cached_subject observation
  · have missing : (handling rt layer request guest).Spec guest
        (modify (P := P) fun t => t.step .snapshotMiss)
        (fun x => x.1.Resting guest ∧ Running (CallStep.Follows layer request .snapshotMiss) x.2)
        fun _ x => x.1.Resting guest ∧ Running (Unserved layer request) x.2 := by
      refine modify_spec (M := Running (CallStep.Follows layer request .snapshotMiss))
        (N := Running (Unserved layer request)) sheltered_rest fun s t ok sound held known => ?_
      exact ⟨sound.step known.unserved known.steps trivial, known.unserved, fun _ => .admitted⟩
    cases found with
    | none =>
        have missed : (handling rt layer request guest).Spec guest (do
            modify (P := P) fun t => t.step .snapshotMiss
            pure false)
            (fun x => x.1.Resting guest ∧ Running (· = [.lookedUp none]) x.2)
            fun served x => x.1.Resting guest ∧
              (served = false → Running (Unserved layer request) x.2) := by
          refine .bind (missing.pre fun x _ held => ⟨held.1, held.2.unserved, ?_⟩)
            fun _ => .done fun x _ held => ⟨held.1, fun _ => held.2⟩
          rw [held.2.steps]
          exact .missed
        exact missed.pre fun x _ held => ⟨held.1.1, held.2⟩
    | some admission =>
        refine .bind ((serveHandle_spec (M := (· = [.lookedUp (some admission)]))
          (fun _ same => .inl same) named).pre fun x _ held => ⟨⟨held.1.1, ?_⟩, held.2⟩)
          fun served => ?_
        · obtain ⟨now, snapshot, observation, authoritative⟩ := held.1.2
          exact issued_of_observation observation authoritative
        · cases served with
          | true => exact .done fun x _ held => ⟨held.1, by simp⟩
          | false =>
              refine .bind (missing.pre fun x _ held => ⟨held.1, (held.2 rfl).unserved, ?_⟩)
                fun _ => .done fun x _ held => ⟨held.1, fun _ => held.2⟩
              obtain ⟨now, now', seen, seen', given, undenied, rfl, same⟩ := (held.2 rfl).steps
              rw [same]
              exact .missedRead undenied

theorem serveAdmitted_spec (named : layer.policy.subject request.head = some subject) :
    (handling rt layer request guest).Spec guest
      (layer.serveAdmitted (P := P) rt request subject)
      (fun x => x.1.Resting guest ∧ Running (Unserved layer request) x.2)
      fun _ x => x.1.Resting guest := by
  refine .steady (Discipline.hosting_stable sheltered_rest (.inl rfl)) fun _ => ?_
  refine .bind (Discipline.Spec.hosted servingOk_persists (.inl rfl) admit_spec) fun result => ?_
  refine .bind (modify_spec (M := Running (Unserved layer request))
    (N := Running fun steps => ∃ earlier, steps = .admitted result :: earlier)
    (stable_rested ((Lasting.backed guest (.admitted subject result)).and (.const _)))
    fun s t ok sound held known => ?_) fun _ => ?_
  · refine ⟨sound.step known.unserved (known.steps result) ?_, known.unserved, t.steps, rfl⟩
    intro admission other same named'
    obtain rfl := Option.some.inj (named.symm.trans named')
    exact held.2.2 admission same
  · cases result with
    | none =>
        refine .bind (finish_spec (stable_rested ((Lasting.backed guest (.admitted subject none)).and
          (.const _))) (fun steps known => ?_) (fun _ => trivial) fun _ => .unavailable)
          fun _ => .done fun x _ held => held.1
        obtain ⟨earlier, rfl⟩ := known
        exact .unavailable
    | some admission =>
        refine .bind ((serveHandle_spec
          (M := fun steps => ∃ earlier, steps = .admitted (some admission) :: earlier)
          (fun _ same => .inr same) named).pre fun x _ held => ⟨⟨held.1.1, ?_⟩, held.2⟩)
          fun served => ?_
        · obtain ⟨now, snapshot, observation, authoritative⟩ := held.1.2.1
          exact issued_of_observation observation authoritative
        · cases served with
          | true => exact .done fun x _ held => held.1
          | false =>
              refine .done fun x _ held => ⟨held.1, (held.2 rfl).unserved, fun result => ?_⟩
              obtain ⟨now, now', seen, seen', given, undenied, ⟨earlier, rfl⟩, same⟩ :=
                (held.2 rfl).steps
              rw [same]
              exact .again undenied

theorem call_spec :
    (handling rt layer request guest).Spec guest (layer.call (P := P) rt request)
      (fun x => x.1.Resting guest ∧ Running (· = []) x.2) fun _ x => x.1.Resting guest := by
  rw [call]
  cases named : layer.policy.subject request.head with
  | none =>
      refine finish_spec sheltered_rest (fun steps known => ?_) (fun _ => trivial)
        fun _ => .missingSubject
      rw [known]
      exact .missingSubject named
  | some subject =>
      have serves : ∀ lookup, Finds rt guest subject lookup →
          (handling rt layer request guest).Spec guest (do
            let served ← layer.serveCached (P := P) request subject lookup
            if served then pure () else layer.serveAdmitted rt request subject)
          (fun x => x.1.Resting guest ∧ Running (· = []) x.2) fun _ x => x.1.Resting guest := by
        intro lookup finds
        refine .bind (serveCached_spec named finds) fun served => ?_
        cases served with
        | true => exact .done fun x _ held => held.1
        | false => exact (serveAdmitted_spec named).pre fun x _ held => ⟨held.1, held.2 rfl⟩
      change (handling rt layer request guest).Spec guest (if rt.config.refreshBeforeExpiry = 0 then
        _ else _) _ _
      split
      · exact serves _ checkWithoutRefresh_spec
      · exact serves _ check_spec

variable {authority : T → Option Decision} {calls : Nat → Call T}
  {c : Config (Gate T P × Serving T Q B R)}

theorem Reachable.sound (reached : layer.Reachable rt authority calls guest request c) :
    c.shared.1.Invariant rt.config ∧ ServingOk layer request guest c.shared.1 c.shared.2 := by
  obtain ⟨moves, ran⟩ := reached
  have begun : ServingOk layer request guest (Gate.new rt.constructed authority : Gate T P) .new :=
    { coherent := trivial
      backed := nofun
      served := nofun }
  have started : (layer.start (P := P) rt authority calls guest request).Covered
      (handling rt layer request guest) :=
    Config.Covered.host (R := Running (· = [])) servingOk_persists (covered_start authority calls)
      begun sheltered_rest nofun ⟨rfl, rfl⟩ call_spec
  exact (started.run (Config.beside_neutral servingOk_persists environment_neutral) ran).1

end Layer

end PolicyGate
