import PolicyGate.Audit.Watcher

namespace PolicyGate

open Interleaving Data

variable {T P : Type} [DecidableEq T] {rt : Runtime} {me : Nat} {L : Gate T P → Prop} {entry : Entry T}

theorem report_keeps {outcome : Outcome T P} (context : Context rt me L) :
    Keeps rt me .none L (report outcome) := by
  refine keepsAct context (fun _ _ _ locked => absurd rfl locked)
    fun s choice result after _ _ ran => ?_
  obtain ⟨_, rfl⟩ := Prod.mk.injEq .. ▸ Option.some.inj ran
  exact ⟨.of_eq rfl rfl rfl rfl, rfl, rfl, le_rfl, rfl, rfl, rfl⟩

theorem reachUnreachable_keeps {α : Type} (context : Context rt me L) :
    Keeps rt me .none L (reachUnreachable : Program (Gate T P) α) :=
  .bind (keepsModify context fun _ _ _ => ⟨.of_eq rfl rfl rfl rfl, rfl, rfl, le_rfl, rfl, rfl, rfl⟩)
    fun _ => keepsAct context (fun _ _ _ locked => absurd rfl locked) fun _ _ _ _ _ _ ran => nomatch ran

theorem Entry.observedAt_keeps {reader : Reader T} {now : Nat} (context : Context rt me L)
    (known : ∀ s, L s → s.Known entry) : Keeps rt me .none L (entry.observedAt reader now) := by
  refine .bind (Entry.currentAt_keeps context known) fun ⟨current, expired⟩ => ?_
  cases expired with
  | true => exact keepsDone
  | false =>
      dsimp only
      cases current.state with
      | pending => exact reachUnreachable_keeps context
      | allowed => exact keepsDone
      | denied => exact keepsDone
      | stale => exact keepsDone

namespace Admission

theorem hold_audit (context : Context rt me L) :
    (audit rt).Spec me (hold (P := P) entry) (Gate.During me .none L)
      fun _ => Gate.During me .none fun s => L s ∧ s.Known entry := by
  refine asideAct context (fun _ _ _ locked => absurd rfl locked)
    fun s choice result after follows ok held ran => ?_
  cases found : s.cells entry.id with
  | none =>
      simp only [found] at ran
      cases ran
  | some cell =>
      simp only [found] at ran
      split at ran
      · rename_i handed
        obtain ⟨_, rfl⟩ := Prod.mk.injEq .. ▸ Option.some.inj ran
        exact ⟨.refl me s, cell, found, handed.1⟩
      · cases ran

theorem state_keeps (context : Context rt me L) (known : ∀ s, L s → s.Known entry) :
    Keeps rt me .none L (state entry) :=
  .bind (clockNow_keeps context) fun _ => .bind (Entry.observedAt_keeps context known) fun _ => keepsDone

theorem check_keeps (context : Context rt me L) (known : ∀ s, L s → s.Known entry) :
    Keeps rt me .none L (check entry) := by
  refine .bind (clockNow_keeps context) fun now =>
    .bind (Entry.currentAt_keeps context known) fun ⟨current, expired⟩ => ?_
  have answer : Keeps rt me .none L (do
      let due ← entry.refreshDueAt current now
      pure (.checked entry now current.state due) : Program (Gate T P) (Outcome T P)) :=
    .bind (Entry.refreshDueAt_keeps context known) fun _ => keepsDone
  cases expired with
  | true => exact keepsDone
  | false =>
      simp only [Bool.false_eq_true, ↓reduceIte]
      split
      · exact reachUnreachable_keeps context
      · exact answer
      · exact answer
      · exact answer

theorem payload_keeps (context : Context rt me L) (known : ∀ s, L s → s.Known entry) :
    Keeps rt me .none L (payload entry) :=
  .bind (clockNow_keeps context) fun _ => .bind (Entry.currentAt_keeps context known) fun _ => keepsDone

end Admission

theorem handled_keeps {rest : Program (Gate T P) Unit} (context : Context rt me L)
    (runs : Keeps rt me .none (fun s => L s ∧ s.Known entry) rest) :
    Keeps rt me .none L (do Admission.hold entry; rest) :=
  .bind (Admission.hold_audit context) fun _ => runs.post fun _ _ _ _ held => ⟨held.1, held.2.1⟩

theorem Call.program_keeps (firm : Firm rt me L) (call : Call T) :
    Keeps rt me .none L (call.program (P := P) rt) := by
  have context := firm.context
  have home : ∀ entry : Entry T, Firm rt me fun s => L s ∧ s.Known entry := fun entry =>
    firm.lasting (.known entry)
  cases call with
  | admitSubject subject => exact .bind (admitSubject_keeps firm) fun _ => report_keeps context
  | tryCached subject => exact .bind (check_keeps firm) fun _ => report_keeps context
  | checkWithoutRefresh subject =>
      exact .bind (checkWithoutRefresh_keeps firm) fun _ => report_keeps context
  | refresh subject admission =>
      exact handled_keeps context (.bind (refreshEntry_keeps (home admission) fun s held => held.2)
        fun _ => report_keeps (home admission).context)
  | state admission =>
      exact handled_keeps context (.bind (Admission.state_keeps (home admission).context
        fun s held => held.2) fun _ => report_keeps (home admission).context)
  | check admission =>
      exact handled_keeps context (.bind (Admission.check_keeps (home admission).context
        fun s held => held.2) fun _ => report_keeps (home admission).context)
  | payload admission =>
      exact handled_keeps context (.bind (Admission.payload_keeps (home admission).context
        fun s held => held.2) fun _ => report_keeps (home admission).context)
  | invalidate admission =>
      exact handled_keeps context (.bind ((Entry.invalidate_audit (home admission).context
        fun s held => held.2).post fun _ _ _ _ held => ⟨held.1, held.2.1⟩)
          fun _ => report_keeps (home admission).context)
  | poll generation => exact runFetch_keeps firm

theorem Gate.Audited.answered {s : Gate T P} {generation : Nat} {flight : Flight T P}
    {answer : Answer P} {truth : Flight T P → Option Decision} (ok : s.Audited rt)
    (follows : Follows rt none s (s.updateFlight generation fun flight =>
      { flight with answer := some answer, truth := truth flight }))
    (flown : s.flights generation = some flight) :
    LookupsOk s.cells (s.updateFlight generation fun flight =>
        { flight with answer := some answer, truth := truth flight }).flights ∧
      CooldownsOk rt.config s.clock s.cells (s.updateFlight generation fun flight =>
        { flight with answer := some answer, truth := truth flight }).flights ∧
      EntriesStep rt.config none s (s.updateFlight generation fun flight =>
        { flight with answer := some answer, truth := truth flight }) := by
  have flights := Gate.updateFlight_some flown fun flight : Flight T P =>
    { flight with answer := some answer, truth := truth flight }
  have stays : Related (fun _ => Flight.Stays none) s.flights
      (s.updateFlight generation fun flight =>
        { flight with answer := some answer, truth := truth flight }).flights :=
    Gate.stays_of_update flown flights ⟨rfl, rfl, rfl, .inr rfl, id⟩
  refine ⟨ok.lookups.stays follows stays fun id cell found _ => .inl ⟨cell, found, rfl⟩,
    ok.cooldowns.transfer 0 follows (fun id cell found => .inl ⟨cell, found, rfl, .inl rfl,
      fun fetch pending => .inl pending⟩) fun other one' flownOne' => ?_,
    .stays stays fun id cell found => ⟨cell, found, rfl, rfl⟩⟩
  rcases Gate.eq_or_of_update flown flights flownOne' with ⟨rfl, rfl⟩ | ⟨_, was⟩
  · exact .inl ⟨flight, flown, rfl, rfl, id, fun _ underway => underway, fun _ waiting => waiting⟩
  · exact .inl ⟨one', was, rfl, rfl, id, fun _ underway => underway, fun _ waiting => waiting⟩

theorem environment_audit (event : GateEvent T P) (s after : Gate T P) (follows : Follows rt none s after)
    (ok : s.Audited rt) (happened : Gate.environment event s = some after) :
    after.Audited rt ∧ Gate.Step rt.config none s after := by
  have outside : s.Aside 0 after → after.cells = s.cells → after.flights = s.flights →
      after.Audited rt ∧ Gate.Step rt.config none s after := by
    intro aside cells flights
    refine ⟨⟨aside.toInside.periphery (Follows.lasts follows).clock ok.periphery,
      aside.lookups follows ok.lookups, aside.cooldowns follows ok.cooldowns⟩,
      aside.toInside.step (fun _ mine => by cases mine), .of_logs (fun id cell found => ⟨cell, cells ▸ found, rfl, rfl⟩)
      (fun other one one' flown flown' _ => ?_) fun other one' answer flown' answered => ?_⟩
    · rw [flights, flown] at flown'
      rw [Option.some.inj flown']
    · exact .inl ⟨one', flights ▸ flown', answered⟩
  cases event with
  | advance duration =>
      obtain rfl := Option.some.inj happened
      exact outside ⟨.of_eq rfl rfl rfl rfl, rfl, rfl, le_rfl, rfl, rfl, rfl⟩ rfl rfl
  | decide change =>
      obtain rfl := Option.some.inj happened
      exact outside ⟨.of_eq rfl rfl rfl rfl, rfl, rfl, le_rfl, rfl, rfl, rfl⟩ rfl rfl
  | streamError error =>
      obtain rfl := Option.some.inj happened
      exact outside ⟨.of_eq rfl rfl rfl rfl, rfl, rfl, le_rfl, rfl, rfl, rfl⟩ rfl rfl
  | streamEnd =>
      obtain rfl := Option.some.inj happened
      exact outside ⟨.of_eq rfl rfl rfl rfl, rfl, rfl, le_rfl, rfl, rfl, rfl⟩ rfl rfl
  | answer generation answer =>
      simp only [Gate.environment] at happened
      split at happened
      · rename_i flight flown
        split at happened
        · obtain rfl := Option.some.inj happened
          obtain ⟨lookups, cooldowns, entries⟩ := ok.answered follows flown
          exact ⟨⟨{ ok.periphery with }, lookups, cooldowns⟩,
            ⟨.inl rfl, .inl rfl, fun _ _ => rfl, List.suffix_rfl, .inl rfl, id, Gate.undropped rfl,
              fun _ mine => by cases mine⟩,
            entries⟩
        · cases happened
      · cases happened

omit [DecidableEq T] in
theorem audited_new (authority : T → Option Decision) :
    (Gate.new (P := P) rt.constructed authority).Audited rt where
  periphery := ⟨nofun, ⟨le_rfl, Nat.le_add_right _ _, .nil, nofun⟩, Nat.zero_le _, fun _ => rfl,
    fun _ => Nat.zero_le _⟩
  lookups := ⟨fun _ _ found => (nomatch found), fun _ _ _ flown => (nomatch flown)⟩
  cooldowns :=
    { past := fun _ _ found => (nomatch found), since := fun _ _ flown => (nomatch flown)
      cooled := fun _ _ found => (nomatch found), rested := fun _ _ _ flown => (nomatch flown)
      succeeds := fun _ _ _ _ found => (nomatch found)
      spaced := fun _ _ _ _ _ _ _ _ found => (nomatch found) }

theorem audited_start (authority : T → Option Decision) (calls : Nat → Call T) :
    (start (P := P) rt authority calls).Audited (audit rt) := by
  refine ⟨audited_new authority, fun thread => ⟨_, Context.start.held .none, ⟨?_, fun _ => rfl⟩, ?_⟩⟩
  · rintro (mine | mine) <;> cases mine
  · cases thread with
    | zero => exact (watchSource_keeps .start).post fun _ s _ _ held => held.1
    | succ thread => exact ((calls thread).program_keeps .start).post fun _ s _ _ held => held.1

section

variable {authority : T → Option Decision} {calls : Nat → Call T} {c next : Config (Gate T P)}

theorem Reachable.audited (reached : Reachable rt authority calls c) : c.Audited (audit rt) := by
  obtain ⟨moves, ran⟩ := reached
  exact (audited_start authority calls).run environment_neutral environment_audit
    (covered_start authority calls) ran

/-- What a move does, unless it leaves the shared memory as it is. -/
theorem Reachable.step {m : Move (GateEvent T P)} (reached : Reachable rt authority calls c)
    (moved : c.move Gate.environment m = some next) :
    Gate.Step rt.config m.actor c.shared next.shared ∨ next.shared = c.shared :=
  (reached.audited.move environment_neutral environment_audit reached.covered moved).2

end

end PolicyGate
