import PolicyGate.Properties.Runs

namespace PolicyGate

open Interleaving

variable {T P : Type} [DecidableEq T] {rt : Runtime} {authority : T → Option Decision}
  {calls : Nat → Call T} {c later : Config (Gate T P)}

/-- No lookup that began before a change was published is published after it. -/
def EntryLog.ChangesStand (log : EntryLog T P) : Prop :=
  ∀ recent publication rest, log = recent ++ .published publication :: rest →
    publication.origin ≠ .change →
    ∃ generation, (publication.origin = .cold generation ∨ publication.origin = .refresh generation) ∧
      ∀ between change before, rest = between ++ .published change :: before →
        change.origin = .change →
        ∀ refresh held now, .started generation refresh held now ∉ before

omit [DecidableEq T] in
theorem EntryLog.StartedSince.not_before {config : PolicyGateConfig} {entry : Entry T}
    {between before : EntryLog T P} {generation : Nat} {event : EntryEvent T P}
    (since : EntryLog.StartedSince generation (between ++ event :: before))
    (accounted : EntryLog.Accounted config entry (between ++ event :: before))
    (loud : event.touches = true) :
    ∀ refresh held now, .started generation refresh held now ∉ before := by
  intro refresh held now started
  obtain ⟨fresh, earlier, refresh', held', now', split, untouched⟩ := since
  have once := (split ▸ accounted).event refresh held now
  rcases List.append_eq_append_iff.mp split with ⟨middle, rfl, tail⟩ | ⟨middle, rfl, tail⟩
  · cases middle with
    | nil =>
        obtain ⟨rfl, rfl⟩ := List.cons.inj tail
        cases loud
    | cons head rest =>
        obtain ⟨rfl, rfl⟩ := List.cons.inj tail
        simp [touches_append, touches_cons, loud] at untouched
  · cases middle with
    | nil =>
        obtain ⟨rfl, rfl⟩ := List.cons.inj tail
        cases loud
    | cons head rest =>
        obtain ⟨rfl, rfl⟩ := List.cons.inj tail
        exact once (List.mem_append_right _ (List.mem_cons_of_mem _ started))

omit [DecidableEq T] in
theorem EntryLog.Accounted.changesStand {config : PolicyGateConfig} {entry : Entry T}
    {log : EntryLog T P} (accounted : EntryLog.Accounted config entry log) :
    EntryLog.ChangesStand log := by
  rintro recent publication rest rfl lookup
  have due := accounted.event.2
  have onward := (Accounted.of_append accounted).2
  have since : ∀ generation, EntryLog.LookupAccounted config entry rest generation publication →
      ∀ between change before, rest = between ++ .published change :: before →
        change.origin = .change →
        ∀ refresh held now, .started generation refresh held now ∉ before := by
    rintro generation looked between change before rfl _
    exact looked.2.2.not_before onward rfl
  cases origin : publication.origin with
  | cold generation =>
      rw [origin] at due
      exact ⟨generation, .inl rfl, since generation due.2⟩
  | refresh generation =>
      rw [origin] at due
      exact ⟨generation, .inr rfl, since generation due.2⟩
  | change => exact absurd origin lookup

/-- While the stream is open and the source answers with the authority's decision of some instant
of the call, an entry of the map whose changes are all applied carries the decision in force;
and no lookup from before a change overwrites it. -/
theorem cached_decisions_agree (reached : Reachable rt authority calls c) :
    (c.shared.stream.isSome = true → c.shared.Honest →
      ∀ slot ∈ c.shared.subjects.cache.entries, c.shared.due slot.1 = [] →
        ∀ cell decision, c.shared.cells slot.2.entry.id = some cell →
          cell.state = .ofDecision decision → c.shared.authority slot.1 = some decision) ∧
    ∀ id cell, c.shared.cells id = some cell → EntryLog.ChangesStand cell.log := by
  have ok := reached.invariant
  refine ⟨fun streaming honest slot member applied cell decision found decided => ?_,
    fun id cell found => (ok.cells id cell found).accounted.changesStand⟩
  obtain ⟨cell', found', _, subject, _⟩ := ok.map.slots slot member
  obtain rfl : cell = cell' := Option.some.inj (found.symm.trans found')
  rw [subject] at applied ⊢
  have agrees := (ok.agreement streaming honest).entries _ cell found ⟨slot, member, rfl⟩ applied
  exact agrees.decided decision decided

def Sample.deniedInMap (s : Gate Nat Nat) : Bool :=
  s.stream.isSome && s.testHonest && s.subjects.cache.entries.any fun slot =>
    slot.1 = 0 && (s.due slot.1).isEmpty &&
      (s.cells slot.2.entry.id).any fun cell => cell.state = .denied

theorem cached_decisions_agree_sample :
    ∃ c : Config (Gate Nat Nat),
      Reachable Sample.runtime (fun _ => some .denied) (Sample.asking [.admitSubject 0, .poll 0]) c ∧
        ∃ slot ∈ c.shared.subjects.cache.entries, slot.1 = 0 ∧
          (∃ cell, c.shared.cells slot.2.entry.id = some cell ∧ cell.state = .denied) ∧
          c.shared.authority slot.1 = some .denied := by
  obtain ⟨c, reached, passed⟩ :=
    Reachable.of_run Sample.runtime (fun _ => some .denied) (Sample.asking [.admitSubject 0, .poll 0])
      (Sample.admits .denied none) Sample.deniedInMap (by decide +kernel)
  simp only [Sample.deniedInMap, Bool.and_eq_true, List.any_eq_true, decide_eq_true_eq,
    List.isEmpty_iff, Option.any_eq_true] at passed
  obtain ⟨⟨streaming, tested⟩, slot, member, ⟨key, applied⟩, cell, found, denied⟩ := passed
  exact ⟨c, reached, slot, member, key, ⟨cell, found, denied⟩, (cached_decisions_agree reached).1
    streaming (reached.invariant.honest tested) slot member applied cell .denied found denied⟩

end PolicyGate
