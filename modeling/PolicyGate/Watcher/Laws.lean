import PolicyGate.Watcher.Record
import PolicyGate.Watcher.Steady

namespace PolicyGate

variable {T P : Type} {rt : Runtime}

namespace WatchRecord

/-- What the watcher did before it does this. -/
def Allowed (rt : Runtime) (earlier : WatchRecord T) : WatchNote T → Prop
  | .failed | .opened _ => earlier = [] ∨ ∃ now rest, earlier = .woke now :: rest
  | .connected => ∃ session rest, earlier = .opened session :: rest
  | .timer _ => ∃ rest, earlier = .connected :: rest
  | .stable session now => pending earlier = none ∧ ∃ since, Attached session since earlier ∧
      since + rt.config.maxReconnectDelay ≤ now
  | .took session _ => pending earlier = none ∧ (∃ since, Attached session since earlier) ∧
      taken session earlier = (applied session earlier).map .change
  | .applied session change => ∃ rest, earlier = .took session (.change change) :: rest
  | .disconnected _ => pending earlier = none
  | .idle => ∃ now rest, earlier = .disconnected now :: rest
  | .sleeps base pause _ => (∃ rest, earlier = .idle :: rest) ∧
      base = backoff rt.config earlier ∧ ∃ draw < 2 ^ 64, pause = jitter base draw
  | .woke now => ∃ base pause start rest, earlier = .sleeps base pause start :: rest ∧
      start + pause ≤ now

def Regular (rt : Runtime) : WatchRecord T → Prop
  | [] => True
  | note :: earlier => Allowed rt earlier note ∧ Regular rt earlier

/-- The stream of `session` processed its stability event after it was open for the maximal reconnect
delay, and no disconnect followed. -/
def Steadied (rt : Runtime) (session : Nat) (notes : WatchRecord T) : Prop :=
  ∃ later now earlier since, notes = later ++ .stable session now :: earlier ∧
    (∀ note ∈ later, note.isDisconnected = false) ∧ Attached session since earlier ∧
      since + rt.config.maxReconnectDelay ≤ now

variable {notes earlier later : WatchRecord T} {note : WatchNote T} {session n : Nat}

theorem Steadied.cons (steadied : Steadied rt session notes)
    (lasts : note.isDisconnected = false) : Steadied rt session (note :: notes) := by
  obtain ⟨later, now, earlier, since, rfl, undisturbed, streaming⟩ := steadied
  refine ⟨note :: later, now, earlier, since, rfl, fun other member => ?_, streaming⟩
  rcases List.mem_cons.mp member with rfl | member
  · exact lasts
  · exact undisturbed other member

theorem Regular.allowed (regular : Regular rt notes) (split : notes = later ++ note :: earlier) :
    Allowed rt earlier note := by
  induction later generalizing notes with
  | nil =>
      subst split
      exact regular.1
  | cons newest later ih =>
      subst split
      exact ih regular.2 rfl

theorem Regular.before (regular : Regular rt notes) (split : notes = later ++ note :: earlier) :
    Regular rt earlier := by
  induction later generalizing notes with
  | nil =>
      subst split
      exact regular.2
  | cons newest later ih =>
      subst split
      exact ih regular.2 rfl

theorem since_of_steadied {constructed : Nat} (steadied : Steadied rt session notes) :
    since constructed notes = none := by
  obtain ⟨later, now, earlier, began, rfl, undisturbed, _⟩ := steadied
  induction later with
  | nil => rfl
  | cons note later ih =>
      have ih := ih fun other member => undisturbed other (List.mem_cons_of_mem _ member)
      cases note with
      | disconnected now => cases undisturbed _ List.mem_cons_self
      | stable => rfl
      | failed | opened | connected | timer | took | applied | idle | sleeps | woke => exact ih

/-- The first disconnect after the last stability event. -/
def FirstDisconnect (instant : Nat) (notes : WatchRecord T) : Prop :=
  ∃ later between session now earlier,
    notes = later ++ .disconnected instant :: (between ++ .stable session now :: earlier) ∧
      (∀ note ∈ later, note.isStable = false) ∧
      ∀ note ∈ between, note.isStable = false ∧ note.isDisconnected = false

theorem FirstDisconnect.cons {instant : Nat} (first : FirstDisconnect instant notes)
    (unstable : note.isStable = false) : FirstDisconnect instant (note :: notes) := by
  obtain ⟨later, between, session, now, earlier, rfl, unsettled, quiet⟩ := first
  refine ⟨note :: later, between, session, now, earlier, rfl, fun other member => ?_, quiet⟩
  rcases List.mem_cons.mp member with rfl | member
  · exact unstable
  · exact unsettled other member

theorem since_eq_none {constructed : Nat} (settled : since constructed notes = none) :
    ∃ later session now earlier, notes = later ++ .stable session now :: earlier ∧
      ∀ note ∈ later, note.isStable = false ∧ note.isDisconnected = false := by
  induction notes with
  | nil => cases settled
  | cons note notes ih =>
      have further : since constructed notes = none → note.isStable = false →
          note.isDisconnected = false → ∃ later session now earlier,
            note :: notes = later ++ .stable session now :: earlier ∧
              ∀ note ∈ later, note.isStable = false ∧ note.isDisconnected = false := by
        intro settled unstable quiet
        obtain ⟨later, session, now, earlier, split, between⟩ := ih settled
        refine ⟨note :: later, session, now, earlier, by rw [split]; rfl, fun other member => ?_⟩
        rcases List.mem_cons.mp member with rfl | member
        · exact ⟨unstable, quiet⟩
        · exact between other member
      cases note with
      | stable session now => exact ⟨[], session, now, notes, rfl, nofun⟩
      | disconnected now => cases settled
      | failed | opened | connected | timer | took | applied | idle | sleeps | woke =>
          exact further settled rfl rfl

theorem since_eq_some {constructed instant : Nat} (recorded : since constructed notes = some instant) :
    ((∀ note ∈ notes, note.isStable = false) ∧ instant = constructed) ∨
      FirstDisconnect instant notes := by
  induction notes generalizing instant with
  | nil => exact .inl ⟨nofun, (Option.some.inj recorded).symm⟩
  | cons note notes ih =>
      have further : since constructed notes = some instant → note.isStable = false →
          ((∀ other ∈ note :: notes, other.isStable = false) ∧ instant = constructed) ∨
            FirstDisconnect instant (note :: notes) := by
        intro recorded unstable
        refine (ih recorded).imp (fun never => ⟨fun other member => ?_, never.2⟩) fun first =>
          first.cons unstable
        rcases List.mem_cons.mp member with rfl | member
        · exact unstable
        · exact never.1 other member
      cases note with
      | stable => cases recorded
      | disconnected now =>
          cases before : since constructed notes with
          | none =>
              obtain ⟨between, session, stableAt, earlier, rfl, quiet⟩ := since_eq_none before
              simp only [since, before, Option.getD_none, Option.some.injEq] at recorded
              exact .inr ⟨[], between, session, stableAt, earlier, by rw [recorded]; rfl, nofun, quiet⟩
          | some first =>
              simp only [since, before, Option.getD_some, Option.some.injEq] at recorded
              exact further (recorded ▸ before) rfl
      | failed | opened | connected | timer | took | applied | idle | sleeps | woke =>
          exact further recorded rfl

theorem backoff_eq {config : PolicyGateConfig} {rt : Runtime} (same : rt.config = config)
    (ordered : config.initialReconnectDelay ≤ config.maxReconnectDelay)
    (regular : Regular rt notes) : backoff config notes =
      min (config.initialReconnectDelay * 2 ^ retries notes) config.maxReconnectDelay := by
  subst same
  induction notes with
  | nil =>
      simp only [backoff, retries]
      omega
  | cons note notes ih =>
      have ih := ih regular.2
      cases note with
      | stable =>
          simp only [backoff, retries]
          omega
      | sleeps base pause now =>
          have doubled : base = backoff rt.config notes := regular.1.2.1
          rw [backoff, retries, doubled, ih, pow_succ, ← mul_assoc]
          omega
      | failed | opened | connected | timer | took | applied | disconnected | idle | woke => exact ih

end WatchRecord

open WatchRecord

/-- The record agrees with what only the watcher writes. -/
structure Recorded (rt : Runtime) (watch : Watch T P) (notes : WatchRecord T) : Prop where
  regular : Regular rt notes
  since : watch.disconnectedSince = WatchRecord.since rt.constructed notes
  numbered : ∀ n, watch.opened < n → taken n notes = [] ∧ applied n notes = []
  down : down notes = true → watch.phase = .opened ∨ watch.era = none ∧ watch.connected = false
  stable : WatchRecord.since rt.constructed notes = none → Steadied rt watch.opened notes

def WatchNote.Plain : WatchNote T → Prop
  | .failed | .connected | .timer _ | .idle | .sleeps .. | .woke _ => True
  | _ => False

namespace Recorded

variable {watch watch' : Watch T P} {notes : WatchRecord T} {note : WatchNote T}

theorem steady {before after : Gate T P} (recorded : Recorded rt before.watch notes)
    (steady : Gate.Steady before after) : Recorded rt after.watch notes where
  regular := recorded.regular
  since := steady.disconnectedSince.trans recorded.since
  numbered n later := recorded.numbered n (steady.opened ▸ later)
  down isDown := by
    rw [steady.phase, steady.connected]
    by_cases opening : before.watch.phase = .opened
    · exact .inl opening
    · obtain ⟨cleared, off⟩ := (recorded.down isDown).resolve_left opening
      refine .inr ⟨?_, off⟩
      rcases steady.era with same | forgotten
      · rw [same, cleared]
      · rw [forgotten, Subjects.clearedEra, if_neg opening]
  stable settled := steady.opened ▸ recorded.stable settled

theorem plain (recorded : Recorded rt watch notes) (plain : note.Plain)
    (allowed : Allowed rt notes note) (opened : watch'.opened = watch.opened)
    (since : watch'.disconnectedSince = watch.disconnectedSince)
    (down : WatchRecord.down (note :: notes) = true →
      watch'.phase = .opened ∨ watch'.era = none ∧ watch'.connected = false) :
    Recorded rt watch' (note :: notes) := by
  have regular : Regular rt (note :: notes) := ⟨allowed, recorded.regular⟩
  cases note with
  | failed | connected | timer | idle | sleeps | woke =>
      exact
        { regular, down
          since := since.trans recorded.since
          numbered := fun n later => recorded.numbered n (opened ▸ later)
          stable := fun settled => opened ▸ (recorded.stable settled).cons rfl }
  | opened | stable | took | applied | disconnected => cases plain

theorem same (recorded : Recorded rt watch notes) (plain : note.Plain)
    (allowed : Allowed rt notes note)
    (down : WatchRecord.down (note :: notes) = WatchRecord.down notes) :
    Recorded rt watch (note :: notes) :=
  recorded.plain plain allowed rfl rfl fun isDown => recorded.down (down ▸ isDown)

theorem opened (recorded : Recorded rt watch notes)
    (allowed : notes = [] ∨ ∃ now rest, notes = .woke now :: rest)
    (next : watch'.opened = watch.opened + 1) (opening : watch'.phase = .opened)
    (since : watch'.disconnectedSince = watch.disconnectedSince)
    (unsettled : watch.disconnectedSince ≠ none) :
    Recorded rt watch' (.opened watch'.opened :: notes) where
  regular := ⟨allowed, recorded.regular⟩
  since := since.trans recorded.since
  numbered n later := recorded.numbered n (by omega)
  down _ := .inl opening
  stable settled := absurd (recorded.since.trans settled) unsettled

theorem settled {now : Nat} (recorded : Recorded rt watch notes)
    (allowed : Allowed rt notes (.stable watch.opened now)) (same : watch'.opened = watch.opened)
    (off : watch'.disconnectedSince = none)
    (down : watch'.phase = watch.phase ∧ watch'.era = watch.era ∧ watch'.connected = watch.connected) :
    Recorded rt watch' (.stable watch'.opened now :: notes) where
  regular := ⟨same ▸ allowed, recorded.regular⟩
  since := off
  numbered n later := recorded.numbered n (same ▸ later)
  down isDown := by
    rw [down.1, down.2.1, down.2.2]
    exact recorded.down isDown
  stable _ := by
    obtain ⟨_, since, streaming, open_long⟩ := allowed
    rw [same]
    exact ⟨[], now, notes, since, rfl, nofun, streaming, open_long⟩

theorem disconnected {now : Nat} (recorded : Recorded rt watch notes)
    (settled : pending notes = none) (same : watch'.opened = watch.opened)
    (since : watch'.disconnectedSince = some (watch.disconnectedSince.getD now))
    (down : watch'.phase = watch.phase ∧ watch'.era = watch.era ∧ watch'.connected = watch.connected) :
    Recorded rt watch' (.disconnected now :: notes) where
  regular := ⟨settled, recorded.regular⟩
  since := by rw [since, recorded.since, WatchRecord.since]
  numbered n later := recorded.numbered n (same ▸ later)
  down isDown := by
    rw [down.1, down.2.1, down.2.2]
    exact recorded.down isDown
  stable settled := nomatch settled

theorem took {item : StreamItem T} (recorded : Recorded rt watch notes)
    (allowed : Allowed rt notes (.took watch.opened item)) :
    Recorded rt watch (.took watch.opened item :: notes) where
  regular := ⟨allowed, recorded.regular⟩
  since := recorded.since
  numbered n later := by
    have other : watch.opened ≠ n := by omega
    simp only [taken, WatchRecord.applied, if_neg other]
    exact recorded.numbered n later
  down := recorded.down
  stable settled := (recorded.stable settled).cons rfl

theorem applied {change : DecisionChange T} (recorded : Recorded rt watch notes)
    (allowed : Allowed rt notes (.applied watch.opened change)) :
    Recorded rt watch (.applied watch.opened change :: notes) where
  regular := ⟨allowed, recorded.regular⟩
  since := recorded.since
  numbered n later := by
    have other : watch.opened ≠ n := by omega
    simp only [taken, WatchRecord.applied, if_neg other]
    exact recorded.numbered n later
  down := recorded.down
  stable settled := (recorded.stable settled).cons rfl

end Recorded

end PolicyGate
