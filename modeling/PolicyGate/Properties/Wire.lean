import PolicyGate.TonicSource
import PolicyGate.Properties.Outages
import PolicyGate.Properties.Sessions

namespace PolicyGate

open Interleaving WatchRecord TonicSource

variable {T P : Type} [DecidableEq T] {rt : Runtime} {authority : T → Option Decision}
  {calls : Nat → Call T} {w : Config (Gate T P × WatchRecord T)}

section

omit [DecidableEq T]

variable {changes good : List (DecisionChange T)} {item other : StreamItem T}
  {rest more : List (StreamItem T)}

theorem not_mem_changes (noChange : item.isChange = false) : item ∉ changes.map .change := by
  intro member
  obtain ⟨change, _, rfl⟩ := List.mem_map.mp member
  cases noChange

theorem prefix_of_changes (isOther : other.isChange = false)
    (front : changes.map .change <+: good.map .change ++ other :: rest) : changes <+: good := by
  induction changes generalizing good with
  | nil => exact List.nil_prefix
  | cons change changes ih =>
      cases good with
      | nil =>
          have first := (List.cons_prefix_cons.mp front).1
          subst first
          cases isOther
      | cons first good =>
          obtain ⟨same, further⟩ := List.cons_prefix_cons.mp front
          obtain rfl : change = first := StreamItem.change.inj same
          exact List.cons_prefix_cons.mpr ⟨rfl, ih further⟩

theorem changes_eq (isOther : other.isChange = false) (noChange : item.isChange = false)
    (front : changes.map .change ++ item :: more <+: good.map .change ++ other :: rest) :
    changes = good ∧ more <+: rest := by
  induction changes generalizing good with
  | nil =>
      cases good with
      | nil => exact ⟨rfl, (List.cons_prefix_cons.mp front).2⟩
      | cons first good =>
          have same := (List.cons_prefix_cons.mp front).1
          subst same
          cases noChange
  | cons change changes ih =>
      cases good with
      | nil =>
          have same := (List.cons_prefix_cons.mp front).1
          subst same
          cases isOther
      | cons first good =>
          obtain ⟨same, further⟩ := List.cons_prefix_cons.mp front
          obtain rfl : change = first := StreamItem.change.inj same
          obtain ⟨rfl, ended⟩ := ih further
          exact ⟨rfl, ended⟩

end

namespace WatchRecord

omit [DecidableEq T]

variable {notes earlier later : WatchRecord T} {note : WatchNote T} {session : Nat}

theorem taken_append (later earlier : WatchRecord T) :
    taken session (later ++ earlier) = taken session earlier ++ taken session later := by
  induction later with
  | nil => simp [taken]
  | cons note later ih =>
      cases note with
      | took n item =>
          simp only [List.cons_append, taken, ih]
          split <;> simp
      | failed | opened | connected | timer | stable | applied | disconnected | idle | sleeps | woke =>
          exact ih

theorem applied_append (later earlier : WatchRecord T) :
    applied session (later ++ earlier) = applied session earlier ++ applied session later := by
  induction later with
  | nil => simp [applied]
  | cons note later ih =>
      cases note with
      | applied n change =>
          simp only [List.cons_append, applied, ih]
          split <;> simp
      | failed | opened | connected | timer | stable | took | disconnected | idle | sleeps | woke =>
          exact ih

theorem Allowed.settled (allowed : Allowed rt notes note)
    (another : ∀ n change, note ≠ .applied n change) : pending notes = none := by
  cases note with
  | failed | opened =>
      rcases allowed with rfl | ⟨now, rest, rfl⟩ <;> rfl
  | connected =>
      obtain ⟨n, rest, rfl⟩ := allowed
      rfl
  | timer =>
      obtain ⟨rest, rfl⟩ := allowed
      rfl
  | idle =>
      obtain ⟨now, rest, rfl⟩ := allowed
      rfl
  | sleeps =>
      obtain ⟨⟨rest, rfl⟩, _⟩ := allowed
      rfl
  | woke =>
      obtain ⟨base, pause, start, rest, rfl, _⟩ := allowed
      rfl
  | stable | took => exact allowed.1
  | applied n change => exact absurd rfl (another n change)
  | disconnected => exact allowed

/-- The items taken from the stream of a session are the changes that were applied, and besides at
most one item, which is no change or not yet applied. -/
def InOrder (session : Nat) (notes : WatchRecord T) : Prop :=
  ∃ tail, taken session notes = (applied session notes).map .change ++ tail ∧
    (tail = [] ∨ (∃ item, tail = [item] ∧ item.isChange = false) ∨
      ∃ change, tail = [.change change] ∧ pending notes = some (session, change))

theorem InOrder.beside (inOrder : InOrder session earlier)
    (items : taken session notes = taken session earlier)
    (changes : applied session notes = applied session earlier)
    (settled : ∀ change, pending earlier ≠ some (session, change)) : InOrder session notes := by
  obtain ⟨tail, split, kind⟩ := inOrder
  refine ⟨tail, by rw [items, changes, split], kind.imp_right fun kind => .inl ?_⟩
  exact kind.resolve_right fun ⟨change, _, waiting⟩ => settled change waiting

theorem Regular.inOrder (regular : Regular rt notes) (session : Nat) : InOrder session notes := by
  induction notes with
  | nil => exact ⟨[], rfl, .inl rfl⟩
  | cons note notes ih =>
      obtain ⟨allowed, regular⟩ := regular
      have ih := ih regular
      cases note with
      | took n item =>
          have settled : pending notes = none := allowed.1
          by_cases same : n = session
          · subst same
            obtain ⟨_, _, items⟩ := allowed
            refine ⟨[item], by simp only [taken, applied, ↓reduceIte, items], .inr ?_⟩
            cases item with
            | change change => exact .inr ⟨change, rfl, rfl⟩
            | error error => exact .inl ⟨_, rfl, rfl⟩
            | ended => exact .inl ⟨_, rfl, rfl⟩
          · exact ih.beside (by simp only [taken, if_neg same]) rfl fun change waiting => by
              rw [settled] at waiting
              cases waiting
      | applied n change =>
          obtain ⟨rest, rfl⟩ := allowed
          by_cases same : n = session
          · subst same
            have items := regular.1.2.2
            refine ⟨[], ?_, .inl rfl⟩
            simp only [taken, applied, ↓reduceIte, items, List.map_append, List.map_cons, List.map_nil,
              List.append_nil]
          · refine ih.beside rfl (by simp only [applied, if_neg same]) fun change waiting => ?_
            have named : n = session := (Prod.mk.injEq .. ▸ Option.some.inj waiting).1
            exact same named
      | failed | opened | connected | timer | stable | disconnected | idle | sleeps | woke =>
          have settled := Allowed.settled allowed (by simp)
          exact ih.beside rfl rfl fun change waiting => by
            rw [settled] at waiting
            cases waiting

theorem Regular.ended {item : StreamItem T} (regular : Regular rt notes)
    (split : notes = later ++ .took session item :: earlier) (noChange : item.isChange = false) :
    later = [] ∨ ∃ rest now, later = rest ++ [.disconnected now] := by
  refine (List.eq_nil_or_concat later).imp_right fun ⟨rest, note, ended⟩ => ?_
  subst ended
  rw [List.concat_eq_append, List.append_assoc] at split
  have allowed := regular.allowed split
  cases note with
  | disconnected now => exact ⟨rest, now, List.concat_eq_append ..⟩
  | failed | opened => rcases allowed with none | ⟨now, rest, woke⟩ <;> cases ‹_ = _›
  | connected =>
      obtain ⟨n, rest, opened⟩ := allowed
      cases opened
  | timer =>
      obtain ⟨rest, connected⟩ := allowed
      cases connected
  | stable =>
      obtain ⟨_, since, streaming, _⟩ := allowed
      cases item with
      | change => cases noChange
      | error | ended => exact streaming.elim
  | took =>
      obtain ⟨_, ⟨since, streaming⟩, _⟩ := allowed
      cases item with
      | change => cases noChange
      | error | ended => exact streaming.elim
  | applied =>
      obtain ⟨rest, took⟩ := allowed
      cases took
      cases noChange
  | idle =>
      obtain ⟨now, rest, disconnected⟩ := allowed
      cases disconnected
  | sleeps =>
      obtain ⟨⟨rest, idle⟩, _⟩ := allowed
      cases idle
  | woke =>
      obtain ⟨base, pause, start, rest, sleeps, _⟩ := allowed
      cases sleeps

theorem Regular.last {item : StreamItem T} (regular : Regular rt notes)
    (split : notes = later ++ .took session item :: earlier) (noChange : item.isChange = false) :
    taken session notes = (applied session notes).map .change ++ [item] ∧
      taken session later = [] ∧ applied session later = [] := by
  have before : taken session earlier = (applied session earlier).map .change :=
    (regular.allowed split).2.2
  have taking : taken session notes =
      (applied session earlier).map .change ++ item :: taken session later := by
    rw [split, taken_append, taken, if_pos rfl, before, List.append_assoc]
    rfl
  have applying : applied session notes = applied session earlier ++ applied session later := by
    rw [split, applied_append]
    rfl
  have member : item ∈ taken session notes := by
    rw [taking]
    simp
  obtain ⟨tail, items, kind⟩ := regular.inOrder session
  rcases kind with rfl | ⟨final, rfl, isFinal⟩ | ⟨change, rfl, _⟩
  · rw [items, List.append_nil] at member
    exact absurd member (not_mem_changes noChange)
  · have same : (applied session earlier).map .change ++ item :: taken session later <+:
        (applied session notes).map .change ++ [final] := by
      rw [← items, ← taking]
    obtain ⟨complete, nothing⟩ := changes_eq isFinal noChange same
    have nothing := List.prefix_nil.mp nothing
    rw [complete] at taking applying
    refine ⟨?_, nothing, by simpa using applying⟩
    rw [taking, nothing]
  · rw [items, ← List.map_singleton, ← List.map_append] at member
    exact absurd member (not_mem_changes noChange)

theorem down_of_idle (idle : .idle ∈ later) (unconnected : .connected ∉ later) :
    down (later ++ earlier) = true := by
  induction later with
  | nil => cases idle
  | cons note later ih =>
      have further : .idle ∈ later → down (later ++ earlier) = true := fun idle =>
        ih idle fun connected => unconnected (List.mem_cons_of_mem _ connected)
      cases note with
      | idle => rfl
      | connected => exact absurd List.mem_cons_self unconnected
      | failed | opened | timer | stable | took | applied | disconnected | sleeps | woke =>
          exact further (by simpa using idle)

end WatchRecord

/-- No verdict is cached, and every handle is `Stale`. -/
def Gate.Cleared (s : Gate T P) : Prop :=
  s.snapshot = [] ∧ ∀ id cell, s.cells id = some cell →
    ¬ cell.state.Authoritative ∧ (Admission.issued cell = true → cell.state = .stale)

theorem Gate.Invariant.cleared {s : Gate T P} {notes : WatchRecord T}
    (ok : s.Invariant rt.config) (recorded : Recorded rt s.watch notes) (isDown : down notes = true) :
    s.Cleared := by
  have known := recorded.down isDown
  have off : s.watch.connected = false :=
    known.elim (fun opened => ok.session.down (.inr opened)) And.right
  refine ⟨ok.snapshot.empty off, fun id cell found => ?_⟩
  have verdictless : ¬ cell.state.Authoritative := by
    intro authoritative
    obtain ⟨session, reached, _⟩ := ok.session_of_authoritative found authoritative
    rcases known with opened | ⟨era, _⟩
    · have waiting := ok.session.opened opened
      omega
    · rw [ok.era_of_authoritative found authoritative, era] at session
      cases session
  refine ⟨verdictless, fun issued => ?_⟩
  have home : s.cells cell.entry.id = some cell := by
    rw [(ok.cells id cell found).identity]
    exact found
  have settled := Entry.not_pending_of_issued ok ⟨cell, home, rfl, issued⟩ home
  cases state : cell.state with
  | pending => exact absurd state settled
  | allowed => exact absurd (.inl state) verdictless
  | denied => exact absurd (.inr state) verdictless
  | stale => rfl

omit [DecidableEq T] in
theorem readings_scoped {scope : String} {parse : String → Option T} {sent : List WireItem}
    {change : DecisionChange T} (member : change ∈ readings scope parse sent) :
    ∃ message, .ok message ∈ sent ∧ message.scope = scope ∧
      reading scope parse message = some change := by
  induction sent with
  | nil => cases member
  | cons item sent ih =>
      cases item with
      | error status => cases member
      | ok message =>
          rw [readings] at member
          cases read : reading scope parse message with
          | none =>
              rw [read] at member
              cases member
          | some first =>
              rw [read] at member
              rcases List.mem_cons.mp member with rfl | member
              · refine ⟨message, List.mem_cons_self, ?_, read⟩
                by_contra another
                rw [reading, if_neg another] at read
                cases read
              · obtain ⟨message, carried, bound⟩ := ih member
                exact ⟨message, List.mem_cons_of_mem _ carried, bound⟩

namespace Sample

def wireItems : List WireItem :=
  [.ok { subjectId := "0", decision := 2, scope := "prod" },
    .ok { subjectId := "1", decision := 1, scope := "test" }]

def parseSubjects (text : String) : Option Nat :=
  if text = "0" then some 0 else if text = "1" then some 1 else none

def mismatch : DecisionSourceError :=
  { kind := .wire, message := "decision source returned a mismatched scope" }

def mismatches : List (Move (GateEvent Nat Nat)) :=
  connects ++ [.environment (.decide ⟨0, some .denied⟩), .environment (.streamError mismatch)] ++
    turns 0 2 24

def mismatchesRecord : WatchRecord Nat :=
  [.idle, .disconnected 0] ++ .took 1 (.error mismatch) ::
    [.applied 1 ⟨0, some .denied⟩, .took 1 (.change ⟨0, some .denied⟩), .timer 0, .connected, .opened 1]

end Sample

end PolicyGate
