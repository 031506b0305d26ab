import PolicyGate.Gate.Invariant
import PolicyGate.Interleaving.Alone

namespace PolicyGate

open Interleaving Program

variable {T P : Type} {rt : Runtime} {me : Nat} {s : Gate T P} {entry : Entry T}
  {cell : EntryCell T P} {now : Nat}

namespace EntryCell

def bare (cell : EntryCell T P) : EntryCell T P := { cell with log := [] }

def settle (now : Nat) (cell : EntryCell T P) : EntryCell T P :=
  if cell.entry.isExpiredAt cell.current.value.word now &&
      cell.current.value.word != staleWord cell.current.value.word then
    { cell with current := ⟨cell.current.address + 1, cell.current.value.stale⟩ }
  else cell

def answers (now : Nat) (cell : EntryCell T P) : Bool :=
  !cell.entry.isExpiredAt cell.current.value.word now && cell.state.Authoritative

/-- A refresh is due at `now`. -/
def dueAt (now : Nat) (cell : EntryCell T P) : Bool :=
  cell.entry.inRefreshWindow cell.current.value now && cell.refreshNotBefore ≤ cell.entry.tick now &&
    cell.pending.isNone

end EntryCell

/-- The gate without its record of what happened. -/
def Gate.bare (s : Gate T P) : Gate T P :=
  { s with cells := fun id => (s.cells id).map EntryCell.bare }

namespace Gate

theorem updateCell_of_eq {f : EntryCell T P → EntryCell T P} {id : Nat}
    (same : ∀ cell, s.cells id = some cell → f cell = cell) : s.updateCell id f = s := by
  have cells : Function.update s.cells id ((s.cells id).map f) = s.cells := by
    rw [Function.update_eq_self_iff]
    cases found : s.cells id with
    | none => rfl
    | some cell => rw [Option.map_some, same cell found]
  rw [updateCell, cells]

theorem bare_updateCell {f g : EntryCell T P → EntryCell T P} (id : Nat)
    (same : ∀ cell, s.cells id = some cell → (f cell).bare = (g cell).bare) :
    (s.updateCell id f).bare = (s.updateCell id g).bare := by
  have cells : (fun other => ((s.updateCell id f).cells other).map EntryCell.bare) =
      fun other => ((s.updateCell id g).cells other).map EntryCell.bare := by
    funext other
    by_cases here : other = id
    · subst here
      simp only [updateCell_cells, Function.update_self]
      cases found : s.cells other with
      | none => rfl
      | some cell => exact congrArg some (same cell found)
    · simp only [updateCell_cells, Function.update_of_ne here]
  exact congrArg (fun cells => { s with cells }) cells

theorem bare_updateCell_bare {f : EntryCell T P → EntryCell T P} (id : Nat)
    (blind : ∀ cell, (f cell.bare).bare = (f cell).bare) :
    (s.bare.updateCell id f).bare = (s.updateCell id f).bare := by
  have cells : (fun other => ((s.bare.updateCell id f).cells other).map EntryCell.bare) =
      fun other => ((s.updateCell id f).cells other).map EntryCell.bare := by
    funext other
    by_cases here : other = id
    · subst here
      simp only [updateCell_cells, Function.update_self, bare]
      cases s.cells other with
      | none => rfl
      | some cell => exact congrArg some (blind cell)
    · simp only [updateCell_cells, Function.update_of_ne here, bare]
      cases s.cells other <;> rfl
  exact congrArg (fun cells => { s with cells }) cells

theorem frame_of_bare {t : Gate T P} (same : t.bare = s.bare) : t = { s with cells := t.cells } :=
  congrArg (fun shown : Gate T P => { shown with cells := t.cells }) same

theorem cell_of_bare {t : Gate T P} {id : Nat} (same : t.bare = s.bare)
    (found : s.cells id = some cell) : ∃ log, t.cells id = some { cell with log } := by
  have seen : (t.cells id).map EntryCell.bare = (s.cells id).map EntryCell.bare :=
    congrFun (congrArg Gate.cells same) id
  rw [found] at seen
  obtain ⟨cell', found', bare⟩ := Option.map_eq_some_iff.mp seen
  refine ⟨cell'.log, found'.trans (congrArg some ?_)⟩
  exact congrArg (fun shown : EntryCell T P => { shown with log := cell'.log }) bare

end Gate

namespace EntryCell

theorem settle_entry (now : Nat) (cell : EntryCell T P) : (cell.settle now).entry = cell.entry := by
  unfold settle
  split <;> rfl

theorem settle_pending (now : Nat) (cell : EntryCell T P) :
    (cell.settle now).pending = cell.pending := by
  unfold settle
  split <;> rfl

theorem settle_of_unexpired (live : cell.entry.isExpiredAt cell.current.value.word now = false) :
    cell.settle now = cell := by
  simp [settle, live]

theorem dueAt_of_expired (expired : cell.entry.isExpiredAt cell.current.value.word now = true) :
    cell.dueAt now = false := by
  simp only [Entry.isExpiredAt, Bool.and_eq_true, decide_eq_true_eq] at expired
  have past : ¬ cell.entry.tick now < cell.current.value.deadline := Nat.not_lt_of_le expired.2
  simp [dueAt, Entry.inRefreshWindow, past]

end EntryCell

namespace Entry

theorem currentAt_ends (reader : Reader T) (found : s.cells entry.id = some cell)
    (home : cell.entry = entry) :
    (entry.currentAt reader now : Program (Gate T P) _).Ends me (fun result after =>
      result = ((cell.settle now).current.value, entry.isExpiredAt cell.current.value.word now) ∧
        after.bare = (s.updateCell entry.id (EntryCell.settle now)).bare) s := by
  subst home
  have only : ∀ cell', s.cells cell.entry.id = some cell' → cell' = cell := fun cell' found' =>
    Option.some.inj (found'.symm.trans found)
  refine .bind (.always cell.current (s.observe cell.entry reader me now)
    (fun choice => by rw [Gate.load, found]; rfl) (.iterate ?_))
  by_cases live : cell.entry.isExpiredAt cell.current.value.word now = false
  · rw [if_pos live]
    have same := EntryCell.settle_of_unexpired live
    refine .done ⟨by rw [same, live], Gate.bare_updateCell _ fun cell' found' => ?_⟩
    rw [only cell' found', same, EntryCell.observe, live]
    rfl
  · rw [if_neg live]
    have expired : cell.entry.isExpiredAt cell.current.value.word now = true := by simpa using live
    by_cases latched : cell.current.value.word = staleWord cell.current.value.word
    · rw [if_pos latched]
      have same : cell.settle now = cell := by simp [EntryCell.settle, ← latched]
      refine .done ⟨by rw [same, expired], Gate.bare_updateCell _ fun cell' found' => ?_⟩
      rw [only cell' found', same, EntryCell.observe, ← latched]
      simp [EntryCell.bare]
    · rw [if_neg latched]
      have same : cell.settle now =
          { cell with current := ⟨cell.current.address + 1, cell.current.value.stale⟩ } := by
        simp [EntryCell.settle, expired, latched]
      have unseen : s.observe cell.entry reader me now = s :=
        Gate.updateCell_of_eq fun cell' found' => by
          rw [only cell' found', EntryCell.observe, if_pos (by simp [expired, latched])]
      rw [unseen]
      refine .bind (.always cell.current
        (s.replaceCurrent cell.entry cell.current.value.stale (.latched reader now))
        (fun choice => ?_) ?_)
      · rw [Gate.compareAndSwap, found, Option.map_some, if_pos rfl]
      · rw [if_pos rfl]
        refine .done ⟨by rw [same, expired], ?_⟩
        refine Gate.bare_updateCell _ fun cell' found' => ?_
        rw [only cell' found', same]
        rfl

theorem admission_ends (reader : Reader T) (found : s.cells entry.id = some cell)
    (home : cell.entry = entry) :
    (entry.admission reader : Program (Gate T P) _).Ends me (fun result after =>
      result = (if cell.answers s.clock then some entry else none) ∧
        after.bare = (s.updateCell entry.id (EntryCell.settle s.clock)).bare) s := by
  refine .bind (.read _ rfl (.bind (.bind ((currentAt_ends reader found home).mono
    fun result after held => ?_))))
  obtain ⟨rfl, same⟩ := held
  subst home
  dsimp only
  by_cases live : cell.entry.isExpiredAt cell.current.value.word s.clock = true
  · rw [if_pos live]
    exact .done (.done ⟨by simp [EntryCell.answers, live], same⟩)
  · have alive : cell.entry.isExpiredAt cell.current.value.word s.clock = false := by simpa using live
    have kept := EntryCell.settle_of_unexpired alive
    rw [if_neg live, kept]
    have answers : cell.answers s.clock = decide cell.state.Authoritative := by
      rw [EntryCell.answers, alive]
      rfl
    rw [answers]
    cases decided : cell.current.value.state with
    | pending | stale =>
        exact .done (.done ⟨by simp [EntryCell.state, decided, EntryState.Authoritative], same⟩)
    | allowed | denied =>
        exact .done (.done ⟨by simp [EntryCell.state, decided, EntryState.Authoritative], same⟩)

theorem refreshEligibleAt_ends (current : EntrySnapshot P) (found : s.cells entry.id = some cell) :
    (entry.refreshEligibleAt current now : Program (Gate T P) _).Ends me (fun eligible after =>
      eligible = (entry.inRefreshWindow current now &&
        decide (cell.refreshNotBefore ≤ entry.tick now)) ∧ after = s) s := by
  unfold refreshEligibleAt
  by_cases inside : entry.inRefreshWindow current now = true
  · rw [if_pos inside]
    refine .bind (.read cell.refreshNotBefore (by rw [found]; rfl) (.done ⟨?_, rfl⟩))
    rw [inside, Bool.true_and]
  · rw [if_neg inside]
    exact .done ⟨by simp [inside], rfl⟩

theorem refreshDueAt_ends (found : s.cells entry.id = some cell) (home : cell.entry = entry) :
    (entry.refreshDueAt cell.current.value now : Program (Gate T P) _).Ends me
      (fun due after => due = cell.dueAt now ∧ after = s) s := by
  subst home
  refine .bind ((refreshEligibleAt_ends cell.current.value found).mono fun eligible after held => ?_)
  obtain ⟨rfl, rfl⟩ := held
  split
  · rename_i eligible
    refine .bind (.read cell.pending (by rw [found]; rfl) (.done ⟨?_, rfl⟩))
    rw [EntryCell.dueAt, eligible, Bool.true_and]
  · rename_i ineligible
    refine .done ⟨?_, rfl⟩
    rw [EntryCell.dueAt, Bool.eq_false_of_not_eq_true ineligible, Bool.false_and]

end Entry

theorem Admission.check_ends (found : s.cells entry.id = some cell) (home : cell.entry = entry)
    (settled : cell.state ≠ .pending) :
    (Admission.check entry : Program (Gate T P) _).Ends me (fun outcome after =>
      (∃ state, outcome = .checked entry s.clock state (cell.dueAt s.clock)) ∧
        after.bare = (s.updateCell entry.id (EntryCell.settle s.clock)).bare) s := by
  refine .bind (.read _ rfl (.bind ((Entry.currentAt_ends .check found home).mono
    fun result after held => ?_)))
  obtain ⟨rfl, same⟩ := held
  subst home
  dsimp only
  by_cases live : cell.entry.isExpiredAt cell.current.value.word s.clock = true
  · rw [if_pos live]
    exact .done ⟨⟨.stale, by rw [EntryCell.dueAt_of_expired live]⟩, same⟩
  · have alive := Bool.eq_false_of_not_eq_true live
    obtain ⟨log, found'⟩ := Gate.cell_of_bare same (Gate.updateCell_at found _)
    rw [EntryCell.settle_of_unexpired alive] at found' ⊢
    rw [if_neg live]
    cases decided : cell.current.value.state with
    | pending => exact absurd decided settled
    | allowed | denied | stale =>
        refine .bind ((Entry.refreshDueAt_ends found' rfl).mono fun flag after' held => ?_)
        obtain ⟨rfl, rfl⟩ := held
        exact .done ⟨⟨_, rfl⟩, same⟩

/-- The step took only these entries out of the map, and only their lookups were aborted. -/
structure Gate.Sweeps (swept : Nat → Prop) (before after : Gate T P) : Prop where
  frame : after =
    { before with
      cells := after.cells
      flights := after.flights
      subjects := after.subjects
      shapeDirty := after.shapeDirty }
  others : ∀ id, ¬ swept id → after.cells id = before.cells id
  kept : ∀ id cell, before.cells id = some cell →
    ∃ cell', after.cells id = some cell' ∧ cell'.entry = cell.entry ∧
      ∀ fetch, cell'.pending = some fetch → cell.pending = some fetch
  known : ∀ id cell', after.cells id = some cell' → ∃ cell, before.cells id = some cell
  flights : ∀ generation, (∀ id cell fetch, swept id → before.cells id = some cell →
    cell.pending = some fetch → fetch.generation ≠ generation) →
      after.flights generation = before.flights generation
  flown : ∀ generation flight, before.flights generation = some flight →
    ∃ flight', after.flights generation = some flight'

namespace Gate.Sweeps

variable {swept : Nat → Prop} {middle after : Gate T P}

theorem refl (s : Gate T P) : Sweeps swept s s :=
  ⟨rfl, fun _ _ => rfl, fun _ cell found => ⟨cell, found, rfl, fun _ held => held⟩,
    fun _ cell found => ⟨cell, found⟩, fun _ _ => rfl, fun _ flight flown => ⟨flight, flown⟩⟩

theorem pending_before (sweeps : Sweeps swept s after) {id : Nat} {cell' : EntryCell T P}
    {fetch : PendingFetch T P} (found : after.cells id = some cell')
    (held : cell'.pending = some fetch) :
    ∃ cell, s.cells id = some cell ∧ cell.pending = some fetch := by
  obtain ⟨cell, before⟩ := sweeps.known id cell' found
  obtain ⟨cell'', found', _, pending⟩ := sweeps.kept id cell before
  obtain rfl : cell' = cell'' := Option.some.inj (found.symm.trans found')
  exact ⟨cell, before, pending fetch held⟩

theorem trans (first : Sweeps swept s middle) (second : Sweeps swept middle after) :
    Sweeps swept s after := by
  refine ⟨?_, fun id kept => (second.others id kept).trans (first.others id kept),
    fun id cell found => ?_, fun id cell' found => ?_, fun generation spared => ?_,
    fun generation flight flown => ?_⟩
  · rw [second.frame, first.frame]
  · obtain ⟨cell', found', same, held⟩ := first.kept id cell found
    obtain ⟨cell'', found'', same', held'⟩ := second.kept id cell' found'
    exact ⟨cell'', found'', same'.trans same, fun fetch pending => held fetch (held' fetch pending)⟩
  · obtain ⟨cell, found'⟩ := second.known id cell' found
    exact first.known id cell found'
  · refine (second.flights generation fun id cell' fetch out found' held => ?_).trans
      (first.flights generation spared)
    obtain ⟨cell, found, held'⟩ := first.pending_before found' held
    exact spared id cell fetch out found held'
  · obtain ⟨flight', flown'⟩ := first.flown generation flight flown
    exact second.flown generation flight' flown'

theorem mono {more : Nat → Prop} (sweeps : Sweeps swept s after) (fewer : ∀ id, swept id → more id) :
    Sweeps more s after :=
  ⟨sweeps.frame, fun id kept => sweeps.others id fun out => kept (fewer id out), sweeps.kept,
    sweeps.known, fun generation spared => sweeps.flights generation fun id cell fetch out =>
      spared id cell fetch (fewer id out), sweeps.flown⟩

theorem updateSubjects (s : Gate T P) (f : SubjectMap T → SubjectMap T) :
    Sweeps swept s (s.updateSubjects f) :=
  { refl s with frame := rfl }

theorem updateCell {id : Nat} (out : swept id) (f : EntryCell T P → EntryCell T P)
    (same : ∀ cell, (f cell).entry = cell.entry ∧
      ∀ fetch, (f cell).pending = some fetch → cell.pending = some fetch) :
    Sweeps swept s (s.updateCell id f) := by
  refine ⟨rfl, fun other kept => Function.update_of_ne (fun here : other = id => kept (here ▸ out)) _ _,
    fun other cell found => ?_, fun other cell' found => ?_, fun _ _ => rfl,
    fun _ flight flown => ⟨flight, flown⟩⟩
  · by_cases here : other = id
    · subst here
      exact ⟨f cell, Gate.updateCell_at found f, same cell⟩
    · exact ⟨cell, by rw [Gate.updateCell_cells, Function.update_of_ne here, found], rfl,
        fun _ held => held⟩
  · by_cases here : other = id
    · subst here
      rw [Gate.updateCell_cells, Function.update_self] at found
      obtain ⟨cell, found', _⟩ := Option.map_eq_some_iff.mp found
      exact ⟨cell, found'⟩
    · rw [Gate.updateCell_cells, Function.update_of_ne here] at found
      exact ⟨cell', found⟩

theorem updateFlight {id : Nat} {fetch : PendingFetch T P} (out : swept id)
    (found : s.cells id = some cell) (held : cell.pending = some fetch)
    (sweeps : Sweeps swept s middle) (f : Flight T P → Flight T P) :
    Sweeps swept s (middle.updateFlight fetch.generation f) := by
  refine ⟨?_, sweeps.others, sweeps.kept, sweeps.known, fun generation spared => ?_,
    fun generation flight flown => ?_⟩
  · rw [sweeps.frame]
    rfl
  · have different : generation ≠ fetch.generation := (spared id cell fetch out found held).symm
    rw [Gate.updateFlight_flights, Function.update_of_ne different]
    exact sweeps.flights generation spared
  · obtain ⟨flight', flown'⟩ := sweeps.flown generation flight flown
    by_cases here : generation = fetch.generation
    · subst here
      exact ⟨_, Gate.updateFlight_at flown' f⟩
    · exact ⟨flight', (Function.update_of_ne here _ _).trans flown'⟩

end Gate.Sweeps

structure Gate.Invalidates (swept : Nat → Prop) (entry : Entry T) (cell : EntryCell T P)
    (before after : Gate T P) : Prop where
  sweeps : Gate.Sweeps swept before after
  subjects : after.subjects = before.subjects
  stale : ∃ cell', after.cells entry.id = some cell' ∧ cell'.entry = cell.entry ∧
    cell'.current.value = cell.current.value.stale ∧ cell'.pending = none

theorem Entry.invalidate_ends {swept : Nat → Prop} (out : swept entry.id)
    (found : s.cells entry.id = some cell) :
    (entry.invalidate : Program (Gate T P) _).Ends me
      (fun _ after => Gate.Invalidates swept entry cell s after) s := by
  refine .bind (.read cell.current (by rw [Gate.load, found]; rfl) (.bind (.iterate (.bind
    (.always cell.current
      (s.replaceCurrent entry cell.current.value.stale .invalidated) (fun choice => ?_) ?_)))))
  · rw [Gate.compareAndSwap, found, Option.map_some, if_pos rfl]
  · rw [if_pos rfl]
    refine .done ?_
    have replaced : Gate.Sweeps swept s (s.replaceCurrent entry cell.current.value.stale .invalidated) :=
      .updateCell out _ fun _ => ⟨rfl, fun _ held => held⟩
    have foundStale : (s.replaceCurrent entry cell.current.value.stale .invalidated).cells entry.id =
        some (cell.replace cell.current.value.stale .invalidated) := Gate.updateCell_at found _
    set middle := s.replaceCurrent entry cell.current.value.stale .invalidated
    have emptied : Gate.Sweeps swept s
        (middle.updateCell entry.id fun cell => { cell with pending := none }) :=
      replaced.trans (.updateCell out _ fun _ => ⟨rfl, by simp⟩)
    have foundEmptied := Gate.updateCell_at foundStale fun cell => { cell with pending := none }
    have stale : ∃ cell', (middle.updateCell entry.id fun cell => { cell with pending := none }).cells
        entry.id = some cell' ∧ cell'.entry = cell.entry ∧
          cell'.current.value = cell.current.value.stale ∧ cell'.pending = none :=
      ⟨_, foundEmptied, rfl, rfl, rfl⟩
    cases pending : cell.pending with
    | none =>
        refine .bind (.always none
          (middle.updateCell entry.id fun cell => { cell with pending := none })
          (fun choice => ?_) (.done ⟨emptied, rfl, stale⟩))
        rw [foundStale, Option.map_some]
        simp only [EntryCell.replace, pending]
    | some fetch =>
        refine .bind (.always (some fetch) ((middle.updateCell entry.id fun cell => { cell with pending := none }).updateFlight
            fetch.generation fun flight => { flight with taken := true })
          (fun choice => ?_) (.modify ⟨?_, rfl, stale⟩))
        · rw [foundStale, Option.map_some]
          simp only [EntryCell.replace, pending]
        · exact (emptied.updateFlight out found pending _).updateFlight out found pending _

namespace Subjects

def Shelved (s : Gate T P) : Prop :=
  ∀ slot ∈ s.subjects.cache.entries, ∃ cell, s.cells slot.2.entry.id = some cell

theorem evict_ends (swept : Nat → Prop) (shelved : Shelved s)
    (idle : ∀ slot ∈ s.subjects.cache.entries, ttl rt < now - slot.2.lastTouched →
      swept slot.2.entry.id) :
    (evict rt now : Program (Gate T P) _).Ends me (fun _ after => Gate.Sweeps swept s after ∧
      (∀ slot ∈ after.subjects.cache.entries, slot ∈ s.subjects.cache.entries) ∧
      ∀ slot ∈ s.subjects.cache.entries, now - slot.2.lastTouched ≤ ttl rt →
        slot ∈ after.subjects.cache.entries) s := by
  refine .descend (I := fun _ middle => Gate.Sweeps swept s middle ∧
      (∀ slot ∈ middle.subjects.cache.entries, slot ∈ s.subjects.cache.entries) ∧
      ∀ slot ∈ s.subjects.cache.entries, now - slot.2.lastTouched ≤ ttl rt →
        slot ∈ middle.subjects.cache.entries)
    (fun _ middle => middle.subjects.cache.entries.length) (fun _ middle held => ?_)
    ⟨.refl s, fun _ member => member, fun _ member _ => member⟩
  have reached := held
  obtain ⟨sweeps, old, recent⟩ := held
  cases last : middle.subjects.cache.peekLru with
  | none =>
      refine .bind (.always none middle (fun choice => ?_) (.done reached))
      rw [Data.Lru.popLru, last]
      rfl
  | some slot =>
      have member := old slot (Data.Lru.mem_of_peekLru last)
      by_cases long : ttl rt < now - slot.2.lastTouched
      · refine .bind (.always (some slot.2.entry) (middle.updateSubjects fun map =>
          map.remove middle.subjects.cache.withoutLru slot.2.entry) (fun choice => ?_) ?_)
        · rw [Data.Lru.popLru, last]
          exact if_pos long
        · obtain ⟨cell, found⟩ := shelved slot member
          obtain ⟨cell', found', _⟩ := sweeps.kept _ cell found
          set taken := middle.updateSubjects fun map =>
            map.remove middle.subjects.cache.withoutLru slot.2.entry
          have popped : Gate.Sweeps swept s taken := sweeps.trans (.updateSubjects middle _)
          have known : taken.cells slot.2.entry.id = some cell' := found'
          refine .bind ((Entry.invalidate_ends (idle slot member long) known).mono
            fun _ after held => Ends.bind (.modify (.done ?_)))
          obtain ⟨invalidated, subjects, _⟩ := held
          have dirtied : Gate.Sweeps swept after { after with shapeDirty := true } :=
            { Gate.Sweeps.refl after with frame := rfl }
          have shrunk : { after with shapeDirty := true }.subjects.cache =
              middle.subjects.cache.withoutLru := congrArg SubjectMap.cache subjects
          refine ⟨⟨(popped.trans invalidated).trans dirtied, fun other within => ?_,
            fun other within short => ?_⟩, ?_⟩
          · rw [shrunk] at within
            exact old other ((Data.Lru.mem_withoutLru last).mp within).1
          · rw [shrunk]
            have stayed := recent other within short
            rw [Data.Lru.entries_of_peekLru last, List.mem_append, List.mem_singleton] at stayed
            rcases stayed with stays | rfl
            · exact stays
            · exact absurd long (Nat.not_lt_of_le short)
          · rw [shrunk, Data.Lru.entries_of_peekLru last, List.length_append]
            exact Nat.lt_succ_self _
      · refine .bind (.always none middle (fun choice => ?_) (.done reached))
        rw [Data.Lru.popLru, last]
        exact if_neg long

variable [DecidableEq T]

def Idle (rt : Runtime) (now : Nat) (s : Gate T P) (id : Nat) : Prop :=
  ∃ slot ∈ s.subjects.cache.entries, slot.2.entry.id = id ∧
    ttl rt < tick rt now - slot.2.lastTouched

theorem any_peek_iff (subject : T)
    (keyed : ∀ slot ∈ s.subjects.cache.entries, slot.2.entry.id = entry.id → slot.1 = entry.subject) :
    (((s.subjects.cache.peek subject).map SubjectSlot.entry).any
        fun current => current.id = entry.id) = true ↔
      s.subjects.Holds entry.id ∧ subject = entry.subject := by
  simp only [Option.any_eq_true, Option.map_eq_some_iff, decide_eq_true_eq]
  constructor
  · rintro ⟨_, ⟨slot, found, rfl⟩, same⟩
    have member := s.subjects.cache.peek_eq_some_iff.mp found
    exact ⟨⟨_, member, same⟩, keyed _ member same⟩
  · rintro ⟨⟨⟨key, slot⟩, member, same⟩, rfl⟩
    have here : key = entry.subject := keyed _ member same
    exact ⟨_, ⟨slot, s.subjects.cache.peek_eq_some_iff.mpr (here ▸ member), rfl⟩, same⟩

/-- `touch` answers whether the map holds this very entry, and keeps it from its own sweep. -/
theorem touch_ends {subject : T} (free : s.subjects.lock = none) (shelved : Shelved s)
    (keyed : ∀ slot ∈ s.subjects.cache.entries, slot.2.entry.id = entry.id → slot.1 = entry.subject) :
    (touch rt subject entry now : Program (Gate T P) _).Ends me (fun matched after =>
      (matched = true ↔ s.subjects.Holds entry.id ∧ subject = entry.subject) ∧
        Gate.Sweeps (fun id => Idle rt now s id ∧ (matched = true → id ≠ entry.id)) s after) s := by
  set locked := s.updateSubjects fun map => { map with lock := some me } with isLocked
  have lockedOnly (idle : Nat → Prop) : Gate.Sweeps idle s locked := .updateSubjects s _
  refine .bind (.always _ locked (fun choice => by rw [free]) ?_)
  refine .bind (.read ((s.subjects.cache.peek subject).map SubjectSlot.entry) rfl ?_)
  dsimp only
  have sweep : ∀ (matched : Bool) (promoted : Gate T P),
      Gate.Sweeps (fun id => Idle rt now s id ∧ (matched = true → id ≠ entry.id)) s promoted →
      Shelved promoted →
      (∀ slot ∈ promoted.subjects.cache.entries, ttl rt < tick rt now - slot.2.lastTouched →
        slot ∈ s.subjects.cache.entries ∧ (matched = true → slot.2.entry.id ≠ entry.id)) →
      (do
        evict rt (tick rt now)
        unlock
        pure matched : Program (Gate T P) Bool).Ends me (fun matched' after => matched' = matched ∧
          Gate.Sweeps (fun id => Idle rt now s id ∧ (matched = true → id ≠ entry.id)) s after)
        promoted := by
    intro matched promoted sweeps shelved idle
    refine .bind ((evict_ends (fun id => Idle rt now s id ∧ (matched = true → id ≠ entry.id))
      shelved fun slot member long => ?_).mono
      fun _ after held => Ends.bind (.modify (.done ⟨rfl, ?_⟩)))
    · obtain ⟨old, other⟩ := idle slot member long
      exact ⟨⟨slot, old, rfl, long⟩, other⟩
    · exact (sweeps.trans held.1).trans (.updateSubjects after _)
  have matches_iff := any_peek_iff subject keyed
  cases matched : ((s.subjects.cache.peek subject).map SubjectSlot.entry).any
      fun current => current.id = entry.id with
  | false =>
      rw [matched] at matches_iff
      refine (sweep false locked (lockedOnly _) shelved fun slot member _ =>
        ⟨member, by simp⟩).mono fun matched' after held => ?_
      obtain ⟨rfl, sweeps⟩ := held
      exact ⟨matches_iff, sweeps⟩
  | true =>
      rw [matched] at matches_iff
      obtain ⟨current, seen, same⟩ := (Option.any_eq_true _ _).mp matched
      obtain ⟨slot, found, rfl⟩ := Option.map_eq_some_iff.mp seen
      set promoted := locked.updateSubjects fun map => map.setCache
        (s.subjects.cache.place subject (slot.touch (tick rt now))) with isPromoted
      refine .bind (.always (some (slot.touch (tick rt now)).entry) promoted
        (fun choice => ?_) ((sweep true promoted ?_ ?_ fun other member long => ?_).mono
          fun matched' after held => ?_))
      · have got : locked.subjects.cache.getMut subject (fun slot => slot.touch (tick rt now)) =
            some (slot.touch (tick rt now),
              s.subjects.cache.place subject (slot.touch (tick rt now))) := by
          rw [Data.Lru.getMut, isLocked]
          exact congrArg (Option.map _) found
        rw [got]
      · exact (lockedOnly _).trans (.updateSubjects locked _)
      · intro other member
        rcases (Data.Lru.mem_place _).mp member with rfl | old
        · exact shelved (subject, slot) (s.subjects.cache.peek_eq_some_iff.mp found)
        · exact shelved other old.1
      · rcases (Data.Lru.mem_place _).mp member with rfl | old
        · have late : tick rt now ≤ (slot.touch (tick rt now)).lastTouched := Nat.le_max_right _ _
          exact absurd long (by simp only [Nat.sub_eq_zero_of_le late]; omega)
        · refine ⟨old.1, fun _ here => old.2 ?_⟩
          rw [keyed other old.1 here, (matches_iff.mp rfl).2]
      · obtain ⟨rfl, sweeps⟩ := held
        exact ⟨matches_iff, sweeps⟩

end Subjects

structure Gate.HandsOver (entry : Entry T) (cell : EntryCell T P) (before after : Gate T P) : Prop where
  claims : ∃ (fetch : PendingFetch T P) (flight : Flight T P),
    fetch.generation = before.nextGeneration ∧ fetch.entry = entry ∧
      fetch.refreshFrom = some cell.current ∧ after.queue = before.queue ++ [fetch] ∧
      after.bare.cells = (before.updateCell entry.id fun cell =>
        { cell with pending := some fetch }).bare.cells ∧
      after.flights fetch.generation = some flight ∧ flight.fetch = fetch ∧
      flight.stage = .queued ∧ flight.taken = false

theorem Gate.HandsOver.of_bare {t after : Gate T P} {log : EntryLog T P} (same : t.bare = s.bare)
    (handed : Gate.HandsOver entry { cell with log } t after) : Gate.HandsOver entry cell s after := by
  have frame := Gate.frame_of_bare same
  obtain ⟨fetch, flight, generation, home, refresh, queue, cells, flown⟩ := handed
  have blind := fun g : Gate T P => g.bare_updateCell_bare entry.id
    (f := fun cell => { cell with pending := some fetch }) fun _ => rfl
  rw [← blind, same, blind] at cells
  refine ⟨fetch, flight, generation.trans ?_, home, refresh, queue.trans ?_, cells, flown⟩
  · rw [frame]
  · rw [frame]

theorem EntryCell.unexpired_of_dueAt (due : cell.dueAt now = true) :
    cell.entry.isExpiredAt cell.current.value.word now = false := by
  refine Bool.eq_false_of_not_eq_true fun expired => ?_
  rw [EntryCell.dueAt_of_expired expired] at due
  cases due

theorem EntryCell.answers_of_dueAt (due : cell.dueAt now = true) : cell.answers now = true := by
  have inside : cell.entry.inRefreshWindow cell.current.value now = true := by
    simp only [EntryCell.dueAt, Bool.and_eq_true] at due
    exact due.1.1
  rw [EntryCell.answers, EntryCell.unexpired_of_dueAt due]
  exact decide_eq_true (Entry.authoritative_of_inRefreshWindow inside)

/-- What a reader may rely on when it hands a refresh over without being disturbed. -/
structure Gate.Roomy (rt : Runtime) (s : Gate T P) : Prop where
  opened : s.queueClosed = false
  room : s.queue.length < rt.config.refreshQueueCapacity
  waits : 0 < rt.config.refreshEnqueueTimeout
  timely : s.clock + rt.config.refreshEnqueueTimeout ≤ rt.latest

theorem sendRefresh_ends (refresh : PendingFetch T P) (roomy : s.Roomy rt) :
    (sendRefresh rt entry refresh (s.clock + rt.config.refreshEnqueueTimeout) :
      Program (Gate T P) _).Ends me (fun queued after => queued = true ∧
        after = { s.setStage refresh.generation .queued with queue := s.queue ++ [refresh] }) s := by
  have ahead : ¬ s.clock + rt.config.refreshEnqueueTimeout ≤ s.clock := by
    have := roomy.waits
    omega
  refine .bind (.read _ rfl ?_)
  rw [if_neg ahead]
  have room := And.intro roomy.opened roomy.room
  refine .wait ⟨2, ?_⟩ fun choice result after ran => ?_
  · simp only [if_pos room, Option.isSome_some]
  · match choice with
    | 0 => simp only [if_neg ahead, reduceCtorEq] at ran
    | 1 => simp [roomy.opened] at ran
    | n + 2 =>
        simp only [if_pos room, Option.some.injEq, Prod.mk.injEq] at ran
        obtain ⟨rfl, rfl⟩ := ran
        exact .done ⟨rfl, rfl⟩

theorem enqueueRefresh_ends (reader : Reader T) {refresh : PendingFetch T P} {flight : Flight T P}
    (roomy : s.Roomy rt) (found : s.cells entry.id = some cell) (home : cell.entry = entry)
    (eligible : entry.inRefreshWindow cell.current.value s.clock = true ∧
      cell.refreshNotBefore ≤ entry.tick s.clock)
    (live : entry.isExpiredAt cell.current.value.word s.clock = false)
    (flown : s.flights refresh.generation = some flight) :
    (enqueueRefresh rt reader entry refresh cell.current
        (s.clock + rt.config.refreshEnqueueTimeout) : Program (Gate T P) _).Ends me (fun _ after =>
      after.queue = s.queue ++ [refresh] ∧ after.bare.cells = s.bare.cells ∧
        after.flights refresh.generation = some { flight with stage := .queued }) s := by
  set validated := s.setStage refresh.generation (.validated me)
  set queued : Gate T P :=
    { validated.setStage refresh.generation .queued with queue := s.queue ++ [refresh] }
  have flownQueued : queued.flights refresh.generation = some { flight with stage := .queued } := by
    have flownValidated : validated.flights refresh.generation =
        some { flight with stage := .validated me } := Gate.updateFlight_at flown _
    exact Gate.updateFlight_at flownValidated _
  have roomyStill : validated.Roomy rt := ⟨roomy.opened, roomy.room, roomy.waits, roomy.timely⟩
  have passes : (entry.inRefreshWindow cell.current.value s.clock &&
      decide (cell.refreshNotBefore ≤ entry.tick s.clock)) = true := by
    rw [eligible.1, decide_eq_true eligible.2]
    rfl
  refine .bind (.always true validated (fun choice => ?_) ?_)
  · rw [Gate.load, found, Option.map_some, Option.map_some, if_pos rfl]
  rw [if_pos rfl]
  refine .bind (.read s.clock rfl (.bind ((Entry.refreshEligibleAt_ends
    cell.current.value (s := validated) found).mono fun passed after held => ?_)))
  obtain ⟨rfl, rfl⟩ := held
  dsimp only
  rw [if_pos passes]
  refine .bind ((sendRefresh_ends refresh roomyStill).mono fun sent after held => ?_)
  obtain ⟨rfl, rfl⟩ := held
  refine .bind ((Entry.admission_ends (s := queued) reader found home).mono
    fun _ after held => ?_)
  obtain ⟨_, same⟩ := held
  have kept : queued.updateCell entry.id (EntryCell.settle queued.clock) = queued :=
    Gate.updateCell_of_eq fun cell' found' => by
      obtain rfl : cell = cell' := Option.some.inj (found.symm.trans found')
      exact EntryCell.settle_of_unexpired (home ▸ live)
  rw [kept] at same
  have cells : after.bare.cells = queued.bare.cells := congrArg Gate.cells same
  exact .done ⟨congrArg Gate.queue same, cells,
    (congrFun (congrArg Gate.flights same) _).trans flownQueued⟩

theorem not_windowless_of_dueAt (window : cell.entry.refreshBefore = Entry.refreshBeforeOf rt.config)
    (due : cell.dueAt now = true) : rt.config.refreshBeforeExpiry ≠ 0 := by
  intro none
  have inside : cell.entry.inRefreshWindow cell.current.value now = true := by
    simp only [EntryCell.dueAt, Bool.and_eq_true] at due
    exact due.1.1
  simp only [Entry.inRefreshWindow, Bool.and_eq_true, decide_eq_true_eq] at inside
  have zero : cell.entry.refreshBefore = 0 := by
    rw [window, Entry.refreshBeforeOf, none]
    rfl
  omega

/-- A refresh that is due is made, put into the empty slot and handed over. -/
theorem handOver_ends (reader : Reader T) (subject : T) (found : s.cells entry.id = some cell)
    (home : cell.entry = entry) (roomy : s.Roomy rt) (due : cell.dueAt s.clock = true)
    (admission : Option (Entry T)) :
    (do
      let refresh ← newFetchAfter entry subject none (some cell.current)
      if ← claimPending entry refresh then
        enqueueRefresh rt reader entry refresh cell.current
          (s.clock + rt.config.refreshEnqueueTimeout)
      else pure admission : Program (Gate T P) (Option (Entry T))).Ends me
        (fun _ after => Gate.HandsOver entry cell s after) s := by
  subst home
  set fetch : PendingFetch T P := { generation := s.nextGeneration, entry := cell.entry,
                                    subject := subject, delay := none, refreshFrom := some cell.current }
  set made : Gate T P := { s with
    nextGeneration := s.nextGeneration + 1
    flights := Function.update s.flights s.nextGeneration
      (some { fetch, stage := .created me }) }
  have flown : made.flights fetch.generation = some { fetch, stage := .created me } :=
    Function.update_self ..
  set claimed := (made.updateCell cell.entry.id fun cell => { cell with pending := some fetch }).setStage
    fetch.generation (.claimed me)
  have flownClaimed : claimed.flights fetch.generation = some { fetch, stage := .claimed me } :=
    Gate.updateFlight_at (s := made.updateCell cell.entry.id _) flown _
  have foundClaimed : claimed.cells cell.entry.id = some { cell with pending := some fetch } :=
    Gate.updateCell_at (s := made) found _
  have parts := due
  simp only [EntryCell.dueAt, Bool.and_eq_true, decide_eq_true_eq] at parts
  obtain ⟨eligible, free⟩ := parts
  refine .bind (.always fetch made (fun choice => rfl) ?_)
  refine .bind (.always true claimed (fun choice => ?_) ?_)
  · change Option.map _ (s.cells cell.entry.id) = _
    rw [found, Option.map_some, Option.isNone_iff_eq_none.mp free]
  rw [if_pos rfl]
  have roomyClaimed : claimed.Roomy rt := ⟨roomy.opened, roomy.room, roomy.waits, roomy.timely⟩
  refine (enqueueRefresh_ends reader roomyClaimed foundClaimed rfl eligible (EntryCell.unexpired_of_dueAt due) flownClaimed).mono
    fun _ after held => ?_
  exact ⟨fetch, _, rfl, rfl, rfl, held.1, held.2.1, held.2.2, rfl, rfl, rfl⟩

theorem admissionOnAccess_ends (reader : Reader T) (subject : T) (found : s.cells entry.id = some cell)
    (home : cell.entry = entry) (roomy : s.Roomy rt)
    (window : entry.refreshBefore = Entry.refreshBeforeOf rt.config) :
    (admissionOnAccess rt reader subject entry none : Program (Gate T P) _).Ends me (fun _ after =>
      if cell.dueAt s.clock = true then Gate.HandsOver entry cell s after
      else after.bare = (s.updateCell entry.id (EntryCell.settle s.clock)).bare) s := by
  subst home
  refine .bind ((Entry.admission_ends reader found rfl).mono fun result after held => ?_)
  obtain ⟨rfl, same⟩ := held
  have frame := Gate.frame_of_bare same
  have clock : after.clock = s.clock := by rw [frame]; rfl
  obtain ⟨log, foundAfter⟩ := Gate.cell_of_bare same (Gate.updateCell_at found _)
  by_cases due : cell.dueAt s.clock = true
  · have kept := EntryCell.settle_of_unexpired (EntryCell.unexpired_of_dueAt due)
    have unsettled : s.updateCell cell.entry.id (EntryCell.settle s.clock) = s :=
      Gate.updateCell_of_eq fun cell' found' => by
        obtain rfl : cell = cell' := Option.some.inj (found.symm.trans found')
        exact kept
    rw [unsettled] at same frame
    rw [kept] at foundAfter
    have roomyAfter : after.Roomy rt := by
      rw [frame]
      exact ⟨roomy.opened, roomy.room, roomy.waits, roomy.timely⟩
    have dueAfter : EntryCell.dueAt after.clock { cell with log } = true := by
      rw [clock]
      exact due
    simp only [EntryCell.answers_of_dueAt due, if_true, due]
    rw [if_neg (not_windowless_of_dueAt window due)]
    refine .bind (.read cell.current (by rw [Gate.load, foundAfter]; rfl)
      (.bind (.read _ rfl (.bind ((Entry.refreshDueAt_ends foundAfter rfl).mono
        fun isDue _ held => ?_)))))
    obtain ⟨rfl, stays⟩ := held
    rw [stays, if_pos dueAfter]
    have deadline : queueDeadline rt after.clock none =
        some (after.clock + rt.config.refreshEnqueueTimeout) := by
      rw [queueDeadline, checkedAdd, Instant.checkedAdd, if_pos roomyAfter.timely]
      rfl
    rw [deadline]
    exact (handOver_ends reader subject foundAfter rfl roomyAfter dueAfter _).mono
      fun _ final handed => handed.of_bare same
  · simp only [due]
    by_cases answered : cell.answers s.clock = true
    · have live : cell.entry.isExpiredAt cell.current.value.word s.clock = false := by
        simp only [EntryCell.answers, Bool.and_eq_true, Bool.not_eq_true'] at answered
        exact answered.1
      rw [EntryCell.settle_of_unexpired live] at foundAfter
      rw [if_pos answered]
      dsimp only
      split
      · exact .done same
      · refine .bind (.read cell.current (by rw [Gate.load, foundAfter]; rfl)
          (.bind (.read _ rfl (.bind ((Entry.refreshDueAt_ends foundAfter rfl).mono
            fun isDue _ held => ?_)))))
        obtain ⟨rfl, stays⟩ := held
        have notDue : ¬ EntryCell.dueAt after.clock { cell with log } = true := by
          rw [clock]
          exact due
        rw [stays, if_neg notDue]
        exact .done same
    · rw [if_neg answered]
      exact .done same

theorem Gate.Sweeps.roomy {swept : Nat → Prop} {after : Gate T P} (sweeps : Gate.Sweeps swept s after)
    (roomy : s.Roomy rt) : after.Roomy rt := by
  rw [sweeps.frame]
  exact ⟨roomy.opened, roomy.room, roomy.waits, roomy.timely⟩

/-- `refresh` acts on the entry only where the map still holds it under this subject. -/
theorem refreshEntry_ends [DecidableEq T] (subject : T) (free : s.subjects.lock = none)
    (shelved : Subjects.Shelved s)
    (keyed : ∀ slot ∈ s.subjects.cache.entries, slot.2.entry.id = entry.id → slot.1 = entry.subject)
    (found : s.cells entry.id = some cell) (home : cell.entry = entry)
    (roomy : s.subjects.Holds entry.id ∧ subject = entry.subject → s.Roomy rt)
    (window : entry.refreshBefore = Entry.refreshBeforeOf rt.config) :
    (refreshEntry rt subject entry : Program (Gate T P) _).Ends me (fun _ after =>
      (s.subjects.Holds entry.id ∧ subject = entry.subject → ∃ middle,
        Gate.Sweeps (fun id => Subjects.Idle rt s.clock s id ∧ id ≠ entry.id) s middle ∧
          if cell.dueAt s.clock = true then Gate.HandsOver entry cell middle after
          else after.bare = (middle.updateCell entry.id (EntryCell.settle s.clock)).bare) ∧
        (¬ (s.subjects.Holds entry.id ∧ subject = entry.subject) →
          Gate.Sweeps (Subjects.Idle rt s.clock s) s after)) s := by
  refine .bind (.read _ rfl (.bind ((Subjects.touch_ends free shelved keyed).mono
    fun matched middle held => ?_)))
  obtain ⟨matches_iff, sweeps⟩ := held
  cases matched with
  | false =>
      have out := mt matches_iff.mpr Bool.false_ne_true
      refine .done ⟨fun held => absurd held out, fun _ => ?_⟩
      exact sweeps.mono fun id idle => idle.1
  | true =>
      have held := matches_iff.mp rfl
      have sweepsOthers : Gate.Sweeps (fun id => Subjects.Idle rt s.clock s id ∧ id ≠ entry.id) s middle :=
        sweeps.mono fun id idle => ⟨idle.1, idle.2 rfl⟩
      have foundMiddle : middle.cells entry.id = some cell :=
        (sweepsOthers.others entry.id fun idle => idle.2 rfl).trans found
      have clock : middle.clock = s.clock := by rw [sweeps.frame]
      refine .bind ((admissionOnAccess_ends .admission subject foundMiddle home
        (sweeps.roomy (roomy held))
        window).mono fun _ after accessed => .done ⟨fun _ => ⟨middle, sweepsOthers, ?_⟩,
          fun out => absurd held out⟩)
      rwa [clock] at accessed

end PolicyGate
