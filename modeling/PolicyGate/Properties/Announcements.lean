import PolicyGate.Properties.Runs
import PolicyGate.Gate.Solo
import PolicyGate.Interleaving.Critical

namespace PolicyGate

open Interleaving Program

variable {T P : Type} [DecidableEq T] {rt : Runtime} {authority : T → Option Decision}
  {calls : Nat → Call T} {c : Config (Gate T P)} {me built : Nat} {a : Entry T}

/-- One new lookup was made for the entry, put into its empty slot and handed over to the watcher. -/
def RefreshClaimed (a : Entry T) (before after : Gate T P) : Prop :=
  ∃ (fetch : PendingFetch T P) (flight : Flight T P) (cell : EntryCell T P) (log : EntryLog T P),
    fetch.generation = before.nextGeneration ∧ fetch.entry = a ∧
      before.cells a.id = some cell ∧ cell.pending = none ∧
      after.cells a.id = some { cell with pending := some fetch, log } ∧
      after.queue = before.queue ++ [fetch] ∧
      after.flights fetch.generation = some flight ∧ flight.stage = .queued ∧ flight.taken = false

/-- No decision, deadline, payload or slot changed but those of the entries in `idle`, and no lookup
was made or handed over. -/
structure Untouched (idle : Nat → Prop) (before after : Gate T P) : Prop where
  cells : ∀ id cell, before.cells id = some cell → ¬ idle id →
    ∃ cell', after.cells id = some cell' ∧ cell'.current = cell.current ∧
      cell'.pending = cell.pending
  queue : after.queue = before.queue
  made : after.nextGeneration = before.nextGeneration

omit [DecidableEq T] in
theorem MapOk.shelved {s : Gate T P} {era : Option Nat} (ok : MapOk s.cells s.flights s.subjects era) :
    Subjects.Shelved s := fun slot member => by
  obtain ⟨cell, found, _⟩ := ok.slots slot member
  exact ⟨cell, found⟩

omit [DecidableEq T] in
theorem MapOk.keyed {s : Gate T P} {era : Option Nat} (ok : MapOk s.cells s.flights s.subjects era)
    {cell : EntryCell T P} (found : s.cells a.id = some cell) (home : cell.entry = a) :
    ∀ slot ∈ s.subjects.cache.entries, slot.2.entry.id = a.id → slot.1 = a.subject := by
  intro slot member same
  obtain ⟨cell', found', _, key, _⟩ := ok.slots slot member
  rw [same] at found'
  obtain rfl : cell = cell' := Option.some.inj (found.symm.trans found')
  exact home ▸ key

theorem Gate.Invariant.holds_of_dueAt {s : Gate T P} (ok : s.Invariant rt.config)
    (free : s.subjects.lock = none) {cell : EntryCell T P} {id now : Nat}
    (found : s.cells id = some cell) (due : cell.dueAt now = true) : s.subjects.Holds id := by
  rcases ok.map.placed id cell found with held | ⟨entry, member, _⟩ | dead
  · exact held
  · rw [ok.map.unlocked free] at member
    cases member
  · have answers := EntryCell.answers_of_dueAt due
    simp [EntryCell.answers, dead.1] at answers

section

omit [DecidableEq T]

variable {s middle after : Gate T P} {cell : EntryCell T P}

theorem EntryCell.settle_of_latched {now : Nat}
    (latched : staleWord cell.current.value.word = cell.current.value.word) :
    cell.settle now = cell := by
  simp [EntryCell.settle, latched]

theorem EntryCell.settle_cases {now : Nat} (fits : cell.current.value.word < 2 ^ 64) :
    cell.settle now = cell ∨
      (cell.entry.isExpiredAt cell.current.value.word now = true ∧ (cell.settle now).state = .stale ∧
        staleWord (cell.settle now).current.value.word = (cell.settle now).current.value.word) := by
  by_cases latches : (cell.entry.isExpiredAt cell.current.value.word now &&
      cell.current.value.word != staleWord cell.current.value.word) = true
  · have stale := EntrySnapshot.stale_state fits
    simp only [EntryCell.settle, if_pos latches]
    exact .inr ⟨(Bool.and_eq_true _ _ ▸ latches).1, stale, staleWord_eq_self (staleWord_lt fits) stale⟩
  · exact .inl (if_neg latches)

theorem EntryCell.settle_settle {now : Nat} (fits : cell.current.value.word < 2 ^ 64) :
    (cell.settle now).settle now = cell.settle now := by
  rcases EntryCell.settle_cases fits with kept | ⟨_, _, latched⟩
  · rw [kept, kept]
  · exact EntryCell.settle_of_latched latched

theorem EntryCell.settle_with_log (now : Nat) (cell : EntryCell T P) (log : EntryLog T P) :
    EntryCell.settle now { cell with log } = { cell.settle now with log } := by
  unfold EntryCell.settle
  split <;> rfl

theorem EntryCell.free_of_dueAt {now : Nat} (due : cell.dueAt now = true) : cell.pending = none := by
  simp only [EntryCell.dueAt, Bool.and_eq_true] at due
  exact Option.isNone_iff_eq_none.mp due.2

theorem EntryCell.dueAt_settle {now : Nat} (fits : cell.current.value.word < 2 ^ 64) :
    (cell.settle now).dueAt now = cell.dueAt now := by
  rcases EntryCell.settle_cases fits with kept | ⟨expired, stale, _⟩
  · rw [kept]
  · rw [EntryCell.dueAt_of_expired expired]
    refine Bool.eq_false_of_not_eq_true fun due => ?_
    have answers := EntryCell.answers_of_dueAt due
    simp [EntryCell.answers, stale] at answers

theorem Gate.Sweeps.untouched {swept : Nat → Prop} (sweeps : Gate.Sweeps swept s after) :
    Untouched swept s after := by
  refine ⟨fun id cell found kept => ⟨cell, (sweeps.others id kept).trans found, rfl, rfl⟩, ?_, ?_⟩ <;>
    rw [sweeps.frame]

theorem Gate.Sweeps.untouched_of_bare {swept : Nat → Prop} (sweeps : Gate.Sweeps swept s middle)
    (same : after.bare = middle.bare) : Untouched swept s after := by
  refine ⟨fun id cell found kept => ?_, ?_, ?_⟩
  · obtain ⟨log, found'⟩ := Gate.cell_of_bare same ((sweeps.others id kept).trans found)
    exact ⟨_, found', rfl, rfl⟩
  · rw [Gate.frame_of_bare same, sweeps.frame]
  · rw [Gate.frame_of_bare same, sweeps.frame]

theorem Gate.HandsOver.claims_after {swept : Nat → Prop} (sweeps : Gate.Sweeps swept s middle)
    (found : s.cells a.id = some cell) (kept : ¬ swept a.id) (free : cell.pending = none)
    (handed : Gate.HandsOver a cell middle after) : RefreshClaimed a s after := by
  obtain ⟨fetch, flight, generation, home, _, queue, cells, flown, _, stage, untaken⟩ := handed
  have foundMiddle := (sweeps.others a.id kept).trans found
  have seen : (after.cells a.id).map EntryCell.bare = _ := congrFun cells a.id
  simp only [Gate.bare, Gate.updateCell_cells, Function.update_self, foundMiddle, Option.map_some]
    at seen
  obtain ⟨cell', found', same⟩ := Option.map_eq_some_iff.mp seen
  have inSlot : cell' = { cell with pending := some fetch, log := cell'.log } :=
    congrArg (fun shown : EntryCell T P => { shown with log := cell'.log }) same
  refine ⟨fetch, flight, cell, cell'.log, generation.trans ?_, home, found, free,
    found'.trans (congrArg some inSlot), queue.trans ?_, flown, stage, untaken⟩
  · rw [sweeps.frame]
  · rw [sweeps.frame]

theorem Untouched.not_claimed {idle : Nat → Prop} (untouched : Untouched idle s after) :
    ¬ RefreshClaimed a s after := by
  rintro ⟨fetch, _, _, _, _, _, _, _, _, queue, _⟩
  rw [untouched.queue] at queue
  simp at queue

end

/-- What `refresh` does after `check` has latched an expired decision. -/
theorem Gate.Invariant.refresh_ends {s checked : Gate T P} {cell : EntryCell T P}
    (ok : s.Invariant rt.config) (me : Nat) (free : s.subjects.lock = none) (roomy : s.Roomy rt)
    (found : s.cells a.id = some cell) (home : cell.entry = a)
    (same : checked.bare = (s.updateCell a.id (EntryCell.settle s.clock)).bare) :
    (refreshEntry rt a.subject a : Program (Gate T P) _).Ends me (fun _ after =>
      (cell.dueAt s.clock = true → RefreshClaimed a checked after) ∧
        (¬ cell.dueAt s.clock = true →
          Untouched (fun id => Subjects.Idle rt s.clock checked id ∧ id ≠ a.id) checked after)) checked := by
  have fits := (ok.cells _ cell found).word_lt
  have frame := Gate.frame_of_bare same
  have clock : checked.clock = s.clock := by
    rw [frame]
    rfl
  have subjects : checked.subjects = s.subjects := by
    rw [frame]
    rfl
  obtain ⟨log, foundChecked⟩ := Gate.cell_of_bare same (Gate.updateCell_at found _)
  have homeChecked : (cell.settle s.clock).entry = a := (EntryCell.settle_entry ..).trans home
  have shelved : Subjects.Shelved checked := by
    intro slot member
    rw [subjects] at member
    obtain ⟨other, foundOther⟩ := ok.map.shelved slot member
    by_cases here : slot.2.entry.id = a.id
    · exact ⟨_, here ▸ foundChecked⟩
    · obtain ⟨log, known⟩ := Gate.cell_of_bare same
        ((Function.update_of_ne here _ _).trans foundOther)
      exact ⟨_, known⟩
  have window : a.refreshBefore = Entry.refreshBeforeOf rt.config :=
    home ▸ (ok.cells _ cell found).window
  refine (refreshEntry_ends a.subject (subjects ▸ free) shelved
    (subjects ▸ ok.map.keyed found home) foundChecked homeChecked ?_ window).mono
      fun _ after refreshed => ?_
  · intro _
    rw [frame]
    exact ⟨roomy.opened, roomy.room, roomy.waits, roomy.timely⟩
  · have due : EntryCell.dueAt checked.clock { cell.settle s.clock with log } =
        cell.dueAt s.clock := by
      rw [clock]
      exact EntryCell.dueAt_settle fits
    rw [due, clock, subjects] at refreshed
    by_cases held : s.subjects.Holds a.id
    · obtain ⟨middle, sweeps, accessed⟩ := refreshed.1 ⟨held, rfl⟩
      have spared : ¬ (Subjects.Idle rt s.clock checked a.id ∧ a.id ≠ a.id) := fun idle => idle.2 rfl
      refine ⟨fun isDue => ?_, fun notDue => ?_⟩
      · rw [if_pos isDue] at accessed
        exact accessed.claims_after sweeps foundChecked spared
          ((cell.settle_pending s.clock).trans (EntryCell.free_of_dueAt isDue))
      · rw [if_neg notDue] at accessed
        have settled : middle.updateCell a.id (EntryCell.settle s.clock) = middle :=
          Gate.updateCell_of_eq fun cell' found' => by
            have foundMiddle := (sweeps.others a.id spared).trans foundChecked
            obtain rfl := Option.some.inj (foundMiddle.symm.trans found')
            rw [EntryCell.settle_with_log, EntryCell.settle_settle fits]
        exact sweeps.untouched_of_bare (settled ▸ accessed)
    · have sweeps := refreshed.2 fun held' => held held'.1
      refine ⟨fun isDue => absurd (ok.holds_of_dueAt free found isDue) held, fun _ => ?_⟩
      refine (sweeps.mono fun id idle => ⟨idle, ?_⟩).untouched
      rintro rfl
      obtain ⟨slot, member, here, _⟩ := idle
      exact held ⟨slot, subjects ▸ member, here⟩

omit [DecidableEq T] in
theorem EntryCell.not_due_of_pending {cell : EntryCell T P} {fetch : PendingFetch T P} {now : Nat}
    (inSlot : cell.pending = some fetch) : cell.dueAt now = false := by
  simp [EntryCell.dueAt, inSlot]

theorem free_of_refreshEntry {s after : Gate T P} {subject : T}
    (ran : (refreshEntry rt subject a).Solo me s () after) : s.subjects.lock = none := by
  by_contra locked
  have blocked : (refreshEntry rt subject a : Program (Gate T P) Unit).Secures id me
      (fun s => s.subjects.lock ≠ none) fun _ _ => False := by
    refine .bind (M := fun _ s => s.subjects.lock ≠ none) (.read fun _ _ held _ => held) fun now =>
      .bind (.bind (M := fun _ _ => False) (.act fun choice s result after held ran => ?_) fun _ => .never _ _)
      fun _ => .never _ _
    obtain ⟨holder, taken⟩ := Option.ne_none_iff_exists'.mp held
    change s.subjects.lock = some holder at taken
    rw [taken] at ran
    cases ran
  exact (ran.amid (K := fun s after => id after = id s) fun _ => rfl).secured blocked locked

theorem Gate.Invariant.check_ends {s : Gate T P} {cell : EntryCell T P} (ok : s.Invariant rt.config)
    (issued : s.Issued a) (found : s.cells a.id = some cell) :
    (Admission.check a : Program (Gate T P) _).Ends me (fun outcome after =>
      (∃ state, outcome = .checked a s.clock state (cell.dueAt s.clock)) ∧
        after.bare = (s.updateCell a.id (EntryCell.settle s.clock)).bare) s := by
  have settled := Entry.not_pending_of_issued ok issued found
  obtain ⟨cell', found', home, _⟩ := issued
  obtain rfl : cell = cell' := Option.some.inj (found.symm.trans found')
  exact Admission.check_ends found home settled

/-- The flag of `check` is whether `refresh` on the same handle would hand a lookup over; where it is
not set, `refresh` changes nothing but what its sweep of the map takes out; once a lookup is handed
over, no check of the entry announces another until it leaves the slot; and under another subject, or on
an entry that the map no longer holds, `refresh` hands nothing over. -/
theorem check_announces_refresh (accepted : rt.config.build rt.latest built = .ok rt.config)
    (reached : Reachable rt authority calls c) (me : Nat) :
    (∀ a, c.shared.Issued a → c.shared.queueClosed = false →
      c.shared.queue.length < rt.config.refreshQueueCapacity →
      c.shared.clock + rt.config.refreshEnqueueTimeout ≤ rt.latest →
      (Admission.check a : Program (Gate T P) _).Ends me (fun outcome checked => ∃ state announced,
        outcome = .checked a c.shared.clock state announced ∧
        (c.shared.subjects.lock = none →
          ∃ after, (refreshEntry rt a.subject a).Solo me checked () after) ∧
        ∀ after, (refreshEntry rt a.subject a).Solo me checked () after →
          (announced = true ↔ RefreshClaimed a checked after) ∧
          (announced = true → (Admission.check a).Ends me (fun outcome _ => ∃ state,
            outcome = .checked a after.clock state false) after) ∧
          (announced = false → Untouched (fun id =>
            Subjects.Idle rt c.shared.clock checked id ∧ id ≠ a.id) checked after)) c.shared) ∧
    (∀ generation flight cell, c.shared.flights generation = some flight →
      c.shared.cells flight.fetch.entry.id = some cell → c.shared.Issued flight.fetch.entry →
      (flight.stage.live = true ∧ flight.taken = false ∨ cell.pending = some flight.fetch) →
      (Admission.check flight.fetch.entry).Ends me (fun outcome _ => ∃ state,
        outcome = .checked flight.fetch.entry c.shared.clock state false) c.shared) ∧
    (∀ a subject, c.shared.Issued a → subject ≠ a.subject ∨ ¬ c.shared.subjects.Holds a.id →
      ∀ after, (refreshEntry rt subject a).Solo me c.shared () after →
        Untouched (Subjects.Idle rt c.shared.clock c.shared) c.shared after ∧
          ¬ RefreshClaimed a c.shared after) := by
  have ok := reached.invariant
  have valid := (PolicyGateConfig.build_eq_ok_iff.mp accepted).2
  refine ⟨fun a issued opened room timely => ?_, fun generation flight cell flown found issued held => ?_,
    fun a subject issued other after ran => ?_⟩
  · obtain ⟨cell, found, home, _⟩ := id issued
    have roomy : c.shared.Roomy rt := ⟨opened, room, valid.enqueue, timely⟩
    refine (ok.check_ends issued found).mono fun outcome checked held => ?_
    obtain ⟨⟨state, rfl⟩, same⟩ := held
    have frame := Gate.frame_of_bare same
    refine ⟨state, cell.dueAt c.shared.clock, rfl, fun free => ?_, fun after ran => ?_⟩
    · obtain ⟨_, after, ran, _⟩ := (ok.refresh_ends me free roomy found home same).exists_solo
      exact ⟨after, ran⟩
    · have free : c.shared.subjects.lock = none := by
        have := free_of_refreshEntry ran
        rwa [frame] at this
      obtain ⟨claims, idles⟩ := (ok.refresh_ends me free roomy found home same).solo ran
      refine ⟨⟨claims, fun claimed => ?_⟩, fun due => ?_, fun quiet => idles (by simp [quiet])⟩
      · by_contra quiet
        exact (idles quiet).not_claimed claimed
      · obtain ⟨fetch, _, cell', log, _, _, before, _, found', _⟩ := claims due
        obtain ⟨log', foundChecked⟩ := Gate.cell_of_bare same (Gate.updateCell_at found _)
        rw [EntryCell.settle_of_unexpired (EntryCell.unexpired_of_dueAt due), before,
          Option.some.injEq] at foundChecked
        subst foundChecked
        have settled : cell.state ≠ .pending := Entry.not_pending_of_issued ok issued found
        refine (Admission.check_ends found' home settled).mono fun _ _ checks => ?_
        rw [EntryCell.not_due_of_pending rfl] at checks
        exact checks.1
  · have inSlot : cell.pending = some flight.fetch := by
      rcases held with ⟨live, untaken⟩ | inSlot
      · obtain ⟨cell', found', inSlot⟩ := ok.slots.live generation flight flown live untaken
        obtain rfl : cell = cell' := Option.some.inj (found.symm.trans found')
        exact inSlot
      · exact inSlot
    refine (ok.check_ends issued found).mono fun outcome _ held => ?_
    rw [EntryCell.not_due_of_pending inSlot] at held
    exact held.1
  · obtain ⟨cell, found, home, _⟩ := issued
    have free := free_of_refreshEntry ran
    have out : ¬ (c.shared.subjects.Holds a.id ∧ subject = a.subject) := by
      rintro ⟨held, same⟩
      exact other.elim (fun different => different same) fun gone => gone held
    have untouched := (((refreshEntry_ends subject free ok.map.shelved (ok.map.keyed found home) found
      home (fun held => absurd held out) (home ▸ (ok.cells _ cell found).window)).solo ran).2 out).untouched
    exact ⟨untouched, untouched.not_claimed⟩

namespace Sample

def handles (rt : Runtime) (s : Gate Nat Nat) : Bool :=
  ((s.cells 0).any fun cell => cell.entry = entry && Admission.issued cell) &&
    s.queueClosed = false && s.queue.length < rt.config.refreshQueueCapacity &&
    s.clock + rt.config.refreshEnqueueTimeout ≤ rt.latest && s.subjects.lock = none

theorem of_handles {rt : Runtime} {s : Gate Nat Nat} (passed : handles rt s = true) :
    s.Issued entry ∧ s.queueClosed = false ∧ s.queue.length < rt.config.refreshQueueCapacity ∧
      s.clock + rt.config.refreshEnqueueTimeout ≤ rt.latest ∧ s.subjects.lock = none := by
  simp only [handles, Bool.and_eq_true, Option.any_eq_true, decide_eq_true_eq] at passed
  obtain ⟨⟨⟨⟨⟨cell, found, home, issued⟩, opened⟩, room⟩, timely⟩, free⟩ := passed
  exact ⟨⟨cell, found, home, issued⟩, opened, room, timely, free⟩

def checksAlone (s : Gate Nat Nat) : Option ((Nat × EntryState × Bool) × Gate Nat Nat) :=
  ((Admission.check entry).alone 9 0 20 s).bind fun ran =>
    match ran.1 with
    | .checked checked now state due =>
        if checked = entry then some ((now, state, due), ran.2) else none
    | _ => none

theorem solo_of_checksAlone {s checked : Gate Nat Nat} {now : Nat} {state : EntryState} {due : Bool}
    (ran : checksAlone s = some ((now, state, due), checked)) :
    (Admission.check entry).Solo 9 s (.checked entry now state due) checked := by
  obtain ⟨⟨outcome, after⟩, alone, told⟩ := Option.bind_eq_some_iff.mp ran
  cases outcome with
  | checked handle now' state' due' =>
      dsimp only at told
      split at told
      · rename_i same
        simp only [Option.some.injEq, Prod.mk.injEq] at told
        obtain ⟨⟨rfl, rfl, rfl⟩, rfl⟩ := told
        rw [same] at alone
        exact .of_alone alone
      · cases told
  | admitted | cached | refreshed | state | payload | invalidated => cases told

def announced (s : Gate Nat Nat) : Bool :=
  handles runtime s && (checksAlone s).any fun ran => ran.1 = (70, .allowed, true)

end Sample

theorem check_announces_refresh_sample : ∃ (c : Config (Gate Nat Nat)) (checked after : Gate Nat Nat),
    (Admission.check Sample.entry).Solo 9 c.shared (.checked Sample.entry 70 .allowed true) checked ∧
      (refreshEntry Sample.runtime 0 Sample.entry).Solo 9 checked () after ∧
      RefreshClaimed Sample.entry checked after := by
  obtain ⟨c, reached, passed⟩ := Reachable.of_run Sample.runtime (fun _ => some .allowed)
    (Sample.asking [.admitSubject 0, .poll 0])
    (Sample.admits .allowed none ++ [.environment (.advance 70)]) Sample.announced (by decide +kernel)
  simp only [Sample.announced, Bool.and_eq_true, Option.any_eq_true, decide_eq_true_eq] at passed
  obtain ⟨handles, ⟨⟨now, state, due⟩, checked⟩, ran, told⟩ := passed
  obtain ⟨rfl, rfl, rfl⟩ : now = 70 ∧ state = .allowed ∧ due = true := by simpa using told
  have solo := Sample.solo_of_checksAlone ran
  obtain ⟨issued, opened, room, timely, free⟩ := Sample.of_handles handles
  have accepted : Sample.runtime.config.build Sample.runtime.latest 0 = .ok Sample.runtime.config := rfl
  obtain ⟨_, announced, same, ends, claims⟩ :=
    ((check_announces_refresh accepted reached 9).1 Sample.entry issued opened room timely).solo solo
  obtain ⟨after, refreshed⟩ := ends free
  obtain ⟨_, _, _, rfl⟩ := Outcome.checked.inj same
  exact ⟨c, checked, after, solo, refreshed, (claims after refreshed).1.mp rfl⟩

def Sample.idling : Runtime :=
  { tiny with config := { tiny.config with subjectTtl := 10 } }

namespace Sample

/-- Entry 0 made way for a slot of subject 1, and that for entry 2, which is of subject 0 again and has
been idle since. -/
def replaces : List (Move (GateEvent Nat Nat)) :=
  admits .allowed none ++ turns 3 2 67 ++ turns 4 0 5 ++ answers 1 .allowed none ++ turns 4 1 1 ++
    turns 4 0 10 ++ turns 3 1 11 ++ turns 5 2 66 ++ turns 6 0 5 ++ answers 2 .allowed none ++
    turns 6 1 1 ++ turns 6 0 10 ++ turns 5 1 11 ++ [.environment (.advance 20)]

def successorIn (state : EntryState) (s : Gate Nat Nat) : Bool :=
  (s.cells 2).any fun cell => cell.entry.subject = 0 && cell.state = state

def sweepsSuccessor (s : Gate Nat Nat) : Bool :=
  handles idling s && (checksAlone s).any fun ran => ran.1 = (20, .stale, false) &&
    successorIn .allowed ran.2 && ((refreshEntry idling 0 entry).alone 9 0 50 ran.2).any fun ran =>
      successorIn .stale ran.2

end Sample

/-- With no refresh announced, `refresh` on a replaced handle may evict the subject's own entry. -/
theorem idle_successor_evicted : ∃ (c : Config (Gate Nat Nat)) (checked after : Gate Nat Nat)
    (cell cell' : EntryCell Nat Nat),
    Reachable Sample.idling (fun _ => some .allowed) (Sample.asking
        [.admitSubject 0, .poll 0, .admitSubject 1, .poll 1, .admitSubject 0, .poll 2]) c ∧
      c.shared.Issued Sample.entry ∧ c.shared.queueClosed = false ∧
      c.shared.queue.length < Sample.idling.config.refreshQueueCapacity ∧
      c.shared.clock + Sample.idling.config.refreshEnqueueTimeout ≤ Sample.idling.latest ∧
      (Admission.check Sample.entry).Solo 9 c.shared (.checked Sample.entry 20 .stale false) checked ∧
      (refreshEntry Sample.idling 0 Sample.entry).Solo 9 checked () after ∧
      checked.cells 2 = some cell ∧ cell.entry.subject = Sample.entry.subject ∧
      cell.state = .allowed ∧ after.cells 2 = some cell' ∧ cell'.state = .stale := by
  obtain ⟨c, reached, passed⟩ := Reachable.of_run Sample.idling (fun _ => some .allowed)
    (Sample.asking [.admitSubject 0, .poll 0, .admitSubject 1, .poll 1, .admitSubject 0, .poll 2])
    Sample.replaces Sample.sweepsSuccessor (by decide +kernel)
  simp only [Sample.sweepsSuccessor, Sample.successorIn, Bool.and_eq_true, Option.any_eq_true,
    decide_eq_true_eq] at passed
  obtain ⟨handles, ⟨⟨now, state, due⟩, checked⟩, ran, ⟨told, cell, found, subject, allowed⟩,
    ⟨_, after⟩, refreshed, cell', found', _, stale⟩ := passed
  obtain ⟨rfl, rfl, rfl⟩ : now = 20 ∧ state = .stale ∧ due = false := by simpa using told
  obtain ⟨issued, opened, room, timely, _⟩ := Sample.of_handles handles
  exact ⟨c, checked, after, cell, cell', reached, issued, opened, room, timely,
    Sample.solo_of_checksAlone ran, .of_alone refreshed, found, subject, allowed, found', stale⟩

end PolicyGate
