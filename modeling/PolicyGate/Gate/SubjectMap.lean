import PolicyGate.Gate.Entry

namespace PolicyGate

open Interleaving

variable {T P : Type}

/-! The operations of `SubjectMap`.

A critical section takes the lock, works on the cache action by action, and gives
the lock back.  The entries it removes stay in `limbo` until then.
-/

def SubjectMap.unlocked (map : SubjectMap T) : SubjectMap T := { map with lock := none, limbo := [] }

def SubjectMap.remove (map : SubjectMap T) (cache : Data.Lru T (SubjectSlot T)) (entry : Entry T) :
    SubjectMap T :=
  { map with cache, limbo := entry :: map.limbo }

def SubjectMap.setCache (map : SubjectMap T) (cache : Data.Lru T (SubjectSlot T)) : SubjectMap T :=
  { map with cache }

def SubjectSlot.touch (slot : SubjectSlot T) (tick : Nat) : SubjectSlot T :=
  { slot with lastTouched := max slot.lastTouched tick }

namespace Subjects

/-- The activity epoch is the instant of the gate's construction. -/
def tick (rt : Runtime) (now : Nat) : Nat := (toU64 (now - rt.constructed)).getD u64Max

/-- `subject_ttl` as `evict` compares it. -/
def ttl (rt : Runtime) : Nat := (toU64 rt.config.subjectTtl).getD u64Max

def lock : Program (Gate T P) Unit :=
  .act fun pick s =>
    match s.subjects.lock with
    | some _ => none
    | none => some ((), s.updateSubjects fun map => { map with lock := some pick.thread })

def unlock : Program (Gate T P) Unit := .modify fun s => s.updateSubjects SubjectMap.unlocked

def setDirty (dirty : Bool) : Program (Gate T P) Unit := .modify fun s => { s with shapeDirty := dirty }

/-- One round of `evict`: pops the least recently promoted slot if it is idle too long. -/
def popIdle (rt : Runtime) (now : Nat) : Program (Gate T P) (Option (Entry T)) :=
  .act fun _ s =>
    match s.subjects.cache.popLru with
    | some ((_, slot), cache) =>
        if now - slot.lastTouched > ttl rt then
          some (some slot.entry, s.updateSubjects fun map => map.remove cache slot.entry)
        else some (none, s)
    | none => some (none, s)

def evict (rt : Runtime) (now : Nat) : Program (Gate T P) Unit :=
  .iterate () fun _ => do
    match ← popIdle rt now with
    | none => pure (.inr ())
    | some entry => do
        entry.invalidate
        setDirty true
        pure (.inl ())

section

variable [DecidableEq T]

/-- `get_mut` followed by `SubjectSlot::touch`. -/
def promote (subject : T) (tick : Nat) : Program (Gate T P) (Option (Entry T)) :=
  .act fun _ s =>
    match s.subjects.cache.getMut subject fun slot => slot.touch tick with
    | some (slot, cache) => some (some slot.entry, s.updateSubjects fun map => map.setCache cache)
    | none => some (none, s)

def peek (subject : T) : Program (Gate T P) (Option (Entry T)) :=
  .read fun s => some ((s.subjects.cache.peek subject).map SubjectSlot.entry)

/-- The entry `admit` creates, with its first lookup. -/
def createdEntry (rt : Runtime) (s : Gate T P) (subject : T) (now : Nat) : Entry T :=
  { id := s.nextEntry, subject, epoch := now, refreshBefore := Entry.refreshBeforeOf rt.config }

def createdFetch (rt : Runtime) (s : Gate T P) (subject : T) (now : Nat) : PendingFetch T P :=
  { generation := s.nextGeneration, entry := createdEntry rt s subject now, subject, delay := none,
    refreshFrom := none }

def createdCell (rt : Runtime) (s : Gate T P) (subject : T) (now : Nat) : EntryCell T P :=
  { entry := createdEntry rt s subject now, current := ⟨0, .pending⟩,
    pending := some (createdFetch rt s subject now), refreshNotBefore := 0, log := [],
    session := s.watch.era }

def created (rt : Runtime) (s : Gate T P) (subject : T) (now : Nat) : Gate T P :=
  { s with
    nextEntry := s.nextEntry + 1
    nextGeneration := s.nextGeneration + 1
    flights := Function.update s.flights s.nextGeneration
      (some { fetch := createdFetch rt s subject now, stage := .placed })
    cells := Function.update s.cells s.nextEntry (some (createdCell rt s subject now)) }

/-- `create()` and the `push` of what it returns.  The new entry is nobody else's until it is
in the map, so the two are one action. -/
def insert (rt : Runtime) (subject : T) (now tick : Nat) :
    Program (Gate T P) (Entry T × Option (Entry T)) :=
  .act fun _ s =>
    let entry := createdEntry rt s subject now
    let (evicted, cache) :=
      s.subjects.cache.push rt.config.maxSubjects subject { entry, lastTouched := tick }
    some (match evicted with
      | none => ((entry, none),
          (created rt s subject now).updateSubjects fun map => map.setCache cache)
      | some (_, slot) => ((entry, some slot.entry),
          (created rt s subject now).updateSubjects fun map => map.remove cache slot.entry))

/-- `pop` of a subject's slot.  A withdrawal is applied when its subject is out of the map. -/
def pop (withdrawal : Bool) (subject : T) : Program (Gate T P) (Option (Entry T)) :=
  .act fun _ s =>
    let s := if withdrawal then s.applied else s
    match s.subjects.cache.pop subject with
    | some (slot, cache) =>
        some (some slot.entry, s.updateSubjects fun map => map.remove cache slot.entry)
    | none => some (none, s)

/-- The `peek` of `update`.  A change to a subject that is not cached has no further effect. -/
def peekForUpdate (subject : T) : Program (Gate T P) (Option (Entry T)) :=
  .act fun _ s =>
    match s.subjects.cache.peek subject with
    | some slot => some (some slot.entry, s)
    | none => some (none, s.applied)

/-- Answers the subject's entry and whether this call inserted it. -/
def getOrInsertWith (rt : Runtime) (subject : T) (now : Nat) :
    Program (Gate T P) (Entry T × Bool) := do
  let tick := tick rt now
  lock
  match ← promote subject tick with
  | some entry => do
      evict rt tick
      unlock
      pure (entry, false)
  | none => do
      evict rt tick
      let (entry, evicted) ← insert rt subject now tick
      match evicted with
      | some old => do
          old.invalidate
          setDirty true
      | none => pure ()
      evict rt tick
      unlock
      pure (entry, true)

def touch (rt : Runtime) (subject : T) (entry : Entry T) (now : Nat) :
    Program (Gate T P) Bool := do
  let tick := tick rt now
  lock
  let found ← peek subject
  let matched := found.any fun current => current.id = entry.id
  if matched then do
    let _ ← promote subject tick
    pure ()
  evict rt tick
  unlock
  pure matched

def update (rt : Runtime) (subject : T) (now : Nat)
    (change : Entry T → Program (Gate T P) Unit) : Program (Gate T P) Unit := do
  let tick := tick rt now
  lock
  evict rt tick
  match ← peekForUpdate subject with
  | some entry => change entry
  | none => pure ()
  unlock

def remove (rt : Runtime) (subject : T) (now : Nat) : Program (Gate T P) Bool := do
  lock
  evict rt (tick rt now)
  match ← pop true subject with
  | some entry => do
      entry.invalidate
      unlock
      pure true
  | none => do
      unlock
      pure false

def removeIf (rt : Runtime) (subject : T) (now : Nat)
    (predicate : Entry T → Program (Gate T P) Bool) : Program (Gate T P) Bool := do
  lock
  evict rt (tick rt now)
  let found ← peek subject
  let holds ← match found with
    | some entry => predicate entry
    | none => pure false
  if holds then
    match ← pop false subject with
    | some entry => do
        entry.invalidate
        unlock
        pure true
    | none => do
        unlock
        pure false
  else do
    unlock
    pure false

end

/-- `for_each`, collecting what it visits to publish it for `generation`. -/
def copyEntries (generation : Nat) : Program (Gate T P) (List (T × Entry T)) := do
  lock
  let entries ← .act fun pick s =>
    some (s.subjects.cache.entries.map fun slot => (slot.1, slot.2.entry),
      { s with copies := { thread := pick.thread, generation, era := s.watch.era } :: s.copies })
  unlock
  pure entries

def invalidateAll : List (Entry T) → Program (Gate T P) Unit
  | [] => pure ()
  | entry :: rest => do
      entry.invalidate
      invalidateAll rest

/-- The session a clear belongs to: that of the stream just opened, or none where the watch is down. -/
def clearedEra (watch : Watch T P) : Option Nat :=
  if watch.phase = .opened then some watch.opened else none

def emptied (s : Gate T P) : Gate T P :=
  { s with
    subjects := { s.subjects with
      cache := .empty
      limbo := s.subjects.cache.entries.map (fun slot => slot.2.entry) ++ s.subjects.limbo }
    watch := { s.watch with era := clearedEra s.watch } }

def clear : Program (Gate T P) Unit := do
  lock
  let entries ← .read fun s => some (s.subjects.cache.entries.map fun slot => slot.2.entry)
  invalidateAll entries
  .modify emptied
  unlock

end Subjects

end PolicyGate
