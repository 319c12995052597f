/-
# The event log

`event_log.cpp`: `EventLog` holds the last events under its mutex, merges an event that repeats the
last one, and evicts ordinary events before those of the audit.  A worker of its own writes what the
log holds, and `flush` waits until that is written.

Every function that holds the mutex is one step of a `System`; the worker holds it while it takes a
copy and again while it records whether the copy was written, and writes in between.  The worker's
waits for a batch or a retry only delay these steps, so a step may come at any time.

`occurrences`, `given`, `lost` and what `System` keeps behind its log are not in the source and no
step looks at them: they say which calls of `append` stand behind an event, and when the copies were
taken.
-/
import Kf2Optimizer.Lib.Text
import Kf2Optimizer.Lib.Machine
import Mathlib.Data.List.Basic

namespace Kf2Optimizer.Diagnostics

open Text

/-! ## 1. Events -/

inductive Severity | info | warning | error
deriving DecidableEq

/-- `Event`.  A wide text is a list of UTF-16 units. -/
structure Event where
  sequence : ℕ := 0
  severity : Severity := .info
  code : Bytes := []
  message : List UInt16 := []
  source : List UInt16 := []
  repeatCount : ℕ := 1
  retainedAudit : Bool := false
  occurrences : List ℕ := []
deriving DecidableEq

/-- `is_retained_audit_event`. -/
def isRetainedAuditEvent (event : Event) : Bool :=
  event.severity != .info ||
    [ascii "_APPLIED", ascii "_RESTORED", ascii "_REMOVED"].any fun suffix =>
      decide (suffix <:+ event.code)

def uint64Max : ℕ := 2 ^ 64 - 1
def uint32Max : ℕ := 2 ^ 32 - 1

/-- A counter that stays at its top. -/
def saturating (top n : ℕ) : ℕ := if n = top then n else n + 1

/-- `truncate` of a wide text: a pair of units is not left in halves. -/
def truncateWide (value : List UInt16) (maximum : ℕ) : List UInt16 :=
  if maximum < value.length then
    let halves := decide (0 < maximum) &&
      (value[maximum - 1]?.any fun unit => decide (0xD800 ≤ unit) && decide (unit ≤ 0xDBFF)) &&
      (value[maximum]?.any fun unit => decide (0xDC00 ≤ unit) && decide (unit ≤ 0xDFFF))
    value.take (if halves then maximum - 1 else maximum)
  else value

/-- An event within the bounds of its texts. -/
def Event.truncated (event : Event) : Event :=
  { event with
    code := event.code.take 64
    message := truncateWide event.message 1024
    source := truncateWide event.source 128 }

/-- What `append` makes of an event before it takes the mutex. -/
def Event.prepared (event : Event) : Event :=
  { event.truncated with
    retainedAudit := event.retainedAudit || isRetainedAuditEvent event.truncated }

/-- The comparison for a repeat. -/
def Event.repeats (event previous : Event) : Bool :=
  decide (previous.severity = event.severity ∧ previous.code = event.code ∧
    previous.message = event.message ∧ previous.source = event.source)

/-! ## 2. The log -/

/-- `EventLogStats`. -/
structure EventLogStats where
  appended : ℕ := 0
  deduplicated : ℕ := 0
  overwritten : ℕ := 0
  persistenceFailures : ℕ := 0
deriving DecidableEq

/-- `EventLog`.  `hasPath` says that the path is not empty, and `hasWorker` that the worker can be
joined; both are set by the constructor only. -/
structure EventLog where
  capacity : ℕ
  events : List Event := []
  nextSequence : ℕ := 1
  hasPath : Bool := false
  hasWorker : Bool := false
  persistenceReady : Bool := false
  persistencePending : Bool := false
  persistenceRevision : ℕ := 0
  persistedRevision : ℕ := 0
  stats : EventLogStats := {}
  given : List Event := []
  lost : List ℕ := []
deriving DecidableEq

/-- The numbers that `renumber` gives. -/
def numbered : ℕ → List Event → List Event
  | _, [] => []
  | sequence, e :: rest => { e with sequence } :: numbered (sequence + 1) rest

namespace EventLog

/-- `schedule_persist_locked`. -/
def schedulePersist (l : EventLog) : EventLog :=
  if !l.hasWorker || !l.hasPath then l
  else { l with
    persistenceRevision := saturating uint64Max l.persistenceRevision
    persistencePending := true }

/-- The numbers from the beginning when they are used up. -/
def renumber (l : EventLog) : EventLog :=
  if l.nextSequence = uint64Max then
    { l with events := numbered 1 l.events, nextSequence := 1 + l.events.length }
  else l

/-- The log that has counted an event and given it its number. -/
def receive (l : EventLog) (given : Event) : EventLog :=
  { l.renumber with
    nextSequence := (l.renumber.nextSequence + 1) % 2 ^ 64
    stats.appended := saturating uint64Max l.stats.appended
    given := l.given ++ [given] }

/-- The event with its number. -/
def admitted (l : EventLog) (given : Event) : Event :=
  { given.prepared with
    sequence := l.renumber.nextSequence
    occurrences := [l.given.length] }

/-- An event that repeats the last one counts with it. -/
def merge (l : EventLog) (previous event : Event) : EventLog :=
  schedulePersist { l with
    events := l.events.dropLast ++ [{ previous with
      repeatCount := if previous.repeatCount < uint32Max then previous.repeatCount + 1
        else previous.repeatCount
      occurrences := previous.occurrences ++ event.occurrences }]
    stats.deduplicated := saturating uint64Max l.stats.deduplicated }

def push (l : EventLog) (event : Event) : EventLog :=
  schedulePersist { l with events := l.events ++ [event] }

/-- The event at an index leaves. -/
def evict (l : EventLog) (i : ℕ) : EventLog :=
  { l with
    events := l.events.eraseIdx i
    stats.overwritten := saturating uint64Max l.stats.overwritten
    lost := l.lost ++ (l.events[i]?.map (·.occurrences)).getD [] }

/-- An ordinary event is not kept by a log that is full of audit events. -/
def refuse (l : EventLog) (event : Event) : EventLog :=
  { l with
    stats.overwritten := saturating uint64Max l.stats.overwritten
    lost := l.lost ++ event.occurrences }

/-- The end of `append`. -/
def insert (l : EventLog) (event : Event) : EventLog :=
  if l.events.length = l.capacity then
    match l.events.findIdx? fun retained => !retained.retainedAudit with
    | some ordinary => (l.evict ordinary).push event
    | none => if !event.retainedAudit then l.refuse event else (l.evict 0).push event
  else l.push event

/-- `EventLog::append`. -/
def append (l : EventLog) (given : Event) : EventLog :=
  let event := l.admitted given
  let l := l.receive given
  match l.events.getLast? with
  | some previous => if event.repeats previous then l.merge previous event else l.insert event
  | none => l.insert event

/-- `EventLog::clear`. -/
def clear (l : EventLog) : EventLog := schedulePersist { l with events := [] }

/-- `record_persistence_failure_locked`, without its clock. -/
def recordPersistenceFailure (l : EventLog) : EventLog :=
  { l with
    persistenceReady := false
    persistencePending := true
    stats.persistenceFailures := saturating uint64Max l.stats.persistenceFailures }

/-- The branch of `persist_worker` for a copy that was written. -/
def recordPersisted (l : EventLog) (revision : ℕ) : EventLog :=
  { l with
    persistedRevision := max l.persistedRevision revision
    persistenceReady := true }

/-- `EventLog::EventLog`: whether there is a path, whether its directory is there, whether the empty
log was written, and whether the worker could be started. -/
def construct (capacity : ℕ) (hasPath usable initialized started : Bool) : EventLog :=
  let l : EventLog := { capacity, hasPath }
  if hasPath && usable then
    let l := { l with persistenceReady := true }
    let l := if initialized then l else l.recordPersistenceFailure
    if started then { l with hasWorker := true } else l.recordPersistenceFailure
  else l

end EventLog

/-! ## 3. The log, its worker and its callers -/

/-- A copy of the events, the revision it was taken at, and the number of operations before it. -/
structure Snapshot where
  events : List Event
  revision : ℕ
  takenAt : ℕ
deriving DecidableEq

/-- Where the worker stands: it waits, it holds a copy, or it has tried to write one. -/
inductive Worker
  | waiting
  | holding (copy : Snapshot)
  | wrote (copy : Snapshot) (succeeded : Bool)
deriving DecidableEq

/-- A call of `flush` that waits: its `target_revision`, and the number of operations up to the last
one before it that changed the events. -/
structure FlushCall where
  target : ℕ
  since : ℕ
deriving DecidableEq

/-- The log, the place of its worker and the calls of `flush` that wait.  `past` holds what the
events were after each operation, `lastChange` is the number of operations up to the last one that
changed them, and `written` holds the copies that were written. -/
structure System where
  log : EventLog
  worker : Worker := .waiting
  flushes : List FlushCall := []
  past : List (List Event) := [[]]
  lastChange : ℕ := 0
  cleared : Bool := false
  written : List Snapshot := []

/-- What a caller fills in of an event. -/
structure Message where
  severity : Severity := .info
  code : Bytes := []
  message : List UInt16 := []
  source : List UInt16 := []
  retainedAudit : Bool := false
deriving DecidableEq

def Message.event (m : Message) : Event :=
  { severity := m.severity, code := m.code, message := m.message, source := m.source,
    retainedAudit := m.retainedAudit }

inductive Action
  | append (message : Message)
  | clear
  | take
  | copyFails
  | write (succeeded : Bool)
  | record
  | flush
deriving DecidableEq

namespace System

/-- The system after an operation on its log. -/
def operated (s : System) (log : EventLog) : System :=
  { s with
    log
    past := s.past ++ [log.events]
    lastChange := if log.events = s.log.events then s.lastChange else s.past.length }

/-- One step.  A step of the worker that it is not at leaves the system as it is. -/
def step (s : System) : Action → System
  | .append message => s.operated (s.log.append message.event)
  | .clear => { s.operated s.log.clear with cleared := true }
  | .take =>
    if s.worker = .waiting ∧ s.log.hasWorker ∧ s.log.persistencePending then
      { s with
        log := { s.log with persistencePending := false }
        worker := .holding ⟨s.log.events, s.log.persistenceRevision, s.past.length - 1⟩ }
    else s
  | .copyFails =>
    if s.worker = .waiting ∧ s.log.hasWorker ∧ s.log.persistencePending then
      { s with log := s.log.recordPersistenceFailure }
    else s
  | .write succeeded =>
    match s.worker with
    | .holding copy =>
      { s with
        worker := .wrote copy succeeded
        written := if succeeded then s.written ++ [copy] else s.written }
    | _ => s
  | .record =>
    match s.worker with
    | .wrote copy succeeded =>
      { s with
        log := if succeeded then s.log.recordPersisted copy.revision
          else s.log.recordPersistenceFailure
        worker := .waiting }
    | _ => s
  | .flush =>
    { s with flushes := s.flushes ++ [⟨s.log.persistenceRevision, s.lastChange⟩] }

/-- A system that starts; a log that was written is empty. -/
def start (capacity : ℕ) (hasPath usable initialized started : Bool) : System where
  log := .construct capacity hasPath usable initialized started
  written := if hasPath && usable && initialized then [⟨[], 0, 0⟩] else []

/-- `flush` returns true for a call that looks now. -/
def flushReturns (s : System) (call : FlushCall) : Bool :=
  !s.log.hasPath || (s.log.hasWorker && s.log.persistenceReady &&
    decide (call.target ≤ s.log.persistedRevision))

end System

end Kf2Optimizer.Diagnostics
