/-
# The FleX relay

`forwarder_stub.cpp` stands between KF2 and the original FleX runtime.  Every call of KF2 is passed on,
and counted in a memory that the optimizer reads (`ObservationShared`).  The calls come from any
number of threads, and touch the memory one interlocked operation at a time; a lock guards the slots
of the live solvers.

A loop that retries an exchange makes at most `patience` attempts here, and then never goes on.
Nothing is said about it from then on, and every run of the code is a run for some patience.
-/
import Kf2Optimizer.Lib.Threads
import Mathlib.Algebra.Group.Int.Defs
import Mathlib.Data.Finset.Card
import Mathlib.Data.List.FinRange

namespace Kf2Optimizer.Flex.Observation

open Threads

/-! ## 1. The memory -/

/-- The fields of `ObservationShared`. -/
inductive Field
  | magic
  | version
  | size
  | pid
  | processStartLow
  | processStartHigh
  | state
  | lastSubsteps
  | minSubsteps
  | maxSubsteps
  | lastDeltaTimeBits
  | lastForwardedSubsteps
  | minForwardedSubsteps
  | maxForwardedSubsteps
  | updateCalls
  | destroyCalls
  | successfulUpdates
  | lastUpdateTick
  | lastActiveParticles
  | minActiveParticles
  | maxActiveParticles
  | activeParticlesValid
  | activeCountCalls
  | lastActiveCountTick
  | createCalls
  | lastCreateTick
  | liveSolvers
  | maxLiveSolvers
  | aggregateParticleCapacity
  | aggregateActiveParticles
  | aggregateFreeParticles
  | aggregateCapacityValid
  | aggregateCountsValid
  | aggregateSnapshotSequence
  | oldestActiveCountTick
  | missingOriginalCalls
  | trackingDropCalls
  | invalidArgumentCalls
  | fenceSetCalls
  | fenceWaitCalls
  | lastFenceSetTick
  | lastFenceWaitTick
  | particleUploadCalls
  | particleDownloadCalls
  | phaseUploadCalls
  | phaseDownloadCalls
  | velocityUploadCalls
  | velocityDownloadCalls
  | uploadElements
  | downloadElements
  | boundsCalls
  | paramsCalls
  | lastUploadElements
  | lastDownloadElements
  | lastUploadMemory
  | lastDownloadMemory
  | solverTrackingQuarantined
  | diagnosticsEnabled
  deriving DecidableEq, Repr

def longMax : ℤ := 2 ^ 31 - 1
def longLongMax : ℤ := 2 ^ 63 - 1
def ulongLongMax : ℤ := 2 ^ 64 - 1

/-- A number as a `LONG`. -/
def wrap32 (n : ℤ) : ℤ := (n + 2 ^ 31) % 2 ^ 32 - 2 ^ 31

def observationMagic : ℤ := 0x314F464B
def observationVersion : ℤ := 11
def observationSize : ℤ := 336

structure SolverSlot where
  /-- The address of a solver, or zero. -/
  solver : ℕ := 0
  capacity : ℤ := 0
  activeParticles : ℤ := 0
  activeCountTick : ℤ := 0
  activeParticlesValid : Bool := false
  deriving DecidableEq, Repr

/-- What a reader makes of the memory. -/
structure ObservationSnapshot where
  /-- The fields as they were read, with a minimum of zero where there is none. -/
  value : Field → ℤ
  lastDeltaTime : Float32
  fresh : Bool
  passThroughHealthy : Bool
  activeParticlesFresh : Bool
  particleCapacityAvailable : Bool
  aggregateParticlesFresh : Bool
  solverTrackingQuarantined : Bool
  diagnosticsEnabled : Bool
  solverUpdatesPerSecond : Float

/-- What a reader has done so far, for what is said about it. -/
structure ReaderHistory where
  /-- An update had been counted when the reader looked. -/
  counted : Bool := false
  /-- Between the two counters of updates: what the first was, and the threads whose update was then
  under way and has not returned since. -/
  window : Option (ℤ × Finset ℕ) := none
  /-- The increments of the sequence when the reader looked at it first. -/
  attempt : ℕ := 0
  /-- What it made of the memory each time, the latest first. -/
  readings : List (Option ObservationSnapshot) := []

/-- The memory, what the lock guards, and what has happened. -/
structure Process where
  memory : Field → ℤ
  slots : List SolverSlot
  /-- The thread that has the lock. -/
  holder : Option ℕ := none
  /-- What the slots have been. -/
  moments : List (List SolverSlot)
  /-- The increments of the sequence so far. -/
  publications : ℕ := 0
  /-- The threads whose update has been counted and has not returned. -/
  underway : Finset ℕ := ∅
  history : ReaderHistory := {}

namespace Process

def set (s : Process) (field : Field) (value : ℤ) : Process :=
  { s with memory := Function.update s.memory field value }

end Process

/-- A process, by its number and the moment it was started. -/
structure GameProcessIdentity where
  pid : ℤ
  processStartLow : ℤ
  processStartHigh : ℤ
  deriving DecidableEq

/-- `initialize_observation`. -/
def initialMemory (process : GameProcessIdentity) : Field → ℤ
  | .magic => observationMagic
  | .version => observationVersion
  | .size => observationSize
  | .pid => process.pid
  | .processStartLow => process.processStartLow
  | .processStartHigh => process.processStartHigh
  | .state => 1
  | .minSubsteps => longMax
  | .minForwardedSubsteps => longMax
  | .minActiveParticles => longMax
  | _ => 0

/-- The process when its memory has been published. -/
def initialProcess (process : GameProcessIdentity) : Process :=
  { memory := initialMemory process
    slots := List.replicate 64 {}
    moments := [List.replicate 64 {}] }

/-- What kind of step one is. -/
inductive Label
  | plain
  /-- The thread begins to count its update as returned. -/
  | returning (thread : ℕ)
  /-- The reader looks at a field. -/
  | reading (field : Field)
  /-- The reader looks at the sequence again. -/
  | comparing
  deriving DecidableEq

abbrev Relay (α : Type) := Code Label Process α

/-! ## 2. Interlocked operations -/

def load (field : Field) : Relay ℤ := .atomic .plain (fun s => s.memory field) id

/-- `InterlockedExchange`. -/
def exchange (field : Field) (value : ℤ) : Relay Unit :=
  .atomic .plain (fun _ => ()) fun s => s.set field value

/-- `InterlockedIncrement`, of the sequence. -/
def incrementSequence : Relay Unit :=
  .atomic .plain (fun _ => ()) fun s =>
    { s.set .aggregateSnapshotSequence (wrap32 (s.memory .aggregateSnapshotSequence + 1)) with
      publications := s.publications + 1 }

/-- `InterlockedCompareExchange`.  When it succeeds, that is noted. -/
def compareExchange (note : Process → Process) (field : Field) (value expected : ℤ) : Relay ℤ :=
  .atomic .plain (fun s => s.memory field) fun s =>
    if s.memory field = expected then note (s.set field value) else s

/-- A loop that goes on with what an exchange has seen. -/
def saturate (note : Process → Process) (field : Field) (next : ℤ → ℤ) : ℕ → ℤ → Relay Unit
  | 0, _ => .stuck .plain ()
  | patience + 1, current =>
    if current = longLongMax then .atomic .plain (fun _ => ()) note
    else do
      let observed ← compareExchange note field (next current) current
      if observed = current then pure () else saturate note field next patience observed

/-- `saturated_increment`. -/
def saturatedIncrement (patience : ℕ) (field : Field) : Relay Unit := do
  let current ← load field
  saturate id field (· + 1) patience current

/-- `saturated_add`. -/
def saturatedAdd (patience : ℕ) (field : Field) (amount : ℤ) : Relay Unit :=
  if amount ≤ 0 then pure ()
  else do
    let current ← load field
    saturate id field
      (fun current => if longLongMax - current < amount then longLongMax else current + amount) patience current

/-- A loop that sets a field to a value as long as it is on the wrong side of it, and looks at it
again when an exchange fails. -/
def settle (field : Field) (beyond : ℤ → Bool) (value : ℤ) : ℕ → ℤ → Relay Unit
  | 0, _ => .stuck .plain ()
  | patience + 1, current =>
    if beyond current = true then do
      let observed ← compareExchange id field value current
      if observed = current then pure ()
      else do
        let current ← load field
        settle field beyond value patience current
    else pure ()

def lower (patience : ℕ) (field : Field) (value : ℤ) : Relay Unit := do
  let current ← load field
  settle field (fun minimum => decide (value < minimum)) value patience current

def raise (patience : ℕ) (field : Field) (value : ℤ) : Relay Unit := do
  let current ← load field
  settle field (fun maximum => decide (maximum < value)) value patience current

/-- An update is under way. -/
def noteUpdate (thread : ℕ) (s : Process) : Process := { s with underway := insert thread s.underway }

/-- The update is counted. -/
def countUpdate (thread patience : ℕ) : Relay Unit := do
  let current ← load .updateCalls
  saturate (noteUpdate thread) .updateCalls (· + 1) patience current

/-- The update has returned. -/
def noteReturn (thread : ℕ) (s : Process) : Process :=
  { s with
    underway := s.underway.erase thread
    history := { s.history with window := s.history.window.map fun window => (window.1, window.2.erase thread) } }

def countReturn (thread patience : ℕ) : Relay Unit := do
  let current ← .atomic (.returning thread) (fun s => s.memory .successfulUpdates) id
  saturate (noteReturn thread) .successfulUpdates (· + 1) patience current

def detailedDiagnostics : Relay Bool := do
  let enabled ← load .diagnosticsEnabled
  return enabled ≠ 0

/-! ## 3. Solvers -/

/-- `AcquireSRWLockExclusive`. -/
def acquire (thread : ℕ) : Relay Unit :=
  .step .plain (fun s => s.holder.isNone) (fun s => { s with holder := some thread }) fun _ => .ret ()

/-- `ReleaseSRWLockExclusive`. -/
def release : Relay Unit := .atomic .plain (fun _ => ()) fun s => { s with holder := none }

/-- What is summed up over the slots. -/
structure Sums where
  live : ℤ := 0
  capacity : ℤ := 0
  active : ℤ := 0
  capacityValid : Bool := true
  countsValid : Bool := true
  oldestActiveTick : ℤ := ulongLongMax

def Sums.addCapacity (sums : Sums) (slot : SolverSlot) : Sums :=
  if slot.capacity ≤ 0 ∨ longMax - slot.capacity < sums.capacity then { sums with capacityValid := false }
  else { sums with capacity := sums.capacity + slot.capacity }

def Sums.addActive (sums : Sums) (slot : SolverSlot) : Sums :=
  if slot.activeParticlesValid = false ∨ slot.activeParticles < 0 ∨ slot.capacity < slot.activeParticles ∨
      longMax - slot.activeParticles < sums.active then { sums with countsValid := false }
  else { sums with
    active := sums.active + slot.activeParticles
    oldestActiveTick := min slot.activeCountTick sums.oldestActiveTick }

/-- One slot more. -/
def Sums.add (sums : Sums) (slot : SolverSlot) : Sums :=
  if slot.solver = 0 then sums
  else (({ sums with live := sums.live + 1 } : Sums).addCapacity slot).addActive slot

/-- The sums of the slots, as far as they are valid. -/
def sumsOf (slots : List SolverSlot) : Sums :=
  let sums := slots.foldl Sums.add {}
  let sums := if sums.live = 0 then { sums with capacityValid := false, countsValid := false } else sums
  { sums with countsValid := sums.countsValid && sums.capacityValid }

/-- What is published of the sums in a field. -/
def Sums.published (sums : Sums) : Field → ℤ
  | .liveSolvers => sums.live
  | .aggregateParticleCapacity => if sums.capacityValid = true then sums.capacity else 0
  | .aggregateActiveParticles => if sums.countsValid = true then sums.active else 0
  | .aggregateFreeParticles => if sums.countsValid = true then sums.capacity - sums.active else 0
  | .aggregateCapacityValid => if sums.capacityValid = true then 1 else 0
  | .aggregateCountsValid => if sums.countsValid = true then 1 else 0
  | .oldestActiveCountTick => if sums.countsValid = true then sums.oldestActiveTick else 0
  | _ => 0

def publishFields (sums : Sums) : List Field → Relay Unit
  | [] => pure ()
  | field :: fields => do
    exchange field (sums.published field)
    publishFields sums fields

/-- `publish_solver_snapshot`, of a thread that has the lock. -/
def publishSolverSnapshot (patience : ℕ) : Relay Unit := do
  incrementSequence
  let sums ← .atomic .plain (fun s => sumsOf s.slots) id
  publishFields sums [.liveSolvers]
  raise patience .maxLiveSolvers sums.live
  publishFields sums [.aggregateParticleCapacity, .aggregateActiveParticles, .aggregateFreeParticles,
    .aggregateCapacityValid, .aggregateCountsValid, .oldestActiveCountTick]
  incrementSequence

/-- The slots are changed by a thread that has the lock. -/
def changeSlots (change : List SolverSlot → List SolverSlot) : Relay Unit :=
  .atomic .plain (fun _ => ()) fun s =>
    { s with slots := change s.slots, moments := change s.slots :: s.moments }

/-- `publish_quarantine`, and the call that was dropped. -/
def dropCall (patience : ℕ) : Relay Unit := do
  exchange .solverTrackingQuarantined 1
  saturatedIncrement patience .trackingDropCalls

/-- The slot of a solver: the one that has it, or else the first free one. -/
def destination (slots : List SolverSlot) (solver : ℕ) : Option ℕ :=
  (slots.findIdx? fun slot => slot.solver = solver).or (slots.findIdx? fun slot => slot.solver = 0)

/-- The slots are changed, or the call is dropped. -/
def changeOrDrop (patience : ℕ) : Option (List SolverSlot → List SolverSlot) → Relay Unit
  | some change => changeSlots change
  | none => dropCall patience

/-- `register_solver`. -/
def registerSolver (thread patience solver : ℕ) (capacity : ℤ) : Relay Unit :=
  if solver = 0 then pure ()
  else do
    acquire thread
    let slot ← .atomic .plain (fun s => destination s.slots solver) id
    changeOrDrop patience (slot.map fun slot slots => slots.set slot { solver, capacity })
    publishSolverSnapshot patience
    release

/-- `retire_solver`. -/
def retireSolver (thread patience solver : ℕ) : Relay Unit :=
  if solver = 0 then pure ()
  else do
    acquire thread
    let found ← .atomic .plain (fun s => s.slots.any fun slot => slot.solver = solver) id
    changeOrDrop patience (if found = true then
      some fun slots => slots.map fun slot => if slot.solver = solver then {} else slot else none)
    publishSolverSnapshot patience
    release

/-- `record_active_count`. -/
def recordActiveCount (thread patience solver : ℕ) (count tick : ℤ) : Relay Unit :=
  if solver = 0 then pure ()
  else do
    acquire thread
    match ← .atomic .plain (fun s => s.slots.findIdx? fun slot => slot.solver = solver) id with
    | some slot =>
      changeSlots fun slots => slots.modify slot fun slot =>
        { slot with activeParticles := count, activeCountTick := tick, activeParticlesValid := true }
      publishSolverSnapshot patience
      release
    | none =>
      dropCall patience
      exchange .aggregateCountsValid 0
      release

/-! ## 4. Calls -/

def countMissing (patience : ℕ) (resolved : Bool) : Relay Unit :=
  if resolved = true then pure () else saturatedIncrement patience .missingOriginalCalls

def countInvalid (patience : ℕ) (invalid : Bool) : Relay Unit :=
  if invalid = true then saturatedIncrement patience .invalidArgumentCalls else pure ()

section

variable (thread patience : ℕ) (resolved : Bool) (tick : ℤ)

def flexGetVersion : Relay Unit := countMissing patience resolved

def flexDestroySolver (solver : ℕ) : Relay Unit := do
  countMissing patience resolved
  countInvalid patience (solver = 0)
  retireSolver thread patience solver
  saturatedIncrement patience .destroyCalls

def flexCreateSolver (maxParticles : ℤ) (solver : ℕ) : Relay Unit := do
  countMissing patience resolved
  countInvalid patience (maxParticles ≤ 0)
  if resolved = true then do
    saturatedIncrement patience .createCalls
    exchange .lastCreateTick tick
    registerSolver thread patience solver maxParticles

/-- What is kept of a count. -/
def noteActiveCount (count : ℤ) : Relay Unit := do
  exchange .lastActiveParticles count
  lower patience .minActiveParticles count
  raise patience .maxActiveParticles count
  exchange .activeParticlesValid 1
  saturatedIncrement patience .activeCountCalls
  exchange .lastActiveCountTick tick

def flexGetActiveCount (solver : ℕ) (native : ℤ) : Relay Unit := do
  countMissing patience resolved
  countInvalid patience (solver = 0)
  let count := if resolved = true then native else 0
  if resolved = true ∧ 0 ≤ count then do
    if (← detailedDiagnostics) = true then do
      noteActiveCount patience tick count
      recordActiveCount thread patience solver count tick

/-- A call that is only counted, while the diagnostics are on. -/
def countWhenDetailed (field : Field) : Relay Unit := do
  if resolved = true then do
    if (← detailedDiagnostics) = true then saturatedIncrement patience field

def flexGetBounds (solver lower upper : ℕ) : Relay Unit := do
  countMissing patience resolved
  countInvalid patience (solver = 0 ∨ lower = 0 ∨ upper = 0)
  countWhenDetailed patience resolved .boundsCalls

def flexSetParams (solver params : ℕ) : Relay Unit := do
  countMissing patience resolved
  countInvalid patience (solver = 0 ∨ params = 0)
  countWhenDetailed patience resolved .paramsCalls

/-- `record_transfer`. -/
def recordTransfer (upload : Bool) (calls : Field) (elements memory : ℤ) : Relay Unit := do
  saturatedIncrement patience calls
  if elements < 0 then pure ()
  else if upload = true then do
    saturatedAdd patience .uploadElements elements
    exchange .lastUploadElements elements
    exchange .lastUploadMemory memory
  else do
    saturatedAdd patience .downloadElements elements
    exchange .lastDownloadElements elements
    exchange .lastDownloadMemory memory

/-- `relay_buffer_transfer`. -/
def relayBufferTransfer (upload : Bool) (counter : Field) (solver buffer : ℕ) (elements memory : ℤ) :
    Relay Unit := do
  countMissing patience resolved
  countInvalid patience (solver = 0 ∨ (buffer = 0 ∧ 0 < elements) ∨ elements < 0)
  if resolved = true then do
    if (← detailedDiagnostics) = true then recordTransfer patience upload counter elements memory

def flexGetParticles := relayBufferTransfer patience resolved false .particleDownloadCalls
def flexGetPhases := relayBufferTransfer patience resolved false .phaseDownloadCalls
def flexGetVelocities := relayBufferTransfer patience resolved false .velocityDownloadCalls
def flexSetParticles := relayBufferTransfer patience resolved true .particleUploadCalls
def flexSetPhases := relayBufferTransfer patience resolved true .phaseUploadCalls
def flexSetVelocities := relayBufferTransfer patience resolved true .velocityUploadCalls

/-- A fence that is passed on, and counted while the diagnostics are on. -/
def relayFence (calls last : Field) : Relay Unit := do
  countMissing patience resolved
  if resolved = true then do
    if (← detailedDiagnostics) = true then do
      saturatedIncrement patience calls
      exchange last tick

def flexSetFence := relayFence patience resolved tick .fenceSetCalls .lastFenceSetTick
def flexWaitFence := relayFence patience resolved tick .fenceWaitCalls .lastFenceWaitTick

/-- The bits of a `float` as a `LONG`. -/
def longOfBits (bits : UInt32) : ℤ := wrap32 bits.toNat

/-- The substeps that are passed on. -/
def recordForwarded (diagnostics : Bool) (substeps : ℤ) : Relay Unit :=
  if diagnostics = true then do
    lower patience .minForwardedSubsteps substeps
    raise patience .maxForwardedSubsteps substeps
  else pure ()

/-- The time step and the substeps of the call. -/
def recordStep (diagnostics : Bool) (deltaTime : UInt32) (substeps : ℤ) : Relay Unit :=
  if diagnostics = true then do
    exchange .lastDeltaTimeBits (longOfBits deltaTime)
    lower patience .minSubsteps substeps
    raise patience .maxSubsteps substeps
  else pure ()

def flexUpdateSolver (solver : ℕ) (deltaTime : UInt32) (substeps : ℤ) : Relay Unit := do
  countMissing patience resolved
  countInvalid patience (solver = 0 ∨ substeps < 0 ∨ 64 < substeps)
  let forwardedSubsteps := substeps
  let diagnostics ← detailedDiagnostics
  recordForwarded patience diagnostics forwardedSubsteps
  countUpdate thread patience
  exchange .lastSubsteps substeps
  recordStep patience diagnostics deltaTime substeps
  exchange .lastUpdateTick tick
  if resolved = true then do
    -- the original has returned
    exchange .lastForwardedSubsteps forwardedSubsteps
    countReturn thread patience

end

/-- Whether the header of the memory is that of a process. -/
def headerMatches (process : GameProcessIdentity) : Relay Bool := do
  let high ← load .processStartHigh
  let low ← load .processStartLow
  let magic ← load .magic
  let version ← load .version
  let size ← load .size
  let pid ← load .pid
  return magic = observationMagic ∧ version = observationVersion ∧ size = observationSize ∧
    pid = process.pid ∧ low = process.processStartLow ∧ high = process.processStartHigh

/-- `write_diagnostics_control`, by the optimizer. -/
def writeDiagnosticsControl (process : GameProcessIdentity) (enabled : Bool) : Relay Unit := do
  if (← headerMatches process) = true then exchange .diagnosticsEnabled (if enabled = true then 1 else 0)

/-- A call, and what the original made of it. -/
inductive RelayCall
  | getVersion
  | destroySolver (solver : ℕ)
  | createSolver (maxParticles : ℤ) (solver : ℕ)
  | getActiveCount (solver : ℕ) (count : ℤ)
  | getBounds (solver lower upper : ℕ)
  | setParams (solver params : ℕ)
  | getParticles (solver buffer : ℕ) (elements memory : ℤ)
  | getPhases (solver buffer : ℕ) (elements memory : ℤ)
  | getVelocities (solver buffer : ℕ) (elements memory : ℤ)
  | setParticles (solver buffer : ℕ) (elements memory : ℤ)
  | setPhases (solver buffer : ℕ) (elements memory : ℤ)
  | setVelocities (solver buffer : ℕ) (elements memory : ℤ)
  | setFence
  | waitFence
  | updateSolver (solver : ℕ) (deltaTime : UInt32) (substeps : ℤ)
  | diagnostics (process : GameProcessIdentity) (enabled : Bool)

/-- What a thread does for a call. -/
def RelayCall.code (thread patience : ℕ) (resolved : Bool) (tick : ℤ) : RelayCall → Relay Unit
  | .getVersion => flexGetVersion patience resolved
  | .destroySolver solver => flexDestroySolver thread patience resolved solver
  | .createSolver maxParticles solver =>
    flexCreateSolver thread patience resolved tick maxParticles solver
  | .getActiveCount solver count => flexGetActiveCount thread patience resolved tick solver count
  | .getBounds solver lower upper => flexGetBounds patience resolved solver lower upper
  | .setParams solver params => flexSetParams patience resolved solver params
  | .getParticles solver buffer elements memory =>
    flexGetParticles patience resolved solver buffer elements memory
  | .getPhases solver buffer elements memory => flexGetPhases patience resolved solver buffer elements memory
  | .getVelocities solver buffer elements memory =>
    flexGetVelocities patience resolved solver buffer elements memory
  | .setParticles solver buffer elements memory =>
    flexSetParticles patience resolved solver buffer elements memory
  | .setPhases solver buffer elements memory => flexSetPhases patience resolved solver buffer elements memory
  | .setVelocities solver buffer elements memory =>
    flexSetVelocities patience resolved solver buffer elements memory
  | .setFence => flexSetFence patience resolved tick
  | .waitFence => flexWaitFence patience resolved tick
  | .updateSolver solver deltaTime substeps =>
    flexUpdateSolver thread patience resolved tick solver deltaTime substeps
  | .diagnostics process enabled => writeDiagnosticsControl process enabled

end Kf2Optimizer.Flex.Observation
