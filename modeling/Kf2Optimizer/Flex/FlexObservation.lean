/-
# The reader of the FleX relay

`ObservationReader::read` looks at one field of the memory after the other while the relay goes on, and
refuses what does not fit together.
-/
import Kf2Optimizer.Flex.Forwarder

namespace Kf2Optimizer.Flex.Observation

open Threads

/-! ## 1. Looking at fields -/

def look (field : Field) : Relay ℤ := .atomic (.reading field) (fun s => s.memory field) id

/-- Fields are looked at one after the other. -/
def lookAll : List Field → (Field → ℤ) → Relay (Field → ℤ)
  | [], values => pure values
  | field :: fields, values => do
    let value ← look field
    lookAll fields (Function.update values field value)

/-- A minimum, which is zero where there is none. -/
def lookMinimum (field : Field) : Relay ℤ := do
  let minimum ← look field
  if minimum = longMax then pure 0 else look field

/-- The two counters of updates. -/
def lookUpdates : Relay (ℤ × ℤ) := do
  let updates ← .atomic (.reading .updateCalls) (fun s => s.memory .updateCalls) fun s =>
    { s with history := { s.history with
        counted := decide (s.memory .updateCalls ≠ 0)
        window := some (s.memory .updateCalls, s.underway) } }
  let successful ← .atomic (.reading .successfulUpdates) (fun s => s.memory .successfulUpdates) fun s =>
    { s with history := { s.history with window := none } }
  return (updates, successful)

def aggregateFields : List Field :=
  [.liveSolvers, .maxLiveSolvers, .aggregateParticleCapacity, .aggregateActiveParticles,
    .aggregateFreeParticles, .aggregateCapacityValid, .aggregateCountsValid, .oldestActiveCountTick]

/-- The fields that are published together, between two looks at the sequence that agree.  When none
do, there is nothing. -/
def lookAggregate : ℕ → (Field → ℤ) → Relay (Option (Field → ℤ))
  | 0, _ => pure none
  | attempts + 1, values => do
    let before ← .atomic (.reading .aggregateSnapshotSequence)
      (fun s => s.memory .aggregateSnapshotSequence) fun s =>
        { s with history := { s.history with attempt := s.publications } }
    if before % 2 ≠ 0 then lookAggregate attempts values
    else do
      let found ← lookAll aggregateFields values
      let after ← .atomic .comparing (fun s => s.memory .aggregateSnapshotSequence) id
      if before ≠ after ∨ after % 2 ≠ 0 then lookAggregate attempts values else pure (some found)

/-- A minimum and the maximum behind it. -/
def lookRange (minimum maximum : Field) (values : Field → ℤ) : Relay (Field → ℤ) := do
  let least ← lookMinimum minimum
  let greatest ← look maximum
  return Function.update (Function.update values minimum least) maximum greatest

/-! ## 2. A reading -/

/-- A `float` from its bits as a `LONG`. -/
def floatOfLong (bits : ℤ) : Float32 := Float32.ofBits (UInt32.ofNat (bits % 2 ^ 32).toNat)

/-- A time step of up to a second. -/
def validDeltaTime (deltaTime : Float32) : Bool :=
  deltaTime.isFinite && !(decide (deltaTime ≤ 0)) && !(decide (1 < deltaTime))

/-- Whether a tick is at most three seconds old. -/
def recent (now tick : ℤ) : Bool := decide (tick ≠ 0 ∧ tick ≤ now ∧ now - tick ≤ 3000)

/-- What is refused once an update has been counted. -/
abbrev Refused (value : Field → ℤ) (capacityValid countsValid : Bool) : Prop :=
  value .updateCalls < value .successfulUpdates ∨
  value .lastSubsteps < 0 ∨ 64 < value .lastSubsteps ∨
  value .minSubsteps < 0 ∨ 64 < value .minSubsteps ∨
  value .maxSubsteps < value .minSubsteps ∨ 64 < value .maxSubsteps ∨
  value .lastForwardedSubsteps < 0 ∨ 5 < value .lastForwardedSubsteps ∨
  value .minForwardedSubsteps < 0 ∨ 5 < value .minForwardedSubsteps ∨
  value .maxForwardedSubsteps < value .minForwardedSubsteps ∨ 5 < value .maxForwardedSubsteps ∨
  value .lastActiveParticles < 0 ∨ value .minActiveParticles < 0 ∨
  value .maxActiveParticles < value .minActiveParticles ∨
  value .maxActiveParticles < value .lastActiveParticles ∨
  value .liveSolvers < 0 ∨ 64 < value .liveSolvers ∨
  value .maxLiveSolvers < value .liveSolvers ∨ 64 < value .maxLiveSolvers ∨
  value .aggregateParticleCapacity < 0 ∨
  value .lastUploadElements < 0 ∨ value .lastDownloadElements < 0 ∨
  value .aggregateActiveParticles < 0 ∨ value .aggregateFreeParticles < 0 ∨
  (capacityValid = true ∧ value .liveSolvers = 0) ∨
  (capacityValid = true ∧ countsValid = true ∧
    value .aggregateActiveParticles + value .aggregateFreeParticles ≠ value .aggregateParticleCapacity) ∨
  (value .diagnosticsEnabled ≠ 0 ∧ validDeltaTime (floatOfLong (value .lastDeltaTimeBits)) = false)

/-- What is made of the values. -/
def snapshotOf (now : ℤ) (value : Field → ℤ) (capacityValid aggregateSnapshotValid : Bool) :
    ObservationSnapshot :=
  let lastDeltaTime := floatOfLong (value .lastDeltaTimeBits)
  let fresh := recent now (value .lastUpdateTick)
  let diagnosticsEnabled := decide (value .diagnosticsEnabled ≠ 0)
  let quarantined := decide (value .solverTrackingQuarantined ≠ 0)
  { value
    lastDeltaTime
    fresh
    passThroughHealthy :=
      (decide (value .updateCalls = value .successfulUpdates) ||
        (fresh && decide (value .updateCalls - value .successfulUpdates = 1))) &&
      decide (value .missingOriginalCalls = 0) && decide (value .invalidArgumentCalls = 0) &&
      (!diagnosticsEnabled || (decide (value .trackingDropCalls = 0) && !quarantined))
    activeParticlesFresh :=
      decide (value .activeParticlesValid ≠ 0) && decide (0 < value .activeCountCalls) &&
      recent now (value .lastActiveCountTick)
    particleCapacityAvailable := capacityValid
    aggregateParticlesFresh := aggregateSnapshotValid && recent now (value .oldestActiveCountTick)
    solverTrackingQuarantined := quarantined
    diagnosticsEnabled
    solverUpdatesPerSecond := if 0 < lastDeltaTime then 1.0 / lastDeltaTime.toFloat else 0.0 }

/-- The values of a reading, and whether the aggregate's capacity and counts are valid. -/
structure Observed where
  value : Field → ℤ
  capacityValid : Bool
  countsValid : Bool

def observeFields : Relay Observed := do
  let (updates, successful) ← lookUpdates
  let values := Function.update (Function.update (fun _ => 0) .updateCalls updates) .successfulUpdates successful
  let values ← lookAll [.destroyCalls, .lastUpdateTick, .activeCountCalls, .lastActiveCountTick,
    .createCalls, .lastCreateTick, .lastSubsteps] values
  let values ← lookRange .minSubsteps .maxSubsteps values
  let values ← lookAll [.lastForwardedSubsteps] values
  let values ← lookRange .minForwardedSubsteps .maxForwardedSubsteps values
  let values ← lookAll [.lastActiveParticles] values
  let values ← lookRange .minActiveParticles .maxActiveParticles values
  let aggregate ← lookAggregate 4 values
  let valid := fun field => match aggregate with
    | some found => decide (found field ≠ 0)
    | none => false
  let values ← lookAll [.missingOriginalCalls, .trackingDropCalls, .invalidArgumentCalls, .fenceSetCalls,
    .fenceWaitCalls, .lastFenceSetTick, .lastFenceWaitTick, .particleUploadCalls, .particleDownloadCalls,
    .phaseUploadCalls, .phaseDownloadCalls, .velocityUploadCalls, .velocityDownloadCalls, .uploadElements,
    .downloadElements, .boundsCalls, .paramsCalls, .lastUploadElements, .lastDownloadElements,
    .lastUploadMemory, .lastDownloadMemory, .solverTrackingQuarantined] (aggregate.getD values)
  let values ← lookAll [.diagnosticsEnabled, .lastDeltaTimeBits] values
  let values ← lookAll [.activeParticlesValid] values
  return ⟨values, valid .aggregateCapacityValid, valid .aggregateCountsValid⟩

/-- `ObservationReader::read`, of a process that is current and whose memory is mapped. -/
def read (process : GameProcessIdentity) (now : ℤ) : Relay (Option ObservationSnapshot) := do
  if (← headerMatches process) = true then do
    let observed ← observeFields
    if 0 < observed.value .updateCalls ∧
        Refused observed.value observed.capacityValid observed.countsValid then return none
    else do
      let magic ← look .magic
      if magic = observationMagic then
        return some (snapshotOf now observed.value observed.capacityValid observed.countsValid)
      else return none
  else return none

/-- A reading, and what has become of it. -/
def readOnce (process : GameProcessIdentity) (now : ℤ) : Relay Unit := do
  let result ← read process now
  .atomic .plain (fun _ => ()) fun s =>
    { s with history := { s.history with readings := result :: s.history.readings } }

end Kf2Optimizer.Flex.Observation
