/-
# The offline telemetry module

`offline_telemetry_lab.cpp`.  For a protected session the pinned module is put into a directory of
the game that may have to be created.  A MARKER in the state directory says which directories were
created and binds the session to the game directory; it is written before the module, and deleted
last.  What is removed is recognised by its bytes alone.
-/
import Kf2Optimizer.Core.Result
import Kf2Optimizer.Security.Sha256

namespace Kf2Optimizer.Game.OfflineTelemetry

open Text Files Security

/-! ## 1. Entries of a directory -/

/-- What the calls look at.  Whatever else there is in a directory is one entry. -/
inductive TelemetryPath
  | published
  | brewed
  | target
  | inPublished
  | inBrewed
  | stateRoot
  | stateDirectory
  | marker
  | inState
  | asset
  deriving DecidableEq, Repr

inductive Entry
  | directory
  | file (bytes : Bytes)
  /-- A link, or a file that has other names. -/
  | linked
  deriving DecidableEq

abbrev LabTask := Task TelemetryPath Entry Error
abbrev LabDisk := Disk TelemetryPath Entry
abbrev LabWorld := World TelemetryPath Entry

/-- The hash that the build pins. -/
class PinnedModule where
  sha256 : Bytes
  valid : ValidHash sha256

def maximumModuleBytes : ℕ := 2 * 1024 * 1024
def minimumOptimizerModuleBytes : ℕ := 64 * 1024
def maximumMarkerBytes : ℕ := 1024
def deleteRetryCount : ℕ := 100

inductive Attributes
  | found
  | missing
  | unknown
  deriving DecidableEq

/-- `GetFileAttributesW`. -/
def fileAttributes (path : TelemetryPath) : LabTask Attributes := do
  match ← perform (.read path) with
  | .content _ => pure .found
  | .missing => pure .missing
  | _ => pure .unknown

/-- `directory_identity`, of a directory that no marker is bound to. -/
def checkDirectory (path : TelemetryPath) : LabTask Unit := do
  match ← perform (.read path) with
  | .content .directory => pure ()
  | .content _ => throw { code := .accessDenied, message := "Offline telemetry directory identity is unsafe" }
  | _ => throw { code := .accessDenied, message := "Offline telemetry directory identity cannot be opened" }

/-- A directory is created if it is missing, and checked. -/
def ensureDirectory (path : TelemetryPath) (uninspected uncreated : Error) : LabTask Bool := do
  let created ← (do
    match ← fileAttributes path with
    | .found => pure false
    | .unknown => throw uninspected
    | .missing =>
      match ← perform (.write path .directory) with
      | .done => pure true
      | _ => throw uncreated)
  checkDirectory path
  return created

/-- `read_regular_file`. -/
def readRegularFile (path : TelemetryPath) (maximum : ℕ) : LabTask Bytes := do
  match ← perform (.read path) with
  | .content (.file bytes) =>
    ensure (bytes.length ≤ maximum)
      { code := .accessDenied, message := "Offline telemetry file identity or size is unsafe" }
    match ← perform .ask with
    | .done => pure bytes
    | _ => throw { code := .staleData, message := "Offline telemetry file changed while it was read" }
  | .content .linked =>
    throw { code := .accessDenied, message := "Offline telemetry file identity or size is unsafe" }
  | _ => throw { code := .notFound, message := "Offline telemetry file was not found" }

/-- `atomic_replace_utf8`. -/
def replaceFile (path : TelemetryPath) (bytes : Bytes) : LabTask Unit := do
  match ← perform (.write path (.file bytes)) with
  | .done => pure ()
  | _ => throw { code := .ioFailure, message := "Atomic file replacement failed" }

/-- `RemoveDirectoryW`: whether the directory is gone.  One that holds something stays. -/
def removeDirectory (path : TelemetryPath) (inside : List TelemetryPath) : LabTask Bool := do
  match ← perform (.read path) with
  | .missing => pure true
  | .content .directory =>
    match ← perform (.list inside) with
    | .names [] =>
      match ← perform (.remove path) with
      | .done => pure true
      | _ => pure false
    | _ => pure false
  | _ => pure false

/-! ## 2. Roots -/

structure DirectoryIdentity where
  volume : UInt64
  file : UInt64
  deriving DecidableEq, Repr

/-- Paths of the configuration and the state, and the identity of the directory of the game. -/
structure LabRoots where
  absolute : Bool
  /-- The configuration root is a directory `Config` that has a parent. -/
  named : Bool
  identity : DirectoryIdentity

def rootIdentity (roots : LabRoots) : LabTask DirectoryIdentity := do
  match ← perform .ask with
  | .done => pure roots.identity
  | _ => throw { code := .accessDenied, message := "Offline telemetry directory identity cannot be opened" }

/-- `validate_roots`. -/
def validateRoots (roots : LabRoots) : LabTask Unit := do
  ensure (roots.absolute = true)
    { code := .invalidArgument, message := "Offline telemetry paths must be absolute" }
  ensure (roots.named = true)
    { code := .invalidArgument, message := "Offline telemetry configuration root is not a KF2 Config directory" }
  let _ ← rootIdentity roots
  let _ ← rootIdentity roots
  let uncreated : Error := { code := .ioFailure, message := "Offline telemetry state root cannot be created" }
  let _ ← ensureDirectory .stateRoot uncreated uncreated

/-- Whether the two directories were created. -/
structure Created where
  published : Bool
  brewed : Bool
  deriving DecidableEq, Repr

/-- `ensure_target_directories`. -/
def ensureTargetDirectories : LabTask Created := do
  let uninspected : Error := { code := .ioFailure, message := "Offline telemetry target directory cannot be inspected" }
  let uncreated : Error := { code := .ioFailure, message := "Offline telemetry target directory cannot be created" }
  let published ← ensureDirectory .published uninspected uncreated
  let brewed ← ensureDirectory .brewed uninspected uncreated
  return ⟨published, brewed⟩

/-- `ensure_state_directory`. -/
def ensureStateDirectory : LabTask Bool :=
  let uncreated : Error := { code := .ioFailure, message := "Offline telemetry state directory cannot be created" }
  ensureDirectory .stateDirectory uncreated uncreated

/-- A directory that was created is removed again. -/
def removeIfCreated (created : Bool) (path : TelemetryPath) (inside : List TelemetryPath) : LabTask Bool :=
  if created = true then removeDirectory path inside else pure true

/-- `remove_created_empty_directories`. -/
def removeCreatedEmptyDirectories (created : Created) : LabTask Bool := do
  let brewed ← removeIfCreated created.brewed .brewed [.target, .inBrewed]
  let published ← removeIfCreated created.published .published [.brewed, .inPublished]
  return brewed && published

/-! ## 3. Markers -/

inductive MarkerState
  | installing
  | installed
  deriving DecidableEq, Repr

def MarkerState.text : MarkerState → Bytes
  | .installing => ascii "installing"
  | .installed => ascii "installed"

/-- What becomes of a state that is read. -/
def MarkerState.ofText (text : Bytes) : Option MarkerState :=
  if text = MarkerState.installing.text then some .installing
  else if text = MarkerState.installed.text then some .installed
  else none

structure Marker where
  state : MarkerState
  sha256 : Bytes
  root : DirectoryIdentity
  created : Created
  deriving DecidableEq

def flag (value : Bool) : Bytes := if value = true then ascii "1" else ascii "0"

/-- The lines of a marker, by name and value. -/
def markerFields (marker : Marker) : List (Bytes × Bytes) :=
  [(ascii "schema", ascii "2"),
   (ascii "state", marker.state.text),
   (ascii "sha256", marker.sha256),
   (ascii "root_volume", decimal marker.root.volume.toNat),
   (ascii "root_file", decimal marker.root.file.toNat),
   (ascii "created_published", flag marker.created.published),
   (ascii "created_brewedpc", flag marker.created.brewed)]

/-- `marker_bytes`. -/
def markerBytes (marker : Marker) : Bytes := keyed (markerFields marker)

/-- What has been read of a marker. -/
structure MarkerFields where
  schema : Bool := false
  state : Option MarkerState := none
  sha256 : Option Bytes := none
  volume : Option UInt64 := none
  file : Option UInt64 := none
  published : Option Bool := none
  brewed : Option Bool := none

def unknownField : Error :=
  { code := .invalidArgument, message := "Offline telemetry marker contains an unknown field" }

def invalidFlag : Error :=
  { code := .invalidArgument, message := "Offline telemetry marker flag is invalid" }

/-- `parse_integer`. -/
def parseInteger (text : Bytes) : Option UInt64 := (parseSize text).map UInt64.ofNat

/-- `0` or `1`. -/
def parseFlag (text : Bytes) : Result Bool :=
  if text = ascii "1" then .ok true else if text = ascii "0" then .ok false else .error invalidFlag

/-- The rest of a line behind a name, if the line begins with it and no valid one came before. -/
def fieldAfter {α : Type} (name : Bytes) (seen : Option α) (line : Bytes) : Option Bytes :=
  if seen.isNone = true then after name line else none

/-- One line of a marker. -/
def parseLine (fields : MarkerFields) (line : Bytes) : Result MarkerFields :=
  if line = ascii "schema=2" ∧ fields.schema = false then .ok { fields with schema := true }
  else match fieldAfter (ascii "state=") fields.state line with
  | some text => .ok { fields with state := MarkerState.ofText text }
  | none => match fieldAfter (ascii "sha256=") fields.sha256 line with
  | some text => .ok { fields with sha256 := if ValidHash text then some text else none }
  | none => match fieldAfter (ascii "root_volume=") fields.volume line with
  | some text => .ok { fields with volume := parseInteger text }
  | none => match fieldAfter (ascii "root_file=") fields.file line with
  | some text => .ok { fields with file := parseInteger text }
  | none => match fieldAfter (ascii "created_published=") fields.published line with
  | some text => (parseFlag text).map fun value => { fields with published := some value }
  | none => match fieldAfter (ascii "created_brewedpc=") fields.brewed line with
  | some text => (parseFlag text).map fun value => { fields with brewed := some value }
  | none => if line = [] then .ok fields else .error unknownField

def incompleteMarker : Error :=
  { code := .invalidArgument, message := "Offline telemetry marker is incomplete or invalid" }

/-- The marker, if every field was read. -/
def MarkerFields.marker (fields : MarkerFields) : Result Marker :=
  match fields.schema, fields.state, fields.sha256, fields.volume, fields.file, fields.published,
    fields.brewed with
  | true, some state, some sha256, some volume, some file, some published, some brewed =>
    .ok ⟨state, sha256, ⟨volume, file⟩, ⟨published, brewed⟩⟩
  | _, _, _, _, _, _, _ => .error incompleteMarker

/-- What `parse_marker` makes of the bytes of a marker. -/
def decodeMarker (bytes : Bytes) : Result Marker := do
  let fields ← (splitOn lf bytes).foldlM parseLine {}
  fields.marker

/-- `parse_marker`. -/
def parseMarker : LabTask Marker := do
  let bytes ← readRegularFile .marker maximumMarkerBytes
  liftExcept (decodeMarker bytes)

/-- `validate_binding`. -/
def validateBinding (roots : LabRoots) (marker : Marker) : LabTask Unit := do
  let identity ← rootIdentity roots
  ensure (identity = marker.root)
    { code := .accessDenied, message := "Offline telemetry marker belongs to a different KF2 profile" }

/-! ## 4. Removing a module -/

inductive ModuleRemovalPolicy
  | pinnedOrLegacy
  | exactHash
  | exactHashAndSignature
  deriving DecidableEq

def ownedClasses : List Bytes :=
  [ascii "KF2OptimizerTelemetryProbe", ascii "KF2OptimizerTelemetryMutator",
    ascii "KF2OptimizerTelemetryInteraction", ascii "KF2OptimizerAdaptiveControlListener",
    ascii "KF2OptimizerAdaptiveGraphics"]

/-- `optimizer_module_signature`. -/
def optimizerModuleSignature (bytes : Bytes) : Bool :=
  decide (minimumOptimizerModuleBytes ≤ bytes.length) && decide (bytes.take 4 = [0xC1, 0x83, 0x2A, 0x9E]) &&
    ownedClasses.all fun name => contains name bytes

/-- Whether a file with this digest and these bytes may be removed. -/
def ModuleRemovalPolicy.owned (expectedHash hash bytes : Bytes) : ModuleRemovalPolicy → Bool
  | .pinnedOrLegacy => decide (hash = expectedHash) || optimizerModuleSignature bytes
  | .exactHash => decide (hash = expectedHash)
  | .exactHashAndSignature => decide (hash = expectedHash) && optimizerModuleSignature bytes

def targetChanged : Error :=
  { code := .staleData, message := "Offline telemetry target changed; the foreign file was preserved" }

variable [Bcrypt]

/-- `sha256_hex`. -/
def moduleHash (bytes : Bytes) : LabTask Bytes := do
  match ← perform .ask with
  | .done => pure (digestHex bytes)
  | _ => throw { code := .platformFailure, message := "SHA-256 operation failed" }

/-- `sha256_file_hex`. -/
def fileHash (path : TelemetryPath) (maximum : ℕ) : LabTask Bytes := do
  match ← perform (.read path) with
  | .content (.file bytes) =>
    ensure (bytes.length ≤ maximum)
      { code := .accessDenied, message := "SHA-256 input exceeds its size limit" }
    moduleHash bytes
  | .content .linked =>
    throw { code := .accessDenied, message := "SHA-256 input is not a safe single-link regular file" }
  | _ => throw { code := .ioFailure, message := "File cannot be opened for SHA-256" }

/-- A file that is not to be removed. -/
def preserve (foreignIsError : Bool) : LabTask Bool :=
  if foreignIsError = true then throw targetChanged else pure false

/-- What follows when the system refuses: another attempt where the file is in use. -/
def afterRefusal (again : LabTask Bool) (failure : Error) : LabTask Bool := do
  match ← perform .ask with
  | .done => again
  | _ => throw failure

/-- The file that was opened is deleted, and looked for. -/
def deleteOpened (again : LabTask Bool) (failure : Error) : LabTask Bool := do
  -- the file at the path is still the one that was opened
  match ← perform .ask with
  | .done =>
    match ← perform (.remove .target) with
    | .done =>
      match ← fileAttributes .target with
      | .missing => pure true
      | .found => throw targetChanged
      | .unknown => throw failure
    | _ => afterRefusal again failure
  | _ => throw targetChanged

/-- `remove_authenticated_module`: so many attempts. -/
def removeAuthenticatedModule (expectedHash : Bytes) (policy : ModuleRemovalPolicy)
    (foreignIsError : Bool) (failure : Error) : ℕ → LabTask Bool
  | 0 => throw failure
  | attempts + 1 => do
    let again := removeAuthenticatedModule expectedHash policy foreignIsError failure attempts
    match ← perform (.read .target) with
    | .missing => pure false
    | .content .directory => throw failure
    | .content .linked => preserve foreignIsError
    | .content (.file bytes) =>
      if bytes.length ≤ maximumModuleBytes then do
        -- the bytes are read, and the file is still the same
        match ← perform .ask with
        | .done =>
          let hash ← moduleHash bytes
          if policy.owned expectedHash hash bytes = true then deleteOpened again failure
          else preserve foreignIsError
        | _ => throw targetChanged
      else preserve foreignIsError
    | _ => afterRefusal again failure

variable [PinnedModule]

/-- `remove_orphaned_optimizer_module`. -/
def removeOrphanedOptimizerModule : LabTask Bool :=
  removeAuthenticatedModule PinnedModule.sha256 .pinnedOrLegacy false
    { code := .ioFailure, message := "Orphaned optimizer telemetry package could not be removed" } deleteRetryCount

/-! ## 5. Installing -/

/-- What is undone when the installation fails behind the marker. -/
def withdraw {α : Type} (created : Created) (e : Error) : LabTask α := do
  let _ ← perform (.remove .marker)
  let _ ← removeCreatedEmptyDirectories created
  throw e

/-- The module is removed again. -/
def rollbackModule {α : Type} (created : Created) (unremoved e : Error) : LabTask α := do
  let _ ← removeAuthenticatedModule PinnedModule.sha256 .exactHash true unremoved deleteRetryCount
  withdraw created e

/-- The module is written and verified under the marker, and the marker is written again. -/
def installModule (root : DirectoryIdentity) (created : Created) (source : Bytes) : LabTask Unit := do
  match ← attempt (replaceFile .target source) with
  | .error e => withdraw created e
  | .ok _ =>
    let targetHash ← attempt (fileHash .target maximumModuleBytes)
    if targetHash = .ok PinnedModule.sha256 then
      match ← attempt (replaceFile .marker (markerBytes ⟨.installed, PinnedModule.sha256, root, created⟩)) with
      | .ok _ => pure ()
      | .error e =>
        rollbackModule created
          { code := .ioFailure, message := "Offline telemetry installation rollback could not remove the package" } e
    else
      rollbackModule created
        { code := .ioFailure, message := "Unverified offline telemetry installation could not be removed" }
        { code := .ioFailure, message := "Offline telemetry installation hash verification failed" }

/-- Everything up to the marker, under the directories that there are now. -/
def markInstalling (roots : LabRoots) (created : Created) : LabTask DirectoryIdentity := do
  let _ ← ensureStateDirectory
  let root ← rootIdentity roots
  replaceFile .marker (markerBytes ⟨.installing, PinnedModule.sha256, root, created⟩)
  return root

/-- `install_offline_telemetry_lab`. -/
def installOfflineTelemetryLab (roots : LabRoots) (assetNamed running : Bool) : LabTask Unit := do
  ensure (running = false)
    { code := .accessDenied, message := "KF2 must be stopped before offline telemetry is installed" }
  validateRoots roots
  ensure (assetNamed = true)
    { code := .invalidArgument, message := "Offline telemetry package has an unexpected name" }
  let source ← readRegularFile .asset maximumModuleBytes
  let sourceHash ← moduleHash source
  ensure (sourceHash = PinnedModule.sha256)
    { code := .accessDenied, message := "Offline telemetry package does not match the pinned build" }
  let marked ← fileAttributes .marker
  ensure (marked ≠ .found)
    { code := .staleData, message := "An unfinished offline telemetry session requires recovery" }
  let _ ← removeOrphanedOptimizerModule
  let occupied ← fileAttributes .target
  ensure (occupied ≠ .found)
    { code := .accessDenied, message := "The offline telemetry target is already occupied; it was not overwritten" }
  let created ← ensureTargetDirectories
  match ← attempt (markInstalling roots created) with
  | .ok root => installModule root created source
  | .error e =>
    let _ ← removeCreatedEmptyDirectories created
    throw e

/-! ## 6. Restoring -/

/-- A session that has a marker is ended. -/
def restoreMarked (roots : LabRoots) : LabTask Unit := do
  let marker ← parseMarker
  validateBinding roots marker
  let _ ← removeAuthenticatedModule marker.sha256 .exactHashAndSignature true
    { code := .ioFailure, message := "Offline telemetry package could not be removed" } deleteRetryCount
  let complete ← removeCreatedEmptyDirectories marker.created
  ensure (complete = true)
    { code := .ioFailure, message := "Offline telemetry directory cleanup is incomplete" }
  match ← perform (.remove .marker) with
  | .done =>
    let _ ← removeDirectory .stateDirectory [.marker, .inState]
  | _ => throw { code := .ioFailure, message := "Offline telemetry marker could not be removed" }

/-- `restore_offline_telemetry_lab`. -/
def restoreOfflineTelemetryLab (roots : LabRoots) (running : Bool) : LabTask Unit := do
  ensure (running = false)
    { code := .accessDenied, message := "Running KF2 still owns the offline telemetry package" }
  validateRoots roots
  match ← fileAttributes .marker with
  | .found => restoreMarked roots
  | _ =>
    let removed ← removeOrphanedOptimizerModule
    ensure (removed = true)
      { code := .notFound, message := "No active offline telemetry session exists" }

structure OfflineTelemetryRecovery where
  active : Bool
  cleaned : Bool
  deriving DecidableEq, Repr

/-- `recover_offline_telemetry_lab`. -/
def recoverOfflineTelemetryLab (roots : LabRoots) (running : Bool) :
    LabTask OfflineTelemetryRecovery := do
  match ← fileAttributes .marker with
  | .unknown => throw { code := .ioFailure, message := "Offline telemetry marker cannot be inspected" }
  | .missing =>
    if running = true then return ⟨false, false⟩
    else do
      validateRoots roots
      let removed ← removeOrphanedOptimizerModule
      return ⟨false, removed⟩
  | .found =>
    let marker ← parseMarker
    validateBinding roots marker
    let hash ← attempt (fileHash .target maximumModuleBytes)
    if running = true then do
      ensure (marker.state = .installed ∧ hash = .ok PinnedModule.sha256 ∧
          marker.sha256 = PinnedModule.sha256)
        { code := .staleData, message := "Running KF2 offline telemetry state is incomplete" }
      return ⟨true, false⟩
    else do
      restoreOfflineTelemetryLab roots false
      return ⟨false, true⟩

end Kf2Optimizer.Game.OfflineTelemetry
