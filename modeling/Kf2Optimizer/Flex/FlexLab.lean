/-
# The optimized FleX runtime

`flex_lab.cpp`.  The optimized runtime takes the place of three files of the game: a relay stands
in for the core and leads to the optimized core beside it, and the extension and a helper are
replaced.  Copies of the stock files and a MARKER in the state directory make it possible to go
back, and recovery decides from digests alone how far a transaction that was interrupted has come.

A file is replaced through a copy beside it that nothing else reads.  What is copied is what the
source held, so the copy is not a file of its own here: it is the bytes that were staged.
-/
import Kf2Optimizer.Platform.AtomicFile
import Kf2Optimizer.Security.Sha256

namespace Kf2Optimizer.Flex

open Text Files Platform Security

/-! ## 1. Files -/

/-- A file of the game directory, of the state directory, or of another one. -/
inductive FlexFile
  | activeCore
  | relayedCore
  | activeExtension
  | activeHelper
  | coreBackup
  | extensionBackup
  | helperBackup
  | marker
  | other (directory : ℕ) (filename : String)
  deriving DecidableEq

def FlexFile.filename : FlexFile → String
  | .activeCore => "flexRelease_x64.dll"
  | .relayedCore => "flexRelease_original.dll"
  | .activeExtension => "flexExtRelease_x64.dll"
  | .activeHelper => "kf2_p4_overlap.dll"
  | .coreBackup => "flexRelease_x64.pre-lab.dll"
  | .extensionBackup => "flexExtRelease_x64.pre-lab.dll"
  | .helperBackup => "kf2_p4_overlap.pre-lab.dll"
  | .marker => "flex-lab-transaction.marker"
  | .other _ filename => filename

abbrev FlexTask := Task FlexFile Bytes Error
abbrev FlexDisk := Disk FlexFile Bytes
abbrev FlexWorld := World FlexFile Bytes

def maximumRuntimeBytes : ℕ := 16 * 1024 * 1024
def maximumMarkerBytes : ℕ := 8 * 1024

variable [Bcrypt]

def hashFile (path : FlexFile) : FlexTask Bytes := sha256FileHex path maximumRuntimeBytes

def inspectedExists (path : FlexFile) : FlexTask Bool :=
  pathExists path { code := .ioFailure, message := "FleX path status cannot be inspected" }

/-! ## 2. Replacing a file -/

/-- The copy beside the target: it is checked, opened and flushed. -/
def stage (source : FlexFile) (expected : Bytes) : FlexTask Bytes := do
  match ← perform (.read source) with
  | .content bytes =>
    let stagedHash ← (sha256OfFile bytes maximumRuntimeBytes).adapt fun _ =>
      { code := .staleData, message := "FleX source changed during staging" }
    ensure (stagedHash = expected)
      { code := .staleData, message := "FleX source changed during staging" }
    match ← perform .ask with
    | .done =>
      match ← perform .ask with
      | .done => pure bytes
      | _ => throw { code := .ioFailure, message := "FleX staging file could not be flushed" }
    | _ => throw { code := .ioFailure, message := "FleX staging file could not be opened" }
  | _ => throw { code := .ioFailure, message := "FleX staging copy failed" }

def replacementFailed : Error :=
  { code := .ioFailure, message := "FleX atomic replacement failed" }

/-- `MoveFileExW` over the target, tried again after a sharing violation, a lock violation or a
denied access: the question that is asked between two attempts. -/
def moveReplacing (target : FlexFile) (bytes : Bytes) : ℕ → FlexTask Unit
  | 0 => throw replacementFailed
  | attempts + 1 => do
    match ← perform (.write target bytes) with
    | .done => pure ()
    | _ =>
      match ← perform .ask with
      | .done => moveReplacing target bytes attempts
      | _ => throw replacementFailed

/-- `replace_verified`. -/
def replaceVerified (source target : FlexFile) (expectedHash : Bytes) : FlexTask Unit := do
  let bytes ← stage source expectedHash
  moveReplacing target bytes 8
  let installedHash ← (hashFile target).adapt fun _ =>
    { code := .ioFailure, message := "FleX replacement verification failed" }
  ensure (installedHash = expectedHash)
    { code := .ioFailure, message := "FleX replacement verification failed" }

def preflight (running : Bool) : FlexTask Unit := do
  ensure (running = false)
    { code := .accessDenied, message := "KF2 must be completely stopped" }
  match ← perform .ask with
  | .done =>
    match ← perform .ask with
    | .done => pure ()
    | _ => throw { code := .ioFailure, message := "FleX state directory could not be created" }
  | _ => throw { code := .invalidArgument, message := "KF2 FleX directory is invalid" }

/-- `installation_identity`: the digest of the volume and the index of the game directory. -/
def installationIdentity (directory : Bytes) : FlexTask Bytes := do
  match ← perform .ask with
  | .done => sha256Hex directory
  | _ => throw { code := .accessDenied, message := "FleX installation identity is unsafe" }

/-! ## 3. Markers -/

inductive LabState
  | installing
  | installed
  deriving DecidableEq, Repr

def LabState.text : LabState → Bytes
  | .installing => ascii "installing"
  | .installed => ascii "installed"

structure LabMarker where
  state : Bytes
  stockCore : Bytes
  stockExtension : Bytes
  forwarder : Bytes
  optimizedCore : Bytes
  optimizedExtension : Bytes
  optimizedHelper : Bytes
  originalHelper : Bytes
  owner : Bytes
  deriving DecidableEq

structure LegacyLabMarker where
  state : Bytes
  original : Bytes
  forwarder : Bytes
  owner : Bytes
  deriving DecidableEq

/-- What `original_helper` is when there was none. -/
def absent : Bytes := ascii "absent"

/-- The lines of a marker, by name and value. -/
def markerFields (marker : LabMarker) : List (Bytes × Bytes) :=
  [(ascii "schema", ascii "4"),
   (ascii "state", marker.state),
   (ascii "stock_core_sha256", marker.stockCore),
   (ascii "stock_extension_sha256", marker.stockExtension),
   (ascii "forwarder_sha256", marker.forwarder),
   (ascii "optimized_core_sha256", marker.optimizedCore),
   (ascii "optimized_extension_sha256", marker.optimizedExtension),
   (ascii "optimized_helper_sha256", marker.optimizedHelper),
   (ascii "original_helper_sha256", marker.originalHelper),
   (ascii "owner_sha256", marker.owner)]

def legacyFields (marker : LegacyLabMarker) : List (Bytes × Bytes) :=
  [(ascii "schema", ascii "3"),
   (ascii "state", marker.state),
   (ascii "original_sha256", marker.original),
   (ascii "forwarder_sha256", marker.forwarder),
   (ascii "owner_sha256", marker.owner)]

/-- `marker_text`. -/
def markerText (marker : LabMarker) : Bytes := keyed (markerFields marker)

def legacyText (marker : LegacyLabMarker) : Bytes := keyed (legacyFields marker)

/-- `field`: nothing where the key or the end of its line is missing. -/
def field (bytes key : Bytes) : Bytes := (valueOf key bytes).getD []

def ValidState (state : Bytes) : Prop := state = LabState.installing.text ∨ state = LabState.installed.text

instance (state : Bytes) : Decidable (ValidState state) := inferInstanceAs (Decidable (_ ∨ _))

def LabMarker.Valid (marker : LabMarker) : Prop :=
  ValidState marker.state ∧
    (∀ hash ∈ [marker.stockCore, marker.stockExtension, marker.forwarder, marker.optimizedCore,
      marker.optimizedExtension, marker.optimizedHelper], ValidHash hash) ∧
    (marker.originalHelper = absent ∨ ValidHash marker.originalHelper) ∧ ValidHash marker.owner

instance (marker : LabMarker) : Decidable marker.Valid := inferInstanceAs (Decidable (_ ∧ _))

def LegacyLabMarker.Valid (marker : LegacyLabMarker) : Prop :=
  ValidState marker.state ∧ ValidHash marker.original ∧ ValidHash marker.forwarder ∧
    ValidHash marker.owner

instance (marker : LegacyLabMarker) : Decidable marker.Valid := inferInstanceAs (Decidable (_ ∧ _))

/-- What the lines of a marker say. -/
def markerOf (bytes : Bytes) : LabMarker where
  state := field bytes (ascii "state=")
  stockCore := field bytes (ascii "stock_core_sha256=")
  stockExtension := field bytes (ascii "stock_extension_sha256=")
  forwarder := field bytes (ascii "forwarder_sha256=")
  optimizedCore := field bytes (ascii "optimized_core_sha256=")
  optimizedExtension := field bytes (ascii "optimized_extension_sha256=")
  optimizedHelper := field bytes (ascii "optimized_helper_sha256=")
  originalHelper := field bytes (ascii "original_helper_sha256=")
  owner := field bytes (ascii "owner_sha256=")

def legacyMarkerOf (bytes : Bytes) : LegacyLabMarker where
  state := field bytes (ascii "state=")
  original := field bytes (ascii "original_sha256=")
  forwarder := field bytes (ascii "forwarder_sha256=")
  owner := field bytes (ascii "owner_sha256=")

/-- What `parse_marker` makes of the bytes of a marker. -/
def decodeMarker (bytes : Bytes) : Result LabMarker :=
  if ascii "schema=4\n" <+: bytes then
    if (markerOf bytes).Valid ∧ bytes = markerText (markerOf bytes) then .ok (markerOf bytes)
    else .error { code := .invalidArgument, message := "FleX transaction marker is invalid" }
  else .error { code := .invalidArgument, message := "FleX recovery evidence is unrecognized or belongs to an older runtime" }

/-- What `parse_legacy_marker` makes of the bytes of a marker. -/
def decodeLegacyMarker (bytes : Bytes) : Result LegacyLabMarker :=
  if ascii "schema=3\n" <+: bytes then
    if (legacyMarkerOf bytes).Valid ∧ bytes = legacyText (legacyMarkerOf bytes) then
      .ok (legacyMarkerOf bytes)
    else .error { code := .invalidArgument, message := "Legacy FleX transaction marker is invalid" }
  else .error { code := .invalidArgument, message := "FleX recovery evidence is unrecognized" }

def parseMarker : FlexTask LabMarker := do
  let bytes ← readBounded .marker maximumMarkerBytes
  liftExcept (decodeMarker bytes)

def parseLegacyMarker : FlexTask LegacyLabMarker := do
  let bytes ← readBounded .marker maximumMarkerBytes
  liftExcept (decodeLegacyMarker bytes)

def isLegacyMarker : FlexTask Bool := do
  let bytes ← readBounded .marker maximumMarkerBytes
  pure (decide (ascii "schema=3\n" <+: bytes))

def ownedMarker (directory : Bytes) : FlexTask LabMarker := do
  let marker ← parseMarker
  let owner ← installationIdentity directory
  ensure (marker.owner = owner)
    { code := .staleData, message := "FleX recovery belongs to a different KF2 installation" }
  return marker

/-! ## 4. Checks -/

def verifiedSource (path : FlexFile) (expected : Bytes) : FlexTask Unit := do
  let found ← inspectedExists path
  ensure (found = true) { code := .notFound, message := "A FleX recovery copy is missing" }
  let hash ← hashFile path
  ensure (hash = expected) { code := .staleData, message := "A FleX recovery copy is not verified" }

def requireKnownCurrent (path : FlexFile) (expectedHashes : List Bytes) (allowMissing : Bool) :
    FlexTask Unit := do
  if ← inspectedExists path then
    let hash ← hashFile path
    ensure (hash ∈ expectedHashes)
      { code := .staleData, message := "A managed FleX runtime component changed outside the transaction" }
  else
    ensure (allowMissing = true)
      { code := .notFound, message := "A managed FleX runtime component is missing" }

/-- `std::filesystem::remove`: a file that is missing is no error. -/
def removeFile (path : FlexFile) (e : Error) : FlexTask Unit := do
  match ← perform (.remove path) with
  | .done => pure ()
  | .missing => pure ()
  | _ => throw e

def removeKnownFile (path : FlexFile) (expectedHash : Bytes) : FlexTask Unit := do
  if ← inspectedExists path then
    let hash ← hashFile path
    ensure (hash = expectedHash)
      { code := .staleData, message := "An unknown file occupies the optimized FleX helper path" }
    removeFile path { code := .ioFailure, message := "Optimized FleX helper removal failed" }

/-! ## 5. Restoring -/

/-- The relay is removed if it is there. -/
def removeRelay (expectedHash : Bytes) : FlexTask Unit := do
  if ← inspectedExists .relayedCore then removeKnownFile .relayedCore expectedHash else pure ()

/-- Whether anything had to be recovered, and what is said about it. -/
structure Recovery where
  recovered : Bool
  details : String
  deriving DecidableEq, Repr

/-- `restore_legacy_lab`. -/
def restoreLegacyLab (directory : Bytes) : FlexTask Recovery := do
  let marker ← parseLegacyMarker
  let owner ← installationIdentity directory
  ensure (marker.owner = owner)
    { code := .staleData, message := "Legacy FleX recovery belongs to a different KF2 installation" }
  requireKnownCurrent .activeCore [marker.original, marker.forwarder] true
  requireKnownCurrent .coreBackup [marker.original] true
  requireKnownCurrent .relayedCore [marker.original] true
  let backupValid ← attempt (verifiedSource .coreBackup marker.original)
  let inGameValid ← attempt (verifiedSource .relayedCore marker.original)
  let source ← match backupValid, inGameValid with
    | .ok _, _ => pure FlexFile.coreBackup
    | _, .ok _ => pure FlexFile.relayedCore
    | _, _ => throw { code := .staleData, message := "No verified legacy FleX recovery copy is available" }
  replaceVerified source .activeCore marker.original
  removeRelay marker.original
  removeFile .marker { code := .ioFailure, message := "Legacy FleX transaction marker removal failed" }
  return ⟨true, "The verified legacy FleX relay was removed before the optimized runtime was prepared."⟩

/-- The copy of the helper is there, if there was a helper. -/
def verifyHelperCopy (marker : LabMarker) : FlexTask Unit :=
  if marker.originalHelper = absent then pure ()
  else verifiedSource .helperBackup marker.originalHelper

def requireKnownHelper (marker : LabMarker) : FlexTask Unit :=
  if marker.originalHelper = absent then
    requireKnownCurrent .activeHelper [marker.optimizedHelper] true
  else requireKnownCurrent .activeHelper [marker.originalHelper, marker.optimizedHelper] false

/-- What restoring checks before it writes. -/
def verifyRestore (marker : LabMarker) : FlexTask Unit := do
  verifiedSource .coreBackup marker.stockCore
  verifiedSource .extensionBackup marker.stockExtension
  verifyHelperCopy marker
  requireKnownCurrent .activeCore [marker.stockCore, marker.forwarder] false
  requireKnownCurrent .activeExtension [marker.stockExtension, marker.optimizedExtension] false
  requireKnownHelper marker
  requireKnownCurrent .relayedCore [marker.optimizedCore] true

def restoreHelper (marker : LabMarker) : FlexTask Unit :=
  if marker.originalHelper = absent then removeKnownFile .activeHelper marker.optimizedHelper
  else replaceVerified .helperBackup .activeHelper marker.originalHelper

/-- The stock files take their places again. -/
def restoreFiles (marker : LabMarker) : FlexTask Unit := do
  replaceVerified .coreBackup .activeCore marker.stockCore
  replaceVerified .extensionBackup .activeExtension marker.stockExtension
  restoreHelper marker
  removeRelay marker.optimizedCore
  removeFile .marker { code := .ioFailure, message := "FleX transaction marker removal failed" }

/-- `restore_optimized_runtime_transaction`. -/
def restoreOptimizedRuntimeTransaction (directory : Bytes) (running : Bool) : FlexTask Recovery := do
  preflight running
  let found ← inspectedExists .marker
  ensure (found = true) { code := .notFound, message := "FleX recovery marker is missing" }
  if ← isLegacyMarker then
    restoreLegacyLab directory
  else do
    let marker ← ownedMarker directory
    verifyRestore marker
    restoreFiles marker
    return ⟨true, "Verified FleX Core, Extension and helper were restored."⟩

/-! ## 6. Recovering -/

/-- A file has the digest. -/
def hasHash (path : FlexFile) (expected : Bytes) : FlexTask Bool := do
  match ← attempt (hashFile path) with
  | .ok hash => pure (decide (hash = expected))
  | .error _ => pure false

/-- A copy has the digest. -/
def hasCopy (path : FlexFile) (expected : Bytes) : FlexTask Bool := do
  match ← attempt (verifiedSource path expected) with
  | .ok _ => pure true
  | .error _ => pure false

def hasHelperCopy (marker : LabMarker) : FlexTask Bool :=
  if marker.originalHelper = absent then pure true
  else hasCopy .helperBackup marker.originalHelper

/-- The optimized runtime is there, with everything it takes to go back. -/
def isCurrent (marker : LabMarker) : FlexTask Bool := do
  let core ← hasHash .activeCore marker.forwarder
  let relay ← hasHash .relayedCore marker.optimizedCore
  let extension ← hasHash .activeExtension marker.optimizedExtension
  let helper ← hasHash .activeHelper marker.optimizedHelper
  let coreCopy ← hasCopy .coreBackup marker.stockCore
  let extensionCopy ← hasCopy .extensionBackup marker.stockExtension
  let helperCopy ← hasHelperCopy marker
  return core && relay && extension && helper && coreCopy && extensionCopy && helperCopy

/-- The marker says that the runtime is installed, and it is. -/
def isInstalled (marker : LabMarker) : FlexTask Bool :=
  if marker.state = LabState.installed.text then isCurrent marker else pure false

/-- `recover_optimized_runtime_transaction`. -/
def recoverOptimizedRuntimeTransaction (directory : Bytes) (running : Bool) : FlexTask Recovery := do
  if ← inspectedExists .marker then
    if ← isLegacyMarker then
      restoreOptimizedRuntimeTransaction directory running
    else do
      let marker ← ownedMarker directory
      if ← isInstalled marker then
        return ⟨false, ""⟩
      else
        restoreOptimizedRuntimeTransaction directory running
  else do
    let relay ← inspectedExists .relayedCore
    ensure (relay = false)
      { code := .staleData, message := "A markerless FleX relay was retained for manual recovery" }
    return ⟨false, ""⟩

/-! ## 7. Installing -/

/-- The digests of a component before and after: `BinaryDeltaRecipe`. -/
structure Recipe where
  originalSha256 : Bytes
  targetSha256 : Bytes

/-- `optimized_core_recipe` and `optimized_extension_recipe`. -/
structure Recipes where
  core : Recipe
  extension : Recipe

/-- The recipes of the program. -/
def Recipes.shipped : Recipes where
  core := ⟨ascii "bc5bdb62250281455cf753ff9b7fff599e3e4ee2cfc4c406f4e7c9e99f21172f",
    ascii "dde8343cf0226d25cd10610f41e2fc3e0c4795b8ecb98399668fe834aee340e5"⟩
  extension := ⟨ascii "ca586d0fb5c85cbdea06b45e9f3e85354145520c5ecbc83036c77e759f4d20a0",
    ascii "cf5a98b007cac5dd3fd5e198ab373f152957b79ac5acc9e101378c329752c325"⟩

/-- `OptimizedRuntimeTransactionOptions`, with the identity of the game directory. -/
structure Options where
  directory : Bytes
  forwarderDll : FlexFile
  optimizedCoreDll : FlexFile
  optimizedExtensionDll : FlexFile
  optimizedHelperDll : FlexFile
  gameRunning : Bool := true
  exactRuntimeVerified : Bool := false
  simulateFailureAfterInstall : Bool := false

/-- `OptimizedRuntimeTransactionResult`. -/
structure InstallResult where
  originalCoreSha256 : Bytes
  originalExtensionSha256 : Bytes
  forwarderSha256 : Bytes
  optimizedCoreSha256 : Bytes
  optimizedExtensionSha256 : Bytes
  optimizedHelperSha256 : Bytes
  installed : Bool
  deriving DecidableEq

/-- The names of the components. -/
def Options.Named (o : Options) : Prop :=
  o.forwarderDll.filename = "flexRelease_x64.forwarder-lab.dll" ∧
    o.optimizedCoreDll.filename = "flexRelease_x64.optimized.dll" ∧
    o.optimizedExtensionDll.filename = "flexExtRelease_x64.optimized.dll" ∧
    o.optimizedHelperDll.filename = "kf2_p4_overlap.dll"

instance (o : Options) : Decidable o.Named := inferInstanceAs (Decidable (_ ∧ _))

/-- The pair of stock files and the pair of optimized ones that the recipes are about; a build for
tests takes any. -/
def Supported (recipes : Option Recipes) (m : LabMarker) : Prop :=
  ∀ r ∈ recipes, m.stockCore = r.core.originalSha256 ∧
    m.stockExtension = r.extension.originalSha256 ∧ m.optimizedCore = r.core.targetSha256 ∧
    m.optimizedExtension = r.extension.targetSha256

instance (recipes : Option Recipes) (m : LabMarker) : Decidable (Supported recipes m) :=
  inferInstanceAs (Decidable (∀ _ ∈ recipes, _))

/-- The digest of the helper that is there. -/
def originalHelperHash : FlexTask Bytes := do
  if ← inspectedExists .activeHelper then hashFile .activeHelper else pure absent

/-- What installing checks before it writes: the marker that it will write first. -/
def prepareInstall (recipes : Option Recipes) (o : Options) : FlexTask LabMarker := do
  preflight o.gameRunning
  ensure (o.exactRuntimeVerified = true)
    { code := .accessDenied, message := "The exact stock runtime identity is required" }
  ensure o.Named { code := .invalidArgument, message := "Unexpected optimized FleX component" }
  let markerExists ← inspectedExists .marker
  let relayExists ← inspectedExists .relayedCore
  ensure (markerExists = false ∧ relayExists = false)
    { code := .staleData, message := "An unfinished FleX transaction requires recovery" }
  let stockCore ← hashFile .activeCore
  let stockExtension ← hashFile .activeExtension
  let forwarder ← hashFile o.forwarderDll
  let optimizedCore ← hashFile o.optimizedCoreDll
  let optimizedExtension ← hashFile o.optimizedExtensionDll
  let optimizedHelper ← hashFile o.optimizedHelperDll
  let owner ← installationIdentity o.directory
  let marker : LabMarker :=
    ⟨LabState.installing.text, stockCore, stockExtension, forwarder, optimizedCore, optimizedExtension,
      optimizedHelper, absent, owner⟩
  ensure (Supported recipes marker)
    { code := .staleData, message := "The FleX Core/Extension pair identity is unsupported" }
  let originalHelper ← originalHelperHash
  return { marker with originalHelper }

def backUpHelper (marker : LabMarker) : FlexTask Unit :=
  if marker.originalHelper = absent then pure ()
  else replaceVerified .activeHelper .helperBackup marker.originalHelper

/-- The copies of the stock files, and the marker. -/
def backUp (marker : LabMarker) : FlexTask Unit := do
  replaceVerified .activeCore .coreBackup marker.stockCore
  replaceVerified .activeExtension .extensionBackup marker.stockExtension
  backUpHelper marker
  atomicReplace .marker (markerText marker)

/-- The four components take their places. -/
def installFiles (o : Options) (marker : LabMarker) : FlexTask Unit := do
  replaceVerified o.optimizedCoreDll .relayedCore marker.optimizedCore
  replaceVerified o.optimizedExtensionDll .activeExtension marker.optimizedExtension
  replaceVerified o.optimizedHelperDll .activeHelper marker.optimizedHelper
  replaceVerified o.forwarderDll .activeCore marker.forwarder

/-- The way back of an installation that failed. -/
def rollBack {α : Type} (o : Options) (e : Error) : FlexTask α := do
  let _ ← restoreOptimizedRuntimeTransaction o.directory false
  throw e

/-- The marker says from now on that the runtime is installed. -/
def commit (o : Options) (marker : LabMarker) : FlexTask InstallResult := do
  match ← attempt (atomicReplace .marker (markerText { marker with state := LabState.installed.text })) with
  | .ok _ =>
    pure ⟨marker.stockCore, marker.stockExtension, marker.forwarder, marker.optimizedCore,
      marker.optimizedExtension, marker.optimizedHelper, true⟩
  | .error e => rollBack o e

/-- `install_optimized_runtime_transaction`. -/
def installOptimizedRuntimeTransaction (recipes : Option Recipes) (o : Options) :
    FlexTask InstallResult := do
  let marker ← prepareInstall recipes o
  backUp marker
  match ← attempt (installFiles o marker) with
  | .ok _ =>
    if o.simulateFailureAfterInstall = true then
      rollBack o { code := .ioFailure, message := "FleX installation failed and was rolled back" }
    else commit o marker
  | .error _ => rollBack o { code := .ioFailure, message := "FleX installation failed and was rolled back" }

end Kf2Optimizer.Flex
