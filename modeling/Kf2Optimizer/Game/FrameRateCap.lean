/-
# The native frame cap

`frame_rate_cap.cpp`.  KF2's own frame cap stands in two files.  A RECORD with the original bytes of
both and the digests of what shall replace them is written before either is replaced and emptied
when both are verified; recovery brings a file back to the original bytes if it still has the digest,
and keeps the record while one has neither.
-/
import Kf2Optimizer.Config.IniDocument
import Kf2Optimizer.Optimizer.Sample
import Kf2Optimizer.Platform.ConditionalReplacement
import Kf2Optimizer.Security.Sha256

namespace Kf2Optimizer.Game

open Text Files Platform Security Config

/-! ## 1. Files and records -/

/-- `Engine/Config/ConsoleVariables.ini` and `KFGame.ini`. -/
inductive CapFile
  | console
  | game
  deriving DecidableEq, Repr

/-- Something for each file. -/
def perFile {α : Type} (console game : α) : CapFile → α
  | .console => console
  | .game => game

theorem perFile_self {α : Type} (f : CapFile → α) : perFile (f .console) (f .game) = f := by
  funext file
  cases file <;> rfl

/-- `cap_paths` and `recovery_path`. -/
inductive CapPath
  | config (file : CapFile)
  | record
  deriving DecidableEq, Repr

abbrev CapTask := Task CapPath Bytes Error
abbrev CapDisk := Disk CapPath Bytes
abbrev CapWorld := World CapPath Bytes

def maximumFrameCapConfigBytes : ℕ := 4 * 1024 * 1024

def maximumRecordBytes : ℕ := 2 * maximumFrameCapConfigBytes + 1024

/-- The generic text of the two directories. -/
structure GameInstallation where
  installRoot : Bytes
  configRoot : Bytes

def recoveryError (e : Error) : Error :=
  { e with code := .recoveryRequired, message := "Native FPS cap recovery remains pending: " ++ e.message }

structure CapRecovery where
  originals : CapFile → Bytes
  appliedHashes : CapFile → Bytes

def bindingMaterial (installation : GameInstallation) : Bytes :=
  installation.installRoot ++ 0 :: installation.configRoot

/-- The lines before the checksum. -/
def recordFields (binding : Bytes) (recovery : CapRecovery) : List Bytes :=
  [ascii "KF2FrameCapRecovery1", binding, decimal (recovery.originals .console).length,
    decimal (recovery.originals .game).length, recovery.appliedHashes .console,
    recovery.appliedHashes .game]

def recordBody (recovery : CapRecovery) : Bytes :=
  recovery.originals .console ++ recovery.originals .game

/-- The bytes of a record. -/
def recordBytes (binding checksum : Bytes) (recovery : CapRecovery) : Bytes :=
  lines (recordFields binding recovery) ++ checksum ++ lf :: recordBody recovery

/-- The first fields of a record, each ended by a newline, and what is behind them. -/
def takeFields : ℕ → Bytes → Option (List Bytes × Bytes)
  | 0, bytes => some ([], bytes)
  | n + 1, bytes =>
    match cut lf bytes with
    | none => none
    | some (field, behind) =>
      if field.length ≤ 64 then (takeFields n behind).map fun rest => (field :: rest.1, rest.2)
      else none

def invalidRecord : Error :=
  { code := .recoveryRequired, message := "Native FPS cap recovery record is invalid or belongs to another installation" }

/-- What the fields of a record say, but for the checksum. -/
def decodeRecord (binding : Bytes) : List Bytes → Bytes → Option CapRecovery
  | [magic, bound, consoleSize, gameSize, consoleHash, gameHash, _], body =>
    if magic = ascii "KF2FrameCapRecovery1" ∧ bound = binding then
      match parseSize consoleSize, parseSize gameSize with
      | some m, some n =>
        if m ≤ maximumFrameCapConfigBytes ∧ ValidHash consoleHash ∧
            n ≤ maximumFrameCapConfigBytes ∧ ValidHash gameHash ∧ body.length = m + n then
          some ⟨perFile (body.take m) (body.drop m), perFile consoleHash gameHash⟩
        else none
      | _, _ => none
    else none
  | _, _ => none

section

variable [Bcrypt]

def installationBinding (installation : GameInstallation) : CapTask Bytes :=
  sha256Hex (bindingMaterial installation)

/-- `recovery_record`. -/
def recoveryRecord (installation : GameInstallation) (originals proposed : CapFile → Bytes) :
    CapTask Bytes := do
  let binding ← installationBinding installation
  let consoleHash ← sha256Hex (proposed .console)
  let gameHash ← sha256Hex (proposed .game)
  let recovery : CapRecovery := ⟨originals, perFile consoleHash gameHash⟩
  let checksum ← sha256Hex (lines (recordFields binding recovery) ++ recordBody recovery)
  return recordBytes binding checksum recovery

/-- `parse_recovery_record`. -/
def parseRecoveryRecord (installation : GameInstallation) (bytes : Bytes) : CapTask CapRecovery := do
  match takeFields 7 bytes with
  | none => throw invalidRecord
  | some (fields, body) =>
    let binding ← installationBinding installation
    match decodeRecord binding fields body with
    | none => throw invalidRecord
    | some recovery =>
      let checksum ← sha256Hex (lines (fields.take 6) ++ body)
      ensure (fields[6]? = some checksum) invalidRecord
      return recovery

def readFile (file : CapFile) : CapTask Bytes :=
  readBounded (.config file) maximumFrameCapConfigBytes

/-! ## 2. Recovering -/

/-- A file is read again, whatever became of its replacement; an error of that goes first. -/
def readBack (recovery : CapRecovery) (file : CapFile) (written : Except Error Unit) : CapTask Unit := do
  match ← attempt (readFile file) with
  | .ok readback =>
    if readback = recovery.originals file then pure ()
    else
      match written with
      | .ok _ => throw { code := .staleData, message := "Native FPS cap rollback failed exact readback" }
      | .error e => throw e
  | .error unread =>
    match written with
    | .ok _ => throw unread
    | .error e => throw e

/-- One file is brought back. -/
def restoreFile (recovery : CapRecovery) (file : CapFile) : CapTask Unit := do
  let current ← readFile file
  if current = recovery.originals file then pure ()
  else do
    let hash ← sha256Hex current
    ensure (hash = recovery.appliedHashes file)
      { code := .staleData, message := "Native FPS cap file has conflicting changes; they were preserved" }
    let written ← attempt (replaceIfUnchanged (.config file) current (recovery.originals file))
    readBack recovery file written

/-- Both files are brought back, whatever becomes of the first; the first error is reported. -/
def restoreFiles (recovery : CapRecovery) : CapTask Unit := do
  let console ← attempt (restoreFile recovery .console)
  let game ← attempt (restoreFile recovery .game)
  liftExcept console
  liftExcept game

/-- The record is emptied. -/
def clearRecord (record : Bytes) : CapTask Unit :=
  (replaceIfUnchanged .record record []).adapt recoveryError

/-- A record that is empty is none. -/
def asPending (record : Bytes) : Option Bytes := if record = [] then none else some record

/-- What there is to recover: nothing, or the bytes of a record. -/
def pendingRecord : CapTask (Option Bytes) := do
  match ← attempt (readBounded .record maximumRecordBytes) with
  | .ok record => pure (asPending record)
  | .error e => if e.code = .notFound then pure none else throw (recoveryError e)

/-- `recover_frame_rate_cap`. -/
def recoverFrameRateCap (installation : GameInstallation) (gameRunning : Bool) : CapTask Bool := do
  match ← pendingRecord with
  | none => return false
  | some record =>
    ensure (gameRunning = false)
      { code := .recoveryRequired, message := "Close KF2 before recovering its interrupted native FPS cap" }
    let recovery ← (parseRecoveryRecord installation record).adapt recoveryError
    (restoreFiles recovery).adapt recoveryError
    clearRecord record
    return true

/-! ## 3. What is proposed -/

variable [WideCtype]

/-- A text in ASCII as wide characters. -/
def wide (text : Bytes) : Wide := text.map fun b => b.toUInt16

def startupSection : Wide := wide (ascii "Startup")
def consoleCapKey : Wide := wide (ascii "t.MaxFPS")
def gameEngineSection : Wide := wide (ascii "KFGame.KFGameEngine")
def smoothKey : Wide := wide (ascii "bSmoothFrameRate")
def minimumKey : Wide := wide (ascii "MinSmoothedFrameRate")
def maximumKey : Wide := wide (ascii "MaxSmoothedFrameRate")

/-- `std::to_wstring` of a frame rate that is valid. -/
def fpsText (fps : ℤ) : Wide := wide (decimal fps.toNat)

/-- `fixed_fps`: six decimals, which are zero. -/
def fixedFps (fps : ℤ) : Wide := wide (decimal fps.toNat ++ ascii ".000000")

/-- `replace_unique`. -/
def replaceUnique (document : IniDocument) (section_ key value : Wide) (mustExist : Bool) :
    Result (Bool × IniDocument) :=
  if mustExist = true ∧ document.find section_ key = none then
    .error { code := .notFound, message := "KF2's native frame-cap setting is missing" }
  else
    let (replaced, document') := document.replace section_ key value
    if replaced.shadowedOccurrences ≠ 0 then
      .error { code := .staleData, message := "Duplicate KF2 frame-cap settings were rejected" }
    else if replaced.changed = false ∧ document'.find section_ key = none then
      .error { code := .notFound, message := "KF2's native frame-cap section is missing" }
    else .ok (replaced.changed, document')

/-- The bytes that the files shall have, and which of them change. -/
structure CapProposal where
  proposed : CapFile → Bytes
  writes : CapFile → Bool

/-- What `persist_frame_rate_cap` makes of the original bytes. -/
def proposeCap (fps : ℤ) (originals : CapFile → Bytes) : Result CapProposal := do
  let console ← IniDocument.parse (originals .console)
  let game ← IniDocument.parse (originals .game)
  let (consoleChanged, console) ← replaceUnique console startupSection consoleCapKey (fpsText fps) false
  let (smoothChanged, game) ← replaceUnique game gameEngineSection smoothKey (wide (ascii "True")) true
  let (minimumChanged, game) ← replaceUnique game gameEngineSection minimumKey (wide (ascii "22.000000")) true
  let (maximumChanged, game) ← replaceUnique game gameEngineSection maximumKey (fixedFps fps) true
  return ⟨perFile console.serialize game.serialize,
    perFile consoleChanged (smoothChanged || minimumChanged || maximumChanged)⟩

/-- The cap stands in both files. -/
def capStands (fps : ℤ) (console game : Bytes) : Result Unit := do
  let console ← IniDocument.parse console
  let game ← IniDocument.parse game
  if console.find startupSection consoleCapKey = some (fpsText fps) ∧
      game.find gameEngineSection smoothKey = some (wide (ascii "True")) ∧
      game.find gameEngineSection minimumKey = some (wide (ascii "22.000000")) ∧
      game.find gameEngineSection maximumKey = some (fixedFps fps) then .ok ()
  else .error { code := .staleData, message := "KF2's native frame cap did not pass exact readback" }

/-! ## 4. Persisting -/

/-- `verify_exact`. -/
def verifyExact (fps : ℤ) (expected : CapFile → Bytes) : CapTask Unit := do
  let console ← readFile .console
  let game ← readFile .game
  ensure (console = expected .console ∧ game = expected .game)
    { code := .staleData, message := "KF2's native frame-cap files changed before readback" }
  liftExcept (capStands fps console game)

/-- A file is replaced if it changes. -/
def writeFile (originals : CapFile → Bytes) (proposal : CapProposal) (file : CapFile) : CapTask Unit :=
  if proposal.writes file = true then
    replaceIfUnchanged (.config file) (originals file) (proposal.proposed file)
  else pure ()

/-- The files are replaced and verified. -/
def writeFiles (fps : ℤ) (originals : CapFile → Bytes) (proposal : CapProposal) : CapTask Unit := do
  writeFile originals proposal .console
  writeFile originals proposal .game
  verifyExact fps proposal.proposed

def rollback (installation : GameInstallation) (e : Error) : CapTask Unit := do
  match ← attempt (recoverFrameRateCap installation false) with
  | .ok _ => throw e
  | .error restored =>
    throw { code := .recoveryRequired, message := e.message ++ "; " ++ restored.message, nativeCode := restored.nativeCode }

/-- The record is written and read again. -/
def armRecord (record : Bytes) : CapTask Unit := do
  atomicReplace .record record
  let verifiedRecord ← (readBounded .record maximumRecordBytes).adapt recoveryError
  ensure (verifiedRecord = record)
    (recoveryError { code := .staleData, message := "Native FPS cap recovery record changed before commit" })

/-- The proposal is carried out under a record. -/
def commitCap (installation : GameInstallation) (fps : ℤ) (originals : CapFile → Bytes)
    (proposal : CapProposal) : CapTask Unit := do
  ensure ((proposal.proposed .console).length ≤ maximumFrameCapConfigBytes ∧
      (proposal.proposed .game).length ≤ maximumFrameCapConfigBytes)
    { code := .accessDenied, message := "Native FPS cap output exceeds its size limit" }
  let record ← recoveryRecord installation originals proposal.proposed
  armRecord record
  match ← attempt (writeFiles fps originals proposal) with
  | .ok _ => clearRecord record
  | .error e => rollback installation e

structure FrameRateCapResult where
  targetFps : ℤ
  changed : Bool
  deriving DecidableEq, Repr

/-- What follows when there is nothing to recover any more. -/
def applyCap (installation : GameInstallation) (fps : ℤ) : CapTask FrameRateCapResult := do
  let console ← readFile .console
  let game ← readFile .game
  let originals := perFile console game
  let proposal ← liftExcept (proposeCap fps originals)
  if proposal.writes .console = true ∨ proposal.writes .game = true then do
    commitCap installation fps originals proposal
    return ⟨fps, true⟩
  else do
    verifyExact fps proposal.proposed
    return ⟨fps, false⟩

/-- `persist_frame_rate_cap`. -/
def persistFrameRateCap (installation : GameInstallation) (fps : ℤ) : CapTask FrameRateCapResult := do
  ensure (Optimizer.validTargetFps fps = true ∧ installation.installRoot ≠ [] ∧
      installation.configRoot ≠ [])
    { code := .invalidArgument, message := "The requested KF2 frame cap is invalid" }
  let _ ← recoverFrameRateCap installation false
  applyCap installation fps

end

end Kf2Optimizer.Game
