/-
# Applying a preview

`apply_transaction.cpp`.  A preview is applied behind a backup: the files are read again, the backup
is made and verified, the journal says that replacement has started, and each file is replaced if it
still holds its original bytes.  Where a replacement fails, or a file does not read back as desired,
the files that were replaced are put back in the reverse order, again only over the bytes that this
transaction has written.
-/
import Kf2Optimizer.Backup.BackupStore

namespace Kf2Optimizer.Config

open Text Files Security Platform Backup

def maxConfigurationBytes : ℕ := 16 * 1024 * 1024

/-! ## 1. Targets -/

/-- A drive, or a directory from the root on. -/
def hasRootPath : Bytes → Bool
  | 0x2F :: _ => true
  | drive :: 0x3A :: _ => isLetter drive
  | _ => false

/-- `safe_relative_path`. -/
def SafeRelativePath (path : Bytes) : Prop :=
  path ≠ [] ∧ hasRootPath path = false ∧
    ∀ component ∈ splitOn 0x2F path, component ≠ ascii ".." ∧ component ≠ ascii "."

instance (path : Bytes) : Decidable (SafeRelativePath path) := inferInstanceAs (Decidable (_ ∧ _))

/-- `read_bytes` of a configuration file. -/
def readTarget (volume : Volume) (root relativePath : Bytes) : StoreTask Bytes :=
  match volume.target root relativePath with
  | some p => readBounded p maxConfigurationBytes
  | none => throw { code := .notFound, message := "Bounded file cannot be opened for reading", nativeCode := fileNotFound }

/-- `safe_target`: there is a regular file of one name. -/
def safeTarget (volume : Volume) (root relativePath : Bytes) : StoreTask Bool :=
  match volume.target root relativePath with
  | some p => do
    match ← perform (.read p) with
    | .content _ => pure true
    | _ => pure false
  | none => pure false

/-- `atomic_replace_utf8_if_unchanged` of a configuration file. -/
def replaceTarget (volume : Volume) (root relativePath expected bytes : Bytes) : StoreTask Unit :=
  match volume.target root relativePath with
  | some p => atomicReplaceIfUnchanged p expected bytes
  | none => throw (ioFailure "Directory identity cannot be opened")

/-! ## 2. Rollback -/

/-- A round of the loop of `rollback_written_files`: why the file does not hold its original bytes,
if it does not. -/
def putBack (volume : Volume) (root : Bytes) (file : PreviewFile) : StoreTask (Option Error) := do
  match ← attempt (readTarget volume root file.relativePath) with
  | .ok before =>
    if before = file.originalBytes then pure none else restoreBytes volume root file
  | .error _ => restoreBytes volume root file
where
  /-- Replaces the desired bytes by the original ones and reads them back. -/
  restoreBytes (volume : Volume) (root : Bytes) (file : PreviewFile) : StoreTask (Option Error) := do
    let restored ← attempt (replaceTarget volume root file.relativePath file.proposedBytes file.originalBytes)
    let readback ← attempt (readTarget volume root file.relativePath)
    match restored, readback with
    | .error e, .ok bytes => if bytes = file.originalBytes then pure none else pure (some e)
    | .error e, .error _ => pure (some e)
    | .ok _, .error e => pure (some e)
    | .ok _, .ok bytes =>
      if bytes = file.originalBytes then pure none
      else pure (some { code := .staleData, message := "Configuration rollback did not pass exact readback" })

/-- `rollback_written_files`: every file is tried, and the first failure counts. -/
def rollbackWrittenFiles (volume : Volume) (root : Bytes) (writtenFiles : List PreviewFile) :
    StoreTask Unit := do
  let failures ← collect (putBack volume root) writtenFiles.reverse
  match failures.reduceOption with
  | [] => pure ()
  | failure :: _ =>
    throw { failure with code := .recoveryRequired, message := "Configuration rollback is incomplete; recovery remains pending: " ++ failure.message }

/-- `pending_recovery`. -/
def pendingRecovery (e : Error) : Error :=
  { e with code := .recoveryRequired, message := "Configuration recovery journal remains pending: " ++ e.message }

/-- What happens when a file cannot be replaced or has not been. -/
def abandon {α : Type} (volume : Volume) (root : Bytes) (backup : BackupSet)
    (writtenFiles : List PreviewFile) (e : Error) : StoreTask α := do
  rollbackWrittenFiles volume root writtenFiles
  (writeJournal backup .complete).adapt pendingRecovery
  throw e

/-! ## 3. The transaction -/

structure ApplyPreconditions where
  gameRunning : Bool := false
  availableBytes : Option ℕ := none

structure ApplyResult where
  backup : BackupSet
  filesChanged : ℕ

/-- A round of the first loop: the file still holds the bytes of the preview. -/
def checkUnchanged (volume : Volume) (root : Bytes) (file : PreviewFile) : StoreTask Unit := do
  ensure (SafeRelativePath file.relativePath)
    { code := .accessDenied, message := "Configuration target is outside allowlist" }
  let safe ← safeTarget volume root file.relativePath
  ensure (safe = true) { code := .accessDenied, message := "Configuration target identity is unsafe" }
  let current ← readTarget volume root file.relativePath
  ensure (current = file.originalBytes)
    { code := .staleData, message := "Configuration changed after preview" }

/-- The bytes that a transaction needs. -/
def requiredBytes (files : List PreviewFile) : ℕ :=
  4096 + (files.map fun f => f.originalBytes.length + f.proposedBytes.length).sum

/-- The free space. -/
def availableSpace (volume : Volume) (preconditions : ApplyPreconditions) : StoreTask ℕ :=
  match preconditions.availableBytes with
  | some available => pure available
  | none => do
    match ← perform .ask with
    | .done => pure volume.available
    | _ => throw (ioFailure "Free space cannot be determined")

/-- The replacement loop, with the files it has replaced. -/
def replaceFiles (volume : Volume) (root : Bytes) (backup : BackupSet) :
    List PreviewFile → List PreviewFile → StoreTask (List PreviewFile)
  | writtenFiles, [] => pure writtenFiles
  | writtenFiles, file :: rest =>
    if file.originalBytes = file.proposedBytes then
      replaceFiles volume root backup writtenFiles rest
    else do
      match ← attempt (replaceTarget volume root file.relativePath file.originalBytes file.proposedBytes) with
      | .ok _ => replaceFiles volume root backup (writtenFiles ++ [file]) rest
      | .error e => abandon volume root backup writtenFiles e

/-- A round of the verification loop. -/
def checkApplied (volume : Volume) (root : Bytes) (backup : BackupSet)
    (writtenFiles : List PreviewFile) (file : PreviewFile) : StoreTask Unit := do
  match ← attempt (readTarget volume root file.relativePath) with
  | .ok applied =>
    if applied = file.proposedBytes then pure ()
    else abandon volume root backup writtenFiles (ioFailure "Applied configuration verification failed")
  | .error e => abandon volume root backup writtenFiles e

section

variable [Bcrypt]

/-- What `apply_preview` asks for before it makes the backup. -/
def checkPreview (volume : Volume) (preview : ConfigPreview) (preconditions : ApplyPreconditions) :
    StoreTask Unit := do
  ensure (preconditions.gameRunning = false)
    { code := .accessDenied, message := "KF2 must be stopped before applying config" }
  ensure (preview.configRoot ≠ [] ∧ preview.files ≠ [])
    { code := .invalidArgument, message := "Configuration preview is empty" }
  forEach (checkUnchanged volume preview.configRoot) preview.files
  let available ← availableSpace volume preconditions
  ensure (requiredBytes preview.files ≤ available)
    (ioFailure "Insufficient space for safe configuration apply")

/-- The backup of a preview, made and verified, and the journal that says so. -/
def prepare (preview : ConfigPreview) : StoreTask BackupSet := do
  let backup ← create preview
  verify backup
  writeJournal backup .replacementStarted
  pure backup

/-- The rest of `apply_preview`. -/
def commit (volume : Volume) (preview : ConfigPreview) (backup : BackupSet) :
    StoreTask ApplyResult := do
  let writtenFiles ← replaceFiles volume preview.configRoot backup [] preview.files
  forEach (checkApplied volume preview.configRoot backup writtenFiles) preview.files
  (writeJournal backup .verificationComplete).adapt pendingRecovery
  (writeJournal backup .complete).adapt pendingRecovery
  pure ⟨backup, writtenFiles.length⟩

/-- `apply_preview`. -/
def applyPreview (volume : Volume) (preview : ConfigPreview) (preconditions : ApplyPreconditions) :
    StoreTask ApplyResult := do
  checkPreview volume preview preconditions
  let backup ← prepare preview
  commit volume preview backup

end

end Kf2Optimizer.Config
