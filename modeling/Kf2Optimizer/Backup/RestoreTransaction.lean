/-
# Restoring and recovering

`restore_transaction.cpp`.  Restoring applies the original bytes of a backup as a preview.  Recovery
goes through the journals of the store: a transaction that has only made its backup is over, one whose
files were verified is over when they still have the desired bytes, and one that has started to
replace files is rolled back file by file.
-/
import Kf2Optimizer.Backup.Retention
import Kf2Optimizer.Config.ApplyTransaction

namespace Kf2Optimizer.Backup

open Text Files Security Platform Config

/-! ## 1. Journals -/

def maxJournalBytes : ℕ := 4 * 1024

structure RecoveryJournal where
  state : JournalState
  id : Bytes
  deriving DecidableEq

/-- What a journal has said so far. -/
structure JournalRecords where
  version : Option Bytes := none
  state : Option Bytes := none
  id : Option Bytes := none

/-- One line of a journal. -/
def JournalRecords.line (r : JournalRecords) (line : Bytes) : Result JournalRecords :=
  match cut 0x3D line with
  | none => .error (ioFailure "Recovery journal record is malformed")
  | some (key, value) =>
    if key = [] then .error (ioFailure "Recovery journal record is malformed")
    else if key = ascii "version" ∧ r.version = none then .ok { r with version := some value }
    else if key = ascii "state" ∧ r.state = none then .ok { r with state := some value }
    else if key = ascii "id" ∧ r.id = none then .ok { r with id := some value }
    else .error (ioFailure "Recovery journal contains a duplicate or unknown record")

def JournalState.ofText (text : Bytes) : Option JournalState :=
  [JournalState.backupComplete, .replacementStarted, .verificationComplete, .complete].find?
    fun s => s.text = text

/-- `parse_journal`. -/
def parseJournal (bytes expectedId : Bytes) : Result RecoveryJournal := do
  let r ← (records bytes).foldlM JournalRecords.line {}
  match r.version, r.state.bind JournalState.ofText, r.id with
  | some version, some state, some id =>
    if version = ascii "1" ∧ ValidHash id ∧ id = expectedId then .ok ⟨state, id⟩
    else .error (ioFailure "Recovery journal schema or identity is invalid")
  | _, _, _ => .error (ioFailure "Recovery journal schema or identity is invalid")

theorem parseJournal_eq {bytes expectedId : Bytes} {r : JournalRecords}
    (h : (records bytes).foldlM JournalRecords.line ({} : JournalRecords) = .ok r) :
    parseJournal bytes expectedId =
      match r.version, r.state.bind JournalState.ofText, r.id with
      | some version, some state, some id =>
        if version = ascii "1" ∧ ValidHash id ∧ id = expectedId then .ok ⟨state, id⟩
        else .error (ioFailure "Recovery journal schema or identity is invalid")
      | _, _, _ => .error (ioFailure "Recovery journal schema or identity is invalid") := by
  unfold parseJournal
  rw [h]
  rfl

/-! ## 2. Restoring -/

/-- `same_existing_directory`. -/
def sameExistingDirectory (volume : Volume) (left right : Bytes) : StoreTask Bool := do
  match ← perform .ask with
  | .done => pure (decide (volume.directory left ≠ none ∧ volume.directory left = volume.directory right))
  | _ => pure false

structure RestoreResult where
  preRestoreBackup : BackupSet
  filesRestored : ℕ

section

variable [Bcrypt]

/-- A round of the loop of `restore_backup`: the file as it is and as it was. -/
def restoredFile (volume : Volume) (root : Bytes) (snapshot : FileSnapshot) : StoreTask PreviewFile := do
  ensure (SafeRelativePath snapshot.relativePath)
    { code := .accessDenied, message := "Restore target is outside allowlist" }
  let current ← readTarget volume root snapshot.relativePath
  let original ← readBounded (.object snapshot.sha256) maxConfigurationBytes
  pure ⟨snapshot.relativePath, current, original⟩

/-- `restore_backup`. -/
def restoreBackup (volume : Volume) (id expectedConfigRoot : Bytes)
    (preconditions : ApplyPreconditions) : StoreTask RestoreResult := do
  ensure (preconditions.gameRunning = false)
    { code := .accessDenied, message := "KF2 must be stopped before restore" }
  let selected ← loadBackup id
  let same ← sameExistingDirectory volume selected.configRoot expectedConfigRoot
  ensure (same = true)
    { code := .accessDenied, message := "Backup does not belong to the verified KF2 configuration directory" }
  verify selected
  let files ← collect (restoredFile volume selected.configRoot) selected.snapshots
  let applied ← applyPreview volume ⟨selected.configRoot, files⟩ preconditions
  pure ⟨applied.backup, applied.filesChanged⟩

/-! ## 3. Recovery -/

inductive RecoveryOutcome
  | clean
  | rolledBack
  | rolledForward
  deriving DecidableEq, Repr

structure RecoveryResult where
  outcome : RecoveryOutcome := .clean
  transactionsRecovered : ℕ := 0

def invalidJournalError (journalError e : Error) : Error :=
  { e with message := "Recovery journal is invalid (" ++ journalError.message ++ ") and cannot be safely quarantined (" ++ e.message ++ ")" }

/-- A journal that cannot be parsed, or is too large, is moved away. -/
def quarantineJournal (entry : Path) (journalError : Error) : StoreTask (Option RecoveryJournal) := do
  (quarantineRegularFile entry).adapt (invalidJournalError journalError)
  pure none

/-- The journal of an entry, if it is valid. -/
def readJournal (entry : Path) : StoreTask (Option RecoveryJournal) := do
  match ← attempt (readBounded entry maxJournalBytes) with
  | .ok bytes =>
    match parseJournal bytes entry.stem with
    | .ok journal => pure (some journal)
    | .error e => quarantineJournal entry e
  | .error e =>
    if e.nativeCode = fileTooLarge then quarantineJournal entry e else throw e

def readbackError (e : Error) : Error :=
  { e with code := .recoveryRequired, message := "Configuration recovery readback failed: " ++ e.message }

/-- Puts the original bytes of a file back over the desired ones, and reads them back. -/
def rollBackFile (volume : Volume) (root : Bytes) (snapshot : FileSnapshot) (current : Bytes) :
    StoreTask Unit := do
  let original ← readBounded (.object snapshot.sha256) maxConfigurationBytes
  replaceTarget volume root snapshot.relativePath current original
  let readback ← (readTarget volume root snapshot.relativePath).adapt readbackError
  ensure (readback = original)
    { code := .recoveryRequired, message := "Configuration recovery did not pass exact readback" }

/-- `current_bytes`. -/
def currentBytes (volume : Volume) (root relativePath : Bytes) : StoreTask Bytes := do
  let safe ← safeTarget volume root relativePath
  ensure (safe = true) { code := .accessDenied, message := "Recovery target identity is unsafe" }
  readTarget volume root relativePath

/-- A file of a transaction that has started to replace files. -/
def recoverReplaced (volume : Volume) (root : Bytes) (snapshot : FileSnapshot)
    (current digest : Bytes) : StoreTask Unit := do
  ensure (digest = snapshot.sha256 ∨ digest = snapshot.desiredSha256)
    { code := .staleData, message := "Recovery target has conflicting changes" }
  if digest = snapshot.desiredSha256 then rollBackFile volume root snapshot current else pure ()

/-- A round of the loop over the files of a transaction. -/
def recoverFile (volume : Volume) (root : Bytes) (state : JournalState) (snapshot : FileSnapshot) :
    StoreTask Unit := do
  ensure (SafeRelativePath snapshot.relativePath)
    { code := .accessDenied, message := "Recovery target is outside allowlist" }
  let current ← currentBytes volume root snapshot.relativePath
  let digest ← sha256Hex current
  if state = .verificationComplete then
    ensure (digest = snapshot.desiredSha256) { code := .staleData, message := "Verified target changed before recovery" }
  else recoverReplaced volume root snapshot current digest

/-- The outcome of one more transaction. -/
def RecoveryResult.add (result : RecoveryResult) (state : JournalState) : RecoveryResult where
  outcome := if state = .verificationComplete then .rolledForward else .rolledBack
  transactionsRecovered := result.transactionsRecovered + 1

/-- A transaction whose files are recovered. -/
def recoverFiles (volume : Volume) (backup : BackupSet) (state : JournalState)
    (result : RecoveryResult) : StoreTask RecoveryResult := do
  forEach (recoverFile volume backup.configRoot state) backup.snapshots
  writeJournal backup .complete
  pure (result.add state)

/-- A transaction whose journal is valid. -/
def recoverJournal (volume : Volume) (expectedConfigRoot : Option Bytes)
    (journal : RecoveryJournal) (result : RecoveryResult) : StoreTask RecoveryResult := do
  let backup ← loadBackup journal.id
  if journal.state = .complete then pure result
  else match expectedConfigRoot with
    | none => throw { code := .accessDenied, message := "Interrupted configuration recovery requires a verified KF2 configuration directory" }
    | some root => do
      let same ← sameExistingDirectory volume backup.configRoot root
      ensure (same = true)
        { code := .accessDenied, message := "Recovery journal does not belong to the verified KF2 configuration directory" }
      verify backup
      if journal.state = .backupComplete then do
        writeJournal backup .complete
        pure result
      else recoverFiles volume backup journal.state result

/-- A round of the loop of `recover_transactions`. -/
def recoverEntry (volume : Volume) (expectedConfigRoot : Option Bytes) (result : RecoveryResult)
    (entry : Path) : StoreTask RecoveryResult := do
  inspect (ioFailure "Recovery journal identity cannot be inspected")
  match ← readJournal entry with
  | none => pure result
  | some journal => recoverJournal volume expectedConfigRoot journal result

/-- The loop of `recover_transactions`. -/
def recoverEntries (volume : Volume) (expectedConfigRoot : Option Bytes) :
    RecoveryResult → List Path → StoreTask RecoveryResult
  | result, [] => pure result
  | result, entry :: rest => do
    let result ← recoverEntry volume expectedConfigRoot result entry
    recoverEntries volume expectedConfigRoot result rest

/-- `recover_transactions`. -/
def recoverTransactions (volume : Volume) (directory : List Path)
    (expectedConfigRoot : Option Bytes) : StoreTask RecoveryResult := do
  inspect (ioFailure "Recovery journals cannot be inspected")
  let journals ← entries directory Path.isJournal (ioFailure "Recovery journal enumeration failed")
  recoverEntries volume expectedConfigRoot {} journals

end

end Kf2Optimizer.Backup
