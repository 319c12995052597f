/-
# The backup store

`backup_store.cpp` up to `load_backup`.  A backup holds the original bytes of some configuration
files as objects named by their digest, a MANIFEST that lists the files with the digests of their
original and their desired bytes, and the JOURNAL of the transaction that it was made for.  Its id
is the digest of what the manifest says, so equal backups share their files.

A path is its generic text in UTF-8.  Directories stay where they are: which one a configuration
root leads to is a parameter.
-/
import Kf2Optimizer.Platform.AtomicFile
import Kf2Optimizer.Security.Sha256

namespace Kf2Optimizer

open Text Files

namespace Config

/-- The bytes of one configuration file, and the bytes that it shall have. -/
structure PreviewFile where
  relativePath : Bytes
  originalBytes : Bytes
  proposedBytes : Bytes
  deriving DecidableEq

structure ConfigPreview where
  configRoot : Bytes
  files : List PreviewFile

end Config

namespace Backup

open Security Platform Config

/-! ## 1. Paths -/

/-- A file that transactions are about. -/
inductive Path
  | target (directory : ℕ) (relativePath : Bytes)
  | object (sha256 : Bytes)
  | manifest (id : Bytes)
  | journal (id : Bytes)
  deriving DecidableEq

abbrev StoreTask := Task Path Bytes Error
abbrev StoreDisk := Disk Path Bytes
abbrev StoreWorld := World Path Bytes

/-- What does not change: the directory that a root leads to, when files can be opened in it, and
the free space. -/
structure Volume where
  directory : Bytes → Option ℕ
  available : ℕ

/-- The configuration file of a root. -/
def Volume.target (volume : Volume) (root relativePath : Bytes) : Option Path :=
  (volume.directory root).map fun d => .target d relativePath

def isLetter (b : UInt8) : Bool := decide (0x41 ≤ b ∧ b ≤ 0x5A) || decide (0x61 ≤ b ∧ b ≤ 0x7A)

/-- `is_absolute`: a drive and a slash, a server, or a name of the system. -/
def isAbsolute : Bytes → Bool
  | 0x2F :: 0x2F :: host :: _ => decide (host ≠ 0x2F)
  | 0x2F :: 0x3F :: 0x3F :: 0x2F :: _ => true
  | drive :: 0x3A :: 0x2F :: _ => isLetter drive
  | _ => false

/-- `path_from_bytes` followed by `path_bytes`: the generic form has slashes only. -/
def generic (bytes : Bytes) : Bytes := bytes.map fun b => if b = 0x5C then 0x2F else b

def allowedNames : List Bytes :=
  [ascii "KFEngine.ini", ascii "KFGame.ini", ascii "KFSystemSettings.ini"]

/-- `allowed_relative_path`: one of the three names and no directory. -/
def AllowedRelativePath (path : Bytes) : Prop := path ∈ allowedNames

instance (path : Bytes) : Decidable (AllowedRelativePath path) :=
  inferInstanceAs (Decidable (path ∈ allowedNames))

/-! ## 2. Backups -/

structure FileSnapshot where
  relativePath : Bytes
  size : ℕ
  sha256 : Bytes
  desiredSize : ℕ
  desiredSha256 : Bytes
  deriving DecidableEq

structure BackupSet where
  id : Bytes
  configRoot : Bytes
  snapshots : List FileSnapshot
  deriving DecidableEq

def maxManifestBytes : ℕ := 256 * 1024
def maxObjectBytes : ℕ := 16 * 1024 * 1024
def maxSnapshotCount : ℕ := 3

/-- What the id of a backup is the digest of, one record for each file. -/
def identityRecords (root : Bytes) (s : FileSnapshot) : List Bytes :=
  [hexEncode root, hexEncode s.relativePath, s.sha256, s.desiredSha256]

/-- `identity_material`. -/
def identityMaterial (root : Bytes) (snapshots : List FileSnapshot) : Bytes :=
  lines (snapshots.flatMap (identityRecords root))

def fieldSeparator : UInt8 := 0x7C

/-- The record of a file in a manifest. -/
def fileRecord (s : FileSnapshot) : Bytes :=
  ascii "file=" ++ hexEncode s.relativePath ++ [fieldSeparator] ++ decimal s.size ++
    [fieldSeparator] ++ s.sha256 ++ [fieldSeparator] ++ decimal s.desiredSize ++
    [fieldSeparator] ++ s.desiredSha256

def manifestText (backup : BackupSet) : Bytes :=
  lines ([ascii "version=2", ascii "id=" ++ backup.id,
    ascii "root=" ++ hexEncode backup.configRoot] ++ backup.snapshots.map fileRecord)

/-! ## 3. Journals -/

inductive JournalState
  | backupComplete
  | replacementStarted
  | verificationComplete
  | complete
  deriving DecidableEq, Repr

def JournalState.text : JournalState → Bytes
  | .backupComplete => ascii "backup_complete"
  | .replacementStarted => ascii "replacement_started"
  | .verificationComplete => ascii "verification_complete"
  | .complete => ascii "complete"

def journalText (state : JournalState) (id : Bytes) : Bytes :=
  lines [ascii "version=1", ascii "state=" ++ state.text, ascii "id=" ++ id]

/-- `write_journal`, `journal_state`. -/
def writeJournal (backup : BackupSet) (state : JournalState) : StoreTask Unit :=
  atomicReplace (.journal backup.id) (journalText state backup.id)

/-! ## 4. Manifests -/

inductive LoadFailure
  | operational
  | corrupt
  deriving DecidableEq

structure LoadError where
  failure : LoadFailure
  error : Error

/-- What a manifest has said so far. -/
structure ManifestState where
  versionOk : Bool := false
  idOk : Bool := false
  rootOk : Bool := false
  configRoot : Bytes := []
  snapshots : List FileSnapshot := []

def ioFailure (message : String) : Error := { code := .ioFailure, message := message }

/-- The record of the root. -/
def ManifestState.root (m : ManifestState) (value : Bytes) : Result ManifestState :=
  if m.rootOk then .error (ioFailure "Backup root record is duplicated")
  else match hexDecode value with
    | none => .error (ioFailure "Backup root encoding is corrupt")
    | some decoded =>
      if decoded = [] ∨ 65534 < decoded.length ∨ 0 ∈ decoded then
        .error (ioFailure "Backup root encoding is corrupt")
      else if isAbsolute (generic decoded) then
        .ok { m with rootOk := true, configRoot := generic decoded }
      else .error { code := .accessDenied, message := "Backup root is not absolute" }

/-- A size record: below 2^64, in canonical form. -/
def parseCanonicalSize (text : Bytes) : Option ℕ := parseCanonical (2 ^ 64) text

/-- The record of a file. -/
def ManifestState.file (m : ManifestState) (value : Bytes) : Result ManifestState :=
  if maxSnapshotCount ≤ m.snapshots.length then
    .error { code := .accessDenied, message := "Backup file count exceeds the allowlist" }
  else match splitOn fieldSeparator value with
    | [path, size, sha256, desiredSize, desiredSha256] =>
      match hexDecode path with
      | none => .error (ioFailure "Backup path encoding is corrupt")
      | some decoded =>
        if decoded = [] ∨ 0 ∈ decoded then .error (ioFailure "Backup path encoding is corrupt")
        else if ¬ AllowedRelativePath (generic decoded) ∨
            generic decoded ∈ m.snapshots.map FileSnapshot.relativePath then
          .error { code := .accessDenied, message := "Backup file path is outside the strict allowlist" }
        else match parseCanonicalSize size, parseCanonicalSize desiredSize with
          | some size, some desiredSize =>
            if maxObjectBytes < size ∨ maxObjectBytes < desiredSize ∨ ¬ ValidHash sha256 ∨
                ¬ ValidHash desiredSha256 then
              .error (ioFailure "Backup hash or size record is corrupt")
            else .ok { m with snapshots := m.snapshots ++ [⟨generic decoded, size, sha256, desiredSize, desiredSha256⟩] }
          | _, _ => .error (ioFailure "Backup size record is corrupt")
    | _ => .error (ioFailure "Backup file record is corrupt")

/-- One line of a manifest. -/
def ManifestState.line (id : Bytes) (m : ManifestState) (line : Bytes) : Result ManifestState :=
  if line = ascii "version=2" ∧ m.versionOk = false then .ok { m with versionOk := true }
  else if after (ascii "id=") line = some id ∧ m.idOk = false then .ok { m with idOk := true }
  else match after (ascii "root=") line, after (ascii "file=") line with
    | some value, _ => m.root value
    | none, some value => m.file value
    | none, none =>
      if line = [] then .ok m
      else .error (ioFailure "Backup manifest contains an unknown record")

/-- The backup that a manifest describes. -/
def parseManifest (id text : Bytes) : Result BackupSet :=
  if text = [] then .error (ioFailure "Backup manifest is empty")
  else do
    let m ← (records text).foldlM (ManifestState.line id) {}
    if m.versionOk ∧ m.idOk ∧ m.rootOk ∧ m.snapshots ≠ [] then .ok ⟨id, m.configRoot, m.snapshots⟩
    else .error (ioFailure "Backup manifest is incomplete")

section

variable [Bcrypt]

/-- The private `load_backup`, which tells a corrupt manifest from one that cannot be read. -/
def load (id : Bytes) : Task Path Bytes LoadError BackupSet := do
  ensure (ValidHash id) ⟨.corrupt, { code := .invalidArgument, message := "Backup identifier is invalid" }⟩
  let manifest ← (readBounded (Path.manifest id) maxManifestBytes).adapt (LoadError.mk .operational)
  let backup ← ExceptT.adapt (LoadError.mk .corrupt) (liftExcept (parseManifest id manifest))
  let recomputed ← (sha256Hex (identityMaterial backup.configRoot backup.snapshots)).adapt (LoadError.mk .operational)
  ensure (recomputed = id) ⟨.corrupt, ioFailure "Backup manifest identity does not match its content"⟩
  pure backup

/-- `BackupStore::load_backup`. -/
def loadBackup (id : Bytes) : StoreTask BackupSet := (load id).adapt LoadError.error

/-! ## 5. Verification -/

/-- One file of a backup against its record in the manifest and its object. -/
def verifySnapshot (expected snapshot : FileSnapshot) : StoreTask Unit := do
  ensure (snapshot = expected) (ioFailure "Backup manifest record changed")
  let bytes ← readBounded (.object snapshot.sha256) maxObjectBytes
  let digest ← sha256Hex bytes
  ensure (bytes.length = snapshot.size ∧ digest = snapshot.sha256) (ioFailure "Backup object verification failed")

/-- `BackupStore::verify`. -/
def verify (backup : BackupSet) : StoreTask Unit := do
  let loaded ← loadBackup backup.id
  ensure (loaded.configRoot = backup.configRoot ∧ loaded.snapshots.length = backup.snapshots.length)
    (ioFailure "Backup manifest identity changed")
  forEach (fun p => verifySnapshot p.1 p.2) (backup.snapshots.zip loaded.snapshots)

/-! ## 6. Creation -/

/-- The snapshot of a file. -/
def snapshotOf (file : PreviewFile) : FileSnapshot where
  relativePath := file.relativePath
  size := file.originalBytes.length
  sha256 := digestHex file.originalBytes
  desiredSize := file.proposedBytes.length
  desiredSha256 := digestHex file.proposedBytes

/-- An object that is there already holds the original bytes. -/
def checkObject (file : PreviewFile) (digest : Bytes) : StoreTask Unit := do
  let existing ← readBounded (.object digest) maxObjectBytes
  let existingDigest ← attempt (sha256Hex existing)
  ensure (existing.length = file.originalBytes.length ∧ existingDigest.toOption = some digest)
    (ioFailure "Existing backup object failed verification")

/-- The object of a file, checked or written. -/
def putObject (file : PreviewFile) (digest : Bytes) (found : Bool) : StoreTask Unit :=
  if found then checkObject file digest else atomicReplace (.object digest) file.originalBytes

/-- A round of the loop of `create`. -/
def saveObject (file : PreviewFile) : StoreTask FileSnapshot := do
  let digest ← sha256Hex file.originalBytes
  let desiredDigest ← sha256Hex file.proposedBytes
  let found ← pathExists (.object digest) (ioFailure "Backup object status cannot be inspected")
  putObject file digest found
  pure ⟨file.relativePath, file.originalBytes.length, digest, file.proposedBytes.length, desiredDigest⟩

/-- The files of a preview that a backup takes. -/
def SafeFileRecords (files : List PreviewFile) : Prop :=
  (∀ f ∈ files, AllowedRelativePath f.relativePath ∧ f.originalBytes.length ≤ maxObjectBytes ∧
    f.proposedBytes.length ≤ maxObjectBytes) ∧ (files.map PreviewFile.relativePath).Nodup

instance (files : List PreviewFile) : Decidable (SafeFileRecords files) :=
  inferInstanceAs (Decidable (_ ∧ _))

/-- `create_directories`. -/
def createDirectories : StoreTask Unit := do
  match ← perform .ask with
  | .done => pure ()
  | _ => throw (ioFailure "Backup directories cannot be created")

/-- `BackupStore::create`. -/
def create (preview : ConfigPreview) : StoreTask BackupSet := do
  ensure (preview.configRoot ≠ [] ∧ isAbsolute preview.configRoot ∧ preview.files ≠ [] ∧
    preview.files.length ≤ maxSnapshotCount) { code := .invalidArgument, message := "Backup preview scope is invalid" }
  ensure (SafeFileRecords preview.files)
    { code := .accessDenied, message := "Backup preview contains an unsafe file record" }
  createDirectories
  let snapshots ← collect saveObject preview.files
  let id ← sha256Hex (identityMaterial preview.configRoot snapshots)
  let backup : BackupSet := ⟨id, preview.configRoot, snapshots⟩
  atomicReplace (.manifest id) (manifestText backup)
  writeJournal backup .backupComplete
  pure backup

/-- `BackupStore::create_standalone`. -/
def createStandalone (preview : ConfigPreview) : StoreTask BackupSet := do
  let backup ← create preview
  verify backup
  writeJournal backup .complete
  pure backup

end

end Backup

end Kf2Optimizer
