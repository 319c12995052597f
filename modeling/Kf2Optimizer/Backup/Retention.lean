/-
# Retention

`list_backups` and `prune_verified`.  The listing loads every manifest of the directory, moves the
corrupt ones away and puts the rest in order of the time they were written, the latest first.
Pruning goes by that order: behind the first `keep_latest` it removes what verifies, and then the
objects that no manifest refers to.

`backupsOf` is the listing as a function of the files.
-/
import Kf2Optimizer.Backup.Stored
import Mathlib.Data.List.Sort
import Mathlib.Data.List.ReduceOption

namespace Kf2Optimizer.Backup

open Text Files Security Platform Config

/-! ## 1. Directories -/

/-- The name of a file without its directory and its extension. -/
def Path.stem : Path → Bytes
  | .target _ relativePath => relativePath
  | .object sha256 => sha256
  | .manifest id => id
  | .journal id => id

def Path.isManifest : Path → Bool
  | .manifest _ => true
  | _ => false

def Path.isObject : Path → Bool
  | .object _ => true
  | _ => false

def Path.isJournal : Path → Bool
  | .journal _ => true
  | _ => false

/-- `directory_iterator`, over the names in the order of the system. -/
def entries (directory : List Path) (kind : Path → Bool) (e : Error) : StoreTask (List Path) := do
  match ← perform (.list (directory.filter kind)) with
  | .names l => pure l
  | _ => throw e

/-- A question to the system on the way: whether a directory exists, what kind of entry this is. -/
def inspect (e : Error) : StoreTask Unit := do
  match ← perform .ask with
  | .done => pure ()
  | _ => throw e

theorem careful_inspect {R : Path → Prop} (e : Error) : Careful R (fun _ => True) (inspect e).run := by
  refine careful_perform trivial ⟨_, trivial, rfl⟩ fun answer => ?_
  cases answer <;> exact .ret _

/-! ## 2. The listing -/

section

variable [Bcrypt]

def quarantineError (loadError e : Error) : Error :=
  { e with message := "Backup manifest is corrupt (" ++ loadError.message ++ ") and cannot be safely quarantined (" ++ e.message ++ ")" }

/-- A round of the loop of `list_backups`: the backup of an entry, if it loads. -/
def listed (entry : Path) : StoreTask (Option BackupSet) := do
  inspect (ioFailure "Backup manifest identity cannot be inspected")
  match ← attempt (load entry.stem) with
  | .ok backup => pure (some backup)
  | .error ⟨.operational, e⟩ => throw e
  | .error ⟨.corrupt, e⟩ => do
    (quarantineRegularFile entry).adapt (quarantineError e)
    pure none

/-- `read_write_time` of a manifest. -/
def stamped (backup : BackupSet) : StoreTask (ℕ × BackupSet) := do
  match ← perform (.stamp (.manifest backup.id)) with
  | .time t => pure (t, backup)
  | _ => throw (ioFailure "Backup timestamp cannot be read")

/-- `std::sort` by the time, the latest first. -/
def newestFirst (ordered : List (ℕ × BackupSet)) : List BackupSet :=
  (ordered.insertionSort fun a b => b.1 ≤ a.1).map Prod.snd

/-- The backups that were loaded, in their order. -/
def inOrder (backups : List BackupSet) : StoreTask (List BackupSet) :=
  if 1 < backups.length then do
    let ordered ← collect stamped backups
    pure (newestFirst ordered)
  else pure backups

/-- `BackupStore::list_backups`. -/
def listBackups (directory : List Path) : StoreTask (List BackupSet) := do
  inspect (ioFailure "Backup list cannot be read")
  let manifests ← entries directory Path.isManifest (ioFailure "Backup list enumeration failed")
  let loaded ← collect listed manifests
  inOrder loaded.reduceOption

/-! ## 3. Pruning -/

/-- `remove_safe_regular_file`; a file that is not there is removed already. -/
def removeSafeRegularFile (p : Path) : StoreTask Bool := do
  match ← perform (.remove p) with
  | .done => pure true
  | .missing => pure false
  | _ => throw (ioFailure "Backup file cannot be opened for pruning")

/-- The first loop of `prune_verified`: what verifies is removed, and counted. -/
def removeVerified : List BackupSet → StoreTask ℕ
  | [] => pure 0
  | backup :: rest => do
    match ← attempt (verify backup) with
    | .error _ => removeVerified rest
    | .ok _ => do
      let _ ← removeSafeRegularFile (.journal backup.id)
      let _ ← removeSafeRegularFile (.manifest backup.id)
      let removed ← removeVerified rest
      pure (removed + 1)

/-- A round of the second loop: an object that no manifest refers to is removed. -/
def removeUnreferenced (referenced : List Bytes) (entry : Path) : StoreTask Unit :=
  if ¬ ValidHash entry.stem ∨ entry.stem ∈ referenced then pure ()
  else do
    let _ ← removeSafeRegularFile entry
    pure ()

def referencedObjects (backups : List BackupSet) : List Bytes :=
  backups.flatMap fun b => b.snapshots.map FileSnapshot.sha256

/-- The second loop. -/
def removeObjects (directory : List Path) (referenced : List Bytes) : StoreTask Unit := do
  inspect (ioFailure "Backup object directory cannot be inspected")
  let objects ← entries directory Path.isObject (ioFailure "Backup object cleanup failed")
  forEach (removeUnreferenced referenced) objects

/-- At least one backup is kept. -/
def kept (keepLatest : ℕ) : ℕ := if keepLatest = 0 then 1 else keepLatest

/-- `BackupStore::prune_verified`. -/
def pruneVerified (directory : List Path) (keepLatest : ℕ) : StoreTask ℕ := do
  let backups ← listBackups directory
  let removed ← removeVerified (backups.drop (kept keepLatest))
  let retained ← listBackups directory
  removeObjects directory (referencedObjects retained)
  pure removed

/-! ## 4. The listing as a function of the files -/

/-- The entries of a directory that are there. -/
def present (directory : List Path) (kind : Path → Bool) (d : StoreDisk) : List Path :=
  (directory.filter kind).filter fun p => (d p).isSome

/-- The backup of an entry, if it loads. -/
def loadedAt (d : StoreDisk) (entry : Path) : Option BackupSet :=
  (value (load entry.stem).run d).toOption

/-- When the manifest of a backup was written. -/
def stampedAt (w : StoreWorld) (backup : BackupSet) : ℕ × BackupSet :=
  (lastWrite (.manifest backup.id) w.log, backup)

/-- The backups of a directory, the latest first. -/
def backupsOf (directory : List Path) (w : StoreWorld) : List BackupSet :=
  let backups := ((present directory Path.isManifest w.disk).map (loadedAt w.disk)).reduceOption
  if 1 < backups.length then newestFirst (backups.map (stampedAt w)) else backups

/-- A manifest that `list_backups` moves away. -/
def CorruptManifest (d : StoreDisk) (p : Path) : Prop :=
  ∃ id e, p = .manifest id ∧ value (load id).run d = .error ⟨.corrupt, e⟩

/-- A manifest that makes `list_backups` give up. -/
def Oversized (directory : List Path) (d : StoreDisk) : Prop :=
  ∃ id text, ValidHash id ∧ .manifest id ∈ directory ∧ d (.manifest id) = some text ∧
    maxManifestBytes < text.length

end

end Kf2Optimizer.Backup
