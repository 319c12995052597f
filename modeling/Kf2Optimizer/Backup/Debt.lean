/-
# Pruning and recovery

A pending journal is a DEBT.  Pruning looks at the age of a backup and at its objects, not at its
journal, so it removes a debt that newer backups have pushed behind the first `keep_latest` places
(`debt_pruned`).  In a run whose debts stand among these places whenever something is pruned, it
never does (`run_keepsDebt`).
-/
import Kf2Optimizer.Backup.Pruned
import Kf2Optimizer.Backup.Journals
import Kf2Optimizer.Lib.Machine

namespace Kf2Optimizer.Backup

open Text Files Security Platform Config StepMachine

/-! ## 1. Debts -/

section

variable [Bcrypt]

/-- The files of a pending transaction are as they were: its journal, its manifest and the objects
that the manifest refers to. -/
structure KeepsDebt (w w' : StoreWorld) : Prop where
  journal : ∀ id, Pending w.disk id → w'.disk (.journal id) = w.disk (.journal id)
  manifest : ∀ id, Pending w.disk id → w'.disk (.manifest id) = w.disk (.manifest id)
  objects : ∀ id b, Pending w.disk id → Loads w.disk id b → ∀ s ∈ b.snapshots,
    w'.disk (.object s.sha256) = w.disk (.object s.sha256)

/-- No pending transaction is in the way of pruning: its manifest is not corrupt, and its backup is
among the latest `keepLatest`, or does not verify, or the listing gives up. -/
def OutOfReach (directory : List Path) (keepLatest : ℕ) (w : StoreWorld) : Prop :=
  ∀ id, Pending w.disk id → ¬ CorruptManifest w.disk (.manifest id) ∧
    (Oversized directory w.disk ∨
      ∀ b ∈ (backupsOf directory w).drop (kept keepLatest), b.id = id → ¬ Verifies w.disk b)

/-- **Pruning keeps the debts** that are out of its reach, wherever it fails or stops. -/
theorem Pruned.keepsDebt {directory : List Path} {keepLatest : ℕ} {w w' : StoreWorld}
    (h : Pruned directory keepLatest w w') (hreach : OutOfReach directory keepLatest w) :
    KeepsDebt w w' := by
  -- the journal and the manifest of a pending backup are not removable
  have hverified : ∀ id, Pending w.disk id → ¬ Oversized directory w.disk →
      ∀ b ∈ (backupsOf directory w).drop (kept keepLatest), b.id = id → ¬ Verifies w.disk b := by
    intro id hpending hsmall
    rcases (hreach id hpending).2 with hover | hlate
    · exact absurd hover hsmall
    · exact hlate
  have hmanifest : ∀ id, Pending w.disk id →
      ¬ Removable directory keepLatest w w' (.manifest id) := by
    intro id hpending hremovable
    rcases hremovable with hcorrupt | ⟨hsmall, ⟨b, hb, hver, heq | heq⟩ | hunreferenced⟩
    · exact (hreach id hpending).1 hcorrupt
    · cases heq
    · injection heq with hid
      exact hverified id hpending hsmall b hb hid.symm hver
    · cases hunreferenced.1
  have hjournal : ∀ id, Pending w.disk id →
      ¬ Removable directory keepLatest w w' (.journal id) := by
    intro id hpending hremovable
    rcases hremovable with ⟨_, _, heq, _⟩ | ⟨hsmall, ⟨b, hb, hver, heq | heq⟩ | hunreferenced⟩
    · cases heq
    · injection heq with hid
      exact hverified id hpending hsmall b hb hid.symm hver
    · cases heq
    · cases hunreferenced.1
  constructor
  · intro id hpending
    exact (h.same _ (Path.stored_journal id) (hjournal id hpending)).1
  · intro id hpending
    exact (h.same _ (Path.stored_manifest id) (hmanifest id hpending)).1
  · intro id b hpending hloads s hs
    exact h.objects (Removed.loads_of_not h hloads (hmanifest id hpending)) hs

/-! ## 2. Runs -/

/-- The operations on a store. -/
inductive StoreOp
  | create (preview : ConfigPreview)
  | applyPreview (preview : ConfigPreview) (preconditions : ApplyPreconditions)
  | restoreBackup (id expectedConfigRoot : Bytes) (preconditions : ApplyPreconditions)
  | recoverTransactions (directory : List Path) (expectedConfigRoot : Option Bytes)
  | pruneVerified (directory : List Path) (keepLatest : ℕ)

/-- An operation, and what becomes of it. -/
structure StoreStep where
  op : StoreOp
  plan : List (Turn Path Bytes) := []

/-- The files after a step. -/
def StoreStep.after (volume : Volume) (w : StoreWorld) (s : StoreStep) : StoreWorld :=
  match s.op with
  | .create preview => (run (Backup.create preview).run s.plan w).2
  | .applyPreview preview preconditions =>
    (run (Config.applyPreview volume preview preconditions).run s.plan w).2
  | .restoreBackup id root preconditions =>
    (run (Backup.restoreBackup volume id root preconditions).run s.plan w).2
  | .recoverTransactions directory root =>
    (run (Backup.recoverTransactions volume directory root).run s.plan w).2
  | .pruneVerified directory keepLatest =>
    (run (Backup.pruneVerified directory keepLatest).run s.plan w).2

/-- Other programs write configuration files only, and what is pruned is the directory of the
store. -/
def StoreStep.Regular (w : StoreWorld) (s : StoreStep) : Prop :=
  (∀ turn ∈ s.plan, ∀ o ∈ turn.others, ¬ o.1.stored) ∧
    ∀ directory keepLatest, s.op = .pruneVerified directory keepLatest →
      directory.Nodup ∧ Covers directory w.disk

/-- If the step prunes, it keeps the debts. -/
def StoreStep.KeepsDebt (volume : Volume) (w : StoreWorld) (s : StoreStep) : Prop :=
  ∀ directory keepLatest, s.op = .pruneVerified directory keepLatest →
    Backup.KeepsDebt w (s.after volume w)

/-- If the step prunes, the debts are out of its reach. -/
def StoreStep.OutOfReach (w : StoreWorld) (s : StoreStep) : Prop :=
  ∀ directory keepLatest, s.op = .pruneVerified directory keepLatest →
    Backup.OutOfReach directory keepLatest w

theorem StoreStep.keepsDebt {volume : Volume} {w : StoreWorld} {s : StoreStep}
    (hregular : s.Regular w) (hreach : s.OutOfReach w) : s.KeepsDebt volume w := by
  intro directory keepLatest hop
  obtain ⟨hnodup, hcovers⟩ := hregular.2 directory keepLatest hop
  let A : Turn Path Bytes → Prop := fun turn => ∀ o ∈ turn.others, ¬ o.1.stored
  have hA : Outside A := fun _ h => h
  have hquiet : A {} := by
    intro o ho
    cases ho
  have hrun := wp_sound (wpTask_pruneVerified hA hnodup hcovers keepLatest) hquiet hregular.1
  have hafter : s.after volume w = (run (pruneVerified directory keepLatest).run s.plan w).2 := by
    unfold StoreStep.after
    rw [hop]
  rw [hafter]
  refine Pruned.keepsDebt ?_ (hreach directory keepLatest hop)
  split at hrun
  · rename_i outcome w' hout
    rw [hout]
    cases outcome with
    | ok n => exact hrun.1
    | error e => exact hrun.1
  · rename_i w' hout
    rw [hout]
    exact hrun

/-- **In every run** whose debts are out of reach whenever something is pruned, pruning removes
nothing of them. -/
theorem run_keepsDebt (volume : Volume) (w : StoreWorld) (steps : List StoreStep)
    (h : Along (StoreStep.after volume) (fun w s => s.Regular w ∧ s.OutOfReach w) w steps) :
    Along (StoreStep.after volume) (fun w s => s.KeepsDebt volume w) w steps :=
  along_of_invariant (I := fun _ => True) (fun _ _ _ _ => trivial)
    (fun _ _ _ hs => StoreStep.keepsDebt hs.1 hs.2) steps w trivial h

end

/-! ## 3. A debt that is pruned -/

/-- Two configuration files and an empty store. -/
def configWorld : StoreWorld :=
  ⟨fun p => if p = .target 0 (ascii "KFEngine.ini") then some (ascii "a")
    else if p = .target 0 (ascii "KFGame.ini") then some (ascii "c") else none, []⟩

def configVolume : Volume := ⟨fun _ => some 0, 1048576⟩

/-- The first preview is applied up to the point where its file is replaced. -/
def interruptedApply : StoreStep :=
  ⟨.applyPreview enginePreview {}, List.replicate 17 ({} : Turn Path Bytes) ++ [⟨[], .crash⟩]⟩

/-- The names of the files that the two transactions leave behind. -/
def debtDirectory : List Path :=
  [.manifest (backupOf enginePreview).id, .manifest (backupOf gamePreview).id,
    .object (digestHex (ascii "a")), .object (digestHex (ascii "c"))]

/-- The second preview is applied and nothing goes wrong. -/
def undisturbedApply : StoreStep := ⟨.applyPreview gamePreview {}, []⟩

def pruneStep (keepLatest : ℕ) : StoreStep := ⟨.pruneVerified debtDirectory keepLatest, []⟩

/-- The store in front of the pruning. -/
def debtWorld : StoreWorld :=
  undisturbedApply.after configVolume (interruptedApply.after configVolume configWorld)

theorem nodup_debtDirectory : debtDirectory.Nodup := by decide +kernel

theorem validHash_engine : ValidHash (backupOf enginePreview).id := validHash_digestHex _

theorem covers_debtDirectory : Covers debtDirectory debtWorld.disk := by
  have hlog : ∀ e ∈ debtWorld.log, e.path.isManifest = true → e.path ∈ debtDirectory := by
    decide +kernel
  have hlogged : Logged configWorld.disk debtWorld := ((logged_start _).run _ _).run _ _
  intro id hthere
  obtain ⟨e, he, hpath⟩ := hlogged.mem (p := .manifest id) hthere
  rw [← hpath]
  refine hlog e he ?_
  rw [hpath]
  rfl

/-- A transaction that is interrupted, one that is not, and pruning. -/
def debtSteps (keepLatest : ℕ) : List StoreStep :=
  [interruptedApply, undisturbedApply, pruneStep keepLatest]

theorem regular_interruptedApply (w : StoreWorld) : interruptedApply.Regular w := by
  constructor
  · intro turn hturn o ho
    have hnobody : ∀ turn ∈ interruptedApply.plan, turn.others = [] := by decide
    rw [hnobody turn hturn] at ho
    cases ho
  · intro directory keepLatest h
    cases h

theorem regular_undisturbedApply (w : StoreWorld) : undisturbedApply.Regular w := by
  constructor
  · intro turn hturn
    cases hturn
  · intro directory keepLatest h
    cases h

theorem regular_pruneStep (keepLatest : ℕ) : (pruneStep keepLatest).Regular debtWorld := by
  constructor
  · intro turn hturn
    cases hturn
  · intro directory keepLatest' h
    rw [pruneStep, StoreOp.pruneVerified.injEq] at h
    rw [← h.1]
    exact ⟨nodup_debtDirectory, covers_debtDirectory⟩

theorem regular_debtSteps (keepLatest : ℕ) :
    Along (StoreStep.after configVolume) (fun w s => s.Regular w) configWorld
      (debtSteps keepLatest) :=
  ⟨regular_interruptedApply _, regular_undisturbedApply _, regular_pruneStep keepLatest, trivial⟩

/-- The manifests of the two backups load. -/
theorem not_corrupt_debtWorld {id : Bytes} (hid : ValidHash id) :
    ¬ CorruptManifest debtWorld.disk (.manifest id) := by
  have hloaded : ∀ p ∈ debtDirectory, p.isManifest = true →
      (loadedAt debtWorld.disk p).isSome = true := by
    decide +kernel
  rintro ⟨id', e, heq, hcorrupt⟩
  obtain rfl : id = id' := by injection heq
  by_cases hnone : debtWorld.disk (.manifest id) = none
  · exact value_load_of_none hnone hcorrupt hid
  · obtain ⟨b, hb⟩ := Option.isSome_iff_exists.mp
      (hloaded _ (covers_debtDirectory id hnone) rfl)
    exact not_corrupt_of_loads (loadedAt_eq_some.mp hb) ⟨id, e, rfl, hcorrupt⟩

theorem outOfReach_debtWorld : (pruneStep 2).OutOfReach debtWorld := by
  have hfew : (backupsOf debtDirectory debtWorld).drop (kept 2) = [] := by decide +kernel
  intro directory keepLatest h id hpending
  rw [pruneStep, StoreOp.pruneVerified.injEq] at h
  obtain ⟨rfl, rfl⟩ := h
  refine ⟨not_corrupt_debtWorld (validHash_of_pending hpending), .inr ?_⟩
  rw [hfew]
  intro b hb
  cases hb

theorem run_keepsDebt_two :
    Along (StoreStep.after configVolume) (fun w s => s.KeepsDebt configVolume w) configWorld
      (debtSteps 2) := by
  have hnone : ∀ (w : StoreWorld) (s : StoreStep), (∀ directory keepLatest,
      s.op ≠ .pruneVerified directory keepLatest) → s.OutOfReach w :=
    fun w s hne directory keepLatest h => absurd h (hne directory keepLatest)
  refine run_keepsDebt configVolume configWorld _ ⟨⟨?_, ?_⟩, ⟨?_, ?_⟩, ⟨?_, ?_⟩, trivial⟩
  · exact regular_interruptedApply _
  · exact hnone _ _ fun _ _ h => by cases h
  · exact regular_undisturbedApply _
  · exact hnone _ _ fun _ _ h => by cases h
  · exact regular_pruneStep 2
  · exact outOfReach_debtWorld

/-- The journal of the first transaction is pending when the store is pruned to one backup, and
then it is gone, with the manifest. -/
theorem debt_pruned :
    Along (StoreStep.after configVolume) (fun w s => s.Regular w) configWorld (debtSteps 1) ∧
      Pending debtWorld.disk (backupOf enginePreview).id ∧
      ((pruneStep 1).after configVolume debtWorld).disk
        (.journal (backupOf enginePreview).id) = none ∧
      ((pruneStep 1).after configVolume debtWorld).disk
        (.manifest (backupOf enginePreview).id) = none ∧
      ¬ Along (StoreStep.after configVolume) (fun w s => s.KeepsDebt configVolume w) configWorld
        (debtSteps 1) := by
  have hrun : debtWorld.disk (.journal (backupOf enginePreview).id) =
        some (journalText .replacementStarted (backupOf enginePreview).id) ∧
      ((pruneStep 1).after configVolume debtWorld).disk
        (.journal (backupOf enginePreview).id) = none ∧
      ((pruneStep 1).after configVolume debtWorld).disk
        (.manifest (backupOf enginePreview).id) = none := by
    decide +kernel
  obtain ⟨hjournal, hgone, hmanifest⟩ := hrun
  have hpending : Pending debtWorld.disk (backupOf enginePreview).id :=
    (pending_iff_of_written validHash_engine hjournal).mpr (.inl rfl)
  refine ⟨regular_debtSteps 1, hpending, hgone, hmanifest, ?_⟩
  rintro ⟨-, -, hprune, -⟩
  have hkeeps : KeepsDebt debtWorld ((pruneStep 1).after configVolume debtWorld) :=
    hprune debtDirectory 1 rfl
  have hkept := hkeeps.journal _ hpending
  rw [hjournal, hgone] at hkept
  cases hkept

end Kf2Optimizer.Backup
