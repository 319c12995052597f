/-
# Recovery can be started again

Recovery that was stopped, or in which a step has failed, is started again from the beginning:
it lists the journals, reads them and decides for each file by its digest.  What it makes of a
journal is a matter of the files (`entryRound`), and so is what it makes of a file of a transaction
(`fileRound`): a file that holds its original bytes is passed over, or gets the same bytes once
more.  Both are rounds that can be repeated, so a run that starts again comes to the files that
an undisturbed one leaves behind (`recovery_resumes`).
-/
import Kf2Optimizer.Backup.Refusal
import Kf2Optimizer.Lib.Restart

namespace Kf2Optimizer.Backup

open Text Files Security Platform Config

/-! ## 1. A file of a transaction -/

section

variable {volume : Volume} {root relativePath : Bytes} {d d' : StoreDisk} {p : Path}
  {A : Turn Path Bytes → Prop} {w : StoreWorld}

/-- The file that is read. -/
def TargetOf (volume : Volume) (root relativePath : Bytes) (p : Path) : Prop :=
  volume.target root relativePath = some p

theorem careful_readTarget (volume : Volume) (root relativePath : Bytes) :
    Careful (TargetOf volume root relativePath) (fun _ => True)
      (readTarget volume root relativePath).run := by
  unfold readTarget
  split
  · rename_i p hp
    exact careful_readBounded (R := TargetOf volume root relativePath) hp _
  · exact careful_throw _

theorem value_readTarget_eq_ok {bytes : Bytes} :
    value (readTarget volume root relativePath).run d = .ok bytes ↔
      ∃ p, volume.target root relativePath = some p ∧ d p = some bytes ∧
        bytes.length ≤ maxConfigurationBytes := by
  unfold readTarget
  cases htarget : volume.target root relativePath with
  | none => simp
  | some p => simp [value_readBounded_eq_ok]

/-- A target that cannot be inspected is one that is not safe. -/
theorem careful_currentBytes (volume : Volume) (root relativePath : Bytes) :
    Careful (TargetOf volume root relativePath) (fun _ => True)
      (currentBytes volume root relativePath).run := by
  unfold currentBytes safeTarget
  cases htarget : volume.target root relativePath with
  | none => exact .ret _
  | some p =>
    refine .step (.read p) _ htarget ⟨_, trivial, rfl⟩ fun answer => ?_
    cases answer with
    | content bytes => exact careful_readTarget volume root relativePath
    | _ => exact .ret _

theorem value_currentBytes_eq_ok {bytes : Bytes} :
    value (currentBytes volume root relativePath).run d = .ok bytes ↔
      ∃ p, volume.target root relativePath = some p ∧ d p = some bytes ∧
        bytes.length ≤ maxConfigurationBytes := by
  have hensured : ∀ (c : Prop) [Decidable c] (e : Error),
      value (ensure c e >>= fun _ => readTarget volume root relativePath).run d = .ok bytes ↔
        c ∧ value (readTarget volume root relativePath).run d = .ok bytes := by
    intro c _ e
    rw [value_bind_eq_ok]
    simp only [value_ensure_eq_ok, exists_const]
  rw [← value_readTarget_eq_ok]
  unfold currentBytes safeTarget
  rw [value_bind_eq_ok]
  simp only [hensured]
  cases htarget : volume.target root relativePath with
  | none => simp [value_readTarget_eq_ok, htarget]
  | some p =>
    rw [value_perform]
    cases hp : d p with
    | none => simp [Op.answer, hp, value_readTarget_eq_ok, htarget]
    | some found => simp [Op.answer, hp]

/-- A file is replaced if it still holds what was read, in a store that is used by nobody else. -/
theorem wpTask_replaceTarget (hA : ∀ turn, A turn → turn.others = [])
    (htarget : volume.target root relativePath = some p) {current bytes : Bytes}
    (hcurrent : w.disk p = some current) {good : Unit → StoreWorld → Prop}
    {bad : Error → StoreWorld → Prop} {C : StoreWorld → Prop}
    (hok : good () (w.own p (some bytes))) (hC : C w)
    (hfail : CanFail A → ∀ e, bad e w ∧ bad e (w.own p (some bytes))) :
    wpTask A (replaceTarget volume root relativePath current bytes) good bad C w := by
  unfold replaceTarget
  rw [htarget]
  refine wpTask_atomicReplaceIfUnchanged (I := (· = w)) ?_ ?_ rfl ?_ ?_ ?_
  · rintro turn v hturn rfl
    rw [hA turn hturn]
    rfl
  · rintro v rfl
    exact hC
  · rintro v rfl _
    exact hok
  · rintro e v rfl (hne | hcan)
    · exact absurd hcurrent hne
    · exact (hfail hcan e).1
  · rintro ⟨turn, hturn, hlate⟩ e v rfl _
    exact (hfail ⟨turn, hturn, .inr hlate⟩ e).2

/-- The file of a snapshot. -/
def TargetsOf (volume : Volume) (root : Bytes) (s : FileSnapshot) : Path → Prop :=
  TargetOf volume root s.relativePath

/-- Files of different names are different. -/
theorem targets_ne {l : List FileSnapshot} (hl : (l.map FileSnapshot.relativePath).Nodup)
    {a b : FileSnapshot} (ha : a ∈ l) (hb : b ∈ l) (hne : b ≠ a)
    (hp : TargetsOf volume root a p) : ¬ TargetsOf volume root b p := fun hq =>
  hne (List.inj_on_of_nodup_map hl hb ha (target_injective hq hp))

end

section

variable [Bcrypt] {volume : Volume} {root : Bytes} {state : JournalState} {s : FileSnapshot}
  {d d' : StoreDisk} {p : Path}

/-- The bytes with which recovery leaves the file of a snapshot, unless it gives up there. -/
def recovered (volume : Volume) (root : Bytes) (state : JournalState) (s : FileSnapshot)
    (d : StoreDisk) : Option Bytes :=
  if SafeRelativePath s.relativePath then
    match value (currentBytes volume root s.relativePath).run d with
    | .error _ => none
    | .ok current =>
      if state = .verificationComplete then
        if digestHex current = s.desiredSha256 then some current else none
      else if digestHex current = s.desiredSha256 then
        (value (readBounded (Path.object s.sha256) maxConfigurationBytes).run d).toOption
      else if digestHex current = s.sha256 then some current else none
  else none

/-- A round of the loop over the files of a transaction. -/
def fileRound (volume : Volume) (root : Bytes) (state : JournalState) (s : FileSnapshot)
    (d : StoreDisk) : Bool × StoreDisk :=
  match volume.target root s.relativePath, recovered volume root state s d with
  | some p, some bytes => (true, d.set p (some bytes))
  | _, _ => (false, d)

theorem recovered_of_current (hsafe : SafeRelativePath s.relativePath) {current : Bytes}
    (hcurrent : value (currentBytes volume root s.relativePath).run d = .ok current) :
    recovered volume root state s d =
      if state = .verificationComplete then
        if digestHex current = s.desiredSha256 then some current else none
      else if digestHex current = s.desiredSha256 then
        (value (readBounded (Path.object s.sha256) maxConfigurationBytes).run d).toOption
      else if digestHex current = s.sha256 then some current else none := by
  rw [recovered, if_pos hsafe, hcurrent]

/-- What the round is about: a file that is there. -/
theorem exists_of_recovered {bytes : Bytes} (h : recovered volume root state s d = some bytes) :
    SafeRelativePath s.relativePath ∧
      ∃ current p, value (currentBytes volume root s.relativePath).run d = .ok current ∧
        volume.target root s.relativePath = some p ∧ d p = some current ∧
        current.length ≤ maxConfigurationBytes := by
  by_cases hsafe : SafeRelativePath s.relativePath
  · refine ⟨hsafe, ?_⟩
    cases hvalue : value (currentBytes volume root s.relativePath).run d with
    | error e =>
      rw [recovered, if_pos hsafe, hvalue] at h
      cases h
    | ok current =>
      obtain ⟨p, htarget, hdisk, hlength⟩ := value_currentBytes_eq_ok.mp hvalue
      exact ⟨current, p, rfl, htarget, hdisk, hlength⟩
  · rw [recovered, if_neg hsafe] at h
    cases h

theorem fileRound_of_none (h : recovered volume root state s d = none) :
    fileRound volume root state s d = (false, d) := by
  unfold fileRound
  rw [h]
  split
  · rename_i hnone
    cases hnone
  · rfl

theorem fileRound_of_some {bytes : Bytes} (htarget : volume.target root s.relativePath = some p)
    (h : recovered volume root state s d = some bytes) :
    fileRound volume root state s d = (true, d.set p (some bytes)) := by
  rw [fileRound, htarget, h]

/-- Only the file and its object count. -/
theorem recovered_congr (htarget : ∀ p, volume.target root s.relativePath = some p → d' p = d p)
    (hobject : d' (.object s.sha256) = d (.object s.sha256)) :
    recovered volume root state s d' = recovered volume root state s d := by
  have hcurrent := value_congr (careful_currentBytes volume root s.relativePath) htarget
  have hagree : ∀ q, q = Path.object s.sha256 → d' q = d q := by
    rintro q rfl
    exact hobject
  have horiginal := value_congr
    (careful_readBounded (R := (· = Path.object s.sha256)) rfl maxConfigurationBytes) hagree
  unfold recovered
  rw [hcurrent, horiginal]

/-- **A file that is recovered** stays as it is when it is recovered again. -/
theorem recovered_again (hholds : Holds d s) {bytes : Bytes}
    (h : recovered volume root state s d = some bytes)
    (htarget : volume.target root s.relativePath = some p) (hdisk : d' p = some bytes)
    (hobject : d' (.object s.sha256) = d (.object s.sha256)) :
    recovered volume root state s d' = some bytes := by
  obtain ⟨hsafe, current, q, hcurrent, hq, -, hlength⟩ := exists_of_recovered h
  have hthere : ∀ {b : Bytes}, d' p = some b → b.length ≤ maxConfigurationBytes →
      value (currentBytes volume root s.relativePath).run d' = .ok b := fun hb hlen =>
    value_currentBytes_eq_ok.mpr ⟨p, htarget, hb, hlen⟩
  rw [recovered_of_current hsafe hcurrent] at h
  by_cases hstate : state = .verificationComplete
  · rw [if_pos hstate] at h
    by_cases hdesired : digestHex current = s.desiredSha256
    · rw [if_pos hdesired, Option.some.injEq] at h
      subst h
      rw [recovered_of_current hsafe (hthere hdisk hlength), if_pos hstate, if_pos hdesired]
    · rw [if_neg hdesired] at h
      cases h
  · rw [if_neg hstate] at h
    by_cases hdesired : digestHex current = s.desiredSha256
    · rw [if_pos hdesired] at h
      have hread : value (readBounded (Path.object s.sha256) maxConfigurationBytes).run d =
          .ok bytes := by
        cases hvalue : value (readBounded (Path.object s.sha256) maxConfigurationBytes).run d with
        | error e =>
          rw [hvalue] at h
          cases h
        | ok original =>
          rw [hvalue] at h
          cases h
          rfl
      obtain ⟨hbytes, hlen⟩ := value_readBounded_eq_ok.mp hread
      have hread' : value (readBounded (Path.object s.sha256) maxConfigurationBytes).run d' =
          .ok bytes :=
        value_readBounded_eq_ok.mpr ⟨hobject.trans hbytes, hlen⟩
      have hdigest : digestHex bytes = s.sha256 := by
        obtain ⟨saved, hsaved, -, -, hdigest⟩ := hholds
        rw [hbytes, Option.some.injEq] at hsaved
        exact hsaved ▸ hdigest
      rw [recovered_of_current hsafe (hthere hdisk hlen), if_neg hstate, hread', if_pos hdigest]
      split <;> rfl
    · rw [if_neg hdesired] at h
      by_cases horiginal : digestHex current = s.sha256
      · rw [if_pos horiginal, Option.some.injEq] at h
        subst h
        rw [recovered_of_current hsafe (hthere hdisk hlength), if_neg hstate, if_neg hdesired,
          if_pos horiginal]
      · rw [if_neg horiginal] at h
        cases h

theorem fileRound_again (hholds : Holds d s) {bytes : Bytes}
    (h : recovered volume root state s d = some bytes)
    (htarget : volume.target root s.relativePath = some p) (hdisk : d' p = some bytes)
    (hobject : d' (.object s.sha256) = d (.object s.sha256)) :
    fileRound volume root state s d' = (true, d') := by
  rw [fileRound_of_some htarget (recovered_again hholds h htarget hdisk hobject), ← hdisk,
    Disk.set_self]

/-- **The rounds over the files** of a transaction can be repeated. -/
theorem restartable_fileRound (volume : Volume) (root : Bytes) (state : JournalState)
    {l : List FileSnapshot} (hl : (l.map FileSnapshot.relativePath).Nodup) :
    Restartable (fileRound volume root state) (TargetsOf volume root)
      (fun d => ∀ s ∈ l, Holds d s) l where
  keeps d d' hholds hown s hs := by
    obtain ⟨bytes, hbytes, hrest⟩ := hholds s hs
    refine ⟨bytes, ?_, hrest⟩
    rw [hown _ fun a _ htarget => not_stored_target htarget (Path.stored_object s.sha256), hbytes]
  frame s _ d _ p hp := by
    have hnot : ¬ volume.target root s.relativePath = some p := hp s List.mem_cons_self
    unfold fileRound
    split
    · rename_i q bytes hq hbytes
      exact Disk.set_other _ _ fun heq => hnot (heq ▸ hq)
    · rfl
  again s hs d hholds := by
    cases hrecovered : recovered volume root state s d with
    | none =>
      rw [fileRound_of_none hrecovered]
      exact fileRound_of_none hrecovered
    | some bytes =>
      obtain ⟨-, -, p, -, htarget, -, -⟩ := exists_of_recovered hrecovered
      rw [fileRound_of_some htarget hrecovered]
      refine fileRound_again (hholds s hs) hrecovered htarget (Disk.set_same _ _ _) ?_
      exact Disk.set_other _ _ fun heq =>
        not_stored_target htarget (heq ▸ Path.stored_object s.sha256)
  apart s hs d d' hholds hdone hsame := by
    cases hrecovered : recovered volume root state s d with
    | none =>
      rw [fileRound_of_none hrecovered] at hdone
      cases hdone
    | some bytes =>
      obtain ⟨-, -, p, -, htarget, -, -⟩ := exists_of_recovered hrecovered
      rw [fileRound_of_some htarget hrecovered, Prod.mk.injEq] at hdone
      refine fileRound_again (hholds s hs) hrecovered htarget ?_ ?_
      · rw [hsame p fun b hb hne => targets_ne hl hs hb hne htarget, ← hdone.2, Disk.set_same]
      · exact hsame _ fun b _ _ hb => not_stored_target hb (Path.stored_object s.sha256)

variable {A : Turn Path Bytes → Prop} {w : StoreWorld}

/-- **A file is recovered** as the round says. -/
theorem does_recoverFile (hA : ∀ turn, A turn → turn.others = []) (hholds : Holds w.disk s) :
    Does A (fileRound volume root state) (TargetsOf volume root) [s] w.disk
      (recoverFile volume root state s) (fun _ _ => True) w := by
  have hhere : Resumes (fileRound volume root state) (TargetsOf volume root) [s] w.disk w.disk :=
    Resumes.refl _ _ _ _
  have hnone : recovered volume root state s w.disk = none →
      rounds (fileRound volume root state) [s] w.disk = (false, w.disk) := fun h => by
    rw [rounds_singleton, fileRound_of_none h]
  unfold recoverFile
  refine does_ensure_bind (fun hnot => hnone ?_) fun hsafe => ?_
  · rw [recovered, if_neg hnot]
  refine does_careful_bind hA (careful_currentBytes volume root s.relativePath) hhere
    (fun e he => hnone ?_) fun current hcurrent => ?_
  · rw [recovered, if_pos hsafe, he]
  obtain ⟨p, htarget, hdisk, -⟩ := value_currentBytes_eq_ok.mp hcurrent
  have hrecovered := @recovered_of_current _ volume root state s w.disk hsafe current hcurrent
  -- a file that may stay as it is
  have hstays : recovered volume root state s w.disk = some current →
      rounds (fileRound volume root state) [s] w.disk = (true, w.disk) := fun h => by
    rw [rounds_singleton, fileRound_of_some htarget h, ← hdisk, Disk.set_self]
  refine does_careful_bind hA (careful_sha256Hex (R := fun _ => True) current) hhere (fun e he => by cases he)
    fun digest hdigest => ?_
  rw [value_sha256Hex, Except.ok.injEq] at hdigest
  subst hdigest
  by_cases hstate : state = .verificationComplete
  · rw [if_pos hstate] at hrecovered ⊢
    by_cases hdesired : digestHex current = s.desiredSha256
    · rw [if_pos hdesired] at hrecovered
      rw [ensure, if_pos hdesired]
      exact ⟨hstays hrecovered, trivial⟩
    · rw [if_neg hdesired] at hrecovered
      rw [ensure, if_neg hdesired]
      exact .inl (hnone hrecovered)
  · rw [if_neg hstate] at hrecovered ⊢
    unfold recoverReplaced
    refine does_ensure_bind (fun hneither => hnone ?_) fun hknown => ?_
    · rw [not_or] at hneither
      rw [hrecovered, if_neg hneither.2, if_neg hneither.1]
    by_cases hdesired : digestHex current = s.desiredSha256
    · rw [if_pos hdesired] at hrecovered ⊢
      unfold rollBackFile
      refine does_careful_bind hA
        (careful_readBounded (R := (· = Path.object s.sha256)) rfl maxConfigurationBytes) hhere
        (fun e he => hnone ?_) fun original horiginal => ?_
      · rw [hrecovered, he]
        rfl
      rw [horiginal] at hrecovered
      have hround : rounds (fileRound volume root state) [s] w.disk =
          (true, (w.own p (some original)).disk) := by
        rw [rounds_singleton, fileRound_of_some htarget hrecovered]
        rfl
      have hrestored : Resumes (fileRound volume root state) (TargetsOf volume root) [s] w.disk
          (w.own p (some original)).disk := by
        refine ⟨?_, fun q hq => World.disk_own_other _ _ fun heq => ?_⟩
        · rw [hround, rounds_singleton]
          refine fileRound_again hholds hrecovered htarget (World.disk_own_same _ _ _) ?_
          exact World.disk_own_other _ _ fun heq =>
            not_stored_target htarget (heq ▸ Path.stored_object s.sha256)
        · exact hq s List.mem_cons_self (heq ▸ htarget)
      refine wpTask_bind.mpr (wpTask_replaceTarget hA htarget hdisk ?_ hhere fun hcan _ =>
        ⟨.inr ⟨hcan, hhere⟩, .inr ⟨hcan, hrestored⟩⟩)
      -- the file is read back
      have hreadback : value (readTarget volume root s.relativePath).run
          (w.own p (some original)).disk = .ok original :=
        value_readTarget_eq_ok.mpr ⟨p, htarget, World.disk_own_same _ _ _,
          (value_readBounded_eq_ok.mp horiginal).2⟩
      have hcareful : Careful (TargetOf volume root s.relativePath) (fun _ => True)
          ((readTarget volume root s.relativePath).adapt readbackError).run :=
        (careful_readTarget volume root s.relativePath).adapt _ fun _ _ => trivial
      refine does_careful_bind hA hcareful hrestored (fun e he => ?_) fun readback hread => ?_
      · rw [value_adapt, hreadback] at he
        cases he
      rw [value_adapt_eq_ok, hreadback, Except.ok.injEq] at hread
      subst hread
      rw [ensure, if_pos rfl]
      exact ⟨hround, trivial⟩
    · have hsame : digestHex current = s.sha256 :=
        hknown.resolve_right hdesired
      rw [if_neg hdesired, if_pos hsame] at hrecovered
      rw [if_neg hdesired]
      exact ⟨hstays hrecovered, trivial⟩

end

/-! ## 2. A journal -/

/-- What recovery makes of a journal. -/
inductive Verdict
  /-- It is gone, or the transaction is finished. -/
  | over
  | stop
  | quarantine
  /-- No file has been replaced. -/
  | finish (b : BackupSet)
  | files (b : BackupSet) (state : JournalState)

/-- The backup of the transaction, where there is something to do. -/
def Verdict.backup : Verdict → Option BackupSet
  | .finish b => some b
  | .files b _ => some b
  | _ => none

section

variable [Bcrypt] {volume : Volume} {root : Option Bytes} {d d' : StoreDisk} {id : Bytes}

/-- What recovery makes of a journal that is valid. -/
def verdictOf (volume : Volume) (expectedConfigRoot : Option Bytes) (d : StoreDisk)
    (journal : RecoveryJournal) : Verdict :=
  match value (loadBackup journal.id).run d with
  | .error _ => .stop
  | .ok b =>
    if journal.state = .complete then .over
    else match expectedConfigRoot with
      | none => .stop
      | some root =>
        if volume.directory b.configRoot ≠ none ∧
            volume.directory b.configRoot = volume.directory root then
          match value (verify b).run d with
          | .error _ => .stop
          | .ok _ => if journal.state = .backupComplete then .finish b else .files b journal.state
        else .stop

def verdict (volume : Volume) (expectedConfigRoot : Option Bytes) (d : StoreDisk) (id : Bytes) :
    Verdict :=
  match d (.journal id) with
  | none => .over
  | some bytes =>
    if bytes.length ≤ maxJournalBytes then
      match parseJournal bytes id with
      | .error _ => .quarantine
      | .ok journal => verdictOf volume expectedConfigRoot d journal
    else .quarantine

/-- The journal of a transaction that is finished. -/
def finishJournal (d : StoreDisk) (id : Bytes) : StoreDisk :=
  d.set (.journal id) (some (journalText .complete id))

/-- What becomes of the files. -/
def Verdict.apply (volume : Volume) (id : Bytes) : Verdict → StoreDisk → Bool × StoreDisk
  | .over, d => (true, d)
  | .stop, d => (false, d)
  | .quarantine, d => (true, d.set (.journal id) none)
  | .finish _, d => (true, finishJournal d id)
  | .files b state, d => match rounds (fileRound volume b.configRoot state) b.snapshots d with
    | (true, d') => (true, finishJournal d' id)
    | (false, d') => (false, d')

/-- A round of the loop over the journals. -/
def entryRound (volume : Volume) (expectedConfigRoot : Option Bytes) :
    Path → StoreDisk → Bool × StoreDisk
  | .journal id, d => (verdict volume expectedConfigRoot d id).apply volume id d
  | _, d => (true, d)

/-- The files that a round sets: the journal, and files outside the store. -/
def SetBy (entry p : Path) : Prop := p = entry ∨ ¬ p.stored

/-- Where there is something to do, the backup verifies. -/
theorem verifies_of_backup {b : BackupSet} (h : (verdict volume root d id).backup = some b) :
    Loads d id b ∧ Verifies d b := by
  unfold verdict at h
  split at h
  · cases h
  · split at h
    · split at h
      · cases h
      · rename_i journal hparse
        have hid := (parseJournal_eq_ok hparse).2
        unfold verdictOf at h
        split at h
        · cases h
        · rename_i loaded hload
          have hloads : Loads d id loaded := hid ▸ value_loadBackup_eq_ok.mp hload
          split at h
          · cases h
          · split at h
            · cases h
            · split at h
              · split at h
                · cases h
                · rename_i hverify
                  have hverifies := value_verify_eq_ok.mp hverify
                  split at h
                  · cases h
                    exact ⟨hloads, hverifies⟩
                  · cases h
                    exact ⟨hloads, hverifies⟩
              · cases h
    · cases h

/-- Only the files of the store count. -/
theorem verdict_congr (h : ∀ p : Path, p.stored → d' p = d p) :
    verdict volume root d' id = verdict volume root d id := by
  have hload : ∀ id, value (loadBackup id).run d' = value (loadBackup id).run d := fun id =>
    value_congr (careful_loadBackup id) h
  have hverify : ∀ b, value (verify b).run d' = value (verify b).run d := fun b =>
    value_congr (careful_verify b) h
  unfold verdict verdictOf
  simp only [h _ (Path.stored_journal id), hload, hverify]

/-- What is over stays so with its journal, as long as there is a backup to load. -/
theorem over_of_loads (h : verdict volume root d id = .over)
    (hjournal : d' (.journal id) = d (.journal id))
    (hloads : ∀ b, Loads d id b → ∃ b', Loads d' id b') : verdict volume root d' id = .over := by
  unfold verdict at h ⊢
  rw [hjournal]
  cases hbytes : d (.journal id) with
  | none => rfl
  | some bytes =>
    rw [hbytes] at h
    simp only at h ⊢
    by_cases hlength : bytes.length ≤ maxJournalBytes
    · rw [if_pos hlength] at h ⊢
      cases hparse : parseJournal bytes id with
      | error e =>
        rw [hparse] at h
        cases h
      | ok journal =>
        rw [hparse] at h
        have hid := (parseJournal_eq_ok hparse).2
        simp only [verdictOf, hid] at h ⊢
        split at h
        · cases h
        · rename_i b hload
          obtain ⟨b', hload'⟩ := hloads b (value_loadBackup_eq_ok.mp hload)
          rw [value_loadBackup_eq_ok.mpr hload']
          simp only
          split at h
          · rw [if_pos ‹_›]
          · split at h
            · cases h
            · split at h
              · split at h
                · cases h
                · split at h <;> cases h
              · cases h
    · rw [if_neg hlength] at h
      cases h

/-- What is over stays so with its records. -/
theorem over_congr (h : verdict volume root d id = .over)
    (hjournal : d' (.journal id) = d (.journal id)) (hmanifest : d' (.manifest id) = d (.manifest id)) :
    verdict volume root d' id = .over :=
  over_of_loads h hjournal fun b hb => ⟨b, hb.congr hmanifest⟩

/-- A journal that was finished is over. -/
theorem over_of_finishJournal {b : BackupSet} (hb : Loads d id b)
    (h : ∀ p, p ≠ Path.journal id → p.stored → d' p = d p) :
    verdict volume root (finishJournal d' id) id = .over := by
  have hmanifest : finishJournal d' id (.manifest id) = d (.manifest id) :=
    (Disk.set_other _ _ (by simp)).trans (h _ (by simp) (Path.stored_manifest id))
  have hload : value (loadBackup id).run (finishJournal d' id) = .ok b :=
    value_loadBackup_eq_ok.mpr (hb.congr hmanifest)
  unfold verdict
  rw [show finishJournal d' id (.journal id) = some (journalText .complete id) from
    Disk.set_same _ _ _]
  simp only
  rw [if_pos (length_journalText_le .complete hb.valid), parseJournal_journalText .complete hb.valid]
  simp only [verdictOf, hload, if_true]

/-- The files of a transaction whose backup verifies. -/
structure FilesOf (volume : Volume) (d : StoreDisk) (id : Bytes) (b : BackupSet)
    (state : JournalState) : Prop where
  loads : Loads d id b
  holds : ∀ s ∈ b.snapshots, Holds d s
  nodup : b.snapshots.Nodup
  restartable : Restartable (fileRound volume b.configRoot state) (TargetsOf volume b.configRoot)
    (fun d => ∀ s ∈ b.snapshots, Holds d s) b.snapshots

theorem filesOf_of_verdict {b : BackupSet} {state : JournalState}
    (h : verdict volume root d id = .files b state) : FilesOf volume d id b state := by
  obtain ⟨hloads, hverifies⟩ := verifies_of_backup (by rw [h]; rfl)
  obtain ⟨text, -, -, hparse⟩ := hloads.manifest
  obtain ⟨-, -, hnodup⟩ := parseManifest_files hparse
  exact ⟨hloads, hverifies.objects, hnodup.of_map _, restartable_fileRound _ _ state hnodup⟩

/-- The rounds over them leave the store alone. -/
theorem FilesOf.stored {b : BackupSet} {state : JournalState} (h : FilesOf volume d id b state)
    {ok : Bool} (hrounds : rounds (fileRound volume b.configRoot state) b.snapshots d = (ok, d')) :
    ∀ p : Path, p.stored → d' p = d p := by
  have hframe := h.restartable.rounds_frame h.holds
  rw [hrounds] at hframe
  exact fun p hp => hframe p fun _ _ htarget => not_stored_target htarget hp

theorem entryRound_journal (volume : Volume) (root : Option Bytes) (id : Bytes) (d : StoreDisk) :
    entryRound volume root (.journal id) d = (verdict volume root d id).apply volume id d := rfl

/-- A round sets its journal and the files of the transaction. -/
theorem entryRound_frame (volume : Volume) (root : Option Bytes) (entry : Path) (d : StoreDisk) :
    OwnOnly SetBy [entry] d (entryRound volume root entry d).2 := by
  intro p hp
  obtain ⟨hne, hstored⟩ := not_or.mp (hp entry List.mem_cons_self)
  rw [not_not] at hstored
  cases entry with
  | journal id =>
    rw [entryRound_journal]
    cases hverdict : verdict volume root d id with
    | stop => rfl
    | quarantine => exact Disk.set_other _ _ hne
    | finish b => exact Disk.set_other _ _ hne
    | files b state =>
      rw [Verdict.apply]
      rcases hrounds : rounds (fileRound volume b.configRoot state) b.snapshots d with ⟨ok, d₁⟩
      have hframe := (filesOf_of_verdict hverdict).stored hrounds p hstored
      cases ok with
      | true => exact (Disk.set_other _ _ hne).trans hframe
      | false => exact hframe
    | _ => rfl
  | _ => rfl

/-- A round that has found something to do changes the journal. -/
theorem over_of_entryRound (h : entryRound volume root (.journal id) d = (true, d)) :
    verdict volume root d id = .over := by
  rw [entryRound_journal] at h
  cases hverdict : verdict volume root d id with
  | stop =>
    rw [hverdict] at h
    cases h
  | quarantine =>
    rw [hverdict, Verdict.apply, Prod.mk.injEq] at h
    have hgone : d (.journal id) = none := by rw [← h.2, Disk.set_same]
    rw [verdict, hgone] at hverdict
    cases hverdict
  | finish b =>
    obtain ⟨hloads, -⟩ := verifies_of_backup (by rw [hverdict]; rfl)
    rw [hverdict, Verdict.apply, Prod.mk.injEq] at h
    have hover := @over_of_finishJournal _ volume root d d id b hloads fun _ _ _ => rfl
    rw [h.2, hverdict] at hover
    cases hover
  | files b state =>
    have hfiles := filesOf_of_verdict hverdict
    rw [hverdict, Verdict.apply] at h
    rcases hrounds : rounds (fileRound volume b.configRoot state) b.snapshots d with ⟨ok, d₁⟩
    have hframe := hfiles.stored hrounds
    rw [hrounds] at h
    cases ok with
    | true =>
      rw [Prod.mk.injEq] at h
      have hover := @over_of_finishJournal _ volume root d d₁ id b hfiles.loads
        fun p _ hp => hframe p hp
      rw [h.2, hverdict] at hover
      cases hover
    | false => cases h
  | _ => rfl

theorem entryRound_of_over (h : verdict volume root d id = .over) :
    entryRound volume root (.journal id) d = (true, d) := by
  rw [entryRound_journal, h]
  rfl

/-- **A journal that was seen to** has nothing more to do, and one that stopped stops again. -/
theorem entryRound_again (volume : Volume) (root : Option Bytes) (entry : Path) (d : StoreDisk) :
    entryRound volume root entry (entryRound volume root entry d).2 =
      entryRound volume root entry d := by
  cases entry with
  | journal id =>
    rw [entryRound_journal volume root id d]
    cases hverdict : verdict volume root d id with
    | stop =>
      rw [entryRound_journal, Verdict.apply, hverdict]
      rfl
    | quarantine =>
      refine entryRound_of_over ?_
      simp only [verdict, Verdict.apply, Disk.set_same]
    | finish b =>
      obtain ⟨hloads, -⟩ := verifies_of_backup (by rw [hverdict]; rfl)
      exact entryRound_of_over (over_of_finishJournal hloads fun _ _ _ => rfl)
    | files b state =>
      have hfiles := filesOf_of_verdict hverdict
      have hagain := hfiles.restartable.rounds_again hfiles.nodup hfiles.holds
      rw [Verdict.apply]
      rcases hrounds : rounds (fileRound volume b.configRoot state) b.snapshots d with ⟨ok, d₁⟩
      have hframe := hfiles.stored hrounds
      rw [hrounds] at hagain
      cases ok with
      | true =>
        exact entryRound_of_over (over_of_finishJournal hfiles.loads fun p _ hp => hframe p hp)
      | false =>
        simp only at hagain ⊢
        rw [entryRound_journal, verdict_congr hframe, hverdict, Verdict.apply, hagain]
    | _ => exact entryRound_of_over hverdict
  | _ => rfl

/-- **The rounds over the journals** can be repeated. -/
theorem restartable_entryRound (volume : Volume) (root : Option Bytes) {l : List Path}
    (hl : ∀ p ∈ l, p.isJournal = true) :
    Restartable (entryRound volume root) SetBy (fun _ => True) l where
  keeps _ _ _ _ := trivial
  frame entry _ d _ := entryRound_frame volume root entry d
  again entry _ d _ := entryRound_again volume root entry d
  apart entry hentry d d' _ hdone hsame := by
    cases entry with
    | journal id =>
      have hstays : ∀ p : Path, p.stored → (∀ b ∈ l, b ≠ .journal id → p ≠ b) → d' p = d p := by
        intro p hp hne
        refine hsame p fun b hb hother => not_or.mpr ⟨hne b hb hother, not_not.mpr hp⟩
      refine entryRound_of_over (over_congr (over_of_entryRound hdone) ?_ ?_)
      · exact hstays _ (Path.stored_journal id) fun b _ hne heq => hne heq.symm
      · refine hstays _ (Path.stored_manifest id) fun b hb _ heq => ?_
        have hjournal := hl b hb
        rw [← heq] at hjournal
        cases hjournal
    | _ => cases hl _ hentry

end

/-! ## 3. The program -/

/-- A read that fails is not one of a file that is too large. -/
theorem careful_readBounded_code (p : Path) (maximum : ℕ) :
    Careful (· = p) (fun e => e.nativeCode ≠ fileTooLarge) (readBounded p maximum).run := by
  refine careful_perform rfl ⟨_, by decide, rfl⟩ fun answer => ?_
  cases answer with
  | content bytes => exact careful_liftExcept _
  | _ => exact .ret _

section

variable [Bcrypt] {volume : Volume} {root : Option Bytes} {id : Bytes} {w : StoreWorld}
  {A : Turn Path Bytes → Prop}

/-- What is done to the journal of an entry. -/
abbrev DoesEntry {β : Type} (A : Turn Path Bytes → Prop) (volume : Volume) (root : Option Bytes)
    (id : Bytes) (d : StoreDisk) (x : StoreTask β) (good : β → StoreWorld → Prop)
    (w : StoreWorld) : Prop :=
  Does A (entryRound volume root) SetBy [.journal id] d x good w

theorem rounds_entry (volume : Volume) (root : Option Bytes) (id : Bytes) (d : StoreDisk) :
    rounds (entryRound volume root) [.journal id] d =
      (verdict volume root d id).apply volume id d :=
  rounds_singleton _ _ _

/-- The last step of a round: once it has taken place, the round starts again with nothing to do. -/
theorem resumes_of_rounds {d d' : StoreDisk}
    (h : rounds (entryRound volume root) [.journal id] d = (true, d')) :
    Resumes (entryRound volume root) SetBy [.journal id] d d' := by
  have hagain := entryRound_again volume root (.journal id) d
  have hframe := entryRound_frame volume root (.journal id) d
  rw [rounds_singleton] at h
  rw [h] at hagain hframe
  exact ⟨by rw [rounds_singleton, rounds_singleton, hagain, h], hframe⟩

/-- The journal is finished. -/
theorem does_finish {β : Type} (hA : ∀ turn, A turn → turn.others = []) {d : StoreDisk} {b : BackupSet}
    (hid : b.id = id)
    (hhere : Resumes (entryRound volume root) SetBy [.journal id] d w.disk)
    (hround : rounds (entryRound volume root) [.journal id] d = (true, finishJournal w.disk id))
    {r : β} {good : β → StoreWorld → Prop} (hgood : ∀ v, good r v) :
    DoesEntry A volume root id d (do
      writeJournal b .complete
      pure r) good w := by
  have hdone := resumes_of_rounds hround
  subst hid
  refine wpTask_bind.mpr (wpTask_atomicReplace (I := (· = w)) ?_ ?_ rfl ?_ ?_ ?_)
  · rintro turn v hturn rfl
    rw [hA turn hturn]
    rfl
  · rintro v rfl
    exact hhere
  · rintro v rfl
    exact ⟨hround, hgood _⟩
  · rintro hcan e v rfl
    exact .inr ⟨hcan, hhere⟩
  · rintro ⟨turn, hturn, hlate⟩ e v rfl
    exact .inr ⟨⟨turn, hturn, .inr hlate⟩, hdone⟩

/-- The journal is moved away. -/
theorem does_quarantineJournal (hA : ∀ turn, A turn → turn.others = [])
    (hthere : w.disk (.journal id) ≠ none) (h : verdict volume root w.disk id = .quarantine)
    (e : Error) :
    DoesEntry A volume root id w.disk (quarantineJournal (.journal id) e) (fun r _ => r = none) w := by
  have hround : rounds (entryRound volume root) [.journal id] w.disk =
      (true, (w.own (.journal id) none).disk) := by
    rw [rounds_entry, h]
    rfl
  have hhere : Resumes (entryRound volume root) SetBy [.journal id] w.disk w.disk :=
    Resumes.refl _ _ _ _
  refine wpTask_bind.mpr (wpTask_adapt.mpr ?_)
  unfold quarantineRegularFile
  refine wpTask_bind.mpr ?_
  rintro ⟨others, fate⟩ hturn
  obtain rfl : others = [] := hA _ hturn
  have hcan : fate = .fail ∨ fate = .late → CanFail A := fun hfate => ⟨_, hturn, hfate⟩
  cases fate with
  | ok =>
    rw [World.intrude_nil, World.act_remove _ hthere]
    simp only [Op.answer, if_neg hthere]
    exact ⟨hround, rfl⟩
  | fail => exact .inr ⟨hcan (.inl rfl), hhere⟩
  | late =>
    rw [World.intrude_nil, World.act_remove _ hthere]
    exact .inr ⟨hcan (.inr rfl), resumes_of_rounds hround⟩
  | crash => exact hhere

/-- The directories are compared, and recovery gives up where they are not the same. -/
theorem does_sameDirectory {β : Type} (hA : ∀ turn, A turn → turn.others = []) {left right : Bytes}
    {e : Error} {rest : StoreTask β} {good : β → StoreWorld → Prop}
    (hnot : ¬ (volume.directory left ≠ none ∧ volume.directory left = volume.directory right) →
      rounds (entryRound volume root) [.journal id] w.disk = (false, w.disk))
    (hok : volume.directory left ≠ none ∧ volume.directory left = volume.directory right →
      DoesEntry A volume root id w.disk rest good w) :
    DoesEntry A volume root id w.disk (do
      let same ← sameExistingDirectory volume left right
      ensure (same = true) e
      rest) good w := by
  have hhere : Resumes (entryRound volume root) SetBy [.journal id] w.disk w.disk :=
    Resumes.refl _ _ _ _
  refine wpTask_bind.mpr (wpTask_bind.mpr ?_)
  rintro ⟨others, fate⟩ hturn
  obtain rfl : others = [] := hA _ hturn
  have hfailed : fate = .fail ∨ fate = .late →
      DoesEntry A volume root id w.disk (ensure (false = true) e >>= fun _ => rest) good w := fun hfate =>
    .inr ⟨⟨_, hturn, hfate⟩, hhere⟩
  cases fate with
  | ok => exact does_ensure_bind (fun h => hnot (by simpa using h)) fun h => hok (by simpa using h)
  | fail => exact hfailed (.inl rfl)
  | late => exact hfailed (.inr rfl)
  | crash => exact hhere

/-- A transaction whose files are recovered: the files first, and then the journal. -/
theorem rounds_of_files {d d' : StoreDisk} {b : BackupSet} {state : JournalState}
    (h : verdict volume root d id = .files b state) (hd : ∀ p : Path, p.stored → d' p = d p) :
    rounds (entryRound volume root) [.journal id] d' =
      match rounds (fileRound volume b.configRoot state) b.snapshots d' with
      | (true, d'') => (true, finishJournal d'' id)
      | (false, d'') => (false, d'') := by
  rw [rounds_entry, verdict_congr hd, h, Verdict.apply]

/-- The round starts again where the rounds over the files do. -/
theorem resumes_of_files {d d' : StoreDisk} {b : BackupSet} {state : JournalState}
    (h : verdict volume root d id = .files b state)
    (hfiles : Resumes (fileRound volume b.configRoot state) (TargetsOf volume b.configRoot)
      b.snapshots d d') :
    Resumes (entryRound volume root) SetBy [.journal id] d d' := by
  have hstored : ∀ p : Path, p.stored → d' p = d p := fun p hp =>
    hfiles.own p fun _ _ htarget => not_stored_target htarget hp
  refine ⟨?_, fun p hp => hstored p ?_⟩
  · rw [rounds_of_files h hstored, rounds_of_files h fun _ _ => rfl, hfiles.rounds]
  · exact not_not.mp (not_or.mp (hp _ List.mem_cons_self)).2

/-- **The files of a transaction** are recovered. -/
theorem does_recoverFiles (hA : ∀ turn, A turn → turn.others = []) {b : BackupSet}
    {state : JournalState} (hid : b.id = id)
    (hverdict : verdict volume root w.disk id = .files b state) (result : RecoveryResult) :
    DoesEntry A volume root id w.disk (recoverFiles volume b state result)
      (fun r _ => verdict volume root w.disk id = .over → r = result) w := by
  have hfiles := filesOf_of_verdict hverdict
  have hround := @rounds_of_files _ volume root id w.disk w.disk b state hverdict fun _ _ => rfl
  have hloop := does_forEach hfiles.restartable hfiles.nodup
    (fun s hs v hholds => @does_recoverFile _ volume b.configRoot state s A v hA (hholds s hs))
    hfiles.holds
  unfold recoverFiles
  refine wpTask_bind.mpr (wpTask_mono hloop (fun _ v hv => ?_) (fun _ v hv => ?_)
    fun v hv => resumes_of_files hverdict hv)
  · have hframe := hfiles.restartable.rounds_frame hfiles.holds
    have hagain := hfiles.restartable.rounds_again hfiles.nodup hfiles.holds
    rw [hv.1] at hframe hagain hround
    refine does_finish hA hid (resumes_of_files hverdict ⟨hagain.trans hv.1.symm, hframe⟩) hround
      fun _ h => ?_
    rw [hverdict] at h
    cases h
  · rcases hv with hfalse | ⟨hcan, hv⟩
    · rw [hfalse] at hround
      exact .inl hround
    · exact .inr ⟨hcan, resumes_of_files hverdict hv⟩

/-- **A journal that is valid** is recovered as the round says. -/
theorem does_recoverJournal (hA : ∀ turn, A turn → turn.others = []) {journal : RecoveryJournal}
    (hid : journal.id = id)
    (hverdict : verdict volume root w.disk id = verdictOf volume root w.disk journal)
    (result : RecoveryResult) :
    DoesEntry A volume root id w.disk (recoverJournal volume root journal result)
      (fun r _ => verdict volume root w.disk id = .over → r = result) w := by
  have hhere : Resumes (entryRound volume root) SetBy [.journal id] w.disk w.disk :=
    Resumes.refl _ _ _ _
  have hstop : verdictOf volume root w.disk journal = .stop →
      rounds (entryRound volume root) [.journal id] w.disk = (false, w.disk) := fun h => by
    rw [rounds_entry, hverdict, h]
    rfl
  unfold recoverJournal
  refine does_careful_bind hA (careful_loadBackup journal.id) hhere (fun e he => hstop ?_)
    fun b hb => ?_
  · rw [verdictOf, he]
  have hbid : b.id = id := (value_loadBackup_eq_ok.mp hb).id_eq.trans hid
  by_cases hcomplete : journal.state = .complete
  · rw [if_pos hcomplete]
    refine ⟨?_, fun _ => rfl⟩
    rw [rounds_entry, hverdict, verdictOf, hb]
    simp only [if_pos hcomplete, Verdict.apply]
  · rw [if_neg hcomplete]
    cases root with
    | none =>
      refine .inl (hstop ?_)
      rw [verdictOf, hb]
      simp only [if_neg hcomplete]
    | some root =>
      dsimp only
      refine does_sameDirectory hA (fun hnot => hstop ?_) fun hsame => ?_
      · rw [verdictOf, hb]
        simp only [if_neg hcomplete, if_neg hnot]
      refine does_careful_bind hA (careful_verify b) hhere (fun e he => hstop ?_)
        fun _ hverify => ?_
      · rw [verdictOf, hb]
        simp only [if_neg hcomplete, if_pos hsame, he]
      have hvalid : verdict volume (some root) w.disk id =
          if journal.state = .backupComplete then .finish b else .files b journal.state := by
        rw [hverdict, verdictOf, hb]
        simp only [if_neg hcomplete, if_pos hsame, hverify]
      by_cases hbackup : journal.state = .backupComplete
      · rw [if_pos hbackup] at hvalid ⊢
        refine does_finish hA hbid hhere ?_ fun _ _ => rfl
        rw [rounds_entry, hvalid]
        rfl
      · rw [if_neg hbackup] at hvalid ⊢
        exact does_recoverFiles hA hbid hvalid result

/-- **A round of the loop** over the journals. -/
theorem does_recoverEntry (hA : ∀ turn, A turn → turn.others = []) {bytes : Bytes}
    (hbytes : w.disk (.journal id) = some bytes) (result : RecoveryResult) :
    DoesEntry A volume root id w.disk (recoverEntry volume root result (.journal id))
      (fun r _ => verdict volume root w.disk id = .over → r = result) w := by
  have hhere : Resumes (entryRound volume root) SetBy [.journal id] w.disk w.disk :=
    Resumes.refl _ _ _ _
  have hverdict : verdict volume root w.disk id =
      if bytes.length ≤ maxJournalBytes then
        match parseJournal bytes id with
        | .error _ => .quarantine
        | .ok journal => verdictOf volume root w.disk journal
      else .quarantine := by
    unfold verdict
    rw [hbytes]
  have hquarantine : verdict volume root w.disk id = .quarantine →
      ∀ e (k : Option RecoveryJournal → StoreTask RecoveryResult), k none = pure result →
        DoesEntry A volume root id w.disk (quarantineJournal (.journal id) e >>= k)
          (fun r _ => verdict volume root w.disk id = .over → r = result) w := by
    intro h e k hk
    refine wpTask_bind.mpr (wpTask_mono (does_quarantineJournal hA (by rw [hbytes]; simp) h e)
      (fun r v hr => ?_) (fun _ _ h => h) fun _ h => h)
    obtain ⟨hround, rfl⟩ := hr
    rw [hk]
    exact ⟨hround, fun _ => rfl⟩
  unfold recoverEntry
  refine does_careful_bind hA (careful_inspect (R := fun _ => True) _) hhere (fun e he => by cases he) fun _ _ => ?_
  unfold readJournal
  refine wpTask_bind.mpr (wpTask_careful_attempt (I := (· = w))
    (careful_readBounded_code (.journal id) maxJournalBytes) ?_ ?_ ?_ rfl ?_ ?_)
  · rintro turn v hturn rfl
    rw [hA turn hturn]
    rfl
  · intro turn hturn o ho
    rw [hA turn hturn] at ho
    cases ho
  · rintro v rfl
    exact hhere
  · rintro found v rfl hvalue
    obtain ⟨hfound, hlength⟩ := value_readBounded_eq_ok.mp hvalue
    rw [hbytes, Option.some.injEq] at hfound
    subst hfound
    rw [if_pos hlength] at hverdict
    cases hparse : parseJournal bytes id with
    | error e =>
      rw [hparse] at hverdict
      simp only [Path.stem, hparse]
      exact wpTask_bind.mp (hquarantine hverdict e _ rfl)
    | ok journal =>
      rw [hparse] at hverdict
      simp only [Path.stem, hparse]
      exact does_recoverJournal hA (parseJournal_eq_ok hparse).2 hverdict result
  · rintro e v rfl hvalue
    rcases hvalue with hvalue | ⟨hcan, hcode⟩
    · rw [value_readBounded_of_some hbytes, bounded] at hvalue
      split at hvalue
      · cases hvalue
      · rename_i hlength
        cases hvalue
        rw [if_neg hlength] at hverdict
        simp only [if_true]
        exact wpTask_bind.mp (hquarantine hverdict _ _ rfl)
    · simp only [if_neg hcode]
      exact .inr ⟨hcan, hhere⟩

/-- **The loop** over journals that are there. -/
theorem does_recoverEntries (hA : ∀ turn, A turn → turn.others = []) {l : List Path}
    (hl : l.Nodup) (hjournals : ∀ p ∈ l, p.isJournal = true) (hthere : ∀ p ∈ l, w.disk p ≠ none)
    (result : RecoveryResult) :
    Does A (entryRound volume root) SetBy l w.disk (recoverEntries volume root result l)
      (fun r _ => (∀ p ∈ l, entryRound volume root p w.disk = (true, w.disk)) → r = result) w := by
  induction l generalizing w result with
  | nil => exact ⟨rfl, fun _ => rfl⟩
  | cons entry l ih =>
    obtain ⟨hentry, hrest⟩ := List.nodup_cons.mp hl
    obtain ⟨hjournal, hothers⟩ := List.forall_mem_cons.mp hjournals
    cases entry with
    | journal id =>
      obtain ⟨bytes, hbytes⟩ := Option.ne_none_iff_exists'.mp (hthere _ List.mem_cons_self)
      refine Does.cons (restartable_entryRound volume root hjournals) hentry trivial
        (does_recoverEntry hA hbytes result) fun r v _ hround hr => ?_
      have hstill : ∀ p ∈ l, v.disk p ≠ none := by
        intro p hp
        have hframe := entryRound_frame volume root (.journal id) w.disk
        rw [hround] at hframe
        have hsame : v.disk p = w.disk p := by
          refine hframe p fun b hb => ?_
          rw [List.mem_singleton.mp hb]
          refine not_or.mpr ⟨fun heq => hentry (heq ▸ hp), not_not.mpr ?_⟩
          cases p with
          | journal id' => exact Path.stored_journal id'
          | _ => cases hothers _ hp
        rw [hsame]
        exact hthere p (List.mem_cons_of_mem _ hp)
      refine (ih hrest hothers hstill r).mono fun r' _ hr' hsettled => ?_
      obtain ⟨hfirst, hsettled⟩ := List.forall_mem_cons.mp hsettled
      have hsame : v.disk = w.disk := by
        rw [hfirst, Prod.mk.injEq] at hround
        exact hround.2.symm
      rw [hr' (by rwa [hsame]), hr (over_of_entryRound hfirst)]
    | _ => cases hjournal

/-- The journals that a recovery goes through. -/
theorem rounds_present (volume : Volume) (root : Option Bytes) {l : List Path} (hl : l.Nodup)
    (hjournals : ∀ p ∈ l, p.isJournal = true) {d d' : StoreDisk}
    (hgone : ∀ p ∈ l, d p = none → d' p = none) :
    rounds (entryRound volume root) (l.filter fun p => (d p).isSome) d' =
      rounds (entryRound volume root) l d' := by
  refine (restartable_entryRound volume root hjournals).rounds_filter hl trivial fun p hp hnone => ?_
  cases p with
  | journal id =>
    refine entryRound_of_over ?_
    rw [verdict, hgone _ hp (by simpa using hnone)]
  | _ => cases hjournals _ hp

/-- **Recovery** does the rounds over all journals of the directory. -/
theorem does_recoverTransactions (hA : ∀ turn, A turn → turn.others = []) {directory : List Path}
    (hdirectory : directory.Nodup) :
    Does A (entryRound volume root) SetBy (directory.filter Path.isJournal) w.disk
      (recoverTransactions volume directory root)
      (fun r _ => (∀ p ∈ directory.filter Path.isJournal,
        entryRound volume root p w.disk = (true, w.disk)) → r = {}) w := by
  have hl : (directory.filter Path.isJournal).Nodup := hdirectory.filter _
  have hjournals : ∀ p ∈ directory.filter Path.isJournal, p.isJournal = true := fun p hp =>
    (List.mem_filter.mp hp).2
  have hhere : Resumes (entryRound volume root) SetBy (directory.filter Path.isJournal) w.disk
      w.disk := Resumes.refl _ _ _ _
  -- over the journals that are there
  have hpresent := @does_recoverEntries _ volume root w A hA _
    (hl.filter fun p => (w.disk p).isSome)
    (fun p hp => hjournals p (List.mem_filter.mp hp).1)
    (fun p hp => Option.isSome_iff_ne_none.mp (List.mem_filter.mp hp).2) {}
  have hrounds : ∀ d' : StoreDisk, OwnOnly SetBy
      ((directory.filter Path.isJournal).filter fun p => (w.disk p).isSome) w.disk d' →
      rounds (entryRound volume root)
          ((directory.filter Path.isJournal).filter fun p => (w.disk p).isSome) d' =
        rounds (entryRound volume root) (directory.filter Path.isJournal) d' := by
    intro d' hown
    refine rounds_present volume root hl hjournals fun p hp hnone => ?_
    rw [hown p fun entry hentry => ?_, hnone]
    rintro (rfl | hstored)
    · simp [hnone] at hentry
    · cases p with
      | journal id => exact hstored (Path.stored_journal id)
      | _ => cases hjournals _ hp
  have hstart := hrounds w.disk (OwnOnly.refl _ _ _)
  have hresumes : ∀ d', Resumes (entryRound volume root) SetBy
      ((directory.filter Path.isJournal).filter fun p => (w.disk p).isSome) w.disk d' →
      Resumes (entryRound volume root) SetBy (directory.filter Path.isJournal) w.disk d' := by
    intro d' h
    refine ⟨?_, fun p hp => h.own p fun entry hentry => hp entry (List.mem_filter.mp hentry).1⟩
    rw [← hrounds d' h.own, ← hstart]
    exact h.rounds
  have hloop : Does A (entryRound volume root) SetBy (directory.filter Path.isJournal) w.disk
      (recoverEntries volume root {}
        ((directory.filter Path.isJournal).filter fun p => (w.disk p).isSome))
      (fun r _ => (∀ p ∈ directory.filter Path.isJournal,
        entryRound volume root p w.disk = (true, w.disk)) → r = {}) w := by
    refine wpTask_mono hpresent (fun r v hr => ⟨hstart ▸ hr.1, fun hsettled => hr.2 ?_⟩)
      (fun _ v hv => ?_) fun v => hresumes v.disk
    · exact fun p hp => hsettled p (List.mem_filter.mp hp).1
    · rcases hv with hfalse | ⟨hcan, hv⟩
      · exact .inl (hstart ▸ hfalse)
      · exact .inr ⟨hcan, hresumes v.disk hv⟩
  unfold recoverTransactions
  refine does_careful_bind hA (careful_inspect (R := fun _ => True) _) hhere (fun e he => by cases he) fun _ _ => ?_
  unfold entries
  refine wpTask_bind.mpr (wpTask_bind.mpr ?_)
  rintro ⟨others, fate⟩ hturn
  obtain rfl : others = [] := hA _ hturn
  cases fate with
  | ok => exact hloop
  | fail => exact .inr ⟨⟨_, hturn, .inl rfl⟩, hhere⟩
  | late => exact .inr ⟨⟨_, hturn, .inr rfl⟩, hhere⟩
  | crash => exact hhere

end

/-! ## 4. Recovery after recovery -/

section

variable [Bcrypt]

/-- A run of recovery in a store. -/
def recovery (volume : Volume) (directory : List Path) (root : Option Bytes)
    (plan : List (Turn Path Bytes)) (d : StoreDisk) :
    Option (Except Error RecoveryResult) × StoreDisk :=
  let ended := run (recoverTransactions volume directory root).run plan ⟨d, []⟩
  (ended.1, ended.2.disk)

/-- The run has ended without an error. -/
def Succeeds (outcome : Option (Except Error RecoveryResult)) : Prop :=
  ∃ result, outcome = some (.ok result)

/-- An undisturbed run. -/
theorem rounds_eq_recovery (volume : Volume) {directory : List Path} (root : Option Bytes)
    (hdirectory : directory.Nodup) (d : StoreDisk) :
    ∃ ok, rounds (entryRound volume root) (directory.filter Path.isJournal) d =
        (ok, (recovery volume directory root [] d).2) ∧
      (ok = true ↔ Succeeds (recovery volume directory root [] d).1) ∧
      ∀ result, (recovery volume directory root [] d).1 = some (.ok result) →
        (∀ p ∈ directory.filter Path.isJournal, entryRound volume root p d = (true, d)) →
        result = {} := by
  obtain ⟨hrounds, hresult⟩ := (@does_recoverTransactions _ volume root ⟨d, []⟩ Undisturbed
    (fun _ h => h.1) _ hdirectory).exec
  unfold recovery Succeeds
  simp only [run_nil]
  refine ⟨_, hrounds, ?_, fun result h => hresult result (Option.some.inj h)⟩
  cases (exec (recoverTransactions volume directory root).run ⟨d, []⟩).1 with
  | ok result => simp [Except.isOk, Except.toBool]
  | error e => simp [Except.isOk, Except.toBool]

/-- **Recovery resumes.**  A run of recovery may be stopped in front of any of its operations, and
any of them may fail: a run that is started again on what it leaves behind, in a directory that
lists every name once, comes to the same files and journals as one undisturbed run, and succeeds
exactly when that does.  A further run changes nothing, succeeds exactly when that has, and
reports no transaction. -/
theorem recovery_resumes (volume : Volume) {directory : List Path} (hdirectory : directory.Nodup)
    (root : Option Bytes) (d : StoreDisk) {plan : List (Turn Path Bytes)}
    (hplan : ∀ turn ∈ plan, Alone turn) :
    (recovery volume directory root [] (recovery volume directory root plan d).2).2 =
        (recovery volume directory root [] d).2 ∧
      (Succeeds (recovery volume directory root [] (recovery volume directory root plan d).2).1 ↔
        Succeeds (recovery volume directory root [] d).1) ∧
      (recovery volume directory root [] (recovery volume directory root [] d).2).2 =
        (recovery volume directory root [] d).2 ∧
      (Succeeds (recovery volume directory root [] (recovery volume directory root [] d).2).1 ↔
        Succeeds (recovery volume directory root [] d).1) ∧
      ∀ result, (recovery volume directory root [] (recovery volume directory root [] d).2).1 =
        some (.ok result) → result = {} := by
  have hf := restartable_entryRound volume root
    (l := directory.filter Path.isJournal) fun p hp => (List.mem_filter.mp hp).2
  have hl : (directory.filter Path.isJournal).Nodup := hdirectory.filter _
  have hagain : ∀ d, _ := fun d => hf.rounds_again (d := d) hl trivial
  have hstopped := (@does_recoverTransactions _ volume root ⟨d, []⟩ Alone
    (fun _ h => h) _ hdirectory).restart (hagain d) rfl hplan
  obtain ⟨ok, hrounds, hok, -⟩ := rounds_eq_recovery volume root hdirectory d
  obtain ⟨ok₁, hrounds₁, hok₁, -⟩ := rounds_eq_recovery volume root hdirectory
    (recovery volume directory root plan d).2
  obtain ⟨ok₂, hrounds₂, hok₂, hresult₂⟩ := rounds_eq_recovery volume root hdirectory
    (recovery volume directory root [] d).2
  have hfirst := hrounds₁.symm.trans (hstopped.trans hrounds)
  have hsecond : (ok₂, _) = (ok, _) := hrounds₂.symm.trans (by
    have h := hagain d
    rwa [hrounds] at h)
  rw [Prod.mk.injEq] at hfirst hsecond
  refine ⟨hfirst.2, ?_, hsecond.2, ?_, fun result h => hresult₂ result h ?_⟩
  · rw [← hok₁, ← hok, hfirst.1]
  · rw [← hok₂, ← hok, hsecond.1]
  · have htrue : ok = true := hsecond.1 ▸ hok₂.mpr ⟨result, h⟩
    rw [htrue] at hrounds
    exact hf.settled_of_rounds hl trivial hrounds

end

/-- The files of a transaction that has replaced both files. -/
def replacedDisk : StoreDisk :=
  conflictDisk.set (.target 0 (ascii "KFGame.ini")) (some (ascii "d"))

/-- Recovery is stopped when it has rolled back the first file. -/
def stoppedPlan : List (Turn Path Bytes) := List.replicate 18 ({} : Turn Path Bytes) ++ [{ fate := .crash }]

theorem stoppedPlan_alone : ∀ turn ∈ stoppedPlan, Alone turn := by
  intro turn hturn
  rcases List.mem_append.mp hturn with h | h
  · rw [List.eq_of_mem_replicate h]
    rfl
  · rw [List.mem_singleton.mp h]
    rfl

/-- Recovery of two files, stopped between them. -/
theorem recovery_resumes_both :
    (recovery bothVolume [.journal (backupOf bothPreview).id] (some (ascii "C:/")) stoppedPlan
        replacedDisk).2 (.target 0 (ascii "KFEngine.ini")) = some (ascii "a") ∧
      (recovery bothVolume [.journal (backupOf bothPreview).id] (some (ascii "C:/")) stoppedPlan
        replacedDisk).2 (.target 0 (ascii "KFGame.ini")) = some (ascii "d") ∧
      (recovery bothVolume [.journal (backupOf bothPreview).id] (some (ascii "C:/")) []
        (recovery bothVolume [.journal (backupOf bothPreview).id] (some (ascii "C:/")) stoppedPlan
          replacedDisk).2).2 =
        (recovery bothVolume [.journal (backupOf bothPreview).id] (some (ascii "C:/")) []
          replacedDisk).2 :=
  ⟨by decide +kernel, by decide +kernel, (recovery_resumes bothVolume (List.nodup_singleton _)
    (some (ascii "C:/")) replacedDisk stoppedPlan_alone).1⟩

end Kf2Optimizer.Backup
