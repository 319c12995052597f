/-
# Applying is atomic

`apply_preview` may be stopped in front of any of its operations, and any of them may fail.
Whatever is left behind, recovery takes all files of the preview to their original bytes, or all
of them to the desired ones (`apply_crash_atomic`): the journal says at every moment which of the
two it will be (`Recoverable`).
-/
import Kf2Optimizer.Backup.RecoveryResumes
import Kf2Optimizer.Lib.Atomic

namespace Kf2Optimizer.Config

open Text Files Security Platform Backup

variable {volume : Volume} {preview : ConfigPreview} {root : Bytes} {d d' d'' : StoreDisk}
  {w : StoreWorld} {f : PreviewFile}

/-! ## 1. Reading and replacing -/

/-- A file of the store is written. -/
theorem keeps_atomicReplace {J : StoreDisk → Prop} {p : Path} {bytes : Bytes}
    {good : Unit → StoreDisk → Prop} (hJ : J w.disk)
    (h : good () (w.disk.set p (some bytes))) : Keeps J (atomicReplace p bytes) good w := by
  refine wpTask_atomicReplace (I := (· = w)) ?_ (fun v hv => ?_) rfl (fun v hv => ?_)
    (fun _ e v hv => ?_) fun hlate => absurd hlate not_canBeLate_atomically
  · rintro turn v hturn rfl
    exact hturn.intrude v
  · subst hv
    exact hJ
  · subst hv
    exact h
  · subst hv
    exact hJ

section

variable {α : Type} {J : StoreDisk → Prop} {good : α → StoreDisk → Prop} {rootPath relativePath : Bytes}

/-- A file is read, or cannot be. -/
theorem keeps_attempt_readTarget {next : Except Error Bytes → StoreTask α} (hJ : J w.disk)
    (hok : ∀ bytes p v, v.disk = w.disk → volume.target rootPath relativePath = some p →
      w.disk p = some bytes → Keeps J (next (.ok bytes)) good v)
    (herror : ∀ e v, v.disk = w.disk → Keeps J (next (.error e)) good v) :
    Keeps J (attempt (readTarget volume rootPath relativePath) >>= next) good w := by
  refine keeps_attempt_bind (S := (· = w.disk)) (E := fun bytes d' => d' = w.disk ∧
    ∃ p, volume.target rootPath relativePath = some p ∧ w.disk p = some bytes) ?_ ?_ ?_ ?_
  · refine keeps_careful (careful_readTarget volume rootPath relativePath) rfl fun bytes hread => ?_
    obtain ⟨p, hp, hbytes, -⟩ := value_readTarget_eq_ok.mp hread
    exact ⟨rfl, p, hp, hbytes⟩
  · rintro bytes v ⟨hv, p, hp, hbytes⟩
    exact hok bytes p v hv hp hbytes
  · exact herror
  · rintro d' rfl
    exact hJ

/-- A file is replaced, or it stays as it is. -/
theorem keeps_attempt_replaceTarget {next : Except Error Unit → StoreTask α} {expected bytes : Bytes}
    (hJ : J w.disk)
    (hok : ∀ p v, volume.target rootPath relativePath = some p → w.disk p = some expected →
      v.disk = w.disk.set p (some bytes) → Keeps J (next (.ok ())) good v)
    (herror : ∀ e v, v.disk = w.disk → Keeps J (next (.error e)) good v) :
    Keeps J (attempt (replaceTarget volume rootPath relativePath expected bytes) >>= next) good w := by
  refine keeps_attempt_bind (S := (· = w.disk)) (E := fun _ d' =>
    ∃ p, volume.target rootPath relativePath = some p ∧ w.disk p = some expected ∧
      d' = w.disk.set p (some bytes)) ?_ ?_ ?_ ?_
  · refine wpTask_replaceTarget (I := (· = w)) ?_ (fun v hv => ?_) rfl not_canBeLate_atomically
      (fun v p hv hp hdisk => ?_) fun _ v hv => ?_
    · rintro turn v hturn rfl
      exact hturn.intrude v
    · rw [hv]
    · subst hv
      exact ⟨p, hp, hdisk, rfl⟩
    · rw [hv]
  · rintro _ v ⟨p, hp, hdisk, hv⟩
    exact hok p v hp hdisk hv
  · exact herror
  · rintro d' rfl
    exact hJ

end

/-- The file is as it was found, or it is put back. -/
def PutBack (volume : Volume) (preview : ConfigPreview) (f : PreviewFile) (d' d'' : StoreDisk) : Prop :=
  d'' = d' ∨ ∃ p, targetOf volume preview f = some p ∧ d'' = d'.set p (some f.originalBytes)

/-- **A round of the rollback.**  What it reports is what the file holds. -/
theorem keeps_putBack {J : StoreDisk → Prop} (hJ : ∀ d', PutBack volume preview f w.disk d' → J d') :
    Keeps J (putBack volume preview.configRoot f) (fun r d' => PutBack volume preview f w.disk d' ∧
      (r = none → ∀ p, targetOf volume preview f = some p → d' p = some f.originalBytes)) w := by
  let good : Option Error → StoreDisk → Prop := fun r d' => PutBack volume preview f w.disk d' ∧
    (r = none → ∀ p, targetOf volume preview f = some p → d' p = some f.originalBytes)
  have hsome : ∀ (e : Error) (v : StoreWorld), PutBack volume preview f w.disk v.disk →
      Keeps J (pure (some e) : StoreTask _) good v := fun e v hv => ⟨hv, fun h => by cases h⟩
  have hnone : ∀ (p : Path) (v : StoreWorld), PutBack volume preview f w.disk v.disk →
      targetOf volume preview f = some p → v.disk p = some f.originalBytes →
      Keeps J (pure none : StoreTask _) good v := fun p v hv hp hdisk => by
    refine ⟨hv, fun _ q hq => ?_⟩
    obtain rfl : p = q := Option.some.inj (hp.symm.trans hq)
    exact hdisk
  -- the readback decides, whatever became of the replacement
  have hread : ∀ (next : Except Error Bytes → StoreTask (Option Error)) v,
      PutBack volume preview f w.disk v.disk →
      (∀ bytes, bytes = f.originalBytes → next (.ok bytes) = pure none) →
      (∀ bytes, bytes ≠ f.originalBytes → ∃ e, next (.ok bytes) = pure (some e)) →
      (∀ e, ∃ e', next (.error e) = pure (some e')) →
      Keeps J (attempt (readTarget volume preview.configRoot f.relativePath) >>= next) good v := by
    intro next v hv hsame hother herror
    refine keeps_attempt_readTarget (hJ _ hv) (fun bytes p u hu hp hbytes => ?_) fun e u hu => ?_
    · by_cases hbytes' : bytes = f.originalBytes
      · rw [hsame bytes hbytes']
        exact hnone p u (hu ▸ hv) hp (by rw [hu, hbytes, hbytes'])
      · obtain ⟨e, he⟩ := hother bytes hbytes'
        rw [he]
        exact hsome e u (hu ▸ hv)
    · obtain ⟨e', he'⟩ := herror e
      rw [he']
      exact hsome e' u (hu ▸ hv)
  have hrestore : ∀ v : StoreWorld, v.disk = w.disk →
      Keeps J (putBack.restoreBytes volume preview.configRoot f) good v := by
    intro v hv
    unfold putBack.restoreBytes
    refine keeps_attempt_replaceTarget (hJ _ (.inl hv)) (fun p u hp _ hu => ?_) fun e u hu => ?_
    · refine hread _ u (.inr ⟨p, hp, ?_⟩) (fun _ h => if_pos h) (fun _ h => ⟨_, if_neg h⟩) fun _ => ⟨_, rfl⟩
      rw [hu, hv]
    · exact hread _ u (.inl (hu.trans hv)) (fun _ h => if_pos h) (fun _ h => ⟨_, if_neg h⟩) fun _ => ⟨_, rfl⟩
  unfold putBack
  refine keeps_attempt_readTarget (hJ _ (.inl rfl)) (fun bytes p v hv hp hbytes => ?_) fun e v hv => hrestore v hv
  by_cases hbytes' : bytes = f.originalBytes
  · simp only [if_pos hbytes']
    exact hnone p v (.inl hv) hp (by rw [hv, hbytes, hbytes'])
  · simp only [if_neg hbytes']
    exact hrestore v hv

/-! ## 2. What recovery comes to -/

/-- Every file of the preview is as it was. -/
def AsBefore (volume : Volume) (preview : ConfigPreview) (d d' : StoreDisk) : Prop :=
  ∀ f ∈ preview.files, ∀ p, targetOf volume preview f = some p → d' p = d p

/-- Every file of the preview has its desired bytes. -/
def AsDesired (volume : Volume) (preview : ConfigPreview) (d' : StoreDisk) : Prop :=
  ∀ f ∈ preview.files, ∀ p, targetOf volume preview f = some p → d' p = some f.proposedBytes

/-- What `apply_preview` has found when it begins. -/
structure Checked (volume : Volume) (preview : ConfigPreview) (d : StoreDisk) : Prop where
  safe : ∀ f ∈ preview.files, SafeRelativePath f.relativePath
  there : ∀ f ∈ preview.files, ∃ p, targetOf volume preview f = some p ∧ d p = some f.originalBytes

/-- Every file of the preview has its original bytes or its desired ones. -/
def Replacing (volume : Volume) (preview : ConfigPreview) (d d' : StoreDisk) : Prop :=
  ∀ f ∈ preview.files, ∀ p, targetOf volume preview f = some p →
    d' p = d p ∨ d' p = some f.proposedBytes

/-- What is true of the files when the journal has this state. -/
def FilesIn (volume : Volume) (preview : ConfigPreview) (d : StoreDisk) :
    JournalState → StoreDisk → Prop
  | .backupComplete, d' => AsBefore volume preview d d'
  | .replacementStarted, d' => Replacing volume preview d d'
  | .verificationComplete, d' => AsDesired volume preview d'
  | .complete, d' => AsBefore volume preview d d' ∨ AsDesired volume preview d'

theorem Checked.directory (h : Checked volume preview d) (hfiles : preview.files ≠ []) :
    volume.directory preview.configRoot ≠ none := by
  obtain ⟨f, hf⟩ := List.exists_mem_of_ne_nil _ hfiles
  obtain ⟨p, htarget, -⟩ := h.there f hf
  intro hnone
  rw [targetOf, Volume.target, hnone] at htarget
  cases htarget

theorem Checked.original (h : Checked volume preview d) (hf : f ∈ preview.files) {p : Path}
    (hp : targetOf volume preview f = some p) : d p = some f.originalBytes := by
  obtain ⟨q, hq, horiginal⟩ := h.there f hf
  obtain rfl : p = q := Option.some.inj (hp.symm.trans hq)
  exact horiginal

/-- The files are not part of the store. -/
theorem FilesIn.congr {state : JournalState} (h : FilesIn volume preview d state d')
    (hd : ∀ p : Path, ¬ p.stored → d'' p = d' p) : FilesIn volume preview d state d'' := by
  have hbefore : AsBefore volume preview d d' → AsBefore volume preview d d'' := fun h f hf p hp =>
    (hd p (not_stored_target hp)).trans (h f hf p hp)
  have hdesired : AsDesired volume preview d' → AsDesired volume preview d'' := fun h f hf p hp =>
    (hd p (not_stored_target hp)).trans (h f hf p hp)
  cases state with
  | backupComplete => exact hbefore h
  | verificationComplete => exact hdesired h
  | complete => exact h.imp hbefore hdesired
  | replacementStarted =>
    intro f hf p hp
    rw [hd p (not_stored_target hp)]
    exact h f hf p hp

section

variable [Bcrypt]

/-- The backup of the preview is complete. -/
structure Backed (preview : ConfigPreview) (d : StoreDisk) : Prop where
  accepted : Backup.Accepted preview
  manifest : d (.manifest (backupOf preview).id) = some (manifestText (backupOf preview))
  objects : ∀ f ∈ preview.files, d (.object (digestHex f.originalBytes)) = some f.originalBytes

/-- Nothing else is touched: no other configuration file, and no record of another transaction. -/
structure Elsewhere (volume : Volume) (preview : ConfigPreview) (d d' : StoreDisk) : Prop where
  files : ∀ p, ¬ p.stored → (∀ f ∈ preview.files, targetOf volume preview f ≠ some p) → d' p = d p
  journals : ∀ id, id ≠ (backupOf preview).id → d' (.journal id) = d (.journal id)
  manifests : ∀ id, id ≠ (backupOf preview).id → d' (.manifest id) = d (.manifest id)

/-- The journal of the transaction has the state. -/
structure Journalled (volume : Volume) (preview : ConfigPreview) (d : StoreDisk) (state : JournalState)
    (d' : StoreDisk) : Prop where
  checked : Checked volume preview d
  backed : Backed preview d'
  journal : d' (.journal (backupOf preview).id) = some (journalText state (backupOf preview).id)
  files : FilesIn volume preview d state d'

/-- What is true at every moment of `apply_preview`. -/
structure Recoverable (volume : Volume) (root : Bytes) (preview : ConfigPreview) (d d' : StoreDisk) :
    Prop where
  elsewhere : Elsewhere volume preview d d'
  /-- There is no journal yet, or that of a transaction that was finished before. -/
  stage : verdict volume (some root) d' (backupOf preview).id = .over ∧ AsBefore volume preview d d' ∨
    ∃ state, Journalled volume preview d state d'

/-- What the root of a preview is: a generic path that a record can hold, of the directory that
recovery expects. -/
structure Rooted (volume : Volume) (root : Bytes) (preview : ConfigPreview) : Prop where
  generic : generic preview.configRoot = preview.configRoot
  fits : RootFits preview.configRoot
  same : volume.directory preview.configRoot = volume.directory root

theorem Backed.loads (h : Backed preview d) (hroot : Rooted volume root preview) :
    Loads d (backupOf preview).id (backupOf preview) :=
  (loads_backupOf h.accepted hroot.generic h.manifest).1 hroot.fits

theorem Backed.verifies (h : Backed preview d) (hroot : Rooted volume root preview) :
    Verifies d (backupOf preview) := by
  refine ⟨h.loads hroot, fun s hs => ?_⟩
  obtain ⟨f, hf, rfl⟩ := List.mem_map.mp hs
  exact ⟨f.originalBytes, h.objects f hf, (h.accepted.safe.1 f hf).2.1, rfl, rfl⟩

/-- What recovery makes of the journal of a backup that is complete. -/
theorem verdict_of_backed (h : Backed preview d) (hroot : Rooted volume root preview) {state : JournalState}
    (hjournal : d (.journal (backupOf preview).id) = some (journalText state (backupOf preview).id)) :
    verdict volume (some root) d (backupOf preview).id =
      if state = .complete then .over
      else if volume.directory preview.configRoot ≠ none then
        if state = .backupComplete then .finish (backupOf preview) else .files (backupOf preview) state
      else .stop := by
  have hvalid : ValidHash (backupOf preview).id := validHash_digestHex _
  have hload : value (loadBackup (backupOf preview).id).run d = .ok (backupOf preview) :=
    value_loadBackup_eq_ok.mpr (h.loads hroot)
  have hverify : value (verify (backupOf preview)).run d = .ok () := value_verify_eq_ok.mpr (h.verifies hroot)
  have hsame : volume.directory (backupOf preview).configRoot = volume.directory root := hroot.same
  have hhere : (backupOf preview).configRoot = preview.configRoot := rfl
  unfold verdict
  rw [hjournal]
  simp only
  rw [if_pos (length_journalText_le state hvalid), parseJournal_journalText state hvalid]
  simp only [verdictOf, hload, hverify, hsame, and_true]
  rw [← hsame, hhere]

/-! ## 3. Rolling back and forward -/

/-- A file that is put back. -/
theorem recovered_replacing {f : PreviewFile} (hbacked : Backed preview d) (hf : f ∈ preview.files)
    (hsafe : SafeRelativePath f.relativePath) {p : Path} (htarget : targetOf volume preview f = some p)
    (hfile : d p = some f.originalBytes ∨ d p = some f.proposedBytes) :
    recovered volume preview.configRoot .replacementStarted (snapshotOf f) d = some f.originalBytes := by
  obtain ⟨-, horiginal, hproposed⟩ := hbacked.accepted.safe.1 f hf
  have hobject : value (readBounded (Path.object (snapshotOf f).sha256) maxConfigurationBytes).run d =
      .ok f.originalBytes := value_readBounded_eq_ok.mpr ⟨hbacked.objects f hf, horiginal⟩
  have hcurrent : ∀ bytes, d p = some bytes → bytes.length ≤ maxConfigurationBytes →
      value (currentBytes volume preview.configRoot (snapshotOf f).relativePath).run d = .ok bytes :=
    fun bytes hbytes hlength => value_currentBytes_eq_ok.mpr ⟨p, htarget, hbytes, hlength⟩
  obtain hfile | hfile := hfile
  · have hdigest : digestHex f.originalBytes = (snapshotOf f).sha256 := rfl
    rw [recovered_of_current hsafe (hcurrent _ hfile horiginal), if_neg (by decide), hobject, if_pos hdigest]
    split <;> rfl
  · have hdigest : digestHex f.proposedBytes = (snapshotOf f).desiredSha256 := rfl
    rw [recovered_of_current hsafe (hcurrent _ hfile hproposed), if_neg (by decide), if_pos hdigest, hobject]
    rfl

/-- **The files are put back** one after the other. -/
theorem rounds_replacing {files : List PreviewFile} (hfiles : ∀ f ∈ files, f ∈ preview.files)
    (hnodup : (files.map PreviewFile.relativePath).Nodup) (hbacked : Backed preview d)
    (hsafe : ∀ f ∈ files, SafeRelativePath f.relativePath)
    (hthere : ∀ f ∈ files, ∃ p, targetOf volume preview f = some p ∧
      (d p = some f.originalBytes ∨ d p = some f.proposedBytes)) :
    ∃ d', rounds (fileRound volume preview.configRoot .replacementStarted) (files.map snapshotOf) d = (true, d') ∧
      (∀ f ∈ files, ∀ p, targetOf volume preview f = some p → d' p = some f.originalBytes) ∧
      ∀ p, (∀ f ∈ files, targetOf volume preview f ≠ some p) → d' p = d p := by
  induction files generalizing d with
  | nil => exact ⟨d, rfl, by simp, fun _ _ => rfl⟩
  | cons f rest ih =>
    obtain ⟨hf, hrest⟩ := List.forall_mem_cons.mp hfiles
    obtain ⟨hsafe, hsafes⟩ := List.forall_mem_cons.mp hsafe
    obtain ⟨⟨p, htarget, hfile⟩, hthere⟩ := List.forall_mem_cons.mp hthere
    rw [List.map_cons, List.nodup_cons] at hnodup
    have hhere : volume.target preview.configRoot (snapshotOf f).relativePath = some p := htarget
    have hround := fileRound_of_some hhere (recovered_replacing hbacked hf hsafe htarget hfile)
    have hapart : ∀ g ∈ rest, targetOf volume preview g ≠ some p := by
      intro g hg hp
      have hsame : g.relativePath = f.relativePath := target_injective hp htarget
      exact hnodup.1 (hsame ▸ List.mem_map_of_mem hg)
    have hstored : ∀ q : Path, q.stored → d.set p (some f.originalBytes) q = d q := fun q hq =>
      Disk.set_other _ _ fun heq => not_stored_target htarget (heq ▸ hq)
    have hbacked' : Backed preview (d.set p (some f.originalBytes)) :=
      ⟨hbacked.accepted, (hstored _ (Path.stored_manifest _)).trans hbacked.manifest,
        fun g hg => (hstored _ (Path.stored_object _)).trans (hbacked.objects g hg)⟩
    obtain ⟨d', hrounds, hback, hother⟩ := ih hrest hnodup.2 hbacked' hsafes fun g hg => by
      obtain ⟨q, hq, hfile⟩ := hthere g hg
      have hne : q ≠ p := by
        rintro rfl
        exact hapart g hg hq
      refine ⟨q, hq, ?_⟩
      rw [Disk.set_other _ _ hne]
      exact hfile
    refine ⟨d', ?_, ?_, fun q hq => ?_⟩
    · rw [List.map_cons, rounds_cons_of_true hround]
      exact hrounds
    · refine List.forall_mem_cons.mpr ⟨fun q hq => ?_, hback⟩
      obtain rfl : p = q := Option.some.inj (htarget.symm.trans hq)
      rw [hother p hapart, Disk.set_same]
    · obtain ⟨hne, hq⟩ := List.forall_mem_cons.mp hq
      rw [hother q hq, Disk.set_other _ _ (by rintro rfl; exact hne htarget)]

/-- Files that have their desired bytes stay as they are. -/
theorem rounds_verified (hbacked : Backed preview d)
    (hsafe : ∀ f ∈ preview.files, SafeRelativePath f.relativePath)
    (hthere : ∀ f ∈ preview.files, ∃ p, targetOf volume preview f = some p ∧ d p = some f.proposedBytes) :
    rounds (fileRound volume preview.configRoot .verificationComplete) (preview.files.map snapshotOf) d =
      (true, d) := by
  refine rounds_of_settled fun s hs => ?_
  obtain ⟨f, hf, rfl⟩ := List.mem_map.mp hs
  obtain ⟨p, htarget, hfile⟩ := hthere f hf
  have hcurrent : value (currentBytes volume preview.configRoot (snapshotOf f).relativePath).run d =
      .ok f.proposedBytes :=
    value_currentBytes_eq_ok.mpr ⟨p, htarget, hfile, (hbacked.accepted.safe.1 f hf).2.2⟩
  have hstays : recovered volume preview.configRoot .verificationComplete (snapshotOf f) d =
      some f.proposedBytes := by
    have hdigest : digestHex f.proposedBytes = (snapshotOf f).desiredSha256 := rfl
    rw [recovered_of_current (hsafe f hf) hcurrent, if_pos rfl, if_pos hdigest]
  have hhere : volume.target preview.configRoot (snapshotOf f).relativePath = some p := htarget
  rw [fileRound_of_some hhere hstays, ← hfile, Disk.set_self]

/-- What a recovery that succeeds leaves behind. -/
structure Recovered (volume : Volume) (root : Bytes) (preview : ConfigPreview) (d d' : StoreDisk) : Prop where
  files : AsBefore volume preview d d' ∨ AsDesired volume preview d'
  finished : verdict volume (some root) d' (backupOf preview).id = .over
  elsewhere : Elsewhere volume preview d d'

/-- A record of the transaction is written. -/
theorem Elsewhere.set (h : Elsewhere volume preview d d') {p : Path} (hp : p.stored)
    (hjournal : ∀ id, p = .journal id → id = (backupOf preview).id)
    (hmanifest : ∀ id, p = .manifest id → id = (backupOf preview).id) (b : Option Bytes) :
    Elsewhere volume preview d (d'.set p b) where
  files q hq hother := by
    refine (Disk.set_other _ _ ?_).trans (h.files q hq hother)
    rintro rfl
    exact hq hp
  journals id hid := (Disk.set_other _ _ fun heq => hid (hjournal id heq.symm)).trans (h.journals id hid)
  manifests id hid := (Disk.set_other _ _ fun heq => hid (hmanifest id heq.symm)).trans (h.manifests id hid)

theorem Backed.stored (h : Backed preview d') (hd : ∀ p : Path, p.stored → d'' p = d' p) :
    Backed preview d'' :=
  ⟨h.accepted, (hd _ (Path.stored_manifest _)).trans h.manifest,
    fun f hf => (hd _ (Path.stored_object _)).trans (h.objects f hf)⟩

/-- The journal is written. -/
theorem journalled_set (state : JournalState) (hchecked : Checked volume preview d)
    (hbacked : Backed preview d') (hfiles : FilesIn volume preview d state d') :
    Journalled volume preview d state
      (d'.set (.journal (backupOf preview).id) (some (journalText state (backupOf preview).id))) where
  checked := hchecked
  backed := ⟨hbacked.accepted, (Disk.set_other _ _ (by simp)).trans hbacked.manifest,
    fun f hf => (Disk.set_other _ _ (by simp)).trans (hbacked.objects f hf)⟩
  journal := Disk.set_same _ _ _
  files := hfiles.congr fun p hp => Disk.set_other _ _ (by rintro rfl; exact hp (Path.stored_journal _))

theorem Elsewhere.journal (h : Elsewhere volume preview d d') (b : Option Bytes) :
    Elsewhere volume preview d (d'.set (.journal (backupOf preview).id) b) :=
  h.set (Path.stored_journal _) (by rintro id ⟨⟩; rfl) (by rintro id ⟨⟩) b

/-- A transaction that is finished. -/
theorem recovered_of_finished (hroot : Rooted volume root preview) (hchecked : Checked volume preview d)
    (hbacked : Backed preview d') (helsewhere : Elsewhere volume preview d d')
    (hfiles : AsBefore volume preview d d' ∨ AsDesired volume preview d') :
    Recovered volume root preview d (finishJournal d' (backupOf preview).id) := by
  have hjournalled : Journalled volume preview d .complete (finishJournal d' (backupOf preview).id) :=
    journalled_set _ hchecked hbacked hfiles
  refine ⟨hjournalled.files, ?_, helsewhere.journal _⟩
  rw [verdict_of_backed hjournalled.backed hroot hjournalled.journal, if_pos rfl]

/-- **What is recoverable is recovered** by the round over its journal. -/
theorem Recoverable.entryRound (h : Recoverable volume root preview d d') (hroot : Rooted volume root preview) :
    ∃ d'', entryRound volume (some root) (.journal (backupOf preview).id) d' = (true, d'') ∧
      Recovered volume root preview d d'' := by
  obtain ⟨helsewhere, ⟨hover, hfiles⟩ | ⟨state, hchecked, hbacked, hjournal, hfiles⟩⟩ := h
  · exact ⟨d', entryRound_of_over hover, .inl hfiles, hover, helsewhere⟩
  have hverdict := verdict_of_backed hbacked hroot hjournal
  have hdirectory := hchecked.directory hbacked.accepted.count.1
  cases state with
  | complete =>
    rw [if_pos rfl] at hverdict
    exact ⟨d', entryRound_of_over hverdict, hfiles, hverdict, helsewhere⟩
  | backupComplete =>
    rw [if_neg (by decide), if_pos hdirectory, if_pos rfl] at hverdict
    refine ⟨_, ?_, recovered_of_finished hroot hchecked hbacked helsewhere (.inl hfiles)⟩
    rw [entryRound_journal, hverdict]
    rfl
  | verificationComplete =>
    rw [if_neg (by decide), if_pos hdirectory, if_neg (by decide)] at hverdict
    have hrounds : rounds (fileRound volume (backupOf preview).configRoot .verificationComplete)
        (backupOf preview).snapshots d' = (true, d') :=
      rounds_verified hbacked hchecked.safe fun f hf => by
        obtain ⟨p, htarget, -⟩ := hchecked.there f hf
        exact ⟨p, htarget, hfiles f hf p htarget⟩
    refine ⟨_, ?_, recovered_of_finished hroot hchecked hbacked helsewhere (.inr hfiles)⟩
    rw [entryRound_journal, hverdict, Verdict.apply, hrounds]
  | replacementStarted =>
    rw [if_neg (by decide), if_pos hdirectory, if_neg (by decide)] at hverdict
    obtain ⟨d'', hrounds, hback, hother⟩ := rounds_replacing (fun _ h => h)
      hbacked.accepted.safe.2 hbacked hchecked.safe fun f hf => by
        obtain ⟨p, htarget, horiginal⟩ := hchecked.there f hf
        rw [← horiginal]
        exact ⟨p, htarget, hfiles f hf p htarget⟩
    have hrounds' : rounds (fileRound volume (backupOf preview).configRoot .replacementStarted)
        (backupOf preview).snapshots d' = (true, d'') := hrounds
    have hstored : ∀ p : Path, p.stored → d'' p = d' p := fun p hp =>
      hother p fun f _ htarget => not_stored_target htarget hp
    have hfiles' : AsBefore volume preview d d'' := by
      intro f hf p hp
      rw [hback f hf p hp, hchecked.original hf hp]
    have helsewhere' : Elsewhere volume preview d d'' :=
      ⟨fun p hp hnot => (hother p hnot).trans (helsewhere.files p hp hnot),
        fun id hid => (hstored _ (Path.stored_journal id)).trans (helsewhere.journals id hid),
        fun id hid => (hstored _ (Path.stored_manifest id)).trans (helsewhere.manifests id hid)⟩
    refine ⟨_, ?_, recovered_of_finished hroot hchecked (hbacked.stored hstored) helsewhere' (.inl hfiles')⟩
    rw [entryRound_journal, hverdict, Verdict.apply, hrounds']

/-! ## 4. The backup -/

/-- The contents that are stored under their digest. -/
def Digested (preview : ConfigPreview) (d : StoreDisk) : Set Bytes :=
  {bytes | (∃ f ∈ preview.files, f.originalBytes = bytes) ∨ ∃ sha256, d (.object sha256) = some bytes}

/-- The objects of `saved` are there, and no other file has been set but objects. -/
structure Preparing (preview : ConfigPreview) (d : StoreDisk) (saved : List PreviewFile)
    (d' : StoreDisk) : Prop where
  objects : ∀ f ∈ saved, d' (.object (digestHex f.originalBytes)) = some f.originalBytes
  contents : ∀ sha256 bytes, d' (.object sha256) = some bytes → bytes ∈ Digested preview d
  other : ∀ p : Path, (∀ sha256, p ≠ .object sha256) → d' p = d p

theorem Preparing.start (preview : ConfigPreview) (d : StoreDisk) : Preparing preview d [] d :=
  ⟨by simp, fun sha256 _ h => .inr ⟨sha256, h⟩, fun _ _ => rfl⟩

theorem Preparing.append {saved : List PreviewFile} {f : PreviewFile} (h : Preparing preview d saved d')
    (hf : d' (.object (digestHex f.originalBytes)) = some f.originalBytes) :
    Preparing preview d (saved ++ [f]) d' := by
  refine ⟨fun g hg => ?_, h.contents, h.other⟩
  rcases List.mem_append.mp hg with hg | hg
  · exact h.objects g hg
  · rw [List.mem_singleton.mp hg]
    exact hf

/-- An object is written. -/
theorem Preparing.set {saved : List PreviewFile} {f : PreviewFile} (h : Preparing preview d saved d')
    (hf : f ∈ preview.files) (hfree : d' (.object (digestHex f.originalBytes)) = none) :
    Preparing preview d (saved ++ [f])
      (d'.set (.object (digestHex f.originalBytes)) (some f.originalBytes)) := by
  refine Preparing.append ⟨fun g hg => ?_, fun sha256 bytes hbytes => ?_, fun p hp => ?_⟩
    (Disk.set_same _ _ _)
  · have hne : Path.object (digestHex g.originalBytes) ≠ .object (digestHex f.originalBytes) := by
      intro heq
      have hobject := h.objects g hg
      rw [heq, hfree] at hobject
      cases hobject
    rw [Disk.set_other _ _ hne]
    exact h.objects g hg
  · by_cases heq : Path.object sha256 = .object (digestHex f.originalBytes)
    · rw [heq, Disk.set_same, Option.some.injEq] at hbytes
      exact .inl ⟨f, hf, hbytes⟩
    · rw [Disk.set_other _ _ heq] at hbytes
      exact h.contents sha256 bytes hbytes
  · rw [Disk.set_other _ _ (hp _)]
    exact h.other p hp

theorem Preparing.elsewhere {saved : List PreviewFile} (h : Preparing preview d saved d') :
    Elsewhere volume preview d d' where
  files p hp _ := h.other p (by rintro sha256 rfl; exact hp (Path.stored_object _))
  journals id _ := h.other _ (by simp)
  manifests id _ := h.other _ (by simp)

theorem Preparing.asBefore {saved : List PreviewFile} (h : Preparing preview d saved d') :
    AsBefore volume preview d d' := fun _ _ p hp =>
  h.other p (by rintro sha256 rfl; exact not_stored_target hp (Path.stored_object _))

/-- Objects are no part of what can be recovered. -/
theorem Preparing.recoverable {saved : List PreviewFile} (h : Preparing preview d saved d')
    (hover : verdict volume (some root) d (backupOf preview).id = .over) :
    Recoverable volume root preview d d' :=
  ⟨h.elsewhere, .inl ⟨over_congr hover (h.other _ (by simp)) (h.other _ (by simp)), h.asBefore⟩⟩

/-- The manifest of the backup, which may replace that of a transaction that was finished. -/
def putManifest (preview : ConfigPreview) (d : StoreDisk) : StoreDisk :=
  d.set (.manifest (backupOf preview).id) (some (manifestText (backupOf preview)))

theorem Preparing.backed (h : Preparing preview d preview.files d') (haccepted : Backup.Accepted preview) :
    Backed preview (putManifest preview d') where
  accepted := haccepted
  manifest := Disk.set_same _ _ _
  objects f hf := (Disk.set_other _ _ (by simp)).trans (h.objects f hf)

/-- Neither is the manifest. -/
theorem Preparing.recoverable_manifest (h : Preparing preview d preview.files d')
    (haccepted : Backup.Accepted preview) (hroot : Rooted volume root preview)
    (hover : verdict volume (some root) d (backupOf preview).id = .over) :
    Recoverable volume root preview d (putManifest preview d') ∧
      AsBefore volume preview d (putManifest preview d') := by
  have hbefore : AsBefore volume preview d (putManifest preview d') := fun f hf p hp =>
    (Disk.set_other _ _ (by rintro rfl; exact not_stored_target hp (Path.stored_manifest _))).trans
      (h.asBefore f hf p hp)
  refine ⟨⟨?_, .inl ⟨?_, hbefore⟩⟩, hbefore⟩
  · exact h.elsewhere.set (Path.stored_manifest _) (by rintro id ⟨⟩) (by rintro id ⟨⟩; rfl) _
  · have hjournal : putManifest preview d' (.journal (backupOf preview).id) =
        d (.journal (backupOf preview).id) :=
      (Disk.set_other _ _ (by simp)).trans (h.other _ (by simp))
    exact over_of_loads hover hjournal fun _ _ => ⟨_, (h.backed haccepted).loads hroot⟩

/-- The object that is there has the digest. -/
theorem keeps_checkObject {J : StoreDisk → Prop} {digest : Bytes} (hJ : J w.disk) :
    Keeps J (checkObject f digest) (fun _ d' => d' = w.disk ∧
      ∃ existing, w.disk (.object digest) = some existing ∧ digestHex existing = digest) w := by
  unfold checkObject
  refine keeps_careful_bind (careful_readBounded (R := fun _ => True) trivial _) hJ fun existing hread => ?_
  obtain ⟨hexisting, -⟩ := value_readBounded_eq_ok.mp hread
  refine keeps_attempt_bind (S := (· = w.disk))
    (E := fun digest' d' => digest' = digestHex existing ∧ d' = w.disk)
    (keeps_careful (careful_sha256Hex (R := fun _ => True) _) rfl fun digest' hdigest => ?_) ?_ ?_ ?_
  · rw [value_sha256Hex, Except.ok.injEq] at hdigest
    exact ⟨hdigest.symm, rfl⟩
  · rintro digest' v ⟨rfl, hv⟩
    unfold ensure
    split
    · rename_i hsame
      exact ⟨hv, existing, hexisting, Option.some.inj hsame.2⟩
    · exact hv ▸ hJ
  · intro e v hv
    unfold ensure
    rw [if_neg fun h => by cases h.2]
    exact hv ▸ hJ
  · rintro d' rfl
    exact hJ

/-- **An object is stored**, or it is there. -/
theorem keeps_saveObject {saved : List PreviewFile} (hfree : CollisionFree (Digested preview d))
    (hover : verdict volume (some root) d (backupOf preview).id = .over) (hf : f ∈ preview.files)
    (hw : Preparing preview d saved w.disk) :
    Keeps (Recoverable volume root preview d) (saveObject f)
      (fun s d' => s = snapshotOf f ∧ Preparing preview d (saved ++ [f]) d') w := by
  have hJ := hw.recoverable hover
  unfold saveObject
  refine keeps_careful_bind (careful_sha256Hex (R := fun _ => True) _) hJ fun digest hdigest => ?_
  refine keeps_careful_bind (careful_sha256Hex (R := fun _ => True) _) hJ fun desired hdesired => ?_
  rw [value_sha256Hex, Except.ok.injEq] at hdigest hdesired
  subst hdigest hdesired
  refine keeps_careful_bind (careful_pathExists (R := fun _ => True) trivial _) hJ fun found hfound => ?_
  have hfound := value_pathExists_eq_ok hfound
  unfold putObject
  cases found with
  | false =>
    rw [if_neg (by simp)]
    have hnone : w.disk (.object (digestHex f.originalBytes)) = none := by
      rw [← Option.not_isSome_iff_eq_none, ← hfound]
      simp
    have hwrite : Keeps (Recoverable volume root preview d)
        (atomicReplace (.object (digestHex f.originalBytes)) f.originalBytes)
        (fun _ => Preparing preview d (saved ++ [f])) w := keeps_atomicReplace hJ (hw.set hf hnone)
    exact keeps_bind hwrite fun _ v hv => ⟨rfl, hv⟩
  | true =>
    rw [if_pos rfl]
    refine keeps_bind (keeps_checkObject hJ) fun _ v hv => ?_
    obtain ⟨hdisk, existing, hexisting, hdigest⟩ := hv
    have hsame : existing = f.originalBytes :=
      hfree.eq (hw.contents _ _ hexisting) (.inl ⟨f, hf, rfl⟩) hdigest
    have hthere : Preparing preview d (saved ++ [f]) v.disk := by
      rw [hdisk]
      exact hw.append (hsame ▸ hexisting)
    exact ⟨rfl, hthere⟩

/-- What is true once the journal has a state. -/
def JournalledIn (volume : Volume) (preview : ConfigPreview) (d : StoreDisk) (state : JournalState)
    (d' : StoreDisk) : Prop :=
  Journalled volume preview d state d' ∧ Elsewhere volume preview d d'

theorem JournalledIn.recoverable {state : JournalState} (h : JournalledIn volume preview d state d') :
    Recoverable volume root preview d d' :=
  ⟨h.2, .inr ⟨state, h.1⟩⟩

/-- The journal is written, with the files as they are. -/
theorem keeps_writeJournal {J : StoreDisk → Prop} (state : JournalState) (hJ : J w.disk)
    (hchecked : Checked volume preview d) (hbacked : Backed preview w.disk)
    (helsewhere : Elsewhere volume preview d w.disk) (hfiles : FilesIn volume preview d state w.disk) :
    Keeps J (writeJournal (backupOf preview) state)
      (fun _ => JournalledIn volume preview d state) w :=
  keeps_atomicReplace hJ ⟨journalled_set _ hchecked hbacked hfiles, helsewhere.journal _⟩

/-- **The backup is made**, and the journal says so. -/
theorem keeps_create (hroot : Rooted volume root preview) (hfree : CollisionFree (Digested preview d))
    (hover : verdict volume (some root) d (backupOf preview).id = .over)
    (hchecked : Checked volume preview d) (hw : w.disk = d) :
    Keeps (Recoverable volume root preview d) (create preview)
      (fun b d' => b = backupOf preview ∧ JournalledIn volume preview d .backupComplete d') w := by
  have hstart : Preparing preview d [] w.disk := hw ▸ Preparing.start preview d
  have hJ := hstart.recoverable hover
  unfold create
  refine keeps_ensure_bind hJ fun hscope => keeps_ensure_bind hJ fun hsafe => ?_
  obtain ⟨hne, habsolute, hfiles, hcount⟩ := hscope
  have haccepted : Backup.Accepted preview := ⟨⟨hne, habsolute⟩, ⟨hfiles, hcount⟩, hsafe⟩
  have hdirectories : Careful (fun _ : Path => True) (fun _ => True) createDirectories.run := by
    refine careful_perform trivial ⟨_, trivial, rfl⟩ fun answer => ?_
    cases answer <;> exact .ret _
  refine keeps_careful_bind hdirectories hJ fun _ _ => ?_
  refine keeps_bind (keeps_collect (I := fun before bs d' => bs = before.map snapshotOf ∧
    Preparing preview d before d') (fun before f rest bs v hl hv => ?_) ⟨rfl, hstart⟩) ?_
  · have hf : f ∈ preview.files := hl ▸ List.mem_append_right _ List.mem_cons_self
    refine (keeps_saveObject hfree hover hf hv.2).mono (fun s d' hs => ?_) fun _ h => h
    rw [hs.1, hv.1, List.map_append, List.map_singleton]
    exact ⟨rfl, hs.2⟩
  · rintro snapshots v ⟨rfl, hv⟩
    have hJ := hv.recoverable hover
    refine keeps_careful_bind (careful_sha256Hex (R := fun _ => True) _) hJ fun id hid => ?_
    rw [value_sha256Hex, Except.ok.injEq] at hid
    subst hid
    have hwrite : Keeps (Recoverable volume root preview d)
        (atomicReplace (.manifest (backupOf preview).id) (manifestText (backupOf preview)))
        (fun _ => (· = putManifest preview v.disk)) v := keeps_atomicReplace hJ rfl
    refine keeps_bind hwrite fun _ v' hv' => ?_
    obtain ⟨hJ', hbefore⟩ := hv.recoverable_manifest haccepted hroot hover
    have hbacked := hv.backed haccepted
    rw [← hv'] at hJ' hbefore hbacked
    exact keeps_bind (keeps_writeJournal .backupComplete hJ' hchecked hbacked hJ'.elsewhere hbefore) fun _ _ hb => ⟨rfl, hb⟩

/-- Replacement has started, and `written` are the files that have been replaced. -/
structure Halfway (volume : Volume) (preview : ConfigPreview) (d : StoreDisk)
    (written : List PreviewFile) (d' : StoreDisk) : Prop where
  journalled : JournalledIn volume preview d .replacementStarted d'
  replaced : ∀ f ∈ written, ∀ p, targetOf volume preview f = some p → d' p = some f.proposedBytes
  files : ∀ f ∈ written, f ∈ preview.files
  rest : ∀ f ∈ preview.files, f ∉ written → ∀ p, targetOf volume preview f = some p → d' p = d p

/-- **Before the first replacement.** -/
theorem keeps_prepare (hroot : Rooted volume root preview) (hfree : CollisionFree (Digested preview d))
    (hover : verdict volume (some root) d (backupOf preview).id = .over)
    (hchecked : Checked volume preview d) (hw : w.disk = d) :
    Keeps (Recoverable volume root preview d) (prepare preview)
      (fun b d' => b = backupOf preview ∧ Halfway volume preview d [] d') w := by
  unfold prepare
  refine keeps_bind (keeps_create hroot hfree hover hchecked hw) ?_
  rintro _ v ⟨rfl, hv, helsewhere⟩
  have hJ : Recoverable volume root preview d v.disk := ⟨helsewhere, .inr ⟨_, hv⟩⟩
  have hbefore : AsBefore volume preview d v.disk := hv.files
  refine keeps_careful_bind (careful_verify _) hJ fun _ _ => ?_
  have hstarted : Keeps (Recoverable volume root preview d) (writeJournal (backupOf preview) .replacementStarted)
      (fun _ => Halfway volume preview d []) v := by
    refine keeps_atomicReplace hJ ⟨⟨journalled_set _ hchecked hv.backed ?_, helsewhere.journal _⟩, by simp,
      by simp, fun f hf _ p hp => ?_⟩
    · exact fun f hf p hp => .inl (hbefore f hf p hp)
    · exact (Disk.set_other _ _ (by rintro rfl; exact not_stored_target hp (Path.stored_journal _))).trans
        (hbefore f hf p hp)
  exact keeps_bind hstarted fun _ _ hb => ⟨rfl, hb⟩

/-! ## 5. The replacement -/

/-- A file of the preview is one of the two. -/
theorem eq_of_target (hbacked : Backed preview d') {g : PreviewFile} (hf : f ∈ preview.files)
    (hg : g ∈ preview.files) {p : Path} (hfp : targetOf volume preview f = some p)
    (hgp : targetOf volume preview g = some p) : g = f :=
  List.inj_on_of_nodup_map hbacked.accepted.safe.2 hg hf (target_injective hgp hfp)

/-- A file is replaced, by its original bytes or the desired ones. -/
theorem JournalledIn.replace (h : JournalledIn volume preview d .replacementStarted d')
    (hf : f ∈ preview.files) {p : Path} (hp : targetOf volume preview f = some p) {bytes : Bytes}
    (hbytes : bytes = f.originalBytes ∨ bytes = f.proposedBytes) :
    JournalledIn volume preview d .replacementStarted (d'.set p (some bytes)) := by
  obtain ⟨⟨hchecked, hbacked, hjournal, hfiles⟩, helsewhere⟩ := h
  have hstored : ∀ q : Path, q.stored → d'.set p (some bytes) q = d' q := fun q hq =>
    Disk.set_other _ _ (by rintro rfl; exact not_stored_target hp hq)
  refine ⟨⟨hchecked, hbacked.stored hstored, (hstored _ (Path.stored_journal _)).trans hjournal, ?_⟩, ?_⟩
  · intro g hg q hq
    by_cases hqp : q = p
    · subst hqp
      obtain rfl := eq_of_target hbacked hf hg hp hq
      rw [Disk.set_same, hchecked.original hg hq]
      rcases hbytes with rfl | rfl
      · exact .inl rfl
      · exact .inr rfl
    · rw [Disk.set_other _ _ hqp]
      exact hfiles g hg q hq
  · refine ⟨fun q hq hother => (Disk.set_other _ _ ?_).trans (helsewhere.files q hq hother),
      fun id hid => (hstored _ (Path.stored_journal id)).trans (helsewhere.journals id hid),
      fun id hid => (hstored _ (Path.stored_manifest id)).trans (helsewhere.manifests id hid)⟩
    rintro rfl
    exact hother f hf hp

/-- The rollback has been through `before`, with what its rounds report. -/
structure RollingBack (volume : Volume) (preview : ConfigPreview) (d : StoreDisk)
    (written before : List PreviewFile) (reports : List (Option Error)) (d' : StoreDisk) : Prop where
  journalled : JournalledIn volume preview d .replacementStarted d'
  rest : ∀ f ∈ preview.files, f ∉ written → ∀ p, targetOf volume preview f = some p → d' p = d p
  back : (∀ r ∈ reports, r = none) →
    ∀ f ∈ before, f ∈ preview.files → ∀ p, targetOf volume preview f = some p → d' p = d p

/-- One more file. -/
theorem RollingBack.next {written before : List PreviewFile} {reports : List (Option Error)}
    (h : RollingBack volume preview d written before reports d') (hf : f ∈ preview.files)
    (hback : PutBack volume preview f d' d'') {r : Option Error}
    (hr : r = none → ∀ p, targetOf volume preview f = some p → d'' p = some f.originalBytes) :
    RollingBack volume preview d written (before ++ [f]) (reports ++ [r]) d'' := by
  have hchecked := h.journalled.1.checked
  -- what is put back is as it was
  have hkeeps : ∀ g ∈ preview.files, ∀ p, targetOf volume preview g = some p → d' p = d p → d'' p = d p := by
    intro g hg p hp hsame
    rcases hback with rfl | ⟨q, hq, rfl⟩
    · exact hsame
    · by_cases hpq : p = q
      · rw [hpq, Disk.set_same, hchecked.original hf hq]
      · rw [Disk.set_other _ _ hpq, hsame]
  refine ⟨?_, fun g hg hgw p hp => hkeeps g hg p hp (h.rest g hg hgw p hp), fun hrs g hg hgf p hp => ?_⟩
  · rcases hback with rfl | ⟨q, hq, rfl⟩
    · exact h.journalled
    · exact h.journalled.replace hf hq (.inl rfl)
  · rcases List.mem_append.mp hg with hg | hg
    · exact hkeeps g hgf p hp (h.back (fun r hr => hrs r (List.mem_append_left _ hr)) g hg hgf p hp)
    · rw [List.mem_singleton] at hg
      subst hg
      rw [hr (hrs r (List.mem_append_right _ (List.mem_singleton_self r))) p hp, hchecked.original hgf hp]

/-- **Giving up** takes every file back to its original bytes, or leaves the journal as it is. -/
theorem keeps_abandon {α : Type} {written : List PreviewFile} {e : Error}
    {good : α → StoreDisk → Prop} (hw : Halfway volume preview d written w.disk) :
    Keeps (Recoverable volume root preview d)
      (abandon volume preview.configRoot (backupOf preview) written e : StoreTask α) good w := by
  have hrollback : Keeps (Recoverable volume root preview d)
      (rollbackWrittenFiles volume preview.configRoot written)
      (fun _ d' => JournalledIn volume preview d .replacementStarted d' ∧ AsBefore volume preview d d') w := by
    unfold rollbackWrittenFiles
    refine keeps_bind (keeps_collect (I := RollingBack volume preview d written)
      (fun before f rest reports v hl hv => ?_) ⟨hw.journalled, hw.rest, by simp⟩) fun reports v hv => ?_
    · have hf : f ∈ preview.files :=
        hw.files f (List.mem_reverse.mp (hl ▸ List.mem_append_right _ List.mem_cons_self))
      refine (keeps_putBack (J := Recoverable volume root preview d) fun d' hback => ?_).mono
        (fun r d' hr => hv.next hf hr.1 hr.2) fun _ h => h
      rcases hback with rfl | ⟨p, hp, rfl⟩
      · exact hv.journalled.recoverable
      · exact (hv.journalled.replace hf hp (.inl rfl)).recoverable
    · split
      · rename_i hnone
        refine ⟨hv.journalled, fun f hf p hp => ?_⟩
        by_cases hfw : f ∈ written
        · refine hv.back (fun r hr => ?_) f (List.mem_reverse.mpr hfw) hf p hp
          cases r with
          | none => rfl
          | some e =>
            have hmem : e ∈ reports.reduceOption := List.reduceOption_mem_iff.mpr hr
            rw [hnone] at hmem
            cases hmem
        · exact hv.rest f hf hfw p hp
      · exact hv.journalled.recoverable
  unfold abandon
  refine keeps_bind hrollback fun _ v hv => ?_
  obtain ⟨⟨hjournalled, helsewhere⟩, hbefore⟩ := hv
  refine keeps_bind (keeps_adapt (keeps_writeJournal .complete
    ⟨helsewhere, .inr ⟨_, hjournalled⟩⟩ hjournalled.checked hjournalled.backed helsewhere
    (.inl hbefore))) fun _ v hv => ?_
  exact hv.recoverable

/-- One more file is replaced. -/
theorem Halfway.replace {written : List PreviewFile} (h : Halfway volume preview d written d')
    (hf : f ∈ preview.files) {p : Path} (hp : targetOf volume preview f = some p) :
    Halfway volume preview d (written ++ [f]) (d'.set p (some f.proposedBytes)) := by
  have hbacked := h.journalled.1.backed
  refine ⟨h.journalled.replace hf hp (.inr rfl), fun g hg q hq => ?_, fun g hg => ?_, fun g hg hgw q hq => ?_⟩
  · by_cases hqp : q = p
    · subst hqp
      have hgf : g ∈ preview.files := by
        rcases List.mem_append.mp hg with hg | hg
        · exact h.files g hg
        · exact List.mem_singleton.mp hg ▸ hf
      rw [Disk.set_same, eq_of_target hbacked hf hgf hp hq]
    · rw [Disk.set_other _ _ hqp]
      rcases List.mem_append.mp hg with hg | hg
      · exact h.replaced g hg q hq
      · rw [List.mem_singleton.mp hg, hp, Option.some.injEq] at hq
        exact absurd hq.symm hqp
  · rcases List.mem_append.mp hg with hg | hg
    · exact h.files g hg
    · exact List.mem_singleton.mp hg ▸ hf
  · have hne : q ≠ p := by
      rintro rfl
      exact hgw (eq_of_target hbacked hf hg hp hq ▸ List.mem_append_right _ (List.mem_singleton_self _))
    rw [Disk.set_other _ _ hne]
    exact h.rest g hg (fun hgw' => hgw (List.mem_append_left _ hgw')) q hq

/-- **The replacement loop.** -/
theorem keeps_replaceFiles {rest : List PreviewFile} :
    ∀ {written : List PreviewFile} {w : StoreWorld}, (∀ f ∈ rest, f ∈ preview.files) →
      Halfway volume preview d written w.disk →
      Keeps (Recoverable volume root preview d)
        (replaceFiles volume preview.configRoot (backupOf preview) written rest)
        (fun written' => Halfway volume preview d written') w := by
  induction rest with
  | nil =>
    intro written w _ hw
    exact hw
  | cons f rest ih =>
    intro written w hfiles hw
    obtain ⟨hf, hfiles⟩ := List.forall_mem_cons.mp hfiles
    unfold replaceFiles
    split
    · exact ih hfiles hw
    · refine keeps_attempt_replaceTarget hw.journalled.recoverable (fun p v hp _ hv => ?_) fun e v hv => ?_
      · refine ih hfiles ?_
        rw [hv]
        exact hw.replace hf hp
      · exact keeps_abandon (hv ▸ hw)

/-- **A round of the verification loop.** -/
theorem keeps_checkApplied {written : List PreviewFile} (hw : Halfway volume preview d written w.disk) :
    Keeps (Recoverable volume root preview d)
      (checkApplied volume preview.configRoot (backupOf preview) written f)
      (fun _ d' => d' = w.disk ∧ ∀ p, targetOf volume preview f = some p → d' p = some f.proposedBytes) w := by
  unfold checkApplied
  refine keeps_attempt_readTarget hw.journalled.recoverable (fun bytes p v hv hp hbytes => ?_) fun e v hv => ?_
  · by_cases hsame : bytes = f.proposedBytes
    · simp only [if_pos hsame]
      refine ⟨hv, fun q hq => ?_⟩
      obtain rfl : p = q := Option.some.inj (hp.symm.trans hq)
      rw [hv, hbytes, hsame]
    · simp only [if_neg hsame]
      exact keeps_abandon (hv ▸ hw)
  · exact keeps_abandon (hv ▸ hw)

/-- **From the first replacement on.** -/
theorem keeps_commit (hw : Halfway volume preview d [] w.disk) :
    Keeps (Recoverable volume root preview d) (commit volume preview (backupOf preview))
      (fun _ d' => JournalledIn volume preview d .complete d' ∧ AsDesired volume preview d') w := by
  unfold commit
  refine keeps_bind (keeps_replaceFiles (fun _ h => h) hw) fun written v hv => ?_
  refine keeps_bind (keeps_forEach (I := fun before d' => Halfway volume preview d written d' ∧
    ∀ f ∈ before, ∀ p, targetOf volume preview f = some p → d' p = some f.proposedBytes)
    (fun before f rest v _ hv => ?_) ⟨hv, by simp⟩) ?_
  · refine (keeps_checkApplied hv.1).mono (fun _ d' hd' => ?_) fun _ h => h
    obtain ⟨rfl, hf⟩ := hd'
    refine ⟨hv.1, fun g hg => ?_⟩
    rcases List.mem_append.mp hg with hg | hg
    · exact hv.2 g hg
    · exact List.mem_singleton.mp hg ▸ hf
  · rintro _ v ⟨hv, hdesired⟩
    obtain ⟨hjournalled, helsewhere⟩ := hv.journalled
    refine keeps_bind (keeps_adapt (keeps_writeJournal .verificationComplete
      hv.journalled.recoverable hjournalled.checked hjournalled.backed helsewhere hdesired)) fun _ v hv => ?_
    obtain ⟨hjournalled, helsewhere⟩ := hv
    have hdesired : AsDesired volume preview v.disk := hjournalled.files
    have hcomplete : Keeps (Recoverable volume root preview d)
        (writeJournal (backupOf preview) .complete)
        (fun _ d' => JournalledIn volume preview d .complete d' ∧ AsDesired volume preview d') v := by
      refine keeps_atomicReplace ⟨helsewhere, .inr ⟨_, hjournalled⟩⟩ ?_
      have hset := journalled_set .complete hjournalled.checked hjournalled.backed (.inr hdesired)
      refine ⟨⟨hset, helsewhere.journal _⟩, fun f hf p hp => ?_⟩
      exact (Disk.set_other _ _ (by rintro rfl; exact not_stored_target hp (Path.stored_journal _))).trans
        (hdesired f hf p hp)
    exact keeps_bind (keeps_adapt hcomplete) fun _ v hv => hv

/-! ## 6. The whole call -/

omit [Bcrypt] in
theorem careful_checkUnchanged (volume : Volume) (rootPath : Bytes) (f : PreviewFile) :
    Careful (fun _ => True) (fun _ => True) (checkUnchanged volume rootPath f).run := by
  unfold checkUnchanged safeTarget
  refine (careful_ensure _ _).bind fun _ => ?_
  cases volume.target rootPath f.relativePath with
  | none => exact .ret _
  | some p =>
    refine .step (.read p) _ trivial ⟨_, trivial, rfl⟩ fun answer => ?_
    cases answer with
    | content bytes =>
      refine ((careful_readTarget volume rootPath f.relativePath).mono (fun _ _ => trivial) fun _ h => h).bind
        fun current => careful_ensure _ _
    | _ => exact .ret _

omit [Bcrypt] in
theorem value_checkUnchanged (h : value (checkUnchanged volume preview.configRoot f).run d = .ok ()) :
    SafeRelativePath f.relativePath ∧ ∃ p, targetOf volume preview f = some p ∧ d p = some f.originalBytes := by
  unfold checkUnchanged at h
  simp only [value_bind_eq_ok, value_ensure_eq_ok, value_readTarget_eq_ok] at h
  obtain ⟨-, hsafe, -, -, -, -, current, ⟨p, hp, hcurrent, -⟩, rfl⟩ := h
  exact ⟨hsafe, p, hp, hcurrent⟩

omit [Bcrypt] in
/-- What is asked for at the beginning. -/
theorem keeps_checkPreview {J : StoreDisk → Prop} (preconditions : ApplyPreconditions) (hJ : J w.disk) :
    Keeps J (checkPreview volume preview preconditions)
      (fun _ d' => d' = w.disk ∧ Checked volume preview w.disk) w := by
  have hspace : Careful (fun _ : Path => True) (fun _ => True) (availableSpace volume preconditions).run := by
    unfold availableSpace
    split
    · exact careful_pure _
    · refine careful_perform trivial ⟨_, trivial, rfl⟩ fun answer => ?_
      cases answer <;> exact .ret _
  have hcheck : Careful (fun _ => True) (fun _ => True) (checkPreview volume preview preconditions).run := by
    unfold checkPreview
    refine (careful_ensure _ _).bind fun _ => (careful_ensure _ _).bind fun _ => ?_
    refine (careful_forEach fun f _ => careful_checkUnchanged volume _ f).bind fun _ => ?_
    exact hspace.bind fun _ => careful_ensure _ _
  refine keeps_careful hcheck hJ fun _ hvalue => ⟨rfl, ?_⟩
  unfold checkPreview at hvalue
  simp only [value_bind_eq_ok, value_ensure_eq_ok, value_forEach_eq_ok] at hvalue
  obtain ⟨-, -, -, -, -, hfiles, -⟩ := hvalue
  exact ⟨fun f hf => (value_checkUnchanged (hfiles f hf)).1, fun f hf => (value_checkUnchanged (hfiles f hf)).2⟩

/-- **At every moment** of the call everything can be recovered. -/
theorem keeps_applyPreview (hroot : Rooted volume root preview) (hfree : CollisionFree (Digested preview d))
    (hover : verdict volume (some root) d (backupOf preview).id = .over)
    (preconditions : ApplyPreconditions) :
    Keeps (Recoverable volume root preview d) (applyPreview volume preview preconditions)
      (fun _ d' => JournalledIn volume preview d .complete d' ∧ AsDesired volume preview d') ⟨d, []⟩ := by
  have hstart : Recoverable volume root preview d d := (Preparing.start preview d).recoverable hover
  unfold applyPreview
  refine keeps_bind (keeps_checkPreview preconditions hstart) ?_
  rintro _ v ⟨hv, hchecked⟩
  refine keeps_bind (keeps_prepare hroot hfree hover hchecked hv) ?_
  rintro _ v ⟨rfl, hv⟩
  exact keeps_commit hv

/-! ## 7. Recovery afterwards -/

/-- Runs of recovery, each on what the one before it has left behind. -/
def recoveries (volume : Volume) (directory : List Path) (root : Bytes)
    (plans : List (List (Turn Path Bytes))) (d : StoreDisk) : StoreDisk :=
  plans.foldl (fun d plan => (recovery volume directory (some root) plan d).2) d

/-- A run of recovery that has ended without an error has done the rounds. -/
theorem rounds_of_succeeds {directory : List Path} (hdirectory : directory.Nodup)
    {plan : List (Turn Path Bytes)} (hplan : ∀ turn ∈ plan, Alone turn)
    (h : Succeeds (recovery volume directory (some root) plan d).1) :
    rounds (entryRound volume (some root)) (directory.filter Path.isJournal) d =
      (true, (recovery volume directory (some root) plan d).2) := by
  have hsound := wp_sound (@does_recoverTransactions _ volume (some root) ⟨d, []⟩ Alone
    (fun _ h => h) _ hdirectory) rfl hplan
  obtain ⟨result, hresult⟩ := h
  unfold recovery at hresult ⊢
  simp only at hresult ⊢
  generalize run (recoverTransactions volume directory (some root)).run plan ⟨d, []⟩ = ended
    at hsound hresult
  obtain ⟨outcome, v⟩ := ended
  obtain rfl : outcome = some (.ok result) := hresult
  exact hsound.1

/-- Whatever becomes of the runs, a further one comes to the same. -/
theorem rounds_recoveries {directory : List Path} (hdirectory : directory.Nodup)
    {plans : List (List (Turn Path Bytes))} (hplans : ∀ plan ∈ plans, ∀ turn ∈ plan, Alone turn)
    (h : rounds (entryRound volume (some root)) (directory.filter Path.isJournal) d = (true, d')) :
    rounds (entryRound volume (some root)) (directory.filter Path.isJournal)
      (recoveries volume directory root plans d) = (true, d') := by
  have hf := restartable_entryRound volume (some root)
    (l := directory.filter Path.isJournal) fun p hp => (List.mem_filter.mp hp).2
  induction plans generalizing d with
  | nil => exact h
  | cons plan plans ih =>
    obtain ⟨hplan, hplans⟩ := List.forall_mem_cons.mp hplans
    refine ih hplans ?_
    exact ((@does_recoverTransactions _ volume (some root) ⟨d, []⟩ Alone (fun _ h => h) _
      hdirectory).restart (hf.rounds_again (hdirectory.filter _) trivial) rfl hplan).trans h

/-- **The rounds over the journals** come to that over the one of the transaction, where all others
are seen to. -/
theorem rounds_eq_entryRound {directory : List Path} (hdirectory : directory.Nodup)
    (hlisted : Path.journal (backupOf preview).id ∈ directory)
    (hsettled : rounds (entryRound volume (some root)) (directory.filter Path.isJournal) d = (true, d))
    (helsewhere : Elsewhere volume preview d d') :
    rounds (entryRound volume (some root)) (directory.filter Path.isJournal) d' =
      entryRound volume (some root) (.journal (backupOf preview).id) d' := by
  have hl : (directory.filter Path.isJournal).Nodup := hdirectory.filter _
  have hf := restartable_entryRound volume (some root)
    (l := directory.filter Path.isJournal) fun p hp => (List.mem_filter.mp hp).2
  have hother : ∀ p ∈ directory.filter Path.isJournal,
      decide (p = .journal (backupOf preview).id) = false → entryRound volume (some root) p d' = (true, d') := by
    intro p hp hne
    have hdone := hf.settled_of_rounds hl trivial hsettled p hp
    cases p with
    | journal id =>
      have hid : id ≠ (backupOf preview).id := by
        rintro rfl
        simp at hne
      exact entryRound_of_over (over_congr (over_of_entryRound hdone) (helsewhere.journals id hid)
        (helsewhere.manifests id hid))
    | _ => rfl
  rw [← hf.rounds_filter hl trivial hother]
  have hmem : Path.journal (backupOf preview).id ∈ directory.filter Path.isJournal :=
    List.mem_filter.mpr ⟨hlisted, rfl⟩
  have hfilter : (directory.filter Path.isJournal).filter
      (fun p => decide (p = .journal (backupOf preview).id)) = [.journal (backupOf preview).id] := by
    rw [List.filter_eq, List.count_eq_one_of_mem hl hmem]
    rfl
  rw [hfilter, rounds_singleton]

end

/-- The process stops when the first file has been replaced and the second has not. -/
def halfwayPlan : List (Turn Path Bytes) := List.replicate 25 ({} : Turn Path Bytes) ++ [{ fate := .crash }]

def halfwayDisk : StoreDisk :=
  (run (applyPreview bothVolume bothPreview {}).run halfwayPlan ⟨bothDisk, []⟩).2.disk

def bothDirectory : List Path := [.journal (backupOf bothPreview).id]

theorem halfwayPlan_atomically : ∀ turn ∈ halfwayPlan, Atomically turn := by
  intro turn hturn
  rcases List.mem_append.mp hturn with h | h
  · rw [List.eq_of_mem_replicate h]
    exact ⟨rfl, by decide⟩
  · rw [List.mem_singleton.mp h]
    exact ⟨rfl, by decide⟩

theorem bothPreview_collisionFree : CollisionFree (Digested bothPreview bothDisk) := by
  have hobject : ∀ sha256, bothDisk (.object sha256) = none := fun _ => rfl
  have hletters : ∀ bytes ∈ Digested bothPreview bothDisk, bytes ∈ [ascii "a", ascii "c"] := by
    rintro bytes (⟨f, hf, rfl⟩ | ⟨sha256, h⟩)
    · revert f
      decide
    · rw [hobject] at h
      cases h
  have hdistinct : ∀ a ∈ [ascii "a", ascii "c"], ∀ b ∈ [ascii "a", ascii "c"],
      Bcrypt.sha256 a = Bcrypt.sha256 b → a = b := by decide +kernel
  exact fun a ha b hb heq => hdistinct a (hletters a ha) b (hletters b hb) heq

end Kf2Optimizer.Config
