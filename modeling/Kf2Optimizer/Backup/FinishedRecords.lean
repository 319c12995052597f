/-
# Finished transactions and recovery

`recover_transactions` loads the manifest of every journal that it can parse, also of one that says
`complete`, and fails when it cannot.  So the records of a finished transaction stand in the way of
the others exactly when its manifest does not load (`recoverTransactions_finished`): where all
load, recovery does what it does in a store from which these records were removed.
-/
import Kf2Optimizer.Backup.Refusal

namespace Kf2Optimizer.Backup

open Text Files Security Platform Config

/-! ## 1. Finished transactions -/

/-- The journal says `complete`. -/
def finished (d : StoreDisk) (id : Bytes) : Bool :=
  match d (.journal id) with
  | none => false
  | some bytes =>
    decide (bytes.length ≤ maxJournalBytes) &&
      match parseJournal bytes id with
      | .ok journal => decide (journal.state = .complete)
      | .error _ => false

/-- The journal or the manifest of a finished transaction. -/
def FinishedRecord (d : StoreDisk) : Path → Prop
  | .journal id => finished d id = true
  | .manifest id => finished d id = true
  | _ => False

/-- The store without the records of finished transactions. -/
def withoutFinished (d : StoreDisk) : StoreDisk
  | .journal id => if finished d id then none else d (.journal id)
  | .manifest id => if finished d id then none else d (.manifest id)
  | p => d p

theorem withoutFinished_of_not {d : StoreDisk} {p : Path} (h : ¬ FinishedRecord d p) :
    d p = withoutFinished d p := by
  cases p with
  | journal id => exact (if_neg h).symm
  | manifest id => exact (if_neg h).symm
  | _ => rfl

theorem finished_iff {d : StoreDisk} {id : Bytes} :
    finished d id = true ↔ ∃ bytes, d (.journal id) = some bytes ∧ bytes.length ≤ maxJournalBytes ∧
      parseJournal bytes id = .ok ⟨.complete, id⟩ := by
  unfold finished
  cases hjournal : d (.journal id) with
  | none => simp
  | some bytes =>
    simp only [Bool.and_eq_true, decide_eq_true_eq, Option.some.injEq, exists_eq_left']
    refine and_congr_right fun _ => ?_
    cases hparse : parseJournal bytes id with
    | error e => simp
    | ok journal =>
      have hid := (parseJournal_eq_ok hparse).2
      constructor
      · intro h
        simp only [decide_eq_true_eq] at h
        rw [← h, ← hid]
      · intro h
        cases h
        rfl

/-! ## 2. What the recovery of a journal has to do with -/

/-- A record of another transaction. -/
def OtherRecord (id : Bytes) : Path → Prop
  | .journal id' => id' ≠ id
  | .manifest id' => id' ≠ id
  | _ => False

section

variable {volume : Volume} {id : Bytes}

theorem not_otherRecord_object (id sha256 : Bytes) : ¬ OtherRecord id (.object sha256) := fun h => h

theorem avoids_target {root relativePath : Bytes} {p : Path}
    (h : volume.target root relativePath = some p) : ¬ OtherRecord id p := by
  obtain ⟨d, -, rfl⟩ := Option.map_eq_some_iff.mp h
  exact fun hp => hp

/-- What reads configuration files only. -/
theorem onlyTask_avoids_readTarget (root relativePath : Bytes) :
    OnlyTask (Op.Avoids (OtherRecord id)) (fun _ => True) (readTarget volume root relativePath) := by
  unfold readTarget
  split
  · rename_i p hp
    refine onlyTask_perform (avoids_target hp) fun answer => ?_
    cases answer with
    | content bytes => exact onlyTask_liftExcept _ fun _ _ => trivial
    | _ => exact onlyTask_throw _
  · exact onlyTask_throw _

theorem onlyTask_avoids_readBounded {p : Path} (hp : ¬ OtherRecord id p) (maximum : ℕ) :
    OnlyTask (Op.Avoids (OtherRecord id)) (fun _ => True) (readBounded p maximum) := by
  refine onlyTask_perform hp fun answer => ?_
  cases answer with
  | content bytes => exact onlyTask_liftExcept _ fun _ _ => trivial
  | _ => exact onlyTask_throw _

theorem onlyTask_avoids_ensure (c : Prop) [Decidable c] (e : Error) :
    OnlyTask (Op.Avoids (OtherRecord id)) (fun _ => True) (ensure c e : StoreTask Unit) :=
  (onlyTask_ensure c e).mono (fun _ h => h) fun _ _ => trivial

theorem otherRecord_of_finished {d : StoreDisk} (hid : finished d id = false) {p : Path}
    (hp : FinishedRecord d p) : OtherRecord id p := by
  cases p with
  | journal id' =>
    intro heq
    rw [FinishedRecord, heq, hid] at hp
    cases hp
  | manifest id' =>
    intro heq
    rw [FinishedRecord, heq, hid] at hp
    cases hp
  | _ => exact hp

/-- A store with the finished transactions of `d` beside one without them. -/
structure Beside (d : StoreDisk) (w w' : StoreWorld) : Prop where
  same : SameBut (FinishedRecord d) w w'
  kept : ∀ p, FinishedRecord d p → w.disk p = d p

theorem Beside.stillFinished {d : StoreDisk} {w w' : StoreWorld} (h : Beside d w w')
    (hid : finished d id = true) : finished w.disk id = true := by
  unfold finished at hid ⊢
  rw [h.kept (.journal id) hid]
  exact hid

/-- The entries that recovery has without the finished transactions. -/
def unfinishedEntries (d : StoreDisk) (l : List Path) : List Path :=
  l.filter fun p => !finished d p.stem

/-- The journals of a store without the finished transactions. -/
theorem filter_withoutFinished (d : StoreDisk) {l : List Path} (hl : ∀ p ∈ l, p.isJournal = true) :
    l.filter (fun p => (withoutFinished d p).isSome) =
      unfinishedEntries d (l.filter fun p => (d p).isSome) := by
  rw [unfinishedEntries, List.filter_filter]
  refine List.filter_congr fun p hp => ?_
  cases p with
  | journal id =>
    by_cases hid : finished d id = true
    · simp [withoutFinished, Path.stem, hid]
    · simp [withoutFinished, Path.stem, hid]
  | _ => cases hl _ hp

theorem exec_inspect (e : Error) (w : StoreWorld) : exec (inspect e).run w = (.ok (), w) := rfl

variable [Bcrypt]

theorem onlyTask_avoids_sha256Hex (bytes : Bytes) :
    OnlyTask (Op.Avoids (OtherRecord id)) (fun _ => True) (sha256Hex bytes : StoreTask Bytes) := by
  refine onlyTask_perform trivial fun answer => ?_
  cases answer with
  | done => exact onlyTask_pure trivial
  | _ => exact onlyTask_throw _

/-- A backup is loaded from its own manifest. -/
theorem onlyTask_avoids_loadBackup :
    OnlyTask (Op.Avoids (OtherRecord id)) (fun b => b.id = id) (loadBackup id) := by
  have hload : OnlyTask (Op.Avoids (OtherRecord id)) (fun b => b.id = id) (load id) := by
    have hmanifest : ¬ OtherRecord id (.manifest id) := fun h => h rfl
    unfold load
    refine (onlyTask_ensure _ _).bind fun _ _ => ?_
    refine ((onlyTask_avoids_readBounded hmanifest _).adapt _).bind fun text _ => ?_
    have hparse : OnlyTask (Op.Avoids (OtherRecord id)) (fun b => b.id = id)
        (liftExcept (parseManifest id text) : StoreTask BackupSet) :=
      onlyTask_liftExcept _ fun b hb => parseManifest_id hb
    refine (hparse.adapt _).bind fun b hb => ?_
    refine ((onlyTask_avoids_sha256Hex _).adapt _).bind fun _ _ => ?_
    exact (onlyTask_ensure _ _).bind fun _ _ => onlyTask_pure hb
  exact hload.adapt _

theorem onlyTask_avoids_verify {b : BackupSet} (hb : b.id = id) :
    OnlyTask (Op.Avoids (OtherRecord id)) (fun _ => True) (verify b) := by
  subst hb
  unfold verify
  refine onlyTask_avoids_loadBackup.bind fun loaded _ => (onlyTask_ensure _ _).bind fun _ _ => ?_
  refine (onlyTask_forEach (r := fun _ => True) fun p _ => ?_).mono (fun _ h => h) fun _ _ => trivial
  unfold verifySnapshot
  refine (onlyTask_ensure _ _).bind fun _ _ => ?_
  refine (onlyTask_avoids_readBounded (not_otherRecord_object _ _) _).bind fun _ _ => ?_
  exact (onlyTask_avoids_sha256Hex _).bind fun _ _ => onlyTask_avoids_ensure _ _

theorem onlyTask_avoids_recoverFile (root : Bytes) (state : JournalState) (s : FileSnapshot) :
    OnlyTask (Op.Avoids (OtherRecord id)) (fun _ => True) (recoverFile volume root state s) := by
  have hsafe : OnlyTask (Op.Avoids (OtherRecord id)) (fun _ => True)
      (safeTarget volume root s.relativePath) := by
    unfold safeTarget
    split
    · rename_i p hp
      refine onlyTask_perform (avoids_target hp) fun answer => ?_
      cases answer <;> exact onlyTask_pure trivial
    · exact onlyTask_pure trivial
  have hcurrent : OnlyTask (Op.Avoids (OtherRecord id)) (fun _ => True)
      (currentBytes volume root s.relativePath) := by
    unfold currentBytes
    refine hsafe.bind fun _ _ => ?_
    exact (onlyTask_ensure _ _).bind fun _ _ => onlyTask_avoids_readTarget _ _
  unfold recoverFile
  refine (onlyTask_ensure _ _).bind fun _ _ => hcurrent.bind fun current _ => ?_
  refine (onlyTask_avoids_sha256Hex _).bind fun digest _ => ?_
  split
  · exact onlyTask_avoids_ensure _ _
  · unfold recoverReplaced
    refine (onlyTask_ensure _ _).bind fun _ _ => ?_
    split
    · unfold rollBackFile
      refine (onlyTask_avoids_readBounded (not_otherRecord_object _ _) _).bind fun original _ => ?_
      refine (onlyTask_replaceTarget fun p hp => avoids_target hp).bind fun _ _ => ?_
      exact ((onlyTask_avoids_readTarget _ _).adapt _).bind fun _ _ => onlyTask_avoids_ensure _ _
    · exact onlyTask_pure trivial

/-- **A journal is recovered** with its own records. -/
theorem onlyTask_avoids_recoverEntry (root : Option Bytes) (result : RecoveryResult) :
    OnlyTask (Op.Avoids (OtherRecord id)) (fun _ => True)
      (recoverEntry volume root result (.journal id)) := by
  have hjournal : ¬ OtherRecord id (.journal id) := fun h => h rfl
  have hinspect : OnlyTask (Op.Avoids (OtherRecord id)) (fun _ => True)
      (inspect (ioFailure "Recovery journal identity cannot be inspected")) := by
    refine onlyTask_perform trivial fun answer => ?_
    cases answer with
    | done => exact onlyTask_pure trivial
    | _ => exact onlyTask_throw _
  have hwrite : ∀ b : BackupSet, b.id = id →
      OnlyTask (Op.Avoids (OtherRecord id)) (fun _ => True) (writeJournal b .complete) := by
    rintro b rfl
    exact onlyTask_atomicReplace hjournal
  have hquarantine : ∀ e, OnlyTask (Op.Avoids (OtherRecord id))
      (fun r => ∀ journal, r = some journal → journal.id = id) (quarantineJournal (.journal id) e) := by
    intro e
    have hremove : OnlyTask (Op.Avoids (OtherRecord id)) (fun _ => True)
        (quarantineRegularFile (.journal id)) := by
      refine onlyTask_perform hjournal fun answer => ?_
      cases answer with
      | done => exact onlyTask_pure trivial
      | _ => exact onlyTask_throw _
    exact (hremove.adapt _).bind fun _ _ => onlyTask_pure fun journal h => by cases h
  have hread : OnlyTask (Op.Avoids (OtherRecord id))
      (fun r => ∀ journal, r = some journal → journal.id = id) (readJournal (.journal id)) := by
    unfold readJournal
    refine (onlyTask_attempt (onlyTask_avoids_readBounded hjournal _)).bind fun outcome _ => ?_
    cases outcome with
    | ok bytes =>
      simp only
      split
      · rename_i journal hparse
        refine onlyTask_pure fun j hj => ?_
        rw [← Option.some.inj hj]
        exact (parseJournal_eq_ok hparse).2
      · exact hquarantine _
    | error e =>
      simp only
      split
      · exact hquarantine _
      · exact onlyTask_throw _
  unfold recoverEntry
  refine hinspect.bind fun _ _ => hread.bind fun r hr => ?_
  cases r with
  | none => exact onlyTask_pure trivial
  | some journal =>
    obtain rfl := hr journal rfl
    unfold recoverJournal
    refine onlyTask_avoids_loadBackup.bind fun b hb => ?_
    split
    · exact onlyTask_pure trivial
    · split
      · exact onlyTask_throw _
      · have hsame : OnlyTask (Op.Avoids (OtherRecord journal.id)) (fun _ => True)
            (sameExistingDirectory volume b.configRoot ‹Bytes›) := by
          refine onlyTask_perform trivial fun answer => ?_
          cases answer <;> exact onlyTask_pure trivial
        refine hsame.bind fun _ _ => (onlyTask_ensure _ _).bind fun _ _ => ?_
        refine (onlyTask_avoids_verify hb).bind fun _ _ => ?_
        split
        · exact (hwrite b hb).bind fun _ _ => onlyTask_pure trivial
        · unfold recoverFiles
          refine (onlyTask_forEach fun s _ => onlyTask_avoids_recoverFile _ _ s).bind fun _ _ => ?_
          exact (hwrite b hb).bind fun _ _ => onlyTask_pure trivial

/-! ## 3. The journal of a finished transaction -/

/-- Recovery loads the manifest of a finished transaction, and goes on. -/
theorem exec_recoverEntry_finished {w : StoreWorld} (h : finished w.disk id = true)
    (root : Option Bytes) (result : RecoveryResult) :
    exec (recoverEntry volume root result (.journal id)).run w =
      ((value (loadBackup id).run w.disk).map fun _ => result, w) := by
  obtain ⟨bytes, hbytes, hlength, hparse⟩ := finished_iff.mp h
  have hread : exec (readJournal (.journal id)).run w = (.ok (some ⟨.complete, id⟩), w) := by
    unfold readJournal
    have hvalue : value (readBounded (Path.journal id) maxJournalBytes).run w.disk = .ok bytes :=
      value_readBounded_eq_ok.mpr ⟨hbytes, hlength⟩
    rw [exec_task_bind, exec_attempt,
      exec_careful (careful_readBounded (R := fun _ => True) trivial _), hvalue]
    simp only [Path.stem, hparse]
    rfl
  unfold recoverEntry
  rw [exec_task_bind, exec_inspect]
  simp only
  rw [exec_task_bind, hread]
  simp only
  unfold recoverJournal
  rw [exec_task_bind, exec_careful (careful_loadBackup id)]
  cases value (loadBackup id).run w.disk with
  | error e => rfl
  | ok b => rfl

theorem Beside.loads {d : StoreDisk} {w w' : StoreWorld} (h : Beside d w w') {b : BackupSet}
    (hid : finished d id = true) : Loads w.disk id b ↔ Loads d id b :=
  ⟨fun hb => hb.congr (h.kept (.manifest id) hid).symm, fun hb => hb.congr (h.kept (.manifest id) hid)⟩

/-- The recovery of a journal that is not finished. -/
theorem Beside.entry {d : StoreDisk} {w w' : StoreWorld} (h : Beside d w w')
    (hid : finished d id = false) (root : Option Bytes) (result : RecoveryResult) :
    (exec (recoverEntry volume root result (.journal id)).run w).1 =
        (exec (recoverEntry volume root result (.journal id)).run w').1 ∧
      Beside d (exec (recoverEntry volume root result (.journal id)).run w).2
        (exec (recoverEntry volume root result (.journal id)).run w').2 := by
  have havoids := (@onlyTask_avoids_recoverEntry volume id _ root result).mono
    (fun _ hop => Op.Avoids.mono hop fun _ => otherRecord_of_finished hid) fun _ h => h
  obtain ⟨hanswer, hsame⟩ := exec_sameBut havoids h.same
  exact ⟨hanswer, hsame, fun p hp => (exec_frame havoids w hp).trans (h.kept p hp)⟩

/-- **Where the finished transactions load**, recovery does what it does without them. -/
theorem exec_recoverEntries_of_loads {d : StoreDisk} (root : Option Bytes) {l : List Path}
    (hl : ∀ p ∈ l, p.isJournal = true)
    (hloads : ∀ id, .journal id ∈ l → finished d id = true → ∃ b, Loads d id b)
    (result : RecoveryResult) {w w' : StoreWorld} (h : Beside d w w') :
    (exec (recoverEntries volume root result l).run w).1 =
        (exec (recoverEntries volume root result (unfinishedEntries d l)).run w').1 ∧
      Beside d (exec (recoverEntries volume root result l).run w).2
        (exec (recoverEntries volume root result (unfinishedEntries d l)).run w').2 := by
  induction l generalizing result w w' with
  | nil => exact ⟨rfl, h⟩
  | cons entry l ih =>
    obtain ⟨hentry, hrest⟩ := List.forall_mem_cons.mp hl
    have hloads' : ∀ id, .journal id ∈ l → finished d id = true → ∃ b, Loads d id b :=
      fun id hid => hloads id (List.mem_cons_of_mem _ hid)
    cases entry with
    | journal id =>
      rw [recoverEntries, exec_task_bind]
      cases hid : finished d id with
      | true =>
        obtain ⟨b, hb⟩ := hloads id List.mem_cons_self hid
        have hvalue : value (loadBackup id).run w.disk = .ok b :=
          value_loadBackup_eq_ok.mpr ((h.loads hid).mpr hb)
        have hfilter : unfinishedEntries d (.journal id :: l) = unfinishedEntries d l :=
          List.filter_cons_of_neg (by simp [Path.stem, hid])
        rw [exec_recoverEntry_finished (h.stillFinished hid), hvalue, hfilter]
        exact ih hrest hloads' result h
      | false =>
        have hfilter : unfinishedEntries d (.journal id :: l) =
            .journal id :: unfinishedEntries d l :=
          List.filter_cons_of_pos (by simp [Path.stem, hid])
        obtain ⟨hanswer, hbeside⟩ := @Beside.entry volume _ _ _ _ _ h hid root result
        rw [hfilter, recoverEntries, exec_task_bind, ← hanswer]
        cases (exec (recoverEntry volume root result (.journal id)).run w).1 with
        | ok next => exact ih hrest hloads' next hbeside
        | error e => exact ⟨rfl, hbeside⟩
    | _ => cases hentry

/-- **Where one does not**, recovery fails. -/
theorem exec_recoverEntries_of_not_loads {d : StoreDisk} (root : Option Bytes) {l : List Path}
    (hl : ∀ p ∈ l, p.isJournal = true) {id : Bytes} (hid : finished d id = true)
    (hmem : .journal id ∈ l) (hnot : ∀ b, ¬ Loads d id b) (result : RecoveryResult)
    {w w' : StoreWorld} (h : Beside d w w') :
    ∃ e, (exec (recoverEntries volume root result l).run w).1 = .error e := by
  induction l generalizing result w w' with
  | nil => cases hmem
  | cons entry l ih =>
    obtain ⟨hentry, hrest⟩ := List.forall_mem_cons.mp hl
    cases entry with
    | journal id' =>
      rw [recoverEntries, exec_task_bind]
      cases hid' : finished d id' with
      | true =>
        rw [exec_recoverEntry_finished (h.stillFinished hid')]
        cases hvalue : value (loadBackup id').run w.disk with
        | error e => exact ⟨e, rfl⟩
        | ok b =>
          rcases List.mem_cons.mp hmem with heq | hmem
          · cases heq
            exact absurd ((h.loads hid).mp (value_loadBackup_eq_ok.mp hvalue)) (hnot b)
          · exact ih hrest hmem result h
      | false =>
        obtain ⟨-, hbeside⟩ := @Beside.entry volume _ _ _ _ _ h hid' root result
        have hmem' : .journal id ∈ l := by
          rcases List.mem_cons.mp hmem with heq | hmem
          · cases heq
            rw [hid] at hid'
            cases hid'
          · exact hmem
        cases (exec (recoverEntry volume root result (.journal id')).run w).1 with
        | ok next => exact ih hrest hmem' next hbeside
        | error e => exact ⟨e, rfl⟩
    | _ => cases hentry

/-! ## 4. The whole recovery -/

theorem exec_recoverTransactions (directory : List Path) (root : Option Bytes) (w : StoreWorld) :
    exec (recoverTransactions volume directory root).run w =
      exec (recoverEntries volume root {} ((directory.filter Path.isJournal).filter
        fun p => (w.disk p).isSome)).run w := rfl

/-- **Finished transactions and recovery.**  Where the manifest of every finished transaction of the
directory loads, recovery answers what it does in a store from which their records were removed,
and leaves the same files behind, with these records as they were.  It succeeds exactly when it does
in that store and all of them load. -/
theorem recoverTransactions_finished (volume : Volume) (directory : List Path)
    (root : Option Bytes) (d : StoreDisk) :
    ((∀ id, .journal id ∈ directory → finished d id = true → ∃ b, Loads d id b) →
      (run (recoverTransactions volume directory root).run [] ⟨d, []⟩).1 =
        (run (recoverTransactions volume directory root).run [] ⟨withoutFinished d, []⟩).1 ∧
      (∀ p, ¬ FinishedRecord d p →
        (run (recoverTransactions volume directory root).run [] ⟨d, []⟩).2.disk p =
          (run (recoverTransactions volume directory root).run [] ⟨withoutFinished d, []⟩).2.disk p) ∧
      ∀ p, FinishedRecord d p →
        (run (recoverTransactions volume directory root).run [] ⟨d, []⟩).2.disk p = d p) ∧
    ∀ result, (run (recoverTransactions volume directory root).run [] ⟨d, []⟩).1 =
        some (.ok result) ↔
      (∀ id, .journal id ∈ directory → finished d id = true → ∃ b, Loads d id b) ∧
        (run (recoverTransactions volume directory root).run [] ⟨withoutFinished d, []⟩).1 =
          some (.ok result) := by
  have hstart : Beside d ⟨d, []⟩ ⟨withoutFinished d, []⟩ :=
    ⟨fun _ => withoutFinished_of_not, fun _ _ => rfl⟩
  let l := (directory.filter Path.isJournal).filter fun p => (d p).isSome
  have hl : ∀ p ∈ l, p.isJournal = true := fun p hp =>
    (List.mem_filter.mp (List.mem_filter.mp hp).1).2
  have hmem : ∀ id, finished d id = true → (.journal id ∈ l ↔ .journal id ∈ directory) := by
    intro id hid
    obtain ⟨bytes, hbytes, -⟩ := finished_iff.mp hid
    simp [l, Path.isJournal, hbytes]
  have hjournals : (directory.filter Path.isJournal).filter (fun p => (withoutFinished d p).isSome) =
      unfinishedEntries d l :=
    filter_withoutFinished d fun p hp => (List.mem_filter.mp hp).2
  have hsame : (∀ id, .journal id ∈ directory → finished d id = true → ∃ b, Loads d id b) →
      (exec (recoverTransactions volume directory root).run ⟨d, []⟩).1 =
          (exec (recoverTransactions volume directory root).run ⟨withoutFinished d, []⟩).1 ∧
        Beside d (exec (recoverTransactions volume directory root).run ⟨d, []⟩).2
          (exec (recoverTransactions volume directory root).run ⟨withoutFinished d, []⟩).2 := by
    intro hloads
    rw [exec_recoverTransactions, exec_recoverTransactions, hjournals]
    exact exec_recoverEntries_of_loads root hl
      (fun id hid hfin => hloads id ((hmem id hfin).mp hid) hfin) {} hstart
  simp only [run_nil, Option.some.injEq]
  refine ⟨fun hloads => ?_, fun result => ⟨fun h => ?_, fun h => ?_⟩⟩
  · obtain ⟨hanswer, hbeside⟩ := hsame hloads
    exact ⟨hanswer, hbeside.same, hbeside.kept⟩
  · have hloads : ∀ id, .journal id ∈ directory → finished d id = true → ∃ b, Loads d id b := by
      intro id hid hfin
      by_contra hnot
      obtain ⟨e, he⟩ := @exec_recoverEntries_of_not_loads volume _ _ root _ hl _ hfin
        ((hmem id hfin).mpr hid) (not_exists.mp hnot) {} _ _ hstart
      rw [exec_recoverTransactions] at h
      rw [show (directory.filter Path.isJournal).filter (fun p => (d p).isSome) = l from rfl, he] at h
      cases h
    exact ⟨hloads, (hsame hloads).1 ▸ h⟩
  · exact (hsame h.1).1.trans h.2

end

/-- The files of a transaction that has replaced both files and is pending, beside the journal of a
finished one whose manifest is gone. -/
def finishedDisk : StoreDisk :=
  ((((run (create bothPreview).run [] ⟨bothDisk, []⟩).2.disk.set
    (.journal (backupOf bothPreview).id)
      (some (journalText .replacementStarted (backupOf bothPreview).id))).set
    (.target 0 (ascii "KFEngine.ini")) (some (ascii "b"))).set
    (.target 0 (ascii "KFGame.ini")) (some (ascii "d"))).set
    (.journal (List.replicate 64 0x30)) (some (journalText .complete (List.replicate 64 0x30)))

def finishedDirectory : List Path :=
  [.journal (List.replicate 64 0x30), .journal (backupOf bothPreview).id]

/-- A finished transaction without a manifest keeps a pending one from being recovered, which is
recovered without it. -/
theorem finished_blocks_pending :
    finished finishedDisk (List.replicate 64 0x30) = true ∧
      (run (recoverTransactions bothVolume finishedDirectory (some (ascii "C:/"))).run []
        ⟨finishedDisk, []⟩).2.disk (.target 0 (ascii "KFEngine.ini")) = some (ascii "b") ∧
      (run (recoverTransactions bothVolume finishedDirectory (some (ascii "C:/"))).run []
        ⟨withoutFinished finishedDisk, []⟩).1 = some (.ok ⟨.rolledBack, 1⟩) ∧
      (run (recoverTransactions bothVolume finishedDirectory (some (ascii "C:/"))).run []
        ⟨withoutFinished finishedDisk, []⟩).2.disk (.target 0 (ascii "KFEngine.ini")) =
          some (ascii "a") := by
  decide +kernel

end Kf2Optimizer.Backup
