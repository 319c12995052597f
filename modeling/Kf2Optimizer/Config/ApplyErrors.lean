/-
# When applying fails

What `apply_preview` leaves behind when it fails, while other programs write the configuration
files at any moment.  It replaces a file only where it holds the original bytes, and puts it back
only where it holds the desired ones (`Compares`).  A call that fails has replaced nothing, or has
put everything back and says so in the journal, or asks for recovery with the journal pending
(`applyPreview_errorAtomic`).
-/
import Kf2Optimizer.Backup.Journals

namespace Kf2Optimizer.Config

open Text Files Security Platform Backup

/-! ## 1. What is replaced -/

/-- The configuration file of a file of a preview. -/
def targetOf (volume : Volume) (preview : ConfigPreview) (file : PreviewFile) : Option Path :=
  volume.target preview.configRoot file.relativePath

theorem not_stored_target {volume : Volume} {root relativePath : Bytes} {p : Path}
    (h : volume.target root relativePath = some p) : ¬ p.stored := by
  obtain ⟨d, -, rfl⟩ := Option.map_eq_some_iff.mp h
  exact fun hp => hp

theorem target_injective {volume : Volume} {root r r' : Bytes} {p : Path}
    (h : volume.target root r = some p) (h' : volume.target root r' = some p) : r = r' := by
  obtain ⟨d, -, rfl⟩ := Option.map_eq_some_iff.mp h
  obtain ⟨d', -, heq⟩ := Option.map_eq_some_iff.mp h'
  injection heq with _ hpath
  exact hpath.symm

/-- What `apply_preview` does to the files. -/
inductive ApplyOp (volume : Volume) (preview : ConfigPreview) : Op Path Bytes → Prop
  | reads {op : Op Path Bytes} (h : op.readsIn fun _ => True) : ApplyOp volume preview op
  | store {p : Path} (hp : p.stored) (bytes : Bytes) : ApplyOp volume preview (.write p bytes)
  | replace {f : PreviewFile} {p : Path} (hf : f ∈ preview.files)
      (hp : targetOf volume preview f = some p) :
      ApplyOp volume preview (.writeIf p f.originalBytes f.proposedBytes)
  | putBack {f : PreviewFile} {p : Path} (hf : f ∈ preview.files)
      (hp : targetOf volume preview f = some p) :
      ApplyOp volume preview (.writeIf p f.proposedBytes f.originalBytes)

/-- What is replaced in the configuration files is original bytes by desired ones, or desired ones
by the original ones. -/
def Compares (volume : Volume) (preview : ConfigPreview) (w : StoreWorld) : Prop :=
  ∀ p old new, .own p old new ∈ w.log → ¬ p.stored →
    ∃ f ∈ preview.files, targetOf volume preview f = some p ∧
      (old = some f.originalBytes ∧ new = some f.proposedBytes ∨
        old = some f.proposedBytes ∧ new = some f.originalBytes)

section

variable {volume : Volume} {preview : ConfigPreview}

theorem Compares.intrude {w : StoreWorld} (h : Compares volume preview w)
    (others : List (Path × Option Bytes)) : Compares volume preview (w.intrude others) := by
  induction others generalizing w with
  | nil => exact h
  | cons o others ih =>
    refine ih fun p old new hmem => ?_
    rcases List.mem_cons.mp hmem with heq | hmem
    · cases heq
    · exact h p old new hmem

theorem Compares.own {w : StoreWorld} (h : Compares volume preview w) {p : Path}
    {new : Option Bytes} (hnew : ¬ p.stored → ∃ f ∈ preview.files,
      targetOf volume preview f = some p ∧
        (w.disk p = some f.originalBytes ∧ new = some f.proposedBytes ∨
          w.disk p = some f.proposedBytes ∧ new = some f.originalBytes)) :
    Compares volume preview (w.own p new) := by
  intro q old new' hmem hq
  rcases List.mem_cons.mp hmem with heq | hmem
  · cases heq
    exact hnew hq
  · exact h q old new' hmem hq

theorem Compares.act {w : StoreWorld} (h : Compares volume preview w) {op : Op Path Bytes}
    (hop : ApplyOp volume preview op) : Compares volume preview (w.act op) := by
  cases hop with
  | reads hreads =>
    rw [act_of_readsIn hreads]
    exact h
  | store hp bytes => exact h.own fun hnot => absurd hp hnot
  | replace hf hp =>
    rename_i f p
    by_cases hdisk : w.disk p = some f.originalBytes
    · rw [World.act_writeIf _ _ hdisk]
      exact h.own fun _ => ⟨f, hf, hp, .inl ⟨hdisk, rfl⟩⟩
    · rw [World.act_writeIf_ne _ _ hdisk]
      exact h
  | putBack hf hp =>
    rename_i f p
    by_cases hdisk : w.disk p = some f.proposedBytes
    · rw [World.act_writeIf _ _ hdisk]
      exact h.own fun _ => ⟨f, hf, hp, .inr ⟨hdisk, rfl⟩⟩
    · rw [World.act_writeIf_ne _ _ hdisk]
      exact h

theorem onlyTask_replaceTarget {op : Op Path Bytes → Prop} {root relativePath expected bytes : Bytes}
    (hop : ∀ p, volume.target root relativePath = some p → op (.writeIf p expected bytes)) :
    OnlyTask op (fun _ => True) (replaceTarget volume root relativePath expected bytes) := by
  unfold replaceTarget
  split
  · rename_i p hp
    refine onlyTask_perform (hop p hp) fun answer => ?_
    cases answer with
    | done => exact onlyTask_pure trivial
    | _ => exact onlyTask_throw _
  · exact onlyTask_throw _

variable {op : Op Path Bytes → Prop} (hreads : ∀ o : Op Path Bytes, (o.readsIn fun _ => True) → op o)
include hreads

theorem onlyTask_readTarget (root relativePath : Bytes) :
    OnlyTask op (fun _ => True) (readTarget volume root relativePath) := by
  unfold readTarget
  split
  · exact onlyTask_readBounded hreads _ _
  · exact onlyTask_throw _

theorem onlyTask_safeTarget (root relativePath : Bytes) :
    OnlyTask op (fun _ => True) (safeTarget volume root relativePath) := by
  unfold safeTarget
  split
  · refine onlyTask_perform (hreads _ trivial) fun answer => ?_
    cases answer <;> exact onlyTask_pure trivial
  · exact onlyTask_pure trivial

theorem onlyTask_checkPreview (preconditions : ApplyPreconditions) :
    OnlyTask op (fun _ => True) (checkPreview volume preview preconditions) := by
  unfold checkPreview
  refine (onlyTask_ensure _ _).bind fun _ _ => (onlyTask_ensure _ _).bind fun _ _ => ?_
  have hunchanged : ∀ f ∈ preview.files,
      OnlyTask op (fun _ => True) (checkUnchanged volume preview.configRoot f) := by
    intro f _
    refine (onlyTask_ensure _ _).bind fun _ _ => ?_
    refine (onlyTask_safeTarget hreads _ _).bind fun _ _ => ?_
    refine (onlyTask_ensure _ _).bind fun _ _ => ?_
    refine (onlyTask_readTarget hreads _ _).bind fun _ _ => ?_
    exact (onlyTask_ensure _ _).mono (fun _ h => h) fun _ _ => trivial
  have havailable : OnlyTask op (fun _ => True) (availableSpace volume preconditions) := by
    unfold availableSpace
    split
    · exact onlyTask_pure trivial
    · refine onlyTask_perform (hreads _ trivial) fun answer => ?_
      cases answer with
      | done => exact onlyTask_pure trivial
      | _ => exact onlyTask_throw _
  refine (onlyTask_forEach hunchanged).bind fun _ _ => ?_
  refine havailable.bind fun _ _ => ?_
  exact (onlyTask_ensure _ _).mono (fun _ h => h) fun _ _ => trivial

end

section

variable {volume : Volume} {preview : ConfigPreview}

/-- Nothing but files of the store is written. -/
inductive StoreOnly : Op Path Bytes → Prop
  | reads {op : Op Path Bytes} (h : op.readsIn fun _ => True) : StoreOnly op
  | store {p : Path} (hp : p.stored) (bytes : Bytes) : StoreOnly (.write p bytes)

theorem onlyTask_storeOnly_writeJournal (b : BackupSet) (state : JournalState) :
    OnlyTask StoreOnly (fun _ => True) (writeJournal b state) :=
  onlyTask_atomicReplace (.store (Path.stored_journal _) _)

theorem applyOp_of_storeOnly {op : Op Path Bytes} (h : StoreOnly op) :
    ApplyOp volume preview op := by
  cases h with
  | reads h => exact .reads h
  | store hp bytes => exact .store hp bytes

theorem applyOp_reads : ∀ o : Op Path Bytes, (o.readsIn fun _ => True) →
    ApplyOp volume preview o := fun _ h => .reads h

theorem onlyTask_putBack {f : PreviewFile} (hf : f ∈ preview.files) :
    OnlyTask (ApplyOp volume preview) (fun _ => True)
      (putBack volume preview.configRoot f) := by
  have hrestore : OnlyTask (ApplyOp volume preview) (fun _ => True)
      (putBack.restoreBytes volume preview.configRoot f) := by
    refine (onlyTask_attempt (onlyTask_replaceTarget fun p hp => .putBack hf hp)).bind
      fun restored _ => ?_
    refine (onlyTask_attempt (onlyTask_readTarget applyOp_reads _ _)).bind fun readback _ => ?_
    cases restored with
    | ok _ =>
      cases readback with
      | ok bytes => simp only; split <;> exact onlyTask_pure trivial
      | error e => exact onlyTask_pure trivial
    | error e =>
      cases readback with
      | ok bytes => simp only; split <;> exact onlyTask_pure trivial
      | error e => exact onlyTask_pure trivial
  refine (onlyTask_attempt (onlyTask_readTarget applyOp_reads _ _)).bind fun before _ => ?_
  cases before with
  | ok bytes =>
    simp only
    split
    · exact onlyTask_pure trivial
    · exact hrestore
  | error e => exact hrestore

theorem onlyTask_abandon {α : Type} (backup : BackupSet) {written : List PreviewFile}
    (hwritten : ∀ f ∈ written, f ∈ preview.files) (e : Error) :
    OnlyTask (ApplyOp volume preview) (fun _ => False)
      (abandon volume preview.configRoot backup written e : StoreTask α) := by
  have hrollback : OnlyTask (ApplyOp volume preview) (fun _ => True)
      (rollbackWrittenFiles volume preview.configRoot written) := by
    refine OnlyTask.bind (r := fun _ => True) ?_ fun failures _ => ?_
    · refine onlyTask_collect_any fun f hf => onlyTask_putBack (hwritten f ?_)
      exact List.mem_reverse.mp hf
    · split
      · exact onlyTask_pure trivial
      · exact onlyTask_throw _
  refine hrollback.bind fun _ _ => ?_
  refine (((onlyTask_storeOnly_writeJournal backup _).mono (fun _ => applyOp_of_storeOnly)
    fun _ h => h).adapt _).bind fun _ _ => ?_
  exact onlyTask_throw e

theorem onlyTask_replaceFiles (backup : BackupSet) {rest : List PreviewFile} :
    ∀ {written : List PreviewFile}, (∀ f ∈ written, f ∈ preview.files) →
      (∀ f ∈ rest, f ∈ preview.files) →
      OnlyTask (ApplyOp volume preview) (fun written' => ∀ f ∈ written', f ∈ preview.files)
        (replaceFiles volume preview.configRoot backup written rest) := by
  induction rest with
  | nil =>
    intro written hwritten _
    exact onlyTask_pure hwritten
  | cons f rest ih =>
    intro written hwritten hrest
    obtain ⟨hf, hrest⟩ := List.forall_mem_cons.mp hrest
    have hmore : ∀ g ∈ written ++ [f], g ∈ preview.files := by
      intro g hg
      rcases List.mem_append.mp hg with hg | hg
      · exact hwritten g hg
      · exact List.mem_singleton.mp hg ▸ hf
    unfold replaceFiles
    split
    · exact ih hwritten hrest
    · refine (onlyTask_attempt (onlyTask_replaceTarget fun p hp => .replace hf hp)).bind
        fun outcome _ => ?_
      cases outcome with
      | ok _ => exact ih hmore hrest
      | error e => exact (onlyTask_abandon backup hwritten e).mono (fun _ h => h) fun _ h => h.elim

theorem onlyTask_commit (backup : BackupSet) :
    OnlyTask (ApplyOp volume preview) (fun _ => True) (commit volume preview backup) := by
  refine (onlyTask_replaceFiles backup (by simp) fun _ h => h).bind fun written hwritten => ?_
  have hcheck : ∀ f ∈ preview.files, OnlyTask (ApplyOp volume preview) (fun _ => True)
      (checkApplied volume preview.configRoot backup written f) := by
    intro f _
    refine (onlyTask_attempt (onlyTask_readTarget applyOp_reads _ _)).bind fun applied _ => ?_
    cases applied with
    | ok bytes =>
      simp only
      split
      · exact onlyTask_pure trivial
      · exact (onlyTask_abandon backup hwritten _).mono (fun _ h => h) fun _ h => h.elim
    | error e => exact (onlyTask_abandon backup hwritten e).mono (fun _ h => h) fun _ h => h.elim
  refine (onlyTask_forEach hcheck).bind fun _ _ => ?_
  have hjournal : ∀ state, OnlyTask (ApplyOp volume preview) (fun _ => True)
      (ExceptT.adapt pendingRecovery (writeJournal backup state)) := fun state =>
    ((onlyTask_storeOnly_writeJournal backup state).mono (fun _ => applyOp_of_storeOnly)
      fun _ h => h).adapt _
  refine (hjournal _).bind fun _ _ => (hjournal _).bind fun _ _ => ?_
  exact onlyTask_pure trivial

variable [Bcrypt]

theorem onlyTask_storeOnly_create :
    OnlyTask StoreOnly (fun b => b = backupOf preview ∧ SafeFileRecords preview.files)
      (create preview) := by
  refine (onlyTask_create preview).mono (fun op hop => ?_) fun _ h => h
  cases hop with
  | reads h => exact .reads h
  | object hf => exact .store (Path.stored_object _) _
  | manifest => exact .store (Path.stored_manifest _) _
  | journal => exact .store (Path.stored_journal _) _

theorem onlyTask_storeOnly_verify (b : BackupSet) :
    OnlyTask StoreOnly (fun _ => True) (verify b) := by
  refine (careful_verify b).onlyTask.mono (fun op hop => ?_) fun _ h => h
  refine .reads ?_
  cases op with
  | read p => trivial
  | ask => trivial
  | _ => cases hop

/-- What comes before the first replacement touches files of the store only. -/
theorem onlyTask_prepare : OnlyTask StoreOnly
    (fun b => b = backupOf preview ∧ SafeFileRecords preview.files) (prepare preview) := by
  refine onlyTask_storeOnly_create.bind fun b hb => ?_
  refine (onlyTask_storeOnly_verify b).bind fun _ _ => ?_
  refine (onlyTask_storeOnly_writeJournal b _).bind fun _ _ => ?_
  exact onlyTask_pure hb

theorem onlyTask_applyPreview (preconditions : ApplyPreconditions) :
    OnlyTask (ApplyOp volume preview) (fun _ => True)
      (applyPreview volume preview preconditions) := by
  refine (onlyTask_checkPreview applyOp_reads preconditions).bind fun _ _ => ?_
  refine (onlyTask_prepare.mono (fun _ => applyOp_of_storeOnly) fun _ h => h).bind fun b _ => ?_
  exact onlyTask_commit b

end

/-! ## 2. What a file has held -/

/-- Since the program last wrote the file, it has held these bytes at some moment. -/
def Held (p : Path) (bytes : Bytes) : List (Event Path Bytes) → Prop
  | [] => False
  | .own q _ new :: log => if q = p then new = some bytes else Held p bytes log
  | .other q new :: log => q = p ∧ new = some bytes ∨ Held p bytes log

section

variable {p : Path} {bytes : Bytes} {w : StoreWorld}

theorem Held.intrude (h : Held p bytes w.log) (others : List (Path × Option Bytes)) :
    Held p bytes (w.intrude others).log := by
  induction others generalizing w with
  | nil => exact h
  | cons o others ih => exact ih (.inr h)

theorem Held.own (h : Held p bytes w.log) {q : Path} (hq : q ≠ p) (new : Option Bytes) :
    Held p bytes (w.own q new).log := by
  unfold World.own Held
  rw [if_neg hq]
  exact h

/-- What a file holds now, it has held since it was last written. -/
theorem held_of_disk {d : StoreDisk} (hlogged : Logged d w) (hdisk : w.disk p = some bytes)
    (hlog : ∃ e ∈ w.log, e.path = p) : Held p bytes w.log := by
  rw [hlogged] at hdisk
  generalize w.log = log at hdisk hlog
  induction log with
  | nil =>
    obtain ⟨e, he, -⟩ := hlog
    cases he
  | cons e log ih =>
    by_cases hpath : e.path = p
    · rw [replay, hpath, Disk.set_same] at hdisk
      cases e with
      | own q old new => exact (if_pos hpath).mpr hdisk
      | other q new => exact .inl ⟨hpath, hdisk⟩
    · rw [replay, Disk.set_other _ _ (Ne.symm hpath)] at hdisk
      have hrest : ∃ e ∈ log, e.path = p := by
        obtain ⟨e', he', hp'⟩ := hlog
        rcases List.mem_cons.mp he' with rfl | he'
        · exact absurd hp' hpath
        · exact ⟨e', he', hp'⟩
      cases e with
      | own q old new => exact (if_neg hpath).mpr (ih hdisk hrest)
      | other q new => exact .inr (ih hdisk hrest)

end

/-! ## 3. The transaction under way -/

/-- Replacement has started, and `written` are the files that have been replaced. -/
structure Underway (volume : Volume) (preview : ConfigPreview) (id : Bytes) (d : StoreDisk)
    (written : List PreviewFile) (w : StoreWorld) : Prop where
  logged : Logged d w
  files : ∀ f ∈ written, f ∈ preview.files
  nodup : (written.map PreviewFile.relativePath).Nodup
  replaced : ∀ f ∈ written, ∃ p, targetOf volume preview f = some p ∧ ∃ e ∈ w.log, e.path = p
  only : ∀ p old new, .own p old new ∈ w.log → ¬ p.stored →
    ∃ f ∈ written, targetOf volume preview f = some p
  journal : w.disk (.journal id) = some (journalText .replacementStarted id)

/-- Every file that was replaced has held its original bytes again, and the journal says that the
transaction is over. -/
structure Undone (volume : Volume) (preview : ConfigPreview) (id : Bytes) (w : StoreWorld) : Prop where
  held : ∀ f ∈ preview.files, ∀ p old new, targetOf volume preview f = some p →
    .own p old new ∈ w.log → Held p f.originalBytes w.log
  journal : w.disk (.journal id) = some (journalText .complete id)

/-- The files are put back and the journal says so, or recovery is asked for and the journal is
pending. -/
def ErrorAtomic (volume : Volume) (preview : ConfigPreview) (id : Bytes) (e : Error)
    (w : StoreWorld) : Prop :=
  Undone volume preview id w ∨ e.code = .recoveryRequired ∧ Pending w.disk id

section

variable {A : Turn Path Bytes → Prop} {volume : Volume} {preview : ConfigPreview} {id : Bytes}
  {d : StoreDisk} {written : List PreviewFile} {w : StoreWorld}

theorem mem_intrude_own {p : Path} {old new : Option Bytes} {others : List (Path × Option Bytes)}
    (h : .own p old new ∈ (w.intrude others).log) : .own p old new ∈ w.log := by
  induction others generalizing w with
  | nil => exact h
  | cons o others ih =>
    rcases List.mem_cons.mp (ih h) with heq | hmem
    · cases heq
    · exact hmem

theorem mem_intrude_log {e : Event Path Bytes} (h : e ∈ w.log)
    (others : List (Path × Option Bytes)) : e ∈ (w.intrude others).log := by
  induction others generalizing w with
  | nil => exact h
  | cons o others ih => exact ih (List.mem_cons_of_mem _ h)

theorem Underway.intrude (h : Underway volume preview id d written w)
    {others : List (Path × Option Bytes)} (hothers : ∀ o ∈ others, ¬ o.1.stored) :
    Underway volume preview id d written (w.intrude others) where
  logged := h.logged.intrude others
  files := h.files
  nodup := h.nodup
  replaced f hf := by
    obtain ⟨p, hp, e, he, hpath⟩ := h.replaced f hf
    exact ⟨p, hp, e, mem_intrude_log he others, hpath⟩
  only p old new hmem hp := h.only p old new (mem_intrude_own hmem) hp
  journal := by
    rw [World.disk_intrude_other _ fun o ho heq => hothers o ho (heq ▸ Path.stored_journal id)]
    exact h.journal

/-- A file of the transaction is written once more. -/
theorem Underway.own (h : Underway volume preview id d written w) {f : PreviewFile}
    (hf : f ∈ written) {p : Path} (hp : targetOf volume preview f = some p)
    (new : Option Bytes) : Underway volume preview id d written (w.own p new) where
  logged := congrArg (Disk.set · _ _) h.logged
  files := h.files
  nodup := h.nodup
  replaced g hg := by
    obtain ⟨q, hq, e, he, hpath⟩ := h.replaced g hg
    exact ⟨q, hq, e, List.mem_cons_of_mem _ he, hpath⟩
  only q old new' hmem hq := by
    rcases List.mem_cons.mp hmem with heq | hmem
    · cases heq
      exact ⟨f, hf, hp⟩
    · exact h.only q old new' hmem hq
  journal := by
    have hne : Path.journal id ≠ p := fun heq => not_stored_target hp (heq ▸ Path.stored_journal id)
    rw [World.disk_own_other _ _ hne]
    exact h.journal

/-- One more file is replaced. -/
theorem Underway.replace (h : Underway volume preview id d written w) {f : PreviewFile}
    (hf : f ∈ preview.files) (hfresh : f.relativePath ∉ written.map PreviewFile.relativePath)
    {p : Path} (hp : targetOf volume preview f = some p) (new : Option Bytes) :
    Underway volume preview id d (written ++ [f]) (w.own p new) where
  logged := congrArg (Disk.set · _ _) h.logged
  files g hg := by
    rcases List.mem_append.mp hg with hg | hg
    · exact h.files g hg
    · exact List.mem_singleton.mp hg ▸ hf
  nodup := by
    rw [List.map_append, List.map_singleton]
    exact List.nodup_append.mpr ⟨h.nodup, List.nodup_singleton _, fun r hr r' hr' heq =>
      hfresh (List.mem_singleton.mp hr' ▸ heq ▸ hr)⟩
  replaced g hg := by
    rcases List.mem_append.mp hg with hg | hg
    · obtain ⟨q, hq, e, he, hpath⟩ := h.replaced g hg
      exact ⟨q, hq, e, List.mem_cons_of_mem _ he, hpath⟩
    · rw [List.mem_singleton.mp hg]
      exact ⟨p, hp, _, List.mem_cons_self, rfl⟩
  only q old new' hmem hq := by
    rcases List.mem_cons.mp hmem with heq | hmem
    · cases heq
      exact ⟨f, List.mem_append_right _ (List.mem_singleton_self f), hp⟩
    · obtain ⟨g, hg, hgq⟩ := h.only q old new' hmem hq
      exact ⟨g, List.mem_append_left _ hg, hgq⟩
  journal := by
    have hne : Path.journal id ≠ p := fun heq => not_stored_target hp (heq ▸ Path.stored_journal id)
    rw [World.disk_own_other _ _ hne]
    exact h.journal

/-! ## 4. Reading and replacing a file -/

theorem wpTask_readTarget {I C : StoreWorld → Prop} {root relativePath : Bytes}
    {good : Bytes → StoreWorld → Prop} {bad : Error → StoreWorld → Prop}
    (hstable : ∀ turn v, A turn → I v → I (v.intrude turn.others)) (hC : ∀ v, I v → C v) (hI : I w)
    (hok : ∀ bytes v p, I v → volume.target root relativePath = some p →
      v.disk p = some bytes → good bytes v)
    (hbad : ∀ e v, I v → bad e v) :
    wpTask A (readTarget volume root relativePath) good bad C w := by
  unfold readTarget
  split
  · rename_i p hp
    exact wpTask_readBounded hstable hC hI (fun bytes v hv hdisk _ => hok bytes v p hv hp hdisk)
      fun e v hv _ => hbad e v hv
  · exact hbad _ w hI

theorem wpTask_replaceTarget {I C : StoreWorld → Prop} {root relativePath expected bytes : Bytes}
    {good : Unit → StoreWorld → Prop} {bad : Error → StoreWorld → Prop}
    (hstable : ∀ turn v, A turn → I v → I (v.intrude turn.others)) (hC : ∀ v, I v → C v) (hI : I w)
    (hlate : ¬ CanBeLate A)
    (hok : ∀ v p, I v → volume.target root relativePath = some p → v.disk p = some expected →
      good () (v.own p (some bytes)))
    (hbad : ∀ e v, I v → bad e v) :
    wpTask A (replaceTarget volume root relativePath expected bytes) good bad C w := by
  unfold replaceTarget
  split
  · rename_i p hp
    exact wpTask_atomicReplaceIfUnchanged hstable hC hI (fun v hv hdisk => hok v p hv hp hdisk)
      (fun e v hv _ => hbad e v hv) fun h => absurd h hlate
  · exact hbad _ w hI

/-! ## 5. Rolling back -/

section

variable (hlate : ¬ CanBeLate A)
include hlate

/-- **A round of the rollback.**  Where it reports nothing, the file has held its original bytes
since it was last written. -/
theorem wpTask_putBack {K : StoreWorld → Prop} {f : PreviewFile} (hf : f ∈ written)
    (hstable : ∀ turn v, A turn → K v → K (v.intrude turn.others))
    (hunderway : ∀ v, K v → Underway volume preview id d written v)
    (hwrite : ∀ v p, K v → targetOf volume preview f = some p →
      K (v.own p (some f.originalBytes))) (hK : K w) :
    wpTask A (putBack volume preview.configRoot f)
      (fun r v => K v ∧ (r = none → ∀ p, targetOf volume preview f = some p →
        Held p f.originalBytes v.log))
      (fun _ _ => False) (fun _ => True) w := by
  have hC : ∀ v, K v → True := fun _ _ => trivial
  have hheld : ∀ bytes v p, K v → targetOf volume preview f = some p → v.disk p = some bytes →
      bytes = f.originalBytes → ∀ q, targetOf volume preview f = some q →
        Held q f.originalBytes v.log := by
    intro bytes v p hv hp hdisk hbytes q hq
    obtain rfl : p = q := Option.some.inj (hp.symm.trans hq)
    obtain ⟨p', hp', hlog⟩ := (hunderway v hv).replaced f hf
    obtain rfl : p = p' := Option.some.inj (hp.symm.trans hp')
    exact held_of_disk (hunderway v hv).logged (hbytes ▸ hdisk) hlog
  -- the readback decides, whatever became of the replacement
  have hread : ∀ (next : Except Error Bytes → StoreTask (Option Error)) v, K v →
      (∀ bytes, bytes = f.originalBytes → next (.ok bytes) = pure none) →
      (∀ bytes, bytes ≠ f.originalBytes → ∃ e, next (.ok bytes) = pure (some e)) →
      (∀ e, ∃ e', next (.error e) = pure (some e')) →
      wpTask A (attempt (readTarget volume preview.configRoot f.relativePath) >>= next)
        (fun r v => K v ∧ (r = none → ∀ p, targetOf volume preview f = some p →
          Held p f.originalBytes v.log)) (fun _ _ => False) (fun _ => True) v := by
    intro next v hv hsame hother herror
    rw [wpTask_bind, wpTask_attempt]
    refine wpTask_readTarget hstable hC hv ?_ ?_
    · intro bytes v' p hv' hp hdisk
      by_cases hbytes : bytes = f.originalBytes
      · rw [hsame bytes hbytes]
        exact ⟨hv', fun _ => hheld bytes v' p hv' hp hdisk hbytes⟩
      · obtain ⟨e, he⟩ := hother bytes hbytes
        rw [he]
        exact ⟨hv', fun h => by cases h⟩
    · intro e v' hv'
      obtain ⟨e', he'⟩ := herror e
      rw [he']
      exact ⟨hv', fun h => by cases h⟩
  have hrestore : ∀ v, K v → wpTask A (putBack.restoreBytes volume preview.configRoot f)
      (fun r v => K v ∧ (r = none → ∀ p, targetOf volume preview f = some p →
        Held p f.originalBytes v.log)) (fun _ _ => False) (fun _ => True) v := by
    intro v hv
    unfold putBack.restoreBytes
    rw [wpTask_bind, wpTask_attempt]
    refine wpTask_replaceTarget hstable hC hv hlate ?_ ?_
    · intro v' p hv' hp _
      exact hread _ _ (hwrite v' p hv' hp) (fun _ h => if_pos h) (fun _ h => ⟨_, if_neg h⟩)
        fun _ => ⟨_, rfl⟩
    · intro e v' hv'
      exact hread _ _ hv' (fun _ h => if_pos h) (fun _ h => ⟨_, if_neg h⟩) fun _ => ⟨_, rfl⟩
  unfold putBack
  rw [wpTask_bind, wpTask_attempt]
  refine wpTask_readTarget hstable hC hK ?_ ?_
  · intro bytes v p hv hp hdisk
    by_cases hbytes : bytes = f.originalBytes
    · simp only [if_pos hbytes]
      exact ⟨hv, fun _ => hheld bytes v p hv hp hdisk hbytes⟩
    · simp only [if_neg hbytes]
      exact hrestore v hv
  · intro e v hv
    exact hrestore v hv

/-- A journal of the transaction is written, and recovery asked for when it cannot be. -/
theorem wpTask_writeJournal {backup : BackupSet} {state : JournalState} {I : StoreWorld → Prop}
    {good : Unit → StoreWorld → Prop} {bad : Error → StoreWorld → Prop}
    (hstable : ∀ turn v, A turn → I v → I (v.intrude turn.others)) (hI : I w)
    (hok : ∀ v, I v → good () (v.own (.journal backup.id) (some (journalText state backup.id))))
    (hbad : ∀ e v, I v → bad e v) :
    wpTask A (writeJournal backup state) good bad (fun _ => True) w :=
  wpTask_atomicReplace hstable (fun _ _ => trivial) hI hok (fun _ => hbad) fun h => absurd h hlate

variable (hA : Outside A)
include hA

/-- **The rollback.**  It succeeds when every file has held its original bytes again. -/
theorem wpTask_rollbackWrittenFiles (hw : Underway volume preview id d written w) :
    wpTask A (rollbackWrittenFiles volume preview.configRoot written)
      (fun _ v => Underway volume preview id d written v ∧ ∀ f ∈ written, ∀ p,
        targetOf volume preview f = some p → Held p f.originalBytes v.log)
      (fun e v => e.code = .recoveryRequired ∧ Underway volume preview id d written v)
      (fun _ => True) w := by
  let I : List PreviewFile → List (Option Error) → StoreWorld → Prop := fun before rs v =>
    Underway volume preview id d written v ∧ ((∀ r ∈ rs, r = none) → ∀ f ∈ before, ∀ p,
      targetOf volume preview f = some p → Held p f.originalBytes v.log)
  unfold rollbackWrittenFiles
  rw [wpTask_bind]
  refine wpTask_collect (I := I) ?_ ?_ ⟨hw, fun _ f hf => by cases hf⟩
  · intro before f rest rs v hl hv
    have hf : f ∈ written :=
      List.mem_reverse.mp (hl ▸ List.mem_append_right _ List.mem_cons_self)
    -- the files of the earlier rounds are others
    have hne : ∀ g ∈ before, g.relativePath ≠ f.relativePath := by
      intro g hg
      have hnodup := List.nodup_reverse.mpr hv.1.nodup
      rw [← List.map_reverse, hl, List.map_append, List.map_cons] at hnodup
      exact (List.nodup_append.mp hnodup).2.2 _ (List.mem_map_of_mem hg) _ List.mem_cons_self
    refine wpTask_mono (wpTask_putBack hlate (K := I before rs) hf ?_ (fun _ h => h.1) ?_ hv) ?_
      (fun _ _ h => h.elim) fun _ _ => trivial
    · intro turn v' hturn hv'
      exact ⟨hv'.1.intrude (hA turn hturn), fun hrs g hg p hp => (hv'.2 hrs g hg p hp).intrude _⟩
    · intro v' p hv' hp
      refine ⟨hv'.1.own hf hp _, fun hrs g hg q hq => (hv'.2 hrs g hg q hq).own ?_ _⟩
      rintro rfl
      exact hne g hg (target_injective hq hp)
    · rintro r v' ⟨hv', hr⟩
      refine ⟨hv'.1, fun hrs g hg p hp => ?_⟩
      have hrs' : ∀ r ∈ rs, r = none := fun r hr => hrs r (List.mem_append_left _ hr)
      rcases List.mem_append.mp hg with hg | hg
      · exact hv'.2 hrs' g hg p hp
      · rw [List.mem_singleton] at hg
        subst hg
        exact hr (hrs r (List.mem_append_right _ (List.mem_singleton_self r))) p hp
  · rintro rs v ⟨hv, hheld⟩
    split
    · rename_i hnone
      refine ⟨hv, fun f hf p hp => hheld (fun r hr => ?_) f (List.mem_reverse.mpr hf) p hp⟩
      cases r with
      | none => rfl
      | some e =>
        have hmem : e ∈ rs.reduceOption := List.reduceOption_mem_iff.mpr hr
        rw [hnone] at hmem
        cases hmem
    · exact ⟨rfl, hv⟩

/-- **Giving up** after some files have been replaced. -/
theorem wpTask_abandon {α : Type} {backup : BackupSet} (hid : ValidHash backup.id)
    (hnodup : (preview.files.map PreviewFile.relativePath).Nodup) {e : Error}
    {good : α → StoreWorld → Prop} (hw : Underway volume preview backup.id d written w) :
    wpTask A (abandon volume preview.configRoot backup written e) good
      (ErrorAtomic volume preview backup.id) (fun _ => True) w := by
  have hpending : ∀ v, Underway volume preview backup.id d written v →
      Pending v.disk backup.id := fun v hv =>
    (pending_iff_of_written hid hv.journal).mpr (.inl rfl)
  unfold abandon
  rw [wpTask_bind]
  refine wpTask_mono (wpTask_rollbackWrittenFiles hlate hA hw) ?_
    (fun e v h => .inr ⟨h.1, hpending v h.2⟩) fun _ _ => trivial
  intro _ v hv
  rw [wpTask_bind, wpTask_adapt]
  refine wpTask_writeJournal hlate (I := fun v => Underway volume preview backup.id d written v ∧
    ∀ f ∈ written, ∀ p, targetOf volume preview f = some p → Held p f.originalBytes v.log)
    ?_ hv ?_ ?_
  · intro turn v hturn h
    exact ⟨h.1.intrude (hA turn hturn), fun f hf p hp => (h.2 f hf p hp).intrude _⟩
  · intro v h
    refine .inl ⟨fun f hf p old new hp hmem => ?_, World.disk_own_same _ _ _⟩
    have hne : Path.journal backup.id ≠ p := fun heq =>
      not_stored_target hp (heq ▸ Path.stored_journal _)
    rcases List.mem_cons.mp hmem with heq | hmem
    · injection heq with hpath
      exact absurd hpath.symm hne
    · -- the file that was written is one of those that have been put back
      obtain ⟨g, hg, hgp⟩ := h.1.only p old new hmem (not_stored_target hp)
      have hfg : f = g := List.inj_on_of_nodup_map hnodup hf (h.1.files g hg)
        (target_injective hp hgp)
      subst hfg
      exact (h.2 f hg p hp).own hne _
  · intro e v h
    exact .inr ⟨rfl, hpending v h.1⟩

/-! ## 6. Replacing -/

section

variable {backup : BackupSet} (hid : ValidHash backup.id)
  (hnodup : (preview.files.map PreviewFile.relativePath).Nodup)
include hid hnodup

theorem wpTask_replaceFiles {rest : List PreviewFile} :
    ∀ {written : List PreviewFile} {w : StoreWorld}, (∀ f ∈ rest, f ∈ preview.files) →
      ((written ++ rest).map PreviewFile.relativePath).Nodup →
      Underway volume preview backup.id d written w →
      wpTask A (replaceFiles volume preview.configRoot backup written rest)
        (fun written' v => Underway volume preview backup.id d written' v)
        (ErrorAtomic volume preview backup.id) (fun _ => True) w := by
  induction rest with
  | nil =>
    intro written w _ _ hw
    exact hw
  | cons f rest ih =>
    intro written w hfiles hdistinct hw
    obtain ⟨hf, hfiles⟩ := List.forall_mem_cons.mp hfiles
    have hskip : ((written ++ rest).map PreviewFile.relativePath).Nodup :=
      hdistinct.sublist (((List.sublist_cons_self f rest).append_left written).map _)
    have hmore : ((written ++ [f] ++ rest).map PreviewFile.relativePath).Nodup := by
      rwa [List.append_assoc]
    have hfresh : f.relativePath ∉ written.map PreviewFile.relativePath := by
      intro hmem
      rw [List.map_append, List.map_cons] at hdistinct
      exact (List.nodup_append.mp hdistinct).2.2 _ hmem _ List.mem_cons_self rfl
    unfold replaceFiles
    split
    · exact ih hfiles hskip hw
    · rw [wpTask_bind, wpTask_attempt]
      refine wpTask_replaceTarget (I := Underway volume preview backup.id d written)
        (fun turn v hturn h => h.intrude (hA turn hturn)) (fun _ _ => trivial) hw hlate ?_ ?_
      · intro v p hv hp _
        exact ih hfiles hmore (hv.replace hf hfresh hp _)
      · intro e v hv
        exact wpTask_abandon hlate hA hid hnodup hv

theorem wpTask_checkApplied {f : PreviewFile} (hw : Underway volume preview backup.id d written w) :
    wpTask A (checkApplied volume preview.configRoot backup written f)
      (fun _ v => Underway volume preview backup.id d written v)
      (ErrorAtomic volume preview backup.id) (fun _ => True) w := by
  unfold checkApplied
  rw [wpTask_bind, wpTask_attempt]
  refine wpTask_readTarget (I := Underway volume preview backup.id d written)
    (fun turn v hturn h => h.intrude (hA turn hturn)) (fun _ _ => trivial) hw ?_ ?_
  · intro bytes v p hv _ _
    by_cases hbytes : bytes = f.proposedBytes
    · simp only [if_pos hbytes]
      exact hv
    · simp only [if_neg hbytes]
      exact wpTask_abandon hlate hA hid hnodup hv
  · intro e v hv
    exact wpTask_abandon hlate hA hid hnodup hv

/-- **After the journal says that replacement has started**, an error is atomic. -/
theorem wpTask_commit (hw : Underway volume preview backup.id d [] w) :
    wpTask A (commit volume preview backup) (fun _ _ => True)
      (ErrorAtomic volume preview backup.id) (fun _ => True) w := by
  unfold commit
  rw [wpTask_bind]
  refine wpTask_mono (wpTask_replaceFiles hlate hA hid hnodup (fun _ h => h) hnodup hw) ?_
    (fun _ _ h => h) fun _ _ => trivial
  intro written v hv
  rw [wpTask_bind]
  refine wpTask_forEach (I := fun _ => Underway volume preview backup.id d written)
    (fun _ f _ v _ hv => wpTask_checkApplied hlate hA hid hnodup hv) ?_ hv
  intro v hv
  have hstable : ∀ (state : JournalState) turn (v : StoreWorld), A turn →
      v.disk (.journal backup.id) = some (journalText state backup.id) →
      (v.intrude turn.others).disk (.journal backup.id) = some (journalText state backup.id) := by
    intro state turn v hturn h
    rw [World.disk_intrude_other _ fun o ho heq =>
      hA turn hturn o ho (heq ▸ Path.stored_journal backup.id)]
    exact h
  have hpending : ∀ state : JournalState, state.owed → ∀ e (v : StoreWorld),
      v.disk (.journal backup.id) = some (journalText state backup.id) →
      ErrorAtomic volume preview backup.id (pendingRecovery e) v := fun state howed e v h =>
    .inr ⟨rfl, (pending_iff_of_written hid h).mpr howed⟩
  rw [wpTask_bind, wpTask_adapt]
  refine wpTask_writeJournal hlate (hstable .replacementStarted) hv.journal ?_
    (hpending _ (.inl rfl))
  intro v _
  rw [wpTask_bind, wpTask_adapt]
  exact wpTask_writeJournal hlate (hstable .verificationComplete)
    (World.disk_own_same _ _ _) (fun _ _ => trivial) (hpending _ (.inr rfl))

end

end

end

/-! ## 7. The whole call -/

/-- No configuration file has been replaced. -/
def ReplacedNothing (w : StoreWorld) : Prop :=
  ∀ p old new, .own p old new ∈ w.log → p.stored

section

variable {d : StoreDisk} {w : StoreWorld}

theorem ReplacedNothing.act (h : Logged d w ∧ ReplacedNothing w) {op : Op Path Bytes}
    (hop : StoreOnly op) : Logged d (w.act op) ∧ ReplacedNothing (w.act op) := by
  refine ⟨h.1.act op, ?_⟩
  cases hop with
  | reads hreads =>
    rw [act_of_readsIn hreads]
    exact h.2
  | store hp bytes =>
    intro q old new hmem
    rcases List.mem_cons.mp hmem with heq | hmem
    · injection heq with hpath
      exact hpath ▸ hp
    · exact h.2 q old new hmem

theorem ReplacedNothing.intrude (h : Logged d w ∧ ReplacedNothing w)
    (others : List (Path × Option Bytes)) :
    Logged d (w.intrude others) ∧ ReplacedNothing (w.intrude others) :=
  ⟨h.1.intrude others, fun p old new hmem => h.2 p old new (mem_intrude_own hmem)⟩

variable [Bcrypt] {A : Turn Path Bytes → Prop} {volume : Volume} {preview : ConfigPreview}

/-- **Up to the first replacement** nothing is replaced, and then the journal says that it has
started. -/
theorem wpTask_prepare (volume : Volume) (hlate : ¬ CanBeLate A)
    (hw : Logged d w ∧ ReplacedNothing w) :
    wpTask A (prepare preview)
      (fun b v => b = backupOf preview ∧ SafeFileRecords preview.files ∧
        Underway volume preview b.id d [] v)
      (fun _ => ReplacedNothing) (fun _ => True) w := by
  let I : StoreWorld → Prop := fun v => Logged d v ∧ ReplacedNothing v
  have hothers : ∀ turn v, A turn → I v → I (v.intrude turn.others) :=
    fun turn v _ h => ReplacedNothing.intrude h _
  have hact : ∀ op v, StoreOnly op → I v → I (v.act op) := fun op v hop h =>
    ReplacedNothing.act h hop
  unfold prepare
  rw [wpTask_bind]
  refine wpTask_mono (wpTask_of_only onlyTask_storeOnly_create hothers hact hw) ?_
    (fun _ v h => h.2) fun _ _ => trivial
  rintro b v ⟨hv, rfl, hsafe⟩
  rw [wpTask_bind]
  refine wpTask_mono (wpTask_of_only (onlyTask_storeOnly_verify _) hothers hact hv) ?_
    (fun _ v h => h.2) fun _ _ => trivial
  rintro _ v ⟨hv, -⟩
  rw [wpTask_bind]
  refine wpTask_writeJournal hlate hothers hv ?_ fun e v h => h.2
  intro v hv
  have hjournal : I (v.own (.journal (backupOf preview).id)
      (some (journalText .replacementStarted (backupOf preview).id))) :=
    hact (.write _ _) v (.store (Path.stored_journal _) _) hv
  refine ⟨rfl, hsafe, ⟨hjournal.1, by simp, by simp, by simp, ?_, World.disk_own_same _ _ _⟩⟩
  intro p old new hmem hp
  exact absurd (hjournal.2 p old new hmem) hp

/-- A call that fails has replaced nothing or is atomic. -/
theorem wpTask_applyPreview (hA : Outside A) (hlate : ¬ CanBeLate A) (volume : Volume)
    (preview : ConfigPreview) (preconditions : ApplyPreconditions) (d : StoreDisk) :
    wpTask A (applyPreview volume preview preconditions) (fun _ _ => True)
      (fun e v => ReplacedNothing v ∨ ErrorAtomic volume preview (backupOf preview).id e v)
      (fun _ => True) ⟨d, []⟩ := by
  let I : StoreWorld → Prop := fun v => Logged d v ∧ ReplacedNothing v
  have hstart : I ⟨d, []⟩ := ⟨logged_start d, fun p old new hmem => by cases hmem⟩
  have hreads : ∀ o : Op Path Bytes, (o.readsIn fun _ => True) → StoreOnly o := fun _ h => .reads h
  unfold applyPreview
  rw [wpTask_bind]
  refine wpTask_mono (wpTask_of_only (onlyTask_checkPreview hreads preconditions)
    (I := I) (fun turn v _ h => ReplacedNothing.intrude h _)
    (fun op v hop h => ReplacedNothing.act h hop) hstart) ?_ (fun _ v h => .inl h.2)
    fun _ _ => trivial
  rintro _ v ⟨hv, -⟩
  rw [wpTask_bind]
  refine wpTask_mono (wpTask_prepare volume hlate hv) ?_ (fun _ v h => .inl h) fun _ _ => trivial
  rintro b v ⟨rfl, hsafe, hunderway⟩
  exact wpTask_mono (wpTask_commit hlate hA (validHash_digestHex _) hsafe.2 hunderway)
    (fun _ _ _ => trivial) (fun _ _ h => .inr h) fun _ _ => trivial

end

/-! ## 8. Another program in between -/

def bothPreview : ConfigPreview where
  configRoot := ascii "C:/"
  files := [⟨ascii "KFEngine.ini", ascii "a", ascii "b"⟩, ⟨ascii "KFGame.ini", ascii "c", ascii "d"⟩]

def bothVolume : Volume := ⟨fun _ => some 0, 1048576⟩

def bothDisk : StoreDisk := fun p =>
  if p = .target 0 (ascii "KFEngine.ini") then some (ascii "a")
  else if p = .target 0 (ascii "KFGame.ini") then some (ascii "c") else none

/-- After the first file has been replaced, another program writes both files, the first one with
the bytes that it has. -/
def bothPlan : List (Turn Path Bytes) :=
  List.replicate 25 ({} : Turn Path Bytes) ++
    [⟨[(.target 0 (ascii "KFEngine.ini"), some (ascii "b")),
      (.target 0 (ascii "KFGame.ini"), some (ascii "x"))], .ok⟩]

theorem bothPlan_targets : ∀ turn ∈ bothPlan, ∀ o ∈ turn.others, ¬ o.1.stored := by
  intro turn hturn o ho
  have hpaths : ∀ turn ∈ bothPlan, ∀ o ∈ turn.others, o.1 = .target 0 (ascii "KFEngine.ini") ∨
      o.1 = .target 0 (ascii "KFGame.ini") := by decide
  rcases hpaths turn hturn o ho with h | h
  · rw [h]
    exact fun hstored => hstored
  · rw [h]
    exact fun hstored => hstored

def runningError : Error :=
  { code := .accessDenied, message := "KF2 must be stopped before applying config" }

end Kf2Optimizer.Config
