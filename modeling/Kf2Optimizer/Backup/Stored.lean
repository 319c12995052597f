/-
# What a store holds

`load_backup` and `verify` only read, so what they answer is a matter of the files: `Loads` and
`Verifies` say which.  What the id of a backup is the digest of determines its records, and with
that the whole manifest (`identityMaterial_injective`).
-/
import Kf2Optimizer.Backup.BackupStore

namespace Kf2Optimizer.Backup

open Text Files Security Platform Config

/-! ## 1. Reading -/

/-- A file of the store, not a configuration file. -/
def Path.stored : Path → Prop
  | .target _ _ => False
  | _ => True

theorem Path.stored_object (sha256 : Bytes) : (Path.object sha256).stored := trivial

theorem Path.stored_manifest (id : Bytes) : (Path.manifest id).stored := trivial

theorem Path.stored_journal (id : Bytes) : (Path.journal id).stored := trivial

/-- A manifest describes the backup that was asked for. -/
theorem parseManifest_id {id text : Bytes} {b : BackupSet} (h : parseManifest id text = .ok b) :
    b.id = id := by
  unfold parseManifest at h
  split at h
  · cases h
  · cases hm : (records text).foldlM (ManifestState.line id) ({} : ManifestState) with
    | error e =>
      rw [hm] at h
      cases h
    | ok m =>
      rw [hm] at h
      change (if _ then _ else _) = _ at h
      split at h
      · cases h
        rfl
      · cases h

/-- Two lists of one length, equal place by place. -/
theorem eq_of_zip {α : Type} {l l' : List α} (hlen : l'.length = l.length)
    (h : ∀ p ∈ l.zip l', p.2 = p.1) : l' = l := by
  induction l generalizing l' with
  | nil => exact List.length_eq_zero_iff.mp hlen
  | cons a l ih =>
    cases l' with
    | nil => cases hlen
    | cons a' l' =>
      obtain ⟨ha, hrest⟩ := List.forall_mem_cons.mp h
      rw [show a' = a from ha, ih (Nat.succ.inj hlen) hrest]

section

variable {p : Op Path Bytes → Prop}

theorem onlyTask_readBounded (hp : ∀ op : Op Path Bytes, (op.readsIn fun _ => True) → p op)
    (path : Path) (maximum : ℕ) : OnlyTask p (fun _ => True) (readBounded path maximum) := by
  refine onlyTask_perform (hp _ trivial) fun answer => ?_
  cases answer with
  | content bytes => exact onlyTask_liftExcept _ fun _ _ => trivial
  | _ => exact onlyTask_throw _

theorem onlyTask_pathExists (hp : ∀ op : Op Path Bytes, (op.readsIn fun _ => True) → p op)
    (path : Path) (e : Error) : OnlyTask p (fun _ => True) (pathExists path e) := by
  refine onlyTask_perform (hp _ trivial) fun answer => ?_
  cases answer with
  | content bytes => exact onlyTask_pure trivial
  | missing => exact onlyTask_pure trivial
  | _ => exact onlyTask_throw _

theorem onlyTask_createDirectories (hp : ∀ op : Op Path Bytes, (op.readsIn fun _ => True) → p op) :
    OnlyTask p (fun _ => True) createDirectories := by
  refine onlyTask_perform (hp _ trivial) fun answer => ?_
  cases answer with
  | done => exact onlyTask_pure trivial
  | _ => exact onlyTask_throw _

theorem onlyTask_atomicReplace {path : Path} {bytes : Bytes} (hp : p (.write path bytes)) :
    OnlyTask p (fun _ => True) (atomicReplace path bytes) := by
  refine onlyTask_perform hp fun answer => ?_
  cases answer with
  | done => exact onlyTask_pure trivial
  | _ => exact onlyTask_throw _

end

/-! ## 2. Files that are gone -/

/-- Other programs write configuration files only. -/
def Outside (A : Turn Path Bytes → Prop) : Prop :=
  ∀ turn, A turn → ∀ o ∈ turn.others, ¬ o.1.stored

/-- Of the files of the store only some of `X` are gone, and nothing else has happened to them. -/
structure Removed (X : Path → Prop) (w w' : StoreWorld) : Prop where
  same : ∀ p, p.stored → ¬ X p →
    w'.disk p = w.disk p ∧ lastWrite p w'.log = lastWrite p w.log
  gone : ∀ p, p.stored → w'.disk p = w.disk p ∨ w'.disk p = none

namespace Removed

variable {X Y : Path → Prop} {w w' w'' : StoreWorld}

theorem refl (X : Path → Prop) (w : StoreWorld) : Removed X w w :=
  ⟨fun _ _ _ => ⟨rfl, rfl⟩, fun _ _ => .inl rfl⟩

theorem mono (h : Removed X w w') (hXY : ∀ p, p.stored → X p → Y p) : Removed Y w w' :=
  ⟨fun p hp hY => h.same p hp fun hX => hY (hXY p hp hX), h.gone⟩

theorem trans (h : Removed X w w') (h' : Removed X w' w'') : Removed X w w'' := by
  refine ⟨fun p hp hX => ?_, fun p hp => ?_⟩
  · obtain ⟨hdisk, hstamp⟩ := h.same p hp hX
    obtain ⟨hdisk', hstamp'⟩ := h'.same p hp hX
    exact ⟨hdisk'.trans hdisk, hstamp'.trans hstamp⟩
  · rcases h'.gone p hp with hsame | hnone
    · rw [hsame]
      exact h.gone p hp
    · exact .inr hnone

theorem intrude (h : Removed X w w') {others : List (Path × Option Bytes)}
    (hothers : ∀ o ∈ others, ¬ o.1.stored) : Removed X w (w'.intrude others) := by
  have hne : ∀ p : Path, p.stored → ∀ o ∈ others, p ≠ o.1 := fun p hp o ho heq =>
    hothers o ho (heq ▸ hp)
  refine ⟨fun p hp hX => ?_, fun p hp => ?_⟩
  · rw [World.disk_intrude_other _ (hne p hp), World.lastWrite_intrude_other _ (hne p hp)]
    exact h.same p hp hX
  · rw [World.disk_intrude_other _ (hne p hp)]
    exact h.gone p hp

theorem remove (h : Removed X w w') {p : Path} (hX : X p) :
    Removed X w (w'.act (.remove p)) := by
  by_cases hp : w'.disk p = none
  · rw [World.act_remove_missing _ hp]
    exact h
  · rw [World.act_remove _ hp]
    refine ⟨fun q hq hY => ?_, fun q hq => ?_⟩
    · have hne : q ≠ p := fun heq => hY (heq ▸ hX)
      rw [World.disk_own_other _ _ hne, World.lastWrite_own_other _ _ hne]
      exact h.same q hq hY
    · by_cases hne : q = p
      · subst hne
        exact .inr (World.disk_own_same _ _ _)
      · rw [World.disk_own_other _ _ hne]
        exact h.gone q hq

end Removed

/-! ## 3. Ids -/

/-- What the id of a backup keeps of a file. -/
def identityKey (root : Bytes) (s : FileSnapshot) : Bytes × Bytes × Bytes × Bytes :=
  (root, s.relativePath, s.sha256, s.desiredSha256)

/-- The digests of a snapshot can stand on a line. -/
def Plain (s : FileSnapshot) : Prop := HexText s.sha256 ∧ HexText s.desiredSha256

theorem inline_identityRecords (root : Bytes) {s : FileSnapshot} (h : Plain s) :
    ∀ r ∈ identityRecords root s, Inline r := by
  intro r hr
  simp only [identityRecords, List.mem_cons, List.not_mem_nil, or_false] at hr
  rcases hr with rfl | rfl | rfl | rfl
  · exact (hexText_hexEncode _).inline
  · exact (hexText_hexEncode _).inline
  · exact h.1.inline
  · exact h.2.inline

theorem identityRecords_injective {root root' : Bytes} {l l' : List FileSnapshot}
    (h : l.flatMap (identityRecords root) = l'.flatMap (identityRecords root')) :
    l.map (identityKey root) = l'.map (identityKey root') := by
  induction l generalizing l' with
  | nil =>
    cases l' with
    | nil => rfl
    | cons s' l' => cases h
  | cons s l ih =>
    cases l' with
    | nil => cases h
    | cons s' l' =>
      simp only [List.flatMap_cons, identityRecords, List.cons_append, List.nil_append,
        List.cons.injEq] at h
      obtain ⟨hroot, hpath, hsha, hdesired, hrest⟩ := h
      rw [List.map_cons, List.map_cons, ih hrest]
      simp only [identityKey, hexEncode_injective hroot, hexEncode_injective hpath, hsha, hdesired]

/-- **The identity material determines the records.** -/
theorem identityMaterial_injective {root root' : Bytes} {l l' : List FileSnapshot}
    (hl : ∀ s ∈ l, Plain s) (hl' : ∀ s ∈ l', Plain s)
    (h : identityMaterial root l = identityMaterial root' l') :
    l.map (identityKey root) = l'.map (identityKey root') := by
  refine identityRecords_injective (lines_injective ?_ ?_ h)
  · intro r hr
    obtain ⟨s, hs, hrs⟩ := List.mem_flatMap.mp hr
    exact inline_identityRecords root (hl s hs) r hrs
  · intro r hr
    obtain ⟨s, hs, hrs⟩ := List.mem_flatMap.mp hr
    exact inline_identityRecords root' (hl' s hs) r hrs

variable [Bcrypt]

/-! ## 4. Loading -/

/-- The manifest of the id is there and describes the backup. -/
structure Loads (d : StoreDisk) (id : Bytes) (b : BackupSet) : Prop where
  valid : ValidHash id
  manifest : ∃ text, d (.manifest id) = some text ∧ text.length ≤ maxManifestBytes ∧
    parseManifest id text = .ok b
  identity : digestHex (identityMaterial b.configRoot b.snapshots) = id

/-- An operation that fails does not make a manifest corrupt. -/
theorem careful_load_manifest (id : Bytes) :
    Careful (fun p => p = .manifest id) (fun e => e.failure = .operational) (load id).run := by
  have hoperational : ∀ e : Error, True → (LoadError.mk .operational e).failure = .operational :=
    fun _ _ => rfl
  have hparse : ∀ text, Careful (fun p => p = Path.manifest id) (fun _ => False)
      (liftExcept (parseManifest id text) : StoreTask BackupSet).run :=
    fun _ => careful_liftExcept _
  have hread : Careful (fun p => p = Path.manifest id) (fun _ => True)
      (readBounded (Path.manifest id) maxManifestBytes).run :=
    careful_readBounded (R := fun p => p = Path.manifest id) rfl _
  unfold load
  refine (careful_ensure _ _).bind fun _ => ?_
  refine (hread.adapt _ hoperational).bind fun text => ?_
  refine ((hparse text).adapt _ fun _ h => h.elim).bind fun _ => ?_
  refine ((careful_sha256Hex _).adapt _ hoperational).bind fun _ => ?_
  exact (careful_ensure _ _).bind fun _ => careful_pure _

theorem careful_load (id : Bytes) :
    Careful Path.stored (fun e => e.failure = .operational) (load id).run :=
  (careful_load_manifest id).mono (fun _ hp => hp ▸ Path.stored_manifest id) fun _ he => he

/-- Only the manifest counts. -/
theorem value_load_congr {d d' : StoreDisk} {id : Bytes}
    (h : d' (.manifest id) = d (.manifest id)) :
    value (load id).run d' = value (load id).run d :=
  value_congr (careful_load_manifest id) fun _ hp => hp ▸ h

theorem careful_loadBackup (id : Bytes) :
    Careful Path.stored (fun _ => True) (loadBackup id).run :=
  (careful_load id).adapt _ fun _ _ => trivial

theorem value_load_eq_ok {d : StoreDisk} {id : Bytes} {b : BackupSet} :
    value (load id).run d = .ok b ↔ Loads d id b := by
  unfold load
  simp only [value_bind_eq_ok, value_adapt_eq_ok, value_ensure_eq_ok, value_readBounded_eq_ok,
    value_liftExcept, value_sha256Hex, Except.ok.injEq, ExceptT.run_pure, value_pure]
  constructor
  · rintro ⟨_, hvalid, text, ⟨htext, hlen⟩, b', hparse, _, rfl, _, hid, rfl⟩
    exact ⟨hvalid, ⟨text, htext, hlen, hparse⟩, hid⟩
  · rintro ⟨hvalid, ⟨text, htext, hlen, hparse⟩, hid⟩
    exact ⟨(), hvalid, text, ⟨htext, hlen⟩, b, hparse, _, rfl, (), hid, rfl⟩

/-- A manifest that is there cannot be loaded for a reason of its own: it is too large. -/
theorem value_load_operational_iff {d : StoreDisk} {id text : Bytes}
    (htext : d (.manifest id) = some text) :
    (∃ e, value (load id).run d = .error ⟨.operational, e⟩) ↔
      ValidHash id ∧ maxManifestBytes < text.length := by
  unfold load
  rw [value_task_bind, value_ensure]
  by_cases hvalid : ValidHash id
  · rw [if_pos hvalid]
    simp only
    rw [value_task_bind, value_adapt, value_readBounded_of_some htext, bounded]
    by_cases hlen : text.length ≤ maxManifestBytes
    · rw [if_pos hlen]
      simp only [Except.mapError]
      rw [value_task_bind, value_adapt, value_liftExcept]
      cases parseManifest id text with
      | error e => simp [Except.mapError, Nat.not_lt.mpr hlen]
      | ok b =>
        simp only [Except.mapError]
        rw [value_task_bind, value_adapt, value_sha256Hex]
        simp only [Except.mapError]
        rw [value_task_bind, value_ensure]
        by_cases hid : digestHex (identityMaterial b.configRoot b.snapshots) = id
        · simp [if_pos hid, Nat.not_lt.mpr hlen]
        · simp [if_neg hid, Nat.not_lt.mpr hlen]
    · rw [if_neg hlen]
      simp [Except.mapError, hvalid, Nat.not_le.mp hlen]
  · rw [if_neg hvalid]
    simp [hvalid]

theorem value_load_of_invalid (d : StoreDisk) {id : Bytes} (h : ¬ ValidHash id) :
    ∃ e, value (load id).run d = .error ⟨.corrupt, e⟩ := by
  unfold load
  rw [value_task_bind, value_ensure, if_neg h]
  exact ⟨_, rfl⟩

/-- Without a manifest nothing is corrupt but the id. -/
theorem value_load_of_none {d : StoreDisk} {id : Bytes} {e : Error}
    (hnone : d (.manifest id) = none) (h : value (load id).run d = .error ⟨.corrupt, e⟩) :
    ¬ ValidHash id := by
  intro hvalid
  unfold load at h
  rw [value_task_bind, value_ensure, if_pos hvalid] at h
  simp only at h
  rw [value_task_bind, value_adapt, readBounded, value_perform] at h
  simp [Op.answer, hnone, Except.mapError] at h

theorem value_loadBackup_eq_ok {d : StoreDisk} {id : Bytes} {b : BackupSet} :
    value (loadBackup id).run d = .ok b ↔ Loads d id b :=
  value_adapt_eq_ok.trans value_load_eq_ok

theorem Loads.id_eq {d : StoreDisk} {id : Bytes} {b : BackupSet} (h : Loads d id b) :
    b.id = id := by
  obtain ⟨text, -, -, hparse⟩ := h.manifest
  exact parseManifest_id hparse

theorem Loads.unique {d : StoreDisk} {id : Bytes} {b b' : BackupSet} (h : Loads d id b)
    (h' : Loads d id b') : b = b' := by
  obtain ⟨text, htext, -, hparse⟩ := h.manifest
  obtain ⟨text', htext', -, hparse'⟩ := h'.manifest
  rw [htext, Option.some.injEq] at htext'
  subst htext'
  rw [hparse] at hparse'
  exact Except.ok.inj hparse'

theorem Loads.congr {d d' : StoreDisk} {id : Bytes} {b : BackupSet} (h : Loads d id b)
    (hd : d' (.manifest id) = d (.manifest id)) : Loads d' id b := by
  rw [← value_load_eq_ok, value_load_congr hd]
  exact value_load_eq_ok.mpr h

/-! ## 5. Verification -/

/-- The object of a file is there and has the digest and the size of its record. -/
def Holds (d : StoreDisk) (s : FileSnapshot) : Prop :=
  ∃ bytes, d (.object s.sha256) = some bytes ∧ bytes.length ≤ maxObjectBytes ∧
    bytes.length = s.size ∧ digestHex bytes = s.sha256

/-- The manifest is there, and the objects of all its files. -/
structure Verifies (d : StoreDisk) (b : BackupSet) : Prop where
  loads : Loads d b.id b
  objects : ∀ s ∈ b.snapshots, Holds d s

theorem careful_verify (b : BackupSet) :
    Careful Path.stored (fun _ => True) (verify b).run := by
  unfold verify
  refine (careful_loadBackup _).bind fun loaded => ?_
  refine (careful_ensure _ _).bind fun _ => careful_forEach fun p _ => ?_
  unfold verifySnapshot
  refine (careful_ensure _ _).bind fun _ => ?_
  refine (careful_readBounded (show (Path.object _).stored from trivial) _).bind fun _ => ?_
  exact (careful_sha256Hex _).bind fun _ => careful_ensure _ _

theorem value_verifySnapshot_eq_ok {d : StoreDisk} {expected s : FileSnapshot} :
    value (verifySnapshot expected s).run d = .ok () ↔ s = expected ∧ Holds d s := by
  unfold verifySnapshot
  simp only [value_bind_eq_ok, value_ensure_eq_ok, value_readBounded_eq_ok, value_sha256Hex,
    Except.ok.injEq]
  constructor
  · rintro ⟨_, heq, bytes, ⟨hbytes, hlen⟩, _, rfl, hsize, hdigest⟩
    exact ⟨heq, bytes, hbytes, hlen, hsize, hdigest⟩
  · rintro ⟨heq, bytes, hbytes, hlen, hsize, hdigest⟩
    exact ⟨(), heq, bytes, ⟨hbytes, hlen⟩, _, rfl, hsize, hdigest⟩

theorem value_verify_eq_ok {d : StoreDisk} {b : BackupSet} :
    value (verify b).run d = .ok () ↔ Verifies d b := by
  unfold verify
  simp only [value_bind_eq_ok, value_ensure_eq_ok, value_forEach_eq_ok, value_loadBackup_eq_ok,
    value_verifySnapshot_eq_ok]
  constructor
  · rintro ⟨loaded, hloads, _, ⟨hroot, hlen⟩, hall⟩
    have hsnapshots : loaded.snapshots = b.snapshots := eq_of_zip hlen fun p hp => (hall p hp).1
    have hid : loaded.id = b.id := hloads.id_eq
    have heq : loaded = b := by
      cases loaded
      cases b
      simp_all
    subst heq
    refine ⟨hloads, fun s hs => ?_⟩
    have hzip : (s, s) ∈ loaded.snapshots.zip loaded.snapshots := by
      rw [List.zip_eq_zipWith, List.zipWith_self]
      exact List.mem_map_of_mem hs
    exact (hall _ hzip).2
  · rintro ⟨hloads, hobjects⟩
    refine ⟨b, hloads, (), ⟨rfl, rfl⟩, fun p hp => ?_⟩
    rw [List.zip_eq_zipWith, List.zipWith_self] at hp
    obtain ⟨s, hs, rfl⟩ := List.mem_map.mp hp
    exact ⟨rfl, hobjects s hs⟩

theorem Verifies.congr {d d' : StoreDisk} {b : BackupSet} (h : Verifies d b)
    (hmanifest : d' (.manifest b.id) = d (.manifest b.id))
    (hobjects : ∀ s ∈ b.snapshots, d' (.object s.sha256) = d (.object s.sha256)) :
    Verifies d' b := by
  refine ⟨h.loads.congr hmanifest, fun s hs => ?_⟩
  obtain ⟨bytes, hbytes, hrest⟩ := h.objects s hs
  exact ⟨bytes, (hobjects s hs).trans hbytes, hrest⟩

theorem plain_snapshotOf (file : PreviewFile) : Plain (snapshotOf file) :=
  ⟨(validHash_digestHex _).2, (validHash_digestHex _).2⟩

/-! ## 6. Creation -/

/-- The backup of a preview. -/
def backupOf (preview : ConfigPreview) : BackupSet where
  id := digestHex (identityMaterial preview.configRoot (preview.files.map snapshotOf))
  configRoot := preview.configRoot
  snapshots := preview.files.map snapshotOf

/-- What `create` does to the files. -/
inductive CreateOp (preview : ConfigPreview) : Op Path Bytes → Prop
  | reads {op : Op Path Bytes} (h : op.readsIn fun _ => True) : CreateOp preview op
  | object {f : PreviewFile} (hf : f ∈ preview.files) :
      CreateOp preview (.write (.object (digestHex f.originalBytes)) f.originalBytes)
  | manifest : CreateOp preview
      (.write (.manifest (backupOf preview).id) (manifestText (backupOf preview)))
  | journal : CreateOp preview (.write (.journal (backupOf preview).id)
      (journalText .backupComplete (backupOf preview).id))

theorem onlyTask_sha256Hex {p : Op Path Bytes → Prop}
    (hp : ∀ op : Op Path Bytes, (op.readsIn fun _ => True) → p op)
    (bytes : Bytes) :
    OnlyTask p (fun b => b = digestHex bytes) (sha256Hex bytes : StoreTask Bytes) := by
  refine onlyTask_perform (hp _ trivial) fun answer => ?_
  cases answer with
  | done => exact onlyTask_pure rfl
  | _ => exact onlyTask_throw _

theorem onlyTask_saveObject {preview : ConfigPreview} {f : PreviewFile} (hf : f ∈ preview.files) :
    OnlyTask (CreateOp preview) (fun s => s = snapshotOf f) (saveObject f) := by
  have hreads : ∀ op : Op Path Bytes, (op.readsIn fun _ => True) → CreateOp preview op :=
    fun _ h => .reads h
  refine (onlyTask_sha256Hex hreads _).bind fun digest hdigest => ?_
  refine (onlyTask_sha256Hex hreads _).bind fun desired hdesired => ?_
  refine (onlyTask_pathExists hreads _ _).bind fun found _ => ?_
  have hobject : OnlyTask (CreateOp preview) (fun _ => True) (putObject f digest found) := by
    cases found with
    | true =>
      refine (onlyTask_readBounded hreads _ _).bind fun existing _ => ?_
      refine (onlyTask_attempt (onlyTask_sha256Hex hreads _)).bind fun _ _ => ?_
      exact (onlyTask_ensure _ _).mono (fun _ h => h) fun _ _ => trivial
    | false =>
      rw [hdigest]
      exact onlyTask_atomicReplace (.object hf)
  refine hobject.bind fun _ _ => onlyTask_pure ?_
  rw [hdigest, hdesired]
  rfl

/-- **Creation** writes the objects, the manifest and the journal of the backup of the preview,
and that is what it answers. -/
theorem onlyTask_create (preview : ConfigPreview) :
    OnlyTask (CreateOp preview) (fun b => b = backupOf preview ∧ SafeFileRecords preview.files)
      (create preview) := by
  have hreads : ∀ op : Op Path Bytes, (op.readsIn fun _ => True) → CreateOp preview op :=
    fun _ h => .reads h
  refine (onlyTask_ensure _ _).bind fun _ _ => ?_
  refine (onlyTask_ensure _ _).bind fun _ hsafe => ?_
  refine (onlyTask_createDirectories hreads).bind fun _ _ => ?_
  refine (onlyTask_collect fun f hf => onlyTask_saveObject hf).bind fun snapshots hsnapshots => ?_
  refine (onlyTask_sha256Hex hreads _).bind fun id hid => ?_
  subst hsnapshots hid
  refine (onlyTask_atomicReplace .manifest).bind fun _ _ => ?_
  refine (onlyTask_atomicReplace .journal).bind fun _ _ => ?_
  exact onlyTask_pure ⟨rfl, hsafe⟩

end Kf2Optimizer.Backup
