/-
# The manifest of a backup

A manifest that was written is read back as the backup it was written for
(`parseManifest_manifestText`), if a root record can hold its root: no zero in it, and at most
65534 bytes.  `create` does not ask that of a root, `load_backup` does.

The id is the digest of the root, the paths and the hashes in their order, so a manifest that says
anything else about these is refused under it (`Loads.identity_unique`).
-/
import Kf2Optimizer.Backup.Stored
import Mathlib.Algebra.Order.BigOperators.Group.List

namespace Kf2Optimizer.Backup

open Text Files Security Platform Config

/-! ## 1. The lines -/

/-- A record of a root can hold it. -/
def RootFits (root : Bytes) : Prop := root.length ≤ 65534 ∧ 0 ∉ root

instance (root : Bytes) : Decidable (RootFits root) := inferInstanceAs (Decidable (_ ∧ _))

/-- What a manifest says of a file, and may say. -/
structure Recorded (s : FileSnapshot) : Prop where
  path : AllowedRelativePath s.relativePath
  size : s.size ≤ maxObjectBytes
  desiredSize : s.desiredSize ≤ maxObjectBytes
  sha256 : ValidHash s.sha256
  desiredSha256 : ValidHash s.desiredSha256

theorem Recorded.plain {s : FileSnapshot} (h : Recorded s) : Plain s := ⟨h.sha256.2, h.desiredSha256.2⟩

@[simp] theorem generic_generic (bytes : Bytes) : generic (generic bytes) = generic bytes := by
  simp only [generic, List.map_map]
  refine List.map_congr_left fun b _ => ?_
  by_cases hb : b = 0x5C
  · simp [hb]
  · simp [hb]

@[simp] theorem length_generic (bytes : Bytes) : (generic bytes).length = bytes.length := by
  simp [generic]

theorem allowed_facts {path : Bytes} (h : AllowedRelativePath path) :
    path ≠ [] ∧ 0 ∉ path ∧ generic path = path ∧ path.length ≤ 20 := by
  have hall : ∀ p ∈ allowedNames, p ≠ [] ∧ 0 ∉ p ∧ generic p = p ∧ p.length ≤ 20 := by decide
  exact hall path h

theorem after_of_head_ne {a b : UInt8} (h : a ≠ b) (p l : Bytes) : after (a :: p) (b :: l) = none :=
  if_neg fun hp => h (List.cons_prefix_cons.mp hp).1

section

variable (id : Bytes) (m : ManifestState)

theorem ManifestState.line_version (h : m.versionOk = false) :
    m.line id (ascii "version=2") = .ok { m with versionOk := true } := by
  unfold ManifestState.line
  rw [if_pos ⟨rfl, h⟩]

theorem ManifestState.line_id (h : m.idOk = false) :
    m.line id (ascii "id=" ++ id) = .ok { m with idOk := true } := by
  have hne : ascii "id=" ++ id ≠ ascii "version=2" := by
    rw [show ascii "id=" = 0x69 :: ascii "d=" by decide,
      show ascii "version=2" = 0x76 :: ascii "ersion=2" by decide]
    exact fun heq => absurd (List.cons.inj heq).1 (by decide)
  unfold ManifestState.line
  rw [if_neg fun hline => hne hline.1, if_pos ⟨after_append _ _, h⟩]

theorem ManifestState.line_root (value : Bytes) : m.line id (ascii "root=" ++ value) = m.root value := by
  have hroot : ascii "root=" ++ value = 0x72 :: (ascii "oot=" ++ value) := by
    rw [show ascii "root=" = 0x72 :: ascii "oot=" by decide]
    rfl
  have hversion : ascii "root=" ++ value ≠ ascii "version=2" := by
    rw [hroot, show ascii "version=2" = 0x76 :: ascii "ersion=2" by decide]
    exact fun heq => absurd (List.cons.inj heq).1 (by decide)
  have hid : after (ascii "id=") (ascii "root=" ++ value) = none := by
    rw [hroot, show ascii "id=" = 0x69 :: ascii "d=" by decide]
    exact after_of_head_ne (by decide) _ _
  unfold ManifestState.line
  rw [if_neg fun hline => hversion hline.1, hid, if_neg fun hline => Option.some_ne_none _ hline.1.symm, after_append]

theorem ManifestState.line_file (value : Bytes) : m.line id (ascii "file=" ++ value) = m.file value := by
  have hfile : ascii "file=" ++ value = 0x66 :: (ascii "ile=" ++ value) := by
    rw [show ascii "file=" = 0x66 :: ascii "ile=" by decide]
    rfl
  have hversion : ascii "file=" ++ value ≠ ascii "version=2" := by
    rw [hfile, show ascii "version=2" = 0x76 :: ascii "ersion=2" by decide]
    exact fun heq => absurd (List.cons.inj heq).1 (by decide)
  have hid : after (ascii "id=") (ascii "file=" ++ value) = none := by
    rw [hfile, show ascii "id=" = 0x69 :: ascii "d=" by decide]
    exact after_of_head_ne (by decide) _ _
  have hroot : after (ascii "root=") (ascii "file=" ++ value) = none := by
    rw [hfile, show ascii "root=" = 0x72 :: ascii "oot=" by decide]
    exact after_of_head_ne (by decide) _ _
  unfold ManifestState.line
  rw [if_neg fun hline => hversion hline.1, hid, if_neg fun hline => Option.some_ne_none _ hline.1.symm, hroot,
    after_append]

/-- The record of a root that fits is read back, and of any other one refused. -/
theorem ManifestState.root_hexEncode {root : Bytes} (hnew : m.rootOk = false) (hne : root ≠ [])
    (hgeneric : generic root = root) (habsolute : isAbsolute root = true) :
    m.root (hexEncode root) = if RootFits root then .ok { m with rootOk := true, configRoot := root }
      else .error (ioFailure "Backup root encoding is corrupt") := by
  unfold ManifestState.root
  simp only [hnew, Bool.false_eq_true, if_false, hexDecode_hexEncode, hgeneric, habsolute, if_true]
  by_cases hfits : RootFits root
  · rw [if_pos hfits, if_neg]
    rintro (hnil | hlong | hzero)
    · exact hne hnil
    · exact absurd hfits.1 (Nat.not_le.mpr hlong)
    · exact hfits.2 hzero
  · rw [if_neg hfits, if_pos]
    by_cases hlong : 65534 < root.length
    · exact .inr (.inl hlong)
    · refine .inr (.inr ?_)
      by_contra hzero
      exact hfits ⟨Nat.not_lt.mp hlong, hzero⟩

/-- The fields of the record of a file. -/
theorem splitOn_fields {s : FileSnapshot} (h : Plain s) :
    splitOn fieldSeparator (hexEncode s.relativePath ++ fieldSeparator :: (decimal s.size ++
      fieldSeparator :: (s.sha256 ++ fieldSeparator :: (decimal s.desiredSize ++
        fieldSeparator :: s.desiredSha256)))) =
      [hexEncode s.relativePath, decimal s.size, s.sha256, decimal s.desiredSize,
        s.desiredSha256] := by
  have hhex : isHex fieldSeparator = false := by decide
  have hdigit : isDigit fieldSeparator = false := by decide
  rw [splitOn_append ((hexText_hexEncode _).not_mem hhex), splitOn_append (not_mem_decimal hdigit),
    splitOn_append (h.1.not_mem hhex), splitOn_append (not_mem_decimal hdigit),
    splitOn_of_not_mem (h.2.not_mem hhex)]

theorem fileRecord_eq (s : FileSnapshot) : fileRecord s =
    ascii "file=" ++ (hexEncode s.relativePath ++ fieldSeparator :: (decimal s.size ++
      fieldSeparator :: (s.sha256 ++ fieldSeparator :: (decimal s.desiredSize ++
        fieldSeparator :: s.desiredSha256)))) := by
  simp [fileRecord]

theorem ManifestState.line_fileRecord {s : FileSnapshot} (hs : Recorded s)
    (hroom : m.snapshots.length < maxSnapshotCount)
    (hnew : s.relativePath ∉ m.snapshots.map FileSnapshot.relativePath) :
    m.line id (fileRecord s) = .ok { m with snapshots := m.snapshots ++ [s] } := by
  obtain ⟨hne, hzero, hgeneric, -⟩ := allowed_facts hs.path
  have hpath : ¬ (s.relativePath = [] ∨ 0 ∈ s.relativePath) := not_or.mpr ⟨hne, hzero⟩
  have hallowed : ¬ (¬ AllowedRelativePath s.relativePath ∨
      s.relativePath ∈ m.snapshots.map FileSnapshot.relativePath) :=
    not_or.mpr ⟨not_not.mpr hs.path, hnew⟩
  have hsmall : ∀ n ≤ maxObjectBytes, n < 2 ^ 64 := fun n hn => Nat.lt_of_le_of_lt hn (by decide)
  have hfields : ¬ (maxObjectBytes < s.size ∨ maxObjectBytes < s.desiredSize ∨
      ¬ ValidHash s.sha256 ∨ ¬ ValidHash s.desiredSha256) := by
    rintro (hlong | hlong | hbad | hbad)
    · exact absurd hs.size (Nat.not_le.mpr hlong)
    · exact absurd hs.desiredSize (Nat.not_le.mpr hlong)
    · exact hbad hs.sha256
    · exact hbad hs.desiredSha256
  rw [fileRecord_eq, line_file]
  unfold ManifestState.file
  rw [if_neg (Nat.not_le.mpr hroom), splitOn_fields hs.plain]
  simp only [hexDecode_hexEncode, hgeneric, if_neg hpath, if_neg hallowed, parseCanonicalSize,
    parseCanonical_decimal (hsmall _ hs.size), parseCanonical_decimal (hsmall _ hs.desiredSize),
    if_neg hfields]

end

/-! ## 2. The whole manifest -/

/-- The records of the files, read one after the other. -/
theorem foldlM_fileRecord (id : Bytes) {l : List FileSnapshot} (m : ManifestState)
    (hl : ∀ s ∈ l, Recorded s) (hroom : m.snapshots.length + l.length ≤ maxSnapshotCount)
    (hnodup : ((m.snapshots ++ l).map FileSnapshot.relativePath).Nodup) :
    (l.map fileRecord).foldlM (ManifestState.line id) m =
      (.ok { m with snapshots := m.snapshots ++ l } : Result ManifestState) := by
  induction l generalizing m with
  | nil =>
    rw [List.append_nil]
    rfl
  | cons s l ih =>
    obtain ⟨hs, hrest⟩ := List.forall_mem_cons.mp hl
    have hnew : s.relativePath ∉ m.snapshots.map FileSnapshot.relativePath := by
      intro hmem
      rw [List.map_append, List.map_cons] at hnodup
      exact (List.nodup_append.mp hnodup).2.2 _ hmem _ List.mem_cons_self rfl
    have hlength : m.snapshots.length + (l.length + 1) ≤ maxSnapshotCount := hroom
    rw [List.map_cons, List.foldlM_cons, ManifestState.line_fileRecord id m hs (by omega) hnew]
    change List.foldlM _ _ _ = _
    rw [ih _ hrest]
    · simp
    · simp only [List.length_append, List.length_singleton]
      omega
    · simpa using hnodup

/-- A backup that a manifest can say, its root apart. -/
structure Writable (b : BackupSet) : Prop where
  id : ValidHash b.id
  root : b.configRoot ≠ [] ∧ generic b.configRoot = b.configRoot ∧ isAbsolute b.configRoot = true
  files : ∀ s ∈ b.snapshots, Recorded s
  count : b.snapshots ≠ [] ∧ b.snapshots.length ≤ maxSnapshotCount
  distinct : (b.snapshots.map FileSnapshot.relativePath).Nodup

theorem inline_fileRecord {s : FileSnapshot} (h : Plain s) : Inline (fileRecord s) := by
  have hkey : Inline (ascii "file=") := ⟨by decide, by decide⟩
  have hsep : Inline [fieldSeparator] := ⟨by decide, by decide⟩
  exact (((((((hkey.append (hexText_hexEncode _).inline).append hsep).append
    (inline_decimal _)).append hsep).append h.1.inline).append hsep).append
    (inline_decimal _)).append hsep |>.append h.2.inline

theorem records_manifestText {b : BackupSet} (hid : HexText b.id) (hfiles : ∀ s ∈ b.snapshots, Plain s) :
    records (manifestText b) = [ascii "version=2", ascii "id=" ++ b.id,
      ascii "root=" ++ hexEncode b.configRoot] ++ b.snapshots.map fileRecord := by
  refine records_lines fun r hr => ?_
  rcases List.mem_append.mp hr with hhead | hfile
  · simp only [List.mem_cons, List.not_mem_nil, or_false] at hhead
    rcases hhead with rfl | rfl | rfl
    · exact ⟨by decide, by decide⟩
    · exact Inline.append ⟨by decide, by decide⟩ hid.inline
    · exact Inline.append ⟨by decide, by decide⟩ (hexText_hexEncode _).inline
  · obtain ⟨s, hs, rfl⟩ := List.mem_map.mp hfile
    exact inline_fileRecord (hfiles s hs)

theorem manifestText_ne_nil (b : BackupSet) : manifestText b ≠ [] := by
  intro h
  have hlength := congrArg List.length h
  simp [manifestText, lines] at hlength

/-- **A manifest that was written is read back**, if its root fits. -/
theorem parseManifest_manifestText {b : BackupSet} (h : Writable b) :
    parseManifest b.id (manifestText b) =
      if RootFits b.configRoot then .ok b
      else .error (ioFailure "Backup root encoding is corrupt") := by
  obtain ⟨hne, hgeneric, habsolute⟩ := h.root
  have hrecords := records_manifestText h.id.2 fun s hs => (h.files s hs).plain
  unfold parseManifest
  rw [if_neg (manifestText_ne_nil b), hrecords, List.cons_append, List.cons_append,
    List.cons_append, List.nil_append, List.foldlM_cons, ManifestState.line_version _ _ rfl]
  change (List.foldlM _ _ _ >>= _) = _
  rw [List.foldlM_cons, ManifestState.line_id _ _ rfl]
  change (List.foldlM _ _ _ >>= _) = _
  rw [List.foldlM_cons, ManifestState.line_root,
    ManifestState.root_hexEncode _ rfl hne hgeneric habsolute]
  by_cases hfits : RootFits b.configRoot
  · rw [if_pos hfits, if_pos hfits]
    change (List.foldlM _ _ _ >>= _) = _
    rw [foldlM_fileRecord b.id _ h.files (by simpa using h.count.2) (by simpa using h.distinct)]
    exact if_pos ⟨rfl, rfl, rfl, by simpa using h.count.1⟩
  · rw [if_neg hfits, if_neg hfits]
    rfl

/-- A manifest is refused under any id but its own. -/
theorem parseManifest_other_id {b : BackupSet} {id : Bytes} (hid : HexText b.id)
    (hfiles : ∀ s ∈ b.snapshots, Plain s) (hne : id ≠ b.id) :
    parseManifest id (manifestText b) =
      .error (ioFailure "Backup manifest contains an unknown record") := by
  have hline : ∀ m : ManifestState, m.line id (ascii "id=" ++ b.id) =
      .error (ioFailure "Backup manifest contains an unknown record") := by
    intro m
    have hid' : ascii "id=" ++ b.id = 0x69 :: (ascii "d=" ++ b.id) := by
      rw [show ascii "id=" = 0x69 :: ascii "d=" by decide]
      rfl
    have hversion : ascii "id=" ++ b.id ≠ ascii "version=2" := by
      rw [hid', show ascii "version=2" = 0x76 :: ascii "ersion=2" by decide]
      exact fun heq => absurd (List.cons.inj heq).1 (by decide)
    have hroot : after (ascii "root=") (ascii "id=" ++ b.id) = none := by
      rw [hid', show ascii "root=" = 0x72 :: ascii "oot=" by decide]
      exact after_of_head_ne (by decide) _ _
    have hfile : after (ascii "file=") (ascii "id=" ++ b.id) = none := by
      rw [hid', show ascii "file=" = 0x66 :: ascii "ile=" by decide]
      exact after_of_head_ne (by decide) _ _
    unfold ManifestState.line
    rw [if_neg fun h => hversion h.1, after_append,
      if_neg fun h => hne (Option.some.inj h.1).symm, hroot, hfile]
    simp only
    rw [hid', if_neg (List.cons_ne_nil _ _)]
  unfold parseManifest
  rw [if_neg (manifestText_ne_nil b), records_manifestText hid hfiles, List.cons_append,
    List.cons_append, List.foldlM_cons, ManifestState.line_version _ _ rfl]
  change (List.foldlM _ _ _ >>= _) = _
  rw [List.foldlM_cons, hline]
  rfl

/-- What no line can break holds of what the whole manifest has said. -/
theorem foldlM_keeps {f : ManifestState → Bytes → Result ManifestState} {I : ManifestState → Prop}
    (hstep : ∀ m line m', I m → f m line = .ok m' → I m') {l : List Bytes} {m m' : ManifestState}
    (h : l.foldlM f m = .ok m') (hI : I m) : I m' := by
  induction l generalizing m with
  | nil =>
    cases h
    exact hI
  | cons line l ih =>
    rw [List.foldlM_cons] at h
    cases hline : f m line with
    | error e =>
      rw [hline] at h
      cases h
    | ok next =>
      rw [hline] at h
      exact ih h (hstep m line next hI hline)

theorem ManifestState.snapshots_of_root {m m' : ManifestState} {value : Bytes}
    (h : m.root value = .ok m') : m'.snapshots = m.snapshots := by
  unfold ManifestState.root at h
  split at h
  · cases h
  · split at h
    · cases h
    · split at h
      · cases h
      · split at h
        · cases h
          rfl
        · cases h

/-- The record of a file that is accepted adds what a manifest may say of a file. -/
theorem ManifestState.file_eq_ok {m m' : ManifestState} {value : Bytes} (h : m.file value = .ok m') :
    ∃ s, Recorded s ∧ s.relativePath ∉ m.snapshots.map FileSnapshot.relativePath ∧
      m'.snapshots = m.snapshots ++ [s] := by
  unfold ManifestState.file at h
  split at h
  · cases h
  · split at h
    · split at h
      · cases h
      · split at h
        · cases h
        · split at h
          · cases h
          · rename_i hallowed
            split at h
            · split at h
              · cases h
              · rename_i hfields
                cases h
                obtain ⟨hpath, hnew⟩ := not_or.mp hallowed
                obtain ⟨hsize, hdesired, hsha256, hsha256'⟩ := by simpa only [not_or] using hfields
                exact ⟨_, ⟨not_not.mp hpath, Nat.not_lt.mp hsize, Nat.not_lt.mp hdesired,
                  not_not.mp hsha256, not_not.mp hsha256'⟩, hnew, rfl⟩
            · cases h
    · cases h

/-- The files that a manifest has recorded so far. -/
def ManifestState.Sound (m : ManifestState) : Prop :=
  (∀ s ∈ m.snapshots, Recorded s) ∧ (m.snapshots.map FileSnapshot.relativePath).Nodup

theorem ManifestState.Sound.line {id : Bytes} {m m' : ManifestState} {line : Bytes} (hm : m.Sound)
    (h : m.line id line = .ok m') : m'.Sound := by
  unfold ManifestState.line at h
  split at h
  · cases h
    exact hm
  · split at h
    · cases h
      exact hm
    · split at h
      · unfold ManifestState.Sound
        rw [snapshots_of_root h]
        exact hm
      · obtain ⟨s, hs, hnew, hsnapshots⟩ := file_eq_ok h
        unfold ManifestState.Sound
        rw [hsnapshots]
        refine ⟨fun s' hs' => ?_, ?_⟩
        · rcases List.mem_append.mp hs' with hold | hadded
          · exact hm.1 s' hold
          · exact List.mem_singleton.mp hadded ▸ hs
        · rw [List.map_append, List.map_singleton]
          refine List.nodup_append.mpr ⟨hm.2, List.nodup_singleton _, fun r hr r' hr' heq => hnew ?_⟩
          rw [← List.mem_singleton.mp hr', ← heq]
          exact hr
      · split at h
        · cases h
          exact hm
        · cases h

/-- The files of a manifest that was accepted. -/
theorem parseManifest_files {id text : Bytes} {b : BackupSet} (h : parseManifest id text = .ok b) :
    b.snapshots ≠ [] ∧ (∀ s ∈ b.snapshots, Recorded s) ∧
      (b.snapshots.map FileSnapshot.relativePath).Nodup := by
  unfold parseManifest at h
  split at h
  · cases h
  · cases hm : (records text).foldlM (ManifestState.line id) ({} : ManifestState) with
    | error e =>
      rw [hm] at h
      cases h
    | ok m =>
      rw [hm] at h
      change (if _ then _ else _) = _ at h
      split at h
      · rename_i hcomplete
        cases h
        refine ⟨hcomplete.2.2.2, ?_⟩
        exact foldlM_keeps (I := ManifestState.Sound) (fun _ _ _ hm hline => hm.line hline) hm
          ⟨List.forall_mem_nil _, List.nodup_nil⟩
      · cases h

/-! ## 3. Its size -/

theorem length_fileRecord_le {s : FileSnapshot} (h : Recorded s) : (fileRecord s).length ≤ 193 := by
  have hsize : (decimal s.size).length ≤ 8 :=
    length_decimal_le (by decide) (Nat.lt_of_le_of_lt h.size (by decide))
  have hdesired : (decimal s.desiredSize).length ≤ 8 :=
    length_decimal_le (by decide) (Nat.lt_of_le_of_lt h.desiredSize (by decide))
  have hpath := (allowed_facts h.path).2.2.2
  have hkey : (ascii "file=").length = 5 := by decide
  have hsha256 := h.sha256.1
  have hsha256' := h.desiredSha256.1
  simp only [fileRecord, List.length_append, List.length_singleton, length_hexEncode, hkey]
  omega

/-- A manifest whose root fits can be read. -/
theorem length_manifestText_le {b : BackupSet} (h : Writable b) (hfits : RootFits b.configRoot) :
    (manifestText b).length ≤ maxManifestBytes := by
  have hfiles : ((b.snapshots.map fileRecord).map fun r => r.length + 1).sum ≤
      b.snapshots.length * 194 := by
    have hall : ∀ n ∈ (b.snapshots.map fileRecord).map fun r => r.length + 1, n ≤ 194 := by
      intro n hn
      obtain ⟨r, hr, rfl⟩ := List.mem_map.mp hn
      obtain ⟨s, hs, rfl⟩ := List.mem_map.mp hr
      exact Nat.succ_le_succ (length_fileRecord_le (h.files s hs))
    simpa using List.sum_le_card_nsmul _ _ hall
  have hkeys : (ascii "version=2").length = 9 ∧ (ascii "id=").length = 3 ∧
      (ascii "root=").length = 5 := by decide
  have hcount : b.snapshots.length ≤ 3 := h.count.2
  have hid := h.id.1
  have hroot := hfits.1
  rw [manifestText, lines_append, List.length_append, length_lines, length_lines]
  simp only [List.map_cons, List.map_nil, List.sum_cons, List.sum_nil, List.length_append,
    length_hexEncode, hkeys, maxManifestBytes]
  omega

/-! ## 4. Creation -/

section

variable [Bcrypt]

/-- What `create` asks of a preview. -/
structure Accepted (preview : ConfigPreview) : Prop where
  root : preview.configRoot ≠ [] ∧ isAbsolute preview.configRoot = true
  count : preview.files ≠ [] ∧ preview.files.length ≤ maxSnapshotCount
  safe : SafeFileRecords preview.files

theorem Accepted.writable {preview : ConfigPreview} (h : Accepted preview)
    (hgeneric : generic preview.configRoot = preview.configRoot) : Writable (backupOf preview) where
  id := validHash_digestHex _
  root := ⟨h.root.1, hgeneric, h.root.2⟩
  files := by
    intro s hs
    obtain ⟨f, hf, rfl⟩ := List.mem_map.mp hs
    obtain ⟨hpath, hsize, hdesired⟩ := h.safe.1 f hf
    exact ⟨hpath, hsize, hdesired, validHash_digestHex _, validHash_digestHex _⟩
  count := ⟨by simpa [backupOf] using h.count.1, by simpa [backupOf] using h.count.2⟩
  distinct := by
    have hpaths : (backupOf preview).snapshots.map FileSnapshot.relativePath =
        preview.files.map PreviewFile.relativePath := by
      simp [backupOf, snapshotOf, Function.comp_def]
    rw [hpaths]
    exact h.safe.2

theorem plain_of_mem_backupOf (preview : ConfigPreview) :
    ∀ s ∈ (backupOf preview).snapshots, Plain s := by
  intro s hs
  obtain ⟨f, -, rfl⟩ := List.mem_map.mp hs
  exact plain_snapshotOf f

/-- **Creation leaves the manifest behind** that the backup is read from. -/
theorem wpTask_create {A : Turn Path Bytes → Prop} (hA : Outside A) (preview : ConfigPreview)
    (w : StoreWorld) :
    wpTask A (create preview)
      (fun b v => b = backupOf preview ∧ Accepted preview ∧
        v.disk (.manifest b.id) = some (manifestText b))
      (fun _ _ => True) (fun _ => True) w := by
  let T : StoreWorld → Prop := fun _ => True
  let p : Op Path Bytes → Prop := fun _ => True
  have hT : ∀ {α : Type} {r : α → Prop} {x : StoreTask α} {v : StoreWorld}, OnlyTask p r x →
      wpTask A x (fun a v' => T v' ∧ r a) (fun _ => T) T v := fun hx =>
    wpTask_of_only hx (fun _ _ _ _ => trivial) (fun _ _ _ _ => trivial) trivial
  have hp : ∀ op : Op Path Bytes, (op.readsIn fun _ => True) → p op := fun _ _ => trivial
  unfold create
  refine wpTask_ensure (fun _ => trivial) fun hscope => ?_
  refine wpTask_ensure (fun _ => trivial) fun hsafe => ?_
  obtain ⟨hne, habsolute, hfiles, hcount⟩ := hscope
  rw [wpTask_bind]
  refine wpTask_mono (hT (onlyTask_createDirectories hp)) ?_ (fun _ _ h => h) fun _ h => h
  intro _ v _
  rw [wpTask_bind]
  refine wpTask_mono (hT (onlyTask_collect fun f hf => (onlyTask_saveObject hf).mono
    (fun _ _ => trivial) fun _ h => h)) ?_ (fun _ _ h => h) fun _ h => h
  rintro snapshots v ⟨-, rfl⟩
  rw [wpTask_bind]
  refine wpTask_mono (hT (onlyTask_sha256Hex hp _)) ?_ (fun _ _ h => h) fun _ h => h
  rintro id v ⟨-, rfl⟩
  rw [wpTask_bind]
  refine wpTask_atomicReplace (I := T) (fun _ _ _ _ => trivial) (fun _ h => h) trivial ?_
    (fun _ _ _ _ => trivial) fun _ _ _ _ => trivial
  intro v _
  rw [wpTask_bind]
  -- from here on nobody writes the manifest
  let I : StoreWorld → Prop := fun v' =>
    v'.disk (.manifest (backupOf preview).id) = some (manifestText (backupOf preview))
  refine wpTask_atomicReplace (I := I) ?_ (fun _ _ => trivial) (World.disk_own_same _ _ _) ?_
    (fun _ _ _ _ => trivial) fun _ _ _ _ => trivial
  · intro turn v' hturn hv'
    have hother : ∀ o ∈ turn.others, Path.manifest (backupOf preview).id ≠ o.1 :=
      fun o ho heq => hA turn hturn o ho (heq ▸ Path.stored_manifest _)
    exact (World.disk_intrude_other _ hother).trans hv'
  · intro v' hv'
    rw [wpTask_pure]
    refine ⟨rfl, ⟨⟨hne, habsolute⟩, ⟨hfiles, hcount⟩, hsafe⟩, ?_⟩
    exact (World.disk_own_other _ _ (by simp)).trans hv'

/-! ## 5. Loading -/

theorem loads_backupOf {preview : ConfigPreview} {d : StoreDisk} (h : Accepted preview)
    (hgeneric : generic preview.configRoot = preview.configRoot)
    (hmanifest : d (.manifest (backupOf preview).id) = some (manifestText (backupOf preview))) :
    (RootFits preview.configRoot → Loads d (backupOf preview).id (backupOf preview)) ∧
      ((∃ b, Loads d (backupOf preview).id b) → RootFits preview.configRoot) := by
  have hwritable := h.writable hgeneric
  have hparse : parseManifest (backupOf preview).id (manifestText (backupOf preview)) =
      if RootFits preview.configRoot then .ok (backupOf preview)
      else .error (ioFailure "Backup root encoding is corrupt") := parseManifest_manifestText hwritable
  constructor
  · intro hfits
    rw [if_pos hfits] at hparse
    exact ⟨hwritable.id, ⟨_, hmanifest, length_manifestText_le hwritable hfits, hparse⟩, rfl⟩
  · rintro ⟨b, hloads⟩
    obtain ⟨text, htext, -, hb⟩ := hloads.manifest
    rw [hmanifest, Option.some.injEq] at htext
    subst htext
    by_contra hfits
    rw [hparse, if_neg hfits] at hb
    cases hb

/-- **One id, one identity**: whatever is loaded under the id of a preview has its root, its paths
and its hashes, in its order. -/
theorem Loads.identity_unique {preview : ConfigPreview} {d : StoreDisk} {b : BackupSet}
    (hb : Loads d (backupOf preview).id b)
    (hdigest : CollisionFree {identityMaterial preview.configRoot (preview.files.map snapshotOf),
      identityMaterial b.configRoot b.snapshots}) :
    b.configRoot = preview.configRoot ∧ b.snapshots.map (identityKey b.configRoot) =
      (preview.files.map snapshotOf).map (identityKey preview.configRoot) := by
  obtain ⟨text, -, -, hparse⟩ := hb.manifest
  obtain ⟨hne, hrecorded, -⟩ := parseManifest_files hparse
  have hmaterial : identityMaterial b.configRoot b.snapshots =
      identityMaterial preview.configRoot (preview.files.map snapshotOf) :=
    hdigest.eq (.inr rfl) (.inl rfl) hb.identity
  have hkeys : b.snapshots.map (identityKey b.configRoot) =
      (preview.files.map snapshotOf).map (identityKey preview.configRoot) :=
    identityMaterial_injective (fun s hs => (hrecorded s hs).plain) (plain_of_mem_backupOf preview)
      hmaterial
  refine ⟨?_, hkeys⟩
  obtain ⟨s, rest, hs⟩ := List.exists_cons_of_ne_nil hne
  rw [hs, List.map_cons] at hkeys
  cases hfiles : preview.files.map snapshotOf with
  | nil =>
    rw [hfiles] at hkeys
    cases hkeys
  | cons s' rest' =>
    rw [hfiles, List.map_cons] at hkeys
    exact congrArg Prod.fst (List.cons.inj hkeys).1

/-- **The manifest codec.**  Whatever becomes of the operations of `create` and whatever other
programs write to the configuration files, the backup that it returns has the root of the preview,
its paths in its order and the sizes and digests of its bytes, and it is the one that
`load_backup` reads under the returned id, if and only if a root record can hold the root.  What
is loaded under that id, from any store, has that root, these paths and these hashes, in that
order, and the manifest of a backup with another id is refused under it. -/
theorem create_loadBackup (root : Bytes) (files : List PreviewFile) (plan : List (Turn Path Bytes))
    (w : StoreWorld) (hothers : ∀ turn ∈ plan, ∀ o ∈ turn.others, ¬ o.1.stored) {b : BackupSet}
    (hrun : (run (create ⟨generic root, files⟩).run plan w).1 = some (.ok b)) :
    (b.configRoot = generic root ∧ b.snapshots = files.map snapshotOf) ∧
      (value (loadBackup b.id).run (run (create ⟨generic root, files⟩).run plan w).2.disk = .ok b ↔
        RootFits (generic root)) ∧
      ((∃ b', value (loadBackup b.id).run
        (run (create ⟨generic root, files⟩).run plan w).2.disk = .ok b') → RootFits (generic root)) ∧
      (∀ d b', value (loadBackup b.id).run d = .ok b' →
        CollisionFree {identityMaterial b.configRoot b.snapshots,
          identityMaterial b'.configRoot b'.snapshots} →
        b'.configRoot = b.configRoot ∧
          b'.snapshots.map (identityKey b'.configRoot) = b.snapshots.map (identityKey b.configRoot)) ∧
      ∀ (d : StoreDisk) (other : ConfigPreview), (backupOf other).id ≠ b.id →
        d (.manifest b.id) = some (manifestText (backupOf other)) →
        ∀ b', value (loadBackup b.id).run d ≠ .ok b' := by
  let A : Turn Path Bytes → Prop := fun turn => ∀ o ∈ turn.others, ¬ o.1.stored
  have hA : Outside A := fun _ h => h
  have hquiet : A {} := fun o ho => by cases ho
  have hsound := wp_sound (wpTask_create hA ⟨generic root, files⟩ w) hquiet hothers
  cases hout : run (create ⟨generic root, files⟩).run plan w with
  | mk outcome v =>
    rw [hout] at hsound hrun
    obtain rfl : outcome = some (.ok b) := hrun
    obtain ⟨rfl, haccepted, hmanifest⟩ := hsound
    obtain ⟨hfits, hloaded⟩ := loads_backupOf haccepted (generic_generic root) hmanifest
    have hloaded' : ∀ b', value (loadBackup (backupOf ⟨generic root, files⟩).id).run v.disk = .ok b' →
        RootFits (generic root) := fun b' hb' => hloaded ⟨b', value_loadBackup_eq_ok.mp hb'⟩
    refine ⟨⟨rfl, rfl⟩, ⟨hloaded' _, fun h => value_loadBackup_eq_ok.mpr (hfits h)⟩,
      fun ⟨b', hb'⟩ => hloaded' b' hb', ?_, ?_⟩
    · intro d b' hb' hdigest
      exact (value_loadBackup_eq_ok.mp hb').identity_unique hdigest
    · intro d other hne htext b' hb'
      obtain ⟨text, htext', -, hparse⟩ := (value_loadBackup_eq_ok.mp hb').manifest
      rw [htext, Option.some.injEq] at htext'
      subst htext'
      rw [parseManifest_other_id (validHash_digestHex _).2 (plain_of_mem_backupOf other) hne.symm]
        at hparse
      cases hparse

end

def engineFile : PreviewFile := ⟨ascii "KFEngine.ini", ascii "a", ascii "b"⟩

theorem create_loadBackup_engine :
    value (loadBackup (backupOf ⟨generic (ascii "C:\\Config"), [engineFile]⟩).id).run
      (run (create ⟨generic (ascii "C:\\Config"), [engineFile]⟩).run [] ⟨fun _ => none, []⟩).2.disk =
        .ok (backupOf ⟨generic (ascii "C:\\Config"), [engineFile]⟩) := by
  have hrun : (run (create ⟨generic (ascii "C:\\Config"), [engineFile]⟩).run []
      ⟨fun _ => none, []⟩).1 = some (.ok (backupOf ⟨generic (ascii "C:\\Config"), [engineFile]⟩)) := by
    rfl
  have hothers : ∀ turn ∈ ([] : List (Turn Path Bytes)), ∀ o ∈ turn.others, ¬ o.1.stored := by
    intro turn hturn
    cases hturn
  exact (create_loadBackup _ _ [] _ hothers hrun).2.1.mpr (by decide)

/-- A root with a zero in it: `create` returns a backup, and `load_backup` refuses its manifest. -/
theorem create_root_with_zero_refused :
    (run (create ⟨ascii "C:/" ++ [0], [engineFile]⟩).run [] ⟨fun _ => none, []⟩).1 =
        some (.ok (backupOf ⟨ascii "C:/" ++ [0], [engineFile]⟩)) ∧
      ∀ b, value (loadBackup (backupOf ⟨ascii "C:/" ++ [0], [engineFile]⟩).id).run
        (run (create ⟨ascii "C:/" ++ [0], [engineFile]⟩).run [] ⟨fun _ => none, []⟩).2.disk ≠ .ok b := by
  have haccepted : Accepted ⟨ascii "C:/" ++ [0], [engineFile]⟩ :=
    ⟨by decide, by decide, by decide⟩
  have hmanifest : (run (create ⟨ascii "C:/" ++ [0], [engineFile]⟩).run [] ⟨fun _ => none, []⟩).2.disk
      (.manifest (backupOf ⟨ascii "C:/" ++ [0], [engineFile]⟩).id) =
        some (manifestText (backupOf ⟨ascii "C:/" ++ [0], [engineFile]⟩)) := by
    decide +kernel
  refine ⟨rfl, fun b hb => ?_⟩
  have hfits : RootFits (ascii "C:/" ++ [0]) :=
    (loads_backupOf haccepted (by decide) hmanifest).2 ⟨b, value_loadBackup_eq_ok.mp hb⟩
  exact absurd hfits (by decide)

end Kf2Optimizer.Backup
