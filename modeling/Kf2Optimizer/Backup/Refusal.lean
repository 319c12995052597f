/-
# When recovery refuses

Recovery goes through the files of a transaction one after the other: each is compared with its two
digests, and rolled back, before the next is looked at.  So when it comes to a file that holds
neither, the files before it have been rolled back, and those from it on are as they were
(`recoverTransactions_refusal`).  `refused_half_rolled_back` is a run that leaves a half rolled
back set behind.
-/
import Kf2Optimizer.Config.ApplyErrors
import Kf2Optimizer.Backup.ManifestCodec

namespace Kf2Optimizer.Backup

open Text Files Security Platform Config

/-! ## 1. The error -/

/-- What recovery says of a file that holds neither the original nor the desired bytes. -/
def conflictError : Error := { code := .staleData, message := "Recovery target has conflicting changes" }

/-- Any error but that one. -/
def Otherwise (e : Error) : Prop := e ≠ conflictError

instance (e : Error) : Decidable (Otherwise e) := inferInstanceAs (Decidable (_ ≠ _))

theorem otherwise_of_code {e : Error} (h : e.code ≠ .staleData) : Otherwise e :=
  fun heq => h (heq ▸ rfl)

section

variable {volume : Volume} {root relativePath : Bytes}

theorem throws_readBounded (p : Path) (maximum : ℕ) : Throws Otherwise (readBounded p maximum) := by
  refine throws_perform fun answer => ?_
  cases answer with
  | content bytes =>
    refine throws_liftExcept fun e he => ?_
    unfold bounded at he
    split at he
    · cases he
    · cases he
      decide
  | _ => exact throws_throw (by decide)

theorem throws_atomicReplace (p : Path) (bytes : Bytes) :
    Throws Otherwise (atomicReplace p bytes) := by
  refine throws_perform fun answer => ?_
  cases answer with
  | done => exact throws_pure ()
  | _ => exact throws_throw (by decide)

theorem throws_readTarget : Throws Otherwise (readTarget volume root relativePath) := by
  unfold readTarget
  split
  · exact throws_readBounded _ _
  · exact throws_throw (by decide)

theorem throws_safeTarget : Throws Otherwise (safeTarget volume root relativePath) := by
  unfold safeTarget
  split
  · refine throws_perform fun answer => ?_
    cases answer <;> exact throws_pure _
  · exact throws_pure _

theorem throws_currentBytes : Throws Otherwise (currentBytes volume root relativePath) := by
  unfold currentBytes
  refine throws_safeTarget.bind fun _ => ?_
  exact (throws_ensure (by decide)).bind fun _ => throws_readTarget

theorem onlyTask_currentBytes : OnlyTask (fun o : Op Path Bytes => o.readsIn fun _ => True)
    (fun _ => True) (currentBytes volume root relativePath) := by
  unfold currentBytes
  refine (onlyTask_safeTarget (fun _ h => h) _ _).bind fun _ _ => ?_
  exact (onlyTask_ensure _ _).bind fun _ _ => onlyTask_readTarget (fun _ h => h) _ _

theorem throws_replaceTarget {expected bytes : Bytes} :
    Throws Otherwise (replaceTarget volume root relativePath expected bytes) := by
  unfold replaceTarget
  split
  · refine throws_perform fun answer => ?_
    cases answer with
    | done => exact throws_pure ()
    | _ => exact throws_throw (by decide)
  · exact throws_throw (by decide)

theorem throws_rollBackFile {current : Bytes} (s : FileSnapshot) :
    Throws Otherwise (rollBackFile volume root s current) := by
  unfold rollBackFile
  refine (throws_readBounded _ _).bind fun _ => throws_replaceTarget.bind fun _ => ?_
  refine (throws_readTarget.adapt fun e _ => ?_).bind fun _ => throws_ensure (by decide)
  exact otherwise_of_code fun h => by cases h

theorem throws_inspect {e : Error} (h : Otherwise e) : Throws Otherwise (inspect e) := by
  refine throws_perform fun answer => ?_
  cases answer with
  | done => exact throws_pure ()
  | _ => exact throws_throw h

theorem onlyTask_inspect (e : Error) :
    OnlyTask (fun o : Op Path Bytes => o.readsIn fun _ => True) (fun _ => True) (inspect e) := by
  refine onlyTask_perform trivial fun answer => ?_
  cases answer with
  | done => exact onlyTask_pure trivial
  | _ => exact onlyTask_throw _

theorem throws_entries (directory : List Path) (kind : Path → Bool) {e : Error} (h : Otherwise e) :
    Throws Otherwise (entries directory kind e) := by
  refine throws_perform fun answer => ?_
  cases answer with
  | names l => exact throws_pure l
  | _ => exact throws_throw h

theorem throws_sameExistingDirectory (left right : Bytes) :
    Throws Otherwise (sameExistingDirectory volume left right) := by
  refine throws_perform fun answer => ?_
  cases answer <;> exact throws_pure _

/-- A journal that cannot be read or moved away. -/
theorem throws_readJournal (entry : Path) : Throws Otherwise (readJournal entry) := by
  have hquarantine : ∀ e : Error, Throws Otherwise (quarantineJournal entry e) := by
    intro journalError
    have hremove : Throws (fun e : Error => e.code ≠ .staleData) (quarantineRegularFile entry) := by
      refine throws_perform fun answer => ?_
      cases answer with
      | done => exact throws_pure ()
      | _ => exact throws_throw (by decide)
    refine (hremove.adapt fun e he => ?_).bind fun _ => throws_pure none
    exact otherwise_of_code he
  unfold readJournal
  refine throws_attempt_bind (throws_readBounded _ _) (fun bytes => ?_) fun e he => ?_
  · simp only
    split
    · exact throws_pure _
    · exact hquarantine _
  · simp only
    split
    · exact hquarantine _
    · exact throws_throw he

end

/-- A manifest or an object. -/
def Path.record : Path → Prop
  | .manifest _ => True
  | .object _ => True
  | _ => False

theorem Path.record.stored {p : Path} (h : p.record) : p.stored := by
  cases p with
  | target _ _ => exact h
  | _ => trivial

/-- A manifest that cannot be read is no conflict. -/
theorem otherwise_of_parseManifest {id text : Bytes} {e : Error}
    (h : parseManifest id text = .error e) : Otherwise e := by
  have hroot : ∀ (m : ManifestState) value, m.root value = .error e → Otherwise e := by
    intro m value hvalue
    unfold ManifestState.root at hvalue
    split at hvalue
    · cases hvalue
      decide
    · split at hvalue
      · cases hvalue
        decide
      · split at hvalue
        · cases hvalue
          decide
        · split at hvalue
          · cases hvalue
          · cases hvalue
            decide
  have hfile : ∀ (m : ManifestState) value, m.file value = .error e → Otherwise e := by
    intro m value hvalue
    unfold ManifestState.file at hvalue
    split at hvalue
    · cases hvalue
      decide
    · split at hvalue
      · split at hvalue
        · cases hvalue
          decide
        · split at hvalue
          · cases hvalue
            decide
          · split at hvalue
            · cases hvalue
              decide
            · split at hvalue
              · split at hvalue
                · cases hvalue
                  decide
                · cases hvalue
              · cases hvalue
                decide
      · cases hvalue
        decide
  have hline : ∀ (m : ManifestState) line, m.line id line = .error e → Otherwise e := by
    intro m line hvalue
    unfold ManifestState.line at hvalue
    split at hvalue
    · cases hvalue
    · split at hvalue
      · cases hvalue
      · split at hvalue
        · exact hroot _ _ hvalue
        · exact hfile _ _ hvalue
        · split at hvalue
          · cases hvalue
          · cases hvalue
            decide
  have hlines : ∀ (l : List Bytes) (m : ManifestState),
      l.foldlM (ManifestState.line id) m = .error e → Otherwise e := by
    intro l
    induction l with
    | nil => exact fun m hvalue => by cases hvalue
    | cons line l ih =>
      intro m hvalue
      rw [List.foldlM_cons] at hvalue
      cases hnext : m.line id line with
      | error e' =>
        rw [hnext] at hvalue
        cases hvalue
        exact hline m line hnext
      | ok next =>
        rw [hnext] at hvalue
        exact ih next hvalue
  unfold parseManifest at h
  split at h
  · cases h
    decide
  · cases hm : (records text).foldlM (ManifestState.line id) ({} : ManifestState) with
    | error e' =>
      rw [hm] at h
      cases h
      exact hlines _ _ hm
    | ok m =>
      rw [hm] at h
      change (if _ then _ else _) = _ at h
      split at h
      · cases h
      · cases h
        decide

section

variable [Bcrypt]

theorem throws_sha256Hex (bytes : Bytes) :
    Throws Otherwise (sha256Hex bytes : StoreTask Bytes) := by
  refine throws_perform fun answer => ?_
  cases answer with
  | done => exact throws_pure _
  | _ => exact throws_throw (by decide)

theorem throws_loadBackup (id : Bytes) : Throws Otherwise (loadBackup id) := by
  let E : LoadError → Prop := fun e => Otherwise e.error
  have hadapt : ∀ {α : Type} {x : StoreTask α} (failure : LoadFailure), Throws Otherwise x →
      Throws E (x.adapt (LoadError.mk failure)) := fun _ hx => hx.adapt fun _ h => h
  have hparse : ∀ text, Throws Otherwise (liftExcept (parseManifest id text) : StoreTask BackupSet) :=
    fun _ => throws_liftExcept fun _ he => otherwise_of_parseManifest he
  have hcorrupt : E ⟨.corrupt, { code := .invalidArgument, message := "Backup identifier is invalid" }⟩ :=
    otherwise_of_code (by decide)
  have hidentity : E ⟨.corrupt, ioFailure "Backup manifest identity does not match its content"⟩ :=
    otherwise_of_code (by decide)
  have hload : Throws E (load id) := by
    unfold load
    refine (throws_ensure hcorrupt).bind fun _ => ?_
    refine (hadapt _ (throws_readBounded _ _)).bind fun text => ?_
    refine (hadapt _ (hparse text)).bind fun _ => ?_
    refine (hadapt _ (throws_sha256Hex _)).bind fun _ => ?_
    exact (throws_ensure hidentity).bind fun _ => throws_pure _
  exact hload.adapt fun _ h => h

theorem throws_verify (b : BackupSet) : Throws Otherwise (verify b) := by
  unfold verify
  refine (throws_loadBackup _).bind fun _ => ?_
  refine (throws_ensure (by decide)).bind fun _ => throws_forEach fun p _ => ?_
  unfold verifySnapshot
  refine (throws_ensure (by decide)).bind fun _ => ?_
  refine (throws_readBounded _ _).bind fun _ => ?_
  exact (throws_sha256Hex _).bind fun _ => throws_ensure (by decide)

/-! ## 2. One file -/

/-- The desired bytes of a file replaced by its original ones. -/
def RollsBack (volume : Volume) (b : BackupSet) (s : FileSnapshot) (p : Path)
    (old new : Option Bytes) : Prop :=
  volume.target b.configRoot s.relativePath = some p ∧
    old.map digestHex = some s.desiredSha256 ∧ new.map digestHex = some s.sha256

/-- Since the files were `d`, the files of `before` have been rolled back, and nothing else. -/
structure Rolling (volume : Volume) (d : StoreDisk) (b : BackupSet) (before : List FileSnapshot)
    (v : StoreWorld) : Prop where
  logged : Logged d v
  store : ∀ p, p.stored → v.disk p = d p
  own : ∀ p old new, .own p old new ∈ v.log → ∃ s ∈ before, RollsBack volume b s p old new
  restored : ∀ s ∈ before, ∃ p bytes, volume.target b.configRoot s.relativePath = some p ∧
    Seen d p bytes v.log ∧ digestHex bytes = s.sha256

/-- The file of the snapshot has been seen with other bytes than the original and the desired
ones. -/
def Foreign (volume : Volume) (d : StoreDisk) (b : BackupSet) (s : FileSnapshot)
    (v : StoreWorld) : Prop :=
  ∃ p bytes, volume.target b.configRoot s.relativePath = some p ∧ Seen d p bytes v.log ∧
    digestHex bytes ≠ s.sha256 ∧ digestHex bytes ≠ s.desiredSha256

/-- Since the files were `d`, files of the backup have been rolled back; journals apart, nothing
else has been done. -/
structure Touched (volume : Volume) (d : StoreDisk) (b : BackupSet) (v : StoreWorld) : Prop where
  logged : Logged d v
  records : ∀ p, p.record → v.disk p = d p
  own : ∀ p old new, .own p old new ∈ v.log → ¬ p.stored →
    ∃ s ∈ b.snapshots, RollsBack volume b s p old new

section

variable {volume : Volume} {d : StoreDisk} {b : BackupSet} {before : List FileSnapshot}
  {s : FileSnapshot} {v : StoreWorld}

theorem Rolling.touched (h : Rolling volume d b before v)
    (hbefore : ∀ s ∈ before, s ∈ b.snapshots) : Touched volume d b v where
  logged := h.logged
  records p hp := h.store p hp.stored
  own p old new hmem _ := by
    obtain ⟨s, hs, hrolls⟩ := h.own p old new hmem
    exact ⟨s, hbefore s hs, hrolls⟩

theorem Rolling.intrude (h : Rolling volume d b before v) {others : List (Path × Option Bytes)}
    (hothers : ∀ o ∈ others, ¬ o.1.stored) : Rolling volume d b before (v.intrude others) where
  logged := h.logged.intrude others
  store p hp := by
    rw [World.disk_intrude_other _ fun o ho heq => hothers o ho (heq ▸ hp)]
    exact h.store p hp
  own p old new hmem := h.own p old new (mem_intrude_own hmem)
  restored s hs := by
    obtain ⟨p, bytes, hp, hseen, hdigest⟩ := h.restored s hs
    exact ⟨p, bytes, hp, hseen.intrude others, hdigest⟩

theorem Foreign.intrude (h : Foreign volume d b s v) (others : List (Path × Option Bytes)) :
    Foreign volume d b s (v.intrude others) := by
  obtain ⟨p, bytes, hp, hseen, hdigest⟩ := h
  exact ⟨p, bytes, hp, hseen.intrude others, hdigest⟩

theorem Touched.intrude (h : Touched volume d b v) {others : List (Path × Option Bytes)}
    (hothers : ∀ o ∈ others, ¬ o.1.stored) : Touched volume d b (v.intrude others) where
  logged := h.logged.intrude others
  records p hp := by
    rw [World.disk_intrude_other _ fun o ho heq => hothers o ho (heq ▸ hp.stored)]
    exact h.records p hp
  own p old new hmem := h.own p old new (mem_intrude_own hmem)

/-- The file of one more snapshot is seen with its original bytes. -/
theorem Rolling.pass (h : Rolling volume d b before v) {p : Path} {bytes : Bytes}
    (hp : volume.target b.configRoot s.relativePath = some p) (hseen : Seen d p bytes v.log)
    (hdigest : digestHex bytes = s.sha256) : Rolling volume d b (before ++ [s]) v where
  logged := h.logged
  store := h.store
  own q old new hmem := by
    obtain ⟨s', hs', hrolls⟩ := h.own q old new hmem
    exact ⟨s', List.mem_append_left _ hs', hrolls⟩
  restored s' hs' := by
    rcases List.mem_append.mp hs' with hold | hnew
    · exact h.restored s' hold
    · rw [List.mem_singleton.mp hnew]
      exact ⟨p, bytes, hp, hseen, hdigest⟩

/-- The file of one more snapshot is rolled back. -/
theorem Rolling.rollBack (h : Rolling volume d b before v)
    (hfresh : s.relativePath ∉ before.map FileSnapshot.relativePath) {p : Path}
    {current original : Bytes} (hp : volume.target b.configRoot s.relativePath = some p)
    (hdisk : v.disk p = some current) (hcurrent : digestHex current = s.desiredSha256)
    (horiginal : digestHex original = s.sha256) :
    Rolling volume d b (before ++ [s]) (v.own p (some original)) where
  logged := congrArg (Disk.set · _ _) h.logged
  store q hq := by
    have hne : q ≠ p := fun heq => not_stored_target hp (heq ▸ hq)
    rw [World.disk_own_other _ _ hne]
    exact h.store q hq
  own q old new hmem := by
    rcases List.mem_cons.mp hmem with heq | hmem
    · cases heq
      refine ⟨s, List.mem_append_right _ (List.mem_singleton_self s), hp, ?_, ?_⟩
      · rw [hdisk, Option.map_some, hcurrent]
      · rw [Option.map_some, horiginal]
    · obtain ⟨s', hs', hrolls⟩ := h.own q old new hmem
      exact ⟨s', List.mem_append_left _ hs', hrolls⟩
  restored s' hs' := by
    rcases List.mem_append.mp hs' with hold | hnew
    · obtain ⟨q, bytes, hq, hseen, hdigest⟩ := h.restored s' hold
      have hne : p ≠ q := fun heq =>
        hfresh (List.mem_map.mpr ⟨s', hold, target_injective (heq ▸ hq) hp⟩)
      exact ⟨q, bytes, hq, hseen.own hne _, hdigest⟩
    · rw [List.mem_singleton.mp hnew]
      exact ⟨p, original, hp, (if_pos rfl).mpr rfl, horiginal⟩

end

section

variable {A : Turn Path Bytes → Prop} (hA : Outside A) {volume : Volume} {d : StoreDisk}
  {b : BackupSet} {before after : List FileSnapshot} {s : FileSnapshot} {w : StoreWorld}
  (hb : b.snapshots = before ++ s :: after)
  (hnodup : (b.snapshots.map FileSnapshot.relativePath).Nodup)
include hA hb hnodup

/-- **A file is rolled back**, or at least not touched otherwise. -/
theorem wpTask_rollBackFile (hholds : Holds d s) (hw : Rolling volume d b before w) {current : Bytes}
    (hcurrent : digestHex current = s.desiredSha256) :
    wpTask A (rollBackFile volume b.configRoot s current)
      (fun _ => Rolling volume d b (before ++ [s])) (fun _ => Touched volume d b)
      (Touched volume d b) w := by
  have hmem : ∀ s' ∈ before ++ [s], s' ∈ b.snapshots := by
    intro s' hs'
    rw [hb]
    rcases List.mem_append.mp hs' with h | h
    · exact List.mem_append_left _ h
    · exact List.mem_append_right _ (List.mem_singleton.mp h ▸ List.mem_cons_self)
  have hfresh : s.relativePath ∉ before.map FileSnapshot.relativePath := by
    intro h
    rw [hb, List.map_append, List.map_cons] at hnodup
    exact (List.nodup_append.mp hnodup).2.2 _ h _ List.mem_cons_self rfl
  have hstable : ∀ (l : List FileSnapshot) turn v, A turn → Rolling volume d b l v →
      Rolling volume d b l (v.intrude turn.others) := fun l turn v hturn h => h.intrude (hA turn hturn)
  have hbefore : ∀ v, Rolling volume d b before v → Touched volume d b v := fun v h =>
    h.touched fun s' hs' => hmem s' (List.mem_append_left _ hs')
  have hrolled : ∀ v, Rolling volume d b (before ++ [s]) v → Touched volume d b v := fun v h =>
    h.touched hmem
  obtain ⟨bytes, hbytes, -, -, hdigest⟩ := hholds
  unfold rollBackFile
  rw [wpTask_bind]
  refine wpTask_readBounded (hstable before) hbefore hw ?_ fun _ v hv _ => hbefore v hv
  intro original v hv hdisk _
  have horiginal : original = bytes := by
    rw [hv.store _ (Path.stored_object _), hbytes] at hdisk
    exact (Option.some.inj hdisk).symm
  rw [wpTask_bind, replaceTarget]
  split
  · rename_i p hp
    have hown : ∀ v, Rolling volume d b before v → v.disk p = some current →
        Rolling volume d b (before ++ [s]) (v.own p (some original)) := fun v hv hcur =>
      hv.rollBack hfresh hp hcur hcurrent (horiginal ▸ hdigest)
    refine wpTask_atomicReplaceIfUnchanged (hstable before) hbefore hv ?_
      (fun _ v hv _ => hbefore v hv) fun _ _ v hv hcur => hrolled _ (hown v hv hcur)
    intro v hv hcur
    rw [wpTask_bind, wpTask_adapt]
    refine wpTask_readTarget (hstable (before ++ [s])) hrolled (hown v hv hcur) ?_
      fun _ v hv => hrolled v hv
    intro readback v _ hv _ _
    unfold ensure
    split
    · exact hv
    · exact hrolled v hv
  · exact hbefore v hv

/-- **A round of the loop.**  A file that holds neither its original nor its desired bytes is left
alone, and so are those behind it. -/
theorem wpTask_recoverFile (hholds : Holds d s) (hw : Rolling volume d b before w) :
    wpTask A (recoverFile volume b.configRoot .replacementStarted s)
      (fun _ => Rolling volume d b (before ++ [s]))
      (fun e v => Touched volume d b v ∧
        (e = conflictError → Rolling volume d b before v ∧ Foreign volume d b s v))
      (Touched volume d b) w := by
  have htouched : ∀ v, Rolling volume d b before v → Touched volume d b v := fun v h =>
    h.touched fun s' hs' => hb ▸ List.mem_append_left _ hs'
  have hother : ∀ (e : Error) v, Touched volume d b v ∧ Otherwise e → Touched volume d b v ∧
      (e = conflictError → Rolling volume d b before v ∧ Foreign volume d b s v) :=
    fun e v h => ⟨h.1, fun heq => absurd heq h.2⟩
  have hstable : ∀ turn v, A turn → Rolling volume d b before v →
      Rolling volume d b before (v.intrude turn.others) := fun turn v hturn h =>
    h.intrude (hA turn hturn)
  unfold recoverFile
  refine wpTask_ensure (fun _ => hother _ _ ⟨htouched w hw, by decide⟩) fun _ => ?_
  rw [wpTask_bind]
  -- the file as it is read
  have hread : wpTask A (currentBytes volume b.configRoot s.relativePath)
      (fun bytes v => Rolling volume d b before v ∧ ∃ p,
        volume.target b.configRoot s.relativePath = some p ∧ Seen d p bytes v.log)
      (fun _ => Touched volume d b) (Touched volume d b) w := by
    unfold currentBytes
    rw [wpTask_bind]
    refine wpTask_mono (wpTask_of_reads (onlyTask_safeTarget (fun _ h => h) _ _) hstable hw) ?_
      (fun _ v h => htouched v h) htouched
    rintro safe v ⟨hv, -⟩
    refine wpTask_ensure (fun _ => htouched v hv) fun _ => ?_
    exact wpTask_readTarget hstable htouched hv
      (fun bytes v p hv hp hdisk => ⟨hv, p, hp, seen_of_disk hv.logged hdisk⟩)
      fun _ v hv => htouched v hv
  refine wpTask_mono (throws_currentBytes.wpTask hread) ?_ hother fun _ h => h
  rintro current v ⟨hv, p, hp, hseen⟩
  rw [wpTask_bind]
  let I : StoreWorld → Prop := fun v => Rolling volume d b before v ∧ Seen d p current v.log
  have hdigest := wpTask_of_reads (I := I) (R := fun _ => True) (w := v)
    (onlyTask_sha256Hex (fun _ h => h) current)
    (fun turn v hturn h => ⟨hstable turn v hturn h.1, h.2.intrude turn.others⟩) ⟨hv, hseen⟩
  refine wpTask_mono ((throws_sha256Hex current).wpTask hdigest) ?_
    (fun e v h => hother e v ⟨htouched v h.1.1, h.2⟩) fun v h => htouched v h.1
  rintro digest v ⟨⟨hv, hseen⟩, rfl⟩
  rw [if_neg (by decide)]
  refine wpTask_ensure (fun hneither => ?_) fun heither => ?_
  · obtain ⟨horiginal, hdesired⟩ := not_or.mp hneither
    exact ⟨htouched v hv, fun _ => ⟨hv, p, current, hp, hseen, horiginal, hdesired⟩⟩
  · by_cases hdesired : digestHex current = s.desiredSha256
    · rw [if_pos hdesired]
      exact wpTask_mono ((throws_rollBackFile s).wpTask
        (wpTask_rollBackFile hA hb hnodup hholds hv hdesired)) (fun _ _ h => h) hother fun _ h => h
    · rw [if_neg hdesired]
      exact hv.pass hp hseen (heither.resolve_right hdesired)

end

/-! ## 3. One transaction -/

/-- Since the files were `d`, recovery has come to a file of the transaction that holds neither its
original nor its desired bytes: the files before it have been rolled back, and nothing else has
been done. -/
def Refused (volume : Volume) (d : StoreDisk) (id : Bytes) (v : StoreWorld) : Prop :=
  ∃ b before s after, Loads d id b ∧ b.snapshots = before ++ s :: after ∧
    Rolling volume d b before v ∧ Foreign volume d b s v

/-- What recovery has done to the files since they were `d`: files of transactions whose manifest
loads have been rolled back; journals apart, nothing else. -/
structure After (volume : Volume) (d : StoreDisk) (v : StoreWorld) : Prop where
  logged : Logged d v
  records : ∀ p, p.record → v.disk p = d p
  own : ∀ p old new, .own p old new ∈ v.log → ¬ p.stored →
    ∃ id b s, Loads d id b ∧ s ∈ b.snapshots ∧ RollsBack volume b s p old new

section

variable {A : Turn Path Bytes → Prop} {volume : Volume} {d : StoreDisk} {id : Bytes}
  {b : BackupSet} {w : StoreWorld}

theorem Touched.after (h : Touched volume d b w) (hb : Loads d id b) : After volume d w where
  logged := h.logged
  records := h.records
  own p old new hmem hp := by
    obtain ⟨s, hs, hrolls⟩ := h.own p old new hmem hp
    exact ⟨id, b, s, hb, hs, hrolls⟩

theorem after_start (volume : Volume) (d : StoreDisk) : After volume d ⟨d, []⟩ where
  logged := logged_start d
  records _ _ := rfl
  own _ _ _ hmem := by cases hmem

theorem After.intrude (h : After volume d w) {others : List (Path × Option Bytes)}
    (hothers : ∀ o ∈ others, ¬ o.1.stored) : After volume d (w.intrude others) where
  logged := h.logged.intrude others
  records p hp := by
    rw [World.disk_intrude_other _ fun o ho heq => hothers o ho (heq ▸ hp.stored)]
    exact h.records p hp
  own p old new hmem := h.own p old new (mem_intrude_own hmem)

/-- A journal is written or moved away. -/
theorem After.journal (h : After volume d w) (id : Bytes) (new : Option Bytes) :
    After volume d (w.own (.journal id) new) where
  logged := congrArg (Disk.set · _ _) h.logged
  records p hp := by
    have hne : p ≠ .journal id := fun heq => by
      rw [heq] at hp
      exact hp
    rw [World.disk_own_other _ _ hne]
    exact h.records p hp
  own p old new' hmem hp := by
    rcases List.mem_cons.mp hmem with heq | hmem
    · cases heq
      exact absurd (Path.stored_journal id) hp
    · exact h.own p old new' hmem hp

theorem After.loads (h : After volume d w) : Loads w.disk id b ↔ Loads d id b :=
  ⟨fun hb => hb.congr (h.records (.manifest id) trivial).symm,
    fun hb => hb.congr (h.records (.manifest id) trivial)⟩

variable (hA : Outside A)
include hA

theorem wpTask_writeJournal_complete (hw : After volume d w) :
    wpTask A (writeJournal b .complete) (fun _ => After volume d)
      (fun e v => After volume d v ∧ Otherwise e) (After volume d) w := by
  have hwrite : wpTask A (writeJournal b .complete) (fun _ => After volume d)
      (fun _ => After volume d) (After volume d) w :=
    wpTask_atomicReplace (fun turn v hturn h => h.intrude (hA turn hturn)) (fun _ h => h) hw
      (fun v hv => hv.journal _ _) (fun _ _ _ hv => hv) fun _ _ v hv => hv.journal _ _
  exact (throws_atomicReplace _ _).wpTask hwrite

/-- **The files of a transaction.** -/
theorem wpTask_recoverFiles (hb : Loads d id b) (hver : Verifies d b)
    (hw : Rolling volume d b [] w) (state : JournalState) (result : RecoveryResult) :
    wpTask A (recoverFiles volume b state result) (fun _ => After volume d)
      (fun e v => After volume d v ∧ (e = conflictError →
        state ≠ .verificationComplete ∧ Refused volume d id v)) (After volume d) w := by
  obtain ⟨text, -, -, hparse⟩ := hb.manifest
  obtain ⟨-, -, hnodup⟩ := parseManifest_files hparse
  have hdone : ∀ v, Touched volume d b v → wpTask A (do
      writeJournal b .complete
      pure (result.add state)) (fun _ => After volume d)
      (fun e v => After volume d v ∧ (e = conflictError →
        state ≠ .verificationComplete ∧ Refused volume d id v)) (After volume d) v := by
    intro v hv
    rw [wpTask_bind]
    exact wpTask_mono (wpTask_writeJournal_complete hA (hv.after hb)) (fun _ _ h => h)
      (fun e v h => ⟨h.1, fun heq => absurd heq h.2⟩) fun _ h => h
  unfold recoverFiles
  rw [wpTask_bind]
  by_cases hstate : state = .verificationComplete
  · subst hstate
    -- the files are compared only
    have hround : ∀ s, OnlyTask (fun o : Op Path Bytes => o.readsIn fun _ => True) (fun _ => True)
        (recoverFile volume b.configRoot .verificationComplete s) := by
      intro s
      unfold recoverFile
      refine (onlyTask_ensure _ _).bind fun _ _ => onlyTask_currentBytes.bind fun _ _ => ?_
      refine (onlyTask_sha256Hex (fun _ h => h) _).bind fun _ _ => ?_
      rw [if_pos rfl]
      exact (onlyTask_ensure _ _).mono (fun _ h => h) fun _ _ => trivial
    have hthrows : ∀ s, Throws Otherwise (recoverFile volume b.configRoot .verificationComplete s) := by
      intro s
      unfold recoverFile
      refine (throws_ensure (by decide)).bind fun _ => throws_currentBytes.bind fun _ => ?_
      refine (throws_sha256Hex _).bind fun _ => ?_
      rw [if_pos rfl]
      exact throws_ensure (by decide)
    have hloop := wpTask_of_reads (I := Rolling volume d b []) (w := w)
      (onlyTask_forEach (l := b.snapshots) fun s _ => hround s)
      (fun turn v hturn h => h.intrude (hA turn hturn)) hw
    have hnone : ∀ v, Rolling volume d b [] v → Touched volume d b v := fun v h =>
      h.touched fun s hs => by cases hs
    exact wpTask_mono ((throws_forEach fun s _ => hthrows s).wpTask hloop)
      (fun _ v h => hdone v (hnone v h.1))
      (fun e v h => ⟨(hnone v h.1).after hb, fun heq => absurd heq h.2⟩)
      fun v h => (hnone v h).after hb
  · refine wpTask_forEach (I := Rolling volume d b) ?_ (fun v hv => hdone v (hv.touched fun _ h => h)) hw
    intro before s after v hsplit hv
    have hmem : s ∈ b.snapshots := by
      rw [hsplit]
      exact List.mem_append_right _ List.mem_cons_self
    have hround : recoverFile volume b.configRoot state s =
        recoverFile volume b.configRoot .replacementStarted s := by
      unfold recoverFile
      simp [hstate]
    rw [hround]
    refine wpTask_mono (wpTask_recoverFile hA hsplit hnodup (hver.objects s hmem) hv) (fun _ _ h => h) ?_
      fun v h => h.after hb
    rintro e v ⟨hv, hconflict⟩
    refine ⟨hv.after hb, fun heq => ⟨hstate, ?_⟩⟩
    obtain ⟨hrolling, hforeign⟩ := hconflict heq
    exact ⟨b, before, s, after, hb, hsplit, hrolling, hforeign⟩

/-- **A journal that is valid.** -/
theorem wpTask_recoverJournal (expectedConfigRoot : Option Bytes) (journal : RecoveryJournal)
    (result : RecoveryResult) :
    wpTask A (recoverJournal volume expectedConfigRoot journal result) (fun _ => After volume d)
      (fun e v => After volume d v ∧ (e = conflictError →
        journal.state = .replacementStarted ∧ Refused volume d journal.id v)) (After volume d)
      ⟨d, []⟩ := by
  let bad : Error → StoreWorld → Prop := fun e v => After volume d v ∧ (e = conflictError →
    journal.state = .replacementStarted ∧ Refused volume d journal.id v)
  let I : StoreWorld → Prop := fun v => Logged d v ∧ (∀ p, p.stored → v.disk p = d p) ∧
    ∀ p old new, .own p old new ∉ v.log
  have hstable : ∀ turn v, A turn → I v → I (v.intrude turn.others) := by
    rintro turn v hturn ⟨hlogged, hstore, hown⟩
    refine ⟨hlogged.intrude _, fun p hp => ?_, fun p old new hmem => hown p old new (mem_intrude_own hmem)⟩
    rw [World.disk_intrude_other _ fun o ho heq => hA turn hturn o ho (heq ▸ hp)]
    exact hstore p hp
  have hafter : ∀ v, I v → After volume d v := fun v h =>
    ⟨h.1, fun p hp => h.2.1 p hp.stored, fun p old new hmem => absurd hmem (h.2.2 p old new)⟩
  have hother : ∀ (e : Error) v, I v ∧ Otherwise e → bad e v := fun e v h =>
    ⟨hafter v h.1, fun heq => absurd heq h.2⟩
  have hstart : I ⟨d, []⟩ := ⟨logged_start d, fun _ _ => rfl, fun _ _ _ hmem => by cases hmem⟩
  have houtside : ∀ turn, A turn → ∀ o ∈ turn.others, ¬ Path.stored o.1 := fun turn hturn =>
    hA turn hturn
  unfold recoverJournal
  rw [wpTask_bind]
  refine wpTask_mono ((throws_loadBackup journal.id).wpTask
    (wpTask_of_careful (careful_loadBackup _) hstable houtside (fun _ h => h) hstart)) ?_
    (fun e v h => hother e v ⟨h.1.1, h.2⟩) hafter
  rintro b v ⟨hv, hload⟩
  have hb : Loads d journal.id b := value_loadBackup_eq_ok.mp hload
  by_cases hcomplete : journal.state = .complete
  · rw [if_pos hcomplete]
    exact hafter v hv
  rw [if_neg hcomplete]
  cases expectedConfigRoot with
  | none => exact hother _ v ⟨hv, by decide⟩
  | some root =>
    rw [wpTask_bind]
    have hsame : OnlyTask (fun o : Op Path Bytes => o.readsIn fun _ => True) (fun _ => True)
        (sameExistingDirectory volume b.configRoot root) := by
      refine onlyTask_perform trivial fun answer => ?_
      cases answer <;> exact onlyTask_pure trivial
    refine wpTask_mono ((throws_sameExistingDirectory _ _).wpTask (wpTask_of_reads hsame hstable hv)) ?_
      hother hafter
    rintro same v ⟨hv, -⟩
    refine wpTask_ensure (fun _ => hother _ v ⟨hv, by decide⟩) fun _ => ?_
    rw [wpTask_bind]
    refine wpTask_mono ((throws_verify b).wpTask
      (wpTask_of_careful (careful_verify _) hstable houtside (fun _ h => h) hv)) ?_
      (fun e v h => hother e v ⟨h.1.1, h.2⟩) hafter
    rintro _ v' ⟨hv', hverified⟩
    have hver : Verifies d b := (value_verify_eq_ok.mp hverified).congr
      (hv.2.1 _ (Path.stored_manifest _)).symm fun s _ => (hv.2.1 _ (Path.stored_object _)).symm
    by_cases hbackup : journal.state = .backupComplete
    · rw [if_pos hbackup, wpTask_bind]
      exact wpTask_mono (wpTask_writeJournal_complete hA (hafter v' hv')) (fun _ _ h => h)
        (fun e v h => ⟨h.1, fun heq => absurd heq h.2⟩) fun _ h => h
    · rw [if_neg hbackup]
      have hrolling : Rolling volume d b [] v' := ⟨hv'.1, hv'.2.1,
        fun p old new hmem => absurd hmem (hv'.2.2 p old new), fun s hs => by cases hs⟩
      refine wpTask_mono (wpTask_recoverFiles hA hb hver hrolling journal.state result)
        (fun _ _ h => h) ?_ fun _ h => h
      rintro e v ⟨hv, hconflict⟩
      refine ⟨hv, fun heq => ?_⟩
      obtain ⟨hstate, hrefused⟩ := hconflict heq
      refine ⟨?_, hrefused⟩
      cases hs : journal.state with
      | replacementStarted => rfl
      | backupComplete => exact absurd hs hbackup
      | verificationComplete => exact absurd hs hstate
      | complete => exact absurd hs hcomplete

end

/-! ## 4. The whole recovery -/

/-- In the state `start` of a run from the files `d`, recovery came to a journal that says
`replacement_started`, and refused it. -/
def RefusedIn (volume : Volume) (d : StoreDisk) (w : StoreWorld) : Prop :=
  ∃ (start since : StoreWorld) (id bytes : Bytes), w = since.since start.log ∧ Logged d start ∧
    start.disk (.journal id) = some bytes ∧
    parseJournal bytes id = .ok ⟨.replacementStarted, id⟩ ∧ Refused volume start.disk id since

theorem After.since {volume : Volume} {d : StoreDisk} {start w : StoreWorld}
    (hstart : After volume d start) (h : After volume start.disk w) :
    After volume d (w.since start.log) where
  logged := hstart.logged.since h.logged
  records p hp := (h.records p hp).trans (hstart.records p hp)
  own p old new hmem hp := by
    rcases List.mem_append.mp hmem with hnew | hold
    · obtain ⟨id, b, s, hb, hs⟩ := h.own p old new hnew hp
      exact ⟨id, b, s, hstart.loads.mp hb, hs⟩
    · exact hstart.own p old new hold hp

section

variable {volume : Volume} {d : StoreDisk}

theorem onlyTask_timeless_recoverFile (root : Bytes) (state : JournalState) (s : FileSnapshot) :
    OnlyTask Op.Timeless (fun _ => True) (recoverFile volume root state s) := by
  have hreads : ∀ o : Op Path Bytes, (o.readsIn fun _ => True) → o.Timeless := fun _ =>
    timeless_of_readsIn
  have hread : ∀ relativePath, OnlyTask Op.Timeless (fun _ => True) (readTarget volume root relativePath) :=
    fun _ => onlyTask_readTarget hreads _ _
  have hensure : ∀ (c : Prop) [Decidable c] (e : Error),
      OnlyTask Op.Timeless (fun _ => True) (ensure c e : StoreTask Unit) := fun c _ e =>
    (onlyTask_ensure c e).mono (fun _ h => h) fun _ _ => trivial
  unfold recoverFile
  refine (hensure _ _).bind fun _ _ => ?_
  refine (onlyTask_currentBytes.mono hreads fun _ _ => trivial).bind fun current _ => ?_
  refine (onlyTask_sha256Hex hreads _).bind fun digest _ => ?_
  split
  · exact hensure _ _
  · unfold recoverReplaced
    refine (hensure _ _).bind fun _ _ => ?_
    split
    · unfold rollBackFile
      refine (onlyTask_readBounded hreads _ _).bind fun original _ => ?_
      refine (onlyTask_replaceTarget fun _ _ => trivial).bind fun _ _ => ?_
      exact ((hread _).adapt _).bind fun _ _ => hensure _ _
    · exact onlyTask_pure trivial

theorem onlyTask_timeless_recoverJournal (root : Option Bytes) (journal : RecoveryJournal)
    (result : RecoveryResult) :
    OnlyTask Op.Timeless (fun _ => True) (recoverJournal volume root journal result) := by
  have hcareful : ∀ {α : Type} {x : StoreTask α}, Careful Path.stored (fun _ => True) x.run →
      OnlyTask Op.Timeless (fun _ => True) x := fun hx =>
    hx.onlyTask.mono (fun _ => timeless_of_readsIn) fun _ _ => trivial
  have hwrite : ∀ b, OnlyTask Op.Timeless (fun _ => True) (writeJournal b .complete) := fun _ =>
    onlyTask_atomicReplace trivial
  unfold recoverJournal
  refine (hcareful (careful_loadBackup _)).bind fun b _ => ?_
  split
  · exact onlyTask_pure trivial
  · split
    · exact onlyTask_throw _
    · have hsame : OnlyTask Op.Timeless (fun _ => True)
          (sameExistingDirectory volume b.configRoot ‹Bytes›) := by
        refine onlyTask_perform trivial fun answer => ?_
        cases answer <;> exact onlyTask_pure trivial
      refine hsame.bind fun _ _ => (onlyTask_ensure _ _).bind fun _ _ => ?_
      refine (hcareful (careful_verify _)).bind fun _ _ => ?_
      split
      · exact (hwrite b).bind fun _ _ => onlyTask_pure trivial
      · unfold recoverFiles
        refine (onlyTask_forEach fun s _ => onlyTask_timeless_recoverFile _ _ s).bind fun _ _ => ?_
        exact (hwrite b).bind fun _ _ => onlyTask_pure trivial

end

section

variable {A : Turn Path Bytes → Prop} (hA : Outside A) {volume : Volume} {d : StoreDisk}
  {w : StoreWorld}
include hA

/-- A journal of the directory, if it is valid. -/
theorem wpTask_readJournal (id : Bytes) (hw : After volume d w) :
    wpTask A (readJournal (.journal id))
      (fun r v => After volume d v ∧ ∀ j, r = some j →
        ∃ bytes, v.disk (.journal id) = some bytes ∧ parseJournal bytes id = .ok j)
      (fun e v => After volume d v ∧ Otherwise e) (After volume d) w := by
  have hstable : ∀ turn v, A turn → After volume d v → After volume d (v.intrude turn.others) :=
    fun turn v hturn h => h.intrude (hA turn hturn)
  have hremove : ∀ v, After volume d v → After volume d (v.act (.remove (.journal id))) := by
    intro v hv
    by_cases hnone : v.disk (.journal id) = none
    · rw [World.act_remove_missing _ hnone]
      exact hv
    · rw [World.act_remove _ hnone]
      exact hv.journal id none
  have hquarantine : ∀ (journalError : Error) v, After volume d v →
      wpTask A (quarantineJournal (.journal id) journalError)
        (fun r v => After volume d v ∧ ∀ j, r = some j →
          ∃ bytes, v.disk (.journal id) = some bytes ∧ parseJournal bytes id = .ok j)
        (fun _ => After volume d) (After volume d) v := by
    intro journalError v hv
    have hnone : ∀ v, After volume d v → After volume d v ∧ ∀ j,
        (none : Option RecoveryJournal) = some j →
          ∃ bytes, v.disk (.journal id) = some bytes ∧ parseJournal bytes id = .ok j :=
      fun v h => ⟨h, fun j hj => by cases hj⟩
    unfold quarantineJournal quarantineRegularFile
    rw [wpTask_bind, wpTask_adapt, wpTask_bind, wpTask_perform]
    intro turn hturn
    have hv' := hstable turn v hturn hv
    cases turn.fate with
    | ok =>
      simp only [Op.answer]
      split
      · exact hnone _ (hremove _ hv')
      · exact hremove _ hv'
      · exact hremove _ hv'
    | fail => exact hv'
    | late => exact hremove _ hv'
    | crash => exact hv'
  refine (throws_readJournal _).wpTask ?_
  unfold readJournal
  rw [wpTask_bind, wpTask_attempt]
  refine wpTask_readBounded hstable (fun _ h => h) hw (fun bytes v hv hdisk _ => ?_) fun e v hv _ => ?_
  · simp only
    split
    · rename_i journal hparse
      refine ⟨hv, fun j hj => ⟨bytes, hdisk, ?_⟩⟩
      rw [← Option.some.inj hj]
      exact hparse
    · exact hquarantine _ v hv
  · simp only
    split
    · exact hquarantine _ v hv
    · exact hv

/-- **A round of the recovery.** -/
theorem wpTask_recoverEntry (expectedConfigRoot : Option Bytes) (result : RecoveryResult)
    (id : Bytes) (hw : After volume d w) :
    wpTask A (recoverEntry volume expectedConfigRoot result (.journal id))
      (fun _ => After volume d)
      (fun e v => After volume d v ∧ (e = conflictError → RefusedIn volume d v)) (After volume d) w := by
  have hother : ∀ (e : Error) v, After volume d v ∧ Otherwise e →
      After volume d v ∧ (e = conflictError → RefusedIn volume d v) := fun e v h =>
    ⟨h.1, fun heq => absurd heq h.2⟩
  have hstable : ∀ turn v, A turn → After volume d v → After volume d (v.intrude turn.others) :=
    fun turn v hturn h => h.intrude (hA turn hturn)
  unfold recoverEntry
  rw [wpTask_bind]
  refine wpTask_mono ((throws_inspect (by decide)).wpTask (wpTask_of_reads (onlyTask_inspect _) hstable hw)) ?_
    hother fun _ h => h
  rintro _ v ⟨hv, -⟩
  rw [wpTask_bind]
  refine wpTask_mono (wpTask_readJournal hA id hv) ?_ hother fun _ h => h
  rintro r start ⟨hstart, hr⟩
  cases r with
  | none => exact hstart
  | some journal =>
    obtain ⟨bytes, hbytes, hparse⟩ := hr journal rfl
    have hid : journal.id = id := (parseJournal_eq_ok hparse).2
    have hjournal := wpTask_since (onlyTask_timeless_recoverJournal expectedConfigRoot journal result)
      (@wpTask_recoverJournal _ _ volume start.disk hA expectedConfigRoot journal result)
      start.log
    refine wpTask_mono hjournal ?_ ?_ ?_
    · rintro _ v ⟨u, rfl, hu⟩
      exact hstart.since hu
    · rintro e v ⟨u, rfl, hu, hconflict⟩
      refine ⟨hstart.since hu, fun heq => ?_⟩
      obtain ⟨hstate, hrefused⟩ := hconflict heq
      rw [hid] at hrefused
      refine ⟨start, u, id, bytes, rfl, hstart.logged, hbytes, ?_, hrefused⟩
      rw [hparse, ← hstate, ← hid]
    · rintro v ⟨u, rfl, hu⟩
      exact hstart.since hu

theorem wpTask_recoverEntries (expectedConfigRoot : Option Bytes) (l : List Path)
    (hl : ∀ p ∈ l, p.isJournal = true) (result : RecoveryResult) (hw : After volume d w) :
    wpTask A (recoverEntries volume expectedConfigRoot result l) (fun _ => After volume d)
      (fun e v => After volume d v ∧ (e = conflictError → RefusedIn volume d v)) (After volume d) w := by
  induction l generalizing result w with
  | nil => exact hw
  | cons entry rest ih =>
    obtain ⟨hentry, hrest⟩ := List.forall_mem_cons.mp hl
    cases entry with
    | journal id =>
      rw [recoverEntries, wpTask_bind]
      exact wpTask_mono (wpTask_recoverEntry hA expectedConfigRoot result id hw)
        (fun next v hv => ih hrest next hv) (fun _ _ h => h) fun _ h => h
    | _ => cases hentry

/-- **Every run of the recovery** rolls files of transactions back and, journals apart, does nothing
else; the error of a conflict comes from a transaction that was refused. -/
theorem wpTask_recoverTransactions (directory : List Path) (expectedConfigRoot : Option Bytes)
    (d : StoreDisk) :
    wpTask A (recoverTransactions volume directory expectedConfigRoot) (fun _ => After volume d)
      (fun e v => After volume d v ∧ (e = conflictError → RefusedIn volume d v)) (After volume d)
      ⟨d, []⟩ := by
  have hother : ∀ (e : Error) v, After volume d v ∧ Otherwise e →
      After volume d v ∧ (e = conflictError → RefusedIn volume d v) := fun e v h =>
    ⟨h.1, fun heq => absurd heq h.2⟩
  have hstable : ∀ turn v, A turn → After volume d v → After volume d (v.intrude turn.others) :=
    fun turn v hturn h => h.intrude (hA turn hturn)
  unfold recoverTransactions
  rw [wpTask_bind]
  refine wpTask_mono ((throws_inspect (by decide)).wpTask
    (wpTask_of_reads (onlyTask_inspect _) hstable (after_start volume d))) ?_ hother fun _ h => h
  rintro _ v ⟨hv, -⟩
  have hentries : wpTask A (entries directory Path.isJournal
      (ioFailure "Recovery journal enumeration failed"))
      (fun l v => After volume d v ∧ ∀ p ∈ l, p.isJournal = true) (fun _ => After volume d)
      (After volume d) v := by
    unfold entries
    rw [wpTask_bind, wpTask_perform]
    intro turn hturn
    have hv' := hstable turn v hturn hv
    cases turn.fate with
    | ok =>
      refine ⟨hv', fun p hp => ?_⟩
      exact (List.mem_filter.mp (List.mem_filter.mp hp).1).2
    | fail => exact hv'
    | late => exact hv'
    | crash => exact hv'
  rw [wpTask_bind]
  refine wpTask_mono ((throws_entries _ _ (by decide)).wpTask hentries) ?_ hother fun _ h => h
  rintro l v ⟨hv, hl⟩
  exact wpTask_recoverEntries hA expectedConfigRoot l hl {} hv

end

/-- The files from the refused one on have not been written. -/
theorem Rolling.untouched {volume : Volume} {d : StoreDisk} {b : BackupSet}
    {before after : List FileSnapshot} {s : FileSnapshot} {v : StoreWorld}
    (h : Rolling volume d b before v) (hb : b.snapshots = before ++ s :: after)
    (hnodup : (b.snapshots.map FileSnapshot.relativePath).Nodup) :
    ∀ s' ∈ s :: after, ∀ p, volume.target b.configRoot s'.relativePath = some p →
      ∀ old new, .own p old new ∉ v.log := by
  intro s' hs' p hp old new hmem
  obtain ⟨t, ht, hpt, -⟩ := h.own p old new hmem
  rw [hb, List.map_append] at hnodup
  refine (List.nodup_append.mp hnodup).2.2 _ (List.mem_map_of_mem ht) _ (List.mem_map_of_mem hs') ?_
  exact target_injective hpt hp

end

instance : DecidableEq RecoveryResult := fun r r' =>
  decidable_of_iff (r.outcome = r'.outcome ∧ r.transactionsRecovered = r'.transactionsRecovered)
    (by cases r; cases r'; simp)

/-- The files of a transaction that has replaced the first one, and another program the second
one. -/
def conflictDisk : StoreDisk :=
  (((run (create bothPreview).run [] ⟨bothDisk, []⟩).2.disk.set
    (.journal (backupOf bothPreview).id)
      (some (journalText .replacementStarted (backupOf bothPreview).id))).set
    (.target 0 (ascii "KFEngine.ini")) (some (ascii "b"))).set
    (.target 0 (ascii "KFGame.ini")) (some (ascii "x"))

/-- The recovery of these files. -/
def conflictRun : Option (Except Error RecoveryResult) × World Path Bytes :=
  run (recoverTransactions bothVolume [.journal (backupOf bothPreview).id] (some (ascii "C:/"))).run []
    ⟨conflictDisk, []⟩

theorem conflictRun_facts :
    conflictRun.1 = some (.error conflictError) ∧
      conflictRun.2.log =
        [.own (.target 0 (ascii "KFEngine.ini")) (some (ascii "b")) (some (ascii "a"))] ∧
      conflictRun.2.disk (.target 0 (ascii "KFEngine.ini")) = some (ascii "a") ∧
      conflictDisk (.journal (backupOf bothPreview).id) =
        some (journalText .replacementStarted (backupOf bothPreview).id) ∧
      conflictDisk (.target 0 (ascii "KFEngine.ini")) = some (ascii "b") := by
  decide +kernel

end Kf2Optimizer.Backup
