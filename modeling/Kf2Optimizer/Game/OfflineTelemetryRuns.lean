/-
# The offline telemetry module is removed exactly

A session is open while its marker is there, and the marker says what the installation found: both
directories it created, and the pinned hash.  Whatever a call does after that, and wherever it
stops, it writes and removes only what the marker answers for (`Proper`), and the marker goes last
(`Ended`).
-/
import Kf2Optimizer.Game.OfflineTelemetryParts

namespace Kf2Optimizer.Game.OfflineTelemetry

open Text Files Security

/-! ## 1. What a session may do -/

/-- What an installation creates where it finds `d`. -/
def createdOf (d : LabDisk) : Created := ⟨(d .published).isNone, (d .brewed).isNone⟩

/-- A directory that was not there before is created, or removed again. -/
def OwnDirectory (before old new : Option Entry) : Prop :=
  before = none ∧ (old = none ∧ new = some .directory ∨ old = some .directory ∧ new = none)

def Untouched (path : TelemetryPath) (log : List (Event TelemetryPath Entry)) : Prop :=
  ∀ entry, Event.other path entry ∉ log

section

variable [Bcrypt] [PinnedModule]

/-- The bytes of a module of the optimizer. -/
def OwnModule (bytes : Bytes) : Prop :=
  digestHex bytes = PinnedModule.sha256 ∨ optimizerModuleSignature bytes = true

/-- The module is put where nothing was, or one of the optimizer is removed. -/
def OwnTarget (old new : Option Entry) : Prop :=
  (old = none ∧ ∃ bytes, new = some (.file bytes) ∧ digestHex bytes = PinnedModule.sha256) ∨
  (∃ bytes, old = some (.file bytes) ∧ OwnModule bytes) ∧ new = none

/-- What may be written and removed in a session that has found `d`. -/
def Proper (d : LabDisk) : Event TelemetryPath Entry → Prop
  | .own .published old new => OwnDirectory (d .published) old new
  | .own .brewed old new => OwnDirectory (d .brewed) old new
  | .own .target old new => OwnTarget old new
  | .own path _ _ => path = .stateRoot ∨ path = .stateDirectory ∨ path = .marker
  | .other _ _ => True

/-- What belongs to the user. -/
def Foreign : TelemetryPath → Entry → Prop
  | .stateRoot, _ => False
  | .stateDirectory, _ => False
  | .marker, _ => False
  | .target, .file bytes => ¬ OwnModule bytes
  | _, _ => True

/-- The marker of a session that has found `d`. -/
def Marks (d : LabDisk) (entry : Entry) : Prop :=
  ∃ state root, entry = .file (markerBytes ⟨state, PinnedModule.sha256, root, createdOf d⟩)

structure LabInvariant (d : LabDisk) (w : LabWorld) : Prop where
  proper : ∀ e ∈ w.log, Proper d e
  kept : ∀ path entry, d path = some entry → Foreign path entry → Untouched path w.log →
    w.disk path = some entry
  marked : ∀ entry, w.disk .marker = some entry → Marks d entry

/-- Nothing of the session is left. -/
structure Ended (d v : LabDisk) : Prop where
  marker : v .marker = none
  target : Unowned OwnModule v
  published : d .published = none → v .published = none
  brewed : d .brewed = none → v .brewed = none

section

variable {d : LabDisk} {w v : LabWorld} {path : TelemetryPath} {b : Option Entry}

theorem labInvariant_start (h : d .marker = none) : LabInvariant d ⟨d, []⟩ where
  proper := by simp
  kept _ _ hd _ _ := hd
  marked entry hentry := absurd (h.symm.trans hentry) (by simp)

/-- What belongs to the user is not written or removed. -/
theorem not_proper_of_foreign {entry : Entry} (hd : d path = some entry) (hforeign : Foreign path entry) :
    ¬ Proper d (.own path (some entry) b) := by
  intro hproper
  cases path with
  | published => exact absurd (hd.symm.trans hproper.1) (by simp)
  | brewed => exact absurd (hd.symm.trans hproper.1) (by simp)
  | target =>
    obtain ⟨hnone, -⟩ | ⟨⟨bytes, hold, howned⟩, -⟩ := hproper
    · cases hnone
    · cases hold
      exact hforeign howned
  | stateRoot => exact hforeign
  | stateDirectory => exact hforeign
  | marker => exact hforeign
  | inPublished => simp [Proper] at hproper
  | inBrewed => simp [Proper] at hproper
  | inState => simp [Proper] at hproper
  | asset => simp [Proper] at hproper

namespace LabInvariant

/-- **One step of the program.** -/
theorem own (h : LabInvariant d w) (hproper : Proper d (.own path (w.disk path) b))
    (hmarker : path = .marker → ∀ entry, b = some entry → Marks d entry) :
    LabInvariant d (w.own path b) where
  proper := List.forall_mem_cons.mpr ⟨hproper, h.proper⟩
  kept other entry hd hforeign huntouched := by
    have hbefore := h.kept other entry hd hforeign fun new hnew =>
      huntouched new (List.mem_cons_of_mem _ hnew)
    by_cases heq : other = path
    · subst heq
      rw [hbefore] at hproper
      exact absurd hproper (not_proper_of_foreign hd hforeign)
    · rw [World.disk_own_other w b heq, hbefore]
  marked entry hentry := by
    by_cases heq : TelemetryPath.marker = path
    · subst heq
      rw [World.disk_own_same] at hentry
      exact hmarker rfl entry hentry
    · rw [World.disk_own_other w b heq] at hentry
      exact h.marked entry hentry

/-- Another program writes beside the marker. -/
theorem other (h : LabInvariant d w) (hpath : path ≠ .marker) : LabInvariant d (w.other path b) where
  proper := List.forall_mem_cons.mpr ⟨trivial, h.proper⟩
  kept place entry hd hforeign huntouched := by
    have hne : place ≠ path := by
      rintro rfl
      exact huntouched b List.mem_cons_self
    have hbefore := h.kept place entry hd hforeign fun new hnew =>
      huntouched new (List.mem_cons_of_mem _ hnew)
    exact (Disk.set_other _ _ hne).trans hbefore
  marked entry hentry := h.marked entry ((Disk.set_other _ _ hpath.symm).symm.trans hentry)

theorem ownState (h : LabInvariant d w) (hpath : path = .stateRoot ∨ path = .stateDirectory) :
    LabInvariant d (w.own path b) := by
  refine h.own ?_ ?_
  · obtain rfl | rfl := hpath <;> simp [Proper]
  · rintro rfl
    simp at hpath

theorem ownMarker (h : LabInvariant d w) (hb : ∀ entry, b = some entry → Marks d entry) :
    LabInvariant d (w.own .marker b) :=
  h.own (by simp [Proper]) fun _ => hb

theorem removed {owned : Bytes → Prop} (h : LabInvariant d w) (howned : ∀ bytes, owned bytes → OwnModule bytes)
    (hv : Removed owned w v) : LabInvariant d v := by
  obtain ⟨bytes, hdisk, hbytes, rfl⟩ := hv
  exact h.own (.inr ⟨⟨bytes, hdisk, howned bytes hbytes⟩, rfl⟩) fun heq => by cases heq

end LabInvariant

/-! ## 2. Calls -/

theorem Near.invariant (h : Near w v) (hw : LabInvariant d w) : LabInvariant d v := by
  obtain rfl | rfl := h
  · exact hw
  · exact hw.ownState (.inl rfl)

theorem removable_pinnedOrLegacy {bytes : Bytes} :
    Removable PinnedModule.sha256 .pinnedOrLegacy bytes ↔ OwnModule bytes := by
  simp [Removable, ModuleRemovalPolicy.owned, OwnModule]

theorem ownModule_of_exactHashAndSignature {bytes : Bytes}
    (h : Removable PinnedModule.sha256 .exactHashAndSignature bytes) : OwnModule bytes := by
  simp only [Removable, ModuleRemovalPolicy.owned, Bool.and_eq_true] at h
  exact .inr h.2

theorem wpTask_removeOrphanedOptimizerModule :
    wpTask Interrupted removeOrphanedOptimizerModule
      (fun removed v => Removed OwnModule w v ∨ removed = false ∧ v = w ∧ Unowned OwnModule w.disk)
      (fun _ v => v = w) (fun v => v = w ∨ Removed OwnModule w v) w := by
  have hremovable : Removable PinnedModule.sha256 .pinnedOrLegacy = OwnModule :=
    funext fun _ => propext removable_pinnedOrLegacy
  refine wpTask_mono (wpTask_removeAuthenticatedModule 99) (fun removed v hv => ?_) (fun _ _ hv => hv)
    fun v hv => hremovable ▸ hv
  obtain ⟨-, hv⟩ | ⟨hremoved, hv, hnone | ⟨-, hunowned⟩⟩ := hv
  · exact .inl (hremovable ▸ hv)
  · exact .inr ⟨hremoved, hv, fun bytes h => absurd (hnone.symm.trans h) (by simp)⟩
  · exact .inr ⟨hremoved, hv, hremovable ▸ hunowned⟩

theorem wpTask_removeIfCreated {bad : Error → LabWorld → Prop} {created : Bool}
    {inside : List TelemetryPath} (hpath : path = .published ∨ path = .brewed)
    (hcreated : created = (d path).isNone) (hw : LabInvariant d w) :
    wpTask Interrupted (removeIfCreated created path inside)
      (fun gone v => LabInvariant d v ∧ (∀ other, other ≠ path → v.disk other = w.disk other) ∧
        (gone = true → d path = none → v.disk path = none)) bad (LabInvariant d) w := by
  have hremoved : d path = none → w.disk path = some .directory → LabInvariant d (w.own path none) := by
    intro hnone hdisk
    obtain rfl | rfl := hpath
    · exact hw.own ⟨hnone, .inr ⟨hdisk, rfl⟩⟩ fun h => by cases h
    · exact hw.own ⟨hnone, .inr ⟨hdisk, rfl⟩⟩ fun h => by cases h
  unfold removeIfCreated
  split
  · rename_i htrue
    have hnone : d path = none := by simpa [hcreated] using htrue
    refine wpTask_mono wpTask_removeDirectory (fun gone v hv => ?_) (fun _ _ hv => hv) fun v hv => ?_
    · obtain ⟨rfl, hgone⟩ | ⟨-, hdisk, rfl⟩ := hv
      · exact ⟨hw, fun _ _ => rfl, fun h _ => hgone h⟩
      · exact ⟨hremoved hnone hdisk, fun _ hne => World.disk_own_other w _ hne,
          fun _ _ => World.disk_own_same w _ _⟩
    · obtain rfl | ⟨hdisk, rfl⟩ := hv
      · exact hw
      · exact hremoved hnone hdisk
  · rename_i hfalse
    have hsome : d path ≠ none := by simpa [hcreated] using hfalse
    exact ⟨hw, fun _ _ => rfl, fun _ hnone => absurd hnone hsome⟩

/-- The marker and the module are as they were. -/
def Beside (w v : LabWorld) : Prop := v.disk .marker = w.disk .marker ∧ v.disk .target = w.disk .target

theorem wpTask_removeCreatedEmptyDirectories {bad : Error → LabWorld → Prop} (hw : LabInvariant d w) :
    wpTask Interrupted (removeCreatedEmptyDirectories (createdOf d))
      (fun complete v => LabInvariant d v ∧ Beside w v ∧ (complete = true →
        (d .published = none → v.disk .published = none) ∧ (d .brewed = none → v.disk .brewed = none)))
      bad (LabInvariant d) w := by
  rw [removeCreatedEmptyDirectories, wpTask_bind]
  refine wpTask_mono (wpTask_removeIfCreated (.inr rfl) rfl hw) (fun goneBrewed u hu => ?_)
    (fun _ _ hv => hv) fun _ hv => hv
  obtain ⟨hinvariant, hothers, hbrewed⟩ := hu
  rw [wpTask_bind]
  refine wpTask_mono (wpTask_removeIfCreated (.inl rfl) rfl hinvariant) (fun gone v hv => ?_)
    (fun _ _ hv => hv) fun _ hv => hv
  obtain ⟨hinvariant', hothers', hpublished⟩ := hv
  refine ⟨hinvariant', ⟨?_, ?_⟩, fun hcomplete => ?_⟩
  · rw [hothers' _ (by decide), hothers _ (by decide)]
  · rw [hothers' _ (by decide), hothers _ (by decide)]
  · obtain ⟨hgoneBrewed, hgone⟩ := Bool.and_eq_true_iff.mp hcomplete
    refine ⟨hpublished hgone, fun hnone => ?_⟩
    rw [hothers' _ (by decide)]
    exact hbrewed hgoneBrewed hnone

theorem wpTask_ensureCreated {uninspected uncreated : Error} (hpath : path = .published ∨ path = .brewed)
    (hsame : w.disk path = d path) (hw : LabInvariant d w) :
    wpTask Interrupted (ensureDirectory path uninspected uncreated)
      (fun created v => created = (d path).isNone ∧ LabInvariant d v ∧
        ∀ other, other ≠ path → v.disk other = w.disk other)
      (fun _ => LabInvariant d) (LabInvariant d) w := by
  have hcreated : w.disk path = none → LabInvariant d (w.own path (some .directory)) := by
    intro hnone
    obtain rfl | rfl := hpath
    · exact hw.own ⟨hsame ▸ hnone, .inl ⟨hnone, rfl⟩⟩ fun h => by cases h
    · exact hw.own ⟨hsame ▸ hnone, .inl ⟨hnone, rfl⟩⟩ fun h => by cases h
  refine wpTask_mono wpTask_ensureDirectory (fun created v hv => ?_) (fun _ _ hv => hv ▸ hw) fun v hv => ?_
  · obtain ⟨rfl, hnone, rfl⟩ | ⟨rfl, hdirectory, rfl⟩ := hv
    · exact ⟨by rw [← hsame, hnone]; rfl, hcreated hnone, fun _ hne => World.disk_own_other w _ hne⟩
    · exact ⟨by rw [← hsame, hdirectory]; rfl, hw, fun _ _ => rfl⟩
  · obtain rfl | ⟨hnone, rfl⟩ := hv
    · exact hw
    · exact hcreated hnone

theorem wpTask_ensureTargetDirectories (hpublished : w.disk .published = d .published)
    (hbrewed : w.disk .brewed = d .brewed) (hw : LabInvariant d w) :
    wpTask Interrupted ensureTargetDirectories
      (fun created v => created = createdOf d ∧ LabInvariant d v ∧ Beside w v)
      (fun _ => LabInvariant d) (LabInvariant d) w := by
  rw [ensureTargetDirectories, wpTask_bind]
  refine wpTask_mono (wpTask_ensureCreated (.inl rfl) hpublished hw) (fun published u hu => ?_)
    (fun _ _ hv => hv) fun _ hv => hv
  obtain ⟨rfl, hinvariant, hothers⟩ := hu
  rw [wpTask_bind]
  refine wpTask_mono (wpTask_ensureCreated (.inr rfl) ((hothers _ (by decide)).trans hbrewed) hinvariant)
    (fun brewed v hv => ?_) (fun _ _ hv => hv) fun _ hv => hv
  obtain ⟨rfl, hinvariant', hothers'⟩ := hv
  refine ⟨rfl, hinvariant', ?_, ?_⟩
  · rw [hothers' _ (by decide), hothers _ (by decide)]
  · rw [hothers' _ (by decide), hothers _ (by decide)]

omit [Bcrypt] in
theorem marks (d : LabDisk) (state : MarkerState) (root : DirectoryIdentity) :
    ∀ entry, some (Entry.file (markerBytes ⟨state, PinnedModule.sha256, root, createdOf d⟩)) = some entry →
      Marks d entry := by
  rintro _ ⟨⟩
  exact ⟨state, root, rfl⟩

/-- **Up to the marker.** -/
theorem wpTask_markInstalling {roots : LabRoots} (hw : LabInvariant d w) :
    wpTask Interrupted (markInstalling roots (createdOf d))
      (fun _ v => LabInvariant d v ∧ v.disk .target = w.disk .target)
      (fun _ => LabInvariant d) (LabInvariant d) w := by
  have hstate : LabInvariant d (w.own .stateDirectory (some .directory)) := hw.ownState (.inr rfl)
  have hmark : ∀ {u : LabWorld}, LabInvariant d u → u.disk .target = w.disk .target →
      wpTask Interrupted (do
        let root ← rootIdentity roots
        replaceFile .marker (markerBytes ⟨.installing, PinnedModule.sha256, root, createdOf d⟩)
        return root)
        (fun _ v => LabInvariant d v ∧ v.disk .target = w.disk .target)
        (fun _ => LabInvariant d) (LabInvariant d) u := by
    intro u hu htarget
    rw [wpTask_bind]
    refine wpTask_careful_interrupted (careful_rootIdentity roots) hu ?_
    rw [show value (rootIdentity roots).run u.disk = .ok roots.identity from rfl]
    simp only [Ends]
    rw [wpTask_bind]
    refine wpTask_replaceFile hu ⟨hu.ownMarker (marks d .installing _), ?_⟩
    rw [World.disk_own_other u _ (by decide), htarget]
  rw [markInstalling, ensureStateDirectory, wpTask_bind]
  refine wpTask_mono wpTask_ensureDirectory (fun _ u hu => ?_) (fun _ _ hv => hv ▸ hw) fun v hv => ?_
  · obtain ⟨-, -, rfl⟩ | ⟨-, -, rfl⟩ := hu
    · exact hmark hstate (World.disk_own_other w _ (by decide))
    · exact hmark hw rfl
  · obtain rfl | ⟨-, rfl⟩ := hv
    · exact hw
    · exact hstate

/-- **The module, under the marker.** -/
theorem wpTask_installModule {root : DirectoryIdentity} {source : Bytes} (hw : LabInvariant d w)
    (hnone : w.disk .target = none) (hlen : source.length ≤ maximumModuleBytes)
    (hsource : digestHex source = PinnedModule.sha256) :
    wpTask Interrupted (installModule root (createdOf d) source) (fun _ => LabInvariant d)
      (fun _ => LabInvariant d) (LabInvariant d) w := by
  have hinstalled : LabInvariant d (w.own .target (some (.file source))) :=
    hw.own (.inl ⟨hnone, source, rfl, hsource⟩) fun h => by cases h
  have hhash : value (fileHash .target maximumModuleBytes).run
      (w.own .target (some (.file source))).disk = .ok PinnedModule.sha256 := by
    rw [fileHash, value_perform]
    simp only [Op.answer, World.disk_own_same]
    rw [value_task_bind, value_ensure, if_pos hlen]
    exact congrArg Except.ok hsource
  rw [installModule, wpTask_bind, wpTask_attempt]
  refine wpTask_replaceFile hw ?_
  rw [wpTask_bind, wpTask_attempt]
  refine wpTask_careful_interrupted (careful_fileHash _ _) hinstalled ?_
  rw [hhash]
  simp only [Ends, if_true]
  rw [wpTask_bind, wpTask_attempt]
  exact wpTask_replaceFile hinstalled (hinstalled.ownMarker (marks d .installed root))

theorem wpTask_installOfflineTelemetryLab {roots : LabRoots} {assetNamed running : Bool}
    (hopen : w.disk = d ∨ w.disk .marker ≠ none) (hw : LabInvariant d w) :
    wpTask Interrupted (installOfflineTelemetryLab roots assetNamed running) (fun _ => LabInvariant d)
      (fun _ => LabInvariant d) (LabInvariant d) w := by
  unfold installOfflineTelemetryLab
  refine wpTask_ensure (fun _ => hw) fun _ => ?_
  rw [wpTask_bind]
  refine wpTask_mono wpTask_validateRoots (fun _ u hnear => ?_) (fun _ _ hv => hv.invariant hw)
    fun _ hv => hv.invariant hw
  have hu := hnear.invariant hw
  refine wpTask_ensure (fun _ => hu) fun _ => ?_
  rw [wpTask_bind]
  refine wpTask_careful_interrupted (careful_readRegularFile _) hu ?_
  cases hsource : value (readRegularFile .asset maximumModuleBytes).run u.disk with
  | error e => exact hu
  | ok source =>
    obtain ⟨-, hlen⟩ := value_readRegularFile_eq_ok hsource
    simp only [Ends]
    rw [wpTask_bind]
    refine wpTask_careful_interrupted (careful_moduleHash source) hu ?_
    rw [value_moduleHash]
    simp only [Ends]
    refine wpTask_ensure (fun _ => hu) fun hpinned => ?_
    rw [wpTask_bind]
    refine wpTask_fileAttributes hu ?_
    refine wpTask_ensure (fun _ => hu) fun hunmarked => ?_
    -- without a marker the session begins here, and finds what `d` was
    have hmarker : u.disk .marker = none := by
      by_contra hmarked
      exact hunmarked (if_neg hmarked)
    have hd : w.disk = d := hopen.resolve_right fun hmarked =>
      hmarked ((hnear.disk (by decide)).symm.trans hmarker)
    rw [wpTask_bind]
    refine wpTask_mono wpTask_removeOrphanedOptimizerModule (fun removed v hv => ?_)
      (fun _ _ hv => hv ▸ hu) fun v hv => hv.elim (fun hv => hv ▸ hu) (hu.removed fun _ => id)
    have hinvariant : LabInvariant d v := by
      obtain hv | ⟨-, rfl, -⟩ := hv
      · exact hu.removed (fun _ => id) hv
      · exact hu
    have hsame : ∀ {path : TelemetryPath}, path ≠ .stateRoot → path ≠ .target → v.disk path = d path := by
      intro path hroot htarget
      obtain hv | ⟨-, rfl, -⟩ := hv
      · rw [hv.disk htarget, hnear.disk hroot, hd]
      · rw [hnear.disk hroot, hd]
    rw [wpTask_bind]
    refine wpTask_fileAttributes hinvariant ?_
    refine wpTask_ensure (fun _ => hinvariant) fun hfree => ?_
    have htarget : v.disk .target = none := by
      by_contra hoccupied
      exact hfree (if_neg hoccupied)
    rw [wpTask_bind]
    refine wpTask_mono (wpTask_ensureTargetDirectories (hsame (by decide) (by decide))
      (hsame (by decide) (by decide)) hinvariant) (fun created t ht => ?_) (fun _ _ hv => hv) fun _ hv => hv
    obtain ⟨rfl, ht, -, htarget'⟩ := ht
    rw [wpTask_bind, wpTask_attempt]
    refine wpTask_mono (wpTask_markInstalling ht) (fun root s hs => ?_) (fun e s hs => ?_) fun _ hv => hv
    · exact wpTask_installModule hs.1 (by rw [hs.2, htarget', htarget]) hlen hpinned
    · rw [wpTask_bind]
      exact wpTask_mono (wpTask_removeCreatedEmptyDirectories hs) (fun _ _ hv => hv.1)
        (fun _ _ hv => hv) fun _ hv => hv

theorem Ended.ownStateDirectory (h : Ended d w.disk) : Ended d (w.own .stateDirectory b).disk := by
  have hother : ∀ {path : TelemetryPath}, path ≠ .stateDirectory →
      (w.own .stateDirectory b).disk path = w.disk path := fun hne => World.disk_own_other w b hne
  refine ⟨?_, fun bytes hbytes => ?_, fun hnone => ?_, fun hnone => ?_⟩
  · rw [hother (by decide), h.marker]
  · rw [hother (by decide)] at hbytes
    exact h.target bytes hbytes
  · rw [hother (by decide), h.published hnone]
  · rw [hother (by decide), h.brewed hnone]

/-- **A session is ended.** -/
theorem wpTask_restoreMarked {roots : LabRoots} (hmarked : w.disk .marker ≠ none) (hw : LabInvariant d w) :
    wpTask Interrupted (restoreMarked roots) (fun _ v => LabInvariant d v ∧ Ended d v.disk)
      (fun _ => LabInvariant d) (LabInvariant d) w := by
  rw [restoreMarked, wpTask_bind]
  refine wpTask_careful_interrupted careful_parseMarker hw ?_
  cases hvalue : value parseMarker.run w.disk with
  | error e => exact hw
  | ok marker =>
    simp only [Ends]
    rw [wpTask_bind]
    refine wpTask_careful_interrupted (careful_validateBinding roots marker) hw ?_
    cases value (validateBinding roots marker).run w.disk with
    | error e => exact hw
    | ok _ =>
      -- what is read is the marker that the installation wrote
      have hmarker : ∃ state root, marker = ⟨state, PinnedModule.sha256, root, createdOf d⟩ := by
        obtain ⟨bytes, hbytes, hdecode⟩ := value_bind_eq_ok.mp hvalue
        obtain ⟨hdisk, -⟩ := value_readRegularFile_eq_ok hbytes
        obtain ⟨state, root, hentry⟩ := hw.marked _ hdisk
        cases hentry
        refine ⟨state, root, ?_⟩
        rw [decodeMarker_markerBytes PinnedModule.valid] at hdecode
        cases hdecode
        rfl
      obtain ⟨state, root, rfl⟩ := hmarker
      simp only [Ends]
      rw [wpTask_bind]
      refine wpTask_mono (wpTask_removeAuthenticatedModule 99) (fun removed u hu => ?_)
        (fun _ _ hv => hv ▸ hw)
        fun u hu => hu.elim (fun hu => hu ▸ hw) (hw.removed fun _ => ownModule_of_exactHashAndSignature)
      have hinvariant : LabInvariant d u := by
        obtain ⟨-, hu⟩ | ⟨-, rfl, -⟩ := hu
        · exact hw.removed (fun _ => ownModule_of_exactHashAndSignature) hu
        · exact hw
      have htarget : u.disk .target = none := by
        obtain ⟨-, hu⟩ | ⟨-, rfl, hnone | ⟨hfalse, -⟩⟩ := hu
        · exact hu.target
        · exact hnone
        · cases hfalse
      have hmarked' : u.disk .marker ≠ none := by
        obtain ⟨-, hu⟩ | ⟨-, rfl, -⟩ := hu
        · rwa [hu.disk (by decide)]
        · exact hmarked
      rw [wpTask_bind]
      refine wpTask_mono (wpTask_removeCreatedEmptyDirectories hinvariant) (fun complete v hv => ?_)
        (fun _ _ hv => hv) fun _ hv => hv
      obtain ⟨hv, ⟨hmarker, htarget'⟩, hcomplete⟩ := hv
      refine wpTask_ensure (fun _ => hv) fun hgone => ?_
      obtain ⟨hpublished, hbrewed⟩ := hcomplete hgone
      have hpresent : v.disk .marker ≠ none := by rwa [hmarker]
      have hremoved : LabInvariant d (v.own .marker none) := hv.ownMarker fun _ h => by cases h
      have hended : Ended d (v.own .marker none).disk := by
        refine ⟨World.disk_own_same v _ _, fun bytes h => ?_, fun h => ?_, fun h => ?_⟩
        · rw [World.disk_own_other v _ (by decide), htarget', htarget] at h
          cases h
        · rw [World.disk_own_other v _ (by decide), hpublished h]
        · rw [World.disk_own_other v _ (by decide), hbrewed h]
      rw [wpTask_bind, wpTask_perform_interrupted, World.act_remove v hpresent]
      refine ⟨?_, hv⟩
      simp only [Op.answer, if_neg hpresent]
      rw [wpTask_bind]
      refine wpTask_mono wpTask_removeDirectory (fun _ t ht => ?_) (fun _ _ hv => hv) fun t ht => ?_
      · obtain ⟨rfl, -⟩ | ⟨-, -, rfl⟩ := ht
        · exact ⟨hremoved, hended⟩
        · exact ⟨hremoved.ownState (.inr rfl), hended.ownStateDirectory⟩
      · obtain rfl | ⟨-, rfl⟩ := ht
        · exact hremoved
        · exact hremoved.ownState (.inr rfl)

/-- Nothing is left either of a session that wrote no marker, but what it created. -/
theorem wpTask_removeOrphan_unmarked {u : LabWorld} (hd : w.disk = d) (hmarker : u.disk .marker = none)
    (hnear : Near w u) (hw : LabInvariant d w) :
    wpTask Interrupted removeOrphanedOptimizerModule (fun _ v => LabInvariant d v ∧ Ended d v.disk)
      (fun _ => LabInvariant d) (LabInvariant d) u := by
  have hu := hnear.invariant hw
  refine wpTask_mono wpTask_removeOrphanedOptimizerModule (fun removed v hv => ?_)
    (fun _ _ hv => hv ▸ hu) fun v hv => hv.elim (fun hv => hv ▸ hu) (hu.removed fun _ => id)
  have hsame : ∀ {path : TelemetryPath}, path ≠ .stateRoot → path ≠ .target → v.disk path = w.disk path := by
    intro path hroot htarget
    obtain hv | ⟨-, rfl, -⟩ := hv
    · rw [hv.disk htarget, hnear.disk hroot]
    · exact hnear.disk hroot
  have hinvariant : LabInvariant d v := by
    obtain hv | ⟨-, rfl, -⟩ := hv
    · exact hu.removed (fun _ => id) hv
    · exact hu
  refine ⟨hinvariant, ?_, ?_, fun hnone => ?_, fun hnone => ?_⟩
  · rw [hsame (by decide) (by decide), ← hnear.disk (by decide), hmarker]
  · obtain hv | ⟨-, rfl, hunowned⟩ := hv
    · exact fun bytes h => absurd (hv.target.symm.trans h) (by simp)
    · exact hunowned
  · rw [hsame (by decide) (by decide), hd, hnone]
  · rw [hsame (by decide) (by decide), hd, hnone]

theorem wpTask_restoreOfflineTelemetryLab {roots : LabRoots} {running : Bool}
    (hopen : w.disk = d ∨ w.disk .marker ≠ none) (hw : LabInvariant d w) :
    wpTask Interrupted (restoreOfflineTelemetryLab roots running)
      (fun _ v => LabInvariant d v ∧ Ended d v.disk)
      (fun _ => LabInvariant d) (LabInvariant d) w := by
  unfold restoreOfflineTelemetryLab
  refine wpTask_ensure (fun _ => hw) fun _ => ?_
  rw [wpTask_bind]
  refine wpTask_mono wpTask_validateRoots (fun _ u hnear => ?_) (fun _ _ hv => hv.invariant hw)
    fun _ hv => hv.invariant hw
  have hu := hnear.invariant hw
  rw [wpTask_bind]
  refine wpTask_fileAttributes hu ?_
  by_cases hmarker : u.disk .marker = none
  · have hd : w.disk = d := hopen.resolve_right fun hmarked =>
      hmarked ((hnear.disk (by decide)).symm.trans hmarker)
    simp only [attributesOf, if_pos hmarker]
    rw [wpTask_bind]
    refine wpTask_mono (wpTask_removeOrphan_unmarked hd hmarker hnear hw) (fun removed v hv => ?_)
      (fun _ _ hv => hv) fun _ hv => hv
    unfold ensure
    split
    · exact hv
    · exact hv.1
  · simp only [attributesOf, if_neg hmarker]
    exact wpTask_restoreMarked hmarker hu

/-- **Recovery** of a game that is not running. -/
theorem wpTask_recoverOfflineTelemetryLab {roots : LabRoots}
    (hopen : w.disk = d ∨ w.disk .marker ≠ none) (hw : LabInvariant d w) :
    wpTask Interrupted (recoverOfflineTelemetryLab roots false)
      (fun _ v => LabInvariant d v ∧ Ended d v.disk)
      (fun _ => LabInvariant d) (LabInvariant d) w := by
  rw [recoverOfflineTelemetryLab, wpTask_bind]
  refine wpTask_fileAttributes hw ?_
  by_cases hmarker : w.disk .marker = none
  · have hd : w.disk = d := hopen.resolve_right (absurd hmarker)
    simp only [attributesOf, if_pos hmarker]
    rw [if_neg (by decide), wpTask_bind]
    refine wpTask_mono wpTask_validateRoots (fun _ u hnear => ?_) (fun _ _ hv => hv.invariant hw)
      fun _ hv => hv.invariant hw
    rw [wpTask_bind]
    exact wpTask_removeOrphan_unmarked hd ((hnear.disk (by decide)).trans hmarker) hnear hw
  · simp only [attributesOf, if_neg hmarker]
    rw [wpTask_bind]
    refine wpTask_careful_interrupted careful_parseMarker hw ?_
    cases value parseMarker.run w.disk with
    | error e => exact hw
    | ok marker =>
      simp only [Ends]
      rw [wpTask_bind]
      refine wpTask_careful_interrupted (careful_validateBinding roots marker) hw ?_
      cases value (validateBinding roots marker).run w.disk with
      | error e => exact hw
      | ok _ =>
        simp only [Ends]
        rw [wpTask_bind, wpTask_attempt]
        refine wpTask_careful_interrupted (careful_fileHash _ _) hw ?_
        cases value (fileHash .target maximumModuleBytes).run w.disk with
        | error e =>
          simp only [Ends]
          rw [if_neg (by decide), wpTask_bind]
          exact wpTask_restoreOfflineTelemetryLab hopen hw
        | ok hash =>
          simp only [Ends]
          rw [if_neg (by decide), wpTask_bind]
          exact wpTask_restoreOfflineTelemetryLab hopen hw

/-- Beside a running game a recovery only looks. -/
theorem onlyTask_recoverOfflineTelemetryLab (roots : LabRoots) :
    OnlyTask (fun op : Op TelemetryPath Entry => op.readsIn fun _ => True) (fun _ => True)
      (recoverOfflineTelemetryLab roots true) := by
  refine OnlyTask.bind (r := fun _ => True) (onlyTask_perform trivial fun answer => ?_) fun attributes _ => ?_
  · cases answer <;> exact onlyTask_pure trivial
  · cases attributes with
    | unknown => exact onlyTask_throw _
    | missing => exact onlyTask_pure trivial
    | found =>
      refine careful_parseMarker.onlyTask.bind fun marker _ => ?_
      refine (careful_validateBinding roots marker).onlyTask.bind fun _ _ => ?_
      refine (onlyTask_attempt (careful_fileHash _ _).onlyTask).bind fun hash _ => ?_
      rw [if_pos rfl]
      exact (onlyTask_ensure _ _).bind fun _ _ => onlyTask_pure trivial

end

/-! ## 3. Histories -/

inductive LabCall
  | install (assetNamed running : Bool)
  | restore (running : Bool)
  | recover (running : Bool)

def LabCall.task (roots : LabRoots) : LabCall → LabTask Unit
  | .install assetNamed running => installOfflineTelemetryLab roots assetNamed running
  | .restore running => restoreOfflineTelemetryLab roots running
  | .recover running => do
    let _ ← recoverOfflineTelemetryLab roots running

/-- A call that ends a session, which a recovery beside a running game does not. -/
def LabCall.Ending : LabCall → Prop
  | .install _ _ => False
  | .restore _ => True
  | .recover running => running = false

/-- A call by a process that may stop anywhere. -/
def LabCall.run (call : LabCall) (roots : LabRoots) (plan : List (Turn TelemetryPath Entry))
    (w : LabWorld) : Option (Except Error Unit) × LabWorld :=
  Files.run (call.task roots).run plan w

/-- A call has ended a session. -/
def LabCall.Cleaned (call : LabCall) (outcome : Option (Except Error Unit)) : Prop :=
  call.Ending ∧ outcome = some (.ok ())

/-- Calls one after the other, and what other programs write between them.  The latest call that saw
no marker found `d`, and the log begins there; `done` says that a session has just been ended. -/
inductive LabHistory : LabDisk → LabWorld → Prop → Prop
  | start {d : LabDisk} (h : d .marker = none) : LabHistory d ⟨d, []⟩ False
  | opened {d : LabDisk} {w : LabWorld} {done : Prop} (h : LabHistory d w done)
      (hmarker : w.disk .marker = none) (call : LabCall) (roots : LabRoots)
      {plan : List (Turn TelemetryPath Entry)} (hplan : ∀ turn ∈ plan, Interrupted turn) :
      LabHistory w.disk (call.run roots plan ⟨w.disk, []⟩).2
        (call.Cleaned (call.run roots plan ⟨w.disk, []⟩).1)
  | called {d : LabDisk} {w : LabWorld} {done : Prop} (h : LabHistory d w done)
      (hmarker : w.disk .marker ≠ none) (call : LabCall) (roots : LabRoots)
      {plan : List (Turn TelemetryPath Entry)} (hplan : ∀ turn ∈ plan, Interrupted turn) :
      LabHistory d (call.run roots plan w).2 (call.Cleaned (call.run roots plan w).1)
  | others {d : LabDisk} {w : LabWorld} {done : Prop} (h : LabHistory d w done) {path : TelemetryPath}
      (hpath : path ≠ .marker) (content : Option Entry) : LabHistory d (w.other path content) False

section

variable {d : LabDisk} {w : LabWorld}

/-- **One call.** -/
theorem labInvariant_call {call : LabCall} {roots : LabRoots} {plan : List (Turn TelemetryPath Entry)}
    (hplan : ∀ turn ∈ plan, Interrupted turn) (hopen : w.disk = d ∨ w.disk .marker ≠ none)
    (hw : LabInvariant d w) :
    LabInvariant d (call.run roots plan w).2 ∧
      (call.Cleaned (call.run roots plan w).1 → Ended d (call.run roots plan w).2.disk) := by
  have hcall : wpTask Interrupted (call.task roots)
      (fun _ v => LabInvariant d v ∧ (call.Ending → Ended d v.disk))
      (fun _ => LabInvariant d) (LabInvariant d) w := by
    cases call with
    | install assetNamed running =>
      exact wpTask_mono (wpTask_installOfflineTelemetryLab hopen hw) (fun _ v hv => ⟨hv, False.elim⟩)
        (fun _ _ hv => hv) fun _ hv => hv
    | restore running =>
      exact wpTask_mono (wpTask_restoreOfflineTelemetryLab hopen hw) (fun _ v hv => ⟨hv.1, fun _ => hv.2⟩)
        (fun _ _ hv => hv) fun _ hv => hv
    | recover running =>
      rw [LabCall.task, wpTask_bind]
      cases running with
      | false =>
        exact wpTask_mono (wpTask_recoverOfflineTelemetryLab hopen hw) (fun _ v hv => ⟨hv.1, fun _ => hv.2⟩)
          (fun _ _ hv => hv) fun _ hv => hv
      | true =>
        refine wpTask_mono (wpTask_of_reads (onlyTask_recoverOfflineTelemetryLab roots)
          (fun turn v hturn hv => ?_) hw) (fun _ v hv => ⟨hv.1, fun h => by cases h⟩) (fun _ _ hv => hv)
          fun _ hv => hv
        rw [hturn.1]
        exact hv
  have hsound := wp_sound hcall ⟨rfl, .inl rfl⟩ hplan
  unfold LabCall.Cleaned LabCall.run
  generalize run (call.task roots).run plan w = result at hsound
  obtain ⟨_ | _ | _, v⟩ := result
  · exact ⟨hsound, fun h => by cases h.2⟩
  · exact ⟨hsound, fun h => by cases h.2⟩
  · exact ⟨hsound.1, fun h => hsound.2 h.1⟩

/-- **Every call, one after the other.** -/
theorem LabHistory.invariant {done : Prop} (h : LabHistory d w done) :
    LabInvariant d w ∧ (done → Ended d w.disk) := by
  induction h with
  | start h => exact ⟨labInvariant_start h, False.elim⟩
  | opened _ hmarker call roots hplan _ => exact labInvariant_call hplan (.inl rfl) (labInvariant_start hmarker)
  | called _ hmarker call roots hplan ih => exact labInvariant_call hplan (.inr hmarker) ih.1
  | others _ hpath content ih => exact ⟨ih.1.other hpath, False.elim⟩

end

end

/-! ## 4. A small module -/

def smallModule : Bytes := ascii "module"

def smallRoots : LabRoots := ⟨true, true, ⟨1, 2⟩⟩

/-- A game directory without the directories of the module. -/
def smallDirectory : LabDisk
  | .asset => some (.file smallModule)
  | .stateRoot => some .directory
  | _ => none

section

local instance smallPin : PinnedModule := ⟨digestHex smallModule, validHash_digestHex _⟩

def smallInstall (plan : List (Turn TelemetryPath Entry)) : LabWorld :=
  ((LabCall.install true false).run smallRoots plan ⟨smallDirectory, []⟩).2

/-- An installation that stops right behind its marker. -/
def crashedInstall : LabWorld := smallInstall (List.replicate 21 ⟨[], .ok⟩ ++ [⟨[], .crash⟩])

/-- Another program puts a file where the module is about to be written. -/
def intrudedInstall : LabWorld :=
  smallInstall (List.replicate 21 ⟨[], .ok⟩ ++ [⟨[(.target, some (.file [1]))], .ok⟩])

end

end Kf2Optimizer.Game.OfflineTelemetry
