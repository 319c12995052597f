/-
# The runtime is replaced altogether or not at all

From the moment the marker is there until it is removed, the copies are the stock files and every
component is what it was or what is installed (`Pending`); before and afterwards the components are
what they were (`AllStock`).  Every operation of installing, of restoring and of recovering keeps
it so, wherever they stop, and this is what a run of recovery starts from.
-/
import Kf2Optimizer.Flex.FlexMarkers

namespace Kf2Optimizer.Flex

open Text Files Platform Security

/-! ## 1. What the parts do -/

section

variable {source target path : FlexFile} {expected : Bytes} {w : FlexWorld} {J : FlexWorld → Prop}

/-- The target is replaced at once, or stays as it is. -/
theorem leads_moveReplacing {bytes : Bytes} (good : Unit → FlexWorld → Prop) (attempts : ℕ)
    (hstay : ∀ v : FlexWorld, v.disk = w.disk → J v)
    (hset : ∀ v : FlexWorld, v.disk = w.disk.set target (some bytes) → good () v ∧ J v) :
    ∀ v : FlexWorld, v.disk = w.disk ∨ v.disk = w.disk.set target (some bytes) →
      Leads (moveReplacing target bytes attempts) good J v := by
  have hJ : ∀ v : FlexWorld, v.disk = w.disk ∨ v.disk = w.disk.set target (some bytes) → J v := by
    rintro v (h | h)
    exacts [hstay v h, (hset v h).2]
  induction attempts with
  | zero => exact fun v hv => leads_throw (hJ v hv)
  | succ attempts ih =>
    intro v hv
    have hwritten : (v.act (.write target bytes)).disk = w.disk.set target (some bytes) := by
      rcases hv with h | h
      · exact congrArg (Disk.set · target (some bytes)) h
      · refine (congrArg (Disk.set · target (some bytes)) h).trans ?_
        funext p
        by_cases hp : p = target
        · rw [hp, Disk.set_same, Disk.set_same]
        · rw [Disk.set_other _ _ hp]
    refine leads_bind (leads_perform (hset _ hwritten).1 ?_ ?_ (hJ v hv))
    -- the move failed or was reported as failed, and there may be another attempt
    · exact leads_bind (leads_perform (ih v hv) (leads_throw (hJ v hv)) (leads_throw (hJ v hv))
        (hJ v hv))
    · have hu := hJ _ (.inr hwritten)
      exact leads_bind (leads_perform (ih _ (.inr hwritten)) (leads_throw hu) (leads_throw hu) hu)

theorem careful_inspectedExists : Careful (fun _ => True) (fun _ => True) (inspectedExists path).run :=
  careful_pathExists trivial _

theorem value_inspectedExists {found : Bool} {d : FlexDisk}
    (h : value (inspectedExists path).run d = .ok found) : found = (d path).isSome :=
  value_pathExists_eq_ok h

variable [Bcrypt]

theorem careful_hashFile : Careful (fun _ => True) (fun _ => True) (hashFile path).run :=
  careful_sha256FileHex trivial _

theorem value_hashFile {hash : Bytes} {d : FlexDisk} (h : value (hashFile path).run d = .ok hash) :
    ∃ bytes, d path = some bytes ∧ hash = digestHex bytes :=
  value_sha256FileHex_eq_ok h

theorem careful_stage : Careful (fun _ => True) (fun _ => True) (stage source expected).run := by
  refine careful_perform trivial ⟨_, trivial, rfl⟩ fun answer => ?_
  cases answer
  case content bytes =>
    refine ((careful_sha256OfFile bytes _).adapt _ fun _ _ => trivial).bind fun hash => ?_
    refine (careful_ensure _ _).bind fun _ => ?_
    refine careful_perform trivial ⟨_, trivial, rfl⟩ fun answer => ?_
    cases answer
    case done =>
      refine careful_perform trivial ⟨_, trivial, rfl⟩ fun answer => ?_
      cases answer <;> exact .ret _
    all_goals exact .ret _
  all_goals exact .ret _

/-- What is staged is what the source holds, and has the digest. -/
theorem value_stage {bytes : Bytes} {d : FlexDisk}
    (h : value (stage source expected).run d = .ok bytes) :
    d source = some bytes ∧ digestHex bytes = expected := by
  rw [stage, value_perform] at h
  cases hdisk : d source with
  | none =>
    simp only [Op.answer, hdisk] at h
    cases h
  | some found =>
    simp only [Op.answer, hdisk] at h
    obtain ⟨hash, hhash, h⟩ := value_bind_eq_ok.mp h
    obtain ⟨_, hsame, h⟩ := value_bind_eq_ok.mp h
    cases h
    rw [value_ensure_eq_ok] at hsame
    exact ⟨rfl, (value_sha256OfFile_eq_ok (value_adapt_eq_ok.mp hhash)).symm.trans hsame⟩

/-- **A file that is replaced** holds what the source held, which has the digest. -/
theorem leads_replaceVerified (good : Unit → FlexWorld → Prop)
    (hstay : ∀ v : FlexWorld, v.disk = w.disk → J v)
    (hset : ∀ bytes, w.disk source = some bytes → digestHex bytes = expected →
      ∀ v : FlexWorld, v.disk = w.disk.set target (some bytes) → good () v ∧ J v) :
    Leads (replaceVerified source target expected) good J w := by
  refine leads_careful_bind careful_stage (hstay w rfl) fun bytes hbytes => ?_
  obtain ⟨hsource, hdigest⟩ := value_stage hbytes
  have hdone := hset bytes hsource hdigest
  refine leads_bind ((leads_moveReplacing (fun _ v => v.disk = w.disk.set target (some bytes))
    8 hstay (fun v hv => ⟨hv, (hdone v hv).2⟩) w (.inl rfl)).mono (fun _ v hv => ?_) fun _ h => h)
  refine leads_bind (leads_adapt (leads_careful careful_hashFile (hdone v hv).2 fun hash _ => ?_))
  exact leads_ensure (hdone v hv).2 fun _ => (hdone v hv).1

end

theorem leads_removeFile {path : FlexFile} {e : Error} {w : FlexWorld} {J : FlexWorld → Prop}
    {good : Unit → FlexWorld → Prop} (hstay : J w)
    (hset : ∀ v : FlexWorld, v.disk = w.disk.set path none → good () v ∧ J v) :
    Leads (removeFile path e) good J w := by
  have hremoved : (w.act (.remove path)).disk = w.disk.set path none := by
    by_cases hmissing : w.disk path = none
    · rw [World.act_remove_missing w hmissing]
      funext p
      by_cases hp : p = path
      · rw [hp, Disk.set_same, hmissing]
      · rw [Disk.set_other _ _ hp]
    · rw [World.act_remove w hmissing]
      rfl
  obtain ⟨hgood, hJ⟩ := hset _ hremoved
  refine leads_bind (leads_perform ?_ (leads_throw hstay) (leads_throw hJ) hstay)
  by_cases hmissing : w.disk path = none
  · simp only [Op.answer, if_pos hmissing]
    exact leads_pure hgood
  · simp only [Op.answer, if_neg hmissing]
    exact leads_pure hgood

/-- **A file that is removed** was not there or had the digest. -/
theorem leads_removeKnownFile {path : FlexFile} {expected : Bytes} {w : FlexWorld}
    {J : FlexWorld → Prop} {good : Unit → FlexWorld → Prop} (hstay : J w)
    (hmissing : w.disk path = none → good () w)
    (hset : ∀ v : FlexWorld, v.disk = w.disk.set path none → good () v ∧ J v) :
    Leads (removeKnownFile path expected) good J w := by
  refine leads_careful_bind careful_inspectedExists hstay fun found hfound => ?_
  cases found with
  | false =>
    have hsome := value_inspectedExists hfound
    exact leads_pure (hmissing (Option.isSome_eq_false_iff.mp hsome.symm |> Option.isNone_iff_eq_none.mp))
  | true =>
    refine leads_careful_bind careful_hashFile hstay fun hash _ => ?_
    exact leads_ensure_bind hstay fun _ => leads_removeFile hstay hset

/-! ## 2. What becomes of the files -/

/-- What a transaction is about: what the components were and what is installed. -/
structure Runtime where
  stockCore : Bytes
  stockExtension : Bytes
  originalHelper : Option Bytes
  forwarder : Bytes
  optimizedCore : Bytes
  optimizedExtension : Bytes
  optimizedHelper : Bytes

/-- The marker of the transaction. -/
def Runtime.marker (r : Runtime) (directory : Bytes) (state : LabState) : LabMarker where
  state := state.text
  stockCore := digestHex r.stockCore
  stockExtension := digestHex r.stockExtension
  forwarder := digestHex r.forwarder
  optimizedCore := digestHex r.optimizedCore
  optimizedExtension := digestHex r.optimizedExtension
  optimizedHelper := digestHex r.optimizedHelper
  originalHelper := r.originalHelper.elim absent digestHex
  owner := digestHex directory

theorem digestHex_ne_absent (bytes : Bytes) : digestHex bytes ≠ absent := by
  intro h
  have hlen := (validHash_digestHex bytes).1
  rw [h] at hlen
  exact absurd hlen (by decide)

theorem Runtime.originalHelper_absent (r : Runtime) (directory : Bytes) (state : LabState) :
    (r.marker directory state).originalHelper = absent ↔ r.originalHelper = none := by
  cases h : r.originalHelper with
  | none => simp [Runtime.marker, h]
  | some bytes => simp [Runtime.marker, h, digestHex_ne_absent]

theorem Runtime.marker_valid (r : Runtime) (directory : Bytes) (state : LabState) :
    (r.marker directory state).Valid := by
  refine ⟨?_, ?_, ?_, validHash_digestHex _⟩
  · cases state
    exacts [.inl rfl, .inr rfl]
  · simp only [Runtime.marker, List.forall_mem_cons]
    simp [validHash_digestHex]
  · cases h : r.originalHelper with
    | none => exact .inl ((r.originalHelper_absent directory state).mpr h)
    | some bytes =>
      refine .inr ?_
      simp only [Runtime.marker, h]
      exact validHash_digestHex bytes

/-- What is installed is in the files that the options name. -/
structure Runtime.Sources (r : Runtime) (o : Options) (d : FlexDisk) : Prop where
  forwarder : d o.forwarderDll = some r.forwarder
  optimizedCore : d o.optimizedCoreDll = some r.optimizedCore
  optimizedExtension : d o.optimizedExtensionDll = some r.optimizedExtension
  optimizedHelper : d o.optimizedHelperDll = some r.optimizedHelper

/-- The transaction is about the files that there are. -/
structure Runtime.Of (r : Runtime) (o : Options) (d : FlexDisk) : Prop extends r.Sources o d where
  stockCore : d .activeCore = some r.stockCore
  stockExtension : d .activeExtension = some r.stockExtension
  originalHelper : d .activeHelper = r.originalHelper

/-- The components are what they were, without a relay and a marker. -/
structure AllStock (start d : FlexDisk) : Prop where
  core : d .activeCore = start .activeCore
  extension : d .activeExtension = start .activeExtension
  helper : d .activeHelper = start .activeHelper
  relay : d .relayedCore = none
  marker : d .marker = none

/-- The components are what is installed, and the marker says so. -/
structure AllOptimized (o : Options) (start d : FlexDisk) : Prop where
  core : d .activeCore = start o.forwarderDll
  relay : d .relayedCore = start o.optimizedCoreDll
  extension : d .activeExtension = start o.optimizedExtensionDll
  helper : d .activeHelper = start o.optimizedHelperDll
  marker : ∃ bytes marker, d .marker = some bytes ∧ decodeMarker bytes = .ok marker ∧
    marker.state = LabState.installed.text

/-- A transaction is on the way: there are the marker and the copies, and every component is what
it was or what is installed. -/
structure Pending (r : Runtime) (directory : Bytes) (d : FlexDisk) : Prop where
  marker : ∃ state, d .marker = some (markerText (r.marker directory state))
  coreBackup : d .coreBackup = some r.stockCore
  extensionBackup : d .extensionBackup = some r.stockExtension
  helperBackup : ∀ bytes, r.originalHelper = some bytes → d .helperBackup = some bytes
  core : d .activeCore = some r.stockCore ∨ d .activeCore = some r.forwarder
  extension : d .activeExtension = some r.stockExtension ∨
    d .activeExtension = some r.optimizedExtension
  helper : d .activeHelper = r.originalHelper ∨ d .activeHelper = some r.optimizedHelper
  relay : d .relayedCore = none ∨ d .relayedCore = some r.optimizedCore

/-- A run of recovery can still go back. -/
def Recoverable (o : Options) (start : FlexDisk) (d : FlexDisk) : Prop :=
  AllStock start d ∨ ∃ r : Runtime, r.Of o start ∧ Pending r o.directory d

namespace Pending

variable {r : Runtime} {directory : Bytes} {d : FlexDisk}

theorem setCore (h : Pending r directory d) {bytes : Bytes}
    (hbytes : bytes = r.stockCore ∨ bytes = r.forwarder) :
    Pending r directory (d.set .activeCore (some bytes)) :=
  ⟨h.marker, h.coreBackup, h.extensionBackup, h.helperBackup,
    hbytes.imp (congrArg some) (congrArg some), h.extension, h.helper, h.relay⟩

theorem setExtension (h : Pending r directory d) {bytes : Bytes}
    (hbytes : bytes = r.stockExtension ∨ bytes = r.optimizedExtension) :
    Pending r directory (d.set .activeExtension (some bytes)) :=
  ⟨h.marker, h.coreBackup, h.extensionBackup, h.helperBackup, h.core,
    hbytes.imp (congrArg some) (congrArg some), h.helper, h.relay⟩

theorem setHelper (h : Pending r directory d) {found : Option Bytes}
    (hfound : found = r.originalHelper ∨ found = some r.optimizedHelper) :
    Pending r directory (d.set .activeHelper found) :=
  ⟨h.marker, h.coreBackup, h.extensionBackup, h.helperBackup, h.core, h.extension, hfound, h.relay⟩

theorem setRelay (h : Pending r directory d) {found : Option Bytes}
    (hfound : found = none ∨ found = some r.optimizedCore) :
    Pending r directory (d.set .relayedCore found) :=
  ⟨h.marker, h.coreBackup, h.extensionBackup, h.helperBackup, h.core, h.extension, h.helper, hfound⟩

theorem setMarker (h : Pending r directory d) (state : LabState) :
    Pending r directory (d.set .marker (some (markerText (r.marker directory state)))) :=
  ⟨⟨state, rfl⟩, h.coreBackup, h.extensionBackup, h.helperBackup, h.core, h.extension, h.helper,
    h.relay⟩

end Pending

/-! ## 3. Restoring -/

section

variable {r : Runtime} {o : Options} {start : FlexDisk} (hof : r.Of o start)
include hof

theorem Runtime.Of.recoverable {d : FlexDisk} (h : Pending r o.directory d) :
    Recoverable o start d :=
  .inr ⟨r, hof, h⟩

theorem leads_restoreHelper {state : LabState} {w : FlexWorld} (hw : Pending r o.directory w.disk)
    (hcore : w.disk .activeCore = some r.stockCore)
    (hextension : w.disk .activeExtension = some r.stockExtension) :
    Leads (restoreHelper (r.marker o.directory state))
      (fun _ v => Pending r o.directory v.disk ∧ v.disk .activeCore = some r.stockCore ∧
        v.disk .activeExtension = some r.stockExtension ∧ v.disk .activeHelper = r.originalHelper)
      (fun v => Recoverable o start v.disk) w := by
  unfold restoreHelper
  by_cases habsent : (r.marker o.directory state).originalHelper = absent
  · rw [if_pos habsent]
    have hnone := (r.originalHelper_absent _ _).mp habsent
    refine leads_removeKnownFile (hof.recoverable hw) (fun hmissing => ?_) fun v hv => ?_
    · exact ⟨hw, hcore, hextension, hmissing.trans hnone.symm⟩
    · have hset := hw.setHelper (.inl hnone.symm)
      rw [← hv] at hset
      refine ⟨⟨hset, ?_, ?_, ?_⟩, hof.recoverable hset⟩
      · exact (congrFun hv _).trans hcore
      · exact (congrFun hv _).trans hextension
      · exact (congrFun hv _).trans ((Disk.set_same _ _ _).trans hnone.symm)
  · rw [if_neg habsent]
    refine leads_replaceVerified _ (fun v hv => hof.recoverable (hv ▸ hw)) fun bytes hsource _ v hv => ?_
    obtain ⟨original, horiginal⟩ := Option.ne_none_iff_exists'.mp
      (mt (r.originalHelper_absent _ _).mpr habsent)
    have hbytes : some bytes = r.originalHelper :=
      hsource.symm.trans ((hw.helperBackup _ horiginal).trans horiginal.symm)
    have hset := hw.setHelper (.inl hbytes)
    rw [← hv] at hset
    refine ⟨⟨hset, ?_, ?_, ?_⟩, hof.recoverable hset⟩
    · exact (congrFun hv _).trans hcore
    · exact (congrFun hv _).trans hextension
    · exact (congrFun hv _).trans ((Disk.set_same _ _ _).trans hbytes)

/-- **Restoring the files** ends with all of them, and can be taken up again wherever it stops. -/
theorem leads_restoreFiles {state : LabState} {w : FlexWorld} (hw : Pending r o.directory w.disk) :
    Leads (restoreFiles (r.marker o.directory state)) (fun _ v => AllStock start v.disk)
      (fun v => Recoverable o start v.disk) w := by
  -- the core
  refine leads_bind ((leads_replaceVerified (fun _ v => Pending r o.directory v.disk ∧
    v.disk .activeCore = some r.stockCore) (fun v hv => hof.recoverable (hv ▸ hw))
    fun bytes hsource _ v hv => ?_).mono (fun _ v ⟨hv, hcore⟩ => ?_) fun _ h => h)
  · have hbytes : bytes = r.stockCore := Option.some.inj (hsource.symm.trans hw.coreBackup)
    have hset := hw.setCore (.inl hbytes)
    rw [← hv] at hset
    exact ⟨⟨hset, (congrFun hv _).trans (congrArg some hbytes)⟩, hof.recoverable hset⟩
  -- the extension
  refine leads_bind ((leads_replaceVerified (fun _ u => Pending r o.directory u.disk ∧
    u.disk .activeCore = some r.stockCore ∧ u.disk .activeExtension = some r.stockExtension)
    (fun u hu => hof.recoverable (hu ▸ hv)) fun bytes hsource _ u hu => ?_).mono
    (fun _ u ⟨hu, hcore, hextension⟩ => ?_) fun _ h => h)
  · have hbytes : bytes = r.stockExtension :=
      Option.some.inj (hsource.symm.trans hv.extensionBackup)
    have hset := hv.setExtension (.inl hbytes)
    rw [← hu] at hset
    refine ⟨⟨hset, (congrFun hu _).trans hcore, ?_⟩, hof.recoverable hset⟩
    exact (congrFun hu _).trans (congrArg some hbytes)
  -- the helper
  refine leads_bind ((leads_restoreHelper hof hu hcore hextension).mono
    (fun _ t ⟨ht, hcore, hextension, hhelper⟩ => ?_) fun _ h => h)
  -- the relay
  have hclear : ∀ t : FlexWorld, Pending r o.directory t.disk ∧
      t.disk .activeCore = some r.stockCore ∧ t.disk .activeExtension = some r.stockExtension ∧
      t.disk .activeHelper = r.originalHelper ∧ t.disk .relayedCore = none →
      Leads (removeFile .marker { code := .ioFailure, message := "FleX transaction marker removal failed" })
        (fun _ v => AllStock start v.disk) (fun v => Recoverable o start v.disk) t := by
    rintro t ⟨ht, hcore, hextension, hhelper, hrelay⟩
    refine leads_removeFile (hof.recoverable ht) fun v hv => ?_
    have hstock : AllStock start v.disk :=
      ⟨(congrFun hv _).trans (hcore.trans hof.stockCore.symm),
        (congrFun hv _).trans (hextension.trans hof.stockExtension.symm),
        (congrFun hv _).trans (hhelper.trans hof.originalHelper.symm),
        (congrFun hv _).trans hrelay, (congrFun hv _).trans (Disk.set_same _ _ _)⟩
    exact ⟨hstock, .inl hstock⟩
  refine leads_bind (leads_careful_bind careful_inspectedExists (hof.recoverable ht)
    fun found hfound => ?_)
  cases found with
  | false =>
    refine leads_pure (hclear t ⟨ht, hcore, hextension, hhelper, ?_⟩)
    exact Option.not_isSome_iff_eq_none.mp fun h => by rw [← value_inspectedExists hfound] at h; cases h
  | true =>
    refine leads_removeKnownFile (hof.recoverable ht) (fun hmissing => ?_) fun v hv => ?_
    · exact hclear t ⟨ht, hcore, hextension, hhelper, hmissing⟩
    · have hset := ht.setRelay (.inl rfl)
      rw [← hv] at hset
      refine ⟨hclear v ⟨hset, (congrFun hv _).trans hcore, (congrFun hv _).trans hextension,
        (congrFun hv _).trans hhelper, (congrFun hv _).trans (Disk.set_same _ _ _)⟩, ?_⟩
      exact hof.recoverable hset

end

section

variable {marker : LabMarker} {d : FlexDisk}

theorem careful_isLegacyMarker : Careful (fun _ => True) (fun _ => True) isLegacyMarker.run :=
  (careful_readBounded trivial _).bind fun _ => careful_pure _

theorem careful_installationIdentity (directory : Bytes) :
    Careful (fun _ => True) (fun _ => True) (installationIdentity directory).run := by
  refine careful_perform trivial ⟨_, trivial, rfl⟩ fun answer => ?_
  cases answer
  case done => exact careful_sha256Hex _
  all_goals exact .ret _

theorem careful_ownedMarker (directory : Bytes) :
    Careful (fun _ => True) (fun _ => True) (ownedMarker directory).run := by
  refine Careful.bind ((careful_readBounded trivial _).bind fun _ => careful_liftExcept _) fun _ => ?_
  refine (careful_installationIdentity directory).bind fun _ => ?_
  exact (careful_ensure _ _).bind fun _ => careful_pure _

theorem careful_preflight (running : Bool) :
    Careful (fun _ => True) (fun _ => True) (preflight running).run := by
  refine (careful_ensure _ _).bind fun _ => ?_
  refine careful_perform trivial ⟨_, trivial, rfl⟩ fun answer => ?_
  cases answer
  case done =>
    refine careful_perform trivial ⟨_, trivial, rfl⟩ fun answer => ?_
    cases answer <;> exact .ret _
  all_goals exact .ret _

/-- A marker of this runtime is not taken for an older one. -/
theorem value_isLegacyMarker {legacy : Bool} (hd : d .marker = some (markerText marker))
    (h : value isLegacyMarker.run d = .ok legacy) : legacy = false := by
  obtain ⟨bytes, hbytes, h⟩ := value_bind_eq_ok.mp h
  obtain ⟨hread, -⟩ := value_readBounded_eq_ok.mp hbytes
  cases h
  rw [Option.some.inj (hread.symm.trans hd)]
  exact decide_eq_false (not_legacy_markerText marker)

/-- The marker that is read is the one that was written. -/
theorem value_ownedMarker {found : LabMarker} {directory : Bytes}
    (hd : d .marker = some (markerText marker)) (hvalid : marker.Valid)
    (h : value (ownedMarker directory).run d = .ok found) : found = marker := by
  obtain ⟨parsed, hparsed, h⟩ := value_bind_eq_ok.mp h
  obtain ⟨bytes, hbytes, hdecode⟩ := value_bind_eq_ok.mp hparsed
  obtain ⟨hread, -⟩ := value_readBounded_eq_ok.mp hbytes
  rw [value_liftExcept, Option.some.inj (hread.symm.trans hd),
    decodeMarker_markerText hvalid] at hdecode
  obtain ⟨_, -, h⟩ := value_bind_eq_ok.mp h
  obtain ⟨_, -, h⟩ := value_bind_eq_ok.mp h
  cases h
  cases hdecode
  rfl

theorem careful_verifiedSource {path : FlexFile} {expected : Bytes} :
    Careful (fun _ => True) (fun _ => True) (verifiedSource path expected).run :=
  careful_inspectedExists.bind fun _ => (careful_ensure _ _).bind fun _ =>
    careful_hashFile.bind fun _ => careful_ensure _ _

theorem careful_requireKnownCurrent {path : FlexFile} {expected : List Bytes} {allowMissing : Bool} :
    Careful (fun _ => True) (fun _ => True) (requireKnownCurrent path expected allowMissing).run := by
  refine careful_inspectedExists.bind fun found => ?_
  cases found with
  | false => exact careful_ensure _ _
  | true => exact careful_hashFile.bind fun _ => careful_ensure _ _

theorem careful_verifyRestore : Careful (fun _ => True) (fun _ => True) (verifyRestore marker).run := by
  have hcopy : Careful (fun _ => True) (fun _ => True) (verifyHelperCopy marker).run := by
    unfold verifyHelperCopy
    split
    exacts [careful_pure _, careful_verifiedSource]
  have hhelper : Careful (fun _ => True) (fun _ => True) (requireKnownHelper marker).run := by
    unfold requireKnownHelper
    split
    exacts [careful_requireKnownCurrent, careful_requireKnownCurrent]
  exact careful_verifiedSource.bind fun _ => careful_verifiedSource.bind fun _ =>
    hcopy.bind fun _ => careful_requireKnownCurrent.bind fun _ =>
    careful_requireKnownCurrent.bind fun _ => hhelper.bind fun _ => careful_requireKnownCurrent

end

/-- **Restoring** brings everything back, or leaves what it takes to try again. -/
theorem leads_restore {o : Options} {start : FlexDisk} {running : Bool} {w : FlexWorld}
    (hw : Recoverable o start w.disk) :
    Leads (restoreOptimizedRuntimeTransaction o.directory running)
      (fun _ v => AllStock start v.disk) (fun v => Recoverable o start v.disk) w := by
  refine leads_careful_bind (careful_preflight running) hw fun _ _ => ?_
  refine leads_careful_bind careful_inspectedExists hw fun found hfound => ?_
  refine leads_ensure_bind hw fun htrue => ?_
  obtain hstock | ⟨r, hof, hpending⟩ := hw
  · rw [value_inspectedExists hfound, hstock.marker] at htrue
    cases htrue
  obtain ⟨state, hmarker⟩ := hpending.marker
  have hJ := hof.recoverable hpending
  refine leads_careful_bind careful_isLegacyMarker hJ fun legacy hlegacy => ?_
  rw [value_isLegacyMarker hmarker hlegacy]
  refine leads_careful_bind (careful_ownedMarker _) hJ fun marker hvalue => ?_
  rw [value_ownedMarker hmarker (r.marker_valid _ _) hvalue]
  refine leads_careful_bind careful_verifyRestore hJ fun _ _ => ?_
  exact leads_bind ((leads_restoreFiles hof hpending).mono (fun _ v hv => leads_pure hv) fun _ h => h)

/-! ## 4. Recovering -/

section

variable {w : FlexWorld} {J : FlexWorld → Prop} {path : FlexFile} {expected : Bytes}

/-- A file that is found to have the digest has it. -/
theorem leads_hasHash (hJ : J w) :
    Leads (hasHash path expected) (fun yes v => v = w ∧ (yes = true →
      ∃ bytes, w.disk path = some bytes ∧ digestHex bytes = expected)) J w := by
  have hread : Leads (hashFile path) (fun hash v => v = w ∧ value (hashFile path).run w.disk = .ok hash)
      (· = w) w := leads_careful careful_hashFile rfl fun hash hhash => ⟨rfl, hhash⟩
  refine leads_bind (leads_attempt hread ?_ ?_ ?_)
  · rintro hash v ⟨rfl, hhash⟩
    obtain ⟨bytes, hbytes, rfl⟩ := value_hashFile hhash
    exact leads_pure ⟨rfl, fun hyes => ⟨bytes, hbytes, of_decide_eq_true hyes⟩⟩
  · rintro e v rfl
    exact leads_pure ⟨rfl, fun h => by cases h⟩
  · rintro v rfl
    exact hJ

theorem leads_hasCopy (hJ : J w) :
    Leads (hasCopy path expected) (fun _ v => v = w) J w := by
  have hread : Leads (verifiedSource path expected) (fun _ v => v = w) (· = w) w :=
    leads_careful careful_verifiedSource rfl fun _ _ => rfl
  refine leads_bind (leads_attempt hread ?_ ?_ ?_)
  · rintro _ v rfl
    exact leads_pure rfl
  · rintro e v rfl
    exact leads_pure rfl
  · rintro v rfl
    exact hJ

end

/-- Every component has the digest of what is installed. -/
structure HasDigests (marker : LabMarker) (d : FlexDisk) : Prop where
  core : ∃ bytes, d .activeCore = some bytes ∧ digestHex bytes = marker.forwarder
  relay : ∃ bytes, d .relayedCore = some bytes ∧ digestHex bytes = marker.optimizedCore
  extension : ∃ bytes, d .activeExtension = some bytes ∧ digestHex bytes = marker.optimizedExtension
  helper : ∃ bytes, d .activeHelper = some bytes ∧ digestHex bytes = marker.optimizedHelper

/-- **What counts as installed** is marked so, and every component has its digest. -/
theorem leads_isInstalled {marker : LabMarker} {w : FlexWorld} {J : FlexWorld → Prop} (hJ : J w) :
    Leads (isInstalled marker) (fun yes v => v = w ∧ (yes = true →
      marker.state = LabState.installed.text ∧ HasDigests marker w.disk)) J w := by
  unfold isInstalled
  by_cases hstate : marker.state = LabState.installed.text
  · rw [if_pos hstate]
    refine leads_bind ((leads_hasHash hJ).mono ?_ fun _ h => h)
    rintro core _ ⟨rfl, hcore⟩
    refine leads_bind ((leads_hasHash hJ).mono ?_ fun _ h => h)
    rintro relay _ ⟨rfl, hrelay⟩
    refine leads_bind ((leads_hasHash hJ).mono ?_ fun _ h => h)
    rintro extension _ ⟨rfl, hextension⟩
    refine leads_bind ((leads_hasHash hJ).mono ?_ fun _ h => h)
    rintro helper u ⟨rfl, hhelper⟩
    refine leads_bind ((leads_hasCopy hJ).mono ?_ fun _ h => h)
    rintro coreCopy _ rfl
    refine leads_bind ((leads_hasCopy hJ).mono ?_ fun _ h => h)
    rintro extensionCopy v rfl
    have hcopy : Leads (hasHelperCopy marker) (fun _ u => u = v) J v := by
      unfold hasHelperCopy
      split
      exacts [leads_pure rfl, leads_hasCopy hJ]
    refine leads_bind (hcopy.mono ?_ fun _ h => h)
    rintro helperCopy _ rfl
    refine leads_pure ⟨rfl, fun hall => ⟨hstate, ?_⟩⟩
    simp only [Bool.and_eq_true] at hall
    obtain ⟨⟨⟨⟨⟨⟨h1, h2⟩, h3⟩, h4⟩, -⟩, -⟩, -⟩ := hall
    exact ⟨hcore h1, hrelay h2, hextension h3, hhelper h4⟩
  · rw [if_neg hstate]
    exact leads_pure ⟨rfl, fun h => by cases h⟩

/-- What has the digests of what is installed is what is installed. -/
theorem Pending.allOptimized {r : Runtime} {o : Options} {start d : FlexDisk} (hof : r.Of o start)
    (hdigest : CollisionFree {bytes | ∃ p, start p = some bytes}) (hpending : Pending r o.directory d)
    {state : LabState} (hmarker : d .marker = some (markerText (r.marker o.directory state)))
    (hstate : (r.marker o.directory state).state = LabState.installed.text)
    (hdigests : HasDigests (r.marker o.directory state) d) : AllOptimized o start d := by
  have hsame : ∀ {p q : FlexFile} {a b : Bytes}, start p = some a → start q = some b →
      digestHex a = digestHex b → a = b := fun hp hq heq => hdigest.eq ⟨_, hp⟩ ⟨_, hq⟩ heq
  obtain ⟨⟨core, hcore, hcoreDigest⟩, ⟨relay, hrelay, -⟩, ⟨extension, hextension, hextensionDigest⟩,
    ⟨helper, hhelper, hhelperDigest⟩⟩ := hdigests
  refine ⟨?_, ?_, ?_, ?_, _, _, hmarker, decodeMarker_markerText (r.marker_valid _ _), hstate⟩
  · rcases hpending.core with h | h
    · rw [Option.some.inj (hcore.symm.trans h)] at hcoreDigest
      rw [h, hof.forwarder, hsame hof.stockCore hof.forwarder hcoreDigest]
    · rw [h, hof.forwarder]
  · rcases hpending.relay with h | h
    · rw [h] at hrelay
      cases hrelay
    · rw [h, hof.optimizedCore]
  · rcases hpending.extension with h | h
    · rw [Option.some.inj (hextension.symm.trans h)] at hextensionDigest
      rw [h, hof.optimizedExtension,
        hsame hof.stockExtension hof.optimizedExtension hextensionDigest]
    · rw [h, hof.optimizedExtension]
  · rcases hpending.helper with h | h
    · have horiginal := hof.originalHelper
      rw [← h, hhelper] at horiginal
      rw [hhelper, hof.optimizedHelper, hsame horiginal hof.optimizedHelper hhelperDigest]
    · rw [h, hof.optimizedHelper]

/-- **Recovering** ends with all stock files or with all that is installed, and leaves what it takes
to try again wherever it stops. -/
theorem leads_recover {o : Options} {start : FlexDisk} (running : Bool) {w : FlexWorld}
    (hdigest : CollisionFree {bytes | ∃ p, start p = some bytes}) (hw : Recoverable o start w.disk) :
    Leads (recoverOptimizedRuntimeTransaction o.directory running)
      (fun _ v => Recoverable o start v.disk ∧ (AllStock start v.disk ∨ AllOptimized o start v.disk))
      (fun v => Recoverable o start v.disk) w := by
  refine leads_careful_bind careful_inspectedExists hw fun found hfound => ?_
  have hrestore : Leads (restoreOptimizedRuntimeTransaction o.directory running)
      (fun _ v => Recoverable o start v.disk ∧ (AllStock start v.disk ∨ AllOptimized o start v.disk))
      (fun v => Recoverable o start v.disk) w :=
    (leads_restore hw).mono (fun _ _ h => ⟨.inl h, .inl h⟩) fun _ h => h
  obtain hstock | ⟨r, hof, hpending⟩ := hw
  · rw [value_inspectedExists hfound, hstock.marker]
    refine leads_careful_bind careful_inspectedExists (.inl hstock) fun relay _ => ?_
    exact leads_ensure_bind (.inl hstock) fun _ => leads_pure ⟨.inl hstock, .inl hstock⟩
  · obtain ⟨state, hmarker⟩ := hpending.marker
    rw [value_inspectedExists hfound, hmarker]
    have hJ := hof.recoverable hpending
    refine leads_careful_bind careful_isLegacyMarker hJ fun legacy hlegacy => ?_
    rw [value_isLegacyMarker hmarker hlegacy]
    refine leads_careful_bind (careful_ownedMarker _) hJ fun marker hvalue => ?_
    rw [value_ownedMarker hmarker (r.marker_valid _ _) hvalue]
    refine leads_bind ((leads_isInstalled hJ).mono ?_ fun _ h => h)
    rintro yes v ⟨rfl, hyes⟩
    cases yes with
    | false => exact hrestore
    | true =>
      obtain ⟨hstate, hdigests⟩ := hyes rfl
      exact leads_pure ⟨hJ, .inr (hpending.allOptimized hof hdigest hmarker hstate hdigests)⟩

/-! ## 5. Installing -/

/-- No file that the options name is written before it is read. -/
theorem Options.Named.ne {o : Options} (h : o.Named) {p : FlexFile}
    (hp : p.filename ∉ ["flexRelease_x64.forwarder-lab.dll", "flexRelease_x64.optimized.dll",
      "flexExtRelease_x64.optimized.dll", "kf2_p4_overlap.dll"]) :
    o.forwarderDll ≠ p ∧ o.optimizedCoreDll ≠ p ∧ o.optimizedExtensionDll ≠ p ∧
      o.optimizedHelperDll ≠ p := by
  obtain ⟨h1, h2, h3, h4⟩ := h
  refine ⟨?_, ?_, ?_, ?_⟩
  all_goals
    rintro rfl
    simp_all

section

variable {r : Runtime} {o : Options} {d : FlexDisk} {p : FlexFile} {b : Option Bytes}

theorem Runtime.Sources.set (h : r.Sources o d) (hnamed : o.Named)
    (hp : p.filename ∉ ["flexRelease_x64.forwarder-lab.dll", "flexRelease_x64.optimized.dll",
      "flexExtRelease_x64.optimized.dll", "kf2_p4_overlap.dll"]) : r.Sources o (d.set p b) := by
  obtain ⟨h1, h2, h3, h4⟩ := hnamed.ne hp
  exact ⟨(Disk.set_other d b h1).trans h.forwarder, (Disk.set_other d b h2).trans h.optimizedCore,
    (Disk.set_other d b h3).trans h.optimizedExtension,
    (Disk.set_other d b h4).trans h.optimizedHelper⟩

/-- The helper may be installed from its own place. -/
theorem Runtime.Sources.setHelper (h : r.Sources o d) (hnamed : o.Named) :
    r.Sources o (d.set .activeHelper (some r.optimizedHelper)) := by
  have hname : ∀ {q : FlexFile}, q.filename ≠ "kf2_p4_overlap.dll" → q ≠ .activeHelper := by
    rintro q hq rfl
    exact hq rfl
  obtain ⟨h1, h2, h3, -⟩ := hnamed
  refine ⟨?_, ?_, ?_, ?_⟩
  · rw [Disk.set_other _ _ (hname (by rw [h1]; decide)), h.forwarder]
  · rw [Disk.set_other _ _ (hname (by rw [h2]; decide)), h.optimizedCore]
  · rw [Disk.set_other _ _ (hname (by rw [h3]; decide)), h.optimizedExtension]
  · by_cases heq : o.optimizedHelperDll = .activeHelper
    · rw [heq, Disk.set_same]
    · rw [Disk.set_other _ _ heq, h.optimizedHelper]

theorem careful_originalHelperHash :
    Careful (fun _ => True) (fun _ => True) originalHelperHash.run := by
  refine careful_inspectedExists.bind fun found => ?_
  cases found
  exacts [careful_pure _, careful_hashFile]

theorem careful_prepareInstall (recipes : Option Recipes) :
    Careful (fun _ => True) (fun _ => True) (prepareInstall recipes o).run :=
  (careful_preflight _).bind fun _ => (careful_ensure _ _).bind fun _ =>
    (careful_ensure _ _).bind fun _ => careful_inspectedExists.bind fun _ =>
    careful_inspectedExists.bind fun _ => (careful_ensure _ _).bind fun _ =>
    careful_hashFile.bind fun _ => careful_hashFile.bind fun _ => careful_hashFile.bind fun _ =>
    careful_hashFile.bind fun _ => careful_hashFile.bind fun _ => careful_hashFile.bind fun _ =>
    (careful_installationIdentity _).bind fun _ => (careful_ensure _ _).bind fun _ =>
    careful_originalHelperHash.bind fun _ => careful_pure _

theorem value_installationIdentity {directory owner : Bytes}
    (h : value (installationIdentity directory).run d = .ok owner) : owner = digestHex directory := by
  injection h with h
  exact h.symm

theorem value_originalHelperHash {hash : Bytes} (h : value originalHelperHash.run d = .ok hash) :
    hash = (d .activeHelper).elim absent digestHex := by
  obtain ⟨found, hfound, h⟩ := value_bind_eq_ok.mp h
  rw [value_inspectedExists hfound] at h
  cases hd : d .activeHelper with
  | none =>
    rw [hd] at h
    injection h with h
    exact h.symm
  | some bytes =>
    rw [hd] at h
    obtain ⟨bytes', hbytes', rfl⟩ := value_hashFile h
    rw [Option.some.inj (hd.symm.trans hbytes')]
    rfl

/-- **What installing starts with**: the files that there are, and their digests. -/
theorem value_prepareInstall {recipes : Option Recipes} {marker : LabMarker}
    (h : value (prepareInstall recipes o).run d = .ok marker) :
    o.Named ∧ ∃ r : Runtime, r.Of o d ∧ marker = r.marker o.directory .installing := by
  obtain ⟨_, -, h⟩ := value_bind_eq_ok.mp h
  obtain ⟨_, -, h⟩ := value_bind_eq_ok.mp h
  obtain ⟨_, hnamed, h⟩ := value_bind_eq_ok.mp h
  obtain ⟨_, -, h⟩ := value_bind_eq_ok.mp h
  obtain ⟨_, -, h⟩ := value_bind_eq_ok.mp h
  obtain ⟨_, -, h⟩ := value_bind_eq_ok.mp h
  obtain ⟨_, hstockCore, h⟩ := value_bind_eq_ok.mp h
  obtain ⟨_, hstockExtension, h⟩ := value_bind_eq_ok.mp h
  obtain ⟨_, hforwarder, h⟩ := value_bind_eq_ok.mp h
  obtain ⟨_, hoptimizedCore, h⟩ := value_bind_eq_ok.mp h
  obtain ⟨_, hoptimizedExtension, h⟩ := value_bind_eq_ok.mp h
  obtain ⟨_, hoptimizedHelper, h⟩ := value_bind_eq_ok.mp h
  obtain ⟨_, howner, h⟩ := value_bind_eq_ok.mp h
  obtain ⟨_, -, h⟩ := value_bind_eq_ok.mp h
  obtain ⟨_, horiginalHelper, h⟩ := value_bind_eq_ok.mp h
  obtain ⟨stockCore, h1, rfl⟩ := value_hashFile hstockCore
  obtain ⟨stockExtension, h2, rfl⟩ := value_hashFile hstockExtension
  obtain ⟨forwarder, h3, rfl⟩ := value_hashFile hforwarder
  obtain ⟨optimizedCore, h4, rfl⟩ := value_hashFile hoptimizedCore
  obtain ⟨optimizedExtension, h5, rfl⟩ := value_hashFile hoptimizedExtension
  obtain ⟨optimizedHelper, h6, rfl⟩ := value_hashFile hoptimizedHelper
  rw [value_installationIdentity howner, value_originalHelperHash horiginalHelper] at h
  injection h with h
  refine ⟨value_ensure_eq_ok.mp hnamed, ⟨stockCore, stockExtension, d .activeHelper, forwarder,
    optimizedCore, optimizedExtension, optimizedHelper⟩, ⟨⟨h3, h4, h5, h6⟩, h1, h2, rfl⟩, h.symm⟩

/-- Nothing has been replaced yet. -/
structure Untouched (r : Runtime) (o : Options) (d : FlexDisk) : Prop extends r.Of o d where
  relay : d .relayedCore = none
  marker : d .marker = none

theorem Untouched.recoverable {start : FlexDisk} (hof : r.Of o start) (h : Untouched r o d) :
    Recoverable o start d :=
  .inl ⟨h.stockCore.trans hof.stockCore.symm, h.stockExtension.trans hof.stockExtension.symm,
    h.originalHelper.trans hof.originalHelper.symm, h.relay, h.marker⟩

theorem Untouched.setCopy (h : Untouched r o d) (hnamed : o.Named)
    (hp : p ∈ [FlexFile.coreBackup, .extensionBackup, .helperBackup]) :
    Untouched r o (d.set p b) := by
  simp only [List.mem_cons, List.not_mem_nil, or_false] at hp
  obtain rfl | rfl | rfl := hp
  · exact ⟨⟨h.set hnamed (by decide), h.stockCore, h.stockExtension, h.originalHelper⟩, h.relay,
      h.marker⟩
  · exact ⟨⟨h.set hnamed (by decide), h.stockCore, h.stockExtension, h.originalHelper⟩, h.relay,
      h.marker⟩
  · exact ⟨⟨h.set hnamed (by decide), h.stockCore, h.stockExtension, h.originalHelper⟩, h.relay,
      h.marker⟩

theorem leads_backUpHelper {start : FlexDisk} (hof : r.Of o start) (hnamed : o.Named) {w : FlexWorld}
    (hw : Untouched r o w.disk) (hcore : w.disk .coreBackup = some r.stockCore)
    (hextension : w.disk .extensionBackup = some r.stockExtension) :
    Leads (backUpHelper (r.marker o.directory .installing))
      (fun _ v => Untouched r o v.disk ∧ v.disk .coreBackup = some r.stockCore ∧
        v.disk .extensionBackup = some r.stockExtension ∧
        ∀ bytes, r.originalHelper = some bytes → v.disk .helperBackup = some bytes)
      (fun v => Recoverable o start v.disk) w := by
  unfold backUpHelper
  by_cases habsent : (r.marker o.directory .installing).originalHelper = absent
  · rw [if_pos habsent]
    refine leads_pure ⟨hw, hcore, hextension, fun bytes hbytes => ?_⟩
    rw [(r.originalHelper_absent _ _).mp habsent] at hbytes
    cases hbytes
  · rw [if_neg habsent]
    refine leads_replaceVerified _ (fun v hv => (hv ▸ hw).recoverable hof) fun bytes hsource _ v hv => ?_
    have hset := hw.setCopy (b := some bytes) hnamed (p := .helperBackup) (by decide)
    rw [← hv] at hset
    refine ⟨⟨hset, (congrFun hv _).trans hcore, (congrFun hv _).trans hextension, fun found hfound => ?_⟩,
      hset.recoverable hof⟩
    rw [congrFun hv _, Disk.set_same, ← hsource, hw.originalHelper, hfound]

/-- **The marker is written** when the copies are there. -/
theorem leads_backUp {start : FlexDisk} (hof : r.Of o start) (hnamed : o.Named) {w : FlexWorld}
    (hw : Untouched r o w.disk) :
    Leads (backUp (r.marker o.directory .installing))
      (fun _ v => Pending r o.directory v.disk ∧ r.Sources o v.disk)
      (fun v => Recoverable o start v.disk) w := by
  refine leads_bind ((leads_replaceVerified (fun _ v => Untouched r o v.disk ∧
    v.disk .coreBackup = some r.stockCore) (fun v hv => (hv ▸ hw).recoverable hof)
    fun bytes hsource _ v hv => ?_).mono (fun _ v ⟨hv, hcore⟩ => ?_) fun _ h => h)
  · have hset := hw.setCopy (b := some bytes) hnamed (p := .coreBackup) (by decide)
    rw [← hv] at hset
    refine ⟨⟨hset, ?_⟩, hset.recoverable hof⟩
    rw [congrFun hv _, Disk.set_same, ← hsource, hw.stockCore]
  refine leads_bind ((leads_replaceVerified (fun _ u => Untouched r o u.disk ∧
    u.disk .coreBackup = some r.stockCore ∧ u.disk .extensionBackup = some r.stockExtension)
    (fun u hu => (hu ▸ hv).recoverable hof) fun bytes hsource _ u hu => ?_).mono
    (fun _ u ⟨hu, hcore, hextension⟩ => ?_) fun _ h => h)
  · have hset := hv.setCopy (b := some bytes) hnamed (p := .extensionBackup) (by decide)
    rw [← hu] at hset
    refine ⟨⟨hset, (congrFun hu _).trans hcore, ?_⟩, hset.recoverable hof⟩
    rw [congrFun hu _, Disk.set_same, ← hsource, hv.stockExtension]
  refine leads_bind ((leads_backUpHelper hof hnamed hu hcore hextension).mono
    (fun _ t ⟨ht, hcore, hextension, hhelper⟩ => ?_) fun _ h => h)
  have hpending : Pending r o.directory
      (t.disk.set .marker (some (markerText (r.marker o.directory .installing)))) :=
    ⟨⟨.installing, rfl⟩, hcore, hextension, hhelper, .inl ht.stockCore, .inl ht.stockExtension,
      .inl ht.originalHelper, .inl ht.relay⟩
  exact leads_bind (leads_perform ⟨hpending, ht.set hnamed (by decide)⟩
    (leads_throw (ht.recoverable hof)) (leads_throw (hof.recoverable hpending)) (ht.recoverable hof))

/-- **Installing the files** keeps what it takes to go back. -/
theorem leads_installFiles {start : FlexDisk} (hof : r.Of o start) (hnamed : o.Named) {w : FlexWorld}
    (hw : Pending r o.directory w.disk) (hsources : r.Sources o w.disk) {state : LabState} :
    Leads (installFiles o (r.marker o.directory state)) (fun _ v => Pending r o.directory v.disk)
      (fun v => Recoverable o start v.disk) w := by
  refine leads_bind ((leads_replaceVerified (fun _ v => Pending r o.directory v.disk ∧
    r.Sources o v.disk) (fun v hv => hof.recoverable (hv ▸ hw)) fun bytes hsource _ v hv => ?_).mono
    (fun _ v ⟨hv, hsources⟩ => ?_) fun _ h => h)
  · have hset := hw.setRelay (.inr (hsource.symm.trans hsources.optimizedCore))
    rw [← hv] at hset
    exact ⟨⟨hset, hv ▸ hsources.set hnamed (by decide)⟩, hof.recoverable hset⟩
  refine leads_bind ((leads_replaceVerified (fun _ u => Pending r o.directory u.disk ∧
    r.Sources o u.disk) (fun u hu => hof.recoverable (hu ▸ hv)) fun bytes hsource _ u hu => ?_).mono
    (fun _ u ⟨hu, hsources⟩ => ?_) fun _ h => h)
  · have hbytes : bytes = r.optimizedExtension :=
      Option.some.inj (hsource.symm.trans hsources.optimizedExtension)
    have hset := hv.setExtension (.inr hbytes)
    rw [← hu] at hset
    exact ⟨⟨hset, hu ▸ hsources.set hnamed (by decide)⟩, hof.recoverable hset⟩
  refine leads_bind ((leads_replaceVerified (fun _ t => Pending r o.directory t.disk ∧
    r.Sources o t.disk) (fun t ht => hof.recoverable (ht ▸ hu)) fun bytes hsource _ t ht => ?_).mono
    (fun _ t ⟨ht, hsources⟩ => ?_) fun _ h => h)
  · have hbytes : bytes = r.optimizedHelper :=
      Option.some.inj (hsource.symm.trans hsources.optimizedHelper)
    have hset := hu.setHelper (.inr (congrArg some hbytes))
    rw [← ht] at hset
    refine ⟨⟨hset, ?_⟩, hof.recoverable hset⟩
    rw [ht, hbytes]
    exact hsources.setHelper hnamed
  refine leads_replaceVerified _ (fun v hv => hof.recoverable (hv ▸ ht)) fun bytes hsource _ v hv => ?_
  have hbytes : bytes = r.forwarder := Option.some.inj (hsource.symm.trans hsources.forwarder)
  have hset := ht.setCore (.inr hbytes)
  rw [← hv] at hset
  exact ⟨hset, hof.recoverable hset⟩

/-- **Installing** leaves what it takes to go back, whatever becomes of it. -/
theorem leads_install (recipes : Option Recipes) {w : FlexWorld} (hrelay : w.disk .relayedCore = none)
    (hmarker : w.disk .marker = none) :
    Leads (installOptimizedRuntimeTransaction recipes o) (fun _ v => Recoverable o w.disk v.disk)
      (fun v => Recoverable o w.disk v.disk) w := by
  have hrollBack : ∀ (e : Error) (v : FlexWorld), Recoverable o w.disk v.disk →
      Leads (rollBack o e : FlexTask InstallResult) (fun _ v => Recoverable o w.disk v.disk)
        (fun v => Recoverable o w.disk v.disk) v := fun e v hv =>
    leads_bind ((leads_restore hv).mono (fun _ _ h => leads_throw (.inl h)) fun _ h => h)
  have hstart : Recoverable o w.disk w.disk := .inl ⟨rfl, rfl, rfl, hrelay, hmarker⟩
  refine leads_careful_bind (careful_prepareInstall recipes) hstart fun marker hvalue => ?_
  obtain ⟨hnamed, r, hof, rfl⟩ := value_prepareInstall hvalue
  refine leads_bind ((leads_backUp hof hnamed ⟨hof, hrelay, hmarker⟩).mono
    (fun _ v ⟨hv, hsources⟩ => ?_) fun _ h => h)
  refine leads_bind (leads_attempt (leads_installFiles hof hnamed hv hsources) (fun _ u hu => ?_)
    (fun _ u hu => hrollBack _ u hu) fun _ h => h)
  by_cases hsimulate : o.simulateFailureAfterInstall = true
  · simp only [if_pos hsimulate]
    exact hrollBack _ u (hof.recoverable hu)
  · simp only [if_neg hsimulate]
    have hset := hof.recoverable (hu.setMarker .installed)
    have hwrite : Leads (atomicReplace .marker (markerText (r.marker o.directory .installed)))
        (fun _ v => Recoverable o w.disk v.disk) (fun v => Recoverable o w.disk v.disk) u :=
      leads_bind (leads_perform (leads_pure hset) (leads_throw (hof.recoverable hu))
        (leads_throw hset) (hof.recoverable hu))
    exact leads_bind (leads_attempt hwrite (fun _ _ h => leads_pure h)
      (fun e v h => hrollBack e v h) fun _ h => h)

end

/-! ## 6. What others have changed -/

/-- The file is one of those that are expected, or is missing and may be. -/
def Expected (path : FlexFile) (hashes : List Bytes) (allowMissing : Bool) (d : FlexDisk) : Prop :=
  match d path with
  | none => allowMissing = true
  | some bytes => digestHex bytes ∈ hashes

/-- Every component holds what the transaction can have left there. -/
structure Known (marker : LabMarker) (d : FlexDisk) : Prop where
  core : Expected .activeCore [marker.stockCore, marker.forwarder] false d
  extension : Expected .activeExtension [marker.stockExtension, marker.optimizedExtension] false d
  helper : if marker.originalHelper = absent then
      Expected .activeHelper [marker.optimizedHelper] true d
    else Expected .activeHelper [marker.originalHelper, marker.optimizedHelper] false d
  relay : Expected .relayedCore [marker.optimizedCore] true d

theorem expected_of_digest {path : FlexFile} {hash : Bytes} {hashes : List Bytes} {allowMissing : Bool}
    {d : FlexDisk} (h : ∃ bytes, d path = some bytes ∧ digestHex bytes = hash) (hmem : hash ∈ hashes) :
    Expected path hashes allowMissing d := by
  obtain ⟨bytes, hbytes, rfl⟩ := h
  rw [Expected, hbytes]
  exact hmem

theorem HasDigests.known {marker : LabMarker} {d : FlexDisk} (h : HasDigests marker d) :
    Known marker d := by
  refine ⟨expected_of_digest h.core (by simp), expected_of_digest h.extension (by simp), ?_,
    expected_of_digest h.relay (by simp)⟩
  split
  exacts [expected_of_digest h.helper (by simp), expected_of_digest h.helper (by simp)]

theorem value_requireKnownCurrent {path : FlexFile} {hashes : List Bytes} {allowMissing : Bool}
    {d : FlexDisk} {u : Unit} (h : value (requireKnownCurrent path hashes allowMissing).run d = .ok u) :
    Expected path hashes allowMissing d := by
  obtain ⟨found, hfound, h⟩ := value_bind_eq_ok.mp h
  rw [value_inspectedExists hfound] at h
  cases hd : d path with
  | none =>
    rw [hd] at h
    rw [Expected, hd]
    exact value_ensure_eq_ok.mp h
  | some bytes =>
    rw [hd] at h
    obtain ⟨hash, hhash, h⟩ := value_bind_eq_ok.mp h
    obtain ⟨bytes', hbytes', rfl⟩ := value_hashFile hhash
    exact expected_of_digest ⟨bytes', hbytes', rfl⟩ (value_ensure_eq_ok.mp h)

theorem value_verifyRestore {marker : LabMarker} {d : FlexDisk} {u : Unit}
    (h : value (verifyRestore marker).run d = .ok u) : Known marker d := by
  obtain ⟨_, -, h⟩ := value_bind_eq_ok.mp h
  obtain ⟨_, -, h⟩ := value_bind_eq_ok.mp h
  obtain ⟨_, -, h⟩ := value_bind_eq_ok.mp h
  obtain ⟨_, hcore, h⟩ := value_bind_eq_ok.mp h
  obtain ⟨_, hextension, h⟩ := value_bind_eq_ok.mp h
  obtain ⟨_, hhelper, hrelay⟩ := value_bind_eq_ok.mp h
  refine ⟨value_requireKnownCurrent hcore, value_requireKnownCurrent hextension, ?_,
    value_requireKnownCurrent hrelay⟩
  unfold requireKnownHelper at hhelper
  split
  · rename_i habsent
    rw [if_pos habsent] at hhelper
    exact value_requireKnownCurrent hhelper
  · rename_i habsent
    rw [if_neg habsent] at hhelper
    exact value_requireKnownCurrent hhelper

/-- **What is not known is not touched.** -/
theorem leads_recover_unknown (directory : Bytes) (running : Bool) {marker : LabMarker} {w : FlexWorld}
    (hmarker : w.disk .marker = some (markerText marker)) (hvalid : marker.Valid)
    (hunknown : ¬ Known marker w.disk) :
    Leads (recoverOptimizedRuntimeTransaction directory running) (fun _ _ => False) (· = w) w := by
  have hrestore : Leads (restoreOptimizedRuntimeTransaction directory running) (fun _ _ => False)
      (· = w) w := by
    refine leads_careful_bind (careful_preflight running) rfl fun _ _ => ?_
    refine leads_careful_bind careful_inspectedExists rfl fun found _ => ?_
    refine leads_ensure_bind rfl fun _ => ?_
    refine leads_careful_bind careful_isLegacyMarker rfl fun legacy hlegacy => ?_
    rw [value_isLegacyMarker hmarker hlegacy]
    refine leads_careful_bind (careful_ownedMarker _) rfl fun found hvalue => ?_
    rw [value_ownedMarker hmarker hvalid hvalue]
    exact leads_careful_bind careful_verifyRestore rfl fun _ hverified =>
      absurd (value_verifyRestore hverified) hunknown
  refine leads_careful_bind careful_inspectedExists rfl fun found hfound => ?_
  rw [value_inspectedExists hfound, hmarker]
  refine leads_careful_bind careful_isLegacyMarker rfl fun legacy hlegacy => ?_
  rw [value_isLegacyMarker hmarker hlegacy]
  refine leads_careful_bind (careful_ownedMarker _) rfl fun found hvalue => ?_
  rw [value_ownedMarker hmarker hvalid hvalue]
  refine leads_bind ((leads_isInstalled (J := (· = w)) rfl).mono ?_ fun _ h => h)
  rintro yes v ⟨rfl, hyes⟩
  cases yes with
  | false => exact hrestore
  | true => exact absurd (hyes rfl).2.known hunknown

/-- Without a marker nothing is touched, and a relay is not taken for stock. -/
theorem leads_recover_unmarked (directory : Bytes) (running : Bool) {w : FlexWorld}
    (hmarker : w.disk .marker = none) :
    Leads (recoverOptimizedRuntimeTransaction directory running)
      (fun _ v => v = w ∧ w.disk .relayedCore = none) (· = w) w := by
  refine leads_careful_bind careful_inspectedExists rfl fun found hfound => ?_
  rw [value_inspectedExists hfound, hmarker]
  refine leads_careful_bind careful_inspectedExists rfl fun relay hrelay => ?_
  refine leads_ensure_bind rfl fun hfalse => leads_pure ⟨rfl, ?_⟩
  exact Option.not_isSome_iff_eq_none.mp fun h => by
    rw [← value_inspectedExists hrelay, hfalse] at h
    cases h

/-! ## 7. Runs -/

/-- A run of recovering or of restoring, and what happens to it. -/
structure Rerun where
  recovers : Bool
  running : Bool
  plan : List (Turn FlexFile Bytes)

def Rerun.task (directory : Bytes) (rerun : Rerun) : FlexTask Recovery :=
  if rerun.recovers = true then recoverOptimizedRuntimeTransaction directory rerun.running
  else restoreOptimizedRuntimeTransaction directory rerun.running

/-- The files after an installation and after some runs that follow it. -/
def afterReruns (recipes : Option Recipes) (o : Options) (plan : List (Turn FlexFile Bytes))
    (reruns : List Rerun) (w : FlexWorld) : FlexWorld :=
  reruns.foldl (fun v rerun => (run (rerun.task o.directory).run rerun.plan v).2)
    (run (installOptimizedRuntimeTransaction recipes o).run plan w).2

theorem recoverable_run {α : Type} {x : FlexTask α} {o : Options} {start : FlexDisk}
    {good : α → FlexWorld → Prop} {w : FlexWorld} {plan : List (Turn FlexFile Bytes)}
    (h : Leads x good (fun v => Recoverable o start v.disk) w)
    (hgood : ∀ a v, good a v → Recoverable o start v.disk) (hplan : ∀ turn ∈ plan, Alone turn) :
    Recoverable o start (run x.run plan w).2.disk := by
  have hsound := leads_sound h hplan
  generalize run x.run plan w = ended at hsound
  match ended, hsound with
  | (some (.ok a), v), hsound => exact hgood a v hsound
  | (some (.error _), v), hsound => exact hsound
  | (none, v), hsound => exact hsound

/-- One run keeps what it takes to go back. -/
theorem recoverable_rerun {o : Options} {start : FlexDisk} {rerun : Rerun} {w : FlexWorld}
    (hdigest : CollisionFree {bytes | ∃ p, start p = some bytes}) (hw : Recoverable o start w.disk)
    (hplan : ∀ turn ∈ rerun.plan, Alone turn) :
    Recoverable o start (run (rerun.task o.directory).run rerun.plan w).2.disk := by
  unfold Rerun.task
  split
  · exact recoverable_run (leads_recover _ hdigest hw) (fun _ _ h => h.1) hplan
  · exact recoverable_run (leads_restore hw) (fun _ _ h => .inl h) hplan

/-- **All runs do.** -/
theorem recoverable_afterReruns (recipes : Option Recipes) (o : Options)
    {plan : List (Turn FlexFile Bytes)} {reruns : List Rerun} {w : FlexWorld}
    (hrelay : w.disk .relayedCore = none) (hmarker : w.disk .marker = none)
    (hdigest : CollisionFree {bytes | ∃ p, w.disk p = some bytes})
    (hplan : ∀ turn ∈ plan, Alone turn) (hreruns : ∀ rerun ∈ reruns, ∀ turn ∈ rerun.plan, Alone turn) :
    Recoverable o w.disk (afterReruns recipes o plan reruns w).disk := by
  have hinstalled := recoverable_run (leads_install (o := o) recipes hrelay hmarker)
    (fun _ _ h => h) hplan
  unfold afterReruns
  generalize (run (installOptimizedRuntimeTransaction recipes o).run plan w).2 = v at hinstalled
  induction reruns generalizing v with
  | nil => exact hinstalled
  | cons rerun reruns ih =>
    obtain ⟨hhead, hrest⟩ := List.forall_mem_cons.mp hreruns
    exact ih hrest _ (recoverable_rerun hdigest hinstalled hhead)

/-- **The runtime is replaced altogether or not at all.**  After an installation and any runs that
follow it, all of them stopped or failed anywhere, recovery that succeeds leaves all components as
they were or all of them as they are installed.  Where a component holds what the transaction of
the marker cannot have left there, recovery is refused and nothing is touched; without a marker it
touches nothing, and it is refused where there is a relay. -/
theorem runtime_all_or_nothing {recipes : Option Recipes} {o : Options} {w : FlexWorld}
    (hrelay : w.disk .relayedCore = none) (hmarker : w.disk .marker = none)
    (hdigest : CollisionFree {bytes | ∃ p, w.disk p = some bytes})
    {plan : List (Turn FlexFile Bytes)} (hplan : ∀ turn ∈ plan, Alone turn) {reruns : List Rerun}
    (hreruns : ∀ rerun ∈ reruns, ∀ turn ∈ rerun.plan, Alone turn) {running : Bool}
    {last : List (Turn FlexFile Bytes)} (hlast : ∀ turn ∈ last, Alone turn) :
    (∀ result v, run (recoverOptimizedRuntimeTransaction o.directory running).run last
        (afterReruns recipes o plan reruns w) = (some (.ok result), v) →
      AllStock w.disk v.disk ∨ AllOptimized o w.disk v.disk) ∧
    (∀ changed : FlexWorld, ∀ marker : LabMarker,
      changed.disk .marker = some (markerText marker) → marker.Valid → ¬ Known marker changed.disk →
      ∀ outcome v, run (recoverOptimizedRuntimeTransaction o.directory running).run last changed =
        (outcome, v) → v = changed ∧ ∀ result, outcome ≠ some (.ok result)) ∧
    (∀ changed : FlexWorld, changed.disk .marker = none →
      ∀ outcome v, run (recoverOptimizedRuntimeTransaction o.directory running).run last changed =
        (outcome, v) → v = changed ∧
          ∀ result, outcome = some (.ok result) → changed.disk .relayedCore = none) := by
  refine ⟨?_, ?_, ?_⟩
  · intro result v hrun
    have hbefore := recoverable_afterReruns recipes o hrelay hmarker hdigest hplan hreruns
    have hsound := leads_sound (leads_recover running hdigest hbefore) hlast
    rw [hrun] at hsound
    exact hsound.2
  · intro changed marker hchanged hvalid hunknown outcome v hrun
    have hsound := leads_sound (leads_recover_unknown o.directory running hchanged hvalid hunknown) hlast
    rw [hrun] at hsound
    match outcome, hsound with
    | some (.error e), hsound => exact ⟨hsound, fun _ h => by cases h⟩
    | none, hsound => exact ⟨hsound, fun _ h => by cases h⟩
  · intro changed hunmarked outcome v hrun
    have hsound := leads_sound (leads_recover_unmarked o.directory running hunmarked) hlast
    rw [hrun] at hsound
    match outcome, hsound with
    | some (.ok result), hsound => exact ⟨hsound.1, fun _ _ => hsound.2⟩
    | some (.error e), hsound => exact ⟨hsound, fun _ h => by cases h⟩
    | none, hsound => exact ⟨hsound, fun _ h => by cases h⟩

/-! ## 8. A small installation -/

/-- Files with one letter each. -/
def shelfDisk : FlexDisk
  | .activeCore => some (ascii "c")
  | .activeExtension => some (ascii "e")
  | .other 0 _ => some (ascii "r")
  | .other 1 _ => some (ascii "C")
  | .other 2 _ => some (ascii "E")
  | .other 3 _ => some (ascii "h")
  | _ => none

def shelf : FlexWorld := ⟨shelfDisk, []⟩

def shelfOptions : Options where
  directory := ascii "1:2"
  forwarderDll := .other 0 "flexRelease_x64.forwarder-lab.dll"
  optimizedCoreDll := .other 1 "flexRelease_x64.optimized.dll"
  optimizedExtensionDll := .other 2 "flexExtRelease_x64.optimized.dll"
  optimizedHelperDll := .other 3 "kf2_p4_overlap.dll"
  gameRunning := false
  exactRuntimeVerified := true

def shelfRuntime : Runtime :=
  ⟨ascii "c", ascii "e", none, ascii "r", ascii "C", ascii "E", ascii "h"⟩

def installedShelf : FlexWorld :=
  (run (installOptimizedRuntimeTransaction none shelfOptions).run [] shelf).2

def recoverShelf (w : FlexWorld) : Option (Except Error Recovery) × FlexWorld :=
  run (recoverOptimizedRuntimeTransaction shelfOptions.directory false).run [] w

/-- The process stops when the extension has been replaced and the helper has not. -/
def stoppedPlan : List (Turn FlexFile Bytes) :=
  List.replicate 50 ⟨[], .ok⟩ ++ [⟨[], .crash⟩]

def stoppedShelf : FlexWorld := afterReruns none shelfOptions stoppedPlan [] shelf

theorem shelf_collisionFree : CollisionFree {bytes | ∃ p, shelf.disk p = some bytes} := by
  have hletters : ∀ bytes ∈ {bytes | ∃ p, shelf.disk p = some bytes},
      bytes ∈ [ascii "c", ascii "e", ascii "r", ascii "C", ascii "E", ascii "h"] := by
    rintro bytes ⟨p, hp⟩
    change shelfDisk p = some bytes at hp
    unfold shelfDisk at hp
    split at hp
    all_goals
      cases hp
      try decide
  have hdistinct : ∀ a ∈ [ascii "c", ascii "e", ascii "r", ascii "C", ascii "E", ascii "h"],
      ∀ b ∈ [ascii "c", ascii "e", ascii "r", ascii "C", ascii "E", ascii "h"],
      Bcrypt.sha256 a = Bcrypt.sha256 b → a = b := by decide +kernel
  exact fun a ha b hb heq => hdistinct a (hletters a ha) b (hletters b hb) heq

/-- An installation that stopped half way, one whose core another program has changed, and none. -/
theorem runtime_all_or_nothing_on_shelf :
    (AllStock shelf.disk (recoverShelf stoppedShelf).2.disk ∨
      AllOptimized shelfOptions shelf.disk (recoverShelf stoppedShelf).2.disk) ∧
    (recoverShelf (installedShelf.other .activeCore (some (ascii "x")))).2 =
      installedShelf.other .activeCore (some (ascii "x")) ∧
    (recoverShelf shelf).2 = shelf := by
  have hplan : ∀ turn ∈ stoppedPlan, Alone turn := by
    simp [stoppedPlan, Alone]
  have hholds {running : Bool} := @runtime_all_or_nothing none shelfOptions shelf rfl rfl
    shelf_collisionFree _ hplan [] (by simp) running [] (by simp)
  have hmarker : (installedShelf.other .activeCore (some (ascii "x"))).disk .marker =
      some (markerText (shelfRuntime.marker shelfOptions.directory .installed)) := by decide +kernel
  have hdigest : digestHex (ascii "x") ∉ [digestHex (ascii "c"), digestHex (ascii "r")] := by
    decide +kernel
  have hunknown : ¬ Known (shelfRuntime.marker shelfOptions.directory .installed)
      (installedShelf.other .activeCore (some (ascii "x"))).disk := by
    intro hknown
    have hcore := hknown.core
    simp only [Expected, World.other, Disk.set_same, Runtime.marker, shelfRuntime] at hcore
    exact hdigest hcore
  have hrecovered : (recoverShelf stoppedShelf).1 =
      some (.ok ⟨true, "Verified FleX Core, Extension and helper were restored."⟩) := by decide +kernel
  have hpair : ∀ w, run (recoverOptimizedRuntimeTransaction shelfOptions.directory false).run [] w =
      ((recoverShelf w).1, (recoverShelf w).2) := fun _ => rfl
  refine ⟨hholds.1 _ _ ((hpair stoppedShelf).trans (by rw [hrecovered])), ?_, ?_⟩
  · exact (hholds.2.1 _ _ hmarker (shelfRuntime.marker_valid _ _) hunknown _ _ (hpair _)).1
  · exact (hholds.2.2 shelf rfl _ _ (hpair _)).1

/-- Recovery takes a relay that another program has removed for one that was not there yet, and
restores the stock files. -/
theorem removed_relay_is_recovered :
    installedShelf.disk .relayedCore = some (ascii "C") ∧
    installedShelf.disk .activeCore = some (ascii "r") ∧
    (recoverShelf (installedShelf.other .relayedCore none)).1 =
      some (.ok ⟨true, "Verified FleX Core, Extension and helper were restored."⟩) ∧
    (recoverShelf (installedShelf.other .relayedCore none)).2.disk .activeCore =
      some (ascii "c") := by
  decide +kernel

end Kf2Optimizer.Flex
