/-
# Parts of the calls on the telemetry module

A marker that was written is read back.  The parts below are looked at as parts of a call that may
stop anywhere: what each leaves is what was there with one entry set at most.
-/
import Kf2Optimizer.Game.OfflineTelemetryLab

namespace Kf2Optimizer.Game.OfflineTelemetry

open Text Files Security

/-! ## 1. Markers are read as they were written -/

theorem after_keyedLine (name value : Bytes) :
    after (name ++ [0x3D]) (keyedLine (name, value)) = some value := by
  have hline : keyedLine (name, value) = (name ++ [0x3D]) ++ value := by simp [keyedLine]
  rw [hline, after, if_pos (List.prefix_append _ _), List.drop_left]

theorem fieldAfter_seen {α : Type} (name line : Bytes) (a : α) :
    fieldAfter name (some a) line = none := rfl

theorem fieldAfter_unseen {α : Type} {name name' : Bytes} (h : name' = name ++ [0x3D]) (value : Bytes) :
    fieldAfter (α := α) name' none (keyedLine (name, value)) = some value := by
  rw [fieldAfter, Option.isNone_none, if_pos rfl, h, after_keyedLine]

theorem ofText_text (state : MarkerState) : MarkerState.ofText state.text = some state := by
  cases state <;> decide

theorem parseInteger_decimal (n : UInt64) : parseInteger (decimal n.toNat) = some n := by
  rw [parseInteger, parseSize_decimal n.toNat_lt, Option.map_some, UInt64.ofNat_toNat]

theorem parseFlag_flag (value : Bool) : parseFlag (flag value) = .ok value := by
  cases value <;> decide

theorem inline_markerFields {marker : Marker} (h : ValidHash marker.sha256) :
    ∀ line ∈ (markerFields marker).map keyedLine, Inline line := by
  have hline : ∀ {name value : Bytes}, Inline name → Inline value → Inline (keyedLine (name, value)) := by
    intro name value hname hvalue
    have hsign : Inline [0x3D] := ⟨by decide, by decide⟩
    have heq : keyedLine (name, value) = name ++ ([0x3D] ++ value) := rfl
    exact heq ▸ hname.append (hsign.append hvalue)
  have hstate : Inline marker.state.text := by
    cases marker.state <;> exact ⟨by decide, by decide⟩
  have hflag : ∀ value, Inline (flag value) := by
    intro value
    cases value <;> exact ⟨by decide, by decide⟩
  simp only [markerFields, List.map_cons, List.map_nil, List.forall_mem_cons]
  exact ⟨⟨by decide, by decide⟩, hline ⟨by decide, by decide⟩ hstate,
    hline ⟨by decide, by decide⟩ h.2.inline, hline ⟨by decide, by decide⟩ (inline_decimal _),
    hline ⟨by decide, by decide⟩ (inline_decimal _), hline ⟨by decide, by decide⟩ (hflag _),
    hline ⟨by decide, by decide⟩ (hflag _), by simp⟩

/-- **A marker that was written is read back.** -/
theorem decodeMarker_markerBytes {marker : Marker} (h : ValidHash marker.sha256) :
    decodeMarker (markerBytes marker) = .ok marker := by
  have hsplit : splitOn lf (markerBytes marker) = (markerFields marker).map keyedLine ++ [[]] :=
    splitOn_lines fun r hr => (inline_markerFields h r hr).1
  have hschema : parseLine {} (keyedLine (ascii "schema", ascii "2")) = .ok { schema := true } :=
    if_pos ⟨by decide, rfl⟩
  have hname : ascii "state=" = ascii "state" ++ [0x3D] ∧ ascii "sha256=" = ascii "sha256" ++ [0x3D] ∧
      ascii "root_volume=" = ascii "root_volume" ++ [0x3D] ∧
      ascii "root_file=" = ascii "root_file" ++ [0x3D] ∧
      ascii "created_published=" = ascii "created_published" ++ [0x3D] ∧
      ascii "created_brewedpc=" = ascii "created_brewedpc" ++ [0x3D] := by decide
  obtain ⟨hstate, hsha256, hvolume, hfile, hpublished, hbrewed⟩ := hname
  simp only [decodeMarker, hsplit, markerFields, List.map_cons, List.map_nil, List.cons_append,
    List.nil_append, List.foldlM_cons, List.foldlM_nil, hschema]
  simp [bind, Except.bind, pure, Except.pure, parseLine, fieldAfter_seen, fieldAfter_unseen hstate, fieldAfter_unseen hsha256,
    fieldAfter_unseen hvolume, fieldAfter_unseen hfile, fieldAfter_unseen hpublished,
    fieldAfter_unseen hbrewed, ofText_text, h, parseInteger_decimal, parseFlag_flag, Except.map,
    MarkerFields.marker]

/-! ## 2. Parts of a call -/

section

variable {good : Unit → LabWorld → Prop} {bad : Error → LabWorld → Prop} {C : LabWorld → Prop}
  {w v : LabWorld} {path : TelemetryPath}

/-- What the attributes of an entry are. -/
def attributesOf (entry : Option Entry) : Attributes := if entry = none then .missing else .found

theorem wpTask_fileAttributes {good : Attributes → LabWorld → Prop} (hC : C w)
    (h : good (attributesOf (w.disk path)) w) :
    wpTask Interrupted (fileAttributes path) good bad C w := by
  rw [fileAttributes, wpTask_bind, wpTask_perform_interrupted, World.act_read]
  refine ⟨?_, hC⟩
  cases hdisk : w.disk path with
  | none =>
    simp only [Op.answer, hdisk]
    rw [hdisk] at h
    exact h
  | some entry =>
    simp only [Op.answer, hdisk]
    rw [hdisk] at h
    exact h

theorem careful_checkDirectory : Careful (fun _ => True) (fun _ => True) (checkDirectory path).run := by
  refine careful_perform trivial ⟨_, trivial, rfl⟩ fun answer => ?_
  cases answer
  case content entry => cases entry <;> exact .ret _
  all_goals exact .ret _

theorem careful_rootIdentity (roots : LabRoots) :
    Careful (fun _ => True) (fun _ => True) (rootIdentity roots).run := by
  refine careful_perform trivial ⟨_, trivial, rfl⟩ fun answer => ?_
  cases answer <;> exact .ret _

theorem careful_readRegularFile (maximum : ℕ) :
    Careful (fun _ => True) (fun _ => True) (readRegularFile path maximum).run := by
  refine careful_perform trivial ⟨_, trivial, rfl⟩ fun answer => ?_
  cases answer
  case content entry =>
    cases entry
    case file bytes =>
      refine (careful_ensure _ _).bind fun _ => careful_perform trivial ⟨_, trivial, rfl⟩ fun answer => ?_
      cases answer <;> exact .ret _
    all_goals exact .ret _
  all_goals exact .ret _

theorem careful_parseMarker : Careful (fun _ => True) (fun _ => True) parseMarker.run :=
  (careful_readRegularFile _).bind fun _ => careful_liftExcept _

theorem careful_validateBinding (roots : LabRoots) (marker : Marker) :
    Careful (fun _ => True) (fun _ => True) (validateBinding roots marker).run :=
  (careful_rootIdentity roots).bind fun _ => careful_ensure _ _

/-- What is read of a file is what it holds. -/
theorem value_readRegularFile_eq_ok {maximum : ℕ} {d : LabDisk} {bytes : Bytes}
    (h : value (readRegularFile path maximum).run d = .ok bytes) :
    d path = some (.file bytes) ∧ bytes.length ≤ maximum := by
  rw [readRegularFile, value_perform] at h
  cases hdisk : d path with
  | none =>
    simp only [Op.answer, hdisk] at h
    cases h
  | some entry =>
    simp only [Op.answer, hdisk] at h
    cases entry with
    | directory => cases h
    | linked => cases h
    | file found =>
      obtain ⟨_, hlen, h⟩ := value_bind_eq_ok.mp h
      cases h
      exact ⟨rfl, value_ensure_eq_ok.mp hlen⟩

/-- **A directory that has to be there.** -/
theorem wpTask_ensureDirectory {uninspected uncreated : Error} :
    wpTask Interrupted (ensureDirectory path uninspected uncreated)
      (fun created v => created = true ∧ w.disk path = none ∧ v = w.own path (some .directory) ∨
        created = false ∧ w.disk path = some .directory ∧ v = w)
      (fun _ v => v = w)
      (fun v => v = w ∨ w.disk path = none ∧ v = w.own path (some .directory)) w := by
  rw [ensureDirectory, wpTask_bind, wpTask_bind]
  refine wpTask_fileAttributes (.inl rfl) ?_
  cases hdisk : w.disk path with
  | none =>
    simp only [attributesOf, if_true]
    rw [wpTask_bind, wpTask_perform_interrupted, World.act_write]
    refine ⟨?_, .inl rfl⟩
    simp only [Op.answer, wpTask_pure]
    rw [wpTask_bind]
    have hcreated : value (checkDirectory path).run (w.own path (some .directory)).disk = .ok () := by
      rw [checkDirectory, value_perform]
      simp only [Op.answer, World.disk_own_same]
      rfl
    refine wpTask_careful_interrupted careful_checkDirectory (.inr ⟨trivial, rfl⟩) ?_
    rw [hcreated]
    exact .inl ⟨rfl, trivial, rfl⟩
  | some entry =>
    simp only [attributesOf, reduceCtorEq, if_false, wpTask_pure]
    rw [wpTask_bind]
    refine wpTask_careful_interrupted careful_checkDirectory (.inl rfl) ?_
    rw [checkDirectory, value_perform]
    simp only [Op.answer, hdisk]
    cases entry with
    | directory => exact .inr ⟨rfl, rfl, rfl⟩
    | file bytes => rfl
    | linked => rfl

/-- **A directory that is removed** if it is empty. -/
theorem wpTask_removeDirectory {inside : List TelemetryPath} :
    wpTask Interrupted (removeDirectory path inside)
      (fun gone v => v = w ∧ (gone = true → w.disk path = none) ∨
        gone = true ∧ w.disk path = some .directory ∧ v = w.own path none)
      bad
      (fun v => v = w ∨ w.disk path = some .directory ∧ v = w.own path none) w := by
  rw [removeDirectory, wpTask_bind, wpTask_perform_interrupted, World.act_read]
  refine ⟨?_, .inl rfl⟩
  cases hdisk : w.disk path with
  | none =>
    simp only [Op.answer, hdisk]
    exact .inl ⟨rfl, fun _ => trivial⟩
  | some entry =>
    simp only [Op.answer, hdisk]
    cases entry with
    | file bytes => exact .inl ⟨rfl, fun h => by cases h⟩
    | linked => exact .inl ⟨rfl, fun h => by cases h⟩
    | directory =>
      rw [wpTask_bind, wpTask_perform_interrupted]
      refine ⟨?_, .inl rfl⟩
      have hlist : w.act (.list inside) = w := rfl
      rw [hlist]
      simp only [Op.answer]
      split
      · have hremove : w.act (.remove path) = w.own path none :=
          World.act_remove w (by rw [hdisk]; exact Option.some_ne_none _)
        rw [wpTask_bind, wpTask_perform_interrupted, hremove]
        refine ⟨?_, .inl rfl⟩
        simp only [Op.answer, hdisk, reduceCtorEq, if_false]
        exact .inr ⟨rfl, trivial, rfl⟩
      · exact .inl ⟨rfl, fun h => by cases h⟩

theorem wpTask_replaceFile {bytes : Bytes} (hC : C w)
    (h : good () (w.own path (some (.file bytes)))) :
    wpTask Interrupted (replaceFile path bytes) good bad C w := by
  rw [replaceFile, wpTask_bind, wpTask_perform_interrupted, World.act_write]
  exact ⟨h, hC⟩

/-- At most the root of the state was created. -/
def Near (w v : LabWorld) : Prop := v = w ∨ v = w.own .stateRoot (some .directory)

theorem Near.disk (h : Near w v) (hpath : path ≠ .stateRoot) : v.disk path = w.disk path := by
  obtain rfl | rfl := h
  · rfl
  · exact World.disk_own_other w _ hpath

theorem wpTask_validateRoots {roots : LabRoots} :
    wpTask Interrupted (validateRoots roots) (fun _ => Near w) (fun _ => Near w) (Near w) w := by
  unfold validateRoots
  refine wpTask_ensure (fun _ => .inl rfl) fun _ => ?_
  refine wpTask_ensure (fun _ => .inl rfl) fun _ => ?_
  rw [wpTask_bind]
  refine wpTask_careful_interrupted (careful_rootIdentity roots) (.inl rfl) ?_
  rw [show value (rootIdentity roots).run w.disk = .ok roots.identity from rfl]
  simp only [Ends]
  rw [wpTask_bind]
  refine wpTask_careful_interrupted (careful_rootIdentity roots) (.inl rfl) ?_
  rw [show value (rootIdentity roots).run w.disk = .ok roots.identity from rfl]
  simp only [Ends]
  rw [wpTask_bind]
  refine wpTask_mono wpTask_ensureDirectory (fun _ v hv => ?_) (fun _ v hv => .inl hv)
    fun v hv => hv.imp_right And.right
  obtain ⟨-, -, rfl⟩ | ⟨-, -, rfl⟩ := hv
  · exact .inr rfl
  · exact .inl rfl

/-- The file in the place of the module is gone, and was one that may be removed. -/
def Removed (owned : Bytes → Prop) (w v : LabWorld) : Prop :=
  ∃ bytes, w.disk .target = some (.file bytes) ∧ owned bytes ∧ v = w.own .target none

/-- A file that may not be removed, or none. -/
def Unowned (owned : Bytes → Prop) (d : LabDisk) : Prop :=
  ∀ bytes, d .target = some (.file bytes) → bytes.length ≤ maximumModuleBytes → ¬ owned bytes

theorem Removed.disk {owned : Bytes → Prop} (h : Removed owned w v) (hpath : path ≠ .target) :
    v.disk path = w.disk path := by
  obtain ⟨_, -, -, rfl⟩ := h
  exact World.disk_own_other w none hpath

theorem Removed.target {owned : Bytes → Prop} (h : Removed owned w v) : v.disk .target = none := by
  obtain ⟨_, -, -, rfl⟩ := h
  exact World.disk_own_same w _ _

end

section

variable [Bcrypt] {bad : Error → LabWorld → Prop} {C : LabWorld → Prop} {w : LabWorld}

theorem careful_moduleHash (bytes : Bytes) :
    Careful (fun _ => True) (fun _ => True) (moduleHash bytes).run := by
  refine careful_perform trivial ⟨_, trivial, rfl⟩ fun answer => ?_
  cases answer <;> exact .ret _

theorem value_moduleHash (bytes : Bytes) (d : LabDisk) :
    value (moduleHash bytes).run d = .ok (digestHex bytes) := rfl

theorem careful_fileHash (path : TelemetryPath) (maximum : ℕ) :
    Careful (fun _ => True) (fun _ => True) (fileHash path maximum).run := by
  refine careful_perform trivial ⟨_, trivial, rfl⟩ fun answer => ?_
  cases answer
  case content entry =>
    cases entry
    case file bytes => exact (careful_ensure _ _).bind fun _ => careful_moduleHash bytes
    all_goals exact .ret _
  all_goals exact .ret _

/-- The bytes of a file that may be removed. -/
def Removable (expectedHash : Bytes) (policy : ModuleRemovalPolicy) (bytes : Bytes) : Prop :=
  policy.owned expectedHash (digestHex bytes) bytes = true

/-- **A module is removed** if its bytes say that it may be. -/
theorem wpTask_removeAuthenticatedModule {expectedHash : Bytes} {policy : ModuleRemovalPolicy}
    {foreignIsError : Bool} {failure : Error} (attempts : ℕ) :
    wpTask Interrupted (removeAuthenticatedModule expectedHash policy foreignIsError failure (attempts + 1))
      (fun removed v =>
        removed = true ∧ Removed (Removable expectedHash policy) w v ∨
        removed = false ∧ v = w ∧ (w.disk .target = none ∨ foreignIsError = false ∧
          Unowned (Removable expectedHash policy) w.disk))
      (fun _ v => v = w)
      (fun v => v = w ∨ Removed (Removable expectedHash policy) w v) w := by
  have hpreserve : Unowned (Removable expectedHash policy) w.disk →
      wpTask Interrupted (preserve foreignIsError)
        (fun removed v =>
          removed = true ∧ Removed (Removable expectedHash policy) w v ∨
          removed = false ∧ v = w ∧ (w.disk .target = none ∨ foreignIsError = false ∧
            Unowned (Removable expectedHash policy) w.disk))
        (fun _ v => v = w)
        (fun v => v = w ∨ Removed (Removable expectedHash policy) w v) w := by
    intro hforeign
    unfold preserve
    split
    · exact rfl
    · rename_i hno
      exact .inr ⟨rfl, rfl, .inr ⟨by simpa using hno, hforeign⟩⟩
  rw [removeAuthenticatedModule, wpTask_bind, wpTask_perform_interrupted, World.act_read]
  refine ⟨?_, .inl rfl⟩
  obtain ⟨found, hdisk⟩ : ∃ found, w.disk .target = found := ⟨_, rfl⟩
  simp only [Op.answer, hdisk]
  cases found with
  | none => exact .inr ⟨rfl, rfl, .inl rfl⟩
  | some entry =>
    rw [hdisk] at hpreserve
    cases entry with
    | directory => exact rfl
    | linked => exact hpreserve fun bytes h => by rw [hdisk] at h; cases h
    | file bytes =>
      simp only
      by_cases hlen : bytes.length ≤ maximumModuleBytes
      · rw [if_pos hlen, wpTask_bind, wpTask_perform_interrupted, World.act_ask]
        refine ⟨?_, .inl rfl⟩
        simp only [Op.answer]
        rw [wpTask_bind]
        refine wpTask_careful_interrupted (careful_moduleHash bytes) (.inl rfl) ?_
        rw [value_moduleHash]
        simp only [Ends]
        by_cases howned : policy.owned expectedHash (digestHex bytes) bytes = true
        · have hremoved : Removed (Removable expectedHash policy) w (w.own .target none) :=
            ⟨bytes, hdisk, howned, rfl⟩
          have hremove : w.act (.remove .target) = w.own .target none :=
            World.act_remove w (by rw [hdisk]; exact Option.some_ne_none _)
          rw [if_pos howned, deleteOpened, wpTask_bind, wpTask_perform_interrupted, World.act_ask]
          refine ⟨?_, .inl rfl⟩
          simp only [Op.answer]
          rw [wpTask_bind, wpTask_perform_interrupted, hremove]
          refine ⟨?_, .inl rfl⟩
          simp only [Op.answer, hdisk, reduceCtorEq, if_false]
          rw [wpTask_bind]
          refine wpTask_fileAttributes (.inr hremoved) ?_
          rw [World.disk_own_same]
          exact .inl ⟨rfl, hremoved⟩
        · rw [if_neg howned]
          refine hpreserve fun bytes' h _ => ?_
          rw [hdisk] at h
          cases h
          exact howned
      · rw [if_neg hlen]
        refine hpreserve fun bytes' h hlen' => ?_
        rw [hdisk] at h
        cases h
        exact absurd hlen' hlen

end

end Kf2Optimizer.Game.OfflineTelemetry
