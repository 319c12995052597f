/-
# Records of the frame cap are read as they were written

The fields of a record are lines that hold no newline, so they are cut where they were joined, and
the sizes say where the first file ends and the second begins.
-/
import Kf2Optimizer.Game.FrameRateCap

namespace Kf2Optimizer.Game

open Text Files Platform Security

/-! ## 1. Fields -/

theorem takeFields_lines {fields : List Bytes} (h : ∀ f ∈ fields, lf ∉ f ∧ f.length ≤ 64)
    (body : Bytes) : takeFields fields.length (lines fields ++ body) = some (fields, body) := by
  induction fields with
  | nil => rfl
  | cons f fields ih =>
    obtain ⟨⟨hlf, hlen⟩, hrest⟩ := List.forall_mem_cons.mp h
    have htext : lines (f :: fields) ++ body = f ++ lf :: (lines fields ++ body) := by
      simp [lines]
    rw [htext, List.length_cons, takeFields, cut_append hlf]
    simp only [if_pos hlen, ih hrest, Option.map_some]

/-- The size of a file takes few digits. -/
theorem length_decimal_size {n : ℕ} (h : n ≤ maximumFrameCapConfigBytes) :
    (decimal n).length ≤ 64 :=
  (length_decimal_le (by decide) (Nat.lt_of_le_of_lt h (by decide : _ < 10 ^ 7))).trans (by decide)

/-! ## 2. Records -/

theorem recordFields_short {binding : Bytes} {r : CapRecovery} (hbinding : ValidHash binding)
    (hsize : ∀ file, (r.originals file).length ≤ maximumFrameCapConfigBytes)
    (hhash : ∀ file, ValidHash (r.appliedHashes file)) :
    ∀ f ∈ recordFields binding r, lf ∉ f ∧ f.length ≤ 64 := by
  have hash : ∀ {h : Bytes}, ValidHash h → lf ∉ h ∧ h.length ≤ 64 := fun h =>
    ⟨h.2.inline.1, Nat.le_of_eq h.1⟩
  simp only [recordFields, List.forall_mem_cons]
  exact ⟨⟨by decide, by decide⟩, hash hbinding, ⟨(inline_decimal _).1, length_decimal_size (hsize _)⟩,
    ⟨(inline_decimal _).1, length_decimal_size (hsize _)⟩, hash (hhash _), hash (hhash _), by simp⟩

theorem length_lines_le {fields : List Bytes} {n : ℕ} (h : ∀ f ∈ fields, f.length ≤ n) :
    (lines fields).length ≤ (n + 1) * fields.length := by
  induction fields with
  | nil => simp [lines]
  | cons f fields ih =>
    obtain ⟨hf, hrest⟩ := List.forall_mem_cons.mp h
    have hlength : (lines (f :: fields)).length = f.length + 1 + (lines fields).length := by
      rw [lines, List.flatMap_cons, List.length_append, List.length_append]
      rfl
    rw [hlength, List.length_cons, Nat.mul_succ]
    have := ih hrest
    omega

/-- A record can be read. -/
theorem length_recordBytes_le {binding checksum : Bytes} {r : CapRecovery} (hbinding : ValidHash binding)
    (hchecksum : ValidHash checksum)
    (hsize : ∀ file, (r.originals file).length ≤ maximumFrameCapConfigBytes)
    (hhash : ∀ file, ValidHash (r.appliedHashes file)) :
    (recordBytes binding checksum r).length ≤ maximumRecordBytes := by
  have hshort := recordFields_short hbinding hsize hhash
  have hfields := length_lines_le fun f hf => (hshort f hf).2
  have hsix : (recordFields binding r).length = 6 := rfl
  have hlength : (recordBytes binding checksum r).length = (lines (recordFields binding r)).length +
      checksum.length + 1 + ((r.originals .console).length + (r.originals .game).length) := by
    simp only [recordBytes, recordBody, List.length_append, List.length_cons]
    omega
  have hconsole := hsize .console
  have hgame := hsize .game
  have hcheck := hchecksum.1
  have hmaximum : maximumRecordBytes = 2 * maximumFrameCapConfigBytes + 1024 := rfl
  omega

/-- What is decoded is what was recorded. -/
theorem decodeRecord_recordFields {binding checksum : Bytes} {r : CapRecovery}
    (hsize : ∀ file, (r.originals file).length ≤ maximumFrameCapConfigBytes)
    (hhash : ∀ file, ValidHash (r.appliedHashes file)) :
    decodeRecord binding (recordFields binding r ++ [checksum]) (recordBody r) = some r := by
  have hfits : ∀ {n : ℕ}, n ≤ maximumFrameCapConfigBytes → n < 2 ^ 64 := fun h =>
    Nat.lt_of_le_of_lt h (by decide)
  have hlength : (recordBody r).length =
      (r.originals .console).length + (r.originals .game).length := List.length_append
  simp only [recordFields, List.cons_append, List.nil_append, decodeRecord, and_self, if_true,
    parseSize_decimal (hfits (hsize _)), hsize, hhash, hlength, Option.some.injEq]
  have htake : (recordBody r).take (r.originals .console).length = r.originals .console :=
    List.take_left
  have hdrop : (recordBody r).drop (r.originals .console).length = r.originals .game :=
    List.drop_left
  rw [htake, hdrop, perFile_self, perFile_self]

section

variable [Bcrypt]

/-- What is recovered from a record of these files. -/
def capRecovery (originals proposed : CapFile → Bytes) : CapRecovery :=
  ⟨originals, fun file => digestHex (proposed file)⟩

/-- The record of these files. -/
def capRecord (installation : GameInstallation) (originals proposed : CapFile → Bytes) : Bytes :=
  let binding := digestHex (bindingMaterial installation)
  let recovery := capRecovery originals proposed
  recordBytes binding (digestHex (lines (recordFields binding recovery) ++ recordBody recovery)) recovery

theorem capRecord_ne_nil (installation : GameInstallation) (originals proposed : CapFile → Bytes) :
    capRecord installation originals proposed ≠ [] := by
  simp [capRecord, recordBytes]

theorem careful_recoveryRecord (installation : GameInstallation) (originals proposed : CapFile → Bytes) :
    Careful (fun _ => False) (fun _ => True) (recoveryRecord installation originals proposed).run :=
  (careful_sha256Hex _).bind fun _ => (careful_sha256Hex _).bind fun _ =>
    (careful_sha256Hex _).bind fun _ => (careful_sha256Hex _).bind fun _ => careful_pure _

theorem value_recoveryRecord (installation : GameInstallation) (originals proposed : CapFile → Bytes)
    (d : CapDisk) :
    value (recoveryRecord installation originals proposed).run d =
      .ok (capRecord installation originals proposed) := by
  rw [capRecord, capRecovery, ← perFile_self fun file => digestHex (proposed file)]
  rfl

theorem careful_parseRecoveryRecord (installation : GameInstallation) (bytes : Bytes) :
    Careful (fun _ => False) (fun _ => True) (parseRecoveryRecord installation bytes).run := by
  unfold parseRecoveryRecord
  split
  · exact careful_throw _
  · refine (careful_sha256Hex _).bind fun _ => ?_
    split
    · exact careful_throw _
    · exact (careful_sha256Hex _).bind fun _ => (careful_ensure _ _).bind fun _ => careful_pure _

/-- **A record that was written is read back.** -/
theorem value_parse_capRecord {installation : GameInstallation} {originals proposed : CapFile → Bytes}
    (hsize : ∀ file, (originals file).length ≤ maximumFrameCapConfigBytes) (d : CapDisk) :
    value (parseRecoveryRecord installation (capRecord installation originals proposed)).run d =
      .ok (capRecovery originals proposed) := by
  have hvalid : ∀ file, ValidHash ((capRecovery originals proposed).appliedHashes file) :=
    fun _ => validHash_digestHex _
  have hbinding := validHash_digestHex (bindingMaterial installation)
  have hfields : ∀ checksum : Bytes, ValidHash checksum →
      takeFields 7 (recordBytes (digestHex (bindingMaterial installation)) checksum
        (capRecovery originals proposed)) =
      some (recordFields (digestHex (bindingMaterial installation)) (capRecovery originals proposed) ++
        [checksum], recordBody (capRecovery originals proposed)) := by
    intro checksum hchecksum
    have hshort := recordFields_short (r := capRecovery originals proposed) hbinding hsize hvalid
    have htext : recordBytes (digestHex (bindingMaterial installation)) checksum
        (capRecovery originals proposed) =
        lines (recordFields (digestHex (bindingMaterial installation)) (capRecovery originals proposed) ++
          [checksum]) ++ recordBody (capRecovery originals proposed) := by
      rw [lines_append, recordBytes]
      simp [lines]
    rw [htext]
    change takeFields (recordFields (digestHex (bindingMaterial installation))
      (capRecovery originals proposed) ++ [checksum]).length _ = _
    refine takeFields_lines (fun f hf => ?_) _
    rcases List.mem_append.mp hf with hf | hf
    · exact hshort f hf
    · rw [List.mem_singleton.mp hf]
      exact ⟨hchecksum.2.inline.1, Nat.le_of_eq hchecksum.1⟩
  rw [parseRecoveryRecord, capRecord, hfields _ (validHash_digestHex _)]
  simp only [value_task_bind, installationBinding, value_sha256Hex,
    decodeRecord_recordFields (r := capRecovery originals proposed) hsize hvalid]
  rw [value_ensure]
  split
  · rfl
  · rename_i e herror
    split at herror
    · cases herror
    · rename_i hdiffers
      exact absurd rfl hdiffers

end

end Kf2Optimizer.Game
