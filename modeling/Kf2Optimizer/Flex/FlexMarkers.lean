/-
# Markers are read as they were written

The name of no line of a marker ends the name of a line before it, so the first occurrence of a key
is at the line that it is the name of.
-/
import Kf2Optimizer.Flex.FlexLab

namespace Kf2Optimizer.Flex

open Text Files Platform Security

/-- Neither a line nor a name ends in it. -/
def Plain (value : Bytes) : Prop := lf ∉ value ∧ 0x3D ∉ value

theorem plain_of_validHash {hash : Bytes} (h : ValidHash hash) : Plain hash :=
  ⟨h.2.not_mem (by decide), h.2.not_mem (by decide)⟩

theorem plain_of_validState {state : Bytes} (h : ValidState state) : Plain state := by
  rcases h with rfl | rfl
  · exact ⟨by decide, by decide⟩
  · exact ⟨by decide, by decide⟩

/-- No value of the marker ends a line or a name. -/
theorem LabMarker.Valid.plain {marker : LabMarker} (h : marker.Valid) :
    ∀ f ∈ markerFields marker, Plain f.2 := by
  obtain ⟨hstate, hhashes, horiginal, howner⟩ := h
  simp only [List.forall_mem_cons] at hhashes
  obtain ⟨h1, h2, h3, h4, h5, h6, -⟩ := hhashes
  have hhelper : Plain marker.originalHelper := by
    rcases horiginal with h | h
    · rw [h]
      exact ⟨by decide, by decide⟩
    · exact plain_of_validHash h
  simp only [markerFields, List.forall_mem_cons]
  exact ⟨⟨by decide, by decide⟩, plain_of_validState hstate, plain_of_validHash h1,
    plain_of_validHash h2, plain_of_validHash h3, plain_of_validHash h4, plain_of_validHash h5,
    plain_of_validHash h6, hhelper, plain_of_validHash howner, by simp⟩

/-- The names of the lines. -/
def names : List Bytes :=
  [ascii "schema", ascii "state", ascii "stock_core_sha256", ascii "stock_extension_sha256",
    ascii "forwarder_sha256", ascii "optimized_core_sha256", ascii "optimized_extension_sha256",
    ascii "optimized_helper_sha256", ascii "original_helper_sha256", ascii "owner_sha256"]

theorem names_eq (marker : LabMarker) : (markerFields marker).map Prod.fst = names := rfl

/-- A line is found by its name. -/
theorem field_markerText {marker : LabMarker} (h : marker.Valid) {i : ℕ} {name value : Bytes}
    (hi : (markerFields marker)[i]? = some (name, value)) :
    field (markerText marker) (name ++ [0x3D]) = value := by
  have hplain := h.plain
  have hlength : i < (markerFields marker).length := (List.getElem?_eq_some_iff.mp hi).1
  have hget : (markerFields marker)[i] = (name, value) := (List.getElem?_eq_some_iff.mp hi).2
  have hsplit : markerFields marker =
      (markerFields marker).take i ++ (name, value) :: (markerFields marker).drop (i + 1) := by
    rw [← hget, List.cons_getElem_drop_succ, List.take_append_drop]
  have hname : names[i]? = some name := by
    rw [← names_eq marker, List.getElem?_map, hi]
    rfl
  -- what a name has to be for its line to be found
  have hchecked : ∀ j < 10, ∀ n ∈ names[j]?, (lf ∉ n ∧ 0x3D ∉ n) ∧
      ∀ n' ∈ names.take j, 0x3D ∉ n' ∧ ¬ n <:+ n' := by decide
  obtain ⟨⟨hlf, hsign⟩, hbefore⟩ := hchecked i hlength name hname
  have hvalue : lf ∉ value := (hplain (name, value) (hget ▸ List.getElem_mem hlength)).1
  have hfound := valueOf_keyed ((markerFields marker).drop (i + 1)) hlf hsign hvalue
    (b := (markerFields marker).take i) fun f hf => by
      have hfirst : f.1 ∈ names.take i := by
        rw [← names_eq marker, ← List.map_take]
        exact List.mem_map_of_mem hf
      obtain ⟨hfree, hsuffix⟩ := hbefore f.1 hfirst
      exact ⟨⟨hfree, (hplain f (List.mem_of_mem_take hf)).2⟩, hsuffix⟩
  rw [field, markerText, hsplit, hfound]
  rfl

theorem prefix_markerText (marker : LabMarker) : ascii "schema=4\n" <+: markerText marker := by
  refine ⟨keyed ((markerFields marker).drop 1), ?_⟩
  rw [show ascii "schema=4\n" = keyed [(ascii "schema", ascii "4")] by decide]
  rfl

/-- **A marker that was written is read back.** -/
theorem decodeMarker_markerText {marker : LabMarker} (h : marker.Valid) :
    decodeMarker (markerText marker) = .ok marker := by
  have hmarker : markerOf (markerText marker) = marker := by
    have hkey : ∀ {i : ℕ} {name value key : Bytes}, (markerFields marker)[i]? = some (name, value) →
        key = name ++ [0x3D] → field (markerText marker) key = value := by
      rintro i name value key hi rfl
      exact field_markerText h hi
    rw [markerOf, hkey (i := 1) rfl (by decide), hkey (i := 2) rfl (by decide),
      hkey (i := 3) rfl (by decide), hkey (i := 4) rfl (by decide), hkey (i := 5) rfl (by decide),
      hkey (i := 6) rfl (by decide), hkey (i := 7) rfl (by decide), hkey (i := 8) rfl (by decide),
      hkey (i := 9) rfl (by decide)]
  rw [decodeMarker, if_pos (prefix_markerText marker), hmarker, if_pos ⟨h, rfl⟩]

/-- A marker that is valid is the text of what is read. -/
theorem decodeMarker_eq_ok {bytes : Bytes} {marker : LabMarker} (h : decodeMarker bytes = .ok marker) :
    marker.Valid ∧ bytes = markerText marker := by
  unfold decodeMarker at h
  split at h
  · split at h
    · rename_i hvalid
      cases h
      exact hvalid
    · cases h
  · cases h

/-- No marker is one of the older runtime. -/
theorem not_legacy_markerText (marker : LabMarker) :
    ¬ ascii "schema=3\n" <+: markerText marker := by
  intro h
  have hlen : (ascii "schema=3\n").length = (ascii "schema=4\n").length := by decide
  have heq := List.prefix_of_prefix_length_le h (prefix_markerText marker) (Nat.le_of_eq hlen)
  exact absurd heq (by decide)

end Kf2Optimizer.Flex
