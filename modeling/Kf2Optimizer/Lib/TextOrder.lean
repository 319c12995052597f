/-
# Texts in order

Byte texts are compared byte by byte; that is the order of the lists of their codes
(`map_toNat_lt_iff`), so that it is total and transitive.  A map with texts for keys is the list of
its entries in the order of the keys, and `emplace` adds an entry whose key it does not have.
-/
import Kf2Optimizer.Lib.Text
import Mathlib.Data.List.Lex
import Mathlib.Order.Defs.LinearOrder

namespace Text

/-! ## 1. The order -/

/-- Texts are in the order of their codes. -/
theorem map_toNat_lt_iff : ∀ {s t : Bytes}, s.map UInt8.toNat < t.map UInt8.toNat ↔ s < t
  | [], [] => by simp
  | [], _ :: _ => iff_of_true (List.nil_lt_cons _ _) (List.nil_lt_cons _ _)
  | _ :: _, [] => iff_of_false (List.not_lt_nil _) (List.not_lt_nil _)
  | b :: s, c :: t => by
    rw [List.map_cons, List.map_cons, List.cons_lt_cons_iff, List.cons_lt_cons_iff,
      map_toNat_lt_iff, UInt8.lt_iff_toNat_lt, UInt8.toNat_inj]

theorem map_toNat_injective : Function.Injective (List.map UInt8.toNat) :=
  List.map_injective_iff.mpr fun _ _ => UInt8.toNat_inj.mp

theorem bytes_lt_trans {s t u : Bytes} (h : s < t) (h' : t < u) : s < u :=
  map_toNat_lt_iff.mp ((map_toNat_lt_iff.mpr h).trans (map_toNat_lt_iff.mpr h'))

theorem bytes_lt_irrefl (s : Bytes) : ¬ s < s := fun h =>
  lt_irrefl _ (map_toNat_lt_iff.mpr h)

theorem bytes_lt_asymm {s t : Bytes} (h : s < t) : ¬ t < s := fun h' =>
  bytes_lt_irrefl s (bytes_lt_trans h h')

theorem bytes_lt_trichotomy (s t : Bytes) : s < t ∨ s = t ∨ t < s := by
  obtain h | h | h := lt_trichotomy (s.map UInt8.toNat) (t.map UInt8.toNat)
  · exact .inl (map_toNat_lt_iff.mp h)
  · exact .inr (.inl (map_toNat_injective h))
  · exact .inr (.inr (map_toNat_lt_iff.mp h))

/-! ## 2. Maps -/

/-- An entry in the order of the keys; one that is there stays. -/
def emplace (key value : Bytes) : List (Bytes × Bytes) → List (Bytes × Bytes)
  | [] => [(key, value)]
  | e :: rest =>
    if key < e.1 then (key, value) :: e :: rest
    else if key = e.1 then e :: rest
    else e :: emplace key value rest

/-- The entries of a map are in the order of their keys. -/
def KeysSorted (entries : List (Bytes × Bytes)) : Prop := entries.Pairwise fun e f => e.1 < f.1

section

variable {key value : Bytes} {entries : List (Bytes × Bytes)}

theorem mem_of_mem_emplace {e : Bytes × Bytes} (h : e ∈ emplace key value entries) :
    e = (key, value) ∨ e ∈ entries := by
  induction entries with
  | nil => exact .inl (List.mem_singleton.mp h)
  | cons f rest ih =>
    unfold emplace at h
    split_ifs at h
    · exact (List.mem_cons.mp h)
    · exact .inr h
    · rcases List.mem_cons.mp h with rfl | h
      · exact .inr List.mem_cons_self
      · exact (ih h).imp_right (List.mem_cons_of_mem f)

/-- A map with a new key has its entries and the new one. -/
theorem mem_emplace {e : Bytes × Bytes} (hnew : ∀ f ∈ entries, f.1 ≠ key) :
    e ∈ emplace key value entries ↔ e = (key, value) ∨ e ∈ entries := by
  refine ⟨mem_of_mem_emplace, fun h => ?_⟩
  induction entries with
  | nil => exact List.mem_singleton.mpr (h.resolve_right List.not_mem_nil)
  | cons f rest ih =>
    unfold emplace
    rw [if_neg (Ne.symm (hnew f List.mem_cons_self))]
    have hrest := ih fun g hg => hnew g (List.mem_cons_of_mem f hg)
    split_ifs
    · exact List.mem_cons.mpr h
    · rcases h with h | h
      · exact List.mem_cons_of_mem f (hrest (.inl h))
      · rcases List.mem_cons.mp h with rfl | h
        · exact List.mem_cons_self
        · exact List.mem_cons_of_mem f (hrest (.inr h))

theorem KeysSorted.emplace (h : KeysSorted entries) :
    KeysSorted (Text.emplace key value entries) := by
  induction entries with
  | nil => exact List.pairwise_singleton _ _
  | cons f rest ih =>
    obtain ⟨hf, hrest⟩ := List.pairwise_cons.mp h
    unfold Text.emplace
    split_ifs with hlt heq
    · refine List.pairwise_cons.mpr ⟨fun e he => ?_, h⟩
      rcases List.mem_cons.mp he with rfl | he
      · exact hlt
      · exact bytes_lt_trans hlt (hf e he)
    · exact h
    · refine List.pairwise_cons.mpr ⟨fun e he => ?_, ih hrest⟩
      rcases mem_of_mem_emplace he with rfl | he
      · exact ((bytes_lt_trichotomy key f.1).resolve_left hlt).resolve_left heq
      · exact hf e he

/-- A key behind all others goes to the end. -/
theorem emplace_of_lt (h : ∀ e ∈ entries, e.1 < key) :
    emplace key value entries = entries ++ [(key, value)] := by
  induction entries with
  | nil => rfl
  | cons f rest ih =>
    have hf := h f List.mem_cons_self
    unfold emplace
    rw [if_neg (bytes_lt_asymm hf), if_neg fun heq => bytes_lt_irrefl _ (heq ▸ hf),
      ih fun e he => h e (List.mem_cons_of_mem f he), List.cons_append]

end

end Text
