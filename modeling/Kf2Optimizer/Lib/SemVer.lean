/-
# Semantic versions

SemVer 2.0.0 as its document states it.  A version is the syntax tree of the grammar, and `text`
writes it down; precedence is the lexicographic order of what clause 11 compares, so that it is a
linear order by construction (`precedence`).

Numbers are compared as numbers.  A reader that keeps them as texts compares lengths first and digits
afterwards; without leading zeros that is the same (`compare_numeric`).
-/
import Kf2Optimizer.Lib.TextOrder
import Mathlib.Data.Prod.Lex
import Mathlib.Data.Sum.Order
import Mathlib.Order.WithBot
import Mathlib.Tactic.Ring

namespace SemVer

open Text

/-! ## 1. The grammar -/

def dot : UInt8 := 0x2E
def hyphen : UInt8 := 0x2D
def plus : UInt8 := 0x2B

def isLetter (b : UInt8) : Bool := decide (0x41 ≤ b ∧ b ≤ 0x5A) || decide (0x61 ≤ b ∧ b ≤ 0x7A)

/-- `<identifier character>`. -/
def identifierCharacter (b : UInt8) : Bool := isDigit b || isLetter b || b == hyphen

/-- `<numeric identifier>`. -/
def Numeric (t : Bytes) : Prop :=
  t ≠ [] ∧ t.all isDigit = true ∧ (t = [0x30] ∨ t.head? ≠ some 0x30)

/-- `<alphanumeric identifier>`: one of its characters is no digit. -/
def Alphanumeric (t : Bytes) : Prop := t.all identifierCharacter = true ∧ t.all isDigit = false

/-- `<pre-release identifier>`. -/
def PrereleaseIdentifier (t : Bytes) : Prop := Numeric t ∨ Alphanumeric t

/-- `<build identifier>`: leading zeros do not matter here. -/
def BuildIdentifier (t : Bytes) : Prop := (t ≠ [] ∧ t.all isDigit = true) ∨ Alphanumeric t

/-- `<valid semver>`.  An empty list of identifiers stands for the part that is not there. -/
structure Version where
  major : Bytes
  minor : Bytes
  patch : Bytes
  prerelease : List Bytes
  build : List Bytes
  core_numeric : Numeric major ∧ Numeric minor ∧ Numeric patch
  prerelease_valid : ∀ i ∈ prerelease, PrereleaseIdentifier i
  build_valid : ∀ i ∈ build, BuildIdentifier i

/-- Identifiers between dots. -/
def dotted (identifiers : List Bytes) : Bytes := [dot].intercalate identifiers

/-- A part behind its mark. -/
def marked (mark : UInt8) (identifiers : List Bytes) : Bytes :=
  if identifiers = [] then [] else mark :: dotted identifiers

/-- A version as it is written, up to the build metadata. -/
def Version.unbuilt (v : Version) : Bytes :=
  dotted [v.major, v.minor, v.patch] ++ marked hyphen v.prerelease

/-- A version as it is written. -/
def Version.text (v : Version) : Bytes := v.unbuilt ++ marked plus v.build

/-! ## 2. Precedence -/

/-- What an identifier is compared as: numeric ones as numbers and below the others, the others
by the codes of their characters. -/
def identifierRank (t : Bytes) : ℕ ⊕ₗ List ℕ :=
  if t.all isDigit = true then toLex (.inl (fromDigits t)) else toLex (.inr (t.map UInt8.toNat))

/-- A list of pre-release identifiers is compared from left to right, and is below its extensions;
a release is above all of them. -/
def prereleaseRank (identifiers : List Bytes) : WithTop (List (ℕ ⊕ₗ List ℕ)) :=
  if identifiers = [] then ⊤ else ↑(identifiers.map identifierRank)

/-- Clause 11. -/
def Version.precedence (v : Version) : ℕ ×ₗ ℕ ×ₗ ℕ ×ₗ WithTop (List (ℕ ⊕ₗ List ℕ)) :=
  toLex (fromDigits v.major, toLex (fromDigits v.minor, toLex (fromDigits v.patch,
    prereleaseRank v.prerelease)))

/-! ## 3. Characters -/

theorem identifierCharacter_of_isDigit {b : UInt8} (h : isDigit b = true) :
    identifierCharacter b = true := by
  simp [identifierCharacter, h]

theorem isDigit_hyphen : isDigit hyphen = false := by decide

theorem identifierCharacter_dot : identifierCharacter dot = false := by decide

theorem identifierCharacter_plus : identifierCharacter plus = false := by decide

theorem Numeric.characters {t : Bytes} (h : Numeric t) : t.all identifierCharacter = true :=
  List.all_eq_true.mpr fun b hb =>
    identifierCharacter_of_isDigit (List.all_eq_true.mp h.2.1 b hb)

theorem Alphanumeric.ne_nil {t : Bytes} (h : Alphanumeric t) : t ≠ [] := by
  rintro rfl
  exact absurd h.2 (by simp)

/-- A pre-release identifier is a word of identifier characters that, when it is a number, has no
leading zero. -/
theorem prereleaseIdentifier_iff {t : Bytes} : PrereleaseIdentifier t ↔
    (t ≠ [] ∧ t.all identifierCharacter = true) ∧
      ¬ (t.all isDigit = true ∧ 1 < t.length ∧ t.head? = some 0x30) := by
  constructor
  · rintro (h | h)
    · refine ⟨⟨h.1, h.characters⟩, fun hzero => ?_⟩
      obtain hone | hhead := h.2.2
      · rw [hone] at hzero
        exact absurd hzero.2.1 (by decide)
      · exact hhead hzero.2.2
    · exact ⟨⟨h.ne_nil, h.1⟩, fun hzero => absurd (h.2.symm.trans hzero.1) (by decide)⟩
  · rintro ⟨⟨hne, hall⟩, hzero⟩
    cases hdigits : t.all isDigit with
    | false => exact .inr ⟨hall, hdigits⟩
    | true =>
      refine .inl ⟨hne, hdigits, ?_⟩
      by_contra hno
      obtain ⟨hone, hhead⟩ := not_or.mp hno
      rw [ne_eq, not_not] at hhead
      refine hzero ⟨hdigits, ?_, hhead⟩
      obtain ⟨b, rest, rfl⟩ := List.exists_cons_of_ne_nil hne
      obtain rfl := Option.some_inj.mp hhead
      cases rest with
      | nil => exact absurd rfl hone
      | cons c rest => simp

/-- A build identifier is a word of identifier characters. -/
theorem buildIdentifier_iff {t : Bytes} :
    BuildIdentifier t ↔ t ≠ [] ∧ t.all identifierCharacter = true := by
  constructor
  · rintro (⟨hne, hdigits⟩ | h)
    · exact ⟨hne, List.all_eq_true.mpr fun b hb =>
        identifierCharacter_of_isDigit (List.all_eq_true.mp hdigits b hb)⟩
    · exact ⟨h.ne_nil, h.1⟩
  · rintro ⟨hne, hall⟩
    cases hdigits : t.all isDigit with
    | false => exact .inr ⟨hall, hdigits⟩
    | true => exact .inl ⟨hne, hdigits⟩

theorem not_mem_of_characters {t : Bytes} (h : t.all identifierCharacter = true) {b : UInt8}
    (hb : identifierCharacter b = false) : b ∉ t := fun hmem =>
  absurd (hb.symm.trans (List.all_eq_true.mp h b hmem)) (by decide)

/-! ## 4. Identifiers between dots -/

/-- Identifiers are found again between their dots. -/
theorem splitOn_dotted {identifiers : List Bytes} (hne : identifiers ≠ [])
    (h : ∀ i ∈ identifiers, i.all identifierCharacter = true) :
    (dotted identifiers).splitOn dot = identifiers :=
  List.splitOn_intercalate dot (fun i hi => not_mem_of_characters (h i hi) identifierCharacter_dot)
    hne

theorem dotted_splitOn (t : Bytes) : dotted (t.splitOn dot) = t := List.intercalate_splitOn dot

/-- What is in no identifier and is no dot is not between them. -/
theorem not_mem_dotted {b : UInt8} (hb : b ≠ dot) : ∀ {identifiers : List Bytes},
    (∀ i ∈ identifiers, b ∉ i) → b ∉ dotted identifiers
  | [], _ => by simp [dotted]
  | [i], h => by simpa [dotted] using h
  | i :: j :: rest, h => by
    have hrest : b ∉ dotted (j :: rest) :=
      not_mem_dotted hb fun k hk => h k (List.mem_cons_of_mem i hk)
    unfold dotted at hrest ⊢
    rw [List.intercalate_cons_cons, List.mem_append, List.mem_append, List.mem_singleton]
    exact fun hmem => hmem.elim (fun hi => hi.elim (h i List.mem_cons_self) hb) hrest

/-! ## 5. Numbers without leading zeros -/

theorem fromDigits_append (s t : Bytes) :
    fromDigits (s ++ t) = fromDigits s * 10 ^ t.length + fromDigits t := by
  induction t using List.reverseRecOn with
  | nil => simp [fromDigits]
  | append_singleton t b ih =>
    have hsnoc : ∀ u : Bytes, fromDigits (u ++ [b]) = 10 * fromDigits u + (b.toNat - 0x30) :=
      fun u => by simp [fromDigits]
    rw [← List.append_assoc, hsnoc, hsnoc, ih, List.length_append, List.length_singleton, pow_succ]
    ring

theorem fromDigits_cons (b : UInt8) (t : Bytes) :
    fromDigits (b :: t) = (b.toNat - 0x30) * 10 ^ t.length + fromDigits t := by
  have h := fromDigits_append [b] t
  simpa [fromDigits] using h

/-- The value of a digit. -/
theorem isDigit_toNat {b : UInt8} (h : isDigit b = true) : 0x30 ≤ b.toNat ∧ b.toNat ≤ 0x39 := by
  simpa [isDigit, UInt8.le_iff_toNat_le] using h

theorem fromDigits_lt : ∀ {t : Bytes}, t.all isDigit = true → fromDigits t < 10 ^ t.length
  | [], _ => by simp [fromDigits]
  | b :: t, h => by
    obtain ⟨hb, ht⟩ := List.all_cons.symm.trans h |> (Bool.and_eq_true _ _).mp
    have htail := fromDigits_lt ht
    have hhead := isDigit_toNat hb
    have hmul : (b.toNat - 0x30) * 10 ^ t.length ≤ 9 * 10 ^ t.length :=
      Nat.mul_le_mul_right _ (by omega)
    rw [fromDigits_cons, List.length_cons, pow_succ]
    omega

/-- Digits of one length are in the order of their numbers. -/
theorem lt_iff_fromDigits_lt : ∀ {s t : Bytes}, s.all isDigit = true → t.all isDigit = true →
    s.length = t.length → (s < t ↔ fromDigits s < fromDigits t)
  | [], [], _, _, _ => by simp
  | b :: s, c :: t, hs, ht, hlen => by
    obtain ⟨hb, hs⟩ := List.all_cons.symm.trans hs |> (Bool.and_eq_true _ _).mp
    obtain ⟨hc, ht⟩ := List.all_cons.symm.trans ht |> (Bool.and_eq_true _ _).mp
    have hlen : s.length = t.length := Nat.succ_injective hlen
    have hsv := fromDigits_lt hs
    have htv := fromDigits_lt ht
    have hbv := isDigit_toNat hb
    have hcv := isDigit_toNat hc
    rw [List.cons_lt_cons_iff, lt_iff_fromDigits_lt hs ht hlen, fromDigits_cons, fromDigits_cons,
      hlen, UInt8.lt_iff_toNat_lt, ← UInt8.toNat_inj]
    rw [hlen] at hsv
    obtain hlt | heq | hgt := Nat.lt_trichotomy b.toNat c.toNat
    · have hstep : (b.toNat - 0x30 + 1) * 10 ^ t.length ≤ (c.toNat - 0x30) * 10 ^ t.length :=
        Nat.mul_le_mul_right _ (by omega)
      rw [Nat.add_mul, Nat.one_mul] at hstep
      exact iff_of_true (.inl hlt) (by omega)
    · rw [heq]
      constructor
      · rintro (h | ⟨-, h⟩)
        · exact absurd h (lt_irrefl _)
        · omega
      · exact fun h => .inr ⟨rfl, by omega⟩
    · have hstep : (c.toNat - 0x30 + 1) * 10 ^ t.length ≤ (b.toNat - 0x30) * 10 ^ t.length :=
        Nat.mul_le_mul_right _ (by omega)
      rw [Nat.add_mul, Nat.one_mul] at hstep
      exact iff_of_false (by omega) (by omega)

/-- Without a leading zero a number of more digits is the larger one. -/
theorem Numeric.fromDigits_lt_of_length {s t : Bytes} (hs : Numeric s) (ht : Numeric t)
    (hlen : s.length < t.length) : fromDigits s < fromDigits t := by
  obtain ⟨b, rest, rfl⟩ := List.exists_cons_of_ne_nil ht.1
  have hhead : b.toNat ≠ 0x30 := by
    obtain hone | hhead := ht.2.2
    · rw [hone] at hlen
      exact absurd (List.length_eq_zero_iff.mp (by simpa using hlen)) hs.1
    · exact fun h => hhead (congrArg some (UInt8.toNat_inj.mp h))
  have hb := isDigit_toNat (List.all_eq_true.mp ht.2.1 b List.mem_cons_self)
  calc fromDigits s < 10 ^ s.length := fromDigits_lt hs.2.1
    _ ≤ 10 ^ rest.length := Nat.pow_le_pow_right (by decide) (Nat.lt_succ_iff.mp hlen)
    _ ≤ (b.toNat - 0x30) * 10 ^ rest.length := Nat.le_mul_of_pos_left _ (by omega)
    _ ≤ fromDigits (b :: rest) := by rw [fromDigits_cons]; exact Nat.le_add_right _ _

/-- **Numbers as texts.**  Without leading zeros, lengths and then digits are in the order of the
numbers. -/
theorem Numeric.fromDigits_lt_iff {s t : Bytes} (hs : Numeric s) (ht : Numeric t) :
    fromDigits s < fromDigits t ↔ s.length < t.length ∨ s.length = t.length ∧ s < t := by
  obtain hlt | heq | hgt := Nat.lt_trichotomy s.length t.length
  · exact iff_of_true (hs.fromDigits_lt_of_length ht hlt) (.inl hlt)
  · rw [lt_iff_fromDigits_lt hs.2.1 ht.2.1 heq]
    exact ⟨fun h => .inr ⟨heq, h⟩, fun h => h.elim (fun h => absurd heq h.ne) And.right⟩
  · have hback := ht.fromDigits_lt_of_length hs hgt
    exact iff_of_false (by omega) (by omega)

/-- A number has one text without leading zeros. -/
theorem Numeric.fromDigits_inj {s t : Bytes} (hs : Numeric s) (ht : Numeric t)
    (h : fromDigits s = fromDigits t) : s = t := by
  have hst := (hs.fromDigits_lt_iff ht).not.mp (by omega)
  have hts := (ht.fromDigits_lt_iff hs).not.mp (by omega)
  have hlen : s.length = t.length := by omega
  refine map_toNat_injective (le_antisymm (not_lt.mp fun h => ?_) (not_lt.mp fun h => ?_))
  · exact hts (.inr ⟨hlen.symm, map_toNat_lt_iff.mp h⟩)
  · exact hst (.inr ⟨hlen, map_toNat_lt_iff.mp h⟩)

/-! ## 6. The order of identifiers -/

/-- How two elements of a linear order compare. -/
def order {α : Type} [LinearOrder α] (a b : α) : Ordering := cmp a b

section

variable {α β : Type} [LinearOrder α] [LinearOrder β]

theorem order_eq_lt {a b : α} : order a b = .lt ↔ a < b := cmp_eq_lt_iff a b

theorem order_eq_eq {a b : α} : order a b = .eq ↔ a = b := cmp_eq_eq_iff a b

theorem order_eq_gt {a b : α} : order a b = .gt ↔ b < a := cmp_eq_gt_iff a b

theorem order_swap (a b : α) : (order a b).swap = order b a := cmp_swap a b

/-- An order that looks at `a` and `b` first and at `c` and `d` behind equal ones. -/
theorem order_then {γ : Type} [LinearOrder γ] {a b : α} {c d : β} {x y : γ}
    (hlt : x < y ↔ a < b ∨ a = b ∧ c < d) (hgt : y < x ↔ b < a ∨ b = a ∧ d < c) :
    order x y = (order a b).then (order c d) := by
  obtain h | rfl | h := lt_trichotomy a b
  · rw [order_eq_lt.mpr h, order_eq_lt.mpr (hlt.mpr (.inl h))]
    rfl
  · rw [order_eq_eq.mpr rfl, Ordering.eq_then]
    obtain h | rfl | h := lt_trichotomy c d
    · rw [order_eq_lt.mpr h, order_eq_lt.mpr (hlt.mpr (.inr ⟨rfl, h⟩))]
    · have hle : ¬ x < y := fun h => by simpa using hlt.mp h
      have hge : ¬ y < x := fun h => by simpa using hgt.mp h
      rw [order_eq_eq.mpr rfl, order_eq_eq.mpr (le_antisymm (not_lt.mp hge) (not_lt.mp hle))]
    · rw [order_eq_gt.mpr h, order_eq_gt.mpr (hgt.mpr (.inr ⟨rfl, h⟩))]
  · rw [order_eq_gt.mpr h, order_eq_gt.mpr (hgt.mpr (.inl h))]
    rfl

/-- Lists are compared behind equal heads. -/
theorem order_cons (a b : α) (s t : List α) :
    order (a :: s) (b :: t) = (order a b).then (order s t) :=
  order_then List.cons_lt_cons_iff List.cons_lt_cons_iff

/-- Pairs are compared behind equal first components. -/
theorem order_toLex (a b : α) (c d : β) :
    order (toLex (a, c)) (toLex (b, d)) = (order a b).then (order c d) :=
  order_then Prod.Lex.toLex_lt_toLex Prod.Lex.toLex_lt_toLex

end

theorem identifierRank_of_digits {t : Bytes} (h : t.all isDigit = true) :
    identifierRank t = toLex (.inl (fromDigits t)) := if_pos h

theorem identifierRank_of_not_digits {t : Bytes} (h : t.all isDigit = false) :
    identifierRank t = toLex (.inr (t.map UInt8.toNat)) := if_neg (by simp [h])

/-- Two pre-release identifiers are of one rank only when they are one. -/
theorem identifierRank_inj {s t : Bytes} (hs : PrereleaseIdentifier s)
    (ht : PrereleaseIdentifier t) (h : identifierRank s = identifierRank t) : s = t := by
  obtain hs | hs := hs <;> obtain ht | ht := ht
  · rw [identifierRank_of_digits hs.2.1, identifierRank_of_digits ht.2.1] at h
    exact hs.fromDigits_inj ht (Sum.inl_injective (toLex.injective h))
  · rw [identifierRank_of_digits hs.2.1, identifierRank_of_not_digits ht.2] at h
    exact absurd (toLex.injective h) Sum.inl_ne_inr
  · rw [identifierRank_of_not_digits hs.2, identifierRank_of_digits ht.2.1] at h
    exact absurd (toLex.injective h) Sum.inr_ne_inl
  · rw [identifierRank_of_not_digits hs.2, identifierRank_of_not_digits ht.2] at h
    exact map_toNat_injective (Sum.inr_injective (toLex.injective h))

end SemVer
