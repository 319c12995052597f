/-
# Texts of one record a line

The small codecs that record files are made of: lines, fields, hexadecimal and decimal numbers.
A text is a list of bytes, and `ascii` writes one down.  Each codec comes with its round trip, and
the encodings with what they can hold, since a field is only found again when its separator is
not in it.
-/
import Mathlib.Data.Nat.Digits.Lemmas
import Mathlib.Data.List.Basic
import Mathlib.Tactic.Common

namespace Text

abbrev Bytes := List UInt8

instance : LawfulBEq Bytes := inferInstance

/-- The bytes of a literal. -/
def ascii (s : String) : Bytes := s.toByteArray.data.toList

def lf : UInt8 := 0x0A
def cr : UInt8 := 0x0D

/-! ## 1. Fields -/

/-- The bytes after a prefix. -/
def after (p l : Bytes) : Option Bytes := if p <+: l then some (l.drop p.length) else none

@[simp] theorem after_append (p l : Bytes) : after p (p ++ l) = some l := by
  rw [after, if_pos (List.prefix_append p l), List.drop_left]

theorem after_eq_some {p l q : Bytes} (h : after p l = some q) : l = p ++ q := by
  unfold after at h
  split at h
  · rename_i hp
    obtain ⟨q', rfl⟩ := hp
    rw [List.drop_left, Option.some.injEq] at h
    rw [h]
  · cases h

/-- The bytes before the first `b` and the bytes behind it. -/
def cut (b : UInt8) : Bytes → Option (Bytes × Bytes)
  | [] => none
  | x :: rest => if x = b then some ([], rest) else (cut b rest).map fun p => (x :: p.1, p.2)

theorem cut_append {b : UInt8} {p : Bytes} (hp : b ∉ p) (q : Bytes) :
    cut b (p ++ b :: q) = some (p, q) := by
  induction p with
  | nil => simp [cut]
  | cons x p ih =>
    obtain ⟨hx, hp⟩ := not_or.mp (List.mem_cons.not.mp hp)
    simp [cut, Ne.symm hx, ih hp]

theorem cut_of_not_mem {b : UInt8} : ∀ {l : Bytes}, b ∉ l → cut b l = none
  | [], _ => rfl
  | x :: rest, h => by
    obtain ⟨hx, hrest⟩ := not_or.mp (List.mem_cons.not.mp h)
    simp [cut, Ne.symm hx, cut_of_not_mem hrest]

theorem cut_eq_none {b : UInt8} {l : Bytes} (h : cut b l = none) : b ∉ l := by
  induction l with
  | nil => simp
  | cons x rest ih =>
    by_cases hx : x = b
    · simp [cut, hx] at h
    · simp only [cut, if_neg hx, Option.map_eq_none_iff] at h
      simp [Ne.symm hx, ih h]

theorem cut_eq_some {b : UInt8} {l p q : Bytes} (h : cut b l = some (p, q)) :
    l = p ++ b :: q ∧ b ∉ p := by
  induction l generalizing p with
  | nil => cases h
  | cons x rest ih =>
    by_cases hx : x = b
    · simp only [cut, if_pos hx, Option.some.injEq, Prod.mk.injEq] at h
      obtain ⟨rfl, rfl⟩ := h
      exact ⟨by rw [hx]; rfl, by simp⟩
    · simp only [cut, if_neg hx, Option.map_eq_some_iff, Prod.mk.injEq, Prod.exists] at h
      obtain ⟨p', q', hcut, rfl, rfl⟩ := h
      obtain ⟨rfl, hp'⟩ := ih hcut
      exact ⟨rfl, by simp [Ne.symm hx, hp']⟩

/-- The parts between the occurrences of a byte. -/
def splitOn (b : UInt8) : Bytes → List Bytes
  | [] => [[]]
  | x :: rest =>
    if x = b then [] :: splitOn b rest
    else match splitOn b rest with
      | [] => [[x]]
      | part :: parts => (x :: part) :: parts

theorem splitOn_append {b : UInt8} {p : Bytes} (hp : b ∉ p) (q : Bytes) :
    splitOn b (p ++ b :: q) = p :: splitOn b q := by
  induction p with
  | nil => simp [splitOn]
  | cons x p ih =>
    obtain ⟨hx, hp⟩ := not_or.mp (List.mem_cons.not.mp hp)
    simp [splitOn, Ne.symm hx, ih hp]

theorem splitOn_of_not_mem {b : UInt8} {p : Bytes} (hp : b ∉ p) : splitOn b p = [p] := by
  induction p with
  | nil => rfl
  | cons x p ih =>
    obtain ⟨hx, hp⟩ := not_or.mp (List.mem_cons.not.mp hp)
    simp [splitOn, Ne.symm hx, ih hp]

theorem splitOn_ne_nil (b : UInt8) (l : Bytes) : splitOn b l ≠ [] := by
  cases l with
  | nil => simp [splitOn]
  | cons x rest =>
    by_cases hx : x = b
    · simp [splitOn, hx]
    · cases hrest : splitOn b rest <;> simp [splitOn, hx, hrest]

theorem splitOn_cons {b x : UInt8} (hx : x ≠ b) {rest part : Bytes} {parts : List Bytes}
    (h : splitOn b rest = part :: parts) : splitOn b (x :: rest) = (x :: part) :: parts := by
  simp [splitOn, hx, h]

/-- **A text that goes on**: the parts before the last are parts already, the last one goes on. -/
theorem splitOn_append_last (b : UInt8) (p q : Bytes) :
    splitOn b (p ++ q) =
      (splitOn b p).dropLast ++ splitOn b ((splitOn b p).getLast?.getD [] ++ q) := by
  induction p with
  | nil => simp [splitOn]
  | cons x p ih =>
    obtain ⟨part, parts, hparts⟩ := List.exists_cons_of_ne_nil (splitOn_ne_nil b p)
    by_cases hx : x = b
    · simp [splitOn, hx, ih, hparts]
    · rw [hparts] at ih
      rw [splitOn_cons hx hparts]
      cases parts with
      | nil =>
        obtain ⟨part', parts', hparts'⟩ := List.exists_cons_of_ne_nil (splitOn_ne_nil b (part ++ q))
        have hrest : splitOn b (p ++ q) = part' :: parts' := by simpa [hparts'] using ih
        have hpart : splitOn b (x :: (part ++ q)) = (x :: part') :: parts' :=
          splitOn_cons hx hparts'
        simpa [hpart] using splitOn_cons hx hrest
      | cons next parts =>
        have hrest : splitOn b (p ++ q) = part :: ((next :: parts).dropLast ++
            splitOn b ((next :: parts).getLast?.getD [] ++ q)) := by simpa using ih
        simpa using splitOn_cons hx hrest

/-- The byte that separates is in no part. -/
theorem not_mem_of_mem_splitOn {b : UInt8} {l part : Bytes} (h : part ∈ splitOn b l) :
    b ∉ part := by
  induction l generalizing part with
  | nil =>
    obtain rfl := List.mem_singleton.mp h
    exact List.not_mem_nil
  | cons x rest ih =>
    obtain ⟨head, parts, hparts⟩ := List.exists_cons_of_ne_nil (splitOn_ne_nil b rest)
    rw [hparts] at ih
    by_cases hx : x = b
    · simp only [splitOn, if_pos hx, hparts, List.mem_cons] at h
      rcases h with rfl | h
      · exact List.not_mem_nil
      · exact ih (List.mem_cons.mpr h)
    · rw [splitOn_cons hx hparts, List.mem_cons] at h
      rcases h with rfl | h
      · exact List.not_mem_cons_of_ne_of_not_mem (Ne.symm hx) (ih List.mem_cons_self)
      · exact ih (List.mem_cons_of_mem head h)

/-! ## 2. Lines -/

/-- A text without one carriage return at its end. -/
def stripCr (l : Bytes) : Bytes := if l.getLast? = some cr then l.dropLast else l

theorem stripCr_of_not_mem {l : Bytes} (h : cr ∉ l) : stripCr l = l := by
  refine if_neg fun hlast => h ?_
  exact List.mem_of_getLast? hlast

/-- The lines of a text; nothing is behind the last line feed. -/
def records (text : Bytes) : List Bytes :=
  let parts := splitOn lf text
  (if parts.getLast? = some [] then parts.dropLast else parts).map stripCr

/-- A text of one record a line. -/
def lines (rs : List Bytes) : Bytes := rs.flatMap fun r => r ++ [lf]

theorem length_lines (rs : List Bytes) : (lines rs).length = (rs.map fun r => r.length + 1).sum := by
  simp [lines, List.length_flatMap]

theorem lines_append (rs rs' : List Bytes) : lines (rs ++ rs') = lines rs ++ lines rs' :=
  List.flatMap_append

/-- Can stand on a line. -/
def Inline (r : Bytes) : Prop := lf ∉ r ∧ cr ∉ r

theorem Inline.append {r r' : Bytes} (h : Inline r) (h' : Inline r') : Inline (r ++ r') := by
  constructor
  · exact List.not_mem_append h.1 h'.1
  · exact List.not_mem_append h.2 h'.2

theorem splitOn_lines {rs : List Bytes} (h : ∀ r ∈ rs, lf ∉ r) :
    splitOn lf (lines rs) = rs ++ [[]] := by
  induction rs with
  | nil => rfl
  | cons r rs ih =>
    obtain ⟨hr, hrest⟩ := List.forall_mem_cons.mp h
    calc
      splitOn lf (lines (r :: rs)) = splitOn lf (r ++ lf :: lines rs) := by simp [lines]
      _ = r :: splitOn lf (lines rs) := splitOn_append hr _
      _ = r :: (rs ++ [[]]) := by rw [ih hrest]

/-- **Records are read back.** -/
theorem records_lines {rs : List Bytes} (h : ∀ r ∈ rs, Inline r) : records (lines rs) = rs := by
  unfold records
  rw [splitOn_lines fun r hr => (h r hr).1]
  simp only [List.getLast?_append, List.getLast?_singleton, Option.some_or, if_true,
    List.dropLast_concat]
  calc
    rs.map stripCr = rs.map id :=
      List.map_congr_left fun r hr => stripCr_of_not_mem (h r hr).2
    _ = rs := List.map_id rs

theorem lines_injective {rs rs' : List Bytes} (h : ∀ r ∈ rs, Inline r)
    (h' : ∀ r ∈ rs', Inline r) (heq : lines rs = lines rs') : rs = rs' := by
  rw [← records_lines h, heq, records_lines h']

/-! ## 3. Hexadecimal numbers -/

/-- A digit. -/
def hexDigit (n : ℕ) : UInt8 := if n < 10 then UInt8.ofNat (0x30 + n) else UInt8.ofNat (0x57 + n)

/-- Two digits a byte. -/
def hexEncode (bytes : Bytes) : Bytes :=
  bytes.flatMap fun b => [hexDigit (b.toNat / 16), hexDigit (b.toNat % 16)]

def nibble (b : UInt8) : Option ℕ :=
  if 0x30 ≤ b ∧ b ≤ 0x39 then some (b.toNat - 0x30)
  else if 0x61 ≤ b ∧ b ≤ 0x66 then some (b.toNat - 0x57)
  else none

def hexDecode : Bytes → Option Bytes
  | [] => some []
  | [_] => none
  | a :: b :: rest =>
    match nibble a, nibble b, hexDecode rest with
    | some high, some low, some bytes => some (UInt8.ofNat (16 * high + low) :: bytes)
    | _, _, _ => none

/-- A digit as `hexDigit` writes it. -/
def isHex (b : UInt8) : Bool := (nibble b).isSome

theorem nibble_hexDigit {n : ℕ} (h : n < 16) : nibble (hexDigit n) = some n := by
  have hall : ∀ k : Fin 16, nibble (hexDigit k) = some k.val := by decide
  exact hall ⟨n, h⟩

@[simp] theorem hexEncode_nil : hexEncode [] = [] := rfl

@[simp] theorem hexEncode_cons (b : UInt8) (bytes : Bytes) : hexEncode (b :: bytes) =
    hexDigit (b.toNat / 16) :: hexDigit (b.toNat % 16) :: hexEncode bytes := rfl

/-- **Hexadecimal numbers are read back.** -/
@[simp] theorem hexDecode_hexEncode (bytes : Bytes) : hexDecode (hexEncode bytes) = some bytes := by
  induction bytes with
  | nil => rfl
  | cons b bytes ih =>
    have hb : b.toNat < 256 := b.toNat_lt
    have hsplit : 16 * (b.toNat / 16) + b.toNat % 16 = b.toNat := by omega
    rw [hexEncode_cons, hexDecode, nibble_hexDigit (by omega), nibble_hexDigit (by omega), ih]
    simp only [hsplit, UInt8.ofNat_toNat]

theorem hexEncode_injective : Function.Injective hexEncode := by
  intro a b h
  have ha := hexDecode_hexEncode a
  rw [h, hexDecode_hexEncode] at ha
  exact (Option.some.inj ha).symm

@[simp] theorem length_hexEncode (bytes : Bytes) :
    (hexEncode bytes).length = 2 * bytes.length := by
  induction bytes with
  | nil => rfl
  | cons b bytes ih =>
    rw [hexEncode_cons]
    simp only [List.length_cons, ih]
    omega

theorem isHex_of_mem_hexEncode {bytes : Bytes} {x : UInt8} (h : x ∈ hexEncode bytes) :
    isHex x = true := by
  obtain ⟨b, -, hx⟩ := List.mem_flatMap.mp h
  have hb : b.toNat < 256 := b.toNat_lt
  rcases List.mem_pair.mp hx with rfl | rfl
  · rw [isHex, nibble_hexDigit (by omega), Option.isSome_some]
  · rw [isHex, nibble_hexDigit (by omega), Option.isSome_some]

/-- Nothing but digits. -/
def HexText (l : Bytes) : Prop := l.all isHex = true

instance (l : Bytes) : Decidable (HexText l) := inferInstanceAs (Decidable (_ = true))

theorem hexText_hexEncode (bytes : Bytes) : HexText (hexEncode bytes) :=
  List.all_eq_true.mpr fun _ h => isHex_of_mem_hexEncode h

theorem HexText.not_mem {l : Bytes} (h : HexText l) {x : UInt8} (hx : isHex x = false) :
    x ∉ l := by
  intro hmem
  rw [List.all_eq_true.mp h x hmem] at hx
  cases hx

theorem HexText.inline {l : Bytes} (h : HexText l) : Inline l := by
  constructor
  · exact h.not_mem (by decide)
  · exact h.not_mem (by decide)

/-! ## 4. Decimal numbers -/

def isDigit (b : UInt8) : Bool := decide (0x30 ≤ b) && decide (b ≤ 0x39)

def digit (n : ℕ) : UInt8 := UInt8.ofNat (0x30 + n)

/-- A number in decimal digits. -/
def decimal (n : ℕ) : Bytes := if n = 0 then [digit 0] else ((Nat.digits 10 n).map digit).reverse

/-- The number that the digits stand for. -/
def fromDigits (text : Bytes) : ℕ := text.foldl (fun n b => 10 * n + (b.toNat - 0x30)) 0

/-- The number of a decimal text without leading zeros, when it is below the bound. -/
def parseCanonical (bound : ℕ) (text : Bytes) : Option ℕ :=
  if text = [] ∨ (1 < text.length ∧ text.head? = some (digit 0)) ∨ text.all isDigit = false then none
  else if fromDigits text < bound then some (fromDigits text)
  else none

theorem toNat_digit {n : ℕ} (h : n < 10) : (digit n).toNat - 0x30 = n := by
  have hall : ∀ k : Fin 10, (digit k).toNat - 0x30 = k.val := by decide
  exact hall ⟨n, h⟩

theorem isDigit_digit {n : ℕ} (h : n < 10) : isDigit (digit n) = true := by
  have hall : ∀ k : Fin 10, isDigit (digit k) = true := by decide
  exact hall ⟨n, h⟩

theorem fromDigits_decimal (n : ℕ) : fromDigits (decimal n) = n := by
  unfold fromDigits decimal
  by_cases hn : n = 0
  · subst hn
    decide
  · rw [if_neg hn, List.foldl_reverse, List.foldr_map]
    have hfold : (Nat.digits 10 n).foldr (fun d m => 10 * m + ((digit d).toNat - 0x30)) 0 =
        (Nat.digits 10 n).foldr (fun d m => d + 10 * m) 0 := by
      refine List.foldr_ext _ _ _ fun d hd m => ?_
      rw [toNat_digit (Nat.digits_lt_base (by decide) hd), Nat.add_comm]
    calc
      _ = (Nat.digits 10 n).foldr (fun d m => d + 10 * m) 0 := hfold
      _ = Nat.ofDigits 10 (Nat.digits 10 n) := (Nat.ofDigits_eq_foldr 10 _).symm
      _ = n := Nat.ofDigits_digits 10 n

theorem isDigit_of_mem_decimal {n : ℕ} {x : UInt8} (h : x ∈ decimal n) : isDigit x = true := by
  unfold decimal at h
  by_cases hn : n = 0
  · rw [if_pos hn, List.mem_singleton] at h
    rw [h]
    decide
  · rw [if_neg hn, List.mem_reverse] at h
    obtain ⟨d, hd, rfl⟩ := List.mem_map.mp h
    exact isDigit_digit (Nat.digits_lt_base (by decide) hd)

theorem decimal_ne_nil (n : ℕ) : decimal n ≠ [] := by
  unfold decimal
  by_cases hn : n = 0
  · rw [if_pos hn]
    simp
  · rw [if_neg hn]
    simp [Nat.digits_ne_nil_iff_ne_zero.mpr hn]

theorem head_decimal {n : ℕ} (hlen : 1 < (decimal n).length) :
    (decimal n).head? ≠ some (digit 0) := by
  unfold decimal at hlen ⊢
  by_cases hn : n = 0
  · rw [if_pos hn] at hlen
    cases hlen with
    | step h => cases h
  · rw [if_neg hn, List.head?_reverse, List.getLast?_map,
      List.getLast?_eq_some_getLast (Nat.digits_ne_nil_iff_ne_zero.mpr hn)]
    intro h
    rw [Option.map_some, Option.some.injEq] at h
    have hlast := Nat.getLast_digit_ne_zero 10 hn
    have hlt : (Nat.digits 10 n).getLast _ < 10 :=
      Nat.digits_lt_base (by decide) (List.getLast_mem (Nat.digits_ne_nil_iff_ne_zero.mpr hn))
    have hzero := congrArg (fun b : UInt8 => b.toNat - 0x30) h
    simp only [toNat_digit hlt, toNat_digit (show 0 < 10 by decide)] at hzero
    exact hlast hzero

/-- **Decimal numbers are read back.** -/
theorem parseCanonical_decimal {bound n : ℕ} (h : n < bound) :
    parseCanonical bound (decimal n) = some n := by
  unfold parseCanonical
  rw [if_neg, fromDigits_decimal, if_pos h]
  rintro (hnil | ⟨hlen, hhead⟩ | hall)
  · exact decimal_ne_nil n hnil
  · exact head_decimal hlen hhead
  · rw [List.all_eq_true.mpr fun _ hx => isDigit_of_mem_decimal hx] at hall
    cases hall

/-- `std::from_chars` of a whole text, to 64 bits. -/
def parseSize (text : Bytes) : Option ℕ :=
  if text ≠ [] ∧ text.all isDigit = true ∧ fromDigits text < 2 ^ 64 then some (fromDigits text)
  else none

theorem parseSize_decimal {n : ℕ} (h : n < 2 ^ 64) : parseSize (decimal n) = some n := by
  have hdigits : (decimal n).all isDigit = true :=
    List.all_eq_true.mpr fun _ hx => isDigit_of_mem_decimal hx
  rw [parseSize, fromDigits_decimal, if_pos ⟨decimal_ne_nil n, hdigits, h⟩]

theorem length_decimal_le {n k : ℕ} (hk : k ≠ 0) (h : n < 10 ^ k) : (decimal n).length ≤ k := by
  unfold decimal
  by_cases hn : n = 0
  · rw [if_pos hn]
    exact Nat.one_le_iff_ne_zero.mpr hk
  · rw [if_neg hn, List.length_reverse, List.length_map]
    exact (Nat.digits_length_le_iff (by decide) n).mpr h

theorem not_mem_decimal {n : ℕ} {x : UInt8} (hx : isDigit x = false) : x ∉ decimal n := by
  intro hmem
  rw [isDigit_of_mem_decimal hmem] at hx
  cases hx

theorem inline_decimal (n : ℕ) : Inline (decimal n) := by
  constructor
  · exact not_mem_decimal (by decide)
  · exact not_mem_decimal (by decide)

/-! ## 5. Search -/

/-- What stands before the first occurrence of a text and what stands behind it: `find`. -/
def search (m : Bytes) : Bytes → Option (Bytes × Bytes)
  | [] => if m = [] then some ([], []) else none
  | x :: rest =>
    match after m (x :: rest) with
    | some behind => some ([], behind)
    | none => (search m rest).map fun p => (x :: p.1, p.2)

/-- The text occurs in the line. -/
def contains (m line : Bytes) : Bool := (search m line).isSome

/-! ## 6. Keyed lines -/

/-- A line of a name and a value. -/
def keyedLine (f : Bytes × Bytes) : Bytes := f.1 ++ 0x3D :: f.2

/-- Lines of a name and a value each. -/
def keyed (fields : List (Bytes × Bytes)) : Bytes := lines (fields.map keyedLine)

/-- What stands between the first occurrence of a key and the end of its line. -/
def valueOf (key text : Bytes) : Option Bytes :=
  (search key text).bind fun found => (cut lf found.2).map Prod.fst

theorem search_skip {m p q : Bytes} (h : ∀ i < p.length, ¬ m <+: (p ++ q).drop i) :
    search m (p ++ q) = (search m q).map fun found => (p ++ found.1, found.2) := by
  induction p with
  | nil => cases hq : search m q <;> simp [hq]
  | cons x p ih =>
    have hhead : after m (x :: (p ++ q)) = none := by
      have := h 0 (by simp)
      exact if_neg this
    have hrest := ih fun i hi => by simpa using h (i + 1) (by simpa using hi)
    rw [List.cons_append, search, hhead]
    simp only [hrest, Option.map_map]
    rfl

/-- What begins before the end of a line and holds no end of a line is in the line. -/
theorem prefix_of_prefix_line {m u rest : Bytes} (hm : lf ∉ m) (h : m <+: u ++ lf :: rest) :
    m <+: u := by
  have hu : u ++ [lf] <+: u ++ lf :: rest := ⟨rest, by simp⟩
  rcases List.prefix_or_prefix_of_prefix h hu with hle | hle
  · rcases List.prefix_concat_iff.mp hle with heq | hle
    · exact absurd (heq ▸ List.mem_append_right u (List.mem_singleton_self lf)) hm
    · exact hle
  · exact absurd (hle.subset (List.mem_append_right u (List.mem_singleton_self lf))) hm

/-- A key occurs in a line where the name does, or in no place. -/
theorem not_key_prefix_line {name : Bytes} {f : Bytes × Bytes} (hlf : lf ∉ name)
    (hname : 0x3D ∉ name) (hf : 0x3D ∉ f.1 ∧ 0x3D ∉ f.2) (hsuffix : ¬ name <:+ f.1) (rest : Bytes)
    {i : ℕ} (hi : i ≤ (keyedLine f).length) :
    ¬ (name ++ [0x3D]) <+: (keyedLine f ++ lf :: rest).drop i := by
  intro h
  have hkey : lf ∉ name ++ [0x3D] := by
    rw [List.mem_append, not_or]
    exact ⟨hlf, by decide⟩
  rw [List.drop_append_of_le_length hi] at h
  have hline := prefix_of_prefix_line hkey h
  rcases Nat.lt_or_ge f.1.length i with hbehind | hle
  · -- behind the sign there is no other
    have hdrop : (keyedLine f).drop i = f.2.drop (i - (f.1.length + 1)) := by
      rw [keyedLine, List.drop_append, List.drop_eq_nil_of_le (Nat.le_of_lt hbehind),
        show i - f.1.length = (i - (f.1.length + 1)) + 1 by omega]
      rfl
    rw [hdrop] at hline
    exact hf.2 (List.mem_of_mem_drop (hline.subset (List.mem_append_right name List.mem_cons_self)))
  · rw [keyedLine, List.drop_append_of_le_length hle] at hline
    obtain ⟨tail, htail⟩ := hline
    rw [List.append_assoc, List.singleton_append] at htail
    have hcut := congrArg (cut 0x3D) htail
    rw [cut_append hname, cut_append fun hmem => hf.1 (List.mem_of_mem_drop hmem)] at hcut
    obtain ⟨heq, -⟩ := Prod.mk.inj (Option.some.inj hcut)
    exact hsuffix (heq ▸ List.drop_suffix i f.1)

/-- **The value of a name** that ends no name before it. -/
theorem valueOf_keyed {b : List (Bytes × Bytes)} (behind : List (Bytes × Bytes))
    {name value : Bytes} (hlf : lf ∉ name) (hname : 0x3D ∉ name) (hvalue : lf ∉ value)
    (hbefore : ∀ f ∈ b, (0x3D ∉ f.1 ∧ 0x3D ∉ f.2) ∧ ¬ name <:+ f.1) :
    valueOf (name ++ [0x3D]) (keyed (b ++ (name, value) :: behind)) = some value := by
  induction b with
  | nil =>
    have htext : keyed ([] ++ (name, value) :: behind) =
        (name ++ [0x3D]) ++ (value ++ lf :: keyed behind) := by
      simp [keyed, lines, keyedLine]
    obtain ⟨x, m, hm⟩ := List.exists_cons_of_ne_nil (l := name ++ [0x3D]) (by simp)
    have hsearch : search (name ++ [0x3D]) ((name ++ [0x3D]) ++ (value ++ lf :: keyed behind)) =
        some ([], value ++ lf :: keyed behind) := by
      have hafter := after_append (name ++ [0x3D]) (value ++ lf :: keyed behind)
      rw [hm] at hafter ⊢
      rw [List.cons_append] at hafter ⊢
      rw [search, hafter]
    rw [valueOf, htext, hsearch, Option.bind_some, cut_append hvalue]
    rfl
  | cons f b ih =>
    obtain ⟨⟨hf, hsuffix⟩, hrest⟩ := List.forall_mem_cons.mp hbefore
    have htext : keyed (f :: b ++ (name, value) :: behind) =
        (keyedLine f ++ [lf]) ++ keyed (b ++ (name, value) :: behind) := by
      simp [keyed, lines]
    have hskip := search_skip (m := name ++ [0x3D]) (p := keyedLine f ++ [lf])
      (q := keyed (b ++ (name, value) :: behind)) fun i hi => by
        rw [List.append_assoc, List.singleton_append]
        refine not_key_prefix_line hlf hname hf hsuffix _ ?_
        rw [List.length_append, List.length_singleton] at hi
        exact Nat.le_of_lt_succ hi
    rw [valueOf, htext, hskip, Option.bind_map]
    exact ih hrest

end Text
