/-
# UTF-8 and UTF-16 on lists

A text is a list of scalar values.  Its UTF-8 form is core's `String.utf8EncodeChar`, character
by character, and its UTF-16 form is `utf16Encode`.  Each form decodes to at most one text, and
to the text it came from.

What a line-oriented parser needs to know of the two forms is how ASCII stands in them: an ASCII
byte, or an ASCII unit, is always a whole character (`utf8Encode_eq_append_ascii`,
`mem_utf8Encode`, `mem_utf16Encode`).
-/
import Mathlib

namespace Unicode

/-! ## 1. UTF-8 -/

/-- The UTF-8 form of a text. -/
def utf8Encode (cs : List Char) : List UInt8 := cs.flatMap String.utf8EncodeChar

/-- The text of a UTF-8 form. -/
def utf8Decode (bytes : List UInt8) : Option (List Char) :=
  bytes.toByteArray.utf8Decode?.map Array.toList

@[simp] theorem utf8Encode_nil : utf8Encode [] = [] := rfl

@[simp] theorem utf8Encode_cons (c : Char) (cs : List Char) :
    utf8Encode (c :: cs) = String.utf8EncodeChar c ++ utf8Encode cs := rfl

@[simp] theorem utf8Encode_append (cs ds : List Char) :
    utf8Encode (cs ++ ds) = utf8Encode cs ++ utf8Encode ds :=
  List.flatMap_append

@[simp] theorem utf8Decode_encode (cs : List Char) : utf8Decode (utf8Encode cs) = some cs := by
  have h : (utf8Encode cs).toByteArray = cs.utf8Encode := rfl
  simp only [utf8Decode, h, List.utf8Decode?_utf8Encode, Option.map_some]

theorem utf8Encode_of_decode {bytes : List UInt8} {cs : List Char}
    (h : utf8Decode bytes = some cs) : utf8Encode cs = bytes := by
  simp only [utf8Decode, Option.map_eq_some_iff] at h
  obtain ⟨chars, hchars, rfl⟩ := h
  have hsome : bytes.toByteArray.utf8Decode?.isSome = true := by rw [hchars]; rfl
  have hback := ByteArray.utf8Encode_get_utf8Decode? (b := bytes.toByteArray) (h := hsome)
  simp only [hchars, Option.get_some] at hback
  exact List.toByteArray_inj.mp hback

theorem utf8Decode_eq_some_iff {bytes : List UInt8} {cs : List Char} :
    utf8Decode bytes = some cs ↔ bytes = utf8Encode cs := by
  constructor
  · intro h
    exact (utf8Encode_of_decode h).symm
  · rintro rfl
    exact utf8Decode_encode cs

/-- An ASCII character is one byte, its own value. -/
theorem utf8EncodeChar_ascii {c : Char} (h : c.toNat < 0x80) :
    String.utf8EncodeChar c = [UInt8.ofNat c.toNat] := by
  unfold String.utf8EncodeChar
  exact if_pos (Nat.le_of_lt_succ h)

theorem char_toNat_lt (c : Char) : c.toNat < 0x110000 := by
  rcases c.valid with h | ⟨-, h⟩
  · exact h.trans (by decide)
  · exact h

/-- Any other character has no ASCII byte. -/
theorem ascii_le_of_mem_utf8EncodeChar {c : Char} (h : 0x80 ≤ c.toNat) {b : UInt8}
    (hb : b ∈ String.utf8EncodeChar c) : 0x80 ≤ b.toNat := by
  have hbound := char_toNat_lt c
  have hbyte : ∀ n, 0x80 ≤ n → n < 0x100 → 0x80 ≤ (UInt8.ofNat n).toNat := by
    intro n hlo hhi
    rw [UInt8.toNat_ofNat_of_lt' hhi]
    exact hlo
  unfold String.utf8EncodeChar at hb
  simp only at hb
  change 0x80 ≤ c.val.toNat at h
  change c.val.toNat < 0x110000 at hbound
  split at hb
  · omega
  · split at hb
    · simp only [List.mem_cons, List.not_mem_nil, or_false] at hb
      rcases hb with rfl | rfl
      · exact hbyte _ (by omega) (by omega)
      · exact hbyte _ (by omega) (by omega)
    · split at hb
      · simp only [List.mem_cons, List.not_mem_nil, or_false] at hb
        rcases hb with rfl | rfl | rfl
        · exact hbyte _ (by omega) (by omega)
        · exact hbyte _ (by omega) (by omega)
        · exact hbyte _ (by omega) (by omega)
      · simp only [List.mem_cons, List.not_mem_nil, or_false] at hb
        rcases hb with rfl | rfl | rfl | rfl
        · exact hbyte _ (by omega) (by omega)
        · exact hbyte _ (by omega) (by omega)
        · exact hbyte _ (by omega) (by omega)
        · exact hbyte _ (by omega) (by omega)

/-! ## 2. ASCII bytes are characters -/

/-- The character of an ASCII byte. -/
def asciiChar (b : UInt8) : Char := Char.ofNat b.toNat

theorem toNat_ofNat_of_lt {n : ℕ} (h : n < 0xD800) : (Char.ofNat n).toNat = n := by
  rw [Char.toNat_ofNat, if_pos (Or.inl h)]

theorem asciiChar_toNat {b : UInt8} (h : b.toNat < 0x80) : (asciiChar b).toNat = b.toNat :=
  toNat_ofNat_of_lt (by omega)

theorem utf8EncodeChar_asciiChar {b : UInt8} (h : b.toNat < 0x80) :
    String.utf8EncodeChar (asciiChar b) = [b] := by
  rw [utf8EncodeChar_ascii (by rw [asciiChar_toNat h]; exact h), asciiChar_toNat h,
    UInt8.ofNat_toNat]

theorem utf8Encode_map_asciiChar {l : List UInt8} (h : ∀ b ∈ l, b.toNat < 0x80) :
    utf8Encode (l.map asciiChar) = l := by
  induction l with
  | nil => rfl
  | cons b l ih =>
    rw [List.map_cons, utf8Encode_cons, utf8EncodeChar_asciiChar (h b List.mem_cons_self),
      ih fun x hx => h x (List.mem_cons_of_mem b hx)]
    rfl

/-- A character whose form holds an ASCII byte is that byte's. -/
theorem eq_asciiChar_of_mem {c : Char} {b : UInt8} (hb : b.toNat < 0x80)
    (h : b ∈ String.utf8EncodeChar c) : c = asciiChar b := by
  by_cases hc : c.toNat < 0x80
  · rw [utf8EncodeChar_ascii hc, List.mem_singleton] at h
    subst h
    unfold asciiChar
    rw [UInt8.toNat_ofNat_of_lt' (hc.trans (by decide)), Char.ofNat_toNat]
  · have := ascii_le_of_mem_utf8EncodeChar (not_lt.mp hc) h
    omega

theorem mem_utf8Encode {b : UInt8} (hb : b.toNat < 0x80) {cs : List Char} :
    b ∈ utf8Encode cs ↔ asciiChar b ∈ cs := by
  constructor
  · intro h
    obtain ⟨c, hc, hmem⟩ := List.mem_flatMap.mp h
    rw [← eq_asciiChar_of_mem hb hmem]
    exact hc
  · intro h
    refine List.mem_flatMap.mpr ⟨_, h, ?_⟩
    rw [utf8EncodeChar_asciiChar hb]
    exact List.mem_singleton_self b

/-- **A UTF-8 form splits at an ASCII byte.** -/
theorem utf8Encode_split {x : UInt8} (hx : x.toNat < 0x80) : ∀ {cs : List Char} {a b : List UInt8},
    utf8Encode cs = a ++ x :: b →
      ∃ l r, cs = l ++ asciiChar x :: r ∧ utf8Encode l = a ∧ utf8Encode r = b
  | [], a, b, h => by simp at h
  | c :: cs, a, b, h => by
    rw [utf8Encode_cons] at h
    rcases List.append_eq_append_iff.mp h with ⟨a', rfl, ha'⟩ | ⟨c', hc', hrest⟩
    · -- the byte lies after the first character
      obtain ⟨l, r, rfl, rfl, rfl⟩ := utf8Encode_split hx ha'
      exact ⟨c :: l, r, rfl, rfl, rfl⟩
    · cases c' with
      | nil =>
        obtain ⟨l, r, rfl, hl, rfl⟩ := utf8Encode_split (a := []) hx hrest.symm
        refine ⟨c :: l, r, rfl, ?_, rfl⟩
        rw [utf8Encode_cons, hl, hc', List.append_nil, List.append_nil]
      | cons y c' =>
        -- the byte lies in the first character, so it is the first character
        rw [List.cons_append, List.cons.injEq] at hrest
        obtain ⟨rfl, rfl⟩ := hrest
        have hc : c = asciiChar x := by
          refine eq_asciiChar_of_mem hx ?_
          rw [hc']
          exact List.mem_append_right a List.mem_cons_self
        rw [hc, utf8EncodeChar_asciiChar hx] at hc'
        obtain ⟨rfl, rfl⟩ : a = [] ∧ c' = [] := by
          cases a with
          | nil => exact ⟨rfl, (List.cons.inj hc').2.symm⟩
          | cons y a => simp at hc'
        exact ⟨[], cs, by rw [hc]; rfl, rfl, rfl⟩

theorem utf8Encode_prefix {cs : List Char} : ∀ {l b : List UInt8}, (∀ x ∈ l, x.toNat < 0x80) →
    utf8Encode cs = l ++ b → ∃ ds, cs = l.map asciiChar ++ ds ∧ utf8Encode ds = b
  | [], b, _, h => ⟨cs, rfl, h⟩
  | x :: l, b, hl, h => by
    obtain ⟨m, r, rfl, hm, hr⟩ := utf8Encode_split (a := []) (hl x List.mem_cons_self) h
    have hnil : m = [] := by
      cases m with
      | nil => rfl
      | cons c m =>
        rw [utf8Encode_cons, List.append_eq_nil_iff] at hm
        exact absurd hm.1 String.utf8EncodeChar_ne_nil
    subst hnil
    obtain ⟨ds, rfl, hds⟩ := utf8Encode_prefix (fun y hy => hl y (List.mem_cons_of_mem x hy)) hr
    exact ⟨ds, rfl, hds⟩

theorem utf8Encode_suffix {cs : List Char} {a r : List UInt8} (hr : ∀ x ∈ r, x.toNat < 0x80)
    (h : utf8Encode cs = a ++ r) : ∃ ds, cs = ds ++ r.map asciiChar ∧ utf8Encode ds = a := by
  cases r with
  | nil => exact ⟨cs, by simp, by simpa using h⟩
  | cons x r =>
    obtain ⟨l, m, rfl, hl, hm⟩ := utf8Encode_split (hr x List.mem_cons_self) h
    obtain ⟨ds, rfl, hds⟩ := utf8Encode_prefix (b := [])
      (fun y hy => hr y (List.mem_cons_of_mem x hy)) (by rw [hm, List.append_nil])
    have hnil : ds = [] := by
      cases ds with
      | nil => rfl
      | cons c ds =>
        rw [utf8Encode_cons, List.append_eq_nil_iff] at hds
        exact absurd hds.1 String.utf8EncodeChar_ne_nil
    exact ⟨l, by rw [hnil]; simp, hl⟩

/-! ## 3. Valid UTF-8 -/

/-- The bytes are the UTF-8 form of a text. -/
def ValidUtf8 (bytes : List UInt8) : Prop := ∃ cs, utf8Encode cs = bytes

theorem validUtf8_utf8Encode (cs : List Char) : ValidUtf8 (utf8Encode cs) := ⟨cs, rfl⟩

theorem validUtf8_nil : ValidUtf8 [] := ⟨[], rfl⟩

theorem ValidUtf8.append {a b : List UInt8} (ha : ValidUtf8 a) (hb : ValidUtf8 b) :
    ValidUtf8 (a ++ b) := by
  obtain ⟨cs, rfl⟩ := ha
  obtain ⟨ds, rfl⟩ := hb
  exact ⟨cs ++ ds, utf8Encode_append cs ds⟩

theorem validUtf8_of_ascii {l : List UInt8} (h : ∀ b ∈ l, b.toNat < 0x80) : ValidUtf8 l :=
  ⟨l.map asciiChar, utf8Encode_map_asciiChar h⟩

/-- **Validity splits at an ASCII byte.** -/
theorem validUtf8_append_cons {x : UInt8} (hx : x.toNat < 0x80) {a b : List UInt8} :
    ValidUtf8 (a ++ x :: b) ↔ ValidUtf8 a ∧ ValidUtf8 b := by
  constructor
  · rintro ⟨cs, hcs⟩
    obtain ⟨l, r, rfl, hl, hr⟩ := utf8Encode_split hx hcs
    exact ⟨⟨l, hl⟩, ⟨r, hr⟩⟩
  · rintro ⟨ha, hb⟩
    refine ha.append (ValidUtf8.append (a := [x]) (validUtf8_of_ascii ?_) hb)
    rintro y hy
    rw [List.mem_singleton.mp hy]
    exact hx

theorem isSome_utf8Decode {bytes : List UInt8} :
    (utf8Decode bytes).isSome = true ↔ ValidUtf8 bytes := by
  rw [Option.isSome_iff_exists]
  constructor
  · rintro ⟨cs, hcs⟩
    exact ⟨cs, utf8Encode_of_decode hcs⟩
  · rintro ⟨cs, rfl⟩
    exact ⟨cs, utf8Decode_encode cs⟩

/-! ## 4. UTF-16 -/

/-- The UTF-16 form of a character: its own unit, or a surrogate pair. -/
def utf16EncodeChar (c : Char) : List UInt16 :=
  if c.toNat < 0x10000 then [UInt16.ofNat c.toNat]
  else [UInt16.ofNat (0xD800 + (c.toNat - 0x10000) / 0x400),
    UInt16.ofNat (0xDC00 + (c.toNat - 0x10000) % 0x400)]

/-- The UTF-16 form of a text. -/
def utf16Encode (cs : List Char) : List UInt16 := cs.flatMap utf16EncodeChar

/-- A unit that is a character by itself. -/
def isScalarUnit (u : UInt16) : Bool := decide (u.toNat < 0xD800) || decide (0xE000 ≤ u.toNat)

/-- A leading and a trailing surrogate. -/
def isPair (u v : UInt16) : Bool :=
  decide (0xD800 ≤ u.toNat) && decide (u.toNat < 0xDC00) && decide (0xDC00 ≤ v.toNat) &&
    decide (v.toNat < 0xE000)

/-- The character of a surrogate pair. -/
def pairChar (u v : UInt16) : Char :=
  Char.ofNat (0x10000 + (u.toNat - 0xD800) * 0x400 + (v.toNat - 0xDC00))

/-- The text of a UTF-16 form; a lone surrogate has none. -/
def utf16Decode : List UInt16 → Option (List Char)
  | [] => some []
  | [u] => if isScalarUnit u then some [Char.ofNat u.toNat] else none
  | u :: v :: rest =>
    if isScalarUnit u then (utf16Decode (v :: rest)).map (Char.ofNat u.toNat :: ·)
    else if isPair u v then (utf16Decode rest).map (pairChar u v :: ·)
    else none

@[simp] theorem utf16Encode_nil : utf16Encode [] = [] := rfl

@[simp] theorem utf16Encode_cons (c : Char) (cs : List Char) :
    utf16Encode (c :: cs) = utf16EncodeChar c ++ utf16Encode cs := rfl

@[simp] theorem utf16Encode_append (cs ds : List Char) :
    utf16Encode (cs ++ ds) = utf16Encode cs ++ utf16Encode ds :=
  List.flatMap_append

theorem utf16Decode_scalar {u : UInt16} (h : isScalarUnit u = true) (rest : List UInt16) :
    utf16Decode (u :: rest) = (utf16Decode rest).map (Char.ofNat u.toNat :: ·) := by
  cases rest with
  | nil => simp only [utf16Decode, h, if_true, Option.map_some]
  | cons v rest => simp only [utf16Decode, h, if_true]

theorem utf16Decode_pair {u v : UInt16} (h : isPair u v = true) (rest : List UInt16) :
    utf16Decode (u :: v :: rest) = (utf16Decode rest).map (pairChar u v :: ·) := by
  have hs : isScalarUnit u = false := by
    simp only [isPair, Bool.and_eq_true, decide_eq_true_eq] at h
    simp only [isScalarUnit, Bool.or_eq_false_iff, decide_eq_false_iff_not]
    omega
  simp only [utf16Decode, hs, h, if_true, Bool.false_eq_true, if_false]

theorem utf16Decode_encodeChar (c : Char) (rest : List UInt16) :
    utf16Decode (utf16EncodeChar c ++ rest) = (utf16Decode rest).map (c :: ·) := by
  have hbound := char_toNat_lt c
  unfold utf16EncodeChar
  split
  · rename_i hsmall
    have hunit : (UInt16.ofNat c.toNat).toNat = c.toNat := UInt16.toNat_ofNat_of_lt' hsmall
    have hscalar : isScalarUnit (UInt16.ofNat c.toNat) = true := by
      simp only [isScalarUnit, hunit, Bool.or_eq_true, decide_eq_true_eq]
      rcases c.valid with h | ⟨h, -⟩
      · exact .inl h
      · exact .inr h
    rw [List.singleton_append, utf16Decode_scalar hscalar, hunit, Char.ofNat_toNat]
  · rename_i hbig
    have hlead : (UInt16.ofNat (0xD800 + (c.toNat - 0x10000) / 0x400)).toNat =
        0xD800 + (c.toNat - 0x10000) / 0x400 := UInt16.toNat_ofNat_of_lt' (by
          show _ < 65536
          omega)
    have htrail : (UInt16.ofNat (0xDC00 + (c.toNat - 0x10000) % 0x400)).toNat =
        0xDC00 + (c.toNat - 0x10000) % 0x400 := UInt16.toNat_ofNat_of_lt' (by
          show _ < 65536
          omega)
    have hpair : isPair (UInt16.ofNat (0xD800 + (c.toNat - 0x10000) / 0x400))
        (UInt16.ofNat (0xDC00 + (c.toNat - 0x10000) % 0x400)) = true := by
      simp only [isPair, hlead, htrail, Bool.and_eq_true, decide_eq_true_eq]
      omega
    have hchar : pairChar (UInt16.ofNat (0xD800 + (c.toNat - 0x10000) / 0x400))
        (UInt16.ofNat (0xDC00 + (c.toNat - 0x10000) % 0x400)) = c := by
      unfold pairChar
      rw [hlead, htrail]
      have hn : 0x10000 + (0xD800 + (c.toNat - 0x10000) / 0x400 - 0xD800) * 0x400 +
          (0xDC00 + (c.toNat - 0x10000) % 0x400 - 0xDC00) = c.toNat := by omega
      rw [hn, Char.ofNat_toNat]
    rw [List.cons_append, List.singleton_append, utf16Decode_pair hpair, hchar]

@[simp] theorem utf16Decode_encode (cs : List Char) : utf16Decode (utf16Encode cs) = some cs := by
  induction cs with
  | nil => rfl
  | cons c cs ih => rw [utf16Encode_cons, utf16Decode_encodeChar, ih]; rfl

theorem utf16EncodeChar_scalar {u : UInt16} (h : isScalarUnit u = true) :
    utf16EncodeChar (Char.ofNat u.toNat) = [u] := by
  have hlt : u.toNat < 65536 := u.toNat_lt
  have hvalid : u.toNat.isValidChar := by
    simp only [isScalarUnit, Bool.or_eq_true, decide_eq_true_eq] at h
    rcases h with h | h
    · exact .inl h
    · exact .inr ⟨by omega, by omega⟩
  have hn : (Char.ofNat u.toNat).toNat = u.toNat := by rw [Char.toNat_ofNat, if_pos hvalid]
  unfold utf16EncodeChar
  rw [hn, if_pos hlt, UInt16.ofNat_toNat]

theorem utf16EncodeChar_pair {u v : UInt16} (h : isPair u v = true) :
    utf16EncodeChar (pairChar u v) = [u, v] := by
  simp only [isPair, Bool.and_eq_true, decide_eq_true_eq] at h
  have hvalid : (0x10000 + (u.toNat - 0xD800) * 0x400 + (v.toNat - 0xDC00)).isValidChar :=
    .inr ⟨by omega, by omega⟩
  have hn : (pairChar u v).toNat =
      0x10000 + (u.toNat - 0xD800) * 0x400 + (v.toNat - 0xDC00) := by
    unfold pairChar
    rw [Char.toNat_ofNat, if_pos hvalid]
  have hlead : 0xD800 + (0x10000 + (u.toNat - 0xD800) * 0x400 + (v.toNat - 0xDC00) - 0x10000) /
      0x400 = u.toNat := by omega
  have htrail : 0xDC00 + (0x10000 + (u.toNat - 0xD800) * 0x400 + (v.toNat - 0xDC00) - 0x10000) %
      0x400 = v.toNat := by omega
  unfold utf16EncodeChar
  rw [hn, if_neg (by omega), hlead, htrail, UInt16.ofNat_toNat, UInt16.ofNat_toNat]

theorem utf16Encode_of_decode : ∀ {w : List UInt16} {cs : List Char},
    utf16Decode w = some cs → utf16Encode cs = w
  | [], cs, h => by cases h; rfl
  | [u], cs, h => by
    simp only [utf16Decode] at h
    split at h
    · rename_i hu
      cases h
      rw [utf16Encode_cons, utf16EncodeChar_scalar hu]
      rfl
    · cases h
  | u :: v :: rest, cs, h => by
    simp only [utf16Decode] at h
    split at h
    · rename_i hu
      obtain ⟨ds, hds, rfl⟩ := Option.map_eq_some_iff.mp h
      rw [utf16Encode_cons, utf16EncodeChar_scalar hu, utf16Encode_of_decode hds]
      rfl
    · split at h
      · rename_i hpair
        obtain ⟨ds, hds, rfl⟩ := Option.map_eq_some_iff.mp h
        rw [utf16Encode_cons, utf16EncodeChar_pair hpair, utf16Encode_of_decode hds]
        rfl
      · cases h

/-- An ASCII unit is a whole character. -/
theorem mem_utf16Encode {u : UInt16} (hu : u.toNat < 0x80) {cs : List Char} :
    u ∈ utf16Encode cs ↔ Char.ofNat u.toNat ∈ cs := by
  have hscalar : isScalarUnit u = true := by
    simp only [isScalarUnit, Bool.or_eq_true, decide_eq_true_eq]
    exact .inl (by omega)
  constructor
  · intro h
    obtain ⟨c, hc, hmem⟩ := List.mem_flatMap.mp h
    have hbound := char_toNat_lt c
    unfold utf16EncodeChar at hmem
    split at hmem
    · rename_i hsmall
      rw [List.mem_singleton] at hmem
      rw [hmem, UInt16.toNat_ofNat_of_lt' hsmall, Char.ofNat_toNat]
      exact hc
    · -- a surrogate is no ASCII unit
      have hbig : ∀ n, 0x80 ≤ n → n < 65536 → u ≠ UInt16.ofNat n := by
        rintro n hlo hhi rfl
        rw [UInt16.toNat_ofNat_of_lt' hhi] at hu
        omega
      simp only [List.mem_cons, List.not_mem_nil, or_false] at hmem
      rcases hmem with h | h
      · exact absurd h (hbig _ (by omega) (by omega))
      · exact absurd h (hbig _ (by omega) (by omega))
  · intro h
    refine List.mem_flatMap.mpr ⟨_, h, ?_⟩
    rw [utf16EncodeChar_scalar hscalar]
    exact List.mem_singleton_self u

end Unicode
