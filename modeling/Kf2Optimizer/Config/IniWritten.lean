/-
# What the parser makes of written text

The edits put three texts into a file: a value, the line `key=value` and the header `[section]`.
This module says which values, keys and sections come back from the parser as they went in.
The conditions are on what the caller hands over (`PlainValue`, `WritableKey`,
`WritableSection`), and the bridge from wide text to bytes is that ASCII stands for itself in
both encodings (`mem_wideToUtf8`, `head_wideToUtf8`, `last_wideToUtf8`).
-/
import Kf2Optimizer.Config.IniParse

set_option linter.unusedSectionVars false

namespace Kf2Optimizer.Config

open Unicode Text

/-! ## 1. Between the encodings -/

/-- Well-formed UTF-16. -/
def WellFormed (text : Wide) : Prop := (utf16Decode text).isSome = true

instance (text : Wide) : Decidable (WellFormed text) := inferInstanceAs (Decidable (_ = true))

/-- The unit of an ASCII byte. -/
def unit (b : UInt8) : UInt16 := UInt16.ofNat b.toNat

/-- Well-formed text is one text in two encodings. -/
theorem WellFormed.exists_text {text : Wide} (h : WellFormed text) :
    ∃ cs, text = utf16Encode cs ∧ wideToUtf8 text = utf8Encode cs := by
  obtain ⟨cs, hcs⟩ := Option.isSome_iff_exists.mp h
  refine ⟨cs, (utf16Encode_of_decode hcs).symm, ?_⟩
  simp only [wideToUtf8, hcs]

theorem utf8ToWide_utf8Encode (cs : List Char) : utf8ToWide (utf8Encode cs) = utf16Encode cs := by
  simp only [utf8ToWide, utf8Decode_encode]

/-- **Well-formed text survives the file.** -/
theorem utf8ToWide_wideToUtf8 {text : Wide} (h : WellFormed text) :
    utf8ToWide (wideToUtf8 text) = text := by
  obtain ⟨cs, rfl, hbytes⟩ := h.exists_text
  rw [hbytes, utf8ToWide_utf8Encode]

/-- What is written is UTF-8, also when it is the empty string in place of an invalid text. -/
theorem validUtf8_wideToUtf8 (text : Wide) : ValidUtf8 (wideToUtf8 text) := by
  unfold wideToUtf8
  split
  · exact validUtf8_utf8Encode _
  · exact validUtf8_nil

theorem utf16Encode_asciiChar {b : UInt8} (hb : b.toNat < 0x80) :
    utf16EncodeChar (asciiChar b) = [unit b] := by
  unfold utf16EncodeChar unit
  rw [asciiChar_toNat hb, if_pos (by omega)]

theorem utf16Encode_map_asciiChar {l : Bytes} (h : ∀ b ∈ l, b.toNat < 0x80) :
    utf16Encode (l.map asciiChar) = l.map unit := by
  induction l with
  | nil => rfl
  | cons b l ih =>
    rw [List.map_cons, utf16Encode_cons, utf16Encode_asciiChar (h b List.mem_cons_self),
      ih fun x hx => h x (List.mem_cons_of_mem b hx)]
    rfl

/-- An ASCII byte of the UTF-8 form is a unit of the text. -/
theorem mem_wideToUtf8 {text : Wide} (h : WellFormed text) {b : UInt8} (hb : b.toNat < 0x80)
    (hmem : b ∈ wideToUtf8 text) : unit b ∈ text := by
  obtain ⟨cs, rfl, hbytes⟩ := h.exists_text
  rw [hbytes] at hmem
  refine List.mem_flatMap.mpr ⟨asciiChar b, (mem_utf8Encode hb).mp hmem, ?_⟩
  rw [utf16Encode_asciiChar hb]
  exact List.mem_singleton_self _

theorem head_wideToUtf8 {text : Wide} (h : WellFormed text) {b : UInt8} (hb : b.toNat < 0x80)
    (hhead : (wideToUtf8 text).head? = some b) : text.head? = some (unit b) := by
  obtain ⟨cs, rfl, hbytes⟩ := h.exists_text
  rw [hbytes] at hhead
  obtain ⟨rest, hrest⟩ := List.head?_eq_some_iff.mp hhead
  obtain ⟨ds, rfl, -⟩ := utf8Encode_prefix (l := [b]) (by simpa using hb) hrest
  rw [utf16Encode_append, utf16Encode_map_asciiChar (by simpa using hb)]
  rfl

theorem last_wideToUtf8 {text : Wide} (h : WellFormed text) {b : UInt8} (hb : b.toNat < 0x80)
    (hlast : (wideToUtf8 text).getLast? = some b) : text.getLast? = some (unit b) := by
  obtain ⟨cs, rfl, hbytes⟩ := h.exists_text
  rw [hbytes] at hlast
  obtain ⟨front, hfront⟩ := List.getLast?_eq_some_iff.mp hlast
  obtain ⟨ds, rfl, -⟩ := utf8Encode_suffix (r := [b]) (by simpa using hb) hfront
  rw [utf16Encode_append, utf16Encode_map_asciiChar (by simpa using hb)]
  simp

/-! ## 2. Values -/

/-- A value without line breaks, comment markers or surrounding blanks, in well-formed UTF-16
without NUL. -/
structure PlainValue (value : Wide) : Prop where
  well_formed : WellFormed value
  no_break : (0x0A : UInt16) ∉ value ∧ (0x0D : UInt16) ∉ value
  no_nul : (0 : UInt16) ∉ value
  no_comment : (0x3B : UInt16) ∉ value ∧ (0x23 : UInt16) ∉ value
  head : ∀ u ∈ value.head?, u ≠ 0x20 ∧ u ≠ 0x09
  last : ∀ u ∈ value.getLast?, u ≠ 0x20 ∧ u ≠ 0x09

theorem isBlank_cases {b : UInt8} (h : isBlank b = true) : b = 0x20 ∨ b = 0x09 := by
  simpa [isBlank] using h

theorem ascii_of_isBlank {b : UInt8} (h : isBlank b = true) : b.toNat < 0x80 := by
  rcases isBlank_cases h with rfl | rfl <;> decide

namespace PlainValue

variable {value : Wide}

theorem plainBytes (h : PlainValue value) : PlainBytes (wideToUtf8 value) := by
  refine ⟨fun b hb => ?_, fun b hb => ?_, fun b hb => ?_⟩
  · by_contra hcomment
    simp only [Bool.not_eq_false, isComment, Bool.or_eq_true, beq_iff_eq] at hcomment
    rcases hcomment with rfl | rfl
    · exact h.no_comment.1 (mem_wideToUtf8 h.well_formed (by decide) hb)
    · exact h.no_comment.2 (mem_wideToUtf8 h.well_formed (by decide) hb)
  · by_contra hblank
    rw [Bool.not_eq_false] at hblank
    have hhead := h.head _ (head_wideToUtf8 h.well_formed (ascii_of_isBlank hblank) hb)
    rcases isBlank_cases hblank with rfl | rfl
    · exact hhead.1 rfl
    · exact hhead.2 rfl
  · by_contra hblank
    rw [Bool.not_eq_false] at hblank
    have hlast := h.last _ (last_wideToUtf8 h.well_formed (ascii_of_isBlank hblank) hb)
    rcases isBlank_cases hblank with rfl | rfl
    · exact hlast.1 rfl
    · exact hlast.2 rfl

theorem lf_notMem (h : PlainValue value) : Lines.lf ∉ wideToUtf8 value := fun hmem =>
  h.no_break.1 (mem_wideToUtf8 h.well_formed (by decide) hmem)

theorem cr_notMem (h : PlainValue value) : Lines.cr ∉ wideToUtf8 value := fun hmem =>
  h.no_break.2 (mem_wideToUtf8 h.well_formed (by decide) hmem)

theorem clean (h : PlainValue value) : Clean (wideToUtf8 value) :=
  ⟨validUtf8_wideToUtf8 value,
    fun hmem => h.no_nul (mem_wideToUtf8 h.well_formed (by decide) hmem)⟩

end PlainValue

/-! ## 3. Keys -/

/-- A key that can stand in front of `=` in a line of its own. -/
structure WritableKey (key : Wide) : Prop where
  well_formed : WellFormed key
  no_equals : equals ∉ wideToUtf8 key
  no_break : Lines.lf ∉ wideToUtf8 key
  no_nul : (0 : UInt8) ∉ wideToUtf8 key
  starts : ∃ c, leading (wideToUtf8 key) = some c ∧ c ≠ bracketOpen ∧ c ≠ semicolon ∧ c ≠ hash

variable [WideCtype]

theorem dropWhile_rdropWhile_append {p : UInt16 → Bool} {w t : Wide} (ht : ∀ u ∈ t, p u = true) :
    ((w ++ t).dropWhile p).rdropWhile p = (w.dropWhile p).rdropWhile p := by
  have hall : ∀ v : Wide, (v ++ t).rdropWhile p = v.rdropWhile p := by
    intro v
    rw [List.rdropWhile, List.reverse_append, List.dropWhile_append_of_pos (by simpa using ht)]
    rfl
  rw [List.dropWhile_append]
  split
  · rename_i hempty
    rw [List.isEmpty_iff.mp hempty, List.dropWhile_eq_nil_iff.mpr ht]
  · exact hall _

/-- Blanks around a name do not count. -/
theorem normalized_blanks {w front back : Wide} (hf : ∀ u ∈ front, WideCtype.iswspace u = true)
    (hb : ∀ u ∈ back, WideCtype.iswspace u = true) :
    normalized (front ++ w ++ back) = normalized w := by
  unfold normalized
  rw [List.append_assoc, List.dropWhile_append_of_pos hf, dropWhile_rdropWhile_append hb]

theorem iswspace_unit {b : UInt8} (h : isBlank b = true) : WideCtype.iswspace (unit b) = true := by
  rcases isBlank_cases h with rfl | rfl
  · exact WideCtype.iswspace_space
  · exact WideCtype.iswspace_tab

theorem trimAscii_decompose (v : Bytes) : ∃ front back, v = front ++ trimAscii v ++ back ∧
    (∀ b ∈ front, isBlank b = true) ∧ ∀ b ∈ back, isBlank b = true := by
  refine ⟨v.takeWhile isBlank, (v.dropWhile isBlank).rtakeWhile isBlank, ?_,
    fun b hb => List.mem_takeWhile_imp hb, fun b hb => List.mem_rtakeWhile_imp hb⟩
  rw [List.append_assoc, trimAscii, List.rdropWhile_append_rtakeWhile,
    List.takeWhile_append_dropWhile]

namespace WritableKey

variable {key : Wide}

/-- **The name in the file is the name**, whatever blanks are around it. -/
theorem normalized_trimAscii (h : WritableKey key) :
    normalized (utf8ToWide (trimAscii (wideToUtf8 key))) = normalized key := by
  obtain ⟨cs, hcs, hbytes⟩ := h.well_formed.exists_text
  obtain ⟨front, back, hsplit, hfront, hback⟩ := trimAscii_decompose (wideToUtf8 key)
  generalize trimAscii (wideToUtf8 key) = name at hsplit ⊢
  rw [hbytes, List.append_assoc] at hsplit
  obtain ⟨ds, rfl, hds⟩ :=
    utf8Encode_prefix (fun b hb => ascii_of_isBlank (hfront b hb)) hsplit
  obtain ⟨es, rfl, rfl⟩ := utf8Encode_suffix (fun b hb => ascii_of_isBlank (hback b hb)) hds
  have hkey : key = front.map unit ++ utf16Encode es ++ back.map unit := by
    rw [hcs, utf16Encode_append, utf16Encode_append,
      utf16Encode_map_asciiChar fun b hb => ascii_of_isBlank (hfront b hb),
      utf16Encode_map_asciiChar fun b hb => ascii_of_isBlank (hback b hb), List.append_assoc]
  rw [utf8ToWide_utf8Encode, hkey, normalized_blanks]
  · intro u hu
    obtain ⟨b, hb, rfl⟩ := List.mem_map.mp hu
    exact iswspace_unit (hfront b hb)
  · intro u hu
    obtain ⟨b, hb, rfl⟩ := List.mem_map.mp hu
    exact iswspace_unit (hback b hb)

theorem named (h : WritableKey key) : utf8ToWide (trimAscii (wideToUtf8 key)) ≠ [] := by
  obtain ⟨c, hc, -⟩ := h.starts
  have hne : trimAscii (wideToUtf8 key) ≠ [] := by
    rw [Ne, ← leading_eq_none, hc]
    simp
  refine (utf8ToWide_ne_nil hne).mpr ?_
  obtain ⟨front, back, hsplit, hfront, hback⟩ := trimAscii_decompose (wideToUtf8 key)
  obtain ⟨cs, hcs⟩ := validUtf8_wideToUtf8 key
  rw [hsplit, List.append_assoc] at hcs
  obtain ⟨ds, -, hds⟩ := utf8Encode_prefix (fun b hb => ascii_of_isBlank (hfront b hb)) hcs
  obtain ⟨es, -, hes⟩ := utf8Encode_suffix (fun b hb => ascii_of_isBlank (hback b hb)) hds
  exact ⟨es, hes⟩

/-- **The line `key=value`** is the assignment of the value to the key. -/
theorem shape (h : WritableKey key) {value : Wide} (hv : PlainValue value) :
    Shape (wideToUtf8 key ++ equals :: wideToUtf8 value) (wideToUtf8 key) [] (wideToUtf8 value)
      [] :=
  ⟨by simp, h.no_equals, h.starts, by simp, hv.plainBytes, ⟨[], [], rfl, by simp, by simp⟩⟩

theorem clean (h : WritableKey key) {value : Wide} (hv : PlainValue value) :
    Clean (wideToUtf8 key ++ equals :: wideToUtf8 value) := by
  refine ⟨(validUtf8_append_cons ascii_equals).mpr ⟨validUtf8_wideToUtf8 key, hv.clean.valid⟩, ?_⟩
  intro h0
  rcases List.mem_append.mp h0 with h0 | h0
  · exact h.no_nul h0
  · rcases List.mem_cons.mp h0 with h0 | h0
    · exact absurd h0 (by decide)
    · exact hv.clean.no_nul h0

theorem closed (h : WritableKey key) {value : Wide} (hv : PlainValue value) (e : LineEnding) :
    Lines.Closed (wideToUtf8 key ++ equals :: wideToUtf8 value, e.bytes) := by
  refine ⟨?_, ?_⟩
  · intro hlf
    rcases List.mem_append.mp hlf with hlf | hlf
    · exact h.no_break hlf
    · rcases List.mem_cons.mp hlf with hlf | hlf
      · exact absurd hlf (by decide)
      · exact hv.lf_notMem hlf
  · cases e with
    | lf =>
      refine .inl ⟨rfl, fun hcr => ?_⟩
      simp only [List.getLast?_append, List.getLast?_cons, Option.some_or] at hcr
      have hmem : (wideToUtf8 value).getLast?.getD equals = Lines.cr := Option.some.inj hcr
      cases hlast : (wideToUtf8 value).getLast? with
      | none =>
        rw [hlast] at hmem
        exact absurd hmem (by decide)
      | some b =>
        rw [hlast] at hmem
        refine hv.cr_notMem ?_
        rw [← show b = Lines.cr from hmem]
        exact List.mem_of_getLast? hlast
    | crlf => exact .inr rfl

end WritableKey

/-! ## 4. Sections -/

/-- A section that can stand between brackets in a line of its own. -/
structure WritableSection (section_ : Wide) : Prop where
  well_formed : WellFormed section_
  no_bracket : bracketClose ∉ wideToUtf8 section_
  no_break : Lines.lf ∉ wideToUtf8 section_
  no_nul : (0 : UInt8) ∉ wideToUtf8 section_

/-- The header of a section. -/
def headerBytes (section_ : Wide) : Bytes := bracketOpen :: wideToUtf8 section_ ++ [bracketClose]

theorem getLast?_headerBytes (section_ : Wide) :
    (headerBytes section_).getLast? = some bracketClose := by
  unfold headerBytes
  exact List.getLast?_concat

namespace WritableSection

variable {section_ : Wide}

theorem trimAscii_headerBytes (section_ : Wide) :
    trimAscii (headerBytes section_) = bracketOpen :: (wideToUtf8 section_ ++ [bracketClose]) := by
  have hopen : isBlank bracketOpen = false := by decide
  have hclose : ∀ b ∈ (headerBytes section_).getLast?, isBlank b = false := by
    intro b hb
    rw [getLast?_headerBytes, Option.mem_some_iff] at hb
    subst hb
    decide
  have hdrop : (headerBytes section_).dropWhile isBlank = headerBytes section_ :=
    dropWhile_of_head fun b hb => by
      have : b = bracketOpen := by simpa [headerBytes, eq_comm] using hb
      rw [this]
      exact hopen
  have hrdrop : (headerBytes section_ ++ []).rdropWhile isBlank = headerBytes section_ :=
    rdropWhile_append_blanks (by simp) hclose
  rw [List.append_nil] at hrdrop
  rw [trimAscii, hdrop, hrdrop]
  rfl

/-- **The line `[section]`** opens the section. -/
theorem classify_header (h : WritableSection section_) (activeSection : Wide) (ending : Bytes) :
    classify activeSection (headerBytes section_, ending) =
      .ok { bytes := headerBytes section_, ending := ending, sectionName := normalized section_, sectionHeader := true } := by
  have hvalid : ¬ (utf8ToWide (wideToUtf8 section_) = [] ∧ wideToUtf8 section_ ≠ []) := by
    rintro ⟨hnil, hne⟩
    exact (utf8ToWide_ne_nil hne).mpr (validUtf8_wideToUtf8 section_) hnil
  have htrim : trimAscii ([] : Bytes) = [] := rfl
  simp only [classify, trimAscii_headerBytes, if_true, classifyHeader, cut_append h.no_bracket,
    htrim, ne_eq, not_true, if_false]
  rw [if_neg hvalid, utf8ToWide_wideToUtf8 h.well_formed]

theorem clean (h : WritableSection section_) : Clean (headerBytes section_) := by
  refine ⟨?_, ?_⟩
  · have hclose : ValidUtf8 (wideToUtf8 section_ ++ bracketClose :: []) :=
      (validUtf8_append_cons (by decide)).mpr ⟨validUtf8_wideToUtf8 section_, validUtf8_nil⟩
    exact (validUtf8_append_cons (a := []) (x := bracketOpen) (by decide)).mpr
      ⟨validUtf8_nil, hclose⟩
  · intro h0
    simp only [headerBytes, List.cons_append, List.mem_cons, List.mem_append, List.not_mem_nil,
      or_false] at h0
    rcases h0 with h0 | h0 | h0
    · exact absurd h0 (by decide)
    · exact h.no_nul h0
    · exact absurd h0 (by decide)

theorem closed (h : WritableSection section_) (e : LineEnding) :
    Lines.Closed (headerBytes section_, e.bytes) := by
  refine ⟨?_, ?_⟩
  · intro hlf
    simp only [headerBytes, List.cons_append, List.mem_cons, List.mem_append, List.not_mem_nil,
      or_false] at hlf
    rcases hlf with hlf | hlf | hlf
    · exact absurd hlf (by decide)
    · exact h.no_break hlf
    · exact absurd hlf (by decide)
  · cases e with
    | lf =>
      refine .inl ⟨rfl, ?_⟩
      rw [getLast?_headerBytes]
      decide
    | crlf => exact .inr rfl

end WritableSection

end Kf2Optimizer.Config
