/-
# The round trip of a change document

Export and import are not inverse on every preview.  What is written always has the form that the
reader takes (`import_exported`): the reader then asks of the entries what the writer does not, that
the document is at most a mebibyte long, that no setting stands in it twice, that the value of each
is one that the catalog allows, and that a reason has at most 4096 bytes.  A reason that is not
well-formed UTF-16 is written as the empty text.  `change_document_round_trip` says that these are
all: a preview of integers and booleans is read back as it was written if and only if they hold.

An integer for a boolean setting, such as 1, is not refused: it is read back as `true`.
-/
import Kf2Optimizer.Backup.ChangeDocument
import Kf2Optimizer.Config.IniWritten
import Kf2Optimizer.Update.JsonReaderSound

namespace Kf2Optimizer.Backup

open Text Config Unicode Json
open Update (whitespace consume atEnd nextChar skipNumber whitespace_cons whitespace_of_head
  consume_complete consume_ne skipNumber_complete head_number quad hexQuad_eq)
open ChangeReader

/-! ## 1. Strings -/

/-- A text between quotation marks. -/
def quoted (text : Bytes) : Bytes := 0x22 :: (jsonEscape text ++ [0x22])

/-- A byte that is written as it is. -/
def PlainByte (b : UInt8) : Prop := 0x20 ≤ b ∧ b ≠ 0x22 ∧ b ≠ 0x5C

instance (b : UInt8) : Decidable (PlainByte b) := inferInstanceAs (Decidable (_ ∧ _))

theorem escapeByte_plain {b : UInt8} (h : PlainByte b) : escapeByte b = [b] := by
  obtain ⟨hcontrol, hquote, hslash⟩ := h
  have hne : ∀ c : UInt8, c < 0x20 → b ≠ c := by
    rintro c hc rfl
    exact absurd hc (UInt8.not_lt.mpr hcontrol)
  simp [escapeByte, hquote, hslash, hne, UInt8.not_lt.mpr hcontrol]

@[simp] theorem jsonEscape_cons (b : UInt8) (text : Bytes) :
    jsonEscape (b :: text) = escapeByte b ++ jsonEscape text := List.flatMap_cons

theorem jsonEscape_plain {text : Bytes} (h : ∀ b ∈ text, PlainByte b) : jsonEscape text = text := by
  induction text with
  | nil => rfl
  | cons b text ih =>
    obtain ⟨hb, htext⟩ := List.forall_mem_cons.mp h
    rw [jsonEscape_cons, escapeByte_plain hb, ih htext]
    rfl

theorem hexValue_hexDigit : ∀ n < 16, hexValue (hexDigit n) = some n := by decide +kernel

/-- The digits of a control byte. -/
theorem quad_control {n : ℕ} (h : n < 32) :
    quad 0x30 0x30 (hexDigit (n >>> 4)) (hexDigit (n &&& 0x0F)) = n ∧
      ∀ x ∈ [0x30, 0x30, hexDigit (n >>> 4), hexDigit (n &&& 0x0F)], (hexValue x).isSome = true := by
  have hhigh : n >>> 4 = n / 16 := Nat.shiftRight_eq_div_pow n 4
  have hlow : n &&& 0x0F = n % 16 := Nat.and_two_pow_sub_one_eq_mod n 4
  have hdigit := hexValue_hexDigit (n / 16) (by omega)
  have hdigit' := hexValue_hexDigit (n % 16) (by omega)
  have hzero : hexValue 0x30 = some 0 := rfl
  rw [hhigh, hlow]
  refine ⟨?_, by simp [hdigit, hdigit', hzero]⟩
  simp only [quad, hdigit, hdigit', hzero, Option.getD_some]
  omega

/-- **An escaped byte is read in one round.** -/
theorem escapeByte_read (b : UInt8) (rest : Bytes) : ∃ ch tail, escapeByte b ++ rest = ch :: tail ∧
    ch ≠ 0x22 ∧ ¬ ch < 0x20 ∧ nextChar ch tail = some ([b], rest) := by
  by_cases hplain : PlainByte b
  · rw [escapeByte_plain hplain]
    obtain ⟨hcontrol, hquote, hslash⟩ := hplain
    exact ⟨b, rest, rfl, hquote, UInt8.not_lt.mpr hcontrol, if_pos hslash⟩
  · refine ⟨0x5C, (escapeByte b).tail ++ rest, ?_, by decide, by decide, ?_⟩
    · unfold escapeByte
      split_ifs <;> try rfl
      all_goals exact absurd ⟨UInt8.not_lt.mp ‹_›, ‹_›, ‹_›⟩ hplain
    · unfold escapeByte
      split_ifs with h1 h2 h3 h4 h5 h6 h7 h8
      · rw [h1]
        rfl
      · rw [h2]
        rfl
      · rw [h3]
        rfl
      · rw [h4]
        rfl
      · rw [h5]
        rfl
      · rw [h6]
        rfl
      · rw [h7]
        rfl
      · have hlt : b.toNat < 32 := UInt8.lt_iff_toNat_lt.mp h8
        obtain ⟨hquad, hhex⟩ := quad_control hlt
        have hread := hexQuad_eq hhex rest
        rw [hquad] at hread
        simp only [nextChar, ne_eq, not_true_eq_false, if_false, List.tail_cons, List.cons_append,
          List.nil_append, Update.escape, if_true, Update.unicodeEscape, hread, Option.bind_eq_bind,
          Option.bind_some]
        rw [if_neg (by omega), if_neg (by omega), Option.map_some, Update.appendUtf8,
          if_pos (by omega), UInt8.ofNat_toNat]
      · exact absurd ⟨UInt8.not_lt.mp h8, h1, h2⟩ hplain

theorem length_le_jsonEscape (text : Bytes) : text.length ≤ (jsonEscape text).length := by
  induction text with
  | nil => exact Nat.zero_le _
  | cons b text ih =>
    obtain ⟨ch, tail, hescape, -, -, -⟩ := escapeByte_read b []
    rw [List.append_nil] at hescape
    rw [jsonEscape_cons, List.length_append, hescape, List.length_cons, List.length_cons]
    omega

theorem stringLoop_escaped (text output rest : Bytes) {fuel : ℕ} (hfuel : text.length < fuel) :
    stringLoop fuel output (jsonEscape text ++ 0x22 :: rest) = some (output ++ text, rest) := by
  induction text generalizing output fuel with
  | nil =>
    obtain ⟨fuel, rfl⟩ := Nat.exists_eq_add_of_lt hfuel
    rw [List.append_nil]
    rfl
  | cons b text ih =>
    obtain ⟨fuel, rfl⟩ : ∃ k, fuel = k + 1 := ⟨fuel - 1, by omega⟩
    obtain ⟨ch, tail, hescape, hquote, hcontrol, hnext⟩ :=
      escapeByte_read b (jsonEscape text ++ 0x22 :: rest)
    rw [jsonEscape_cons, List.append_assoc, hescape, stringLoop, if_neg hquote,
      if_neg hcontrol, hnext]
    exact (ih (output ++ [b]) (by simpa using hfuel)).trans (by rw [List.append_assoc]; rfl)

/-- **What is quoted is read back.** -/
@[simp] theorem string_quoted (text rest : Bytes) :
    string (quoted text ++ rest) = some (text, rest) := by
  have hconsume : consume 0x22 (quoted text ++ rest) = some (jsonEscape text ++ 0x22 :: rest) := by
    have hshape : quoted text ++ rest = [] ++ 0x22 :: (jsonEscape text ++ 0x22 :: rest) := by
      simp [quoted]
    rw [hshape]
    exact consume_complete rfl blank_nil _
  have hlength := length_le_jsonEscape text
  rw [string, hconsume]
  exact stringLoop_escaped text [] rest (by rw [List.length_append, List.length_cons]; omega)

/-! ## 2. Numbers -/

theorem intText_decimal (n : ℕ) : IntText (decimal n) := by
  have hdigits : Digits (decimal n) := ⟨decimal_ne_nil n, fun b hb => isDigit_of_mem_decimal hb⟩
  by_cases hlength : 1 < (decimal n).length
  · exact .inr ⟨hdigits, head_decimal hlength⟩
  · obtain ⟨b, hb⟩ : ∃ b, decimal n = [b] := by
      have hpos := List.length_pos_iff.mpr (decimal_ne_nil n)
      exact List.length_eq_one_iff.mp (by omega)
    by_cases hzero : b = 0x30
    · exact .inl (hb.trans (by rw [hzero]))
    · refine .inr ⟨hdigits, ?_⟩
      rw [hb]
      intro hhead
      exact hzero (Option.some_inj.mp hhead)

theorem numberText_integerText (n : ℤ) : NumberText (integerText n) := by
  unfold integerText
  by_cases hneg : n < 0
  · rw [if_pos hneg]
    exact ⟨[0x2D], decimal n.natAbs, [], [], .inr rfl, intText_decimal _, .inl rfl, .inl rfl,
      by simp⟩
  · rw [if_neg hneg]
    exact ⟨[], decimal n.natAbs, [], [], .inl rfl, intText_decimal _, .inl rfl, .inl rfl, by simp⟩

theorem roundHalfEven_intCast (n : ℤ) : roundHalfEven n = n := by
  unfold roundHalfEven
  rw [Int.floor_intCast, sub_self, if_pos (by norm_num)]

/-- **An integer of 53 bits is a `double`.** -/
theorem nearestDouble_natCast {n : ℕ} (h : n < 2 ^ 53) : nearestDouble n = some (n : ℚ) := by
  by_cases hzero : n = 0
  · subst hzero
    rfl
  · have hlog : Int.log 2 (n : ℚ) = (Nat.log 2 n : ℤ) := Int.log_natCast 2 n
    have hle : Nat.log 2 n ≤ 52 := Nat.lt_succ_iff.mp (Nat.log_lt_of_lt_pow hzero h)
    obtain ⟨k, hk⟩ : ∃ k : ℕ, 52 = Nat.log 2 n + k := Nat.exists_eq_add_of_le hle
    have hexponent : Max.max (Int.log 2 (n : ℚ) - 52) (-1074) = -(k : ℤ) := by
      rw [hlog]
      omega
    have hmantissa : (n : ℚ) / (2 : ℚ) ^ (-(k : ℤ)) = ((n * 2 ^ k : ℕ) : ℤ) := by
      rw [zpow_neg, zpow_natCast, div_inv_eq_mul]
      push_cast
      rfl
    have hvalue : (((n * 2 ^ k : ℕ) : ℤ) : ℚ) * (2 : ℚ) ^ (-(k : ℤ)) = n := by
      rw [← hmantissa, div_mul_cancel₀ _ (by positivity)]
    have hpositive : 0 < n * 2 ^ k := Nat.mul_pos (Nat.pos_of_ne_zero hzero) (by positivity)
    have hbound : (n : ℚ) < 2 ^ 1024 := by
      calc (n : ℚ) < 2 ^ 53 := by exact_mod_cast h
        _ ≤ 2 ^ 1024 := pow_le_pow_right₀ (by norm_num) (by norm_num)
    unfold nearestDouble
    rw [if_neg (by exact_mod_cast hzero)]
    simp only [hexponent, hmantissa, roundHalfEven_intCast, hvalue]
    rw [if_neg]
    rintro (hnone | hlarge)
    · exact hpositive.ne' (by exact_mod_cast hnone)
    · exact absurd hlarge (not_le.mpr hbound)

theorem parseDecimal_decimal (n : ℕ) : Game.parseDecimal (decimal n) = some (n : ℚ) := by
  have hmantissa : (decimal n).takeWhile (fun b => decide (b ≠ 0x65 ∧ b ≠ 0x45)) = decimal n := by
    refine List.takeWhile_eq_self_iff.mpr fun b hb => ?_
    have hdigit := isDigit_of_mem_decimal hb
    rw [decide_eq_true_eq]
    refine ⟨?_, ?_⟩ <;> rintro rfl <;> cases hdigit
  have hwhole : (decimal n).takeWhile isDigit = decimal n :=
    List.takeWhile_eq_self_iff.mpr fun b hb => isDigit_of_mem_decimal hb
  unfold Game.parseDecimal
  simp only [hmantissa, hwhole, List.drop_length, List.tail_nil, Game.parseExponent,
    Option.bind_eq_bind, Option.bind_some, List.append_nil, List.length_nil]
  rw [if_neg (by simp [decimal_ne_nil])]
  simp [fromDigits_decimal]

/-- **An integer is read as it is.** -/
theorem fromCharsDouble_integerText {n : ℤ} (h : n.natAbs < 2 ^ 53) :
    Game.fromCharsDouble (integerText n) = some (n : ℚ) := by
  unfold integerText
  by_cases hneg : n < 0
  · rw [if_pos hneg, Game.fromCharsDouble, parseDecimal_decimal, Option.bind_some,
      nearestDouble_natCast h, Option.map_some, Nat.cast_natAbs, abs_of_neg hneg]
    push_cast
    rw [neg_neg]
  · have hminus : ∀ digits, decimal n.natAbs = 0x2D :: digits → False := by
      intro digits heq
      have hdigit := isDigit_of_mem_decimal (heq ▸ List.mem_cons_self)
      cases hdigit
    rw [if_neg hneg, Game.fromCharsDouble.eq_2 _ hminus, parseDecimal_decimal, Option.bind_some,
      nearestDouble_natCast h, Nat.cast_natAbs, abs_of_nonneg (not_lt.mp hneg)]

/-! ## 3. Values -/

/-- A value of type `bool` or `int`. -/
def Discrete : SettingValue → Prop
  | .int n => -2 ^ 31 ≤ n ∧ n < 2 ^ 31
  | .bool _ => True
  | .real _ => False

/-- **A value is taken as it is spelled.** -/
theorem scalar_valueText {v : SettingValue} (hv : Discrete v) {rest : Bytes} (hrest : Ends rest) :
    scalar (valueText v ++ rest) = some (valueText v, rest) := by
  cases v with
  | real x => exact hv.elim
  | bool b =>
    cases b with
    | true =>
      have hwhite : whitespace (ascii "true" ++ rest) = ascii "true" ++ rest :=
        whitespace_of_head rfl rfl rest
      unfold scalar
      simp only [valueText, booleanText, if_true, hwhite, after_append]
    | false =>
      have hwhite : whitespace (ascii "false" ++ rest) = ascii "false" ++ rest :=
        whitespace_of_head rfl rfl rest
      have htrue : after (ascii "true") (ascii "false" ++ rest) = none := by
        have hhead : (ascii "false" ++ rest).head? = some 0x66 := rfl
        exact Update.after_of_head_ne (a := 0x74) rfl (by rw [hhead]; decide)
      unfold scalar
      simp only [valueText, booleanText, Bool.false_eq_true, if_false, hwhite, htrue, after_append]
  | int n =>
    have hnumber := numberText_integerText n
    obtain ⟨c, hhead, hc⟩ := head_number hnumber rest
    have hne : ∀ b : UInt8, isDigit b = false → b ≠ 0x2D → (integerText n ++ rest).head? ≠ some b := by
      intro b hdigit hminus hb
      rw [hhead, Option.some_inj] at hb
      subst hb
      rcases hc with hc | hc
      · rw [hdigit] at hc
        cases hc
      · exact hminus hc
    have hwhite : whitespace (integerText n ++ rest) = integerText n ++ rest := by
      obtain ⟨tail, htail⟩ : ∃ tail, integerText n ++ rest = c :: tail := by
        cases heq : integerText n ++ rest with
        | nil => rw [heq] at hhead; cases hhead
        | cons a tail =>
          rw [heq] at hhead
          exact ⟨tail, by rw [Option.some_inj.mp hhead]⟩
      rw [htail]
      refine whitespace_cons ?_ tail
      rcases hc with hc | rfl
      · exact Update.not_blank_of_digit hc
      · rfl
    have htrue := Update.after_of_head_ne (p := ascii "true") (a := 0x74) rfl (hne 0x74 rfl (by decide))
    have hfalse := Update.after_of_head_ne (p := ascii "false") (a := 0x66) rfl (hne 0x66 rfl (by decide))
    unfold scalar
    simp only [valueText, hwhite, htrue, hfalse, skipNumber_complete hnumber hrest, Option.map_some,
      List.length_append, Nat.add_sub_cancel, List.take_left]

/-- **A value is read back if and only if the catalog allows it.** -/
theorem parseSettingValue_valueText {d : SettingDefinition} {v : SettingValue} (hv : Discrete v) :
    parseSettingValue d (valueText v) = some v ↔ isValidSettingValue d v = true := by
  cases v with
  | real x => exact hv.elim
  | bool b =>
    have hliteral : Game.fromCharsDouble (booleanText b) = none := by cases b <;> rfl
    unfold parseSettingValue isValidSettingValue
    cases htype : d.type with
    | boolean =>
      have hne : ascii "false" ≠ ascii "true" ∧ ascii "false" ≠ ascii "1" := by decide
      cases b <;> simp [valueText, booleanText, hne]
    | integer => simp [valueText, hliteral]
    | real => simp [valueText, hliteral]
  | int n =>
    have hnumber : Game.fromCharsDouble (integerText n) = some (n : ℚ) :=
      fromCharsDouble_integerText (by obtain ⟨hmin, hmax⟩ := hv; omega)
    change parseSettingValue d (integerText n) = _ ↔ _
    unfold parseSettingValue isValidSettingValue
    cases htype : d.type with
    | boolean =>
      simp only [if_true, Bool.false_eq_true, iff_false]
      intro h
      split at h
      · cases h
      · split at h <;> cases h
    | real =>
      simp only [reduceCtorEq, if_false, if_true, hnumber, Bool.false_eq_true, iff_false]
      intro h
      split at h <;> cases h
    | integer =>
      simp only [reduceCtorEq, if_false, hnumber, Int.floor_intCast, ne_eq,
        not_true_eq_false, Bool.and_eq_true, decide_eq_true_eq]
      constructor
      · intro h
        split_ifs at h with hrange hallowed
        · obtain ⟨hmin, hmax⟩ := not_or.mp hrange
          exact ⟨⟨not_lt.mp hmin, not_lt.mp hmax⟩, hallowed⟩
      · rintro ⟨⟨hmin, hmax⟩, hallowed⟩
        rw [if_neg (not_or.mpr ⟨not_lt.mpr hmin, not_lt.mpr hmax⟩), if_pos hallowed]

/-! ## 4. Keys -/

/-- A key as one number, by which the keys of the catalog are compared. -/
def keyCode (key : Wide) : ℕ := key.foldr (fun u n => n * 65536 + (u.toNat + 1)) 0

def distinct : List ℕ → Bool
  | [] => true
  | n :: rest => rest.all (fun m => !Nat.beq n m) && distinct rest

/-- Letters and digits, more or less. -/
def plainKey : Wide → Bool
  | [] => true
  | u :: key => Nat.ble 0x30 u.toNat && Nat.ble u.toNat 0x7A && !Nat.beq u.toNat 0x5C && plainKey key

theorem keyCode_injective {key key' : Wide} (h : keyCode key = keyCode key') : key = key' := by
  induction key generalizing key' with
  | nil =>
    cases key' with
    | nil => rfl
    | cons u' key' =>
      simp only [keyCode, List.foldr_nil, List.foldr_cons] at h
      omega
  | cons u key ih =>
    cases key' with
    | nil =>
      simp only [keyCode, List.foldr_nil, List.foldr_cons] at h
      omega
    | cons u' key' =>
      have hu := u.toNat_lt
      have hu' := u'.toNat_lt
      simp only [keyCode, List.foldr_cons] at h
      have hunit : u = u' := UInt16.toNat_inj.mp (by omega)
      have hkey : keyCode key = keyCode key' := by
        unfold keyCode
        omega
      rw [hunit, ih hkey]

theorem nodup_of_distinct {l : List ℕ} (h : distinct l = true) : l.Nodup := by
  induction l with
  | nil => exact List.nodup_nil
  | cons n l ih =>
    simp only [distinct, Bool.and_eq_true, List.all_eq_true, Bool.not_eq_true'] at h
    obtain ⟨hhead, hrest⟩ := h
    refine List.nodup_cons.mpr ⟨fun hmem => ?_, ih hrest⟩
    exact absurd (Nat.beq_refl n) (Bool.eq_false_iff.mp (hhead n hmem))

theorem plainKey_iff {key : Wide} (h : plainKey key = true) :
    ∀ u ∈ key, 0x30 ≤ u.toNat ∧ u.toNat ≤ 0x7A ∧ u.toNat ≠ 0x5C := by
  induction key with
  | nil => nofun
  | cons u key ih =>
    simp only [plainKey, Bool.and_eq_true, Nat.ble_eq, Bool.not_eq_true'] at h
    obtain ⟨⟨⟨hmin, hmax⟩, hslash⟩, hkey⟩ := h
    refine List.forall_mem_cons.mpr ⟨⟨hmin, hmax, ?_⟩, ih hkey⟩
    exact Nat.ne_of_beq_eq_false hslash

theorem catalog_keys_nodup : (allSettings.map SettingDefinition.key).Nodup := by
  have hcodes : distinct (allSettings.map fun d => keyCode d.key) = true := by decide +kernel
  refine List.Nodup.of_map keyCode ?_
  rw [List.map_map]
  exact nodup_of_distinct hcodes

theorem catalog_keys_plain : ∀ d ∈ allSettings, plainKey d.key = true ∧ d.key.length ≤ 96 := by
  have hall : allSettings.all (fun d => plainKey d.key && Nat.ble d.key.length 96) = true := by
    decide +kernel
  simpa only [List.all_eq_true, Bool.and_eq_true, Nat.ble_eq] using hall

theorem exists_setting {id : SettingId} (h : settingToken id ≠ []) :
    ∃ d, findSetting id = some d ∧ d ∈ allSettings ∧ d.id = id := by
  cases hfind : findSetting id with
  | none =>
    unfold settingToken at h
    rw [hfind] at h
    exact absurd rfl h
  | some d =>
    have hfound : allSettings.find? (fun d => decide (d.id = id)) = some d := hfind
    have hid := List.find?_some hfound
    exact ⟨d, rfl, List.mem_of_find?_eq_some hfound, of_decide_eq_true hid⟩

theorem toNat_byte {u : UInt16} (h : u.toNat ≤ 0x7A) : (UInt8.ofNat u.toNat).toNat = u.toNat :=
  UInt8.toNat_ofNat_of_lt' (lt_of_le_of_lt h (by decide))

theorem settingToken_eq {id : SettingId} {d : SettingDefinition} (hfind : findSetting id = some d)
    (hmem : d ∈ allSettings) : settingToken id = d.key.map fun u => UInt8.ofNat u.toNat := by
  have hplain := plainKey_iff (catalog_keys_plain d hmem).1
  unfold settingToken
  rw [hfind]
  refine if_pos (List.all_eq_true.mpr fun u hu => decide_eq_true ?_)
  rw [UInt16.le_iff_toNat_le]
  exact le_trans (hplain u hu).2.1 (by decide)

/-- **Every key of the catalog finds its own setting.** -/
theorem settingId_settingToken {id : SettingId} (h : settingToken id ≠ []) :
    settingId (settingToken id) = some id := by
  obtain ⟨d, hfind, hmem, rfl⟩ := exists_setting h
  have htoken := settingToken_eq hfind hmem
  obtain ⟨hplain, hlength⟩ := catalog_keys_plain d hmem
  have hunits := plainKey_iff hplain
  have hwide : (settingToken d.id).map (fun b => UInt16.ofNat b.toNat) = d.key := by
    rw [htoken, List.map_map]
    refine (List.map_congr_left fun u hu => ?_).trans (List.map_id d.key)
    have hsmall := (hunits u hu).2.1
    rw [Function.comp_apply, toNat_byte hsmall, UInt16.ofNat_toNat]
    rfl
  have hits : keyIs (settingToken d.id) d = true := by
    unfold keyIs
    rw [Bool.and_eq_true, decide_eq_true_eq, hwide]
    refine ⟨rfl, List.all_eq_true.mpr fun u hu => decide_eq_true ?_⟩
    exact UInt16.le_iff_toNat_le.mpr (le_trans (hunits u hu).2.1 (by decide))
  have hlength' : ¬ (settingToken d.id = [] ∨ 96 < (settingToken d.id).length) := by
    rw [htoken, List.length_map, not_or]
    exact ⟨htoken ▸ h, not_lt.mpr hlength⟩
  have hfound : findSettingByToken (settingToken d.id) = some d := by
    unfold findSettingByToken
    rw [if_neg hlength']
    cases hfirst : allSettings.find? (keyIs (settingToken d.id)) with
    | none => exact absurd hits (List.find?_eq_none.mp hfirst d hmem)
    | some d' =>
      have hkey := List.find?_some hfirst
      unfold keyIs at hkey
      rw [Bool.and_eq_true, decide_eq_true_eq, hwide] at hkey
      exact congrArg some (List.inj_on_of_nodup_map catalog_keys_nodup
        (List.mem_of_find?_eq_some hfirst) hmem hkey.1)
  rw [settingId, hfound]

theorem jsonEscape_settingToken {id : SettingId} (h : settingToken id ≠ []) :
    jsonEscape (settingToken id) = settingToken id := by
  obtain ⟨d, hfind, hmem, rfl⟩ := exists_setting h
  rw [settingToken_eq hfind hmem]
  refine jsonEscape_plain fun b hb => ?_
  obtain ⟨u, hu, rfl⟩ := List.mem_map.mp hb
  obtain ⟨hmin, hmax, hslash⟩ := plainKey_iff (catalog_keys_plain d hmem).1 u hu
  have hnat := toNat_byte hmax
  refine ⟨?_, ?_, ?_⟩
  · rw [UInt8.le_iff_toNat_le, hnat]
    exact le_trans (by decide) hmin
  · intro heq
    rw [heq] at hnat
    have : u.toNat = 0x22 := hnat.symm
    omega
  · intro heq
    rw [heq] at hnat
    exact hslash hnat.symm

/-! ## 5. What an entry is read as -/

/-- The request for an item. -/
def PreviewItem.request (item : PreviewItem) : RequestedChange :=
  ⟨item.id, item.after, item.source, item.reason⟩

/-- What the reader asks of an item: a value that the catalog allows and a reason that is
well-formed and not too long. -/
def Storable (item : PreviewItem) : Prop :=
  (findSetting item.id).any (fun d => isValidSettingValue d item.after) = true ∧
    WellFormed item.reason ∧ (wideToUtf8 item.reason).length ≤ 4096

instance (item : PreviewItem) : Decidable (Storable item) := inferInstanceAs (Decidable (_ ∧ _))

theorem sourceOf_text (source : ChangeSource) : sourceOf (some source.text) = .ok source := by
  cases source <;> rfl

/-- **A reason is read back if and only if it is well-formed and not too long.** -/
theorem reasonOf_wideToUtf8 (reason : Wide) :
    reasonOf (some (wideToUtf8 reason)) = .ok reason ↔
      WellFormed reason ∧ (wideToUtf8 reason).length ≤ 4096 := by
  unfold reasonOf
  by_cases hlength : 4096 < (wideToUtf8 reason).length
  · simp [hlength, malformed]
  · have hle : (wideToUtf8 reason).length ≤ 4096 := not_lt.mp hlength
    simp only [if_neg hlength, hle, and_true]
    by_cases hwell : WellFormed reason
    · obtain ⟨cs, htext, hbytes⟩ := hwell.exists_text
      refine iff_of_true ?_ hwell
      rw [hbytes, utf8Decode_encode, htext]
    · have hnone : utf16Decode reason = none := by
        simpa [WellFormed] using hwell
      have hempty : wideToUtf8 reason = [] := by simp [wideToUtf8, hnone]
      rw [hempty]
      simp only [hwell, iff_false]
      intro h
      have hnil : reason = [] := (Except.ok.inj h).symm
      subst hnil
      exact hwell rfl

/-- What the fields of an item say. -/
def entryOf (item : PreviewItem) : Entry where
  rawId := some (settingToken item.id)
  rawValue := some (valueText item.after)
  rawSource := some item.source.text
  rawReason := some (wideToUtf8 item.reason)

/-- What an item is read back as, behind settings that were seen. -/
def readBack (seen : List SettingId) (item : PreviewItem) : Except Error RequestedChange :=
  requestOf seen (settingToken item.id) (valueText item.after) (entryOf item)

/-- **An item is read back if and only if it is one that can be stored**, and for the first time. -/
theorem readBack_eq_ok {item : PreviewItem} (hv : Discrete item.after)
    (htoken : settingToken item.id ≠ []) (seen : List SettingId) :
    readBack seen item = .ok item.request ↔ item.id ∉ seen ∧ Storable item := by
  obtain ⟨d, hfind, -, -⟩ := exists_setting htoken
  have hvalue := parseSettingValue_valueText (d := d) hv
  have hreason := reasonOf_wideToUtf8 item.reason
  unfold readBack requestOf Storable
  simp only [settingId_settingToken htoken, hfind, Option.bind_some, Option.any_some, entryOf,
    sourceOf_text, ← hvalue, ← hreason]
  by_cases hseen : item.id ∈ seen
  · simp [hseen, malformed]
  · simp only [hseen, if_false, not_false_eq_true, true_and]
    cases hparse : parseSettingValue d (valueText item.after) with
    | none => simp [malformed]
    | some value =>
      cases hread : reasonOf (some (wideToUtf8 item.reason)) with
      | error e => simp [bind, Except.bind]
      | ok reason => simp [bind, Except.bind, PreviewItem.request]

/-! ## 6. Reading what was written -/

/-- The text of an item, field by field. -/
theorem itemText_eq {item : PreviewItem} (htoken : settingToken item.id ≠ []) :
    itemText item = 0x7B :: (quoted (ascii "id") ++ 0x3A :: (quoted (settingToken item.id) ++ 0x2C ::
      (quoted (ascii "value") ++ 0x3A :: (valueText item.after ++ 0x2C ::
        (quoted (ascii "source") ++ 0x3A :: (quoted item.source.text ++ 0x2C ::
          (quoted (ascii "reason") ++ 0x3A :: (quoted (wideToUtf8 item.reason) ++ [0x7D])))))))) := by
  have hsource : jsonEscape item.source.text = item.source.text := by
    cases item.source <;> exact jsonEscape_plain (by decide +kernel)
  have hid : quoted (ascii "id") = [0x22, 0x69, 0x64, 0x22] := by decide +kernel
  have hvalue : quoted (ascii "value") = 0x22 :: (ascii "value" ++ [0x22]) := by decide +kernel
  have hname : quoted (ascii "source") = 0x22 :: (ascii "source" ++ [0x22]) := by decide +kernel
  have hreason : quoted (ascii "reason") = 0x22 :: (ascii "reason" ++ [0x22]) := by decide +kernel
  have h1 : ascii "\x7b\"id\":\"" = [0x7B, 0x22, 0x69, 0x64, 0x22, 0x3A, 0x22] := by decide
  have h2 : ascii "\",\"value\":" = 0x22 :: 0x2C :: 0x22 :: (ascii "value" ++ [0x22, 0x3A]) := by decide
  have h3 : ascii ",\"source\":\"" = 0x2C :: 0x22 :: (ascii "source" ++ [0x22, 0x3A, 0x22]) := by decide
  have h4 : ascii "\",\"reason\":\"" = 0x22 :: 0x2C :: 0x22 :: (ascii "reason" ++ [0x22, 0x3A, 0x22]) := by
    decide
  have h5 : ascii "\"\x7d" = [0x22, 0x7D] := by decide
  rw [itemText, h1, h2, h3, h4, h5, hid, hvalue, hname, hreason, quoted, quoted, quoted,
    jsonEscape_settingToken htoken, hsource]
  simp only [List.cons_append, List.nil_append, List.append_assoc]

theorem whitespace_quoted (text rest : Bytes) :
    whitespace (quoted text ++ rest) = quoted text ++ rest := whitespace_cons rfl _

@[simp] theorem nextIs_cons {b : UInt8} (hb : Json.isBlank b = false) (c : UInt8) (rest : Bytes) :
    nextIs c (b :: rest) = decide (b = c) := by
  unfold nextIs
  simp only [whitespace_cons hb, List.head?_cons, Option.some_inj]

theorem consume_cons {b : UInt8} (hb : Json.isBlank b = false) (rest : Bytes) :
    consume b (b :: rest) = some rest := consume_complete hb blank_nil rest

/-- **A field is taken in one round**, and the comma behind it as well. -/
theorem fieldsLoop_field {fuel : ℕ} {fields : List Bytes} {entry entry' : Entry} {name value : Bytes}
    {rest : Bytes} (hname : name ∉ fields)
    (hfield : entry.field name (value ++ 0x2C :: rest) = .ok (entry', 0x2C :: rest)) :
    fieldsLoop (fuel + 1) fields entry (quoted name ++ 0x3A :: (value ++ 0x2C :: rest)) =
      fieldsLoop fuel (name :: fields) entry' rest := by
  have hnext : nextIs 0x7D (quoted name ++ 0x3A :: (value ++ 0x2C :: rest)) = false :=
    nextIs_cons (b := 0x22) rfl 0x7D _
  rw [fieldsLoop, hnext, string_quoted]
  simp only [Bool.false_eq_true, if_false, if_neg hname, consume_cons (b := 0x3A) rfl, hfield,
    bind, Except.bind, nextIs_cons (b := 0x2C) rfl, consume_cons (b := 0x2C) rfl]
  rfl

/-- **The last field ends the entry.** -/
theorem fieldsLoop_last {fuel : ℕ} {fields : List Bytes} {entry entry' : Entry} {name value : Bytes}
    {rest : Bytes} (hname : name ∉ fields)
    (hfield : entry.field name (value ++ 0x7D :: rest) = .ok (entry', 0x7D :: rest)) :
    fieldsLoop (fuel + 2) fields entry (quoted name ++ 0x3A :: (value ++ 0x7D :: rest)) =
      .ok (entry', 0x7D :: rest) := by
  have hnext : nextIs 0x7D (quoted name ++ 0x3A :: (value ++ 0x7D :: rest)) = false :=
    nextIs_cons (b := 0x22) rfl 0x7D _
  rw [fieldsLoop, hnext, string_quoted]
  simp only [Bool.false_eq_true, if_false, if_neg hname, consume_cons (b := 0x3A) rfl, hfield,
    bind, Except.bind, nextIs_cons (b := 0x7D) rfl, decide_true, if_true]
  rw [fieldsLoop, nextIs_cons (b := 0x7D) rfl]
  rfl

/-- **What is written of an item is read as its fields.** -/
theorem readEntry_itemText {item : PreviewItem} (hv : Discrete item.after)
    (htoken : settingToken item.id ≠ []) (seen : List SettingId) (rest : Bytes) :
    readEntry seen (itemText item ++ rest) = (readBack seen item).map fun request => (request, rest) := by
  have hends : ∀ rest, Ends (0x2C :: rest) := fun rest => ends_cons (by decide)
  rw [itemText_eq htoken]
  simp only [List.cons_append, List.append_assoc, List.nil_append]
  unfold readEntry
  rw [consume_cons (b := 0x7B) rfl]
  simp only
  generalize hfuel : List.length _ + 1 = fuel
  obtain ⟨k, rfl⟩ : ∃ k, fuel = k + 5 := by
    refine ⟨fuel - 5, ?_⟩
    simp only [List.length_append, List.length_cons, quoted] at hfuel
    omega
  let first : Entry := { rawId := some (settingToken item.id) }
  let second : Entry := { first with rawValue := some (valueText item.after) }
  let third : Entry := { second with rawSource := some item.source.text }
  have hid : ∀ rest, Entry.field {} (ascii "id") (quoted (settingToken item.id) ++ rest) =
      .ok (first, rest) := by
    intro rest
    simp [Entry.field, Entry.read, first]
  have hvalue : ∀ rest, first.field (ascii "value") (valueText item.after ++ 0x2C :: rest) =
      .ok (second, 0x2C :: rest) := by
    intro rest
    have hne : ascii "value" ≠ ascii "id" := by decide
    simp [Entry.field, Entry.read, second, hne, scalar_valueText hv (hends rest)]
  have hsource : ∀ rest, second.field (ascii "source") (quoted item.source.text ++ rest) =
      .ok (third, rest) := by
    intro rest
    have hne : ascii "source" ≠ ascii "id" ∧ ascii "source" ≠ ascii "value" := by decide
    simp [Entry.field, Entry.read, third, hne]
  have hreason : ∀ rest, third.field (ascii "reason") (quoted (wideToUtf8 item.reason) ++ rest) =
      .ok (entryOf item, rest) := by
    intro rest
    have hne : ascii "reason" ≠ ascii "id" ∧ ascii "reason" ≠ ascii "value" ∧
        ascii "reason" ≠ ascii "source" := by decide
    simp [Entry.field, Entry.read, entryOf, first, second, third, hne]
  have hnames : [ascii "reason", ascii "source", ascii "value", ascii "id"].Nodup := by decide
  obtain ⟨hfourth, hnames⟩ := List.nodup_cons.mp hnames
  obtain ⟨hthird, hnames⟩ := List.nodup_cons.mp hnames
  obtain ⟨hsecond, -⟩ := List.nodup_cons.mp hnames
  rw [fieldsLoop_field List.not_mem_nil (hid _), fieldsLoop_field hsecond (hvalue _),
    fieldsLoop_field hthird (hsource _), fieldsLoop_last hfourth (hreason _)]
  have hrawId : (entryOf item).rawId = some (settingToken item.id) := rfl
  have hrawValue : (entryOf item).rawValue = some (valueText item.after) := rfl
  unfold readBack
  simp only [bind, Except.bind, consume_cons (b := 0x7D) rfl, hrawId, hrawValue]
  cases requestOf seen (settingToken item.id) (valueText item.after) (entryOf item) <;> rfl

/-! ## 7. The document -/

/-- What the reader makes of the items, one after the other, behind the requests so far. -/
def checked : List RequestedChange → List PreviewItem → Except Error (List RequestedChange)
  | requests, [] => .ok requests
  | requests, item :: items => do
    let request ← readBack (requests.map RequestedChange.id) item
    if allSettings.length < (requests ++ [request]).length then
      malformed "Change document contains too many settings"
    else checked (requests ++ [request]) items

/-- What an item has to be for its text to be read. -/
def Written (item : PreviewItem) : Prop := Discrete item.after ∧ settingToken item.id ≠ []

theorem itemText_cons {item : PreviewItem} (htoken : settingToken item.id ≠ []) :
    ∃ text, itemText item = 0x7B :: text := ⟨_, itemText_eq htoken⟩

/-- **The list is read item by item.** -/
theorem entriesLoop_items {items : List PreviewItem} (h : ∀ item ∈ items, Written item)
    (requests : List RequestedChange) (rest : Bytes) {fuel : ℕ} (hfuel : items.length < fuel) :
    entriesLoop fuel requests (commas (items.map itemText) ++ 0x5D :: rest) =
      (checked requests items).map fun requests => (requests, 0x5D :: rest) := by
  induction items generalizing requests fuel with
  | nil =>
    obtain ⟨fuel, rfl⟩ : ∃ k, fuel = k + 1 := ⟨fuel - 1, by simp at hfuel; omega⟩
    rw [entriesLoop, List.map_nil, commas, List.nil_append, nextIs_cons (b := 0x5D) rfl]
    rfl
  | cons item items ih =>
    obtain ⟨⟨hvalue, htoken⟩, hitems⟩ := List.forall_mem_cons.mp h
    obtain ⟨fuel, rfl⟩ : ∃ k, fuel = k + 1 := ⟨fuel - 1, by simp at hfuel; omega⟩
    have hfuel' : items.length < fuel := by simpa using hfuel
    -- behind the item the list ends, or a comma leads to the next one
    obtain ⟨tail, htail, hmore⟩ : ∃ tail,
        commas ((item :: items).map itemText) ++ 0x5D :: rest = itemText item ++ tail ∧
        (nextIs 0x5D tail = true ∧ (∀ requests, entriesLoop fuel requests tail =
            (checked requests items).map fun requests => (requests, 0x5D :: rest)) ∨
          nextIs 0x5D tail = false ∧ ∃ more, consume 0x2C tail = some more ∧
            ∀ requests, entriesLoop fuel requests more =
              (checked requests items).map fun requests => (requests, 0x5D :: rest)) := by
      cases items with
      | nil =>
        refine ⟨0x5D :: rest, rfl, .inl ⟨nextIs_cons (b := 0x5D) rfl 0x5D _, fun requests => ?_⟩⟩
        exact ih hitems requests hfuel'
      | cons next items =>
        refine ⟨0x2C :: (commas ((next :: items).map itemText) ++ 0x5D :: rest), ?_,
          .inr ⟨nextIs_cons (b := 0x2C) rfl 0x5D _, _, consume_cons (b := 0x2C) rfl _,
            fun requests => ?_⟩⟩
        · rw [List.map_cons, List.map_cons, commas_cons_cons, List.append_assoc]
          rfl
        · exact ih hitems requests hfuel'
    have hnext : nextIs 0x5D (itemText item ++ tail) = false := by
      obtain ⟨text, htext⟩ := itemText_cons htoken
      rw [htext]
      exact nextIs_cons (b := 0x7B) rfl 0x5D _
    rw [htail, entriesLoop, hnext, readEntry_itemText hvalue htoken, checked]
    cases readBack (requests.map RequestedChange.id) item with
    | error e => rfl
    | ok request =>
      simp only [Bool.false_eq_true, if_false, Except.map, bind, Except.bind]
      by_cases hlimit : allSettings.length < (requests ++ [request]).length
      · rw [if_pos hlimit, if_pos hlimit]
        rfl
      · rw [if_neg hlimit, if_neg hlimit]
        rcases hmore with ⟨hend, hloop⟩ | ⟨hend, more, hconsume, hloop⟩
        · rw [if_pos hend]
          exact hloop _
        · rw [hend, if_neg Bool.false_ne_true, hconsume]
          exact hloop _

theorem length_le_exported {items : List PreviewItem} (h : ∀ item ∈ items, Written item) :
    items.length ≤ (commas (items.map itemText)).length := by
  refine le_trans (by rw [List.length_map]) (length_le_commas fun text htext => ?_)
  obtain ⟨item, hitem, rfl⟩ := List.mem_map.mp htext
  obtain ⟨text, htext⟩ := itemText_cons (h item hitem).2
  rw [htext]
  exact List.cons_ne_nil _ _

/-- **What is written is read up to what the reader asks of the items.** -/
theorem import_exported {items : List PreviewItem} (h : ∀ item ∈ written items, Written item) :
    importRequestedChangesJson (exportPreviewJson items) =
      if 1024 * 1024 < (exportPreviewJson items).length then malformed "Change document size is invalid"
      else checked [] (written items) := by
  have hhead : exportPreviewJson items = 0x7B :: (quoted (ascii "version") ++ 0x3A ::
      (valueText (.int 1) ++ 0x2C :: (quoted (ascii "changes") ++ 0x3A :: 0x5B ::
        (commas ((written items).map itemText) ++ [0x5D, 0x7D])))) := by
    have hversion : ascii "\x7b\"version\":1,\"changes\":[" = 0x7B :: (quoted (ascii "version") ++
        0x3A :: (valueText (.int 1) ++ 0x2C :: (quoted (ascii "changes") ++ [0x3A, 0x5B]))) := by
      decide +kernel
    have hend : ascii "]\x7d" = [0x5D, 0x7D] := by decide
    rw [exportPreviewJson, hversion, hend]
    simp only [List.cons_append, List.append_assoc, List.nil_append]
  have hchanges : changesOf (exportPreviewJson items) =
      .ok (commas ((written items).map itemText) ++ [0x5D, 0x7D]) := by
    have hone : valueText (.int 1) = ascii "1" := by decide +kernel
    have hscalar : ∀ rest, scalar (ascii "1" ++ 0x2C :: rest) = some (ascii "1", 0x2C :: rest) := by
      intro rest
      have hends : Ends (0x2C :: rest) := ends_cons (by decide)
      have hread := scalar_valueText (v := .int 1) ⟨by norm_num, by norm_num⟩ hends
      rwa [hone] at hread
    rw [hhead, hone, changesOf]
    simp only [consume_cons (b := 0x7B) rfl, Option.bind_some, key, string_quoted, if_true,
      consume_cons (b := 0x3A) rfl, hscalar, consume_cons (b := 0x2C) rfl,
      consume_cons (b := 0x5B) rfl]
  have hne : exportPreviewJson items ≠ [] := by
    rw [hhead]
    exact List.cons_ne_nil _ _
  have hfuel : (written items).length <
      (commas ((written items).map itemText) ++ [0x5D, 0x7D]).length + 1 := by
    have hle := length_le_exported h
    rw [List.length_append]
    omega
  unfold importRequestedChangesJson
  simp only [hne, false_or]
  by_cases hlength : 1024 * 1024 < (exportPreviewJson items).length
  · rw [if_pos hlength, if_pos hlength]
  · rw [if_neg hlength, if_neg hlength, hchanges]
    simp only [bind, Except.bind]
    rw [entriesLoop_items h [] [0x7D] hfuel]
    cases checked [] (written items) with
    | error e => rfl
    | ok requests =>
      simp only [Except.map, consume_cons (b := 0x5D) rfl, Option.bind_some,
        consume_cons (b := 0x7D) rfl]
      rfl

theorem checked_prefix {requests result : List RequestedChange} {items : List PreviewItem}
    (h : checked requests items = .ok result) : requests <+: result := by
  induction items generalizing requests with
  | nil =>
    obtain rfl := Except.ok.inj h
    exact List.prefix_refl requests
  | cons item items ih =>
    rw [checked] at h
    cases hread : readBack (requests.map RequestedChange.id) item with
    | error e =>
      rw [hread] at h
      cases h
    | ok request =>
      rw [hread] at h
      simp only [bind, Except.bind] at h
      split at h
      · cases h
      · exact (List.prefix_append requests [request]).trans (ih h)

/-- The settings of requests, each of which is in the catalog, are not more than it has. -/
theorem length_le_catalog {ids : List SettingId} (hnodup : ids.Nodup)
    (hknown : ∀ id ∈ ids, settingToken id ≠ []) : ids.length ≤ allSettings.length := by
  have hsubset : ids ⊆ allSettings.map SettingDefinition.id := by
    intro id hid
    obtain ⟨d, -, hmem, rfl⟩ := exists_setting (hknown id hid)
    exact List.mem_map_of_mem hmem
  simpa using (hnodup.subperm hsubset).length_le

/-- **Items are read back if and only if they can be stored**, each setting once. -/
theorem checked_eq_ok {items : List PreviewItem} (h : ∀ item ∈ items, Written item)
    {requests : List RequestedChange} (hnodup : (requests.map RequestedChange.id).Nodup)
    (hknown : ∀ id ∈ requests.map RequestedChange.id, settingToken id ≠ []) :
    checked requests items = .ok (requests ++ items.map PreviewItem.request) ↔
      (items.map PreviewItem.id).Nodup ∧
        ∀ item ∈ items, item.id ∉ requests.map RequestedChange.id ∧ Storable item := by
  induction items generalizing requests with
  | nil => simp [checked]
  | cons item items ih =>
    obtain ⟨⟨hvalue, htoken⟩, hitems⟩ := List.forall_mem_cons.mp h
    have hread := readBack_eq_ok hvalue htoken (requests.map RequestedChange.id)
    have hids : (requests ++ [item.request]).map RequestedChange.id =
        requests.map RequestedChange.id ++ [item.id] := by
      rw [List.map_append]
      rfl
    have hresult : requests ++ (item :: items).map PreviewItem.request =
        (requests ++ [item.request]) ++ items.map PreviewItem.request := by
      simp
    have hstep : item.id ∉ requests.map RequestedChange.id →
        ((requests ++ [item.request]).map RequestedChange.id).Nodup ∧
          ∀ id ∈ (requests ++ [item.request]).map RequestedChange.id, settingToken id ≠ [] := by
      intro hnew
      rw [hids]
      refine ⟨List.nodup_append.mpr ⟨hnodup, List.nodup_singleton _, ?_⟩, ?_⟩
      · rintro id hid id' hid' rfl
        exact hnew (List.mem_singleton.mp hid' ▸ hid)
      · intro id hid
        rcases List.mem_append.mp hid with hid | hid
        · exact hknown id hid
        · rw [List.mem_singleton.mp hid]
          exact htoken
    have hlimit : item.id ∉ requests.map RequestedChange.id →
        ¬ allSettings.length < (requests ++ [item.request]).length := by
      intro hnew
      obtain ⟨hnodup', hknown'⟩ := hstep hnew
      have hle := length_le_catalog hnodup' hknown'
      rw [List.length_map] at hle
      exact not_lt.mpr hle
    have hmap : (item :: items).map PreviewItem.id = item.id :: items.map PreviewItem.id := rfl
    rw [checked, List.forall_mem_cons, hmap, List.nodup_cons]
    constructor
    · intro hchecked
      cases hrequest : readBack (requests.map RequestedChange.id) item with
      | error e =>
        rw [hrequest] at hchecked
        cases hchecked
      | ok request =>
        rw [hrequest] at hchecked
        simp only [bind, Except.bind] at hchecked
        split at hchecked
        · cases hchecked
        · have hprefix := checked_prefix hchecked
          have hsame : request = item.request := by
            rw [hresult] at hprefix
            have htaken := List.prefix_of_prefix_length_le hprefix
              (List.prefix_append (requests ++ [item.request]) _) (by simp)
            simpa using htaken.eq_of_length (by simp)
          subst hsame
          obtain ⟨hnew, hstorable⟩ := hread.mp hrequest
          obtain ⟨hnodup', hknown'⟩ := hstep hnew
          rw [hresult] at hchecked
          obtain ⟨hrest, hall⟩ := (ih hitems hnodup' hknown').mp hchecked
          refine ⟨⟨?_, hrest⟩, ⟨hnew, hstorable⟩, fun next hnext => ?_⟩
          · intro hmem
            obtain ⟨next, hnext, hid⟩ := List.mem_map.mp hmem
            refine (hall next hnext).1 ?_
            rw [hids, hid]
            exact List.mem_append_right _ (List.mem_singleton_self _)
          · obtain ⟨hother, hstored⟩ := hall next hnext
            rw [hids] at hother
            exact ⟨fun hmem => hother (List.mem_append_left _ hmem), hstored⟩
    · rintro ⟨⟨hfresh, hrest⟩, ⟨hnew, hstorable⟩, hall⟩
      obtain ⟨hnodup', hknown'⟩ := hstep hnew
      rw [hread.mpr ⟨hnew, hstorable⟩]
      simp only [bind, Except.bind, if_neg (hlimit hnew)]
      rw [hresult]
      refine (ih hitems hnodup' hknown').mpr ⟨hrest, fun next hnext => ?_⟩
      obtain ⟨hother, hstored⟩ := hall next hnext
      refine ⟨?_, hstored⟩
      rw [hids]
      intro hmem
      rcases List.mem_append.mp hmem with hmem | hmem
      · exact hother hmem
      · exact hfresh (List.mem_singleton.mp hmem ▸ List.mem_map_of_mem hnext)

/-- **Export and import agree on the previews that the reader accepts, and on no others.**  A preview
whose values are integers and booleans comes back, setting by setting, if and only if its document is
at most a mebibyte long, no setting stands in it twice, every value is one the catalog allows, and
every reason is well-formed and at most 4096 bytes long. -/
theorem change_document_round_trip (items : List PreviewItem)
    (hvalues : ∀ item ∈ items, Discrete item.after) :
    importRequestedChangesJson (exportPreviewJson items) =
        .ok ((written items).map PreviewItem.request) ↔
      (exportPreviewJson items).length ≤ 1024 * 1024 ∧
        ((written items).map PreviewItem.id).Nodup ∧ ∀ item ∈ written items, Storable item := by
  have hwritten : ∀ item ∈ written items, Written item := by
    intro item hitem
    obtain ⟨hmem, htoken⟩ := List.mem_filter.mp hitem
    exact ⟨hvalues item hmem, of_decide_eq_true htoken⟩
  have hchecked := @checked_eq_ok _ hwritten [] List.nodup_nil nofun
  rw [import_exported hwritten]
  by_cases hlength : 1024 * 1024 < (exportPreviewJson items).length
  · rw [if_pos hlength]
    constructor
    · intro h
      cases h
    · rintro ⟨hle, -⟩
      exact absurd hlength (not_lt.mpr hle)
  · rw [if_neg hlength]
    simpa [not_lt.mp hlength] using hchecked

/-- Two changes, one with a quotation mark, a line break and a pair of surrogates in its reason, and
an item that is not written. -/
def twoChanges : List PreviewItem :=
  [⟨.corpseLimit, .int 12, .adaptive, [0x22, 0x0A, 0xD83E, 0xDDDF]⟩,
    ⟨.unverifiedEffectProfile, .bool true, .adaptive, []⟩,
    ⟨.smoothFrameRate, .bool false, .explicitUser, [0x2A]⟩]

theorem change_document_round_trip_twoChanges :
    (∀ item ∈ twoChanges, Discrete item.after) ∧
      importRequestedChangesJson (exportPreviewJson twoChanges) =
        .ok ((written twoChanges).map PreviewItem.request) ∧ (written twoChanges).length = 2 := by
  have hvalues : ∀ item ∈ twoChanges, Discrete item.after := by
    simp [twoChanges, Discrete]
  refine ⟨hvalues, (change_document_round_trip twoChanges hvalues).mpr ?_, by decide +kernel⟩
  exact ⟨by decide +kernel, by decide +kernel, by decide +kernel⟩

/-- An integer for a boolean setting comes back as a boolean. -/
example : (importRequestedChangesJson (exportPreviewJson
    [⟨.smoothFrameRate, .int 1, .explicitUser, []⟩])).toOption =
      some [⟨.smoothFrameRate, .bool true, .explicitUser, []⟩] := by
  decide +kernel

end Kf2Optimizer.Backup
