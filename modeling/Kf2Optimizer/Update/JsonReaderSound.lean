/-
# What the JSON reader takes

Each function of the reader `Reads` values as a function on values says: a string by the text it
stands for, an unsigned number by its value, and a skipped value by whether it is within the limits
(`reads_string`, `reads_boolean`, `reads_unsigned`, `reads_skip`).  The loops over elements and
members read whatever their parts read (`reads_array`, `reads_object`), so that a function that is
composed of these is read off its source.
-/
import Kf2Optimizer.Update.JsonReader

namespace Kf2Optimizer.Update

open Text Json

/-! ## 1. Blanks -/

theorem isBlank_iff {b : UInt8} :
    isBlank b = true ↔ b = 0x20 ∨ b = 0x09 ∨ b = 0x0D ∨ b = 0x0A := by
  simp only [isBlank, Bool.or_eq_true, beq_iff_eq]
  tauto

theorem whitespace_blank {w : Bytes} (hw : Blank w) (rest : Bytes) :
    whitespace (w ++ rest) = whitespace rest := by
  induction w with
  | nil => rfl
  | cons b w ih =>
    rw [List.cons_append, whitespace, if_pos (isBlank_iff.mp (hw b List.mem_cons_self))]
    exact ih fun c hc => hw c (List.mem_cons_of_mem b hc)

theorem whitespace_cons {b : UInt8} (hb : isBlank b = false) (rest : Bytes) :
    whitespace (b :: rest) = b :: rest := by
  rw [whitespace, if_neg (isBlank_iff.not.mp (Bool.eq_false_iff.mp hb))]

/-- What is left out is blank. -/
theorem whitespace_split (text : Bytes) : ∃ w, Blank w ∧ text = w ++ whitespace text := by
  induction text with
  | nil => exact ⟨[], blank_nil, rfl⟩
  | cons b rest ih =>
    by_cases hb : isBlank b = true
    · obtain ⟨w, hw, hrest⟩ := ih
      refine ⟨b :: w, List.forall_mem_cons.mpr ⟨hb, hw⟩, ?_⟩
      rw [whitespace, if_pos (isBlank_iff.mp hb), List.cons_append, ← hrest]
    · exact ⟨[], blank_nil, (whitespace_cons (Bool.eq_false_iff.mpr hb) rest).symm⟩

theorem consume_sound {c : UInt8} {text rest : Bytes} (h : consume c text = some rest) :
    ∃ w, Blank w ∧ text = w ++ c :: rest := by
  obtain ⟨w, hw, htext⟩ := whitespace_split text
  unfold consume at h
  split at h
  · rename_i b behind hbehind
    split_ifs at h with hb
    obtain rfl := Option.some_inj.mp h
    exact ⟨w, hw, by rw [htext, hbehind, hb]⟩
  · cases h

theorem consume_complete {c : UInt8} (hc : isBlank c = false) {w : Bytes} (hw : Blank w)
    (rest : Bytes) : consume c (w ++ c :: rest) = some rest := by
  unfold consume
  rw [whitespace_blank hw, whitespace_cons hc]
  exact if_pos rfl

theorem consume_ne {b c : UInt8} (hb : isBlank b = false) (hne : b ≠ c) {w : Bytes} (hw : Blank w)
    (rest : Bytes) : consume c (w ++ b :: rest) = none := by
  unfold consume
  rw [whitespace_blank hw, whitespace_cons hb]
  exact if_neg hne

/-! ## 2. Strings -/

/-- The number of four digits. -/
def quad (a b c d : UInt8) : ℕ :=
  (((hexValue a).getD 0 * 16 + (hexValue b).getD 0) * 16 + (hexValue c).getD 0) * 16 +
    (hexValue d).getD 0

def isHigh (n : ℕ) : Prop := 0xD800 ≤ n ∧ n ≤ 0xDBFF
def isLow (n : ℕ) : Prop := 0xDC00 ≤ n ∧ n ≤ 0xDFFF

instance (n : ℕ) : Decidable (isHigh n) := inferInstanceAs (Decidable (_ ∧ _))
instance (n : ℕ) : Decidable (isLow n) := inferInstanceAs (Decidable (_ ∧ _))

/-- The text that a string stands for; half a pair of surrogates stands for nothing. -/
def decodeText : List Json.Char → Option Bytes
  | [] => some []
  | .plain b :: cs => (decodeText cs).map (b :: ·)
  | .short b :: cs => (shortEscape b).bind fun x => (decodeText cs).map (x :: ·)
  | .unicode a b c d :: cs =>
    if isHigh (quad a b c d) then
      match cs with
      | .unicode a' b' c' d' :: cs =>
        if isLow (quad a' b' c' d') then
          (decodeText cs).map (appendUtf8 (0x10000 + (quad a b c d - 0xD800) * 2 ^ 10 +
            (quad a' b' c' d' - 0xDC00)) ++ ·)
        else none
      | _ => none
    else if isLow (quad a b c d) then none
    else (decodeText cs).map (appendUtf8 (quad a b c d) ++ ·)

/-- What a string is read as. -/
def textOf : Value → Option Bytes
  | .string cs => (decodeText cs).filter fun text => decide (text.length ≤ kMaximumString)
  | _ => none

theorem hexQuad_eq {a b c d : UInt8} (h : ∀ x ∈ [a, b, c, d], (hexValue x).isSome = true)
    (rest : Bytes) : hexQuad (a :: b :: c :: d :: rest) = some (quad a b c d, rest) := by
  simp only [List.forall_mem_cons, List.not_mem_nil, IsEmpty.forall_iff, implies_true, and_true] at h
  obtain ⟨ha, hb, hc, hd⟩ := h
  obtain ⟨a', ha'⟩ := Option.isSome_iff_exists.mp ha
  obtain ⟨b', hb'⟩ := Option.isSome_iff_exists.mp hb
  obtain ⟨c', hc'⟩ := Option.isSome_iff_exists.mp hc
  obtain ⟨d', hd'⟩ := Option.isSome_iff_exists.mp hd
  simp [hexQuad, quad, ha', hb', hc', hd']

theorem hexQuad_sound {text rest : Bytes} {n : ℕ} (h : hexQuad text = some (n, rest)) :
    ∃ a b c d, (∀ x ∈ [a, b, c, d], (hexValue x).isSome = true) ∧
      text = a :: b :: c :: d :: rest ∧ n = quad a b c d := by
  unfold hexQuad at h
  split at h
  · rename_i a b c d behind
    simp only [Option.bind_eq_bind, Option.bind_eq_some_iff, Option.some.injEq, Prod.mk.injEq] at h
    obtain ⟨a', ha, b', hb, c', hc, d', hd, rfl, rfl⟩ := h
    exact ⟨a, b, c, d, by simp [ha, hb, hc, hd], rfl, by simp [quad, ha, hb, hc, hd]⟩
  · cases h

theorem decodeText_unicode {a b c d : UInt8} (hhigh : ¬ isHigh (quad a b c d))
    (hlow : ¬ isLow (quad a b c d)) (cs : List Json.Char) :
    decodeText (.unicode a b c d :: cs) = (decodeText cs).map (appendUtf8 (quad a b c d) ++ ·) := by
  rw [decodeText.eq_def]
  simp only [hhigh, hlow, if_false]

theorem decodeText_pair {a b c d a' b' c' d' : UInt8} (hhigh : isHigh (quad a b c d))
    (hlow : isLow (quad a' b' c' d')) (cs : List Json.Char) :
    decodeText (.unicode a b c d :: .unicode a' b' c' d' :: cs) =
      (decodeText cs).map (appendUtf8 (0x10000 + (quad a b c d - 0xD800) * 2 ^ 10 +
        (quad a' b' c' d' - 0xDC00)) ++ ·) := by
  rw [decodeText.eq_def]
  simp only [hhigh, hlow, if_true]

theorem shortEscape_isSome {b : UInt8} : (shortEscape b).isSome = true ↔ b ∈ shortEscapes := by
  unfold shortEscape shortEscapes
  constructor
  · intro h
    by_contra hmem
    simp only [List.mem_cons, List.not_mem_nil, or_false, not_or] at hmem
    simp [hmem] at h
  · intro h
    simp only [List.mem_cons, List.not_mem_nil, or_false] at h
    rcases h with rfl | rfl | rfl | rfl | rfl | rfl | rfl | rfl <;> decide

/-- The two digits of an escape, or the four of a pair. -/
theorem unicodeEscape_sound {text rest : Bytes} {n : ℕ} (h : unicodeEscape text = some (n, rest)) :
    ∃ cs : List Json.Char, (∀ c ∈ cs, c.Valid) ∧
      0x5C :: 0x75 :: text = cs.flatMap Json.Char.text ++ rest ∧
      ∀ more, decodeText (cs ++ more) = (decodeText more).map (appendUtf8 n ++ ·) := by
  unfold unicodeEscape at h
  simp only [Option.bind_eq_bind, Option.bind_eq_some_iff, Prod.exists] at h
  obtain ⟨scalar, behind, hquad, h⟩ := h
  obtain ⟨a, b, c, d, hhex, rfl, rfl⟩ := hexQuad_sound hquad
  split_ifs at h with hhigh hlow
  · split at h
    · rename_i pair
      simp only [Option.bind_eq_some_iff, Prod.exists] at h
      obtain ⟨second, behind', hpair, h⟩ := h
      obtain ⟨a', b', c', d', hhex', rfl, rfl⟩ := hexQuad_sound hpair
      split_ifs at h with hrange
      obtain ⟨rfl, rfl⟩ := Prod.mk.inj (Option.some_inj.mp h)
      have hlow : isLow (quad a' b' c' d') := by
        unfold isLow
        omega
      refine ⟨[.unicode a b c d, .unicode a' b' c' d'], ?_, rfl, fun more => ?_⟩
      · exact List.forall_mem_cons.mpr ⟨hhex, List.forall_mem_singleton.mpr hhex'⟩
      · exact decodeText_pair hhigh hlow more
    · cases h
  · obtain ⟨rfl, rfl⟩ := Prod.mk.inj (Option.some_inj.mp h)
    exact ⟨[.unicode a b c d], List.forall_mem_singleton.mpr hhex, rfl,
      decodeText_unicode hhigh hlow⟩

/-- **One round takes one character, or two that are a pair.** -/
theorem nextChar_sound {ch : UInt8} {rest behind added : Bytes} (hquote : ch ≠ 0x22)
    (hcontrol : ¬ ch < 0x20) (h : nextChar ch rest = some (added, behind)) :
    ∃ cs : List Json.Char, (∀ c ∈ cs, c.Valid) ∧
      ch :: rest = cs.flatMap Json.Char.text ++ behind ∧
      ∀ more, decodeText (cs ++ more) = (decodeText more).map (added ++ ·) := by
  unfold nextChar at h
  split_ifs at h with hplain
  · obtain ⟨rfl, rfl⟩ := Prod.mk.inj (Option.some_inj.mp h)
    exact ⟨[.plain ch],
      List.forall_mem_singleton.mpr ⟨UInt8.not_lt.mp hcontrol, hquote, hplain⟩, rfl, fun _ => rfl⟩
  · obtain rfl := not_not.mp hplain
    unfold escape at h
    split at h
    · cases h
    · rename_i escaped rest
      split_ifs at h with hu
      · subst hu
        obtain ⟨⟨n, rest'⟩, hescape, heq⟩ := Option.map_eq_some_iff.mp h
        obtain ⟨rfl, rfl⟩ := Prod.mk.inj heq
        exact unicodeEscape_sound hescape
      · obtain ⟨x, hx, heq⟩ := Option.map_eq_some_iff.mp h
        obtain ⟨rfl, rfl⟩ := Prod.mk.inj heq
        have hmem := shortEscape_isSome.mp (Option.isSome_iff_exists.mpr ⟨x, hx⟩)
        exact ⟨[.short escaped], List.forall_mem_singleton.mpr hmem, rfl,
          fun more => by simp [decodeText, hx]⟩

theorem stringLoop_sound {fuel : ℕ} {value text v rest : Bytes}
    (h : stringLoop fuel value text = .ok (v, rest)) :
    ∃ cs added, (∀ c ∈ cs, c.Valid) ∧ text = cs.flatMap Json.Char.text ++ 0x22 :: rest ∧
      decodeText cs = some added ∧ v = value ++ added ∧
        (value.length ≤ kMaximumString → v.length ≤ kMaximumString) := by
  induction fuel generalizing value text with
  | zero => cases h
  | succ fuel ih =>
    cases text with
    | nil => cases h
    | cons ch behind =>
      rw [stringLoop] at h
      split_ifs at h with hquote hcontrol
      · obtain ⟨rfl, rfl⟩ := Prod.mk.inj (Except.ok.inj h)
        exact ⟨[], [], nofun, by rw [hquote]; rfl, rfl, (List.append_nil _).symm, id⟩
      · split at h
        · cases h
        · rename_i added next hnext
          split_ifs at h with hlong
          obtain ⟨cs, hvalid, htext, hdecode⟩ := nextChar_sound hquote hcontrol hnext
          obtain ⟨more, later, hmore, hnextText, hlater, rfl, hlimit⟩ := ih h
          refine ⟨cs ++ more, added ++ later, ?_, ?_, ?_, List.append_assoc _ _ _, fun _ => ?_⟩
          · intro c hc
            rcases List.mem_append.mp hc with hc | hc
            · exact hvalid c hc
            · exact hmore c hc
          · rw [htext, hnextText, List.flatMap_append, List.append_assoc]
          · rw [hdecode, hlater]
            rfl
          · exact hlimit (not_lt.mp hlong)

/-- **A character, or two that are a pair, is taken in one round.** -/
theorem nextChar_complete {cs : List Json.Char} {added : Bytes} (hne : cs ≠ [])
    (hvalid : ∀ c ∈ cs, c.Valid) (hdecode : decodeText cs = some added) :
    ∃ first more front back, cs = first ++ more ∧ first ≠ [] ∧ decodeText more = some back ∧
      added = front ++ back ∧ ∀ r, ∃ ch tail, first.flatMap Json.Char.text ++ r = ch :: tail ∧
        ch ≠ 0x22 ∧ ¬ ch < 0x20 ∧ nextChar ch tail = some (front, r) := by
  cases cs with
  | nil => exact absurd rfl hne
  | cons c cs =>
    obtain ⟨hc, hcs⟩ := List.forall_mem_cons.mp hvalid
    cases c with
    | plain b =>
      obtain ⟨hcontrol, hquote, hslash⟩ := hc
      obtain ⟨back, hback, rfl⟩ := Option.map_eq_some_iff.mp hdecode
      exact ⟨[.plain b], cs, [b], back, rfl, List.cons_ne_nil _ _, hback, rfl, fun r =>
        ⟨b, r, rfl, hquote, UInt8.not_lt.mpr hcontrol, if_pos hslash⟩⟩
    | short b =>
      obtain ⟨x, hx⟩ := Option.isSome_iff_exists.mp (shortEscape_isSome.mpr hc)
      have hu : b ≠ 0x75 := by
        rintro rfl
        cases hx
      rw [decodeText, hx, Option.bind_some] at hdecode
      obtain ⟨back, hback, rfl⟩ := Option.map_eq_some_iff.mp hdecode
      refine ⟨[.short b], cs, [x], back, rfl, List.cons_ne_nil _ _, hback, rfl, fun r =>
        ⟨0x5C, b :: r, rfl, by decide, by decide, ?_⟩⟩
      simp [nextChar, escape, hu, hx]
    | unicode a b c d =>
      by_cases hhigh : isHigh (quad a b c d)
      · rw [decodeText.eq_def] at hdecode
        simp only [hhigh, if_true] at hdecode
        split at hdecode
        · rename_i a' b' c' d' cs
          obtain ⟨hc', -⟩ := List.forall_mem_cons.mp hcs
          split_ifs at hdecode with hlow
          obtain ⟨back, hback, rfl⟩ := Option.map_eq_some_iff.mp hdecode
          refine ⟨[.unicode a b c d, .unicode a' b' c' d'], cs, _, back, rfl,
            List.cons_ne_nil _ _, hback, rfl, fun r => ⟨0x5C, _, rfl, by decide, by decide, ?_⟩⟩
          have hrange : ¬ (quad a' b' c' d' < 0xDC00 ∨ 0xDFFF < quad a' b' c' d') := by
            unfold isLow at hlow
            omega
          unfold isHigh at hhigh
          simp [nextChar, escape, unicodeEscape, Json.Char.text, hexQuad_eq hc, hexQuad_eq hc',
            hhigh, hrange]
        · cases hdecode
      · have hlow : ¬ isLow (quad a b c d) := by
          intro hlow
          rw [decodeText.eq_def] at hdecode
          simp [hhigh, hlow] at hdecode
        rw [decodeText_unicode hhigh hlow] at hdecode
        obtain ⟨back, hback, rfl⟩ := Option.map_eq_some_iff.mp hdecode
        refine ⟨[.unicode a b c d], cs, _, back, rfl, List.cons_ne_nil _ _, hback, rfl, fun r =>
          ⟨0x5C, _, rfl, by decide, by decide, ?_⟩⟩
        unfold isHigh at hhigh
        unfold isLow at hlow
        simp [nextChar, escape, unicodeEscape, hexQuad_eq hc, hhigh, hlow]

theorem stringLoop_complete {fuel : ℕ} (value : Bytes) {added : Bytes} {cs : List Json.Char} (rest : Bytes)
    (hvalid : ∀ c ∈ cs, c.Valid) (hdecode : decodeText cs = some added)
    (hlimit : (value ++ added).length ≤ kMaximumString) (hfuel : cs.length < fuel) :
    stringLoop fuel value (cs.flatMap Json.Char.text ++ 0x22 :: rest) = .ok (value ++ added, rest) := by
  induction fuel generalizing value added cs with
  | zero => exact absurd hfuel (Nat.not_lt_zero _)
  | succ fuel ih =>
    by_cases hne : cs = []
    · subst hne
      obtain rfl := Option.some_inj.mp hdecode
      rw [List.append_nil]
      rfl
    · obtain ⟨first, more, front, back, rfl, hfirst, hback, rfl, hnext⟩ :=
        nextChar_complete hne hvalid hdecode
      obtain ⟨ch, tail, htext, hquote, hcontrol, hnext⟩ :=
        hnext (more.flatMap Json.Char.text ++ 0x22 :: rest)
      have hmore : ∀ c ∈ more, c.Valid := fun c hc => hvalid c (List.mem_append_right first hc)
      have hlength := List.length_pos_iff.mpr hfirst
      rw [List.length_append] at hfuel
      rw [← List.append_assoc] at hlimit ⊢
      have hshort : ¬ kMaximumString < (value ++ front).length := by
        rw [List.length_append] at hlimit
        omega
      rw [List.flatMap_append, List.append_assoc, htext, stringLoop, if_neg hquote, if_neg hcontrol,
        hnext]
      simp only
      rw [if_neg hshort]
      exact ih _ hmore hback hlimit (by omega)

theorem length_le_flatMap_text (cs : List Json.Char) :
    cs.length ≤ (cs.flatMap Json.Char.text).length := by
  induction cs with
  | nil => exact Nat.zero_le _
  | cons c cs ih =>
    have hc : 1 ≤ c.text.length := by
      cases c <;> simp [Json.Char.text]
    rw [List.flatMap_cons, List.length_append, List.length_cons]
    omega

/-- **A string is read as the text it stands for.** -/
theorem reads_string : Json.Reads string textOf where
  sound {text rest v} h := by
    obtain ⟨w, hw, htext⟩ := whitespace_split text
    unfold string at h
    split at h
    · rename_i behind hbehind
      obtain ⟨cs, added, hvalid, rfl, hdecode, rfl, hlimit⟩ := stringLoop_sound h
      refine ⟨w, .string cs, stringText cs, hw, .string hvalid, ?_, ?_⟩
      · rw [htext, hbehind]
        simp [stringText]
      · simp only [textOf, hdecode]
        exact if_pos (decide_eq_true (hlimit (Nat.zero_le _)))
    · cases h
  complete {before t rest v a} hbefore hspells hof hends := by
    cases hspells with
    | @string cs hvalid =>
      obtain ⟨hdecode, hlimit⟩ := Option.filter_eq_some_iff.mp hof
      have hquote : whitespace (before ++ (stringText cs ++ rest)) =
          0x22 :: (cs.flatMap Json.Char.text ++ 0x22 :: rest) := by
        rw [whitespace_blank hbefore]
        simp only [stringText, List.cons_append, List.append_assoc, List.nil_append]
        exact whitespace_cons (by decide) _
      unfold string
      rw [hquote]
      refine (stringLoop_complete [] rest hvalid hdecode (of_decide_eq_true hlimit) ?_).trans rfl
      have := length_le_flatMap_text cs
      rw [List.length_append, List.length_cons]
      omega
    | _ => cases hof

/-! ## 3. Literals and numbers -/

/-- What a boolean is read as. -/
def booleanOf : Value → Option Bool
  | .boolean b => some b
  | _ => none

/-- What an unsigned number is read as. -/
def unsignedOf : Value → Option ℕ
  | .number t => if t.all isDigit = true ∧ fromDigits t < 2 ^ 64 then some (fromDigits t) else none
  | _ => none

theorem whitespace_of_head {l : Bytes} {b : UInt8} (h : l.head? = some b) (hb : isBlank b = false)
    (rest : Bytes) : whitespace (l ++ rest) = l ++ rest := by
  cases l with
  | nil => cases h
  | cons c l =>
    obtain rfl := Option.some_inj.mp h
    exact whitespace_cons hb (l ++ rest)

theorem after_of_head_ne {p l : Bytes} {a : UInt8} (ha : p.head? = some a)
    (hne : l.head? ≠ some a) : after p l = none := by
  refine if_neg ?_
  rintro ⟨rest, rfl⟩
  cases p with
  | nil => cases ha
  | cons b p => exact hne ha

theorem reads_boolean : Json.Reads boolean booleanOf where
  sound {text rest b} h := by
    obtain ⟨w, hw, htext⟩ := whitespace_split text
    unfold boolean at h
    simp only at h
    split at h
    · rename_i behind hafter
      obtain ⟨rfl, rfl⟩ := Prod.mk.inj (Except.ok.inj h)
      exact ⟨w, .boolean true, _, hw, .boolean true, by rw [htext, after_eq_some hafter]; rfl, rfl⟩
    · split at h
      · rename_i behind hafter
        obtain ⟨rfl, rfl⟩ := Prod.mk.inj (Except.ok.inj h)
        exact ⟨w, .boolean false, _, hw, .boolean false, by rw [htext, after_eq_some hafter]; rfl, rfl⟩
      · cases h
  complete {before t rest v b} hbefore hspells hof hends := by
    cases hspells with
    | boolean b' =>
      obtain rfl := Option.some_inj.mp hof
      unfold boolean
      simp only
      rw [whitespace_blank hbefore]
      cases b' with
      | true =>
        rw [if_pos rfl, whitespace_of_head (b := 0x74) (by decide) (by decide), after_append]
      | false =>
        rw [if_neg (by decide), whitespace_of_head (b := 0x66) (by decide) (by decide),
          after_of_head_ne (a := 0x74) (by decide) (by simp [show (ascii "false").head? = some 0x66 by decide]),
          after_append]
    | _ => cases hof

/-- No digit goes on here. -/
def NoDigit (rest : Bytes) : Prop := ∀ b ∈ rest.head?, isDigit b = false

theorem noDigit_of_ends {rest : Bytes} (h : Ends rest) : NoDigit rest := fun b hb => (h b hb).1

theorem noDigit_cons {b : UInt8} {rest : Bytes} (h : isDigit b = false) : NoDigit (b :: rest) := by
  intro c hc
  obtain rfl := Option.some_inj.mp hc
  exact h

theorem any_head?_eq_false {rest : Bytes} (h : NoDigit rest) : rest.head?.any isDigit = false := by
  cases rest with
  | nil => rfl
  | cons b rest => exact h b rfl

theorem someDigits_sound {t r : Bytes} (h : someDigits t = some r) :
    ∃ ds, Digits ds ∧ t = ds ++ r := by
  cases t with
  | nil => cases h
  | cons b t =>
    rw [someDigits] at h
    split_ifs at h with hb
    obtain rfl := Option.some_inj.mp h
    refine ⟨b :: t.takeWhile isDigit, ⟨List.cons_ne_nil _ _, List.forall_mem_cons.mpr ⟨hb, ?_⟩⟩, ?_⟩
    · exact List.all_eq_true.mp List.all_takeWhile
    · rw [List.cons_append, List.takeWhile_append_dropWhile]

theorem dropWhile_digits {ds r : Bytes} (h : ∀ b ∈ ds, isDigit b = true) (hr : NoDigit r) :
    (ds ++ r).dropWhile isDigit = r := by
  rw [List.dropWhile_append_of_pos h]
  cases r with
  | nil => rfl
  | cons b r => exact List.dropWhile_cons_of_neg (by simp [hr b rfl])

theorem someDigits_complete {ds r : Bytes} (h : Digits ds) (hr : NoDigit r) :
    someDigits (ds ++ r) = some r := by
  obtain ⟨hne, hall⟩ := h
  cases ds with
  | nil => exact absurd rfl hne
  | cons b ds =>
    obtain ⟨hb, hds⟩ := List.forall_mem_cons.mp hall
    rw [List.cons_append, someDigits, if_pos hb, dropWhile_digits hds hr]

theorem skipInteger_sound {t r : Bytes} (h : skipInteger t = some r) :
    ∃ int, IntText int ∧ t = int ++ r := by
  cases t with
  | nil => cases h
  | cons b t =>
    rw [skipInteger] at h
    split_ifs at h with hb hdigit
    · obtain rfl := Option.some_inj.mp h
      exact ⟨[0x30], .inl rfl, by rw [hb]; rfl⟩
    · obtain ⟨ds, hds, htext⟩ := someDigits_sound h
      refine ⟨ds, .inr ⟨hds, fun hzero => hb ?_⟩, htext⟩
      cases ds with
      | nil => exact absurd rfl hds.1
      | cons c ds =>
        rw [List.head?_cons, Option.some_inj] at hzero
        exact (List.cons.inj htext).1.trans hzero

theorem skipInteger_complete {int r : Bytes} (h : IntText int) (hr : NoDigit r) :
    skipInteger (int ++ r) = some r := by
  obtain rfl | ⟨hds, hzero⟩ := h
  · simp [skipInteger, any_head?_eq_false hr]
  · have hdigits := someDigits_complete hds hr
    cases int with
    | nil => exact absurd rfl hds.1
    | cons c ds =>
      have hc : c ≠ 0x30 := fun heq => hzero (congrArg some heq)
      rw [List.cons_append, skipInteger, if_neg hc]
      exact hdigits

theorem skipFraction_sound {t r : Bytes} (h : skipFraction t = some r) :
    ∃ frac, FracText frac ∧ t = frac ++ r := by
  unfold skipFraction at h
  split at h
  · obtain ⟨ds, hds, rfl⟩ := someDigits_sound h
    exact ⟨0x2E :: ds, .inr ⟨ds, hds, rfl⟩, rfl⟩
  · exact ⟨[], .inl rfl, Option.some_inj.mp h⟩

theorem skipFraction_complete {frac r : Bytes} (h : FracText frac) (hr : NoDigit r)
    (hdot : r.head? ≠ some 0x2E) : skipFraction (frac ++ r) = some r := by
  obtain rfl | ⟨ds, hds, rfl⟩ := h
  · rw [List.nil_append]
    unfold skipFraction
    split
    · exact absurd rfl hdot
    · rfl
  · exact someDigits_complete hds hr

theorem skipExponent_sound {t r : Bytes} (h : skipExponent t = some r) :
    ∃ exp, ExpText exp ∧ t = exp ++ r := by
  cases t with
  | nil => exact ⟨[], .inl rfl, Option.some_inj.mp h⟩
  | cons e t =>
    rw [skipExponent.eq_def] at h
    simp only at h
    split_ifs at h with he
    · cases t with
      | nil => cases h
      | cons sign digits =>
        simp only at h
        split_ifs at h with hsign
        · obtain ⟨ds, hds, rfl⟩ := someDigits_sound h
          exact ⟨e :: sign :: ds, .inr ⟨e, [sign], ds, he, .inr (by simpa using hsign), hds, rfl⟩, rfl⟩
        · obtain ⟨ds, hds, htext⟩ := someDigits_sound h
          exact ⟨e :: ds, .inr ⟨e, [], ds, he, .inl rfl, hds, rfl⟩, by rw [htext]; rfl⟩
    · exact ⟨[], .inl rfl, Option.some_inj.mp h⟩

theorem skipExponent_complete {exp r : Bytes} (h : ExpText exp) (hr : Ends r) :
    skipExponent (exp ++ r) = some r := by
  obtain rfl | ⟨e, sign, ds, he, hsign, hds, rfl⟩ := h
  · cases r with
    | nil => rfl
    | cons b r =>
      obtain ⟨-, -, hlower, hupper⟩ := hr b rfl
      exact if_neg (not_or.mpr ⟨hlower, hupper⟩)
  · have hdigits := someDigits_complete hds (noDigit_of_ends hr)
    rw [List.cons_append, skipExponent.eq_def]
    simp only
    rw [if_pos he, List.append_assoc]
    obtain rfl | rfl | rfl := hsign
    · cases ds with
      | nil => exact absurd rfl hds.1
      | cons d ds =>
        have hd := hds.2 d List.mem_cons_self
        have hsign : ¬ (d = 0x2B ∨ d = 0x2D) := by
          rintro (rfl | rfl) <;> cases hd
        exact (if_neg hsign).trans hdigits
    · exact hdigits
    · exact hdigits

theorem skipNumber_sound {t r : Bytes} (h : skipNumber t = some r) :
    ∃ number, NumberText number ∧ t = number ++ r := by
  unfold skipNumber at h
  simp only [Option.bind_eq_bind, Option.bind_eq_some_iff] at h
  obtain ⟨r₁, hint', r₂, hfrac', hexp'⟩ := h
  obtain ⟨int, hint, htext⟩ := skipInteger_sound hint'
  obtain ⟨frac, hfrac, rfl⟩ := skipFraction_sound hfrac'
  obtain ⟨exp, hexp, rfl⟩ := skipExponent_sound hexp'
  split_ifs at htext with hminus
  · refine ⟨0x2D :: (int ++ (frac ++ exp)),
      ⟨[0x2D], int, frac, exp, .inr rfl, hint, hfrac, hexp, rfl⟩, ?_⟩
    cases t with
    | nil => cases hminus
    | cons b t =>
      obtain rfl := Option.some_inj.mp hminus
      rw [show t = _ from htext]
      simp
  · exact ⟨int ++ (frac ++ exp), ⟨[], int, frac, exp, .inl rfl, hint, hfrac, hexp, rfl⟩,
      by rw [htext]; simp⟩

theorem head?_int {int : Bytes} (h : IntText int) : ∃ b, int.head? = some b ∧ isDigit b = true := by
  obtain rfl | ⟨⟨hne, hall⟩, -⟩ := h
  · exact ⟨0x30, rfl, by decide⟩
  · cases int with
    | nil => exact absurd rfl hne
    | cons b int => exact ⟨b, rfl, hall b List.mem_cons_self⟩

theorem skipNumber_complete {number r : Bytes} (h : NumberText number) (hr : Ends r) :
    skipNumber (number ++ r) = some r := by
  obtain ⟨minus, int, frac, exp, hminus, hint, hfrac, hexp, rfl⟩ := h
  have hafterFrac : NoDigit (exp ++ r) ∧ (exp ++ r).head? ≠ some 0x2E := by
    obtain rfl | ⟨e, sign, ds, he, -, -, rfl⟩ := hexp
    · exact ⟨(noDigit_of_ends hr), fun hdot => (hr 0x2E hdot).2.1 rfl⟩
    · refine ⟨noDigit_cons ?_, ?_⟩ <;> rcases he with rfl | rfl <;> simp [isDigit]
  have hafterInt : NoDigit (frac ++ (exp ++ r)) := by
    obtain rfl | ⟨ds, -, rfl⟩ := hfrac
    · exact hafterFrac.1
    · exact noDigit_cons (by decide)
  have hrest : (do
      let rest ← skipInteger (int ++ (frac ++ (exp ++ r)))
      let rest ← skipFraction rest
      skipExponent rest) = some r := by
    rw [skipInteger_complete hint hafterInt, Option.bind_eq_bind, Option.bind_some,
      skipFraction_complete hfrac hafterFrac.1 hafterFrac.2, Option.bind_some,
      skipExponent_complete hexp hr]
  unfold skipNumber
  obtain rfl | rfl := hminus
  · obtain ⟨b, hb, hdigit⟩ := head?_int hint
    rw [List.nil_append, List.append_assoc, List.append_assoc, if_neg]
    · exact hrest
    · rw [List.head?_append, hb]
      rintro heq
      obtain rfl := Option.some_inj.mp heq
      cases hdigit
  · simpa using hrest

/-- The number that the digits make behind another. -/
def numberBehind (value : ℕ) (ds : Bytes) : ℕ := ds.foldl (fun n b => 10 * n + (b.toNat - 0x30)) value

theorem le_numberBehind (value : ℕ) (ds : Bytes) : value ≤ numberBehind value ds := by
  induction ds generalizing value with
  | nil => exact le_rfl
  | cons d ds ih =>
    have hnext := ih (10 * value + (d.toNat - 0x30))
    rw [numberBehind, List.foldl_cons]
    exact le_trans (by omega) hnext

theorem digit_le {d : UInt8} (h : isDigit d = true) : d.toNat - 0x30 ≤ 9 := by
  have hle : d ≤ 0x39 := of_decide_eq_true (Bool.and_eq_true_iff.mp h).2
  have hnat : d.toNat ≤ 0x39 := UInt8.le_iff_toNat_le.mp hle
  omega

theorem unsignedLoop_sound {value n : ℕ} {t r : Bytes} (h : unsignedLoop value t = .ok (n, r)) :
    ∃ ds, (∀ b ∈ ds, isDigit b = true) ∧ t = ds ++ r ∧ n = numberBehind value ds ∧
      (value < 2 ^ 64 → n < 2 ^ 64) := by
  induction t generalizing value with
  | nil =>
    obtain ⟨rfl, rfl⟩ := Prod.mk.inj (Except.ok.inj h)
    exact ⟨[], nofun, rfl, rfl, id⟩
  | cons d t ih =>
    rw [unsignedLoop] at h
    split_ifs at h with hd hlarge
    · obtain ⟨ds, hds, rfl, rfl, hlt⟩ := ih h
      refine ⟨d :: ds, List.forall_mem_cons.mpr ⟨hd, hds⟩, rfl, ?_, fun _ => hlt ?_⟩
      · rw [numberBehind, numberBehind, List.foldl_cons, Nat.mul_comm value 10]
      · have := digit_le hd
        omega
    · obtain ⟨rfl, rfl⟩ := Prod.mk.inj (Except.ok.inj h)
      exact ⟨[], nofun, rfl, rfl, id⟩

theorem unsignedLoop_complete {value : ℕ} {ds r : Bytes} (hds : ∀ b ∈ ds, isDigit b = true)
    (hr : NoDigit r) (hlt : numberBehind value ds < 2 ^ 64) :
    unsignedLoop value (ds ++ r) = .ok (numberBehind value ds, r) := by
  induction ds generalizing value with
  | nil =>
    cases r with
    | nil => rfl
    | cons b r =>
      rw [List.nil_append, unsignedLoop, if_neg (by simp [hr b rfl])]
      rfl
  | cons d ds ih =>
    obtain ⟨hd, hds⟩ := List.forall_mem_cons.mp hds
    rw [numberBehind, List.foldl_cons, Nat.mul_comm 10 value] at hlt ⊢
    have hle := le_numberBehind (value * 10 + (d.toNat - 0x30)) ds
    have hsmall : ¬ (2 ^ 64 - 1 - (d.toNat - 0x30)) / 10 < value := by
      unfold numberBehind at hle
      omega
    rw [List.cons_append, unsignedLoop, if_pos hd, if_neg hsmall]
    exact ih hds hlt

/-- A number of digits alone has no other parts. -/
theorem intText_of_digits {t : Bytes} (h : NumberText t) (hall : t.all isDigit = true) : IntText t := by
  obtain ⟨minus, int, frac, exp, hminus, hint, hfrac, hexp, rfl⟩ := h
  simp only [List.all_append, Bool.and_eq_true] at hall
  obtain ⟨hm, -, hf, he⟩ := hall
  obtain rfl : minus = [] := by
    rcases hminus with rfl | rfl
    · rfl
    · cases hm
  obtain rfl : frac = [] := by
    rcases hfrac with rfl | ⟨ds, -, rfl⟩
    · rfl
    · simp [isDigit] at hf
  obtain rfl : exp = [] := by
    rcases hexp with rfl | ⟨e, sign, ds, he', -, -, rfl⟩
    · rfl
    · rcases he' with rfl | rfl <;> simp [isDigit] at he
  simpa using hint

theorem digits_intText {t : Bytes} (h : IntText t) : Digits t := by
  obtain rfl | ⟨hds, -⟩ := h
  · exact ⟨List.cons_ne_nil _ _, List.forall_mem_singleton.mpr rfl⟩
  · exact hds

theorem not_blank_of_digit {b : UInt8} (h : isDigit b = true) : isBlank b = false := by
  rw [Bool.eq_false_iff]
  intro hb
  rcases isBlank_iff.mp hb with rfl | rfl | rfl | rfl <;> cases h

theorem reads_unsigned : Json.Reads unsignedNumber unsignedOf where
  sound {text rest n} h := by
    obtain ⟨w, hw, htext⟩ := whitespace_split text
    unfold unsignedNumber at h
    simp only at h
    split at h
    · cases h
    · rename_i ch behind hbehind
      split_ifs at h with hbad
      obtain ⟨hdigit, hzero⟩ := not_or.mp (Bool.or_eq_true _ _ ▸ hbad)
      have hdigit : isDigit ch = true := by simpa using hdigit
      rw [hbehind] at h
      obtain ⟨ds, hds, hsplit, rfl, hlt⟩ := unsignedLoop_sound h
      have hne : ds ≠ [] := by
        rintro rfl
        rw [List.nil_append] at hsplit
        rw [← hsplit, unsignedLoop, if_pos hdigit] at h
        split_ifs at h
        obtain ⟨ds', -, hds', -⟩ := unsignedLoop_sound h
        have hlength := congrArg List.length hds'
        rw [List.length_append, List.length_cons] at hlength
        omega
      have hint : IntText ds := by
        by_cases hch : ch = 0x30
        · cases ds with
          | nil => exact absurd rfl hne
          | cons d ds =>
            rw [List.cons_append] at hsplit
            obtain ⟨rfl, rfl⟩ := List.cons.inj hsplit
            cases ds with
            | nil => exact .inl (by rw [hch])
            | cons d' ds =>
              have hd' := hds d' (List.mem_cons_of_mem _ List.mem_cons_self)
              simp [hch, hd'] at hzero
        · refine .inr ⟨⟨hne, hds⟩, fun hhead => hch ?_⟩
          cases ds with
          | nil => exact absurd rfl hne
          | cons d ds =>
            exact (List.cons.inj hsplit).1.trans (Option.some_inj.mp hhead)
      refine ⟨w, .number ds, ds, hw, .number ⟨[], ds, [], [], .inl rfl, hint, .inl rfl, .inl rfl,
        by simp⟩, by rw [htext, hbehind, hsplit], ?_⟩
      exact if_pos ⟨List.all_eq_true.mpr hds, hlt (by decide)⟩
  complete {before t rest v n} hbefore hspells hof hends := by
    cases hspells with
    | number hnumber =>
      simp only [unsignedOf] at hof
      split_ifs at hof with hall
      obtain rfl := Option.some_inj.mp hof
      obtain ⟨hdigits, hlt⟩ := hall
      have hint := intText_of_digits hnumber hdigits
      obtain ⟨hne, hds⟩ := digits_intText hint
      have hnodigit := noDigit_of_ends hends
      obtain ⟨ch, hch, hdigit⟩ := head?_int hint
      unfold unsignedNumber
      simp only
      rw [whitespace_blank hbefore, whitespace_of_head hch (not_blank_of_digit hdigit)]
      cases t with
      | nil => cases hch
      | cons b t =>
        obtain rfl := Option.some_inj.mp hch
        have hgood : (!isDigit b || (decide (b = 0x30) && (t ++ rest).head?.any isDigit)) = false := by
          rw [hdigit, Bool.not_true, Bool.false_or, Bool.and_eq_false_iff]
          by_cases hb : b = 0x30
          · right
            obtain heq | ⟨-, hzero⟩ := hint
            · rw [(List.cons.inj heq).2]
              exact any_head?_eq_false hnodigit
            · exact absurd (congrArg some hb) hzero
          · exact .inl (decide_eq_false hb)
        rw [List.cons_append]
        simp only
        rw [if_neg (by rw [hgood]; exact Bool.false_ne_true)]
        exact unsignedLoop_complete hds hnodigit hlt
    | _ => cases hof

/-! ## 4. Arrays and objects -/

/-- A spelling begins with a byte that is not blank and closes nothing. -/
theorem head_spells {v : Value} {t : Bytes} (h : Spells v t) :
    ∃ b rest, t = b :: rest ∧ isBlank b = false ∧ b ≠ 0x5D ∧ b ≠ 0x7D := by
  cases h with
  | null => exact ⟨_, _, rfl, by decide, by decide, by decide⟩
  | boolean b => cases b <;> exact ⟨_, _, rfl, by decide, by decide, by decide⟩
  | string => exact ⟨_, _, rfl, by decide, by decide, by decide⟩
  | emptyArray => exact ⟨_, _, rfl, by decide, by decide, by decide⟩
  | array => exact ⟨_, _, rfl, by decide, by decide, by decide⟩
  | emptyObject => exact ⟨_, _, rfl, by decide, by decide, by decide⟩
  | object => exact ⟨_, _, rfl, by decide, by decide, by decide⟩
  | number hnumber =>
    obtain ⟨minus, int, frac, exp, hminus, hint, -, -, rfl⟩ := hnumber
    obtain rfl | rfl := hminus
    · obtain ⟨b, hb, hdigit⟩ := head?_int hint
      cases int with
      | nil => cases hb
      | cons c int =>
        obtain rfl := Option.some_inj.mp hb
        refine ⟨c, _, rfl, not_blank_of_digit hdigit, ?_, ?_⟩
        · rintro rfl
          cases hdigit
        · rintro rfl
          cases hdigit
    · exact ⟨_, _, rfl, by decide, by decide, by decide⟩

theorem ends_of_blank_cons {w : Bytes} (hw : Blank w) {c : UInt8}
    (hc : isDigit c = false ∧ c ≠ 0x2E ∧ c ≠ 0x65 ∧ c ≠ 0x45) (rest : Bytes) :
    Ends (w ++ c :: rest) :=
  ends_blank hw (ends_cons hc)

/-- What an array is read as. -/
def arrayOf {α : Type} (limit : Option ℕ) (of : Value → Option α) : Value → Option (List α)
  | .array items => if limit.all fun l => decide (items.length ≤ l) then items.mapM of else none
  | _ => none

/-- What an object is read as. -/
def objectOf {σ : Type} (fieldOf : σ → Bytes → Value → Option σ) (state : σ) : Value → Option σ
  | .object members =>
    members.foldlM
      (fun state m => (textOf (.string m.1)).bind fun key => fieldOf state key m.2) state
  | _ => none

section

variable {ε α σ : Type} {malformed : ε}

/-- The loop does not meet its limit. -/
theorem filter_limit {limit : Option (ℕ × ε)} {n : ℕ} :
    (limit.filter fun l => decide (l.1 ≤ n)) = none ↔
      (limit.map Prod.fst).all (fun l => decide (n + 1 ≤ l)) = true := by
  cases limit with
  | none => simp
  | some l => simp [Option.filter]

theorem closeOrComma_sound {close : UInt8} {done more : Bytes → Except ε α} {text : Bytes} {a : α}
    (h : closeOrComma malformed close done more text = .ok a) :
    ∃ w, Blank w ∧ ((∃ rest, text = w ++ close :: rest ∧ done rest = .ok a) ∨
      ∃ rest, text = w ++ 0x2C :: rest ∧ more rest = .ok a) := by
  unfold closeOrComma at h
  split at h
  · rename_i rest hclose
    obtain ⟨w, hw, htext⟩ := consume_sound hclose
    exact ⟨w, hw, .inl ⟨rest, htext, h⟩⟩
  · split at h
    · rename_i rest hcomma
      obtain ⟨w, hw, htext⟩ := consume_sound hcomma
      exact ⟨w, hw, .inr ⟨rest, htext, h⟩⟩
    · cases h

theorem closeOrComma_close {close : UInt8} (hclose : isBlank close = false)
    (done more : Bytes → Except ε α) {w : Bytes} (hw : Blank w) (rest : Bytes) :
    closeOrComma malformed close done more (w ++ close :: rest) = done rest := by
  unfold closeOrComma
  rw [consume_complete hclose hw]

theorem closeOrComma_comma {close : UInt8} (hclose : (0x2C : UInt8) ≠ close)
    (done more : Bytes → Except ε α) {w : Bytes} (hw : Blank w) (rest : Bytes) :
    closeOrComma malformed close done more (w ++ 0x2C :: rest) = more rest := by
  unfold closeOrComma
  rw [consume_ne (by decide) hclose hw, consume_complete (by decide) hw]

theorem elementsLoop_sound {limit : Option (ℕ × ε)} {element : Reader ε α} {of : Value → Option α}
    (h : Json.Reads element of) {fuel : ℕ} {acc as : List α} {t rest : Bytes}
    (hloop : elementsLoop malformed limit element fuel acc t = .ok (as, rest)) :
    ∃ es : List Element, es ≠ [] ∧ (∀ e ∈ es, e.Spaced) ∧ (∀ e ∈ es, Spells e.value e.text) ∧
      t = commas (es.map Element.spelled) ++ 0x5D :: rest ∧
      (limit.map Prod.fst).all (fun l => decide (acc.length + es.length ≤ l)) = true ∧
      ∃ bs, (es.map Element.value).mapM of = some bs ∧ as = acc ++ bs := by
  induction fuel generalizing acc t with
  | zero => cases hloop
  | succ fuel ih =>
    rw [elementsLoop] at hloop
    split at hloop
    · cases hloop
    · rename_i hlimit
      split at hloop
      · cases hloop
      · rename_i a behind hread
        obtain ⟨before, v, text, hbefore, hspells, rfl, hof⟩ := h.sound hread
        obtain ⟨w, hw, ⟨next, rfl, hdone⟩ | ⟨next, rfl, hmore⟩⟩ := closeOrComma_sound hloop
        · obtain ⟨rfl, rfl⟩ := Prod.mk.inj (Except.ok.inj hdone)
          refine ⟨[⟨before, v, text, w⟩], List.cons_ne_nil _ _,
            List.forall_mem_singleton.mpr ⟨hbefore, hw⟩, List.forall_mem_singleton.mpr hspells, ?_,
            filter_limit.mp hlimit, [a], by simp [hof], rfl⟩
          simp [commas, Element.spelled]
        · obtain ⟨es, hne, hspaced, hall, rfl, hcount, bs, hbs, rfl⟩ := ih hmore
          refine ⟨⟨before, v, text, w⟩ :: es, List.cons_ne_nil _ _,
            List.forall_mem_cons.mpr ⟨⟨hbefore, hw⟩, hspaced⟩,
            List.forall_mem_cons.mpr ⟨hspells, hall⟩, ?_, ?_, a :: bs, by simp [hof, hbs], by simp⟩
          · cases es with
            | nil => exact absurd rfl hne
            | cons e es => simp [commas_cons_cons, Element.spelled]
          · rw [List.length_append, List.length_singleton] at hcount
            rw [List.length_cons]
            simpa [Nat.add_assoc, Nat.add_comm 1] using hcount

theorem elementsLoop_complete {limit : Option (ℕ × ε)} {element : Reader ε α}
    {of : Value → Option α} (h : Json.Reads element of) (rest : Bytes) :
    ∀ {es : List Element} {fuel : ℕ} (acc : List α) {bs : List α}, es ≠ [] → (∀ e ∈ es, e.Spaced) →
      (∀ e ∈ es, Spells e.value e.text) → es.length ≤ fuel →
      (limit.map Prod.fst).all (fun l => decide (acc.length + es.length ≤ l)) = true →
      (es.map Element.value).mapM of = some bs →
      elementsLoop malformed limit element fuel acc (commas (es.map Element.spelled) ++ 0x5D :: rest) =
        .ok (acc ++ bs, rest)
  | [], _, _, _, hne, _, _, _, _, _ => absurd rfl hne
  | _ :: _, 0, _, _, _, _, _, hfuel, _, _ => absurd hfuel (Nat.not_succ_le_zero _)
  | e :: es, fuel + 1, acc, bs, _, hspaced, hall, hfuel, hcount, hbs => by
    obtain ⟨⟨hbefore, hbehind⟩, hspaced⟩ := List.forall_mem_cons.mp hspaced
    obtain ⟨hspells, hall⟩ := List.forall_mem_cons.mp hall
    rw [List.map_cons, List.mapM_cons] at hbs
    obtain ⟨a, ha, hmore⟩ := Option.bind_eq_some_iff.mp hbs
    obtain ⟨cs, hcs, heq⟩ := Option.bind_eq_some_iff.mp hmore
    obtain rfl := Option.some_inj.mp heq
    have hlimit : (limit.filter fun l => decide (l.1 ≤ acc.length)) = none := by
      refine filter_limit.mpr ?_
      cases limit with
      | none => rfl
      | some l =>
        rw [List.length_cons] at hcount
        simp only [Option.map_some, Option.all_some, decide_eq_true_eq] at hcount ⊢
        omega
    rw [elementsLoop, hlimit]
    simp only
    cases es with
    | nil =>
      obtain rfl : cs = [] := by simpa using hcs.symm
      have htext : commas ([e].map Element.spelled) ++ 0x5D :: rest =
          e.before ++ (e.text ++ (e.behind ++ 0x5D :: rest)) := by
        simp [commas, Element.spelled]
      rw [htext, h.complete hbefore hspells ha (ends_of_blank_cons hbehind (by decide) rest)]
      exact closeOrComma_close (by decide) _ _ hbehind rest
    | cons f es =>
      have htext : commas ((e :: f :: es).map Element.spelled) ++ 0x5D :: rest =
          e.before ++ (e.text ++ (e.behind ++
            0x2C :: (commas ((f :: es).map Element.spelled) ++ 0x5D :: rest))) := by
        simp [commas_cons_cons, Element.spelled]
      rw [htext, h.complete hbefore hspells ha (ends_of_blank_cons hbehind (by decide) _)]
      refine (closeOrComma_comma (by decide) _ _ hbehind _).trans ?_
      have hrest := elementsLoop_complete h rest (acc ++ [a])
        (List.cons_ne_nil f es) hspaced hall (Nat.le_of_succ_le_succ hfuel)
        (by simpa [Nat.add_assoc, Nat.add_comm 1] using hcount) hcs
      rwa [List.append_assoc] at hrest

/-- **An array is read as the list of what its elements are read as.** -/
theorem reads_array {limit : Option (ℕ × ε)} {element : Reader ε α} {of : Value → Option α}
    (h : Json.Reads element of) :
    Json.Reads (readArray malformed limit element) (arrayOf (limit.map Prod.fst) of) where
  sound {text rest as} hread := by
    unfold readArray at hread
    split at hread
    · cases hread
    · rename_i inside hopen
      obtain ⟨w, hw, rfl⟩ := consume_sound hopen
      split at hread
      · rename_i behind hclose
        obtain ⟨rfl, rfl⟩ := Prod.mk.inj (Except.ok.inj hread)
        obtain ⟨w', hw', rfl⟩ := consume_sound hclose
        refine ⟨w, .array [], _, hw, .emptyArray hw', by simp, ?_⟩
        exact if_pos (by cases limit <;> simp)
      · obtain ⟨es, hne, hspaced, hall, rfl, hcount, bs, hbs, rfl⟩ := elementsLoop_sound h hread
        refine ⟨w, _, _, hw, .array hne hspaced hall, by simp, ?_⟩
        rw [List.length_nil, Nat.zero_add] at hcount
        simp only [arrayOf, List.length_map]
        rw [if_pos hcount]
        exact hbs
  complete {before t rest v as} hbefore hspells hof hends := by
    unfold readArray
    cases hspells with
    | emptyArray hw =>
      have has : as = [] := by
        simp only [arrayOf, List.mapM_nil] at hof
        split_ifs at hof
        exact (Option.some_inj.mp hof).symm
      rw [List.cons_append, consume_complete (by decide) hbefore]
      simp only
      rw [List.append_assoc, List.singleton_append, consume_complete (by decide) hw, has]
    | @array es hne hspaced hall =>
      simp only [arrayOf, List.length_map] at hof
      split_ifs at hof with hcount
      have hclose : consume 0x5D (commas (es.map Element.spelled) ++ 0x5D :: rest) = none := by
        cases es with
        | nil => exact absurd rfl hne
        | cons e es =>
          obtain ⟨b, t, ht, hb, hbracket, -⟩ := head_spells (hall e List.mem_cons_self)
          have hfirst : ∃ more, commas ((e :: es).map Element.spelled) ++ 0x5D :: rest =
              e.before ++ b :: more := by
            cases es <;> simp [commas, Element.spelled, ht]
          obtain ⟨more, hmore⟩ := hfirst
          rw [hmore]
          exact consume_ne hb hbracket (hspaced e List.mem_cons_self).1 more
      rw [List.cons_append, consume_complete (by decide) hbefore]
      simp only
      rw [List.append_assoc, List.singleton_append, hclose]
      simp only
      refine (elementsLoop_complete h rest [] hne hspaced hall ?_ (by simpa using hcount)
        hof).trans rfl
      have hlength := @length_le_commas (es.map Element.spelled) ?_
      · rw [List.length_map] at hlength
        rw [List.length_append]
        omega
      · simp only [List.forall_mem_map]
        intro e he hnil
        obtain ⟨b, t, ht, -⟩ := head_spells (hall e he)
        simp [Element.spelled, ht] at hnil
    | _ => cases hof

/-- Only a string is read as a text. -/
theorem string_of_textOf {v : Value} {t key : Bytes} (hspells : Spells v t)
    (hof : textOf v = some key) :
    ∃ cs, v = .string cs ∧ t = stringText cs ∧ ∀ c ∈ cs, c.Valid := by
  cases hspells with
  | string hvalid => exact ⟨_, rfl, rfl, hvalid⟩
  | _ => cases hof

/-- What a member adds to what has been read. -/
def memberOf (fieldOf : σ → Bytes → Value → Option σ) (state : σ) (m : List Json.Char × Value) :
    Option σ :=
  (textOf (.string m.1)).bind fun key => fieldOf state key m.2

theorem membersLoop_sound {field : σ → Bytes → Reader ε σ} {fieldOf : σ → Bytes → Value → Option σ}
    (h : ∀ state key, Json.Reads (field state key) fun v => fieldOf state key v) {fuel : ℕ}
    {state last : σ} {t rest : Bytes}
    (hloop : membersLoop malformed field fuel state t = .ok (last, rest)) :
    ∃ ms : List Member, ms ≠ [] ∧ (∀ m ∈ ms, m.Spaced) ∧ (∀ m ∈ ms, Spells m.value m.text) ∧
      t = commas (ms.map Member.spelled) ++ 0x7D :: rest ∧
      (ms.map fun m => (m.key, m.value)).foldlM (memberOf fieldOf) state = some last := by
  induction fuel generalizing state t with
  | zero => cases hloop
  | succ fuel ih =>
    rw [membersLoop] at hloop
    split at hloop
    · cases hloop
    · rename_i key behindKey hkey
      split at hloop
      · cases hloop
      · rename_i behindColon hcolon
        split at hloop
        · cases hloop
        · rename_i next behind hfield
          obtain ⟨before, keyValue, keyText, hbefore, hkeySpells, rfl, hkeyOf⟩ :=
            reads_string.sound hkey
          obtain ⟨cs, rfl, rfl, hvalid⟩ := string_of_textOf hkeySpells hkeyOf
          obtain ⟨afterKey, hafterKey, rfl⟩ := consume_sound hcolon
          obtain ⟨beforeValue, v, text, hbeforeValue, hspells, rfl, hof⟩ := (h state key).sound hfield
          obtain ⟨w, hw, ⟨final, rfl, hdone⟩ | ⟨final, rfl, hmore⟩⟩ := closeOrComma_sound hloop
          · obtain ⟨rfl, rfl⟩ := Prod.mk.inj (Except.ok.inj hdone)
            refine ⟨[⟨before, cs, afterKey, beforeValue, v, text, w⟩], List.cons_ne_nil _ _,
              List.forall_mem_singleton.mpr ⟨hbefore, hafterKey, hbeforeValue, hw, hvalid⟩,
              List.forall_mem_singleton.mpr hspells, ?_, ?_⟩
            · simp [commas, Member.spelled]
            · simp [memberOf, hkeyOf, hof]
          · obtain ⟨ms, hne, hspaced, hall, rfl, hlast⟩ := ih hmore
            refine ⟨⟨before, cs, afterKey, beforeValue, v, text, w⟩ :: ms, List.cons_ne_nil _ _,
              List.forall_mem_cons.mpr ⟨⟨hbefore, hafterKey, hbeforeValue, hw, hvalid⟩, hspaced⟩,
              List.forall_mem_cons.mpr ⟨hspells, hall⟩, ?_, ?_⟩
            · cases ms with
              | nil => exact absurd rfl hne
              | cons m ms => simp [commas_cons_cons, Member.spelled]
            · rw [List.map_cons, List.foldlM_cons]
              simpa [memberOf, hkeyOf, hof] using hlast

theorem membersLoop_complete {field : σ → Bytes → Reader ε σ}
    {fieldOf : σ → Bytes → Value → Option σ}
    (h : ∀ state key, Json.Reads (field state key) fun v => fieldOf state key v) (rest : Bytes) :
    ∀ {ms : List Member} {fuel : ℕ} {state last : σ}, ms ≠ [] → (∀ m ∈ ms, m.Spaced) →
      (∀ m ∈ ms, Spells m.value m.text) → ms.length ≤ fuel →
      (ms.map fun m => (m.key, m.value)).foldlM (memberOf fieldOf) state = some last →
      membersLoop malformed field fuel state (commas (ms.map Member.spelled) ++ 0x7D :: rest) =
        .ok (last, rest)
  | [], _, _, _, hne, _, _, _, _ => absurd rfl hne
  | _ :: _, 0, _, _, _, _, _, hfuel, _ => absurd hfuel (Nat.not_succ_le_zero _)
  | m :: ms, fuel + 1, state, last, _, hspaced, hall, hfuel, hlast => by
    obtain ⟨⟨hbefore, hafterKey, hbeforeValue, hbehind, hvalid⟩, hspaced⟩ :=
      List.forall_mem_cons.mp hspaced
    obtain ⟨hspells, hall⟩ := List.forall_mem_cons.mp hall
    rw [List.map_cons, List.foldlM_cons] at hlast
    obtain ⟨next, hnext, hmore⟩ := Option.bind_eq_some_iff.mp hlast
    obtain ⟨key, hkey, hof⟩ := Option.bind_eq_some_iff.mp hnext
    have hread : ∀ tail, Ends (m.behind ++ tail) →
        membersLoop malformed field (fuel + 1) state (m.spelled ++ tail) =
          closeOrComma malformed 0x7D (fun rest => .ok (next, rest))
            (membersLoop malformed field fuel next) (m.behind ++ tail) := by
      intro tail htail
      have htext : m.spelled ++ tail = m.before ++ (stringText m.key ++ (m.afterKey ++
          0x3A :: (m.beforeValue ++ (m.text ++ (m.behind ++ tail))))) := by
        simp [Member.spelled]
      rw [membersLoop, htext, reads_string.complete hbefore (.string hvalid) hkey
        (ends_of_blank_cons hafterKey (by decide) _)]
      simp only
      rw [consume_complete (by decide) hafterKey]
      simp only
      rw [(h state key).complete hbeforeValue hspells hof htail]
    cases ms with
    | nil =>
      obtain rfl := Option.some_inj.mp hmore
      refine (hread _ (ends_of_blank_cons hbehind (by decide) rest)).trans ?_
      exact closeOrComma_close (by decide) _ _ hbehind rest
    | cons f ms =>
      have htext : commas ((m :: f :: ms).map Member.spelled) ++ 0x7D :: rest =
          m.spelled ++ 0x2C :: (commas ((f :: ms).map Member.spelled) ++ 0x7D :: rest) := by
        simp [commas_cons_cons]
      rw [htext, hread _ (ends_of_blank_cons hbehind (by decide) _)]
      refine (closeOrComma_comma (by decide) _ _ hbehind _).trans ?_
      exact membersLoop_complete h rest (List.cons_ne_nil f ms) hspaced hall
        (Nat.le_of_succ_le_succ hfuel) hmore

/-- **An object is read member by member.** -/
theorem reads_object {field : σ → Bytes → Reader ε σ} {fieldOf : σ → Bytes → Value → Option σ}
    (h : ∀ state key, Json.Reads (field state key) fun v => fieldOf state key v) (state : σ) :
    Json.Reads (readObject malformed field state) (objectOf fieldOf state) where
  sound {text rest last} hread := by
    unfold readObject at hread
    split at hread
    · cases hread
    · rename_i inside hopen
      obtain ⟨w, hw, rfl⟩ := consume_sound hopen
      split at hread
      · rename_i behind hclose
        obtain ⟨rfl, rfl⟩ := Prod.mk.inj (Except.ok.inj hread)
        obtain ⟨w', hw', rfl⟩ := consume_sound hclose
        exact ⟨w, .object [], _, hw, .emptyObject hw', by simp, rfl⟩
      · obtain ⟨ms, hne, hspaced, hall, rfl, hlast⟩ := membersLoop_sound h hread
        exact ⟨w, _, _, hw, .object hne hspaced hall, by simp, hlast⟩
  complete {before t rest v last} hbefore hspells hof hends := by
    unfold readObject
    cases hspells with
    | emptyObject hw =>
      obtain rfl := Option.some_inj.mp hof
      rw [List.cons_append, consume_complete (by decide) hbefore]
      simp only
      rw [List.append_assoc, List.singleton_append, consume_complete (by decide) hw]
    | @object ms hne hspaced hall =>
      have hclose : consume 0x7D (commas (ms.map Member.spelled) ++ 0x7D :: rest) = none := by
        cases ms with
        | nil => exact absurd rfl hne
        | cons m ms =>
          have hfirst : ∃ more, commas ((m :: ms).map Member.spelled) ++ 0x7D :: rest =
              m.before ++ 0x22 :: more := by
            cases ms <;> simp [commas, Member.spelled, stringText]
          obtain ⟨more, hmore⟩ := hfirst
          rw [hmore]
          exact consume_ne (by decide) (by decide) (hspaced m List.mem_cons_self).1 more
      rw [List.cons_append, consume_complete (by decide) hbefore]
      simp only
      rw [List.append_assoc, List.singleton_append, hclose]
      refine membersLoop_complete h rest hne hspaced hall ?_ hof
      have hlength := @length_le_commas (ms.map Member.spelled) ?_
      · rw [List.length_map] at hlength
        rw [List.length_append]
        omega
      · simp [Member.spelled, stringText]
    | _ => cases hof

end

/-! ## 5. Values that are skipped -/

/-- A value that is skipped: its strings stand for texts within the limit, and it has no more
levels than that. -/
def skipOf : ℕ → Value → Option Unit
  | 0, _ => none
  | _ + 1, .string cs => (textOf (.string cs)).map fun _ => ()
  | levels + 1, .object members => objectOf (fun _ _ => skipOf levels) () (.object members)
  | levels + 1, .array items => (arrayOf none (skipOf levels) (.array items)).map fun _ => ()
  | _ + 1, _ => some ()

theorem skipScalar_sound {t rest : Bytes} (h : skipScalar t = some rest) (levels : ℕ) :
    ∃ v text, Spells v text ∧ t = text ++ rest ∧ skipOf (levels + 1) v = some () := by
  unfold skipScalar at h
  cases htrue : after (ascii "true") t with
  | some behind =>
    rw [htrue] at h
    obtain rfl := Option.some_inj.mp h
    exact ⟨.boolean true, _, .boolean true, after_eq_some htrue, rfl⟩
  | none =>
    rw [htrue] at h
    cases hfalse : after (ascii "false") t with
    | some behind =>
      rw [hfalse] at h
      obtain rfl := Option.some_inj.mp h
      exact ⟨.boolean false, _, .boolean false, after_eq_some hfalse, rfl⟩
    | none =>
      rw [hfalse] at h
      cases hnull : after (ascii "null") t with
      | some behind =>
        rw [hnull] at h
        obtain rfl := Option.some_inj.mp h
        exact ⟨.null, _, .null, after_eq_some hnull, rfl⟩
      | none =>
        rw [hnull] at h
        obtain ⟨number, hnumber, htext⟩ := skipNumber_sound h
        exact ⟨.number number, _, .number hnumber, htext, rfl⟩

/-- A number begins with a digit or its sign. -/
theorem head_number {number : Bytes} (h : NumberText number) (rest : Bytes) :
    ∃ b, (number ++ rest).head? = some b ∧ (isDigit b = true ∨ b = 0x2D) := by
  obtain ⟨minus, int, frac, exp, hsign, hint, -, -, rfl⟩ := h
  obtain rfl | rfl := hsign
  · obtain ⟨c, hc, hdigit⟩ := head?_int hint
    refine ⟨c, ?_, .inl hdigit⟩
    rw [List.nil_append, List.append_assoc, List.head?_append, hc, Option.some_or]
  · exact ⟨0x2D, rfl, .inr rfl⟩

/-- No literal begins like a number. -/
theorem skipScalar_number {number rest : Bytes} (h : NumberText number) (hrest : Ends rest) :
    skipScalar (number ++ rest) = some rest := by
  obtain ⟨c, hhead, hc⟩ := head_number h rest
  have hne : ∀ b : UInt8, isDigit b = false → b ≠ 0x2D → (number ++ rest).head? ≠ some b := by
    intro b hdigit hminus hb
    rw [hhead, Option.some_inj] at hb
    subst hb
    obtain hcdigit | hcminus := hc
    · rw [hdigit] at hcdigit
      cases hcdigit
    · exact hminus hcminus
  unfold skipScalar
  rw [after_of_head_ne (a := 0x74) (by decide) (hne _ (by decide) (by decide)),
    after_of_head_ne (a := 0x66) (by decide) (hne _ (by decide) (by decide)),
    after_of_head_ne (a := 0x6E) (by decide) (hne _ (by decide) (by decide)),
    skipNumber_complete h hrest]
  rfl

theorem skipScalar_null (rest : Bytes) : skipScalar (ascii "null" ++ rest) = some rest := by
  have hhead : (ascii "null" ++ rest).head? = some 0x6E := rfl
  unfold skipScalar
  rw [after_of_head_ne (a := 0x74) (by decide) (by rw [hhead]; decide),
    after_of_head_ne (a := 0x66) (by decide) (by rw [hhead]; decide), after_append]
  rfl

theorem skipScalar_boolean (b : Bool) (rest : Bytes) :
    skipScalar ((if b then ascii "true" else ascii "false") ++ rest) = some rest := by
  unfold skipScalar
  cases b with
  | true =>
    rw [if_pos rfl, after_append]
    rfl
  | false =>
    have hhead : (ascii "false" ++ rest).head? = some 0x66 := rfl
    rw [if_neg Bool.false_ne_true, after_of_head_ne (a := 0x74) (by decide) (by rw [hhead]; decide),
      after_append]
    rfl

theorem skipValue_scalar {text t rest : Bytes} {b : UInt8} (levels : ℕ) (hwhite : whitespace text = t)
    (hhead : t.head? = some b) (hb : b ≠ 0x22 ∧ b ≠ 0x7B ∧ b ≠ 0x5B)
    (hscalar : skipScalar t = some rest) : skipValue (levels + 1) text = .ok ((), rest) := by
  rw [skipValue, hwhite, hhead]
  simp only [hb.1, hb.2.1, hb.2.2, if_false, hscalar]

/-- **A value is skipped exactly when it is within the limits.** -/
theorem reads_skip : ∀ levels, Json.Reads (skipValue levels) (skipOf levels)
  | 0 => ⟨nofun, nofun⟩
  | levels + 1 => by
    have hstring := (reads_string.mapError fun _ => ()).map fun _ => ()
    have harray : Json.Reads (fun text => (readArray () none (skipValue levels) text).map
        fun result => ((), result.2)) fun v => (arrayOf none (skipOf levels) v).map fun _ => () :=
      (reads_array (reads_skip levels)).map fun _ => ()
    have hobject : Json.Reads (readObject () (fun _ _ => skipValue levels) ())
        (objectOf (fun _ _ => skipOf levels) ()) :=
      reads_object (fun _ _ => reads_skip levels) ()
    refine ⟨fun {text rest u} hread => ?_, fun {before t rest v u} hbefore hspells hof hends => ?_⟩
    · obtain ⟨w, hw, htext⟩ := whitespace_split text
      have hblank : ∀ {before t : Bytes} {v : Value}, Blank before → Spells v t →
          whitespace text = before ++ (t ++ rest) → skipOf (levels + 1) v = some u →
          ∃ before v t, Blank before ∧ Spells v t ∧ text = before ++ (t ++ rest) ∧
            skipOf (levels + 1) v = some u := by
        intro before t v hbefore hspells hbehind hof
        refine ⟨w ++ before, v, t, List.forall_mem_append.mpr ⟨hw, hbefore⟩, hspells, ?_, hof⟩
        rw [htext, hbehind, List.append_assoc]
      rw [skipValue] at hread
      split at hread
      · cases hread
      · split_ifs at hread
        · obtain ⟨before, v, t, hbefore, hspells, hbehind, hof⟩ := hstring.sound hread
          refine hblank hbefore hspells hbehind ?_
          cases v with
          | string cs => exact hof
          | _ => cases hof
        · obtain ⟨before, v, t, hbefore, hspells, hbehind, hof⟩ := hobject.sound hread
          refine hblank hbefore hspells hbehind ?_
          cases v with
          | object members => exact hof
          | _ => cases hof
        · obtain ⟨before, v, t, hbefore, hspells, hbehind, hof⟩ := harray.sound hread
          refine hblank hbefore hspells hbehind ?_
          cases v with
          | array items => exact hof
          | _ => cases hof
        · split at hread
          · rename_i behind hscalar
            obtain ⟨rfl, rfl⟩ := Prod.mk.inj (Except.ok.inj hread)
            obtain ⟨v, t, hspells, hbehind, hof⟩ := skipScalar_sound hscalar levels
            exact hblank blank_nil hspells hbehind hof
          · cases hread
    · have hwhite : whitespace (before ++ (t ++ rest)) = t ++ rest := by
        obtain ⟨b, t', ht, hb, -, -⟩ := head_spells hspells
        rw [whitespace_blank hbefore, ht]
        exact whitespace_cons hb _
      cases v with
      | string cs =>
        have hread := hstring.complete blank_nil hspells hof hends
        rw [List.nil_append] at hread
        cases hspells
        rw [skipValue, hwhite]
        exact hread
      | object members =>
        have hread := hobject.complete blank_nil hspells hof hends
        rw [List.nil_append] at hread
        have hhead : (t ++ rest).head? = some 0x7B := by
          cases hspells <;> rfl
        rw [skipValue, hwhite, hhead]
        exact hread
      | array items =>
        have hread := harray.complete blank_nil hspells hof hends
        rw [List.nil_append] at hread
        have hhead : (t ++ rest).head? = some 0x5B := by
          cases hspells <;> rfl
        rw [skipValue, hwhite, hhead]
        exact hread
      | null =>
        cases hspells
        rw [skipValue_scalar levels hwhite rfl (by decide) (skipScalar_null rest)]
      | boolean b =>
        cases hspells
        refine skipValue_scalar levels (b := if b then 0x74 else 0x66) hwhite ?_ ?_
          (skipScalar_boolean b rest)
        · cases b <;> rfl
        · cases b <;> decide
      | number number =>
        cases hspells with
        | number hnumber =>
          obtain ⟨b, hhead, hb⟩ := head_number hnumber rest
          refine skipValue_scalar levels hwhite hhead ?_ (skipScalar_number hnumber hends)
          obtain hdigit | rfl := hb
          · refine ⟨?_, ?_, ?_⟩ <;> rintro rfl <;> cases hdigit
          · decide

end Kf2Optimizer.Update
