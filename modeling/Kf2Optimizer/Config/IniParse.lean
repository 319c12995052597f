/-
# What the INI parser accepts, and what it makes of a line

`classify` decides by positions; this module says what it decides.  An assignment line has a
SHAPE, `key part = blanks value tail`, and the parser finds the value of every line of that
shape (`classify_of_shape`) and of no other (`shape_of_classify`).  The value can then be
replaced inside the line without looking at a position again.

A document is accepted exactly when its physical lines are UTF-8 without NUL and each of them
classifies in the section the lines before it leave active (`parse_eq_ok_iff`).
-/
import Kf2Optimizer.Config.IniDocument

set_option linter.unusedSectionVars false

namespace Kf2Optimizer.Config

open Unicode Text

/-! ## 1. Trimming -/

/-- The first byte that is no blank. -/
def leading (v : Bytes) : Option UInt8 := (v.dropWhile isBlank).head?

theorem isBlank_of_leading {v : Bytes} {c : UInt8} (h : leading v = some c) :
    isBlank c = false := by
  have hnot := List.head?_dropWhile_not isBlank v
  unfold leading at h
  rw [h] at hnot
  exact hnot

/-- Dropping blanks from the end of a text that starts with no blank. -/
theorem head?_rdropWhile {v : Bytes} (h : ∀ c ∈ v.head?, isBlank c = false) :
    (v.rdropWhile isBlank).head? = v.head? := by
  cases v with
  | nil => rfl
  | cons c r =>
    have hc : isBlank c = false := h c rfl
    have hne : (c :: r).rdropWhile isBlank ≠ [] := by
      intro hnil
      have hall := List.rdropWhile_eq_nil_iff.mp hnil c List.mem_cons_self
      rw [hc] at hall
      cases hall
    obtain ⟨t, ht⟩ := List.rdropWhile_prefix isBlank (l := c :: r)
    obtain ⟨d, ds, hds⟩ := List.exists_cons_of_ne_nil hne
    rw [hds, List.cons_append] at ht
    rw [hds, (List.cons.inj ht).1]
    rfl

theorem head?_trimAscii (v : Bytes) : (trimAscii v).head? = leading v := by
  refine head?_rdropWhile fun c hc => ?_
  exact isBlank_of_leading (v := v) (Option.mem_def.mp hc)

theorem leading_append {v : Bytes} {c : UInt8} (h : leading v = some c) (w : Bytes) :
    leading (v ++ w) = some c := by
  induction v with
  | nil => cases h
  | cons x v ih =>
    by_cases hx : isBlank x = true
    · simp only [leading, List.cons_append, List.dropWhile_cons_of_pos hx] at h ⊢
      exact ih h
    · simp only [leading, List.cons_append, List.dropWhile_cons_of_neg hx] at h ⊢
      exact h

theorem leading_eq_none {v : Bytes} : leading v = none ↔ trimAscii v = [] := by
  rw [← head?_trimAscii, List.head?_eq_none_iff]

/-! ## 2. The shape of an assignment -/

/-- A value as it stands in a line: no comment, no blank around it. -/
structure PlainBytes (v : Bytes) : Prop where
  no_comment : ∀ b ∈ v, isComment b = false
  head : ∀ b ∈ v.head?, isBlank b = false
  last : ∀ b ∈ v.getLast?, isBlank b = false

/-- What may follow a value: blanks, and then nothing or a comment. -/
def Trailing (t : Bytes) : Prop :=
  ∃ blanks rest, t = blanks ++ rest ∧ (∀ b ∈ blanks, isBlank b = true) ∧
    ∀ b ∈ rest.head?, isComment b = true

theorem isBlank_of_isComment {b : UInt8} (h : isComment b = true) : isBlank b = false := by
  simp only [isComment, Bool.or_eq_true, beq_iff_eq] at h
  rcases h with rfl | rfl <;> decide

theorem isComment_of_isBlank {b : UInt8} (h : isBlank b = true) : isComment b = false := by
  simp only [isBlank, Bool.or_eq_true, beq_iff_eq] at h
  rcases h with rfl | rfl <;> decide

theorem dropWhile_of_head {p : UInt8 → Bool} {v : Bytes} (h : ∀ b ∈ v.head?, p b = false) :
    v.dropWhile p = v := by
  cases v with
  | nil => rfl
  | cons x v => exact List.dropWhile_cons_of_neg (by rw [h x rfl]; simp)

theorem takeWhile_of_head {p : UInt8 → Bool} {v : Bytes} (h : ∀ b ∈ v.head?, p b = false) :
    v.takeWhile p = [] := by
  cases v with
  | nil => rfl
  | cons x v => exact List.takeWhile_cons_of_neg (by rw [h x rfl]; simp)

theorem rdropWhile_append_blanks {v blanks : Bytes} (hb : ∀ b ∈ blanks, isBlank b = true)
    (hv : ∀ b ∈ v.getLast?, isBlank b = false) : (v ++ blanks).rdropWhile isBlank = v := by
  rw [List.rdropWhile, List.reverse_append, List.dropWhile_append_of_pos (by simpa using hb),
    dropWhile_of_head (by simpa using hv), List.reverse_reverse]

/-- **The scan for the value finds it.** -/
theorem scan_value {blanks value tail : Bytes} (hb : ∀ b ∈ blanks, isBlank b = true)
    (hv : PlainBytes value) (ht : Trailing tail) :
    (((blanks ++ (value ++ tail)).dropWhile isBlank).takeWhile fun b => !isComment b).rdropWhile
      isBlank = value := by
  obtain ⟨bl, rest, rfl, hbl, hrest⟩ := ht
  have hstop : rest.takeWhile (fun b => !isComment b) = [] := by
    refine takeWhile_of_head fun b hmem => ?_
    rw [hrest b hmem]
    rfl
  rw [List.dropWhile_append_of_pos hb]
  cases value with
  | nil =>
    -- the blanks before and behind an empty value are one run
    have hdrop : rest.dropWhile isBlank = rest :=
      dropWhile_of_head fun b hmem => isBlank_of_isComment (hrest b hmem)
    rw [List.nil_append, List.dropWhile_append_of_pos hbl, hdrop, hstop]
    rfl
  | cons x v =>
    have hx : ∀ b ∈ (x :: v ++ (bl ++ rest)).head?, isBlank b = false := hv.head
    have hseg : ∀ b ∈ x :: v ++ bl, (!isComment b) = true := by
      intro b hmem
      rcases List.mem_append.mp hmem with hmem | hmem
      · rw [hv.no_comment b hmem]
        rfl
      · rw [isComment_of_isBlank (hbl b hmem)]
        rfl
    rw [dropWhile_of_head hx, ← List.append_assoc, List.takeWhile_append_of_pos hseg, hstop,
      List.append_nil, rdropWhile_append_blanks hbl hv.last]

/-- **What the scan finds is a value**, and the rest of the line is what surrounds it. -/
theorem scan_shape (after : Bytes) :
    let blanks := after.takeWhile isBlank
    let value := ((after.dropWhile isBlank).takeWhile fun b => !isComment b).rdropWhile isBlank
    ∃ tail, after = blanks ++ (value ++ tail) ∧ (∀ b ∈ blanks, isBlank b = true) ∧
      PlainBytes value ∧ Trailing tail := by
  intro blanks value
  let body := after.dropWhile isBlank
  let seg := body.takeWhile fun b => !isComment b
  let rest := body.dropWhile fun b => !isComment b
  have hbody : seg ++ rest = body := List.takeWhile_append_dropWhile
  have hseg : value ++ seg.rtakeWhile isBlank = seg := List.rdropWhile_append_rtakeWhile
  have hplain : ∀ b ∈ seg, isComment b = false := by
    intro b hb
    simpa using List.mem_takeWhile_imp hb
  have hrest : ∀ b ∈ rest.head?, isComment b = true := by
    intro b hb
    have hnot := List.head?_dropWhile_not (fun b => !isComment b) body
    rw [Option.mem_def.mp hb] at hnot
    simpa using hnot
  have hhead : ∀ b ∈ value.head?, isBlank b = false := by
    intro b hb
    obtain ⟨v, hv⟩ := List.head?_eq_some_iff.mp (Option.mem_def.mp hb)
    refine isBlank_of_leading (v := after) ?_
    change body.head? = some b
    rw [← hbody, ← hseg, hv]
    rfl
  refine ⟨seg.rtakeWhile isBlank ++ rest, ?_, fun b hb => List.mem_takeWhile_imp hb, ?_, ?_⟩
  · rw [← List.append_assoc value, hseg, hbody]
    exact List.takeWhile_append_dropWhile.symm
  · refine ⟨fun b hb => hplain b ?_, hhead, fun b hb => ?_⟩
    · rw [← hseg]
      exact List.mem_append_left _ hb
    · obtain ⟨v, hv⟩ := List.getLast?_eq_some_iff.mp (Option.mem_def.mp hb)
      have hne : value ≠ [] := by simp [hv]
      have hlast := List.rdropWhile_last_not isBlank seg hne
      simp only [Bool.not_eq_true] at hlast
      have : value.getLast hne = b := by simp [hv]
      rw [← this]
      exact hlast
  · exact ⟨_, _, rfl, fun b hb => List.mem_rtakeWhile_imp hb, hrest⟩

/-- A line that assigns: where its parts are.  The first byte that is no blank is no header's
and no comment's. -/
structure Shape (content keyPart blanks value tail : Bytes) : Prop where
  content_eq : content = keyPart ++ equals :: (blanks ++ (value ++ tail))
  key_plain : equals ∉ keyPart
  starts : ∃ c, leading keyPart = some c ∧ c ≠ bracketOpen ∧ c ≠ semicolon ∧ c ≠ hash
  blanks_blank : ∀ b ∈ blanks, isBlank b = true
  value_plain : PlainBytes value
  tail_trailing : Trailing tail

/-- Another value in the same place. -/
theorem Shape.replaced {content keyPart blanks value tail : Bytes}
    (h : Shape content keyPart blanks value tail) {value' : Bytes} (hv : PlainBytes value') :
    Shape (keyPart ++ equals :: (blanks ++ (value' ++ tail))) keyPart blanks value' tail :=
  ⟨rfl, h.key_plain, h.starts, h.blanks_blank, hv, h.tail_trailing⟩

/-! ## 3. The classes of lines -/

variable [WideCtype]

/-- What the parser records of an assignment. -/
structure Line.Assigned (line : Line) (activeSection : Wide) (keyPart blanks tail : Bytes) :
    Prop where
  shape : Shape line.bytes keyPart blanks line.value tail
  before : line.bytes.take line.valueStart = keyPart ++ equals :: blanks
  behind : line.bytes.drop line.valueEnd = tail
  named : utf8ToWide (trimAscii keyPart) ≠ []
  sectionName_eq : line.sectionName = activeSection
  key_eq : line.key = normalized (utf8ToWide (trimAscii keyPart))
  assignment_eq : line.assignment = true
  sectionHeader_eq : line.sectionHeader = false

/-- The line of a physical line of which nothing is recorded. -/
def plainLine (physical : Lines.Line) : Line := { bytes := physical.1, ending := physical.2 }

theorem classifyHeader_ok {line line' : Line} {rest : Bytes}
    (h : classifyHeader line rest = .ok line') :
    line'.raw = line.raw ∧ line'.sectionHeader = true ∧ line'.assignment = line.assignment := by
  unfold classifyHeader at h
  split at h
  · cases h
  · split at h
    · cases h
    · simp only at h
      split at h
      · cases h
      · cases h
        exact ⟨rfl, rfl, rfl⟩

theorem classifyAssignment_shape {physical : Lines.Line} {keyPart blanks value tail : Bytes}
    (h : Shape physical.1 keyPart blanks value tail)
    (hnamed : utf8ToWide (trimAscii keyPart) ≠ []) (activeSection : Wide) :
    let line := classifyAssignment activeSection (plainLine physical)
    line.raw = physical ∧ line.value = value ∧
      ∃ blanks' tail', line.Assigned activeSection keyPart blanks' tail' := by
  intro line
  have hcut : cut equals physical.1 = some (keyPart, blanks ++ (value ++ tail)) := by
    rw [h.content_eq]
    exact cut_append h.key_plain _
  obtain ⟨tail', hafter, hblanks, hplain, htail⟩ := scan_shape (blanks ++ (value ++ tail))
  have hscan := scan_value h.blanks_blank h.value_plain h.tail_trailing
  simp only [hscan] at hafter hplain
  let blanks' := (blanks ++ (value ++ tail)).takeWhile isBlank
  have hline : line = { plainLine physical with sectionName := activeSection, key := normalized (utf8ToWide (trimAscii keyPart)), valueStart := keyPart.length + 1 + blanks'.length, valueEnd := keyPart.length + 1 + blanks'.length + value.length, assignment := true } := by
    change classifyAssignment activeSection (plainLine physical) = _
    simp only [classifyAssignment, plainLine, hcut, if_neg hnamed, hscan]
    rfl
  have hcontent : physical.1 = (keyPart ++ equals :: blanks') ++ (value ++ tail') := by
    rw [h.content_eq, hafter]
    simp [blanks']
  have hstart : keyPart.length + 1 + blanks'.length = (keyPart ++ equals :: blanks').length := by
    simp
    omega
  have hvalue : line.value = value := by
    rw [hline]
    simp only [Line.value, plainLine]
    rw [hstart, hcontent, List.drop_left, Nat.add_sub_cancel_left, List.take_left]
  refine ⟨by rw [hline]; rfl, hvalue, blanks', tail', ?_, ?_, ?_, hnamed, ?_, ?_, ?_, ?_⟩
  · rw [hvalue]
    refine ⟨?_, h.key_plain, h.starts, hblanks, hplain, htail⟩
    rw [hline]
    simp only [plainLine, hcontent]
    simp
  · rw [hline]
    simp only [plainLine]
    rw [hstart, hcontent, List.take_left]
  · rw [hline]
    simp only [plainLine]
    rw [hstart, hcontent, ← List.drop_drop, List.drop_left, List.drop_left]
  · rw [hline]
  · rw [hline]
  · rw [hline]
  · rw [hline]
    rfl

/-- **A line of the shape is an assignment of its value.** -/
theorem classify_of_shape {p : Lines.Line} {keyPart blanks value tail : Bytes}
    (h : Shape p.1 keyPart blanks value tail)
    (hnamed : utf8ToWide (trimAscii keyPart) ≠ []) (activeSection : Wide) :
    ∃ line, classify activeSection p = .ok line ∧ line.raw = p ∧
      line.value = value ∧ ∃ blanks' tail', line.Assigned activeSection keyPart blanks' tail' := by
  obtain ⟨c, hc, hopen, hsemi, hhash⟩ := h.starts
  have hlead : leading p.1 = some c := by
    rw [h.content_eq]
    exact leading_append hc _
  obtain ⟨rest, hrest⟩ := List.head?_eq_some_iff.mp ((head?_trimAscii p.1).trans hlead)
  have hclass : classify activeSection p =
      .ok (classifyAssignment activeSection (plainLine p)) := by
    simp only [classify, hrest, if_neg hopen, hsemi, hhash, or_self, if_false]
    rfl
  exact ⟨_, hclass, classifyAssignment_shape h hnamed activeSection⟩

/-- **What a line can be**: nothing of note, a header or an assignment. -/
theorem classify_cases {activeSection : Wide} {physical : Lines.Line} {line : Line}
    (h : classify activeSection physical = .ok line) :
    line = plainLine physical ∨
      (line.raw = physical ∧ line.sectionHeader = true ∧ line.assignment = false) ∨
      (line.raw = physical ∧
        ∃ keyPart blanks tail, line.Assigned activeSection keyPart blanks tail) := by
  unfold classify at h
  simp only at h
  split at h
  · cases h
    exact .inl rfl
  · rename_i first rest htrim
    split at h
    · obtain ⟨hraw, hheader, hassign⟩ := classifyHeader_ok h
      exact .inr (.inl ⟨hraw, hheader, hassign⟩)
    · rename_i hopen
      split at h
      · cases h
        exact .inl rfl
      · rename_i hcomment
        obtain ⟨hsemi, hhash⟩ := not_or.mp hcomment
        cases hcut : cut equals physical.1 with
        | none =>
          refine .inl ?_
          simp only [classifyAssignment, hcut] at h
          cases h
          rfl
        | some parts =>
          obtain ⟨keyPart, after⟩ := parts
          by_cases hnamed : utf8ToWide (trimAscii keyPart) = []
          · refine .inl ?_
            simp only [classifyAssignment, hcut, if_pos hnamed] at h
            cases h
            rfl
          · obtain ⟨hcontent, hkey⟩ := cut_eq_some hcut
            obtain ⟨tail, hafter, hblanks, hplain, htail⟩ := scan_shape after
            -- the key part has a first byte, and it is the line's
            have hsome : leading keyPart ≠ none := by
              intro hnone
              refine hnamed ?_
              rw [leading_eq_none.mp hnone]
              rfl
            obtain ⟨c, hc⟩ := Option.ne_none_iff_exists'.mp hsome
            have hfirst : c = first := by
              have hlead := leading_append hc (equals :: after)
              rw [← hcontent, ← head?_trimAscii, htrim] at hlead
              exact (Option.some.inj hlead).symm
            subst hfirst
            have hshape : Shape physical.1 keyPart _ _ tail :=
              ⟨by rw [hcontent, ← hafter], hkey, ⟨c, hc, hopen, hsemi, hhash⟩, hblanks, hplain,
                htail⟩
            obtain ⟨hraw, -, blanks', tail', hassigned⟩ :=
              classifyAssignment_shape hshape hnamed activeSection
            cases h
            exact .inr (.inr ⟨hraw, keyPart, blanks', tail', hassigned⟩)

theorem classify_raw {activeSection : Wide} {physical : Lines.Line} {line : Line}
    (h : classify activeSection physical = .ok line) : line.raw = physical := by
  rcases classify_cases h with rfl | ⟨hraw, -⟩ | ⟨hraw, -⟩
  · rfl
  · exact hraw
  · exact hraw

/-- The terminator is not looked at. -/
theorem classify_ending {activeSection : Wide} {content ending : Bytes} {line : Line}
    (h : classify activeSection (content, ending) = .ok line) (ending' : Bytes) :
    classify activeSection (content, ending') = .ok { line with ending := ending' } := by
  unfold classify at h ⊢
  simp only at h ⊢
  split at h
  · cases h
    rfl
  · split at h
    · rename_i first rest _ hopen
      simp only [if_pos hopen]
      unfold classifyHeader at h ⊢
      split at h
      · cases h
      · split at h
        · cases h
        · rename_i hafter
          simp only [if_neg hafter]
          simp only at h
          split at h
          · cases h
          · rename_i hvalid
            rw [if_neg hvalid]
            cases h
            rfl
    · rename_i hopen
      simp only [if_neg hopen]
      split at h
      · rename_i hcomment
        rw [if_pos hcomment]
        cases h
        rfl
      · rename_i hcomment
        rw [if_neg hcomment]
        cases h
        unfold classifyAssignment
        simp only
        split
        · rfl
        · split
          · rfl
          · rfl

/-! ## 4. Runs of lines -/

/-- Lines as the parser leaves them when it starts in a section. -/
def Parsed (activeSection : Wide) : List Line → Prop
  | [] => True
  | line :: rest =>
    classify activeSection line.raw = .ok line ∧ Parsed (line.activeAfter activeSection) rest

theorem parseLines_eq_ok {activeSection : Wide} {physical : List Lines.Line} {lines : List Line} :
    parseLines activeSection physical = .ok lines ↔
      physical = lines.map Line.raw ∧ Parsed activeSection lines := by
  induction physical generalizing activeSection lines with
  | nil =>
    constructor
    · intro h
      cases h
      exact ⟨rfl, trivial⟩
    · rintro ⟨h, -⟩
      rw [List.map_eq_nil_iff.mp h.symm]
      rfl
  | cons p ps ih =>
    constructor
    · intro h
      simp only [parseLines] at h
      cases hline : classify activeSection p with
      | error e =>
        rw [hline] at h
        cases h
      | ok line =>
        rw [hline] at h
        cases hrest : parseLines (line.activeAfter activeSection) ps with
        | error e =>
          simp only [bind, Except.bind, hrest] at h
          cases h
        | ok rest =>
          simp only [bind, Except.bind, hrest, pure, Except.pure, Except.ok.injEq] at h
          subst h
          obtain ⟨rfl, hparsed⟩ := ih.mp hrest
          have hraw := classify_raw hline
          refine ⟨by rw [List.map_cons, hraw], ?_, hparsed⟩
          rw [hraw]
          exact hline
    · rintro ⟨hmap, hparsed⟩
      cases lines with
      | nil => cases hmap
      | cons line rest =>
        obtain ⟨hline, hrest⟩ := hparsed
        simp only [List.map_cons, List.cons.injEq] at hmap
        obtain ⟨rfl, rfl⟩ := hmap
        have htail := ih.mpr ⟨rfl, hrest⟩
        simp only [parseLines, bind, Except.bind, hline, htail]
        rfl

theorem parsed_append {activeSection : Wide} {xs ys : List Line} :
    Parsed activeSection (xs ++ ys) ↔
      Parsed activeSection xs ∧ Parsed (xs.foldl Line.activeAfter activeSection) ys := by
  induction xs generalizing activeSection with
  | nil => simp [Parsed]
  | cons x xs ih => simp only [List.cons_append, Parsed, ih, List.foldl_cons, and_assoc]

/-- Lines without a header leave the section as it is. -/
theorem foldl_activeAfter {activeSection : Wide} {lines : List Line}
    (h : ∀ line ∈ lines, line.sectionHeader = false) :
    lines.foldl Line.activeAfter activeSection = activeSection := by
  induction lines with
  | nil => rfl
  | cons line rest ih =>
    have hline : line.activeAfter activeSection = activeSection := by
      unfold Line.activeAfter
      rw [h line List.mem_cons_self]
      rfl
    rw [List.foldl_cons, hline, ih fun l hl => h l (List.mem_cons_of_mem line hl)]

/-- A line of a document classifies in some section. -/
theorem Parsed.classified {activeSection : Wide} {lines : List Line}
    (h : Parsed activeSection lines) {line : Line} (hl : line ∈ lines) :
    ∃ section_, classify section_ line.raw = .ok line := by
  induction lines generalizing activeSection with
  | nil => cases hl
  | cons x rest ih =>
    rcases List.mem_cons.mp hl with rfl | hl
    · exact ⟨activeSection, h.1⟩
    · exact ih h.2 hl

/-! ## 5. Accepted documents -/

theorem ascii_lf : Lines.lf.toNat < 0x80 := by decide
theorem ascii_cr : Lines.cr.toNat < 0x80 := by decide
theorem ascii_equals : equals.toNat < 0x80 := by decide

/-- A line of an accepted file. -/
structure Clean (content : Bytes) : Prop where
  valid : ValidUtf8 content
  no_nul : (0 : UInt8) ∉ content

theorem validUtf8_join {ps : List Lines.Line} (h : Lines.Physical ps) :
    ValidUtf8 (Lines.join ps) ↔ ∀ p ∈ ps, ValidUtf8 p.1 := by
  induction ps with
  | nil => simp [validUtf8_nil]
  | cons p ps ih =>
    obtain ⟨content, ending⟩ := p
    have htail := ih h.tail
    have hclosed : Lines.Closed (content, ending) →
        (ValidUtf8 (Lines.join ((content, ending) :: ps)) ↔
          ValidUtf8 content ∧ ValidUtf8 (Lines.join ps)) := by
      rintro ⟨-, ⟨hend, -⟩ | hend⟩
      · simp only at hend
        subst hend
        rw [Lines.join_cons, List.append_assoc]
        exact validUtf8_append_cons ascii_lf
      · simp only at hend
        subst hend
        have hsplit := validUtf8_append_cons (a := []) (b := Lines.join ps) ascii_lf
        rw [Lines.join_cons, List.append_assoc]
        refine (validUtf8_append_cons ascii_cr).trans (and_congr_right fun _ => ?_)
        exact hsplit.trans (and_iff_right validUtf8_nil)
    have hall : (∀ p ∈ (content, ending) :: ps, ValidUtf8 p.1) ↔
        ValidUtf8 content ∧ ∀ p ∈ ps, ValidUtf8 p.1 := List.forall_mem_cons
    rw [hall, ← htail]
    cases ps with
    | nil =>
      rcases h with hc | ⟨-, -, hend⟩
      · exact hclosed hc
      · simp only at hend
        subst hend
        simp [validUtf8_nil]
    | cons q qs => exact hclosed h.1

theorem nul_mem_join {ps : List Lines.Line} (h : Lines.Physical ps) :
    (0 : UInt8) ∈ Lines.join ps ↔ ∃ p ∈ ps, (0 : UInt8) ∈ p.1 := by
  have hending : ∀ p ∈ ps, (0 : UInt8) ∉ p.2 := by
    intro p hp h0
    rcases h.ending p hp with hend | hend | hend <;> rw [hend] at h0 <;> revert h0 <;> decide
  constructor
  · intro h0
    obtain ⟨p, hp, hmem⟩ := List.mem_flatMap.mp h0
    rcases List.mem_append.mp hmem with hmem | hmem
    · exact ⟨p, hp, hmem⟩
    · exact absurd hmem (hending p hp)
  · rintro ⟨p, hp, hmem⟩
    exact List.mem_flatMap.mpr ⟨p, hp, List.mem_append_left _ hmem⟩

/-- Bytes that are not ASCII do not reach into a text that starts with ASCII. -/
theorem prefix_append_ascii {l s t : Bytes} (hl : ∀ b ∈ l, 0x80 ≤ b.toNat)
    (ht : ∀ b ∈ t.head?, b.toNat < 0x80) : l <+: s ++ t ↔ l <+: s := by
  constructor
  · intro h
    rcases List.prefix_or_prefix_of_prefix h (List.prefix_append s t) with hls | ⟨u, rfl⟩
    · exact hls
    · obtain ⟨w, hw⟩ := h
      rw [List.append_assoc] at hw
      have huw := List.append_cancel_left hw
      cases u with
      | nil => simp
      | cons x u =>
        rw [← huw] at ht
        have hx := ht x rfl
        have hx' := hl x (by simp)
        omega
  · rintro ⟨u, rfl⟩
    exact ⟨u ++ t, by simp⟩

theorem bom_not_ascii : ∀ b ∈ bom, 0x80 ≤ b.toNat := by
  intro b hb
  simp only [bom, List.mem_cons, List.not_mem_nil, or_false] at hb
  rcases hb with rfl | rfl | rfl <;> decide

theorem bom_prefix_join {ps : List Lines.Line} (h : Lines.Physical ps) :
    bom <+: Lines.join ps ↔ ∃ p ∈ ps.head?, bom <+: p.1 := by
  cases ps with
  | nil => simp [bom]
  | cons p ps =>
    have hhead : ∀ b ∈ (p.2 ++ Lines.join ps).head?, b.toNat < 0x80 := by
      intro b hb
      rcases h.ending p List.mem_cons_self with hend | hend | hend
      · have hps : ps = [] := h.tail_eq_nil hend
        subst hps
        simp [hend] at hb
      · simp only [hend, List.cons_append, List.head?_cons, Option.mem_some_iff] at hb
        subst hb
        exact ascii_lf
      · simp only [hend, List.cons_append, List.head?_cons, Option.mem_some_iff] at hb
        subst hb
        exact ascii_cr
    rw [Lines.join_cons, List.append_assoc, prefix_append_ascii bom_not_ascii hhead]
    simp

/-- The texts that `parse` accepts, as physical lines. -/
structure Accepted (encoding : TextEncoding) (ps : List Lines.Line) : Prop where
  physical : Lines.Physical ps
  clean : ∀ p ∈ ps, Clean p.1
  unmarked : encoding = .utf8 → ∀ p ∈ ps.head?, ¬ bom <+: p.1

theorem utf16Encode_ne_nil {cs : List Char} (h : cs ≠ []) : utf16Encode cs ≠ [] := by
  obtain ⟨c, cs, rfl⟩ := List.exists_cons_of_ne_nil h
  rw [utf16Encode_cons]
  unfold utf16EncodeChar
  split <;> simp

/-- The test for valid UTF-8: the conversion of a text is empty when it fails. -/
theorem utf8ToWide_ne_nil {text : Bytes} (h : text ≠ []) :
    utf8ToWide text ≠ [] ↔ ValidUtf8 text := by
  rw [← isSome_utf8Decode]
  unfold utf8ToWide
  cases hd : utf8Decode text with
  | none => simp
  | some cs =>
    have hcs : cs ≠ [] := by
      rintro rfl
      exact h (utf8Encode_of_decode hd).symm
    simpa using utf16Encode_ne_nil hcs

theorem accepted_text_iff {ps : List Lines.Line} (h : Lines.Physical ps) :
    (∀ p ∈ ps, Clean p.1) ↔
      (0 : UInt8) ∉ Lines.join ps ∧ ¬ (Lines.join ps ≠ [] ∧ utf8ToWide (Lines.join ps) = []) := by
  have hvalid : ¬ (Lines.join ps ≠ [] ∧ utf8ToWide (Lines.join ps) = []) ↔
      ValidUtf8 (Lines.join ps) := by
    by_cases hnil : Lines.join ps = []
    · simp [hnil, validUtf8_nil]
    · rw [← utf8ToWide_ne_nil hnil]
      simp [hnil]
  rw [hvalid, validUtf8_join h, nul_mem_join h]
  constructor
  · intro hclean
    refine ⟨?_, fun p hp => (hclean p hp).valid⟩
    rintro ⟨p, hp, h0⟩
    exact (hclean p hp).no_nul h0
  · rintro ⟨hnul, hval⟩ p hp
    exact ⟨hval p hp, fun h0 => hnul ⟨p, hp, h0⟩⟩

/-- **The mark is put back** by the encoding. -/
theorem stripBom_eq_iff {bytes text : Bytes} {encoding : TextEncoding} :
    stripBom bytes = (encoding, text) ↔
      bytes = encoding.marker ++ text ∧ (encoding = .utf8 → ¬ bom <+: text) := by
  unfold stripBom
  cases encoding with
  | utf8 =>
    simp only [TextEncoding.marker, List.nil_append, forall_const]
    split
    · rename_i hb
      constructor
      · intro h
        cases h
      · rintro ⟨rfl, hnot⟩
        exact absurd hb hnot
    · rename_i hb
      constructor
      · intro h
        cases h
        exact ⟨rfl, hb⟩
      · rintro ⟨rfl, -⟩
        rfl
  | utf8Bom =>
    simp only [TextEncoding.marker, reduceCtorEq, false_implies, and_true]
    constructor
    · intro h
      split at h
      · rename_i hb
        obtain ⟨rest, rfl⟩ := hb
        cases h
        rfl
      · cases h
    · rintro rfl
      rw [if_pos (List.prefix_append bom text)]
      rfl

namespace IniDocument

/-- The physical lines of a document. -/
def physical (d : IniDocument) : List Lines.Line := d.lines.map Line.raw

/-- **What `parse` accepts, and what it answers.**  The document is the file, line by line. -/
theorem parse_eq_ok_iff {bytes : Bytes} {d : IniDocument} :
    parse bytes = .ok d ↔
      bytes = d.serialize ∧ Accepted d.encoding d.physical ∧ Parsed [] d.lines ∧
        d.lineEnding = lineEndingOf (Lines.join d.physical) := by
  have hmarker : ∀ encoding : TextEncoding, (0 : UInt8) ∉ encoding.marker := by
    intro encoding
    cases encoding <;> simp [TextEncoding.marker, bom]
  constructor
  · intro h
    unfold parse at h
    split at h
    · cases h
    · rename_i hnul
      cases hstrip : stripBom bytes with
      | mk encoding text =>
        rw [hstrip] at h
        simp only at h
        split at h
        · cases h
        · rename_i hvalid
          cases hlines : parseLines [] (Lines.split text) with
          | error e =>
            rw [hlines] at h
            cases h
          | ok lines =>
            rw [hlines] at h
            cases h
            obtain ⟨hbytes, hbom⟩ := stripBom_eq_iff.mp hstrip
            obtain ⟨hsplit, hparsed⟩ := parseLines_eq_ok.mp hlines
            have hphys := Lines.physical_split text
            have hjoin := Lines.join_split text
            rw [hsplit] at hphys hjoin
            have hmem : (0 : UInt8) ∉ text := by
              intro h0
              refine hnul ?_
              rw [hbytes]
              exact List.mem_append_right _ h0
            refine ⟨?_, ⟨hphys, ?_, ?_⟩, hparsed, ?_⟩
            · rw [hbytes, ← hjoin]
              rfl
            · simp only [physical]
              rw [accepted_text_iff hphys, hjoin]
              exact ⟨hmem, hvalid⟩
            · intro henc p hp hpbom
              refine hbom henc ?_
              rw [← hjoin]
              exact (bom_prefix_join hphys).mpr ⟨p, hp, hpbom⟩
            · simp only [physical, hjoin]
  · rintro ⟨hbytes, hacc, hparsed, hle⟩
    obtain ⟨hnul, hvalid⟩ := (accepted_text_iff hacc.physical).mp hacc.clean
    have hstrip : stripBom bytes = (d.encoding, Lines.join d.physical) := by
      refine stripBom_eq_iff.mpr ⟨hbytes, fun henc hbom => ?_⟩
      obtain ⟨p, hp, hpbom⟩ := (bom_prefix_join hacc.physical).mp hbom
      exact hacc.unmarked henc p hp hpbom
    have hnul' : (0 : UInt8) ∉ bytes := by
      rw [hbytes]
      intro h0
      rcases List.mem_append.mp h0 with h0 | h0
      · exact hmarker d.encoding h0
      · exact hnul h0
    have hlines : parseLines [] d.physical = .ok d.lines := parseLines_eq_ok.mpr ⟨rfl, hparsed⟩
    unfold parse
    rw [if_neg hnul', hstrip]
    simp only [if_neg hvalid, Lines.split_join hacc.physical, hlines, ← hle]
    rfl

end IniDocument

end Kf2Optimizer.Config
