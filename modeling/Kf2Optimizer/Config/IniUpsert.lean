/-
# An upsert is exact and local

What `upsert` does to the lines of a document is one of three things (`upsert_cases`): it puts
the value into the last assignment of the key, it puts a line in at the end of the section, or
it puts a header and a line in at the end of the file.  In each case the new text is accepted
again, the parser finds the value in it, and every other line is classified as before, since
the active section in front of it has not changed.

Two things can go wrong, and both are excluded by name.  A key or a section may have no line of
its own that the parser reads back (`WritableKey`, `WritableSection`).  And in an LF file whose
last line has no terminator and ends in a carriage return, the line feed that is put behind it
makes a CRLF of the two (`danglingCr`).
-/
import Kf2Optimizer.Config.IniWritten

set_option linter.unusedSectionVars false

namespace Kf2Optimizer.Config

open Unicode Text

variable [WideCtype]

/-! ## 1. What the lookups read -/

/-- The values of a normalized key, in file order. -/
def values (wantedSection wantedKey : Wide) (lines : List Line) : List Wide :=
  (lines.filter (Line.assigns wantedSection wantedKey)).map fun line => utf8ToWide line.value

@[simp] theorem values_append (s k : Wide) (xs ys : List Line) :
    values s k (xs ++ ys) = values s k xs ++ values s k ys := by
  simp [values]

theorem values_cons (s k : Wide) (line : Line) (lines : List Line) :
    values s k (line :: lines) =
      if line.assigns s k then utf8ToWide line.value :: values s k lines else values s k lines := by
  unfold values
  rw [List.filter_cons]
  split <;> rfl

theorem values_eq_nil {s k : Wide} {lines : List Line}
    (h : ∀ line ∈ lines, line.assigns s k = false) : values s k lines = [] := by
  unfold values
  rw [List.map_eq_nil_iff, List.filter_eq_nil_iff]
  intro line hl
  rw [h line hl]
  simp

theorem foldl_last (p : Line → Bool) (found : Option Line) (lines : List Line) :
    lines.foldl (fun found line => if p line then some line else found) found =
      ((lines.filter p).getLast?).or found := by
  induction lines generalizing found with
  | nil => simp
  | cons line lines ih =>
    rw [List.foldl_cons, ih, List.filter_cons]
    split
    · rw [List.getLast?_cons]
      cases (lines.filter p).getLast? <;> rfl
    · rfl

namespace IniDocument

theorem findAll_eq (d : IniDocument) (section_ key : Wide) :
    d.findAll section_ key = values (normalized section_) (normalized key) d.lines := rfl

/-- `find` answers with the last of what `find_all` lists. -/
theorem find_eq (d : IniDocument) (section_ key : Wide) :
    d.find section_ key = (d.findAll section_ key).getLast? := by
  unfold find findAll
  simp only [foldl_last, Option.or_none, List.getLast?_map]

theorem find_eq_none_iff {d : IniDocument} {section_ key : Wide} :
    d.find section_ key = none ↔
      ∀ line ∈ d.lines, line.assigns (normalized section_) (normalized key) = false := by
  rw [find_eq, findAll_eq, List.getLast?_eq_none_iff]
  constructor
  · intro h
    unfold values at h
    rw [List.map_eq_nil_iff, List.filter_eq_nil_iff] at h
    intro line hl
    simpa using h line hl
  · exact values_eq_nil

end IniDocument

/-! ## 2. The indices the edits use -/

theorem lastIndex_eq_none {p : Line → Bool} {lines : List Line} :
    IniDocument.lastIndex p lines = none ↔ ∀ line ∈ lines, p line = false := by
  induction lines with
  | nil => simp [IniDocument.lastIndex]
  | cons line lines ih =>
    simp only [IniDocument.lastIndex, List.forall_mem_cons]
    cases hrest : IniDocument.lastIndex p lines with
    | some i =>
      simp only [reduceCtorEq, false_iff]
      rintro ⟨-, hall⟩
      rw [ih.mpr hall] at hrest
      cases hrest
    | none =>
      rw [hrest] at ih
      have hall := ih.mp rfl
      simp only [ite_eq_right_iff, reduceCtorEq, imp_false, Bool.not_eq_true]
      exact ⟨fun h => ⟨h, hall⟩, fun h => h.1⟩

theorem lastIndex_eq_some {p : Line → Bool} {lines : List Line} {i : ℕ}
    (h : IniDocument.lastIndex p lines = some i) : ∃ pre line post,
      lines = pre ++ line :: post ∧ pre.length = i ∧ p line = true ∧
        ∀ l ∈ post, p l = false := by
  induction lines generalizing i with
  | nil => cases h
  | cons line lines ih =>
    simp only [IniDocument.lastIndex] at h
    cases hrest : IniDocument.lastIndex p lines with
    | some j =>
      rw [hrest] at h
      cases h
      obtain ⟨pre, l, post, rfl, rfl, hl, hpost⟩ := ih hrest
      exact ⟨line :: pre, l, post, rfl, rfl, hl, hpost⟩
    | none =>
      rw [hrest] at h
      simp only at h
      split at h
      · rename_i hline
        cases h
        exact ⟨[], line, lines, rfl, rfl, hline, lastIndex_eq_none.mp hrest⟩
      · cases h

theorem modify_append (pre post : List Line) (line : Line) (f : Line → Line) :
    (pre ++ line :: post).modify pre.length f = pre ++ f line :: post := by
  induction pre with
  | nil => rfl
  | cons x pre ih => simp only [List.cons_append, List.length_cons, List.modify_succ_cons, ih]

/-- The block of a header: the lines up to the next one. -/
theorem blockEnd_append (pre rest : List Line) (header : Line) :
    IniDocument.blockEnd (pre ++ header :: rest) pre.length =
      (pre ++ header :: rest.takeWhile fun line => !line.sectionHeader).length := by
  have hdrop : (pre ++ header :: rest).drop (pre.length + 1) = rest := by
    rw [← List.drop_drop, List.drop_left]
    rfl
  simp only [IniDocument.blockEnd, hdrop, List.length_append, List.length_cons]
  omega

theorem block_split {lines pre rest : List Line} {header : Line}
    (hlines : lines = pre ++ header :: rest) : ∃ block post,
      lines = (pre ++ header :: block) ++ post ∧ (∀ l ∈ block, l.sectionHeader = false) ∧
        IniDocument.blockEnd lines pre.length = (pre ++ header :: block).length := by
  have hrest : rest.takeWhile (fun l => !l.sectionHeader) ++
      rest.dropWhile (fun l => !l.sectionHeader) = rest := List.takeWhile_append_dropWhile
  refine ⟨rest.takeWhile fun l => !l.sectionHeader, rest.dropWhile fun l => !l.sectionHeader,
    ?_, ?_, ?_⟩
  · rw [hlines, List.append_assoc, List.cons_append, hrest]
  · intro l hl
    simpa using List.mem_takeWhile_imp hl
  · rw [hlines]
    exact blockEnd_append pre rest header

theorem insertLine_left (ending : Bytes) (front post : List Line) (added : Line) :
    IniDocument.insertLine ending (front ++ post) front.length added =
      IniDocument.terminated ending front ++ added :: post := by
  unfold IniDocument.insertLine
  rw [List.take_left, List.drop_left]

/-! ## 3. What an upsert does to the lines -/

namespace IniDocument

/-- The value stands in the last assignment, whether it was written or there already. -/
structure Replaced (d d' : IniDocument) (wantedSection wantedKey : Wide) (encodedValue : Bytes)
    (pre : List Line) (line : Line) (post : List Line) : Prop where
  lines_eq : d.lines = pre ++ line :: post
  assigns : line.assigns wantedSection wantedKey = true
  last : ∀ l ∈ post, l.assigns wantedSection wantedKey = false
  edited : (line.value = encodedValue ∧ d' = d) ∨
    d' = { d with lines := pre ++ line.withValue encodedValue :: post }

/-- A line stands at the end of the last block of the section. -/
structure Inserted (d d' : IniDocument) (wantedSection : Wide) (added : Line)
    (pre : List Line) (header : Line) (block post : List Line) : Prop where
  lines_eq : d.lines = (pre ++ header :: block) ++ post
  heads : header.heads wantedSection = true
  block_plain : ∀ l ∈ block, l.sectionHeader = false
  index : lastIndex (Line.heads wantedSection) d.lines = some pre.length
  edited : d' = { d with lines := terminated d.lineEnding.bytes (pre ++ header :: block) ++ added :: post }

theorem replace_cases (d : IniDocument) (section_ key value : Wide) :
    (∃ pre line post, Replaced d (d.replace section_ key value).2 (normalized section_)
        (normalized key) (wideToUtf8 value) pre line post) ∨
      (d.find section_ key = none ∧ (d.replace section_ key value).1 = ⟨true, 0⟩ ∧
        ∃ pre header block post, Inserted d (d.replace section_ key value).2 (normalized section_)
          (addedLine d.lineEnding.bytes (normalized section_) (normalized key) (wideToUtf8 key)
            (wideToUtf8 value)) pre header block post) ∨
      (d.find section_ key = none ∧ lastIndex (Line.heads (normalized section_)) d.lines = none ∧
        d.replace section_ key value = (⟨false, 0⟩, d)) := by
  cases hlast : lastIndex (Line.assigns (normalized section_) (normalized key)) d.lines with
  | some i =>
    left
    obtain ⟨pre, line, post, hlines, rfl, hline, hpost⟩ := lastIndex_eq_some hlast
    refine ⟨pre, line, post, hlines, hline, hpost, ?_⟩
    have hget : d.lines[pre.length]?.map Line.value = some line.value := by simp [hlines]
    simp only [replace, hlast, hget, Option.some.injEq]
    split
    · rename_i hsame
      exact .inl ⟨hsame, rfl⟩
    · right
      simp only [hlines, modify_append]
  | none =>
    right
    have hnone := find_eq_none_iff.mpr (lastIndex_eq_none.mp hlast)
    cases hheads : lastIndex (Line.heads (normalized section_)) d.lines with
    | none =>
      refine .inr ⟨hnone, rfl, ?_⟩
      simp only [replace, hlast, hheads]
    | some i =>
      obtain ⟨pre, header, rest, hlines, rfl, hheader, -⟩ := lastIndex_eq_some hheads
      obtain ⟨block, post, hsplit, hplain, hblock⟩ := block_split hlines
      refine .inl ⟨hnone, ?_, pre, header, _, _, hsplit, hheader, ?_, hheads, ?_⟩
      · simp only [replace, hlast, hheads]
      · exact hplain
      · simp only [replace, hlast, hheads, hblock]
        rw [hsplit, insertLine_left]

/-- **The three edits of an upsert**, and the upsert that does nothing. -/
theorem upsert_cases (d : IniDocument) (section_ key value : Wide) :
    (∃ pre line post, Replaced d (d.upsert section_ key value).2 (normalized section_)
        (normalized key) (wideToUtf8 value) pre line post) ∨
      (d.find section_ key = none ∧
        ∃ pre header block post, Inserted d (d.upsert section_ key value).2 (normalized section_)
          (addedLine d.lineEnding.bytes (normalized section_) (normalized key) (wideToUtf8 key)
            (wideToUtf8 value)) pre header block post) ∨
      (d.find section_ key = none ∧ lastIndex (Line.heads (normalized section_)) d.lines = none ∧
        (d.upsert section_ key value).2 = { d with lines := terminated d.lineEnding.bytes d.lines ++ [{ bytes := headerBytes section_, ending := d.lineEnding.bytes, sectionName := normalized section_, sectionHeader := true }, addedLine d.lineEnding.bytes (normalized section_) (normalized key) (wideToUtf8 key) (wideToUtf8 value)] }) ∨
      (d.find section_ key = none ∧ (d.upsert section_ key value).1.changed = false) := by
  have hfound : ∀ pre line post d', Replaced d d' (normalized section_) (normalized key)
      (wideToUtf8 value) pre line post → (d.find section_ key).isSome = true := by
    intro pre line post d' h
    rw [Option.isSome_iff_ne_none]
    intro hnone
    have hline := find_eq_none_iff.mp hnone line (by rw [h.lines_eq]; simp)
    rw [h.assigns] at hline
    cases hline
  rcases replace_cases d section_ key value with ⟨pre, line, post, h⟩ | ⟨hnone, hres, hins⟩ |
    ⟨hnone, hheads, hres⟩
  · refine .inl ⟨pre, line, post, ?_⟩
    have hsome := hfound pre line post _ h
    simp only [upsert, hsome, true_or, if_true]
    exact h
  · refine .inr (.inl ⟨hnone, ?_⟩)
    simp only [upsert, hres, true_or, or_true, if_true]
    exact hins
  · right
    right
    simp only [upsert, hnone, hres, Option.isSome_none, Bool.false_eq_true, ne_eq, not_true,
      or_self, if_false, true_and]
    split
    · exact .inr rfl
    · exact .inl ⟨hheads, rfl⟩

end IniDocument

/-! ## 4. The terminator put behind the last line -/

section Terminated

open IniDocument

theorem terminated_cons_cons (ending : Bytes) (line l : Line) (lines : List Line) :
    terminated ending (line :: l :: lines) = line :: terminated ending (l :: lines) := rfl

theorem map_raw_terminated (ending : Bytes) (lines : List Line) :
    (terminated ending lines).map Line.raw = Lines.close ending (lines.map Line.raw) := by
  induction lines with
  | nil => rfl
  | cons line lines ih =>
    cases lines with
    | nil =>
      by_cases h : line.ending = [] <;> simp [terminated, Lines.close, Line.raw, h]
    | cons l lines =>
      rw [terminated_cons_cons, List.map_cons, ih]
      rfl

theorem values_terminated (s k : Wide) (ending : Bytes) (lines : List Line) :
    values s k (terminated ending lines) = values s k lines := by
  induction lines with
  | nil => rfl
  | cons line lines ih =>
    cases lines with
    | nil =>
      rw [terminated]
      split
      · rw [values_cons, values_cons]
        rfl
      · rfl
    | cons l lines =>
      rw [terminated_cons_cons, values_cons, ih, values_cons s k line]

theorem parsed_terminated {activeSection : Wide} {lines : List Line}
    (h : Parsed activeSection lines) (ending : Bytes) :
    Parsed activeSection (terminated ending lines) ∧
      (terminated ending lines).foldl Line.activeAfter activeSection =
        lines.foldl Line.activeAfter activeSection := by
  induction lines generalizing activeSection with
  | nil => exact ⟨trivial, rfl⟩
  | cons line lines ih =>
    cases lines with
    | nil =>
      rw [terminated]
      split
      · exact ⟨⟨classify_ending h.1 ending, trivial⟩, rfl⟩
      · exact ⟨h, rfl⟩
    | cons l lines =>
      obtain ⟨hparsed, hactive⟩ := ih h.2
      rw [terminated_cons_cons]
      exact ⟨⟨h.1, hparsed⟩, hactive⟩

end Terminated

/-! ## 5. The new text is accepted -/

theorem lineEnding_bytes (e : LineEnding) :
    e.bytes = [Lines.lf] ∨ e.bytes = [Lines.cr, Lines.lf] := by
  cases e with
  | lf => exact .inl rfl
  | crlf => exact .inr rfl

theorem head?_contents (ps : List Lines.Line) :
    (∀ p ∈ ps.head?, ¬ bom <+: p.1) ↔ ∀ c ∈ (ps.map Prod.fst).head?, ¬ bom <+: c := by
  rw [List.head?_map]
  cases ps.head? <;> simp

/-- **Lines put in** behind a line that is terminated. -/
theorem Accepted.add {encoding : TextEncoding} {ps added post : List Lines.Line}
    (h : Accepted encoding (ps ++ post)) (e : LineEnding) (hne : added ≠ [])
    (hcr : e = .lf → post = [] → ∀ l ∈ ps.getLast?, l.2 = [] → l.1.getLast? ≠ some Lines.cr)
    (hadded : ∀ p ∈ added, Lines.Closed p ∧ Clean p.1)
    (hmark : encoding = .utf8 → ps = [] → ∀ p ∈ added.head?, ¬ bom <+: p.1) :
    Accepted encoding (Lines.close e.bytes ps ++ (added ++ post)) := by
  have hclosed : ∀ l ∈ Lines.close e.bytes ps, Lines.Closed l := by
    refine Lines.closed_close (lineEnding_bytes e) h.physical.left fun he l hl hend => ?_
    have hlf : e = .lf := by
      cases e with
      | lf => rfl
      | crlf => cases he
    -- an open line is the last one of the file
    have hpost : post = [] := by
      obtain ⟨qs, rfl⟩ := List.getLast?_eq_some_iff.mp (Option.mem_def.mp hl)
      have hphys := h.physical
      rw [List.append_assoc] at hphys
      exact hphys.right.tail_eq_nil hend
    exact hcr hlf hpost l hl hend
  have hcontents := Lines.close_contents e.bytes ps
  refine ⟨?_, ?_, ?_⟩
  · rw [Lines.physical_append (by simp [hne])]
    refine ⟨hclosed, ?_⟩
    by_cases hpost : post = []
    · subst hpost
      rw [List.append_nil]
      exact Lines.physical_of_closed fun p hp => (hadded p hp).1
    · exact (Lines.physical_append hpost).mpr
        ⟨fun p hp => (hadded p hp).1, h.physical.right⟩
  · intro p hp
    rcases List.mem_append.mp hp with hp | hp
    · have hmem : p.1 ∈ ps.map Prod.fst := by
        rw [← hcontents]
        exact List.mem_map_of_mem hp
      obtain ⟨q, hq, hqp⟩ := List.mem_map.mp hmem
      rw [← hqp]
      exact h.clean q (List.mem_append_left post hq)
    · rcases List.mem_append.mp hp with hp | hp
      · exact (hadded p hp).2
      · exact h.clean p (List.mem_append_right ps hp)
  · intro henc
    have hold := (head?_contents _).mp (h.unmarked henc)
    rw [head?_contents, List.map_append, hcontents]
    cases ps with
    | nil =>
      obtain ⟨a, as, rfl⟩ := List.exists_cons_of_ne_nil hne
      have hfirst := hmark henc rfl
      simpa using hfirst
    | cons q qs => simpa using hold

theorem validUtf8_blanks_append {blanks w : Bytes} (h : ∀ b ∈ blanks, isBlank b = true) :
    ValidUtf8 (blanks ++ w) ↔ ValidUtf8 w := by
  induction blanks with
  | nil => rfl
  | cons b blanks ih =>
    have hb := ascii_of_isBlank (h b List.mem_cons_self)
    have hsplit := validUtf8_append_cons (a := []) (b := blanks ++ w) hb
    refine hsplit.trans ((and_iff_right validUtf8_nil).trans ?_)
    exact ih fun x hx => h x (List.mem_cons_of_mem b hx)

theorem ascii_of_isComment {b : UInt8} (h : isComment b = true) : b.toNat < 0x80 := by
  simp only [isComment, Bool.or_eq_true, beq_iff_eq] at h
  rcases h with rfl | rfl <;> decide

/-- A text before a trailing part can be exchanged. -/
theorem Trailing.valid_exchange {tail old new : Bytes} (ht : Trailing tail)
    (hold : ValidUtf8 (old ++ tail)) (hnew : ValidUtf8 new) : ValidUtf8 (new ++ tail) := by
  cases tail with
  | nil => rwa [List.append_nil]
  | cons b tail =>
    have hb : b.toNat < 0x80 := by
      obtain ⟨blanks, rest, hsplit, hblanks, hrest⟩ := ht
      cases blanks with
      | nil =>
        refine ascii_of_isComment (hrest b ?_)
        rw [List.nil_append] at hsplit
        rw [← hsplit]
        rfl
      | cons x blanks =>
        rw [List.cons_append, List.cons.injEq] at hsplit
        rw [hsplit.1]
        exact ascii_of_isBlank (hblanks x List.mem_cons_self)
    exact (validUtf8_append_cons hb).mpr ⟨hnew, ((validUtf8_append_cons hb).mp hold).2⟩

section ReplacedLine

variable {content keyPart blanks old tail : Bytes} {value : Wide}

/-- The content of an assignment line with a new value. -/
def newContent (keyPart blanks : Bytes) (value : Wide) (tail : Bytes) : Bytes :=
  keyPart ++ equals :: (blanks ++ (wideToUtf8 value ++ tail))

theorem Shape.clean_new (h : Shape content keyPart blanks old tail) (hc : Clean content)
    (hv : PlainValue value) : Clean (newContent keyPart blanks value tail) := by
  have hvalid := hc.valid
  rw [h.content_eq] at hvalid
  obtain ⟨hkey, hrest⟩ := (validUtf8_append_cons ascii_equals).mp hvalid
  rw [validUtf8_blanks_append h.blanks_blank] at hrest
  refine ⟨?_, ?_⟩
  · refine (validUtf8_append_cons ascii_equals).mpr ⟨hkey, ?_⟩
    rw [validUtf8_blanks_append h.blanks_blank]
    exact h.tail_trailing.valid_exchange hrest hv.clean.valid
  · have hnul := hc.no_nul
    rw [h.content_eq] at hnul
    have hnew := hv.clean.no_nul
    simp only [newContent, List.mem_append, List.mem_cons, not_or] at hnul ⊢
    exact ⟨hnul.1, hnul.2.1, hnul.2.2.1, hnew, hnul.2.2.2.2⟩

theorem Shape.lf_notMem_new (h : Shape content keyPart blanks old tail)
    (hlf : Lines.lf ∉ content) (hv : PlainValue value) :
    Lines.lf ∉ newContent keyPart blanks value tail := by
  rw [h.content_eq] at hlf
  have hnew := hv.lf_notMem
  simp only [newContent, List.mem_append, List.mem_cons, not_or] at hlf ⊢
  exact ⟨hlf.1, hlf.2.1, hlf.2.2.1, hnew, hlf.2.2.2.2⟩

/-- The carriage return at the end of a line is never the new value's. -/
theorem Shape.last_new (h : Shape content keyPart blanks old tail)
    (hcr : content.getLast? ≠ some Lines.cr) (hv : PlainValue value) :
    (newContent keyPart blanks value tail).getLast? ≠ some Lines.cr := by
  intro hnew
  obtain ⟨front, hfront⟩ := List.getLast?_eq_some_iff.mp hnew
  cases htail : tail.getLast? with
  | some b =>
    refine hcr ?_
    rw [h.content_eq]
    simp only [newContent, List.getLast?_append, List.getLast?_cons, htail, Option.some_or,
      Option.getD_some] at hnew ⊢
    exact hnew
  | none =>
    rw [List.getLast?_eq_none_iff] at htail
    cases hvalue : (wideToUtf8 value).getLast? with
    | some b =>
      simp only [newContent, htail, List.append_nil, List.getLast?_append, List.getLast?_cons,
        hvalue, Option.some_or, Option.getD_some, Option.some.injEq] at hnew
      refine hv.cr_notMem ?_
      rw [← hnew]
      exact List.mem_of_getLast? hvalue
    | none =>
      simp only [newContent, htail, List.append_nil, List.getLast?_append, List.getLast?_cons,
        hvalue, Option.none_or, Option.some_or, Option.some.injEq] at hnew
      cases hblanks : blanks.getLast? with
      | some b =>
        rw [hblanks, Option.getD_some] at hnew
        have hblank := h.blanks_blank b (List.mem_of_getLast? hblanks)
        rw [hnew] at hblank
        exact absurd hblank (by decide)
      | none =>
        rw [hblanks] at hnew
        exact absurd hnew (by decide)

/-- **The value rewritten in its line**: the new text is accepted. -/
theorem Accepted.replace {encoding : TextEncoding} {ps post : List Lines.Line} {ending : Bytes}
    (h : Accepted encoding (ps ++ (content, ending) :: post))
    (hs : Shape content keyPart blanks old tail) (hv : PlainValue value) :
    Accepted encoding (ps ++ (newContent keyPart blanks value tail, ending) :: post) := by
  refine ⟨h.physical.replace ?_ ?_, ?_, ?_⟩
  · rintro ⟨hlf, hend⟩
    exact ⟨hs.lf_notMem_new hlf hv, hend.imp_left fun h => ⟨h.1, hs.last_new h.2 hv⟩⟩
  · rintro ⟨hlf, -, hend⟩
    exact ⟨hs.lf_notMem_new hlf hv, by simp [newContent], hend⟩
  · intro p hp
    rcases List.mem_append.mp hp with hp | hp
    · exact h.clean p (List.mem_append_left _ hp)
    · rcases List.mem_cons.mp hp with rfl | hp
      · exact hs.clean_new (h.clean (content, ending) (by simp)) hv
      · exact h.clean p (List.mem_append_right _ (List.mem_cons_of_mem _ hp))
  · intro henc p hp
    cases ps with
    | nil =>
      -- the mark would stand in front of the `=`, where nothing has changed
      have hold := h.unmarked henc (content, ending) rfl
      have hascii : ∀ w : Bytes, ∀ b ∈ (equals :: w).head?, b.toNat < 0x80 := by
        rintro w b hb
        rw [List.head?_cons, Option.mem_some_iff] at hb
        rw [← hb]
        exact ascii_equals
      simp only [List.nil_append, List.head?_cons, Option.mem_some_iff] at hp
      rw [← hp]
      rw [hs.content_eq, prefix_append_ascii bom_not_ascii (hascii _)] at hold
      simp only [newContent]
      rw [prefix_append_ascii bom_not_ascii (hascii _)]
      exact hold
    | cons q qs => exact h.unmarked henc p hp

end ReplacedLine

/-! ## 6. The new text is parsed -/

/-- What an upsert may do to the physical lines of a file.  The terminator of the last line
aside, a line that is not the key's own keeps its bytes and its place. -/
inductive LocalEdit (section_ key value : Wide) (ending : Bytes) :
    List Lines.Line → List Lines.Line → Prop
  /-- The value is rewritten inside its line. -/
  | replaced (pre post : List Lines.Line) (front old back e : Bytes) :
      LocalEdit section_ key value ending (pre ++ (front ++ old ++ back, e) :: post)
        (pre ++ (front ++ wideToUtf8 value ++ back, e) :: post)
  /-- A line is put in. -/
  | inserted (pre post : List Lines.Line) :
      LocalEdit section_ key value ending (pre ++ post)
        (Lines.close ending pre ++
          (wideToUtf8 key ++ equals :: wideToUtf8 value, ending) :: post)
  /-- A header and a line are put behind the last line. -/
  | appended (ps : List Lines.Line) :
      LocalEdit section_ key value ending ps
        (Lines.close ending ps ++ [(headerBytes section_, ending),
          (wideToUtf8 key ++ equals :: wideToUtf8 value, ending)])

/-- The document `after` is `before` with the value set, and nothing else. -/
structure SetTo (section_ key value : Wide) (before after : IniDocument) : Prop where
  found : after.find section_ key = some value
  others : ∀ s k, (normalized s, normalized k) ≠ (normalized section_, normalized key) →
    after.findAll s k = before.findAll s k
  kept : LocalEdit section_ key value before.lineEnding.bytes before.physical after.physical

namespace IniDocument

/-- **Reparsing**: lines that classify as they should are what the parser answers with. -/
theorem parse_serialize {d : IniDocument} {lines : List Line}
    (hacc : Accepted d.encoding d.physical) (hraw : lines.map Line.raw = d.physical)
    (hparsed : Parsed [] lines) :
    ∃ d', parse d.serialize = .ok d' ∧ d'.lines = lines := by
  let d' : IniDocument := { encoding := d.encoding, lineEnding := lineEndingOf (Lines.join d.physical), lines := lines }
  have hphys : d'.physical = d.physical := hraw
  refine ⟨d', parse_eq_ok_iff.mpr ⟨?_, ?_, hparsed, ?_⟩, rfl⟩
  · change d.encoding.marker ++ Lines.join d.physical = d.encoding.marker ++ Lines.join d'.physical
    rw [hphys]
  · rw [hphys]
    exact hacc
  · rw [hphys]

theorem physical_of_lines {d d' : IniDocument} {lines : List Line}
    (hraw : lines.map Line.raw = d.physical) (h : d'.lines = lines) : d'.physical = d.physical := by
  rw [← hraw, physical, h]

variable {bytes : Bytes} {d d' : IniDocument} {section_ key value : Wide}

/-- The value rewritten in its line. -/
theorem setTo_of_replaced (hparse : parse bytes = .ok d) (hvalue : PlainValue value)
    {pre post : List Line} {line : Line}
    (h : Replaced d d' (normalized section_) (normalized key) (wideToUtf8 value) pre line post) :
    ∃ d'', parse d'.serialize = .ok d'' ∧ SetTo section_ key value d d'' := by
  obtain ⟨-, hacc, hparsed, -⟩ := parse_eq_ok_iff.mp hparse
  have hlines := h.lines_eq
  rw [hlines] at hparsed
  obtain ⟨hpre, hline, hpost⟩ := parsed_append.mp hparsed
  generalize hactive : pre.foldl Line.activeAfter [] = active at hline hpost
  -- the line is an assignment, so it has a shape, and the new value fits into it
  have hassigns := h.assigns
  simp only [Line.assigns, Bool.and_eq_true, beq_iff_eq] at hassigns
  obtain ⟨⟨hassign, hsection⟩, hkey⟩ := hassigns
  obtain ⟨keyPart, blanks, tail, hl⟩ : ∃ keyPart blanks tail,
      line.Assigned active keyPart blanks tail := by
    rcases classify_cases hline with hplain | ⟨-, -, hnot⟩ | ⟨-, hex⟩
    · rw [hplain] at hassign
      cases hassign
    · rw [hnot] at hassign
      cases hassign
    · exact hex
  have hshape := hl.shape
  obtain ⟨line', hclass, hraw, hval, blanks', tail', hl'⟩ :=
    classify_of_shape (p := (newContent keyPart blanks value tail, line.ending))
      (hshape.replaced hvalue.plainBytes) hl.named active
  have hplain : ∀ l : Line, l.sectionHeader = false → l.activeAfter active = active := by
    intro l hheader
    simp only [Line.activeAfter, hheader, Bool.false_eq_true, if_false]
  rw [hplain line hl.sectionHeader_eq] at hpost
  have hsame : ∀ s k, line'.assigns s k = line.assigns s k := by
    intro s k
    simp only [Line.assigns, hl.assignment_eq, hl'.assignment_eq, hl.sectionName_eq,
      hl'.sectionName_eq, hl.key_eq, hl'.key_eq]
  have hcontent : line.bytes = (keyPart ++ equals :: blanks) ++ line.value ++ tail := by
    rw [hshape.content_eq]
    simp
  have hnew : newContent keyPart blanks value tail =
      (keyPart ++ equals :: blanks) ++ wideToUtf8 value ++ tail := by
    simp [newContent]
  have hphysical : d'.physical =
      pre.map Line.raw ++ (newContent keyPart blanks value tail, line.ending) :: post.map Line.raw := by
    rcases h.edited with ⟨hold, rfl⟩ | rfl
    · rw [physical, hlines, List.map_append, List.map_cons, hnew, ← hold, ← hcontent]
      rfl
    · rw [physical]
      simp only [List.map_append, List.map_cons, Line.raw, Line.withValue, hl.before, hl.behind, hnew]
  have henc : d'.encoding = d.encoding := by
    rcases h.edited with ⟨-, rfl⟩ | rfl <;> rfl
  have hphys : d.physical =
      pre.map Line.raw ++ (line.bytes, line.ending) :: post.map Line.raw := by
    rw [physical, hlines, List.map_append, List.map_cons]
    rfl
  have hacc' : Accepted d'.encoding d'.physical := by
    rw [henc, hphysical]
    rw [hphys] at hacc
    exact hacc.replace hshape hvalue
  have hrawAll : (pre ++ line' :: post).map Line.raw = d'.physical := by
    rw [hphysical, List.map_append, List.map_cons, hraw]
  have hparsed' : Parsed [] (pre ++ line' :: post) := by
    refine parsed_append.mpr ⟨hpre, ?_⟩
    rw [hactive]
    refine ⟨by rw [hraw]; exact hclass, ?_⟩
    rw [hplain line' hl'.sectionHeader_eq]
    exact hpost
  obtain ⟨d'', hparse'', hlines''⟩ := parse_serialize hacc' hrawAll hparsed'
  refine ⟨d'', hparse'', ?_, ?_, ?_⟩
  · rw [find_eq, findAll_eq, hlines'', values_append, values_cons, hsame, if_pos h.assigns,
      values_eq_nil h.last, hval, utf8ToWide_wideToUtf8 hvalue.well_formed, List.getLast?_concat]
  · intro s k hne
    have hnot : line.assigns (normalized s) (normalized k) = false := by
      by_contra hyes
      simp only [Line.assigns, Bool.not_eq_false, Bool.and_eq_true, beq_iff_eq] at hyes
      refine hne ?_
      rw [← hyes.1.2, ← hyes.2, hsection, hkey]
    rw [findAll_eq, findAll_eq, hlines'', hlines, values_append, values_append, values_cons,
      values_cons, hsame, hnot]
    rfl
  · rw [physical_of_lines hrawAll hlines'', hphysical, hphys, hcontent, hnew]
    exact .replaced _ _ _ _ _ _

/-- The line `key=value` under a section, as the parser reads it. -/
theorem classify_added (section_ : Wide) (hkey : WritableKey key) (hvalue : PlainValue value) (ending : Bytes) :
    ∃ line, classify (normalized section_) (wideToUtf8 key ++ equals :: wideToUtf8 value, ending) =
        .ok line ∧
      line.raw = (wideToUtf8 key ++ equals :: wideToUtf8 value, ending) ∧
      utf8ToWide line.value = value ∧ line.sectionHeader = false ∧
      ∀ s k, line.assigns s k = true ↔ s = normalized section_ ∧ k = normalized key := by
  obtain ⟨line, hclass, hraw, hval, blanks, tail, hl⟩ :=
    classify_of_shape (p := (wideToUtf8 key ++ equals :: wideToUtf8 value, ending))
      (hkey.shape hvalue) hkey.named (normalized section_)
  refine ⟨line, hclass, hraw, ?_, hl.sectionHeader_eq, fun s k => ?_⟩
  · rw [hval, utf8ToWide_wideToUtf8 hvalue.well_formed]
  · simp only [Line.assigns, hl.assignment_eq, hl.sectionName_eq, hl.key_eq,
      hkey.normalized_trimAscii, Bool.true_and, Bool.and_eq_true, beq_iff_eq]
    exact and_congr eq_comm eq_comm

/-- A line put in behind `above`, where its section is active.  `opener` is the header that an
upsert puts in front of it, if any. -/
theorem setTo_of_added (hparse : parse bytes = .ok d) (hvalue : PlainValue value)
    (hkey : WritableKey key) (hnone : d.find section_ key = none)
    {above : List Line} (opener below : List Line) (hlines : d.lines = above ++ below)
    (hactive : (above ++ opener).foldl Line.activeAfter [] = normalized section_)
    (hopener : Parsed (above.foldl Line.activeAfter []) opener)
    (hquiet : ∀ l ∈ opener, l.assignment = false)
    (hopenerLines : ∀ p ∈ opener.map Line.raw, Lines.Closed p ∧ Clean p.1)
    (hunmarked : above = [] → ∃ p ∈ (opener.map Line.raw).head?, ¬ bom <+: p.1)
    (hbelow : Parsed (normalized section_) below)
    (hcr : d.lineEnding = .lf → below = [] → ∀ l ∈ above.getLast?, l.ending = [] →
      l.bytes.getLast? ≠ some Lines.cr)
    (hedit : d' = { d with lines := terminated d.lineEnding.bytes above ++ (opener ++ addedLine d.lineEnding.bytes (normalized section_) (normalized key) (wideToUtf8 key) (wideToUtf8 value) :: below) })
    (hkept : LocalEdit section_ key value d.lineEnding.bytes d.physical d'.physical) :
    ∃ d'', parse d'.serialize = .ok d'' ∧ SetTo section_ key value d d'' := by
  obtain ⟨-, hacc, hparsed, -⟩ := parse_eq_ok_iff.mp hparse
  rw [hlines] at hparsed
  obtain ⟨habove, -⟩ := parsed_append.mp hparsed
  obtain ⟨hterminated, hsame⟩ := parsed_terminated habove d.lineEnding.bytes
  obtain ⟨line, hclass, hraw, hval, hheader, hassigns⟩ :=
    classify_added section_ hkey hvalue d.lineEnding.bytes
  let lines := terminated d.lineEnding.bytes above ++ (opener ++ line :: below)
  have hphysical : d'.physical = Lines.close d.lineEnding.bytes (above.map Line.raw) ++
      ((opener.map Line.raw ++
        [(wideToUtf8 key ++ equals :: wideToUtf8 value, d.lineEnding.bytes)]) ++
          below.map Line.raw) := by
    rw [hedit, physical]
    simp [map_raw_terminated, addedLine, Line.raw]
  have hrawAll : lines.map Line.raw = d'.physical := by
    rw [hphysical]
    simp [lines, map_raw_terminated, hraw]
  have hacc' : Accepted d'.encoding d'.physical := by
    have henc : d'.encoding = d.encoding := by rw [hedit]
    rw [henc, hphysical]
    rw [physical, hlines, List.map_append] at hacc
    refine hacc.add d.lineEnding (by simp) ?_ ?_ ?_
    · intro hlf hbelow' l hl
      rw [List.getLast?_map, Option.mem_def, Option.map_eq_some_iff] at hl
      obtain ⟨x, hx, rfl⟩ := hl
      exact hcr hlf (List.map_eq_nil_iff.mp hbelow') x hx
    · intro p hp
      rcases List.mem_append.mp hp with hp | hp
      · exact hopenerLines p hp
      · rw [List.mem_singleton.mp hp]
        exact ⟨hkey.closed hvalue _, hkey.clean hvalue⟩
    · intro _ hnil p hp
      obtain ⟨q, hq, hmark⟩ := hunmarked (List.map_eq_nil_iff.mp hnil)
      rw [List.head?_append, hq] at hp
      rw [← Option.mem_some_iff.mp hp]
      exact hmark
  have hparsed' : Parsed [] lines := by
    refine parsed_append.mpr ⟨hterminated, ?_⟩
    rw [hsame]
    refine parsed_append.mpr ⟨hopener, ?_⟩
    rw [← List.foldl_append, hactive]
    refine ⟨by rw [hraw]; exact hclass, ?_⟩
    simpa only [Line.activeAfter, hheader, Bool.false_eq_true, if_false] using hbelow
  obtain ⟨d'', hparse'', hlines''⟩ := parse_serialize hacc' hrawAll hparsed'
  have hopenerValues : ∀ s k, values s k opener = [] := fun s k =>
    values_eq_nil fun l hl => by simp [Line.assigns, hquiet l hl]
  have hsplit : ∀ s k, values s k lines =
      values s k above ++ (values s k [line] ++ values s k below) := by
    intro s k
    simp only [lines, values_append, values_terminated, hopenerValues, List.nil_append]
    rw [← List.singleton_append, values_append]
  refine ⟨d'', hparse'', ?_, ?_, ?_⟩
  · have hfree := find_eq_none_iff.mp hnone
    rw [hlines] at hfree
    have hyes := (hassigns _ _).mpr ⟨rfl, rfl⟩
    rw [find_eq, findAll_eq, hlines'', hsplit,
      values_eq_nil fun l hl => hfree l (List.mem_append_left _ hl),
      values_eq_nil fun l hl => hfree l (List.mem_append_right _ hl), values_cons, if_pos hyes, hval]
    rfl
  · intro s k hne
    have hnot : ¬ line.assigns (normalized s) (normalized k) = true := by
      rw [hassigns]
      rintro ⟨hs, hk⟩
      exact hne (by rw [hs, hk])
    rw [findAll_eq, findAll_eq, hlines'', hsplit, hlines, values_append, values_cons, if_neg hnot]
    rfl
  · rw [physical_of_lines hrawAll hlines'']
    exact hkept

/-- In an LF file, the last line has no terminator and ends in a carriage return. -/
def danglingCr (d : IniDocument) : Bool :=
  d.lineEnding == .lf && d.lines.getLast?.any fun l => l.ending == [] && l.bytes.getLast? == some Lines.cr

/-- A line added to the section goes behind the last line of the file. -/
def addsAtEnd (d : IniDocument) (section_ : Wide) : Bool :=
  match lastIndex (Line.heads (normalized section_)) d.lines with
  | none => true
  | some header => blockEnd d.lines header == d.lines.length

theorem last_of_not_danglingCr (h : d.danglingCr = false) (hlf : d.lineEnding = .lf) :
    ∀ l ∈ d.lines.getLast?, l.ending = [] → l.bytes.getLast? ≠ some Lines.cr := by
  intro l hl hend hcr
  rw [Option.mem_def] at hl
  simp [danglingCr, hlf, hl, hend, hcr] at h

theorem setTo_of_inserted (hparse : parse bytes = .ok d) (hvalue : PlainValue value)
    (hkey : WritableKey key) (hnone : d.find section_ key = none)
    (hcr : ¬ (d.danglingCr = true ∧ d.addsAtEnd section_ = true))
    {pre block post : List Line} {header : Line}
    (h : Inserted d d' (normalized section_) (addedLine d.lineEnding.bytes (normalized section_)
      (normalized key) (wideToUtf8 key) (wideToUtf8 value)) pre header block post) :
    ∃ d'', parse d'.serialize = .ok d'' ∧ SetTo section_ key value d d'' := by
  obtain ⟨-, -, hparsed, -⟩ := parse_eq_ok_iff.mp hparse
  have hheader := h.heads
  simp only [Line.heads, Bool.and_eq_true, beq_iff_eq] at hheader
  have hactive : (pre ++ header :: block).foldl Line.activeAfter [] = normalized section_ := by
    rw [List.foldl_append, List.foldl_cons, foldl_activeAfter h.block_plain]
    simp only [Line.activeAfter, hheader.1, if_true, hheader.2]
  rw [h.lines_eq] at hparsed
  obtain ⟨-, hpost⟩ := parsed_append.mp hparsed
  rw [hactive] at hpost
  refine setTo_of_added hparse hvalue hkey hnone [] post h.lines_eq ?_ trivial (by simp)
    (by simp) ?_ hpost ?_ h.edited ?_
  · rw [List.append_nil]
    exact hactive
  · intro hnil
    simp at hnil
  · rintro hlf rfl
    have hend : d.addsAtEnd section_ = true := by
      simp only [addsAtEnd, h.index, beq_iff_eq]
      have hlen : d.lines = pre ++ header :: block := by rw [h.lines_eq, List.append_nil]
      have hblock : block.takeWhile (fun l => !l.sectionHeader) = block := by
        rw [List.takeWhile_eq_self_iff]
        intro l hl
        simpa using h.block_plain l hl
      rw [hlen, blockEnd_append, hblock]
    have hnot : d.danglingCr = false := by
      by_contra hyes
      exact hcr ⟨by simpa using hyes, hend⟩
    have hlast := last_of_not_danglingCr hnot hlf
    rw [h.lines_eq, List.append_nil] at hlast
    exact hlast
  · rw [h.edited, physical, h.lines_eq, physical]
    simp only [List.map_append, map_raw_terminated]
    exact .inserted _ _

theorem setTo_of_appended (hparse : parse bytes = .ok d) (hvalue : PlainValue value)
    (hkey : WritableKey key) (hsection : WritableSection section_)
    (hnone : d.find section_ key = none)
    (hheads : lastIndex (Line.heads (normalized section_)) d.lines = none)
    (hcr : ¬ (d.danglingCr = true ∧ d.addsAtEnd section_ = true))
    (hedit : d' = { d with lines := terminated d.lineEnding.bytes d.lines ++ [{ bytes := headerBytes section_, ending := d.lineEnding.bytes, sectionName := normalized section_, sectionHeader := true }, addedLine d.lineEnding.bytes (normalized section_) (normalized key) (wideToUtf8 key) (wideToUtf8 value)] }) :
    ∃ d'', parse d'.serialize = .ok d'' ∧ SetTo section_ key value d d'' := by
  let opener : Line := { bytes := headerBytes section_, ending := d.lineEnding.bytes, sectionName := normalized section_, sectionHeader := true }
  have hend : d.addsAtEnd section_ = true := by simp only [addsAtEnd, hheads]
  have hnot : d.danglingCr = false := by
    by_contra hyes
    exact hcr ⟨by simpa using hyes, hend⟩
  refine setTo_of_added hparse hvalue hkey hnone [opener] []
    (List.append_nil _).symm ?_ ⟨hsection.classify_header _ _, trivial⟩ ?_ ?_ ?_ trivial ?_ hedit ?_
  · rw [List.foldl_append]
    rfl
  · intro l hl
    rw [List.mem_singleton.mp hl]
  · intro p hp
    rw [List.mem_singleton.mp hp]
    exact ⟨hsection.closed _, hsection.clean⟩
  · rintro -
    refine ⟨(headerBytes section_, d.lineEnding.bytes), rfl, ?_⟩
    rintro ⟨rest, hrest⟩
    exact absurd (List.cons.inj hrest).1 (by decide)
  · rintro hlf -
    exact last_of_not_danglingCr hnot hlf
  · rw [hedit, physical, physical]
    simp only [List.map_append, map_raw_terminated]
    exact .appended _

/-! ## 7. The law -/

/-- **An upsert that succeeds sets its pair and nothing else.**  The file is accepted again, the
value is found in it, every other pair has the values it had, and every other line is kept. -/
theorem upsert_exact_local (hparse : parse bytes = .ok d) (hvalue : PlainValue value)
    (hkey : d.find section_ key = none → WritableKey key)
    (hsection : d.find section_ key = none →
      d.lines.any (Line.heads (normalized section_)) = false → WritableSection section_)
    (hcr : d.find section_ key = none → ¬ (d.danglingCr = true ∧ d.addsAtEnd section_ = true))
    (hdone : (d.upsert section_ key value).1.changed = true ∨ d.find section_ key = some value) :
    ∃ after, parse (d.upsert section_ key value).2.serialize = .ok after ∧
      SetTo section_ key value d after := by
  rcases upsert_cases d section_ key value with ⟨pre, line, post, h⟩ |
    ⟨hnone, pre, header, block, post, h⟩ | ⟨hnone, hheads, hedit⟩ | ⟨hnone, hunchanged⟩
  · exact setTo_of_replaced hparse hvalue h
  · exact setTo_of_inserted hparse hvalue (hkey hnone) hnone (hcr hnone) h
  · have hany : d.lines.any (Line.heads (normalized section_)) = false := by
      rw [List.any_eq_false]
      intro l hl
      rw [lastIndex_eq_none.mp hheads l hl]
      simp
    exact setTo_of_appended hparse hvalue (hkey hnone) (hsection hnone hany) hnone hheads
      (hcr hnone) hedit
  · rw [hunchanged, hnone] at hdone
    rcases hdone with hdone | hdone <;> cases hdone

end IniDocument

end Kf2Optimizer.Config

/-! ## 8. Two files -/

namespace Kf2Optimizer.Config.IniDocument

/-- The file of `[s]` and `k=v`, without a final line feed. -/
def unterminated : IniDocument where
  lines := [{ bytes := [0x5B, 0x73, 0x5D], ending := [0x0A], sectionName := [0x73], sectionHeader := true }, { bytes := [0x6B, 0x3D, 0x76], ending := [], sectionName := [0x73], key := [0x6B], valueStart := 2, valueEnd := 3, assignment := true }]

/-- `n=w` put into the section, under another spelling of its name. -/
theorem upsert_exact_local_unterminated :
    ∃ after, @parse cLocale (@upsert cLocale unterminated [0x53] [0x6E] [0x77]).2.serialize =
        .ok after ∧
      @SetTo cLocale [0x53] [0x6E] [0x77] unterminated after :=
  @upsert_exact_local cLocale [0x5B, 0x73, 0x5D, 0x0A, 0x6B, 0x3D, 0x76] _ _ _ _
    (by decide +kernel)
    ⟨by decide, by decide +kernel, by decide +kernel, by decide +kernel, by simp, by simp⟩
    (fun _ => ⟨by decide, by decide +kernel, by decide +kernel, by decide +kernel,
      0x6E, by decide +kernel, by decide, by decide, by decide⟩)
    (fun _ h => absurd h (by decide +kernel))
    (fun _ => by decide +kernel)
    (.inl (by decide +kernel))

/-- The upsert of `v` under the key `a=b`, in an empty file. -/
def upsertKeyWithEquals : ReplaceResult × IniDocument :=
  @upsert cLocale {} [0x73] [0x61, 0x3D, 0x62] [0x76]

/-- It reports success, and the file has another key. -/
theorem upsert_key_with_equals :
    @parse cLocale [] = .ok {} ∧ upsertKeyWithEquals.1.changed = true ∧
      (@parse cLocale upsertKeyWithEquals.2.serialize).toOption.map
        (fun after => @find cLocale after [0x73] [0x61, 0x3D, 0x62]) = some none ∧
      (@parse cLocale upsertKeyWithEquals.2.serialize).toOption.map
        (fun after => @findAll cLocale after [0x73] [0x61]) = some [[0x62, 0x3D, 0x76]] ∧
      @findAll cLocale {} [0x73] [0x61] = [] := by
  decide +kernel

end Kf2Optimizer.Config.IniDocument
