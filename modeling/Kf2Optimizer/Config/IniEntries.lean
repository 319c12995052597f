/-
# Entries of a list

Some keys of an INI file stand in it once for every value of a list.  `append_unique` adds an
entry, `remove_exact` takes one away and `remove_section` a whole section.  Entries count as equal
where the lines have section, key and value equal up to case and surrounding blanks
(`Line.holds`).

An entry that is added goes behind the last line of its section, or behind a header of its own at
the end of the file (`Added`), so that taking it back leaves the file as it was, save for that
header and for a terminator of the last line.  None of the three edits chooses between several
headers of one section or between equal entries: where there are several, they do nothing.
-/
import Kf2Optimizer.Config.IniUpsert

set_option linter.unusedSectionVars false

namespace Kf2Optimizer.Config

open Unicode Text

variable [WideCtype]

/-! ## 1. The edits -/

/-- The line is an entry of the value, all three normalized. -/
def Line.holds (wantedSection wantedKey wantedValue : Wide) (line : Line) : Bool :=
  line.assigns wantedSection wantedKey && normalized (utf8ToWide line.value) == wantedValue

namespace IniDocument

/-- The lines that head the section. -/
def headers (d : IniDocument) (section_ : Wide) : ℕ :=
  d.lines.countP (Line.heads (normalized section_))

/-- The lines that are an entry of the value. -/
def entries (d : IniDocument) (section_ key value : Wide) : ℕ :=
  d.lines.countP (Line.holds (normalized section_) (normalized key) (normalized value))

def appendUnique (d : IniDocument) (section_ key value : Wide) : ReplaceResult × IniDocument :=
  let wantedSection := normalized section_
  let wantedKey := normalized key
  let encodedKey := wideToUtf8 key
  let encodedValue := wideToUtf8 value
  if wantedSection = [] ∨ wantedKey = [] ∨ encodedKey = [] ∨ encodedValue = [] ∧ value ≠ [] then
    (⟨false, 0⟩, d)
  else if 1 < d.headers section_ then (⟨false, d.headers section_ - 1⟩, d)
  else
    match d.lines.findIdx? (Line.heads wantedSection) with
    | none => d.upsert section_ key value
    | some header =>
      if d.lines.any (Line.holds wantedSection wantedKey (normalized value)) then (⟨false, 0⟩, d)
      else
        let ending := d.lineEnding.bytes
        let added := addedLine ending wantedSection wantedKey encodedKey encodedValue
        (⟨true, 0⟩, { d with lines := insertLine ending d.lines (blockEnd d.lines header) added })

def removeExact (d : IniDocument) (section_ key value : Wide) : ReplaceResult × IniDocument :=
  let wantedSection := normalized section_
  let wantedKey := normalized key
  if wantedSection = [] ∨ wantedKey = [] then (⟨false, 0⟩, d)
  else
    let sectionCount := d.headers section_
    let matched := d.entries section_ key value
    -- A count of none adds nothing to what is shadowed.
    if 1 < sectionCount ∨ 1 < matched then (⟨false, (sectionCount - 1) + (matched - 1)⟩, d)
    else if sectionCount = 0 ∨ matched = 0 then (⟨false, 0⟩, d)
    else (⟨true, 0⟩, { d with
      lines := d.lines.eraseP (Line.holds wantedSection wantedKey (normalized value)) })

def removeSection (d : IniDocument) (section_ : Wide) : ReplaceResult × IniDocument :=
  if d.headers section_ ≠ 1 then (⟨false, d.headers section_ - 1⟩, d)
  else
    let first := d.lines.findIdx (Line.heads (normalized section_))
    (⟨true, 0⟩, { d with lines := d.lines.take first ++ d.lines.drop (blockEnd d.lines first) })

end IniDocument

/-! ## 2. Lines of a parsed file -/

theorem Line.holds_assigns {s k v : Wide} {line : Line} (h : line.holds s k v = true) :
    line.assignment = true ∧ line.sectionName = s := by
  simp only [holds, assigns, Bool.and_eq_true, beq_iff_eq] at h
  exact ⟨h.1.1.1, h.1.1.2⟩

/-- **An assignment stands behind the header of its section**, or behind none. -/
theorem Parsed.headed {activeSection : Wide} {lines : List Line} (h : Parsed activeSection lines)
    {line : Line} (hl : line ∈ lines) (hassign : line.assignment = true) :
    line.sectionName = activeSection ∨ ∃ header ∈ lines, header.heads line.sectionName = true := by
  induction lines generalizing activeSection with
  | nil => cases hl
  | cons first rest ih =>
    rcases List.mem_cons.mp hl with rfl | hl
    · rcases classify_cases h.1 with hplain | ⟨-, -, hno⟩ | ⟨-, _, _, _, hassigned⟩
      · rw [hplain] at hassign
        cases hassign
      · rw [hno] at hassign
        cases hassign
      · exact .inl hassigned.sectionName_eq
    · rcases ih h.2 hl with heq | ⟨header, hmem, hheads⟩
      · unfold Line.activeAfter at heq
        split at heq
        · rename_i hheader
          refine .inr ⟨first, List.mem_cons_self, ?_⟩
          simp [Line.heads, hheader, heq]
        · exact .inl heq
      · exact .inr ⟨header, List.mem_cons_of_mem _ hmem, hheads⟩

/-- The terminator of a line is nothing a count looks at. -/
theorem countP_terminated {p : Line → Bool}
    (hp : ∀ line ending, p { line with ending := ending } = p line) (ending : Bytes)
    (lines : List Line) :
    (IniDocument.terminated ending lines).countP p = lines.countP p := by
  induction lines with
  | nil => rfl
  | cons line lines ih =>
    cases lines with
    | nil =>
      rw [IniDocument.terminated]
      split
      · rw [List.countP_singleton, List.countP_singleton, hp]
      · rfl
    | cons l lines => rw [terminated_cons_cons, List.countP_cons, List.countP_cons, ih]

/-! ## 3. What an addition does to the lines -/

namespace IniDocument

/-- The line `[section]` that an addition puts in. -/
def headerLine (d : IniDocument) (section_ : Wide) : Line :=
  { bytes := headerBytes section_, ending := d.lineEnding.bytes,
    sectionName := normalized section_, sectionHeader := true }

/-- The line `key=value` that an addition puts in. -/
def entryLine (d : IniDocument) (section_ key value : Wide) : Line :=
  addedLine d.lineEnding.bytes (normalized section_) (normalized key) (wideToUtf8 key)
    (wideToUtf8 value)

/-- The document `d'` is `d` with an entry between `front` and `post`: at the end of the one
section of the name, or under a header of its own at the end of the file. -/
structure Added (d d' : IniDocument) (section_ key value : Wide) (front opener post : List Line) :
    Prop where
  lines_eq : d.lines = front ++ post
  edited : d' = { d with
    lines := terminated d.lineEnding.bytes front ++ opener ++
      d.entryLine section_ key value :: post }
  opened : opener = [] ∧ d.headers section_ = 1 ∨
    opener = [d.headerLine section_] ∧ post = [] ∧ d.headers section_ = 0
  absent : d.entries section_ key value = 0
  named : normalized section_ ≠ [] ∧ normalized key ≠ []
  written : wideToUtf8 value = [] → value = []

variable {d : IniDocument} {section_ key value : Wide}

/-- Without a header, nothing is assigned in the section. -/
theorem assigns_eq_false (hparsed : Parsed [] d.lines) (hnamed : normalized section_ ≠ [])
    (hheaders : d.headers section_ = 0) :
    ∀ line ∈ d.lines, line.assigns (normalized section_) (normalized key) = false := by
  intro line hl
  rw [← Bool.not_eq_true]
  intro hassigns
  simp only [Line.assigns, Bool.and_eq_true, beq_iff_eq] at hassigns
  obtain ⟨⟨hassign, hname⟩, -⟩ := hassigns
  rcases hparsed.headed hl hassign with hempty | ⟨header, hmem, hheads⟩
  · exact hnamed (hname ▸ hempty)
  · rw [hname] at hheads
    exact List.countP_eq_zero.mp hheaders header hmem hheads

theorem entries_eq_zero (hparsed : Parsed [] d.lines) (hnamed : normalized section_ ≠ [])
    (hheaders : d.headers section_ = 0) : d.entries section_ key value = 0 := by
  refine List.countP_eq_zero.mpr fun line hl => ?_
  rw [Line.holds, assigns_eq_false hparsed hnamed hheaders line hl]
  exact Bool.false_ne_true

/-- An upsert into a section that is not there. -/
theorem upsert_unheaded (hparsed : Parsed [] d.lines) (hnamed : normalized section_ ≠ [])
    (hheaders : d.headers section_ = 0) :
    d.upsert section_ key value = (⟨false, 0⟩, d) ∨
      d.upsert section_ key value = (⟨true, 0⟩, { d with
        lines := terminated d.lineEnding.bytes d.lines ++
          [d.headerLine section_, d.entryLine section_ key value] }) := by
  have hassigns : ∀ line ∈ d.lines, line.assigns (normalized section_) (normalized key) = false :=
    assigns_eq_false hparsed hnamed hheaders
  have hheads : lastIndex (Line.heads (normalized section_)) d.lines = none := by
    refine lastIndex_eq_none.mpr fun line hl => ?_
    exact Bool.eq_false_iff.mpr (List.countP_eq_zero.mp hheaders line hl)
  have hfind := find_eq_none_iff.mpr hassigns
  have hreplace : d.replace section_ key value = (⟨false, 0⟩, d) := by
    unfold replace
    simp only [lastIndex_eq_none.mpr hassigns, hheads]
  unfold upsert
  simp only [hfind, hreplace, Option.isSome_none, Bool.false_eq_true, ne_eq, not_true, or_self,
    if_false]
  split
  · exact .inl rfl
  · exact .inr rfl

/-- **The three things an addition may do**: nothing, a line in the section, or a header and a
line at the end. -/
theorem appendUnique_cases (hparsed : Parsed [] d.lines) (section_ key value : Wide) :
    ((d.appendUnique section_ key value).1.changed = false ∧
        (d.appendUnique section_ key value).2 = d) ∨
      ((d.appendUnique section_ key value).1.changed = true ∧ ∃ front opener post,
        Added d (d.appendUnique section_ key value).2 section_ key value front opener post) := by
  unfold appendUnique
  simp only
  split
  · exact .inl ⟨rfl, rfl⟩
  rename_i hguard
  obtain ⟨hsection, hkey, -, hvalue⟩ : normalized section_ ≠ [] ∧ normalized key ≠ [] ∧
      wideToUtf8 key ≠ [] ∧ (wideToUtf8 value = [] → value = []) := by
    simpa only [not_or, not_and, not_not] using hguard
  split
  · exact .inl ⟨rfl, rfl⟩
  rename_i hone
  split
  · rename_i hnone
    have hheaders : d.headers section_ = 0 := by
      refine List.countP_eq_zero.mpr fun line hl => ?_
      rw [List.findIdx?_eq_none_iff.mp hnone line hl]
      exact Bool.false_ne_true
    have hunheaded : d.upsert section_ key value = _ ∨ d.upsert section_ key value = _ :=
      upsert_unheaded hparsed hsection hheaders
    rcases hunheaded with heq | heq
    · rw [heq]
      exact .inl ⟨rfl, rfl⟩
    · rw [heq]
      exact .inr ⟨rfl, d.lines, _, [], (List.append_nil _).symm, by simp,
        .inr ⟨rfl, rfl, hheaders⟩, entries_eq_zero hparsed hsection hheaders, ⟨hsection, hkey⟩,
        hvalue⟩
  · rename_i i hsome
    split
    · exact .inl ⟨rfl, rfl⟩
    · rename_i hany
      refine .inr ⟨rfl, ?_⟩
      obtain ⟨hlt, hheads, -⟩ := List.findIdx?_eq_some_iff_getElem.mp hsome
      have hsplit : d.lines = d.lines.take i ++ d.lines[i] :: d.lines.drop (i + 1) := by
        rw [← List.drop_eq_getElem_cons hlt, List.take_append_drop]
      obtain ⟨front, post, hlines, hblock⟩ : ∃ front post, d.lines = front ++ post ∧
          blockEnd d.lines i = front.length := by
        obtain ⟨block, post, hlines, -, hblock⟩ := block_split hsplit
        rw [List.length_take_of_le hlt.le] at hblock
        exact ⟨_, post, hlines, hblock⟩
      have hheaders : d.headers section_ = 1 := by
        have hpos : 0 < d.headers section_ :=
          List.countP_pos_iff.mpr ⟨_, List.getElem_mem hlt, hheads⟩
        omega
      refine ⟨front, [], post, hlines, ?_, .inl ⟨rfl, hheaders⟩, ?_, ⟨hsection, hkey⟩, hvalue⟩
      · rw [hblock, hlines, insertLine_left, List.append_nil]
        rfl
      · refine List.countP_eq_zero.mpr fun line hl hholds => hany ?_
        exact List.any_eq_true.mpr ⟨line, hl, hholds⟩

/-! ## 4. The lines after an addition -/

theorem value_addedLine (ending : Bytes) (s k : Wide) (encodedKey encodedValue : Bytes) :
    (addedLine ending s k encodedKey encodedValue).value = encodedValue := by
  have hdrop : (encodedKey ++ equals :: encodedValue).drop (encodedKey.length + 1) =
      encodedValue := by
    rw [← List.drop_drop, List.drop_left]
    rfl
  have hlength : encodedKey.length + 1 + encodedValue.length - (encodedKey.length + 1) =
      encodedValue.length := by omega
  simp only [Line.value, addedLine, hdrop, hlength, List.take_length]

section Lines
variable {d' : IniDocument} {front opener post : List Line}
  (h : Added d d' section_ key value front opener post)

include h

/-- **What was added is the entry.** -/
theorem Added.holds : (d.entryLine section_ key value).holds (normalized section_)
    (normalized key) (normalized value) = true := by
  have htext : utf8ToWide (wideToUtf8 value) = value := by
    by_cases hwell : WellFormed value
    · exact utf8ToWide_wideToUtf8 hwell
    · -- what cannot be encoded gives the empty text, and only that is written so
      have hempty : wideToUtf8 value = [] := by
        unfold wideToUtf8
        rw [WellFormed, Option.not_isSome_iff_eq_none] at hwell
        rw [hwell]
      rw [h.written hempty]
      rfl
  unfold Line.holds entryLine
  rw [value_addedLine, htext]
  simp [Line.assigns, addedLine]

/-- The other lines count as before. -/
theorem Added.countP_eq {p : Line → Bool}
    (hp : ∀ line ending, p { line with ending := ending } = p line) :
    d'.lines.countP p =
      d.lines.countP p + opener.countP p + if p (d.entryLine section_ key value) then 1 else 0 := by
  rw [h.edited, h.lines_eq]
  simp only [List.countP_append, List.countP_cons, countP_terminated hp]
  omega

/-- The entry stands once, and the section has one header. -/
theorem Added.counts : d'.headers section_ = 1 ∧ d'.entries section_ key value = 1 := by
  constructor
  · have hcount := h.countP_eq (p := Line.heads (normalized section_)) fun _ _ => rfl
    have hentry : (d.entryLine section_ key value).heads (normalized section_) = false := rfl
    rw [hentry] at hcount
    unfold headers
    rw [hcount]
    rcases h.opened with ⟨rfl, hone⟩ | ⟨rfl, -, hnone⟩
    · exact hone
    · rw [List.countP_singleton, ← headers, hnone]
      simp [Line.heads, headerLine]
  · have hcount := h.countP_eq
      (p := Line.holds (normalized section_) (normalized key) (normalized value)) fun _ _ => rfl
    rw [h.holds] at hcount
    unfold entries
    rw [hcount, ← entries, h.absent]
    rcases h.opened with ⟨rfl, -⟩ | ⟨rfl, -, -⟩
    · rfl
    · rfl

/-- **Taken back**, the entry leaves what was around it. -/
theorem Added.removeExact_eq : d'.removeExact section_ key value = (⟨true, 0⟩, { d with
    lines := terminated d.lineEnding.bytes front ++ opener ++ post }) := by
  obtain ⟨hheaders, hentries⟩ := h.counts
  have hbefore : ∀ line ∈ terminated d.lineEnding.bytes front ++ opener,
      ¬ line.holds (normalized section_) (normalized key) (normalized value) = true := by
    have habsent := h.absent
    rw [entries, h.lines_eq, List.countP_append] at habsent
    refine List.countP_eq_zero.mp ?_
    rw [List.countP_append, countP_terminated fun _ _ => rfl,
      Nat.eq_zero_of_add_eq_zero_right habsent]
    rcases h.opened with ⟨rfl, -⟩ | ⟨rfl, -, -⟩ <;> rfl
  unfold removeExact
  rw [if_neg (by simp [h.named]), hheaders, hentries]
  simp only [lt_self_iff_false, or_self, one_ne_zero, if_false]
  rw [h.edited, List.eraseP_append_right _ hbefore, List.eraseP_cons_of_pos h.holds]

/-- A section that was opened for the entry goes with it. -/
theorem Added.removeSection_eq (hopened : opener ≠ []) :
    d'.removeSection section_ = (⟨true, 0⟩, { d with
      lines := terminated d.lineEnding.bytes d.lines }) := by
  obtain ⟨hheaders, -⟩ := h.counts
  rcases h.opened with ⟨hnil, -⟩ | ⟨rfl, rfl, hnone⟩
  · exact absurd hnil hopened
  have hfront : d.lines = front := by rw [h.lines_eq, List.append_nil]
  have hlines : d'.lines = terminated d.lineEnding.bytes d.lines ++
      d.headerLine section_ :: [d.entryLine section_ key value] := by
    rw [h.edited, hfront, List.append_assoc]
    rfl
  have hbefore : ∀ line ∈ terminated d.lineEnding.bytes d.lines,
      line.heads (normalized section_) = false := by
    have hcount : (terminated d.lineEnding.bytes d.lines).countP
        (Line.heads (normalized section_)) = 0 := by
      rw [countP_terminated fun _ _ => rfl]
      exact hnone
    exact fun line hl => Bool.eq_false_iff.mpr (List.countP_eq_zero.mp hcount line hl)
  have hfirst : d'.lines.findIdx (Line.heads (normalized section_)) =
      (terminated d.lineEnding.bytes d.lines).length := by
    have hheads : (d.headerLine section_).heads (normalized section_) = true := by
      simp [Line.heads, headerLine]
    rw [hlines, List.findIdx_append, List.findIdx_eq_length_of_false hbefore, if_neg (lt_irrefl _),
      List.findIdx_cons, hheads]
    simp
  have hend : blockEnd d'.lines (terminated d.lineEnding.bytes d.lines).length =
      d'.lines.length := by
    rw [hlines, blockEnd_append]
    rfl
  unfold removeSection
  rw [if_neg (by simp [hheaders]), hfirst]
  simp only [hend, List.drop_length, List.append_nil]
  rw [hlines, List.take_left, h.edited]

end Lines

/-! ## 5. The law -/

/-- Nothing is added next to an equal entry. -/
theorem appendUnique_present (hentries : 0 < d.entries section_ key value)
    (hheaders : 0 < d.headers section_) :
    (d.appendUnique section_ key value).1.changed = false ∧
      (d.appendUnique section_ key value).2 = d := by
  obtain ⟨header, hheader, hheads⟩ := List.countP_pos_iff.mp hheaders
  obtain ⟨line, hline, hholds⟩ := List.countP_pos_iff.mp hentries
  unfold appendUnique
  simp only
  split
  · exact ⟨rfl, rfl⟩
  split
  · exact ⟨rfl, rfl⟩
  split
  · rename_i hnone
    rw [List.findIdx?_eq_none_iff.mp hnone header hheader] at hheads
    cases hheads
  · rw [if_pos (List.any_eq_true.mpr ⟨line, hline, hholds⟩)]
    exact ⟨rfl, rfl⟩

theorem eraseP_eq_filter {p : Line → Bool} {lines : List Line} (h : lines.countP p = 1) :
    lines.eraseP p = lines.filter fun line => !p line := by
  induction lines with
  | nil => rfl
  | cons line lines ih =>
    by_cases hline : p line = true
    · rw [List.countP_cons_of_pos hline] at h
      have hrest := List.countP_eq_zero.mp (Nat.succ.inj h)
      rw [List.eraseP_cons_of_pos hline, List.filter_cons_of_neg (by simp [hline])]
      exact (List.filter_eq_self.mpr fun l hl => by simp [hrest l hl]).symm
    · rw [List.countP_cons_of_neg hline] at h
      rw [List.eraseP_cons_of_neg hline, List.filter_cons_of_pos (by simp [hline]), ih h]

/-- **What a removal does**: it takes the one entry of the value from the one section. -/
theorem removeExact_eq (hparsed : Parsed [] d.lines) (section_ key value : Wide) :
    if normalized section_ ≠ [] ∧ normalized key ≠ [] ∧ d.headers section_ ≤ 1 ∧
        d.entries section_ key value = 1 then
      d.removeExact section_ key value = (⟨true, 0⟩, { d with lines := d.lines.filter (fun line =>
        !line.holds (normalized section_) (normalized key) (normalized value)) })
    else (d.removeExact section_ key value).1.changed = false ∧
      (d.removeExact section_ key value).2 = d := by
  split
  · rename_i hone
    obtain ⟨hsection, hkey, hheaders, hentries⟩ := hone
    have hpos : d.headers section_ ≠ 0 := by
      intro hnone
      rw [entries_eq_zero hparsed hsection hnone] at hentries
      cases hentries
    unfold removeExact
    rw [if_neg (by simp [hsection, hkey]), hentries, eraseP_eq_filter hentries]
    simp only [if_neg (show ¬ (1 < d.headers section_ ∨ 1 < 1) by omega),
      if_neg (show ¬ (d.headers section_ = 0 ∨ 1 = 0) by omega)]
  · rename_i hnot
    unfold removeExact
    simp only
    split
    · exact ⟨rfl, rfl⟩
    rename_i hnamed
    obtain ⟨hsection, hkey⟩ := not_or.mp hnamed
    split
    · exact ⟨rfl, rfl⟩
    split
    · exact ⟨rfl, rfl⟩
    · exact absurd ⟨hsection, hkey, by omega, by omega⟩ hnot

/-- **The text of a document that an entry came into and out of again.** -/
theorem Added.serialize_eq {bytes : Bytes} {d' : IniDocument} {front opener post : List Line}
    (hparse : parse bytes = .ok d) (h : Added d d' section_ key value front opener post) :
    ∃ tail heading,
      serialize { d with lines := terminated d.lineEnding.bytes front ++ opener ++ post } =
        bytes ++ tail ++ heading ∧
      (tail = [] ∨ tail = Lines.finalEnd d.lineEnding.bytes (Lines.join d.physical)) ∧
      (heading = [] ∨ d.headers section_ = 0 ∧
        heading = headerBytes section_ ++ d.lineEnding.bytes) := by
  obtain ⟨hbytes, haccepted, -, -⟩ := parse_eq_ok_iff.mp hparse
  have hphysical := haccepted.physical
  have hmap : d.physical = front.map Line.raw ++ post.map Line.raw := by
    rw [physical, h.lines_eq, List.map_append]
  suffices hjoin : ∃ tail heading,
      Lines.join (Lines.close d.lineEnding.bytes (front.map Line.raw) ++ opener.map Line.raw ++
        post.map Line.raw) = Lines.join d.physical ++ tail ++ heading ∧
      (tail = [] ∨ tail = Lines.finalEnd d.lineEnding.bytes (Lines.join d.physical)) ∧
      (heading = [] ∨ d.headers section_ = 0 ∧
        heading = headerBytes section_ ++ d.lineEnding.bytes) by
    obtain ⟨tail, heading, hjoin, hbounds⟩ := hjoin
    refine ⟨tail, heading, ?_, hbounds⟩
    rw [hbytes]
    unfold serialize
    rw [List.map_append, List.map_append, map_raw_terminated, hjoin]
    simp only [physical, List.append_assoc]
  rcases h.opened with ⟨rfl, -⟩ | ⟨rfl, rfl, hnone⟩
  · cases post with
    | nil =>
      rw [List.map_nil, List.append_nil] at hmap
      refine ⟨_, [], ?_, .inr rfl, .inl rfl⟩
      rw [← hmap, List.map_nil, List.append_nil, List.append_nil, List.append_nil,
        Lines.join_close hphysical]
    | cons line post =>
      -- what is above a line is terminated already
      rw [hmap] at hphysical
      have hclosed := ((Lines.physical_append (by simp)).mp hphysical).1
      refine ⟨[], [], ?_, .inl rfl, .inl rfl⟩
      rw [Lines.close_of_closed hclosed, hmap]
      simp
  · rw [List.map_nil, List.append_nil] at hmap
    refine ⟨_, _, ?_, .inr rfl, .inr ⟨hnone, rfl⟩⟩
    rw [← hmap, List.map_nil, List.append_nil, Lines.join_append, Lines.join_close hphysical]
    simp [headerLine, Line.raw]

/-- **Entries can be added and taken back.**  Adding twice is adding once; nothing is added next to
an equal entry; and taking an added entry back gives the file again, with what was put there for
it: a terminator of the last line, and a header at the end.  What `remove_exact` removes is the
one entry of the value, when its section has one header; else it removes nothing. -/
theorem entries_added_and_removed {bytes : Bytes} (hparse : parse bytes = .ok d)
    (section_ key value : Wide) :
    let added := d.appendUnique section_ key value
    let again := added.2.appendUnique section_ key value
    let taken := added.2.removeExact section_ key value
    let removed := d.removeExact section_ key value
    (again.1.changed = false ∧ again.2 = added.2) ∧
      (0 < d.entries section_ key value → added.1.changed = false ∧ added.2 = d) ∧
      (added.1.changed = true → taken.1.changed = true ∧ ∃ tail heading,
        taken.2.serialize = bytes ++ tail ++ heading ∧
        (tail = [] ∨ tail = Lines.finalEnd d.lineEnding.bytes (Lines.join d.physical)) ∧
        (heading = [] ∨ d.headers section_ = 0 ∧
          heading = headerBytes section_ ++ d.lineEnding.bytes)) ∧
      if normalized section_ ≠ [] ∧ normalized key ≠ [] ∧ d.headers section_ ≤ 1 ∧
          d.entries section_ key value = 1 then
        removed = (⟨true, 0⟩, { d with lines := d.lines.filter (fun line =>
          !line.holds (normalized section_) (normalized key) (normalized value)) })
      else removed.1.changed = false ∧ removed.2 = d := by
  obtain ⟨-, -, hparsed, -⟩ := parse_eq_ok_iff.mp hparse
  intro added again taken removed
  refine ⟨?_, ?_, ?_, ?_⟩
  · rcases appendUnique_cases hparsed section_ key value with ⟨hno, hsame⟩ | ⟨-, _, _, _, h⟩
    · have hagain : again = added := congrArg (appendUnique · section_ key value) hsame
      rw [hagain]
      exact ⟨hno, rfl⟩
    · obtain ⟨hheaders, hentries⟩ := h.counts
      exact appendUnique_present (Nat.lt_of_lt_of_eq Nat.one_pos hentries.symm)
        (Nat.lt_of_lt_of_eq Nat.one_pos hheaders.symm)
  · intro hentries
    rcases appendUnique_cases hparsed section_ key value with hno | ⟨-, _, _, _, h⟩
    · exact hno
    · rw [h.absent] at hentries
      exact absurd hentries (lt_irrefl 0)
  · intro hchanged
    rcases appendUnique_cases hparsed section_ key value with ⟨hno, -⟩ | ⟨-, _, _, _, h⟩
    · rw [hno] at hchanged
      cases hchanged
    · rw [show taken = _ from h.removeExact_eq]
      exact ⟨rfl, h.serialize_eq hparse⟩
  · exact removeExact_eq hparsed section_ key value

end IniDocument

end Kf2Optimizer.Config

/-! ## 6. Two files -/

namespace Kf2Optimizer.Config.IniDocument

/-- The file of `[s]` and `k=v`, without a final line feed. -/
def oneEntry : IniDocument where
  lines := [
    { bytes := [0x5B, 0x73, 0x5D], ending := [0x0A], sectionName := [0x73], sectionHeader := true },
    { bytes := [0x6B, 0x3D, 0x76], ending := [], sectionName := [0x73], key := [0x6B],
      valueStart := 2, valueEnd := 3, assignment := true }]

/-- `k=w` put into the section, under another spelling of its name, and taken back. -/
theorem entries_added_and_removed_oneEntry :
    (@appendUnique cLocale oneEntry [0x53] [0x6B] [0x77]).1.changed = true ∧
      (@removeExact cLocale (@appendUnique cLocale oneEntry [0x53] [0x6B] [0x77]).2
        [0x53] [0x6B] [0x77]).1.changed = true :=
  have hchanged : (@appendUnique cLocale oneEntry [0x53] [0x6B] [0x77]).1.changed = true := by
    decide +kernel
  ⟨hchanged, ((@entries_added_and_removed cLocale oneEntry
    [0x5B, 0x73, 0x5D, 0x0A, 0x6B, 0x3D, 0x76] (by decide +kernel) [0x53] [0x6B] [0x77]).2.2.1
      hchanged).1⟩

/-- The file of `[s]`, `k=v` and `k=v` again. -/
def entryTwice : List UInt8 :=
  [0x5B, 0x73, 0x5D, 0x0A, 0x6B, 0x3D, 0x76, 0x0A, 0x6B, 0x3D, 0x76, 0x0A]

/-- Both entries are equal to the given one, and neither is removed. -/
theorem equal_entries_stay :
    (@parse cLocale entryTwice).toOption.map (fun d =>
      (@entries cLocale d [0x73] [0x6B] [0x76],
        @removeExact cLocale d [0x73] [0x6B] [0x76] == (⟨false, 1⟩, d))) = some (2, true) := by
  decide +kernel

end Kf2Optimizer.Config.IniDocument
