/-
# The settings file is stable

What `serializeSettings` writes of settings that were read is read back as the same settings
(`parse_serialize`), with one exception.  The reader takes one carriage return off the end of every
line, and an unknown entry keeps the rest as it is; written again, a value that ends in a carriage
return loses it.  So the file is stable exactly when no unknown entry stands on a line that ends in
two carriage returns (`settings_stable_iff`).
-/
import Kf2Optimizer.Config.Settings

namespace Kf2Optimizer.Config

open Text Game

/-! ## 1. Lines -/

theorem find_text (k : SettingKey) : SettingKey.find k.text = some k := by
  cases k <;> decide +kernel

theorem text_ne_nil (k : SettingKey) : k.text ≠ [] := by
  cases k <;> decide

theorem sign_not_mem_text (k : SettingKey) : 0x3D ∉ k.text := by
  cases k <;> decide

theorem lf_not_mem_text (k : SettingKey) : lf ∉ k.text := by
  cases k <;> decide

theorem find_eq_none {key : Bytes} (h : SettingKey.find key = none) (k : SettingKey) :
    key ≠ k.text := by
  rintro rfl
  rw [find_text k] at h
  cases h

theorem text_injective : Function.Injective SettingKey.text := fun k k' h => by
  have hfind := find_text k
  rw [h, find_text k'] at hfind
  exact (Option.some_inj.mp hfind).symm

/-- A carriage return at the end of a value is one at the end of its line. -/
theorem stripCr_keyedLine (key value : Bytes) :
    stripCr (keyedLine (key, value)) = keyedLine (key, stripCr value) := by
  unfold stripCr keyedLine
  cases hvalue : value.getLast? with
  | none =>
    obtain rfl := List.getLast?_eq_none_iff.mp hvalue
    simp [cr]
  | some b =>
    have hne : value ≠ [] := by
      rintro rfl
      cases hvalue
    have hlast : (key ++ 0x3D :: value).getLast? = some b := by
      simp [List.getLast?_append, List.getLast?_cons, hvalue]
    rw [hlast]
    by_cases hb : b = cr
    · simp [hb, List.dropLast_append_of_ne_nil, List.dropLast_cons_of_ne_nil hne]
    · simp [hb]

/-- An entry that stands on a line. -/
def Entry (line key value : Bytes) : Prop :=
  stripCr line = keyedLine (key, value) ∧ key ≠ [] ∧ 0x3D ∉ key

theorem entry_keyedLine {key : Bytes} (hkey : key ≠ []) (hsign : 0x3D ∉ key) (value : Bytes) :
    Entry (keyedLine (key, value)) key (stripCr value) :=
  ⟨stripCr_keyedLine key value, hkey, hsign⟩

/-- A line has one entry at most. -/
theorem Entry.unique {line key value key' value' : Bytes} (h : Entry line key value)
    (h' : Entry line key' value') : key = key' ∧ value = value' := by
  have hcut := congrArg (cut 0x3D) (h.1.symm.trans h'.1)
  unfold keyedLine at hcut
  rw [cut_append h.2.2, cut_append h'.2.2] at hcut
  exact Prod.mk.inj (Option.some_inj.mp hcut)

@[simp] theorem readLine_nil (state : Draft × List Bytes) : readLine state [] = .ok state := rfl

/-- **What a line does**: nothing, or an entry with a new key is read or kept. -/
theorem readLine_eq_ok {state next : Draft × List Bytes} {line : Bytes}
    (h : readLine state line = .ok next) :
    (stripCr line = [] ∧ next = state) ∨
    ∃ key value, Entry line key value ∧ key ∉ state.2 ∧ next.2 = key :: state.2 ∧
      ((∃ k, SettingKey.find key = some k ∧ readEntry state.1 value k = .ok next.1) ∨
        (SettingKey.find key = none ∧ next.1 = { state.1 with settings :=
          { state.1.settings with
            extras := emplace key value state.1.settings.extras } })) := by
  unfold readLine at h
  simp only at h
  split at h
  · rename_i hnil
    exact .inl ⟨hnil, (Except.ok.inj h).symm⟩
  split at h
  · cases h
  rename_i key value hcut
  split at h
  · cases h
  rename_i hkey
  split at h
  · cases h
  rename_i hseen
  obtain ⟨hline, hsign⟩ := cut_eq_some hcut
  refine .inr ⟨key, value, ⟨hline, hkey, hsign⟩, hseen, ?_⟩
  split at h
  · rename_i k hfind
    cases hread : readEntry state.1 value k with
    | error e =>
      rw [hread] at h
      cases h
    | ok d =>
      rw [hread] at h
      obtain rfl := Except.ok.inj h
      exact ⟨rfl, .inl ⟨k, hfind, hread⟩⟩
  · rename_i hfind
    obtain rfl := Except.ok.inj h
    exact ⟨rfl, .inr ⟨hfind, rfl⟩⟩

theorem readLine_known {state : Draft × List Bytes} {line value : Bytes} {k : SettingKey}
    (h : Entry line k.text value) (hnew : k.text ∉ state.2) :
    readLine state line = (readEntry state.1 value k).map fun d => (d, k.text :: state.2) := by
  obtain ⟨hline, hkey, hsign⟩ := h
  unfold readLine
  simp only [hline]
  rw [if_neg (by simp [keyedLine])]
  unfold keyedLine
  rw [cut_append hsign]
  simp only [hkey, hnew, if_false, find_text]

theorem readLine_unknown {state : Draft × List Bytes} {line key value : Bytes}
    (h : Entry line key value) (hnew : key ∉ state.2) (hfind : SettingKey.find key = none) :
    readLine state line = .ok ({ state.1 with settings :=
      { state.1.settings with extras := emplace key value state.1.settings.extras } },
      key :: state.2) := by
  obtain ⟨hline, hkey, hsign⟩ := h
  unfold readLine
  simp only [hline]
  rw [if_neg (by simp [keyedLine])]
  unfold keyedLine
  rw [cut_append hsign]
  simp only [hkey, hnew, if_false, hfind]

/-! ## 2. Values -/

@[simp] theorem readBoolean_text (message : String) (store : Bool → Draft) (b : Bool) :
    readBoolean message store (booleanText b) = .ok (store b) := by
  cases b <;> rfl

theorem parseInt_integerText {n : ℤ} (h0 : 0 ≤ n) (hlt : n < 2 ^ 31) :
    parseInt (integerText n) = some n := by
  obtain ⟨m, rfl⟩ := Int.eq_ofNat_of_zero_le h0
  have hlt : m < 2 ^ 31 := by exact_mod_cast hlt
  have hnumeral := numeral_decimal m
  have htext : integerText m = decimal m := if_neg (not_lt.mpr h0)
  unfold parseInt
  rw [htext, if_neg hnumeral.head_ne, fromChars_eq_some.mpr ⟨hnumeral, hlt⟩]
  rfl

theorem readInteger_text (message : String) {minimum maximum n : ℤ} (store : ℤ → Draft)
    (hbounds : 0 ≤ minimum ∧ maximum < 2 ^ 31) (h : minimum ≤ n ∧ n ≤ maximum) :
    readInteger message minimum maximum store (integerText n) = .ok (store n) := by
  unfold readInteger
  rw [parseInt_integerText (by omega) (by omega)]
  simp [not_lt.mpr h.1, not_lt.mpr h.2]

theorem readWord_of_mem (message : String) {words : List Bytes} (store : Bytes → Draft)
    {value : Bytes} (h : value ∈ words) : readWord message words store value = .ok (store value) :=
  if_pos h

theorem readBoolean_eq_ok {message : String} {store : Bool → Draft} {value : Bytes} {d : Draft}
    (h : readBoolean message store value = .ok d) : ∃ b, d = store b := by
  unfold readBoolean at h
  split at h
  · exact ⟨_, (Except.ok.inj h).symm⟩
  · cases h

theorem readInteger_eq_ok {message : String} {minimum maximum : ℤ} {store : ℤ → Draft}
    {value : Bytes} {d : Draft} (h : readInteger message minimum maximum store value = .ok d) :
    ∃ n, (minimum ≤ n ∧ n ≤ maximum) ∧ d = store n := by
  unfold readInteger at h
  split at h
  · split at h
    · cases h
    · rename_i hrange
      obtain ⟨hmin, hmax⟩ := not_or.mp hrange
      exact ⟨_, ⟨not_lt.mp hmin, not_lt.mp hmax⟩, (Except.ok.inj h).symm⟩
  · cases h

theorem readWord_eq_ok {message : String} {words : List Bytes} {store : Bytes → Draft}
    {value : Bytes} {d : Draft} (h : readWord message words store value = .ok d) :
    value ∈ words ∧ d = store value := by
  unfold readWord at h
  split at h
  · rename_i hmem
    exact ⟨hmem, (Except.ok.inj h).symm⟩
  · cases h

/-! ## 3. Settings that were read -/

/-- The words for a corner. -/
def positions : List Bytes :=
  [ascii "top_left", ascii "top_right", ascii "bottom_left", ascii "bottom_right"]

/-- The bounds that the reader holds every setting to, and its migrations with it. -/
structure InRange (s : Settings) : Prop where
  schema : s.schemaVersion = 1
  minimum : 10 ≤ s.adaptiveMinimumQuality ∧ s.adaptiveMinimumQuality ≤ 100
  maximum : 0 ≤ s.adaptiveMaximumQuality ∧ s.adaptiveMaximumQuality ≤ 100
  budget : 1 ≤ s.adaptiveQualityChangeBudget ∧ s.adaptiveQualityChangeBudget ≤ 5
  headroom : 0 ≤ s.adaptiveHeadroomPercent ∧ s.adaptiveHeadroomPercent ≤ 50
  shadow : s.adaptiveShadowMode = false
  position : s.overlayPosition ∈ positions
  scale : 60 ≤ s.overlayScalePercent ∧ s.overlayScalePercent ≤ 200
  fps : kTargetFpsMinimum ≤ s.targetFps ∧ s.targetFps ≤ kTargetFpsMaximum
  corpse : 4 ≤ s.corpseLimit ∧ s.corpseLimit ≤ 2000
  path : safePathText s.manualGamePath = true

theorem inRange_default : InRange {} where
  schema := rfl
  minimum := by decide
  maximum := by decide
  budget := by decide
  headroom := by decide
  shadow := rfl
  position := by decide
  scale := by decide
  fps := by decide
  corpse := by decide
  path := by decide

theorem InRange.corpseLimit {d d' : Draft} {value : Bytes} (h : InRange d.settings)
    (hread : readCorpseLimit d value = .ok d') :
    InRange d'.settings ∧ d'.settings.extras = d.settings.extras := by
  unfold readCorpseLimit at hread
  split at hread
  · cases hread
  · obtain ⟨n, hn, rfl⟩ := readInteger_eq_ok hread
    exact ⟨{ h with corpse := by simp only; omega }, rfl⟩

/-- **A branch keeps the bounds**, and leaves the unknown entries alone. -/
theorem InRange.readEntry {d d' : Draft} {value : Bytes} {k : SettingKey} (h : InRange d.settings)
    (hread : readEntry d value k = .ok d') :
    InRange d'.settings ∧ d'.settings.extras = d.settings.extras := by
  cases k <;> simp only [Config.readEntry] at hread
  case schemaVersion =>
    obtain ⟨n, hn, rfl⟩ := readInteger_eq_ok hread
    exact ⟨{ h with schema := by simp only; omega }, rfl⟩
  case adaptiveMinimumQuality =>
    obtain ⟨n, hn, rfl⟩ := readInteger_eq_ok hread
    exact ⟨{ h with minimum := hn }, rfl⟩
  case adaptiveMaximumQuality =>
    obtain ⟨n, hn, rfl⟩ := readInteger_eq_ok hread
    exact ⟨{ h with maximum := hn }, rfl⟩
  case adaptiveQualityChangeBudget =>
    obtain ⟨n, hn, rfl⟩ := readInteger_eq_ok hread
    exact ⟨{ h with budget := hn }, rfl⟩
  case adaptiveHeadroomPercent =>
    obtain ⟨n, hn, rfl⟩ := readInteger_eq_ok hread
    exact ⟨{ h with headroom := hn }, rfl⟩
  case overlayScalePercent =>
    obtain ⟨n, hn, rfl⟩ := readInteger_eq_ok hread
    exact ⟨{ h with scale := hn }, rfl⟩
  case targetFps =>
    obtain ⟨n, hn, rfl⟩ := readInteger_eq_ok hread
    refine ⟨{ h with fps := ?_ }, rfl⟩
    simp only [kTargetFpsMinimum, kTargetFpsMaximum] at hn ⊢
    omega
  case overlayPosition =>
    obtain ⟨hmem, rfl⟩ := readWord_eq_ok hread
    exact ⟨{ h with position := hmem }, rfl⟩
  case corpseLimit => exact h.corpseLimit hread
  case manualCorpseLimit => exact h.corpseLimit hread
  case manualGamePath =>
    split at hread
    · rename_i hpath
      obtain rfl := Except.ok.inj hread
      exact ⟨{ h with path := hpath }, rfl⟩
    · cases hread
  case animationsEnabled =>
    obtain rfl := Except.ok.inj hread
    exact ⟨h, rfl⟩
  case optimizerProfile =>
    obtain rfl := Except.ok.inj hread
    exact ⟨h, rfl⟩
  case optimizerMode | adaptiveAggressiveness | qualityPolicy =>
    obtain ⟨-, rfl⟩ := readWord_eq_ok hread
    exact ⟨{ h with }, rfl⟩
  case guideStep | adaptiveFlexMaxSubsteps | manualFlexSubsteps | manualGoreEffectLimit =>
    obtain ⟨n, -, rfl⟩ := readInteger_eq_ok hread
    exact ⟨{ h with }, rfl⟩
  all_goals
    obtain ⟨b, rfl⟩ := readBoolean_eq_ok hread
    exact ⟨{ h with }, rfl⟩

/-- What is written of settings is read as they are, except what is only known while reading and
what stands behind. -/
def Settings.core (s : Settings) : Settings :=
  { s with
    targetFpsMigrated := false
    adaptiveQualityRangeMigrated := false
    legacyQualityPolicyMigrated := false
    manualGamePath := []
    extras := [] }

theorem ok_bind {α β : Type} (a : α) (f : α → Except String β) : (Except.ok a >>= f) = f a := rfl

/-- **The entries that are always written** are read back. -/
theorem readEntries_stored {s : Settings} (h : InRange s) :
    (storedEntries s).foldlM (fun d e => readEntry d e.2 e.1) {} =
      Except.ok { settings := s.core, schemaSeen := true, corpseLimitSeen := true } := by
  obtain ⟨hschema, hminimum, hmaximum, hbudget, hheadroom, hshadow, hposition, hscale, hfps, hcorpse,
    -⟩ := h
  have hone : (1 : ℤ) ≤ s.schemaVersion ∧ s.schemaVersion ≤ 1 := by omega
  have hfps' : kTargetFpsMinimum ≤ s.targetFps ∧ s.targetFps ≤ 360 :=
    ⟨hfps.1, hfps.2.trans (by decide)⟩
  have hcorpse' : 0 ≤ s.corpseLimit ∧ s.corpseLimit ≤ 2000 := by omega
  have hmode : ascii "adaptive" ∈ [ascii "smart", ascii "manual", ascii "adaptive"] := by simp
  have hposition' : s.overlayPosition ∈
      [ascii "top_left", ascii "top_right", ascii "bottom_left", ascii "bottom_right"] := hposition
  simp only [storedEntries, List.foldlM_cons, List.foldlM_nil, readEntry, ok_bind,
    readBoolean_text, readWord_of_mem _ _ hmode, readWord_of_mem _ _ hposition', readCorpseLimit,
    Bool.false_eq_true, if_false,
    readInteger_text _ _ (by decide) hone, readInteger_text _ _ (by decide) hminimum,
    readInteger_text _ _ (by decide) hmaximum, readInteger_text _ _ (by decide) hbudget,
    readInteger_text _ _ (by decide) hheadroom, readInteger_text _ _ (by decide) hscale,
    readInteger_text _ _ (by decide) hfps', readInteger_text _ _ (by decide) hcorpse']
  rw [min_eq_left hfps.2, decide_eq_false (not_lt.mpr hfps.2), max_eq_left hcorpse.1]
  unfold Settings.core
  rw [hshadow]
  rfl

/-! ## 4. The loop -/

/-- What the loop knows after some lines. -/
structure Read (done : List Bytes) (state : Draft × List Bytes) : Prop where
  range : InRange state.1.settings
  sorted : KeysSorted state.1.settings.extras
  kept : ∀ key value, (key, value) ∈ state.1.settings.extras ↔
    ∃ line ∈ done, Entry line key value ∧ SettingKey.find key = none
  seen : ∀ e ∈ state.1.settings.extras, e.1 ∈ state.2
  formed : ∀ line ∈ done, stripCr line = [] ∨ ∃ key value, Entry line key value

theorem read_nil : Read [] ({}, []) where
  range := inRange_default
  sorted := List.Pairwise.nil
  kept _ _ := by simp
  seen := nofun
  formed := nofun

theorem Entry.stripCr_ne_nil {line key value : Bytes} (h : Entry line key value) :
    stripCr line ≠ [] := by
  rw [h.1]
  simp [keyedLine]

/-- **One line.** -/
theorem Read.line {done : List Bytes} {state next : Draft × List Bytes} {line : Bytes}
    (h : Read done state) (hline : readLine state line = .ok next) :
    Read (done ++ [line]) next := by
  obtain ⟨hblank, rfl⟩ | ⟨key, value, hentry, hnew, hseen, hbranch⟩ := readLine_eq_ok hline
  · refine { h with kept := fun key value => ?_, formed := fun l hl => ?_ }
    · rw [h.kept key value]
      constructor
      · rintro ⟨l, hl, hentry, hfind⟩
        exact ⟨l, List.mem_append_left _ hl, hentry, hfind⟩
      · rintro ⟨l, hl, hentry, hfind⟩
        rcases List.mem_append.mp hl with hl | hl
        · exact ⟨l, hl, hentry, hfind⟩
        · obtain rfl := List.mem_singleton.mp hl
          exact absurd hblank hentry.stripCr_ne_nil
    · rcases List.mem_append.mp hl with hl | hl
      · exact h.formed l hl
      · obtain rfl := List.mem_singleton.mp hl
        exact .inl hblank
  · have hformed : ∀ l ∈ done ++ [line], stripCr l = [] ∨ ∃ key value, Entry l key value := by
      intro l hl
      rcases List.mem_append.mp hl with hl | hl
      · exact h.formed l hl
      · obtain rfl := List.mem_singleton.mp hl
        exact .inr ⟨key, value, hentry⟩
    have hmem : ∀ key' value', (∃ l ∈ done ++ [line], Entry l key' value' ∧
        SettingKey.find key' = none) ↔ (key', value') ∈ state.1.settings.extras ∨
          (key' = key ∧ value' = value ∧ SettingKey.find key' = none) := by
      intro key' value'
      rw [h.kept key' value']
      constructor
      · rintro ⟨l, hl, hl', hfind⟩
        rcases List.mem_append.mp hl with hl | hl
        · exact .inl ⟨l, hl, hl', hfind⟩
        · obtain rfl := List.mem_singleton.mp hl
          exact .inr ⟨(hl'.unique hentry).1, (hl'.unique hentry).2, hfind⟩
      · rintro (⟨l, hl, hl', hfind⟩ | ⟨rfl, rfl, hfind⟩)
        · exact ⟨l, List.mem_append_left _ hl, hl', hfind⟩
        · exact ⟨line, List.mem_append_right _ (List.mem_singleton_self line), hentry, hfind⟩
    obtain ⟨k, hfind, hread⟩ | ⟨hfind, heq⟩ := hbranch
    · obtain ⟨hrange, hextras⟩ := h.range.readEntry hread
      refine ⟨hrange, hextras ▸ h.sorted, fun key' value' => ?_, fun e he => ?_, hformed⟩
      · rw [hextras, hmem key' value']
        refine ⟨.inl, fun h => h.resolve_right ?_⟩
        rintro ⟨rfl, -, hnone⟩
        rw [hfind] at hnone
        cases hnone
      · rw [hseen]
        exact List.mem_cons_of_mem key (h.seen e (hextras ▸ he))
    · obtain ⟨d, seen⟩ := next
      obtain rfl : d = _ := heq
      have hfresh : ∀ f ∈ state.1.settings.extras, f.1 ≠ key := by
        rintro f hf rfl
        exact hnew (h.seen f hf)
      refine ⟨{ h.range with }, h.sorted.emplace, fun key' value' => ?_, fun e he => ?_, hformed⟩
      · rw [hmem key' value', mem_emplace hfresh, or_comm]
        refine or_congr_right ?_
        rw [Prod.mk.injEq]
        constructor
        · rintro ⟨rfl, rfl⟩
          exact ⟨rfl, rfl, hfind⟩
        · rintro ⟨rfl, rfl, -⟩
          exact ⟨rfl, rfl⟩
      · rw [hseen]
        rcases mem_of_mem_emplace he with rfl | he
        · exact List.mem_cons_self
        · exact List.mem_cons_of_mem key (h.seen e he)

theorem Read.lines : ∀ {done rest : List Bytes} {state next : Draft × List Bytes},
    Read done state → rest.foldlM readLine state = .ok next → Read (done ++ rest) next
  | done, [], state, next, h, hfold => by
    obtain rfl := Except.ok.inj hfold
    rw [List.append_nil]
    exact h
  | done, line :: rest, state, next, h, hfold => by
    rw [List.foldlM_cons] at hfold
    cases hline : readLine state line with
    | error e =>
      rw [hline] at hfold
      cases hfold
    | ok middle =>
      rw [hline, ok_bind] at hfold
      have hrest := (h.line hline).lines hfold
      rwa [List.append_assoc, List.singleton_append] at hrest

/-- Settings that were read from a text. -/
structure FromText (text : Bytes) (s : Settings) : Prop where
  range : InRange s
  ordered : s.adaptiveMinimumQuality ≤ s.adaptiveMaximumQuality
  sorted : KeysSorted s.extras
  kept : ∀ key value, (key, value) ∈ s.extras ↔
    ∃ line ∈ splitOn lf text, Entry line key value ∧ SettingKey.find key = none
  formed : ∀ line ∈ splitOn lf text, stripCr line = [] ∨ ∃ key value, Entry line key value

theorem fromText {text : Bytes} {s : Settings} (h : parseSettings text = .ok s) :
    FromText text s := by
  unfold parseSettings at h
  cases hfold : (splitOn lf text).foldlM readLine ({}, []) with
  | error e =>
    rw [hfold] at h
    cases h
  | ok state =>
    rw [hfold, ok_bind] at h
    obtain ⟨hrange, hsorted, hkept, -, hformed⟩ := read_nil.lines hfold
    rw [List.nil_append] at hkept hformed
    unfold finish at h
    by_cases hschema : (!state.1.schemaSeen) = true
    · rw [if_pos hschema] at h
      cases h
    rw [if_neg hschema] at h
    by_cases hfloor : legacyQualityFloor state.1.settings state.2 = true
    · simp only [if_pos hfloor] at h
      split at h
      · cases h
      · rename_i hordered
        obtain rfl := Except.ok.inj h
        exact ⟨{ hrange with minimum := by simp }, not_lt.mp hordered, hsorted, hkept, hformed⟩
    · simp only [if_neg hfloor] at h
      split at h
      · cases h
      · rename_i hordered
        obtain rfl := Except.ok.inj h
        exact ⟨hrange, not_lt.mp hordered, hsorted, hkept, hformed⟩

/-! ## 5. Reading back -/

theorem inline_integerText (n : ℤ) : Inline (integerText n) := by
  unfold integerText
  split_ifs
  · have hsign : Inline [0x2D] := ⟨by decide, by decide⟩
    exact hsign.append (inline_decimal _)
  · exact inline_decimal _

theorem inline_booleanText (b : Bool) : Inline (booleanText b) := by
  cases b <;> exact ⟨by decide, by decide⟩

theorem inline_of_mem_positions {word : Bytes} (h : word ∈ positions) : Inline word := by
  have hall : ∀ word ∈ positions, lf ∉ word ∧ cr ∉ word := by decide
  exact hall word h

theorem inline_of_safePathText {path : Bytes} (h : safePathText path = true) : Inline path := by
  have hall := List.all_eq_true.mp (Bool.and_eq_true_iff.mp h).2
  constructor
  · intro hmem
    exact absurd (hall lf hmem) (by decide)
  · intro hmem
    exact absurd (hall cr hmem) (by decide)

/-- The entries with a known key. -/
def knownEntries (s : Settings) : List (SettingKey × Bytes) := storedEntries s ++ pathEntries s

theorem inline_of_mem_knownEntries {s : Settings} (h : InRange s) :
    ∀ e ∈ knownEntries s, Inline e.2 := by
  have hadaptive : Inline (ascii "adaptive") := ⟨by decide, by decide⟩
  have hposition := inline_of_mem_positions h.position
  have hstored : ∀ e ∈ storedEntries s, Inline e.2 := by
    simp only [storedEntries, List.forall_mem_cons, List.not_mem_nil, IsEmpty.forall_iff,
      implies_true, inline_integerText, inline_booleanText, hadaptive, hposition, and_true]
  intro e he
  rcases List.mem_append.mp he with he | he
  · exact hstored e he
  · unfold pathEntries at he
    split_ifs at he
    · cases he
    · obtain rfl := List.mem_singleton.mp he
      exact inline_of_safePathText h.path

theorem nodup_knownEntries (s : Settings) : ((knownEntries s).map Prod.fst).Nodup := by
  unfold knownEntries pathEntries
  split_ifs
  · exact of_decide_eq_true rfl
  · exact of_decide_eq_true rfl

/-- Keys that older versions have written are not written. -/
theorem animationsEnabled_not_mem (s : Settings) :
    SettingKey.animationsEnabled ∉ (knownEntries s).map Prod.fst := by
  unfold knownEntries pathEntries
  split_ifs
  · exact of_decide_eq_true rfl
  · exact of_decide_eq_true rfl

/-- **Lines with known keys** are read as their entries. -/
theorem foldlM_known : ∀ {entries : List (SettingKey × Bytes)} {d : Draft} {seen : List Bytes},
    (∀ e ∈ entries, Inline e.2) → (entries.map Prod.fst).Nodup →
    (∀ e ∈ entries, e.1.text ∉ seen) →
    (entries.map fun e => keyedLine (e.1.text, e.2)).foldlM readLine (d, seen) =
      (entries.foldlM (fun d e => readEntry d e.2 e.1) d).map fun d =>
        (d, (entries.map fun e => e.1.text).reverse ++ seen)
  | [], _, _, _, _, _ => rfl
  | e :: rest, d, seen, hinline, hnodup, hnew => by
    obtain ⟨he, hrest⟩ := List.forall_mem_cons.mp hinline
    obtain ⟨hfirst, hothers⟩ := List.forall_mem_cons.mp hnew
    rw [List.map_cons, List.nodup_cons] at hnodup
    have hline : readLine (d, seen) (keyedLine (e.1.text, e.2)) =
        (readEntry d e.2 e.1).map fun d => (d, e.1.text :: seen) := by
      have hentry := entry_keyedLine (text_ne_nil e.1) (sign_not_mem_text e.1) e.2
      rw [stripCr_of_not_mem he.2] at hentry
      exact readLine_known hentry hfirst
    rw [List.map_cons, List.foldlM_cons, List.foldlM_cons, hline]
    cases readEntry d e.2 e.1 with
    | error message => rfl
    | ok next =>
      have hseen : ∀ f ∈ rest, f.1.text ∉ e.1.text :: seen := by
        intro f hf
        refine List.not_mem_cons_of_ne_of_not_mem (fun heq => hnodup.1 ?_) (hothers f hf)
        rw [← text_injective heq]
        exact List.mem_map_of_mem hf
      calc
        _ = (rest.map fun e => keyedLine (e.1.text, e.2)).foldlM readLine
            (next, e.1.text :: seen) := rfl
        _ = _ := foldlM_known hrest hnodup.2 hseen
        _ = _ := by simp [ok_bind]

/-- The entries as they are read again. -/
def stripped (extras : List (Bytes × Bytes)) : List (Bytes × Bytes) :=
  extras.map fun e => (e.1, stripCr e.2)

/-- **Lines with unknown keys** in the order of their keys are kept behind those before. -/
theorem foldlM_unknown : ∀ {entries : List (Bytes × Bytes)} {d : Draft} {seen : List Bytes},
    (∀ e ∈ entries, (e.1 ≠ [] ∧ 0x3D ∉ e.1) ∧ SettingKey.find e.1 = none) →
    (∀ e ∈ entries, e.1 ∉ seen) → KeysSorted entries →
    (∀ e ∈ d.settings.extras, ∀ f ∈ entries, e.1 < f.1) →
    (entries.map keyedLine).foldlM readLine (d, seen) =
      .ok ({ d with settings := { d.settings with
        extras := d.settings.extras ++ stripped entries } },
        (entries.map Prod.fst).reverse ++ seen)
  | [], d, _, _, _, _, _ => by simp [stripped, pure, Except.pure]
  | e :: rest, d, seen, hform, hnew, hsorted, hbehind => by
    obtain ⟨⟨⟨hkey, hsign⟩, hfind⟩, hform⟩ := List.forall_mem_cons.mp hform
    obtain ⟨hfirst, hothers⟩ := List.forall_mem_cons.mp hnew
    obtain ⟨hleast, hrest⟩ := List.pairwise_cons.mp hsorted
    have hlt : ∀ f ∈ d.settings.extras, f.1 < e.1 := fun f hf =>
      hbehind f hf e List.mem_cons_self
    rw [List.map_cons, List.foldlM_cons,
      readLine_unknown (entry_keyedLine hkey hsign e.2) hfirst hfind, ok_bind,
      emplace_of_lt hlt]
    have hseen : ∀ f ∈ rest, f.1 ∉ e.1 :: seen := by
      intro f hf
      refine List.not_mem_cons_of_ne_of_not_mem (fun heq => ?_) (hothers f hf)
      exact bytes_lt_irrefl _ (heq ▸ hleast f hf)
    have hnext : ∀ f ∈ d.settings.extras ++ [(e.1, stripCr e.2)], ∀ g ∈ rest, f.1 < g.1 := by
      intro f hf g hg
      rcases List.mem_append.mp hf with hf | hf
      · exact hbehind f hf g (List.mem_cons_of_mem e hg)
      · obtain rfl := List.mem_singleton.mp hf
        exact hleast g hg
    rw [foldlM_unknown hform hseen hrest hnext]
    simp [stripped]

/-! ## 6. The file is stable -/

/-- Settings without the flags that report a migration. -/
def Settings.settled (s : Settings) : Settings :=
  { s with
    targetFpsMigrated := false
    adaptiveQualityRangeMigrated := false
    legacyQualityPolicyMigrated := false }

/-- Settings as they are read again. -/
def Settings.reread (s : Settings) : Settings := { s.settled with extras := stripped s.extras }

section

variable {text : Bytes} {s : Settings}

/-- An entry that was kept is one of a line. -/
theorem FromText.extra (h : FromText text s) {e : Bytes × Bytes} (he : e ∈ s.extras) :
    (e.1 ≠ [] ∧ 0x3D ∉ e.1) ∧ SettingKey.find e.1 = none := by
  obtain ⟨line, -, ⟨-, hkey, hsign⟩, hfind⟩ := (h.kept e.1 e.2).mp he
  exact ⟨⟨hkey, hsign⟩, hfind⟩

theorem mem_of_mem_stripCr {l : Bytes} {x : UInt8} (h : x ∈ stripCr l) : x ∈ l := by
  unfold stripCr at h
  split_ifs at h
  · exact List.mem_of_mem_dropLast h
  · exact h

theorem FromText.lf_not_mem (h : FromText text s) {e : Bytes × Bytes} (he : e ∈ s.extras) :
    lf ∉ keyedLine e := by
  obtain ⟨line, hline, hentry, -⟩ := (h.kept e.1 e.2).mp he
  intro hmem
  rw [show keyedLine e = stripCr line from hentry.1.symm] at hmem
  exact not_mem_of_mem_splitOn hline (mem_of_mem_stripCr hmem)

/-- The lines of what is written. -/
theorem splitOn_serializeSettings (h : FromText text s) :
    splitOn lf (serializeSettings s) =
      ((knownEntries s).map fun e => keyedLine (e.1.text, e.2)) ++
        (s.extras.map keyedLine ++ [[]]) := by
  have hknown : ∀ e ∈ knownEntries s, lf ∉ keyedLine (e.1.text, e.2) := by
    intro e he
    have hvalue := inline_of_mem_knownEntries h.range e he
    have hsign : lf ∉ [(0x3D : UInt8)] := by decide
    simpa [keyedLine] using ⟨lf_not_mem_text e.1, by simpa using hsign, hvalue.1⟩
  have hlines : ∀ r ∈ ((knownEntries s).map fun e => (e.1.text, e.2)).map keyedLine ++
      s.extras.map keyedLine, lf ∉ r := by
    intro r hr
    rcases List.mem_append.mp hr with hr | hr
    · rw [List.map_map] at hr
      obtain ⟨e, he, rfl⟩ := List.mem_map.mp hr
      exact hknown e he
    · obtain ⟨e, he, rfl⟩ := List.mem_map.mp hr
      exact h.lf_not_mem he
  unfold serializeSettings keyed
  rw [List.map_append]
  refine (splitOn_lines hlines).trans ?_
  rw [List.map_map, List.append_assoc]
  rfl

/-- The known entries with the path. -/
theorem readEntries_known (h : FromText text s) :
    (knownEntries s).foldlM (fun d e => readEntry d e.2 e.1) {} = Except.ok
      { settings := { s.settled with extras := [] }, schemaSeen := true, corpseLimitSeen := true } := by
  unfold knownEntries
  rw [List.foldlM_append, readEntries_stored h.range, ok_bind]
  unfold pathEntries
  split_ifs with hpath
  · simp [pure, Except.pure, Settings.core, Settings.settled, hpath]
  · simp only [List.foldlM_cons, readEntry]
    rw [if_pos h.range.path]
    rfl

/-- The floor of older versions is not taken from what is written. -/
theorem legacyQualityFloor_eq_false (h : FromText text s) (settings : Settings) :
    legacyQualityFloor settings ((s.extras.map Prod.fst).reverse ++
      (((knownEntries s).map fun e => e.1.text).reverse ++ [])) = false := by
  have hnew : SettingKey.animationsEnabled.text ∉ (s.extras.map Prod.fst).reverse ++
      (((knownEntries s).map fun e => e.1.text).reverse ++ []) := by
    simp only [List.append_nil, List.mem_append, List.mem_reverse, not_or]
    constructor
    · intro hmem
      obtain ⟨e, he, hkey⟩ := List.mem_map.mp hmem
      exact find_eq_none (h.extra he).2 _ hkey
    · intro hmem
      obtain ⟨e, he, hkey⟩ := List.mem_map.mp hmem
      exact animationsEnabled_not_mem s (text_injective hkey ▸ List.mem_map_of_mem he)
  unfold legacyQualityFloor
  rw [List.all_cons, decide_eq_false hnew, Bool.false_and, Bool.and_false]

/-- **The lines of what is written** are read as the settings again. -/
theorem foldlM_serializeSettings (h : FromText text s) :
    (splitOn lf (serializeSettings s)).foldlM readLine ({}, []) = .ok
      ({ settings := s.reread, schemaSeen := true, corpseLimitSeen := true },
        (s.extras.map Prod.fst).reverse ++
          (((knownEntries s).map fun e => e.1.text).reverse ++ [])) := by
  have hknown := @foldlM_known _ {} [] (inline_of_mem_knownEntries h.range)
    (nodup_knownEntries s) (fun _ _ => List.not_mem_nil)
  rw [readEntries_known h] at hknown
  have hnew : ∀ e ∈ s.extras, e.1 ∉ ((knownEntries s).map fun e => e.1.text).reverse ++ [] := by
    intro e he hmem
    simp only [List.append_nil, List.mem_reverse, List.mem_map] at hmem
    obtain ⟨k, -, hkey⟩ := hmem
    exact find_eq_none (h.extra he).2 k.1 hkey.symm
  rw [splitOn_serializeSettings h, List.foldlM_append, hknown]
  change List.foldlM readLine _ (s.extras.map keyedLine ++ [[]]) = _
  rw [List.foldlM_append,
    foldlM_unknown (fun e he => h.extra he) hnew h.sorted (fun _ he => absurd he List.not_mem_nil), ok_bind,
    List.foldlM_cons, readLine_nil, ok_bind, List.foldlM_nil]
  rfl

/-- **What is written of settings that were read is read back**, with the values of the unknown
entries less one carriage return. -/
theorem parse_serialize (h : FromText text s) :
    parseSettings (serializeSettings s) = .ok s.reread := by
  unfold parseSettings
  rw [foldlM_serializeSettings h, ok_bind]
  unfold finish
  simp only [Bool.not_true, Bool.false_eq_true, if_false, legacyQualityFloor_eq_false h]
  exact if_neg (not_lt.mpr h.ordered)

end

/-- The law of the file: it is read again as the same settings, and written again as the same
bytes. -/
def Stable (s : Settings) : Prop :=
  ∃ again, parseSettings (serializeSettings s) = .ok again ∧ again.settled = s.settled ∧
    serializeSettings again = serializeSettings s

/-- A line with an unknown key ends in two carriage returns. -/
def DoubledReturn (text : Bytes) : Prop :=
  ∃ line ∈ splitOn lf text, [cr, cr] <:+ line ∧
    ∃ key value, cut 0x3D line = some (key, value) ∧ SettingKey.find key = none

theorem stripCr_eq_self_iff {l : Bytes} : stripCr l = l ↔ l.getLast? ≠ some cr := by
  unfold stripCr
  split_ifs with hlast
  · have hne : l ≠ [] := by
      rintro rfl
      cases hlast
    refine iff_of_false (fun heq => ?_) (not_not.mpr hlast)
    have hlength := congrArg List.length heq
    rw [List.length_dropLast] at hlength
    have := List.length_pos_iff.mpr hne
    omega
  · exact iff_of_true rfl hlast

theorem stripped_eq_self_iff {extras : List (Bytes × Bytes)} :
    stripped extras = extras ↔ ∀ e ∈ extras, e.2.getLast? ≠ some cr := by
  unfold stripped
  rw [← List.map_id extras, List.map_map, List.map_inj_left]
  simp only [List.map_id]
  refine forall₂_congr fun e _ => ?_
  rw [← stripCr_eq_self_iff]
  exact ⟨fun h => congrArg Prod.snd h, fun h => Prod.ext rfl h⟩

/-- A value that ends in a carriage return stands on a line that ends in two. -/
theorem Entry.doubled {line key value : Bytes} (h : Entry line key value)
    (hlast : value.getLast? = some cr) : line = keyedLine (key, value) ++ [cr] := by
  obtain ⟨hline, -, -⟩ := h
  have hend : (keyedLine (key, value)).getLast? = some cr := by
    simp [keyedLine, List.getLast?_append, List.getLast?_cons, hlast]
  unfold stripCr at hline
  split_ifs at hline with hcr
  · rw [← hline]
    exact (List.dropLast_append_getLast? cr hcr).symm
  · exact absurd (hline ▸ hend) hcr

theorem doubledReturn_iff {text : Bytes} {s : Settings} (h : FromText text s) :
    DoubledReturn text ↔ ∃ e ∈ s.extras, e.2.getLast? = some cr := by
  constructor
  · rintro ⟨line, hline, ⟨start, rfl⟩, key, value, hcut, hfind⟩
    have hstrip : stripCr (start ++ [cr, cr]) = start ++ [cr] := by
      unfold stripCr
      rw [if_pos (by simp)]
      simp [List.dropLast_append_of_ne_nil]
    obtain hblank | ⟨key', value', hentry⟩ := h.formed _ hline
    · rw [hstrip] at hblank
      simp at hblank
    have hkeyed : start ++ [cr] = keyedLine (key', value') := hstrip.symm.trans hentry.1
    have hkey : key = key' := by
      rw [show start ++ [cr, cr] = key' ++ 0x3D :: (value' ++ [cr]) from
        calc
          start ++ [cr, cr] = (start ++ [cr]) ++ [cr] := by simp
          _ = key' ++ 0x3D :: (value' ++ [cr]) := by simp [hkeyed, keyedLine],
        cut_append hentry.2.2] at hcut
      exact (Prod.mk.inj (Option.some_inj.mp hcut)).1.symm
    refine ⟨(key', value'), (h.kept key' value').mpr ⟨_, hline, hentry, hkey ▸ hfind⟩, ?_⟩
    have hlast := congrArg List.getLast? hkeyed
    rw [List.getLast?_append, List.getLast?_singleton, Option.some_or] at hlast
    cases hvalue : value'.getLast? with
    | some b =>
      simpa [keyedLine, List.getLast?_append, List.getLast?_cons, hvalue, eq_comm] using hlast
    | none =>
      simp [keyedLine, List.getLast?_append, List.getLast?_cons, hvalue, cr] at hlast
  · rintro ⟨⟨key, value⟩, he, hlast⟩
    obtain ⟨line, hline, hentry, hfind⟩ := (h.kept key value).mp he
    have heq := hentry.doubled hlast
    obtain ⟨start, hstart⟩ : ∃ start, value = start ++ [cr] :=
      ⟨value.dropLast, (List.dropLast_append_getLast? cr hlast).symm⟩
    refine ⟨line, hline, ⟨key ++ 0x3D :: start, ?_⟩, key, value ++ [cr], ?_, hfind⟩
    · rw [heq, hstart]
      simp [keyedLine]
    · rw [heq]
      unfold keyedLine
      rw [List.append_assoc, List.cons_append]
      exact cut_append hentry.2.2 _

/-- **The file is stable exactly when no line with an unknown key ends in two carriage returns.** -/
theorem settings_stable_iff {text : Bytes} {s : Settings} (h : parseSettings text = .ok s) :
    Stable s ↔ ¬ DoubledReturn text := by
  have hfrom := fromText h
  have hiff : s.reread.settled = s.settled ↔ stripped s.extras = s.extras :=
    ⟨fun heq => congrArg Settings.extras heq, fun heq => by
      unfold Settings.reread Settings.settled
      simp [heq]⟩
  have hextras : stripped s.extras = s.extras ↔ ¬ DoubledReturn text := by
    rw [doubledReturn_iff hfrom, stripped_eq_self_iff]
    simp
  rw [← hextras]
  constructor
  · rintro ⟨again, hparse, hsettled, -⟩
    rw [parse_serialize hfrom, Except.ok.injEq] at hparse
    rw [← hiff, hparse]
    exact hsettled
  · intro heq
    refine ⟨s.reread, parse_serialize hfrom, hiff.mpr heq, ?_⟩
    unfold Settings.reread
    rw [heq]
    rfl

/-- A file with a schema alone is stable. -/
theorem settings_stable_schema :
    parseSettings (ascii "schema_version=1\n") = .ok {} ∧
      (Stable {} ↔ ¬ DoubledReturn (ascii "schema_version=1\n")) :=
  ⟨by decide +kernel, settings_stable_iff (by decide +kernel)⟩

/-- A value that ends in a carriage return loses it when the file is written and read again. -/
theorem settings_lose_return :
    ∃ s again, parseSettings (ascii "schema_version=1\ncustom_key=v\r\r\n") = .ok s ∧
      parseSettings (serializeSettings s) = .ok again ∧
      s.extras = [(ascii "custom_key", ascii "v\r")] ∧
      again.extras = [(ascii "custom_key", ascii "v")] ∧ ¬ Stable s := by
  refine ⟨{ extras := [(ascii "custom_key", ascii "v\r")] },
    { extras := [(ascii "custom_key", ascii "v")] }, by decide +kernel, by decide +kernel, rfl, rfl, ?_⟩
  rintro ⟨again, hparse, hsettled, -⟩
  have hread : parseSettings (serializeSettings { extras := [(ascii "custom_key", ascii "v\r")] }) =
      .ok { extras := [(ascii "custom_key", ascii "v")] } := by decide +kernel
  rw [hread, Except.ok.injEq] at hparse
  subst hparse
  exact absurd (congrArg Settings.extras hsettled) (by decide +kernel)

end Kf2Optimizer.Config
