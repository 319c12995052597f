/-
# Versions of the program

`semantic_version.cpp`: the versions that releases are named by, and the order in which one is an
update of another.

The reader cuts a text at the first `+`, the first `-` and the dots; it takes exactly the texts of
the grammar, up to 128 bytes and with core numbers of 32 bits (`parseSemanticVersion_eq_ok`).  It
keeps numeric identifiers as texts, so that they may be of any length, and compares two of them by
length and digits; that is their order as numbers (`compareIdentifier_eq`).
-/
import Kf2Optimizer.Lib.SemVer

namespace Kf2Optimizer.Update

open Text SemVer

/-! ## 1. Parsing -/

structure SemanticVersion where
  major : ℕ
  minor : ℕ
  patch : ℕ
  prerelease : List Bytes
  canonical : Bytes
deriving DecidableEq, Repr

/-- `parse_number`. -/
def parseNumber (value : Bytes) : Option ℕ := parseCanonical (2 ^ 32) value

/-- `valid_identifier`. -/
def validIdentifier (value : Bytes) : Bool :=
  decide (value ≠ []) && value.all fun ch => isDigit ch || isLetter ch || ch == hyphen

/-- `numeric_identifier`. -/
def numericIdentifier (value : Bytes) : Bool := decide (value ≠ []) && value.all isDigit

/-- `text.substr(0, text.find(b))`. -/
def before (b : UInt8) (text : Bytes) : Bytes :=
  match cut b text with
  | some (front, _) => front
  | none => text

/-- `text.substr(text.find(b) + 1)`, when there is one. -/
def behind (b : UInt8) (text : Bytes) : Option Bytes := (cut b text).map Prod.snd

/-- `if (text.starts_with('v')) text.remove_prefix(1)`. -/
def withoutV (text : Bytes) : Bytes := if text.head? = some 0x76 then text.tail else text

/-- The metadata behind a `+`, if there is one, is in order. -/
def validMetadata : Option Bytes → Bool
  | none => true
  | some build => decide (build ≠ []) && (build.splitOn dot).all validIdentifier

/-- The check of one pre-release identifier. -/
def validPrerelease (identifier : Bytes) : Bool :=
  validIdentifier identifier &&
    !(numericIdentifier identifier && decide (1 < identifier.length) &&
      decide (identifier.head? = some 0x30))

/-- `parse_semantic_version`. -/
def parseSemanticVersion (text : Bytes) : Except String SemanticVersion :=
  let text := withoutV text
  if text = [] ∨ 128 < text.length then .error "Version is invalid"
  else if !validMetadata (behind plus text) then .error "Version metadata is invalid"
  else
    let precedence := before plus text
    match (before hyphen precedence).splitOn dot with
    | [major, minor, patch] =>
      match parseNumber major, parseNumber minor, parseNumber patch with
      | some major, some minor, some patch =>
        match behind hyphen precedence with
        | none => .ok ⟨major, minor, patch, [], text⟩
        | some suffix =>
          let identifiers := suffix.splitOn dot
          if identifiers.all validPrerelease then .ok ⟨major, minor, patch, identifiers, text⟩
          else .error "Version prerelease identifier is invalid"
      | _, _, _ => .error "Version core is invalid"
    | _ => .error "Version must contain major, minor and patch numbers"

/-! ## 2. Comparing -/

/-- `compare_identifier`. -/
def compareIdentifier (left right : Bytes) : ℤ :=
  let leftNumeric := numericIdentifier left
  let rightNumeric := numericIdentifier right
  if leftNumeric && rightNumeric then
    if left.length ≠ right.length then (if left.length < right.length then -1 else 1)
    else if left = right then 0
    else if left < right then -1 else 1
  else if leftNumeric ≠ rightNumeric then (if leftNumeric then -1 else 1)
  else if left = right then 0
  else if left < right then -1 else 1

/-- The loop of `compare_semantic_versions` over the identifiers, and what it does behind it. -/
def comparePrerelease : List Bytes → List Bytes → ℤ
  | l :: left, r :: right =>
    let compared := compareIdentifier l r
    if compared ≠ 0 then compared else comparePrerelease left right
  | left, right =>
    if left.length = right.length then 0 else if left.length < right.length then -1 else 1

/-- `compare_semantic_versions`. -/
def compareSemanticVersions (left right : SemanticVersion) : ℤ :=
  if left.major ≠ right.major then (if left.major < right.major then -1 else 1)
  else if left.minor ≠ right.minor then (if left.minor < right.minor then -1 else 1)
  else if left.patch ≠ right.patch then (if left.patch < right.patch then -1 else 1)
  else if left.prerelease.isEmpty ≠ right.prerelease.isEmpty then
    (if left.prerelease.isEmpty then 1 else -1)
  else comparePrerelease left.prerelease right.prerelease

/-! ## 3. The grammar -/

/-- What is kept of a version. -/
def versionOf (g : SemVer.Version) : SemanticVersion where
  major := fromDigits g.major
  minor := fromDigits g.minor
  patch := fromDigits g.patch
  prerelease := g.prerelease
  canonical := g.text

/-- The text is this version, perhaps behind a `v`, and within the limits. -/
def Reads (text : Bytes) (g : SemVer.Version) : Prop :=
  (text = g.text ∨ text = 0x76 :: g.text) ∧ g.text.length ≤ 128 ∧
    fromDigits g.major < 2 ^ 32 ∧ fromDigits g.minor < 2 ^ 32 ∧ fromDigits g.patch < 2 ^ 32

theorem validIdentifier_iff {t : Bytes} : validIdentifier t = true ↔ BuildIdentifier t := by
  rw [buildIdentifier_iff]
  unfold validIdentifier
  rw [Bool.and_eq_true, decide_eq_true_iff]
  rfl

theorem validPrerelease_iff {t : Bytes} : validPrerelease t = true ↔ PrereleaseIdentifier t := by
  rw [prereleaseIdentifier_iff, ← buildIdentifier_iff, ← validIdentifier_iff]
  unfold validPrerelease numericIdentifier
  by_cases hne : t = []
  · subst hne
    decide
  · rw [Bool.and_eq_true, Bool.not_eq_true', ← Bool.not_eq_true]
    refine and_congr Iff.rfl (not_congr ?_)
    simp [hne, and_assoc]

theorem parseNumber_eq_some {t : Bytes} {n : ℕ} :
    parseNumber t = some n ↔ Numeric t ∧ fromDigits t = n ∧ n < 2 ^ 32 := by
  have hnumeric : ¬ (t = [] ∨ (1 < t.length ∧ t.head? = some (digit 0)) ∨ t.all isDigit = false) ↔
      Numeric t := by
    have hprerelease := prereleaseIdentifier_iff (t := t)
    constructor
    · intro h
      obtain ⟨hne, hzero, hall⟩ : t ≠ [] ∧ ¬ (1 < t.length ∧ t.head? = some 0x30) ∧
          t.all isDigit = true := by simpa [not_or, digit] using h
      refine (hprerelease.mpr ⟨⟨hne, ?_⟩, fun h => hzero h.2⟩).resolve_right fun h =>
        absurd (h.2.symm.trans hall) (by decide)
      exact List.all_eq_true.mpr fun b hb =>
        identifierCharacter_of_isDigit (List.all_eq_true.mp hall b hb)
    · intro h
      obtain ⟨⟨hne, -⟩, hzero⟩ := hprerelease.mp (.inl h)
      rintro (h' | h' | h')
      · exact hne h'
      · exact hzero ⟨h.2.1, h'⟩
      · exact absurd (h'.symm.trans h.2.1) (by decide)
  unfold parseNumber parseCanonical
  by_cases h : Numeric t
  · rw [if_neg (hnumeric.mpr h)]
    by_cases hlt : fromDigits t < 2 ^ 32
    · rw [if_pos hlt, Option.some_inj]
      exact ⟨fun heq => ⟨h, heq, heq ▸ hlt⟩, fun hall => hall.2.1⟩
    · rw [if_neg hlt]
      exact ⟨nofun, fun hall => absurd (hall.2.1 ▸ hall.2.2) hlt⟩
  · rw [if_pos (not_not.mp (hnumeric.not.mpr h))]
    exact ⟨nofun, fun hall => absurd hall.1 h⟩

theorem withoutV_of_head {t : Bytes} (h : t.head? ≠ some 0x76) : withoutV t = t := if_neg h

theorem withoutV_cons (t : Bytes) : withoutV (0x76 :: t) = t := rfl

/-- A text without its `v` is the text, or the text behind a `v`. -/
theorem eq_withoutV (t : Bytes) : t = withoutV t ∨ t = 0x76 :: withoutV t := by
  unfold withoutV
  split
  · rename_i h
    obtain ⟨rest, rfl⟩ := List.head?_eq_some_iff.mp h
    exact .inr rfl
  · exact .inl rfl

/-- A marked part is cut off at its mark. -/
theorem before_marked {b : UInt8} {p : Bytes} (hp : b ∉ p) (parts : List Bytes) :
    before b (p ++ marked b parts) = p := by
  unfold before marked
  by_cases h : parts = []
  · rw [if_pos h, List.append_nil, cut_of_not_mem hp]
  · rw [if_neg h, cut_append hp]

theorem behind_marked {b : UInt8} {p : Bytes} (hp : b ∉ p) (parts : List Bytes) :
    behind b (p ++ marked b parts) = if parts = [] then none else some (dotted parts) := by
  unfold behind marked
  by_cases h : parts = []
  · rw [if_pos h, if_pos h, List.append_nil, cut_of_not_mem hp]
    rfl
  · rw [if_neg h, if_neg h, cut_append hp]
    rfl

/-- The identifiers of a part. -/
def identifiersOf (part : Option Bytes) : List Bytes := part.elim [] (List.splitOn dot)

theorem splitOn_dot_ne_nil (t : Bytes) : t.splitOn dot ≠ [] := List.splitOn_ne_nil dot t

/-- Every text is what stands before a mark and the part behind it. -/
theorem eq_before_marked (b : UInt8) (t : Bytes) :
    t = before b t ++ marked b (identifiersOf (behind b t)) := by
  unfold before behind
  cases hcut : cut b t with
  | none => simp [identifiersOf, marked]
  | some p =>
    obtain ⟨ht, -⟩ := cut_eq_some (p := p.1) (q := p.2) hcut
    simpa [identifiersOf, marked, splitOn_dot_ne_nil, dotted_splitOn] using ht

/-- What an accepted text has passed. -/
structure Passes (t : Bytes) (v : SemanticVersion) : Prop where
  size : t ≠ [] ∧ t.length ≤ 128
  metadata : validMetadata (behind plus t) = true
  core : ∃ major minor patch : Bytes,
    (before hyphen (before plus t)).splitOn dot = [major, minor, patch] ∧
      parseNumber major = some v.major ∧ parseNumber minor = some v.minor ∧
      parseNumber patch = some v.patch
  prerelease : v.prerelease = identifiersOf (behind hyphen (before plus t)) ∧
    v.prerelease.all validPrerelease = true
  canonical : v.canonical = t

theorem passes_of_parse {text : Bytes} {v : SemanticVersion}
    (h : parseSemanticVersion text = .ok v) : Passes (withoutV text) v := by
  unfold parseSemanticVersion at h
  simp only at h
  split at h
  · cases h
  rename_i hsize
  split at h
  · cases h
  rename_i hmetadata
  rw [Bool.not_eq_true', Bool.not_eq_false] at hmetadata
  obtain ⟨hne, hlen⟩ := not_or.mp hsize
  split at h
  swap
  · cases h
  rename_i major minor patch hcore
  split at h
  swap
  · cases h
  rename_i x y z hx hy hz
  cases hsuffix : behind hyphen (before plus (withoutV text)) with
  | none =>
    simp only [hsuffix] at h
    obtain rfl := Except.ok.inj h
    exact ⟨⟨hne, not_lt.mp hlen⟩, hmetadata, ⟨major, minor, patch, hcore, hx, hy, hz⟩,
      ⟨by rw [hsuffix]; rfl, rfl⟩, rfl⟩
  | some suffix =>
    simp only [hsuffix] at h
    split at h
    · rename_i hall
      obtain rfl := Except.ok.inj h
      exact ⟨⟨hne, not_lt.mp hlen⟩, hmetadata, ⟨major, minor, patch, hcore, hx, hy, hz⟩,
        ⟨by rw [hsuffix]; rfl, hall⟩, rfl⟩
    · cases h

theorem parse_of_passes {text : Bytes} {v : SemanticVersion} (h : Passes (withoutV text) v) :
    parseSemanticVersion text = .ok v := by
  obtain ⟨⟨hne, hlen⟩, hmetadata, ⟨major, minor, patch, hcore, hx, hy, hz⟩,
    ⟨hprerelease, hall⟩, hcanonical⟩ := h
  unfold parseSemanticVersion
  simp only [hmetadata, hcore, hx, hy, hz, Bool.not_true, Bool.false_eq_true, if_false]
  rw [if_neg (not_or.mpr ⟨hne, not_lt.mpr hlen⟩)]
  cases hsuffix : behind hyphen (before plus (withoutV text)) with
  | none =>
    rw [hsuffix] at hprerelease
    simp only [← hcanonical, show ([] : List Bytes) = v.prerelease from hprerelease.symm]
  | some suffix =>
    rw [hsuffix] at hprerelease
    simp only [← hcanonical, show suffix.splitOn dot = v.prerelease from hprerelease.symm, hall,
      if_true]

theorem Numeric.not_mem {t : Bytes} (h : Numeric t) {b : UInt8} (hb : isDigit b = false) : b ∉ t :=
  fun hmem => absurd (hb.symm.trans (List.all_eq_true.mp h.2.1 b hmem)) (by decide)

theorem not_mem_core (g : SemVer.Version) {b : UInt8} (hb : isDigit b = false) (hdot : b ≠ dot) :
    b ∉ dotted [g.major, g.minor, g.patch] := by
  refine not_mem_dotted hdot fun i hi => ?_
  obtain ⟨hmajor, hminor, hpatch⟩ := g.core_numeric
  simp only [List.mem_cons, List.not_mem_nil, or_false] at hi
  rcases hi with rfl | rfl | rfl
  · exact Numeric.not_mem hmajor hb
  · exact Numeric.not_mem hminor hb
  · exact Numeric.not_mem hpatch hb

theorem prerelease_characters (g : SemVer.Version) :
    ∀ i ∈ g.prerelease, i.all identifierCharacter = true := fun i hi =>
  (prereleaseIdentifier_iff.mp (g.prerelease_valid i hi)).1.2

theorem build_characters (g : SemVer.Version) :
    ∀ i ∈ g.build, i.all identifierCharacter = true := fun i hi =>
  (buildIdentifier_iff.mp (g.build_valid i hi)).2

theorem plus_not_mem_unbuilt (g : SemVer.Version) : plus ∉ g.unbuilt := by
  unfold Version.unbuilt marked
  rw [List.mem_append, not_or]
  refine ⟨not_mem_core g (by decide) (by decide), ?_⟩
  split
  · exact List.not_mem_nil
  · rw [List.mem_cons, not_or]
    exact ⟨by decide, not_mem_dotted (by decide) fun i hi =>
      not_mem_of_characters (prerelease_characters g i hi) identifierCharacter_plus⟩

/-- A version starts with a digit. -/
theorem head_text (g : SemVer.Version) : g.text.head? ≠ some 0x76 := by
  obtain ⟨b, rest, hmajor⟩ := List.exists_cons_of_ne_nil g.core_numeric.1.1
  have hb : isDigit b = true :=
    List.all_eq_true.mp g.core_numeric.1.2.1 b (by rw [hmajor]; exact List.mem_cons_self)
  have htext : g.text.head? = some b := by
    simp [Version.text, Version.unbuilt, dotted, List.intercalate_cons_cons, hmajor]
  rw [htext]
  exact fun h => absurd hb (by rw [Option.some_inj.mp h]; decide)

theorem identifiersOf_marked {parts : List Bytes}
    (h : ∀ i ∈ parts, i.all identifierCharacter = true) :
    identifiersOf (if parts = [] then none else some (dotted parts)) = parts := by
  split
  · rename_i hnil
    exact hnil.symm
  · rename_i hne
    exact splitOn_dotted hne h

/-- A version of the grammar passes. -/
theorem passes_text {g : SemVer.Version} (hlen : g.text.length ≤ 128)
    (hmajor : fromDigits g.major < 2 ^ 32) (hminor : fromDigits g.minor < 2 ^ 32)
    (hpatch : fromDigits g.patch < 2 ^ 32) : Passes g.text (versionOf g) := by
  have hcore := not_mem_core g isDigit_hyphen (by decide)
  have hbefore : before plus g.text = g.unbuilt := before_marked (plus_not_mem_unbuilt g) g.build
  have hbehind := behind_marked (plus_not_mem_unbuilt g) g.build
  have hfront : before hyphen g.unbuilt = dotted [g.major, g.minor, g.patch] :=
    before_marked hcore g.prerelease
  have hsuffix := behind_marked hcore g.prerelease
  refine ⟨⟨?_, hlen⟩, ?_, ⟨g.major, g.minor, g.patch, ?_, ?_⟩, ⟨?_, ?_⟩, rfl⟩
  · intro hnil
    have hmem : (g.text).length = 0 := by rw [hnil]; rfl
    have hpos := List.length_pos_of_ne_nil g.core_numeric.1.1
    simp [Version.text, Version.unbuilt, dotted, List.intercalate_cons_cons] at hmem
  · have hvalid : ∀ i ∈ g.build, validIdentifier i = true := fun i hi =>
      validIdentifier_iff.mpr (g.build_valid i hi)
    change validMetadata (behind plus (g.unbuilt ++ marked plus g.build)) = true
    rw [hbehind]
    split
    · rfl
    · rename_i hne
      have hdotted : dotted g.build ≠ [] := fun hnil => by
        have hsplit := splitOn_dotted hne (build_characters g)
        rw [hnil] at hsplit
        have hempty := g.build_valid [] (by rw [← hsplit]; exact List.mem_singleton_self [])
        exact (buildIdentifier_iff.mp hempty).1 rfl
      simpa [validMetadata, hdotted, splitOn_dotted hne (build_characters g)] using hvalid
  · rw [hbefore, hfront]
    refine splitOn_dotted (by simp) fun i hi => ?_
    simp only [List.mem_cons, List.not_mem_nil, or_false] at hi
    rcases hi with rfl | rfl | rfl
    · exact g.core_numeric.1.characters
    · exact g.core_numeric.2.1.characters
    · exact g.core_numeric.2.2.characters
  · exact ⟨parseNumber_eq_some.mpr ⟨g.core_numeric.1, rfl, hmajor⟩,
      parseNumber_eq_some.mpr ⟨g.core_numeric.2.1, rfl, hminor⟩,
      parseNumber_eq_some.mpr ⟨g.core_numeric.2.2, rfl, hpatch⟩⟩
  · rw [hbefore]
    exact ((congrArg identifiersOf hsuffix).trans
      (identifiersOf_marked (prerelease_characters g))).symm
  · exact List.all_eq_true.mpr fun i hi => validPrerelease_iff.mpr (g.prerelease_valid i hi)

/-- What passes is a version of the grammar. -/
theorem exists_of_passes {t : Bytes} {v : SemanticVersion} (h : Passes t v) :
    ∃ g : SemVer.Version, g.text = t ∧ versionOf g = v ∧ fromDigits g.major < 2 ^ 32 ∧
      fromDigits g.minor < 2 ^ 32 ∧ fromDigits g.patch < 2 ^ 32 := by
  obtain ⟨-, hmetadata, ⟨major, minor, patch, hcore, hx, hy, hz⟩, ⟨hprerelease, hall⟩,
    hcanonical⟩ := h
  obtain ⟨hmajor, hx, hxlt⟩ := parseNumber_eq_some.mp hx
  obtain ⟨hminor, hy, hylt⟩ := parseNumber_eq_some.mp hy
  obtain ⟨hpatch, hz, hzlt⟩ := parseNumber_eq_some.mp hz
  have hbuild : ∀ i ∈ identifiersOf (behind plus t), BuildIdentifier i := by
    cases hsuffix : behind plus t with
    | none => exact fun i hi => absurd hi List.not_mem_nil
    | some build =>
      rw [hsuffix] at hmetadata
      have hvalid := List.all_eq_true.mp ((Bool.and_eq_true _ _).mp hmetadata).2
      exact fun i hi => validIdentifier_iff.mp (hvalid i hi)
  let g : SemVer.Version :=
    { major, minor, patch
      prerelease := v.prerelease
      build := identifiersOf (behind plus t)
      core_numeric := ⟨hmajor, hminor, hpatch⟩
      prerelease_valid := fun i hi => validPrerelease_iff.mp (List.all_eq_true.mp hall i hi)
      build_valid := hbuild }
  have htext : g.text = t := by
    change (dotted [major, minor, patch] ++ marked hyphen v.prerelease) ++
      marked plus (identifiersOf (behind plus t)) = t
    rw [← hcore, dotted_splitOn, hprerelease, ← eq_before_marked, ← eq_before_marked]
  refine ⟨g, htext, ?_, hx ▸ hxlt, hy ▸ hylt, hz ▸ hzlt⟩
  obtain ⟨vmajor, vminor, vpatch, vprerelease, vcanonical⟩ := v
  unfold versionOf
  rw [htext]
  simp only [SemanticVersion.mk.injEq]
  exact ⟨hx, hy, hz, rfl, hcanonical.symm⟩

/-- **The reader accepts the grammar**, and nothing else. -/
theorem parseSemanticVersion_eq_ok {text : Bytes} {v : SemanticVersion} :
    parseSemanticVersion text = .ok v ↔ ∃ g, Reads text g ∧ versionOf g = v := by
  constructor
  · intro h
    have hpasses := passes_of_parse h
    obtain ⟨g, htext, hv, hmajor, hminor, hpatch⟩ := exists_of_passes hpasses
    refine ⟨g, ⟨?_, htext ▸ hpasses.size.2, hmajor, hminor, hpatch⟩, hv⟩
    rw [htext]
    exact eq_withoutV text
  · rintro ⟨g, ⟨htext, hlen, hmajor, hminor, hpatch⟩, rfl⟩
    refine parse_of_passes ?_
    have hv : withoutV text = g.text := by
      rcases htext with rfl | rfl
      · exact withoutV_of_head (head_text g)
      · exact withoutV_cons _
    rw [hv]
    exact passes_text hlen hmajor hminor hpatch

/-! ## 4. The order -/

/-- The `int` that stands for an order. -/
def signOf : Ordering → ℤ
  | .lt => -1
  | .eq => 0
  | .gt => 1

theorem signOf_swap : ∀ c : Ordering, signOf c.swap = -signOf c
  | .lt => rfl
  | .eq => rfl
  | .gt => rfl

/-- `if (a != b) return a < b ? -1 : 1;` and what comes behind it. -/
theorem signOf_then {α : Type} [LinearOrder α] (a b : α) (c : Ordering) :
    signOf ((order a b).then c) = if a ≠ b then (if a < b then -1 else 1) else signOf c := by
  obtain h | rfl | h := lt_trichotomy a b
  · rw [order_eq_lt.mpr h, if_pos h.ne, if_pos h]
    rfl
  · rw [order_eq_eq.mpr rfl, if_neg (not_not.mpr rfl), Ordering.eq_then]
  · rw [order_eq_gt.mpr h, if_pos h.ne', if_neg h.asymm]
    rfl

theorem numericIdentifier_of {t : Bytes} (h : PrereleaseIdentifier t) :
    numericIdentifier t = t.all isDigit := by
  have hne := (prereleaseIdentifier_iff.mp h).1.1
  simp [numericIdentifier, hne]

theorem numeric_of {t : Bytes} (h : PrereleaseIdentifier t) (hdigits : t.all isDigit = true) :
    Numeric t :=
  h.resolve_right fun h => absurd (h.2.symm.trans hdigits) (by decide)

/-- **Identifiers are compared as SemVer does.** -/
theorem compareIdentifier_eq {l r : Bytes} (hl : PrereleaseIdentifier l)
    (hr : PrereleaseIdentifier r) :
    compareIdentifier l r = signOf (order (identifierRank l) (identifierRank r)) := by
  unfold compareIdentifier
  rw [numericIdentifier_of hl, numericIdentifier_of hr]
  have hinj := identifierRank_inj hl hr
  cases hld : l.all isDigit <;> cases hrd : r.all isDigit <;>
    simp only [Bool.false_eq_true, Bool.true_eq_false, Bool.and_self, Bool.and_true, Bool.and_false,
      if_false, if_true, ne_eq, not_true, not_false_eq_true]
  · -- Two texts.
    rw [identifierRank_of_not_digits hld, identifierRank_of_not_digits hrd] at hinj ⊢
    by_cases heq : l = r
    · subst heq
      rw [if_pos rfl, order_eq_eq.mpr rfl]
      rfl
    · rw [if_neg heq]
      by_cases hlt : l < r
      · rw [if_pos hlt, order_eq_lt.mpr (Sum.Lex.inr_lt_inr_iff.mpr (map_toNat_lt_iff.mpr hlt))]
        rfl
      · rw [if_neg hlt, order_eq_gt.mpr]
        · rfl
        · refine lt_of_le_of_ne (not_lt.mp fun h => hlt ?_) fun h => heq (hinj h.symm)
          exact map_toNat_lt_iff.mp (Sum.Lex.inr_lt_inr_iff.mp h)
  · -- A text and a number.
    rw [identifierRank_of_not_digits hld, identifierRank_of_digits hrd,
      order_eq_gt.mpr (Sum.Lex.inl_lt_inr _ _)]
    rfl
  · -- A number and a text.
    rw [identifierRank_of_digits hld, identifierRank_of_not_digits hrd,
      order_eq_lt.mpr (Sum.Lex.inl_lt_inr _ _)]
    rfl
  · -- Two numbers.
    have hlt := (numeric_of hl hld).fromDigits_lt_iff (numeric_of hr hrd)
    rw [identifierRank_of_digits hld, identifierRank_of_digits hrd] at hinj ⊢
    rw [← Sum.Lex.inl_lt_inl_iff (β := List ℕ)] at hlt
    obtain h | h | h := lt_trichotomy (toLex (Sum.inl (fromDigits l)) : ℕ ⊕ₗ List ℕ)
      (toLex (Sum.inl (fromDigits r)))
    · rw [order_eq_lt.mpr h]
      obtain hlen | ⟨hlen, hlt⟩ := hlt.mp h
      · rw [if_pos hlen.ne, if_pos hlen]
        rfl
      · have hne : l ≠ r := by
          rintro rfl
          exact lt_irrefl _ h
        rw [if_neg (not_not.mpr hlen), if_neg hne, if_pos hlt]
        rfl
    · obtain rfl := hinj h
      rw [order_eq_eq.mpr rfl]
      simp [signOf]
    · rw [order_eq_gt.mpr h]
      have hnot := hlt.not.mp h.asymm
      have hne : l ≠ r := by
        rintro rfl
        exact lt_irrefl _ h
      by_cases hlen : l.length = r.length
      · rw [if_neg (not_not.mpr hlen), if_neg hne, if_neg fun hlt => hnot (.inr ⟨hlen, hlt⟩)]
        rfl
      · rw [if_pos hlen, if_neg fun hlt => hnot (.inl hlt)]
        rfl

/-- Lists of identifiers are compared from left to right, and a list is below its extensions. -/
theorem comparePrerelease_eq : ∀ {left right : List Bytes},
    (∀ i ∈ left, PrereleaseIdentifier i) → (∀ i ∈ right, PrereleaseIdentifier i) →
    comparePrerelease left right =
      signOf (order (left.map identifierRank) (right.map identifierRank))
  | [], [], _, _ => rfl
  | [], r :: right, _, _ => by
    rw [order_eq_lt.mpr (List.nil_lt_cons _ _)]
    simp [comparePrerelease, signOf]
  | l :: left, [], _, _ => by
    rw [order_eq_gt.mpr (List.nil_lt_cons _ _)]
    simp [comparePrerelease, signOf]
  | l :: left, r :: right, hl, hr => by
    have htail := comparePrerelease_eq (fun i hi => hl i (List.mem_cons_of_mem l hi))
      fun i hi => hr i (List.mem_cons_of_mem r hi)
    rw [List.map_cons, List.map_cons, order_cons]
    unfold comparePrerelease
    rw [compareIdentifier_eq (hl l List.mem_cons_self) (hr r List.mem_cons_self), htail]
    cases order (identifierRank l) (identifierRank r) <;> simp [signOf]

/-- A release is above its pre-releases. -/
theorem comparePrerelease_rank {left right : List Bytes}
    (hl : ∀ i ∈ left, PrereleaseIdentifier i) (hr : ∀ i ∈ right, PrereleaseIdentifier i) :
    (if left.isEmpty ≠ right.isEmpty then (if left.isEmpty then 1 else -1)
      else comparePrerelease left right) =
        signOf (order (prereleaseRank left) (prereleaseRank right)) := by
  have hlists := comparePrerelease_eq hl hr
  cases left with
  | nil =>
    cases right with
    | nil => rfl
    | cons r right =>
      rw [order_eq_gt.mpr (WithTop.coe_lt_top _)]
      rfl
  | cons l left =>
    cases right with
    | nil =>
      rw [order_eq_lt.mpr (WithTop.coe_lt_top _)]
      rfl
    | cons r right =>
      have hcoe : order (prereleaseRank (l :: left)) (prereleaseRank (r :: right)) =
          order ((l :: left).map identifierRank) ((r :: right).map identifierRank) := by
        obtain hlt | heq | hgt :=
          lt_trichotomy ((l :: left).map identifierRank) ((r :: right).map identifierRank)
        · rw [order_eq_lt.mpr hlt]
          exact order_eq_lt.mpr (WithTop.coe_lt_coe.mpr hlt)
        · rw [order_eq_eq.mpr heq]
          exact order_eq_eq.mpr (congrArg WithTop.some heq)
        · rw [order_eq_gt.mpr hgt]
          exact order_eq_gt.mpr (WithTop.coe_lt_coe.mpr hgt)
      rw [hcoe, ← hlists]
      exact if_neg (not_not.mpr rfl)

/-- **Versions are compared by precedence.** -/
theorem compareSemanticVersions_eq (g h : SemVer.Version) :
    compareSemanticVersions (versionOf g) (versionOf h) =
      signOf (order g.precedence h.precedence) := by
  unfold compareSemanticVersions Version.precedence
  rw [order_toLex, signOf_then, order_toLex, signOf_then, order_toLex, signOf_then]
  exact if_congr Iff.rfl rfl (if_congr Iff.rfl rfl (if_congr Iff.rfl rfl
    (comparePrerelease_rank g.prerelease_valid h.prerelease_valid)))

theorem signOf_le_zero {α : Type} [LinearOrder α] {a b : α} :
    signOf (order a b) ≤ 0 ↔ a ≤ b := by
  obtain h | h | h := lt_trichotomy a b
  · rw [order_eq_lt.mpr h]
    exact iff_of_true (by decide) h.le
  · rw [order_eq_eq.mpr h]
    exact iff_of_true (by decide) h.le
  · rw [order_eq_gt.mpr h]
    exact iff_of_false (by decide) (not_le.mpr h)

/-- Lists of identifiers of one rank are one list. -/
theorem prereleaseRank_inj {left right : List Bytes}
    (hl : ∀ i ∈ left, PrereleaseIdentifier i) (hr : ∀ i ∈ right, PrereleaseIdentifier i)
    (h : prereleaseRank left = prereleaseRank right) : left = right := by
  have hmap : left.map identifierRank = right.map identifierRank → left = right := by
    clear h
    induction left generalizing right with
    | nil => exact fun h => (List.map_eq_nil_iff.mp h.symm).symm
    | cons l left ih =>
      intro h
      cases right with
      | nil => cases h
      | cons r right =>
        obtain ⟨hhead, htail⟩ := List.cons_eq_cons.mp h
        rw [identifierRank_inj (hl l List.mem_cons_self) (hr r List.mem_cons_self) hhead,
          ih (fun i hi => hl i (List.mem_cons_of_mem l hi))
            (fun i hi => hr i (List.mem_cons_of_mem r hi)) htail]
  unfold prereleaseRank at h
  split at h <;> split at h
  · rename_i hleft hright
    rw [hleft, hright]
  · cases h
  · cases h
  · exact hmap (WithTop.coe_injective h)

/-- Versions that compare equal differ in their build metadata alone. -/
theorem compare_eq_zero {g h : SemVer.Version}
    (hzero : compareSemanticVersions (versionOf g) (versionOf h) = 0) :
    fromDigits g.major = fromDigits h.major ∧ fromDigits g.minor = fromDigits h.minor ∧
      fromDigits g.patch = fromDigits h.patch ∧ g.prerelease = h.prerelease := by
  have heq : g.precedence = h.precedence := by
    rw [compareSemanticVersions_eq] at hzero
    cases horder : order g.precedence h.precedence with
    | lt => rw [horder] at hzero; cases hzero
    | eq => exact order_eq_eq.mp horder
    | gt => rw [horder] at hzero; cases hzero
  obtain ⟨hmajor, heq⟩ := Prod.mk.inj (toLex.injective heq)
  obtain ⟨hminor, heq⟩ := Prod.mk.inj (toLex.injective heq)
  obtain ⟨hpatch, heq⟩ := Prod.mk.inj (toLex.injective heq)
  exact ⟨hmajor, hminor, hpatch, prereleaseRank_inj g.prerelease_valid h.prerelease_valid heq⟩

/-- A comparison reads the core and the pre-release alone. -/
theorem compare_congr {a b c : SemanticVersion} (h : a.major = b.major ∧ a.minor = b.minor ∧
    a.patch = b.patch ∧ a.prerelease = b.prerelease) :
    compareSemanticVersions a c = compareSemanticVersions b c ∧
      compareSemanticVersions c a = compareSemanticVersions c b := by
  obtain ⟨hmajor, hminor, hpatch, hprerelease⟩ := h
  unfold compareSemanticVersions
  rw [hmajor, hminor, hpatch, hprerelease]
  exact ⟨rfl, rfl⟩

/-- What stands before the `+` decides the core and the pre-release. -/
theorem Passes.congr {t t' : Bytes} {a b : SemanticVersion} (ha : Passes t a) (hb : Passes t' b)
    (h : before plus t = before plus t') : a.major = b.major ∧ a.minor = b.minor ∧
      a.patch = b.patch ∧ a.prerelease = b.prerelease := by
  obtain ⟨major, minor, patch, hcore, hx, hy, hz⟩ := ha.core
  obtain ⟨major', minor', patch', hcore', hx', hy', hz'⟩ := hb.core
  rw [h, hcore'] at hcore
  cases hcore
  refine ⟨Option.some_inj.mp (hx.symm.trans hx'), Option.some_inj.mp (hy.symm.trans hy'),
    Option.some_inj.mp (hz.symm.trans hz'), ?_⟩
  rw [ha.prerelease.1, hb.prerelease.1, h]

theorem before_cons (b x : UInt8) (t : Bytes) :
    before b (x :: t) = if x = b then [] else x :: before b t := by
  unfold before
  by_cases hx : x = b
  · simp [cut, hx]
  · cases hcut : cut b t <;> simp [cut, hx, hcut]

theorem before_append_mark (b : UInt8) (p m : Bytes) : before b (p ++ b :: m) = before b p := by
  induction p with
  | nil => simp [before, cut]
  | cons x p ih => rw [List.cons_append, before_cons, before_cons, ih]

theorem withoutV_append {p : Bytes} (hp : p ≠ []) (q : Bytes) :
    withoutV (p ++ q) = withoutV p ++ q := by
  obtain ⟨b, rest, rfl⟩ := List.exists_cons_of_ne_nil hp
  unfold withoutV
  by_cases hb : b = 0x76 <;> simp [hb]

/-- **The order of versions is SemVer's.**  The reader accepts the texts of the grammar, perhaps
behind a `v`, up to 128 bytes and with core numbers of 32 bits, and keeps what they say; on what it
accepts, a comparison is that of the precedences, so that it is antisymmetric, transitive and total,
and does not see build metadata. -/
theorem version_order :
    (∀ text v, parseSemanticVersion text = .ok v ↔ ∃ g, Reads text g ∧ versionOf g = v) ∧
    (∀ g h, compareSemanticVersions (versionOf g) (versionOf h) =
      signOf (order g.precedence h.precedence)) ∧
    (∀ s t a b, parseSemanticVersion s = .ok a → parseSemanticVersion t = .ok b →
      compareSemanticVersions b a = -compareSemanticVersions a b ∧
        (compareSemanticVersions a b ≤ 0 ∨ compareSemanticVersions b a ≤ 0) ∧
        (compareSemanticVersions a b = 0 → a.major = b.major ∧ a.minor = b.minor ∧
          a.patch = b.patch ∧ a.prerelease = b.prerelease)) ∧
    (∀ s t u a b c, parseSemanticVersion s = .ok a → parseSemanticVersion t = .ok b →
      parseSemanticVersion u = .ok c → compareSemanticVersions a b ≤ 0 →
      compareSemanticVersions b c ≤ 0 → compareSemanticVersions a c ≤ 0) ∧
    ∀ p m s a b c, parseSemanticVersion p = .ok a → parseSemanticVersion (p ++ plus :: m) = .ok b →
      parseSemanticVersion s = .ok c →
      compareSemanticVersions a b = 0 ∧
        compareSemanticVersions a c = compareSemanticVersions b c ∧
        compareSemanticVersions c a = compareSemanticVersions c b := by
  refine ⟨fun text v => parseSemanticVersion_eq_ok, compareSemanticVersions_eq, ?_, ?_, ?_⟩
  · intro s t a b ha hb
    obtain ⟨g, -, rfl⟩ := parseSemanticVersion_eq_ok.mp ha
    obtain ⟨h, -, rfl⟩ := parseSemanticVersion_eq_ok.mp hb
    refine ⟨?_, ?_, compare_eq_zero⟩
    · rw [compareSemanticVersions_eq, compareSemanticVersions_eq, ← order_swap, signOf_swap]
    · rw [compareSemanticVersions_eq, compareSemanticVersions_eq, signOf_le_zero, signOf_le_zero]
      exact le_total _ _
  · intro s t u a b c ha hb hc hab hbc
    obtain ⟨g, -, rfl⟩ := parseSemanticVersion_eq_ok.mp ha
    obtain ⟨h, -, rfl⟩ := parseSemanticVersion_eq_ok.mp hb
    obtain ⟨k, -, rfl⟩ := parseSemanticVersion_eq_ok.mp hc
    rw [compareSemanticVersions_eq, signOf_le_zero] at hab hbc ⊢
    exact hab.trans hbc
  · intro p m s a b c ha hb hc
    have hpa := passes_of_parse ha
    have hne : p ≠ [] := by
      rintro rfl
      exact hpa.size.1 rfl
    have hsame := hpa.congr (passes_of_parse hb) (by
      rw [withoutV_append hne, before_append_mark])
    obtain ⟨h, -, rfl⟩ := parseSemanticVersion_eq_ok.mp hb
    refine ⟨?_, (compare_congr hsame).1, (compare_congr hsame).2⟩
    rw [(compare_congr hsame).1, compareSemanticVersions_eq, order_eq_eq.mpr rfl]
    rfl

end Kf2Optimizer.Update
