/-
# The state of the checks comes back

A state that passes the writer's checks is read back as it was (`parse_lines`), and every run of the
controller keeps its state one that passes (`valid_run`), as long as no release has a version of more
than 64 bytes: the release reader takes versions up to 128.  A controller of what was kept then
answers as the one it was kept from does (`decisions_restored`), unless that one is in the middle of
a check or an installation, of which nothing is kept.
-/
import Kf2Optimizer.Update.ReleaseSelection
import Kf2Optimizer.Update.UpdateState

namespace Kf2Optimizer.Update

open Text Files Platform Game

/-! ## 1. The file -/

/-- A state that is written, and that is read. -/
structure PersistedUpdateState.Valid (s : PersistedUpdateState) : Prop where
  check : 0 ≤ s.lastCheckUnixSeconds ∧ s.lastCheckUnixSeconds < 2 ^ 63
  attempt : 0 ≤ s.lastAttemptUnixSeconds ∧ s.lastAttemptUnixSeconds < 2 ^ 63
  failures : s.automaticFailureCount < 2 ^ 32
  retry : 0 < s.automaticFailureCount → s.lastAttemptUnixSeconds ≠ 0
  available : s.lastResult = .available → validCachedVersion s.availableVersion = true
  other : s.lastResult ≠ .available → s.availableVersion = []
  ignored : s.ignoredVersion ≠ [] → validCachedVersion s.ignoredVersion = true

theorem valid_default : ({} : PersistedUpdateState).Valid :=
  ⟨⟨le_refl _, by decide⟩, ⟨le_refl _, by decide⟩, by decide, nofun, nofun, fun _ => rfl,
    fun h => absurd rfl h⟩

theorem encode_of_valid {s : PersistedUpdateState} (h : s.Valid) :
    encodeUpdateState s = .ok (Text.lines s.lines) := by
  unfold encodeUpdateState
  rw [if_neg, if_neg, if_neg]
  · rintro ⟨hne, hinvalid⟩
    rw [h.ignored hne] at hinvalid
    cases hinvalid
  · rintro (⟨hresult, hinvalid⟩ | ⟨hresult, hne⟩)
    · rw [h.available hresult] at hinvalid
      cases hinvalid
    · exact hne (h.other hresult)
  · rintro (hneg | hneg | ⟨hcount, hzero⟩)
    · exact absurd h.check.1 (not_le.mpr hneg)
    · exact absurd h.attempt.1 (not_le.mpr hneg)
    · exact h.retry hcount hzero

theorem validCachedVersion_iff {v : Bytes} : validCachedVersion v = true ↔
    v.length ≤ 64 ∧ ∃ g : SemVer.Version, g.text = v ∧ Reads v g := by
  unfold validCachedVersion
  constructor
  · intro h
    simp only [Bool.and_eq_true, decide_eq_true_eq] at h
    obtain ⟨⟨-, hlength⟩, hparse⟩ := h
    cases hv : parseSemanticVersion v with
    | error e =>
      rw [hv] at hparse
      cases hparse
    | ok parsed =>
      rw [hv] at hparse
      obtain ⟨g, hg, rfl⟩ := parseSemanticVersion_eq_ok.mp hv
      exact ⟨hlength, g, of_decide_eq_true hparse, hg⟩
  · rintro ⟨hlength, g, rfl, hg⟩
    have hne : g.text ≠ [] := by
      intro hnil
      have hpos := List.length_pos_of_ne_nil g.core_numeric.1.1
      have hzero : g.text.length = 0 := by
        rw [hnil]
        rfl
      simp [SemVer.Version.text, SemVer.Version.unbuilt, SemVer.dotted,
        List.intercalate_cons_cons] at hzero
    rw [parseSemanticVersion_eq_ok.mpr ⟨g, hg, rfl⟩]
    simp [hne, hlength, versionOf]

/-- A version has no line break. -/
theorem lf_not_mem_version (g : SemVer.Version) : lf ∉ g.text := by
  unfold SemVer.Version.text SemVer.Version.unbuilt SemVer.marked
  simp only [List.mem_append, not_or]
  refine ⟨⟨not_mem_core g (by decide) (by decide), ?_⟩, ?_⟩
  · split_ifs
    · exact List.not_mem_nil
    · exact List.not_mem_cons_of_ne_of_not_mem (by decide)
        (SemVer.not_mem_dotted (by decide) fun i hi =>
          SemVer.not_mem_of_characters (prerelease_characters g i hi) (by decide))
  · split_ifs
    · exact List.not_mem_nil
    · exact List.not_mem_cons_of_ne_of_not_mem (by decide)
        (SemVer.not_mem_dotted (by decide) fun i hi =>
          SemVer.not_mem_of_characters (build_characters g i hi) (by decide))

theorem lf_not_mem_of_valid {v : Bytes} (h : v ≠ [] → validCachedVersion v = true) : lf ∉ v := by
  by_cases hv : v = []
  · rw [hv]
    exact List.not_mem_nil
  · obtain ⟨-, g, rfl, -⟩ := validCachedVersion_iff.mp (h hv)
    exact lf_not_mem_version g

theorem length_le_of_valid {v : Bytes} (h : v ≠ [] → validCachedVersion v = true) :
    v.length ≤ 64 := by
  by_cases hv : v = []
  · simp [hv]
  · exact (validCachedVersion_iff.mp (h hv)).1

theorem parseTimestamp_toText {n : ℤ} (h : 0 ≤ n ∧ n < 2 ^ 63) : parseTimestamp (toText n) = .ok n := by
  obtain ⟨hnonneg, hlt⟩ := h
  have hlt' : n.toNat < 2 ^ 63 := by omega
  have hread : fromCharsInt64 (decimal n.toNat) = some n := by
    unfold fromCharsInt64
    rw [if_neg (numeral_decimal _).head_ne, fromChars_eq_some.mpr ⟨numeral_decimal _, hlt'⟩,
      Option.map_some, Int.ofNat_eq_natCast, Int.toNat_of_nonneg hnonneg]
  unfold parseTimestamp
  rw [toText_of_nonneg hnonneg, hread, Option.filter_some, decide_eq_true hnonneg]
  rfl

theorem lf_not_mem_toText {n : ℤ} (h : 0 ≤ n) : lf ∉ toText n := by
  rw [toText_of_nonneg h]
  exact not_mem_decimal (by decide)

theorem PersistedUpdateState.Valid.version {s : PersistedUpdateState} (h : s.Valid)
    (hne : s.availableVersion ≠ []) : validCachedVersion s.availableVersion = true :=
  h.available (by_contra fun hresult => hne (h.other hresult))

theorem lf_not_mem_lines {s : PersistedUpdateState} (h : s.Valid) : ∀ r ∈ s.lines, lf ∉ r := by
  have hresult : lf ∉ s.lastResult.text := by cases s.lastResult <;> decide
  simp only [PersistedUpdateState.lines, List.forall_mem_cons, List.mem_append, not_or]
  exact ⟨by decide, ⟨by decide, lf_not_mem_toText h.check.1⟩,
    ⟨by decide, lf_not_mem_toText h.attempt.1⟩, ⟨by decide, not_mem_decimal (by decide)⟩,
    ⟨by decide, hresult⟩, ⟨by decide, lf_not_mem_of_valid h.version⟩,
    ⟨by decide, lf_not_mem_of_valid h.ignored⟩, List.forall_mem_nil _⟩

theorem getlines_lines {rs : List Bytes} (h : ∀ r ∈ rs, lf ∉ r) : getlines (Text.lines rs) = rs := by
  unfold getlines
  rw [splitOn_lines h]
  simp

theorem parseCachedResult_text {s : PersistedUpdateState} (h : s.Valid) :
    parseCachedResult s.lastResult.text s.availableVersion = .ok s.lastResult := by
  unfold parseCachedResult
  cases hresult : s.lastResult with
  | unknown =>
    rw [h.other (by rw [hresult]; decide)]
    rfl
  | current =>
    rw [h.other (by rw [hresult]; decide)]
    rfl
  | available =>
    rw [h.available hresult]
    rfl

/-- **A state that is written is read.** -/
theorem parse_lines {s : PersistedUpdateState} (h : s.Valid) :
    parseUpdateState (Text.lines s.lines) = .ok s := by
  have hlegacy : after legacyPrefix (Text.lines s.lines) = none := by
    refine if_neg ?_
    rintro ⟨rest, hrest⟩
    have hbyte : some (0x31 : UInt8) = some 0x33 := congrArg (fun text => text[15]?) hrest
    exact absurd hbyte (by decide)
  have hvalues : stateValues s.lines = some ⟨toText s.lastCheckUnixSeconds,
      some (toText s.lastAttemptUnixSeconds, decimal s.automaticFailureCount), s.lastResult.text,
      s.availableVersion, s.ignoredVersion⟩ := by
    simp [stateValues, PersistedUpdateState.lines]
  have hretry : parseRetry (some (toText s.lastAttemptUnixSeconds, decimal s.automaticFailureCount)) =
      .ok (s.lastAttemptUnixSeconds, s.automaticFailureCount) := by
    have hcount := fromChars_eq_some.mpr ⟨numeral_decimal _, h.failures⟩
    simp only [parseRetry, parseFailureCount, parseTimestamp_toText h.attempt, hcount]
    exact if_neg fun hcount => h.retry hcount.1 hcount.2
  unfold parseUpdateState
  rw [hlegacy, getlines_lines (lf_not_mem_lines h), hvalues]
  simp only [Option.filter_none]
  rw [parseTimestamp_toText h.check, hretry, parseCachedResult_text h]
  refine if_neg ?_
  rintro ⟨hne, hinvalid⟩
  rw [h.ignored hne] at hinvalid
  cases hinvalid

theorem length_lines_le {s : PersistedUpdateState} (h : s.Valid) :
    (Text.lines s.lines).length ≤ 384 := by
  have hcheck : (toText s.lastCheckUnixSeconds).length ≤ 19 := by
    rw [toText_of_nonneg h.check.1]
    exact length_decimal_le (by decide) (by have := h.check.2; omega)
  have hattempt : (toText s.lastAttemptUnixSeconds).length ≤ 19 := by
    rw [toText_of_nonneg h.attempt.1]
    exact length_decimal_le (by decide) (by have := h.attempt.2; omega)
  have hfailures : (decimal s.automaticFailureCount).length ≤ 10 :=
    length_decimal_le (by decide) (by have := h.failures; omega)
  have hresult : s.lastResult.text.length ≤ 9 := by cases s.lastResult <;> decide
  have hversion := length_le_of_valid h.version
  have hignored := length_le_of_valid h.ignored
  have hkeys : (ascii "schema_version=3").length = 16 ∧ timestampKey.length = 24 ∧
      attemptKey.length = 26 ∧ failureCountKey.length = 24 ∧ resultKey.length = 12 ∧
      versionKey.length = 18 ∧ ignoredKey.length = 16 := by decide
  rw [length_lines]
  simp only [PersistedUpdateState.lines, List.map_cons, List.map_nil, List.sum_cons, List.sum_nil,
    List.length_append]
  omega

theorem parseTimestamp_bounds {text : Bytes} {n : ℤ} (h : parseTimestamp text = .ok n) :
    0 ≤ n ∧ n < 2 ^ 63 := by
  unfold parseTimestamp at h
  split at h
  · rename_i parsed hparsed
    obtain rfl := Except.ok.inj h
    obtain ⟨hread, hnonneg⟩ := Option.filter_eq_some_iff.mp hparsed
    have hnonneg := of_decide_eq_true hnonneg
    refine ⟨hnonneg, ?_⟩
    unfold fromCharsInt64 at hread
    split at hread
    · obtain ⟨m, -, rfl⟩ := Option.map_eq_some_iff.mp hread
      rw [Int.ofNat_eq_natCast]
      omega
    · obtain ⟨m, hm, rfl⟩ := Option.map_eq_some_iff.mp hread
      have hlt := (fromChars_eq_some.mp hm).2
      rw [Int.ofNat_eq_natCast]
      omega
  · cases h

theorem parseRetry_valid {retry : Option (Bytes × Bytes)} {attempt : ℤ} {count : ℕ}
    (h : parseRetry retry = .ok (attempt, count)) :
    (0 ≤ attempt ∧ attempt < 2 ^ 63) ∧ count < 2 ^ 32 ∧ (0 < count → attempt ≠ 0) := by
  cases retry with
  | none =>
    obtain ⟨rfl, rfl⟩ := Prod.mk.inj (Except.ok.inj h)
    exact ⟨⟨le_refl _, by decide⟩, by decide, nofun⟩
  | some texts =>
    obtain ⟨attemptText, countText⟩ := texts
    unfold parseRetry parseFailureCount at h
    simp only at h
    cases hattempt : parseTimestamp attemptText with
    | error e =>
      rw [hattempt] at h
      cases h
    | ok a =>
      cases hcount : fromChars (2 ^ 32) countText with
      | none =>
        rw [hattempt, hcount] at h
        cases h
      | some c =>
        rw [hattempt, hcount] at h
        change (if 0 < c ∧ a = 0 then Except.error _ else Except.ok (a, c)) = _ at h
        split_ifs at h with hzero
        obtain ⟨rfl, rfl⟩ := Prod.mk.inj (Except.ok.inj h)
        exact ⟨parseTimestamp_bounds hattempt, (fromChars_eq_some.mp hcount).2,
          fun hpos heq => hzero ⟨hpos, heq⟩⟩

theorem parseCachedResult_valid {result version : Bytes} {r : PersistedCheckResult}
    (h : parseCachedResult result version = .ok r) :
    (r = .available → validCachedVersion version = true) ∧ (r ≠ .available → version = []) := by
  unfold parseCachedResult at h
  split_ifs at h with hcurrent havailable hother
  · obtain rfl := Except.ok.inj h
    exact ⟨nofun, fun _ => hcurrent.2⟩
  · obtain rfl := Except.ok.inj h
    exact ⟨fun _ => havailable.2, fun hne => absurd rfl hne⟩
  · obtain rfl := Except.ok.inj h
    exact ⟨nofun, fun _ => not_not.mp (not_or.mp hother).2⟩

/-- **A state that is read may be written.** -/
theorem valid_of_parse {bytes : Bytes} {s : PersistedUpdateState}
    (h : parseUpdateState bytes = .ok s) : s.Valid := by
  unfold parseUpdateState at h
  split at h
  · cases htime : parseTimestamp (withoutLf _) with
    | error e =>
      rw [htime] at h
      cases h
    | ok n =>
      rw [htime] at h
      obtain rfl := Except.ok.inj h
      exact valid_default
  · split at h
    · cases h
    · rename_i values hvalues
      cases htime : parseTimestamp values.timestamp with
      | error e =>
        rw [htime] at h
        cases h
      | ok time =>
        cases hretry : parseRetry values.retry with
        | error e =>
          rw [htime, hretry] at h
          cases h
        | ok retry =>
          cases hresult : parseCachedResult values.result values.version with
          | error e =>
            rw [htime, hretry, hresult] at h
            cases h
          | ok result =>
            rw [htime, hretry, hresult] at h
            change (if values.ignored ≠ [] ∧ validCachedVersion values.ignored = false then
              Except.error _ else Except.ok _) = _ at h
            split_ifs at h with hignored
            obtain rfl := Except.ok.inj h
            obtain ⟨hattempt, hcount, hzero⟩ := parseRetry_valid hretry
            obtain ⟨havailable, hother⟩ := parseCachedResult_valid hresult
            refine ⟨parseTimestamp_bounds htime, hattempt, hcount, hzero, havailable, hother,
              fun hne => ?_⟩
            exact Bool.not_eq_false _ ▸ fun hinvalid => hignored ⟨hne, hinvalid⟩

/-! ## 2. Runs of the controller -/

/-- What happens to the controller. -/
inductive UpdateStep
  | restore (automaticUpdateChecks : Bool) (persisted : Result PersistedUpdateState)
  | setAutomaticChecksEnabled (enabled : Bool)
  | beginCheck (trigger : CheckTrigger) (now : ℤ)
  | completeCheck (result : Result (Option ReleaseInfo))
  | beginInstall
  | completeInstallFailure (message : String)
  | dismiss
  | ignore

def UpdateSnapshot.step (snapshot : UpdateSnapshot) : UpdateStep → UpdateSnapshot
  | .restore automatic persisted => initializeUpdateState snapshot automatic persisted
  | .setAutomaticChecksEnabled enabled => snapshot.setAutomaticChecksEnabled enabled
  | .beginCheck trigger now => (snapshot.beginCheck trigger now).2
  | .completeCheck result => snapshot.completeCheck result
  | .beginInstall => snapshot.beginInstallWithUserConsent.2
  | .completeInstallFailure message => snapshot.completeInstallFailure message
  | .dismiss => snapshot.dismiss
  | .ignore => snapshot.ignoreAvailableVersion

/-- What can happen: a state is one that was loaded, times are positive, and a release is one that
was read, with a version that fits the file. -/
def UpdateStep.Allowed : UpdateStep → Prop
  | .restore _ persisted => ∀ s, persisted = .ok s → s = {} ∨ ∃ bytes, parseUpdateState bytes = .ok s
  | .beginCheck _ now => 0 < now ∧ now < 2 ^ 63
  | .completeCheck result => ∀ release, result = .ok (some release) →
      (∃ json repository installed, parseGithubReleases json repository installed = .ok (some release)) ∧
        release.version.length ≤ 64
  | _ => True

/-- What every run keeps. -/
structure UpdateSnapshot.Kept (s : UpdateSnapshot) : Prop where
  check : 0 ≤ s.lastCheckUnixSeconds ∧ s.lastCheckUnixSeconds < 2 ^ 63
  attempt : 0 ≤ s.lastAttemptUnixSeconds ∧ s.lastAttemptUnixSeconds < 2 ^ 63
  failures : s.automaticFailureCount < 2 ^ 32
  retry : 0 < s.automaticFailureCount → 0 < s.lastAttemptUnixSeconds
  cached : ∀ v, s.cachedAvailableVersion = some v → validCachedVersion v = true
  ignored : s.ignoredVersion ≠ [] → validCachedVersion s.ignoredVersion = true

theorem valid_persistedState {s : UpdateSnapshot} (h : s.Kept) : (persistedState s).Valid := by
  refine ⟨h.check, h.attempt, h.failures, fun hcount => (h.retry hcount).ne', ?_, ?_, h.ignored⟩
  · unfold persistedState
    intro havailable
    simp only at havailable ⊢
    split_ifs at havailable with hcompleted hcached
    obtain ⟨v, hv⟩ := Option.isSome_iff_exists.mp hcached
    rw [if_neg hcompleted, hv]
    exact h.cached v hv
  · unfold persistedState
    intro hother
    simp only at hother ⊢
    split_ifs at hother ⊢ with hcompleted hcached
    · rfl
    · exact absurd rfl hother
    · rw [Option.not_isSome_iff_eq_none.mp hcached]
      rfl

theorem reads_of_candidateVersion {installed v : SemanticVersion} {release : ParsedRelease}
    (h : candidateVersion installed release = some v) :
    ∃ g, Reads release.tag g ∧ versionOf g = v := by
  unfold candidateVersion at h
  split_ifs at h
  split at h
  · cases h
  · rename_i candidate hparse
    split_ifs at h
    obtain rfl := Option.some_inj.mp h
    exact parseSemanticVersion_eq_ok.mp hparse

/-- A chosen release has a version that is kept, when it is short enough. -/
theorem validCachedVersion_of_release {json repository installed : Bytes} {release : ReleaseInfo}
    (h : parseGithubReleases json repository installed = .ok (some release))
    (hlength : release.version.length ≤ 64) : validCachedVersion release.version = true := by
  unfold parseGithubReleases at h
  split_ifs at h
  split at h
  · cases h
  · split at h
    · cases h
    · rename_i _ version' _ _ releases _
      have hbest := best_foldl version' releases
      split at h
      · cases h
      · rename_i best version hfold
        obtain rfl := Option.some_inj.mp (Except.ok.inj h)
        rw [hfold] at hbest
        obtain ⟨g, hreads, rfl⟩ := reads_of_candidateVersion hbest.2.1
        exact validCachedVersion_iff.mpr ⟨hlength, g, rfl, .inl rfl, hreads.2⟩

theorem kept_fresh (installedVersion : Bytes) : UpdateSnapshot.Kept { installedVersion } where
  check := ⟨le_refl _, Int.pow_pos (by decide)⟩
  attempt := ⟨le_refl _, Int.pow_pos (by decide)⟩
  failures := Nat.pow_pos (by decide)
  retry := nofun
  cached := nofun
  ignored := fun h => absurd rfl h

/-- What a valid state restores. -/
theorem restorePreferences_fields {p : PersistedUpdateState} (hp : p.Valid) (s : UpdateSnapshot)
    (automatic completed : Bool) (version : Bytes) {next : UpdateSnapshot}
    (hnext : s.restorePreferences automatic p.lastCheckUnixSeconds completed version
      p.ignoredVersion p.lastAttemptUnixSeconds p.automaticFailureCount = next) :
    next.automaticChecksEnabled = automatic ∧
      next.lastCheckUnixSeconds = p.lastCheckUnixSeconds ∧
      next.lastAttemptUnixSeconds = p.lastAttemptUnixSeconds ∧
      next.automaticFailureCount = p.automaticFailureCount ∧
      next.ignoredVersion = p.ignoredVersion ∧ next.phase = s.phase ∧
      (version ≠ [] ∧ next.cachedAvailableVersion = some version ∨
        next.cachedAvailableVersion = none ∨
        next.cachedAvailableVersion = s.cachedAvailableVersion) := by
  have hcheck : (if 0 < p.lastCheckUnixSeconds then p.lastCheckUnixSeconds else 0) =
      p.lastCheckUnixSeconds := by
    have := hp.check.1
    split_ifs <;> omega
  have hattempt : (if 0 < p.lastAttemptUnixSeconds then p.lastAttemptUnixSeconds else 0) =
      p.lastAttemptUnixSeconds := by
    have := hp.attempt.1
    split_ifs <;> omega
  have hcount : (if 0 < p.lastAttemptUnixSeconds then p.automaticFailureCount else 0) =
      p.automaticFailureCount := by
    have hretry := hp.retry
    have hnonneg := hp.attempt.1
    split_ifs <;> omega
  unfold UpdateSnapshot.restorePreferences at hnext
  simp only [hcheck, hattempt, hcount] at hnext
  split_ifs at hnext with hfound hcompleted
  · subst hnext
    exact ⟨rfl, rfl, rfl, rfl, rfl, rfl, .inl ⟨hfound.2, rfl⟩⟩
  · subst hnext
    exact ⟨rfl, rfl, rfl, rfl, rfl, rfl, .inr (.inl rfl)⟩
  · subst hnext
    exact ⟨rfl, rfl, rfl, rfl, rfl, rfl, .inr (.inr rfl)⟩

/-- What loading gave, or nothing. -/
theorem exists_initialize {persisted : Result PersistedUpdateState}
    (hvalid : ∀ p, persisted = .ok p → p.Valid) :
    ∃ p : PersistedUpdateState, p.Valid ∧ ∀ s automatic, initializeUpdateState s automatic persisted =
      s.restorePreferences automatic p.lastCheckUnixSeconds (decide (p.lastResult ≠ .unknown))
        (if p.lastResult = .available then p.availableVersion else []) p.ignoredVersion
        p.lastAttemptUnixSeconds p.automaticFailureCount := by
  cases persisted with
  | ok p => exact ⟨p, hvalid p rfl, fun _ _ => rfl⟩
  | error e => exact ⟨{}, valid_default, fun _ _ => rfl⟩

theorem kept_initialize {s : UpdateSnapshot} (h : s.Kept) (automatic : Bool)
    {persisted : Result PersistedUpdateState} (hvalid : ∀ p, persisted = .ok p → p.Valid) :
    (initializeUpdateState s automatic persisted).Kept := by
  obtain ⟨p, hp, heq⟩ := exists_initialize hvalid
  obtain ⟨-, hcheck, hattempt, hcount, hignored, -, hcached⟩ :=
    restorePreferences_fields hp s automatic _ _ (heq s automatic).symm
  refine ⟨hcheck ▸ hp.check, hattempt ▸ hp.attempt, hcount ▸ hp.failures, fun hpos => ?_,
    fun v hv => ?_, ?_⟩
  · rw [hcount] at hpos
    have hne := hp.retry hpos
    have hnonneg := hp.attempt.1
    rw [hattempt]
    omega
  · rcases hcached with ⟨hne, hversion⟩ | hnone | hsame
    · obtain rfl := Option.some_inj.mp (hversion.symm.trans hv)
      split_ifs at hne ⊢ with havailable
      · exact hp.available havailable
      · exact absurd rfl hne
    · rw [hnone] at hv
      cases hv
    · exact h.cached v (hsame ▸ hv)
  · rw [hignored]
    exact hp.ignored

/-- **Every step keeps it.** -/
theorem kept_step {s : UpdateSnapshot} (h : s.Kept) {step : UpdateStep} (hstep : step.Allowed) :
    (s.step step).Kept := by
  cases step with
  | restore automatic persisted =>
    refine kept_initialize h automatic fun p hp => ?_
    rcases hstep p hp with rfl | ⟨bytes, hbytes⟩
    · exact valid_default
    · exact valid_of_parse hbytes
  | setAutomaticChecksEnabled enabled => exact ⟨h.check, h.attempt, h.failures, h.retry, h.cached, h.ignored⟩
  | beginCheck trigger now =>
    obtain ⟨hpos, hlt⟩ := hstep
    simp only [UpdateSnapshot.step, UpdateSnapshot.beginCheck]
    cases s.refusal trigger now with
    | some answer => exact h
    | none =>
      simp only
      rw [if_pos hpos]
      refine ⟨h.check, ⟨hpos.le, hlt⟩, ?_, fun _ => hpos, h.cached, h.ignored⟩
      split_ifs with hcount
      · have := hcount.2.2
        simp only
        omega
      · exact h.failures
  | completeCheck result =>
    simp only [UpdateSnapshot.step, UpdateSnapshot.completeCheck]
    by_cases hphase : s.phase ≠ .checking
    · rw [if_pos hphase]
      exact h
    · rw [if_neg hphase]
      cases result with
      | error e => exact ⟨h.check, h.attempt, h.failures, h.retry, h.cached, h.ignored⟩
      | ok available =>
        refine ⟨?_, h.attempt, Nat.pow_pos (by decide), nofun, fun v hv => ?_, h.ignored⟩
        · simp only
          split_ifs
          · exact h.attempt
          · exact h.check
        · obtain ⟨release, rfl, rfl⟩ := Option.map_eq_some_iff.mp hv
          obtain ⟨⟨json, repository, installed, hread⟩, hlength⟩ := hstep release rfl
          exact validCachedVersion_of_release hread hlength
  | beginInstall =>
    simp only [UpdateSnapshot.step, UpdateSnapshot.beginInstallWithUserConsent]
    split_ifs
    · exact ⟨h.check, h.attempt, h.failures, h.retry, h.cached, h.ignored⟩
    · exact h
  | completeInstallFailure message => exact ⟨h.check, h.attempt, h.failures, h.retry, h.cached, h.ignored⟩
  | dismiss =>
    simp only [UpdateSnapshot.step, UpdateSnapshot.dismiss]
    split_ifs
    · exact ⟨h.check, h.attempt, h.failures, h.retry, h.cached, h.ignored⟩
    · exact h
  | ignore =>
    simp only [UpdateSnapshot.step, UpdateSnapshot.ignoreAvailableVersion]
    split
    · exact h
    · rename_i version hcached
      exact ⟨h.check, h.attempt, h.failures, h.retry, h.cached, fun _ => h.cached version hcached⟩

/-- The controller after a run. -/
def runUpdates (installedVersion : Bytes) (steps : List UpdateStep) : UpdateSnapshot :=
  steps.foldl UpdateSnapshot.step { installedVersion }

theorem kept_run (installedVersion : Bytes) {steps : List UpdateStep}
    (h : ∀ step ∈ steps, step.Allowed) : (runUpdates installedVersion steps).Kept := by
  unfold runUpdates
  induction steps using List.reverseRecOn with
  | nil => exact kept_fresh installedVersion
  | append_singleton steps step ih =>
    obtain ⟨hsteps, hstep⟩ := List.forall_mem_append.mp h
    rw [List.foldl_append]
    exact kept_step (ih hsteps) (List.forall_mem_singleton.mp hstep)

/-! ## 3. The controller that comes back -/

/-- Controllers that answer alike: they differ in what no answer looks at, and none is installing. -/
structure Alike (s t : UpdateSnapshot) : Prop where
  automatic : s.automaticChecksEnabled = t.automaticChecksEnabled
  check : s.lastCheckUnixSeconds = t.lastCheckUnixSeconds
  attempt : s.lastAttemptUnixSeconds = t.lastAttemptUnixSeconds
  failures : s.automaticFailureCount = t.automaticFailureCount
  checking : s.phase = .checking ↔ t.phase = .checking
  idle : s.phase ≠ .installing ∧ t.phase ≠ .installing

/-- A step that is neither about an installation nor a restart. -/
def UpdateStep.OfChecks : UpdateStep → Prop
  | .restore _ _ | .beginInstall | .completeInstallFailure _ => False
  | _ => True

/-- The answers of a controller to the checks of a run. -/
def answers (s : UpdateSnapshot) : List UpdateStep → List CheckStart
  | [] => []
  | .beginCheck trigger now :: rest =>
    (s.beginCheck trigger now).1 :: answers (s.beginCheck trigger now).2 rest
  | step :: rest => answers (s.step step) rest

theorem Alike.refusal {s t : UpdateSnapshot} (h : Alike s t) (trigger : CheckTrigger) (now : ℤ) :
    s.refusal trigger now = t.refusal trigger now := by
  have hbusy : (s.phase = .checking ∨ s.phase = .installing) ↔
      (t.phase = .checking ∨ t.phase = .installing) := by
    rw [or_iff_left h.idle.1, or_iff_left h.idle.2, h.checking]
  unfold UpdateSnapshot.refusal
  rw [h.automatic, h.check, h.attempt, h.failures]
  simp only [hbusy]

theorem Alike.beginCheck {s t : UpdateSnapshot} (h : Alike s t) (trigger : CheckTrigger) (now : ℤ) :
    (s.beginCheck trigger now).1 = (t.beginCheck trigger now).1 ∧
      Alike (s.beginCheck trigger now).2 (t.beginCheck trigger now).2 := by
  unfold UpdateSnapshot.beginCheck
  rw [h.refusal trigger now]
  cases t.refusal trigger now with
  | some answer => exact ⟨rfl, h⟩
  | none =>
    refine ⟨rfl, h.automatic, h.check, ?_, ?_, Iff.rfl, nofun, nofun⟩
    · simp only [h.attempt]
    · simp only [h.failures]

theorem Alike.completeCheck {s t : UpdateSnapshot} (h : Alike s t)
    (result : Result (Option ReleaseInfo)) : Alike (s.completeCheck result) (t.completeCheck result) := by
  unfold UpdateSnapshot.completeCheck
  by_cases hphase : t.phase = .checking
  · rw [if_neg (not_not.mpr (h.checking.mpr hphase)), if_neg (not_not.mpr hphase)]
    cases result with
    | error e => exact ⟨h.automatic, h.check, h.attempt, h.failures, Iff.rfl, nofun, nofun⟩
    | ok available =>
      refine ⟨h.automatic, ?_, h.attempt, rfl, Iff.rfl, ?_⟩
      · simp only [h.attempt, h.check]
      · cases available <;> exact ⟨nofun, nofun⟩
  · rw [if_pos (h.checking.not.mpr hphase), if_pos hphase]
    exact h

/-- Dismissing and ignoring are no matter of the checks. -/
theorem Alike.dismiss {s t : UpdateSnapshot} (h : Alike s t) : Alike s.dismiss t.dismiss := by
  unfold UpdateSnapshot.dismiss
  split_ifs <;> exact ⟨h.automatic, h.check, h.attempt, h.failures, h.checking, h.idle⟩

theorem Alike.ignore {s t : UpdateSnapshot} (h : Alike s t) :
    Alike s.ignoreAvailableVersion t.ignoreAvailableVersion := by
  unfold UpdateSnapshot.ignoreAvailableVersion
  split <;> split <;> exact ⟨h.automatic, h.check, h.attempt, h.failures, h.checking, h.idle⟩

theorem answers_eq {later : List UpdateStep} (hlater : ∀ step ∈ later, step.OfChecks)
    {s t : UpdateSnapshot} (h : Alike s t) : answers s later = answers t later := by
  induction later generalizing s t with
  | nil => rfl
  | cons step later ih =>
    obtain ⟨hstep, hrest⟩ := List.forall_mem_cons.mp hlater
    cases step with
    | restore automatic persisted => exact hstep.elim
    | beginInstall => exact hstep.elim
    | completeInstallFailure message => exact hstep.elim
    | setAutomaticChecksEnabled enabled =>
      exact ih hrest ⟨rfl, h.check, h.attempt, h.failures, h.checking, h.idle⟩
    | beginCheck trigger now =>
      obtain ⟨hanswer, hnext⟩ := h.beginCheck trigger now
      exact List.cons_eq_cons.mpr ⟨hanswer, ih hrest hnext⟩
    | completeCheck result => exact ih hrest (h.completeCheck result)
    | dismiss => exact ih hrest h.dismiss
    | ignore => exact ih hrest h.ignore

/-- A controller that is made of what was kept. -/
def restored (s : UpdateSnapshot) : UpdateSnapshot :=
  initializeUpdateState { installedVersion := s.installedVersion } s.automaticChecksEnabled
    (.ok (persistedState s))

theorem alike_restored {s : UpdateSnapshot} (h : s.Kept) (hchecking : s.phase ≠ .checking)
    (hinstalling : s.phase ≠ .installing) : Alike s (restored s) := by
  obtain ⟨hautomatic, hcheck, hattempt, hcount, -, hphase, -⟩ :=
    restorePreferences_fields (valid_persistedState h) { installedVersion := s.installedVersion }
      s.automaticChecksEnabled _ _ (rfl : _ = restored s)
  refine ⟨hautomatic.symm, hcheck.symm, hattempt.symm, hcount.symm, ?_, hinstalling, ?_⟩
  · rw [hphase]
    exact iff_of_false hchecking nofun
  · rw [hphase]
    exact nofun

section

variable {P : Type} [DecidableEq P]

theorem careful_loadUpdateState (path : P) :
    Careful (fun _ : P => True) (fun _ : Error => True) (loadUpdateState path).run := by
  refine Careful.bind (careful_pathExists trivial _) fun found => ?_
  cases found with
  | true => exact Careful.bind (careful_readBounded trivial 384) fun bytes => careful_liftExcept _
  | false => exact careful_pure _

theorem value_loadUpdateState {path : P} {d : Disk P Bytes} {bytes : Bytes}
    (hdisk : d path = some bytes) (hlength : bytes.length ≤ 384) :
    value (loadUpdateState path).run d = parseUpdateState bytes := by
  have hexists : value (pathExists path
      { code := .ioFailure, message := "Update state cannot be inspected" }).run d = .ok true := by
    rw [pathExists, value_perform]
    simp only [Op.answer, hdisk]
    rfl
  have hread : value (readBounded path 384).run d = .ok bytes :=
    value_readBounded_eq_ok.mpr ⟨hdisk, hlength⟩
  rw [loadUpdateState, value_task_bind, hexists]
  simp only [if_true]
  rw [value_task_bind, hread]
  exact value_liftExcept _ _

/-- A valid state is written and read on files that nothing disturbs. -/
theorem run_save_load {s : PersistedUpdateState} (h : s.Valid) (path : P) (w : World P Bytes) :
    ∃ w', run (saveUpdateState path s).run [] w = (some (.ok ()), w') ∧
      run (loadUpdateState path).run [] w' = (some (.ok s), w') := by
  refine ⟨w.own path (some (Text.lines s.lines)), ?_, ?_⟩
  · unfold saveUpdateState
    rw [encode_of_valid h]
    rfl
  · rw [run_nil, exec_careful (careful_loadUpdateState path),
      value_loadUpdateState (World.disk_own_same _ _ _) (length_lines_le h), parse_lines h]

/-- **Every state of the checks is kept and comes back.**  In every run in which the releases have
versions of at most 64 bytes, the state is written, it is read as it was, and unless a check or an
installation is going on a controller that is made of it answers every later run of checks as the
one it was kept from does. -/
theorem update_state_persists (path : P) (w : World P Bytes) (installedVersion : Bytes)
    (steps : List UpdateStep) (h : ∀ step ∈ steps, step.Allowed) :
    (∃ w', run (saveUpdateState path (persistedState (runUpdates installedVersion steps))).run [] w =
        (some (.ok ()), w') ∧
      run (loadUpdateState path).run [] w' =
        (some (.ok (persistedState (runUpdates installedVersion steps))), w')) ∧
    ((runUpdates installedVersion steps).phase ≠ .checking →
      (runUpdates installedVersion steps).phase ≠ .installing →
      ∀ later : List UpdateStep, (∀ step ∈ later, step.OfChecks) →
        answers (restored (runUpdates installedVersion steps)) later =
          answers (runUpdates installedVersion steps) later) := by
  have hkept := kept_run installedVersion h
  refine ⟨run_save_load (valid_persistedState hkept) path w, fun hchecking hinstalling later hlater => ?_⟩
  exact (answers_eq hlater (alike_restored hkept hchecking hinstalling)).symm

end

/-- **What is read may be written, and comes back.**  The writer and the reader check the same
rules: what passes the writer's is read as it was, from a file within the reader's size, and what
the reader takes of any text, older schemas included, is written and read again. -/
theorem update_state_codec :
    (∀ s : PersistedUpdateState, s.lastCheckUnixSeconds < 2 ^ 63 → s.lastAttemptUnixSeconds < 2 ^ 63 →
      s.automaticFailureCount < 2 ^ 32 → ∀ bytes, encodeUpdateState s = .ok bytes →
      bytes.length ≤ 384 ∧ parseUpdateState bytes = .ok s) ∧
    ∀ text s, parseUpdateState text = .ok s →
      ∃ bytes, encodeUpdateState s = .ok bytes ∧ bytes.length ≤ 384 ∧ parseUpdateState bytes = .ok s := by
  constructor
  · intro s hcheck hattempt hcount bytes hencode
    have hvalid : s.Valid := by
      unfold encodeUpdateState at hencode
      split_ifs at hencode with htimes hresult hignored
      obtain ⟨hcheck', hattempt', hretry⟩ := by simpa only [not_or] using htimes
      obtain ⟨havailable, hother⟩ := not_or.mp hresult
      refine ⟨⟨not_lt.mp hcheck', hcheck⟩, ⟨not_lt.mp hattempt', hattempt⟩, hcount,
        fun hpos hzero => hretry ⟨hpos, hzero⟩, fun h => ?_, fun h => ?_, fun h => ?_⟩
      · exact Bool.not_eq_false _ ▸ fun hinvalid => havailable ⟨h, hinvalid⟩
      · exact by_contra fun hne => hother ⟨h, hne⟩
      · exact Bool.not_eq_false _ ▸ fun hinvalid => hignored ⟨h, hinvalid⟩
    rw [encode_of_valid hvalid] at hencode
    obtain rfl := Except.ok.inj hencode
    exact ⟨length_lines_le hvalid, parse_lines hvalid⟩
  · intro text s hparse
    have hvalid := valid_of_parse hparse
    exact ⟨_, encode_of_valid hvalid, length_lines_le hvalid, parse_lines hvalid⟩

/-- A check that fails, one that finds a release, and the release ignored. -/
def ignoringRun : List UpdateStep :=
  [.beginCheck .automatic 1000, .completeCheck (.error (invalid "GitHub could not be reached")),
    .beginCheck .manual 2000,
    .completeCheck (.ok (some ⟨ascii "https://github.com/o/r", ascii "v1.5.0", ascii "1.5.0",
      ascii "d", none, "The release has no verified portable Windows-x64 package."⟩)),
    .ignore]

/-- The ignored version comes back, and the next check waits for its day. -/
theorem update_state_persists_ignored :
    (runUpdates (ascii "1.0.0") ignoringRun).ignoredVersion = ascii "1.5.0" ∧
    (∃ w', run (saveUpdateState () (persistedState (runUpdates (ascii "1.0.0") ignoringRun))).run []
          ⟨fun _ => none, []⟩ = (some (.ok ()), w') ∧
        run (loadUpdateState ()).run [] w' =
          (some (.ok (persistedState (runUpdates (ascii "1.0.0") ignoringRun))), w')) ∧
    answers (restored (runUpdates (ascii "1.0.0") ignoringRun))
      [.beginCheck .automatic 2001, .beginCheck .automatic 100000] = [.throttled, .started] := by
  have hallowed : ∀ step ∈ ignoringRun, step.Allowed := by
    have hread : parseGithubReleases
        (ascii "[\x7b\"tag_name\":\"v1.5.0\",\"published_at\":\"d\"\x7d]")
        (ascii "https://github.com/o/r") (ascii "1.0.0") =
        .ok (some ⟨ascii "https://github.com/o/r", ascii "v1.5.0", ascii "1.5.0", ascii "d", none,
          "The release has no verified portable Windows-x64 package."⟩) := by decide +kernel
    simp only [ignoringRun, List.forall_mem_cons]
    refine ⟨⟨by decide, by decide⟩, nofun, ⟨by decide, by decide⟩, fun release hrelease => ?_, trivial,
      List.forall_mem_nil _⟩
    obtain rfl := Option.some_inj.mp (Except.ok.inj hrelease)
    exact ⟨⟨_, _, _, hread⟩, by decide⟩
  obtain ⟨hfile, hanswers⟩ :=
    update_state_persists () ⟨fun _ => none, []⟩ (ascii "1.0.0") ignoringRun hallowed
  refine ⟨by decide, hfile, ?_⟩
  rw [hanswers (by decide +kernel) (by decide +kernel) _ (by simp [UpdateStep.OfChecks])]
  decide +kernel

end Kf2Optimizer.Update
