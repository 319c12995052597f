/-
# Restoring gives the user's graphics back

A write may be stored in part, a readback may fail any number of times, and a session may be
captured and restored again and again.  `restore_returns_user_settings` is what survives all of
it: a `RestoreOriginal` that returns true leaves every setting as it was before the first call,
within the tolerance of the readback.

Integers and booleans are compared exactly, so there the argument is that the captured value
never changes.  A `float` is compared with a tolerance of a thousandth.  It could drift, because
a restore that reads back leaves a value that is only NEAR the captured one, and the next capture
takes that value.  It does not: what an applier writes is a quotient on a grid (`onGrid`), two
values of the grid that are near are equal (`eq_of_readsBack`), so of all restores at most the
first one moves a setting.
-/
import Kf2Optimizer.Graphics.AdaptiveGraphics
import Kf2Optimizer.Lib.Machine

namespace Kf2Optimizer.Graphics

open Tables Text StepMachine

/-! ## 1. What the appliers write -/

/-- The denominator of the values written to a `float` setting. -/
def divisor : GFXField .float → ℕ
  | .shellEjectLifetime => 5
  | _ => 100

/-- A value that an applier may write: any, where the readback is exact. -/
def onGrid : (f : Σ k, GFXField k) → f.1.Value → Prop
  | ⟨.int, _⟩, _ => True
  | ⟨.float, f⟩, v => Binary32.OnGrid (divisor f) v
  | ⟨.bool, _⟩, _ => True

/-- **No drift.**  Values of the grid that read back as one another are the same. -/
theorem eq_of_readsBack {f : Σ k, GFXField k} {a b : f.1.Value} (ha : onGrid f a)
    (hb : onGrid f b) (h : Kind.readsBack f.1 a b = true) : a = b := by
  obtain ⟨k, f⟩ := f
  cases k with
  | int => exact of_decide_eq_true h
  | float =>
    have hd : 0 < 100 / divisor f := by unfold divisor; split <;> decide
    exact Binary32.OnGrid.eq_of_lt hd ha hb (of_decide_eq_true h)
  | bool => exact eq_of_beq h

/-- Every setting is the user's or a value of the grid. -/
def FromUser (user requested : GFXSettings) : Prop :=
  ∀ f, requested f = user f ∨ onGrid f (requested f)

variable {user : GFXSettings}

theorem fromUser_set {k : Kind} {f : GFXField k} {v : k.Value} {r : GFXSettings}
    (h : FromUser user r) (hv : v = r ⟨k, f⟩ ∨ onGrid ⟨k, f⟩ v) : FromUser user (r.set f v) := by
  intro g
  by_cases hg : g = ⟨k, f⟩
  · subst hg
    rw [Record.set_self]
    obtain rfl | hv := hv
    · exact h _
    · exact .inr hv
  · rw [Record.set_of_ne _ _ _ hg]
    exact h g

theorem fromUser_lower {f : GFXField .int} {v : ℤ} {r : GFXSettings} (h : FromUser user r) :
    FromUser user (lower f v r) := fromUser_set h (.inr trivial)

theorem fromUser_raise {f : GFXField .int} {v : ℤ} {r : GFXSettings} (h : FromUser user r) :
    FromUser user (raise f v r) := fromUser_set h (.inr trivial)

theorem fromUser_allow {f : GFXField .bool} {b : Bool} {r : GFXSettings} (h : FromUser user r) :
    FromUser user (allow f b r) := fromUser_set h (.inr trivial)

theorem fromUser_fLower {f : GFXField .float} {v : Float32} {r : GFXSettings}
    (hv : Binary32.OnGrid (divisor f) v) (h : FromUser user r) :
    FromUser user (fLower f v r) := by
  refine fromUser_set h ?_
  unfold fMin
  split
  · exact .inl rfl
  · exact .inr hv

theorem fromUser_fRaise {f : GFXField .float} {v : Float32} {r : GFXSettings}
    (hv : Binary32.OnGrid (divisor f) v) (h : FromUser user r) :
    FromUser user (fRaise f v r) := by
  refine fromUser_set h ?_
  unfold fMax
  split
  · exact .inl rfl
  · exact .inr hv

theorem fromUser_upTo {quality bound : ℤ} {change : GFXSettings → GFXSettings} {r : GFXSettings}
    (hchange : ∀ r, FromUser user r → FromUser user (change r)) (h : FromUser user r) :
    FromUser user (upTo quality bound change r) := by
  unfold upTo
  split
  · exact hchange r h
  · exact h

/-! ## 2. The grid -/

theorem onGrid_fMax {d : ℕ} {a b : Float32} (ha : Binary32.OnGrid d a)
    (hb : Binary32.OnGrid d b) : Binary32.OnGrid d (fMax a b) := by
  unfold fMax
  split
  · exact ha
  · exact hb

theorem nearHundredth_fraction : ∀ d ∈ [5, 100], ∀ k ∈ List.range' 10 90,
    Binary32.nearHundredth (fraction (k : ℕ) d) (k * (100 / d)) = true := by decide +kernel

theorem onGrid_fraction {quality : ℤ} (hlo : 10 ≤ quality) (hhi : quality < 100) {d : ℕ}
    (hd : d ∈ [5, 100]) : Binary32.OnGrid d (fraction quality d) := by
  obtain ⟨k, rfl⟩ : ∃ k : ℕ, quality = k := ⟨quality.toNat, by omega⟩
  have hk : k ∈ List.range' 10 90 := by rw [List.mem_range'_1]; omega
  exact ⟨k, rfl, nearHundredth_fraction d hd k hk⟩

theorem gpuTier_onGrid (quality : ℤ) : Binary32.OnGrid 100 (gpuTier quality).shadowDensity ∧
    Binary32.OnGrid 100 (gpuTier quality).shadowDistance := by
  unfold gpuTier
  split_ifs
  · exact ⟨⟨225, by decide +kernel⟩, ⟨100, by decide +kernel⟩⟩
  · exact ⟨⟨200, by decide +kernel⟩, ⟨95, by decide +kernel⟩⟩
  · exact ⟨⟨175, by decide +kernel⟩, ⟨90, by decide +kernel⟩⟩
  · exact ⟨⟨150, by decide +kernel⟩, ⟨85, by decide +kernel⟩⟩
  · exact ⟨⟨125, by decide +kernel⟩, ⟨80, by decide +kernel⟩⟩
  · exact ⟨⟨100, by decide +kernel⟩, ⟨75, by decide +kernel⟩⟩

theorem cpuTier_onGrid (quality : ℤ) : Binary32.OnGrid 100 (cpuTier quality).2.2 := by
  unfold cpuTier
  split_ifs
  · exact ⟨110, by decide +kernel⟩
  · exact ⟨120, by decide +kernel⟩
  · exact ⟨130, by decide +kernel⟩
  · exact ⟨150, by decide +kernel⟩
  · exact ⟨175, by decide +kernel⟩
  · exact ⟨200, by decide +kernel⟩
  · exact ⟨230, by decide +kernel⟩
  · exact ⟨300, by decide +kernel⟩

/-! ## 3. Every composition is the user's settings and values of the grid -/

variable {r : GFXSettings} {quality : ℤ}

theorem applyGpu_fromUser (h : FromUser user r) : FromUser user (applyGpu quality r) := by
  obtain ⟨hdensity, hdistance⟩ := gpuTier_onGrid quality
  unfold applyGpu
  split
  · exact h
  · iterate 8
      refine fromUser_upTo (fun r h => by repeat' first | exact h | apply fromUser_allow) ?_
    iterate 4 apply fromUser_lower
    refine fromUser_fLower (f := .globalShadowDistanceScale) hdistance ?_
    refine fromUser_raise (fromUser_raise ?_)
    refine fromUser_fLower (f := .shadowTexelsPerPixel) hdensity ?_
    exact fromUser_lower (fromUser_lower h)

theorem applyCpu_fromUser (h : FromUser user r) : FromUser user (applyCpu quality r) := by
  unfold applyCpu
  split
  · exact h
  · iterate 3
      refine fromUser_upTo (fun r h => by repeat' first | exact h | apply fromUser_allow) ?_
    refine fromUser_raise (fromUser_fRaise (cpuTier_onGrid quality) ?_)
    exact fromUser_raise (fromUser_lower h)

theorem applyVram_fromUser (h : FromUser user r) : FromUser user (applyVram quality r) := by
  unfold applyVram
  split
  · exact h
  · refine fromUser_lower ?_
    iterate 6 apply fromUser_raise
    exact h

theorem applyOverdraw_fromUser (h : FromUser user r) :
    FromUser user (applyOverdraw quality r) := by
  unfold applyOverdraw
  split
  · exact h
  · iterate 5 refine fromUser_upTo (fun _ => fromUser_allow) ?_
    iterate 6 apply fromUser_lower
    exact fromUser_raise h

theorem applyRam_fromUser (hlo : 10 ≤ quality) (h : FromUser user r) :
    FromUser user (applyRam quality r) := by
  unfold applyRam
  split
  · exact h
  · rename_i hhi
    have hpercent := onGrid_fraction hlo (by omega) (d := 100) (by decide)
    have hfifth := onGrid_fraction hlo (by omega) (d := 5) (by decide)
    have hpool := onGrid_fMax (a := 0.25) ⟨25, by decide +kernel⟩ hpercent
    have hshell := onGrid_fMax (a := 2.0) ⟨10, by decide +kernel⟩ hfifth
    have hgore := onGrid_fMax (a := 0.5) ⟨50, by decide +kernel⟩ hpercent
    refine fromUser_upTo (fun _ => fromUser_allow) (fromUser_upTo (fun _ => fromUser_allow) ?_)
    refine fromUser_fLower (f := .destructionLifetimeScale) hpool ?_
    iterate 6 apply fromUser_lower
    refine fromUser_fLower (f := .goreFXLifetimeMultiplier) hgore ?_
    refine fromUser_fLower (f := .shellEjectLifetime) hshell ?_
    exact fromUser_fLower (f := .emitterPoolScale) hpool h

theorem applyEffects_fromUser (hlo : 10 ≤ quality) (h : FromUser user r) :
    FromUser user (applyEffects quality r) := by
  unfold applyEffects
  split
  · exact h
  · rename_i hhi
    have hpercent := onGrid_fraction hlo (by omega) (d := 100) (by decide)
    have hfifth := onGrid_fraction hlo (by omega) (d := 5) (by decide)
    have hpool := onGrid_fMax (a := 0.15) ⟨15, by decide +kernel⟩ hpercent
    have hshell := onGrid_fMax (a := 1.0) ⟨5, by decide +kernel⟩ hfifth
    have hlife := onGrid_fMax (a := 0.2) ⟨20, by decide +kernel⟩ hpercent
    iterate 4
      refine fromUser_upTo (fun r h => by repeat' first | exact h | apply fromUser_allow) ?_
    iterate 6 apply fromUser_lower
    refine fromUser_fLower (f := .destructionLifetimeScale) hlife ?_
    refine fromUser_fLower (f := .goreFXLifetimeMultiplier) hlife ?_
    refine fromUser_fLower (f := .shellEjectLifetime) hshell ?_
    exact fromUser_fLower (f := .emitterPoolScale) hpool (fromUser_raise h)

/-- The qualities in force are ones that a command may ask for. -/
structure InRange (s : AdaptiveGraphicsState) : Prop where
  quality : s.quality.inRange = true
  fixedOverdraw : qualityInRange s.fixedOverdrawQuality = true
  fixedEffects : qualityInRange s.fixedEffectsQuality = true

theorem qualityInRange_iff {quality : ℤ} :
    qualityInRange quality = true ↔ 10 ≤ quality ∧ quality ≤ 100 := by
  simp [qualityInRange]

theorem composition_fromUser {s : AdaptiveGraphicsState} (hs : InRange s)
    (current : GFXSettings) : FromUser s.userSettings (composition s current) := by
  obtain ⟨hquality, hoverdraw, heffects⟩ := hs
  simp only [Qualities.inRange, Bool.and_eq_true, qualityInRange_iff] at hquality hoverdraw heffects
  unfold composition
  rw [restoreOwnedSettings_eq]
  have hram : 10 ≤ s.quality.ram := hquality.1.1.2.1
  have heff : 10 ≤ effectiveEffectsQuality s := le_min hquality.2.1 heffects.1
  have huser : FromUser s.userSettings s.userSettings := fun _ => .inl rfl
  exact applyEffects_fromUser heff (applyOverdraw_fromUser (applyRam_fromUser hram
    (applyVram_fromUser (applyCpu_fromUser (applyGpu_fromUser huser)))))

/-! ## 4. What a run keeps -/

/-- The settings that a restore would give back. -/
def Session.base (s : Session) : GFXSettings :=
  if s.snapshot.originalCaptured then s.snapshot.userSettings else s.live

/-- The value is the one before the first call, or the one of the grid that a restore took for
it. -/
def Settled (before : GFXSettings) (f : Σ k, GFXField k) (v : f.1.Value) : Prop :=
  v = before f ∨ (onGrid f v ∧ Kind.readsBack f.1 v (before f) = true)

/-- The invariant of a run that began at the settings `before`. -/
structure Kept (before : GFXSettings) (s : Session) : Prop where
  base : ∀ f, Settled before f (s.base f)
  between : s.snapshot.originalCaptured = true → FromUser s.snapshot.userSettings s.live
  inRange : InRange s.snapshot
  full : s.snapshot.originalCaptured = false → s.snapshot.quality = .full ∧
    s.snapshot.fixedOverdrawQuality = 100 ∧ s.snapshot.fixedEffectsQuality = 100

variable {before : GFXSettings} {s : Session}

theorem Session.captured_originalCaptured (s : Session) : s.captured.originalCaptured = true := by
  unfold Session.captured
  split
  · assumption
  · rfl

theorem Session.captured_userSettings (s : Session) : s.captured.userSettings = s.base := by
  unfold Session.captured Session.base
  split
  · rfl
  · exact userSettings_captureOriginal s.snapshot s.live

theorem inRange_full {s : AdaptiveGraphicsState} (hq : s.quality = .full)
    (hd : s.fixedOverdrawQuality = 100) (he : s.fixedEffectsQuality = 100) : InRange s :=
  ⟨by rw [hq]; decide, by rw [hd]; decide, by rw [he]; decide⟩

/-- A capture changes what is remembered, not what would be given back. -/
theorem Kept.captured (h : Kept before s) : Kept before ⟨s.captured, s.engine⟩ where
  base f := by
    have hbase : Session.base ⟨s.captured, s.engine⟩ = s.base := by
      rw [Session.base, if_pos s.captured_originalCaptured, s.captured_userSettings]
    rw [hbase]
    exact h.base f
  between _ := by
    rw [s.captured_userSettings]
    unfold Session.base
    split
    · exact h.between ‹_›
    · exact fun _ => .inl rfl
  inRange := by
    unfold Session.captured
    split
    · exact h.inRange
    · exact inRange_full rfl rfl rfl
  full hfree := by rw [s.captured_originalCaptured] at hfree; cases hfree

/-- **A write of a composition**, stored in part or in full, under qualities in range. -/
theorem Kept.write (h : Kept before s) (hcap : s.snapshot.originalCaptured = true)
    (snapshot : AdaptiveGraphicsState) (hcap' : snapshot.originalCaptured = true)
    (hsame : snapshot.original = s.snapshot.original) (hrange : InRange snapshot)
    {requested : GFXSettings} (hreq : FromUser s.snapshot.userSettings requested) :
    Kept before ⟨snapshot, s.engine.write requested⟩ where
  base f := by
    have hbase : Session.base ⟨snapshot, s.engine.write requested⟩ = s.base := by
      rw [Session.base, Session.base, if_pos hcap', if_pos hcap]
      exact userSettings_congr hsame
    rw [hbase]
    exact h.base f
  between _ f := by
    rw [userSettings_congr hsame]
    change (s.engine.write requested).settings f = _ ∨ onGrid f ((s.engine.write requested).settings f)
    obtain heq | heq := s.engine.write_settings requested f
    · rw [heq]; exact hreq f
    · rw [heq]; exact h.between hcap f
  inRange := hrange
  full hfree := by rw [hcap'] at hfree; cases hfree

theorem withResource_inRange {p snapshot : AdaptiveGraphicsState} {resource : Bytes}
    {quality : ℤ} (hp : InRange p) (hq : qualityInRange quality = true)
    (h : withResource p resource quality = some snapshot) : InRange snapshot := by
  obtain ⟨hquality, hoverdraw, heffects⟩ := hp
  simp only [Qualities.inRange, Bool.and_eq_true] at hquality
  obtain ⟨⟨⟨⟨⟨hgpu, hcpu⟩, hvram⟩, hram⟩, hover⟩, heff⟩ := hquality
  have hmax : ∀ v, qualityInRange v = true → qualityInRange (max v quality) = true := by
    intro v hv
    rw [qualityInRange_iff] at hv hq ⊢
    omega
  unfold withResource at h
  repeat' split at h
  all_goals cases h
  all_goals constructor <;> simp only [Qualities.inRange, *, Bool.and_self]

/-- `ApplyResource`, in every branch that it can take. -/
theorem Kept.applyResource (h : Kept before s) (resource : Bytes) (quality : ℤ) :
    Kept before (applyResource resource quality s).2 := by
  have hcap := s.captured_originalCaptured
  have hc := h.captured
  obtain ⟨-, heq⟩ | ⟨-, heq⟩ | ⟨snapshot, engine, rolled, hrange, hwith, rfl, rfl, hrest⟩ :=
    applyResource_cases resource quality s
  · rw [heq]; exact h
  · rw [heq]; exact hc
  · have hin := withResource_inRange hc.inRange hrange hwith
    obtain ⟨hsame, hcap'⟩ : snapshot.original = s.captured.original ∧
        snapshot.originalCaptured = true := by
      obtain ⟨q, d, e, rfl⟩ := withResource_frame hwith
      exact ⟨rfl, hcap⟩
    have hreq : FromUser s.captured.userSettings (composition snapshot s.live) := by
      rw [← userSettings_congr hsame]
      exact composition_fromUser hin s.live
    have hfirst := hc.write hcap snapshot hcap' hsame hin hreq
    have hback : FromUser snapshot.userSettings (composition s.captured
        (s.engine.write (composition snapshot s.live)).settings) := by
      rw [userSettings_congr hsame]
      exact composition_fromUser hc.inRange _
    obtain ⟨-, heq⟩ | ⟨-, heq⟩ | heq := hrest
    · rw [heq]
      refine hc.write hcap _ ?_ ?_ ?_ hreq
      exacts [hcap', hsame, ⟨hin.1, hin.2, hin.3⟩]
    · rw [heq]
      refine hfirst.write hcap' _ ?_ ?_ ?_ hback
      exacts [hcap, hsame.symm, ⟨hc.inRange.1, hc.inRange.2, hc.inRange.3⟩]
    · rw [heq]
      refine hfirst.write hcap' _ ?_ ?_ ?_ hback
      exacts [hcap, hsame.symm, ⟨hc.inRange.1, hc.inRange.2, hc.inRange.3⟩]

theorem Kept.applyQualityComposition (h : Kept before s) (q : Qualities) :
    Kept before (applyQualityComposition q s).2 := by
  unfold Graphics.applyQualityComposition
  cases hrange : q.inRange with
  | false => exact h
  | true =>
    have hin : InRange { s.captured with quality := q } :=
      ⟨hrange, h.captured.inRange.2, h.captured.inRange.3⟩
    refine h.captured.write s.captured_originalCaptured _ ?_ ?_ ?_ (composition_fromUser hin s.live)
    exacts [s.captured_originalCaptured, rfl, hin]

theorem Kept.applyQualityRestoreDebt (h : Kept before s) :
    Kept before (applyQualityRestoreDebt s).2 := by
  unfold Graphics.applyQualityRestoreDebt
  split
  · exact h.applyQualityComposition _
  · exact h

/-- **What a restore leaves** is within the tolerance of what was there before the first call:
it is the captured value, or the live one, which is then on the grid. -/
theorem Kept.restoreOriginal (h : Kept before s) : Kept before (restoreOriginal s).2 := by
  obtain ⟨hcap, heq⟩ | ⟨engine, hcap, rfl, hrest⟩ := restoreOriginal_cases s
  · rw [heq]
    refine ⟨fun f => ?_, fun hc => ?_, ⟨h.inRange.1, h.inRange.2, h.inRange.3⟩,
      fun _ => h.full hcap⟩
    · have hbase := h.base f
      simp only [Session.base, hcap] at hbase ⊢
      exact hbase
    · change s.snapshot.originalCaptured = true at hc
      rw [hcap] at hc
      cases hc
  · have huser : FromUser s.snapshot.userSettings s.snapshot.userSettings := fun _ => .inl rfl
    obtain ⟨-, heq⟩ | ⟨hread, heq⟩ := hrest
    · rw [heq]
      refine h.write hcap _ ?_ ?_ ?_ huser
      exacts [hcap, rfl, ⟨h.inRange.1, h.inRange.2, h.inRange.3⟩]
    · rw [heq]
      refine ⟨fun f => ?_, fun hc => (by cases hc), inRange_full rfl rfl rfl,
        fun _ => ⟨rfl, rfl, rfl⟩⟩
      have hmatch := readbackMatches_iff.mp hread f
      have hbase := h.base f
      simp only [Session.base, hcap, if_true] at hbase
      change Settled before f ((s.engine.write s.snapshot.userSettings).settings f)
      obtain heq | heq := s.engine.write_settings s.snapshot.userSettings f
      · rw [heq]; exact hbase
      · rw [heq] at hmatch ⊢
        -- The field was not stored: what is live reads back as the captured value.
        obtain hsame | hgrid := h.between hcap f
        · change s.engine.settings f = _ at hsame
          rw [hsame]; exact hbase
        · obtain hfirst | ⟨hgrid', hnear⟩ := hbase
          · exact .inr ⟨hgrid, hfirst ▸ hmatch⟩
          · rw [eq_of_readsBack (a := s.engine.settings f) hgrid hgrid' hmatch]
            exact .inr ⟨hgrid', hnear⟩

/-! ## 5. Runs -/

/-- A call of the actuator. -/
inductive Call
  | applyResource (resource : Bytes) (quality : ℤ)
  | applyQualityRestoreDebt
  | restoreOriginal

def Session.call (s : Session) : Call → Bool × Session
  | .applyResource resource quality => Graphics.applyResource resource quality s
  | .applyQualityRestoreDebt => Graphics.applyQualityRestoreDebt s
  | .restoreOriginal => Graphics.restoreOriginal s

/-- The session after a run of calls. -/
def Session.run (s : Session) (calls : List Call) : Session :=
  exec (fun s call => (s.call call).2) s calls

theorem Kept.call (h : Kept before s) (call : Call) : Kept before (s.call call).2 := by
  cases call with
  | applyResource resource quality => exact h.applyResource resource quality
  | applyQualityRestoreDebt => exact h.applyQualityRestoreDebt
  | restoreOriginal => exact h.restoreOriginal

theorem Kept.run (h : Kept before s) (calls : List Call) : Kept before (s.run calls) :=
  exec_invariant (fun _ call h => h.call call) calls s h

/-- A snapshot as the class can have it: made with the defaults and used by any calls on any
engine. -/
def Reachable (snapshot : AdaptiveGraphicsState) : Prop :=
  ∃ (engine : Engine) (calls : List Call),
    (Session.run ⟨.new, engine⟩ calls).snapshot = snapshot

/-- An uncaptured session has nothing to give back but what is live. -/
theorem kept_of_uncaptured (hfree : s.snapshot.originalCaptured = false)
    (hfull : s.snapshot.quality = .full ∧ s.snapshot.fixedOverdrawQuality = 100 ∧
      s.snapshot.fixedEffectsQuality = 100) : Kept s.live s where
  base f := .inl (by simp only [Session.base, hfree]; rfl)
  between hcap := by rw [hfree] at hcap; cases hcap
  inRange := inRange_full hfull.1 hfull.2.1 hfull.2.2
  full _ := hfull

theorem kept_of_reachable {snapshot : AdaptiveGraphicsState} (hreach : Reachable snapshot)
    (hfree : snapshot.originalCaptured = false) (engine : Engine) :
    Kept engine.settings ⟨snapshot, engine⟩ := by
  obtain ⟨engine₀, calls₀, rfl⟩ := hreach
  have hnew : Kept engine₀.settings ⟨.new, engine₀⟩ :=
    kept_of_uncaptured (s := ⟨.new, engine₀⟩) rfl ⟨rfl, rfl, rfl⟩
  exact kept_of_uncaptured (s := ⟨_, engine⟩) hfree ((hnew.run calls₀).full hfree)

theorem original_applyQualityComposition (q : Qualities)
    (hcap : s.snapshot.originalCaptured = true) :
    (applyQualityComposition q s).2.snapshot.original = s.snapshot.original := by
  unfold applyQualityComposition
  split
  · rfl
  · simp only [Session.captured, hcap, if_true]

/-- **The captured originals never change while captured.** -/
theorem original_call (hcap : s.snapshot.originalCaptured = true) (call : Call) :
    (s.call call).2.snapshot.original = s.snapshot.original := by
  have hself : s.captured = s.snapshot := by unfold Session.captured; rw [if_pos hcap]
  cases call with
  | applyResource resource quality =>
    obtain ⟨-, heq⟩ | ⟨-, heq⟩ | ⟨snapshot, engine, rolled, -, hwith, -, -, hrest⟩ :=
      applyResource_cases resource quality s
    · simp only [Session.call, heq]
    · simp only [Session.call, heq, hself]
    · obtain ⟨q, d, e, rfl⟩ := withResource_frame hwith
      obtain ⟨-, heq⟩ | ⟨-, heq⟩ | heq := hrest
      · simp only [Session.call, heq, hself]
      · simp only [Session.call, heq, hself]
      · simp only [Session.call, heq, hself, setQualityRestoreDebt]
  | applyQualityRestoreDebt =>
    simp only [Session.call, applyQualityRestoreDebt]
    split
    · exact original_applyQualityComposition _ hcap
    · rfl
  | restoreOriginal =>
    obtain ⟨-, heq⟩ | ⟨engine, -, -, ⟨-, heq⟩ | ⟨-, heq⟩⟩ := restoreOriginal_cases s
    · simp only [Session.call, heq]
    · simp only [Session.call, heq]
    · simp only [Session.call, heq, clearQualityRestoreDebt]

/-- A `RestoreOriginal` that returns true leaves no capture. -/
theorem uncaptured_of_restoreOriginal (h : (restoreOriginal s).1 = true) :
    (restoreOriginal s).2.snapshot.originalCaptured = false := by
  obtain ⟨hcap, heq⟩ | ⟨engine, -, -, ⟨-, heq⟩ | ⟨-, heq⟩⟩ := restoreOriginal_cases s
  · rw [heq]; exact hcap
  · rw [heq] at h; cases h
  · rw [heq]; rfl

/-- **Restoring gives the user's graphics back.**  From any live settings and any uncaptured
snapshot, over any calls and any partial writes: the originals stay as captured, and when a
restore returns true, every setting is the one before the first call or reads back as it, with
nothing lowered. -/
theorem restore_returns_user_settings {snapshot : AdaptiveGraphicsState}
    (hreach : Reachable snapshot) (hfree : snapshot.originalCaptured = false) (engine : Engine)
    (calls : List Call) :
    (∀ call, (Session.run ⟨snapshot, engine⟩ calls).snapshot.originalCaptured = true →
      ((Session.run ⟨snapshot, engine⟩ calls).call call).2.snapshot.original =
        (Session.run ⟨snapshot, engine⟩ calls).snapshot.original) ∧
    ((restoreOriginal (Session.run ⟨snapshot, engine⟩ calls)).1 = true →
      (∀ f, (restoreOriginal (Session.run ⟨snapshot, engine⟩ calls)).2.live f = engine.settings f ∨
        Kind.readsBack f.1 ((restoreOriginal (Session.run ⟨snapshot, engine⟩ calls)).2.live f)
          (engine.settings f) = true) ∧
      (restoreOriginal (Session.run ⟨snapshot, engine⟩ calls)).2.snapshot.quality = .full ∧
      (restoreOriginal (Session.run ⟨snapshot, engine⟩ calls)).2.snapshot.fixedOverdrawQuality =
        100 ∧
      (restoreOriginal (Session.run ⟨snapshot, engine⟩ calls)).2.snapshot.fixedEffectsQuality =
        100) := by
  constructor
  · intro call hcap
    exact original_call hcap call
  · intro hok
    have hkept := ((kept_of_reachable hreach hfree engine).run calls).restoreOriginal
    have hfree' := uncaptured_of_restoreOriginal hok
    refine ⟨fun f => ?_, hkept.full hfree'⟩
    have hbase := hkept.base f
    rw [Session.base, hfree'] at hbase
    obtain h | ⟨-, h⟩ := hbase
    · exact .inl h
    · exact .inr h

/-- The field that the engine below does not store. -/
def droppedField : Σ k, GFXField k := ⟨.int, .maxShadowResolution⟩

/-- An engine with the highest settings that drops one field of its first write. -/
def forgetfulEngine : Engine where
  settings
    | ⟨.int, _⟩ => (4096 : ℤ)
    | ⟨.float, _⟩ => (1.5 : Float32)
    | ⟨.bool, _⟩ => true
  stored n f := !(n == 0 && f == droppedField)

/-- A write that fails and is rolled back, and one that reads back. -/
def forgetfulCalls : List Call :=
  [.applyResource (ascii "gpu") 50, .applyResource (ascii "gpu") 40]

theorem restore_returns_user_settings_forgetful :
    (restoreOriginal (Session.run ⟨.new, forgetfulEngine⟩ forgetfulCalls)).1 = true ∧
    ((restoreOriginal (Session.run ⟨.new, forgetfulEngine⟩ forgetfulCalls)).2.live droppedField =
        forgetfulEngine.settings droppedField ∨
      Kind.readsBack droppedField.1 ((restoreOriginal (Session.run ⟨.new, forgetfulEngine⟩
        forgetfulCalls)).2.live droppedField) (forgetfulEngine.settings droppedField) = true) := by
  have hok : (restoreOriginal (Session.run ⟨.new, forgetfulEngine⟩ forgetfulCalls)).1 = true := by
    decide +kernel
  have hnew : Reachable .new := ⟨forgetfulEngine, [], rfl⟩
  exact ⟨hok, ((restore_returns_user_settings hnew rfl forgetfulEngine forgetfulCalls).2 hok).1
    droppedField⟩

end Kf2Optimizer.Graphics
