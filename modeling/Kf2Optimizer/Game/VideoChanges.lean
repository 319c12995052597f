/-
# Changes of the video settings

`rebase_video_changes` of `video_settings.cpp` takes the difference of two readings of KF2's video
settings over to a third, and `build_video_preview` compares the result with what it started from.
All options but one are plain numbers.  The resolution is an index into the reading's own list, and
the two functions compare what the indices select, never the indices.

`value` is what an option says in a reading.  In terms of values a rebase is a three-way merge
(`rebase_value`), so that the readings of a whole session leave the last change of every option
(`video_changes_merge`).
-/
import Kf2Optimizer.Lib.ThreeWay
import Mathlib.Algebra.Order.Group.Int
import Mathlib.Algebra.Order.Group.Nat
import Mathlib.Tactic.Common
import Mathlib.Tactic.FinCases

namespace Kf2Optimizer.Game

open ThreeWay

/-! ## 1. Settings -/

/-- `VideoOption`. -/
inductive VideoOption
  | display | resolution | overallQuality | vsync | variableFrameRate | environmentDetail
  | characterDetail | fxQuality | textureResolution | textureFiltering | shadowQuality
  | realtimeReflections | antiAliasing | bloom | motionBlur | ambientOcclusion | depthOfField
  | volumetricLighting | lensFlares | lightShafts | nvidiaFlex
deriving DecidableEq

structure Resolution where
  width : ℤ
  height : ℤ
deriving DecidableEq

/-- `VideoSettings`.  The list is shorter than 2^31, as `static_cast<int>(resolutions.size())` takes
for granted. -/
structure VideoSettings where
  choices : VideoOption → ℤ
  resolutions : List Resolution
  filmGrainPercent : ℤ := 50
  flexLevel : ℤ := 0

/-- `selected_resolution`. -/
def VideoSettings.selectedResolution (source : VideoSettings) : Except String Resolution :=
  let selected := source.choices .resolution
  if selected < 0 then .error "The selected resolution is invalid"
  else match source.resolutions[selected.toNat]? with
    | some resolution => .ok resolution
    | none => .error "The selected resolution is invalid"

/-- The resolution selection is in range. -/
def VideoSettings.Valid (s : VideoSettings) : Prop :=
  0 ≤ s.choices .resolution ∧ (s.choices .resolution).toNat < s.resolutions.length

instance (s : VideoSettings) : Decidable s.Valid := inferInstanceAs (Decidable (_ ∧ _))

/-! ## 2. Rebasing -/

/-- `rebase_video_changes` for the resolution: the index of the requested one, which is appended
where the list does not have it. -/
def withResolution (rebased : VideoSettings) (requested : Resolution) : VideoSettings :=
  let index := rebased.resolutions.findIdx (· = requested)
  { rebased with
    resolutions :=
      if index < rebased.resolutions.length then rebased.resolutions
      else rebased.resolutions ++ [requested]
    choices := Function.update rebased.choices .resolution index }

/-- `rebase_video_changes` for the options that are plain numbers. -/
def withChoices (original stagedBase desired : VideoSettings) : VideoSettings :=
  { original with
    choices := fun option =>
      if option = .resolution ∨ desired.choices option = stagedBase.choices option then
        original.choices option
      else desired.choices option }

/-- `rebase_video_changes`.  Its loop handles every option on its own. -/
def rebaseVideoChanges (original stagedBase desired : VideoSettings) :
    Except String VideoSettings := do
  let previous ← stagedBase.selectedResolution
  let requested ← desired.selectedResolution
  let rebased := withChoices original stagedBase desired
  let rebased :=
    if previous.width = requested.width ∧ previous.height = requested.height then rebased
    else withResolution rebased requested
  let filmGrainPercent :=
    if desired.filmGrainPercent ≠ stagedBase.filmGrainPercent then desired.filmGrainPercent
    else rebased.filmGrainPercent
  return { rebased with filmGrainPercent, flexLevel := rebased.choices .nvidiaFlex }

/-- The rebases over consecutive readings, the first of which is `last`. -/
def rebaseReadings : VideoSettings → VideoSettings → List VideoSettings →
    Except String VideoSettings
  | original, _, [] => .ok original
  | original, last, current :: rest => do
    let rebased ← rebaseVideoChanges original last current
    rebaseReadings rebased current rest

/-! ## 3. Comparing -/

/-- `option_changed` of `build_video_preview`, with a baseline. -/
def optionChanged (settings baseline : VideoSettings) (option : VideoOption) : Bool :=
  if option ≠ .resolution then decide (settings.choices option ≠ baseline.choices option)
  else
    let requested := settings.choices option
    let previous := baseline.choices option
    if requested < 0 ∨ previous < 0 then true
    else match settings.resolutions[requested.toNat]?, baseline.resolutions[previous.toNat]? with
      | some current, some saved =>
        decide (current.width ≠ saved.width) || decide (current.height ≠ saved.height)
      | _, _ => true

/-- The same for the film grain. -/
def filmGrainChanged (settings baseline : VideoSettings) : Bool :=
  decide (settings.filmGrainPercent ≠ baseline.filmGrainPercent)

/-! ## 4. Values -/

/-- What the user can set: the options and the film grain. -/
inductive VideoField
  | option (o : VideoOption)
  | filmGrain
deriving DecidableEq

/-- What a field says: a number, or a resolution by its width and height. -/
inductive VideoValue
  | number (n : ℤ)
  | resolution (r : Option Resolution)
deriving DecidableEq

/-- The resolution that the index selects. -/
def VideoSettings.resolution (s : VideoSettings) : Option Resolution :=
  if 0 ≤ s.choices .resolution then s.resolutions[(s.choices .resolution).toNat]? else none

def VideoSettings.value (s : VideoSettings) : VideoField → VideoValue
  | .option o => if o = .resolution then .resolution s.resolution else .number (s.choices o)
  | .filmGrain => .number s.filmGrainPercent

/-- A field is regarded as changed. -/
def changedField (settings baseline : VideoSettings) : VideoField → Bool
  | .option o => optionChanged settings baseline o
  | .filmGrain => filmGrainChanged settings baseline

/-! ## 5. One rebase -/

theorem VideoSettings.Valid.selected {s : VideoSettings} (h : s.Valid) :
    ∃ r, s.selectedResolution = .ok r ∧ s.resolution = some r := by
  obtain ⟨hpos, hlt⟩ := h
  refine ⟨s.resolutions[(s.choices .resolution).toNat], ?_, ?_⟩
  · unfold VideoSettings.selectedResolution
    simp [not_lt.mpr hpos, List.getElem?_eq_getElem hlt]
  · simp [VideoSettings.resolution, hpos, List.getElem?_eq_getElem hlt]

theorem withResolution_choices (s : VideoSettings) (r : Resolution) {o : VideoOption}
    (ho : o ≠ .resolution) : (withResolution s r).choices o = s.choices o :=
  Function.update_of_ne ho _ _

/-- **The list has what is selected**, whether it had it before or not. -/
theorem withResolution_resolution (s : VideoSettings) (r : Resolution) :
    (withResolution s r).Valid ∧ (withResolution s r).resolution = some r := by
  have hchoice : (withResolution s r).choices .resolution =
      (s.resolutions.findIdx (· = r) : ℕ) := by simp [withResolution]
  have hget : (withResolution s r).resolutions[s.resolutions.findIdx (· = r)]? = some r := by
    unfold withResolution
    simp only
    split
    · rename_i hlt
      rw [List.getElem?_eq_getElem hlt]
      simpa using List.findIdx_getElem (p := fun x => decide (x = r)) (w := hlt)
    · rename_i hge
      have hlen : s.resolutions.findIdx (· = r) = s.resolutions.length :=
        le_antisymm List.findIdx_le_length (not_lt.mp hge)
      rw [hlen, List.getElem?_append_right le_rfl]
      simp
  obtain ⟨hlt, -⟩ := List.getElem?_eq_some_iff.mp hget
  unfold VideoSettings.Valid VideoSettings.resolution
  rw [hchoice, Int.toNat_natCast]
  exact ⟨⟨Int.natCast_nonneg _, hlt⟩, by rw [if_pos (Int.natCast_nonneg _), hget]⟩

/-- The values of the settings that a rebase is made of. -/
theorem rebaseVideoChanges_eq (original : VideoSettings) {stagedBase desired : VideoSettings}
    (hb : stagedBase.Valid) (hd : desired.Valid) :
    ∃ rebased, rebaseVideoChanges original stagedBase desired = .ok rebased ∧
      (∀ o, o ≠ .resolution → rebased.choices o =
        merge (original.choices o) (stagedBase.choices o) (desired.choices o)) ∧
      (original.Valid → rebased.Valid) ∧
      rebased.resolution = merge original.resolution stagedBase.resolution desired.resolution ∧
      rebased.filmGrainPercent = merge original.filmGrainPercent stagedBase.filmGrainPercent
        desired.filmGrainPercent := by
  obtain ⟨previous, hprevious, hprevious'⟩ := hb.selected
  obtain ⟨requested, hrequested, hrequested'⟩ := hd.selected
  have hsame : previous.width = requested.width ∧ previous.height = requested.height ↔
      requested = previous := by
    cases previous
    cases requested
    simp [eq_comm]
  unfold rebaseVideoChanges
  rw [hprevious, hrequested, hprevious', hrequested']
  refine ⟨_, rfl, ?_⟩
  simp only [hsame]
  have hchoices : ∀ o, o ≠ .resolution → (withChoices original stagedBase desired).choices o =
      merge (original.choices o) (stagedBase.choices o) (desired.choices o) := by
    intro o ho
    simp [withChoices, merge, ho]
  have hselection : (withChoices original stagedBase desired).choices .resolution =
      original.choices .resolution := by
    simp [withChoices]
  have hgrain : ∀ grain : ℤ, (if desired.filmGrainPercent ≠ stagedBase.filmGrainPercent then
      desired.filmGrainPercent else grain) =
        merge grain stagedBase.filmGrainPercent desired.filmGrainPercent := by
    intro grain
    simp [merge]
  by_cases hres : requested = previous
  · simp only [if_pos hres, hgrain]
    refine ⟨hchoices, ?_, ?_, rfl⟩
    · unfold VideoSettings.Valid
      simp only [hselection]
      exact id
    · unfold VideoSettings.resolution
      simp only [hselection]
      rw [hres, merge_self]
      rfl
  · obtain ⟨hvalid, hresolution⟩ :=
      withResolution_resolution (withChoices original stagedBase desired) requested
    simp only [if_neg hres, hgrain]
    refine ⟨fun o ho => ?_, fun _ => hvalid, ?_, rfl⟩
    · rw [withResolution_choices _ _ ho, hchoices o ho]
    · refine Eq.trans hresolution (merge_of_ne ?_ _).symm
      exact fun h => hres (Option.some_inj.mp h).symm

/-- **A rebase is a three-way merge of every field.** -/
theorem rebase_value (original : VideoSettings) {stagedBase desired : VideoSettings}
    (hb : stagedBase.Valid) (hd : desired.Valid) :
    ∃ rebased, rebaseVideoChanges original stagedBase desired = .ok rebased ∧
      (original.Valid → rebased.Valid) ∧
      ∀ field, rebased.value field =
        merge (original.value field) (stagedBase.value field) (desired.value field) := by
  obtain ⟨rebased, hok, hchoices, hvalid, hresolution, hgrain⟩ :=
    rebaseVideoChanges_eq original hb hd
  have hnumber : ∀ value prev next : ℤ, VideoValue.number (merge value prev next) =
      merge (.number value) (.number prev) (.number next) := by
    intro value prev next
    simp only [merge, VideoValue.number.injEq]
    exact apply_ite _ _ _ _
  refine ⟨rebased, hok, hvalid, fun field => ?_⟩
  cases field with
  | filmGrain => exact (congrArg VideoValue.number hgrain).trans (hnumber _ _ _)
  | option o =>
    by_cases ho : o = .resolution
    · subst ho
      simp only [VideoSettings.value, if_true, hresolution, merge, VideoValue.resolution.injEq]
      exact apply_ite _ _ _ _
    · simp only [VideoSettings.value, if_neg ho, hchoices o ho]
      exact hnumber _ _ _

/-! ## 6. Runs -/

/-- The readings of a session carry every field along. -/
theorem rebaseReadings_value : ∀ {original last : VideoSettings} {readings : List VideoSettings},
    original.Valid → last.Valid → (∀ r ∈ readings, r.Valid) →
    ∃ rebased, rebaseReadings original last readings = .ok rebased ∧ rebased.Valid ∧
      ∀ field, rebased.value field =
        carried (original.value field) (last.value field) (readings.map (·.value field))
  | original, _, [], horiginal, _, _ => ⟨original, rfl, horiginal, fun _ => rfl⟩
  | original, last, current :: rest, horiginal, hlast, hreadings => by
    have hcurrent := hreadings current List.mem_cons_self
    obtain ⟨merged, hmerged, hvalid, hvalue⟩ := rebase_value original hlast hcurrent
    obtain ⟨rebased, hok, hrebased, hfields⟩ := rebaseReadings_value (hvalid horiginal) hcurrent
      fun r hr => hreadings r (List.mem_cons_of_mem current hr)
    refine ⟨rebased, ?_, hrebased, fun field => ?_⟩
    · rw [rebaseReadings, hmerged]
      exact hok
    · rw [hfields field, hvalue field]
      rfl

/-- A comparison sees the fields whose values differ. -/
theorem changedField_iff {settings baseline : VideoSettings} (hs : settings.Valid)
    (hb : baseline.Valid) (field : VideoField) :
    changedField settings baseline field = true ↔
      settings.value field ≠ baseline.value field := by
  cases field with
  | filmGrain => simp [changedField, filmGrainChanged, VideoSettings.value]
  | option o =>
    by_cases ho : o = .resolution
    · subst ho
      obtain ⟨⟨hspos, hslt⟩, hbpos, hblt⟩ := And.intro hs hb
      have hext : ∀ a b : Resolution, (a.width = b.width → a.height ≠ b.height) ↔ a ≠ b := by
        intro a b
        cases a
        cases b
        simp
      simpa [changedField, optionChanged, VideoSettings.value, VideoSettings.resolution, hspos,
        hbpos, not_lt.mpr hspos, not_lt.mpr hbpos, List.getElem?_eq_getElem hslt,
        List.getElem?_eq_getElem hblt, or_iff_not_imp_left] using hext _ _
    · simp [changedField, optionChanged, VideoSettings.value, ho]

/-- **Graphics changes merge three ways.**  With resolution selections that are in their own lists, a
rebase succeeds and its selection is in its list; over consecutive readings every field keeps the
value of the last reading in which it changed, or the original's where it never did; and exactly the
fields whose values differ from the original's are regarded as changed. -/
theorem video_changes_merge (original first : VideoSettings) (readings : List VideoSettings)
    (horiginal : original.Valid) (hreadings : ∀ r ∈ first :: readings, r.Valid) :
    (∀ stagedBase desired, stagedBase.Valid → desired.Valid →
      ∃ rebased, rebaseVideoChanges original stagedBase desired = .ok rebased ∧ rebased.Valid) ∧
    ∃ rebased, rebaseReadings original first readings = .ok rebased ∧ rebased.Valid ∧
      (∀ field, (∀ r ∈ readings, r.value field = first.value field) →
        rebased.value field = original.value field) ∧
      (∀ field before a b rest, first :: readings = before ++ a :: b :: rest →
        a.value field ≠ b.value field → (∀ r ∈ rest, r.value field = b.value field) →
        rebased.value field = b.value field) ∧
      ∀ field, changedField rebased original field = true ↔
        rebased.value field ≠ original.value field := by
  refine ⟨fun stagedBase desired hb hd => ?_, ?_⟩
  · obtain ⟨rebased, hok, hvalid, -⟩ := rebase_value original hb hd
    exact ⟨rebased, hok, hvalid horiginal⟩
  · obtain ⟨rebased, hok, hvalid, hvalue⟩ := rebaseReadings_value horiginal
      (hreadings first List.mem_cons_self) fun r hr => hreadings r (List.mem_cons_of_mem first hr)
    refine ⟨rebased, hok, hvalid, fun field hconstant => ?_, ?_, changedField_iff hvalid horiginal⟩
    · rw [hvalue field]
      refine carried_of_constant fun v hv => ?_
      obtain ⟨r, hr, rfl⟩ := List.mem_map.mp hv
      exact hconstant r hr
    · intro field before a b rest hsplit hchange hlast
      rw [hvalue field]
      have hvalues := congrArg (List.map fun r : VideoSettings => r.value field) hsplit
      rw [List.map_append, List.map_cons, List.map_cons, List.map_cons] at hvalues
      refine carried_of_last_change hvalues hchange fun v hv => ?_
      · obtain ⟨r, hr, rfl⟩ := List.mem_map.mp hv
        exact hlast r hr

/-- Settings of two or three resolutions. -/
def smallSettings (resolutions : List Resolution) (selected vsync : ℤ) : VideoSettings where
  choices o := if o = .resolution then selected else if o = .vsync then vsync else 0
  resolutions := resolutions

theorem video_changes_merge_two :
    (smallSettings [⟨1280, 720⟩] 0 0).Valid ∧
      ∃ rebased, rebaseReadings (smallSettings [⟨1280, 720⟩] 0 0)
        (smallSettings [⟨800, 600⟩, ⟨1280, 720⟩] 1 0)
        [smallSettings [⟨800, 600⟩, ⟨1280, 720⟩] 0 1] = .ok rebased ∧ rebased.Valid := by
  have hvalid : (smallSettings [⟨1280, 720⟩] 0 0).Valid := by decide
  have h := (video_changes_merge (smallSettings [⟨1280, 720⟩] 0 0)
    (smallSettings [⟨800, 600⟩, ⟨1280, 720⟩] 1 0)
    [smallSettings [⟨800, 600⟩, ⟨1280, 720⟩] 0 1] hvalid (by
      intro r hr
      fin_cases hr <;> decide)).2
  obtain ⟨rebased, hok, hrebased, -⟩ := h
  exact ⟨hvalid, rebased, hok, hrebased⟩

end Kf2Optimizer.Game
