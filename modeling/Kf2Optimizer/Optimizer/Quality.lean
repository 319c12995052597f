/-
# Quality groups and the choice of a runtime control

`AdaptiveResourceQualityState` (`adaptive_control_client.hpp`) is the composition of the live
graphics quality: six groups, each a percentage.  A control writes one group, the four of the
mixed control, or raises all six.  Everything proved about compositions goes through
`level_apply`: what a receipt does to one group.

`select_adaptive_runtime_control` (`telemetry_adaptive_stage.hpp`) chooses the next command from
a decision of the governor and the composition: a queued rollback, a reduction, a recovery or
nothing.  `SelectionKind` names the branch a selection came from, and `select_safe` says what
each branch guarantees.
-/
import Kf2Optimizer.Optimizer.Pressure
import Kf2Optimizer.Optimizer.Sample

set_option linter.unusedSectionVars false

namespace Kf2Optimizer.Optimizer

open DoubleOps

variable {F : Type} [DoubleOps F]

/-! ## 1. Controls and receipts -/

/-- `AdaptiveResourceControl`. -/
inductive AdaptiveResourceControl
  | cpu | gpu | vram | ram | overdraw | effects | mixed | recover | enable | disable
deriving DecidableEq, Repr

/-- `AdaptiveControlReceiptStatus`. -/
inductive AdaptiveControlReceiptStatus
  | applied | restored | stateUnknown | unsupported
deriving DecidableEq, Repr

/-- `AdaptiveControlReceipt`. -/
structure AdaptiveControlReceipt where
  sequence : ℕ
  resource : AdaptiveResourceControl
  quality : ℤ
  status : AdaptiveControlReceiptStatus := .applied
deriving DecidableEq, Repr

/-- `adaptive_resource_control_name`. -/
def adaptiveResourceControlName : AdaptiveResourceControl → String
  | .cpu => "cpu"
  | .gpu => "gpu"
  | .vram => "vram"
  | .ram => "ram"
  | .overdraw => "overdraw"
  | .effects => "effects"
  | .mixed => "mixed"
  | .recover => "recover"
  | .enable => "enable"
  | .disable => "disable"

/-- One of the six quality groups. -/
inductive QualityGroup
  | cpu | gpu | vram | ram | overdraw | effects
deriving DecidableEq, Repr

theorem QualityGroup.forall_iff {p : QualityGroup → Prop} :
    (∀ g, p g) ↔ p .cpu ∧ p .gpu ∧ p .vram ∧ p .ram ∧ p .overdraw ∧ p .effects := by
  constructor
  · intro h
    exact ⟨h .cpu, h .gpu, h .vram, h .ram, h .overdraw, h .effects⟩
  · rintro ⟨hcpu, hgpu, hvram, hram, hoverdraw, heffects⟩ g
    cases g <;> assumption

instance {p : QualityGroup → Prop} [DecidablePred p] : Decidable (∀ g, p g) :=
  decidable_of_iff _ QualityGroup.forall_iff.symm

/-- The control sets the group to its value.  `recover` sets none: it raises all six. -/
def AdaptiveResourceControl.writes : AdaptiveResourceControl → QualityGroup → Bool
  | .cpu, .cpu => true
  | .gpu, .gpu => true
  | .vram, .vram => true
  | .ram, .ram => true
  | .overdraw, .overdraw => true
  | .effects, .effects => true
  | .mixed, .cpu => true
  | .mixed, .gpu => true
  | .mixed, .vram => true
  | .mixed, .ram => true
  | _, _ => false

/-! ## 2. Compositions -/

/-- `AdaptiveResourceQualityState`. -/
@[ext] structure AdaptiveResourceQualityState where
  cpu : ℤ
  gpu : ℤ
  vram : ℤ
  ram : ℤ
  overdraw : ℤ
  effects : ℤ
deriving DecidableEq, Repr

namespace AdaptiveResourceQualityState

/-- The level of a group. -/
def level (q : AdaptiveResourceQualityState) : QualityGroup → ℤ
  | .cpu => q.cpu
  | .gpu => q.gpu
  | .vram => q.vram
  | .ram => q.ram
  | .overdraw => q.overdraw
  | .effects => q.effects

/-- What `reset` leaves. -/
def reset (quality : ℤ) : AdaptiveResourceQualityState :=
  let bounded := intClamp quality 10 100
  ⟨bounded, bounded, bounded, bounded, bounded, bounded⟩

/-- `effective_quality`. -/
def effectiveQuality (q : AdaptiveResourceQualityState) : ℤ :=
  Min.min (Min.min (Min.min (Min.min (Min.min q.cpu q.gpu) q.vram) q.ram) q.overdraw) q.effects

/-- `control_quality`. -/
def controlQuality (q : AdaptiveResourceQualityState) : AdaptiveResourceControl → ℤ
  | .cpu => q.cpu
  | .gpu => q.gpu
  | .vram => q.vram
  | .ram => q.ram
  | .overdraw => q.overdraw
  | .effects => q.effects
  | .mixed => Min.min (Min.min (Min.min q.cpu q.gpu) q.vram) q.ram
  | .recover | .enable | .disable => q.effectiveQuality

/-- `apply`. -/
def apply (q : AdaptiveResourceQualityState) (receipt : AdaptiveControlReceipt) :
    AdaptiveResourceQualityState :=
  let quality := intClamp receipt.quality 10 100
  match receipt.resource with
  | .cpu => { q with cpu := quality }
  | .gpu => { q with gpu := quality }
  | .vram => { q with vram := quality }
  | .ram => { q with ram := quality }
  | .overdraw => { q with overdraw := quality }
  | .effects => { q with effects := quality }
  | .mixed => { q with cpu := quality, gpu := quality, vram := quality, ram := quality }
  | .recover =>
    ⟨Max.max q.cpu quality, Max.max q.gpu quality, Max.max q.vram quality, Max.max q.ram quality,
      Max.max q.overdraw quality, Max.max q.effects quality⟩
  | .enable | .disable => q

theorem ext_level {q q' : AdaptiveResourceQualityState} (h : ∀ g, q.level g = q'.level g) :
    q = q' :=
  AdaptiveResourceQualityState.ext (h .cpu) (h .gpu) (h .vram) (h .ram) (h .overdraw) (h .effects)

@[simp] theorem level_reset (quality : ℤ) (g : QualityGroup) :
    (reset quality).level g = intClamp quality 10 100 := by
  cases g <;> rfl

/-- **What a receipt does to one group.** -/
theorem level_apply (q : AdaptiveResourceQualityState) (r : AdaptiveControlReceipt)
    (g : QualityGroup) :
    (q.apply r).level g =
      if r.resource.writes g then intClamp r.quality 10 100
      else if r.resource = .recover then Max.max (q.level g) (intClamp r.quality 10 100)
      else q.level g := by
  unfold apply
  cases r.resource <;> cases g <;> rfl

theorem level_apply_of_writes (q : AdaptiveResourceQualityState) {r : AdaptiveControlReceipt}
    {g : QualityGroup} (h : r.resource.writes g = true) :
    (q.apply r).level g = intClamp r.quality 10 100 := by
  rw [level_apply, if_pos h]

theorem level_apply_of_not_writes (q : AdaptiveResourceQualityState) {r : AdaptiveControlReceipt}
    {g : QualityGroup} (h : r.resource.writes g = false) (hr : r.resource ≠ .recover) :
    (q.apply r).level g = q.level g := by
  rw [level_apply, if_neg (by simp [h]), if_neg hr]

/-- The level of a control is at most that of any group it writes. -/
theorem controlQuality_le (q : AdaptiveResourceQualityState) {r : AdaptiveResourceControl}
    {g : QualityGroup} (h : r.writes g = true) : q.controlQuality r ≤ q.level g := by
  cases r <;> cases g <;> simp_all [AdaptiveResourceControl.writes, controlQuality, level]

/-- Every control but the mixed one writes at most one group. -/
theorem controlQuality_eq_level (q : AdaptiveResourceQualityState) {r : AdaptiveResourceControl}
    {g : QualityGroup} (hm : r ≠ .mixed) (h : r.writes g = true) :
    q.level g = q.controlQuality r := by
  cases r <;> first | exact absurd rfl hm | (cases g <;> first | rfl | cases h)

/-- The level of a control that writes a group is the level of some group it writes. -/
theorem exists_controlQuality_eq (q : AdaptiveResourceQualityState) {r : AdaptiveResourceControl}
    {g : QualityGroup} (h : r.writes g = true) :
    ∃ g', r.writes g' = true ∧ q.level g' = q.controlQuality r := by
  by_cases hm : r = .mixed
  · subst hm
    have hmin : q.controlQuality .mixed = q.cpu ∨ q.controlQuality .mixed = q.gpu ∨
        q.controlQuality .mixed = q.vram ∨ q.controlQuality .mixed = q.ram := by
      unfold controlQuality
      simp only
      omega
    rcases hmin with he | he | he | he
    · exact ⟨.cpu, rfl, he.symm⟩
    · exact ⟨.gpu, rfl, he.symm⟩
    · exact ⟨.vram, rfl, he.symm⟩
    · exact ⟨.ram, rfl, he.symm⟩
  · exact ⟨g, h, q.controlQuality_eq_level hm h⟩

end AdaptiveResourceQualityState

/-! ## 3. Selecting a runtime control -/

/-- `AdaptiveRuntimeControlInput`. -/
structure AdaptiveRuntimeControlInput (F : Type) where
  state : AdaptiveControllerState
  dataQuality : AdaptiveDataQuality
  primaryResource : ResourceKind
  primaryConfidence : F
  currentQuality : ℤ
  minimumQuality : ℤ
  maximumQuality : ℤ
  qualityChangeBudget : ℤ
  reductionFloorQuality : ℤ
  rollbackQuality : Option ℤ
  rollbackResource : Option AdaptiveResourceControl
  rollbackCurrentQuality : Option ℤ
  qualityStateKnown : Bool
  currentFramePressure : Bool
  currentResourcePressure : Bool
  recoveryEligible : Bool
  activeGameplay : Bool
  verifiedOffline : Bool
  verifiedOnlineGraphics : Bool
  localGraphicsOnly : Bool
  bridgeAvailable : Bool
  zedTimeActive : Bool
  shadowMode : Bool
  nowNs : ℕ
  mapReadyNs : ℕ
  lastDispatchNs : ℕ
  lastAppliedNs : ℕ
  sampleTimestampNs : ℕ

/-- `AdaptiveRuntimeControlSelection`. -/
structure AdaptiveRuntimeControlSelection where
  resource : AdaptiveResourceControl
  quality : ℤ
deriving DecidableEq, Repr

/-- `adaptive_runtime_resource`. -/
def adaptiveRuntimeResource (resource : ResourceKind) (confidence : F) :
    AdaptiveResourceControl :=
  if lt confidence (ofRat (55 / 100)) then .mixed
  else match resource with
  | .cpu => .cpu
  | .gpu => .gpu
  | .vram => .vram
  | .ram => .ram
  | .unknown => .mixed

namespace AdaptiveRuntimeControlInput

/-- The first test: control is inactive, unverified, protected, or fed invalid data or bounds. -/
def refused (input : AdaptiveRuntimeControlInput F) : Bool :=
  !input.activeGameplay || (!input.verifiedOffline && !input.verifiedOnlineGraphics) ||
    (input.verifiedOnlineGraphics && !input.localGraphicsOnly) || !input.bridgeAvailable ||
    input.zedTimeActive || input.shadowMode || input.dataQuality != .valid ||
    decide (input.minimumQuality < 10) || decide (100 < input.maximumQuality) ||
    decide (input.maximumQuality < input.minimumQuality) ||
    decide (input.qualityChangeBudget < 1) || decide (5 < input.qualityChangeBudget) ||
    decide (input.maximumQuality < input.reductionFloorQuality) ||
    decide (input.currentQuality < input.minimumQuality) ||
    decide (input.maximumQuality < input.currentQuality) || input.nowNs == 0

/-- The rollback that is queued, clamped to the bounds. -/
def queuedRollback (input : AdaptiveRuntimeControlInput F) :
    Option AdaptiveRuntimeControlSelection :=
  match input.rollbackQuality, input.rollbackResource with
  | some quality, some resource =>
    some ⟨resource, intClamp quality input.minimumQuality input.maximumQuality⟩
  | _, _ => none

/-- The level the queued rollback would raise is out of range. -/
def rollbackUnreadable (input : AdaptiveRuntimeControlInput F) : Bool :=
  match input.rollbackCurrentQuality with
  | some current => decide (current < 10) || decide (100 < current)
  | none => true

/-- The queued rollback is above the level of its control. -/
def rollbackRaises (input : AdaptiveRuntimeControlInput F) : Bool :=
  match input.rollbackQuality, input.rollbackCurrentQuality with
  | some quality, some current => decide (current < quality)
  | _, _ => false

/-- The loading tail after a map change has not passed. -/
def mapSettling (input : AdaptiveRuntimeControlInput F) (waitNs : ℕ) : Bool :=
  input.mapReadyNs != 0 &&
    (decide (input.nowNs < input.mapReadyNs) || decide (input.nowNs - input.mapReadyNs < waitNs))

/-- The response window of the last applied change has not passed. -/
def responseSettling (input : AdaptiveRuntimeControlInput F) : Bool :=
  input.lastAppliedNs != 0 &&
    (decide (input.nowNs < input.lastAppliedNs) ||
      decide (input.sampleTimestampNs < input.lastAppliedNs) ||
      decide (input.nowNs < input.sampleTimestampNs) ||
      decide (input.nowNs - input.lastAppliedNs < 7000000000) ||
      decide (input.sampleTimestampNs - input.lastAppliedNs < 1000000000))

/-- The dispatch interval has not passed. -/
def dispatchSettling (input : AdaptiveRuntimeControlInput F) (intervalNs : ℕ) : Bool :=
  input.lastDispatchNs != 0 &&
    (decide (input.nowNs < input.lastDispatchNs) ||
      decide (input.nowNs - input.lastDispatchNs < intervalNs))

/-- The lowest a reduction may go. -/
def lowest (input : AdaptiveRuntimeControlInput F) : ℤ :=
  Max.max input.minimumQuality input.reductionFloorQuality

/-- How far a reduction goes in one step. -/
def reductionStep (input : AdaptiveRuntimeControlInput F) : ℤ :=
  match input.state with
  | .emergency => intClamp (input.qualityChangeBudget * 8) 20 40
  | _ => input.qualityChangeBudget * 5

/-- `desired`, `recovery` and `minimum_dispatch_interval_ns` of the branch the state takes. -/
def plan (input : AdaptiveRuntimeControlInput F) : Option (ℤ × Bool × ℕ) :=
  match input.state with
  | .emergency =>
    if !input.currentFramePressure && !input.currentResourcePressure then none
    else some (Max.max input.lowest (input.currentQuality - input.reductionStep), false, 500000000)
  | .intervention =>
    if !input.currentFramePressure && !input.currentResourcePressure then none
    else some (Max.max input.lowest (input.currentQuality - input.reductionStep), false, 1000000000)
  | .stable =>
    if input.recoveryEligible && decide (input.currentQuality < input.maximumQuality) then
      some (Min.min input.maximumQuality (input.currentQuality + 5), true, 4000000000)
    else none
  | _ => none

/-- The control of the selection. -/
def selectedResource (input : AdaptiveRuntimeControlInput F) (recovery : Bool) :
    AdaptiveResourceControl :=
  if recovery then .recover
  else adaptiveRuntimeResource input.primaryResource input.primaryConfidence

end AdaptiveRuntimeControlInput

/-- The tail of `select_adaptive_runtime_control`, past the rollback. -/
def selectPlanned (input : AdaptiveRuntimeControlInput F) :
    Option AdaptiveRuntimeControlSelection :=
  match input.plan with
  | none => none
  | some (planned, recovery, intervalNs) =>
    let desired := intClamp planned input.minimumQuality input.maximumQuality
    let resource := input.selectedResource recovery
    if input.dispatchSettling intervalNs then none
    else if desired = input.currentQuality then none
    else if !recovery && decide (input.currentQuality ≤ desired) then none
    else if !recovery && resource == .mixed && input.mapSettling 25000000000 then none
    else some ⟨resource, desired⟩

/-- `select_adaptive_runtime_control`. -/
def selectAdaptiveRuntimeControl (input : AdaptiveRuntimeControlInput F) :
    Option AdaptiveRuntimeControlSelection :=
  if input.refused then none
  else if !input.qualityStateKnown && input.queuedRollback.isSome then input.queuedRollback
  else if input.mapSettling 15000000000 then none
  else if input.responseSettling then none
  else if input.queuedRollback.isSome && input.rollbackUnreadable then none
  else if input.queuedRollback.isSome && input.rollbackRaises then input.queuedRollback
  else selectPlanned input

/-! ## 4. What a selection guarantees -/

/-- The branch a selection comes from. -/
inductive SelectionKind
  | rollback | reduction | recovery
deriving DecidableEq, Repr

/-- A rollback is due when one is queued and the state is unknown or it would raise its
control; otherwise the state of the controller decides. -/
def selectionKind (input : AdaptiveRuntimeControlInput F) : SelectionKind :=
  if input.queuedRollback.isSome && (!input.qualityStateKnown || input.rollbackRaises) then
    .rollback
  else if input.state = .stable then .recovery
  else .reduction

/-- A wait since `since` has passed at `now`; `0` is no wait at all. -/
def Elapsed (since now wait : ℕ) : Prop := since = 0 ∨ (since ≤ now ∧ wait ≤ now - since)

/-- The waits of a reduction or a recovery: since the map, since the last applied change (by the
clock and by the sample), and since the last dispatch. -/
structure Waited (input : AdaptiveRuntimeControlInput F) (interval : ℕ) : Prop where
  map : Elapsed input.mapReadyNs input.nowNs 15000000000
  applied : Elapsed input.lastAppliedNs input.nowNs 7000000000
  sample : Elapsed input.lastAppliedNs input.sampleTimestampNs 1000000000
  dispatch : Elapsed input.lastDispatchNs input.nowNs interval

/-- Control is active, verified, unprotected and fed valid data, within consistent bounds. -/
structure Permitted (input : AdaptiveRuntimeControlInput F) : Prop where
  active : input.activeGameplay = true
  verified : input.verifiedOffline = true ∨ input.verifiedOnlineGraphics = true
  localOnly : input.verifiedOnlineGraphics = true → input.localGraphicsOnly = true
  bridge : input.bridgeAvailable = true
  zedTime : input.zedTimeActive = false
  shadow : input.shadowMode = false
  data : input.dataQuality = .valid
  bounds : 10 ≤ input.minimumQuality ∧ input.minimumQuality ≤ input.maximumQuality ∧
    input.maximumQuality ≤ 100
  current : input.minimumQuality ≤ input.currentQuality ∧
    input.currentQuality ≤ input.maximumQuality
  floor : input.reductionFloorQuality ≤ input.maximumQuality
  budget : 1 ≤ input.qualityChangeBudget ∧ input.qualityChangeBudget ≤ 5

theorem permitted_of_not_refused {input : AdaptiveRuntimeControlInput F}
    (h : input.refused = false) : Permitted input := by
  simp only [AdaptiveRuntimeControlInput.refused, Bool.or_eq_false_iff, Bool.and_eq_false_iff,
    Bool.not_eq_false', decide_eq_false_iff_not, not_lt, bne_eq_false_iff_eq,
    beq_eq_false_iff_ne] at h
  obtain ⟨⟨⟨⟨⟨⟨⟨⟨⟨⟨⟨⟨⟨⟨⟨hact, hver⟩, hloc⟩, hbridge⟩, hzed⟩, hshadow⟩, hdata⟩, hmin⟩, hmax⟩, hle⟩,
    hb1⟩, hb2⟩, hfloor⟩, hc1⟩, hc2⟩, -⟩ := h
  refine ⟨hact, hver, ?_, hbridge, hzed, hshadow, hdata, ⟨hmin, hle, hmax⟩, ⟨hc1, hc2⟩, hfloor,
    ⟨hb1, hb2⟩⟩
  intro hon
  rcases hloc with hoff | hlocal
  · rw [hon] at hoff; cases hoff
  · exact hlocal

theorem elapsed_of_not_mapSettling {input : AdaptiveRuntimeControlInput F} {wait : ℕ}
    (h : input.mapSettling wait = false) : Elapsed input.mapReadyNs input.nowNs wait := by
  simp only [AdaptiveRuntimeControlInput.mapSettling, Bool.and_eq_false_iff,
    Bool.or_eq_false_iff, bne_eq_false_iff_eq, decide_eq_false_iff_not, not_lt] at h
  exact h

theorem elapsed_of_not_dispatchSettling {input : AdaptiveRuntimeControlInput F} {interval : ℕ}
    (h : input.dispatchSettling interval = false) :
    Elapsed input.lastDispatchNs input.nowNs interval := by
  simp only [AdaptiveRuntimeControlInput.dispatchSettling, Bool.and_eq_false_iff,
    Bool.or_eq_false_iff, bne_eq_false_iff_eq, decide_eq_false_iff_not, not_lt] at h
  exact h

theorem elapsed_of_not_responseSettling {input : AdaptiveRuntimeControlInput F}
    (h : input.responseSettling = false) :
    Elapsed input.lastAppliedNs input.nowNs 7000000000 ∧
      Elapsed input.lastAppliedNs input.sampleTimestampNs 1000000000 := by
  simp only [AdaptiveRuntimeControlInput.responseSettling, Bool.and_eq_false_iff,
    Bool.or_eq_false_iff, bne_eq_false_iff_eq, decide_eq_false_iff_not, not_lt] at h
  rcases h with h0 | ⟨⟨⟨⟨hnow, hsample⟩, -⟩, hobserve⟩, hfresh⟩
  · exact ⟨.inl h0, .inl h0⟩
  · exact ⟨.inr ⟨hnow, hobserve⟩, .inr ⟨hsample, hfresh⟩⟩

/-- The interval between two dispatches in a state. -/
def dispatchInterval : AdaptiveControllerState → ℕ
  | .emergency => 500000000
  | .intervention => 1000000000
  | _ => 4000000000

/-- What is said of a reduction: it lowers the control the decision attributes the pressure to,
and not below the minimum or the control's floor. -/
structure IsReduction (input : AdaptiveRuntimeControlInput F)
    (s : AdaptiveRuntimeControlSelection) : Prop where
  pressed : input.state = .emergency ∨ input.state = .intervention
  resource : s.resource = adaptiveRuntimeResource input.primaryResource input.primaryConfidence
  lowers : s.quality < input.currentQuality
  floored : Max.max input.minimumQuality input.reductionFloorQuality ≤ s.quality
  stepped : input.currentQuality - input.reductionStep ≤ s.quality
  waited : Waited input (dispatchInterval input.state)
  mixedWaited : s.resource = .mixed → Elapsed input.mapReadyNs input.nowNs 25000000000

/-- What is said of a recovery. -/
structure IsRecovery (input : AdaptiveRuntimeControlInput F)
    (s : AdaptiveRuntimeControlSelection) : Prop where
  resource : s.resource = .recover
  raises : input.currentQuality < s.quality
  waited : Waited input (dispatchInterval input.state)

/-- **The plan of a state** is a reduction under pressure or a recovery. -/
theorem plan_cases {input : AdaptiveRuntimeControlInput F} {planned : ℤ} {recovery : Bool}
    {interval : ℕ} (h : input.plan = some (planned, recovery, interval)) :
    (recovery = false ∧ (input.state = .emergency ∨ input.state = .intervention) ∧
        input.lowest ≤ planned ∧ input.currentQuality - input.reductionStep ≤ planned ∧
        interval = dispatchInterval input.state) ∨
      (recovery = true ∧ input.state = .stable ∧ input.currentQuality < input.maximumQuality ∧
        planned = Min.min input.maximumQuality (input.currentQuality + 5) ∧
        interval = dispatchInterval input.state) := by
  unfold AdaptiveRuntimeControlInput.plan at h
  cases hs : input.state <;> rw [hs] at h <;> simp only at h <;> try cases h
  · split at h
    · rename_i hrec
      simp only [Bool.and_eq_true, decide_eq_true_eq] at hrec
      cases h
      exact .inr ⟨rfl, rfl, hrec.2, rfl, rfl⟩
    · cases h
  · split at h
    · cases h
    · cases h
      exact .inl ⟨rfl, .inr rfl, le_max_left _ _, le_max_right _ _, rfl⟩
  · split at h
    · cases h
    · cases h
      exact .inl ⟨rfl, .inl rfl, le_max_left _ _, le_max_right _ _, rfl⟩

theorem reductionStep_nonneg {input : AdaptiveRuntimeControlInput F}
    (h : 1 ≤ input.qualityChangeBudget) : 0 ≤ input.reductionStep := by
  unfold AdaptiveRuntimeControlInput.reductionStep
  split
  · have hstep : 20 ≤ intClamp (input.qualityChangeBudget * 8) 20 40 := le_intClamp (by omega)
    omega
  · omega

/-- The planned branch, once the waits before it have passed. -/
theorem selectPlanned_cases {input : AdaptiveRuntimeControlInput F}
    {s : AdaptiveRuntimeControlSelection} (hp : Permitted input)
    (hmap : input.mapSettling 15000000000 = false) (hresp : input.responseSettling = false)
    (h : selectPlanned input = some s) :
    (input.minimumQuality ≤ s.quality ∧ s.quality ≤ input.maximumQuality) ∧
      ((input.state ≠ .stable ∧ IsReduction input s) ∨
        (input.state = .stable ∧ IsRecovery input s)) := by
  unfold selectPlanned at h
  split at h
  · cases h
  · rename_i planned recovery interval hplan
    simp only at h
    split at h
    · cases h
    · rename_i hdispatch
      split at h
      · cases h
      · rename_i hne
        split at h
        · cases h
        · rename_i hdown
          split at h
          · cases h
          · rename_i hmixed
            cases h
            have hle : input.minimumQuality ≤ input.maximumQuality := hp.bounds.2.1
            have hwaited : Waited input interval :=
              ⟨elapsed_of_not_mapSettling hmap, (elapsed_of_not_responseSettling hresp).1,
                (elapsed_of_not_responseSettling hresp).2,
                elapsed_of_not_dispatchSettling (Bool.eq_false_iff.mpr hdispatch)⟩
            refine ⟨⟨le_intClamp hle, intClamp_le hle⟩, ?_⟩
            rcases plan_cases hplan with ⟨hr, hstate, hlow, hstep, hi⟩ | ⟨hr, hstate, hlt, hq, hi⟩
            · subst hr
              subst hi
              have hlower : intClamp planned input.minimumQuality input.maximumQuality <
                  input.currentQuality := by simpa using hdown
              have hcur := hp.current
              refine .inl ⟨by rcases hstate with hs | hs <;> simp [hs], hstate, rfl, hlower, ?_,
                ?_, hwaited, fun hm => ?_⟩
              · -- the clamp to the bounds cannot go below the floor, which is within them
                have hf := hp.floor
                unfold AdaptiveRuntimeControlInput.lowest at hlow
                exact le_intClamp_of_le (max_le hle hf) hlow
              · have hbudget : 0 ≤ input.reductionStep := reductionStep_nonneg hp.budget.1
                exact le_intClamp_of_le (by omega) hstep
              · refine elapsed_of_not_mapSettling (Bool.eq_false_iff.mpr fun hset => hmixed ?_)
                have hres : input.selectedResource false = .mixed := hm
                rw [hres, hset]
                rfl
            · subst hr
              subst hi
              have hcur := hp.current
              have hraised : input.currentQuality + 1 ≤ planned := by omega
              exact .inr ⟨hstate, rfl, le_intClamp_of_le (by omega) hraised, hwaited⟩

/-- **Safety of the runtime control selection.**  A selection is made only while control is
permitted, and is within the configured bounds.  A rollback is the queued one; a reduction is
strictly below the level of its control, at or above the minimum and the control's floor; a
recovery strictly raises the level; and both come only after their waits. -/
theorem select_safe (input : AdaptiveRuntimeControlInput F) (s : AdaptiveRuntimeControlSelection)
    (h : selectAdaptiveRuntimeControl input = some s) :
    Permitted input ∧
    (input.minimumQuality ≤ s.quality ∧ s.quality ≤ input.maximumQuality) ∧
    (match selectionKind input with
      | .rollback => input.queuedRollback = some s
      | .reduction => IsReduction input s
      | .recovery => IsRecovery input s) := by
  unfold selectAdaptiveRuntimeControl at h
  split at h
  · cases h
  · rename_i hrefused
    have hp : Permitted input := permitted_of_not_refused (Bool.eq_false_iff.mpr hrefused)
    have hqueued : input.queuedRollback = some s →
        input.minimumQuality ≤ s.quality ∧ s.quality ≤ input.maximumQuality := by
      intro hq
      unfold AdaptiveRuntimeControlInput.queuedRollback at hq
      split at hq
      · cases hq
        exact ⟨le_intClamp hp.bounds.2.1, intClamp_le hp.bounds.2.1⟩
      · cases hq
    refine ⟨hp, ?_⟩
    split at h
    · rename_i hunknown
      simp only [Bool.and_eq_true] at hunknown
      have hkind : selectionKind input = .rollback := by
        unfold selectionKind; rw [hunknown.1, hunknown.2]; rfl
      rw [hkind]
      exact ⟨hqueued h, h⟩
    · rename_i hknown
      split at h
      · cases h
      · rename_i hmap
        split at h
        · cases h
        · rename_i hresp
          split at h
          · cases h
          · split at h
            · rename_i hraises
              simp only [Bool.and_eq_true] at hraises
              have hkind : selectionKind input = .rollback := by
                unfold selectionKind; rw [hraises.1, hraises.2, Bool.or_true]; rfl
              rw [hkind]
              exact ⟨hqueued h, h⟩
            · rename_i hraises
              have hdue : (input.queuedRollback.isSome &&
                  (!input.qualityStateKnown || input.rollbackRaises)) = false := by
                simp only [Bool.and_eq_true, not_and, Bool.not_eq_true] at hknown hraises
                cases hq : input.queuedRollback.isSome with
                | false => rfl
                | true =>
                  rw [hraises hq, Bool.or_false, Bool.true_and]
                  exact Bool.eq_false_iff.mpr fun hk => by rw [hknown hk] at hq; cases hq
              obtain ⟨hbounds, hcase⟩ := selectPlanned_cases hp (Bool.eq_false_iff.mpr hmap)
                (Bool.eq_false_iff.mpr hresp) h
              refine ⟨hbounds, ?_⟩
              unfold selectionKind
              rw [hdue]
              rcases hcase with ⟨hstate, hred⟩ | ⟨hstate, hrec⟩
              · simpa [hstate] using hred
              · simpa [hstate] using hrec

/-- A measured GPU bottleneck under intervention, 60 s into an offline match. -/
def pressedInput : AdaptiveRuntimeControlInput ℚ where
  state := .intervention
  dataQuality := .valid
  primaryResource := .gpu
  primaryConfidence := 3 / 4
  currentQuality := 80
  minimumQuality := 10
  maximumQuality := 100
  qualityChangeBudget := 2
  reductionFloorQuality := 75
  rollbackQuality := none
  rollbackResource := none
  rollbackCurrentQuality := none
  qualityStateKnown := true
  currentFramePressure := true
  currentResourcePressure := false
  recoveryEligible := false
  activeGameplay := true
  verifiedOffline := true
  verifiedOnlineGraphics := false
  localGraphicsOnly := false
  bridgeAvailable := true
  zedTimeActive := false
  shadowMode := false
  nowNs := 60000000000
  mapReadyNs := 1
  lastDispatchNs := 0
  lastAppliedNs := 0
  sampleTimestampNs := 59900000000

theorem select_safe_pressedInput :
    selectAdaptiveRuntimeControl pressedInput = some ⟨.gpu, 75⟩ ∧
    (10 : ℤ) ≤ 75 ∧ (75 : ℤ) ≤ 100 :=
  have hsel : selectAdaptiveRuntimeControl pressedInput = some ⟨.gpu, 75⟩ := by decide +kernel
  ⟨hsel, (select_safe pressedInput ⟨.gpu, 75⟩ hsel).2.1⟩

end Kf2Optimizer.Optimizer
