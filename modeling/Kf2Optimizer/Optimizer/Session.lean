/-
# The adaptive session

The part of `UiRuntime` that owns the live quality: what it believes the composition to be, the
floor below which a reduction may not go, the rollback that is queued, the command in flight and
the one whose response is being observed, and the debt of a composition KF2 has yet to restore.

Each member function of the source that touches this state is one function on `AdaptiveSession`:
`updateAdaptiveController` (the runtime-quality part), `pollAdaptiveQualityDispatcher`,
`pollAdaptiveRuntimeMode`, `reconcileAdaptiveRuntimeMode`, `observeAdaptiveQualityResponse`, the
user's toggle, and the boundaries of a provider, a process, a launch and a protected session.
`SessionOp` makes them the inputs of one machine.  What the outside world answers (a receipt, a
worker that does not start, the verdict on a response window, a decision of the governor) is an
argument of the operation, so a run of the machine ranges over every answer.
-/
import Kf2Optimizer.Lib.Machine
import Kf2Optimizer.Optimizer.Actuation
import Kf2Optimizer.Optimizer.Quality

set_option linter.unusedSectionVars false

namespace Kf2Optimizer.Optimizer

open DoubleOps

variable {F : Type} [DoubleOps F]

/-! ## 1. The state -/

/-- The configured bounds.  `parse_settings` accepts no others, and no operation changes them
while the application runs. -/
structure QualitySettings where
  minimum : ℤ
  maximum : ℤ
  ten_le_minimum : 10 ≤ minimum
  minimum_le_maximum : minimum ≤ maximum
  maximum_le_hundred : maximum ≤ 100

/-- From the lowest minimum up. -/
def QualitySettings.upTo (maximum : ℤ) (ten_le_maximum : 10 ≤ maximum)
    (maximum_le_hundred : maximum ≤ 100) : QualitySettings :=
  ⟨10, maximum, le_rfl, ten_le_maximum, maximum_le_hundred⟩

/-- `AdaptiveRuntimePendingRequest`. -/
structure AdaptiveRuntimePendingRequest where
  sequence : ℕ
  actionId : ℕ
  generation : AdaptiveGeneration
  previousQuality : ℤ
  requestedQuality : ℤ
  resource : AdaptiveResourceControl
deriving DecidableEq

/-- The part of an `AdaptiveControlRequest` that its receipt repeats. -/
structure AdaptiveControlRequest where
  sequence : ℕ
  resource : AdaptiveResourceControl
  quality : ℤ
deriving DecidableEq

/-- `QualityResponse::Pending`, less the measurement windows.  The report names the resource by
its wire name; the names are distinct, so the model keeps the resource.  `applied` is `0` until
the receipt confirms the command. -/
structure QualityResponsePending where
  sequence : ℕ
  resource : AdaptiveResourceControl
  fromQuality : ℤ
  toQuality : ℤ
  requested : ℕ
  applied : ℕ := 0
deriving DecidableEq

/-- `AdaptiveSessionClass`. -/
inductive AdaptiveSessionClass
  | unknown | verifiedOffline | verifiedOnline | hostOrListenServer
deriving DecidableEq, Repr

/-- The members of `UiRuntime` that the adaptive operations read and write. -/
structure AdaptiveSession (F : Type) where
  settings : QualitySettings
  /-- `optimizer_settings.adaptive_optimization_enabled`. -/
  enabled : Bool
  /-- `adaptive_resource_quality`. -/
  quality : AdaptiveResourceQualityState
  /-- `adaptive_quality_reduction_floor`. -/
  floor : AdaptiveResourceQualityState
  /-- `adaptive_quality_state_known`. -/
  known : Bool
  rollbackTarget : Option ℤ
  rollbackResource : Option AdaptiveResourceControl
  /-- `adaptive_control_pending`. -/
  pending : Option AdaptiveRuntimePendingRequest
  /-- The request of `adaptive_control_dispatcher`, which is busy until it is polled. -/
  inFlight : Option AdaptiveControlRequest
  /-- `quality_response`. -/
  response : Option QualityResponsePending
  /-- `adaptive_actuation`. -/
  actuation : Tracker F
  /-- `adaptive_control_sequence`. -/
  sequence : ℕ
  lastDispatchNs : ℕ
  lastAppliedNs : ℕ
  mapReadyNs : ℕ
  /-- `adaptive_restore_debt` is set. -/
  debt : Bool
  /-- `adaptive_runtime_mode_pending`. -/
  modePending : Option Bool
  /-- The mode asked of `adaptive_mode_dispatcher`, which is busy until it is polled. -/
  modeInFlight : Option Bool
  modeConfirmed : Bool
  modeLastAttemptNs : ℕ
  /-- `adaptive_control_token` is a valid token. -/
  token : Bool
  /-- `game_process` is bound. -/
  gameProcess : Bool

namespace AdaptiveSession

/-- The state of a new `UiRuntime`. -/
def init (settings : QualitySettings) (enabled : Bool) : AdaptiveSession F where
  settings := settings
  enabled := enabled
  quality := .reset 100
  floor := .reset 10
  known := true
  rollbackTarget := none
  rollbackResource := none
  pending := none
  inFlight := none
  response := none
  actuation := Tracker.init {}
  sequence := 0
  lastDispatchNs := 0
  lastAppliedNs := 0
  mapReadyNs := 0
  debt := false
  modePending := none
  modeInFlight := none
  modeConfirmed := false
  modeLastAttemptNs := 0
  token := false
  gameProcess := false

end AdaptiveSession

/-- `next_adaptive_control_sequence`. -/
def nextAdaptiveControlSequence (current : ℕ) : Option ℕ :=
  if current = 2 ^ 64 - 1 then none else some (current + 1)

/-! ## 2. Verdicts on a response -/

/-- `QualityResponse::Report::result`; `inconclusive` carries what follows the colon. -/
inductive QualityResult
  | improved | noClearChange | worsened | mixed | inconclusive (reason : String)
deriving DecidableEq

/-- The results on which a reduction is taken back. -/
def QualityResult.nonImproving : QualityResult → Bool
  | .improved => false
  | _ => true

/-- The resources `adaptive_quality_response_feedback` knows. -/
def feedbackResource : AdaptiveResourceControl → Option AdaptiveResourceControl
  | .recover | .enable | .disable => none
  | resource => some resource

/-- `adaptive_quality_response_feedback`: the resource to take back and the quality, which is
both the rollback and the new floor. -/
def adaptiveQualityResponseFeedback (result : QualityResult) (resource : AdaptiveResourceControl)
    (fromQuality toQuality : ℤ) : Option (AdaptiveResourceControl × ℤ) :=
  if fromQuality ≤ toQuality then none
  else match feedbackResource resource with
    | none => none
    | some parsed => if result.nonImproving then some (parsed, fromQuality) else none

namespace AdaptiveSession

/-- The feedback of a response window.  A response that has not been confirmed is never
reported. -/
def feedback (s : AdaptiveSession F) (result : QualityResult) :
    Option (AdaptiveResourceControl × ℤ) :=
  match s.response with
  | none => none
  | some r =>
    if r.applied = 0 then none
    else adaptiveQualityResponseFeedback result r.resource r.fromQuality r.toQuality

/-- `observe_adaptive_quality_response`; `none` is a frame on which the window is still open. -/
def observeAdaptiveQualityResponse (s : AdaptiveSession F) (result : Option QualityResult) :
    AdaptiveSession F :=
  match result, s.response with
  | some verdict, some r =>
    if r.applied = 0 then s
    else match s.feedback verdict with
      | none => { s with response := none }
      | some (resource, quality) =>
        { s with
          response := none
          floor := s.floor.apply { sequence := 0, resource := resource, quality := quality }
          rollbackTarget :=
            some (Max.max (s.rollbackTarget.getD s.settings.minimum) quality)
          rollbackResource := some resource }
  | _, _ => s

/-! ## 3. Commands -/

/-- What one frame brings to the runtime-quality part of `update_adaptive_controller`. -/
structure ControlFrame (F : Type) where
  state : AdaptiveControllerState
  dataQuality : AdaptiveDataQuality
  primaryResource : ResourceKind
  primaryConfidence : F
  qualityChangeBudget : ℤ
  currentFramePressure : Bool
  currentResourcePressure : Bool
  recoveryEligible : Bool
  activeGameplay : Bool
  sessionClass : AdaptiveSessionClass
  zedTimeActive : Bool
  shadowMode : Bool
  port : Bool
  nowNs : ℕ
  sampleTimestampNs : ℕ
  /-- The dispatcher's worker starts. -/
  started : Bool

/-- The input of the selection. -/
def selectionInput (s : AdaptiveSession F) (c : ControlFrame F) :
    AdaptiveRuntimeControlInput F :=
  let pressureResource := adaptiveRuntimeResource c.primaryResource c.primaryConfidence
  { state := c.state
    dataQuality := c.dataQuality
    primaryResource := c.primaryResource
    primaryConfidence := c.primaryConfidence
    currentQuality :=
      if c.state = .stable then s.quality.effectiveQuality
      else s.quality.controlQuality pressureResource
    minimumQuality := s.settings.minimum
    maximumQuality := s.settings.maximum
    qualityChangeBudget := c.qualityChangeBudget
    reductionFloorQuality := s.floor.controlQuality pressureResource
    rollbackQuality := s.rollbackTarget
    rollbackResource := s.rollbackResource
    rollbackCurrentQuality := s.rollbackResource.map s.quality.controlQuality
    qualityStateKnown := s.known
    currentFramePressure := c.currentFramePressure
    currentResourcePressure := c.currentResourcePressure
    recoveryEligible := c.recoveryEligible
    activeGameplay := c.activeGameplay
    verifiedOffline := c.sessionClass == .verifiedOffline
    verifiedOnlineGraphics :=
      c.sessionClass == .verifiedOnline || c.sessionClass == .hostOrListenServer
    localGraphicsOnly := c.sessionClass != .verifiedOffline
    bridgeAvailable := c.port && s.token && s.modeConfirmed && s.inFlight.isNone
    zedTimeActive := c.zedTimeActive
    shadowMode := c.shadowMode
    nowNs := c.nowNs
    mapReadyNs := s.mapReadyNs
    lastDispatchNs := s.lastDispatchNs
    lastAppliedNs := s.lastAppliedNs
    sampleTimestampNs := c.sampleTimestampNs }

/-- The selection of a frame.  While a debt is owed, the mode is off or no process is bound,
`update_adaptive_controller` returns before it. -/
def selection (s : AdaptiveSession F) (c : ControlFrame F) :
    Option AdaptiveRuntimeControlSelection :=
  if s.debt || !s.enabled || !s.gameProcess then none
  else selectAdaptiveRuntimeControl (s.selectionInput c)

/-- The receipt that reports a failure of the action `record` to the tracker. -/
def failureReceipt (actionId : ℕ) (generation : AdaptiveGeneration) (requested : ℤ)
    (timestampNs : ℕ) (reason : String) : AdaptiveActionReceipt F where
  actionId := actionId
  control := .runtimeQuality
  status := .failed
  requestedValue := ofInt requested
  observedValue := none
  generation := generation
  timestampNs := timestampNs
  provider := "kf2_loopback_readback"
  failureReason := reason

/-- The tracker after a selection is proposed. -/
def proposed (s : AdaptiveSession F) (c : ControlFrame F)
    (selected : AdaptiveRuntimeControlSelection) : Tracker F :=
  (s.actuation.establishEffective .runtimeQuality (ofInt s.quality.effectiveQuality)).propose
    .runtimeQuality (ofInt selected.quality)
    (some (ofInt (s.quality.controlQuality selected.resource))) .available c.nowNs
    "kf2_loopback_readback" false

/-- The selection goes out as `request`. -/
def send (s : AdaptiveSession F) (actuation : Tracker F) (action : AdaptiveActionRecord F)
    (request : AdaptiveControlRequest) (nowNs : ℕ) : AdaptiveSession F :=
  let previousQuality := s.quality.controlQuality request.resource
  { s with
    actuation := actuation
    sequence := request.sequence
    lastDispatchNs := nowNs
    -- the previous window, if any, is superseded: its report is only logged
    response := some {
      sequence := request.sequence
      resource := request.resource
      fromQuality := previousQuality
      toQuality := request.quality
      requested := nowNs }
    pending := some {
      sequence := request.sequence
      actionId := action.actionId
      generation := action.generation
      previousQuality := previousQuality
      requestedQuality := request.quality
      resource := request.resource }
    inFlight := some request }

/-- The runtime-quality part of `update_adaptive_controller`. -/
def updateAdaptiveController (s : AdaptiveSession F) (c : ControlFrame F) : AdaptiveSession F :=
  match s.selection c with
  | none => s
  | some selected =>
    match nextAdaptiveControlSequence s.sequence with
    | none => s
    | some sequence =>
      let proposed := s.proposed c selected
      let action := (proposed.slots (index .runtimeQuality)).record
      if action.status != .proposed then { s with actuation := proposed }
      else
        let dispatched := proposed.dispatch .runtimeQuality c.nowNs
        if !dispatched.2 then { s with actuation := dispatched.1 }
        else if c.started then
          s.send dispatched.1 action
            { sequence := sequence, resource := selected.resource, quality := selected.quality }
            c.nowNs
        else
          { s with actuation := (dispatched.1.receive (failureReceipt action.actionId
              action.generation selected.quality c.nowNs "bridge_worker_start_failed")).1 }

/-! ## 4. Outcomes -/

/-- `quality_response.confirm`. -/
def confirmResponse (response : Option QualityResponsePending) (sequence at_ : ℕ) :
    Option QualityResponsePending :=
  response.map fun r =>
    if r.sequence = sequence ∧ r.requested ≤ at_ ∧ r.applied = 0 then { r with applied := at_ }
    else r

/-- The rollback a receipt has carried out is no longer queued. -/
def rollbackDone (s : AdaptiveSession F) (request : AdaptiveControlRequest) : Bool :=
  match s.rollbackResource, s.rollbackTarget with
  | some resource, some target => request.resource == resource && decide (target ≤ request.quality)
  | _, _ => false

/-- An `applied` receipt that the tracker accepts. -/
def applyReceipt (s : AdaptiveSession F) (p : AdaptiveRuntimePendingRequest)
    (request : AdaptiveControlRequest) (completedNs : ℕ) : AdaptiveSession F :=
  { s with
    known := true
    response := confirmResponse s.response p.sequence completedNs
    quality := s.quality.apply
      { sequence := request.sequence, resource := request.resource, quality := request.quality }
    rollbackTarget := if s.rollbackDone request then none else s.rollbackTarget
    rollbackResource := if s.rollbackDone request then none else s.rollbackResource
    lastAppliedNs := completedNs }

/-- The receipt that reports the command as applied to the tracker. -/
def appliedReceipt (p : AdaptiveRuntimePendingRequest) (request : AdaptiveControlRequest)
    (completedNs : ℕ) : AdaptiveActionReceipt F where
  actionId := p.actionId
  control := .runtimeQuality
  status := .applied
  requestedValue := ofInt p.requestedQuality
  observedValue := some (ofInt request.quality)
  generation := p.generation
  timestampNs := completedNs
  provider := "kf2_loopback_readback"
  ownsTemporaryValue := true
  previousOwnedValue := some (ofInt p.previousQuality)

/-- What one outcome of the pending command does.  `none` is a failed exchange. -/
def settle (s : AdaptiveSession F) (p : AdaptiveRuntimePendingRequest)
    (request : AdaptiveControlRequest) (outcome : Option AdaptiveControlReceiptStatus)
    (completedNs : ℕ) : AdaptiveSession F :=
  let failed (reason : String) : Tracker F :=
    (s.actuation.receive (failureReceipt p.actionId p.generation p.requestedQuality completedNs
      reason)).1
  match outcome with
  | some .restored =>
    { s with
      actuation := (s.actuation.receive {
        actionId := p.actionId
        control := .runtimeQuality
        status := .rolledBack
        requestedValue := ofInt p.requestedQuality
        observedValue := some (ofInt p.previousQuality)
        generation := p.generation
        timestampNs := completedNs
        provider := "kf2_loopback_readback" }).1
      known := true
      rollbackTarget := none
      rollbackResource := none
      lastAppliedNs := completedNs
      response := none }
  | some .stateUnknown =>
    { s with
      actuation := failed "runtime_quality_state_unknown"
      known := false
      rollbackTarget := some p.previousQuality
      rollbackResource := some p.resource
      response := none }
  | some .unsupported =>
    { s with
      actuation := failed "runtime_resource_unsupported"
      response := none }
  | some .applied =>
    let received := s.actuation.receive (appliedReceipt p request completedNs)
    if received.2 = .accepted then
      { s.applyReceipt p request completedNs with actuation := received.1 }
    else { s with actuation := received.1 }
  | none => { s with actuation := failed "bridge_send_or_readback_failed" }

/-- `poll_adaptive_quality_dispatcher`: the worker has finished with `outcome`.  An outcome that
nothing waits for any more is dropped. -/
def pollAdaptiveQualityDispatcher (s : AdaptiveSession F)
    (outcome : Option AdaptiveControlReceiptStatus) (completedNs : ℕ) : AdaptiveSession F :=
  match s.inFlight with
  | none => s
  | some request =>
    match s.pending with
    | none => { s with inFlight := none }
    | some p => { s.settle p request outcome completedNs with pending := none, inFlight := none }

/-! ## 5. The adaptive mode -/

/-- KF2 confirmed the mode the application waits for. -/
def modeReadback (expected asked : Bool) (outcome : Option AdaptiveControlReceiptStatus) : Bool :=
  outcome == some .applied && asked == expected

/-- `poll_adaptive_runtime_mode`. -/
def pollAdaptiveRuntimeMode (s : AdaptiveSession F)
    (outcome : Option AdaptiveControlReceiptStatus) : AdaptiveSession F :=
  match s.modeInFlight, s.modePending with
  | none, _ => s
  | some _, none => { s with modeInFlight := none }
  | some asked, some expected =>
    let confirmed := modeReadback expected asked outcome
    let s := { s with modeInFlight := none, modePending := none, modeConfirmed := confirmed }
    if s.debt && !expected && confirmed then
      { s with
        quality := .reset 100
        known := true
        rollbackTarget := none
        rollbackResource := none
        floor := .reset s.settings.minimum
        debt := false
        -- restore first, then reconcile the saved mode separately
        modeConfirmed := !s.enabled
        modeLastAttemptNs := if s.enabled then 0 else s.modeLastAttemptNs }
    else s

/-- The composition may differ from the user's own graphics, or is about to. -/
def leavesDebt (s : AdaptiveSession F) : Bool :=
  decide (s.quality.effectiveQuality < s.settings.maximum) ||
    (s.lastAppliedNs != 0 && decide (s.quality.effectiveQuality < 100)) || !s.known ||
    s.rollbackTarget.isSome || s.pending.isSome || s.inFlight.isSome

/-- The World boundary of `reconcile_adaptive_runtime_mode`. -/
def leaveProvider (s : AdaptiveSession F) : AdaptiveSession F :=
  let s := { s with modeConfirmed := false, modePending := none }
  if s.leavesDebt then { s with debt := true }
  else if s.debt then s
  else { s with floor := .reset s.settings.minimum }

/-- The first half of `reconcile_adaptive_runtime_mode`. -/
def enterProvider (s : AdaptiveSession F) (newProvider : Bool) : AdaptiveSession F :=
  if newProvider then s.leaveProvider else s

/-- What one frame brings to `reconcile_adaptive_runtime_mode`. -/
structure ReconcileFrame where
  newProvider : Bool
  port : Bool
  nowNs : ℕ
  started : Bool

/-- The unconfirmed mode is due for another attempt. -/
def retryDue (s : AdaptiveSession F) (nowNs : ℕ) : Bool :=
  !s.modeConfirmed &&
    (s.modeLastAttemptNs == 0 || decide (u64 (s.modeLastAttemptNs + 5000000000) ≤ nowNs))

/-- The attempt of `reconcile_adaptive_runtime_mode`. -/
def attemptMode (s : AdaptiveSession F) (c : ReconcileFrame) : AdaptiveSession F :=
  let s := { s with modeLastAttemptNs := c.nowNs, modeConfirmed := false }
  let desired := !s.debt && s.enabled
  match nextAdaptiveControlSequence s.sequence with
  | none => s
  | some sequence =>
    if c.started then
      { s with sequence := sequence, modePending := some desired, modeInFlight := some desired }
    else s

/-- `reconcile_adaptive_runtime_mode`. -/
def reconcileAdaptiveRuntimeMode (s : AdaptiveSession F) (c : ReconcileFrame) :
    AdaptiveSession F :=
  if !s.gameProcess then s
  else
    let entered := s.enterProvider c.newProvider
    if !c.port || !entered.token then entered
    else if (!c.newProvider && !entered.retryDue c.nowNs) || entered.modeInFlight.isSome ||
        (entered.debt && entered.inFlight.isSome) then entered
    else entered.attemptMode c

/-- `reset_local_adaptive_controller_for_mode`. -/
def resetLocalAdaptiveControllerForMode (s : AdaptiveSession F) (enabled : Bool) (nowNs : ℕ) :
    AdaptiveSession F :=
  if !enabled && !s.debt then
    { s with
      pending := none
      actuation := (s.actuation.disable nowNs).rebase {} nowNs
      quality := .reset 100
      known := true }
  else { s with pending := none }

/-- What the user's toggle meets. -/
inductive LiveToggle
  /-- KF2 is not running. -/
  | notRunning
  /-- The process could not be looked for. -/
  | unreadable
  /-- No token, no provider, a busy mode dispatcher or an exhausted sequence. -/
  | unavailable
  /-- The command was sent and not confirmed. -/
  | refused
  | confirmed
deriving DecidableEq

/-- The obligation is reserved before a failed send can trigger the local reset. -/
def reserveDebt (s : AdaptiveSession F) (enabled : Bool) : AdaptiveSession F :=
  if enabled then s else { s with debt := true, known := false }

/-- KF2 confirmed the mode. -/
def confirmMode (s : AdaptiveSession F) (enabled : Bool) (nowNs : ℕ) : AdaptiveSession F :=
  { s with
    sequence := s.sequence + 1
    modeLastAttemptNs := nowNs
    modeConfirmed := true
    modePending := none
    debt := if enabled then s.debt else false }

/-- `set_live_adaptive_enabled`, with its result. -/
def setLiveAdaptiveEnabled (s : AdaptiveSession F) (enabled : Bool) (live : LiveToggle)
    (nowNs : ℕ) : AdaptiveSession F × Bool :=
  match live with
  | .notRunning => (s, true)
  | .unreadable => (s, false)
  | .unavailable => (s.reserveDebt enabled, false)
  | .refused => ({ s.reserveDebt enabled with sequence := s.sequence + 1 }, false)
  | .confirmed =>
    (((s.reserveDebt enabled).confirmMode enabled nowNs).resetLocalAdaptiveControllerForMode
      enabled nowNs, true)

/-- `toggle_adaptive_optimization`, once the setting is saved. -/
def toggleAdaptiveOptimization (s : AdaptiveSession F) (live : LiveToggle) (nowNs : ℕ) :
    AdaptiveSession F :=
  let requested := !s.enabled
  let live := { s with enabled := requested }.setLiveAdaptiveEnabled requested live nowNs
  if live.2 then live.1
  else
    { live.1.resetLocalAdaptiveControllerForMode requested nowNs with
      modeConfirmed := false
      modePending := some requested
      modeLastAttemptNs := 0 }

/-! ## 6. Boundaries -/

/-- What `restore_live_adaptive_quality` meets. -/
inductive LiveRestore
  /-- The process is gone. -/
  | gone
  /-- It may still be running, and the restoration stays owed. -/
  | owed
  /-- The command was sent and not confirmed. -/
  | refused
  | confirmed
deriving DecidableEq

/-- `restore_live_adaptive_quality`. -/
def restoreLiveAdaptiveQuality (s : AdaptiveSession F) : LiveRestore → AdaptiveSession F
  | .gone => { s with debt := false }
  | .owed => { s with debt := true }
  | .refused => { s with debt := true, sequence := s.sequence + 1 }
  | .confirmed =>
    { s with
      sequence := s.sequence + 1
      pending := none
      quality := .reset 100
      known := true
      debt := false }

/-- What `detach_telemetry` meets: whether it restores the live quality first, and how that
goes, and whether the process a debt is owed by is still the same. -/
structure Detach where
  restore : Option LiveRestore
  processCurrent : Bool
  nowNs : ℕ

/-- The restoration `detach_telemetry` begins with. -/
def detachRestore (s : AdaptiveSession F) (d : Detach) : AdaptiveSession F :=
  match d.restore with
  | some r => if s.debt then s else s.restoreLiveAdaptiveQuality r
  | none => s

/-- A debt owed by a process that is gone is void. -/
def voidDebt (s : AdaptiveSession F) (processCurrent : Bool) : AdaptiveSession F :=
  if s.debt && !processCurrent then { s with debt := false } else s

/-- `detach_telemetry`. -/
def detachTelemetry (s : AdaptiveSession F) (d : Detach) : AdaptiveSession F :=
  let s := (s.detachRestore d).voidDebt d.processCurrent
  let closed := { s with
    actuation := (s.actuation.disable d.nowNs).rebase {} d.nowNs
    pending := none
    modeConfirmed := false
    modePending := none
    lastDispatchNs := 0
    lastAppliedNs := 0
    floor := .reset s.settings.minimum
    mapReadyNs := 0
    gameProcess := false }
  if s.debt then closed
  else { closed with
    modeLastAttemptNs := 0
    rollbackTarget := none
    rollbackResource := none
    quality := .reset s.settings.maximum
    known := true }

/-- A process is bound, after the previous one was detached.  A debt owed by another process
is void. -/
def bindProcess (s : AdaptiveSession F) (sameProcess : Bool) : AdaptiveSession F :=
  if s.gameProcess then s
  else if s.debt && !sameProcess then
    { s with
      gameProcess := true
      debt := false
      quality := .reset s.settings.maximum
      known := true
      rollbackTarget := none
      rollbackResource := none }
  else { s with gameProcess := true }

/-- `prepare_automatic_protected_launch_capabilities`.  A launch is prepared only while no
protected session is open, and closing one takes the token away. -/
def prepareLaunch (s : AdaptiveSession F) : AdaptiveSession F :=
  if s.token then s
  else
    { s with
      token := true
      sequence := 0
      lastDispatchNs := 0
      lastAppliedNs := 0
      floor := .reset s.settings.minimum
      rollbackTarget := none
      rollbackResource := none
      mapReadyNs := 0
      quality := .reset s.settings.maximum }

/-- The end of `restore_protected_session_config`. -/
def restoreProtectedSession (s : AdaptiveSession F) : AdaptiveSession F :=
  { s with token := false, sequence := 0, pending := none }

end AdaptiveSession

/-! ## 7. The machine -/

/-- One call that can change the session. -/
inductive SessionOp (F : Type)
  | control (frame : AdaptiveSession.ControlFrame F)
  | pollQuality (outcome : Option AdaptiveControlReceiptStatus) (completedNs : ℕ)
  | pollMode (outcome : Option AdaptiveControlReceiptStatus)
  | reconcile (frame : AdaptiveSession.ReconcileFrame)
  | observe (result : Option QualityResult)
  | toggle (live : AdaptiveSession.LiveToggle) (nowNs : ℕ)
  | detach (d : AdaptiveSession.Detach)
  | bindProcess (sameProcess : Bool)
  | prepareLaunch
  | restoreProtectedSession
  /-- `adaptive_map_ready_ns` is set: gameplay starts, or the map changes. -/
  | mapReady (nowNs : ℕ)
  /-- `reset_adaptive_frame_window_for_rate_mode_change`. -/
  | frameRateModeChanged
  /-- The corpse control and the settings drive the same tracker. -/
  | actuate (op : Op F)

namespace AdaptiveSession

/-- The session after one call. -/
def step (s : AdaptiveSession F) : SessionOp F → AdaptiveSession F
  | .control c => s.updateAdaptiveController c
  | .pollQuality outcome completedNs => s.pollAdaptiveQualityDispatcher outcome completedNs
  | .pollMode outcome => s.pollAdaptiveRuntimeMode outcome
  | .reconcile c => s.reconcileAdaptiveRuntimeMode c
  | .observe result =>
    -- `update_adaptive_controller` returns earlier while a debt is owed or the mode is off
    if s.debt || !s.enabled then s else s.observeAdaptiveQualityResponse result
  | .toggle live nowNs => s.toggleAdaptiveOptimization live nowNs
  | .detach d => s.detachTelemetry d
  | .bindProcess sameProcess => s.bindProcess sameProcess
  | .prepareLaunch => s.prepareLaunch
  | .restoreProtectedSession => s.restoreProtectedSession
  | .mapReady nowNs => { s with mapReadyNs := nowNs }
  | .frameRateModeChanged => { s with response := none }
  | .actuate op => { s with actuation := s.actuation.step op }

/-- The session after a list of calls on a new one. -/
def run (settings : QualitySettings) (enabled : Bool) (ops : List (SessionOp F)) :
    AdaptiveSession F :=
  StepMachine.exec step (init settings enabled) ops

end AdaptiveSession

end Kf2Optimizer.Optimizer
