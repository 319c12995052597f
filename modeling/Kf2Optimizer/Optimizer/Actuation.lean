/-
# The actuation tracker

`AdaptiveActuationTracker` (`adaptive_actuation.hpp`, `adaptive_actuation.cpp`) follows every
action the optimizer asks of the game: one slot per control, a record of the action currently
in it, a failure counter and a circuit breaker.  This module is the tracker as the source has
it, one definition per member function, together with what each of them can do to a slot
(`propose_slot`, `receive_cases`, and the slot equations beside the other operations).

The tracker's step function takes one operation (`Op`) at a time, so a run is a list of
operations and the statements of the modules that follow quantify over every list.
-/
import Kf2Optimizer.Lib.Machine
import Kf2Optimizer.Lib.Double

set_option linter.unusedSectionVars false

namespace Kf2Optimizer.Optimizer

open DoubleOps

/-! ## 1. Records and receipts -/

/-- `AdaptiveCapabilityState` (`adaptive_registry.hpp`). -/
inductive AdaptiveCapabilityState
  | available | unavailable | shadow | restartRequired | failed
deriving DecidableEq, Repr

/-- `AdaptiveActionStatus`. -/
inductive AdaptiveActionStatus
  | proposed | skippedUnavailable | shadow | pending | applied | failed | rolledBack
  | restartRequired
deriving DecidableEq, Repr

/-- `AdaptiveControlId`.  `count` is the array bound, not a control. -/
inductive AdaptiveControlId
  | corpseRuntimeLimit | runtimeQuality | count
deriving DecidableEq, Repr

/-- `AdaptiveGeneration`: what an action is valid for. -/
structure AdaptiveGeneration where
  processStartId : ℕ := 0
  session : ℕ := 0
  map : ℕ := 0
  settings : ℕ := 0
  capabilities : ℕ := 0
deriving DecidableEq, Repr

/-- `AdaptiveReceiptResult`. -/
inductive AdaptiveReceiptResult
  | accepted | duplicate | staleGeneration | unknownAction | invalid
deriving DecidableEq, Repr

variable {F : Type} [DoubleOps F]

/-- `AdaptiveActionRecord`. -/
structure AdaptiveActionRecord (F : Type) where
  actionId : ℕ
  control : AdaptiveControlId
  status : AdaptiveActionStatus
  requestedValue : F
  observedValue : Option F
  previousOwnedValue : Option F
  generation : AdaptiveGeneration
  proposedNs : ℕ
  dispatchedNs : ℕ
  completedNs : ℕ
  attempt : ℕ
  provider : String
  failureReason : String
  ownsTemporaryValue : Bool

/-- The record a fresh `AdaptiveActionRecord{}` holds. -/
def AdaptiveActionRecord.init : AdaptiveActionRecord F where
  actionId := 0
  control := .corpseRuntimeLimit
  status := .failed
  requestedValue := ofRat 0
  observedValue := none
  previousOwnedValue := none
  generation := {}
  proposedNs := 0
  dispatchedNs := 0
  completedNs := 0
  attempt := 0
  provider := ""
  failureReason := ""
  ownsTemporaryValue := false

/-- `AdaptiveActionReceipt`. -/
structure AdaptiveActionReceipt (F : Type) where
  actionId : ℕ
  control : AdaptiveControlId
  status : AdaptiveActionStatus
  requestedValue : F
  observedValue : Option F
  generation : AdaptiveGeneration
  timestampNs : ℕ
  provider : String := ""
  failureReason : String := ""
  ownsTemporaryValue : Bool := false
  previousOwnedValue : Option F := none

/-- `is_terminal`. -/
def isTerminal : AdaptiveActionStatus → Bool
  | .applied | .failed | .rolledBack | .restartRequired | .skippedUnavailable | .shadow => true
  | .proposed | .pending => false

/-- `valid_terminal_receipt`. -/
def validTerminalReceipt : AdaptiveActionStatus → Bool
  | .applied | .failed | .rolledBack => true
  | _ => false

/-! ## 2. Slots and the tracker -/

/-- `AdaptiveActuationTracker::Slot`. -/
structure Slot (F : Type) where
  record : AdaptiveActionRecord F
  effectiveValue : Option F
  consecutiveFailures : ℕ
  retryAfterNs : ℕ
  occupied : Bool
  circuitOpen : Bool

/-- `Slot{}`. -/
def Slot.init : Slot F := ⟨AdaptiveActionRecord.init, none, 0, 0, false, false⟩

def kAcknowledgementTimeoutNs : ℕ := 2000000000
def kRetryBackoffNs : ℕ := 500000000
def kMaximumAttempts : ℕ := 3
def kCircuitBreakerFailures : ℕ := 3

/-- `AdaptiveActuationTracker`. -/
structure Tracker (F : Type) where
  slots : Fin 2 → Slot F
  generation : AdaptiveGeneration
  nextActionId : ℕ

/-- The constructor. -/
def Tracker.init (generation : AdaptiveGeneration) : Tracker F :=
  ⟨fun _ => Slot.init, generation, 1⟩

/-- `index`: a value that is no control lands in slot `0`. -/
def index : AdaptiveControlId → Fin 2
  | .corpseRuntimeLimit => 0
  | .runtimeQuality => 1
  | .count => 0

/-- `fail`. -/
def Slot.fail (slot : Slot F) (nowNs : ℕ) (reason : String) : Slot F :=
  { slot with
    record := { slot.record with
      status := .failed, completedNs := nowNs, failureReason := reason }
    consecutiveFailures := (slot.consecutiveFailures + 1) % 2 ^ 32
    retryAfterNs := u64 (nowNs + kRetryBackoffNs)
    circuitOpen :=
      decide (kCircuitBreakerFailures ≤ (slot.consecutiveFailures + 1) % 2 ^ 32) ||
        slot.circuitOpen }

/-- The action in the slot has neither been settled nor withdrawn. -/
def Slot.isOpen (slot : Slot F) : Bool :=
  slot.occupied && (slot.record.status == .proposed || slot.record.status == .pending)

/-- The withdrawal `rebase` and `disable` write into an open slot. -/
def Slot.withdraw (slot : Slot F) (nowNs : ℕ) (reason : String) : Slot F :=
  if slot.isOpen then
    { slot with record := { slot.record with
        status := .failed, failureReason := reason, completedNs := nowNs } }
  else slot

/-! ## 3. The operations -/

namespace Tracker

/-- `propose` hands back the action already in the slot: the same request still alive, or a
pending action that must be answered first. -/
def reuses (t : Tracker F) (control : AdaptiveControlId) (requestedValue : F)
    (effectiveValue : Option F) : Bool :=
  let slot := t.slots (index control)
  (slot.occupied && slot.record.generation == t.generation &&
    eq slot.record.requestedValue requestedValue &&
    (slot.record.status == .proposed || slot.record.status == .pending ||
      (slot.record.status == .applied && optEq slot.effectiveValue effectiveValue))) ||
  (slot.occupied && slot.record.status == .pending)

/-- The status and the failure reason `propose` gives a new record. -/
def proposedStatus (slot : Slot F) (requestedValue : F) (capability : AdaptiveCapabilityState)
    (startupOnly : Bool) : AdaptiveActionStatus × String :=
  if !isFinite requestedValue then (.failed, "invalid_requested_value")
  else if startupOnly || capability == .restartRequired then (.restartRequired, "startup_only")
  else if capability == .unavailable || slot.circuitOpen then
    (.skippedUnavailable,
      if slot.circuitOpen then "session_circuit_breaker_open" else "actuator_unavailable")
  else if capability == .shadow then (.shadow, "shadow_capability")
  else (.proposed, "")

/-- The slot `propose` writes when it starts a new action. -/
def proposedSlot (t : Tracker F) (control : AdaptiveControlId) (requestedValue : F)
    (effectiveValue : Option F) (capability : AdaptiveCapabilityState) (nowNs : ℕ)
    (provider : String) (startupOnly : Bool) : Slot F :=
  let slot := t.slots (index control)
  let outcome := proposedStatus slot requestedValue capability startupOnly
  { slot with
    occupied := true
    effectiveValue := effectiveValue
    record := { (AdaptiveActionRecord.init : AdaptiveActionRecord F) with
      actionId := t.nextActionId
      control := control
      requestedValue := requestedValue
      observedValue := effectiveValue
      generation := t.generation
      proposedNs := nowNs
      provider := provider
      status := outcome.1
      failureReason := outcome.2 } }

/-- One slot replaced, the rest of the tracker as it was. -/
def setSlot (t : Tracker F) (i : Fin 2) (slot : Slot F) : Tracker F :=
  { t with slots := Function.update t.slots i slot }

/-- `propose`.  The record it returns is the one in the slot afterwards. -/
def propose (t : Tracker F) (control : AdaptiveControlId) (requestedValue : F)
    (effectiveValue : Option F) (capability : AdaptiveCapabilityState) (nowNs : ℕ)
    (provider : String) (startupOnly : Bool) : Tracker F :=
  if t.reuses control requestedValue effectiveValue then t
  else
    { t.setSlot (index control) (t.proposedSlot control requestedValue effectiveValue capability
        nowNs provider startupOnly) with
      nextActionId := u64 (t.nextActionId + 1) }

/-- The test at the head of `dispatch`. -/
def dispatches (t : Tracker F) (control : AdaptiveControlId) (nowNs : ℕ) : Bool :=
  let slot := t.slots (index control)
  !(!slot.occupied || slot.circuitOpen || slot.record.status != .proposed ||
    decide (nowNs < slot.retryAfterNs) || decide (kMaximumAttempts ≤ slot.record.attempt))

/-- `dispatch`: the tracker afterwards, and whether the action went out. -/
def dispatch (t : Tracker F) (control : AdaptiveControlId) (nowNs : ℕ) : Tracker F × Bool :=
  let slot := t.slots (index control)
  if t.dispatches control nowNs then
    (t.setSlot (index control) { slot with
      record := { slot.record with
        status := .pending
        dispatchedNs := nowNs
        attempt := slot.record.attempt + 1 } }, true)
  else (t, false)

/-- The checks `receive` makes on the receipt alone. -/
def malformed (receipt : AdaptiveActionReceipt F) : Bool :=
  receipt.control == .count || !validTerminalReceipt receipt.status ||
    !isFinite receipt.requestedValue || receipt.timestampNs == 0 ||
    (receipt.status == .applied &&
      (match receipt.observedValue with
        | none => true
        | some v => !isFinite v))

/-- The answer `receive` gives before it touches the slot; `accepted` is the one on which it
goes on to write. -/
def judge (t : Tracker F) (receipt : AdaptiveActionReceipt F) : AdaptiveReceiptResult :=
  let slot := t.slots (index receipt.control)
  if malformed receipt then .invalid
  else if receipt.generation ≠ t.generation then .staleGeneration
  else if !slot.occupied || slot.record.actionId != receipt.actionId then .unknownAction
  else if isTerminal slot.record.status then .duplicate
  else if slot.record.status != .pending ||
      !eq receipt.requestedValue slot.record.requestedValue then .invalid
  else .accepted

/-- The slot an accepted receipt leaves. -/
def settledSlot (slot : Slot F) (receipt : AdaptiveActionReceipt F) : Slot F :=
  let record := { slot.record with
    completedNs := receipt.timestampNs
    provider := receipt.provider
    failureReason := receipt.failureReason
    ownsTemporaryValue := receipt.ownsTemporaryValue
    previousOwnedValue := receipt.previousOwnedValue }
  match receipt.status with
  | .applied =>
    { slot with
      record := { record with status := .applied, observedValue := receipt.observedValue }
      effectiveValue := receipt.observedValue
      consecutiveFailures := 0
      retryAfterNs := 0 }
  | .rolledBack =>
    { slot with
      record := { record with
        status := .rolledBack
        observedValue := receipt.observedValue
        ownsTemporaryValue := false }
      effectiveValue := receipt.observedValue
      consecutiveFailures := 0
      retryAfterNs := 0 }
  | _ =>
    Slot.fail { slot with record := record } receipt.timestampNs
      (if receipt.failureReason.isEmpty then "actuator_failed" else receipt.failureReason)

/-- `receive`. -/
def receive (t : Tracker F) (receipt : AdaptiveActionReceipt F) :
    Tracker F × AdaptiveReceiptResult :=
  match t.judge receipt with
  | .accepted =>
    (t.setSlot (index receipt.control)
      (settledSlot (t.slots (index receipt.control)) receipt), .accepted)
  | result => (t, result)

/-- `establish_effective`. -/
def establishEffective (t : Tracker F) (control : AdaptiveControlId) (observedValue : F) :
    Tracker F :=
  if control == .count || !isFinite observedValue then t
  else
    let slot := t.slots (index control)
    if slot.occupied then t
    else t.setSlot (index control) { slot with effectiveValue := some observedValue }

/-- The body of the loop of `poll`. -/
def pollSlot (nowNs : ℕ) (slot : Slot F) : Slot F :=
  if !slot.occupied || slot.record.status != .pending ||
      decide (nowNs < slot.record.dispatchedNs) then slot
  else if kAcknowledgementTimeoutNs ≤ nowNs - slot.record.dispatchedNs then
    slot.fail nowNs "acknowledgement_timeout"
  else slot

/-- `poll`. -/
def poll (t : Tracker F) (nowNs : ℕ) : Tracker F :=
  { t with slots := fun i => pollSlot nowNs (t.slots i) }

/-- The guard of `rebase`: the same KNOWN process and the same session. -/
def sameSession (old new : AdaptiveGeneration) : Bool :=
  old.processStartId != 0 && new.processStartId == old.processStartId &&
    new.session == old.session

/-- A slot emptied, its failure bookkeeping kept. -/
def keepFailures (slot : Slot F) : Slot F :=
  { (Slot.init : Slot F) with
    consecutiveFailures := slot.consecutiveFailures
    retryAfterNs := slot.retryAfterNs
    circuitOpen := slot.circuitOpen }

/-- `rebase`.  The withdrawal of an open action is written into the slot and then wiped with
it; `Op.marked` keeps the intermediate state. -/
def rebase (t : Tracker F) (generation : AdaptiveGeneration) (nowNs : ℕ) : Tracker F :=
  { t with
    slots := fun i =>
      let slot := (t.slots i).withdraw nowNs "generation_rebased"
      if sameSession t.generation generation then keepFailures slot else Slot.init
    generation := generation }

/-- `invalidate_control`. -/
def invalidateControl (t : Tracker F) (control : AdaptiveControlId) : Tracker F :=
  if control == .count then t
  else t.setSlot (index control) (keepFailures (t.slots (index control)))

/-- `disable`. -/
def disable (t : Tracker F) (nowNs : ℕ) : Tracker F :=
  { t with slots := fun i => (t.slots i).withdraw nowNs "adaptive_disabled" }

/-- `current`. -/
def current (t : Tracker F) (control : AdaptiveControlId) : Option (AdaptiveActionRecord F) :=
  if control == .count then none
  else if (t.slots (index control)).occupied then some (t.slots (index control)).record
  else none

/-- `circuit_open`. -/
def circuitOpen (t : Tracker F) (control : AdaptiveControlId) : Bool :=
  if control == .count then true else (t.slots (index control)).circuitOpen

end Tracker

/-! ## 4. Operations as inputs of a machine -/

/-- One call of a member function that can change the tracker. -/
inductive Op (F : Type)
  | propose (control : AdaptiveControlId) (requestedValue : F) (effectiveValue : Option F)
      (capability : AdaptiveCapabilityState) (nowNs : ℕ) (provider : String)
      (startupOnly : Bool)
  | dispatch (control : AdaptiveControlId) (nowNs : ℕ)
  | receive (receipt : AdaptiveActionReceipt F)
  | establishEffective (control : AdaptiveControlId) (observedValue : F)
  | poll (nowNs : ℕ)
  | rebase (generation : AdaptiveGeneration) (nowNs : ℕ)
  | invalidateControl (control : AdaptiveControlId)
  | disable (nowNs : ℕ)

namespace Tracker

/-- The tracker after one call. -/
def step (t : Tracker F) : Op F → Tracker F
  | .propose c v e cap now p s => t.propose c v e cap now p s
  | .dispatch c now => (t.dispatch c now).1
  | .receive r => (t.receive r).1
  | .establishEffective c v => t.establishEffective c v
  | .poll now => t.poll now
  | .rebase g now => t.rebase g now
  | .invalidateControl c => t.invalidateControl c
  | .disable now => t.disable now

/-- The tracker after a list of calls on a new tracker. -/
def run (generation : AdaptiveGeneration) (ops : List (Op F)) : Tracker F :=
  StepMachine.exec step (Tracker.init generation) ops

/-! ## 5. What each operation does to a slot -/

@[simp] theorem setSlot_generation (t : Tracker F) (i : Fin 2) (s : Slot F) :
    (t.setSlot i s).generation = t.generation := rfl

@[simp] theorem setSlot_nextActionId (t : Tracker F) (i : Fin 2) (s : Slot F) :
    (t.setSlot i s).nextActionId = t.nextActionId := rfl

@[simp] theorem setSlot_slots_self (t : Tracker F) (i : Fin 2) (s : Slot F) :
    (t.setSlot i s).slots i = s := by
  unfold setSlot; exact Function.update_self i s t.slots

theorem setSlot_slots_of_ne (t : Tracker F) {i j : Fin 2} (s : Slot F) (h : j ≠ i) :
    (t.setSlot i s).slots j = t.slots j := by
  unfold setSlot; exact Function.update_of_ne h s t.slots

/-- **What `propose` does**: nothing, or a new record under the next id. -/
theorem propose_cases (t : Tracker F) (c : AdaptiveControlId) (v : F) (e : Option F)
    (cap : AdaptiveCapabilityState) (now : ℕ) (p : String) (s : Bool) :
    (t.reuses c v e = true ∧ t.propose c v e cap now p s = t) ∨
    (t.reuses c v e = false ∧ t.propose c v e cap now p s =
      { t.setSlot (index c) (t.proposedSlot c v e cap now p s) with
        nextActionId := u64 (t.nextActionId + 1) }) := by
  cases h : t.reuses c v e with
  | true => exact .inl ⟨rfl, by simp [propose, h]⟩
  | false => exact .inr ⟨rfl, by simp [propose, h]⟩

/-- **What `dispatch` does**: nothing, or the proposed action of a closed circuit goes out. -/
theorem dispatch_cases (t : Tracker F) (c : AdaptiveControlId) (now : ℕ) :
    (t.dispatches c now = false ∧ t.dispatch c now = (t, false)) ∨
    ((t.slots (index c)).occupied = true ∧ (t.slots (index c)).circuitOpen = false ∧
      (t.slots (index c)).record.status = .proposed ∧
      t.dispatch c now = (t.setSlot (index c) { t.slots (index c) with
        record := { (t.slots (index c)).record with
          status := .pending
          dispatchedNs := now
          attempt := (t.slots (index c)).record.attempt + 1 } }, true)) := by
  cases h : t.dispatches c now with
  | false => exact .inl ⟨rfl, by simp [dispatch, h]⟩
  | true =>
    have h' := h
    simp only [dispatches, Bool.not_eq_true', Bool.or_eq_false_iff, Bool.not_eq_false',
      bne_eq_false_iff_eq] at h'
    obtain ⟨⟨⟨⟨hocc, hopen⟩, hstat⟩, -⟩, -⟩ := h'
    exact .inr ⟨hocc, hopen, hstat, by simp [dispatch, h]⟩

/-- **What `receive` does**: it writes only on a receipt that names the pending action of its
control by id, generation and requested value. -/
theorem receive_cases (t : Tracker F) (r : AdaptiveActionReceipt F) :
    (t.judge r ≠ .accepted ∧ t.receive r = (t, t.judge r)) ∨
    (malformed r = false ∧ r.generation = t.generation ∧
      (t.slots (index r.control)).occupied = true ∧
      (t.slots (index r.control)).record.actionId = r.actionId ∧
      (t.slots (index r.control)).record.status = .pending ∧
      eq r.requestedValue (t.slots (index r.control)).record.requestedValue = true ∧
      t.receive r = (t.setSlot (index r.control)
        (settledSlot (t.slots (index r.control)) r), .accepted)) := by
  by_cases h : t.judge r = .accepted
  · refine .inr ?_
    have hj := h
    unfold judge at hj
    simp only at hj
    split at hj
    · cases hj
    · rename_i hm
      split at hj
      · cases hj
      · rename_i hg
        split at hj
        · cases hj
        · rename_i hid
          split at hj
          · cases hj
          · split at hj
            · cases hj
            · rename_i hst
              simp only [Bool.or_eq_true, Bool.not_eq_true', bne_iff_ne, not_or, not_not,
                Bool.not_eq_false, ne_eq] at hid hst hm hg
              exact ⟨by simpa using hm, hg, hid.1, hid.2, hst.1, hst.2, by simp [receive, h]⟩
  · refine .inl ⟨h, ?_⟩
    unfold receive
    split
    · rename_i hacc; exact absurd hacc h
    · rfl

/-- A pending action past its deadline fails; any other slot is left alone. -/
theorem pollSlot_cases (now : ℕ) (s : Slot F) :
    pollSlot now s = s ∨
    (s.occupied = true ∧ s.record.status = .pending ∧
      pollSlot now s = s.fail now "acknowledgement_timeout") := by
  unfold pollSlot
  split
  · exact .inl rfl
  · rename_i h
    simp only [Bool.or_eq_true, Bool.not_eq_true', bne_iff_ne, ne_eq, not_or, not_not,
      Bool.not_eq_false] at h
    split
    · exact .inr ⟨h.1.1, h.1.2, rfl⟩
    · exact .inl rfl

/-- `establish_effective` writes one field of a vacant slot. -/
theorem establishEffective_cases (t : Tracker F) (c : AdaptiveControlId) (v : F) :
    t.establishEffective c v = t ∨
    ((t.slots (index c)).occupied = false ∧ t.establishEffective c v =
      t.setSlot (index c) { t.slots (index c) with effectiveValue := some v }) := by
  unfold establishEffective
  split
  · exact .inl rfl
  · cases h : (t.slots (index c)).occupied with
    | true => exact .inl (by simp [h])
    | false => exact .inr ⟨rfl, by simp [h]⟩

/-- `invalidate_control` empties one slot and keeps its failure bookkeeping. -/
theorem invalidateControl_cases (t : Tracker F) (c : AdaptiveControlId) :
    t.invalidateControl c = t ∨
    t.invalidateControl c = t.setSlot (index c) (keepFailures (t.slots (index c))) := by
  unfold invalidateControl
  split
  · exact .inl rfl
  · exact .inr rfl

end Tracker

/-! ## 6. Slots after a withdrawal or a settlement -/

namespace Slot

@[simp] theorem withdraw_occupied (s : Slot F) (now : ℕ) (why : String) :
    (s.withdraw now why).occupied = s.occupied := by unfold withdraw; split <;> rfl

@[simp] theorem withdraw_circuitOpen (s : Slot F) (now : ℕ) (why : String) :
    (s.withdraw now why).circuitOpen = s.circuitOpen := by unfold withdraw; split <;> rfl

@[simp] theorem withdraw_consecutiveFailures (s : Slot F) (now : ℕ) (why : String) :
    (s.withdraw now why).consecutiveFailures = s.consecutiveFailures := by
  unfold withdraw; split <;> rfl

@[simp] theorem withdraw_actionId (s : Slot F) (now : ℕ) (why : String) :
    (s.withdraw now why).record.actionId = s.record.actionId := by unfold withdraw; split <;> rfl

@[simp] theorem withdraw_generation (s : Slot F) (now : ℕ) (why : String) :
    (s.withdraw now why).record.generation = s.record.generation := by
  unfold withdraw; split <;> rfl

/-- After a withdrawal nothing is open. -/
theorem withdraw_isOpen (s : Slot F) (now : ℕ) (why : String) :
    (s.withdraw now why).isOpen = false := by
  unfold withdraw
  split
  · simp [isOpen]
  · rename_i h; exact Bool.eq_false_iff.mpr h

@[simp] theorem settledSlot_occupied (s : Slot F) (r : AdaptiveActionReceipt F) :
    (Tracker.settledSlot s r).occupied = s.occupied := by
  unfold Tracker.settledSlot; split <;> rfl

@[simp] theorem settledSlot_actionId (s : Slot F) (r : AdaptiveActionReceipt F) :
    (Tracker.settledSlot s r).record.actionId = s.record.actionId := by
  unfold Tracker.settledSlot; split <;> rfl

@[simp] theorem settledSlot_generation (s : Slot F) (r : AdaptiveActionReceipt F) :
    (Tracker.settledSlot s r).record.generation = s.record.generation := by
  unfold Tracker.settledSlot; split <;> rfl

/-- A receipt settles: the record it leaves is terminal. -/
theorem settledSlot_terminal (s : Slot F) (r : AdaptiveActionReceipt F) :
    isTerminal (Tracker.settledSlot s r).record.status = true := by
  unfold Tracker.settledSlot; split <;> rfl

/-- A non-terminal status is one of an open slot. -/
theorem isOpen_iff (s : Slot F) :
    s.isOpen = true ↔ s.occupied = true ∧ isTerminal s.record.status = false := by
  unfold isOpen isTerminal
  cases s.record.status <;> simp

end Slot

end Kf2Optimizer.Optimizer
