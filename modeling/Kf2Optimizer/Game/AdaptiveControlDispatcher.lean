/-
# The dispatcher of Adaptive commands

`AdaptiveControlDispatcher` (`adaptive_control_client.cpp`) hands one request at a time to a
detached worker and keeps what the worker reports until it is polled.  Three flags carry the
exchange, `busy`, `worker_failed` and `outcome`, each written in critical sections of `start`,
`poll` and the worker.

A result keeps the dispatcher busy until it is polled, but a failure frees it at once: a `start`
that comes before the poll resets the failure, and the first start is never answered
(`dispatch_unanswered`).  In every run without such a start each one is answered by itself, once,
before the next (`dispatch_answered`).
-/
import Kf2Optimizer.Lib.Machine
import Kf2Optimizer.Game.AdaptiveControlClient

namespace Kf2Optimizer.Game

open Optimizer StepMachine

/-! ## 1. The shared state -/

/-- `AdaptiveControlDispatcher::State`. -/
structure DispatcherState where
  busy : Bool := false
  workerFailed : Bool := false
  outcome : Option (Result AdaptiveControlReceipt) := none

namespace DispatcherState

/-- The critical section of `start`, when the dispatcher is free. -/
def claim (_ : DispatcherState) : DispatcherState :=
  { busy := true, workerFailed := false, outcome := none }

/-- The worker's thread could not be started. -/
def release (s : DispatcherState) : DispatcherState := { s with busy := false }

/-- The worker has a result. -/
def publish (s : DispatcherState) (outcome : Result AdaptiveControlReceipt) : DispatcherState :=
  { s with outcome := some outcome }

/-- The worker has failed. -/
def fail (s : DispatcherState) : DispatcherState :=
  { s with outcome := none, workerFailed := true, busy := false }

def workerError : Error :=
  ⟨.platformFailure, "Adaptive runtime-control worker failed", 0⟩

/-- What `poll` leaves. -/
def polled (s : DispatcherState) : DispatcherState :=
  if s.outcome.isSome then { busy := false, workerFailed := false, outcome := none }
  else { s with workerFailed := false }

/-- What `poll` returns. -/
def poll (s : DispatcherState) : Option (Result AdaptiveControlReceipt) :=
  if s.workerFailed then some (.error workerError) else s.outcome

end DispatcherState

/-! ## 2. Calls and workers -/

/-- The dispatcher with its workers.  A ticket stands for one accepted `start`; that of the
report in `state` is kept beside it. -/
structure Dispatcher where
  state : DispatcherState := {}
  /-- Accepted, and the thread not yet created. -/
  starting : List ℕ := []
  /-- Running, and nothing reported. -/
  working : List ℕ := []
  /-- Who wrote `outcome`. -/
  stored : ℕ := 0
  /-- Who set `worker_failed`. -/
  failed : ℕ := 0
  next : ℕ := 0

/-- A critical section, or the creation of a thread. -/
inductive DispatchStep
  | start (request : AdaptiveControlRequest)
  /-- The thread of an accepted start is created, or is not. -/
  | spawn (ticket : ℕ) (created : Bool)
  | publish (ticket : ℕ) (outcome : Result AdaptiveControlReceipt)
  | fail (ticket : ℕ)
  /-- Not even the failure can be reported. -/
  | vanish (ticket : ℕ)
  | poll

/-- What the callers see. -/
inductive DispatchNote
  /-- `start` returned true. -/
  | started (ticket : ℕ)
  /-- `poll` returned what the ticket's worker reported. -/
  | answered (ticket : ℕ) (outcome : Result AdaptiveControlReceipt)

namespace Dispatcher

/-- `start` takes the dispatcher. -/
def Takes (d : Dispatcher) (request : AdaptiveControlRequest) : Prop :=
  (buildAdaptiveControlCommand request).isOk = true ∧ d.state.busy = false

instance (d : Dispatcher) (request : AdaptiveControlRequest) : Decidable (d.Takes request) :=
  inferInstanceAs (Decidable (_ ∧ _))

def step (d : Dispatcher) : DispatchStep → Dispatcher
  | .start request =>
    if d.Takes request then
      { d with state := d.state.claim, starting := d.next :: d.starting, next := d.next + 1 }
    else d
  | .spawn ticket created =>
    if ticket ∈ d.starting then
      if created then
        { d with starting := d.starting.erase ticket, working := ticket :: d.working }
      else { d with starting := d.starting.erase ticket, state := d.state.release }
    else d
  | .publish ticket outcome =>
    if ticket ∈ d.working then
      { d with working := d.working.erase ticket, state := d.state.publish outcome
               stored := ticket }
    else d
  | .fail ticket =>
    if ticket ∈ d.working then
      { d with working := d.working.erase ticket, state := d.state.fail, failed := ticket }
    else d
  | .vanish ticket => { d with working := d.working.erase ticket }
  | .poll => { d with state := d.state.polled }

def notes (d : Dispatcher) : DispatchStep → List DispatchNote
  | .spawn ticket created =>
    if ticket ∈ d.starting ∧ created = true then [.started ticket] else []
  | .poll =>
    match d.state.poll with
    | some outcome =>
      [.answered (if d.state.workerFailed then d.failed else d.stored) outcome]
    | none => []
  | _ => []

end Dispatcher

/-! ## 3. One answer for each start -/

/-- Each start is answered, once and by itself, before the next one.  The ticket is that of a
start that waits for its answer. -/
def OneAnswerEach : Option ℕ → List DispatchNote → Prop
  | _, [] => True
  | none, .started ticket :: rest => OneAnswerEach (some ticket) rest
  | some waiting, .answered ticket _ :: rest => ticket = waiting ∧ OneAnswerEach none rest
  | _, _ => False

/-- A start that resets a failure nobody has polled. -/
def Overwrites (d : Dispatcher) : DispatchStep → Prop
  | .start request => d.Takes request ∧ d.state.workerFailed = true
  | _ => False

instance decidableOneAnswerEach : ∀ (waiting : Option ℕ) (notes : List DispatchNote),
    Decidable (OneAnswerEach waiting notes)
  | none, [] => isTrue trivial
  | some _, [] => isTrue trivial
  | none, .started ticket :: rest => decidableOneAnswerEach (some ticket) rest
  | some _, .answered _ _ :: rest => @instDecidableAnd _ _ _ (decidableOneAnswerEach none rest)
  | none, .answered _ _ :: _ => isFalse not_false
  | some _, .started _ :: _ => isFalse not_false

instance (d : Dispatcher) : ∀ c : DispatchStep, Decidable (Overwrites d c)
  | .start request =>
    inferInstanceAs (Decidable (d.Takes request ∧ d.state.workerFailed = true))
  | .spawn _ _ | .publish _ _ | .fail _ | .vanish _ | .poll => isFalse not_false

/-- Where an exchange stands. -/
inductive Stage
  | idle
  | starting (ticket : ℕ)
  | working (ticket : ℕ)
  | stored (ticket : ℕ) (outcome : Result AdaptiveControlReceipt)
  | failed (ticket : ℕ)
  | lost (ticket : ℕ)

namespace Stage

/-- The start that waits for its answer. -/
def waiting : Stage → Option ℕ
  | idle | starting _ => none
  | working ticket | stored ticket _ | failed ticket | lost ticket => some ticket

/-- The dispatcher at a stage. -/
def Holds : Stage → Dispatcher → Prop
  | idle, d => d.state = {} ∧ d.starting = [] ∧ d.working = []
  | starting ticket, d => d.state = ⟨true, false, none⟩ ∧ d.starting = [ticket] ∧ d.working = []
  | working ticket, d => d.state = ⟨true, false, none⟩ ∧ d.starting = [] ∧ d.working = [ticket]
  | stored ticket outcome, d =>
    d.state = ⟨true, false, some outcome⟩ ∧ d.starting = [] ∧ d.working = [] ∧ d.stored = ticket
  | failed ticket, d =>
    d.state = ⟨false, true, none⟩ ∧ d.starting = [] ∧ d.working = [] ∧ d.failed = ticket
  | lost _, d => d.state = ⟨true, false, none⟩ ∧ d.starting = [] ∧ d.working = []

/-- What a step has to show: some stage holds behind it, and its notes lead from the start that
waited to the one that waits now. -/
def Leads (g : Stage) (d : Dispatcher) (c : DispatchStep) : Prop :=
  ∃ g' : Stage, g'.Holds (d.step c) ∧
    ∀ rest, OneAnswerEach g'.waiting rest → OneAnswerEach g.waiting (d.notes c ++ rest)

theorem leads_silent {g k : Stage} {d : Dispatcher} {c : DispatchStep}
    (hholds : k.Holds (d.step c)) (hnotes : d.notes c = []) (hwaiting : k.waiting = g.waiting) :
    g.Leads d c := by
  refine ⟨k, hholds, fun rest h => ?_⟩
  rw [hnotes, ← hwaiting]
  exact h

variable {d : Dispatcher}

theorem leads_start {g : Stage} (h : g.Holds d) (request : AdaptiveControlRequest)
    (hc : ¬Overwrites d (.start request)) : g.Leads d (.start request) := by
  by_cases htakes : d.Takes request
  · have hfree : d.state.workerFailed = false := by
      simpa [Overwrites, htakes] using hc
    -- a free dispatcher without an unread failure is idle
    have hidle : d.starting = [] ∧ d.working = [] ∧ g.waiting = none := by
      cases g with
      | idle => exact ⟨h.2.1, h.2.2, rfl⟩
      | failed ticket => simp [h.1] at hfree
      | starting ticket => simp [Dispatcher.Takes, h.1] at htakes
      | working ticket => simp [Dispatcher.Takes, h.1] at htakes
      | stored ticket outcome => simp [Dispatcher.Takes, h.1] at htakes
      | lost ticket => simp [Dispatcher.Takes, h.1] at htakes
    refine leads_silent (k := .starting d.next) ?_ rfl hidle.2.2.symm
    rw [Dispatcher.step, if_pos htakes]
    exact ⟨rfl, by rw [hidle.1], hidle.2.1⟩
  · refine leads_silent (k := g) ?_ rfl rfl
    rw [Dispatcher.step, if_neg htakes]
    exact h

theorem leads_spawn {g : Stage} (h : g.Holds d) (ticket : ℕ) (created : Bool) :
    g.Leads d (.spawn ticket created) := by
  by_cases hmem : ticket ∈ d.starting
  · cases g with
    | starting waiting =>
      obtain ⟨hstate, hstarting, hworking⟩ := h
      obtain rfl : ticket = waiting := by simpa [hstarting] using hmem
      cases created with
      | false =>
        refine leads_silent (k := .idle) ?_ (by simp [Dispatcher.notes]) rfl
        rw [Dispatcher.step, if_pos hmem]
        simp [Holds, hstate, hstarting, hworking, DispatcherState.release]
      | true =>
        refine ⟨.working ticket, ?_, fun rest hrest => ?_⟩
        · rw [Dispatcher.step, if_pos hmem]
          simp [Holds, hstate, hstarting, hworking]
        · rw [Dispatcher.notes, if_pos ⟨hmem, rfl⟩]
          exact hrest
    | idle => simp [h.2.1] at hmem
    | working _ => simp [h.2.1] at hmem
    | stored _ _ => simp [h.2.1] at hmem
    | failed _ => simp [h.2.1] at hmem
    | lost _ => simp [h.2.1] at hmem
  · refine leads_silent (k := g) ?_ (by simp [Dispatcher.notes, hmem]) rfl
    rw [Dispatcher.step, if_neg hmem]
    exact h

/-- A worker that can report is the one of the stage. -/
theorem working_of_mem {g : Stage} (h : g.Holds d) {ticket : ℕ} (hmem : ticket ∈ d.working) :
    g = .working ticket := by
  cases g with
  | working waiting => rw [show ticket = waiting by simpa [h.2.2] using hmem]
  | idle => simp [h.2.2] at hmem
  | starting _ => simp [h.2.2] at hmem
  | stored _ _ => simp [h.2.2.1] at hmem
  | failed _ => simp [h.2.2.1] at hmem
  | lost _ => simp [h.2.2] at hmem

theorem leads_publish {g : Stage} (h : g.Holds d) (ticket : ℕ)
    (outcome : Result AdaptiveControlReceipt) : g.Leads d (.publish ticket outcome) := by
  by_cases hmem : ticket ∈ d.working
  · obtain rfl := working_of_mem h hmem
    obtain ⟨hstate, hstarting, hworking⟩ := h
    refine leads_silent (k := .stored ticket outcome) ?_ rfl rfl
    rw [Dispatcher.step, if_pos hmem]
    simp [Holds, hstate, hstarting, hworking, DispatcherState.publish]
  · refine leads_silent (k := g) ?_ rfl rfl
    rw [Dispatcher.step, if_neg hmem]
    exact h

theorem leads_fail {g : Stage} (h : g.Holds d) (ticket : ℕ) : g.Leads d (.fail ticket) := by
  by_cases hmem : ticket ∈ d.working
  · obtain rfl := working_of_mem h hmem
    obtain ⟨-, hstarting, hworking⟩ := h
    refine leads_silent (k := .failed ticket) ?_ rfl rfl
    rw [Dispatcher.step, if_pos hmem]
    simp [Holds, hstarting, hworking, DispatcherState.fail]
  · refine leads_silent (k := g) ?_ rfl rfl
    rw [Dispatcher.step, if_neg hmem]
    exact h

theorem leads_vanish {g : Stage} (h : g.Holds d) (ticket : ℕ) : g.Leads d (.vanish ticket) := by
  by_cases hmem : ticket ∈ d.working
  · obtain rfl := working_of_mem h hmem
    obtain ⟨hstate, hstarting, hworking⟩ := h
    refine leads_silent (k := .lost ticket) ?_ rfl rfl
    simp [Dispatcher.step, Holds, hstate, hstarting, hworking]
  · refine leads_silent (k := g) ?_ rfl rfl
    rw [Dispatcher.step, List.erase_of_not_mem hmem]
    exact h

theorem leads_poll {g : Stage} (h : g.Holds d) : g.Leads d .poll := by
  cases g with
  | idle =>
    obtain ⟨hstate, hstarting, hworking⟩ := h
    refine leads_silent (k := .idle) ?_ ?_ rfl
    · simp [Dispatcher.step, Holds, hstate, hstarting, hworking, DispatcherState.polled]
    · simp [Dispatcher.notes, DispatcherState.poll, hstate]
  | starting ticket =>
    obtain ⟨hstate, hstarting, hworking⟩ := h
    refine leads_silent (k := .starting ticket) ?_ ?_ rfl
    · simp [Dispatcher.step, Holds, hstate, hstarting, hworking, DispatcherState.polled]
    · simp [Dispatcher.notes, DispatcherState.poll, hstate]
  | working ticket =>
    obtain ⟨hstate, hstarting, hworking⟩ := h
    refine leads_silent (k := .working ticket) ?_ ?_ rfl
    · simp [Dispatcher.step, Holds, hstate, hstarting, hworking, DispatcherState.polled]
    · simp [Dispatcher.notes, DispatcherState.poll, hstate]
  | lost ticket =>
    obtain ⟨hstate, hstarting, hworking⟩ := h
    refine leads_silent (k := .lost ticket) ?_ ?_ rfl
    · simp [Dispatcher.step, Holds, hstate, hstarting, hworking, DispatcherState.polled]
    · simp [Dispatcher.notes, DispatcherState.poll, hstate]
  | stored ticket outcome =>
    obtain ⟨hstate, hstarting, hworking, hstored⟩ := h
    refine ⟨.idle, ?_, fun rest hrest => ?_⟩
    · simp [Dispatcher.step, Holds, hstate, hstarting, hworking, DispatcherState.polled]
    · simpa [Dispatcher.notes, DispatcherState.poll, hstate, waiting, OneAnswerEach, hstored]
        using hrest
  | failed ticket =>
    obtain ⟨hstate, hstarting, hworking, hfailed⟩ := h
    refine ⟨.idle, ?_, fun rest hrest => ?_⟩
    · simp [Dispatcher.step, Holds, hstate, hstarting, hworking, DispatcherState.polled]
    · simpa [Dispatcher.notes, DispatcherState.poll, hstate, waiting, OneAnswerEach, hfailed]
        using hrest

/-- **One step** that overwrites nothing leads from stage to stage. -/
theorem leads {g : Stage} (h : g.Holds d) (c : DispatchStep) (hc : ¬Overwrites d c) :
    g.Leads d c := by
  cases c with
  | start request => exact leads_start h request hc
  | spawn ticket created => exact leads_spawn h ticket created
  | publish ticket outcome => exact leads_publish h ticket outcome
  | fail ticket => exact leads_fail h ticket
  | vanish ticket => exact leads_vanish h ticket
  | poll => exact leads_poll h

/-- **A whole run** that overwrites nothing. -/
theorem run : ∀ (cs : List DispatchStep) {g : Stage} {d : Dispatcher}, g.Holds d →
    Along Dispatcher.step (fun d c => ¬Overwrites d c) d cs →
    OneAnswerEach g.waiting (emitted Dispatcher.step Dispatcher.notes d cs)
  | [], g, _, _, _ => by
    rw [emitted_nil]
    cases g.waiting <;> trivial
  | c :: cs, g, d, h, hal => by
    obtain ⟨g', hg', hnotes⟩ := leads h c hal.1
    rw [emitted_cons]
    exact hnotes _ (run cs hg' hal.2)

end Stage

/-! ## 4. The dispatcher's runs -/

/-- **Each dispatch has one outcome** in every run in which no start comes while a worker's
failure is unread. -/
theorem dispatch_answered (cs : List DispatchStep)
    (h : Along Dispatcher.step (fun d c => ¬Overwrites d c) {} cs) :
    OneAnswerEach none (emitted Dispatcher.step Dispatcher.notes {} cs) :=
  Stage.run cs (g := .idle) ⟨rfl, rfl, rfl⟩ h

/-- A request of the GPU control. -/
def gpuRequest (sequence : ℕ) (hsequence : sequence < 2 ^ 64 := by decide) :
    AdaptiveControlRequest := halved .gpu sequence hsequence

/-- A failure that is polled, and then a result. -/
def pollingRun : List DispatchStep :=
  [.start (gpuRequest 1), .spawn 0 true, .fail 0, .poll,
    .start (gpuRequest 2), .spawn 1 true, .publish 1 (.ok ⟨2, .gpu, 50, .applied⟩), .poll]

theorem dispatch_answered_pollingRun :
    OneAnswerEach none (emitted Dispatcher.step Dispatcher.notes {} pollingRun) :=
  dispatch_answered pollingRun (by decide +kernel)

/-- The worker fails between a poll and the next start. -/
def overwritingRun : List DispatchStep :=
  [.start (gpuRequest 1), .spawn 0 true, .poll, .fail 0, .start (gpuRequest 2), .spawn 1 true]

/-- The first start of `overwritingRun` is never answered. -/
theorem dispatch_unanswered :
    ¬OneAnswerEach none (emitted Dispatcher.step Dispatcher.notes {} overwritingRun) := by
  decide +kernel

end Kf2Optimizer.Game
