/-
# The circuit breaker

Three failures in a row, whether refusals by the game or missed deadlines, open the circuit of
a control; from then on the tracker sends that control nothing more.

The proof reads one relation, `Slot.Move`: everything one call can do to one slot, the guard
it was done under included.  The invariant `Slot.Sound` is checked against its ten cases once
(`Slot.Move.sound`), and two facts about one step are read off the same cases: an open circuit
stays open unless the step releases it, and a failure count only goes down on a release or on
a receipt that reports success.

A RELEASE is a rebase that is not to the same known process and session.  `rebase` asks for a
process id other than `0` before it believes that two generations are of the same process, so
on a tracker that does not know its process every rebase is a release, the one to the
identical generation included (`rebase_unknown_process`).
-/
import Kf2Optimizer.Optimizer.Actuation

set_option linter.unusedSectionVars false

namespace Kf2Optimizer.Optimizer

open DoubleOps StepMachine

variable {F : Type} [DoubleOps F]

/-! ## 1. What one call does to one slot -/

/-- `Move t i op before after`: on the tracker `t` the call `op` takes slot `i` from `before` to
`after`. -/
inductive Slot.Move (t : Tracker F) (i : Fin 2) : Op F → Slot F → Slot F → Prop
  | same {op s} : Move t i op s s
  | propose {c v e cap now p s} (hc : index c = i) :
      Move t i (.propose c v e cap now p s) (t.slots i) (t.proposedSlot c v e cap now p s)
  | dispatch {c now s} (hc : index c = i) (hclosed : s.circuitOpen = false)
      {r : AdaptiveActionRecord F} (hr : r.status = .pending) :
      Move t i (.dispatch c now) s { s with record := r }
  | receive {r s} (hc : index r.control = i) (hpending : s.isOpen = true)
      (hacc : (t.receive r).2 = .accepted) : Move t i (.receive r) s (Tracker.settledSlot s r)
  | establish {c v s} (hvacant : s.occupied = false) :
      Move t i (.establishEffective c v) s { s with effectiveValue := some v }
  | timeout {now s} (hpending : s.isOpen = true) :
      Move t i (.poll now) s (s.fail now "acknowledgement_timeout")
  | rebase {g now s} (hsame : Tracker.sameSession t.generation g = true) :
      Move t i (.rebase g now) s (Tracker.keepFailures s)
  | release {g now s} (hother : Tracker.sameSession t.generation g = false) :
      Move t i (.rebase g now) s Slot.init
  | invalidate {c s} : Move t i (.invalidateControl c) s (Tracker.keepFailures s)
  | disable {now s} : Move t i (.disable now) s (s.withdraw now "adaptive_disabled")

/-- A relation between the old and the new content of a slot that holds when the slot stays and
holds of what is written into slot `k` holds of every slot. -/
theorem Tracker.setSlot_move {t : Tracker F} {op : Op F} {k : Fin 2} {s : Slot F}
    (h : ∀ i, k = i → Slot.Move t i op (t.slots i) s) (i : Fin 2) :
    Slot.Move t i op (t.slots i) ((t.setSlot k s).slots i) := by
  by_cases hi : i = k
  · subst hi; rw [setSlot_slots_self]; exact h i rfl
  · rw [setSlot_slots_of_ne t s hi]; exact .same

/-- `keepFailures` reads nothing that a withdrawal writes. -/
theorem Tracker.keepFailures_withdraw (s : Slot F) (now : ℕ) (why : String) :
    keepFailures (s.withdraw now why) = keepFailures s := by
  unfold keepFailures Slot.withdraw; split <;> rfl

/-- **Every call moves every slot by one of the moves.** -/
theorem Tracker.step_move (t : Tracker F) (op : Op F) (i : Fin 2) :
    Slot.Move t i op (t.slots i) ((t.step op).slots i) := by
  cases op with
  | propose c v e cap now p s =>
    rcases t.propose_cases c v e cap now p s with ⟨_, hp⟩ | ⟨_, hp⟩
    · rw [step, hp]; exact .same
    · rw [step, hp]
      exact setSlot_move (fun j hj => .propose hj) i
  | dispatch c now =>
    rcases t.dispatch_cases c now with ⟨_, hd⟩ | ⟨_, hclosed, _, hd⟩
    · rw [step, hd]; exact .same
    · rw [step, hd]
      exact setSlot_move (fun j hj => hj ▸ .dispatch rfl hclosed rfl) i
  | receive r =>
    rcases t.receive_cases r with ⟨_, hd⟩ | ⟨_, _, hocc, _, hst, _, hd⟩
    · rw [step, hd]; exact .same
    · have hacc : (t.receive r).2 = .accepted := by rw [hd]
      have hopen : (t.slots (index r.control)).isOpen = true :=
        (Slot.isOpen_iff _).mpr ⟨hocc, by rw [hst]; rfl⟩
      rw [step, hd]
      exact setSlot_move (fun j hj => hj ▸ .receive rfl hopen hacc) i
  | establishEffective c v =>
    rcases t.establishEffective_cases c v with hd | ⟨hvac, hd⟩
    · rw [step, hd]; exact .same
    · rw [step, hd]
      exact setSlot_move (fun j hj => hj ▸ .establish hvac) i
  | poll now =>
    show Slot.Move t i _ _ (pollSlot now (t.slots i))
    rcases pollSlot_cases now (t.slots i) with hs | ⟨hocc, hst, hs⟩
    · rw [hs]; exact .same
    · rw [hs]
      exact .timeout ((Slot.isOpen_iff _).mpr ⟨hocc, by rw [hst]; rfl⟩)
  | rebase g now =>
    cases hs : sameSession t.generation g with
    | true =>
      have he : (t.step (.rebase g now)).slots i = keepFailures (t.slots i) := by
        simp [step, Tracker.rebase, hs, keepFailures_withdraw]
      rw [he]; exact .rebase hs
    | false =>
      have he : (t.step (.rebase g now)).slots i = Slot.init := by
        simp [step, Tracker.rebase, hs]
      rw [he]; exact .release hs
  | invalidateControl c =>
    rcases t.invalidateControl_cases c with hd | hd
    · rw [step, hd]; exact .same
    · rw [step, hd]
      exact setSlot_move (fun j hj => hj ▸ .invalidate) i
  | disable now => exact .disable

/-! ## 2. The invariant of a slot -/

/-- The breaker is open exactly at the threshold, which the count never passes, and an open
breaker leaves no action to settle. -/
structure Slot.Sound (s : Slot F) : Prop where
  breaker : s.circuitOpen = true ↔ kCircuitBreakerFailures ≤ s.consecutiveFailures
  bounded : s.consecutiveFailures ≤ kCircuitBreakerFailures
  quiet : s.circuitOpen = true → s.isOpen = false

theorem Slot.sound_init : (Slot.init : Slot F).Sound :=
  ⟨by simp [Slot.init, kCircuitBreakerFailures], Nat.zero_le _, fun h => by cases h⟩

/-- The failure bookkeeping alone decides soundness of a slot with nothing open in it. -/
theorem Slot.Sound.settled {s s' : Slot F} (h : s.Sound) (hc : s'.circuitOpen = s.circuitOpen)
    (hf : s'.consecutiveFailures = s.consecutiveFailures) (hq : s'.isOpen = false) : s'.Sound :=
  ⟨by rw [hc, hf]; exact h.breaker, by rw [hf]; exact h.bounded, fun _ => hq⟩

/-- An open action means a closed breaker and a count below the threshold. -/
theorem Slot.Sound.closed {s : Slot F} (h : s.Sound) (hopen : s.isOpen = true) :
    s.circuitOpen = false ∧ s.consecutiveFailures < kCircuitBreakerFailures := by
  have hc : s.circuitOpen = false := by
    cases hc : s.circuitOpen with
    | false => rfl
    | true => rw [h.quiet hc] at hopen; cases hopen
  refine ⟨hc, Nat.lt_of_not_le fun hle => ?_⟩
  rw [h.breaker.mpr hle] at hc
  cases hc

/-- **A failure of an open action** raises the count by one, and opens the breaker on the
third. -/
theorem Slot.Sound.fail {s : Slot F} (h : s.Sound) (hopen : s.isOpen = true) (now : ℕ)
    (why : String) : (s.fail now why).Sound := by
  obtain ⟨hc, hlt⟩ := h.closed hopen
  have hcount : (s.fail now why).consecutiveFailures = s.consecutiveFailures + 1 := by
    have : s.consecutiveFailures + 1 < 2 ^ 32 := by
      unfold kCircuitBreakerFailures at hlt; omega
    exact Nat.mod_eq_of_lt this
  have hopens : (s.fail now why).circuitOpen =
      decide (kCircuitBreakerFailures ≤ (s.fail now why).consecutiveFailures) := by
    show (decide _ || s.circuitOpen) = _
    rw [hc, Bool.or_false]; rfl
  refine ⟨by rw [hopens, decide_eq_true_iff], by rw [hcount]; exact hlt, fun _ => ?_⟩
  simp [Slot.isOpen, Slot.fail]

/-- A new record under an open breaker is born settled. -/
theorem Tracker.proposedSlot_quiet (t : Tracker F) (c : AdaptiveControlId) (v : F)
    (e : Option F) (cap : AdaptiveCapabilityState) (now : ℕ) (p : String) (st : Bool)
    (hopen : (t.slots (index c)).circuitOpen = true) :
    (t.proposedSlot c v e cap now p st).isOpen = false := by
  have hstat : isTerminal (proposedStatus (t.slots (index c)) v cap st).1 = true := by
    unfold proposedStatus
    rw [hopen, Bool.or_true]
    split
    · rfl
    · split <;> rfl
  cases ho : (t.proposedSlot c v e cap now p st).isOpen with
  | false => rfl
  | true =>
    have hopn := ((Slot.isOpen_iff _).mp ho).2
    rw [show (t.proposedSlot c v e cap now p st).record.status =
      (proposedStatus (t.slots (index c)) v cap st).1 from rfl, hstat] at hopn
    cases hopn

/-- **The step lemma of the breaker.** -/
theorem Slot.Move.sound {t : Tracker F} {i : Fin 2} {op : Op F} {s s' : Slot F}
    (h : s.Sound) (hmove : Move t i op s s') : s'.Sound := by
  cases hmove with
  | same => exact h
  | @propose c v e cap now p st hc =>
    subst hc
    exact ⟨h.breaker, h.bounded, t.proposedSlot_quiet c v e cap now p st⟩
  | dispatch _ hclosed _ =>
    exact ⟨h.breaker, h.bounded, fun ho => by rw [hclosed] at ho; cases ho⟩
  | @receive r _ _ hpending _ =>
    obtain ⟨hc, _⟩ := h.closed hpending
    unfold Tracker.settledSlot
    split
    -- a success clears the count, and the breaker of an open action was closed
    · exact ⟨by simp [hc, kCircuitBreakerFailures], Nat.zero_le _, fun ho => by
        rw [hc] at ho; cases ho⟩
    · exact ⟨by simp [hc, kCircuitBreakerFailures], Nat.zero_le _, fun ho => by
        rw [hc] at ho; cases ho⟩
    · apply Sound.fail
      · exact ⟨h.breaker, h.bounded, h.quiet⟩
      · exact hpending
  | establish hvacant => exact ⟨h.breaker, h.bounded, h.quiet⟩
  | timeout hpending => exact h.fail hpending _ _
  | rebase _ => exact h.settled rfl rfl rfl
  | release _ => exact sound_init
  | invalidate => exact h.settled rfl rfl rfl
  | disable => exact h.settled (by simp) (by simp) (withdraw_isOpen _ _ _)

/-- **Every reachable slot is sound.** -/
theorem run_sound (g : AdaptiveGeneration) (ops : List (Op F)) (i : Fin 2) :
    ((Tracker.run g ops).slots i).Sound := by
  refine exec_invariant (I := fun t : Tracker F => ∀ i, (t.slots i).Sound) ?_ ops _ ?_ i
  · intro t op h i
    exact (t.step_move op i).sound (h i)
  · exact fun _ => Slot.sound_init

/-! ## 3. What opens stays open -/

/-- The call is a rebase that is not to the same known process and session. -/
def Op.releases (t : Tracker F) : Op F → Bool
  | .rebase g _ => !Tracker.sameSession t.generation g
  | _ => false

/-- The call is a receipt that reports success on the control of slot `i` and is accepted. -/
def Op.succeeds (t : Tracker F) (i : Fin 2) : Op F → Bool
  | .receive r => index r.control == i && (t.receive r).2 == .accepted &&
      (r.status == .applied || r.status == .rolledBack)
  | _ => false

/-- An open breaker survives every step but a release. -/
theorem Slot.Move.stays_open {t : Tracker F} {i : Fin 2} {op : Op F} {s s' : Slot F}
    (hmove : Move t i op s s') (ho : s.circuitOpen = true) (hrel : op.releases t = false) :
    s'.circuitOpen = true := by
  cases hmove with
  | @propose c _ _ _ _ _ _ hc => subst hc; exact ho
  | @receive r _ _ _ _ =>
    unfold Tracker.settledSlot
    split
    · exact ho
    · exact ho
    · show (_ || s.circuitOpen) = true
      rw [ho, Bool.or_true]
  | timeout _ =>
    show (_ || s.circuitOpen) = true
    rw [ho, Bool.or_true]
  | release hother => simp [Op.releases, hother] at hrel
  | disable => rw [withdraw_circuitOpen]; exact ho
  | _ => exact ho

/-- A failure count goes down only on a release or on a success. -/
theorem Slot.Move.count_down {t : Tracker F} {i : Fin 2} {op : Op F} {s s' : Slot F}
    (h : s.Sound) (hmove : Move t i op s s')
    (hlt : s'.consecutiveFailures < s.consecutiveFailures) :
    op.releases t = true ∨ op.succeeds t i = true := by
  cases hmove with
  | @propose c _ _ _ _ _ _ hc => subst hc; exact absurd hlt (Nat.lt_irrefl _)
  | @receive r _ hc hpending hacc =>
    cases hst : r.status with
    | applied => exact .inr (by simp [Op.succeeds, hc, hacc, hst])
    | rolledBack => exact .inr (by simp [Op.succeeds, hc, hacc, hst])
    | _ =>
      -- any other receipt is a failure, which counts up
      exfalso
      have hbound := (h.closed hpending).2
      have hcount : (Tracker.settledSlot s r).consecutiveFailures =
          (s.consecutiveFailures + 1) % 2 ^ 32 := by
        unfold Tracker.settledSlot; rw [hst]; rfl
      rw [hcount] at hlt
      unfold kCircuitBreakerFailures at hbound
      omega
  | timeout hpending =>
    exfalso
    have hbound := (h.closed hpending).2
    change (s.consecutiveFailures + 1) % 2 ^ 32 < s.consecutiveFailures at hlt
    unfold kCircuitBreakerFailures at hbound
    omega
  | release hother => exact .inl (by simp [Op.releases, hother])
  | disable => rw [withdraw_consecutiveFailures] at hlt; exact absurd hlt (Nat.lt_irrefl _)
  | _ => exact absurd hlt (Nat.lt_irrefl _)

/-- Along a run without releases an open breaker stays open. -/
theorem open_along (i : Fin 2) (t : Tracker F) (later : List (Op F))
    (ho : (t.slots i).circuitOpen = true)
    (hal : Along Tracker.step (fun s op => op.releases s = false) t later) :
    ((exec Tracker.step t later).slots i).circuitOpen = true :=
  exec_invariant_along (I := fun s : Tracker F => (s.slots i).circuitOpen = true)
    (fun s op h hrel => (s.step_move op i).stays_open h hrel) later t ho hal

/-- An open breaker dispatches nothing. -/
theorem Tracker.dispatch_open (t : Tracker F) (c : AdaptiveControlId) (now : ℕ)
    (ho : (t.slots (index c)).circuitOpen = true) : (t.dispatch c now).2 = false := by
  rcases t.dispatch_cases c now with ⟨_, hd⟩ | ⟨_, hclosed, _, _⟩
  · rw [hd]
  · rw [ho] at hclosed; cases hclosed

/-! ## 4. The law of the breaker -/

/-- `consecutive_failures` of a control's slot. -/
def Tracker.failures (t : Tracker F) (c : AdaptiveControlId) : ℕ :=
  (t.slots (index c)).consecutiveFailures

theorem Tracker.circuitOpen_of_valid (t : Tracker F) {c : AdaptiveControlId} (hc : c ≠ .count) :
    t.circuitOpen c = (t.slots (index c)).circuitOpen := by
  unfold circuitOpen
  rw [if_neg (by simpa using hc)]

/-- **The circuit breaker.**  In every reachable state a control's circuit is open exactly when
its failure count has reached the threshold, and then the control has no proposed or pending
action.  From there no dispatch of the control succeeds while no rebase releases it, and a
release closes it.  The failure count goes down only on a release or on an accepted applied or
rolled-back receipt of that control, and then to zero. -/
theorem circuit_breaker (g : AdaptiveGeneration) (ops : List (Op F)) (c : AdaptiveControlId)
    (hc : c ≠ .count) :
    ((Tracker.run g ops).circuitOpen c = true ↔
      kCircuitBreakerFailures ≤ (Tracker.run g ops).failures c) ∧
    ((Tracker.run g ops).circuitOpen c = true → ∀ a, (Tracker.run g ops).current c = some a →
      a.status ≠ .proposed ∧ a.status ≠ .pending) ∧
    ((Tracker.run g ops).circuitOpen c = true → ∀ later,
      Along Tracker.step (fun s op => op.releases s = false) (Tracker.run g ops) later →
      (exec Tracker.step (Tracker.run g ops) later).circuitOpen c = true ∧
      ∀ now, ((exec Tracker.step (Tracker.run g ops) later).dispatch c now).2 = false) ∧
    (∀ op, ((Tracker.run g ops).step op).failures c < (Tracker.run g ops).failures c →
      op.releases (Tracker.run g ops) = true ∨
        op.succeeds (Tracker.run g ops) (index c) = true) ∧
    (∀ op, op.releases (Tracker.run g ops) = true ∨
        op.succeeds (Tracker.run g ops) (index c) = true →
      ((Tracker.run g ops).step op).failures c = 0) := by
  have hs := run_sound g ops (index c)
  generalize Tracker.run g ops = t at hs
  refine ⟨?_, ?_, ?_, ?_, ?_⟩
  · rw [t.circuitOpen_of_valid hc]; exact hs.breaker
  · intro ho a ha
    rw [t.circuitOpen_of_valid hc] at ho
    have hq := hs.quiet ho
    unfold Tracker.current at ha
    rw [if_neg (by simpa using hc)] at ha
    split at ha
    · rename_i hocc
      cases ha
      unfold Slot.isOpen at hq
      rw [hocc] at hq
      simpa using hq
    · cases ha
  · intro ho later hal
    rw [t.circuitOpen_of_valid hc] at ho
    have hlater := open_along (index c) t later ho hal
    exact ⟨by rw [Tracker.circuitOpen_of_valid _ hc]; exact hlater,
      fun now => Tracker.dispatch_open _ c now hlater⟩
  · intro op hlt
    exact (t.step_move op (index c)).count_down hs hlt
  · intro op hop
    cases op with
    | rebase g now =>
      have hrel : Tracker.sameSession t.generation g = false := by
        simpa [Op.releases, Op.succeeds] using hop
      simp [Tracker.failures, Tracker.step, Tracker.rebase, hrel, Slot.init]
    | receive r =>
      simp only [Op.releases, Op.succeeds, Bool.false_eq_true, false_or, Bool.and_eq_true,
        beq_iff_eq, Bool.or_eq_true] at hop
      obtain ⟨⟨hi, hacc⟩, hst⟩ := hop
      rcases t.receive_cases r with ⟨hne, hd⟩ | ⟨_, _, _, _, _, _, hd⟩
      · rw [hd] at hacc; exact absurd hacc hne
      · simp only [Tracker.failures, Tracker.step, hd, ← hi, Tracker.setSlot_slots_self]
        unfold Tracker.settledSlot
        rcases hst with hst | hst <;> rw [hst]
    | _ => simp [Op.releases, Op.succeeds] at hop

/-- One failed attempt at a value, at `now`: proposed, sent, and refused by the game. -/
def failedAttempt (actionId now : ℕ) : List (Op ℚ) :=
  [.propose .corpseRuntimeLimit 12 none .available now "" false, .dispatch .corpseRuntimeLimit now,
    .receive { actionId := actionId, control := .corpseRuntimeLimit, status := .failed
               requestedValue := 12, observedValue := none, generation := {}, timestampNs := now }]

/-- Three failed attempts, a second apart. -/
def threeFailures : List (Op ℚ) :=
  failedAttempt 1 1000000000 ++ failedAttempt 2 2000000000 ++ failedAttempt 3 3000000000

theorem circuit_breaker_threeFailures :
    (Tracker.run {} threeFailures).circuitOpen .corpseRuntimeLimit = true ∧
    kCircuitBreakerFailures ≤ (Tracker.run {} threeFailures).failures .corpseRuntimeLimit :=
  have hopen : (Tracker.run {} threeFailures).circuitOpen .corpseRuntimeLimit = true := by decide
  ⟨hopen, (circuit_breaker {} threeFailures .corpseRuntimeLimit (by decide)).1.mp hopen⟩

/-- **A rebase of a tracker that knows no process is a release**, even to the generation it has:
the open circuit of three failures is closed by it and the next dispatch goes out. -/
theorem rebase_unknown_process :
    (Tracker.run {} threeFailures).circuitOpen .corpseRuntimeLimit = true ∧
    (Tracker.run {} threeFailures).generation = {} ∧
    ((Tracker.run {} (threeFailures ++ [.rebase {} 4000000000,
      .propose .corpseRuntimeLimit 12 none .available 5000000000 "" false])).dispatch
        .corpseRuntimeLimit 5000000000).2 = true := by
  decide

end Kf2Optimizer.Optimizer
