/-
# Reading the last frame again

Between two presented frames the interface evaluates the governor again and again on the sample
it has already analysed.  Those evaluations must not count: not towards a confirmation time, not
towards a history, not towards anything a later decision reads.

A PADDED run is a run of the governor with some of its calls marked as extra; striking the extra
calls out gives the plain run.  The two runs are compared step by step.  The relation that
carries the proof (`Agree`) is equality up to `last_evaluation_ns_`, and it is enough because
that field is read by the freeze check alone and overwritten right after it: an extra evaluation
returns the governor it was given with a new time in it (`evaluate_replay`), and a fresh one
cannot tell two governors that agree apart (`evaluate_agree`).
-/
import Kf2Optimizer.Optimizer.Clock

set_option linter.unusedSectionVars false

namespace Kf2Optimizer.Optimizer

open DoubleOps StepMachine

variable {F : Type} [DoubleOps F]

namespace Governor

/-! ## 1. Replaying the sample analysed last -/

/-- The sample is the one analysed last: its frame is the last one that passed the duplicate
check (`last_frame_timestamp_ns_` is `0` when none has since the last boundary, quality epoch or
reset), it comes from what the governor is bound to, under the same target, with no boundary flag
and not refused as unavailable. -/
structure AnalysedLast (g : Governor F) (policy : AdaptivePolicy F) (sample : AdaptiveSample F)
    (nowNs : ℕ) : Prop where
  frame : sample.timestampNs = g.lastFrameTimestampNs
  target : policy.targetFps = g.targetFps
  pid : sample.pid = g.identityPid
  startId : sample.processStartId = g.identityStartId
  session : sample.sessionGeneration = g.sessionGeneration
  map : sample.mapGeneration = g.mapGeneration
  generation : sample.frameGeneration = g.frameGeneration
  stream : sample.frameStreamId = g.frameStreamId
  unflagged : boundaryFlagged sample = false
  available : (validateAdaptiveSample policy sample nowNs).quality ≠ .notAvailable

/-- A governor that has analysed a frame waits for no stabilization. -/
def Settled (g : Governor F) : Prop := g.lastFrameTimestampNs ≠ 0 → g.stabilizationUntilNs = 0

/-- Binding the governor to the sample it is bound to changes nothing. -/
theorem bind_replay {g : Governor F} {policy : AdaptivePolicy F} {sample : AdaptiveSample F}
    {nowNs : ℕ} (h : AnalysedLast g policy sample nowNs) (now : ℕ) :
    g.bind policy sample now = (g, false, false) := by
  have htarget : g.retarget policy = (g, false) := by
    have hvalid := (validate_available h.available).1
    have hne : g.targetFps ≠ 0 := by
      intro h0
      rw [h.target, h0] at hvalid
      cases hvalid
    unfold retarget
    rw [if_pos hvalid, if_neg hne, if_neg (by rw [h.target]; exact fun hx => hx rfl)]
  have hboundary : g.boundary false sample = false := by
    simp [boundary, frameTransition, h.pid, h.startId, h.session, h.map, h.generation, h.stream,
      h.unflagged]
  unfold bind
  simp only [htarget, hboundary, Bool.false_eq_true, if_false]
  have hid : g.identify sample = g := by
    unfold identify
    rw [h.pid, h.startId, h.session, h.map, h.generation, h.stream]
  rw [hid]

/-- From the boundary on, a replay is held as a duplicate. -/
theorem evaluateAvailable_replay (registry : String → Option AdaptiveSettingRecord)
    {g : Governor F} {policy : AdaptivePolicy F} {sample : AdaptiveSample F} {nowNs : ℕ}
    (locks : List AdaptiveManualLock) (decision : AdaptiveDecision F) (hsettled : Settled g)
    (h : AnalysedLast g policy sample nowNs) :
    (g.evaluateAvailable registry policy sample nowNs locks decision).1 = g := by
  have hstamp : sample.timestampNs ≠ 0 := by
    have hsource := (validate_available h.available).2
    simp only [invalidSource, Bool.or_eq_false_iff, beq_eq_false_iff_ne] at hsource
    exact hsource.1.2
  have hstab : g.stabilizationUntilNs = 0 := hsettled (h.frame ▸ hstamp)
  have hclear : { g with stabilizationUntilNs := 0 } = g := by rw [← hstab]
  have hdup : g.isDuplicate sample = true := by simp [isDuplicate, h.frame]
  unfold evaluateAvailable
  simp only [bind_replay h, hclear]
  rw [if_neg (by simp), if_neg (by rw [hstab]; exact fun hx => hx.1 rfl), if_neg (by simp),
    if_pos hdup]

/-- **A replay only moves the clock.** -/
theorem evaluate_replay (registry : String → Option AdaptiveSettingRecord) {g : Governor F}
    {policy : AdaptivePolicy F} {sample : AdaptiveSample F} {nowNs : ℕ}
    (locks : List AdaptiveManualLock) (hsettled : Settled g)
    (h : AnalysedLast g policy sample nowNs) (hclock : g.freezes nowNs = false) :
    (g.evaluate registry policy sample nowNs locks).1 = g.tick nowNs := by
  have hticked : AnalysedLast (g.tick nowNs) policy sample nowNs :=
    ⟨h.frame, h.target, h.pid, h.startId, h.session, h.map, h.generation, h.stream, h.unflagged,
      h.available⟩
  have hdata : (g.baseDecision policy sample nowNs).data.quality ≠ .notAvailable := h.available
  rw [evaluate_of_monotone registry policy sample locks hclock]
  unfold evaluateTicked
  split
  · rfl
  · exact evaluateAvailable_replay registry locks _ hsettled hticked

theorem analyse_lastFrame (registry : String → Option AdaptiveSettingRecord) (g : Governor F)
    (policy : AdaptivePolicy F) (sample : AdaptiveSample F) (nowNs : ℕ)
    (locks : List AdaptiveManualLock) (decision : AdaptiveDecision F) :
    (g.analyse registry policy sample nowNs locks decision).1.lastFrameTimestampNs =
      sample.timestampNs := by
  have hb : ∀ (g : Governor F) (d : AdaptiveDecision F),
      (g.updateBottleneckHysteresis d sample nowNs).1.lastFrameTimestampNs =
        g.lastFrameTimestampNs := by
    intro g d
    unfold updateBottleneckHysteresis
    simp only
    split
    · rfl
    · split
      · rfl
      · split <;> rfl
  have hp : ∀ (g : Governor F) (desired : AdaptivePressure) (drop : Bool),
      (g.updatePressureHysteresis desired policy drop nowNs).lastFrameTimestampNs =
        g.lastFrameTimestampNs := by
    intro g desired drop
    unfold updatePressureHysteresis
    simp only
    split <;> split <;> rfl
  unfold analyse
  simp only
  rw [hb, hp]
  rfl

/-- The analysis of a sample leaves the governor bound to it: whatever has been analysed is the
sample analysed last, until something else is. -/
theorem analysedLast_analyse (registry : String → Option AdaptiveSettingRecord) {g : Governor F}
    {policy : AdaptivePolicy F} {sample : AdaptiveSample F} {nowNs : ℕ}
    (locks : List AdaptiveManualLock) (decision : AdaptiveDecision F)
    (htarget : policy.targetFps = g.targetFps) (hflags : boundaryFlagged sample = false)
    {later : ℕ} (havailable : (validateAdaptiveSample policy sample later).quality ≠ .notAvailable) :
    AnalysedLast
      ((g.identify sample).analyse registry policy sample nowNs locks decision).1
      policy sample later := by
  have hbook := bookkeeping_analyse registry (g.identify sample) policy sample nowNs locks decision
  refine ⟨?_, htarget.trans (congrArg Bookkeeping.targetFps hbook).symm,
    (congrArg Bookkeeping.identityPid hbook).symm, (congrArg Bookkeeping.identityStartId hbook).symm,
    (congrArg Bookkeeping.sessionGeneration hbook).symm,
    (congrArg Bookkeeping.mapGeneration hbook).symm,
    (congrArg Bookkeeping.frameGeneration hbook).symm,
    (congrArg Bookkeeping.frameStreamId hbook).symm, hflags, havailable⟩
  exact (analyse_lastFrame registry _ policy sample nowNs locks decision).symm

/-! ## 2. Every reachable governor is settled -/

theorem settled_evaluate (registry : String → Option AdaptiveSettingRecord) {g : Governor F}
    (h : Settled g) (policy : AdaptivePolicy F) (sample : AdaptiveSample F) (nowNs : ℕ)
    (locks : List AdaptiveManualLock) :
    Settled (g.evaluate registry policy sample nowNs locks).1 := by
  have hbind : ∀ g : Governor F, Settled g → Settled (g.bind policy sample nowNs).1 := by
    intro g hg
    have hretarget : Settled (g.retarget policy).1 := by
      unfold retarget
      split
      · split
        · exact hg
        · split <;> exact hg
      · exact hg
    unfold bind
    simp only
    split
    -- a boundary forgets the frame
    · exact fun h0 => absurd rfl h0
    · exact hretarget
  cases hf : g.freezes nowNs with
  | true => rw [(g.evaluate_frozen registry policy sample nowNs locks hf).1]; exact h
  | false =>
    rw [evaluate_of_monotone registry policy sample locks hf]
    have hb := hbind (g.tick nowNs) h
    unfold evaluateTicked
    split
    · exact h
    · split
      · exact h
      · unfold evaluateAvailable
        simp only
        split
        · exact hb
        · split
          · exact hb
          · split
            · exact fun _ => rfl
            · split
              · exact fun _ => rfl
              · intro _
                exact congrArg Bookkeeping.stabilizationUntilNs
                  (bookkeeping_analyse registry _ policy sample nowNs locks _)

theorem settled_call (registry : String → Option AdaptiveSettingRecord) {g : Governor F}
    (h : Settled g) (c : GovernorCall F) : Settled (g.call registry c) := by
  cases c with
  | evaluate policy sample nowNs locks => exact settled_evaluate registry h policy sample nowNs locks
  | notifyQualityApplied a =>
    unfold call notifyQualityApplied
    simp only
    split
    · exact h
    · exact fun h0 => absurd rfl h0
  | reset => exact fun h0 => absurd rfl h0

/-! ## 3. Governors that agree up to the clock -/

/-- Equal except for the time of the last evaluation. -/
def Agree (g g' : Governor F) : Prop := { g with lastEvaluationNs := g'.lastEvaluationNs } = g'

theorem Agree.refl (g : Governor F) : Agree g g := rfl

/-- Moving the clock of the second. -/
theorem Agree.move {g g' : Governor F} (h : Agree g g') (t : ℕ) :
    Agree g (g'.tick t) := by
  unfold Agree at h ⊢
  rw [← h]
  rfl

/-- **A fresh evaluation cannot tell two governors that agree apart**, as long as both freeze or
neither does. -/
theorem evaluate_agree (registry : String → Option AdaptiveSettingRecord) {g g' : Governor F}
    (h : Agree g g') (policy : AdaptivePolicy F) (sample : AdaptiveSample F) (nowNs : ℕ)
    (locks : List AdaptiveManualLock) (hfreeze : g'.freezes nowNs = g.freezes nowNs) :
    (g'.evaluate registry policy sample nowNs locks).2 =
        (g.evaluate registry policy sample nowNs locks).2 ∧
      Agree (g.evaluate registry policy sample nowNs locks).1
        (g'.evaluate registry policy sample nowNs locks).1 := by
  have hbase : g'.baseDecision policy sample nowNs = g.baseDecision policy sample nowNs := by
    rw [← h]; rfl
  have hclock : g'.tick nowNs = g.tick nowNs := by rw [← h]; rfl
  cases hf : g.freezes nowNs with
  | true =>
    rw [hf] at hfreeze
    unfold evaluate
    simp only [hf, hfreeze, hbase, if_true, true_and]
    unfold Agree at h ⊢
    rw [← h]
  | false =>
    rw [hf] at hfreeze
    rw [evaluate_of_monotone registry policy sample locks hf,
      evaluate_of_monotone registry policy sample locks hfreeze, hbase, hclock]
    exact ⟨rfl, Agree.refl _⟩

theorem notify_agree {g g' : Governor F} (h : Agree g g') (a : ℕ) :
    Agree (g.notifyQualityApplied a) (g'.notifyQualityApplied a) := by
  unfold Agree at h ⊢
  rw [← h]
  unfold notifyQualityApplied
  simp only
  split <;> rfl

end Governor

/-! ## 4. Padded runs -/

/-- A call of a padded run. -/
structure PaddedCall (F : Type) where
  call : GovernorCall F
  extra : Bool

/-- The plain run: the extra calls struck out. -/
def plain (calls : List (PaddedCall F)) : List (GovernorCall F) :=
  (calls.filter (!·.extra)).map (·.call)

theorem plain_fresh (c : GovernorCall F) (calls : List (PaddedCall F)) :
    plain (⟨c, false⟩ :: calls) = c :: plain calls := rfl

/-- The decision a call returns, if it returns one. -/
def decisionOf (registry : String → Option AdaptiveSettingRecord) (g : Governor F) :
    GovernorCall F → List (AdaptiveDecision F)
  | .evaluate policy sample nowNs locks => [(g.evaluate registry policy sample nowNs locks).2]
  | _ => []

/-- The decisions of a run, in order. -/
def decisions (registry : String → Option AdaptiveSettingRecord)
    (calls : List (GovernorCall F)) : List (AdaptiveDecision F) :=
  emitted (Governor.call registry) (decisionOf registry) Governor.init calls

/-- One call of a padded run. -/
def paddedStep (registry : String → Option AdaptiveSettingRecord) (g : Governor F)
    (c : PaddedCall F) : Governor F := g.call registry c.call

/-- The decisions a padded run gives its fresh samples. -/
def freshDecisions (registry : String → Option AdaptiveSettingRecord)
    (calls : List (PaddedCall F)) : List (AdaptiveDecision F) :=
  emitted (paddedStep registry)
    (fun g c => if c.extra then [] else decisionOf registry g c.call) Governor.init calls

/-- The extra calls evaluate the sample analysed last. -/
def Replays (g : Governor F) (c : PaddedCall F) : Prop :=
  c.extra = true → ∃ policy sample nowNs locks, c.call = .evaluate policy sample nowNs locks ∧
    g.AnalysedLast policy sample nowNs

/-- Between resets the evaluation times do not decrease; `last` is the time of the evaluation
before. -/
def Timely : ℕ → List (PaddedCall F) → Prop
  | _, [] => True
  | last, c :: cs =>
    match c.call with
    | .evaluate _ _ nowNs _ => last ≤ nowNs ∧ Timely nowNs cs
    | .notifyQualityApplied _ => Timely last cs
    | .reset => Timely 0 cs

/-! ## 5. The simulation -/

/-- The two runs, side by side: the governors agree, and the clock of neither is ahead of
`last`. -/
structure Paired (last : ℕ) (g g' : Governor F) : Prop where
  agree : g.Agree g'
  settled : g'.Settled
  behind : g.lastEvaluationNs ≤ last
  behind' : g'.lastEvaluationNs ≤ last

/-- At a time that is not before `last` both governors freeze or neither does. -/
theorem Paired.freezes {last : ℕ} {g g' : Governor F} (h : Paired last g g') {nowNs : ℕ}
    (hle : last ≤ nowNs) : g'.freezes nowNs = g'.frozen ∧ g.freezes nowNs = g'.frozen := by
  have hfrozen : g.frozen = g'.frozen := by rw [← h.agree]
  have hb := h.behind
  have hb' := h.behind'
  unfold Governor.freezes
  rw [decide_eq_false (by omega), decide_eq_false (by omega), hfrozen]
  simp

/-- The clock after an evaluation at `nowNs` is not ahead of it. -/
theorem evaluate_behind (registry : String → Option AdaptiveSettingRecord) (g : Governor F)
    (policy : AdaptivePolicy F) (sample : AdaptiveSample F) (nowNs : ℕ)
    (locks : List AdaptiveManualLock) (h : g.lastEvaluationNs ≤ nowNs) :
    (g.evaluate registry policy sample nowNs locks).1.lastEvaluationNs ≤ nowNs := by
  cases hf : g.freezes nowNs with
  | true => rw [(g.evaluate_frozen registry policy sample nowNs locks hf).1]; exact h
  | false => exact (g.evaluate_clock registry policy sample nowNs locks hf).lastEvaluation.le

/-- **An extra step** leaves the plain run where it is. -/
theorem Paired.extra (registry : String → Option AdaptiveSettingRecord) {last : ℕ}
    {g g' : Governor F} (h : Paired last g g') {policy : AdaptivePolicy F}
    {sample : AdaptiveSample F} {nowNs : ℕ} (locks : List AdaptiveManualLock)
    (hlast : g'.AnalysedLast policy sample nowNs) (hle : last ≤ nowNs) :
    Paired nowNs g (g'.evaluate registry policy sample nowNs locks).1 := by
  refine ⟨?_, Governor.settled_evaluate registry h.settled policy sample nowNs locks,
    h.behind.trans hle, evaluate_behind registry g' policy sample nowNs locks (h.behind'.trans hle)⟩
  cases hf : g'.freezes nowNs with
  | true =>
    have hfrozen : g'.frozen = true := (h.freezes hle).1.symm.trans hf
    rw [(g'.evaluate_frozen registry policy sample nowNs locks hf).1, ← hfrozen]
    exact h.agree
  | false =>
    rw [g'.evaluate_replay registry locks h.settled hlast hf]
    exact h.agree.move nowNs

/-- **A fresh step** is the same on both sides. -/
theorem Paired.fresh (registry : String → Option AdaptiveSettingRecord) {last : ℕ}
    {g g' : Governor F} (h : Paired last g g') (policy : AdaptivePolicy F)
    (sample : AdaptiveSample F) {nowNs : ℕ} (locks : List AdaptiveManualLock)
    (hle : last ≤ nowNs) :
    (g'.evaluate registry policy sample nowNs locks).2 =
        (g.evaluate registry policy sample nowNs locks).2 ∧
      Paired nowNs (g.evaluate registry policy sample nowNs locks).1
        (g'.evaluate registry policy sample nowNs locks).1 := by
  obtain ⟨hf', hf⟩ := h.freezes hle
  obtain ⟨hdec, hagree⟩ :=
    Governor.evaluate_agree registry h.agree policy sample nowNs locks (hf'.trans hf.symm)
  exact ⟨hdec, hagree, Governor.settled_evaluate registry h.settled policy sample nowNs locks,
    evaluate_behind registry g policy sample nowNs locks (h.behind.trans hle),
    evaluate_behind registry g' policy sample nowNs locks (h.behind'.trans hle)⟩

/-- The run lemma: the simulation from any pair of governors. -/
theorem Paired.run (registry : String → Option AdaptiveSettingRecord) :
    ∀ (calls : List (PaddedCall F)) {last : ℕ} {g g' : Governor F}, Paired last g g' →
      Along (paddedStep registry) Replays g' calls → Timely last calls →
      emitted (paddedStep registry)
          (fun g c => if c.extra then [] else decisionOf registry g c.call) g' calls =
        emitted (Governor.call registry) (decisionOf registry) g (plain calls) ∧
      (exec (Governor.call registry) g (plain calls)).Agree
        (exec (paddedStep registry) g' calls)
  | [], _, _, _, h, _, _ => ⟨rfl, h.agree⟩
  | ⟨c, true⟩ :: calls, last, g, g', h, hreplay, htimely => by
    obtain ⟨policy, sample, nowNs, locks, hc, hlast⟩ := hreplay.1 rfl
    simp only at hc
    subst hc
    exact Paired.run registry calls (h.extra registry locks hlast htimely.1) hreplay.2 htimely.2
  | ⟨c, false⟩ :: calls, last, g, g', h, hreplay, htimely => by
    cases c with
    | evaluate policy sample nowNs locks =>
      obtain ⟨hdec, hpair⟩ := h.fresh registry policy sample locks htimely.1
      obtain ⟨hrest, hend⟩ := Paired.run registry calls hpair hreplay.2 htimely.2
      refine ⟨?_, hend⟩
      have hfirst : decisionOf registry g' (.evaluate policy sample nowNs locks) =
          decisionOf registry g (.evaluate policy sample nowNs locks) :=
        congrArg (fun d => [d]) hdec
      rw [plain_fresh, emitted_cons, emitted_cons, if_neg (by simp), hfirst]
      exact congrArg _ hrest
    | notifyQualityApplied a =>
      have hpair : Paired last (g.notifyQualityApplied a) (g'.notifyQualityApplied a) :=
        ⟨Governor.notify_agree h.agree a, Governor.settled_call registry h.settled
          (.notifyQualityApplied a), by rw [(g.notify_clock a).2.1]; exact h.behind,
          by rw [(g'.notify_clock a).2.1]; exact h.behind'⟩
      exact Paired.run registry calls hpair hreplay.2 htimely
    | reset =>
      have hpair : Paired 0 (Governor.init : Governor F) Governor.init :=
        ⟨Governor.Agree.refl _, fun h0 => absurd rfl h0, le_refl _, le_refl _⟩
      exact Paired.run registry calls hpair hreplay.2 htimely

/-- **Duplicate noninterference.**  A padded run whose extra calls all evaluate the sample
analysed last, at evaluation times that do not decrease between resets, gives every fresh sample
the decision of the plain run, and ends in the governor of the plain run except for the time of
the last evaluation. -/
theorem duplicate_noninterference (registry : String → Option AdaptiveSettingRecord)
    (calls : List (PaddedCall F))
    (hreplay : Along (paddedStep registry) Replays Governor.init calls)
    (htimely : Timely 0 calls) :
    freshDecisions registry calls = decisions registry (plain calls) ∧
    (Governor.run registry (plain calls)).Agree
      (exec (paddedStep registry) Governor.init calls) :=
  Paired.run registry calls
    ⟨Governor.Agree.refl _, fun h0 => absurd rfl h0, le_refl _, le_refl _⟩ hreplay htimely

/-- A frame evaluated when it arrives and, half a second later, once more. -/
def readTwice : List (PaddedCall ℚ) :=
  [⟨.evaluate defaultPolicy (steadySample 1000) 1000 [], false⟩,
    ⟨.evaluate defaultPolicy (steadySample 1000) 500001000 [], true⟩]

theorem duplicate_noninterference_readTwice :
    freshDecisions (fun _ => none) readTwice = decisions (fun _ => none) (plain readTwice) := by
  have hlast : ((Governor.init : Governor ℚ).evaluate (fun _ => none) defaultPolicy
      (steadySample 1000) 1000 []).1.AnalysedLast defaultPolicy (steadySample 1000) 500001000 := by
    constructor <;> decide +kernel
  have hreplay : Along (paddedStep fun _ => none) Replays Governor.init readTwice :=
    ⟨fun h => (by cases h), fun _ => ⟨_, _, _, _, rfl, hlast⟩, trivial⟩
  have htimely : Timely 0 readTwice := by
    refine ⟨?_, ?_, trivial⟩ <;> decide
  exact (duplicate_noninterference (fun _ => none) readTwice hreplay htimely).1

end Kf2Optimizer.Optimizer
