/-
# The threads of the relay are sound

Every call keeps the invariant of the memory, whatever the other threads and the reader do between
its steps.  A reader is `Calm` in a run in which it never meets a call half-way: no update is counted
and returns between the two counters, and no first call of its kind stands between its minimum and
its maximum.
-/
import Kf2Optimizer.Flex.RelayInvariant

namespace Kf2Optimizer.Flex.Observation

open Threads

/-! ## 1. Calm runs -/

/-- No call stands half-way at a field that the reader looks at. -/
def Settled (s : Process) : Field → Prop
  | .minSubsteps => s.memory .minSubsteps = longMax ∨ s.memory .minSubsteps ≤ s.memory .maxSubsteps
  | .minForwardedSubsteps =>
    s.memory .minForwardedSubsteps = longMax ∨ s.memory .minForwardedSubsteps ≤ s.memory .maxForwardedSubsteps
  | .minActiveParticles =>
    s.memory .minActiveParticles = longMax ∨ s.memory .minActiveParticles ≤ s.memory .maxActiveParticles
  | .lastActiveParticles => s.memory .lastActiveParticles ≤ s.memory .maxActiveParticles
  | .diagnosticsEnabled => s.memory .diagnosticsEnabled ≠ 0 →
    validDeltaTime (floatOfLong (s.memory .lastDeltaTimeBits)) = true
  | _ => True

/-- When a step takes the reader by surprise, and when not. -/
def Calm : Label → Process → Prop
  | .plain, _ => True
  | .returning thread, s => Cleared thread s
  | .reading field, s => s.history.counted = true → Settled s field
  | .comparing, s => s.publications < s.history.attempt + 2 ^ 32

variable {process : GameProcessIdentity} {thread : ℕ} {α β : Type} {s : Process}

/-- The code is sound for a thread of the relay. -/
abbrev RelaySound (process : GameProcessIdentity) (thread : ℕ) (x : Relay α) (Q : α → Process → Prop)
    (s : Process) : Prop :=
  Sound Calm (Rely process (some thread)) (Guarantee process (some thread)) x Q s

/-- What the others cannot break for a thread of the relay. -/
abbrev Steady (process : GameProcessIdentity) (thread : ℕ) (P : Process → Prop) : Prop :=
  Stable (Rely process (some thread)) P

theorem steady_invariant : Steady process thread (Invariant process) := fun _ _ h hs => h.invariant hs

theorem steady_underway :
    Steady process thread fun s => Invariant process s ∧ thread ∈ s.underway :=
  fun _ _ h hs => ⟨h.invariant hs.1, h.underway thread rfl hs.2⟩

theorem steady_cleared :
    Steady process thread fun s => Invariant process s ∧ thread ∈ s.underway ∧ Cleared thread s :=
  fun _ _ h hs => ⟨h.invariant hs.1, h.underway thread rfl hs.2.1, h.cleared thread rfl hs.2.1 hs.2.2⟩

theorem steady_owned : Steady process thread (Owned process thread) := by
  intro s t h hs
  obtain ⟨hholder, -, hpublications, -⟩ := h.locked thread rfl hs.holder
  exact ⟨h.invariant hs.invariant, hholder, by rw [hpublications]; exact hs.even⟩

theorem steady_publishing {slots : List SolverSlot} {written : List Field} {settled : Prop}
    (hwritten : ∀ field ∈ written, field ∈ aggregateFields) :
    Steady process thread (Publishing process thread slots written settled) := by
  intro s t h hs
  obtain ⟨hholder, hslots, hpublications, hfields⟩ := h.locked thread rfl hs.holder
  refine ⟨h.invariant hs.invariant, hholder, by rw [hpublications]; exact hs.odd, hslots.trans hs.same,
    fun field hfield => ?_, fun hsettled => ?_⟩
  · rw [hfields field (hwritten field hfield)]
    exact hs.published field hfield
  · rw [hfields _ (by decide)]
    exact hs.most hsettled

theorem RelaySound.bind {x : Relay α} {f : α → Relay β} {Q : β → Process → Prop}
    (h : RelaySound process thread x (fun a t => RelaySound process thread (f a) Q t) s) :
    RelaySound process thread (x >>= f) Q s :=
  Sound.bind (Rely.refl process (some thread)) h

/-! ## 2. Harmless code -/

/-- The code keeps whatever the other threads keep. -/
def Harmless (process : GameProcessIdentity) (thread : ℕ) (x : Relay α) : Prop :=
  ∀ P s, Steady process thread P → P s → RelaySound process thread x (fun _ => P) s

theorem harmless_pure (a : α) : Harmless process thread (pure a) :=
  fun _ _ hP hs => sound_ret hP hs

theorem Harmless.bind {x : Relay α} {f : α → Relay β} (hx : Harmless process thread x)
    (hf : ∀ a, Harmless process thread (f a)) : Harmless process thread (x >>= f) :=
  fun P s hP hs => RelaySound.bind ((hx P s hP hs).mono fun a t ht => hf a P t hP ht)

theorem harmless_atomic {label : Label} {f : Process → α} {effect : Process → Process}
    (h : ∀ s who, Rely process who s (effect s)) : Harmless process thread (.atomic label f effect) := by
  intro P s hP hs
  refine sound_atomic hP hs (fun _ => hP) fun t ht _ => ⟨fun other _ => h t other, ?_⟩
  exact hP t (effect t) (h t (some thread)) ht

theorem harmless_load (field : Field) : Harmless process thread (load field) :=
  harmless_atomic fun s who => .refl process who s

theorem harmless_exchange (field : Field) {value : ℤ} (hplain : Plain field)
    (hbounds : Bounds process value field) : Harmless process thread (exchange field value) :=
  harmless_atomic fun _ who => rely_plain hplain hbounds who

theorem harmless_compareExchange {field : Field} {value expected : ℤ}
    (h : ∀ s who, s.memory field = expected → Rely process who s (s.set field value)) :
    Harmless process thread (compareExchange id field value expected) := by
  refine harmless_atomic fun s who => ?_
  split
  · rename_i heq
    exact h s who heq
  · exact .refl process who s

theorem harmless_stuck {a : α} : Harmless process thread (.stuck .plain a) :=
  fun _ _ _ _ => sound_stuck

/-- Counters that nothing is said about. -/
def counters : List Field :=
  [.missingOriginalCalls, .invalidArgumentCalls, .trackingDropCalls, .createCalls, .destroyCalls,
    .activeCountCalls, .boundsCalls, .paramsCalls, .particleUploadCalls, .particleDownloadCalls,
    .phaseUploadCalls, .phaseDownloadCalls, .velocityUploadCalls, .velocityDownloadCalls, .uploadElements,
    .downloadElements, .fenceSetCalls, .fenceWaitCalls]

theorem rely_counter {field : Field} (h : field ∈ counters) {value : ℤ} (s : Process) (who : Option ℕ) :
    Rely process who s (s.set field value) := by
  have hplain : ∀ field ∈ counters, Plain field := by decide
  refine rely_plain (hplain field h) ?_ who
  simp only [counters, List.mem_cons, List.not_mem_nil, or_false] at h
  rcases h with rfl | rfl | rfl | rfl | rfl | rfl | rfl | rfl | rfl | rfl | rfl | rfl | rfl | rfl | rfl | rfl |
    rfl | rfl <;> exact trivial

theorem harmless_saturate {field : Field} (h : field ∈ counters) (next : ℤ → ℤ) (patience : ℕ) (current : ℤ) :
    Harmless process thread (saturate id field next patience current) := by
  induction patience generalizing current with
  | zero => exact harmless_stuck
  | succ patience ih =>
    unfold saturate
    split
    · exact harmless_atomic fun s who => .refl process who s
    · refine (harmless_compareExchange fun s who _ => rely_counter h s who).bind fun observed => ?_
      split
      · exact harmless_pure ()
      · exact ih observed

theorem harmless_saturatedIncrement {field : Field} (h : field ∈ counters) (patience : ℕ) :
    Harmless process thread (saturatedIncrement patience field) :=
  (harmless_load field).bind fun current => harmless_saturate h _ patience current

theorem harmless_saturatedAdd {field : Field} (h : field ∈ counters) (patience : ℕ) (amount : ℤ) :
    Harmless process thread (saturatedAdd patience field amount) := by
  unfold saturatedAdd
  split
  · exact harmless_pure ()
  · exact (harmless_load field).bind fun current => harmless_saturate h _ patience current

/-- A loop whose exchange the others keep. -/
theorem harmless_settle {field : Field} {beyond : ℤ → Bool} {value : ℤ}
    (h : ∀ s who, beyond (s.memory field) = true → Rely process who s (s.set field value))
    (patience : ℕ) (current : ℤ) : Harmless process thread (settle field beyond value patience current) := by
  induction patience generalizing current with
  | zero => exact harmless_stuck
  | succ patience ih =>
    unfold settle
    split
    · rename_i hbeyond
      refine (harmless_compareExchange fun s who heq => h s who (heq ▸ hbeyond)).bind fun observed => ?_
      split
      · exact harmless_pure ()
      · exact (harmless_load field).bind fun current => ih current
    · exact harmless_pure ()

theorem harmless_lower (field : Field) (hfield : field ∈ minima) {value : ℤ} (hbounds : Bounds process value field)
    (patience : ℕ) : Harmless process thread (lower patience field value) := by
  have hspecial : ∀ field ∈ minima, field ∉ aggregateFields ∧ field ∉ maxima ∧
      field ≠ .aggregateSnapshotSequence ∧ field ≠ .updateCalls ∧ field ≠ .successfulUpdates ∧
      field ≠ .lastDeltaTimeBits := by decide
  obtain ⟨hpublished, hmaxima, hsequence, hupdates, hsuccessful, htime⟩ := hspecial field hfield
  refine (harmless_load field).bind fun current => harmless_settle (fun s who hbeyond => ?_) patience current
  have hlt : value < s.memory field := of_decide_eq_true hbeyond
  exact ⟨frame_set hpublished (fun _ => hlt.le) (fun hmem => absurd hmem hmaxima)
    (fun heq => absurd heq hupdates) (fun heq => absurd heq htime) who,
    fun hs => hs.set hbounds hsequence (fun hmem => absurd hmem hpublished) hupdates hsuccessful⟩

theorem harmless_raise (field : Field) (hfield : field ∈ maxima) {value : ℤ} (hbounds : Bounds process value field)
    (patience : ℕ) : Harmless process thread (raise patience field value) := by
  have hspecial : ∀ field ∈ maxima, field ∉ aggregateFields ∧ field ∉ minima ∧
      field ≠ .aggregateSnapshotSequence ∧ field ≠ .updateCalls ∧ field ≠ .successfulUpdates ∧
      field ≠ .lastDeltaTimeBits := by decide
  obtain ⟨hpublished, hminima, hsequence, hupdates, hsuccessful, htime⟩ := hspecial field hfield
  refine (harmless_load field).bind fun current => harmless_settle (fun s who hbeyond => ?_) patience current
  have hlt : s.memory field < value := of_decide_eq_true hbeyond
  exact ⟨frame_set hpublished (fun hmem => absurd hmem hminima) (fun _ => hlt.le)
    (fun heq => absurd heq hupdates) (fun heq => absurd heq htime) who,
    fun hs => hs.set hbounds hsequence (fun hmem => absurd hmem hpublished) hupdates hsuccessful⟩

theorem harmless_countMissing (patience : ℕ) (resolved : Bool) :
    Harmless process thread (countMissing patience resolved) := by
  unfold countMissing
  split
  · exact harmless_pure ()
  · exact harmless_saturatedIncrement (by decide) patience

theorem harmless_countInvalid (patience : ℕ) (invalid : Bool) :
    Harmless process thread (countInvalid patience invalid) := by
  unfold countInvalid
  split
  · exact harmless_saturatedIncrement (by decide) patience
  · exact harmless_pure ()

theorem harmless_detailedDiagnostics : Harmless process thread detailedDiagnostics :=
  (harmless_load _).bind fun _ => harmless_pure _

theorem harmless_recordTransfer (patience : ℕ) (upload : Bool) {counter : Field} (h : counter ∈ counters)
    (elements memory : ℤ) : Harmless process thread (recordTransfer patience upload counter elements memory) := by
  unfold recordTransfer
  refine (harmless_saturatedIncrement h patience).bind fun _ => ?_
  split
  · exact harmless_pure ()
  · rename_i hnonneg
    have hupload : Bounds process elements .lastUploadElements := not_lt.mp hnonneg
    have hdownload : Bounds process elements .lastDownloadElements := not_lt.mp hnonneg
    split
    · refine (harmless_saturatedAdd (by decide) patience elements).bind fun _ => ?_
      refine (harmless_exchange _ (by decide) hupload).bind fun _ => ?_
      exact harmless_exchange _ (by decide) trivial
    · refine (harmless_saturatedAdd (by decide) patience elements).bind fun _ => ?_
      refine (harmless_exchange _ (by decide) hdownload).bind fun _ => ?_
      exact harmless_exchange _ (by decide) trivial

theorem harmless_relayBufferTransfer (patience : ℕ) (resolved upload : Bool) {counter : Field}
    (h : counter ∈ counters) (solver buffer : ℕ) (elements memory : ℤ) :
    Harmless process thread (relayBufferTransfer patience resolved upload counter solver buffer elements memory) := by
  unfold relayBufferTransfer
  refine (harmless_countMissing patience resolved).bind fun _ => ?_
  refine (harmless_countInvalid patience _).bind fun _ => ?_
  split
  · refine harmless_detailedDiagnostics.bind fun enabled => ?_
    split
    · exact harmless_recordTransfer patience upload h elements memory
    · exact harmless_pure ()
  · exact harmless_pure ()

theorem harmless_countWhenDetailed (patience : ℕ) (resolved : Bool) {field : Field} (h : field ∈ counters) :
    Harmless process thread (countWhenDetailed patience resolved field) := by
  unfold countWhenDetailed
  split
  · refine harmless_detailedDiagnostics.bind fun enabled => ?_
    split
    · exact harmless_saturatedIncrement h patience
    · exact harmless_pure ()
  · exact harmless_pure ()

theorem harmless_relayFence (patience : ℕ) (resolved : Bool) (tick : ℤ) (calls last : Field)
    (hcalls : calls ∈ counters) (hlast : Plain last) (hfree : Bounds process tick last) :
    Harmless process thread (relayFence patience resolved tick calls last) := by
  unfold relayFence
  refine (harmless_countMissing patience resolved).bind fun _ => ?_
  split
  · refine harmless_detailedDiagnostics.bind fun enabled => ?_
    split
    · refine (harmless_saturatedIncrement hcalls patience).bind fun _ => ?_
      exact harmless_exchange _ hlast hfree
    · exact harmless_pure ()
  · exact harmless_pure ()

theorem harmless_headerMatches (process' : GameProcessIdentity) :
    Harmless process thread (headerMatches process') := by
  unfold headerMatches
  refine (harmless_load _).bind fun _ => (harmless_load _).bind fun _ => (harmless_load _).bind fun _ => ?_
  refine (harmless_load _).bind fun _ => (harmless_load _).bind fun _ => (harmless_load _).bind fun _ => ?_
  exact harmless_pure _

theorem harmless_writeDiagnosticsControl (process' : GameProcessIdentity) (enabled : Bool) :
    Harmless process thread (writeDiagnosticsControl process' enabled) := by
  unfold writeDiagnosticsControl
  refine (harmless_headerMatches process').bind fun valid => ?_
  split
  · exact harmless_exchange _ (by decide) trivial
  · exact harmless_pure ()

theorem harmless_deltaTime {deltaTime : UInt32} (h : validDeltaTime (floatOfLong (longOfBits deltaTime)) = true) :
    Harmless process thread (exchange .lastDeltaTimeBits (longOfBits deltaTime)) :=
  harmless_atomic fun _ who => ⟨frame_set (by decide) (fun h => absurd h (by decide))
    (fun h => absurd h (by decide)) (fun h => by cases h) (fun _ => h) who,
    fun hs => hs.set (.inr h) (by decide) (fun h => absurd h (by decide)) (by decide) (by decide)⟩

/-! ## 3. Updates -/

/-- A counter whose increment is noted.  `M` is what others keep of a counter that is at its end. -/
theorem sound_saturate {I M Q : Process → Prop} {note : Process → Process} {field : Field} {next : ℤ → ℤ}
    (hI : Steady process thread I) (hM : Steady process thread fun t => I t ∧ M t)
    (hQ : Steady process thread Q) (hmax : ∀ t, I t → t.memory field = longLongMax → M t)
    (hset : ∀ t, I t → t.memory field ≠ longLongMax →
      Guarantee process (some thread) t (note (t.set field (next (t.memory field)))) ∧
        Q (note (t.set field (next (t.memory field)))))
    (hnote : ∀ t, I t → M t → Guarantee process (some thread) t (note t) ∧ Q (note t))
    (patience : ℕ) (current : ℤ) (hs : I s) (hcurrent : current = longLongMax → M s) :
    RelaySound process thread (saturate note field next patience current) (fun _ => Q) s := by
  induction patience generalizing current s with
  | zero => exact sound_stuck
  | succ patience ih =>
    unfold saturate
    split
    · rename_i heq
      exact sound_atomic hM ⟨hs, hcurrent heq⟩ (fun _ => hQ) fun t ht _ => hnote t ht.1 ht.2
    · rename_i hne
      refine RelaySound.bind (sound_step hI hs fun t ht _ _ => ?_)
      have hstable : ∀ observed, Steady process thread fun v => RelaySound process thread
          (if observed = current then pure () else saturate note field next patience observed) (fun _ => Q) v :=
        fun observed v v' h hv => Sound.stable (fun _ _ _ h h' => h.trans h') hv h
      by_cases heq : t.memory field = current
      · subst heq
        obtain ⟨hguarantee, hdone⟩ := hset t ht hne
        simp only [if_true]
        refine ⟨hguarantee, sound_ret (hstable _) ?_⟩
        rw [if_pos rfl]
        exact sound_ret hQ hdone
      · simp only [if_neg heq]
        refine ⟨fun who _ => .refl process who t, sound_ret (hstable _) ?_⟩
        rw [if_neg heq]
        exact ih _ ht (hmax t ht)

theorem guarantee_noteUpdate (hs : Invariant process s) (hmax : s.memory .updateCalls = longLongMax) :
    Guarantee process (some thread) s (noteUpdate thread s) := by
  intro who _
  have hframe := Frame.refl who s
  exact ⟨⟨hframe.moments, hframe.publications, hframe.quiet, hframe.falls, hframe.rises, hframe.counts,
    hframe.timed, hframe.locked, fun _ _ h => Finset.mem_insert_of_mem h, fun _ _ _ h => h, hframe.counted,
    hframe.attempt, hframe.readings, hframe.window⟩, fun _ => hs.noteUpdate hmax⟩

theorem sound_countUpdate (patience : ℕ) (hs : Invariant process s) :
    RelaySound process thread (countUpdate thread patience)
      (fun _ t => Invariant process t ∧ thread ∈ t.underway) s := by
  have hunderway : ∀ {t : Process}, thread ∈ (noteUpdate thread t).underway := Finset.mem_insert_self _ _
  -- the counter never falls
  have hsteady : Steady process thread fun t => Invariant process t ∧ t.memory .updateCalls = longLongMax := by
    intro t u h ht
    refine ⟨h.invariant ht.1, ?_⟩
    have hle := h.counts
    have hbounds := (h.invariant ht.1).bounds .updateCalls
    simp only [Bounds] at hbounds
    omega
  refine RelaySound.bind (sound_atomic steady_invariant hs (fun current => ?_) fun t ht _ => ?_)
  · exact fun v v' h hv => Sound.stable (fun _ _ _ h h' => h.trans h') hv h
  · refine ⟨fun who _ => .refl process who t, ?_⟩
    refine sound_saturate steady_invariant hsteady steady_underway (fun _ _ hmax => hmax) (fun u hu hne => ?_)
      (fun u hu hmax => ?_) patience _ ht id
    · exact ⟨guarantee_count hne, hu.count hne, hunderway⟩
    · exact ⟨guarantee_noteUpdate hu hmax, hu.noteUpdate hmax, hunderway⟩

theorem sound_countReturn (patience : ℕ) (hs : Invariant process s ∧ thread ∈ s.underway) :
    RelaySound process thread (countReturn thread patience) (fun _ => Invariant process) s := by
  refine RelaySound.bind (sound_atomic steady_underway hs (fun current => ?_) fun t ht hcalm => ?_)
  · exact fun v v' h hv => Sound.stable (fun _ _ _ h h' => h.trans h') hv h
  · refine ⟨fun who _ => .refl process who t, ?_⟩
    refine sound_saturate (M := fun _ => True) steady_cleared (fun u v h hu => ⟨steady_cleared u v h hu.1, trivial⟩)
      steady_invariant (fun _ _ _ => trivial) (fun u hu hne => ?_) (fun u hu _ => ?_) patience _
      ⟨ht.1, ht.2, hcalm⟩ fun _ => trivial
    · exact ⟨guarantee_return hne hu.2.1 hu.2.2, hu.1.return hne hu.2.1 hu.2.2⟩
    · exact ⟨fun who hwho => ⟨frame_noteReturn hwho (.refl who u), fun h => h.noteReturn⟩, hu.1.noteReturn⟩

theorem harmless_recordForwarded (patience : ℕ) (diagnostics : Bool) {substeps : ℤ} (hnonneg : 0 ≤ substeps)
    (hmost : substeps ≤ 5) : Harmless process thread (recordForwarded patience diagnostics substeps) := by
  unfold recordForwarded
  split
  · refine (harmless_lower .minForwardedSubsteps (by decide) ⟨hnonneg, .inl hmost⟩ patience).bind fun _ => ?_
    exact harmless_raise .maxForwardedSubsteps (by decide) ⟨hnonneg, hmost⟩ patience
  · exact harmless_pure ()

theorem harmless_recordStep (patience : ℕ) (diagnostics : Bool) {deltaTime : UInt32} {substeps : ℤ}
    (htime : validDeltaTime (floatOfLong (longOfBits deltaTime)) = true) (hnonneg : 0 ≤ substeps)
    (hmost : substeps ≤ 64) : Harmless process thread (recordStep patience diagnostics deltaTime substeps) := by
  unfold recordStep
  split
  · refine (harmless_deltaTime htime).bind fun _ => ?_
    refine (harmless_lower .minSubsteps (by decide) ⟨hnonneg, .inl hmost⟩ patience).bind fun _ => ?_
    exact harmless_raise .maxSubsteps (by decide) ⟨hnonneg, hmost⟩ patience
  · exact harmless_pure ()

/-- **An update.** -/
theorem sound_flexUpdateSolver (patience : ℕ) (resolved : Bool) (tick : ℤ) (solver : ℕ) {deltaTime : UInt32}
    {substeps : ℤ} (hnonneg : 0 ≤ substeps) (hmost : substeps ≤ 5)
    (htime : validDeltaTime (floatOfLong (longOfBits deltaTime)) = true) (hs : Invariant process s) :
    RelaySound process thread (flexUpdateSolver thread patience resolved tick solver deltaTime substeps)
      (fun _ => Invariant process) s := by
  have hinvariant : Steady process thread (Invariant process) := steady_invariant
  have hforget : ∀ {t : Process}, Invariant process t ∧ thread ∈ t.underway → Invariant process t := And.left
  unfold flexUpdateSolver
  refine RelaySound.bind ((harmless_countMissing patience resolved _ s hinvariant hs).mono fun _ t ht => ?_)
  refine RelaySound.bind ((harmless_countInvalid patience _ _ t hinvariant ht).mono fun _ t ht => ?_)
  refine RelaySound.bind ((harmless_detailedDiagnostics _ t hinvariant ht).mono fun diagnostics t ht => ?_)
  refine RelaySound.bind
    ((harmless_recordForwarded patience diagnostics hnonneg hmost _ t hinvariant ht).mono fun _ t ht => ?_)
  refine RelaySound.bind ((sound_countUpdate patience ht).mono fun _ t ht => ?_)
  -- from here on the update is under way
  refine RelaySound.bind ((harmless_exchange .lastSubsteps (by decide) ⟨hnonneg, by omega⟩ _ t steady_underway
    ht).mono fun _ t ht => ?_)
  refine RelaySound.bind ((harmless_recordStep patience diagnostics htime hnonneg (by omega) _ t steady_underway
    ht).mono fun _ t ht => ?_)
  refine RelaySound.bind ((harmless_exchange .lastUpdateTick (by decide) trivial _ t steady_underway
    ht).mono fun _ t ht => ?_)
  split
  · refine RelaySound.bind ((harmless_exchange .lastForwardedSubsteps (by decide) ⟨hnonneg, hmost⟩ _ t
      steady_underway ht).mono fun _ t ht => ?_)
    exact sound_countReturn patience ht
  · exact sound_ret hinvariant (hforget ht)

/-! ## 4. The lock -/

theorem sound_acquire (hs : Invariant process s) :
    RelaySound process thread (acquire thread) (fun _ => Owned process thread) s := by
  refine sound_step steady_invariant hs fun t ht hready _ => ?_
  have hfree : t.holder = none := Option.isNone_iff_eq_none.mp hready
  have heven := ht.free hfree
  have hheld : Invariant process { t with holder := some thread } :=
    ⟨ht.bounds, ht.length, ht.moment, ht.sequence, ht.consistent, fun _ => heven, ht.updates, ht.window⟩
  refine ⟨fun who _ => ?_, sound_ret steady_owned ⟨hheld, rfl, heven⟩⟩
  have hframe := Frame.refl who t
  exact ⟨⟨hframe.moments, hframe.publications, hframe.quiet, hframe.falls, hframe.rises, hframe.counts,
    hframe.timed, fun _ _ h => absurd (hfree.symm.trans h) (by simp), hframe.underway, hframe.cleared,
    hframe.counted, hframe.attempt, hframe.readings, hframe.window⟩, fun _ => hheld⟩

theorem sound_release (hs : Owned process thread s) :
    RelaySound process thread release (fun _ => Invariant process) s := by
  refine sound_atomic steady_owned hs (fun _ => steady_invariant) fun t ht _ => ?_
  obtain ⟨hinvariant, hholder, heven⟩ := ht
  have hfree : Invariant process { t with holder := none } :=
    ⟨hinvariant.bounds, hinvariant.length, hinvariant.moment, hinvariant.sequence, hinvariant.consistent,
      fun _ => heven, hinvariant.updates, hinvariant.window⟩
  refine ⟨fun who hwho => ⟨frame_locked hholder hwho (fun _ h => h) (le_refl _) (fun _ _ _ _ => .inl rfl)
    (fun _ _ => rfl) rfl rfl, fun _ => hfree⟩, hfree⟩

theorem sound_changeSlots {change : List SolverSlot → List SolverSlot}
    (hlength : ∀ slots, (change slots).length = slots.length) (hs : Owned process thread s) :
    RelaySound process thread (changeSlots change) (fun _ => Owned process thread) s := by
  refine sound_atomic steady_owned hs (fun _ => steady_owned) fun t ht _ => ?_
  have hguarantee : Guarantee process (some thread) t _ :=
    guarantee_changeSlots (hlength t.slots) ht.holder
  exact ⟨hguarantee, (hguarantee none (by simp)).invariant ht.invariant, ht.holder, ht.even⟩

theorem sound_changeOrDrop (patience : ℕ) {change : Option (List SolverSlot → List SolverSlot)}
    (hlength : ∀ f, change = some f → ∀ slots, (f slots).length = slots.length) (hs : Owned process thread s) :
    RelaySound process thread (changeOrDrop patience change) (fun _ => Owned process thread) s := by
  cases change with
  | some f => exact sound_changeSlots (hlength f rfl) hs
  | none =>
    refine RelaySound.bind ((harmless_exchange .solverTrackingQuarantined (by decide) trivial _ s steady_owned
      hs).mono fun _ t ht => ?_)
    exact harmless_saturatedIncrement (by decide) patience _ t steady_owned ht

theorem live_le {slots : List SolverSlot} (h : slots.length = 64) :
    0 ≤ (sumsOf slots).live ∧ (sumsOf slots).live ≤ 64 := by
  have hlive := (sumsOf_sound slots).live
  have hle := length_liveSlots_le slots
  omega

theorem bounds_published {slots : List SolverSlot} (h : slots.length = 64) {field : Field}
    (hfield : field ∈ aggregateFields) (hmost : field ≠ .maxLiveSolvers) :
    Bounds process ((sumsOf slots).published field) field := by
  obtain ⟨-, ⟨hcapacity, hactive⟩, -, hcounts⟩ := sumsOf_sound slots
  simp only [aggregateFields, List.mem_cons, List.not_mem_nil, or_false] at hfield
  rcases hfield with rfl | rfl | rfl | rfl | rfl | rfl | rfl | rfl
  · exact live_le h
  · exact absurd rfl hmost
  · simp only [Bounds, Sums.published]
    split <;> omega
  · simp only [Bounds, Sums.published]
    split <;> omega
  · simp only [Bounds, Sums.published]
    split
    · rename_i hvalid
      have := (hcounts hvalid).2.2
      omega
    · omega
  all_goals exact trivial

/-- Some of the sums are written. -/
theorem sound_publishFields {slots : List SolverSlot} {fields : List Field} {settled : Prop}
    (hfields : ∀ field ∈ fields, field ∈ aggregateFields ∧ field ≠ .maxLiveSolvers) {written : List Field}
    (hwritten : ∀ field ∈ written, field ∈ aggregateFields)
    (hs : Publishing process thread slots written settled s) :
    RelaySound process thread (publishFields (sumsOf slots) fields)
      (fun _ => Publishing process thread slots (written ++ fields) settled) s := by
  induction fields generalizing written s with
  | nil => exact sound_ret (steady_publishing (by simpa using hwritten)) (by simpa using hs)
  | cons field fields ih =>
    obtain ⟨⟨hfield, hmost⟩, hrest⟩ := List.forall_mem_cons.mp hfields
    have hmore : ∀ other ∈ written ++ [field], other ∈ aggregateFields := by
      intro other hother
      obtain hother | hother := List.mem_append.mp hother
      · exact hwritten other hother
      · exact List.mem_singleton.mp hother ▸ hfield
    have hfirst : RelaySound process thread (exchange field ((sumsOf slots).published field))
        (fun _ => Publishing process thread slots (written ++ [field]) settled) s := by
      refine sound_atomic (steady_publishing hwritten) hs (fun _ => steady_publishing hmore) fun t ht _ => ?_
      have hguarantee : Guarantee process (some thread) t (t.set field ((sumsOf slots).published field)) :=
        guarantee_publish ht.holder hfield (bounds_published (ht.same ▸ ht.invariant.length) hfield hmost)
          fun heven => absurd (heven.symm.trans ht.odd) (by decide)
      refine ⟨hguarantee, (hguarantee none (by simp)).invariant ht.invariant, ht.holder, ht.odd, ht.same,
        fun other hother => ?_, fun hsettled => ?_⟩
      · by_cases heq : other = field
        · rw [heq, memory_set_same]
        · rw [memory_set_other t _ heq]
          obtain hother | hother := List.mem_append.mp hother
          · exact ht.published other hother
          · exact absurd (List.mem_singleton.mp hother) heq
      · rw [memory_set_other t _ hmost.symm]
        exact ht.most hsettled
    refine RelaySound.bind (hfirst.mono fun _ t ht => ?_)
    have hthen := ih hrest hmore ht
    rwa [List.append_assoc] at hthen

/-- The greatest number of solvers is settled. -/
theorem sound_settleMost {slots : List SolverSlot} {written : List Field}
    (hwritten : ∀ field ∈ written, field ∈ aggregateFields ∧ field ≠ .maxLiveSolvers) (patience : ℕ)
    (hs : Publishing process thread slots written False s) :
    RelaySound process thread (raise patience .maxLiveSolvers (sumsOf slots).live)
      (fun _ => Publishing process thread slots written True) s := by
  have hbefore : Steady process thread (Publishing process thread slots written False) :=
    steady_publishing fun field h => (hwritten field h).1
  have hbehind : Steady process thread (Publishing process thread slots written True) :=
    steady_publishing fun field h => (hwritten field h).1
  have hsettled : ∀ {t : Process}, Publishing process thread slots written False t →
      (sumsOf slots).live ≤ t.memory .maxLiveSolvers → Publishing process thread slots written True t :=
    fun ht hle => ⟨ht.invariant, ht.holder, ht.odd, ht.same, ht.published, fun _ => hle⟩
  have hstable : ∀ (x : Relay Unit), Steady process thread fun v =>
      RelaySound process thread x (fun _ => Publishing process thread slots written True) v :=
    fun x v v' h hv => Sound.stable (fun _ _ _ h h' => h.trans h') hv h
  have hraised : ∀ {t : Process}, Publishing process thread slots written False t →
      Guarantee process (some thread) t (t.set .maxLiveSolvers (sumsOf slots).live) ∧
        Publishing process thread slots written True (t.set .maxLiveSolvers (sumsOf slots).live) := by
    intro t ht
    have hguarantee : Guarantee process (some thread) t (t.set .maxLiveSolvers (sumsOf slots).live) :=
      guarantee_publish ht.holder (by decide) (live_le (ht.same ▸ ht.invariant.length))
        fun heven => absurd (heven.symm.trans ht.odd) (by decide)
    refine ⟨hguarantee, (hguarantee none (by simp)).invariant ht.invariant, ht.holder, ht.odd, ht.same,
      fun field hfield => ?_, fun _ => ?_⟩
    · rw [memory_set_other t _ (hwritten field hfield).2]
      exact ht.published field hfield
    · rw [memory_set_same]
  have hloop : ∀ patience current (t : Process), Publishing process thread slots written False t →
      ((sumsOf slots).live ≤ current → (sumsOf slots).live ≤ t.memory .maxLiveSolvers) →
      RelaySound process thread (settle .maxLiveSolvers
        (fun maximum => decide (maximum < (sumsOf slots).live)) (sumsOf slots).live patience current)
        (fun _ => Publishing process thread slots written True) t := by
    intro patience
    induction patience with
    | zero => exact fun _ _ _ _ => sound_stuck
    | succ patience ih =>
      intro current t ht hcurrent
      unfold settle
      split
      · refine RelaySound.bind (sound_step hbefore ht fun u hu _ _ => ?_)
        by_cases heq : u.memory .maxLiveSolvers = current
        · simp only [heq, if_true]
          refine ⟨(hraised hu).1, sound_ret (hstable _) ?_⟩
          rw [if_pos rfl]
          exact sound_ret hbehind (hraised hu).2
        · simp only [if_neg heq]
          refine ⟨fun who _ => .refl process who u, sound_ret (hstable _) ?_⟩
          rw [if_neg heq]
          refine RelaySound.bind (sound_atomic hbefore hu (fun _ => hstable _) fun v hv _ => ?_)
          exact ⟨fun who _ => .refl process who v, ih _ v hv id⟩
      · rename_i hnot
        have hle : (sumsOf slots).live ≤ current := by simpa using hnot
        exact sound_ret hbehind (hsettled ht (hcurrent hle))
  refine RelaySound.bind (sound_atomic hbefore hs (fun _ => hstable _) fun t ht _ => ?_)
  exact ⟨fun who _ => .refl process who t, hloop patience _ t ht id⟩

/-- **What a thread publishes** are the sums of its slots. -/
theorem sound_publishSolverSnapshot (patience : ℕ) (hs : Owned process thread s) :
    RelaySound process thread (publishSolverSnapshot patience) (fun _ => Owned process thread) s := by
  have hstable : ∀ (x : Relay Unit), Steady process thread fun v =>
      RelaySound process thread x (fun _ => Owned process thread) v :=
    fun x v v' h hv => Sound.stable (fun _ _ _ h h' => h.trans h') hv h
  refine RelaySound.bind (sound_atomic steady_owned hs (fun _ => hstable _) fun t ht _ => ?_)
  have hbegun : Guarantee process (some thread) t (incremented t) :=
    guarantee_increment ht.holder fun hodd => absurd (ht.even.symm.trans hodd) (by decide)
  have hincremented : (incremented t).publications = t.publications + 1 := rfl
  have hpublishing : Publishing process thread t.slots [] False (incremented t) :=
    ⟨(hbegun none (by simp)).invariant ht.invariant, ht.holder, by have := ht.even; omega, rfl, by simp,
      False.elim⟩
  refine ⟨hbegun, ?_⟩
  refine RelaySound.bind (sound_atomic (steady_publishing (by simp)) hpublishing (fun _ => hstable _)
    fun u hu _ => ⟨fun who _ => .refl process who u, ?_⟩)
  rw [hu.same]
  refine RelaySound.bind ((sound_publishFields (by decide) (by simp) hu).mono fun _ u hu => ?_)
  refine RelaySound.bind ((sound_settleMost (by decide) patience hu).mono fun _ u hu => ?_)
  refine RelaySound.bind ((sound_publishFields (by decide) (by decide) hu).mono fun _ u hu => ?_)
  -- everything is written
  refine sound_atomic (steady_publishing (by decide)) hu (fun _ => steady_owned) fun v hv _ => ?_
  have hconsistent : Consistent t.slots v.memory := by
    refine ⟨fun field hfield hmost => .inl (hv.published field ?_), ?_⟩
    · revert field
      decide
    · rw [hv.published .liveSolvers (by decide)]
      exact hv.most trivial
  have hended : Guarantee process (some thread) v (incremented v) :=
    guarantee_increment hv.holder fun _ => ⟨t.slots, hv.same ▸ hv.invariant.moment, hconsistent⟩
  have hparity : (v.publications + 1) % 2 = 0 := by
    have hodd := hv.odd
    omega
  exact ⟨hended, (hended none (by simp)).invariant hv.invariant, hv.holder, hparity⟩

theorem sound_invalidate (hs : Owned process thread s) :
    RelaySound process thread (exchange .aggregateCountsValid 0) (fun _ => Owned process thread) s := by
  refine sound_atomic steady_owned hs (fun _ => steady_owned) fun t ht _ => ?_
  have hguarantee : Guarantee process (some thread) t (t.set .aggregateCountsValid 0) :=
    guarantee_publish ht.holder (by decide) trivial fun _ => ⟨rfl, rfl⟩
  exact ⟨hguarantee, (hguarantee none (by simp)).invariant ht.invariant, ht.holder, ht.even⟩

theorem sound_registerSolver (patience solver : ℕ) (capacity : ℤ) (hs : Invariant process s) :
    RelaySound process thread (registerSolver thread patience solver capacity) (fun _ => Invariant process) s := by
  unfold registerSolver
  split
  · exact sound_ret steady_invariant hs
  · refine RelaySound.bind ((sound_acquire hs).mono fun _ t ht => ?_)
    have hlook : Harmless process thread
        (.atomic .plain (fun s => destination s.slots solver) id : Relay (Option ℕ)) :=
      harmless_atomic fun s who => .refl process who s
    refine RelaySound.bind ((hlook _ t steady_owned ht).mono fun slot t ht => ?_)
    refine RelaySound.bind ((sound_changeOrDrop patience (fun f hf slots => ?_) ht).mono fun _ t ht => ?_)
    · obtain ⟨_, -, rfl⟩ := Option.map_eq_some_iff.mp hf
      exact List.length_set
    · exact RelaySound.bind ((sound_publishSolverSnapshot patience ht).mono fun _ t ht => sound_release ht)

theorem sound_retireSolver (patience solver : ℕ) (hs : Invariant process s) :
    RelaySound process thread (retireSolver thread patience solver) (fun _ => Invariant process) s := by
  unfold retireSolver
  split
  · exact sound_ret steady_invariant hs
  · refine RelaySound.bind ((sound_acquire hs).mono fun _ t ht => ?_)
    have hlook : Harmless process thread
        (.atomic .plain (fun s => s.slots.any fun slot => slot.solver = solver) id : Relay Bool) :=
      harmless_atomic fun s who => .refl process who s
    refine RelaySound.bind ((hlook _ t steady_owned ht).mono fun found t ht => ?_)
    refine RelaySound.bind ((sound_changeOrDrop patience (fun f hf slots => ?_) ht).mono fun _ t ht => ?_)
    · split at hf
      · cases hf
        exact List.length_map _
      · cases hf
    · exact RelaySound.bind ((sound_publishSolverSnapshot patience ht).mono fun _ t ht => sound_release ht)

theorem sound_recordActiveCount (patience solver : ℕ) (count tick : ℤ) (hs : Invariant process s) :
    RelaySound process thread (recordActiveCount thread patience solver count tick)
      (fun _ => Invariant process) s := by
  unfold recordActiveCount
  split
  · exact sound_ret steady_invariant hs
  · refine RelaySound.bind ((sound_acquire hs).mono fun _ t ht => ?_)
    have hlook : Harmless process thread
        (.atomic .plain (fun s => s.slots.findIdx? fun slot => slot.solver = solver) id : Relay (Option ℕ)) :=
      harmless_atomic fun s who => .refl process who s
    refine RelaySound.bind ((hlook _ t steady_owned ht).mono fun slot t ht => ?_)
    cases slot with
    | some slot =>
      refine RelaySound.bind ((sound_changeSlots (fun slots => List.length_modify ..) ht).mono fun _ t ht => ?_)
      exact RelaySound.bind ((sound_publishSolverSnapshot patience ht).mono fun _ t ht => sound_release ht)
    | none =>
      have hchange : RelaySound process thread (changeOrDrop patience none)
          (fun _ => Owned process thread) t := sound_changeOrDrop patience (fun f hf => by cases hf) ht
      have hdrop : RelaySound process thread (dropCall patience) (fun _ => Owned process thread) t :=
        hchange
      refine RelaySound.bind (hdrop.mono fun _ t ht => ?_)
      exact RelaySound.bind ((sound_invalidate ht).mono fun _ t ht => sound_release ht)

/-! ## 5. Calls -/

/-- A count is an `int`, and an update is what the reader takes for a step of a solver. -/
def RelayCall.Admissible : RelayCall → Prop
  | .getActiveCount _ count => count ≤ longMax
  | .updateSolver _ deltaTime substeps =>
    0 ≤ substeps ∧ substeps ≤ 5 ∧ validDeltaTime (floatOfLong (longOfBits deltaTime)) = true
  | _ => True

theorem harmless_noteActiveCount (patience : ℕ) (tick : ℤ) {count : ℤ} (h : 0 ≤ count) (hmost : count ≤ longMax) :
    Harmless process thread (noteActiveCount patience tick count) := by
  unfold noteActiveCount
  refine (harmless_exchange .lastActiveParticles (by decide) h).bind fun _ => ?_
  refine (harmless_lower .minActiveParticles (by decide) ⟨h, hmost⟩ patience).bind fun _ => ?_
  refine (harmless_raise .maxActiveParticles (by decide) h patience).bind fun _ => ?_
  refine (harmless_exchange .activeParticlesValid (by decide) trivial).bind fun _ => ?_
  refine (harmless_saturatedIncrement (by decide) patience).bind fun _ => ?_
  exact harmless_exchange .lastActiveCountTick (by decide) trivial

theorem sound_flexGetActiveCount (patience : ℕ) (resolved : Bool) (tick : ℤ) (solver : ℕ) {native : ℤ}
    (hnative : native ≤ longMax) (hs : Invariant process s) :
    RelaySound process thread (flexGetActiveCount thread patience resolved tick solver native)
      (fun _ => Invariant process) s := by
  have hinvariant : Steady process thread (Invariant process) := steady_invariant
  unfold flexGetActiveCount
  refine RelaySound.bind ((harmless_countMissing patience resolved _ s hinvariant hs).mono fun _ t ht => ?_)
  refine RelaySound.bind ((harmless_countInvalid patience _ _ t hinvariant ht).mono fun _ t ht => ?_)
  simp only
  have hmost : (if resolved = true then native else 0) ≤ longMax := by
    split
    · exact hnative
    · decide
  generalize (if resolved = true then native else 0) = count at hmost
  split
  · rename_i hcount
    refine RelaySound.bind ((harmless_detailedDiagnostics _ t hinvariant ht).mono fun enabled t ht => ?_)
    split
    · refine RelaySound.bind ((harmless_noteActiveCount patience tick hcount.2 hmost _ t hinvariant ht).mono
        fun _ t ht => ?_)
      exact sound_recordActiveCount patience solver count tick ht
    · exact sound_ret hinvariant ht
  · exact sound_ret hinvariant ht

theorem Harmless.sound {x : Relay α} (h : Harmless process thread x) (hs : Invariant process s) :
    RelaySound process thread x (fun _ => Invariant process) s :=
  h _ s steady_invariant hs

/-- **Every call of the relay.** -/
theorem sound_relayCall (patience : ℕ) (resolved : Bool) (tick : ℤ) {call : RelayCall} (hcall : call.Admissible)
    (hs : Invariant process s) :
    RelaySound process thread (call.code thread patience resolved tick) (fun _ => Invariant process) s := by
  have hinvariant : Steady process thread (Invariant process) := steady_invariant
  cases call with
  | getVersion => exact (harmless_countMissing patience resolved).sound hs
  | destroySolver solver =>
    refine RelaySound.bind (((harmless_countMissing patience resolved).sound hs).mono fun _ t ht => ?_)
    refine RelaySound.bind (((harmless_countInvalid patience _).sound ht).mono fun _ t ht => ?_)
    refine RelaySound.bind ((sound_retireSolver patience solver ht).mono fun _ t ht => ?_)
    exact (harmless_saturatedIncrement (by decide) patience).sound ht
  | createSolver maxParticles solver =>
    refine RelaySound.bind (((harmless_countMissing patience resolved).sound hs).mono fun _ t ht => ?_)
    refine RelaySound.bind (((harmless_countInvalid patience _).sound ht).mono fun _ t ht => ?_)
    split
    · refine RelaySound.bind (((harmless_saturatedIncrement (by decide) patience).sound ht).mono
        fun _ t ht => ?_)
      refine RelaySound.bind (((harmless_exchange .lastCreateTick (by decide) trivial).sound ht).mono
        fun _ t ht => ?_)
      exact sound_registerSolver patience solver maxParticles ht
    · exact sound_ret hinvariant ht
  | getActiveCount solver count => exact sound_flexGetActiveCount patience resolved tick solver hcall hs
  | getBounds solver lower upper =>
    refine RelaySound.bind (((harmless_countMissing patience resolved).sound hs).mono fun _ t ht => ?_)
    refine RelaySound.bind (((harmless_countInvalid patience _).sound ht).mono fun _ t ht => ?_)
    exact (harmless_countWhenDetailed patience resolved (by decide)).sound ht
  | setParams solver params =>
    refine RelaySound.bind (((harmless_countMissing patience resolved).sound hs).mono fun _ t ht => ?_)
    refine RelaySound.bind (((harmless_countInvalid patience _).sound ht).mono fun _ t ht => ?_)
    exact (harmless_countWhenDetailed patience resolved (by decide)).sound ht
  | getParticles solver buffer elements memory =>
    exact (harmless_relayBufferTransfer patience resolved false (by decide) solver buffer elements memory).sound hs
  | getPhases solver buffer elements memory =>
    exact (harmless_relayBufferTransfer patience resolved false (by decide) solver buffer elements memory).sound hs
  | getVelocities solver buffer elements memory =>
    exact (harmless_relayBufferTransfer patience resolved false (by decide) solver buffer elements memory).sound hs
  | setParticles solver buffer elements memory =>
    exact (harmless_relayBufferTransfer patience resolved true (by decide) solver buffer elements memory).sound hs
  | setPhases solver buffer elements memory =>
    exact (harmless_relayBufferTransfer patience resolved true (by decide) solver buffer elements memory).sound hs
  | setVelocities solver buffer elements memory =>
    exact (harmless_relayBufferTransfer patience resolved true (by decide) solver buffer elements memory).sound hs
  | setFence => exact (harmless_relayFence patience resolved tick .fenceSetCalls .lastFenceSetTick (by decide) (by decide)
    trivial).sound hs
  | waitFence => exact (harmless_relayFence patience resolved tick .fenceWaitCalls .lastFenceWaitTick (by decide) (by decide)
    trivial).sound hs
  | updateSolver solver deltaTime substeps =>
    exact sound_flexUpdateSolver patience resolved tick solver hcall.1 hcall.2.1 hcall.2.2 hs
  | diagnostics process' enabled => exact (harmless_writeDiagnosticsControl process' enabled).sound hs

end Kf2Optimizer.Flex.Observation
