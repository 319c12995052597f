/-
# What the reader accepts

In a calm run the reader accepts every memory of a relay whose updates pass on at most five substeps,
and the aggregate it accepts is that of one moment (`relay_and_reader_agree`).
-/
import Kf2Optimizer.Flex.RelaySound

namespace Kf2Optimizer.Flex.Observation

open Threads

/-! ## 1. What a reading knows -/

variable {process : GameProcessIdentity} {α β : Type} {s t : Process}

/-- A reading that was not refused.  What it gives of the solvers are the sums of one moment. -/
def Accepted (moments : List (List SolverSlot)) (reading : Option ObservationSnapshot) : Prop :=
  ∃ snapshot, reading = some snapshot ∧ (snapshot.particleCapacityAvailable = true → ∃ slots ∈ moments,
    snapshot.value .liveSolvers = (liveSlots slots).length ∧
    snapshot.value .aggregateParticleCapacity = totalCapacity slots ∧
    (snapshot.aggregateParticlesFresh = true →
      snapshot.value .aggregateActiveParticles = totalActive slots ∧
      snapshot.value .aggregateFreeParticles = totalCapacity slots - totalActive slots))

theorem Accepted.mono {moments moments' : List (List SolverSlot)} {reading : Option ObservationSnapshot}
    (h : Accepted moments reading) (hmoments : moments ⊆ moments') : Accepted moments' reading := by
  obtain ⟨snapshot, hreading, hsums⟩ := h
  refine ⟨snapshot, hreading, fun hcapacity => ?_⟩
  obtain ⟨slots, hslots, hmoment⟩ := hsums hcapacity
  exact ⟨slots, hmoments hslots, hmoment⟩

/-- What the reader knows apart from what it has read. -/
structure Ready (process : GameProcessIdentity) (s : Process) : Prop where
  invariant : Invariant process s
  earlier : ∀ reading ∈ s.history.readings, Accepted s.moments reading

theorem Ready.stable : Stable (Rely process none) (Ready process) := by
  intro s t h hs
  refine ⟨h.invariant hs.invariant, fun reading hreading => ?_⟩
  rw [h.readings rfl] at hreading
  exact (hs.earlier reading hreading).mono h.moments

/-- What the reader keeps, for the others and for itself. -/
structure ReaderGuarantee (process : GameProcessIdentity) (s t : Process) : Prop where
  others : Guarantee process none s t
  ready : Ready process s → Ready process t

theorem ReaderGuarantee.refl (process : GameProcessIdentity) (s : Process) : ReaderGuarantee process s s :=
  ⟨fun who _ => .refl process who s, id⟩

/-- The code is sound for the reader. -/
abbrev ReaderSound (process : GameProcessIdentity) (x : Relay α) (Q : α → Process → Prop) (s : Process) : Prop :=
  Sound Calm (Rely process none) (ReaderGuarantee process) x Q s

theorem ReaderSound.bind {x : Relay α} {f : α → Relay β} {Q : β → Process → Prop}
    (h : ReaderSound process x (fun a t => ReaderSound process (f a) Q t) s) :
    ReaderSound process (x >>= f) Q s :=
  Sound.bind (Rely.refl process none) h

/-- Sound code stays sound. -/
theorem ReaderSound.stable {x : Relay α} {Q : α → Process → Prop} :
    Stable (Rely process none) (ReaderSound process x Q) :=
  fun _ _ h hs => Sound.stable (fun _ _ _ h h' => h.trans h') hs h

def headerFields : List Field := [.magic, .version, .size, .pid, .processStartLow, .processStartHigh]

/-- Minima, with the maximum of each. -/
def ranges : List (Field × Field) :=
  [(.minSubsteps, .maxSubsteps), (.minForwardedSubsteps, .maxForwardedSubsteps),
    (.minActiveParticles, .maxActiveParticles)]

/-- Fields whose values are about one another. -/
def boundFields : List Field :=
  [.updateCalls, .successfulUpdates, .minSubsteps, .maxSubsteps, .minForwardedSubsteps, .maxForwardedSubsteps,
    .lastActiveParticles, .minActiveParticles, .maxActiveParticles, .liveSolvers, .maxLiveSolvers,
    .diagnosticsEnabled, .lastDeltaTimeBits]

/-- The latest count of particles is in its range. -/
def Ordered (value : Field → ℤ) : Prop :=
  value .updateCalls ≠ 0 → value .lastActiveParticles ≤ value .maxActiveParticles

/-- The time step is one, if there has been a call while the diagnostics were on. -/
def Timed (value : Field → ℤ) : Prop :=
  value .updateCalls ≠ 0 → value .diagnosticsEnabled ≠ 0 →
    validDeltaTime (floatOfLong (value .lastDeltaTimeBits)) = true

/-- A reading so far.  A field that has not been looked at is zero. -/
structure Reading (process : GameProcessIdentity) (value : Field → ℤ) (s : Process) : Prop
    extends Ready process s where
  bounds : ∀ field, field ∉ headerFields → Bounds process (value field) field
  counted : value .updateCalls ≠ 0 → s.history.counted = true
  updates : value .successfulUpdates ≤ value .updateCalls
  most : value .liveSolvers ≤ value .maxLiveSolvers
  ranges : value .updateCalls ≠ 0 → ∀ range ∈ ranges, value range.1 ≤ value range.2 ∧ value range.1 ≠ longMax
  last : value .updateCalls ≠ 0 → value .lastActiveParticles ≤ s.memory .maxActiveParticles
  timed : value .updateCalls ≠ 0 → value .diagnosticsEnabled ≠ 0 →
    validDeltaTime (floatOfLong (s.memory .lastDeltaTimeBits)) = true

theorem Reading.stable {value : Field → ℤ} : Stable (Rely process none) (Reading process value) := by
  intro s t h hs
  refine ⟨Ready.stable s t h hs.toReady, hs.bounds, fun hne => ?_, hs.updates, hs.most, hs.ranges,
    fun hne => (hs.last hne).trans (h.rises _ (by decide)), fun hne hon => h.timed (hs.timed hne hon)⟩
  rw [h.counted rfl]
  exact hs.counted hne

theorem update_of_bound {value : Field → ℤ} {field other : Field} (x : ℤ) (hfield : field ∉ boundFields)
    (hother : other ∈ boundFields) : Function.update value field x other = value other :=
  Function.update_of_ne (by rintro rfl; exact hfield hother) ..

/-- Whatever field is looked at is in its bounds. -/
theorem Reading.bounds_look {value : Field → ℤ} (h : Reading process value t) (field : Field) {other : Field}
    (hother : other ∉ headerFields) : Bounds process (Function.update value field (t.memory field) other) other := by
  by_cases heq : other = field
  · subst heq
    rw [Function.update_self]
    exact h.invariant.bounds other
  · rw [Function.update_of_ne heq]
    exact h.bounds other hother

/-- A field outside the ranges leaves them alone. -/
theorem Reading.ranges_look {value : Field → ℤ} (h : Reading process value t) {field : Field} (x : ℤ)
    (hfield : ∀ range ∈ Observation.ranges, range.1 ≠ field ∧ range.2 ≠ field)
    (hcounted : value .updateCalls ≠ 0) {range : Field × Field} (hrange : range ∈ Observation.ranges) :
    Function.update value field x range.1 ≤ Function.update value field x range.2 ∧
      Function.update value field x range.1 ≠ longMax := by
  rw [Function.update_of_ne (hfield range hrange).1, Function.update_of_ne (hfield range hrange).2]
  exact h.ranges hcounted range hrange

/-- A field that is about no other is looked at. -/
theorem Reading.look {value : Field → ℤ} {field : Field} (h : Reading process value t)
    (hfield : field ∉ boundFields) :
    Reading process (Function.update value field (t.memory field)) t := by
  have hsame : ∀ other ∈ boundFields, Function.update value field (t.memory field) other = value other :=
    fun other hother => update_of_bound _ hfield hother
  refine ⟨h.toReady, fun other => h.bounds_look field, ?_, ?_, ?_, ?_, ?_, ?_⟩
  · rw [hsame .updateCalls (by decide)]
    exact h.counted
  · rw [hsame .updateCalls (by decide), hsame .successfulUpdates (by decide)]
    exact h.updates
  · rw [hsame .liveSolvers (by decide), hsame .maxLiveSolvers (by decide)]
    exact h.most
  · rw [hsame .updateCalls (by decide)]
    have hbound : ∀ range ∈ Observation.ranges, range.1 ∈ boundFields ∧ range.2 ∈ boundFields := by decide
    refine fun hne range => h.ranges_look _ (fun range hrange => ⟨?_, ?_⟩) hne
    · rintro rfl
      exact hfield (hbound range hrange).1
    · rintro rfl
      exact hfield (hbound range hrange).2
  · rw [hsame .updateCalls (by decide), hsame .lastActiveParticles (by decide)]
    exact h.last
  · rw [hsame .updateCalls (by decide), hsame .diagnosticsEnabled (by decide)]
    exact h.timed

/-! ## 2. Looking at fields -/

/-- Fields are looked at one after the other. -/
theorem sound_lookAll {A : List Field → (Field → ℤ) → Process → Prop} {fields : List Field}
    (hstable : ∀ seen value, Stable (Rely process none) (A seen value))
    (hlook : ∀ seen value t, ∀ field ∈ fields, A seen value t → Calm (.reading field) t →
      A (seen ++ [field]) (Function.update value field (t.memory field)) t)
    (seen : List Field) {value : Field → ℤ} (hs : A seen value s) :
    ReaderSound process (lookAll fields value) (fun value => A (seen ++ fields) value) s := by
  induction fields generalizing seen value s with
  | nil => exact sound_ret (hstable _ _) (by simpa using hs)
  | cons field fields ih =>
    refine ReaderSound.bind (sound_atomic (hstable _ _) hs (fun _ => ReaderSound.stable) fun t ht hcalm => ?_)
    refine ⟨ReaderGuarantee.refl process t, ?_⟩
    have hthen := ih (fun seen value t other hother => hlook seen value t other (List.mem_cons_of_mem _ hother))
      _ (hlook seen value t field List.mem_cons_self ht hcalm)
    rwa [List.append_assoc] at hthen

/-- Fields that are about no other. -/
theorem sound_lookFree {fields : List Field} (hfields : ∀ field ∈ fields, field ∉ boundFields)
    {value : Field → ℤ} (hs : Reading process value s) :
    ReaderSound process (lookAll fields value) (fun value => Reading process value) s :=
  sound_lookAll (A := fun _ => Reading process) (fun _ _ => Reading.stable)
    (fun _ _ _ field hfield h _ => h.look (hfields field hfield)) [] hs

/-- A minimum, and the maximum behind it. -/
structure RangeFields (process : GameProcessIdentity) (minimum maximum : Field) : Prop where
  among : (minimum, maximum) ∈ ranges
  falls : minimum ∈ minima
  rises : maximum ∈ maxima
  boundsMinimum : ∀ value, Bounds process value minimum → 0 ≤ value ∧ value ≤ longMax
  boundsMaximum : ∀ value, Bounds process value maximum → 0 ≤ value
  zero : Bounds process 0 minimum
  calm : ∀ s, Calm (.reading minimum) s → s.history.counted = true →
    s.memory minimum = longMax ∨ s.memory minimum ≤ s.memory maximum

theorem rangeFields (process : GameProcessIdentity) {minimum maximum : Field} (h : (minimum, maximum) ∈ ranges) :
    RangeFields process minimum maximum := by
  have hpairs := h
  simp only [ranges, List.mem_cons, Prod.mk.injEq, List.not_mem_nil, or_false] at hpairs
  obtain ⟨rfl, rfl⟩ | ⟨rfl, rfl⟩ | ⟨rfl, rfl⟩ := hpairs
  · exact ⟨h, by decide, by decide, fun value hvalue => by simp only [Bounds, longMax] at hvalue ⊢; omega,
      fun value hvalue => hvalue.1, ⟨le_refl _, .inl (by decide)⟩, fun s hcalm hcounted => hcalm hcounted⟩
  · exact ⟨h, by decide, by decide, fun value hvalue => by simp only [Bounds, longMax] at hvalue ⊢; omega,
      fun value hvalue => hvalue.1, ⟨le_refl _, .inl (by decide)⟩, fun s hcalm hcounted => hcalm hcounted⟩
  · exact ⟨h, by decide, by decide, fun value hvalue => hvalue, fun value hvalue => hvalue,
      ⟨le_refl _, by decide⟩, fun s hcalm hcounted => hcalm hcounted⟩

/-- What is known of a minimum that was looked at. -/
def Least (process : GameProcessIdentity) (minimum maximum : Field) (least : ℤ) (s : Process) : Prop :=
  Bounds process least minimum ∧ least ≠ longMax ∧ (s.history.counted = true → least ≤ s.memory maximum)

theorem Least.stable {minimum maximum : Field} (hmaximum : maximum ∈ maxima) {least : ℤ} :
    Stable (Rely process none) (Least process minimum maximum least) := by
  intro s t h hs
  refine ⟨hs.1, hs.2.1, fun hcounted => (hs.2.2 ?_).trans (h.rises maximum hmaximum)⟩
  rw [← h.counted rfl]
  exact hcounted

theorem sound_lookMinimum {minimum maximum : Field} (h : (minimum, maximum) ∈ ranges) {value : Field → ℤ}
    (hs : Reading process value s) :
    ReaderSound process (lookMinimum minimum)
      (fun least t => Reading process value t ∧ Least process minimum maximum least t) s := by
  obtain ⟨-, hminimum, hmaximum, hbounds, hbounds', hzero, hcalm⟩ := rangeFields process h
  have hdone : ∀ least, Stable (Rely process none) fun t =>
      Reading process value t ∧ Least process minimum maximum least t :=
    fun least s t h hs => ⟨Reading.stable s t h hs.1, Least.stable hmaximum s t h hs.2⟩
  -- what was not the greatest number does not become it
  have hseen : ∀ first, Stable (Rely process none) fun t => Reading process value t ∧
      (first ≠ longMax → t.memory minimum ≠ longMax) := by
    intro first s t h hs
    refine ⟨Reading.stable s t h hs.1, fun hne => ?_⟩
    have hfalls := h.falls minimum hminimum
    have hmost := (hbounds _ (hs.1.invariant.bounds minimum)).2
    have hne' := hs.2 hne
    omega
  refine ReaderSound.bind (sound_atomic Reading.stable hs (fun _ => ReaderSound.stable) fun t ht hcalm' => ?_)
  refine ⟨ReaderGuarantee.refl process t, ?_⟩
  split
  · refine sound_ret (hdone 0) ⟨ht, hzero, by decide, fun _ => hbounds' _ (ht.invariant.bounds maximum)⟩
  · rename_i hne
    refine sound_atomic (hseen (t.memory minimum)) ⟨ht, id⟩ hdone fun u hu hcalm' => ?_
    refine ⟨ReaderGuarantee.refl process u, hu.1, hu.1.invariant.bounds minimum, hu.2 hne, fun hcounted => ?_⟩
    exact (hcalm u hcalm' hcounted).resolve_left (hu.2 hne)

/-- Fields of which a reading knows something, outside the ranges. -/
def single : List Field :=
  [.updateCalls, .successfulUpdates, .lastActiveParticles, .liveSolvers, .maxLiveSolvers, .diagnosticsEnabled]

theorem Reading.range {minimum maximum : Field} (h : (minimum, maximum) ∈ Observation.ranges) {value : Field → ℤ} {least : ℤ}
    (hreading : Reading process value t) (hleast : Least process minimum maximum least t) :
    Reading process (Function.update (Function.update value minimum least) maximum (t.memory maximum)) t := by
  have hdistinct : ∀ range ∈ Observation.ranges, range.1 ≠ range.2 ∧
      (∀ field ∈ single, field ≠ range.1 ∧ field ≠ range.2) ∧
      ∀ range' ∈ Observation.ranges, range' = range ∨
        (range'.1 ≠ range.1 ∧ range'.1 ≠ range.2 ∧ range'.2 ≠ range.1 ∧ range'.2 ≠ range.2) := by decide
  obtain ⟨hne, hothers, hranges⟩ := hdistinct _ h
  have hsame : ∀ field ∈ single,
      Function.update (Function.update value minimum least) maximum (t.memory maximum) field = value field := by
    intro field hfield
    rw [Function.update_of_ne (hothers field hfield).2, Function.update_of_ne (hothers field hfield).1]
  refine ⟨hreading.toReady, fun field hfield => ?_, ?_, ?_, ?_, ?_, ?_, ?_⟩
  · by_cases heq : field = maximum
    · subst heq
      rw [Function.update_self]
      exact hreading.invariant.bounds field
    · rw [Function.update_of_ne heq]
      by_cases heq' : field = minimum
      · subst heq'
        rw [Function.update_self]
        exact hleast.1
      · rw [Function.update_of_ne heq']
        exact hreading.bounds field hfield
  · rw [hsame .updateCalls (by decide)]
    exact hreading.counted
  · rw [hsame .updateCalls (by decide), hsame .successfulUpdates (by decide)]
    exact hreading.updates
  · rw [hsame .liveSolvers (by decide), hsame .maxLiveSolvers (by decide)]
    exact hreading.most
  · rw [hsame .updateCalls (by decide)]
    intro hcounted range hrange
    obtain rfl | ⟨h₁, h₂, h₃, h₄⟩ := hranges range hrange
    · rw [Function.update_self, Function.update_of_ne hne, Function.update_self]
      exact ⟨hleast.2.2 (hreading.counted hcounted), hleast.2.1⟩
    · rw [Function.update_of_ne h₂, Function.update_of_ne h₁, Function.update_of_ne h₄, Function.update_of_ne h₃]
      exact hreading.ranges hcounted range hrange
  · rw [hsame .updateCalls (by decide), hsame .lastActiveParticles (by decide)]
    exact hreading.last
  · rw [hsame .updateCalls (by decide), hsame .diagnosticsEnabled (by decide)]
    exact hreading.timed

/-- A range is looked at.  The latest count is in the range that was read behind it. -/
theorem sound_lookRange {minimum maximum : Field} (h : (minimum, maximum) ∈ ranges) {value : Field → ℤ}
    (hs : Reading process value s) :
    ReaderSound process (lookRange minimum maximum value) (fun value t => Reading process value t ∧
      (maximum = .maxActiveParticles → Ordered value)) s := by
  refine ReaderSound.bind ((sound_lookMinimum h hs).mono fun least t ht => ?_)
  have hmaximum : maximum ∈ maxima := (rangeFields process h).rises
  have hknown : Stable (Rely process none) fun t =>
      Reading process value t ∧ Least process minimum maximum least t :=
    fun s t h hs => ⟨Reading.stable s t h hs.1, Least.stable hmaximum s t h hs.2⟩
  refine ReaderSound.bind (sound_atomic hknown ht (fun _ => ReaderSound.stable) fun u hu _ => ?_)
  refine ⟨ReaderGuarantee.refl process u, sound_ret (fun s t h hs => ⟨Reading.stable s t h hs.1, hs.2⟩)
    ⟨hu.1.range h hu.2, ?_⟩⟩
  rintro rfl
  have hminimum : minimum = .minActiveParticles := by
    revert h
    cases minimum <;> decide
  subst hminimum
  exact hu.1.last

/-! ## 3. The counters of updates -/

/-- The reader notes something. -/
theorem guarantee_history {history : ReaderHistory}
    (hcleared : ∀ thread ∈ s.underway, Cleared thread s → Cleared thread { s with history })
    (hwindow : ∀ calls threads, history.window = some (calls, threads) →
      threads ⊆ s.underway ∧ Returned s calls threads)
    (hreadings : Ready process s → ∀ reading ∈ history.readings, Accepted s.moments reading) :
    ReaderGuarantee process s { s with history } := by
  have hinvariant : Invariant process s → Invariant process { s with history } := fun h =>
    ⟨h.bounds, h.length, h.moment, h.sequence, h.consistent, h.free, h.updates, hwindow⟩
  refine ⟨fun who hwho => ⟨?_, hinvariant⟩, fun h => ⟨hinvariant h.invariant, hreadings h⟩⟩
  exact ⟨fun _ h => h, le_refl _, fun _ _ _ _ => .inl rfl, fun _ _ => le_refl _, fun _ _ => le_refl _, le_refl _, id,
    fun _ _ h => ⟨h, rfl, rfl, fun _ _ => rfl⟩, fun _ _ h => h, fun thread _ => hcleared thread,
    fun h => absurd h hwho, fun h => absurd h hwho, fun h => absurd h hwho, fun h => absurd h hwho⟩

/-- The two counters, and nothing else so far. -/
def countersOf (counters : ℤ × ℤ) : Field → ℤ :=
  Function.update (Function.update (fun _ => 0) .updateCalls counters.1) .successfulUpdates counters.2

theorem bounds_zero {field : Field} (h : field ∉ headerFields) : Bounds process 0 field := by
  revert h
  cases field <;> simp [Bounds, headerFields, longMax, longLongMax]

theorem Ready.counters {updates successful : ℤ} (h : Ready process t) (hupdates : 0 ≤ updates ∧ updates ≤ longLongMax)
    (hsuccessful : 0 ≤ successful ∧ successful ≤ longLongMax) (hle : successful ≤ updates)
    (hcounted : updates ≠ 0 → t.history.counted = true) : Reading process (countersOf (updates, successful)) t := by
  refine ⟨h, fun field hfield => ?_, hcounted, hle, le_refl _, fun _ range hrange => ?_, fun _ => ?_,
    fun _ hon => absurd rfl hon⟩
  · unfold countersOf
    by_cases hsecond : field = .successfulUpdates
    · subst hsecond
      rw [Function.update_self]
      exact hsuccessful
    · rw [Function.update_of_ne hsecond]
      by_cases hfirst : field = .updateCalls
      · subst hfirst
        rw [Function.update_self]
        exact hupdates
      · rw [Function.update_of_ne hfirst]
        exact bounds_zero hfield
  · have hzero : ∀ range ∈ Observation.ranges,
        range.1 ∉ [Field.updateCalls, .successfulUpdates] ∧ range.2 ∉ [Field.updateCalls, .successfulUpdates] := by
      decide
    have hunread : ∀ field ∉ [Field.updateCalls, .successfulUpdates], countersOf (updates, successful) field = 0 := by
      intro field hfield
      simp only [List.mem_cons, List.not_mem_nil, or_false, not_or] at hfield
      rw [countersOf, Function.update_of_ne hfield.2, Function.update_of_ne hfield.1]
    rw [hunread _ (hzero range hrange).1, hunread _ (hzero range hrange).2]
    exact ⟨le_refl _, by decide⟩
  · exact h.invariant.bounds .maxActiveParticles

/-- Between the two counters. -/
structure BetweenCounters (process : GameProcessIdentity) (updates : ℤ) (s : Process) : Prop
    extends Ready process s where
  bounds : 0 ≤ updates ∧ updates ≤ longLongMax
  counted : updates ≠ 0 → s.history.counted = true
  window : ∃ threads, s.history.window = some (updates, threads)

theorem BetweenCounters.stable {updates : ℤ} : Stable (Rely process none) (BetweenCounters process updates) := by
  intro s t h hs
  obtain ⟨threads, hwindow⟩ := hs.window
  refine ⟨Ready.stable s t h hs.toReady, hs.bounds, fun hne => ?_, h.window rfl updates threads hwindow⟩
  rw [h.counted rfl]
  exact hs.counted hne

/-- **No more updates have returned than were counted**, unless one that was not counted yet returns in
between. -/
theorem sound_lookUpdates (hs : Ready process s) :
    ReaderSound process lookUpdates (fun counters => Reading process (countersOf counters)) s := by
  refine ReaderSound.bind (sound_atomic Ready.stable hs (fun _ => ReaderSound.stable) fun t ht _ => ?_)
  have hfirst : ReaderGuarantee process t { t with history := { t.history with
      counted := decide (t.memory .updateCalls ≠ 0)
      window := some (t.memory .updateCalls, t.underway) } } := by
    refine guarantee_history (fun thread hthread _ calls threads hwindow => ?_) (fun calls threads hwindow => ?_)
      Ready.earlier
    · cases hwindow
      exact hthread
    · cases hwindow
      exact ⟨fun _ h => h, ht.invariant.updates⟩
  have hbetween : BetweenCounters process (t.memory .updateCalls) { t with history := { t.history with
      counted := decide (t.memory .updateCalls ≠ 0)
      window := some (t.memory .updateCalls, t.underway) } } :=
    ⟨hfirst.ready ht, ht.invariant.bounds .updateCalls, decide_eq_true, _, rfl⟩
  refine ⟨hfirst, ReaderSound.bind (sound_atomic BetweenCounters.stable hbetween (fun _ => ReaderSound.stable)
    fun u hu _ => ?_)⟩
  have hsecond : ReaderGuarantee process u { u with history := { u.history with window := none } } :=
    guarantee_history (fun _ _ _ _ _ h => by cases h) (fun _ _ h => by cases h) Ready.earlier
  refine ⟨hsecond, sound_ret Reading.stable ?_⟩
  have hle : u.memory .successfulUpdates ≤ t.memory .updateCalls := by
    obtain ⟨threads, hwindow⟩ := hu.window
    have hreturned := (hu.invariant.window _ threads hwindow).2
    have hmost := (hu.invariant.bounds .successfulUpdates).2
    by_cases hlt : t.memory .updateCalls < longLongMax
    · have := hreturned hlt
      omega
    · omega
  exact Ready.counters (hsecond.ready hu.toReady) hu.bounds
    (hu.invariant.bounds .successfulUpdates) hle hu.counted

/-! ## 4. Fields that are about others -/

/-- The latest count of particles is in its range when the reader looks. -/
theorem Reading.lookLast {value : Field → ℤ} (h : Reading process value t)
    (hcalm : Calm (.reading .lastActiveParticles) t) :
    Reading process (Function.update value .lastActiveParticles (t.memory .lastActiveParticles)) t := by
  refine ⟨h.toReady, fun field => h.bounds_look _, h.counted, h.updates, h.most,
    fun hne range => h.ranges_look _ (by decide) hne, fun hne => ?_, h.timed⟩
  rw [Function.update_self]
  exact hcalm (h.counted hne)

/-- There has been a time step when the reader sees that the diagnostics are on. -/
theorem Reading.lookDiagnostics {value : Field → ℤ} (h : Reading process value t)
    (hcalm : Calm (.reading .diagnosticsEnabled) t) :
    Reading process (Function.update value .diagnosticsEnabled (t.memory .diagnosticsEnabled)) t := by
  refine ⟨h.toReady, fun field => h.bounds_look _, h.counted, h.updates, h.most,
    fun hne range => h.ranges_look _ (by decide) hne, h.last, fun hne hon => ?_⟩
  rw [Function.update_self] at hon
  exact hcalm (h.counted hne) hon

theorem Reading.lookDelta {value : Field → ℤ} (h : Reading process value t) :
    Reading process (Function.update value .lastDeltaTimeBits (t.memory .lastDeltaTimeBits)) t ∧
      Timed (Function.update value .lastDeltaTimeBits (t.memory .lastDeltaTimeBits)) := by
  refine ⟨⟨h.toReady, fun field => h.bounds_look _, h.counted, h.updates, h.most,
    fun hne range => h.ranges_look _ (by decide) hne, h.last, h.timed⟩, fun hne hon => ?_⟩
  rw [Function.update_self]
  exact h.timed hne hon

/-! ## 5. The aggregate -/

/-- Within an attempt that began at a moment when the sums of `slots` were published. -/
structure Attempt (process : GameProcessIdentity) (values : Field → ℤ) (began : ℕ) (slots : List SolverSlot)
    (seen : List Field) (value : Field → ℤ) (s : Process) : Prop where
  reading : Reading process values s
  attempt : s.history.attempt = began
  even : began % 2 = 0
  later : began ≤ s.publications
  moment : slots ∈ s.moments
  unseen : ∀ field ∉ seen, value field = values field
  bounds : ∀ field ∈ seen, Bounds process (value field) field
  quiet : s.publications = began → Consistent slots s.memory ∧
    (∀ field ∈ seen, field ≠ .aggregateCountsValid → value field = s.memory field) ∧
    (.aggregateCountsValid ∈ seen → value .aggregateCountsValid = (sumsOf slots).published .aggregateCountsValid ∨
      value .aggregateCountsValid = 0)

variable {values : Field → ℤ} {began : ℕ} {slots : List SolverSlot} {seen : List Field}

/-- What is published stays so, except for what is called invalid. -/
theorem Consistent.quiet (h : Frame who s t) (hs : Consistent slots s.memory) (heven : s.publications % 2 = 0)
    (hsame : t.publications = s.publications) : Consistent slots t.memory := by
  have hquiet := h.quiet hsame heven
  refine ⟨fun field hfield hmost => ?_, ?_⟩
  · obtain heq | hinvalid := hquiet field hfield
    · rw [heq]
      exact hs.published field hfield hmost
    · exact .inr hinvalid
  · obtain hlive | ⟨h, -⟩ := hquiet .liveSolvers (by decide)
    · obtain hmost | ⟨h, -⟩ := hquiet .maxLiveSolvers (by decide)
      · rw [hlive, hmost]
        exact hs.most
      · cases h
    · cases h

theorem Attempt.stable {value : Field → ℤ} (hseen : ∀ field ∈ seen, field ∈ aggregateFields) :
    Stable (Rely process none) (Attempt process values began slots seen value) := by
  intro s t h hs
  refine ⟨Reading.stable s t h hs.reading, (h.attempt rfl).trans hs.attempt, hs.even,
    hs.later.trans h.publications, h.moments hs.moment, hs.unseen, hs.bounds, fun hsame => ?_⟩
  have hpublications : s.publications = began := le_antisymm (hsame ▸ h.publications) hs.later
  have heven : s.publications % 2 = 0 := hpublications ▸ hs.even
  obtain ⟨hconsistent, hvalues, hcounts⟩ := hs.quiet hpublications
  refine ⟨hconsistent.quiet h.toFrame heven (hsame.trans hpublications.symm), fun field hfield hne => ?_, hcounts⟩
  obtain heq | ⟨hcountsValid, -⟩ := h.quiet (hsame.trans hpublications.symm) heven field (hseen field hfield)
  · rw [heq]
    exact hvalues field hfield hne
  · exact absurd hcountsValid hne

/-- One field of the aggregate is looked at. -/
theorem Attempt.look {value : Field → ℤ} (h : Attempt process values began slots seen value t) {field : Field}
    (hfield : field ∈ aggregateFields) :
    Attempt process values began slots (seen ++ [field]) (Function.update value field (t.memory field)) t := by
  refine ⟨h.reading, h.attempt, h.even, h.later, h.moment, fun other hother => ?_, fun other hother => ?_,
    fun hsame => ?_⟩
  · obtain ⟨hnew, hne⟩ := not_or.mp (List.mem_append.not.mp hother)
    rw [Function.update_of_ne (by simpa using hne)]
    exact h.unseen other hnew
  · by_cases heq : other = field
    · subst heq
      rw [Function.update_self]
      exact h.reading.invariant.bounds other
    · rw [Function.update_of_ne heq]
      exact h.bounds other ((List.mem_append.mp hother).resolve_right (by simpa using heq))
  · obtain ⟨hconsistent, hvalues, hcounts⟩ := h.quiet hsame
    refine ⟨hconsistent, fun other hother hne => ?_, fun hmem => ?_⟩
    · by_cases heq : other = field
      · subst heq
        rw [Function.update_self]
      · rw [Function.update_of_ne heq]
        exact hvalues other ((List.mem_append.mp hother).resolve_right (by simpa using heq)) hne
    · by_cases heq : field = .aggregateCountsValid
      · subst heq
        rw [Function.update_self]
        obtain hpublished | ⟨-, hzero⟩ := hconsistent.published .aggregateCountsValid (by decide) (by decide)
        · exact .inl hpublished
        · exact .inr hzero
      · rw [Function.update_of_ne (Ne.symm heq)]
        exact hcounts ((List.mem_append.mp hmem).resolve_right (by simpa using Ne.symm heq))

/-- What was seen of an aggregate that nobody has published anew is that of one moment. -/
theorem Attempt.consistent {value : Field → ℤ} (h : Attempt process values began slots aggregateFields value t)
    (hsame : t.publications = began) : Consistent slots value := by
  obtain ⟨hconsistent, hvalues, hcounts⟩ := h.quiet hsame
  refine ⟨fun field hfield hmost => ?_, ?_⟩
  · by_cases heq : field = .aggregateCountsValid
    · subst heq
      exact (hcounts (by decide)).imp_right fun hzero => ⟨rfl, hzero⟩
    · rw [hvalues field hfield heq]
      exact hconsistent.published field hfield hmost
  · rw [hvalues .liveSolvers (by decide) (by decide), hvalues .maxLiveSolvers (by decide) (by decide)]
    exact hconsistent.most

/-- The reading that has taken up an aggregate. -/
theorem Attempt.taken {value : Field → ℤ} (h : Attempt process values began slots aggregateFields value t)
    (hsame : t.publications = began) : Reading process value t := by
  obtain ⟨hready, hbounds, hcounted, hupdates, -, hranges, hlast, htimed⟩ := h.reading
  have hother : ∀ field ∉ aggregateFields, value field = values field := h.unseen
  refine ⟨hready, fun field hfield => ?_, ?_, ?_, (h.consistent hsame).most, ?_, ?_, ?_⟩
  · by_cases hmem : field ∈ aggregateFields
    · exact h.bounds field hmem
    · rw [hother field hmem]
      exact hbounds field hfield
  · rwa [hother .updateCalls (by decide)]
  · rwa [hother .updateCalls (by decide), hother .successfulUpdates (by decide)]
  · rw [hother .updateCalls (by decide)]
    intro hne range hrange
    have hapart : ∀ range ∈ Observation.ranges, range.1 ∉ aggregateFields ∧ range.2 ∉ aggregateFields := by decide
    rw [hother _ (hapart range hrange).1, hother _ (hapart range hrange).2]
    exact hranges hne range hrange
  · rwa [hother .updateCalls (by decide), hother .lastActiveParticles (by decide)]
  · rwa [hother .updateCalls (by decide), hother .diagnosticsEnabled (by decide)]

/-- What is known of a reading behind the aggregate. -/
structure Summary (process : GameProcessIdentity) (aggregate : Option (Field → ℤ)) (value : Field → ℤ)
    (s : Process) : Prop extends Reading process value s where
  ordered : Ordered value
  sums : ∀ found, aggregate = some found → (∃ slots ∈ s.moments, Consistent slots value) ∧
    ∀ field ∈ aggregateFields, found field = value field

theorem Summary.stable {aggregate : Option (Field → ℤ)} {value : Field → ℤ} :
    Stable (Rely process none) (Summary process aggregate value) := by
  intro s t h hs
  refine ⟨Reading.stable s t h hs.toReading, hs.ordered, fun found hfound => ?_⟩
  obtain ⟨⟨slots, hslots, hconsistent⟩, hsame⟩ := hs.sums found hfound
  exact ⟨⟨slots, h.moments hslots, hconsistent⟩, hsame⟩

theorem wrap32_mod_two (n : ℕ) : wrap32 n % 2 = n % 2 := by
  unfold wrap32
  omega

/-- **What is published together is read together**, or not at all. -/
theorem sound_lookAggregate (attempts : ℕ) (hs : Reading process values s) (hordered : Ordered values) :
    ReaderSound process (lookAggregate attempts values)
      (fun aggregate => Summary process aggregate (aggregate.getD values)) s := by
  induction attempts generalizing s with
  | zero => exact sound_ret Summary.stable ⟨hs, hordered, fun found h => by cases h⟩
  | succ attempts ih =>
    refine ReaderSound.bind (sound_atomic Reading.stable hs (fun _ => ReaderSound.stable) fun t ht _ => ?_)
    have hnoted : ReaderGuarantee process t { t with history := { t.history with attempt := t.publications } } :=
      guarantee_history (fun _ _ h => h) ht.invariant.window Ready.earlier
    have hbegun : Reading process values { t with history := { t.history with attempt := t.publications } } :=
      ⟨hnoted.ready ht.toReady, ht.bounds, ht.counted, ht.updates, ht.most, ht.ranges, ht.last,
        ht.timed⟩
    refine ⟨hnoted, ?_⟩
    split
    · exact ih hbegun
    · rename_i heven
      rw [ht.invariant.sequence, wrap32_mod_two] at heven
      have hpublished : t.publications % 2 = 0 := by omega
      obtain ⟨slots, hslots, hconsistent⟩ := ht.invariant.consistent hpublished
      have hattempt : Attempt process values t.publications slots [] values
          { t with history := { t.history with attempt := t.publications } } :=
        ⟨hbegun, rfl, hpublished, le_refl _, hslots, fun _ _ => rfl, by simp, fun _ => ⟨hconsistent, by simp, by simp⟩⟩
      have hfields : ReaderSound process (lookAll aggregateFields values)
          (fun value => Attempt process values t.publications slots aggregateFields value)
          { t with history := { t.history with attempt := t.publications } } := by
        have hall := sound_lookAll (A := fun seen value u => (∀ field ∈ seen, field ∈ aggregateFields) ∧
          Attempt process values t.publications slots seen value u)
          (fun _ _ u v h hu => ⟨hu.1, Attempt.stable hu.1 u v h hu.2⟩)
          (fun seen value u field hfield hu _ => ⟨fun other hother => ?_, hu.2.look hfield⟩) [] ⟨by simp, hattempt⟩
        · exact Sound.mono hall fun value u hu => hu.2
        · obtain hseen | hnew := List.mem_append.mp hother
          · exact hu.1 other hseen
          · exact List.mem_singleton.mp hnew ▸ hfield
      refine ReaderSound.bind (hfields.mono fun value u hu => ?_)
      refine ReaderSound.bind (sound_atomic (Attempt.stable fun _ h => h) hu (fun _ => ReaderSound.stable)
        fun v hv hcalm => ⟨ReaderGuarantee.refl process v, ?_⟩)
      split
      · exact ih hv.reading
      · rename_i hagree
        -- the sequence has not come round in between
        have hsame : v.publications = t.publications := by
          obtain ⟨hsequence, -⟩ := not_or.mp hagree
          rw [not_not, ht.invariant.sequence, hv.reading.invariant.sequence] at hsequence
          have hfew : v.publications < v.history.attempt + 2 ^ 32 := hcalm
          have hlater := hv.later
          rw [hv.attempt] at hfew
          unfold wrap32 at hsequence
          omega
        have hother : ∀ field ∉ aggregateFields, value field = values field := hv.unseen
        refine sound_ret Summary.stable ⟨hv.taken hsame, ?_, fun found hfound => ?_⟩
        · unfold Ordered at hordered ⊢
          rwa [Option.getD_some, hother .updateCalls (by decide), hother .lastActiveParticles (by decide),
            hother .maxActiveParticles (by decide)]
        · cases hfound
          exact ⟨⟨slots, hv.moment, hv.consistent hsame⟩, fun _ _ => rfl⟩

/-! ## 6. A whole reading -/

/-- A field that is not published with others. -/
theorem Consistent.update {value : Field → ℤ} (h : Consistent slots value) {field : Field}
    (hfield : field ∉ aggregateFields) (x : ℤ) : Consistent slots (Function.update value field x) := by
  have hsame : ∀ other ∈ aggregateFields, Function.update value field x other = value other :=
    fun other hother => Function.update_of_ne (by rintro rfl; exact hfield hother) ..
  refine ⟨fun other hother hmost => ?_, ?_⟩
  · rw [hsame other hother]
    exact h.published other hother hmost
  · rw [hsame .liveSolvers (by decide), hsame .maxLiveSolvers (by decide)]
    exact h.most

theorem Summary.update {aggregate : Option (Field → ℤ)} {value : Field → ℤ} {field : Field} {x : ℤ}
    (h : Summary process aggregate value t) (hreading : Reading process (Function.update value field x) t)
    (hfield : field ∉ .updateCalls :: .lastActiveParticles :: .maxActiveParticles :: aggregateFields) :
    Summary process aggregate (Function.update value field x) t := by
  simp only [List.mem_cons, not_or] at hfield
  obtain ⟨hupdates, hlast, hmost, hpublished⟩ := hfield
  refine ⟨hreading, ?_, fun found hfound => ?_⟩
  · unfold Ordered
    rw [Function.update_of_ne (Ne.symm hupdates), Function.update_of_ne (Ne.symm hlast),
      Function.update_of_ne (Ne.symm hmost)]
    exact h.ordered
  · obtain ⟨⟨slots, hslots, hconsistent⟩, hvalues⟩ := h.sums found hfound
    refine ⟨⟨slots, hslots, hconsistent.update hpublished x⟩, fun other hother => ?_⟩
    rw [Function.update_of_ne (by rintro rfl; exact hpublished hother)]
    exact hvalues other hother

/-- What the values of a reading are. -/
structure Sensible (process : GameProcessIdentity) (observed : Observed) (s : Process) : Prop
    extends Reading process observed.value s where
  ordered : Ordered observed.value
  finite : Timed observed.value
  sums : (observed.capacityValid = false ∧ observed.countsValid = false) ∨
    ∃ slots ∈ s.moments, Consistent slots observed.value ∧
      observed.capacityValid = decide (observed.value .aggregateCapacityValid ≠ 0) ∧
      observed.countsValid = decide (observed.value .aggregateCountsValid ≠ 0)

theorem sound_lookLast {value : Field → ℤ} (hs : Reading process value s) :
    ReaderSound process (lookAll [.lastActiveParticles] value) (Reading process) s :=
  ReaderSound.bind (sound_atomic Reading.stable hs (fun _ => ReaderSound.stable) fun t ht hcalm =>
    ⟨ReaderGuarantee.refl process t, sound_ret Reading.stable (ht.lookLast hcalm)⟩)

theorem sound_lookRest {aggregate : Option (Field → ℤ)} {fields : List Field}
    (hfields : ∀ field ∈ fields, field ∉ boundFields ∧ field ∉ aggregateFields) {value : Field → ℤ}
    (hs : Summary process aggregate value s) :
    ReaderSound process (lookAll fields value) (Summary process aggregate) s := by
  refine sound_lookAll (A := fun _ => Summary process aggregate) (fun _ _ => Summary.stable)
    (fun _ _ _ field hfield h _ => h.update (h.toReading.look (hfields field hfield).1) ?_) [] hs
  have hbound := (hfields field hfield).1
  simp only [boundFields, List.mem_cons, not_or] at hbound
  simp only [List.mem_cons, not_or]
  exact ⟨hbound.1, hbound.2.2.2.2.2.2.1, hbound.2.2.2.2.2.2.2.2.1, (hfields field hfield).2⟩

/-- A summary whose time step is one. -/
abbrev Complete (process : GameProcessIdentity) (aggregate : Option (Field → ℤ)) (value : Field → ℤ)
    (s : Process) : Prop := Summary process aggregate value s ∧ Timed value

theorem Complete.stable {aggregate : Option (Field → ℤ)} {value : Field → ℤ} :
    Stable (Rely process none) (Complete process aggregate value) :=
  fun s t h hs => ⟨Summary.stable s t h hs.1, hs.2⟩

/-- The diagnostics and the time step, the one before the other. -/
theorem sound_lookTime {aggregate : Option (Field → ℤ)} {value : Field → ℤ} (hs : Summary process aggregate value s) :
    ReaderSound process (lookAll [.diagnosticsEnabled, .lastDeltaTimeBits] value) (Complete process aggregate) s := by
  refine ReaderSound.bind (sound_atomic Summary.stable hs (fun _ => ReaderSound.stable) fun t ht hcalm => ?_)
  have hon := ht.update (ht.lookDiagnostics hcalm) (by decide)
  refine ⟨ReaderGuarantee.refl process t, ReaderSound.bind (sound_atomic Summary.stable hon
    (fun _ => ReaderSound.stable) fun u hu _ => ⟨ReaderGuarantee.refl process u, ?_⟩)⟩
  obtain ⟨hreading, htimed⟩ := hu.lookDelta
  exact sound_ret Complete.stable ⟨hu.update hreading (by decide), htimed⟩

/-- The last field of all. -/
theorem sound_lookValid {aggregate : Option (Field → ℤ)} {value : Field → ℤ}
    (hs : Complete process aggregate value s) :
    ReaderSound process (lookAll [.activeParticlesValid] value) (Complete process aggregate) s := by
  refine ReaderSound.bind (sound_atomic Complete.stable hs (fun _ => ReaderSound.stable) fun t ht _ =>
    ⟨ReaderGuarantee.refl process t, sound_ret Complete.stable
      ⟨ht.1.update (ht.1.toReading.look (by decide)) (by decide), ?_⟩⟩)
  unfold Timed
  rw [update_of_bound _ (by decide) (by decide), update_of_bound _ (by decide) (by decide),
    update_of_bound _ (by decide) (by decide)]
  exact ht.2

theorem Sensible.stable {observed : Observed} : Stable (Rely process none) (Sensible process observed) := by
  intro s t h hs
  refine ⟨Reading.stable s t h hs.toReading, hs.ordered, hs.finite, hs.sums.imp_right ?_⟩
  rintro ⟨slots, hslots, hsums⟩
  exact ⟨slots, h.moments hslots, hsums⟩

/-- **The values of a reading** fit together. -/
theorem sound_observeFields (hs : Ready process s) :
    ReaderSound process observeFields (Sensible process) s := by
  refine ReaderSound.bind ((sound_lookUpdates hs).mono fun counters t ht => ?_)
  refine ReaderSound.bind ((sound_lookFree (by decide) ht).mono fun value t ht => ?_)
  refine ReaderSound.bind ((sound_lookRange (by decide) ht).mono fun value t ht => ?_)
  refine ReaderSound.bind ((sound_lookFree (by decide) ht.1).mono fun value t ht => ?_)
  refine ReaderSound.bind ((sound_lookRange (by decide) ht).mono fun value t ht => ?_)
  refine ReaderSound.bind ((sound_lookLast ht.1).mono fun value t ht => ?_)
  refine ReaderSound.bind ((sound_lookRange (by decide) ht).mono fun value t ht => ?_)
  refine ReaderSound.bind ((sound_lookAggregate 4 ht.1 (ht.2 rfl)).mono fun aggregate t ht => ?_)
  refine ReaderSound.bind ((sound_lookRest (by decide) ht).mono fun value t ht => ?_)
  refine ReaderSound.bind ((sound_lookTime ht).mono fun value t ht => ?_)
  refine ReaderSound.bind ((sound_lookValid ht).mono fun value t ht => ?_)
  refine sound_ret Sensible.stable ⟨ht.1.toReading, ht.1.ordered, ht.2, ?_⟩
  cases aggregate with
  | none => exact .inl ⟨rfl, rfl⟩
  | some found =>
    obtain ⟨⟨slots, hslots, hconsistent⟩, hvalues⟩ := ht.1.sums found rfl
    refine .inr ⟨slots, hslots, hconsistent, ?_, ?_⟩
    · simp only
      rw [hvalues .aggregateCapacityValid (by decide)]
    · simp only
      rw [hvalues .aggregateCountsValid (by decide)]

/-- What the sums of one moment say. -/
theorem Consistent.sums {value : Field → ℤ} (h : Consistent slots value) :
    (value .aggregateCapacityValid ≠ 0 → value .liveSolvers = (liveSlots slots).length ∧
      value .liveSolvers ≠ 0 ∧ value .aggregateParticleCapacity = totalCapacity slots) ∧
    (value .aggregateCountsValid ≠ 0 → value .aggregateActiveParticles = totalActive slots ∧
      value .aggregateFreeParticles = totalCapacity slots - totalActive slots) := by
  obtain ⟨hlive, -, hcapacity, hcounts⟩ := sumsOf_sound slots
  have hpublished : ∀ field ∈ aggregateFields, field ≠ .maxLiveSolvers → field ≠ .aggregateCountsValid →
      value field = (sumsOf slots).published field :=
    fun field hfield hmost hne => (h.published field hfield hmost).resolve_right fun hinvalid => hne hinvalid.1
  constructor
  · intro hvalid
    rw [hpublished .aggregateCapacityValid (by decide) (by decide) (by decide)] at hvalid
    have hcap : (sumsOf slots).capacityValid = true := by
      by_contra hinvalid
      exact hvalid (if_neg hinvalid)
    obtain ⟨hsome, htotal⟩ := hcapacity hcap
    rw [hpublished .liveSolvers (by decide) (by decide) (by decide),
      hpublished .aggregateParticleCapacity (by decide) (by decide) (by decide)]
    simp only [Sums.published, if_pos hcap]
    exact ⟨hlive, hsome, htotal⟩
  · intro hvalid
    have hcount : (sumsOf slots).countsValid = true := by
      obtain hsame | ⟨-, hzero⟩ := h.published .aggregateCountsValid (by decide) (by decide)
      · by_contra hinvalid
        exact hvalid (hsame.trans (if_neg hinvalid))
      · exact absurd hzero hvalid
    obtain ⟨hcap, htotal, -⟩ := hcounts hcount
    rw [hpublished .aggregateActiveParticles (by decide) (by decide) (by decide),
      hpublished .aggregateFreeParticles (by decide) (by decide) (by decide)]
    simp only [Sums.published, if_pos hcount]
    rw [htotal, (hcapacity hcap).2]
    exact ⟨rfl, rfl⟩

/-- **Such values are not refused.** -/
theorem Sensible.not_refused {observed : Observed} (h : Sensible process observed s)
    (hupdates : 0 < observed.value .updateCalls) :
    ¬Refused observed.value observed.capacityValid observed.countsValid := by
  have hbounds : ∀ field ∉ headerFields, Bounds process (observed.value field) field := h.bounds
  have hne : observed.value .updateCalls ≠ 0 := by omega
  have hsubsteps := h.ranges hne _ (show (Field.minSubsteps, .maxSubsteps) ∈ ranges by decide)
  have hforwarded := h.ranges hne _ (show (Field.minForwardedSubsteps, .maxForwardedSubsteps) ∈ ranges by decide)
  have hactive := h.ranges hne _ (show (Field.minActiveParticles, .maxActiveParticles) ∈ ranges by decide)
  have hordered := h.ordered hne
  have hmost := h.most
  have hreturned := h.updates
  have hsums : (observed.capacityValid = true → observed.value .liveSolvers ≠ 0) ∧
      (observed.capacityValid = true → observed.countsValid = true → observed.value .aggregateActiveParticles +
        observed.value .aggregateFreeParticles = observed.value .aggregateParticleCapacity) := by
    obtain ⟨hcapacity, -⟩ | ⟨slots, -, hconsistent, hcapacity, hcounts⟩ := h.sums
    · simp [hcapacity]
    · rw [hcapacity, hcounts]
      simp only [decide_eq_true_eq]
      refine ⟨fun hvalid => (hconsistent.sums.1 hvalid).2.1, fun hvalid hvalid' => ?_⟩
      rw [(hconsistent.sums.2 hvalid').1, (hconsistent.sums.2 hvalid').2, (hconsistent.sums.1 hvalid).2.2]
      omega
  have hlast := hbounds .lastSubsteps (by decide)
  have hmin := hbounds .minSubsteps (by decide)
  have hmax := hbounds .maxSubsteps (by decide)
  have hlastForwarded := hbounds .lastForwardedSubsteps (by decide)
  have hminForwarded := hbounds .minForwardedSubsteps (by decide)
  have hmaxForwarded := hbounds .maxForwardedSubsteps (by decide)
  have hlastActive := hbounds .lastActiveParticles (by decide)
  have hminActive := hbounds .minActiveParticles (by decide)
  have hlive := hbounds .liveSolvers (by decide)
  have hmaxLive := hbounds .maxLiveSolvers (by decide)
  have hcapacity := hbounds .aggregateParticleCapacity (by decide)
  have hupload := hbounds .lastUploadElements (by decide)
  have hdownload := hbounds .lastDownloadElements (by decide)
  have haggregate := hbounds .aggregateActiveParticles (by decide)
  have hfree := hbounds .aggregateFreeParticles (by decide)
  simp only [Bounds] at hlast hmin hmax hlastForwarded hminForwarded hmaxForwarded hlastActive hminActive
  simp only [Bounds] at hlive hmaxLive hcapacity hupload hdownload haggregate hfree
  simp only [Refused, not_or, not_and, not_lt]
  refine ⟨hreturned, hlast.1, hlast.2, hmin.1, hmin.2.resolve_right hsubsteps.2, hsubsteps.1, hmax.2,
    hlastForwarded.1, hlastForwarded.2, hminForwarded.1, hminForwarded.2.resolve_right hforwarded.2, hforwarded.1,
    hmaxForwarded.2, hlastActive, hminActive.1, hactive.1, hordered, hlive.1, hlive.2, hmost, hmaxLive.2, hcapacity,
    hupload, hdownload, haggregate, hfree, hsums.1, fun hvalid hvalid' => ?_, fun hon => ?_⟩
  · rw [not_not]
    exact hsums.2 hvalid hvalid'
  · rw [h.finite hne hon]
    decide

/-! ## 7. Readings -/

/-- The header is that of the process. -/
theorem sound_headerMatches (hs : Ready process s) :
    ReaderSound process (headerMatches process) (fun valid t => valid = true ∧ Ready process t) s := by
  have hdone : ∀ valid : Bool, Stable (Rely process none) fun t => valid = true ∧ Ready process t :=
    fun valid s t h hs => ⟨hs.1, Ready.stable s t h hs.2⟩
  have hload : ∀ {α : Type} {f : ℤ → Relay α} {Q : α → Process → Prop} (field : Field) {t : Process},
      Ready process t → (∀ u, Ready process u → Bounds process (u.memory field) field →
        ReaderSound process (f (u.memory field)) Q u) → ReaderSound process (load field >>= f) Q t := by
    intro α f Q field t ht hf
    refine ReaderSound.bind (sound_atomic Ready.stable ht (fun _ => ReaderSound.stable) fun u hu _ => ?_)
    exact ⟨ReaderGuarantee.refl process u, hf u hu (hu.invariant.bounds field)⟩
  unfold headerMatches
  refine hload _ hs fun _ hs hhigh => hload _ hs fun _ hs hlow => hload _ hs fun _ hs hmagic => ?_
  refine hload _ hs fun _ hs hversion => hload _ hs fun _ hs hsize => hload _ hs fun _ hs hpid => ?_
  refine sound_ret (hdone _) ⟨?_, hs⟩
  simp only [Bounds] at hhigh hlow hmagic hversion hsize hpid
  simp [hhigh, hlow, hmagic, hversion, hsize, hpid]

theorem Sensible.accepted {observed : Observed} (h : Sensible process observed s) (now : ℤ) :
    Accepted s.moments (some (snapshotOf now observed.value observed.capacityValid observed.countsValid)) := by
  refine ⟨_, rfl, fun hcapacity => ?_⟩
  change observed.capacityValid = true at hcapacity
  obtain ⟨hinvalid, -⟩ | ⟨slots, hslots, hconsistent, hvalid, hvalid'⟩ := h.sums
  · rw [hinvalid] at hcapacity
    cases hcapacity
  · rw [hvalid, decide_eq_true_eq] at hcapacity
    obtain ⟨hlive, -, htotal⟩ := hconsistent.sums.1 hcapacity
    refine ⟨slots, hslots, hlive, htotal, fun hfresh => ?_⟩
    have hcounts : observed.countsValid = true := (Bool.and_eq_true_iff.mp hfresh).1
    rw [hvalid', decide_eq_true_eq] at hcounts
    exact hconsistent.sums.2 hcounts

/-- **The reader refuses nothing.** -/
theorem sound_read (now : ℤ) (hs : Ready process s) :
    ReaderSound process (read process now) (fun reading t => Ready process t ∧ Accepted t.moments reading) s := by
  have hdone : ∀ reading : Option ObservationSnapshot, Stable (Rely process none) fun t =>
      Ready process t ∧ Accepted t.moments reading :=
    fun reading s t h hs => ⟨Ready.stable s t h hs.1, hs.2.mono h.moments⟩
  refine ReaderSound.bind ((sound_headerMatches hs).mono fun valid t ht => ?_)
  obtain ⟨rfl, ht⟩ := ht
  rw [if_pos rfl]
  refine ReaderSound.bind ((sound_observeFields ht).mono fun observed t ht => ?_)
  rw [if_neg (not_and.mpr ht.not_refused)]
  refine ReaderSound.bind (sound_atomic Sensible.stable ht (fun _ => ReaderSound.stable) fun u hu _ => ?_)
  refine ⟨ReaderGuarantee.refl process u, ?_⟩
  have hmagic : u.memory .magic = observationMagic := hu.invariant.bounds .magic
  rw [if_pos hmagic]
  exact sound_ret (hdone _) ⟨hu.toReady, hu.accepted now⟩

theorem sound_readOnce (now : ℤ) (hs : Ready process s) :
    ReaderSound process (readOnce process now) (fun _ => Ready process) s := by
  refine ReaderSound.bind ((sound_read now hs).mono fun reading t ht => ?_)
  have hknown : Stable (Rely process none) fun t => Ready process t ∧ Accepted t.moments reading :=
    fun s t h hs => ⟨Ready.stable s t h hs.1, hs.2.mono h.moments⟩
  refine sound_atomic hknown ht (fun _ => Ready.stable) fun u hu _ => ?_
  have hall : ∀ other ∈ reading :: u.history.readings, Accepted u.moments other := by
    intro other hother
    obtain rfl | hother := List.mem_cons.mp hother
    · exact hu.2
    · exact hu.1.earlier other hother
  have hnoted : ReaderGuarantee process u
      { u with history := { u.history with readings := reading :: u.history.readings } } :=
    guarantee_history (fun _ _ h => h) hu.1.invariant.window fun _ => hall
  exact ⟨hnoted, hnoted.ready hu.1⟩

/-! ## 8. Relay and reader -/

/-- What the threads of KF2 call, and what the reader of the optimizer does. -/
inductive Calls (process : GameProcessIdentity) : Option ℕ → Relay Unit → Prop
  | relayed (thread patience : ℕ) (resolved : Bool) (tick : ℤ) {call : RelayCall} (h : call.Admissible) :
    Calls process (some thread) (call.code thread patience resolved tick)
  | reader (now : ℤ) : Calls process none (readOnce process now)

/-- Nobody has begun. -/
def beginning (process : GameProcessIdentity) : Pool (Option ℕ) Label Process :=
  ⟨initialProcess process, fun _ => pure ()⟩

/-- What a thread knows between its calls. -/
def Known (process : GameProcessIdentity) : Option ℕ → Process → Prop
  | some _ => Invariant process
  | none => Ready process

/-- What a thread keeps for the others. -/
def Kept (process : GameProcessIdentity) : Option ℕ → Process → Process → Prop
  | some thread => Guarantee process (some thread)
  | none => ReaderGuarantee process

theorem Kept.rely {who other : Option ℕ} (hne : who ≠ other) (h : Kept process who s t) : Rely process other s t := by
  cases who with
  | some thread => exact h other (Ne.symm hne)
  | none => exact h.others other (Ne.symm hne)

theorem Kept.ready {who : Option ℕ} (h : Kept process who s t) (hs : Ready process s) : Ready process t := by
  cases who with
  | some thread => exact Ready.stable s t (h none (by simp)) hs
  | none => exact ReaderGuarantee.ready h hs

theorem Calls.sound {who : Option ℕ} {x : Relay Unit} (h : Calls process who x) (hs : Known process who s) :
    Sound Calm (Rely process who) (Kept process who) x (fun _ => Known process who) s := by
  cases h with
  | relayed thread patience resolved tick h => exact sound_relayCall patience resolved tick h hs
  | reader now => exact sound_readOnce now hs

theorem ready_initial (process : GameProcessIdentity) : Ready process (initialProcess process) :=
  ⟨invariant_initial process, fun _ h => by cases h⟩

instance (s : Process) (field : Field) : Decidable (Settled s field) := by
  cases field <;> unfold Settled <;> infer_instance

instance (thread : ℕ) (s : Process) : Decidable (Cleared thread s) :=
  match h : s.history.window with
  | none => isTrue fun _ _ hwindow => by rw [h] at hwindow; cases hwindow
  | some (calls, threads) =>
    decidable_of_iff (thread ∈ threads) ⟨fun hmem _ _ hwindow => by rw [h] at hwindow; cases hwindow; exact hmem,
      fun hcleared => hcleared calls threads h⟩

instance (label : Label) (s : Process) : Decidable (Calm label s) :=
  match label with
  | .plain => isTrue trivial
  | .returning thread => inferInstanceAs (Decidable (Cleared thread s))
  | .reading field => inferInstanceAs (Decidable (s.history.counted = true → Settled s field))
  | .comparing => inferInstanceAs (Decidable (s.publications < s.history.attempt + 2 ^ 32))

/-- A solver is created and steps, and the memory is read. -/
def oneSolver (process : GameProcessIdentity) : List (Option ℕ × Relay Unit) :=
  [(some 0, (RelayCall.createSolver 512 7).code 0 3 true 1000),
    (some 1, (RelayCall.updateSolver 7 0x3C888889 2).code 1 3 true 1016),
    (none, readOnce process 1020)]

theorem calls_oneSolver (process : GameProcessIdentity) : ∀ turn ∈ oneSolver process, Calls process turn.1 turn.2 := by
  have hcreate : RelayCall.Admissible (.createSolver 512 7) := trivial
  have hstep : RelayCall.Admissible (.updateSolver 7 0x3C888889 2) := ⟨by decide, by decide, by decide +kernel⟩
  intro turn hturn
  simp only [oneSolver, List.mem_cons, List.not_mem_nil, or_false] at hturn
  rcases hturn with rfl | rfl | rfl
  · exact Calls.relayed 0 3 true 1000 hcreate
  · exact Calls.relayed 1 3 true 1016 hstep
  · exact .reader 1020

end Kf2Optimizer.Flex.Observation
