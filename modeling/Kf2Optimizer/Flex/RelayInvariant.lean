/-
# What the threads of the relay keep

Every step of a relayed call keeps the fields in their ranges (`Bounds`), and what is published
together is one set of sums whenever the sequence is even (`Consistent`).  An update that has been
counted is under way until it returns, so that there are never more that have returned
(`Invariant.updates`).  `Rely` lists what a step of one thread cannot break for another.
-/
import Kf2Optimizer.Flex.FlexObservation
import Mathlib.Tactic.Ring
import Mathlib.Algebra.BigOperators.Group.List.Basic

namespace Kf2Optimizer.Flex.Observation

open Threads

/-! ## 1. Sums -/

def liveSlots (slots : List SolverSlot) : List SolverSlot := slots.filter fun slot => slot.solver ≠ 0

/-- What the slots of the live solvers can hold. -/
def totalCapacity (slots : List SolverSlot) : ℤ := ((liveSlots slots).map SolverSlot.capacity).sum

def totalActive (slots : List SolverSlot) : ℤ := ((liveSlots slots).map SolverSlot.activeParticles).sum

/-- What has been summed up over some slots. -/
structure Summed (slots : List SolverSlot) (sums : Sums) : Prop where
  live : sums.live = (liveSlots slots).length
  capacity : sums.capacityValid = true → sums.capacity = totalCapacity slots
  active : sums.countsValid = true → sums.active = totalActive slots
  nonneg : 0 ≤ sums.capacity ∧ 0 ≤ sums.active
  le : sums.capacityValid = true → sums.countsValid = true → sums.active ≤ sums.capacity

theorem summed_nil : Summed [] {} := by
  constructor <;> simp [liveSlots, totalCapacity, totalActive]

theorem Summed.add {slots : List SolverSlot} {sums : Sums} (h : Summed slots sums) (slot : SolverSlot) :
    Summed (slots ++ [slot]) (sums.add slot) := by
  obtain ⟨hlive, hcapacity, hactive, ⟨hnonneg, hnonneg'⟩, hle⟩ := h
  unfold Sums.add
  by_cases hslot : slot.solver = 0
  · have hsame : liveSlots (slots ++ [slot]) = liveSlots slots := by simp [liveSlots, hslot]
    rw [if_pos hslot]
    exact ⟨by rw [hsame, hlive], fun h => by rw [totalCapacity, hsame, hcapacity h, totalCapacity],
      fun h => by rw [totalActive, hsame, hactive h, totalActive], ⟨hnonneg, hnonneg'⟩, hle⟩
  · have hmore : liveSlots (slots ++ [slot]) = liveSlots slots ++ [slot] := by simp [liveSlots, hslot]
    have hcapacity' : totalCapacity (slots ++ [slot]) = totalCapacity slots + slot.capacity := by
      simp [totalCapacity, hmore]
    have hactive' : totalActive (slots ++ [slot]) = totalActive slots + slot.activeParticles := by
      simp [totalActive, hmore]
    rw [if_neg hslot]
    unfold Sums.addActive Sums.addCapacity
    by_cases hcap : slot.capacity ≤ 0 ∨ longMax - slot.capacity < sums.capacity
    · simp only [if_pos hcap]
      split
      · exact ⟨by simp [hmore, hlive], by simp, by simp, ⟨hnonneg, hnonneg'⟩, by simp⟩
      · rename_i hact
        push Not at hact
        refine ⟨by simp [hmore, hlive], by simp, fun h => ?_, ⟨hnonneg, ?_⟩, by simp⟩
        · rw [hactive', ← hactive h]
        · exact Int.add_nonneg hnonneg' hact.2.1
    · simp only [if_neg hcap]
      push Not at hcap
      split
      · refine ⟨by simp [hmore, hlive], fun h => ?_, by simp, ⟨?_, hnonneg'⟩, by simp⟩
        · rw [hcapacity', ← hcapacity h]
        · exact Int.add_nonneg hnonneg hcap.1.le
      · rename_i hact
        push Not at hact
        refine ⟨by simp [hmore, hlive], fun h => ?_, fun h => ?_, ⟨?_, ?_⟩, fun h h' => ?_⟩
        · rw [hcapacity', ← hcapacity h]
        · rw [hactive', ← hactive h]
        · exact Int.add_nonneg hnonneg hcap.1.le
        · exact Int.add_nonneg hnonneg' hact.2.1
        · exact Int.add_le_add (hle h h') hact.2.2.1

theorem summed_foldl (slots : List SolverSlot) : Summed slots (slots.foldl Sums.add {}) := by
  have h : ∀ rest before sums, Summed before sums → Summed (before ++ rest) (rest.foldl Sums.add sums) := by
    intro rest
    induction rest with
    | nil => exact fun before sums h => by simpa using h
    | cons slot rest ih =>
      intro before sums h
      have := ih (before ++ [slot]) (sums.add slot) (h.add slot)
      simpa using this
  simpa using h slots [] {} summed_nil

/-- What the sums of the slots are. -/
structure SumsSound (slots : List SolverSlot) (sums : Sums) : Prop where
  live : sums.live = (liveSlots slots).length
  nonneg : 0 ≤ sums.capacity ∧ 0 ≤ sums.active
  capacity : sums.capacityValid = true → sums.live ≠ 0 ∧ sums.capacity = totalCapacity slots
  counts : sums.countsValid = true → sums.capacityValid = true ∧ sums.active = totalActive slots ∧
    sums.active ≤ sums.capacity

theorem sumsOf_sound (slots : List SolverSlot) : SumsSound slots (sumsOf slots) := by
  obtain ⟨hlive, hcapacity, hactive, hnonneg, hle⟩ := summed_foldl slots
  unfold sumsOf
  generalize slots.foldl Sums.add {} = sums at *
  simp only
  split
  · exact ⟨hlive, hnonneg, by simp, by simp⟩
  · rename_i hsome
    refine ⟨hlive, hnonneg, fun h => ⟨hsome, hcapacity h⟩, fun h => ?_⟩
    obtain ⟨hcounts, hcap⟩ := Bool.and_eq_true_iff.mp h
    exact ⟨hcap, hactive hcounts, hle hcap hcounts⟩

theorem length_liveSlots_le (slots : List SolverSlot) : (liveSlots slots).length ≤ slots.length :=
  List.length_filter_le _ _

/-! ## 2. The invariant -/

def minima : List Field := [.minSubsteps, .minForwardedSubsteps, .minActiveParticles]

def maxima : List Field := [.maxSubsteps, .maxForwardedSubsteps, .maxActiveParticles]

/-- What a field can hold. -/
def Bounds (process : GameProcessIdentity) (value : ℤ) : Field → Prop
  | .magic => value = observationMagic
  | .version => value = observationVersion
  | .size => value = observationSize
  | .pid => value = process.pid
  | .processStartLow => value = process.processStartLow
  | .processStartHigh => value = process.processStartHigh
  | .lastSubsteps => 0 ≤ value ∧ value ≤ 64
  | .minSubsteps => 0 ≤ value ∧ (value ≤ 64 ∨ value = longMax)
  | .maxSubsteps => 0 ≤ value ∧ value ≤ 64
  | .lastForwardedSubsteps => 0 ≤ value ∧ value ≤ 5
  | .minForwardedSubsteps => 0 ≤ value ∧ (value ≤ 5 ∨ value = longMax)
  | .maxForwardedSubsteps => 0 ≤ value ∧ value ≤ 5
  | .lastDeltaTimeBits => value = 0 ∨ validDeltaTime (floatOfLong value) = true
  | .updateCalls => 0 ≤ value ∧ value ≤ longLongMax
  | .successfulUpdates => 0 ≤ value ∧ value ≤ longLongMax
  | .lastActiveParticles => 0 ≤ value
  | .minActiveParticles => 0 ≤ value ∧ value ≤ longMax
  | .maxActiveParticles => 0 ≤ value
  | .lastUploadElements => 0 ≤ value
  | .lastDownloadElements => 0 ≤ value
  | .liveSolvers => 0 ≤ value ∧ value ≤ 64
  | .maxLiveSolvers => 0 ≤ value ∧ value ≤ 64
  | .aggregateParticleCapacity => 0 ≤ value
  | .aggregateActiveParticles => 0 ≤ value
  | .aggregateFreeParticles => 0 ≤ value
  | _ => True

/-- The sums of some slots, except that their counts may have been called invalid. -/
structure Consistent (slots : List SolverSlot) (value : Field → ℤ) : Prop where
  published : ∀ field ∈ aggregateFields, field ≠ .maxLiveSolvers →
    value field = (sumsOf slots).published field ∨ (field = .aggregateCountsValid ∧ value field = 0)
  most : value .liveSolvers ≤ value .maxLiveSolvers

/-- No more of the updates of these threads have returned than `calls`. -/
def Returned (s : Process) (calls : ℤ) (threads : Finset ℕ) : Prop :=
  calls < longLongMax → s.memory .successfulUpdates + threads.card ≤ calls

structure Invariant (process : GameProcessIdentity) (s : Process) : Prop where
  bounds : ∀ field, Bounds process (s.memory field) field
  length : s.slots.length = 64
  moment : s.slots ∈ s.moments
  sequence : s.memory .aggregateSnapshotSequence = wrap32 s.publications
  consistent : s.publications % 2 = 0 → ∃ slots ∈ s.moments, Consistent slots s.memory
  free : s.holder = none → s.publications % 2 = 0
  updates : Returned s (s.memory .updateCalls) s.underway
  window : ∀ calls threads, s.history.window = some (calls, threads) →
    threads ⊆ s.underway ∧ Returned s calls threads

theorem invariant_initial (process : GameProcessIdentity) : Invariant process (initialProcess process) where
  bounds field := by cases field <;> simp [initialProcess, initialMemory, Bounds, longMax, longLongMax]
  length := by simp [initialProcess]
  moment := by simp [initialProcess]
  sequence := by simp [initialProcess, initialMemory, wrap32]
  consistent _ := by
    have hzero : ∀ field ∈ aggregateFields, initialMemory process field = 0 := by
      simp [aggregateFields, initialMemory]
    have hsums : ∀ field ∈ aggregateFields, (sumsOf (List.replicate 64 {})).published field = 0 := by decide
    refine ⟨_, List.mem_singleton_self _, ⟨fun field hfield _ => .inl ?_, le_refl _⟩⟩
    rw [hsums field hfield]
    exact hzero field hfield
  free _ := rfl
  updates _ := by simp [initialProcess, initialMemory]
  window _ _ h := by cases h

/-! ## 3. What threads rely on -/

/-- The thread may count its update as returned, if a reader is at the counters. -/
def Cleared (thread : ℕ) (s : Process) : Prop :=
  ∀ calls threads, s.history.window = some (calls, threads) → thread ∈ threads

/-- How another thread can change what a thread of the relay, or the reader, looks at. -/
structure Frame (who : Option ℕ) (s t : Process) : Prop where
  moments : s.moments ⊆ t.moments
  publications : s.publications ≤ t.publications
  quiet : t.publications = s.publications → s.publications % 2 = 0 → ∀ field ∈ aggregateFields,
    t.memory field = s.memory field ∨ (field = .aggregateCountsValid ∧ t.memory field = 0)
  falls : ∀ field ∈ minima, t.memory field ≤ s.memory field
  rises : ∀ field ∈ maxima, s.memory field ≤ t.memory field
  counts : s.memory .updateCalls ≤ t.memory .updateCalls
  timed : validDeltaTime (floatOfLong (s.memory .lastDeltaTimeBits)) = true →
    validDeltaTime (floatOfLong (t.memory .lastDeltaTimeBits)) = true
  locked : ∀ thread, who = some thread → s.holder = some thread → t.holder = some thread ∧
    t.slots = s.slots ∧ t.publications = s.publications ∧
    ∀ field ∈ aggregateFields, t.memory field = s.memory field
  underway : ∀ thread, who = some thread → thread ∈ s.underway → thread ∈ t.underway
  cleared : ∀ thread, who = some thread → thread ∈ s.underway → Cleared thread s → Cleared thread t
  counted : who = none → t.history.counted = s.history.counted
  attempt : who = none → t.history.attempt = s.history.attempt
  readings : who = none → t.history.readings = s.history.readings
  window : who = none → ∀ calls threads, s.history.window = some (calls, threads) →
    ∃ threads', t.history.window = some (calls, threads')

/-- What another thread cannot break. -/
structure Rely (process : GameProcessIdentity) (who : Option ℕ) (s t : Process) : Prop
    extends Frame who s t where
  invariant : Invariant process s → Invariant process t

/-- What a thread keeps for all others. -/
def Guarantee (process : GameProcessIdentity) (who : Option ℕ) (s t : Process) : Prop :=
  ∀ other, other ≠ who → Rely process other s t

variable {process : GameProcessIdentity} {who : Option ℕ} {thread : ℕ} {s t u : Process}

theorem Frame.refl (who : Option ℕ) (s : Process) : Frame who s s where
  moments := fun _ h => h
  publications := le_refl _
  quiet _ _ _ _ := .inl rfl
  falls _ _ := le_refl _
  rises _ _ := le_refl _
  counts := le_refl _
  timed := id
  locked _ _ h := ⟨h, rfl, rfl, fun _ _ => rfl⟩
  underway _ _ h := h
  cleared _ _ _ h := h
  counted _ := rfl
  attempt _ := rfl
  readings _ := rfl
  window _ _ threads h := ⟨threads, h⟩

theorem Frame.trans (h : Frame who s t) (h' : Frame who t u) : Frame who s u where
  moments := fun _ hm => h'.moments (h.moments hm)
  publications := h.publications.trans h'.publications
  quiet hsame heven field hfield := by
    have hle := h.publications
    have hle' := h'.publications
    have hfirst := h.quiet (by omega) heven field hfield
    obtain hsecond | hcounts := h'.quiet (by omega) (by omega) field hfield
    · rw [hsecond]
      exact hfirst
    · exact .inr hcounts
  falls field hfield := (h'.falls field hfield).trans (h.falls field hfield)
  rises field hfield := (h.rises field hfield).trans (h'.rises field hfield)
  counts := h.counts.trans h'.counts
  timed hs := h'.timed (h.timed hs)
  locked thread hwho hs := by
    obtain ⟨hholder, hslots, hpublications, hfields⟩ := h.locked thread hwho hs
    obtain ⟨hholder', hslots', hpublications', hfields'⟩ := h'.locked thread hwho hholder
    exact ⟨hholder', hslots'.trans hslots, hpublications'.trans hpublications,
      fun field hfield => (hfields' field hfield).trans (hfields field hfield)⟩
  underway thread hwho hs := h'.underway thread hwho (h.underway thread hwho hs)
  cleared thread hwho hs hcleared :=
    h'.cleared thread hwho (h.underway thread hwho hs) (h.cleared thread hwho hs hcleared)
  counted hwho := (h'.counted hwho).trans (h.counted hwho)
  attempt hwho := (h'.attempt hwho).trans (h.attempt hwho)
  readings hwho := (h'.readings hwho).trans (h.readings hwho)
  window hwho calls threads hs := by
    obtain ⟨threads', ht⟩ := h.window hwho calls threads hs
    exact h'.window hwho calls threads' ht

theorem Rely.refl (process : GameProcessIdentity) (who : Option ℕ) (s : Process) : Rely process who s s :=
  ⟨.refl who s, id⟩

theorem Rely.trans (h : Rely process who s t) (h' : Rely process who t u) : Rely process who s u :=
  ⟨h.toFrame.trans h'.toFrame, fun hs => h'.invariant (h.invariant hs)⟩

/-! ## 4. Steps -/

theorem memory_set_same (s : Process) (field : Field) (value : ℤ) : (s.set field value).memory field = value :=
  Function.update_self ..

theorem memory_set_other (s : Process) {field other : Field} (value : ℤ) (h : other ≠ field) :
    (s.set field value).memory other = s.memory other :=
  Function.update_of_ne h ..

section

variable {field : Field} {value : ℤ}

theorem bounds_set (h : Invariant process s) (hbounds : Bounds process value field) (other : Field) :
    Bounds process ((s.set field value).memory other) other := by
  by_cases heq : other = field
  · rw [heq, memory_set_same]
    exact hbounds
  · rw [memory_set_other s value heq]
    exact h.bounds other

/-- One field is set that is not a counter of updates. -/
theorem Invariant.set (h : Invariant process s) (hbounds : Bounds process value field)
    (hsequence : field ≠ .aggregateSnapshotSequence)
    (hpublished : field ∈ aggregateFields → s.publications % 2 = 0 → field = .aggregateCountsValid ∧ value = 0)
    (hupdates : field ≠ .updateCalls) (hsuccessful : field ≠ .successfulUpdates) :
    Invariant process (s.set field value) where
  bounds := bounds_set h hbounds
  length := h.length
  moment := h.moment
  sequence := by rw [memory_set_other s value hsequence.symm]; exact h.sequence
  consistent heven := by
    obtain ⟨slots, hslots, hconsistent⟩ := h.consistent heven
    refine ⟨slots, hslots, ⟨fun other hother hmost => ?_, ?_⟩⟩
    · by_cases heq : other = field
      · obtain ⟨rfl, rfl⟩ := hpublished (heq ▸ hother) heven
        rw [heq, memory_set_same]
        exact .inr ⟨rfl, rfl⟩
      · rw [memory_set_other s value heq]
        exact hconsistent.published other hother hmost
    · have hother : ∀ other ∈ aggregateFields, other ≠ .aggregateCountsValid → other ≠ field := by
        rintro other hother hcounts rfl
        exact hcounts (hpublished hother heven).1
      rw [memory_set_other s value (hother _ (by decide) (by decide)),
        memory_set_other s value (hother _ (by decide) (by decide))]
      exact hconsistent.most
  free := h.free
  updates := by
    unfold Returned
    rw [memory_set_other s value hupdates.symm, memory_set_other s value hsuccessful.symm]
    exact h.updates
  window calls threads hwindow := by
    unfold Returned
    rw [memory_set_other s value hsuccessful.symm]
    exact h.window calls threads hwindow

/-- **A field of its own is set**, one that is not published with others. -/
theorem frame_set (hpublished : field ∉ aggregateFields) (hfalls : field ∈ minima → value ≤ s.memory field)
    (hrises : field ∈ maxima → s.memory field ≤ value)
    (hcounts : field = .updateCalls → s.memory field ≤ value)
    (htimed : field = .lastDeltaTimeBits → validDeltaTime (floatOfLong value) = true) (who : Option ℕ) :
    Frame who s (s.set field value) := by
  have hother : ∀ other ∈ aggregateFields, (s.set field value).memory other = s.memory other := by
    intro other hother
    refine memory_set_other s value fun heq => ?_
    exact hpublished (heq ▸ hother)
  have hcases : ∀ other, other = field ∨ (s.set field value).memory other = s.memory other := fun other =>
    or_iff_not_imp_left.mpr (memory_set_other s value)
  refine ⟨fun _ h => h, le_refl _, fun _ _ other h => .inl (hother other h), fun other h => ?_,
    fun other h => ?_, ?_, fun h => ?_, fun _ _ h => ⟨h, rfl, rfl, hother⟩, fun _ _ h => h, fun _ _ _ h => h,
    fun _ => rfl, fun _ => rfl, fun _ => rfl, fun _ _ threads h => ⟨threads, h⟩⟩
  · obtain rfl | hsame := hcases other
    · rw [memory_set_same]
      exact hfalls h
    · exact hsame.le
  · obtain rfl | hsame := hcases other
    · rw [memory_set_same]
      exact hrises h
    · exact hsame.ge
  · obtain heq | hsame := hcases .updateCalls
    · subst heq
      rw [memory_set_same]
      exact hcounts rfl
    · exact hsame.ge
  · obtain heq | hsame := hcases .lastDeltaTimeBits
    · subst heq
      rw [memory_set_same]
      exact htimed rfl
    · rw [hsame]
      exact h

/-- A field that nothing else depends on. -/
def Plain (field : Field) : Prop :=
  field ∉ aggregateFields ∧ field ∉ minima ∧ field ∉ maxima ∧
    field ∉ [Field.aggregateSnapshotSequence, .updateCalls, .successfulUpdates, .lastDeltaTimeBits]

instance (field : Field) : Decidable (Plain field) := inferInstanceAs (Decidable (_ ∧ _))

theorem rely_plain (hplain : Plain field) (hbounds : Bounds process value field) (who : Option ℕ) :
    Rely process who s (s.set field value) := by
  obtain ⟨hpublished, hminima, hmaxima, hspecial⟩ := hplain
  simp only [List.mem_cons, List.not_mem_nil, or_false, not_or] at hspecial
  obtain ⟨hsequence, hupdates, hsuccessful, htime⟩ := hspecial
  have hframe : Frame who s (s.set field value) := frame_set hpublished (fun h => absurd h hminima) (fun h => absurd h hmaxima)
    (fun h => absurd h hupdates) (fun h => absurd h htime) who
  exact ⟨hframe, fun h => h.set hbounds hsequence (fun hmem => absurd hmem hpublished) hupdates hsuccessful⟩

/-- What is consistent does not depend on the counters. -/
theorem Consistent.set {slots : List SolverSlot} (h : Consistent slots s.memory)
    (hpublished : field ∉ aggregateFields) : Consistent slots (s.set field value).memory := by
  have hother : ∀ other ∈ aggregateFields, (s.set field value).memory other = s.memory other := by
    intro other hother
    refine memory_set_other s value fun heq => ?_
    exact hpublished (heq ▸ hother)
  refine ⟨fun other hmem hmost => ?_, ?_⟩
  · rw [hother other hmem]
    exact h.published other hmem hmost
  · rw [hother _ (by decide), hother _ (by decide)]
    exact h.most

end

@[simp] theorem memory_noteUpdate : (noteUpdate thread s).memory = s.memory := rfl

@[simp] theorem memory_noteReturn : (noteReturn thread s).memory = s.memory := rfl

/-- **An update is counted.** -/
theorem Invariant.count (h : Invariant process s) (hupdates : s.memory .updateCalls ≠ longLongMax) :
    Invariant process (noteUpdate thread (s.set .updateCalls (s.memory .updateCalls + 1))) := by
  have hbounds := h.bounds .updateCalls
  simp only [Bounds] at hbounds
  have hcard : (insert thread s.underway).card ≤ s.underway.card + 1 := Finset.card_insert_le _ _
  refine ⟨bounds_set h ⟨by omega, by omega⟩, h.length, h.moment, ?_, fun heven => ?_, h.free, fun hlt => ?_,
    fun calls threads hwindow => ?_⟩
  · rw [memory_noteUpdate, memory_set_other s _ (by decide)]
    exact h.sequence
  · obtain ⟨slots, hslots, hconsistent⟩ := h.consistent heven
    exact ⟨slots, hslots, hconsistent.set (by decide)⟩
  · rw [memory_noteUpdate, memory_set_same] at hlt ⊢
    rw [memory_set_other s _ (by decide)]
    have hold := h.updates (by omega)
    have hnoted : (noteUpdate thread (s.set .updateCalls (s.memory .updateCalls + 1))).underway =
        insert thread s.underway := rfl
    rw [hnoted]
    omega
  · obtain ⟨hsubset, hreturned⟩ := h.window calls threads hwindow
    refine ⟨hsubset.trans (Finset.subset_insert _ _), fun hlt => ?_⟩
    rw [memory_noteUpdate, memory_set_other s _ (by decide)]
    exact hreturned hlt

/-- **An update has returned.** -/
theorem Invariant.return (h : Invariant process s) (hsuccessful : s.memory .successfulUpdates ≠ longLongMax)
    (hthread : thread ∈ s.underway) (hcleared : Cleared thread s) :
    Invariant process (noteReturn thread (s.set .successfulUpdates (s.memory .successfulUpdates + 1))) := by
  have hbounds := h.bounds .successfulUpdates
  simp only [Bounds] at hbounds
  refine ⟨bounds_set h ⟨by omega, by omega⟩, h.length, h.moment, ?_, fun heven => ?_, h.free, fun hlt => ?_,
    fun calls threads hwindow => ?_⟩
  · rw [memory_noteReturn, memory_set_other s _ (by decide)]
    exact h.sequence
  · obtain ⟨slots, hslots, hconsistent⟩ := h.consistent heven
    exact ⟨slots, hslots, hconsistent.set (by decide)⟩
  · have hother : Field.updateCalls ≠ .successfulUpdates := by decide
    rw [memory_noteReturn, memory_set_other s _ hother] at hlt ⊢
    rw [memory_set_same]
    have hnoted : (noteReturn thread (s.set .successfulUpdates (s.memory .successfulUpdates + 1))).underway =
        s.underway.erase thread := rfl
    have hcard := Finset.card_erase_add_one hthread
    have hold := h.updates hlt
    rw [hnoted]
    omega
  · have hnoted : (noteReturn thread (s.set .successfulUpdates (s.memory .successfulUpdates + 1))).history.window =
        s.history.window.map fun window => (window.1, window.2.erase thread) := rfl
    rw [hnoted] at hwindow
    obtain ⟨⟨calls, threads⟩, hbefore, heq⟩ := Option.map_eq_some_iff.mp hwindow
    cases heq
    obtain ⟨hsubset, hreturned⟩ := h.window calls threads hbefore
    refine ⟨Finset.erase_subset_erase thread hsubset, fun hlt => ?_⟩
    rw [memory_noteReturn, memory_set_same]
    have hcard := Finset.card_erase_add_one (hcleared calls threads hbefore)
    have hold := hreturned hlt
    simp only
    omega

theorem guarantee_count (hupdates : s.memory .updateCalls ≠ longLongMax) :
    Guarantee process (some thread) s
      (noteUpdate thread (s.set .updateCalls (s.memory .updateCalls + 1))) := by
  intro who _
  obtain ⟨hmoments, hpublications, hquiet, hfalls, hrises, hcounts, htimed, hlocked, -, -, hcounted, hattempt,
    hreadings, hwindow⟩ : Frame who s (s.set .updateCalls (s.memory .updateCalls + 1)) :=
    frame_set (by decide) (fun h => absurd h (by decide)) (fun h => absurd h (by decide))
      (fun _ => by omega) (fun h => by cases h) who
  exact ⟨⟨hmoments, hpublications, hquiet, hfalls, hrises, hcounts, htimed, hlocked,
    fun _ _ h => Finset.mem_insert_of_mem h, fun _ _ _ h => h, hcounted, hattempt, hreadings, hwindow⟩,
    fun h => h.count hupdates⟩

/-- What is noted of a return is no other thread's. -/
theorem frame_noteReturn (hwho : who ≠ some thread) (h : Frame who s t) :
    Frame who s (noteReturn thread t) := by
  have hother : ∀ other, who = some other → other ≠ thread := by
    rintro other rfl rfl
    exact hwho rfl
  refine ⟨h.moments, h.publications, h.quiet, h.falls, h.rises, h.counts, h.timed, h.locked,
    fun other hother' hs => ?_, fun other hother' hs hcleared => ?_, h.counted, h.attempt, h.readings,
    fun hnone calls threads hs => ?_⟩
  · exact Finset.mem_erase_of_ne_of_mem (hother other hother') (h.underway other hother' hs)
  · intro calls threads hwindow
    obtain ⟨⟨calls, threads⟩, hbefore, heq⟩ := Option.map_eq_some_iff.mp hwindow
    cases heq
    exact Finset.mem_erase_of_ne_of_mem (hother other hother')
      (h.cleared other hother' hs hcleared calls threads hbefore)
  · obtain ⟨threads', ht⟩ := h.window hnone calls threads hs
    exact ⟨threads'.erase thread, Option.map_eq_some_iff.mpr ⟨(calls, threads'), ht, rfl⟩⟩

theorem guarantee_return (hsuccessful : s.memory .successfulUpdates ≠ longLongMax)
    (hthread : thread ∈ s.underway) (hcleared : Cleared thread s) :
    Guarantee process (some thread) s
      (noteReturn thread (s.set .successfulUpdates (s.memory .successfulUpdates + 1))) := by
  intro who hwho
  have hframe : Frame who s (s.set .successfulUpdates (s.memory .successfulUpdates + 1)) :=
    frame_set (by decide) (fun h => absurd h (by decide)) (fun h => absurd h (by decide))
      (fun h => by cases h) (fun h => by cases h) who
  exact ⟨frame_noteReturn hwho hframe, fun h => h.return hsuccessful hthread hcleared⟩

/-- A return that is not counted any more. -/
theorem Invariant.noteReturn (h : Invariant process s) :
    Invariant process (noteReturn thread s) := by
  refine ⟨h.bounds, h.length, h.moment, h.sequence, h.consistent, h.free, fun hlt => ?_,
    fun calls threads hwindow => ?_⟩
  · have hcard : (s.underway.erase thread).card ≤ s.underway.card := Finset.card_le_card (Finset.erase_subset _ _)
    have hold := h.updates hlt
    have hnoted : (Observation.noteReturn thread s).underway = s.underway.erase thread := rfl
    rw [hnoted, memory_noteReturn]
    omega
  · obtain ⟨⟨calls, threads⟩, hbefore, heq⟩ := Option.map_eq_some_iff.mp hwindow
    cases heq
    obtain ⟨hsubset, hreturned⟩ := h.window calls threads hbefore
    refine ⟨Finset.erase_subset_erase thread hsubset, fun hlt => ?_⟩
    have hcard : (threads.erase thread).card ≤ threads.card := Finset.card_le_card (Finset.erase_subset _ _)
    have hold := hreturned hlt
    rw [memory_noteReturn]
    simp only
    omega

/-- An update that is not counted any more, as there have been too many. -/
theorem Invariant.noteUpdate (h : Invariant process s) (hupdates : s.memory .updateCalls = longLongMax) :
    Invariant process (noteUpdate thread s) := by
  refine ⟨h.bounds, h.length, h.moment, h.sequence, h.consistent, h.free, fun hlt => ?_,
    fun calls threads hwindow => ?_⟩
  · rw [memory_noteUpdate, hupdates] at hlt
    exact absurd hlt (lt_irrefl _)
  · obtain ⟨hsubset, hreturned⟩ := h.window calls threads hwindow
    exact ⟨hsubset.trans (Finset.subset_insert _ _), hreturned⟩

/-! ## 5. Steps under the lock -/

/-- What a thread that has the lock leaves to the others. -/
theorem frame_locked (hholder : s.holder = some thread) (hwho : who ≠ some thread)
    (hmoments : s.moments ⊆ t.moments) (hpublications : s.publications ≤ t.publications)
    (hquiet : t.publications = s.publications → s.publications % 2 = 0 → ∀ field ∈ aggregateFields,
      t.memory field = s.memory field ∨ (field = .aggregateCountsValid ∧ t.memory field = 0))
    (hmemory : ∀ field ∈ minima ++ maxima ++ [.updateCalls, .lastDeltaTimeBits], t.memory field = s.memory field)
    (hunderway : t.underway = s.underway) (hhistory : t.history = s.history) : Frame who s t := by
  refine ⟨hmoments, hpublications, hquiet, fun field h => (hmemory field ?_).le,
    fun field h => (hmemory field ?_).ge, (hmemory _ (by decide)).ge, fun h => ?_, fun other hother hs => ?_,
    fun _ _ h => hunderway ▸ h, fun _ _ _ h => ?_, fun _ => by rw [hhistory], fun _ => by rw [hhistory],
    fun _ => by rw [hhistory], fun _ calls threads h => ⟨threads, by rw [hhistory, h]⟩⟩
  · exact List.mem_append_left _ (List.mem_append_left _ h)
  · exact List.mem_append_left _ (List.mem_append_right _ h)
  · rw [hmemory _ (by decide)]
    exact h
  · rw [hholder] at hs
    exact absurd (hother.trans hs.symm) hwho
  · unfold Cleared
    rw [hhistory]
    exact h

/-- The thread has the lock, and is not publishing. -/
structure Owned (process : GameProcessIdentity) (thread : ℕ) (s : Process) : Prop where
  invariant : Invariant process s
  holder : s.holder = some thread
  even : s.publications % 2 = 0

/-- The thread is publishing the sums of its slots.  Some of them are written, and the greatest number of
solvers may be settled. -/
structure Publishing (process : GameProcessIdentity) (thread : ℕ) (slots : List SolverSlot)
    (written : List Field) (settled : Prop) (s : Process) : Prop where
  invariant : Invariant process s
  holder : s.holder = some thread
  odd : s.publications % 2 = 1
  same : s.slots = slots
  published : ∀ field ∈ written, s.memory field = (sumsOf slots).published field
  most : settled → (sumsOf slots).live ≤ s.memory .maxLiveSolvers

/-- One of the published fields is set by the thread that has the lock. -/
theorem guarantee_publish {field : Field} {value : ℤ} (hholder : s.holder = some thread)
    (hfield : field ∈ aggregateFields) (hbounds : Bounds process value field)
    (hquiet : s.publications % 2 = 0 → field = .aggregateCountsValid ∧ value = 0) :
    Guarantee process (some thread) s (s.set field value) := by
  intro who hwho
  have hspecial : ∀ field ∈ aggregateFields, field ≠ .aggregateSnapshotSequence ∧ field ≠ .updateCalls ∧
      field ≠ .successfulUpdates := by decide
  obtain ⟨hsequence, hupdates, hsuccessful⟩ := hspecial field hfield
  refine ⟨frame_locked hholder hwho (fun _ h => h) (le_refl _) (fun _ heven other hother => ?_)
    (fun other hother => memory_set_other s value ?_) rfl rfl, fun h => h.set hbounds hsequence
    (fun _ heven => hquiet heven) hupdates hsuccessful⟩
  · by_cases heq : other = field
    · obtain ⟨rfl, rfl⟩ := hquiet heven
      rw [heq, memory_set_same]
      exact .inr ⟨rfl, rfl⟩
    · exact .inl (memory_set_other s value heq)
  · rintro rfl
    have hdisjoint : ∀ other ∈ minima ++ maxima ++ [.updateCalls, .lastDeltaTimeBits],
        other ∉ aggregateFields := by decide
    exact hdisjoint other hother hfield

theorem wrap32_succ (n : ℕ) : wrap32 (wrap32 n + 1) = wrap32 (n + 1 : ℕ) := by
  unfold wrap32
  omega

/-- The world after the sequence was incremented. -/
def incremented (s : Process) : Process :=
  { s.set .aggregateSnapshotSequence (wrap32 (s.memory .aggregateSnapshotSequence + 1)) with
    publications := s.publications + 1 }

theorem sequence_incremented (s : Process) : (incremented s).memory .aggregateSnapshotSequence =
    wrap32 (s.memory .aggregateSnapshotSequence + 1) :=
  memory_set_same s .aggregateSnapshotSequence (wrap32 (s.memory .aggregateSnapshotSequence + 1))

theorem memory_incremented (s : Process) {field : Field} (h : field ≠ .aggregateSnapshotSequence) :
    (incremented s).memory field = s.memory field := memory_set_other s _ h

theorem Invariant.increment (h : Invariant process s) (hholder : s.holder = some thread)
    (hconsistent : s.publications % 2 = 1 → ∃ slots ∈ s.moments, Consistent slots s.memory) :
    Invariant process (incremented s) := by
  refine ⟨fun field => ?_, h.length, h.moment, ?_, fun heven => ?_, fun hfree => ?_, fun hlt => ?_,
    fun calls threads hwindow => ?_⟩
  · by_cases heq : field = .aggregateSnapshotSequence
    · rw [heq]
      trivial
    · rw [memory_incremented s heq]
      exact h.bounds field
  · rw [sequence_incremented, h.sequence, wrap32_succ]
    rfl
  · have hodd : (s.publications + 1) % 2 = 0 := heven
    obtain ⟨slots, hslots, hslotsConsistent⟩ := hconsistent (by omega)
    refine ⟨slots, hslots, ?_⟩
    exact Consistent.set (s := s) hslotsConsistent (by decide)
  · exact absurd (hholder.symm.trans hfree) (by simp)
  · rw [memory_incremented s (by decide)] at hlt ⊢
    rw [memory_incremented s (by decide)]
    exact h.updates hlt
  · obtain ⟨hsubset, hreturned⟩ := h.window calls threads hwindow
    refine ⟨hsubset, fun hlt => ?_⟩
    rw [memory_incremented s (by decide)]
    exact hreturned hlt

theorem guarantee_increment (hholder : s.holder = some thread)
    (hconsistent : s.publications % 2 = 1 → ∃ slots ∈ s.moments, Consistent slots s.memory) :
    Guarantee process (some thread) s (incremented s) := by
  intro who hwho
  have hmore : (incremented s).publications = s.publications + 1 := rfl
  refine ⟨frame_locked hholder hwho (fun _ h => h) (by omega) (fun hsame => by omega)
    (fun field hfield => memory_incremented s ?_) rfl rfl, fun h => h.increment hholder hconsistent⟩
  rintro rfl
  revert hfield
  decide

/-- The slots are changed by the thread that has the lock. -/
theorem guarantee_changeSlots {change : List SolverSlot → List SolverSlot}
    (hlength : (change s.slots).length = s.slots.length) (hholder : s.holder = some thread) :
    Guarantee process (some thread) s
      { s with slots := change s.slots, moments := change s.slots :: s.moments } := by
  intro who hwho
  refine ⟨frame_locked hholder hwho (fun _ h => List.mem_cons_of_mem _ h) (le_refl _) (fun _ _ _ _ => .inl rfl)
    (fun _ _ => rfl) rfl rfl, fun h => ⟨h.bounds, hlength.trans h.length, List.mem_cons_self, h.sequence,
    fun heven => ?_, h.free, h.updates, h.window⟩⟩
  obtain ⟨slots, hslots, hconsistent⟩ := h.consistent heven
  exact ⟨slots, List.mem_cons_of_mem _ hslots, hconsistent⟩

end Kf2Optimizer.Flex.Observation
