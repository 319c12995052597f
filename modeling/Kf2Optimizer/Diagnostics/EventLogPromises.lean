/-
# What the event log promises

Over every run of appends, clears, steps of the worker and calls of `flush` that are `Calm`, the log
keeps `Promises`: its bound, its order, the protection of audit events, its count, and that a flush
that returns true has its events written last.

A step is not calm in four cases.  An audit event that repeats an ordinary one counts with that one
and leaves the log with it, and a code whose end is cut off no longer marks its event; at the top of
the revision counter a change is not seen by a flush; and at the top of the sequence counter a log
with no room for new numbers has none left, while an event that is refused still changes the numbers
of the others.
-/
import Kf2Optimizer.Diagnostics.EventLog

namespace Kf2Optimizer.Diagnostics

open Text StepMachine

/-- The event is one of the audit as its caller gave it: by flag, severity or code. -/
def auditGiven (event : Event) : Bool := event.retainedAudit || isRetainedAuditEvent event

/-- An event stands for a call with an event of the audit. -/
def AsAudit (given : List Event) (r : Event) : Prop :=
  ∃ i ∈ r.occurrences, ∃ e, given[i]? = some e ∧ auditGiven e = true

instance decidableAsAudit (given : List Event) (r : Event) : Decidable (AsAudit given r) :=
  decidable_of_iff (∃ i ∈ r.occurrences, given[i]?.any auditGiven = true)
    (exists_congr fun _ => and_congr_right fun _ => Option.any_eq_true _ _)

/-- An ordinary event finds the log full of audit events. -/
def Refused (l : EventLog) (given : Event) : Prop :=
  l.events.length = l.capacity ∧ (∀ r ∈ l.events, r.retainedAudit = true) ∧
    given.prepared.retainedAudit = false ∧
    ∀ previous, l.events.getLast? = some previous → given.prepared.repeats previous = false

/-- The steps that are not one of the four exceptions. -/
def Calm (s : System) : Action → Prop
  | .append m =>
    m.event.prepared.retainedAudit = auditGiven m.event ∧
    (∀ previous, s.log.events.getLast? = some previous →
      m.event.prepared.repeats previous = true → auditGiven m.event = true →
        previous.retainedAudit = true) ∧
    s.log.persistenceRevision < uint64Max ∧
    (s.log.nextSequence = uint64Max →
      s.log.events.length + 2 < 2 ^ 64 ∧ ¬ Refused s.log m.event)
  | .clear => s.log.persistenceRevision < uint64Max
  | _ => True

/-- No event that is left stands for a call that the event stands for. -/
def Evicted (r : Event) (l : EventLog) : Prop :=
  ∀ q ∈ l.events, ∀ i ∈ r.occurrences, i ∉ q.occurrences

/-- What the log promises. -/
structure Promises (s : System) : Prop where
  bounded : s.log.events.length ≤ s.log.capacity
  order : (s.log.events.flatMap (·.occurrences)).Pairwise (· < ·)
  stands : ∀ r ∈ s.log.events, r.occurrences ≠ [] ∧
    ∀ i ∈ r.occurrences, ∃ e, s.log.given[i]? = some e ∧ e.prepared.repeats r = true
  sequences : s.log.events.Pairwise fun p q => p.sequence < q.sequence
  guarded : ∀ m, Calm s (.append m) → ∀ r ∈ s.log.events, AsAudit s.log.given r →
    Evicted r (s.log.append m.event) →
      (∀ q ∈ s.log.events, AsAudit s.log.given q) ∧
        ∀ q ∈ (s.log.append m.event).events, AsAudit (s.log.append m.event).given q
  count : s.cleared = false → s.log.stats.appended < uint64Max →
    (∀ r ∈ s.log.events, r.repeatCount < uint32Max) →
      s.log.stats.appended = (s.log.events.map (·.repeatCount)).sum + s.log.lost.length
  flushed : ∀ call ∈ s.flushes, s.log.hasPath = true → s.flushReturns call = true →
    ∃ copy, s.written.getLast? = some copy ∧ call.since ≤ copy.takenAt ∧
      s.past[copy.takenAt]? = some copy.events

/-! ## 1. Numbers -/

theorem mem_numbered {r : Event} : ∀ {sequence : ℕ} {events : List Event},
    r ∈ numbered sequence events →
      ∃ e ∈ events, ∃ n, (sequence ≤ n ∧ n < sequence + events.length) ∧ r = { e with sequence := n }
  | _, [], h => absurd h List.not_mem_nil
  | sequence, e :: rest, h => by
    rcases List.mem_cons.mp h with rfl | h
    · exact ⟨e, List.mem_cons_self, sequence, ⟨le_rfl, by simp⟩, rfl⟩
    · obtain ⟨f, hf, n, ⟨hmin, hmax⟩, rfl⟩ := mem_numbered h
      refine ⟨f, List.mem_cons_of_mem e hf, n, ⟨by omega, ?_⟩, rfl⟩
      rw [List.length_cons]
      omega

@[simp] theorem length_numbered : ∀ (sequence : ℕ) (events : List Event),
    (numbered sequence events).length = events.length
  | _, [] => rfl
  | sequence, _ :: rest => congrArg (· + 1) (length_numbered (sequence + 1) rest)

@[simp] theorem flatMap_numbered : ∀ (sequence : ℕ) (events : List Event),
    (numbered sequence events).flatMap (·.occurrences) = events.flatMap (·.occurrences)
  | _, [] => rfl
  | sequence, e :: rest => by
    rw [numbered, List.flatMap_cons, List.flatMap_cons, flatMap_numbered (sequence + 1) rest]

theorem pairwise_numbered : ∀ (sequence : ℕ) (events : List Event),
    (numbered sequence events).Pairwise fun p q => p.sequence < q.sequence
  | _, [] => List.Pairwise.nil
  | sequence, e :: rest => by
    refine List.pairwise_cons.mpr ⟨fun q hq => ?_, pairwise_numbered (sequence + 1) rest⟩
    obtain ⟨f, -, n, ⟨hn, -⟩, rfl⟩ := mem_numbered hq
    exact Nat.lt_of_succ_le hn

theorem exists_mem_numbered {e : Event} : ∀ {sequence : ℕ} {events : List Event}, e ∈ events →
    ∃ n, { e with sequence := n } ∈ numbered sequence events
  | _, [], h => absurd h List.not_mem_nil
  | sequence, f :: rest, h => by
    rcases List.mem_cons.mp h with rfl | h
    · exact ⟨sequence, List.mem_cons_self⟩
    · obtain ⟨n, hn⟩ := exists_mem_numbered h
      exact ⟨n, List.mem_cons_of_mem _ hn⟩

theorem getLast?_numbered : ∀ (sequence : ℕ) (events : List Event),
    ∃ n, (numbered sequence events).getLast? =
      events.getLast?.map fun e => { e with sequence := n }
  | _, [] => ⟨0, rfl⟩
  | sequence, [_] => ⟨sequence, rfl⟩
  | sequence, e :: f :: rest => by
    obtain ⟨n, hlast⟩ := getLast?_numbered (sequence + 1) (f :: rest)
    exact ⟨n, by simpa [numbered] using hlast⟩

/-! ## 2. Events that stand for calls -/

/-- An event stands for the calls that it counts. -/
structure Stands (given : List Event) (r : Event) : Prop where
  nonempty : r.occurrences ≠ []
  repeated : ∀ i ∈ r.occurrences, ∃ e, given[i]? = some e ∧ e.prepared.repeats r = true
  count : r.repeatCount = min r.occurrences.length uint32Max
  audit : r.retainedAudit = true ↔ AsAudit given r

theorem Stands.lt {given : List Event} {r : Event} (h : Stands given r) :
    ∀ i ∈ r.occurrences, i < given.length := by
  intro i hi
  obtain ⟨e, he, -⟩ := h.repeated i hi
  exact (List.getElem?_eq_some_iff.mp he).1

/-- A later call changes nothing for an event before it. -/
theorem Stands.later {given : List Event} {r : Event} (h : Stands given r) (e : Event) :
    Stands (given ++ [e]) r := by
  have hsame : ∀ i ∈ r.occurrences, (given ++ [e])[i]? = given[i]? := fun i hi =>
    List.getElem?_append_left (h.lt i hi)
  refine ⟨h.nonempty, fun i hi => ?_, h.count, h.audit.trans ?_⟩
  · rw [hsame i hi]
    exact h.repeated i hi
  · refine exists_congr fun i => and_congr_right fun hi => ?_
    rw [hsame i hi]

theorem Stands.renumbered {given : List Event} {r : Event} (h : Stands given r) (n : ℕ) :
    Stands given { r with sequence := n } :=
  ⟨h.nonempty, h.repeated, h.count, h.audit⟩

/-- What the log keeps, whatever has been lost. -/
structure Kept (l : EventLog) : Prop where
  stands : ∀ r ∈ l.events, Stands l.given r
  order : (l.events.flatMap (·.occurrences)).Pairwise (· < ·)
  bounded : l.events.length ≤ l.capacity
  sequences : l.events.Pairwise fun p q => p.sequence < q.sequence
  numbers : ∀ r ∈ l.events, r.sequence < l.nextSequence
  next : l.nextSequence ≤ uint64Max
  appended : l.stats.appended = min l.given.length uint64Max

theorem Kept.lt {l : EventLog} (h : Kept l) : ∀ i ∈ l.events.flatMap (·.occurrences),
    i < l.given.length := by
  intro i hi
  obtain ⟨r, hr, hi⟩ := List.mem_flatMap.mp hi
  exact (h.stands r hr).lt i hi

theorem saturating_min (top n : ℕ) : saturating top (min n top) = min (n + 1) top := by
  unfold saturating
  split_ifs <;> omega

section

variable {l : EventLog} {e : Event}

@[simp] theorem renumber_given : l.renumber.given = l.given := by
  unfold EventLog.renumber
  split_ifs <;> rfl

@[simp] theorem renumber_capacity : l.renumber.capacity = l.capacity := by
  unfold EventLog.renumber
  split_ifs <;> rfl

@[simp] theorem renumber_lost : l.renumber.lost = l.lost := by
  unfold EventLog.renumber
  split_ifs <;> rfl

@[simp] theorem length_renumber : l.renumber.events.length = l.events.length := by
  unfold EventLog.renumber
  split_ifs
  · exact length_numbered 1 l.events
  · rfl

@[simp] theorem flatMap_renumber :
    l.renumber.events.flatMap (·.occurrences) = l.events.flatMap (·.occurrences) := by
  unfold EventLog.renumber
  split_ifs
  · exact flatMap_numbered 1 l.events
  · rfl

/-- A number changes nothing else of an event. -/
theorem mem_renumber {r : Event} (h : r ∈ l.renumber.events) :
    ∃ q ∈ l.events, ∃ n, r = { q with sequence := n } := by
  unfold EventLog.renumber at h
  split_ifs at h
  · obtain ⟨q, hq, n, -, rfl⟩ := mem_numbered h
    exact ⟨q, hq, n, rfl⟩
  · exact ⟨r, h, r.sequence, rfl⟩

/-- An event is still there behind the number, with its calls and its mark. -/
theorem exists_mem_receive {r : Event} (h : r ∈ l.events) (e : Event) :
    ∃ q ∈ (l.receive e).events, q.occurrences = r.occurrences ∧ q.retainedAudit = r.retainedAudit := by
  change ∃ q ∈ l.renumber.events, _
  unfold EventLog.renumber
  split_ifs
  · obtain ⟨n, hn⟩ := exists_mem_numbered h
    exact ⟨_, hn, rfl, rfl⟩
  · exact ⟨r, h, rfl, rfl⟩

theorem getLast?_renumber (l : EventLog) :
    ∃ n : Event → ℕ, l.renumber.events.getLast? =
      l.events.getLast?.map fun e => { e with sequence := n e } := by
  unfold EventLog.renumber
  split_ifs
  · obtain ⟨n, hlast⟩ := getLast?_numbered 1 l.events
    exact ⟨fun _ => n, hlast⟩
  · exact ⟨Event.sequence, by simp⟩

/-- **The log that has given an event its number**: its events are below that number, which is below
the next. -/
structure Admits (l : EventLog) (event : Event) : Prop where
  stands : ∀ r ∈ l.events, Stands l.given r
  order : (l.events.flatMap (·.occurrences) ++ event.occurrences).Pairwise (· < ·)
  bounded : l.events.length ≤ l.capacity
  sequences : l.events.Pairwise fun p q => p.sequence < q.sequence
  numbers : ∀ r ∈ l.events, r.sequence < event.sequence
  next : event.sequence < l.nextSequence ∧ l.nextSequence ≤ uint64Max
  appended : l.stats.appended = min l.given.length uint64Max

theorem Kept.admits (h : Kept l) (hroom : l.nextSequence = uint64Max → l.events.length + 2 < 2 ^ 64) :
    Admits (l.receive e) (l.admitted e) where
  stands r hr := by
    obtain ⟨q, hq, n, rfl⟩ := mem_renumber hr
    exact ((h.stands q hq).later e).renumbered n
  order := by
    change (l.renumber.events.flatMap (·.occurrences) ++ [l.given.length]).Pairwise (· < ·)
    rw [flatMap_renumber, List.pairwise_append]
    refine ⟨h.order, List.pairwise_singleton _ _, fun i hi j hj => ?_⟩
    rw [List.mem_singleton.mp hj]
    exact h.lt i hi
  bounded := by
    change l.renumber.events.length ≤ l.renumber.capacity
    rw [length_renumber, renumber_capacity]
    exact h.bounded
  sequences := by
    change l.renumber.events.Pairwise _
    unfold EventLog.renumber
    split_ifs
    · exact pairwise_numbered 1 l.events
    · exact h.sequences
  numbers r hr := by
    change r.sequence < l.renumber.nextSequence
    change r ∈ l.renumber.events at hr
    unfold EventLog.renumber at hr ⊢
    split_ifs at hr ⊢
    · obtain ⟨q, -, n, ⟨-, hn⟩, rfl⟩ := mem_numbered hr
      exact hn
    · exact h.numbers r hr
  next := by
    have hlt : l.renumber.nextSequence + 1 ≤ uint64Max := by
      have hnext := h.next
      unfold EventLog.renumber uint64Max at *
      split_ifs with htop
      · have := hroom htop
        simp only
        omega
      · omega
    change l.renumber.nextSequence < (l.renumber.nextSequence + 1) % 2 ^ 64 ∧
      (l.renumber.nextSequence + 1) % 2 ^ 64 ≤ uint64Max
    unfold uint64Max at *
    omega
  appended := by
    change saturating uint64Max l.stats.appended = min (l.given ++ [e]).length uint64Max
    rw [h.appended, saturating_min, List.length_append, List.length_singleton]

/-- The event that was admitted stands for its call. -/
theorem stands_admitted (hone : e.repeatCount = 1)
    (hmark : e.prepared.retainedAudit = auditGiven e) :
    Stands (l.receive e).given (l.admitted e) := by
  have hlast : (l.receive e).given[l.given.length]? = some e := by simp [EventLog.receive]
  refine ⟨List.cons_ne_nil _ _, fun i hi => ?_, hone.trans (by simp [EventLog.admitted, uint32Max]),
    ?_⟩
  · obtain rfl := List.mem_singleton.mp hi
    exact ⟨e, hlast, decide_eq_true ⟨rfl, rfl, rfl, rfl⟩⟩
  · change e.prepared.retainedAudit = true ↔ _
    rw [hmark]
    constructor
    · intro haudit
      exact ⟨l.given.length, List.mem_singleton_self _, e, hlast, haudit⟩
    · rintro ⟨i, hi, f, hf, haudit⟩
      obtain rfl := List.mem_singleton.mp hi
      rw [hlast, Option.some_inj] at hf
      rwa [hf]

/-! ## 3. The branches of an append -/

@[simp] theorem schedulePersist_events : l.schedulePersist.events = l.events := by
  unfold EventLog.schedulePersist
  split_ifs <;> rfl

@[simp] theorem schedulePersist_given : l.schedulePersist.given = l.given := by
  unfold EventLog.schedulePersist
  split_ifs <;> rfl

@[simp] theorem schedulePersist_lost : l.schedulePersist.lost = l.lost := by
  unfold EventLog.schedulePersist
  split_ifs <;> rfl

theorem Kept.schedulePersist (h : Kept l) : Kept l.schedulePersist := by
  obtain ⟨hstands, horder, hbounded, hsequences, hnumbers, hnext, happended⟩ := h
  unfold EventLog.schedulePersist
  split_ifs <;> exact ⟨hstands, horder, hbounded, hsequences, hnumbers, hnext, happended⟩

/-- **Fewer events** are admitted as well. -/
theorem Admits.sublist {l' : EventLog} (h : Admits l e) (hsub : l'.events.Sublist l.events)
    (hgiven : l'.given = l.given) (hcapacity : l'.capacity = l.capacity)
    (hnext : l'.nextSequence = l.nextSequence) (happended : l'.stats.appended = l.stats.appended) :
    Admits l' e where
  stands r hr := hgiven ▸ h.stands r (hsub.subset hr)
  order := h.order.sublist ((hsub.flatMap _).append_right _)
  bounded := hcapacity ▸ hsub.length_le.trans h.bounded
  sequences := h.sequences.sublist hsub
  numbers r hr := h.numbers r (hsub.subset hr)
  next := hnext ▸ h.next
  appended := by rw [happended, hgiven, h.appended]

theorem Admits.evict (h : Admits l e) (i : ℕ) : Admits (l.evict i) e :=
  h.sublist (List.eraseIdx_sublist _ _) rfl rfl rfl rfl

theorem Admits.refuse (h : Admits l e) : Kept (l.refuse e) where
  stands := h.stands
  order := (List.pairwise_append.mp h.order).1
  bounded := h.bounded
  sequences := h.sequences
  numbers r hr := (h.numbers r hr).trans h.next.1
  next := h.next.2
  appended := h.appended

theorem Admits.push (h : Admits l e) (hstands : Stands l.given e)
    (hroom : l.events.length < l.capacity) : Kept (l.push e) := by
  refine Kept.schedulePersist ⟨fun r hr => ?_, ?_, ?_, ?_, fun r hr => ?_, h.next.2, h.appended⟩
  · rcases List.mem_append.mp hr with hr | hr
    · exact h.stands r hr
    · obtain rfl := List.mem_singleton.mp hr
      exact hstands
  · simpa using h.order
  · simpa using hroom
  · refine List.pairwise_append.mpr ⟨h.sequences, List.pairwise_singleton _ _, fun r hr q hq => ?_⟩
    rw [List.mem_singleton.mp hq]
    exact h.numbers r hr
  · rcases List.mem_append.mp hr with hr | hr
    · exact (h.numbers r hr).trans h.next.1
    · rw [List.mem_singleton.mp hr]
      exact h.next.1

/-- A repeat counts with the last event. -/
theorem Admits.merge {previous : Event} (h : Admits l e) (hstands : Stands l.given e)
    (hlast : l.events.getLast? = some previous) (hrepeats : e.repeats previous = true)
    (hmark : e.retainedAudit = true → previous.retainedAudit = true)
    (hone : e.occurrences.length = 1) : Kept (l.merge previous e) := by
  have hevents : l.events = l.events.dropLast ++ [previous] :=
    (List.dropLast_append_getLast? previous hlast).symm
  have hprevious := h.stands previous (List.mem_of_getLast? hlast)
  obtain ⟨hseverity, hcode, hmessage, hsource⟩ := of_decide_eq_true hrepeats
  have hmerged : Stands l.given { previous with
      repeatCount := if previous.repeatCount < uint32Max then previous.repeatCount + 1
        else previous.repeatCount
      occurrences := previous.occurrences ++ e.occurrences } := by
    refine ⟨List.append_ne_nil_of_left_ne_nil hprevious.nonempty _, fun i hi => ?_, ?_, ?_⟩
    · rcases List.mem_append.mp hi with hi | hi
      · exact hprevious.repeated i hi
      · obtain ⟨f, hf, hrepeated⟩ := hstands.repeated i hi
        obtain ⟨hs, hc, hm, ho⟩ := of_decide_eq_true hrepeated
        exact ⟨f, hf, decide_eq_true
          ⟨hseverity.trans hs, hcode.trans hc, hmessage.trans hm, hsource.trans ho⟩⟩
    · simp only [List.length_append, hone, hprevious.count]
      split_ifs <;> omega
    · refine hprevious.audit.trans ⟨?_, ?_⟩
      · rintro ⟨i, hi, hf⟩
        exact ⟨i, List.mem_append_left _ hi, hf⟩
      · rintro ⟨i, hi, hf⟩
        rcases List.mem_append.mp hi with hi | hi
        · exact ⟨i, hi, hf⟩
        · exact hprevious.audit.mp (hmark (hstands.audit.mpr ⟨i, hi, hf⟩))
  refine Kept.schedulePersist ⟨fun r hr => ?_, ?_, ?_, ?_, fun r hr => ?_, h.next.2, h.appended⟩
  · rcases List.mem_append.mp hr with hr | hr
    · exact h.stands r (List.mem_of_mem_dropLast hr)
    · rw [List.mem_singleton.mp hr]
      exact hmerged
  · have horder := h.order
    rw [hevents] at horder
    simpa [List.append_assoc] using horder
  · have hbounded := h.bounded
    rw [hevents, List.length_append] at hbounded
    simpa using hbounded
  · have hsequences := h.sequences
    rw [hevents, List.pairwise_append] at hsequences
    refine List.pairwise_append.mpr ⟨hsequences.1, List.pairwise_singleton _ _, fun r hr q hq => ?_⟩
    rw [List.mem_singleton.mp hq]
    exact hsequences.2.2 r hr previous (List.mem_singleton_self _)
  · refine (?_ : r.sequence < e.sequence).trans h.next.1
    rcases List.mem_append.mp hr with hr | hr
    · exact h.numbers r (List.mem_of_mem_dropLast hr)
    · rw [List.mem_singleton.mp hr]
      exact h.numbers previous (List.mem_of_getLast? hlast)

/-- **What an append does** once its event has a number. -/
inductive Outcome (l : EventLog) (event : Event) : EventLog → Prop
  | merge {previous : Event} (hlast : l.events.getLast? = some previous)
      (hrepeats : event.repeats previous = true) : Outcome l event (l.merge previous event)
  | push (hroom : l.events.length ≠ l.capacity) : Outcome l event (l.push event)
  | ordinary {i : ℕ} (hfull : l.events.length = l.capacity) (hi : i < l.events.length)
      (hordinary : l.events[i].retainedAudit = false) : Outcome l event ((l.evict i).push event)
  | refuse (hfull : l.events.length = l.capacity) (haudit : ∀ r ∈ l.events, r.retainedAudit = true)
      (hordinary : event.retainedAudit = false)
      (hnew : ∀ previous, l.events.getLast? = some previous → event.repeats previous = false) :
      Outcome l event (l.refuse event)
  | oldest (hfull : l.events.length = l.capacity) (haudit : ∀ r ∈ l.events, r.retainedAudit = true)
      (hmark : event.retainedAudit = true) : Outcome l event ((l.evict 0).push event)

theorem insert_outcome
    (hnew : ∀ previous, l.events.getLast? = some previous → e.repeats previous = false) :
    Outcome l e (l.insert e) := by
  unfold EventLog.insert
  by_cases hfull : l.events.length = l.capacity
  · rw [if_pos hfull]
    split
    · rename_i i hfind
      obtain ⟨hi, hordinary, -⟩ := List.findIdx?_eq_some_iff_getElem.mp hfind
      exact .ordinary hfull hi (by simpa using hordinary)
    · rename_i hfind
      have haudit : ∀ r ∈ l.events, r.retainedAudit = true := by
        simpa using List.findIdx?_eq_none_iff.mp hfind
      by_cases hmark : e.retainedAudit = true
      · rw [if_neg (by simp [hmark])]
        exact .oldest hfull haudit hmark
      · rw [if_pos (by simpa using hmark)]
        exact .refuse hfull haudit (by simpa using hmark) hnew
  · rw [if_neg hfull]
    exact .push hfull

theorem append_outcome (l : EventLog) (e : Event) :
    Outcome (l.receive e) (l.admitted e) (l.append e) := by
  unfold EventLog.append
  simp only
  split
  · rename_i previous hlast
    split_ifs with hrepeats
    · exact .merge hlast hrepeats
    · refine insert_outcome fun q hq => ?_
      rw [hlast, Option.some_inj] at hq
      rw [← hq]
      exact Bool.eq_false_iff.mpr hrepeats
  · rename_i hlast
    refine insert_outcome fun q hq => ?_
    rw [hlast] at hq
    cases hq

/-- The last event has its texts and its mark from before. -/
theorem getLast?_receive {previous : Event} (hlast : (l.receive e).events.getLast? = some previous)
    (hrepeats : (l.admitted e).repeats previous = true) :
    ∃ q, l.events.getLast? = some q ∧ e.prepared.repeats q = true ∧
      q.retainedAudit = previous.retainedAudit := by
  obtain ⟨n, heq⟩ := getLast?_renumber l
  obtain ⟨q, hq, rfl⟩ := Option.map_eq_some_iff.mp (heq.symm.trans hlast)
  exact ⟨q, hq, hrepeats, rfl⟩

/-- The events that a calm step appends. -/
structure CalmEvent (l : EventLog) (e : Event) : Prop where
  once : e.repeatCount = 1
  mark : e.prepared.retainedAudit = auditGiven e
  repeated : ∀ previous, l.events.getLast? = some previous → e.prepared.repeats previous = true →
    auditGiven e = true → previous.retainedAudit = true
  room : l.nextSequence = uint64Max → l.events.length + 2 < 2 ^ 64 ∧ ¬ Refused l e

/-- **An append keeps what the log keeps.** -/
theorem Kept.append (h : Kept l) (hcalm : CalmEvent l e) (hcapacity : 0 < l.capacity) :
    Kept (l.append e) := by
  have hadmits := h.admits (e := e) fun htop => (hcalm.room htop).1
  have hstands := stands_admitted (l := l) hcalm.once hcalm.mark
  have hpositive : 0 < (l.receive e).capacity := by
    rw [show (l.receive e).capacity = l.capacity from renumber_capacity]
    exact hcapacity
  have houtcome := append_outcome l e
  generalize l.append e = after at houtcome ⊢
  cases houtcome with
  | merge hlast hrepeats =>
    refine hadmits.merge hstands hlast hrepeats (fun haudit => ?_) rfl
    obtain ⟨q, hq, hrepeated, hmark⟩ := getLast?_receive hlast hrepeats
    rw [← hmark]
    exact hcalm.repeated q hq hrepeated (hcalm.mark ▸ haudit)
  | push hroom => exact hadmits.push hstands (lt_of_le_of_ne hadmits.bounded hroom)
  | ordinary hfull hi _ =>
    refine (hadmits.evict _).push hstands ?_
    change ((l.receive e).events.eraseIdx _).length < (l.receive e).capacity
    rw [List.length_eraseIdx_of_lt hi]
    omega
  | refuse => exact hadmits.refuse
  | oldest hfull _ _ =>
    refine (hadmits.evict _).push hstands ?_
    change ((l.receive e).events.eraseIdx 0).length < (l.receive e).capacity
    rw [List.length_eraseIdx_of_lt (hfull ▸ hpositive)]
    omega

/-- **An audit event leaves only a log that has nothing else**, before the append and behind it. -/
theorem Kept.guarded (h : Kept l) (hcalm : CalmEvent l e) (hcapacity : 0 < l.capacity) {r : Event}
    (hr : r ∈ l.events) (haudit : AsAudit l.given r) (hevicted : Evicted r (l.append e)) :
    (∀ q ∈ l.events, AsAudit l.given q) ∧
      ∀ q ∈ (l.append e).events, AsAudit (l.append e).given q := by
  have hkept := h.append hcalm hcapacity
  obtain ⟨kept, hn, hsame, hsameMark⟩ := exists_mem_receive hr e
  obtain ⟨i, hi⟩ := List.exists_mem_of_ne_nil _ (h.stands r hr).nonempty
  have hgone : ∀ q ∈ (l.append e).events, i ∉ q.occurrences := fun q hq => hevicted q hq i hi
  rw [← hsame] at hi
  have hmark : kept.retainedAudit = true := hsameMark.trans ((h.stands r hr).audit.mpr haudit)
  have houtcome := append_outcome l e
  generalize l.append e = after at houtcome hkept hgone ⊢
  cases houtcome with
  | merge hlast hrepeats =>
    exfalso
    rw [EventLog.merge, schedulePersist_events] at hgone
    rw [← List.dropLast_append_getLast? _ hlast] at hn
    rcases List.mem_append.mp hn with hn | hn
    · exact hgone _ (List.mem_append_left _ hn) hi
    · obtain rfl := List.mem_singleton.mp hn
      refine hgone _ (List.mem_append_right _ (List.mem_singleton_self _)) ?_
      exact List.mem_append_left _ hi
  | push =>
    rw [EventLog.push, schedulePersist_events] at hgone
    exact absurd hi (hgone _ (List.mem_append_left _ hn))
  | refuse => exact absurd hi (hgone _ hn)
  | @ordinary index hfull hk hordinary =>
    exfalso
    rw [EventLog.push, schedulePersist_events] at hgone
    obtain ⟨k, hlt, hget⟩ := List.getElem_of_mem hn
    by_cases hkk : k = index
    · subst hkk
      rw [hget, hmark] at hordinary
      cases hordinary
    · refine hgone _ (List.mem_append_left _ ?_) hi
      exact List.mem_eraseIdx_iff_getElem.mpr ⟨k, hlt, hkk, hget⟩
  | oldest hfull hall hmarked =>
    refine ⟨fun q hq => ?_, fun q hq => (hkept.stands q hq).audit.mp ?_⟩
    · obtain ⟨q', hq', -, hsame'⟩ := exists_mem_receive hq e
      exact (h.stands q hq).audit.mp (hsame' ▸ hall q' hq')
    · rw [EventLog.push, schedulePersist_events] at hq
      rcases List.mem_append.mp hq with hq | hq
      · exact hall q (List.mem_of_mem_eraseIdx hq)
      · rw [List.mem_singleton.mp hq]
        exact hmarked

/-! ## 4. The count -/

/-- The calls that an event stands for and those that were lost are all calls. -/
def Counted (l : EventLog) : Prop :=
  (l.events.flatMap (·.occurrences)).length + l.lost.length = l.given.length

theorem length_flatMap_eraseIdx {events : List Event} {i : ℕ} (hi : i < events.length) :
    ((events.eraseIdx i).flatMap (·.occurrences)).length + (events[i].occurrences).length =
      (events.flatMap (·.occurrences)).length := by
  have hperm := (List.getElem_cons_eraseIdx_perm hi).flatMap_right (·.occurrences)
  rw [← hperm.length_eq, List.flatMap_cons, List.length_append, Nat.add_comm]

theorem length_flatMap_evict (l : EventLog) (i : ℕ) :
    ((l.evict i).events.flatMap (·.occurrences)).length + (l.evict i).lost.length =
      (l.events.flatMap (·.occurrences)).length + l.lost.length := by
  unfold EventLog.evict
  by_cases hi : i < l.events.length
  · have herase := length_flatMap_eraseIdx hi
    simp only [List.getElem?_eq_getElem hi, Option.map_some, Option.getD_some, List.length_append]
    omega
  · simp [List.getElem?_eq_none (not_lt.mp hi), List.eraseIdx_of_length_le (not_lt.mp hi)]

theorem Counted.append (h : Counted l) : Counted (l.append e) := by
  have hreceive : ((l.receive e).events.flatMap (·.occurrences)).length + (l.receive e).lost.length + 1 =
      (l.receive e).given.length := by
    change (l.renumber.events.flatMap (·.occurrences)).length + l.renumber.lost.length + 1 =
      (l.given ++ [e]).length
    rw [flatMap_renumber, renumber_lost, List.length_append, List.length_singleton, h]
  have hone : (l.admitted e).occurrences.length = 1 := rfl
  have hpush : ∀ l' : EventLog, (l'.events.flatMap (·.occurrences)).length + l'.lost.length =
      ((l.receive e).events.flatMap (·.occurrences)).length + (l.receive e).lost.length →
        l'.given = (l.receive e).given → Counted (l'.push (l.admitted e)) := by
    intro l' heq hgiven
    unfold Counted EventLog.push
    rw [schedulePersist_events, schedulePersist_lost, schedulePersist_given]
    simp only [List.flatMap_append, List.length_append, hgiven, List.flatMap_singleton, hone]
    omega
  have houtcome := append_outcome l e
  generalize l.append e = after at houtcome ⊢
  cases houtcome with
  | merge hlast hrepeats =>
    unfold Counted EventLog.merge
    rw [schedulePersist_events, schedulePersist_lost, schedulePersist_given]
    rw [← List.dropLast_append_getLast? _ hlast] at hreceive
    simp only [List.flatMap_append, List.length_append, List.flatMap_singleton, hone] at hreceive ⊢
    omega
  | push => exact hpush _ rfl rfl
  | ordinary => exact hpush _ (length_flatMap_evict _ _) rfl
  | refuse =>
    unfold Counted EventLog.refuse
    simp only [List.length_append, hone]
    omega
  | oldest => exact hpush _ (length_flatMap_evict _ _) rfl

theorem Kept.count (h : Kept l) (hcounted : Counted l) (happended : l.stats.appended < uint64Max)
    (hrepeats : ∀ r ∈ l.events, r.repeatCount < uint32Max) :
    l.stats.appended = (l.events.map (·.repeatCount)).sum + l.lost.length := by
  have hcounts : l.events.map (·.repeatCount) = l.events.map fun r => r.occurrences.length := by
    refine List.map_congr_left fun r hr => ?_
    have hcount := (h.stands r hr).count
    have hlt := hrepeats r hr
    omega
  have htotal := h.appended
  rw [hcounts, ← List.length_flatMap, hcounted, htotal]
  omega

/-! ## 5. What is written -/

/-- Nothing that the worker and `flush` look at is different. -/
def SameWriter (l l' : EventLog) : Prop :=
  l'.hasPath = l.hasPath ∧ l'.hasWorker = l.hasWorker ∧
    l'.persistenceReady = l.persistenceReady ∧ l'.persistenceRevision = l.persistenceRevision ∧
    l'.persistedRevision = l.persistedRevision ∧ l'.capacity = l.capacity

/-- **An operation on the log**: a change comes with a revision of its own. -/
structure Scheduled (l l' : EventLog) : Prop where
  hasPath : l'.hasPath = l.hasPath
  hasWorker : l'.hasWorker = l.hasWorker
  ready : l'.persistenceReady = l.persistenceReady
  persisted : l'.persistedRevision = l.persistedRevision
  capacity : l'.capacity = l.capacity
  change : l.hasWorker = true → l.hasPath = true →
    l'.persistenceRevision = l.persistenceRevision + 1 ∨
      (l'.persistenceRevision = l.persistenceRevision ∧ l'.events = l.events)

theorem scheduled_schedulePersist {l' : EventLog} (h : SameWriter l l')
    (hlt : l.persistenceRevision < uint64Max) : Scheduled l l'.schedulePersist := by
  obtain ⟨hpath, hworker, hready, hrevision, hpersisted, hcapacity⟩ := h
  unfold EventLog.schedulePersist
  split_ifs with hlive
  · refine ⟨hpath, hworker, hready, hpersisted, hcapacity, fun hw hp => ?_⟩
    rw [hpath, hworker, hw, hp] at hlive
    cases hlive
  · refine ⟨hpath, hworker, hready, hpersisted, hcapacity, fun _ _ => .inl ?_⟩
    change saturating uint64Max l'.persistenceRevision = _
    rw [hrevision, saturating, if_neg hlt.ne]

theorem sameWriter_receive (l : EventLog) (e : Event) : SameWriter l (l.receive e) := by
  unfold SameWriter EventLog.receive EventLog.renumber
  split_ifs <;> exact ⟨rfl, rfl, rfl, rfl, rfl, rfl⟩

theorem Scheduled.append (hlt : l.persistenceRevision < uint64Max)
    (hroom : l.nextSequence = uint64Max → ¬ Refused l e) : Scheduled l (l.append e) := by
  have hreceive := sameWriter_receive l e
  have houtcome := append_outcome l e
  generalize l.append e = after at houtcome ⊢
  cases houtcome with
  | merge => exact scheduled_schedulePersist hreceive hlt
  | push => exact scheduled_schedulePersist hreceive hlt
  | ordinary => exact scheduled_schedulePersist hreceive hlt
  | oldest => exact scheduled_schedulePersist hreceive hlt
  | refuse hfull haudit hordinary hnew =>
    obtain ⟨hpath, hworker, hready, hrevision, hpersisted, hcapacity⟩ := hreceive
    refine ⟨hpath, hworker, hready, hpersisted, hcapacity, fun _ _ => .inr ⟨hrevision, ?_⟩⟩
    change l.renumber.events = l.events
    unfold EventLog.renumber
    rw [if_neg fun htop => hroom htop ⟨?_, fun r hr => ?_, hordinary, fun previous hlast => ?_⟩]
    · rw [← length_renumber, ← hcapacity]
      exact hfull
    · obtain ⟨q, hq, -, hsame⟩ := exists_mem_receive hr e
      exact hsame ▸ haudit q hq
    · obtain ⟨n, heq⟩ := getLast?_renumber l
      rw [hlast, Option.map_some] at heq
      have hold := hnew _ heq
      exact hold

theorem Scheduled.clear (hlt : l.persistenceRevision < uint64Max) : Scheduled l l.clear :=
  scheduled_schedulePersist ⟨rfl, rfl, rfl, rfl, rfl, rfl⟩ hlt

end

/-- The copy that the worker holds. -/
def Worker.copy : Worker → Option Snapshot
  | waiting => none
  | holding copy => some copy
  | wrote copy _ => some copy

/-- A copy that is not older than what is recorded: it has the events of its time, and a call of
`flush` that asks for no later revision finds its events in it. -/
structure CopyOf (s : System) (copy : Snapshot) : Prop where
  revision : copy.revision ≤ s.log.persistenceRevision
  recorded : s.log.persistedRevision ≤ copy.revision
  fresh : copy.revision = s.log.persistenceRevision → s.lastChange ≤ copy.takenAt
  past : s.past[copy.takenAt]? = some copy.events
  calls : ∀ call ∈ s.flushes, call.target ≤ copy.revision → call.since ≤ copy.takenAt

/-- What holds between the log and its worker. -/
structure Persisted (s : System) : Prop where
  nonempty : 0 < s.past.length
  now : s.past[s.past.length - 1]? = some s.log.events
  change : s.lastChange < s.past.length
  recorded : s.log.persistedRevision ≤ s.log.persistenceRevision
  ready : s.log.persistenceReady = true → s.written ≠ []
  calls : ∀ call ∈ s.flushes,
    call.target ≤ s.log.persistenceRevision ∧ call.since ≤ s.lastChange
  last : ∀ copy, s.written.getLast? = some copy → CopyOf s copy
  held : ∀ copy, s.worker.copy = some copy → CopyOf s copy
  wrote : ∀ copy, s.worker = .wrote copy true → s.written.getLast? = some copy

section

variable {s : System}

theorem CopyOf.operated {copy : Snapshot} {log : EventLog} (h : CopyOf s copy)
    (hlog : Scheduled s.log log) (hworker : s.log.hasWorker = true) (hpath : s.log.hasPath = true) :
    CopyOf (s.operated log) copy where
  revision := by
    have hrevision := h.revision
    change copy.revision ≤ log.persistenceRevision
    obtain hchange | ⟨hchange, -⟩ := hlog.change hworker hpath <;> omega
  recorded := by
    change log.persistedRevision ≤ _
    rw [hlog.persisted]
    exact h.recorded
  fresh hsame := by
    have hrevision := h.revision
    change copy.revision = log.persistenceRevision at hsame
    obtain hchange | ⟨hchange, hevents⟩ := hlog.change hworker hpath
    · omega
    · change (if log.events = s.log.events then s.lastChange else s.past.length) ≤ _
      rw [if_pos hevents]
      exact h.fresh (hsame.trans hchange)
  past := by
    have hlt := (List.getElem?_eq_some_iff.mp h.past).1
    change (s.past ++ [log.events])[copy.takenAt]? = _
    rw [List.getElem?_append_left hlt]
    exact h.past
  calls := h.calls

/-- **An operation on the log.** -/
theorem Persisted.operated {log : EventLog} (h : Persisted s) (hlog : Scheduled s.log log)
    (hworker : s.log.hasWorker = true) (hpath : s.log.hasPath = true) :
    Persisted (s.operated log) := by
  have hchange := h.change
  have hlater : s.lastChange ≤ (s.operated log).lastChange := by
    change _ ≤ if log.events = s.log.events then s.lastChange else s.past.length
    split_ifs <;> omega
  have hrevision : s.log.persistenceRevision ≤ log.persistenceRevision := by
    obtain hnext | ⟨hnext, -⟩ := hlog.change hworker hpath <;> omega
  refine ⟨?_, ?_, ?_, ?_, fun hready => h.ready (hlog.ready ▸ hready), fun call hcall => ?_,
    fun copy hcopy => (h.last copy hcopy).operated hlog hworker hpath,
    fun copy hcopy => (h.held copy hcopy).operated hlog hworker hpath, h.wrote⟩
  · simp [System.operated]
  · simp [System.operated]
  · change (if log.events = s.log.events then s.lastChange else s.past.length) <
      (s.past ++ [log.events]).length
    rw [List.length_append, List.length_singleton]
    split_ifs <;> omega
  · change log.persistedRevision ≤ log.persistenceRevision
    rw [hlog.persisted]
    exact h.recorded.trans hrevision
  · obtain ⟨htarget, hsince⟩ := h.calls call hcall
    exact ⟨htarget.trans hrevision, hsince.trans hlater⟩

/-- The worker takes a copy. -/
theorem Persisted.take (h : Persisted s) : Persisted (s.step .take) := by
  unfold System.step
  split_ifs with htake
  · refine { h with held := fun copy hcopy => ?_, wrote := fun copy hcopy => ?_, last := fun copy hcopy => ?_ }
    · exact { h.last copy hcopy with }
    · obtain rfl := Option.some_inj.mp hcopy
      have hchange := h.change
      exact ⟨le_rfl, h.recorded, fun _ => by simp only; omega, h.now, fun call hcall _ => by
        have := (h.calls call hcall).2
        simp only
        omega⟩
    · cases hcopy
  · exact h

/-- A failure is recorded. -/
theorem Persisted.failed {worker : Worker} (h : Persisted s)
    (hworker : worker = .waiting ∨ worker = s.worker) :
    Persisted { s with log := s.log.recordPersistenceFailure, worker } := by
  have hcopy : ∀ copy, CopyOf s copy →
      CopyOf { s with log := s.log.recordPersistenceFailure, worker } copy :=
    fun copy hcopy => { hcopy with }
  refine { h with
    ready := nofun
    last := fun copy hlast => hcopy copy (h.last copy hlast)
    held := fun copy hheld => hcopy copy ?_
    wrote := fun copy hwrote => ?_ }
  · rcases hworker with rfl | rfl
    · cases hheld
    · exact h.held copy hheld
  · rcases hworker with rfl | rfl
    · cases hwrote
    · exact h.wrote copy hwrote

theorem Persisted.copyFails (h : Persisted s) : Persisted (s.step .copyFails) := by
  unfold System.step
  split_ifs
  · exact h.failed (.inr rfl)
  · exact h

/-- The worker has tried to write its copy. -/
theorem Persisted.write (h : Persisted s) (succeeded : Bool) : Persisted (s.step (.write succeeded)) := by
  simp only [System.step]
  split
  · rename_i copy hworker
    have hcopy := h.held copy (by rw [hworker]; rfl)
    cases succeeded with
    | false =>
      refine { h with
        last := fun w hw => { h.last w hw with }
        held := fun w hw => ?_
        wrote := nofun }
      obtain rfl := Option.some_inj.mp hw
      exact { hcopy with }
    | true =>
      refine { h with
        ready := fun _ => List.append_ne_nil_of_right_ne_nil _ (List.cons_ne_nil _ _)
        last := fun w hw => ?_
        held := fun w hw => ?_
        wrote := fun w hw => ?_ }
      · rw [if_pos rfl, List.getLast?_concat, Option.some_inj] at hw
        exact hw ▸ { hcopy with }
      · obtain rfl := Option.some_inj.mp hw
        exact { hcopy with }
      · injection hw with hw
        rw [if_pos rfl, List.getLast?_concat, hw]
  · exact h

/-- The worker records what has become of its copy. -/
theorem Persisted.record (h : Persisted s) : Persisted (s.step .record) := by
  simp only [System.step]
  split
  · rename_i copy succeeded hworker
    cases succeeded with
    | false => exact h.failed (.inl rfl)
    | true =>
      have hlast := h.wrote copy hworker
      have hcopy := h.held copy (by rw [hworker]; rfl)
      refine { h with
        recorded := max_le h.recorded hcopy.revision
        ready := fun _ hnil => ?_
        last := fun w hw => ?_
        held := nofun
        wrote := nofun }
      · rw [show s.written = [] from hnil] at hlast
        cases hlast
      · obtain rfl := Option.some_inj.mp (hlast.symm.trans hw)
        exact { hcopy with recorded := max_le hcopy.recorded le_rfl }
  · exact h

/-- A call of `flush`. -/
theorem Persisted.flush (h : Persisted s) : Persisted (s.step .flush) := by
  have hcopy : ∀ copy, CopyOf s copy → CopyOf (s.step .flush) copy := by
    intro copy hcopy
    refine { hcopy with calls := fun call hcall htarget => ?_ }
    rcases List.mem_append.mp hcall with hcall | hcall
    · exact hcopy.calls call hcall htarget
    · obtain rfl := List.mem_singleton.mp hcall
      exact hcopy.fresh (le_antisymm hcopy.revision htarget)
  refine { h with
    calls := fun call hcall => ?_
    last := fun copy hlast => hcopy copy (h.last copy hlast)
    held := fun copy hheld => hcopy copy (h.held copy hheld) }
  rcases List.mem_append.mp hcall with hcall | hcall
  · exact h.calls call hcall
  · obtain rfl := List.mem_singleton.mp hcall
    exact ⟨le_rfl, le_rfl⟩

end

/-! ## 6. Runs -/

/-- What holds in every state of a calm run. -/
structure Invariant (s : System) : Prop where
  kept : Kept s.log
  capacity : 0 < s.log.capacity
  counted : s.cleared = false → Counted s.log
  persisted : s.log.hasWorker = true → s.log.hasPath = true → Persisted s

theorem calmEvent {s : System} {m : Message} (h : Calm s (.append m)) : CalmEvent s.log m.event :=
  ⟨rfl, h.1, h.2.1, h.2.2.2⟩

theorem Kept.clear {l : EventLog} (h : Kept l) : Kept l.clear :=
  Kept.schedulePersist ⟨nofun, List.Pairwise.nil, Nat.zero_le _, List.Pairwise.nil, nofun, h.next,
    h.appended⟩

/-- A step of the worker changes nothing that the log keeps. -/
structure SameLog (l l' : EventLog) : Prop where
  events : l'.events = l.events
  given : l'.given = l.given
  lost : l'.lost = l.lost
  capacity : l'.capacity = l.capacity
  next : l'.nextSequence = l.nextSequence
  appended : l'.stats.appended = l.stats.appended
  hasWorker : l'.hasWorker = l.hasWorker
  hasPath : l'.hasPath = l.hasPath

theorem Kept.same {l l' : EventLog} (h : Kept l) (hsame : SameLog l l') : Kept l' := by
  obtain ⟨hevents, hgiven, -, hcapacity, hnext, happended, -, -⟩ := hsame
  refine ⟨?_, ?_, ?_, ?_, ?_, ?_, ?_⟩
  · rw [hevents, hgiven]
    exact h.stands
  · rw [hevents]
    exact h.order
  · rw [hevents, hcapacity]
    exact h.bounded
  · rw [hevents]
    exact h.sequences
  · rw [hevents, hnext]
    exact h.numbers
  · rw [hnext]
    exact h.next
  · rw [happended, hgiven]
    exact h.appended

theorem Invariant.same {s s' : System} (h : Invariant s) (hsame : SameLog s.log s'.log)
    (hcleared : s'.cleared = s.cleared) (hpersisted : Persisted s → Persisted s') : Invariant s' where
  kept := h.kept.same hsame
  capacity := hsame.capacity ▸ h.capacity
  counted hnot := by
    unfold Counted
    rw [hsame.events, hsame.lost, hsame.given]
    exact h.counted (hcleared ▸ hnot)
  persisted hworker hpath :=
    hpersisted (h.persisted (hsame.hasWorker ▸ hworker) (hsame.hasPath ▸ hpath))

theorem sameLog_refl (l : EventLog) : SameLog l l := ⟨rfl, rfl, rfl, rfl, rfl, rfl, rfl, rfl⟩

/-- **A calm step keeps the invariant.** -/
theorem Invariant.step {s : System} {a : Action} (h : Invariant s) (hcalm : Calm s a) :
    Invariant (s.step a) := by
  cases a with
  | append m =>
    have hevent := calmEvent hcalm
    have hscheduled := Scheduled.append hcalm.2.2.1 fun htop => (hevent.room htop).2
    exact ⟨h.kept.append hevent h.capacity, hscheduled.capacity ▸ h.capacity,
      fun hcleared => (h.counted hcleared).append, fun hworker hpath =>
        (h.persisted (hscheduled.hasWorker ▸ hworker) (hscheduled.hasPath ▸ hpath)).operated
          hscheduled (hscheduled.hasWorker ▸ hworker) (hscheduled.hasPath ▸ hpath)⟩
  | clear =>
    have hscheduled := Scheduled.clear hcalm
    refine ⟨h.kept.clear, hscheduled.capacity ▸ h.capacity, nofun, fun hworker hpath => ?_⟩
    have hold := (h.persisted (hscheduled.hasWorker ▸ hworker) (hscheduled.hasPath ▸ hpath)).operated
      hscheduled (hscheduled.hasWorker ▸ hworker) (hscheduled.hasPath ▸ hpath)
    exact { hold with
      last := fun copy hcopy => { hold.last copy hcopy with }
      held := fun copy hcopy => { hold.held copy hcopy with } }
  | take =>
    refine h.same ?_ ?_ Persisted.take
    · simp only [System.step]
      split_ifs <;> exact ⟨rfl, rfl, rfl, rfl, rfl, rfl, rfl, rfl⟩
    · simp only [System.step]
      split_ifs <;> rfl
  | copyFails =>
    refine h.same ?_ ?_ Persisted.copyFails
    · simp only [System.step]
      split_ifs <;> exact ⟨rfl, rfl, rfl, rfl, rfl, rfl, rfl, rfl⟩
    · simp only [System.step]
      split_ifs <;> rfl
  | write succeeded =>
    refine h.same ?_ ?_ fun hold => hold.write succeeded
    · simp only [System.step]
      split <;> exact sameLog_refl _
    · simp only [System.step]
      split <;> rfl
  | record =>
    refine h.same ?_ ?_ Persisted.record
    · simp only [System.step]
      split
      · split_ifs <;> exact ⟨rfl, rfl, rfl, rfl, rfl, rfl, rfl, rfl⟩
      · exact sameLog_refl _
    · simp only [System.step]
      split <;> rfl
  | flush => exact h.same (sameLog_refl _) rfl Persisted.flush

section

variable {capacity : ℕ} {hasPath usable initialized started : Bool}

/-- A log begins empty, and it is ready when its empty file was written. -/
theorem construct_new (capacity : ℕ) (hasPath usable initialized started : Bool) :
    (∃ hasWorker, SameLog { capacity, hasPath, hasWorker }
      (EventLog.construct capacity hasPath usable initialized started)) ∧
    (EventLog.construct capacity hasPath usable initialized started).persistenceRevision = 0 ∧
    (EventLog.construct capacity hasPath usable initialized started).persistedRevision = 0 ∧
    ((EventLog.construct capacity hasPath usable initialized started).persistenceReady = true →
      (hasPath && usable && initialized) = true) := by
  cases hasPath <;> cases usable <;> cases initialized <;> cases started <;>
    exact ⟨⟨_, rfl, rfl, rfl, rfl, rfl, rfl, rfl, rfl⟩, rfl, rfl,
      by simp [EventLog.construct, EventLog.recordPersistenceFailure]⟩

theorem invariant_start (hcapacity : 0 < capacity) :
    Invariant (System.start capacity hasPath usable initialized started) := by
  obtain ⟨⟨_, hsame⟩, hrevision, hpersisted, hready⟩ :=
    construct_new capacity hasPath usable initialized started
  have hkept : ∀ hasWorker, Kept { capacity, hasPath, hasWorker } := fun _ =>
    ⟨nofun, List.Pairwise.nil, Nat.zero_le _, List.Pairwise.nil, nofun, of_decide_eq_true rfl, rfl⟩
  refine ⟨(hkept _).same hsame, hsame.capacity ▸ hcapacity, fun _ => ?_, fun _ _ => ?_⟩
  · unfold Counted System.start
    rw [hsame.events, hsame.lost, hsame.given]
    rfl
  · have hcopy : CopyOf (System.start capacity hasPath usable initialized started) ⟨[], 0, 0⟩ :=
      ⟨Nat.zero_le _, hpersisted.le, fun _ => le_rfl, rfl, nofun⟩
    refine ⟨Nat.one_pos, congrArg some hsame.events.symm, Nat.one_pos, ?_, fun h => ?_, nofun,
      fun copy hlast => ?_, nofun, nofun⟩
    · exact hpersisted.le.trans (Nat.zero_le _)
    · unfold System.start
      rw [if_pos (hready h)]
      exact List.cons_ne_nil _ _
    · unfold System.start at hlast
      simp only at hlast
      split_ifs at hlast
      · exact Option.some_inj.mp hlast ▸ hcopy
      · cases hlast

/-- **The event log keeps its promises** over every calm run. -/
theorem event_log_promises (hcapacity : 0 < capacity) (actions : List Action)
    (hcalm : Along System.step Calm (.start capacity hasPath usable initialized started) actions) :
    Promises (exec System.step (.start capacity hasPath usable initialized started) actions) := by
  have h : Invariant (exec System.step (.start capacity hasPath usable initialized started) actions) :=
    exec_invariant_along (fun _ _ h => h.step) actions _ (invariant_start hcapacity) hcalm
  generalize exec System.step (.start capacity hasPath usable initialized started) actions = s at h
  exact {
    bounded := h.kept.bounded
    order := h.kept.order
    stands := fun r hr => ⟨(h.kept.stands r hr).nonempty, (h.kept.stands r hr).repeated⟩
    sequences := h.kept.sequences
    guarded := fun m hm r hr haudit hevicted =>
      h.kept.guarded (calmEvent hm) h.capacity hr haudit hevicted
    count := fun hcleared happended hrepeats => h.kept.count (h.counted hcleared) happended hrepeats
    flushed := fun call hcall hpath hreturns => by
      unfold System.flushReturns at hreturns
      rw [hpath, Bool.not_true, Bool.false_or, Bool.and_eq_true, Bool.and_eq_true] at hreturns
      obtain ⟨⟨hworker, hready⟩, htarget⟩ := hreturns
      have hpersisted := h.persisted hworker hpath
      obtain ⟨copy, hcopy⟩ := Option.ne_none_iff_exists'.mp
        (List.getLast?_eq_none_iff.not.mpr (hpersisted.ready hready))
      have hlast := hpersisted.last copy hcopy
      exact ⟨copy, hcopy, hlast.calls call hcall ((of_decide_eq_true htarget).trans hlast.recorded),
        hlast.past⟩ }

end

/-- An event is appended and written, and a call of `flush` begins. -/
theorem event_log_promises_written :
    0 < 2 ∧ Promises (exec System.step (.start 2 true true true true)
      [.append { code := ascii "STARTED" }, .take, .write true, .record, .flush]) :=
  ⟨Nat.two_pos, event_log_promises Nat.two_pos _
    ⟨⟨rfl, nofun, of_decide_eq_true rfl, fun h => absurd h (by decide)⟩, trivial, trivial, trivial,
      trivial, trivial⟩⟩

/-- An event that is marked and repeats one that is not is evicted while an ordinary one stays. -/
theorem marked_repeat_is_evicted :
    ∃ s : System, s = exec System.step (.start 2 false false false false)
        [.append { code := ascii "A" }, .append { code := ascii "A", retainedAudit := true },
          .append { code := ascii "B" }] ∧
      ∃ r ∈ s.log.events, AsAudit s.log.given r ∧
        Evicted r (s.log.append (Message.event { code := ascii "C" })) ∧
        ∃ q ∈ s.log.events, ¬ AsAudit s.log.given q ∧
          q ∈ (s.log.append (Message.event { code := ascii "C" })).events := by
  refine ⟨_, rfl, ?_⟩
  unfold Evicted
  decide +kernel

end Kf2Optimizer.Diagnostics
