/-
# The order of arrival

A queue drops its oldest presents while late ones still come in.  What it holds is nevertheless a matter of
the SET of times it was given: the largest of them, as many as it has room for
(`times_arrived`).  With room for every stream no stream gives way, and the selection of a drain is the
greatest of the candidates in a linear order (`supersedes_iff`), so neither the order of the
arrivals nor that of the hash map shows (`arrival_order_irrelevant`).
-/
import Kf2Optimizer.Lib.Largest
import Kf2Optimizer.Telemetry.PresentLosses

namespace Kf2Optimizer.Telemetry

open Ranks StepMachine

/-! ## 1. The times of a queue -/

namespace PresentQueue

variable {identity : SampleIdentity}

def times (q : PresentQueue identity) : List ℕ := q.presents.map (·.monotonicNs)

theorem times_increasing (q : PresentQueue identity) : q.times.Pairwise (· < ·) :=
  List.pairwise_map.mpr q.increasing

theorem length_times (q : PresentQueue identity) : q.times.length = q.presents.length :=
  List.length_map _

/-- The presents of a queue are its times, under its identity. -/
theorem presents_eq (q : PresentQueue identity) : q.presents = q.times.map (⟨identity, ·⟩) := by
  rw [times, List.map_map]
  refine (List.map_id _).symm.trans (List.map_congr_left fun p hp => ?_)
  rw [← q.same p hp]
  rfl

theorem ext_times {q q' : PresentQueue identity} (h : q.times = q'.times) : q = q' := by
  have hpresents : q.presents = q'.presents := by rw [presents_eq, presents_eq, h]
  cases q
  cases q'
  cases hpresents
  rfl

/-- A queue refuses only a time that it holds. -/
theorem mem_times_of_insert_eq_none {q : PresentQueue identity} {ns : ℕ} {hns : ns < 2 ^ 64}
    (h : q.insert ns hns = none) : ns ∈ q.times := by
  unfold insert at h
  split at h
  · rename_i hfound
    obtain ⟨p, hp, rfl⟩ := Option.map_eq_some_iff.mp hfound
    exact List.mem_map_of_mem (List.mem_of_getElem? hp)
  · cases h

theorem toFinset_times_insert {q q' : PresentQueue identity} {ns : ℕ} {hns : ns < 2 ^ 64}
    (h : q.insert ns hns = some q') : q'.times.toFinset = q.times.toFinset ∪ {ns} := by
  unfold insert at h
  split at h
  · cases h
  · obtain rfl := Option.some.inj h
    have hsplit := List.take_append_drop (q.position ns) q.presents
    ext x
    conv_rhs => rw [times, ← hsplit]
    simp only [times, List.map_append, List.map_cons, List.mem_toFinset, List.mem_append, List.mem_cons,
      Finset.mem_union, Finset.mem_singleton]
    tauto

/-- What is left of a queue that has taken a time in. -/
def arrive (q : PresentQueue identity) (ns : ℕ) (hns : ns < 2 ^ 64) (capacity : ℕ) : PresentQueue identity :=
  match q.insert ns hns with
  | none => q
  | some q' => q'.keepNewest capacity

/-- **An arrival** leaves the largest of the times, with the new one. -/
theorem times_arrive {q : PresentQueue identity} {ns : ℕ} (hns : ns < 2 ^ 64) {capacity : ℕ}
    (hroom : q.presents.length ≤ capacity) :
    (q.arrive ns hns capacity).times = largest capacity (q.times.toFinset ∪ {ns}) := by
  unfold arrive
  split
  · rename_i hnone
    have hmem := mem_times_of_insert_eq_none hnone
    have hset : q.times.toFinset ∪ {ns} = q.times.toFinset :=
      Finset.union_eq_left.mpr (Finset.singleton_subset_iff.mpr (List.mem_toFinset.mpr hmem))
    rw [hset, ← drop_eq_largest q.times_increasing, length_times, Nat.sub_eq_zero_of_le hroom, List.drop_zero]
  · rename_i q' hsome
    rw [← toFinset_times_insert hsome, ← drop_eq_largest q'.times_increasing, length_times]
    exact List.map_drop

theorem length_arrive {q : PresentQueue identity} {ns : ℕ} (hns : ns < 2 ^ 64) {capacity : ℕ}
    (hroom : q.presents.length ≤ capacity) : (q.arrive ns hns capacity).presents.length ≤ capacity := by
  rw [← length_times, times_arrive hns hroom, length_largest]
  exact min_le_left ..

end PresentQueue

namespace PresentSource

/-! ## 2. Streams in order -/

/-- The ids of the streams. -/
def ids (s : PresentSource) : List ℕ := s.streams.map Prod.fst

/-- The times that the stream of the id holds. -/
def times (s : PresentSource) (id : ℕ) : List ℕ :=
  ((s.streams.lookup id).map (·.queue.times)).getD []

/-- Every id has one stream, with no more than its share of presents. -/
structure Orderly (s : PresentSource) : Prop where
  nodup : s.ids.Nodup
  room : ∀ entry ∈ s.streams, entry.2.queue.presents.length ≤ s.capacity

theorem Orderly.of_empty {s : PresentSource} (h : s.streams = []) : s.Orderly := by
  constructor
  · rw [ids, h]
    exact List.nodup_nil
  · rw [h]
    exact fun _ hentry => absurd hentry List.not_mem_nil

theorem Orderly.withLoss {s : PresentSource} (h : s.Orderly) (event : PresentEvent) :
    (s.withLoss event).Orderly := by
  unfold PresentSource.withLoss
  split
  · have hids : (s.streams.map s.restamped).map Prod.fst = s.ids := keys_map s.streams fun _ => rfl
    constructor
    · show ((s.streams.map s.restamped).map Prod.fst).Nodup
      rw [hids]
      exact h.nodup
    · intro entry hentry
      obtain ⟨old, hold, rfl⟩ := List.mem_map.mp hentry
      exact h.room old hold
  · exact h

theorem Orderly.withStream {s s' : PresentSource} (h : s.Orderly) {id ns : ℕ}
    (hstream : s.withStream id ns = some s') : s'.Orderly := by
  unfold PresentSource.withStream at hstream
  split at hstream
  · obtain rfl := Option.some.inj hstream
    exact h
  · rename_i hnone
    obtain ⟨streams, hroom, rfl⟩ := Option.map_eq_some_iff.mp hstream
    have hsub := withRoom_sublist hroom
    constructor
    · simp only [ids, List.map_append, List.map_cons, List.map_nil]
      refine List.nodup_append.mpr ⟨h.nodup.sublist (hsub.map Prod.fst), List.nodup_singleton _, ?_⟩
      rintro a ha b hb rfl
      rw [List.mem_singleton] at hb
      exact lookup_eq_none.mp hnone ((hsub.map Prod.fst).subset (hb ▸ ha))
    · intro entry hentry
      rcases List.mem_append.mp hentry with hentry | hentry
      · exact h.room entry (hsub.subset hentry)
      · rw [List.mem_singleton.mp hentry]
        exact Nat.zero_le _

theorem lookup_requeued {identity : SampleIdentity} (streams : List (ℕ × Stream identity)) (id other : ℕ)
    (queue : PresentQueue identity) :
    ((streams.map (requeued id queue)).lookup other).map (·.queue.times) =
      if other = id then (streams.lookup other).map fun _ => queue.times
      else (streams.lookup other).map (·.queue.times) := by
  induction streams with
  | nil => simp
  | cons entry streams ih =>
    rw [List.map_cons, List.lookup_cons, List.lookup_cons, fst_requeued]
    by_cases hother : other = entry.1
    · subst hother
      simp only [beq_self_eq_true, Option.map_some]
      by_cases hid : entry.1 = id
      · rw [if_pos hid, queue_requeued queue hid]
      · rw [if_neg hid, requeued_of_ne queue hid]
    · rw [beq_false_of_ne hother]
      exact ih

/-- What a drain reads of a source, apart from its streams. -/
structure SameRest (s s' : PresentSource) : Prop extends SameMode s s' where
  identity : s'.identity = s.identity
  capacity : s'.capacity = s.capacity
  uncountedLoss : s'.uncountedLoss = s.uncountedLoss
  reportedLoss : s'.reportedLoss = s.reportedLoss
  lossBoundaryNs : s'.lossBoundaryNs = s.lossBoundaryNs
  drainGeneration : s'.drainGeneration = s.drainGeneration
  statisticsNotBeforeNs : s'.statisticsNotBeforeNs = s.statisticsNotBeforeNs

theorem SameRest.refl (s : PresentSource) : SameRest s s :=
  ⟨⟨rfl, rfl⟩, rfl, rfl, rfl, rfl, rfl, rfl, rfl⟩

theorem SameRest.trans {s t u : PresentSource} (h : SameRest s t) (h' : SameRest t u) : SameRest s u where
  running := h'.running.trans h.running
  schemaFailure := h'.schemaFailure.trans h.schemaFailure
  identity := h'.identity.trans h.identity
  capacity := h'.capacity.trans h.capacity
  uncountedLoss := h'.uncountedLoss.trans h.uncountedLoss
  reportedLoss := h'.reportedLoss.trans h.reportedLoss
  lossBoundaryNs := h'.lossBoundaryNs.trans h.lossBoundaryNs
  drainGeneration := h'.drainGeneration.trans h.drainGeneration
  statisticsNotBeforeNs := h'.statisticsNotBeforeNs.trans h.statisticsNotBeforeNs

theorem mem_ids_iff {s : PresentSource} {id : ℕ} : id ∈ s.ids ↔ (s.streams.lookup id).isSome = true := by
  rw [Option.isSome_iff_ne_none, ne_eq, lookup_eq_none, not_not]
  rfl

theorem room_of_lookup {s : PresentSource} (h : s.Orderly) {id : ℕ} {stream : Stream s.identity}
    (hfound : s.streams.lookup id = some stream) : stream.queue.presents.length ≤ s.capacity :=
  h.room _ (lookup_mem hfound)

/-- What the arrival of a present does to a source. -/
structure Arrives (s s' : PresentSource) (event : PresentEvent) : Prop extends SameRest s s' where
  orderly : s'.Orderly
  ids : ∀ id, id ∈ s'.ids ↔ id ∈ s.ids ∨ id = event.streamId
  times : ∀ id, s'.times id = if id = event.streamId then
    largest s.capacity ((s.times id).toFinset ∪ {event.monotonicNs}) else s.times id

/-- **The present joins its stream.** -/
theorem arrives_admitEvent {s : PresentSource} (h : s.Orderly) {event : PresentEvent}
    (hfound : event.streamId ∈ s.ids) : Arrives s (s.admitEvent event).1 event := by
  obtain ⟨stream, hstream⟩ := Option.isSome_iff_exists.mp (mem_ids_iff.mp hfound)
  have hroom := room_of_lookup h hstream
  have htimes := PresentQueue.times_arrive event.bounded hroom
  have hlength := PresentQueue.length_arrive event.bounded hroom
  have hheld : s.times event.streamId = stream.queue.times := by simp [PresentSource.times, hstream]
  have hids : ∀ id, id ∈ s.ids ↔ id ∈ s.ids ∨ id = event.streamId :=
    fun id => ⟨.inl, fun hor => hor.elim (fun hmem => hmem) fun heq => heq ▸ hfound⟩
  unfold PresentSource.admitEvent
  rw [hstream]
  simp only
  cases hinsert : stream.queue.insert event.monotonicNs event.bounded with
  | none =>
    simp only
    refine ⟨⟨⟨rfl, rfl⟩, rfl, rfl, rfl, rfl, rfl, rfl, rfl⟩, ⟨h.nodup, h.room⟩, hids, fun id => ?_⟩
    split
    · rename_i heq
      rw [heq, hheld, ← htimes, PresentQueue.arrive, hinsert]
      exact hheld
    · rfl
  | some queue =>
    simp only
    have harrive : stream.queue.arrive event.monotonicNs event.bounded s.capacity =
        queue.keepNewest s.capacity := by
      rw [PresentQueue.arrive, hinsert]
    rw [harrive] at htimes hlength
    have hkeys : (s.streams.map (requeued event.streamId (queue.keepNewest s.capacity))).map Prod.fst = s.ids :=
      keys_map s.streams (fst_requeued _ _)
    refine ⟨⟨⟨rfl, rfl⟩, rfl, rfl, rfl, rfl, rfl, rfl, rfl⟩, ⟨?_, ?_⟩, fun id => ?_, fun id => ?_⟩
    · show ((s.streams.map (requeued event.streamId (queue.keepNewest s.capacity))).map Prod.fst).Nodup
      rw [hkeys]
      exact h.nodup
    · intro entry hentry
      obtain ⟨old, hold, rfl⟩ := List.mem_map.mp hentry
      by_cases hid : old.1 = event.streamId
      · rw [queue_requeued _ hid]
        exact hlength
      · rw [requeued_of_ne _ hid]
        exact h.room old hold
    · show id ∈ (s.streams.map (requeued event.streamId (queue.keepNewest s.capacity))).map Prod.fst ↔ _
      rw [hkeys]
      exact hids id
    · show ((s.streams.map (requeued event.streamId (queue.keepNewest s.capacity))).lookup id |>.map
        (·.queue.times)).getD [] = _
      rw [lookup_requeued]
      split
      · rename_i heq
        rw [heq, hstream, hheld, ← htimes]
        rfl
      · rfl

/-- **A stream for the event**: with room for it, no other gives way. -/
theorem withStream_room {s : PresentSource} (h : s.Orderly) {id : ℕ} (ns : ℕ)
    (hroom : id ∈ s.ids ∨ s.ids.length < maximumStreams) :
    ∃ s', s.withStream id ns = some s' ∧ SameRest s s' ∧ s'.Orderly ∧
      (∀ other, other ∈ s'.ids ↔ other ∈ s.ids ∨ other = id) ∧ ∀ other, s'.times other = s.times other := by
  cases hfound : s.streams.lookup id with
  | some stream =>
    have hmem : id ∈ s.ids := mem_ids_iff.mpr (by rw [hfound]; rfl)
    refine ⟨s, by rw [PresentSource.withStream, hfound], .refl s, h, fun other => ?_, fun _ => rfl⟩
    exact ⟨.inl, fun hor => hor.elim (fun hmem => hmem) fun heq => heq ▸ hmem⟩
  | none =>
    have hout := lookup_eq_none.mp hfound
    have hlength : ¬ maximumStreams ≤ s.streams.length := by
      have := hroom.resolve_left hout
      rw [ids, List.length_map] at this
      omega
    have hwith : ∃ s', s.withStream id ns = some s' ∧ SameRest s s' ∧
        (∀ other, other ∈ s'.ids ↔ other ∈ s.ids ∨ other = id) ∧ ∀ other, s'.times other = s.times other := by
      rw [PresentSource.withStream, hfound, withRoom, if_neg hlength]
      refine ⟨_, rfl, ⟨⟨rfl, rfl⟩, rfl, rfl, rfl, rfl, rfl, rfl, rfl⟩, fun other => ?_, fun other => ?_⟩
      · simp [ids]
      · simp only [times, List.lookup_append]
        by_cases hother : other = id
        · subst hother
          rw [hfound]
          simp [PresentQueue.times, PresentQueue.empty]
        · rw [List.lookup_cons, beq_false_of_ne hother]
          simp
    obtain ⟨s', hsome, hrest, hids, htimes⟩ := hwith
    exact ⟨s', hsome, hrest, h.withStream hsome, hids, htimes⟩

theorem found_withStream {s s' : PresentSource} {id ns : ℕ} (h : s.withStream id ns = some s') : id ∈ s'.ids := by
  unfold PresentSource.withStream at h
  split at h
  · rename_i stream hfound
    obtain rfl := Option.some.inj h
    exact mem_ids_iff.mpr (by rw [hfound]; rfl)
  · obtain ⟨streams, -, rfl⟩ := Option.map_eq_some_iff.mp h
    simp [ids]

/-! ## 3. Runs -/

theorem Orderly.ingest {s : PresentSource} (h : s.Orderly) (event : PresentEvent) : (s.ingest event).1.Orderly := by
  unfold PresentSource.ingest
  split
  · exact h
  · split
    · exact .of_empty rfl
    · obtain heq | ⟨s', hstream, heq⟩ := s.ingestPresent_cases event
      · rw [heq]
        exact h.withLoss event
      · rw [heq]
        exact (arrives_admitEvent ((h.withLoss event).withStream hstream) (found_withStream hstream)).orderly

/-- The hash map takes another order. -/
theorem Orderly.rehash {s : PresentSource} (h : s.Orderly) (order : ℕ → ℕ) : (s.apply (.rehash order)).Orderly := by
  have hperm : (sortBy (fun entry : ℕ × Stream s.identity => order entry.1) s.streams).Perm s.streams :=
    sortBy_perm _ _
  exact ⟨(hperm.map Prod.fst).nodup_iff.mpr h.nodup, fun entry hentry => h.room entry (hperm.mem_iff.mp hentry)⟩

theorem Orderly.apply {s : PresentSource} (h : s.Orderly) (op : PresentOp) : (s.apply op).Orderly := by
  cases op with
  | start | stop | bind identity | resetStatistics => exact .of_empty rfl
  | ingest event => exact h.ingest event
  | recordLoss identity timestampNs count uncounted =>
    show (s.recordLoss identity timestampNs count uncounted).Orderly
    unfold PresentSource.recordLoss
    split
    · have hids : (s.streams.map s.restamped).map Prod.fst = s.ids := keys_map s.streams fun _ => rfl
      constructor
      · show ((s.streams.map s.restamped).map Prod.fst).Nodup
        rw [hids]
        exact h.nodup
      · intro entry hentry
        obtain ⟨old, hold, rfl⟩ := List.mem_map.mp hentry
        exact h.room old hold
    · exact h
  | setStatisticsBoundary notBeforeNs =>
    show (s.setStatisticsBoundary notBeforeNs).Orderly
    unfold PresentSource.setStatisticsBoundary
    split
    · exact h
    · exact ⟨h.nodup, h.room⟩
  | rehash order => exact h.rehash order

/-- **Every source** is in order. -/
theorem orderly_exec (identity : SampleIdentity) (capacity : ℕ) (calls : List PresentOp) :
    (exec apply (.new identity capacity) calls).Orderly :=
  exec_invariant (fun _ op h => h.apply op) calls _ (.of_empty rfl)

/-- A completed event of the identity, without a loss and in the known schema. -/
structure Plain (identity : SampleIdentity) (event : PresentEvent) : Prop where
  identity : event.identity = identity
  completed : event.completed = true
  eventsLost : event.eventsLost = 0
  schemaVersion : event.schemaVersion = 1

theorem ingest_plain {s : PresentSource} (hrunning : s.running = true) {event : PresentEvent}
    (hplain : Plain s.identity event) {s' : PresentSource}
    (hstream : s.withStream event.streamId event.monotonicNs = some s') : s.ingest event = s'.admitEvent event := by
  have hcarries : s.carriesLoss event = false := by
    simp [carriesLoss, hplain.completed, hplain.eventsLost]
  rw [PresentSource.ingest, if_neg (by simp [hrunning, hplain.identity]), if_neg (by simp [hplain.schemaVersion])]
  unfold ingestPresent
  simp only [hcarries, hplain.completed, Bool.false_eq_true, if_false, hstream]
  rfl

theorem arrives_ingest {s : PresentSource} (h : s.Orderly) (hrunning : s.running = true) {event : PresentEvent}
    (hplain : Plain s.identity event) (hroom : event.streamId ∈ s.ids ∨ s.ids.length < maximumStreams) :
    Arrives s (s.ingest event).1 event := by
  obtain ⟨s', hstream, hrest, horderly, hids, htimes⟩ := withStream_room h event.monotonicNs hroom
  have harrives := arrives_admitEvent horderly (found_withStream hstream)
  rw [ingest_plain hrunning hplain hstream]
  refine ⟨hrest.trans harrives.toSameRest, harrives.orderly, fun id => ?_, fun id => ?_⟩
  · rw [harrives.ids, hids]
    tauto
  · rw [harrives.times, htimes, hrest.capacity]

/-- The events that a list of calls hands over. -/
def arrived (calls : List PresentOp) : List PresentEvent :=
  calls.filterMap fun
    | .ingest event => some event
    | _ => none

/-- Only arrivals, and the hash map taking other orders. -/
def Arrivals (identity : SampleIdentity) (calls : List PresentOp) : Prop :=
  ∀ call ∈ calls, (∃ event, call = .ingest event ∧ Plain identity event) ∨ ∃ order, call = .rehash order

/-- The times of the events of a stream. -/
def eventTimes (id : ℕ) (events : List PresentEvent) : Finset ℕ :=
  ((events.filter fun event => event.streamId = id).map (·.monotonicNs)).toFinset

/-- What a source is after events have arrived. -/
structure Gathered (s₀ s : PresentSource) (events : List PresentEvent) : Prop extends SameRest s₀ s where
  orderly : s.Orderly
  ids : ∀ id, id ∈ s.ids ↔ id ∈ s₀.ids ∨ id ∈ events.map (·.streamId)
  times : ∀ id, s.times id = largest s₀.capacity ((s₀.times id).toFinset ∪ eventTimes id events)

/-- The streams that a source has or is given. -/
def allIds (s : PresentSource) (events : List PresentEvent) : Finset ℕ :=
  (s.ids ++ events.map (·.streamId)).toFinset

theorem times_eq_largest {s : PresentSource} (h : s.Orderly) (id : ℕ) :
    s.times id = largest s.capacity (s.times id).toFinset := by
  have hsorted : (s.times id).Pairwise (· < ·) ∧ (s.times id).length ≤ s.capacity := by
    unfold times
    cases hfound : s.streams.lookup id with
    | none => exact ⟨.nil, Nat.zero_le _⟩
    | some stream =>
      refine ⟨stream.queue.times_increasing, ?_⟩
      rw [Option.map_some, Option.getD_some, PresentQueue.length_times]
      exact room_of_lookup h hfound
  rw [← drop_eq_largest hsorted.1, Nat.sub_eq_zero_of_le hsorted.2, List.drop_zero]

/-- An id has one entry. -/
theorem entry_unique {identity : SampleIdentity} {streams : List (ℕ × Stream identity)}
    (hnodup : (streams.map Prod.fst).Nodup) {id : ℕ} {stream : Stream identity} (h : (id, stream) ∈ streams) :
    streams.lookup id = some stream := by
  cases hfound : streams.lookup id with
  | none => exact absurd (List.mem_map_of_mem h) (lookup_eq_none.mp hfound)
  | some other =>
    have heq := List.inj_on_of_nodup_map hnodup (lookup_mem hfound) h rfl
    rw [(Prod.mk.inj heq).2]

theorem times_rehash {s : PresentSource} (h : s.Orderly) (order : ℕ → ℕ) (id : ℕ) :
    (s.apply (.rehash order)).times id = s.times id := by
  have hperm : (sortBy (fun entry : ℕ × Stream s.identity => order entry.1) s.streams).Perm s.streams :=
    sortBy_perm _ _
  have hlookup : (sortBy (fun entry : ℕ × Stream s.identity => order entry.1) s.streams).lookup id =
      s.streams.lookup id := by
    cases hfound : s.streams.lookup id with
    | none => exact lookup_eq_none.mpr fun hmem => lookup_eq_none.mp hfound ((hperm.map Prod.fst).mem_iff.mp hmem)
    | some stream =>
      exact entry_unique ((hperm.map Prod.fst).nodup_iff.mpr h.nodup) (hperm.mem_iff.mpr (lookup_mem hfound))
  show ((sortBy (fun entry : ℕ × Stream s.identity => order entry.1) s.streams).lookup id |>.map
    (·.queue.times)).getD [] = _
  rw [hlookup]
  rfl

theorem Gathered.nil {s : PresentSource} (h : s.Orderly) : Gathered s s [] where
  toSameRest := .refl s
  orderly := h
  ids _ := by simp
  times id := by
    rw [eventTimes, List.filter_nil, List.map_nil, List.toFinset_nil, Finset.union_empty]
    exact times_eq_largest h id

theorem Gathered.rehash {s₀ s : PresentSource} {events : List PresentEvent} (h : Gathered s₀ s events)
    (order : ℕ → ℕ) : Gathered s₀ (s.apply (.rehash order)) events where
  toSameRest := h.toSameRest.trans ⟨⟨rfl, rfl⟩, rfl, rfl, rfl, rfl, rfl, rfl, rfl⟩
  orderly := h.orderly.rehash order
  ids id := by
    have hperm : (sortBy (fun entry : ℕ × Stream s.identity => order entry.1) s.streams).Perm s.streams :=
      sortBy_perm _ _
    exact (hperm.map Prod.fst).mem_iff.trans (h.ids id)
  times id := (times_rehash h.orderly order id).trans (h.times id)

theorem eventTimes_snoc (id : ℕ) (events : List PresentEvent) (event : PresentEvent) :
    eventTimes id (events ++ [event]) =
      if id = event.streamId then eventTimes id events ∪ {event.monotonicNs} else eventTimes id events := by
  ext x
  by_cases hid : id = event.streamId
  · subst hid
    simp [eventTimes, List.filter_append]
  · have hother : ¬ event.streamId = id := fun h => hid h.symm
    simp [eventTimes, List.filter_append, hid, hother]

/-- **One arrival.** -/
theorem Gathered.ingest {s₀ s : PresentSource} {events : List PresentEvent} (h : Gathered s₀ s events)
    (hrunning : s₀.running = true) {event : PresentEvent} (hplain : Plain s₀.identity event)
    (hroom : (s₀.allIds (events ++ [event])).card ≤ maximumStreams) :
    Gathered s₀ (s.ingest event).1 (events ++ [event]) := by
  have hids : s.ids.toFinset = s₀.allIds events := by
    ext id
    simp only [allIds, List.mem_toFinset, List.mem_append]
    exact h.ids id
  have hfree : event.streamId ∈ s.ids ∨ s.ids.length < maximumStreams := by
    by_contra hnone
    obtain ⟨hout, hfull⟩ := not_or.mp hnone
    have hsub : insert event.streamId s.ids.toFinset ⊆ s₀.allIds (events ++ [event]) := by
      rw [hids]
      intro id hid
      simp only [allIds, List.map_append, Finset.mem_insert, List.mem_toFinset, List.mem_append, List.map_cons,
        List.mem_cons, List.map_nil] at hid ⊢
      tauto
    have hcard := Finset.card_le_card hsub
    rw [Finset.card_insert_of_notMem (by rwa [List.mem_toFinset]),
      List.toFinset_card_of_nodup h.orderly.nodup] at hcard
    omega
  have hplain' : Plain s.identity event := h.identity ▸ hplain
  have harrives := arrives_ingest h.orderly (h.running.trans hrunning) hplain' hfree
  refine ⟨h.toSameRest.trans harrives.toSameRest, harrives.orderly, fun id => ?_, fun id => ?_⟩
  · rw [harrives.ids, h.ids]
    simp only [List.map_append, List.map_cons, List.map_nil, List.mem_append, List.mem_singleton]
    tauto
  · rw [harrives.times, eventTimes_snoc, h.capacity, h.times]
    split
    · rw [largest_union, Finset.union_assoc]
    · rfl

/-- **A run of arrivals.** -/
theorem gathered_exec {s : PresentSource} (h : s.Orderly) (hrunning : s.running = true) (calls : List PresentOp)
    (harrivals : Arrivals s.identity calls) (hroom : (s.allIds (arrived calls)).card ≤ maximumStreams) :
    Gathered s (exec apply s calls) (arrived calls) := by
  induction calls using List.reverseRecOn with
  | nil => exact .nil h
  | append_singleton calls call ih =>
    have hfirst : Arrivals s.identity calls := fun c hc => harrivals c (List.mem_append_left _ hc)
    have hsplit : arrived (calls ++ [call]) = arrived calls ++ arrived [call] := List.filterMap_append
    have hfewer : (s.allIds (arrived calls)).card ≤ maximumStreams := by
      refine (Finset.card_le_card ?_).trans hroom
      intro id hid
      rw [hsplit]
      simp only [allIds, List.mem_toFinset, List.mem_append, List.map_append] at hid ⊢
      tauto
    have hgathered := ih hfirst hfewer
    rw [exec_snoc, hsplit]
    rw [hsplit] at hroom
    obtain ⟨event, rfl, hplain⟩ | ⟨order, rfl⟩ := harrivals call (List.mem_append_right _ (List.mem_singleton_self _))
    · exact hgathered.ingest hrunning hplain hroom
    · have hnone : arrived [PresentOp.rehash order] = [] := rfl
      rw [hnone, List.append_nil]
      exact hgathered.rehash order

end PresentSource

/-! ## 4. The selection -/

section Selection

variable {identity : SampleIdentity}

/-- What a candidate is compared by, in the linear order of the selection. -/
def Selected.key (c : Selected identity) : Bool ×ₗ ℕ ×ₗ ℕ ×ₗ ℕᵒᵈ :=
  toLex (c.fresh, toLex (c.fastCount, toLex (c.newest, OrderDual.toDual c.streamId)))

/-- **The order of the selection** is linear. -/
theorem supersedes_iff (c old : Selected identity) : c.supersedes old = true ↔ old.key < c.key := by
  have hfresh : old.fresh < c.fresh ↔ c.fresh = true ∧ old.fresh = false := by
    cases old.fresh <;> cases c.fresh <;> decide
  simp only [Selected.supersedes, Selected.key, Prod.Lex.toLex_lt_toLex, OrderDual.toDual_lt_toDual, hfresh,
    Bool.or_eq_true, Bool.and_eq_true, Bool.not_eq_true', beq_iff_eq, decide_eq_true_eq]
  simp only [eq_comm (a := c.fresh), eq_comm (a := c.fastCount), eq_comm (a := c.newest)]

/-- The better of two, the first unless the second supersedes it. -/
def better (selected candidate : Option (Selected identity)) : Option (Selected identity) :=
  match selected, candidate with
  | selected, none => selected
  | none, some c => some c
  | some old, some c => if c.supersedes old then some c else some old

/-- A queue as a candidate. -/
def candidateOf (nowNs staleAfterNs notBeforeNs : ℕ) (entry : ℕ × PresentQueue identity) :
    Option (Selected identity) :=
  consider nowNs staleAfterNs notBeforeNs none (entry.1, ⟨entry.2, 0, 0⟩)

theorem consider_eq (nowNs staleAfterNs notBeforeNs : ℕ) (selected : Option (Selected identity))
    (entry : ℕ × Stream identity) :
    consider nowNs staleAfterNs notBeforeNs selected entry =
      better selected (candidateOf nowNs staleAfterNs notBeforeNs (entry.1, entry.2.queue)) := by
  unfold candidateOf consider
  cases entry.2.queue.newest with
  | none => simp [better]
  | some newest =>
    simp only
    split
    · simp [better]
    · cases selected <;> simp [better]

theorem streamId_candidateOf {nowNs staleAfterNs notBeforeNs : ℕ} {entry : ℕ × PresentQueue identity}
    {c : Selected identity} (h : candidateOf nowNs staleAfterNs notBeforeNs entry = some c) :
    c.streamId = entry.1 := by
  unfold candidateOf consider at h
  split at h
  · cases h
  · simp only at h
    split at h
    · cases h
    · rw [← Option.some.inj h]

/-- Two candidates that differ may come in either order. -/
theorem better_comm {x y : Option (Selected identity)}
    (h : ∀ c ∈ x, ∀ d ∈ y, c.key = d.key → c = d) (z : Option (Selected identity)) :
    better (better z x) y = better (better z y) x := by
  cases x with
  | none => cases z <;> cases y <;> rfl
  | some c =>
    cases y with
    | none => cases z <;> rfl
    | some d =>
      have hcd : c.key = d.key → c = d := h c rfl d rfl
      cases z with
      | none =>
        simp only [better, supersedes_iff]
        rcases lt_trichotomy c.key d.key with hlt | heq | hlt
        · rw [if_pos hlt, if_neg hlt.asymm]
        · rw [hcd heq]
        · rw [if_neg hlt.asymm, if_pos hlt]
      | some old =>
        simp only [better, supersedes_iff]
        rcases lt_trichotomy c.key d.key with hlt | heq | hlt
        · by_cases hold : old.key < c.key
          · rw [if_pos hold, if_pos (hold.trans hlt)]
            simp only [if_pos hlt, if_neg hlt.asymm]
          · rw [if_neg hold]
            by_cases hd : old.key < d.key
            · simp only [if_pos hd, if_neg hlt.asymm]
            · simp only [if_neg hd, if_neg hold]
        · rw [hcd heq]
        · by_cases hold : old.key < d.key
          · rw [if_pos hold, if_pos (hold.trans hlt)]
            simp only [if_pos hlt, if_neg hlt.asymm]
          · rw [if_neg hold]
            by_cases hc : old.key < c.key
            · simp only [if_pos hc, if_neg hlt.asymm]
            · simp only [if_neg hc, if_neg hold]

end Selection

namespace PresentSource

/-- The queues with their ids. -/
def queues (s : PresentSource) : List (ℕ × PresentQueue s.identity) :=
  s.streams.map fun entry => (entry.1, entry.2.queue)

theorem fst_queues (s : PresentSource) : s.queues.map Prod.fst = s.ids := by
  rw [queues, List.map_map]
  rfl

theorem selected_eq (s : PresentSource) (nowNs staleAfterNs notBeforeNs : ℕ) :
    s.selected nowNs staleAfterNs notBeforeNs =
      (s.queues.map (candidateOf nowNs staleAfterNs notBeforeNs)).foldl better none := by
  rw [queues, List.map_map, List.foldl_map, selected]
  refine List.foldl_ext _ _ _ fun selected entry _ => ?_
  exact consider_eq nowNs staleAfterNs notBeforeNs selected entry

/-- **The selection** does not depend on the order of the hash map. -/
theorem foldl_better_perm {identity : SampleIdentity} {queues queues' : List (ℕ × PresentQueue identity)}
    (hperm : queues.Perm queues') (hnodup : (queues.map Prod.fst).Nodup) (nowNs staleAfterNs notBeforeNs : ℕ) :
    (queues.map (candidateOf nowNs staleAfterNs notBeforeNs)).foldl better none =
      (queues'.map (candidateOf nowNs staleAfterNs notBeforeNs)).foldl better none := by
  refine (hperm.map _).foldl_eq' (fun x hx y hy z => better_comm ?_ z) none
  intro c hc d hd hkey
  obtain ⟨p, hp, rfl⟩ := List.mem_map.mp hx
  obtain ⟨q, hq, rfl⟩ := List.mem_map.mp hy
  have hid : c.streamId = d.streamId := by
    simp only [Selected.key, EmbeddingLike.apply_eq_iff_eq, Prod.mk.injEq] at hkey
    exact hkey.2.2.2
  rw [streamId_candidateOf hc, streamId_candidateOf hd] at hid
  have heq : p = q := List.inj_on_of_nodup_map hnodup hp hq hid
  subst heq
  exact Option.some.inj (hc.symm.trans hd)

/-- The same presents under the same ids: the same queues in some order. -/
theorem queues_perm {identity : SampleIdentity} {s t : List (ℕ × Stream identity)}
    (hs : (s.map Prod.fst).Nodup) (ht : (t.map Prod.fst).Nodup)
    (hids : ∀ id, id ∈ s.map Prod.fst ↔ id ∈ t.map Prod.fst)
    (htimes : ∀ id, ((s.lookup id).map (·.queue.times)).getD [] = ((t.lookup id).map (·.queue.times)).getD []) :
    (s.map fun entry => (entry.1, entry.2.queue)).Perm (t.map fun entry => (entry.1, entry.2.queue)) := by
  have hsub : ∀ {s t : List (ℕ × Stream identity)}, (s.map Prod.fst).Nodup →
      (∀ id, id ∈ s.map Prod.fst → id ∈ t.map Prod.fst) →
      (∀ id, ((s.lookup id).map (·.queue.times)).getD [] = ((t.lookup id).map (·.queue.times)).getD []) →
      ∀ x ∈ s.map fun entry => (entry.1, entry.2.queue), x ∈ t.map fun entry => (entry.1, entry.2.queue) := by
    intro s t hs hids htimes x hx
    obtain ⟨⟨id, stream⟩, hentry, rfl⟩ := List.mem_map.mp hx
    have hfound := entry_unique hs hentry
    obtain ⟨other, hother⟩ := Option.ne_none_iff_exists'.mp
      (mt lookup_eq_none.mp (not_not.mpr (hids id (List.mem_map_of_mem hentry))))
    have hqueue : stream.queue = other.queue := by
      have := htimes id
      rw [hfound, hother] at this
      exact PresentQueue.ext_times this
    refine List.mem_map.mpr ⟨(id, other), lookup_mem hother, ?_⟩
    rw [hqueue]
  have hnodup : ∀ {s : List (ℕ × Stream identity)}, (s.map Prod.fst).Nodup →
      (s.map fun entry => (entry.1, entry.2.queue)).Nodup := by
    intro s hs
    refine List.Nodup.of_map Prod.fst ?_
    rwa [List.map_map]
  refine (List.perm_ext_iff_of_nodup (hnodup hs) (hnodup ht)).mpr fun x => ⟨?_, ?_⟩
  · exact hsub hs (fun id => (hids id).mp) htimes x
  · exact hsub ht (fun id => (hids id).mpr) (fun id => (htimes id).symm) x

theorem afterLosses_eq (s : PresentSource) (notBeforeNs : ℕ) (selected : Option (Selected s.identity)) :
    s.afterLosses notBeforeNs selected =
      (selected.map fun c => decide (s.lossBoundaryNs < windowCutoff c.newest longestWindowNs notBeforeNs)).getD
        false := by
  cases selected <;> rfl

/-- **A drain** reads the presents of the streams and the rest. -/
theorem drain_congr {s t : PresentSource} (hrest : SameRest s t) (hs : s.Orderly) (ht : t.Orderly)
    (hids : ∀ id, id ∈ s.ids ↔ id ∈ t.ids) (htimes : ∀ id, s.times id = t.times id)
    (nowNs staleAfterNs notBeforeNs : ℕ) :
    (s.selected nowNs staleAfterNs notBeforeNs).map (·.streamId) =
        (t.selected nowNs staleAfterNs notBeforeNs).map (·.streamId) ∧
      s.drain nowNs staleAfterNs notBeforeNs = t.drain nowNs staleAfterNs notBeforeNs := by
  obtain ⟨⟨hrunning, hschema⟩, hidentity, hcapacity, huncounted, hreported, hboundary, hgeneration,
    hstatistics⟩ := hrest
  obtain ⟨identity, running, schemaFailure, uncountedLoss, reportedLoss, lossBoundaryNs, streams,
    drainGeneration, statisticsNotBeforeNs, capacity⟩ := s
  obtain ⟨identity', running', schemaFailure', uncountedLoss', reportedLoss', lossBoundaryNs', streams',
    drainGeneration', statisticsNotBeforeNs', capacity'⟩ := t
  simp only at hrunning hschema hidentity hcapacity huncounted hreported hboundary hgeneration hstatistics
  subst hrunning hschema hidentity hcapacity huncounted hreported hboundary hgeneration hstatistics
  have hselected := foldl_better_perm (queues_perm hs.nodup ht.nodup hids htimes)
    (by rw [List.map_map]; exact hs.nodup) nowNs staleAfterNs notBeforeNs
  unfold drain
  simp only [selected_eq, queues, hselected, afterLosses_eq]
  exact ⟨trivial, trivial⟩

/-! ## 5. The order of arrival does not show -/

/-- **The order of arrival.**  A running source, with room for the streams it has and is given, is handed
the same completed loss-free events of its identity and of the known schema in two orders, with repetitions,
while its hash map takes any order.  Both ways each stream holds the largest of its times, in increasing
order, and every drain selects the same stream and returns the same metrics. -/
theorem arrival_order_irrelevant (identity : SampleIdentity) (capacity : ℕ) (calls : List PresentOp)
    {s : PresentSource} (hs : s = exec apply (.new identity capacity) calls) (hrunning : s.running = true)
    {arrivals arrivals' : List PresentOp} (harrivals : Arrivals s.identity arrivals)
    (harrivals' : Arrivals s.identity arrivals') (hsame : ∀ event, event ∈ arrived arrivals ↔ event ∈ arrived arrivals')
    (hroom : (s.allIds (arrived arrivals)).card ≤ maximumStreams) :
    (∀ id, (exec apply s arrivals).times id =
        largest s.capacity ((s.times id).toFinset ∪ eventTimes id (arrived arrivals)) ∧
      (exec apply s arrivals').times id = (exec apply s arrivals).times id) ∧
    ∀ nowNs staleAfterNs notBeforeNs,
      ((exec apply s arrivals).selected nowNs staleAfterNs notBeforeNs).map (·.streamId) =
          ((exec apply s arrivals').selected nowNs staleAfterNs notBeforeNs).map (·.streamId) ∧
        (exec apply s arrivals).drain nowNs staleAfterNs notBeforeNs =
          (exec apply s arrivals').drain nowNs staleAfterNs notBeforeNs := by
  have horderly : s.Orderly := hs ▸ orderly_exec identity capacity calls
  have htimes : ∀ id, eventTimes id (arrived arrivals) = eventTimes id (arrived arrivals') := by
    intro id
    ext x
    simp [eventTimes, hsame]
  have hids : ∀ id, id ∈ (arrived arrivals).map (·.streamId) ↔ id ∈ (arrived arrivals').map (·.streamId) := by
    intro id
    simp [hsame]
  have hroom' : (s.allIds (arrived arrivals')).card ≤ maximumStreams := by
    have heq : s.allIds (arrived arrivals') = s.allIds (arrived arrivals) := by
      ext id
      simp only [allIds, List.mem_toFinset, List.mem_append, hids]
    rwa [heq]
  have h := gathered_exec horderly hrunning arrivals harrivals hroom
  have h' := gathered_exec horderly hrunning arrivals' harrivals' hroom'
  have hheld : ∀ id, (exec apply s arrivals).times id = (exec apply s arrivals').times id := by
    intro id
    rw [h.times, h'.times, htimes]
  have hrest : SameRest (exec apply s arrivals) (exec apply s arrivals') :=
    { running := h'.running.trans h.running.symm
      schemaFailure := h'.schemaFailure.trans h.schemaFailure.symm
      identity := h'.identity.trans h.identity.symm
      capacity := h'.capacity.trans h.capacity.symm
      uncountedLoss := h'.uncountedLoss.trans h.uncountedLoss.symm
      reportedLoss := h'.reportedLoss.trans h.reportedLoss.symm
      lossBoundaryNs := h'.lossBoundaryNs.trans h.lossBoundaryNs.symm
      drainGeneration := h'.drainGeneration.trans h.drainGeneration.symm
      statisticsNotBeforeNs := h'.statisticsNotBeforeNs.trans h.statisticsNotBeforeNs.symm }
  refine ⟨fun id => ⟨h.times id, (hheld id).symm⟩, ?_⟩
  refine drain_congr hrest h.orderly h'.orderly (fun id => ?_) hheld
  rw [h.ids, h'.ids, hids]

/-- A completed present without a loss. -/
def presentAt (schemaVersion monotonicNs : ℕ) (h : monotonicNs < 2 ^ 64 := by decide) : PresentEvent :=
  { monotonicNs := monotonicNs, schemaVersion := schemaVersion, completed := true, bounded := h }

theorem arrival_order_irrelevant_late :
    (exec apply (exec apply (.new {} 2) [.start])
        [.ingest (presentAt 1 5), .ingest (presentAt 1 3), .ingest (presentAt 1 4)]).times 0 = [4, 5] ∧
      (exec apply (exec apply (.new {} 2) [.start])
          [.ingest (presentAt 1 4), .ingest (presentAt 1 5), .ingest (presentAt 1 3)]).times 0 =
        (exec apply (exec apply (.new {} 2) [.start])
          [.ingest (presentAt 1 5), .ingest (presentAt 1 3), .ingest (presentAt 1 4)]).times 0 := by
  have hplain : ∀ ns h, (∃ event, PresentOp.ingest (presentAt 1 ns h) = .ingest event ∧ Plain {} event) ∨
      ∃ order, PresentOp.ingest (presentAt 1 ns h) = .rehash order :=
    fun ns h => .inl ⟨_, rfl, ⟨rfl, rfl, rfl, rfl⟩⟩
  refine ⟨by decide +kernel, ((arrival_order_irrelevant {} 2 [.start] rfl rfl ?_ ?_ ?_ ?_).1 0).2⟩
  · intro call hcall
    simp only [List.mem_cons, List.not_mem_nil, or_false] at hcall
    rcases hcall with rfl | rfl | rfl <;> exact hplain _ _
  · intro call hcall
    simp only [List.mem_cons, List.not_mem_nil, or_false] at hcall
    rcases hcall with rfl | rfl | rfl <;> exact hplain _ _
  · intro event
    simp only [arrived, List.filterMap_cons, List.filterMap_nil, List.mem_cons, List.not_mem_nil, or_false]
    rw [← or_assoc, or_comm]
  · decide +kernel

/-- **An event of an unknown schema** takes the presents before it away, and not those behind it. -/
theorem unknown_schema_clears :
    ((presentAt 2 6).completed = true ∧ (presentAt 2 6).eventsLost = 0 ∧
      (presentAt 2 6).identity = (exec apply (.new {} 2) [.start]).identity) ∧
    (exec apply (exec apply (.new {} 2) [.start]) [.ingest (presentAt 1 5), .ingest (presentAt 2 6)]).times 0 = [] ∧
    (exec apply (exec apply (.new {} 2) [.start]) [.ingest (presentAt 2 6), .ingest (presentAt 1 5)]).times 0 =
      [5] := by
  decide +kernel

end PresentSource

end Kf2Optimizer.Telemetry
