/-
# No clean statistics across a loss

A `PresentSource` keeps one boundary for all the losses it was told of.  The ledger below keeps
what the boundary stands for: each loss since the last `start`, `bind` or `reset_statistics`,
with the presents that were already admitted when it came.  `Covered` is the invariant: the
boundary is at or behind all of that.

What makes it hold is the stream that gives way when there are sixteen: it is the one whose
newest present is the oldest, and another stream stays that reaches as far (`covered_withStream`).

`clean_after_losses`: a good drain and a complete window begin after every loss and after every
present that was there when one came.
-/
import Kf2Optimizer.Lib.Machine
import Kf2Optimizer.Telemetry.PresentSource

namespace Kf2Optimizer.Telemetry

open StepMachine

/-! ## 1. Operations and the ledger -/

/-- A call on a `PresentSource`.  `rehash` is `streams_` taking another order: an unordered map
has none of its own. -/
inductive PresentOp
  | start
  | stop
  | bind (identity : SampleIdentity)
  | resetStatistics
  | ingest (event : PresentEvent)
  | recordLoss (identity : SampleIdentity) (timestampNs count : ℕ) (uncounted : Bool)
  | setStatisticsBoundary (notBeforeNs : Option ℕ)
  | rehash (order : ℕ → ℕ)

def PresentSource.apply (s : PresentSource) : PresentOp → PresentSource
  | .start => s.start
  | .stop => s.stop
  | .bind identity => s.bind identity
  | .resetStatistics => s.resetStatistics
  | .ingest event => (s.ingest event).1
  | .recordLoss identity timestampNs count uncounted =>
    s.recordLoss identity timestampNs count uncounted
  | .setStatisticsBoundary notBeforeNs => s.setStatisticsBoundary notBeforeNs
  | .rehash order => { s with streams := Ranks.sortBy (fun entry => order entry.1) s.streams }

/-- A loss, and the presents that had been admitted on any stream when it was recorded. -/
structure Loss where
  timestampNs : ℕ
  admitted : List ℕ

/-- What has happened since the last `start`, `bind` or `reset_statistics`. -/
structure Ledger where
  admitted : List ℕ := []
  losses : List Loss := []

/-- A loss is entered with the presents so far. -/
def Ledger.lose (l : Ledger) (timestampNs : ℕ) : Ledger :=
  { l with losses := ⟨timestampNs, l.admitted⟩ :: l.losses }

def Ledger.admitAt (l : Ledger) (timestampNs : ℕ) : Ledger :=
  { l with admitted := timestampNs :: l.admitted }

/-- An event is entered with its loss and, when it is admitted, its present. -/
def Ledger.enterEvent (l : Ledger) (s : PresentSource) (event : PresentEvent) (admitted : Bool) :
    Ledger :=
  let l := if s.carriesLoss event then l.lose event.monotonicNs else l
  if admitted then l.admitAt event.monotonicNs else l

def Ledger.enter (l : Ledger) (s : PresentSource) : PresentOp → Ledger
  | .start | .bind _ | .resetStatistics => {}
  | .stop | .setStatisticsBoundary _ | .rehash _ => l
  | .recordLoss identity timestampNs count uncounted =>
    if s.recordsLoss identity count uncounted then l.lose timestampNs else l
  | .ingest event => l.enterEvent s event (s.ingest event).2

/-- A source and the ledger kept beside it. -/
structure Recorded where
  source : PresentSource
  ledger : Ledger := {}

def Recorded.step (r : Recorded) (op : PresentOp) : Recorded :=
  ⟨r.source.apply op, r.ledger.enter r.source op⟩

/-! ## 2. The boundary covers the losses -/

/-- Some stream holds a present at or after the time. -/
def Reaches {identity : SampleIdentity} (streams : List (ℕ × Stream identity)) (ns : ℕ) : Prop :=
  ∃ entry ∈ streams, ∃ newest, entry.2.queue.newest = some newest ∧ ns ≤ newest

/-- The boundary of a source covers its ledger.  The stream of one id may be empty. -/
structure CoveredBut (id : Option ℕ) (s : PresentSource) (l : Ledger) : Prop where
  nodup : (s.streams.map Prod.fst).Nodup
  nonempty : ∀ entry ∈ s.streams, some entry.1 ≠ id → entry.2.queue.presents ≠ []
  reached : ∀ ns ∈ l.admitted, Reaches s.streams ns
  covered : ∀ loss ∈ l.losses, loss.timestampNs ≤ s.lossBoundaryNs ∧
    ∀ ns ∈ loss.admitted, ns ≤ s.lossBoundaryNs
  counted : l.losses ≠ [] → 0 < s.reportedLoss ∨ s.uncountedLoss = true

abbrev Covered (s : PresentSource) (l : Ledger) : Prop := CoveredBut none s l

theorem covered_empty {s : PresentSource} (h : s.streams = []) : Covered s {} := by
  constructor
  · simp [h]
  · simp [h]
  · simp
  · simp
  · simp

/-! ## 3. A loss -/

theorem le_foldl_boundary {identity : SampleIdentity} (streams : List (ℕ × Stream identity))
    (boundary : ℕ) :
    boundary ≤ streams.foldl (fun boundary entry =>
        (entry.2.queue.newest.map (max boundary)).getD boundary) boundary ∧
      ∀ ns, Reaches streams ns → ns ≤ streams.foldl (fun boundary entry =>
        (entry.2.queue.newest.map (max boundary)).getD boundary) boundary := by
  induction streams generalizing boundary with
  | nil =>
    refine ⟨le_refl _, ?_⟩
    rintro ns ⟨entry, hmem, -⟩
    cases hmem
  | cons entry rest ih =>
    obtain ⟨hstart, hrest⟩ :=
      ih ((entry.2.queue.newest.map (max boundary)).getD boundary)
    have hstep : boundary ≤ (entry.2.queue.newest.map (max boundary)).getD boundary := by
      cases entry.2.queue.newest with
      | none => exact le_refl _
      | some newest => exact le_max_left _ _
    refine ⟨hstep.trans hstart, ?_⟩
    rintro ns ⟨found, hmem, newest, hnewest, hle⟩
    rcases List.mem_cons.mp hmem with rfl | hmem
    · refine hle.trans (le_trans ?_ hstart)
      rw [hnewest]
      exact le_max_right _ _
    · exact hrest ns ⟨found, hmem, newest, hnewest, hle⟩

/-- Relabelling the streams keeps how far they reach. -/
theorem reaches_map {identity : SampleIdentity} {streams : List (ℕ × Stream identity)}
    {f : ℕ × Stream identity → ℕ × Stream identity}
    (hf : ∀ entry ∈ streams, ∀ newest, entry.2.queue.newest = some newest →
      ∃ newest', (f entry).2.queue.newest = some newest' ∧ newest ≤ newest') {ns : ℕ}
    (h : Reaches streams ns) : Reaches (streams.map f) ns := by
  obtain ⟨entry, hmem, newest, hnewest, hle⟩ := h
  obtain ⟨newest', hnewest', hle'⟩ := hf entry hmem newest hnewest
  exact ⟨f entry, List.mem_map_of_mem hmem, newest', hnewest', hle.trans hle'⟩

theorem keys_map {identity : SampleIdentity} (streams : List (ℕ × Stream identity))
    {f : ℕ × Stream identity → ℕ × Stream identity} (hf : ∀ entry, (f entry).1 = entry.1) :
    (streams.map f).map Prod.fst = streams.map Prod.fst := by
  rw [List.map_map]
  exact List.map_congr_left fun entry _ => hf entry

/-- **A recorded loss** is covered with all that is admitted. -/
theorem covered_recordLossLocked {s : PresentSource} {l : Ledger} (h : Covered s l)
    (timestampNs count : ℕ) (incomplete : Bool)
    (hcount : count ≠ 0 ∨ incomplete = true ∨ s.uncountedLoss = true) :
    Covered (s.recordLossLocked timestampNs count incomplete) (l.lose timestampNs) := by
  obtain ⟨hstart, hreach⟩ := le_foldl_boundary s.streams (max s.lossBoundaryNs timestampNs)
  constructor
  · have hkeys := keys_map s.streams (f := s.restamped) fun _ => rfl
    exact (congrArg List.Nodup hkeys).mpr h.nodup
  · intro entry hentry hid
    obtain ⟨old, hold, rfl⟩ := List.mem_map.mp hentry
    exact h.nonempty old hold hid
  · intro ns hns
    exact reaches_map (f := s.restamped) (fun _ _ newest hnewest => ⟨newest, hnewest, le_refl _⟩)
      (h.reached ns hns)
  · intro loss hloss
    rcases List.mem_cons.mp hloss with rfl | hloss
    · exact ⟨(le_max_right _ _).trans hstart, fun ns hns => hreach ns (h.reached ns hns)⟩
    · have hraise := (le_max_left s.lossBoundaryNs timestampNs).trans hstart
      obtain ⟨htime, hbefore⟩ := h.covered loss hloss
      exact ⟨htime.trans hraise, fun ns hns => (hbefore ns hns).trans hraise⟩
  · intro _
    show 0 < (if incomplete = true ∧ s.reportedLoss + min count (uint64Max - s.reportedLoss) <
        uint64Max then _ else _) ∨ s.uncountedLoss = true
    rcases hcount with hcount | hcount | hcount
    · left
      have hmax : 0 < uint64Max := by decide
      split <;> omega
    · left
      have hmax : 0 < uint64Max := by decide
      rw [hcount]
      split
      · exact Nat.succ_pos _
      · rename_i hfull
        simp only [true_and, not_lt] at hfull
        omega
    · exact .inr hcount

/-! ## 4. Room for a stream -/

/-- Of the candidates so far, none has an older newest present. -/
def Oldest {identity : SampleIdentity} (lastStream : Option ℕ)
    (seen : List (ℕ × Stream identity)) : Option (ℕ × Stream identity) → Prop
  | none => ∀ entry ∈ seen, lastStream = some entry.1
  | some old => old ∈ seen ∧ lastStream ≠ some old.1 ∧ ∃ newest, old.2.queue.newest = some newest ∧
      ∀ entry ∈ seen, lastStream ≠ some entry.1 → ∃ n, entry.2.queue.newest = some n ∧ newest ≤ n

theorem newest_eq_some {identity : SampleIdentity} {q : PresentQueue identity}
    (h : q.presents ≠ []) : ∃ newest, q.newest = some newest :=
  Option.ne_none_iff_exists'.mp fun hnone => h (PresentQueue.newest_eq_none.mp hnone)

theorem oldest_older {identity : SampleIdentity} {lastStream : Option ℕ}
    {seen : List (ℕ × Stream identity)} {oldest : Option (ℕ × Stream identity)}
    (h : Oldest lastStream seen oldest) {entry : ℕ × Stream identity}
    (hentry : entry.2.queue.presents ≠ []) :
    Oldest lastStream (seen ++ [entry]) (PresentSource.older lastStream oldest entry) := by
  obtain ⟨newest, hnewest⟩ := newest_eq_some hentry
  unfold PresentSource.older
  by_cases hlast : lastStream = some entry.1
  · rw [if_pos hlast]
    cases oldest with
    | none =>
      intro found hfound
      rcases List.mem_append.mp hfound with hfound | hfound
      · exact h found hfound
      · rw [List.mem_singleton.mp hfound]
        exact hlast
    | some old =>
      obtain ⟨hmem, hold, n, hn, hleast⟩ := h
      refine ⟨List.mem_append_left _ hmem, hold, n, hn, fun found hfound hnot => ?_⟩
      rcases List.mem_append.mp hfound with hfound | hfound
      · exact hleast found hfound hnot
      · rw [List.mem_singleton.mp hfound] at hnot
        exact absurd hlast hnot
  · rw [if_neg hlast]
    have hself : entry ∈ seen ++ [entry] := List.mem_append_right _ (List.mem_singleton_self _)
    cases oldest with
    | none =>
      refine ⟨hself, hlast, newest, hnewest, fun found hfound hnot => ?_⟩
      rcases List.mem_append.mp hfound with hfound | hfound
      · exact absurd (h found hfound) hnot
      · rw [List.mem_singleton.mp hfound]
        exact ⟨newest, hnewest, le_refl _⟩
    | some old =>
      obtain ⟨hmem, hold, n, hn, hleast⟩ := h
      simp only [hnewest, hn]
      by_cases hlt : newest < n
      · rw [if_pos hlt]
        refine ⟨hself, hlast, newest, hnewest, fun found hfound hnot => ?_⟩
        rcases List.mem_append.mp hfound with hfound | hfound
        · obtain ⟨m, hm, hle⟩ := hleast found hfound hnot
          exact ⟨m, hm, hlt.le.trans hle⟩
        · rw [List.mem_singleton.mp hfound]
          exact ⟨newest, hnewest, le_refl _⟩
      · rw [if_neg hlt]
        refine ⟨List.mem_append_left _ hmem, hold, n, hn, fun found hfound hnot => ?_⟩
        rcases List.mem_append.mp hfound with hfound | hfound
        · exact hleast found hfound hnot
        · rw [List.mem_singleton.mp hfound]
          exact ⟨newest, hnewest, not_lt.mp hlt⟩

theorem oldest_foldl {identity : SampleIdentity} {lastStream : Option ℕ}
    (streams : List (ℕ × Stream identity)) {seen : List (ℕ × Stream identity)}
    {oldest : Option (ℕ × Stream identity)} (h : Oldest lastStream seen oldest)
    (hne : ∀ entry ∈ streams, entry.2.queue.presents ≠ []) :
    Oldest lastStream (seen ++ streams)
      (streams.foldl (PresentSource.older lastStream) oldest) := by
  induction streams generalizing seen oldest with
  | nil => simpa using h
  | cons entry rest ih =>
    obtain ⟨hentry, hrest⟩ := List.forall_mem_cons.mp hne
    have hstep := ih (oldest_older h hentry) hrest
    rw [List.append_assoc] at hstep
    exact hstep

theorem oldest_oldestInactive {s : PresentSource}
    (h : ∀ entry ∈ s.streams, entry.2.queue.presents ≠ []) :
    Oldest s.lastStream s.streams s.oldestInactive := by
  have hnil : Oldest s.lastStream ([] : List (ℕ × Stream s.identity)) none := by
    intro entry hentry
    cases hentry
  exact oldest_foldl s.streams hnil h

/-- With three streams or more, one is neither the last nor the one that gives way. -/
theorem exists_third {identity : SampleIdentity} {streams : List (ℕ × Stream identity)}
    (hnodup : (streams.map Prod.fst).Nodup) (hlength : 3 ≤ streams.length)
    (lastStream : Option ℕ) (id : ℕ) :
    ∃ entry ∈ streams, entry.1 ≠ id ∧ lastStream ≠ some entry.1 := by
  by_contra hnone
  push Not at hnone
  have hsub : streams.map Prod.fst ⊆ [id, lastStream.getD 0] := by
    intro key hkey
    obtain ⟨entry, hentry, rfl⟩ := List.mem_map.mp hkey
    by_cases hid : entry.1 = id
    · simp [hid]
    · simp [hnone entry hentry hid]
  have hle := (hnodup.subperm hsub).length_le
  rw [List.length_map] at hle
  simp only [List.length_cons, List.length_nil] at hle
  omega

/-- **What the stream that gives way had seen, another one has.** -/
theorem reaches_withRoom {s : PresentSource} (hnodup : (s.streams.map Prod.fst).Nodup)
    (hne : ∀ entry ∈ s.streams, entry.2.queue.presents ≠ [])
    {streams : List (ℕ × Stream s.identity)} (hroom : s.withRoom = some streams) {ns : ℕ}
    (h : Reaches s.streams ns) : Reaches streams ns := by
  unfold PresentSource.withRoom at hroom
  split at hroom
  · rename_i hfull
    obtain ⟨old, hold, rfl⟩ := Option.map_eq_some_iff.mp hroom
    have holdest := oldest_oldestInactive hne
    rw [hold] at holdest
    obtain ⟨hmem, -, oldNewest, holdNewest, hleast⟩ := holdest
    obtain ⟨entry, hentry, newest, hnewest, hle⟩ := h
    by_cases hid : entry.1 = old.1
    · -- the entry itself goes: a third stream reaches as far
      obtain ⟨third, hthird, hthirdId, hthirdLast⟩ := exists_third hnodup
        (by unfold PresentSource.maximumStreams at hfull; omega) s.lastStream old.1
      obtain rfl : entry = old := List.inj_on_of_nodup_map hnodup hentry hmem hid
      obtain ⟨m, hm, hlater⟩ := hleast third hthird hthirdLast
      rw [hnewest, Option.some.injEq] at holdNewest
      refine ⟨third, List.mem_filter.mpr ⟨hthird, by simpa using hthirdId⟩, m, hm, ?_⟩
      omega
    · refine ⟨entry, List.mem_filter.mpr ⟨hentry, by simpa using hid⟩, newest, hnewest, hle⟩
  · obtain rfl := Option.some.inj hroom
    exact h

theorem withRoom_sublist {s : PresentSource} {streams : List (ℕ × Stream s.identity)}
    (hroom : s.withRoom = some streams) : streams.Sublist s.streams := by
  unfold PresentSource.withRoom at hroom
  split at hroom
  · obtain ⟨old, -, rfl⟩ := Option.map_eq_some_iff.mp hroom
    exact List.filter_sublist
  · obtain rfl := Option.some.inj hroom
    exact List.Sublist.refl _

theorem lookup_eq_none {identity : SampleIdentity} {streams : List (ℕ × Stream identity)} {id : ℕ} :
    streams.lookup id = none ↔ id ∉ streams.map Prod.fst := by
  rw [List.lookup_eq_none_iff]
  constructor
  · intro h hmem
    obtain ⟨entry, hentry, rfl⟩ := List.mem_map.mp hmem
    simpa using h entry hentry
  · intro h entry hentry
    rw [bne_iff_ne]
    rintro rfl
    exact h (List.mem_map_of_mem hentry)

theorem lookup_mem {identity : SampleIdentity} {streams : List (ℕ × Stream identity)} {id : ℕ}
    {stream : Stream identity} (h : streams.lookup id = some stream) :
    (id, stream) ∈ streams := by
  obtain ⟨front, back, rfl, -⟩ := List.lookup_eq_some_iff.mp h
  simp

/-- **A stream for the event** keeps what is covered; it is the only one that may be empty. -/
theorem covered_withStream {s s' : PresentSource} {l : Ledger} (h : Covered s l) {id ns : ℕ}
    (hstream : s.withStream id ns = some s') :
    CoveredBut (some id) s' l ∧ (s'.streams.lookup id).isSome = true := by
  have hne : ∀ entry ∈ s.streams, entry.2.queue.presents ≠ [] :=
    fun entry hentry => h.nonempty entry hentry (Option.some_ne_none _)
  unfold PresentSource.withStream at hstream
  split at hstream
  · rename_i stream hfound
    obtain rfl := Option.some.inj hstream
    refine ⟨⟨h.nodup, fun entry hentry _ => hne entry hentry, h.reached, h.covered, h.counted⟩, ?_⟩
    rw [hfound]
    rfl
  · rename_i hnone
    obtain ⟨streams, hroom, rfl⟩ := Option.map_eq_some_iff.mp hstream
    have hsub := withRoom_sublist hroom
    have hfresh : id ∉ streams.map Prod.fst :=
      fun hmem => lookup_eq_none.mp hnone ((hsub.map Prod.fst).subset hmem)
    constructor
    · constructor
      · simp only [List.map_append, List.map_cons, List.map_nil]
        refine List.nodup_append.mpr ⟨h.nodup.sublist (hsub.map Prod.fst), List.nodup_singleton _, ?_⟩
        intro a ha b hb hab
        rw [List.mem_singleton.mp hb] at hab
        exact hfresh (hab ▸ ha)
      · intro entry hentry hid
        rcases List.mem_append.mp hentry with hentry | hentry
        · exact hne entry (hsub.subset hentry)
        · rw [List.mem_singleton.mp hentry] at hid
          exact absurd rfl hid
      · intro t ht
        obtain ⟨entry, hentry, hreach⟩ := reaches_withRoom h.nodup hne hroom (h.reached t ht)
        exact ⟨entry, List.mem_append_left _ hentry, hreach⟩
      · exact h.covered
      · exact h.counted
    · simp [List.lookup_append]

/-! ## 5. A present -/

/-- A queue refuses only a time that it holds. -/
theorem insert_eq_none {identity : SampleIdentity} {q : PresentQueue identity} {ns : ℕ}
    {hns : ns < 2 ^ 64} (h : q.insert ns hns = none) : q.presents ≠ [] := by
  unfold PresentQueue.insert at h
  split at h
  · rename_i hfound
    intro hnil
    simp [hnil] at hfound
  · cases h

/-- What is inserted is there, and what was there still is. -/
theorem mem_insert {identity : SampleIdentity} {q q' : PresentQueue identity} {ns : ℕ}
    {hns : ns < 2 ^ 64} (h : q.insert ns hns = some q') :
    (∀ p ∈ q.presents, p ∈ q'.presents) ∧ ⟨identity, ns⟩ ∈ q'.presents := by
  unfold PresentQueue.insert at h
  split at h
  · cases h
  · obtain rfl := Option.some.inj h
    refine ⟨fun p hp => ?_, by simp⟩
    rw [← List.take_append_drop (q.position ns) q.presents] at hp
    simp only [List.mem_append, List.mem_cons]
    rcases List.mem_append.mp hp with hp | hp
    · exact .inl hp
    · exact .inr (.inr hp)

/-- The newest present is kept. -/
theorem newest_keepNewest {identity : SampleIdentity} (q : PresentQueue identity) {capacity : ℕ}
    (h : 0 < capacity) : (q.keepNewest capacity).newest = q.newest := by
  unfold PresentQueue.newest PresentQueue.keepNewest
  by_cases hnil : q.presents = []
  · simp [hnil]
  · have hpos := List.length_pos_iff.mpr hnil
    rw [List.getLast?_drop, if_neg (by omega)]

/-- **An insertion does not take back the newest present.** -/
theorem newest_insert {identity : SampleIdentity} {q q' : PresentQueue identity} {ns : ℕ}
    {hns : ns < 2 ^ 64} (h : q.insert ns hns = some q') {capacity : ℕ} (hcapacity : 0 < capacity) :
    ∃ newest, (q'.keepNewest capacity).newest = some newest ∧ ns ≤ newest ∧
      ∀ old, q.newest = some old → old ≤ newest := by
  obtain ⟨hold, hnew⟩ := mem_insert h
  obtain ⟨newest, hnewest⟩ := newest_eq_some (List.ne_nil_of_mem hnew)
  have hle := PresentQueue.le_newest hnewest
  refine ⟨newest, by rw [newest_keepNewest q' hcapacity, hnewest], hle _ hnew, ?_⟩
  intro old hlast
  obtain ⟨last, hmem, rfl⟩ := Option.map_eq_some_iff.mp hlast
  exact hle last (hold last (List.mem_of_getLast? hmem))

theorem fst_requeued {identity : SampleIdentity} (id : ℕ) (queue : PresentQueue identity)
    (entry : ℕ × Stream identity) : (PresentSource.requeued id queue entry).1 = entry.1 := by
  unfold PresentSource.requeued
  split <;> rfl

theorem requeued_of_ne {identity : SampleIdentity} {id : ℕ} (queue : PresentQueue identity)
    {entry : ℕ × Stream identity} (h : entry.1 ≠ id) :
    PresentSource.requeued id queue entry = entry := if_neg h

theorem queue_requeued {identity : SampleIdentity} {id : ℕ} (queue : PresentQueue identity)
    {entry : ℕ × Stream identity} (h : entry.1 = id) :
    (PresentSource.requeued id queue entry).2.queue = queue := by
  rw [PresentSource.requeued, if_pos h]

/-- **An admitted present** is covered; a refused one leaves all as it is. -/
theorem covered_admitEvent {s : PresentSource} {l : Ledger} {event : PresentEvent}
    (h : CoveredBut (some event.streamId) s l)
    (hstream : (s.streams.lookup event.streamId).isSome = true) :
    Covered (s.admitEvent event).1
      (if (s.admitEvent event).2 then l.admitAt event.monotonicNs else l) := by
  obtain ⟨stream, hlookup⟩ := Option.isSome_iff_exists.mp hstream
  have hmem := lookup_mem hlookup
  -- the keys are distinct, so the event's stream is this one
  have honly : ∀ entry ∈ s.streams, entry.1 = event.streamId → entry = (event.streamId, stream) :=
    fun entry hentry hid => List.inj_on_of_nodup_map h.nodup hentry hmem hid
  unfold PresentSource.admitEvent
  simp only [hlookup]
  cases hinsert : stream.queue.insert event.monotonicNs event.bounded with
  | none =>
    refine ⟨h.nodup, fun entry hentry _ => ?_, h.reached, h.covered, h.counted⟩
    by_cases hid : entry.1 = event.streamId
    · rw [honly entry hentry hid]
      exact insert_eq_none hinsert
    · exact h.nonempty entry hentry fun heq => hid (Option.some.inj heq)
  | some queue =>
    have hcapacity : 0 < s.capacity := by
      have := s.two_le_capacity
      omega
    obtain ⟨newest, hnewest, hns, hold⟩ := newest_insert hinsert hcapacity
    have hkept : (queue.keepNewest s.capacity).presents ≠ [] :=
      fun hnil => by simp [PresentQueue.newest_eq_none.mpr hnil] at hnewest
    -- no stream reaches less far than before
    have hreach : ∀ t, Reaches s.streams t →
        Reaches (s.streams.map
          (PresentSource.requeued event.streamId (queue.keepNewest s.capacity))) t := by
      intro t ht
      refine reaches_map (fun entry hentry old hlast => ?_) ht
      by_cases hid : entry.1 = event.streamId
      · rw [honly entry hentry hid] at hlast
        exact ⟨newest, by rw [queue_requeued _ hid, hnewest], hold old hlast⟩
      · exact ⟨old, by rw [requeued_of_ne _ hid, hlast], le_refl _⟩
    constructor
    · have hkeys := keys_map s.streams
        (fst_requeued event.streamId (queue.keepNewest s.capacity))
      exact (congrArg List.Nodup hkeys).mpr h.nodup
    · intro entry hentry _
      obtain ⟨old, hmemOld, rfl⟩ := List.mem_map.mp hentry
      by_cases hid : old.1 = event.streamId
      · exact (congrArg (fun q : PresentQueue s.identity => q.presents ≠ [])
          (queue_requeued _ hid)).mpr hkept
      · have hsame := requeued_of_ne (queue.keepNewest s.capacity) hid
        exact (congrArg (fun e : ℕ × Stream s.identity => e.2.queue.presents ≠ []) hsame).mpr
          (h.nonempty old hmemOld fun heq => hid (Option.some.inj heq))
    · intro t ht
      rcases List.mem_cons.mp ht with rfl | ht
      · refine ⟨_, List.mem_map_of_mem hmem, newest, ?_, hns⟩
        exact (congrArg PresentQueue.newest (queue_requeued _ rfl)).trans hnewest
      · exact hreach t (h.reached t ht)
    · exact h.covered
    · exact h.counted

/-! ## 6. Runs -/

/-- A source that can answer has a boundary that covers its ledger. -/
def Recorded.Sound (r : Recorded) : Prop :=
  r.source.running = true → r.source.schemaFailure = false → Covered r.source r.ledger

/-- What `ingest` never writes. -/
structure SameMode (s s' : PresentSource) : Prop where
  running : s'.running = s.running
  schemaFailure : s'.schemaFailure = s.schemaFailure

theorem sameMode_withStream {s s' : PresentSource} {id ns : ℕ}
    (h : s.withStream id ns = some s') : SameMode s s' := by
  unfold PresentSource.withStream at h
  split at h
  · obtain rfl := Option.some.inj h
    exact ⟨rfl, rfl⟩
  · obtain ⟨streams, -, rfl⟩ := Option.map_eq_some_iff.mp h
    exact ⟨rfl, rfl⟩

theorem sameMode_admitEvent (s : PresentSource) (event : PresentEvent) :
    SameMode s (s.admitEvent event).1 := by
  unfold PresentSource.admitEvent
  split
  · exact ⟨rfl, rfl⟩
  · split
    · exact ⟨rfl, rfl⟩
    · exact ⟨rfl, rfl⟩

/-- The loss of an event, when it carries one. -/
def PresentSource.withLoss (s : PresentSource) (event : PresentEvent) : PresentSource :=
  if s.carriesLoss event then
    s.recordLossLocked event.monotonicNs event.eventsLost (!event.completed) else s

theorem sameMode_withLoss (s : PresentSource) (event : PresentEvent) :
    SameMode s (s.withLoss event) := by
  unfold PresentSource.withLoss
  split
  · exact ⟨rfl, rfl⟩
  · exact ⟨rfl, rfl⟩

/-- **What `ingestPresent` does.**  It records the loss, and the present joins its stream or there
is none to join. -/
theorem PresentSource.ingestPresent_cases (s : PresentSource) (event : PresentEvent) :
    s.ingestPresent event = (s.withLoss event, false) ∨
    ∃ s', (s.withLoss event).withStream event.streamId event.monotonicNs = some s' ∧
      s.ingestPresent event = s'.admitEvent event := by
  unfold PresentSource.ingestPresent
  simp only
  split
  · exact .inl rfl
  · split
    · exact .inl rfl
    · rename_i s' hstream
      exact .inr ⟨s', hstream, rfl⟩

theorem sameMode_ingestPresent (s : PresentSource) (event : PresentEvent) :
    SameMode s (s.ingestPresent event).1 := by
  have hloss := sameMode_withLoss s event
  obtain heq | ⟨s', hstream, heq⟩ := s.ingestPresent_cases event
  · rw [heq]
    exact hloss
  · rw [heq]
    have hroom := sameMode_withStream hstream
    have hadmitted := sameMode_admitEvent s' event
    exact ⟨(hadmitted.running.trans hroom.running).trans hloss.running,
      (hadmitted.schemaFailure.trans hroom.schemaFailure).trans hloss.schemaFailure⟩

theorem covered_withLoss {s : PresentSource} {l : Ledger} (h : Covered s l) (event : PresentEvent) :
    Covered (s.withLoss event)
      (if s.carriesLoss event then l.lose event.monotonicNs else l) := by
  unfold PresentSource.withLoss
  by_cases hcarries : s.carriesLoss event = true
  · rw [if_pos hcarries, if_pos hcarries]
    refine covered_recordLossLocked h _ _ _ ?_
    unfold PresentSource.carriesLoss at hcarries
    rw [Bool.and_eq_true, Bool.or_eq_true, decide_eq_true_eq] at hcarries
    rcases hcarries.2 with hincomplete | hlost
    · exact .inr (.inl hincomplete)
    · exact .inl hlost
  · rw [if_neg hcarries, if_neg hcarries]
    exact h

/-- **An event** keeps the boundary covering. -/
theorem covered_ingestPresent {s : PresentSource} {l : Ledger} (h : Covered s l)
    (event : PresentEvent) :
    Covered (s.ingestPresent event).1 (l.enterEvent s event (s.ingestPresent event).2) := by
  have hloss := covered_withLoss h event
  obtain heq | ⟨s', hstream, heq⟩ := s.ingestPresent_cases event
  · rw [heq]
    exact hloss
  · rw [heq]
    obtain ⟨hcovered, hfound⟩ := covered_withStream hloss hstream
    exact covered_admitEvent hcovered hfound

theorem covered_rehash {s : PresentSource} {l : Ledger} (h : Covered s l) (order : ℕ → ℕ) :
    Covered (s.apply (.rehash order)) l := by
  have hperm : (Ranks.sortBy (fun entry : ℕ × Stream s.identity => order entry.1)
      s.streams).Perm s.streams := Ranks.sortBy_perm _ _
  constructor
  · exact (hperm.map Prod.fst).nodup_iff.mpr h.nodup
  · intro entry hentry hid
    exact h.nonempty entry (hperm.mem_iff.mp hentry) hid
  · intro ns hns
    obtain ⟨entry, hentry, hreach⟩ := h.reached ns hns
    exact ⟨entry, hperm.mem_iff.mpr hentry, hreach⟩
  · exact h.covered
  · exact h.counted

theorem sound_ingest {r : Recorded} (h : r.Sound) (event : PresentEvent) :
    (r.step (.ingest event)).Sound := by
  show Recorded.Sound ⟨(r.source.ingest event).1,
    r.ledger.enterEvent r.source event (r.source.ingest event).2⟩
  by_cases hrefused : r.source.running = false ∨ event.identity ≠ r.source.identity
  · have hcarries : r.source.carriesLoss event = false := by
      rcases hrefused with hstopped | hother
      · simp [PresentSource.carriesLoss, hstopped]
      · simp [PresentSource.carriesLoss, hother]
    rw [PresentSource.ingest, if_pos hrefused]
    simpa [Ledger.enterEvent, hcarries] using h
  rw [PresentSource.ingest, if_neg hrefused]
  by_cases hversion : event.schemaVersion = 1
  · rw [if_neg (not_not_intro hversion)]
    intro hrunning hschema
    have hmode := sameMode_ingestPresent r.source event
    exact covered_ingestPresent (h (hmode.running ▸ hrunning) (hmode.schemaFailure ▸ hschema)) event
  · rw [if_pos hversion]
    intro _ hschema
    cases hschema

/-- **Each operation** keeps the boundary covering. -/
theorem sound_step {r : Recorded} (h : r.Sound) (op : PresentOp) : (r.step op).Sound := by
  cases op with
  | start => exact fun _ _ => covered_empty rfl
  | bind identity => exact fun _ _ => covered_empty rfl
  | resetStatistics => exact fun _ _ => covered_empty rfl
  | stop =>
    intro hrunning _
    cases hrunning
  | ingest event => exact sound_ingest h event
  | recordLoss identity timestampNs count uncounted =>
    show Recorded.Sound ⟨r.source.recordLoss identity timestampNs count uncounted,
      if r.source.recordsLoss identity count uncounted then r.ledger.lose timestampNs
      else r.ledger⟩
    unfold PresentSource.recordLoss
    by_cases hrecords : r.source.recordsLoss identity count uncounted = true
    · rw [if_pos hrecords, if_pos hrecords]
      intro hrunning hschema
      have hcovered := h hrunning hschema
      unfold PresentSource.recordsLoss at hrecords
      rw [Bool.and_eq_true, Bool.or_eq_true, decide_eq_true_eq] at hrecords
      have hflagged : Covered
          { r.source with uncountedLoss := r.source.uncountedLoss || uncounted } r.ledger :=
        ⟨hcovered.nodup, hcovered.nonempty, hcovered.reached, hcovered.covered, fun hne =>
          (hcovered.counted hne).imp id fun hold => by simp [hold]⟩
      refine covered_recordLossLocked hflagged _ _ _ ?_
      rcases hrecords.2 with hcount | huncounted
      · exact .inl hcount
      · exact .inr (.inr (by simp [huncounted]))
    · rw [if_neg hrecords, if_neg hrecords]
      exact h
  | setStatisticsBoundary notBeforeNs =>
    show Recorded.Sound ⟨r.source.setStatisticsBoundary notBeforeNs, r.ledger⟩
    unfold PresentSource.setStatisticsBoundary
    split
    · exact h
    · intro hrunning hschema
      have hcovered := h hrunning hschema
      exact ⟨hcovered.nodup, hcovered.nonempty, hcovered.reached, hcovered.covered,
        hcovered.counted⟩
  | rehash order => exact fun hrunning hschema => covered_rehash (h hrunning hschema) order

/-- The source as it is constructed. -/
def PresentSource.new (identity : SampleIdentity) (capacity : ℕ) : PresentSource :=
  { identity := identity, capacity := max 2 capacity, two_le_capacity := le_max_left _ _ }

/-- A source after a run, with its ledger. -/
def recorded (identity : SampleIdentity) (capacity : ℕ) (ops : List PresentOp) : Recorded :=
  exec Recorded.step ⟨PresentSource.new identity capacity, {}⟩ ops

/-- **Every run** ends with a boundary that covers its ledger. -/
theorem sound_recorded (identity : SampleIdentity) (capacity : ℕ) (ops : List PresentOp) :
    (recorded identity capacity ops).Sound :=
  exec_invariant (I := Recorded.Sound) (fun _ op h => sound_step h op) ops _ fun hrunning =>
    absurd hrunning Bool.false_ne_true

/-! ## 7. Good drains and complete windows -/

/-- Good metrics have a frame rate. -/
def GoodHasFps (m : FrameMetrics ℚ) : Prop := m.quality = .good → m.fps.isSome = true

theorem goodHasFps_publishLive {result : FrameMetrics ℚ} (h : result.quality ≠ .good) (total : ℚ)
    (liveCount age newest : ℕ) : GoodHasFps (publishLive result total liveCount age newest) := by
  intro hgood
  unfold publishLive at hgood ⊢
  split at hgood
  · exact absurd hgood h
  · rename_i hcount
    rw [if_neg hcount]
    rfl

theorem goodHasFps_windowStatistics (presents : List PresentTimestamp)
    (newest nowNs staleAfterNs notBeforeNs historyBoundary : ℕ) :
    GoodHasFps
      (windowStatistics presents newest nowNs staleAfterNs notBeforeNs historyBoundary) := by
  unfold windowStatistics
  simp only
  split
  · split
    · exact fun hgood => by cases hgood
    · exact fun hgood => by cases hgood
  · have hbase : SampleQuality.unavailable ≠ .good := by decide
    split
    · exact goodHasFps_publishLive hbase _ _ _ _
    · rw [historyStatistics]
      exact goodHasFps_publishLive hbase _ _ _ _

theorem goodHasFps_aggregateWindows (presents : List PresentTimestamp)
    (nowNs staleAfterNs notBeforeNs : ℕ) (boundary : Option ℕ) :
    GoodHasFps (aggregateWindows presents nowNs staleAfterNs notBeforeNs boundary) := by
  unfold aggregateWindows
  split
  · exact goodHasFps_windowStatistics _ _ _ _ _ _
  · exact fun hgood => by cases hgood

/-- **A good drain** has selected a stream, and counts no loss that its longest window reaches. -/
theorem good_drain {s : PresentSource} {nowNs staleAfterNs notBeforeNs : ℕ}
    (h : (s.drain nowNs staleAfterNs notBeforeNs).quality = .good) :
    s.running = true ∧ s.schemaFailure = false ∧
      ∃ c, s.selected nowNs staleAfterNs notBeforeNs = some c ∧
        (s.lossBoundaryNs < windowCutoff c.newest longestWindowNs notBeforeNs ∨
          (s.reportedLoss = 0 ∧ s.uncountedLoss = false)) := by
  unfold PresentSource.drain at h
  by_cases hanswers : ¬s.running = true ∨ s.schemaFailure = true
  · rw [if_pos hanswers] at h
    cases h
  rw [if_neg hanswers] at h
  rw [not_or, not_not, Bool.not_eq_true] at hanswers
  refine ⟨hanswers.1, hanswers.2, ?_⟩
  simp only at h
  revert h
  generalize hm : aggregateWindows (((s.selected nowNs staleAfterNs notBeforeNs).map fun c =>
    copied c.queue notBeforeNs s.statisticsNotBeforeNs).getD []) nowNs staleAfterNs notBeforeNs
      s.statisticsNotBeforeNs = m
  intro h
  have hfps : GoodHasFps m := hm ▸ goodHasFps_aggregateWindows _ _ _ _ _
  by_cases hdegraded : m.fps.isSome = true ∧
      (0 < m.lossCount + (if s.afterLosses notBeforeNs
          (s.selected nowNs staleAfterNs notBeforeNs) = true then 0 else s.reportedLoss) ∨
        (s.uncountedLoss && !s.afterLosses notBeforeNs
          (s.selected nowNs staleAfterNs notBeforeNs)) = true)
  · rw [if_pos hdegraded] at h
    cases h
  rw [if_neg hdegraded] at h
  have hsome := hfps h
  simp only [hsome, true_and, not_or, not_lt, Nat.le_zero] at hdegraded
  obtain ⟨hcount, huncounted⟩ := hdegraded
  cases hselected : s.selected nowNs staleAfterNs notBeforeNs with
  | none =>
    rw [hselected] at hm
    rw [← hm] at hsome
    cases hsome
  | some c =>
    refine ⟨c, rfl, ?_⟩
    rw [hselected] at hcount huncounted
    by_cases hafter : s.lossBoundaryNs < windowCutoff c.newest longestWindowNs notBeforeNs
    · exact .inl hafter
    · have hfalse : s.afterLosses notBeforeNs (some c) = false := decide_eq_false hafter
      rw [hfalse] at hcount huncounted
      right
      constructor
      · simp only [Bool.false_eq_true, if_false] at hcount
        omega
      · simpa using huncounted

/-- **A complete window** counts no loss at or after its begin. -/
theorem complete_measureWindow {s : PresentSource} {beginNs endNs : ℕ}
    (h : (s.measureWindow beginNs endNs).complete = true) :
    s.running = true ∧ s.schemaFailure = false ∧
      (s.lossBoundaryNs < beginNs ∨ (s.reportedLoss = 0 ∧ s.uncountedLoss = false)) := by
  unfold PresentSource.measureWindow at h
  split at h
  · cases h
  · rename_i hanswers
    simp only [not_or, Bool.not_eq_false, Bool.not_eq_true] at hanswers
    obtain ⟨hrunning, hschema, -, hloss⟩ := hanswers
    refine ⟨hrunning, hschema, ?_⟩
    rw [PresentSource.lossSince, Bool.and_eq_false_iff, Bool.or_eq_false_iff] at hloss
    rcases hloss with ⟨hreported, huncounted⟩ | hbefore
    · exact .inr ⟨by simpa using hreported, huncounted⟩
    · exact .inl (not_le.mp (of_decide_eq_false hbefore))

/-- The loss came before the time, and so did every present that was there when it came. -/
def Loss.Before (loss : Loss) (ns : ℕ) : Prop :=
  loss.timestampNs < ns ∧ ∀ t ∈ loss.admitted, t < ns

theorem before_of_covered {s : PresentSource} {l : Ledger} (h : Covered s l) {ns : ℕ}
    (hclean : s.lossBoundaryNs < ns ∨ (s.reportedLoss = 0 ∧ s.uncountedLoss = false)) :
    ∀ loss ∈ l.losses, loss.Before ns := by
  intro loss hloss
  rcases hclean with hbefore | ⟨hreported, huncounted⟩
  · obtain ⟨htime, hall⟩ := h.covered loss hloss
    exact ⟨htime.trans_lt hbefore, fun t ht => (hall t ht).trans_lt hbefore⟩
  · rcases h.counted (List.ne_nil_of_mem hloss) with hpos | hflag
    · omega
    · rw [huncounted] at hflag
      cases hflag

/-- **No clean statistics across a loss**, after any run: every loss of the ledger came before
the longest window of a good drain and before the begin of a complete window, and so did every
present admitted when it came. -/
theorem clean_after_losses (identity : SampleIdentity) (capacity : ℕ) (ops : List PresentOp) :
    (∀ nowNs staleAfterNs notBeforeNs,
      ((recorded identity capacity ops).source.drain nowNs staleAfterNs notBeforeNs).quality =
        .good →
      ∃ c, (recorded identity capacity ops).source.selected nowNs staleAfterNs notBeforeNs =
          some c ∧
        ∀ loss ∈ (recorded identity capacity ops).ledger.losses,
          loss.Before (windowCutoff c.newest longestWindowNs notBeforeNs)) ∧
    ∀ beginNs endNs,
      ((recorded identity capacity ops).source.measureWindow beginNs endNs).complete = true →
      ∀ loss ∈ (recorded identity capacity ops).ledger.losses, loss.Before beginNs := by
  have hsound := sound_recorded identity capacity ops
  constructor
  · intro nowNs staleAfterNs notBeforeNs hgood
    obtain ⟨hrunning, hschema, c, hselected, hclean⟩ := good_drain hgood
    exact ⟨c, hselected, before_of_covered (hsound hrunning hschema) hclean⟩
  · intro beginNs endNs hcomplete
    obtain ⟨hrunning, hschema, hclean⟩ := complete_measureWindow hcomplete
    exact before_of_covered (hsound hrunning hschema) hclean

/-- A present at 20 s. -/
def firstPresent : PresentEvent :=
  { monotonicNs := 20000000000, schemaVersion := 1, completed := true }

/-- The next one, a frame later. -/
def secondPresent : PresentEvent :=
  { monotonicNs := 20016000000, schemaVersion := 1, completed := true }

/-- Two presents, long after a loss. -/
def lossThenPresents : List PresentOp :=
  [.start, .setStatisticsBoundary none, .recordLoss {} 5 1 false, .ingest firstPresent,
    .ingest secondPresent]

theorem clean_after_losses_lossThenPresents :
    (recorded {} 2 lossThenPresents).ledger.losses.length = 1 ∧
      ∃ c, (recorded {} 2 lossThenPresents).source.selected 20020000000 1000000000 0 = some c ∧
        ∀ loss ∈ (recorded {} 2 lossThenPresents).ledger.losses,
          loss.Before (windowCutoff c.newest longestWindowNs 0) :=
  ⟨rfl, (clean_after_losses {} 2 lossThenPresents).1 20020000000 1000000000 0
    (by decide +kernel)⟩

end Kf2Optimizer.Telemetry
