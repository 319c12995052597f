/-
# The windows of a drain are plain windows

`aggregateWindows` computes what it says about four overlapping windows with one sort and one
pass over the intervals.  Here each of its statistics is the one `aggregatePresents` computes on
the presents of that window alone (`drain_eq_plain`).

The window enters three times: as an index into the copied queue (`firstIndex`), as a condition
on the index of an interval, and, in the statement, as a condition on the time of a present.
Sections 1 and 2 relate the three; section 3 follows the two loops; section 4 puts them together.
-/
import Kf2Optimizer.Telemetry.PresentSource

namespace Kf2Optimizer.Telemetry

open Ranks

/-! ## 1. Intervals -/

/-- The lengths of the intervals between neighbours. -/
def gaps (presents : List PresentTimestamp) : List ℚ := (intervalsFrom 1 presents).map Interval.ms

/-- The order of a queue. -/
abbrev Increasing (presents : List PresentTimestamp) : Prop :=
  presents.Pairwise fun p q => p.monotonicNs < q.monotonicNs

theorem map_ms_intervalsFrom (presents : List PresentTimestamp) (i : ℕ) :
    (intervalsFrom i presents).map Interval.ms = gaps presents := by
  have h : ∀ j, (intervalsFrom i presents).map Interval.ms =
      (intervalsFrom j presents).map Interval.ms := by
    induction presents generalizing i with
    | nil => intro j; rfl
    | cons p rest ih =>
      intro j
      cases rest with
      | nil => rfl
      | cons q rest =>
        simp only [intervalsFrom, List.map_cons]
        rw [ih (i + 1) (j + 1)]
  exact h 1

theorem length_gaps (presents : List PresentTimestamp) :
    (gaps presents).length = presents.length - 1 := by
  have h : ∀ i, (intervalsFrom i presents).length = presents.length - 1 := by
    induction presents with
    | nil => intro i; rfl
    | cons p rest ih =>
      intro i
      cases rest with
      | nil => rfl
      | cons q rest => simp [intervalsFrom, ih]
  simp [gaps, h]

theorem index_intervalsFrom {presents : List PresentTimestamp} {i : ℕ} :
    ∀ x ∈ intervalsFrom i presents, i ≤ x.index := by
  induction presents generalizing i with
  | nil => simp [intervalsFrom]
  | cons p rest ih =>
    cases rest with
    | nil => simp [intervalsFrom]
    | cons q rest =>
      intro x hx
      rcases List.mem_cons.mp hx with rfl | hx
      · exact le_refl i
      · exact (Nat.le_succ i).trans (ih x hx)

theorem drop_intervalsFrom (presents : List PresentTimestamp) (i n : ℕ) :
    (intervalsFrom i presents).drop n = intervalsFrom (i + n) (presents.drop n) := by
  induction n generalizing presents i with
  | zero => rfl
  | succ n ih =>
    cases presents with
    | nil => simp [intervalsFrom]
    | cons p rest =>
      cases rest with
      | nil => simp [intervalsFrom]
      | cons q rest =>
        rw [intervalsFrom, List.drop_succ_cons, ih, List.drop_succ_cons, Nat.add_right_comm,
          Nat.add_assoc]

/-- **The intervals of a window** are those that end behind its first present. -/
theorem filter_intervalsFrom (presents : List PresentTimestamp) (i first : ℕ) :
    (intervalsFrom (i + 1) presents).filter (fun x => decide (i + first < x.index)) =
      intervalsFrom (i + 1 + first) (presents.drop first) := by
  induction first generalizing presents i with
  | zero =>
    refine List.filter_eq_self.mpr fun x hx => decide_eq_true ?_
    exact index_intervalsFrom x hx
  | succ first ih =>
    cases presents with
    | nil => simp [intervalsFrom]
    | cons p rest =>
      cases rest with
      | nil => simp [intervalsFrom]
      | cons q rest =>
        have h := ih (q :: rest) (i + 1)
        rw [show i + 1 + first = i + (first + 1) by omega] at h
        rw [intervalsFrom, List.filter_cons_of_neg (by simp), h, List.drop_succ_cons]
        congr 1
        omega

/-- A present that is not after its predecessor does not occur in a queue. -/
theorem plainIntervals_eq {p : PresentTimestamp} {rest : List PresentTimestamp}
    (h : Increasing (p :: rest)) : plainIntervals p.monotonicNs rest = (gaps (p :: rest), 0) := by
  induction rest generalizing p with
  | nil => rfl
  | cons q rest ih =>
    obtain ⟨hhead, htail⟩ := List.pairwise_cons.mp h
    have hpq : ¬ q.monotonicNs ≤ p.monotonicNs := Nat.not_le.mpr (hhead q List.mem_cons_self)
    rw [plainIntervals, if_neg hpq, ih htail]
    simp only [gaps, intervalsFrom, List.map_cons, Prod.mk.injEq, and_true, List.cons.injEq,
      true_and]
    rw [map_ms_intervalsFrom, map_ms_intervalsFrom]

/-- **A window alone**: with two presents, fresh, it has the metrics of its intervals. -/
theorem aggregatePresents_fresh {presents : List PresentTimestamp} {identity : SampleIdentity}
    {last : PresentTimestamp} {nowNs staleAfterNs : ℕ} (hinc : Increasing presents)
    (hsame : ∀ p ∈ presents, p.identity = identity) (hlast : presents.getLast? = some last)
    (htwo : 2 ≤ presents.length)
    (hfresh : ¬ Stale last.monotonicNs nowNs staleAfterNs) :
    aggregatePresents presents identity nowNs staleAfterNs =
      metricsOf (gaps presents) 0 (ageOf last.monotonicNs nowNs) last.monotonicNs := by
  match presents, htwo with
  | p :: q :: rest, _ =>
    have hany : (p :: q :: rest).any (fun r => decide (r.identity ≠ identity)) = false := by
      simpa [List.any_eq_false] using hsame
    have hgaps : gaps (p :: q :: rest) ≠ [] := by
      intro h
      have := length_gaps (p :: q :: rest)
      simp [h] at this
    unfold aggregatePresents
    rw [hlast]
    simp only [hany, List.tail_cons, plainIntervals_eq hinc]
    rw [if_neg (by simp), if_neg hfresh, if_neg hgaps]

theorem aggregatePresents_stale {presents : List PresentTimestamp} {identity : SampleIdentity}
    {last : PresentTimestamp} {nowNs staleAfterNs : ℕ}
    (hsame : ∀ p ∈ presents, p.identity = identity) (hlast : presents.getLast? = some last)
    (htwo : 2 ≤ presents.length)
    (hstale : Stale last.monotonicNs nowNs staleAfterNs) :
    aggregatePresents presents identity nowNs staleAfterNs =
      { unavailable .stale (ageOf last.monotonicNs nowNs) with
        newestPresentNs := last.monotonicNs } := by
  match presents, htwo with
  | p :: q :: rest, _ =>
    have hany : (p :: q :: rest).any (fun r => decide (r.identity ≠ identity)) = false := by
      simpa [List.any_eq_false] using hsame
    unfold aggregatePresents
    rw [hlast]
    simp only [hany]
    rw [if_neg (by simp), if_pos hstale]

theorem aggregatePresents_short {presents : List PresentTimestamp} {identity : SampleIdentity}
    {nowNs staleAfterNs : ℕ} (h : presents.length < 2) :
    aggregatePresents presents identity nowNs staleAfterNs = unavailable .noSamples 0 := by
  match presents, h with
  | [], _ => rfl
  | [_], _ => rfl

/-! ## 2. Windows by index and by time -/

theorem lowerBound_mono (presents : List PresentTimestamp) {ns ns' : ℕ} (h : ns ≤ ns') :
    lowerBound presents ns ≤ lowerBound presents ns' := by
  induction presents with
  | nil => exact le_refl _
  | cons p rest ih =>
    unfold lowerBound at ih ⊢
    by_cases hp : ns ≤ p.monotonicNs
    · simp [List.findIdx_cons, hp]
    · have hp' : ¬ ns' ≤ p.monotonicNs := fun h' => hp (h.trans h')
      simpa [List.findIdx_cons, hp, hp'] using ih

/-- The presents of a window. -/
def fromTime (presents : List PresentTimestamp) (cutoff : ℕ) : List PresentTimestamp :=
  presents.filter fun p => decide (cutoff ≤ p.monotonicNs)

theorem increasing_fromTime {presents : List PresentTimestamp} (h : Increasing presents)
    (cutoff : ℕ) : Increasing (fromTime presents cutoff) := h.sublist List.filter_sublist

/-- **By index and by time**: an index that was cut off at the last interval has a window of no
intervals, as the window by time then has. -/
theorem gaps_firstIndex {presents : List PresentTimestamp} (hinc : Increasing presents)
    (newest duration boundary : ℕ) :
    gaps (presents.drop (firstIndex presents newest duration boundary)) =
      gaps (fromTime presents (windowCutoff newest duration boundary)) := by
  unfold firstIndex fromTime
  rw [← drop_lowerBound hinc]
  by_cases h : lowerBound presents (windowCutoff newest duration boundary) ≤ presents.length - 1
  · rw [Nat.min_eq_right h]
  · rw [Nat.min_eq_left (by omega)]
    have hempty : ∀ n, presents.length - 1 ≤ n → gaps (presents.drop n) = [] := by
      intro n hn
      refine List.eq_nil_of_length_eq_zero ?_
      rw [length_gaps, List.length_drop]
      omega
    rw [hempty _ (le_refl _), hempty _ (by omega)]

theorem count_firstIndex {presents : List PresentTimestamp} (hinc : Increasing presents)
    (newest duration boundary : ℕ) :
    presents.length - 1 - firstIndex presents newest duration boundary =
      (gaps (fromTime presents (windowCutoff newest duration boundary))).length := by
  rw [← gaps_firstIndex hinc, length_gaps, List.length_drop]
  omega

/-- A longer window starts no later. -/
theorem firstIndex_mono (presents : List PresentTimestamp) (newest boundary : ℕ) {short long : ℕ}
    (h : short ≤ long) :
    firstIndex presents newest long boundary ≤ firstIndex presents newest short boundary := by
  unfold firstIndex
  have hcut : windowCutoff newest long boundary ≤ windowCutoff newest short boundary := by
    unfold windowCutoff
    split <;> split <;> omega
  have := lowerBound_mono presents hcut
  omega

/-! ## 3. The two loops -/

/-- The intervals behind an index. -/
def behind (first : ℕ) (l : List Interval) : List Interval :=
  l.filter fun i => decide (first < i.index)

theorem behind_cons (first : ℕ) (i : Interval) (l : List Interval) :
    behind first (i :: l) = if first < i.index then i :: behind first l else behind first l := by
  by_cases h : first < i.index <;> simp [behind, h]

theorem behind_snoc (first : ℕ) (l : List Interval) (i : Interval) :
    behind first (l ++ [i]) = if first < i.index then behind first l ++ [i] else behind first l := by
  by_cases h : first < i.index <;> simp [behind, List.filter_append, h]

theorem behind_behind {first first' : ℕ} (h : first ≤ first') (l : List Interval) :
    behind first' (behind first l) = behind first' l := by
  unfold behind
  rw [List.filter_filter]
  refine List.filter_congr fun i _ => ?_
  by_cases hi : first' < i.index
  · simp [hi, h.trans_lt hi]
  · simp [hi]

theorem countP_behind (first : ℕ) (l : List Interval) (p : Interval → Bool) :
    (behind first l).countP p = l.countP fun i => decide (first < i.index) && p i := by
  unfold behind
  rw [List.countP_filter]
  refine List.countP_congr fun i _ => ?_
  simp [and_comm]

/-- The intervals of a window, as the loops tell them apart. -/
theorem map_ms_behind (presents : List PresentTimestamp) (first : ℕ) :
    (behind first (intervalsFrom 1 presents)).map Interval.ms = gaps (presents.drop first) := by
  have h := filter_intervalsFrom presents 0 first
  simp only [Nat.zero_add] at h
  rw [behind, h, map_ms_intervalsFrom]

theorem behind_drop (presents : List PresentTimestamp) {m first : ℕ} (h : m ≤ first) :
    behind first ((intervalsFrom 1 presents).drop m) = behind first (intervalsFrom 1 presents) := by
  have hm := filter_intervalsFrom presents 0 m
  simp only [Nat.zero_add] at hm
  rw [drop_intervalsFrom, ← hm]
  exact behind_behind h _

/-- **The first loop.** -/
theorem foldl_collect (liveFirst longFirst sustainedFirst : ℕ) (l : List Interval)
    (c : Collected) : l.foldl (Collected.add liveFirst longFirst sustainedFirst) c =
      { sorted := c.sorted ++ behind longFirst l
        liveTotal := c.liveTotal + ((behind liveFirst l).map Interval.ms).sum
        sustainedTotal := c.sustainedTotal + ((behind sustainedFirst l).map Interval.ms).sum } := by
  induction l generalizing c with
  | nil => simp [behind]
  | cons i l ih =>
    rw [List.foldl_cons, ih]
    simp only [Collected.add, behind_cons]
    congr 1
    · split <;> simp
    · split <;> simp [add_assoc]
    · split <;> simp [add_assoc]

/-- What the second loop has found out after a part of the buffer. -/
def rankedOf (w : Windows) (l : List Interval) : Ranked :=
  let long := l.map Interval.ms
  let sustained := (behind w.sustainedFirst l).map Interval.ms
  let tail := (behind w.tailFirst l).map Interval.ms
  { longRank := long.length
    sustainedRank := sustained.length
    tailRank := tail.length
    longSlowTotal := (long.drop (w.longCount - rank w.longCount (1 / 100))).sum
    sustainedSlowTotal :=
      (sustained.drop (w.sustainedCount - rank w.sustainedCount (1 / 100))).sum
    median := (tail[rank w.tailCount (1 / 2) - 1]?).getD 0
    p95 := tail[rank w.tailCount (95 / 100) - 1]?
    p99 := tail[rank w.tailCount (99 / 100) - 1]? }

theorem one_le_rank {count : ℕ} {fraction : ℚ} (hcount : 1 ≤ count) (hfraction : 0 < fraction) :
    1 ≤ rank count fraction := by
  have hpos : (0 : ℚ) < (count : ℚ) * fraction :=
    mul_pos (Nat.cast_pos.mpr hcount) hfraction
  exact Nat.ceil_pos.mpr hpos

theorem rank_le {count : ℕ} {fraction : ℚ} (hfraction : fraction ≤ 1) :
    rank count fraction ≤ count := by
  refine Nat.ceil_le.mpr ?_
  have hcount : (0 : ℚ) ≤ count := Nat.cast_nonneg count
  nlinarith

/-- One round of the second loop. -/
theorem add_rankedOf {w : Windows} (l : List Interval) {i : Interval}
    (htail : w.tailFirst < i.index → 1 ≤ w.tailCount) :
    (rankedOf w l).add w i = rankedOf w (l ++ [i]) := by
  have hlong : (l ++ [i]).map Interval.ms = l.map Interval.ms ++ [i.ms] := by simp
  unfold rankedOf Ranked.add
  simp only [hlong, behind_snoc]
  have hranks : w.tailFirst < i.index → 1 ≤ rank w.tailCount (1 / 2) ∧
      1 ≤ rank w.tailCount (95 / 100) ∧ 1 ≤ rank w.tailCount (99 / 100) := fun h =>
    ⟨one_le_rank (htail h) (by norm_num), one_le_rank (htail h) (by norm_num),
      one_le_rank (htail h) (by norm_num)⟩
  congr 1
  · simp
  · split <;> simp
  · split <;> simp
  · rw [sum_drop_snoc]
  · by_cases h : w.sustainedFirst < i.index
    · simp only [h, if_true, true_and, List.map_append, List.map_cons, List.map_nil,
        sum_drop_snoc]
    · simp only [h, if_false, false_and]
  · by_cases h : w.tailFirst < i.index
    · simp only [h, if_true, true_and, List.map_append, List.map_cons, List.map_nil,
        getElem?_snoc_rank _ _ (hranks h).1]
      split <;> simp
    · simp only [h, if_false, false_and]
  · by_cases h : w.tailFirst < i.index
    · simp only [h, if_true, true_and, List.map_append, List.map_cons, List.map_nil,
        getElem?_snoc_rank _ _ (hranks h).2.1]
    · simp only [h, if_false, false_and]
  · by_cases h : w.tailFirst < i.index
    · simp only [h, if_true, true_and, List.map_append, List.map_cons, List.map_nil,
        getElem?_snoc_rank _ _ (hranks h).2.2]
    · simp only [h, if_false, false_and]

/-- **The second loop.** -/
theorem foldl_rank {w : Windows} {l : List Interval}
    (htail : ∀ i ∈ l, w.tailFirst < i.index → 1 ≤ w.tailCount) :
    l.foldl (Ranked.add w) {} = rankedOf w l := by
  induction l using List.reverseRecOn with
  | nil => simp [rankedOf, behind]
  | append_singleton l i ih =>
    rw [List.foldl_append, ih fun j hj => htail j (by simp [hj])]
    exact add_rankedOf l (htail i (by simp))

/-! ## 4. Statistics -/

/-- The element of a rank is the percentile. -/
theorem getElem?_rank {sorted : List ℚ} {fraction : ℚ} (hne : sorted ≠ []) (hpos : 0 < fraction)
    (hle : fraction ≤ 1) :
    sorted[rank sorted.length fraction - 1]? = some (percentile sorted fraction) := by
  have hlen : 1 ≤ sorted.length := List.length_pos_iff.mpr hne
  have hlow := one_le_rank hlen hpos
  have hhigh : rank sorted.length fraction ≤ sorted.length := rank_le hle
  have hmin : min (rank sorted.length fraction - 1) (sorted.length - 1) =
      rank sorted.length fraction - 1 := by omega
  unfold percentile
  rw [mul_comm fraction]
  change _ = some (sorted.getD (min (rank sorted.length fraction - 1) (sorted.length - 1)) 0)
  rw [hmin, List.getD_eq_getElem?_getD, List.getElem?_eq_getElem (by omega), Option.getD_some]

theorem onePercentLow_metricsOf {intervals : List ℚ} (hne : intervals ≠ []) (loss age newest : ℕ) :
    (metricsOf intervals loss age newest).onePercentLowFps =
      some (1000 / (((sortBy id intervals).drop
        (intervals.length - rank intervals.length (1 / 100))).sum /
          (rank intervals.length (1 / 100) : ℚ))) := by
  have hlen : 1 ≤ intervals.length := List.length_pos_iff.mpr hne
  have hmax : max 1 (rank intervals.length (1 / 100)) = rank intervals.length (1 / 100) :=
    max_eq_right (one_le_rank hlen (by norm_num))
  simp only [metricsOf, hmax, (sortBy_perm id intervals).length_eq]

/-- The last present of a window is the last of the queue. -/
theorem getLast?_fromTime {presents : List PresentTimestamp} (hinc : Increasing presents)
    {cutoff : ℕ} (h : fromTime presents cutoff ≠ []) :
    (fromTime presents cutoff).getLast? = presents.getLast? := by
  unfold fromTime at h ⊢
  rw [← drop_lowerBound hinc] at h ⊢
  have hlt : lowerBound presents cutoff < presents.length := by
    by_contra hge
    exact h (List.drop_eq_nil_of_le (Nat.le_of_not_lt hge))
  rw [List.getLast?_drop, if_neg (Nat.not_le.mpr hlt)]

/-- What is said about a window with these intervals. -/
def alone (newest nowNs staleAfterNs : ℕ) (intervals : List ℚ) : FrameMetrics ℚ :=
  if intervals.length = 0 then unavailable .noSamples 0
  else if Stale newest nowNs staleAfterNs then
    { unavailable .stale (ageOf newest nowNs) with newestPresentNs := newest }
  else metricsOf intervals 0 (ageOf newest nowNs) newest

/-- **A window alone** is a matter of its intervals. -/
theorem aggregatePresents_fromTime {presents : List PresentTimestamp} {identity : SampleIdentity}
    {last : PresentTimestamp} (hinc : Increasing presents)
    (hsame : ∀ p ∈ presents, p.identity = identity) (hlast : presents.getLast? = some last)
    (nowNs staleAfterNs cutoff : ℕ) :
    aggregatePresents (fromTime presents cutoff) identity nowNs staleAfterNs =
      alone last.monotonicNs nowNs staleAfterNs (gaps (fromTime presents cutoff)) := by
  unfold alone
  have hsame' : ∀ p ∈ fromTime presents cutoff, p.identity = identity := fun p hp =>
    hsame p (List.mem_of_mem_filter hp)
  by_cases hcount : (gaps (fromTime presents cutoff)).length = 0
  · rw [if_pos hcount]
    rw [length_gaps] at hcount
    exact aggregatePresents_short (by omega)
  · rw [if_neg hcount]
    rw [length_gaps] at hcount
    have htwo : 2 ≤ (fromTime presents cutoff).length := by omega
    have hne : fromTime presents cutoff ≠ [] := by
      intro h
      simp [h] at htwo
    have hlast' := (getLast?_fromTime hinc hne).trans hlast
    by_cases hstale : Stale last.monotonicNs nowNs staleAfterNs
    · rw [if_pos hstale]
      exact aggregatePresents_stale hsame' hlast' htwo hstale
    · rw [if_neg hstale]
      exact aggregatePresents_fresh (increasing_fromTime hinc cutoff) hsame' hlast' htwo hstale

/-- What a drain says of the present, and why it says nothing. -/
structure LiveAgrees (fast live : FrameMetrics ℚ) : Prop where
  fps : fast.fps = live.fps
  frameTimeMs : fast.frameTimeMs = live.frameTimeMs
  reason : fast.reason = live.reason
  ageNs : fast.ageNs = live.ageNs
  newestPresentNs : fast.newestPresentNs = live.newestPresentNs

/-- The statistics of a drain are those of four windows, each taken alone. -/
structure Agrees (fast live sustained tail long : FrameMetrics ℚ) : Prop
    extends LiveAgrees fast live where
  averageFps : fast.averageFps = sustained.averageFps
  sustainedOnePercentLowFps : fast.sustainedOnePercentLowFps = sustained.onePercentLowFps
  p95Ms : fast.p95Ms = tail.p95Ms
  p99Ms : fast.p99Ms = tail.p99Ms
  stutterCount : fast.stutterCount = tail.stutterCount
  onePercentLowFps : fast.onePercentLowFps = long.onePercentLowFps

/-- The four windows of a list that ends at `newest`, each by itself. -/
def AgreesFrom (fast : FrameMetrics ℚ) (presents : List PresentTimestamp)
    (plain : List PresentTimestamp → FrameMetrics ℚ) (newest notBeforeNs historyBoundary : ℕ) :
    Prop :=
  Agrees fast (plain (fromTime presents (windowCutoff newest liveWindowNs notBeforeNs)))
    (plain (fromTime presents (windowCutoff newest sustainedWindowNs historyBoundary)))
    (plain (fromTime presents (windowCutoff newest tailWindowNs historyBoundary)))
    (plain (fromTime presents (windowCutoff newest longestWindowNs historyBoundary)))

/-! ## 5. The drain -/

section

variable {presents : List PresentTimestamp} {longFirst : ℕ}

/-- The buffer after the sort, read at one of the windows. -/
theorem map_ms_behind_sorted {first : ℕ} (h : longFirst ≤ first) :
    (behind first (sortBy Interval.ms (behind longFirst (intervalsFrom 1 presents)))).map
      Interval.ms = sortBy id (gaps (presents.drop first)) := by
  have hsort := map_filter_sorted (p := fun i : Interval => decide (first < i.index))
    (sortBy_perm Interval.ms (behind longFirst (intervalsFrom 1 presents)))
    (sortBy_sorted Interval.ms (behind longFirst (intervalsFrom 1 presents)))
  change (behind first _).map Interval.ms = sortBy id ((behind first _).map Interval.ms) at hsort
  rw [hsort, behind_behind h, map_ms_behind]

theorem map_ms_sorted :
    (sortBy Interval.ms (behind longFirst (intervalsFrom 1 presents))).map Interval.ms =
      sortBy id (gaps (presents.drop longFirst)) := by
  have hself : behind longFirst (sortBy Interval.ms (behind longFirst (intervalsFrom 1 presents))) =
      sortBy Interval.ms (behind longFirst (intervalsFrom 1 presents)) := by
    refine List.filter_eq_self.mpr fun i hi => ?_
    exact (List.mem_filter.mp ((sortBy_perm _ _).mem_iff.mp hi)).2
  rw [← map_ms_behind_sorted (le_refl longFirst), hself]

/-- The stutters of the tail window, counted in the buffer. -/
theorem countP_sorted {first : ℕ} (h : longFirst ≤ first) (limit : ℚ) :
    (sortBy Interval.ms (behind longFirst (intervalsFrom 1 presents))).countP
        (fun i => decide (first < i.index) && decide (limit < i.ms)) =
      (sortBy id (gaps (presents.drop first))).countP fun ms => decide (limit < ms) := by
  rw [← map_ms_behind_sorted h, List.countP_map, countP_behind]
  rfl

end

section

variable {newest nowNs staleAfterNs : ℕ}

theorem alone_stale (h : Stale newest nowNs staleAfterNs) (intervals : List ℚ) :
    alone newest nowNs staleAfterNs intervals =
      if intervals.length ≠ 0 then
        { reason := .stale, ageNs := ageOf newest nowNs, newestPresentNs := newest }
      else {} := by
  unfold alone
  by_cases hcount : intervals.length = 0
  · rw [if_pos hcount, if_neg (not_not_intro hcount)]
    rfl
  · rw [if_neg hcount, if_pos h, if_pos hcount]
    rfl

theorem alone_fresh (h : ¬ Stale newest nowNs staleAfterNs) {intervals : List ℚ}
    (hcount : intervals.length ≠ 0) : alone newest nowNs staleAfterNs intervals =
      metricsOf intervals 0 (ageOf newest nowNs) newest := by
  unfold alone
  rw [if_neg hcount, if_neg h]

theorem alone_empty {intervals : List ℚ} (hcount : intervals.length = 0) :
    alone newest nowNs staleAfterNs intervals = {} := by
  unfold alone
  rw [if_pos hcount]
  rfl

/-- A stale drain: its windows have no statistics, whatever their number of intervals. -/
theorem agrees_stale (h : Stale newest nowNs staleAfterNs) (live sustained tail long : List ℚ) :
    Agrees (if live.length ≠ 0 then
        { reason := .stale, ageNs := ageOf newest nowNs, newestPresentNs := newest }
      else {}) (alone newest nowNs staleAfterNs live) (alone newest nowNs staleAfterNs sustained)
      (alone newest nowNs staleAfterNs tail) (alone newest nowNs staleAfterNs long) := by
  simp only [alone_stale h]
  refine ⟨⟨rfl, rfl, rfl, rfl, rfl⟩, ?_, ?_, ?_, ?_, ?_, ?_⟩ <;> split <;> split <;> rfl

/-- The live window is published by itself. -/
theorem liveAgrees_publishLive (h : ¬ Stale newest nowNs staleAfterNs) {base : FrameMetrics ℚ}
    (hbase : LiveAgrees base {}) (live : List ℚ) :
    LiveAgrees (publishLive base live.sum live.length (ageOf newest nowNs) newest)
      (alone newest nowNs staleAfterNs live) := by
  by_cases hcount : live.length = 0
  · rw [publishLive, if_pos hcount, alone_empty hcount]
    exact hbase
  · rw [publishLive, if_neg hcount, alone_fresh h hcount]
    exact ⟨rfl, rfl, rfl, rfl, rfl⟩

theorem averageFps_alone (h : ¬ Stale newest nowNs staleAfterNs) (g : List ℚ) :
    (if g.length ≠ 0 then some (1000 / (g.sum / (g.length : ℚ))) else none) =
      (alone newest nowNs staleAfterNs g).averageFps := by
  by_cases hcount : g.length = 0
  · rw [if_neg (not_not_intro hcount), alone_empty hcount]
  · rw [if_pos hcount, alone_fresh h hcount]
    rfl

theorem onePercentLowFps_alone (h : ¬ Stale newest nowNs staleAfterNs) (g : List ℚ) :
    (if g.length ≠ 0 then
        some (1000 / (((sortBy id g).drop (g.length - rank g.length (1 / 100))).sum /
          (rank g.length (1 / 100) : ℚ)))
      else none) = (alone newest nowNs staleAfterNs g).onePercentLowFps := by
  by_cases hcount : g.length = 0
  · rw [if_neg (not_not_intro hcount), alone_empty hcount]
  · have hne : g ≠ [] := fun hnil => hcount (by simp [hnil])
    rw [if_pos hcount, alone_fresh h hcount, onePercentLow_metricsOf hne]

/-- The element of a rank in the sorted intervals of a window. -/
theorem getElem?_sortBy {g : List ℚ} (hcount : g.length ≠ 0) {fraction : ℚ} (hpos : 0 < fraction)
    (hle : fraction ≤ 1) :
    (sortBy id g)[rank g.length fraction - 1]? = some (percentile (sortBy id g) fraction) := by
  have hlen : (sortBy id g).length = g.length := (sortBy_perm id g).length_eq
  have hne : sortBy id g ≠ [] := fun hnil => hcount (by simp [← hlen, hnil])
  rw [← hlen]
  exact getElem?_rank hne hpos hle

theorem sortBy_of_empty {g : List ℚ} (hcount : g.length = 0) : sortBy id g = [] :=
  List.eq_nil_of_length_eq_zero ((sortBy_perm id g).length_eq.trans hcount)

theorem p95Ms_alone (h : ¬ Stale newest nowNs staleAfterNs) (g : List ℚ) :
    (sortBy id g)[rank g.length (95 / 100) - 1]? =
      (alone newest nowNs staleAfterNs g).p95Ms := by
  by_cases hcount : g.length = 0
  · rw [sortBy_of_empty hcount, alone_empty hcount]
    rfl
  · rw [getElem?_sortBy hcount (by norm_num) (by norm_num), alone_fresh h hcount]
    rfl

theorem p99Ms_alone (h : ¬ Stale newest nowNs staleAfterNs) (g : List ℚ) :
    (sortBy id g)[rank g.length (99 / 100) - 1]? =
      (alone newest nowNs staleAfterNs g).p99Ms := by
  by_cases hcount : g.length = 0
  · rw [sortBy_of_empty hcount, alone_empty hcount]
    rfl
  · rw [getElem?_sortBy hcount (by norm_num) (by norm_num), alone_fresh h hcount]
    rfl

theorem stutterCount_alone (h : ¬ Stale newest nowNs staleAfterNs) (g : List ℚ) :
    (if g.length ≠ 0 then
        (sortBy id g).countP fun ms => decide
          (max 50 (((sortBy id g)[rank g.length (1 / 2) - 1]?).getD 0 * 2) < ms)
      else 0) = (alone newest nowNs staleAfterNs g).stutterCount := by
  by_cases hcount : g.length = 0
  · rw [if_neg (not_not_intro hcount), alone_empty hcount]
  · rw [if_pos hcount, alone_fresh h hcount,
      getElem?_sortBy hcount (by norm_num) (by norm_num)]
    rfl

end

section

variable {presents : List PresentTimestamp}

/-- **With a history**: the sums and ranks of the two loops are those of each window. -/
theorem agrees_history {newest nowNs staleAfterNs liveFirst longFirst sustainedFirst tailFirst : ℕ}
    {live long sustained tail : List ℚ} (h : ¬ Stale newest nowNs staleAfterNs)
    (hsustained : longFirst ≤ sustainedFirst) (htail : longFirst ≤ tailFirst)
    (elive : gaps (presents.drop liveFirst) = live) (elong : gaps (presents.drop longFirst) = long)
    (esustained : gaps (presents.drop sustainedFirst) = sustained)
    (etail : gaps (presents.drop tailFirst) = tail) (hlong : long.length ≠ 0) :
    Agrees (historyStatistics presents newest (ageOf newest nowNs) liveFirst longFirst
        ⟨sustainedFirst, tailFirst, long.length, sustained.length, tail.length⟩)
      (alone newest nowNs staleAfterNs live) (alone newest nowNs staleAfterNs sustained)
      (alone newest nowNs staleAfterNs tail) (alone newest nowNs staleAfterNs long) := by
  have hlive : presents.length - 1 - liveFirst = live.length := by
    rw [← elive, length_gaps, List.length_drop]
    omega
  have hcollect : ((intervalsFrom 1 presents).drop (min liveFirst longFirst)).foldl
      (Collected.add liveFirst longFirst sustainedFirst) {} =
        { sorted := behind longFirst (intervalsFrom 1 presents)
          liveTotal := live.sum
          sustainedTotal := sustained.sum } := by
    rw [foldl_collect, behind_drop presents (Nat.min_le_left _ _),
      behind_drop presents (Nat.min_le_right _ _),
      behind_drop presents ((Nat.min_le_right _ _).trans hsustained), map_ms_behind,
      map_ms_behind, elive, esustained]
    simp
  have hrank : (sortBy Interval.ms (behind longFirst (intervalsFrom 1 presents))).foldl
      (Ranked.add ⟨sustainedFirst, tailFirst, long.length, sustained.length, tail.length⟩) {} =
        rankedOf ⟨sustainedFirst, tailFirst, long.length, sustained.length, tail.length⟩
          (sortBy Interval.ms (behind longFirst (intervalsFrom 1 presents))) := by
    refine foldl_rank fun i hi hindex => ?_
    have hmem : i ∈ behind tailFirst
        (sortBy Interval.ms (behind longFirst (intervalsFrom 1 presents))) :=
      List.mem_filter.mpr ⟨hi, decide_eq_true hindex⟩
    have hms := List.mem_map_of_mem (f := Interval.ms) hmem
    rw [map_ms_behind_sorted htail, etail] at hms
    have hlen : (sortBy id tail).length = tail.length := (sortBy_perm id tail).length_eq
    rw [← hlen]
    exact List.length_pos_of_mem hms
  unfold historyStatistics
  simp only [hcollect, hrank, rankedOf, map_ms_sorted, map_ms_behind_sorted hsustained,
    map_ms_behind_sorted htail, countP_sorted htail, elong, esustained, etail, hlive]
  have hlow := onePercentLowFps_alone h long
  rw [if_pos hlong] at hlow
  have hpublish := liveAgrees_publishLive h
    (⟨rfl, rfl, rfl, rfl, rfl⟩ : LiveAgrees
      { p95Ms := (sortBy id tail)[rank tail.length (95 / 100) - 1]?
        p99Ms := (sortBy id tail)[rank tail.length (99 / 100) - 1]? } {}) live
  constructor
  case toLiveAgrees =>
    exact ⟨hpublish.fps, hpublish.frameTimeMs, hpublish.reason, hpublish.ageNs,
      hpublish.newestPresentNs⟩
  case averageFps => exact averageFps_alone h sustained
  case sustainedOnePercentLowFps => exact onePercentLowFps_alone h sustained
  case p95Ms => exact (publishLive_p95Ms _ _ _ _ _).trans (p95Ms_alone h tail)
  case p99Ms => exact (publishLive_p99Ms _ _ _ _ _).trans (p99Ms_alone h tail)
  case stutterCount => exact stutterCount_alone h tail
  case onePercentLowFps => exact hlow

/-- **Without a history** only the live window has intervals. -/
theorem agrees_live {newest nowNs staleAfterNs : ℕ} {live long sustained tail : List ℚ}
    (h : ¬ Stale newest nowNs staleAfterNs) (hlong : long.length = 0)
    (hsustained : sustained.length ≤ long.length) (htail : tail.length ≤ long.length) :
    Agrees (publishLive {} live.sum live.length (ageOf newest nowNs) newest)
      (alone newest nowNs staleAfterNs live) (alone newest nowNs staleAfterNs sustained)
      (alone newest nowNs staleAfterNs tail) (alone newest nowNs staleAfterNs long) := by
  have hnone : ∀ g : List ℚ, g.length ≤ long.length → alone newest nowNs staleAfterNs g = {} :=
    fun g hg => alone_empty (by omega)
  have hpublish := liveAgrees_publishLive h
    (⟨rfl, rfl, rfl, rfl, rfl⟩ : LiveAgrees {} {}) live
  rw [hnone sustained hsustained, hnone tail htail, hnone long (le_refl _)]
  refine ⟨hpublish, ?_, ?_, ?_, ?_, ?_, ?_⟩ <;> unfold publishLive <;> split <;> rfl

theorem sum_intervals (first : ℕ) :
    ((intervalsFrom 1 presents).drop first).foldl (fun t i => t + i.ms) 0 =
      (gaps (presents.drop first)).sum := by
  rw [drop_intervalsFrom, ← map_ms_intervalsFrom _ (1 + first), List.sum_eq_foldl, List.foldl_map]

theorem windowStatistics_agrees (hinc : Increasing presents)
    (newest nowNs staleAfterNs notBeforeNs historyBoundary : ℕ) :
    Agrees
      (windowStatistics presents newest nowNs staleAfterNs notBeforeNs historyBoundary)
      (alone newest nowNs staleAfterNs
        (gaps (fromTime presents (windowCutoff newest liveWindowNs notBeforeNs))))
      (alone newest nowNs staleAfterNs
        (gaps (fromTime presents (windowCutoff newest sustainedWindowNs historyBoundary))))
      (alone newest nowNs staleAfterNs
        (gaps (fromTime presents (windowCutoff newest tailWindowNs historyBoundary))))
      (alone newest nowNs staleAfterNs
        (gaps (fromTime presents (windowCutoff newest longestWindowNs historyBoundary)))) := by
  have hsustained := firstIndex_mono presents newest historyBoundary
    (show sustainedWindowNs ≤ longestWindowNs by decide)
  have htail := firstIndex_mono presents newest historyBoundary
    (show tailWindowNs ≤ longestWindowNs by decide)
  have hcount := count_firstIndex hinc newest
  unfold windowStatistics
  simp only [hcount, sum_intervals, gaps_firstIndex hinc]
  by_cases hstale : Stale newest nowNs staleAfterNs
  · rw [if_pos hstale]
    exact agrees_stale hstale _ _ _ _
  · rw [if_neg hstale]
    split
    · rename_i hlong
      refine agrees_live hstale hlong ?_ ?_ <;> rw [← hcount, ← hcount] <;> omega
    · rename_i hlong
      exact agrees_history hstale hsustained htail (gaps_firstIndex hinc _ _ _)
        (gaps_firstIndex hinc _ _ _) (gaps_firstIndex hinc _ _ _) (gaps_firstIndex hinc _ _ _)
        hlong

end

/-- **One sort and one pass are four windows.** -/
theorem aggregateWindows_agrees {presents : List PresentTimestamp} {identity : SampleIdentity}
    {last : PresentTimestamp} (hinc : Increasing presents)
    (hsame : ∀ p ∈ presents, p.identity = identity) (hlast : presents.getLast? = some last)
    (nowNs staleAfterNs notBeforeNs : ℕ) (statisticsBoundary : Option ℕ) :
    AgreesFrom (aggregateWindows presents nowNs staleAfterNs notBeforeNs statisticsBoundary)
      presents (fun window => aggregatePresents window identity nowNs staleAfterNs)
      last.monotonicNs notBeforeNs (max notBeforeNs (statisticsBoundary.getD uint64Max)) := by
  unfold AgreesFrom
  simp only [aggregatePresents_fromTime hinc hsame hlast]
  match presents, hinc, hlast with
  | [p], hinc, hlast =>
    have hshort : ∀ cutoff, (gaps (fromTime [p] cutoff)).length = 0 := by
      intro cutoff
      have hlen : (fromTime [p] cutoff).length ≤ 1 := List.length_filter_le _ _
      rw [length_gaps]
      omega
    simp only [alone_empty (hshort _)]
    exact ⟨⟨rfl, rfl, rfl, rfl, rfl⟩, rfl, rfl, rfl, rfl, rfl, rfl⟩
  | p :: q :: rest, hinc, hlast =>
    unfold aggregateWindows
    rw [hlast]
    exact windowStatistics_agrees hinc last.monotonicNs nowNs staleAfterNs notBeforeNs _

/-! ## 6. The queue of a source -/

theorem fromTime_fromTime (presents : List PresentTimestamp) {cutoff cutoff' : ℕ}
    (h : cutoff ≤ cutoff') :
    fromTime (fromTime presents cutoff) cutoff' = fromTime presents cutoff' := by
  unfold fromTime
  rw [List.filter_filter]
  refine List.filter_congr fun p _ => ?_
  by_cases hp : cutoff' ≤ p.monotonicNs
  · simp [hp, h.trans hp]
  · simp [hp]

namespace PresentQueue

variable {identity : SampleIdentity}

/-- **A window**: the presents of the last `duration`, none of them before `notBeforeNs`. -/
def window (q : PresentQueue identity) (duration notBeforeNs : ℕ) : List PresentTimestamp :=
  q.presents.filter fun p =>
    decide (notBeforeNs ≤ p.monotonicNs ∧ q.newest.getD 0 ≤ p.monotonicNs + duration)

/-- A window of the history, which is hidden without a statistics boundary. -/
def historyWindow (q : PresentQueue identity) (duration notBeforeNs : ℕ) :
    Option ℕ → List PresentTimestamp
  | none => []
  | some boundary => q.window duration (max notBeforeNs boundary)

theorem window_eq (q : PresentQueue identity) {newest : ℕ} (h : q.newest = some newest)
    (duration notBeforeNs : ℕ) :
    q.window duration notBeforeNs =
      fromTime q.presents (windowCutoff newest duration notBeforeNs) := by
  unfold window fromTime windowCutoff
  rw [h]
  refine List.filter_congr fun p _ => decide_eq_decide.mpr ?_
  simp only [Option.getD_some]
  split <;> omega

/-- Behind the largest time there is room for one present. -/
theorem fromTime_uint64Max (q : PresentQueue identity) {cutoff : ℕ} (h : uint64Max ≤ cutoff) :
    (fromTime q.presents cutoff).length < 2 := by
  have hinc := increasing_fromTime q.increasing cutoff
  have hmax : ∀ p ∈ fromTime q.presents cutoff, p.monotonicNs = uint64Max := by
    intro p hp
    obtain ⟨hmem, hle⟩ := List.mem_filter.mp hp
    have hlt := q.bounded p hmem
    have hle := of_decide_eq_true hle
    unfold uint64Max at h ⊢
    omega
  match hlist : fromTime q.presents cutoff with
  | [] => simp
  | [_] => simp
  | p :: p' :: _ =>
    rw [hlist] at hinc hmax
    have hp := hmax p (by simp)
    have hp' := hmax p' (by simp)
    have hlt := (List.pairwise_cons.mp hinc).1 p' (by simp)
    omega

/-- The plain statistics of a history window, by its cutoff. -/
theorem plain_historyWindow (q : PresentQueue identity) {newest : ℕ} (h : q.newest = some newest)
    (duration notBeforeNs nowNs staleAfterNs : ℕ) (boundary : Option ℕ) :
    aggregatePresents (q.historyWindow duration notBeforeNs boundary) identity nowNs
        staleAfterNs =
      aggregatePresents (fromTime q.presents
        (windowCutoff newest duration (max notBeforeNs (boundary.getD uint64Max)))) identity
        nowNs staleAfterNs := by
  cases boundary with
  | some boundary =>
    rw [historyWindow, window_eq q h]
    rfl
  | none =>
    have hcut : uint64Max ≤ windowCutoff newest duration (max notBeforeNs uint64Max) :=
      (le_max_right _ _).trans (le_max_left _ _)
    rw [historyWindow, aggregatePresents_short (by simp), Option.getD_none,
      aggregatePresents_short (fromTime_uint64Max q hcut)]

end PresentQueue

/-- The statistics are those that `aggregate_presents` computes on the windows of the queue. -/
def WindowsAgree {identity : SampleIdentity} (fast : FrameMetrics ℚ) (q : PresentQueue identity)
    (nowNs staleAfterNs notBeforeNs : ℕ) (boundary : Option ℕ) : Prop :=
  Agrees fast
    (aggregatePresents (q.window liveWindowNs notBeforeNs) identity nowNs staleAfterNs)
    (aggregatePresents (q.historyWindow sustainedWindowNs notBeforeNs boundary) identity nowNs
      staleAfterNs)
    (aggregatePresents (q.historyWindow tailWindowNs notBeforeNs boundary) identity nowNs
      staleAfterNs)
    (aggregatePresents (q.historyWindow longestWindowNs notBeforeNs boundary) identity nowNs
      staleAfterNs)

/-- A drain of nothing. -/
theorem agrees_nil {identity : SampleIdentity} (nowNs staleAfterNs notBeforeNs : ℕ)
    (boundary : Option ℕ) :
    Agrees (aggregateWindows [] nowNs staleAfterNs notBeforeNs boundary)
      (aggregatePresents [] identity nowNs staleAfterNs)
      (aggregatePresents [] identity nowNs staleAfterNs)
      (aggregatePresents [] identity nowNs staleAfterNs)
      (aggregatePresents [] identity nowNs staleAfterNs) :=
  ⟨⟨rfl, rfl, rfl, rfl, rfl⟩, rfl, rfl, rfl, rfl, rfl, rfl⟩

/-- The window that is copied reaches back as far as any that is read. -/
theorem copyCutoff_le (newest notBeforeNs boundary : ℕ) {duration : ℕ}
    (h : duration ≤ longestWindowNs) :
    max (windowCutoff newest longestWindowNs notBeforeNs) boundary ≤
      windowCutoff newest duration (max notBeforeNs boundary) := by
  unfold windowCutoff
  split <;> split <;> omega

/-- **What a drain copies holds every window.** -/
theorem copied_windowsAgree {identity : SampleIdentity} (q : PresentQueue identity)
    (nowNs staleAfterNs notBeforeNs : ℕ) (boundary : Option ℕ) :
    WindowsAgree
      (aggregateWindows (copied q notBeforeNs boundary) nowNs staleAfterNs notBeforeNs boundary)
      q nowNs staleAfterNs notBeforeNs boundary := by
  unfold WindowsAgree
  cases hnewest : q.newest with
  | none =>
    have hempty : q.presents = [] :=
      List.getLast?_eq_none_iff.mp (Option.map_eq_none_iff.mp hnewest)
    have hwindow : ∀ duration notBefore, q.window duration notBefore = [] := by
      intro duration notBefore
      simp [PresentQueue.window, hempty]
    have hhistory : ∀ duration, q.historyWindow duration notBeforeNs boundary = [] := by
      intro duration
      cases boundary with
      | none => rfl
      | some boundary => exact hwindow _ _
    rw [hwindow, hhistory, hhistory, hhistory, copied, hnewest]
    exact agrees_nil nowNs staleAfterNs notBeforeNs boundary
  | some newest =>
    simp only [q.plain_historyWindow hnewest, q.window_eq hnewest]
    let cutoff := min (windowCutoff newest liveWindowNs notBeforeNs)
      (max (windowCutoff newest longestWindowNs notBeforeNs) (boundary.getD uint64Max))
    have hcopied : copied q notBeforeNs boundary = fromTime q.presents cutoff := by
      rw [copied, hnewest]
      exact drop_lowerBound q.increasing cutoff
    have hlive : cutoff ≤ windowCutoff newest liveWindowNs notBeforeNs := Nat.min_le_left _ _
    have hhistory : ∀ duration, duration ≤ longestWindowNs → cutoff ≤
        windowCutoff newest duration (max notBeforeNs (boundary.getD uint64Max)) := fun _ h =>
      (Nat.min_le_right _ _).trans (copyCutoff_le newest notBeforeNs _ h)
    rw [hcopied, ← fromTime_fromTime q.presents hlive,
      ← fromTime_fromTime q.presents (hhistory sustainedWindowNs (by decide)),
      ← fromTime_fromTime q.presents (hhistory tailWindowNs (by decide)),
      ← fromTime_fromTime q.presents (hhistory longestWindowNs (le_refl _))]
    by_cases hempty : fromTime q.presents cutoff = []
    · rw [hempty]
      exact agrees_nil nowNs staleAfterNs notBeforeNs boundary
    · obtain ⟨last, hlast, rfl⟩ := Option.map_eq_some_iff.mp hnewest
      exact aggregateWindows_agrees (increasing_fromTime q.increasing cutoff)
        (fun p hp => q.same p (List.mem_of_mem_filter hp))
        ((getLast?_fromTime q.increasing hempty).trans hlast) nowNs staleAfterNs notBeforeNs
        boundary

/-- The queue a drain reads. -/
def PresentSource.drained (s : PresentSource) (nowNs staleAfterNs notBeforeNs : ℕ) :
    PresentQueue s.identity :=
  ((s.selected nowNs staleAfterNs notBeforeNs).map (·.queue)).getD .empty

/-- **Fast window statistics are the plain ones**: for every queue, and for the one that a drain
of a running source selects. -/
theorem drain_eq_plain :
    (∀ (identity : SampleIdentity) (q : PresentQueue identity)
      (nowNs staleAfterNs notBeforeNs : ℕ) (boundary : Option ℕ),
      WindowsAgree
        (aggregateWindows (copied q notBeforeNs boundary) nowNs staleAfterNs notBeforeNs boundary)
        q nowNs staleAfterNs notBeforeNs boundary) ∧
    ∀ (s : PresentSource) (nowNs staleAfterNs notBeforeNs : ℕ), s.running = true →
      s.schemaFailure = false →
      WindowsAgree (s.drain nowNs staleAfterNs notBeforeNs)
        (s.drained nowNs staleAfterNs notBeforeNs) nowNs staleAfterNs notBeforeNs
        s.statisticsNotBeforeNs := by
  refine ⟨fun _ q => copied_windowsAgree q, ?_⟩
  intro s nowNs staleAfterNs notBeforeNs hrunning hschema
  have h := copied_windowsAgree (s.drained nowNs staleAfterNs notBeforeNs) nowNs staleAfterNs
    notBeforeNs s.statisticsNotBeforeNs
  have hcopied : ((s.selected nowNs staleAfterNs notBeforeNs).map fun c =>
      copied c.queue notBeforeNs s.statisticsNotBeforeNs).getD [] =
        copied (s.drained nowNs staleAfterNs notBeforeNs) notBeforeNs s.statisticsNotBeforeNs := by
    unfold PresentSource.drained
    cases s.selected nowNs staleAfterNs notBeforeNs with
    | none => rfl
    | some c => rfl
  have hguard : ¬ (¬ s.running = true ∨ s.schemaFailure = true) := by simp [hrunning, hschema]
  unfold PresentSource.drain
  rw [if_neg hguard]
  simp only [hcopied]
  exact ⟨⟨h.fps, h.frameTimeMs, h.reason, h.ageNs, h.newestPresentNs⟩, h.averageFps,
    h.sustainedOnePercentLowFps, h.p95Ms, h.p99Ms, h.stutterCount, h.onePercentLowFps⟩

/-- Three presents of one process, 16 and 17 milliseconds apart. -/
def threePresents : PresentQueue {} where
  presents := [⟨{}, 1000000⟩, ⟨{}, 17000000⟩, ⟨{}, 34000000⟩]
  increasing := by decide
  same := by decide
  bounded := by decide

def threePresentSource : PresentSource where
  identity := {}
  running := true
  streams := [(7, { queue := threePresents })]

theorem drain_eq_plain_threePresents :
    WindowsAgree (threePresentSource.drain 34000000 1000000000 0)
      (threePresentSource.drained 34000000 1000000000 0) 34000000 1000000000 0 (some 0) :=
  drain_eq_plain.2 threePresentSource 34000000 1000000000 0 rfl rfl

end Kf2Optimizer.Telemetry
