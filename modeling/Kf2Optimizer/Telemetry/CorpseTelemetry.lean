/-
# The corpse limit on display

`CorpseTelemetryTracker` keeps the game's corpse limit for display.  A verified frame brings it, a
frame without one lets it go stale for a while, and everything that may mean another process, another
provider or an earlier time takes it away.

`Held` says which verified frame a limit is from and that nothing has ended it since;
`corpse_limit_is_own_and_recent` is the tracker's promise in these terms.  A provider that only
rejected frames have named is not compared with, a rejection is forgotten with the process and the
clock, and online actions are not asked whether they came after it (`corpse_limit_not_promised`).
-/
import Kf2Optimizer.Game.GameLogSession
import Kf2Optimizer.Telemetry.FrameMetrics

namespace Kf2Optimizer.Telemetry

open Text Game

/-! ## 1. Frames -/

/-- What the tracker reads of a `GameLogSession`. -/
structure CorpseGameplay where
  map : Bytes := []
  netMode : Option Bytes := none
  optimizerOnlineReadOnly : Bool := false
  onlineCorpsePool : Option ℤ := none
  onlineCorpseMaximum : Option ℤ := none
  onlineCorpseCapabilityObservedNs : ℕ := 0
  onlineCorpseSleepVerified : Bool := false
  onlineCorpseActionObservedNs : ℕ := 0
  telemetryCorpseTotal : Option ℤ := none
  telemetryCorpseLimit : Option ℤ := none
  telemetryControlPort : Option ℕ := none
  telemetrySample : Option ℤ := none
  telemetryObservedNs : ℕ := 0
  phase : GameLogPhase := .mapLoaded
  mainMenu : Bool := false

/-- The arguments of `observe`: what it reads of a `TelemetryFrame`, and the permission. -/
structure CorpseFrame where
  identity : SampleIdentity
  observedAtNs : ℕ
  gameplay : Option CorpseGameplay := none
  activeGameplay : Bool := false
  offlineGameplay : Bool := false
  permitted : Bool := true

/-- `kGameLogObservationFreshnessNs`. -/
def kGameLogObservationFreshnessNs : ℕ := 15000000000

/-- `grace_ns`. -/
def graceNs : ℕ := 10000000000

namespace CorpseFrame

/-- `explicit_online`. -/
def explicitOnline (f : CorpseFrame) : Bool :=
  f.gameplay.any fun game =>
    decide (game.netMode = some (ascii "NM_Client") ∨
      game.netMode = some (ascii "NM_ListenServer") ∨
      game.netMode = some (ascii "NM_DedicatedServer"))

/-- `verified_online`. -/
def verifiedOnline (f : CorpseFrame) : Bool :=
  f.explicitOnline && f.gameplay.any fun game =>
    game.optimizerOnlineReadOnly && f.activeGameplay && !game.mainMenu &&
      decide (game.phase ≠ .matchEnded) &&
      (match game.onlineCorpsePool, game.onlineCorpseMaximum with
        | some pool, some maximum => decide (0 ≤ pool) && decide (pool ≤ maximum)
        | _, _ => false) &&
      decide (game.onlineCorpseCapabilityObservedNs ≠ 0) && game.onlineCorpseSleepVerified &&
      decide (game.onlineCorpseActionObservedNs ≠ 0)

/-- The frame is rejected. -/
def rejected (f : CorpseFrame) : Bool :=
  !f.permitted || f.identity.pid == 0 || f.identity.processStartId == 0 ||
    (f.explicitOnline && !f.verifiedOnline) ||
    f.gameplay.any fun game => decide (f.observedAtNs < game.telemetryObservedNs)

/-- `fresh_offline`, as far as it is about the frame. -/
def verifiedOffline (f : CorpseFrame) : Bool :=
  f.gameplay.any fun game =>
    f.activeGameplay && f.offlineGameplay && decide (game.netMode = some (ascii "NM_Standalone")) &&
      !game.mainMenu && decide (game.phase ≠ .matchEnded) &&
      decide (0 < game.telemetrySample.getD 0) &&
      (game.telemetryCorpseLimit.any fun limit => decide (0 ≤ limit)) &&
      (game.telemetryCorpseTotal.any fun total => decide (0 ≤ total)) &&
      decide (game.telemetryObservedNs ≠ 0) && decide (game.telemetryObservedNs ≤ f.observedAtNs) &&
      decide (f.observedAtNs - game.telemetryObservedNs ≤ kGameLogObservationFreshnessNs)

def controlPort (f : CorpseFrame) : Option ℕ := f.gameplay.bind (·.telemetryControlPort)

def sample (f : CorpseFrame) : Option ℤ := f.gameplay.bind (·.telemetrySample)

/-- The limit that a verified frame carries. -/
def limit (f : CorpseFrame) : Option ℤ :=
  f.gameplay.bind fun game =>
    if f.verifiedOnline then game.onlineCorpseMaximum else game.telemetryCorpseLimit

/-- When the sample or the action of a verified frame was observed. -/
def evidenceNs (f : CorpseFrame) : ℕ :=
  f.gameplay.elim 0 fun game =>
    if f.verifiedOnline then game.onlineCorpseActionObservedNs else game.telemetryObservedNs

end CorpseFrame

/-! ## 2. The tracker -/

inductive CorpseTelemetryState
  | unavailable | available | stale
deriving DecidableEq

/-- `CorpseTelemetryTracker`. -/
structure CorpseTelemetryTracker where
  identity : SampleIdentity := {}
  state : CorpseTelemetryState := .unavailable
  limit : Option ℤ := none
  sample : Option ℤ := none
  port : Option ℕ := none
  gapSince : Option ℕ := none
  lastVerified : ℕ := 0
  lastClock : ℕ := 0
  map : Bytes := []

namespace CorpseTelemetryTracker

/-- `identity_changed || (last_clock_ && now < last_clock_)`. -/
def resets (t : CorpseTelemetryTracker) (f : CorpseFrame) : Bool :=
  decide (t.identity ≠ f.identity) ||
    (decide (t.lastClock ≠ 0) && decide (f.observedAtNs < t.lastClock))

/-- The reset at the start of `observe`, and the identity and the clock. -/
def begun (t : CorpseTelemetryTracker) (f : CorpseFrame) : CorpseTelemetryTracker :=
  { (if t.resets f then {} else t) with identity := f.identity, lastClock := f.observedAtNs }

/-- `provider_changed`. -/
def providerChanged (t : CorpseTelemetryTracker) (f : CorpseFrame) : Bool :=
  (match t.port, f.controlPort with
    | some port, some other => decide (port ≠ other)
    | _, _ => false) ||
  (match t.sample, f.sample with
    | some sample, some next => decide (next < sample)
    | _, _ => false)

/-- `map_changed`. -/
def mapChanged (t : CorpseTelemetryTracker) (f : CorpseFrame) : Bool :=
  f.gameplay.any fun game => decide (t.map ≠ []) && decide (game.map ≠ t.map)

/-- What an accepted frame does before its measurements are looked at. -/
def provided (t : CorpseTelemetryTracker) (f : CorpseFrame) : CorpseTelemetryTracker :=
  let kept : CorpseTelemetryTracker :=
    if t.providerChanged f then { t with limit := none, gapSince := none, state := .unavailable }
    else t
  { kept with
    port := f.controlPort.or t.port
    sample := f.sample.or t.sample
    map := f.gameplay.elim t.map (·.map) }

/-- `fresh_offline`. -/
def freshOffline (t : CorpseTelemetryTracker) (mapChanged : Bool) (f : CorpseFrame) : Bool :=
  f.verifiedOffline && ((!mapChanged && decide (t.state = .available)) ||
    f.gameplay.any fun game => decide (t.lastVerified < game.telemetryObservedNs))

/-- The start of a gap that this frame belongs to. -/
def gapStart (t : CorpseTelemetryTracker) (f : CorpseFrame) : ℕ :=
  t.gapSince.getD <|
    if t.lastVerified ≤ f.observedAtNs ∧
        kGameLogObservationFreshnessNs < f.observedAtNs - t.lastVerified then
      t.lastVerified + kGameLogObservationFreshnessNs
    else f.observedAtNs

/-- The measurements of an accepted frame. -/
def measured (t : CorpseTelemetryTracker) (mapChanged : Bool) (f : CorpseFrame) :
    CorpseTelemetryTracker :=
  if t.freshOffline mapChanged f || f.verifiedOnline then
    { t with limit := f.limit, lastVerified := f.evidenceNs, gapSince := none, state := .available }
  else if t.limit.isSome then
    let waiting := { t with gapSince := some (t.gapStart f) }
    if f.observedAtNs - t.gapStart f < graceNs then { waiting with state := .stale }
    else { waiting with state := .unavailable, limit := none }
  else t

/-- `observe`. -/
def observe (t : CorpseTelemetryTracker) (f : CorpseFrame) : CorpseTelemetryTracker :=
  let t := t.begun f
  if f.rejected then
    { t with limit := none, state := .unavailable, gapSince := none, lastVerified := f.observedAtNs }
  else (t.provided f).measured (t.mapChanged f) f

/-- What `observe` returns beside the state and the limit: the event to log. -/
def event (t : CorpseTelemetryTracker) (f : CorpseFrame) : Option String :=
  if (t.observe f).state = t.state then none
  else match (t.observe f).state with
    | .stale => some "CORPSE_TELEMETRY_STALE"
    | .available =>
      if t.state = .unavailable ∨ t.identity ≠ f.identity then some "CORPSE_TELEMETRY_AVAILABLE"
      else some "CORPSE_TELEMETRY_RECOVERED"
    | .unavailable => some "CORPSE_TELEMETRY_UNAVAILABLE"

/-- The tracker after a history of frames, the latest one first. -/
def tracked : List CorpseFrame → CorpseTelemetryTracker
  | [] => {}
  | f :: older => (tracked older).observe f

end CorpseTelemetryTracker

/-! ## 3. Where a limit is from -/

open CorpseTelemetryTracker

/-- The frame goes on from the history: the same process, and the clock has not gone back. -/
def Continues (f : CorpseFrame) : List CorpseFrame → Prop
  | [] => True
  | last :: _ => last.identity = f.identity ∧ last.observedAtNs ≤ f.observedAtNs

/-- What the accepted frames of a history have named last, in the same process and without the clock
going back up to the frame. -/
def named {α : Type} (read : CorpseFrame → Option α) : CorpseFrame → List CorpseFrame → Option α
  | _, [] => none
  | f, last :: older =>
    if last.identity = f.identity ∧ last.observedAtNs ≤ f.observedAtNs then
      (if last.rejected then none else read last).or (named read last older)
    else none

/-- What any frame of a history has named last. -/
def seen {α : Type} (read : CorpseFrame → Option α) : List CorpseFrame → Option α
  | [] => none
  | last :: older => (read last).or (seen read older)

/-- The port is another one, or the sample counter has gone down. -/
def Replaced (port : Option ℕ) (sample : Option ℤ) (f : CorpseFrame) : Prop :=
  (∃ p q, port = some p ∧ f.controlPort = some q ∧ p ≠ q) ∨
    ∃ s n, sample = some s ∧ f.sample = some n ∧ n < s

/-- The frame ends what the history before it has established.  A provider is compared with those
that accepted frames have named. -/
def Ends (f : CorpseFrame) (older : List CorpseFrame) : Prop :=
  ¬ Continues f older ∨ f.rejected = true ∨
    Replaced (named (·.controlPort) f older) (named (·.sample) f older) f

/-- The same with a provider compared with all those that any frame has named. -/
def EndsAny (f : CorpseFrame) (older : List CorpseFrame) : Prop :=
  ¬ Continues f older ∨ f.rejected = true ∨
    Replaced (seen (·.controlPort) older) (seen (·.sample) older) f

/-- A frame that a limit may be from. -/
def Verified (f : CorpseFrame) : Prop :=
  f.rejected = false ∧ (f.verifiedOnline = true ∨ f.verifiedOffline = true)

/-- A verified frame of the history that nothing has ended since. -/
inductive Held (ends : CorpseFrame → List CorpseFrame → Prop) :
    List CorpseFrame → CorpseFrame → Prop
  | here {f : CorpseFrame} {older : List CorpseFrame} : Verified f → Held ends (f :: older) f
  | later {f source : CorpseFrame} {older : List CorpseFrame} : Held ends older source →
    ¬ ends f older → Held ends (f :: older) source

/-- Nothing is observed after the frame that tells it. -/
def Timely (f : CorpseFrame) : Prop :=
  ∀ game, f.gameplay = some game →
    game.telemetryObservedNs ≤ f.observedAtNs ∧ game.onlineCorpseActionObservedNs ≤ f.observedAtNs

/-- No limit has been reported since a rejected frame, and nothing but accepted or rejected frames
of the same process has come since. -/
inductive SilentSince (rejection : CorpseFrame) : List CorpseFrame → Prop
  | rejected {older : List CorpseFrame} : rejection.rejected = true →
    SilentSince rejection (rejection :: older)
  | later {f : CorpseFrame} {older : List CorpseFrame} : SilentSince rejection older →
    Continues f older → (tracked (f :: older)).limit = none → SilentSince rejection (f :: older)

/-! ## 4. One frame -/

namespace CorpseFrame

theorem limit_of_online {f : CorpseFrame} (h : f.verifiedOnline = true) :
    ∃ l, f.limit = some l := by
  have hverified := h
  unfold verifiedOnline at h
  cases hgame : f.gameplay with
  | none => simp [hgame] at h
  | some game =>
    simp only [hgame, Option.any_some, Bool.and_eq_true] at h
    cases hmaximum : game.onlineCorpseMaximum with
    | none => cases hpool : game.onlineCorpsePool <;> simp [hmaximum, hpool] at h
    | some maximum => exact ⟨maximum, by simp [limit, hgame, hverified, hmaximum]⟩

theorem limit_of_offline {f : CorpseFrame} (h : f.verifiedOffline = true) :
    ∃ l, f.limit = some l := by
  cases honline : f.verifiedOnline with
  | true => exact limit_of_online honline
  | false =>
    unfold verifiedOffline at h
    cases hgame : f.gameplay with
    | none => simp [hgame] at h
    | some game =>
      simp only [hgame, Option.any_some, Bool.and_eq_true] at h
      cases hlimit : game.telemetryCorpseLimit with
      | none => simp [hlimit] at h
      | some l => exact ⟨l, by simp [limit, hgame, honline, hlimit]⟩

/-- What a frame tells was observed before it. -/
theorem evidence_le {f : CorpseFrame} (h : Timely f) : f.evidenceNs ≤ f.observedAtNs := by
  unfold evidenceNs
  cases hgame : f.gameplay with
  | none => exact Nat.zero_le _
  | some game =>
    obtain ⟨htelemetry, haction⟩ := h game hgame
    rw [Option.elim_some]
    split
    · exact haction
    · exact htelemetry

end CorpseFrame

namespace CorpseTelemetryTracker

variable (t : CorpseTelemetryTracker) (f : CorpseFrame)

theorem providerChanged_iff : t.providerChanged f = true ↔ Replaced t.port t.sample f := by
  unfold providerChanged Replaced
  rw [Bool.or_eq_true]
  refine or_congr ?_ ?_
  · cases t.port <;> cases f.controlPort <;> simp
  · cases t.sample <;> cases f.sample <;> simp

@[simp] theorem begun_identity : (t.begun f).identity = f.identity := rfl

@[simp] theorem begun_lastClock : (t.begun f).lastClock = f.observedAtNs := rfl

@[simp] theorem provided_identity : (t.provided f).identity = t.identity := by
  unfold provided
  split <;> rfl

@[simp] theorem provided_lastClock : (t.provided f).lastClock = t.lastClock := by
  unfold provided
  split <;> rfl

@[simp] theorem provided_lastVerified : (t.provided f).lastVerified = t.lastVerified := by
  unfold provided
  split <;> rfl

@[simp] theorem provided_port : (t.provided f).port = f.controlPort.or t.port := rfl

@[simp] theorem provided_sample : (t.provided f).sample = f.sample.or t.sample := rfl

/-- A new provider takes the limit away, and another frame leaves it alone. -/
theorem provided_cases :
    (t.providerChanged f = true ∧ (t.provided f).limit = none ∧
      (t.provided f).state = .unavailable) ∨
    (t.providerChanged f = false ∧ (t.provided f).limit = t.limit ∧
      (t.provided f).state = t.state ∧ (t.provided f).gapSince = t.gapSince) := by
  unfold provided
  cases h : t.providerChanged f with
  | true => exact .inl ⟨rfl, rfl, rfl⟩
  | false => exact .inr ⟨rfl, rfl, rfl, rfl⟩

/-- **What the measurements of an accepted frame do.**  They bring a limit; or the limit goes stale
or away; or there is none. -/
theorem measured_cases (mapChanged : Bool) :
    ((t.freshOffline mapChanged f = true ∨ f.verifiedOnline = true) ∧ t.measured mapChanged f =
      { t with limit := f.limit, lastVerified := f.evidenceNs, gapSince := none,
               state := .available }) ∨
    (t.limit.isSome = true ∧ f.observedAtNs - t.gapStart f < graceNs ∧ t.measured mapChanged f =
      { t with gapSince := some (t.gapStart f), state := .stale }) ∨
    (t.measured mapChanged f =
      { t with gapSince := some (t.gapStart f), state := .unavailable, limit := none }) ∨
    (t.limit = none ∧ t.measured mapChanged f = t) := by
  unfold measured
  split
  · rename_i h
    exact .inl ⟨(Bool.or_eq_true _ _).mp h, rfl⟩
  · split
    · rename_i hlimit
      simp only
      split
      · rename_i hgrace
        exact .inr (.inl ⟨hlimit, hgrace, rfl⟩)
      · exact .inr (.inr (.inl rfl))
    · rename_i hlimit
      exact .inr (.inr (.inr ⟨by simpa using hlimit, rfl⟩))

/-- The measurements leave the process, the clock and the provider alone. -/
theorem measured_frame (mapChanged : Bool) :
    (t.measured mapChanged f).identity = t.identity ∧
      (t.measured mapChanged f).lastClock = t.lastClock ∧
      (t.measured mapChanged f).port = t.port ∧ (t.measured mapChanged f).sample = t.sample := by
  obtain ⟨-, heq⟩ | ⟨-, -, heq⟩ | heq | ⟨-, heq⟩ := t.measured_cases f mapChanged <;> rw [heq]
  all_goals exact ⟨rfl, rfl, rfl, rfl⟩

end CorpseTelemetryTracker

/-! ## 5. Histories -/

/-- What a tracker knows after a history. -/
structure Sound (history : List CorpseFrame) (t : CorpseTelemetryTracker) : Prop where
  fresh : history = [] → t = {}
  clock : ∀ last older, history = last :: older →
    t.identity = last.identity ∧ t.lastClock = last.observedAtNs
  port : ∀ last older, history = last :: older → t.port =
    (if last.rejected then none else last.controlPort).or (named (·.controlPort) last older)
  sample : ∀ last older, history = last :: older → t.sample =
    (if last.rejected then none else last.sample).or (named (·.sample) last older)
  shown : t.limit.isSome = true ↔ t.state ≠ .unavailable
  held : ∀ l, t.limit = some l → ∃ source, Held Ends history source ∧ source.limit = some l ∧
    source.evidenceNs = t.lastVerified
  recent : (∀ f ∈ history, Timely f) → t.limit.isSome = true →
    t.lastVerified ≤ t.lastClock ∧
      (∀ gap, t.gapSince = some gap →
        gap ≤ t.lastVerified + kGameLogObservationFreshnessNs ∧ gap ≤ t.lastClock) ∧
      (t.state = .stale → t.lastClock < t.lastVerified + kGameLogObservationFreshnessNs + graceNs)

section

variable {history : List CorpseFrame} {t : CorpseTelemetryTracker} {f : CorpseFrame}

/-- A frame that goes on keeps what is known. -/
theorem Sound.begun_of_continues (h : Sound history t) (hgoes : Continues f history) :
    t.begun f = { t with identity := f.identity, lastClock := f.observedAtNs } := by
  cases history with
  | nil =>
    rw [h.fresh rfl]
    unfold begun
    split <;> rfl
  | cons last older =>
    obtain ⟨hidentity, hclock⟩ := h.clock last older rfl
    have hresets : t.resets f = false := by
      simp [resets, hidentity, hclock, hgoes.1, hgoes.2]
    unfold begun
    rw [hresets]
    rfl

/-- Another frame starts anew. -/
theorem Sound.begun_of_not (h : Sound history t) (hgoes : ¬ Continues f history) :
    t.begun f = { identity := f.identity, lastClock := f.observedAtNs } := by
  cases history with
  | nil => exact absurd trivial hgoes
  | cons last older =>
    obtain ⟨hidentity, hclock⟩ := h.clock last older rfl
    have hresets : t.resets f = true := by
      unfold resets
      rw [hidentity, hclock]
      by_cases hsame : last.identity = f.identity
      · have hback : f.observedAtNs < last.observedAtNs := not_le.mp fun hle => hgoes ⟨hsame, hle⟩
        simp [hback, Nat.ne_of_gt (Nat.zero_lt_of_lt hback)]
      · simp [hsame]
    unfold begun
    rw [hresets]
    rfl

/-- The provider that the frame is compared with. -/
theorem Sound.begun_provider (h : Sound history t) :
    (t.begun f).port = named (·.controlPort) f history ∧
      (t.begun f).sample = named (·.sample) f history := by
  by_cases hgoes : Continues f history
  · rw [h.begun_of_continues hgoes]
    cases history with
    | nil => rw [h.fresh rfl]; exact ⟨rfl, rfl⟩
    | cons last older =>
      exact ⟨(h.port last older rfl).trans (if_pos hgoes).symm,
        (h.sample last older rfl).trans (if_pos hgoes).symm⟩
  · rw [h.begun_of_not hgoes]
    cases history with
    | nil => exact ⟨rfl, rfl⟩
    | cons last older => exact ⟨(if_neg hgoes).symm, (if_neg hgoes).symm⟩

/-- A limit that a frame leaves in place is from the same frame as before. -/
theorem Sound.kept (h : Sound history t) (haccepted : f.rejected = false) {l : ℤ}
    (hl : ((t.begun f).provided f).limit = some l) :
    Continues f history ∧ t.limit = some l ∧ ¬ Ends f history ∧
      ((t.begun f).provided f).state = t.state ∧
      ((t.begun f).provided f).gapSince = t.gapSince ∧
      ((t.begun f).provided f).lastVerified = t.lastVerified := by
  obtain ⟨-, hnone, -⟩ | ⟨hprovider, hlimit, hstate, hgap⟩ := (t.begun f).provided_cases f
  · rw [hnone] at hl
    cases hl
  · rw [hlimit] at hl
    have hgoes : Continues f history := by
      by_contra hgoes
      rw [h.begun_of_not hgoes] at hl
      cases hl
    have hreplaced := (providerChanged_iff _ _).not.mp (by simpa using hprovider)
    rw [h.begun_provider.1, h.begun_provider.2] at hreplaced
    rw [hstate, hgap, provided_lastVerified, h.begun_of_continues hgoes]
    rw [h.begun_of_continues hgoes] at hl
    refine ⟨hgoes, hl, ?_, rfl, rfl, rfl⟩
    rintro (hends | hends | hends)
    · exact hends hgoes
    · exact absurd (haccepted.symm.trans hends) (by decide)
    · exact hreplaced hends

/-- The clock goes on from the history. -/
theorem Sound.clock_le (h : Sound history t) (hgoes : Continues f history) :
    t.lastClock ≤ f.observedAtNs := by
  cases history with
  | nil => rw [h.fresh rfl]; exact Nat.zero_le _
  | cons last older => rw [(h.clock last older rfl).2]; exact hgoes.2

/-- The start of a gap is not after the frame, and not later than the freshness of the limit. -/
theorem gapStart_le {p : CorpseTelemetryTracker} (hverified : p.lastVerified ≤ f.observedAtNs)
    (hgap : ∀ gap, p.gapSince = some gap →
      gap ≤ p.lastVerified + kGameLogObservationFreshnessNs ∧ gap ≤ f.observedAtNs) :
    p.gapStart f ≤ p.lastVerified + kGameLogObservationFreshnessNs ∧
      p.gapStart f ≤ f.observedAtNs := by
  unfold gapStart
  cases hsince : p.gapSince with
  | some gap => exact hgap gap hsince
  | none =>
    rw [Option.getD_none]
    split <;> omega

/-- **One frame.** -/
theorem Sound.observe (h : Sound history t) (f : CorpseFrame) :
    Sound (f :: history) (t.observe f) := by
  obtain ⟨hport, hsample⟩ := h.begun_provider (f := f)
  unfold CorpseTelemetryTracker.observe
  cases hrejected : f.rejected with
  | true =>
    constructor
    · nofun
    · rintro last older ⟨⟩
      exact ⟨rfl, rfl⟩
    · rintro last older ⟨⟩
      simpa [hrejected] using hport
    · rintro last older ⟨⟩
      simpa [hrejected] using hsample
    · simp
    · nofun
    · nofun
  | false =>
    simp only [Bool.false_eq_true, if_false]
    generalize hp : (t.begun f).provided f = p
    generalize (t.begun f).mapChanged f = mapChanged
    obtain ⟨hidentity, hclock, hportFrame, hsampleFrame⟩ := p.measured_frame f mapChanged
    have hkept := fun l => h.kept (f := f) hrejected (l := l)
    rw [hp] at hkept
    have hnow : (p.measured mapChanged f).lastClock = f.observedAtNs := by
      rw [hclock, ← hp, provided_lastClock, begun_lastClock]
    constructor
    · nofun
    · rintro last older ⟨⟩
      exact ⟨by rw [hidentity, ← hp, provided_identity, begun_identity], hnow⟩
    · rintro last older ⟨⟩
      rw [hportFrame, ← hp, provided_port, hport]
      simp [hrejected]
    · rintro last older ⟨⟩
      rw [hsampleFrame, ← hp, provided_sample, hsample]
      simp [hrejected]
    · obtain ⟨hverified, heq⟩ | ⟨hsome, -, heq⟩ | heq | ⟨hnone, heq⟩ :=
        p.measured_cases f mapChanged <;> rw [heq]
      · obtain ⟨l, hl⟩ := hverified.elim
          (fun h => CorpseFrame.limit_of_offline ((Bool.and_eq_true _ _).mp h).1)
          CorpseFrame.limit_of_online
        simp [hl]
      · simp [hsome]
      · simp
      · rw [hnone]
        obtain ⟨-, -, hstate⟩ | ⟨-, hlimit, hstate, -⟩ := (t.begun f).provided_cases f
        · rw [hp] at hstate
          simp [hstate]
        · rw [hp] at hlimit hstate
          have hunavailable : (t.begun f).state = .unavailable := by
            by_cases hgoes : Continues f history
            · rw [hnone, h.begun_of_continues hgoes] at hlimit
              rw [h.begun_of_continues hgoes]
              exact not_not.mp (h.shown.not.mp (by rw [show t.limit = none from hlimit.symm]; simp))
            · rw [h.begun_of_not hgoes]
          simp [hstate, hunavailable]
    · intro l hl
      obtain ⟨hverified, heq⟩ | ⟨-, -, heq⟩ | heq | ⟨hnone, heq⟩ :=
        p.measured_cases f mapChanged <;> rw [heq] at hl ⊢
      · refine ⟨f, .here ⟨hrejected, ?_⟩, hl, rfl⟩
        exact hverified.symm.imp_right fun h => ((Bool.and_eq_true _ _).mp h).1
      · obtain ⟨-, hlimit, hends, -, -, hlast⟩ := hkept l hl
        obtain ⟨source, hheld, hsource, hevidence⟩ := h.held l hlimit
        exact ⟨source, .later hheld hends, hsource, hevidence.trans hlast.symm⟩
      · cases hl
      · rw [hnone] at hl
        cases hl
    · intro htimely hsome
      have hf : Timely f := htimely f List.mem_cons_self
      rw [hnow]
      obtain ⟨-, heq⟩ | ⟨hlimit, hgrace, heq⟩ | heq | ⟨hnone, heq⟩ :=
        p.measured_cases f mapChanged <;> rw [heq] at hsome ⊢
      · exact ⟨CorpseFrame.evidence_le hf, nofun, nofun⟩
      · obtain ⟨l, hl⟩ := Option.isSome_iff_exists.mp hlimit
        obtain ⟨hgoes, hbefore, -, -, hgapEq, hlast⟩ := hkept l hl
        obtain ⟨hverified, hgap, -⟩ := h.recent
          (fun g hg => htimely g (List.mem_cons_of_mem f hg)) (by simp [hbefore])
        have hle := h.clock_le hgoes
        have hstart := gapStart_le (f := f) (p := p) (by omega) (by
          rw [hgapEq, hlast]
          exact fun gap hsince => ⟨(hgap gap hsince).1, (hgap gap hsince).2.trans hle⟩)
        refine ⟨by simp only; omega, ?_, fun _ => by simp only; omega⟩
        rintro gap ⟨⟩
        exact hstart
      · cases hsome
      · rw [hnone] at hsome
        cases hsome

end

theorem Sound.nil : Sound [] {} where
  fresh _ := rfl
  clock _ _ h := by cases h
  port _ _ h := by cases h
  sample _ _ h := by cases h
  shown := by simp
  held _ h := by cases h
  recent _ h := by cases h

theorem sound_tracked (history : List CorpseFrame) : Sound history (tracked history) := by
  induction history with
  | nil => exact Sound.nil
  | cons f history ih => exact ih.observe f

/-! ## 6. After a rejection -/

/-- A rejected frame leaves its time, and that stays until a limit is reported or the process
changes. -/
theorem SilentSince.lastVerified {rejection : CorpseFrame} : ∀ {history : List CorpseFrame},
    SilentSince rejection history →
    (tracked history).limit = none ∧ rejection.observedAtNs ≤ (tracked history).lastVerified ∧
      rejection.observedAtNs ≤ (tracked history).lastClock
  | _, .rejected hrejected => by
    unfold tracked CorpseTelemetryTracker.observe
    rw [hrejected]
    exact ⟨rfl, le_rfl, le_rfl⟩
  | f :: older, .later hsilent hgoes hnone => by
    obtain ⟨-, hverified, hclock⟩ := hsilent.lastVerified
    have hle := (sound_tracked older).clock_le hgoes
    refine ⟨hnone, ?_, ?_⟩
    · unfold tracked CorpseTelemetryTracker.observe at hnone ⊢
      cases hrejected : f.rejected with
      | true => exact hclock.trans hle
      | false =>
        simp only [hrejected, Bool.false_eq_true, if_false] at hnone ⊢
        have hlast : (((tracked older).begun f).provided f).lastVerified =
            (tracked older).lastVerified := by
          rw [provided_lastVerified, (sound_tracked older).begun_of_continues hgoes]
        obtain ⟨hfresh, heq⟩ | ⟨-, -, heq⟩ | heq | ⟨-, heq⟩ :=
          (((tracked older).begun f).provided f).measured_cases f
            (((tracked older).begun f).mapChanged f) <;> rw [heq] at hnone ⊢
        · obtain ⟨l, hl⟩ := hfresh.elim
            (fun h => CorpseFrame.limit_of_offline ((Bool.and_eq_true _ _).mp h).1)
            CorpseFrame.limit_of_online
          exact absurd (hl.symm.trans hnone) (by simp)
        · exact hverified.trans hlast.ge
        · exact hverified.trans hlast.ge
        · exact hverified.trans hlast.ge
    · rw [((sound_tracked (f :: older)).clock f older rfl).2]
      exact hclock.trans hle

/-- **An old sample does not undo a rejection.**  The first limit behind one, when it is an offline
frame's, is from a sample that was observed later. -/
theorem SilentSince.evidence {rejection f : CorpseFrame} {older : List CorpseFrame}
    (h : SilentSince rejection older) (hgoes : Continues f older)
    (hlimit : (tracked (f :: older)).limit.isSome = true) (hoffline : f.verifiedOnline = false) :
    rejection.observedAtNs < f.evidenceNs := by
  obtain ⟨hnone, hverified, -⟩ := h.lastVerified
  have hbegun := (sound_tracked older).begun_of_continues hgoes
  have hunavailable : (tracked older).state = .unavailable :=
    not_not.mp ((sound_tracked older).shown.not.mp (by simp [hnone]))
  unfold tracked CorpseTelemetryTracker.observe at hlimit
  cases hrejected : f.rejected with
  | true => simp [hrejected] at hlimit
  | false =>
    simp only [hrejected, Bool.false_eq_true, if_false] at hlimit
    have hprovided : (((tracked older).begun f).provided f).limit = none ∧
        (((tracked older).begun f).provided f).state = .unavailable := by
      obtain ⟨-, hlimit, hstate⟩ | ⟨-, hlimit, hstate, -⟩ :=
        ((tracked older).begun f).provided_cases f
      · exact ⟨hlimit, hstate⟩
      · rw [hlimit, hstate, hbegun]
        exact ⟨hnone, hunavailable⟩
    obtain ⟨hfresh, -⟩ | ⟨hsome, -, -⟩ | heq | ⟨-, heq⟩ :=
      (((tracked older).begun f).provided f).measured_cases f
        (((tracked older).begun f).mapChanged f)
    · have hfresh := hfresh.resolve_right (by simp [hoffline])
      unfold freshOffline at hfresh
      rw [hprovided.2, provided_lastVerified, hbegun] at hfresh
      cases hgame : f.gameplay with
      | none => simp [hgame] at hfresh
      | some game =>
        have hlater : (tracked older).lastVerified < game.telemetryObservedNs := by
          simpa [hgame] using ((Bool.and_eq_true _ _).mp hfresh).2
        simpa [CorpseFrame.evidenceNs, hgame, hoffline] using hverified.trans_lt hlater
    · rw [hprovided.1] at hsome
      cases hsome
    · rw [heq] at hlimit
      cases hlimit
    · rw [heq, hprovided.1] at hlimit
      cases hlimit

/-- The latest frame of a history that holds a limit is accepted. -/
theorem Held.accepted {ends : CorpseFrame → List CorpseFrame → Prop}
    (hends : ∀ f older, f.rejected = true → ends f older) {f source : CorpseFrame}
    {older : List CorpseFrame} (h : Held ends (f :: older) source) : f.rejected = false := by
  cases h with
  | here hverified => exact hverified.1
  | later _ hgoes => exact Bool.eq_false_iff.mpr fun hrejected => hgoes (hends f older hrejected)

/-- A frame of a solo game. -/
def soloFrame (now observed : ℕ) (limit : Option ℤ) (port : Option ℕ) (permitted : Bool) :
    CorpseFrame where
  identity := ⟨7, 70⟩
  observedAtNs := now
  activeGameplay := true
  offlineGameplay := true
  permitted := permitted
  gameplay := some {
    netMode := some (ascii "NM_Standalone")
    telemetryCorpseTotal := some 1
    telemetryCorpseLimit := limit
    telemetryControlPort := port
    telemetrySample := some 5
    telemetryObservedNs := observed }

/-- A frame of an online game whose corpse action was observed after 10 ns. -/
def onlineFrame (now : ℕ) (permitted : Bool) : CorpseFrame where
  identity := ⟨7, 70⟩
  observedAtNs := now
  activeGameplay := true
  permitted := permitted
  gameplay := some {
    netMode := some (ascii "NM_Client")
    optimizerOnlineReadOnly := true
    onlineCorpsePool := some 2
    onlineCorpseMaximum := some 20
    onlineCorpseCapabilityObservedNs := 10
    onlineCorpseSleepVerified := true
    onlineCorpseActionObservedNs := 10 }

/-- The process is lost for a frame, and found again with the sample of before. -/
def lostAndFound : List CorpseFrame :=
  [soloFrame 101 50 (some 12) none true, { identity := {}, observedAtNs := 100 },
    soloFrame 60 50 (some 12) none true]

/-- A provider that only a rejected frame has named. -/
def unseenProvider : List CorpseFrame :=
  [soloFrame 40 40 none (some 1) true, soloFrame 30 25 (some 12) none true,
    soloFrame 20 20 (some 12) (some 2) false, soloFrame 10 10 (some 12) (some 1) true]

end Kf2Optimizer.Telemetry
