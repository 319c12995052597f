/-
# The corpse maximum of an online session

`KF2OptimizerOnlineContextInteraction`.  In an online match an authenticated command lets the
optimizer lower how many corpses the world's gore manager keeps, and another ends it.  The
interaction holds what it found as a snapshot, by the name of the map, across matches, menus and
refused writes; it belongs to the viewport and learns of a new world only from its clock and its map.

* `maximum_given_back`: in every run in which the interaction notices each new world, a `disable` that
  succeeds leaves the maximum that the game itself had set;
* in the same runs an `enable` that is refused leaves the maximum of before, or a restore pending, and
  without a snapshot the maximum is the game's own.

A world with the map of the last one and a clock that is not behind is not noticed.  The snapshot of
the last world is then taken for one of this world.
-/
import Kf2Optimizer.Graphics.AdaptiveGraphics
import Kf2Optimizer.Lib.Machine

namespace Kf2Optimizer.Graphics

open Text Game StepMachine

/-! ## 1. The world -/

/-- `KFGoreManager`: the maximum, and what the writes to come leave, of what was there and what is
written. -/
structure GoreManager where
  maxDeadBodies : ℤ
  effects : ℕ → ℤ → ℤ → ℤ

/-- `GoreManager.MaxDeadBodies = ...`. -/
def GoreManager.assign (gore : GoreManager) (maximum : ℤ) : GoreManager where
  maxDeadBodies := gore.effects 0 gore.maxDeadBodies maximum
  effects n := gore.effects (n + 1)

inductive NetMode
  | standalone
  | dedicatedServer
  | listenServer
  | client
  deriving DecidableEq, Repr

/-- What the interaction reads of `WorldInfo`. -/
structure OnlineWorld where
  mapName : Bytes
  netMode : NetMode
  realTimeSeconds : ℚ
  /-- A local player has a controller. -/
  hasController : Bool
  gore : GoreManager
  /-- `MyGoreEffectManager` is there. -/
  hasGoreManager : Bool
  /-- A listener of this world takes commands. -/
  listening : Bool := false

def OnlineWorld.mainMenu (w : OnlineWorld) : Bool := sameText w.mapName (ascii "KFMainMenu")

/-- The branches of `Tick` for a match of several players. -/
def OnlineWorld.networked (w : OnlineWorld) : Bool :=
  decide (w.netMode = .client) || decide (w.netMode = .listenServer)

/-- `GetOnlineWorld`. -/
def OnlineWorld.online (w : OnlineWorld) : Bool := w.hasController && w.networked && !w.mainMenu

/-! ## 2. The interaction -/

/-- The snapshot of the maximum, and the maximum to go back to when an `enable` was refused. -/
structure CorpseSnapshot where
  originalMaximum : ℤ := 0
  originalMaximumCaptured : Bool := false
  originalMapName : Bytes := []
  enablePreviousMaximum : ℤ := 0
  enableRestorePending : Bool := false

/-- A delay that doubles, and when the next attempt may be made. -/
structure Retry where
  nextAttemptRealTime : ℚ := 0
  delay : ℚ := 0

def Retry.reset : Retry := ⟨0, 1 / 2⟩

def Retry.backOff (retry : Retry) (now : ℚ) : Retry := ⟨now + retry.delay, min 8 (retry.delay * 2)⟩

/-- A delay that has never been set is half a second. -/
def Retry.started (retry : Retry) : Retry := if retry.delay ≤ 0 then { retry with delay := 1 / 2 } else retry

structure OnlineInteraction where
  /-- The token of the telemetry probe. -/
  adaptiveControlToken : Bytes
  session : Session
  lastSequence : ℤ := 0
  graphicsEnabled : Bool := false
  lastCapabilityRejected : Bool := false
  fixedEffectsApplied : Bool := false
  contextGeneration : ℕ := 0
  lastContextMapName : Bytes := []
  lastObservedRealTime : ℚ := 0
  listenerMapName : Bytes := []
  listenerCheck : Retry := {}
  retryMapName : Bytes := []
  fixedEffectsBaseline : Retry := {}
  mainMenuRestore : Retry := {}
  mainMenuRestoreComplete : Bool := false
  corpse : CorpseSnapshot := {}
  sessionEnding : Bool := false
  sessionEndingMapName : Bytes := []

/-- The interaction and the world it is in. -/
structure Online where
  world : OnlineWorld
  interaction : OnlineInteraction

namespace Online

/-- What a function does to the snapshot. -/
def withCorpse (o : Online) (corpse : CorpseSnapshot) : Online :=
  { o with interaction := { o.interaction with corpse } }

def withSession (o : Online) (session : Session) : Online :=
  { o with interaction := { o.interaction with session } }

def withGore (o : Online) (gore : GoreManager) : Online := { o with world := { o.world with gore } }

/-- `ValidOnlineGraphicsToken`. -/
def validToken (o : Online) (candidate : Bytes) : Bool :=
  decide (o.interaction.adaptiveControlToken.length = 32) &&
    decide (candidate = o.interaction.adaptiveControlToken)

/-- `ResetOnlineGraphicsRetryState`. -/
def resetRetryState (i : OnlineInteraction) (mapName : Bytes) : OnlineInteraction :=
  { i with
    retryMapName := mapName
    fixedEffectsBaseline := .reset
    mainMenuRestore := .reset
    mainMenuRestoreComplete := false }

/-- `ResetOnlineGraphicsListenerHealth`. -/
def resetListenerHealth (i : OnlineInteraction) (mapName : Bytes) : OnlineInteraction :=
  { i with listenerMapName := mapName, listenerCheck := .reset }

/-- `EnsureOnlineFixedEffectsBaseline`. -/
def ensureFixedEffectsBaseline (o : Online) : Bool × Online :=
  let i := o.interaction
  let now := o.world.realTimeSeconds
  if i.fixedEffectsApplied then (true, o)
  else if now < i.fixedEffectsBaseline.nextAttemptRealTime then (false, o)
  else match applyFixedSessionEffects i.session with
    | (false, session) =>
      (false, { o with interaction := { i with
        session, fixedEffectsBaseline := i.fixedEffectsBaseline.started.backOff now } })
    | (true, session) =>
      (true, { o with interaction := { i with
        session, fixedEffectsApplied := true, fixedEffectsBaseline := .reset } })

/-- `ClearOnlineCorpseMaximumSnapshot`. -/
def clearCorpseMaximum (o : Online) : Online := o.withCorpse {}

/-- `DiscardOnlineCorpseMaximumSnapshot`. -/
def discardCorpseMaximum (o : Online) : Online :=
  if o.interaction.corpse.originalMaximumCaptured then o.clearCorpseMaximum else o

/-- `CaptureOnlineCorpseMaximum`, for a gore manager that is there. -/
def captureCorpseMaximum (o : Online) : Online :=
  if o.interaction.corpse.originalMaximumCaptured &&
      decide (o.interaction.corpse.originalMapName = o.world.mapName) then o
  else
    let o := o.discardCorpseMaximum
    o.withCorpse { o.interaction.corpse with
      originalMaximum := o.world.gore.maxDeadBodies
      originalMapName := o.world.mapName
      originalMaximumCaptured := true }

/-- `RestoreOnlineCorpseMaximum`. -/
def restoreCorpseMaximum (o : Online) : Bool × Online :=
  let corpse := o.interaction.corpse
  if !corpse.originalMaximumCaptured then (true, o)
  else if o.world.mapName ≠ corpse.originalMapName then (true, o.discardCorpseMaximum)
  else if !o.world.hasGoreManager then (false, o)
  else
    let gore := o.world.gore.assign corpse.originalMaximum
    if gore.maxDeadBodies ≠ corpse.originalMaximum then (false, o.withGore gore)
    else (true, (o.withGore gore).clearCorpseMaximum)

/-- `RestoreOnlineEnableMaximum`, for a gore manager that is there. -/
def restoreEnableMaximum (o : Online) : Bool × Online :=
  let corpse := o.interaction.corpse
  if !corpse.enableRestorePending then (true, o)
  else
    let o := o.withGore (o.world.gore.assign corpse.enablePreviousMaximum)
    if o.world.gore.maxDeadBodies ≠ corpse.enablePreviousMaximum then (false, o)
    else (true, o.withCorpse { corpse with enableRestorePending := false })

/-! ## 3. Commands -/

/-- `KF2OptimizerAdaptiveGraphics.IsOnlineAdaptiveQualityResource`. -/
def isOnlineQualityResource (resource : Bytes) : Bool :=
  ["cpu", "gpu", "vram", "ram", "mixed", "recover"].any fun name => sameText resource (ascii name)

/-- The maximum is written, and the one of before is remembered. -/
def attempted (o : Online) (quality : ℤ) : Online :=
  (o.withCorpse { o.interaction.corpse with enablePreviousMaximum := o.world.gore.maxDeadBodies }).withGore
    (o.world.gore.assign quality)

/-- What was written has not been read back. -/
def refused (o : Online) : Online :=
  o.withCorpse { o.interaction.corpse with enableRestorePending := true }

/-- The end of the branch for `enable`: all prerequisites are ready. -/
def writeMaximum (o : Online) (sequence quality : ℤ) : Bool × Online :=
  let o := o.attempted quality
  if o.world.gore.maxDeadBodies ≠ quality then (false, o.refused.restoreEnableMaximum.2)
  else
    (true, { o with interaction := { o.interaction with
      graphicsEnabled := true, lastSequence := sequence } })

/-- The branch of `ApplyOnlineGraphicsControl` for `enable`. -/
def enable (o : Online) (sequence quality : ℤ) : Bool × Online :=
  if quality < 4 ∨ 2000 < quality then (false, o)
  else if !o.world.hasGoreManager then (false, o)
  else
    let o := if o.world.realTimeSeconds < o.interaction.lastObservedRealTime then
      o.discardCorpseMaximum else o
    match o.captureCorpseMaximum.restoreEnableMaximum with
    | (false, o) => (false, o)
    | (true, o) =>
      match o.ensureFixedEffectsBaseline with
      | (false, o) => (false, o)
      | (true, o) => o.writeMaximum sequence quality

/-- The branch for `disable`. -/
def disable (o : Online) (sequence : ℤ) : Bool × Online :=
  let restored := restoreOriginal o.interaction.session
  let o := { o with interaction := { o.interaction with
    graphicsEnabled := false
    lastSequence := sequence
    session := restored.2
    fixedEffectsApplied := false } }
  let fixed := o.ensureFixedEffectsBaseline
  let corpse := fixed.2.restoreCorpseMaximum
  (restored.1 && fixed.1 && corpse.1, corpse.2)

/-- The branches for the other resources. -/
def adapt (o : Online) (sequence : ℤ) (resource : Bytes) (quality : ℤ) : Bool × Online :=
  if !isAdaptiveQualityResource resource then (false, o)
  else if !isOnlineQualityResource resource then
    (false, { o with interaction := { o.interaction with lastCapabilityRejected := true } })
  else if !o.interaction.graphicsEnabled then (false, o)
  else match applyResource resource quality o.interaction.session with
    | (false, session) => (false, { o with interaction := { o.interaction with session } })
    | (true, session) =>
      (true, { o with interaction := { o.interaction with session, lastSequence := sequence } })

/-- `ApplyOnlineGraphicsControl`. -/
def applyOnlineGraphicsControl (control : Control) (o : Online) : Bool × Online :=
  let o := { o with interaction := { o.interaction with lastCapabilityRejected := false } }
  if !o.world.online || !o.validToken control.token || decide (control.sequence ≤ 0) ||
      decide (control.sequence ≤ o.interaction.lastSequence) then (false, o)
  else if !isAdaptiveControlResource control.resource then (false, o)
  else if sameText control.resource (ascii "enable") then o.enable control.sequence control.quality
  else if control.quality < 10 ∨ 100 < control.quality then (false, o)
  else if sameText control.resource (ascii "disable") then o.disable control.sequence
  else o.adapt control.sequence control.resource control.quality

/-! ## 4. Ticks -/

/-- Nothing of the session is left. -/
def sessionEnded (o : Online) : Online :=
  { o with interaction := { resetListenerHealth o.interaction [] with
    graphicsEnabled := false, fixedEffectsApplied := false, lastSequence := 0 } }

/-- `RestoreOnlineSessionState`. -/
def restoreSessionState (o : Online) : Bool × Online :=
  let restored := if o.interaction.session.snapshot.originalCaptured then
    restoreOriginal o.interaction.session else (true, o.interaction.session)
  let corpse := (o.withSession restored.2).restoreCorpseMaximum
  if !corpse.1 || !restored.1 then (false, corpse.2) else (true, corpse.2.sessionEnded)

/-- `RestoreOnlineGraphicsAtMainMenu`. -/
def restoreAtMainMenu (o : Online) : Online :=
  if o.interaction.mainMenuRestoreComplete ||
      decide (o.world.realTimeSeconds < o.interaction.mainMenuRestore.nextAttemptRealTime) then o
  else match o.restoreSessionState with
    | (true, o) => { o with interaction := { o.interaction with
        mainMenuRestore := .reset, mainMenuRestoreComplete := true } }
    | (false, o) => { o with interaction := { o.interaction with
        mainMenuRestore := o.interaction.mainMenuRestore.started.backOff o.world.realTimeSeconds } }

/-- `EnsureOnlineGraphicsListener`; `healthy` says whether there is a listener in the end, one that was
found or one that was spawned. -/
def ensureListener (healthy : Bool) (o : Online) : Online :=
  let i := if o.interaction.listenerMapName ≠ o.world.mapName then
    resetListenerHealth o.interaction o.world.mapName else o.interaction
  let now := o.world.realTimeSeconds
  if now < i.listenerCheck.nextAttemptRealTime then { o with interaction := i }
  else
    { world := { o.world with listening := healthy }
      interaction := { i with listenerCheck :=
        if healthy then ⟨now + 1, 1 / 2⟩ else i.listenerCheck.backOff now } }

/-- The interaction has not seen this world. -/
def restarts (o : Online) : Bool :=
  decide (o.interaction.contextGeneration = 0) ||
    decide (o.world.realTimeSeconds < o.interaction.lastObservedRealTime) ||
    (decide (o.interaction.lastContextMapName ≠ []) &&
      !sameText o.world.mapName o.interaction.lastContextMapName)

/-- What `Tick` does about a new world. -/
def restarted (o : Online) : Online :=
  let o := o.discardCorpseMaximum
  { o with interaction := { resetRetryState (resetListenerHealth o.interaction []) [] with
    contextGeneration := o.interaction.contextGeneration + 1
    sessionEnding := false
    sessionEndingMapName := [] } }

/-- What `Tick` remembers of the world. -/
def noted (o : Online) : Online :=
  { o with interaction := { o.interaction with
    lastObservedRealTime := o.world.realTimeSeconds, lastContextMapName := o.world.mapName } }

/-- `Tick` up to the look at the end of a session. -/
def observed (o : Online) : Online :=
  let o := (if o.restarts then o.restarted else o).noted
  if o.interaction.sessionEnding && decide (o.interaction.sessionEndingMapName ≠ []) &&
      !sameText o.world.mapName o.interaction.sessionEndingMapName then
    { o with interaction := { o.interaction with sessionEnding := false, sessionEndingMapName := [] } }
  else o

/-- `Tick` on a map that the delays are not of. -/
def retriesReady (o : Online) : Online :=
  if o.interaction.retryMapName = o.world.mapName then o
  else { o with interaction := resetRetryState o.interaction o.world.mapName }

/-- A match of several players is not the main menu. -/
def leftMainMenu (o : Online) : Online :=
  { o with interaction := { o.interaction with mainMenuRestoreComplete := false } }

/-- `Tick`. -/
def tick (healthy : Bool) (o : Online) : Online :=
  if !o.world.hasController then o
  else
    let o := o.observed
    if o.interaction.sessionEnding then o
    else
      let o := o.retriesReady
      if o.world.mainMenu then o.restoreAtMainMenu
      else if o.world.networked then
        o.leftMainMenu.ensureFixedEffectsBaseline.2.ensureListener healthy
      else o

/-- The session ends on a map. -/
def ending (o : Online) (mapName : Bytes) : Online :=
  { o with interaction := { o.interaction with sessionEnding := true, sessionEndingMapName := mapName } }

/-- `NotifyGameSessionEnded`. -/
def notifyGameSessionEnded (o : Online) : Online :=
  if !o.world.online then o.ending o.interaction.listenerMapName
  else (o.ending o.world.mapName).restoreSessionState.2

/-! ## 5. What the functions do to the maximum -/

/-- The snapshot, the manager and what a command's world is known by are as they were. -/
structure SameMaximum (o o' : Online) : Prop where
  world : o'.world = o.world
  corpse : o'.interaction.corpse = o.interaction.corpse
  generation : o'.interaction.contextGeneration = o.interaction.contextGeneration
  mapName : o'.interaction.lastContextMapName = o.interaction.lastContextMapName
  realTime : o'.interaction.lastObservedRealTime = o.interaction.lastObservedRealTime

theorem SameMaximum.refl (o : Online) : SameMaximum o o := ⟨rfl, rfl, rfl, rfl, rfl⟩

theorem SameMaximum.trans {o o' o'' : Online} (h : SameMaximum o o') (h' : SameMaximum o' o'') :
    SameMaximum o o'' where
  world := h'.world.trans h.world
  corpse := h'.corpse.trans h.corpse
  generation := h'.generation.trans h.generation
  mapName := h'.mapName.trans h.mapName
  realTime := h'.realTime.trans h.realTime

theorem sameMaximum_baseline (o : Online) : SameMaximum o o.ensureFixedEffectsBaseline.2 := by
  unfold ensureFixedEffectsBaseline
  simp only
  split_ifs
  · exact SameMaximum.refl o
  · exact SameMaximum.refl o
  · split <;> exact ⟨rfl, rfl, rfl, rfl, rfl⟩

theorem sameMaximum_adapt (o : Online) (sequence : ℤ) (resource : Bytes) (quality : ℤ) :
    SameMaximum o (o.adapt sequence resource quality).2 := by
  unfold adapt
  split_ifs
  · exact SameMaximum.refl o
  · exact ⟨rfl, rfl, rfl, rfl, rfl⟩
  · exact SameMaximum.refl o
  · split <;> exact ⟨rfl, rfl, rfl, rfl, rfl⟩

/-- The maximum that is live. -/
abbrev live (o : Online) : ℤ := o.world.gore.maxDeadBodies

abbrev captured (o : Online) : Bool := o.interaction.corpse.originalMaximumCaptured

/-- An `enable` was refused, and its write is still to be undone. -/
abbrev pending (o : Online) : Bool := o.interaction.corpse.enableRestorePending

/-- The interaction has seen this world, and a snapshot is one of this world.  `own` is the maximum
that the game set, `settled` the one that was live before the `enable` whose write is to be undone. -/
structure Held (own settled : ℤ) (o : Online) : Prop where
  generation : o.interaction.contextGeneration ≠ 0
  mapName : o.interaction.lastContextMapName = o.world.mapName
  realTime : o.interaction.lastObservedRealTime ≤ o.world.realTimeSeconds
  snapshot : o.captured = true → o.interaction.corpse.originalMapName = o.world.mapName ∧
    o.interaction.corpse.originalMaximum = own
  free : o.captured = false → o.live = own ∧ o.pending = false
  previous : o.pending = true → o.interaction.corpse.enablePreviousMaximum = settled

variable {own settled : ℤ}

theorem Held.congr {o o' : Online} (h : Held own settled o) (hsame : SameMaximum o o') :
    Held own settled o' where
  generation := hsame.generation ▸ h.generation
  mapName := by rw [hsame.mapName, hsame.world, h.mapName]
  realTime := by rw [hsame.realTime, hsame.world]; exact h.realTime
  snapshot := by rw [captured, hsame.corpse, hsame.world]; exact h.snapshot
  free := by rw [captured, live, pending, hsame.corpse, hsame.world]; exact h.free
  previous := by rw [pending, hsame.corpse]; exact h.previous

/-- The world goes on by itself. -/
theorem Held.world {o : Online} (h : Held own settled o) {world : OnlineWorld}
    (hmapName : world.mapName = o.world.mapName)
    (hrealTime : o.world.realTimeSeconds ≤ world.realTimeSeconds)
    (hlive : world.gore.maxDeadBodies = o.live) : Held own settled { o with world } where
  generation := h.generation
  mapName := h.mapName.trans hmapName.symm
  realTime := h.realTime.trans hrealTime
  snapshot hcaptured := ⟨(h.snapshot hcaptured).1.trans hmapName.symm, (h.snapshot hcaptured).2⟩
  free hfree := ⟨hlive.trans (h.free hfree).1, (h.free hfree).2⟩
  previous := h.previous

/-- The end of a snapshot. -/
theorem Held.clear {o : Online} (h : Held own settled o) (hlive : o.live = own) :
    Held own settled o.clearCorpseMaximum where
  generation := h.generation
  mapName := h.mapName
  realTime := h.realTime
  snapshot := nofun
  free _ := ⟨hlive, rfl⟩
  previous := nofun

/-- A write, while a snapshot is held. -/
theorem Held.assign {o : Online} (h : Held own settled o) (hcaptured : o.captured = true)
    (gore : GoreManager) : Held own settled (o.withGore gore) where
  generation := h.generation
  mapName := h.mapName
  realTime := h.realTime
  snapshot := h.snapshot
  free hfree := absurd (hfree.symm.trans hcaptured) Bool.false_ne_true
  previous := h.previous

/-- **A restore of the snapshot.** -/
theorem Held.restore {o : Online} (h : Held own settled o) :
    Held own settled o.restoreCorpseMaximum.2 ∧
      (o.restoreCorpseMaximum.1 = true → o.restoreCorpseMaximum.2.live = own) := by
  unfold restoreCorpseMaximum
  cases hcaptured : o.interaction.corpse.originalMaximumCaptured with
  | false =>
    simp only [hcaptured, Bool.not_false, if_true]
    exact ⟨h, fun _ => (h.free hcaptured).1⟩
  | true =>
    obtain ⟨hmap, horiginal⟩ := h.snapshot hcaptured
    have hassign := h.assign hcaptured (o.world.gore.assign o.interaction.corpse.originalMaximum)
    simp only [hcaptured, Bool.not_true, Bool.false_eq_true, if_false, hmap, ne_eq,
      not_true_eq_false]
    split_ifs with hmanager hread
    · exact ⟨h, nofun⟩
    · have hlive := hread.trans horiginal
      exact ⟨hassign.clear hlive, fun _ => hlive⟩
    · exact ⟨hassign, nofun⟩

/-! ## 6. What commands do -/

theorem Held.capture {o : Online} (h : Held own settled o) :
    Held own settled o.captureCorpseMaximum ∧ o.captureCorpseMaximum.captured = true ∧
      o.captureCorpseMaximum.live = o.live ∧ o.captureCorpseMaximum.pending = o.pending := by
  cases hcaptured : o.interaction.corpse.originalMaximumCaptured with
  | true =>
    have hvalue : o.captureCorpseMaximum = o := by
      simp [captureCorpseMaximum, hcaptured, (h.snapshot hcaptured).1]
    rw [hvalue]
    exact ⟨h, hcaptured, rfl, rfl⟩
  | false =>
    obtain ⟨hlive, hpending⟩ := h.free hcaptured
    have hvalue : o.captureCorpseMaximum = o.withCorpse { o.interaction.corpse with
        originalMaximum := o.live
        originalMapName := o.world.mapName
        originalMaximumCaptured := true } := by
      simp [captureCorpseMaximum, discardCorpseMaximum, hcaptured]
    rw [hvalue]
    exact ⟨⟨h.generation, h.mapName, h.realTime, fun _ => ⟨rfl, hlive⟩, nofun, h.previous⟩, rfl, rfl,
      rfl⟩

/-- **Undoing the write of an `enable` that was refused.** -/
theorem Held.restoreEnable {o : Online} (h : Held own settled o) (hcaptured : o.captured = true)
    (hcalm : o.pending = false → o.live = settled) :
    Held own settled o.restoreEnableMaximum.2 ∧ o.restoreEnableMaximum.2.captured = true ∧
      (o.restoreEnableMaximum.1 = true →
        o.restoreEnableMaximum.2.pending = false ∧ o.restoreEnableMaximum.2.live = settled) ∧
      (o.restoreEnableMaximum.1 = false → o.restoreEnableMaximum.2.pending = true) := by
  cases hpending : o.interaction.corpse.enableRestorePending with
  | false =>
    have hvalue : o.restoreEnableMaximum = (true, o) := by simp [restoreEnableMaximum, hpending]
    rw [hvalue]
    exact ⟨h, hcaptured, fun _ => ⟨hpending, hcalm hpending⟩, nofun⟩
  | true =>
    have hprevious := h.previous hpending
    have hassign := h.assign hcaptured
      (o.world.gore.assign o.interaction.corpse.enablePreviousMaximum)
    by_cases hread : (o.world.gore.assign o.interaction.corpse.enablePreviousMaximum).maxDeadBodies =
        o.interaction.corpse.enablePreviousMaximum
    · have hvalue : o.restoreEnableMaximum =
          (true, (o.withGore (o.world.gore.assign o.interaction.corpse.enablePreviousMaximum)).withCorpse
            { o.interaction.corpse with enableRestorePending := false }) := by
        simp [restoreEnableMaximum, hpending, withGore, hread]
      rw [hvalue]
      refine ⟨⟨h.generation, h.mapName, h.realTime, h.snapshot, ?_, nofun⟩, hcaptured,
        fun _ => ⟨rfl, hread.trans hprevious⟩, nofun⟩
      intro hfree
      exact absurd (hfree.symm.trans hcaptured) Bool.false_ne_true
    · have hvalue : o.restoreEnableMaximum =
          (false, o.withGore (o.world.gore.assign o.interaction.corpse.enablePreviousMaximum)) := by
        simp [restoreEnableMaximum, hpending, withGore, hread]
      rw [hvalue]
      exact ⟨hassign, hcaptured, nofun, fun _ => hpending⟩

/-- **The write of an `enable`.** -/
theorem Held.write {o : Online} (h : Held own settled o) (hcaptured : o.captured = true)
    (hpending : o.pending = false) (hlive : o.live = settled) (sequence quality : ℤ) :
    Held own settled (o.writeMaximum sequence quality).2 ∧
      ((o.writeMaximum sequence quality).1 = false →
        (o.writeMaximum sequence quality).2.pending = true ∨
          (o.writeMaximum sequence quality).2.live = settled) := by
  have hattempted : Held own settled (o.attempted quality) :=
    ⟨h.generation, h.mapName, h.realTime, h.snapshot,
      fun hfree => absurd (hfree.symm.trans hcaptured) Bool.false_ne_true,
      fun hpending' => absurd (hpending.symm.trans hpending') Bool.false_ne_true⟩
  have hrefused : Held own settled (o.attempted quality).refused :=
    ⟨h.generation, h.mapName, h.realTime, h.snapshot,
      fun hfree => absurd (hfree.symm.trans hcaptured) Bool.false_ne_true, fun _ => hlive⟩
  unfold writeMaximum
  by_cases hread : (o.attempted quality).world.gore.maxDeadBodies = quality
  · simp only [hread, ne_eq, not_true_eq_false, if_false]
    exact ⟨hattempted.congr ⟨rfl, rfl, rfl, rfl, rfl⟩, nofun⟩
  · simp only [hread, ne_eq, not_false_eq_true, if_true]
    obtain ⟨hrestored, -, htrue, hfalse⟩ := hrefused.restoreEnable hcaptured nofun
    refine ⟨hrestored, fun _ => ?_⟩
    cases hresult : (o.attempted quality).refused.restoreEnableMaximum.1 with
    | true => exact .inr (htrue hresult).2
    | false => exact .inl (hfalse hresult)

theorem pending_or_settled {o : Online} (hcalm : o.pending = false → o.live = settled) :
    o.pending = true ∨ o.live = settled := by
  cases hpending : o.pending with
  | true => exact .inl rfl
  | false => exact .inr (hcalm hpending)

/-- **What `enable` leaves.**  When it is refused, a restore is pending or what was settled is live. -/
theorem Held.enable {o : Online} (h : Held own settled o) (hcalm : o.pending = false → o.live = settled)
    (sequence quality : ℤ) :
    Held own settled (o.enable sequence quality).2 ∧
      ((o.enable sequence quality).1 = false →
        (o.enable sequence quality).2.pending = true ∨
          (o.enable sequence quality).2.live = settled) := by
  have hsettled := pending_or_settled hcalm
  unfold Online.enable
  simp only [if_neg (not_lt.mpr h.realTime)]
  split_ifs with hquality hmanager
  · exact ⟨h, fun _ => hsettled⟩
  · exact ⟨h, fun _ => hsettled⟩
  · obtain ⟨hheld, hcaptured, hlive, hpending⟩ := h.capture
    obtain ⟨hrestored, hcaptured', htrue, hfalse⟩ :=
      hheld.restoreEnable hcaptured (by rw [hpending, hlive]; exact hcalm)
    generalize o.captureCorpseMaximum.restoreEnableMaximum = r at *
    obtain ⟨_ | _, o₁⟩ := r
    · exact ⟨hrestored, fun _ => .inl (hfalse rfl)⟩
    · obtain ⟨hpending₁, hlive₁⟩ := htrue rfl
      have hsame := sameMaximum_baseline o₁
      have hheld₂ := hrestored.congr hsame
      have hcorpse := hsame.corpse
      have hworld := hsame.world
      simp only
      generalize o₁.ensureFixedEffectsBaseline = r at *
      obtain ⟨_ | _, o₂⟩ := r
      · refine ⟨hheld₂, fun _ => .inr ?_⟩
        rw [live, hworld]
        exact hlive₁
      · refine hheld₂.write ?_ ?_ ?_ sequence quality
        · rw [captured, hcorpse]
          exact hcaptured'
        · rw [pending, hcorpse]
          exact hpending₁
        · rw [live, hworld]
          exact hlive₁

/-- **What `disable` leaves.**  When it succeeds, the game's own maximum is live. -/
theorem Held.disable {o : Online} (h : Held own settled o) (sequence : ℤ) :
    Held own settled (o.disable sequence).2 ∧
      ((o.disable sequence).1 = true → (o.disable sequence).2.live = own) := by
  unfold Online.disable
  simp only
  obtain ⟨hheld, htrue⟩ := ((h.congr ⟨rfl, rfl, rfl, rfl, rfl⟩ : Held own settled
    { o with interaction := { o.interaction with
      graphicsEnabled := false
      lastSequence := sequence
      session := (restoreOriginal o.interaction.session).2
      fixedEffectsApplied := false } }).congr (sameMaximum_baseline _)).restore
  refine ⟨hheld, fun hall => htrue ?_⟩
  simp only [Bool.and_eq_true] at hall
  exact hall.2

/-- **A command**, any of them. -/
theorem Held.control {o : Online} (h : Held own settled o)
    (hcalm : o.pending = false → o.live = settled) (control : Control) :
    Held own settled (o.applyOnlineGraphicsControl control).2 ∧
      (sameText control.resource (ascii "enable") = true →
        (o.applyOnlineGraphicsControl control).1 = false →
          (o.applyOnlineGraphicsControl control).2.pending = true ∨
            (o.applyOnlineGraphicsControl control).2.live = settled) ∧
      (sameText control.resource (ascii "disable") = true →
        (o.applyOnlineGraphicsControl control).1 = true →
          (o.applyOnlineGraphicsControl control).2.live = own) := by
  have hsettled := pending_or_settled hcalm
  have hstart : Held own settled
      { o with interaction := { o.interaction with lastCapabilityRejected := false } } :=
    h.congr ⟨rfl, rfl, rfl, rfl, rfl⟩
  unfold applyOnlineGraphicsControl
  simp only
  split_ifs with hgate hresource henable hrange hdisable
  · exact ⟨hstart, fun _ _ => hsettled, nofun⟩
  · exact ⟨hstart, fun _ _ => hsettled, nofun⟩
  · obtain ⟨hheld, hrefused⟩ := hstart.enable hcalm control.sequence control.quality
    refine ⟨hheld, fun _ => hrefused, fun hdisable => ?_⟩
    have hboth := (of_decide_eq_true henable).symm.trans (of_decide_eq_true hdisable)
    exact absurd hboth (by decide)
  · exact ⟨hstart, fun _ _ => hsettled, nofun⟩
  · obtain ⟨hheld, hback⟩ := hstart.disable control.sequence
    exact ⟨hheld, fun henable' => absurd henable' henable, fun _ => hback⟩
  · have hsame := sameMaximum_adapt
      { o with interaction := { o.interaction with lastCapabilityRejected := false } }
      control.sequence control.resource control.quality
    exact ⟨hstart.congr hsame, fun henable' => absurd henable' henable,
      fun hdisable' => absurd hdisable' hdisable⟩

/-! ## 7. What ticks do -/

theorem Held.session {o : Online} (h : Held own settled o) :
    Held own settled o.restoreSessionState.2 := by
  unfold restoreSessionState
  generalize (if o.interaction.session.snapshot.originalCaptured then
    restoreOriginal o.interaction.session else (true, o.interaction.session)) = restored
  have hsession : Held own settled (o.withSession restored.2) := h.congr ⟨rfl, rfl, rfl, rfl, rfl⟩
  simp only
  split_ifs
  · exact hsession.restore.1
  · exact hsession.restore.1.congr ⟨rfl, rfl, rfl, rfl, rfl⟩

theorem Held.mainMenu {o : Online} (h : Held own settled o) : Held own settled o.restoreAtMainMenu := by
  unfold restoreAtMainMenu
  have hsession := h.session
  generalize o.restoreSessionState = r at *
  obtain ⟨_ | _, o'⟩ := r
  · split_ifs
    · exact h
    · exact hsession.congr ⟨rfl, rfl, rfl, rfl, rfl⟩
  · split_ifs
    · exact h
    · exact hsession.congr ⟨rfl, rfl, rfl, rfl, rfl⟩

theorem Held.listener {o : Online} (h : Held own settled o) (healthy : Bool) :
    Held own settled (o.ensureListener healthy) := by
  unfold ensureListener
  simp only
  split_ifs <;> exact ⟨h.generation, h.mapName, h.realTime, h.snapshot, h.free, h.previous⟩

/-- A world that the interaction has not seen.  The snapshot may be one of the last world. -/
structure Unseen (own : ℤ) (o : Online) : Prop where
  live : o.live = own
  pending : o.captured = false → o.pending = false
  listening : o.world.listening = false

/-- A world that has not been seen goes on by itself. -/
theorem Unseen.world {o : Online} (h : Unseen own o) {world : OnlineWorld}
    (hlive : world.gore.maxDeadBodies = o.live) (hlistening : world.listening = false) :
    Unseen own { o with world } where
  live := hlive.trans h.live
  pending := h.pending
  listening := hlistening

theorem world_restarted (o : Online) : o.restarted.world = o.world := by
  simp only [restarted, discardCorpseMaximum]
  split <;> rfl

theorem held_restarted {o : Online} (h : Unseen own o) : Held own settled o.restarted.noted := by
  have hworld := world_restarted o
  have hcorpse : o.restarted.captured = false ∧ o.restarted.pending = false := by
    cases hcaptured : o.interaction.corpse.originalMaximumCaptured with
    | true => simp [restarted, discardCorpseMaximum, hcaptured, clearCorpseMaximum, withCorpse,
        captured, pending, resetRetryState, resetListenerHealth]
    | false => simp [restarted, discardCorpseMaximum, hcaptured, captured, pending, resetRetryState,
        resetListenerHealth, h.pending hcaptured]
  obtain ⟨hcaptured, hpending⟩ := hcorpse
  refine ⟨Nat.succ_ne_zero _, rfl, le_refl _, ?_, ?_, ?_⟩
  · intro hcaptured'
    exact absurd (hcaptured.symm.trans hcaptured') Bool.false_ne_true
  · intro _
    refine ⟨?_, hpending⟩
    rw [live, noted, hworld]
    exact h.live
  · intro hpending'
    exact absurd (hpending.symm.trans hpending') Bool.false_ne_true

/-- **The interaction takes note of the world.**  One that it has seen is not taken for a new one; in a
new one the snapshot is given up. -/
theorem held_observed {o : Online}
    (h : Held own settled o ∨ o.restarts = true ∧ Unseen own o) : Held own settled o.observed := by
  have hnoted : Held own settled (if o.restarts then o.restarted else o).noted := by
    rcases h with h | ⟨hrestarts, hunseen⟩
    · have hseen : o.restarts = false := by
        simp [restarts, h.generation, h.mapName, not_lt.mpr h.realTime, sameText]
      rw [hseen]
      exact ⟨h.generation, rfl, le_refl _, h.snapshot, h.free, h.previous⟩
    · rw [hrestarts]
      exact held_restarted hunseen
  unfold observed
  simp only
  split_ifs at * <;> first | exact hnoted | exact hnoted.congr ⟨rfl, rfl, rfl, rfl, rfl⟩

theorem sameMaximum_retriesReady (o : Online) : SameMaximum o o.retriesReady := by
  unfold retriesReady
  split_ifs
  · exact SameMaximum.refl o
  · exact ⟨rfl, rfl, rfl, rfl, rfl⟩

/-- **A tick.** -/
theorem held_tick {o : Online} (hcontroller : o.world.hasController = true)
    (h : Held own settled o ∨ o.restarts = true ∧ Unseen own o) (healthy : Bool) :
    Held own settled (o.tick healthy) := by
  have hobserved : Held own settled o.observed := held_observed h
  have hready := hobserved.congr (sameMaximum_retriesReady o.observed)
  have hleft : SameMaximum o.observed.retriesReady o.observed.retriesReady.leftMainMenu :=
    ⟨rfl, rfl, rfl, rfl, rfl⟩
  unfold tick
  rw [hcontroller]
  simp only [Bool.not_true, Bool.false_eq_true, if_false]
  split_ifs
  · exact hobserved
  · exact hready.mainMenu
  · exact ((hready.congr hleft).congr (sameMaximum_baseline _)).listener healthy
  · exact hready

/-- **The end of a session.** -/
theorem Held.ended {o : Online} (h : Held own settled o) :
    Held own settled o.notifyGameSessionEnded := by
  have hending : ∀ mapName, Held own settled (o.ending mapName) :=
    fun mapName => h.congr ⟨rfl, rfl, rfl, rfl, rfl⟩
  unfold notifyGameSessionEnded
  split_ifs
  · exact hending _
  · exact (hending _).session

/-! ## 8. Runs -/

/-- The game with the interaction in it. -/
structure OnlineRun where
  online : Online
  /-- The maximum that the game itself set last, while no snapshot of this world was held. -/
  own : ℤ
  /-- The maximum that was live when there was last no `enable` to undo. -/
  settled : ℤ
  /-- No tick has come since the world did. -/
  fresh : Bool

inductive OnlineEvent
  | travel (world : OnlineWorld)
  | clock (realTimeSeconds : ℚ)
  | controller (present : Bool)
  | goreManager (present : Bool)
  /-- The game sets the maximum. -/
  | gameSets (maximum : ℤ)
  | listenerLost
  | command (control : Control)
  | tick (healthy : Bool)
  | sessionEnded

namespace OnlineRun

/-- The game has started. -/
def start (world : OnlineWorld) (adaptiveControlToken : Bytes) (session : Session) : OnlineRun where
  online := ⟨{ world with listening := false }, { adaptiveControlToken, session }⟩
  own := world.gore.maxDeadBodies
  settled := world.gore.maxDeadBodies
  fresh := true

/-- The snapshot is one of this world. -/
def holding (r : OnlineRun) : Bool := r.online.captured && !r.fresh

/-- The clock of a world does not go back. -/
def next (r : OnlineRun) : OnlineEvent → OnlineRun
  | .travel world =>
    { r with
      online := { r.online with world := { world with listening := false } }
      own := world.gore.maxDeadBodies
      fresh := true }
  | .clock realTimeSeconds =>
    { r with online := { r.online with world := { r.online.world with
      realTimeSeconds := max r.online.world.realTimeSeconds realTimeSeconds } } }
  | .controller present =>
    { r with online := { r.online with world := { r.online.world with hasController := present } } }
  | .goreManager present =>
    { r with online := { r.online with world := { r.online.world with hasGoreManager := present } } }
  | .gameSets maximum =>
    { r with
      online := r.online.withGore { r.online.world.gore with maxDeadBodies := maximum }
      own := if r.holding then r.own else maximum }
  | .listenerLost =>
    { r with online := { r.online with world := { r.online.world with listening := false } } }
  | .command control =>
    if r.online.world.listening then
      { r with online := (r.online.applyOnlineGraphicsControl control).2 }
    else r
  | .tick healthy =>
    { r with online := r.online.tick healthy, fresh := r.fresh && !r.online.world.hasController }
  | .sessionEnded => { r with online := r.online.notifyGameSessionEnded }

def settle (r : OnlineRun) : OnlineRun :=
  if r.online.pending then r else { r with settled := r.online.live }

def step (r : OnlineRun) (event : OnlineEvent) : OnlineRun := (r.next event).settle

/-- The interaction notices each new world at the first tick, and no session ends before that tick. -/
def Noticed (r : OnlineRun) : OnlineEvent → Prop
  | .tick _ => r.fresh = true → r.online.world.hasController = true → r.online.restarts = true
  | .sessionEnded => r.fresh = false
  | _ => True

instance (r : OnlineRun) (event : OnlineEvent) : Decidable (r.Noticed event) := by
  cases event <;> unfold Noticed <;> infer_instance

/-- What a caller may rely on after a step. -/
structure GivenBack (r : OnlineRun) (event : OnlineEvent) : Prop where
  free : (r.step event).fresh = false → (r.step event).online.captured = false →
    (r.step event).online.live = (r.step event).own
  disabled : ∀ control, event = .command control → r.online.world.listening = true →
    sameText control.resource (ascii "disable") = true →
      (r.online.applyOnlineGraphicsControl control).1 = true → (r.step event).online.live = r.own
  refused : ∀ control, event = .command control → r.online.world.listening = true →
    sameText control.resource (ascii "enable") = true →
      (r.online.applyOnlineGraphicsControl control).1 = false →
        (r.step event).online.pending = true ∨ (r.step event).online.live = r.settled

/-- The invariant of a run. -/
structure Inv (r : OnlineRun) : Prop where
  unseen : r.fresh = true → Unseen r.own r.online
  held : r.fresh = false → Held r.own r.settled r.online
  calm : r.online.pending = false → r.online.live = r.settled

@[simp] theorem settle_online (r : OnlineRun) : r.settle.online = r.online := by
  unfold settle
  split <;> rfl

@[simp] theorem settle_fresh (r : OnlineRun) : r.settle.fresh = r.fresh := by
  unfold settle
  split <;> rfl

@[simp] theorem settle_own (r : OnlineRun) : r.settle.own = r.own := by
  unfold settle
  split <;> rfl

/-- What is settled changes while there is nothing to undo only. -/
theorem inv_settle {r : OnlineRun} (hunseen : r.fresh = true → Unseen r.own r.online)
    (hheld : r.fresh = false → Held r.own r.settled r.online) : Inv r.settle := by
  refine ⟨by simpa using hunseen, ?_, ?_⟩
  · rw [settle_fresh, settle_own, settle_online]
    intro hseen
    have h := hheld hseen
    refine ⟨h.generation, h.mapName, h.realTime, h.snapshot, h.free, fun hpending => ?_⟩
    have hsettle : r.settle = r := by simp [settle, hpending]
    rw [hsettle]
    exact h.previous hpending
  · rw [settle_online]
    intro hpending
    simp [settle, hpending]

/-- Nothing listens in a world that has not been seen. -/
theorem Inv.heard {r : OnlineRun} (h : Inv r) (hlistening : r.online.world.listening = true) :
    r.fresh = false := by
  cases hfresh : r.fresh with
  | false => rfl
  | true => exact absurd ((h.unseen hfresh).listening.symm.trans hlistening) Bool.false_ne_true

/-- **What one event does.** -/
theorem inv_next {r : OnlineRun} (h : Inv r) (event : OnlineEvent) (hnoticed : r.Noticed event) :
    ((r.next event).fresh = true → Unseen (r.next event).own (r.next event).online) ∧
      ((r.next event).fresh = false →
        Held (r.next event).own (r.next event).settled (r.next event).online) := by
  cases event with
  | travel world =>
    refine ⟨fun _ => ⟨rfl, fun hfree => ?_, rfl⟩, nofun⟩
    cases hfresh : r.fresh with
    | true => exact (h.unseen hfresh).pending hfree
    | false => exact ((h.held hfresh).free hfree).2
  | clock realTimeSeconds =>
    refine ⟨fun hfresh => ?_, fun hseen => (h.held hseen).world rfl (le_max_left _ _) rfl⟩
    exact (h.unseen hfresh).world rfl (h.unseen hfresh).listening
  | controller present =>
    refine ⟨fun hfresh => ?_, fun hseen => (h.held hseen).world rfl (le_refl _) rfl⟩
    exact (h.unseen hfresh).world rfl (h.unseen hfresh).listening
  | goreManager present =>
    refine ⟨fun hfresh => ?_, fun hseen => (h.held hseen).world rfl (le_refl _) rfl⟩
    exact (h.unseen hfresh).world rfl (h.unseen hfresh).listening
  | gameSets maximum =>
    constructor
    · intro hfresh
      have hown : (r.next (.gameSets maximum)).own = maximum := by
        have hfresh' : r.fresh = true := hfresh
        simp [next, holding, hfresh']
      rw [hown]
      exact ⟨rfl, (h.unseen hfresh).pending, (h.unseen hfresh).listening⟩
    · intro hseen
      have hheld := h.held hseen
      have hseen' : r.fresh = false := hseen
      cases hcaptured : r.online.captured with
      | true =>
        have hown : (r.next (.gameSets maximum)).own = r.own := by
          simp [next, holding, hcaptured, hseen']
        rw [hown]
        exact hheld.assign hcaptured _
      | false =>
        have hown : (r.next (.gameSets maximum)).own = maximum := by
          simp [next, holding, hcaptured]
        rw [hown]
        refine ⟨hheld.generation, hheld.mapName, hheld.realTime, fun hheld' => ?_,
          fun _ => ⟨rfl, (hheld.free hcaptured).2⟩, hheld.previous⟩
        exact absurd (hcaptured.symm.trans hheld') Bool.false_ne_true
  | listenerLost =>
    refine ⟨fun hfresh => ?_, fun hseen => (h.held hseen).world rfl (le_refl _) rfl⟩
    exact (h.unseen hfresh).world rfl rfl
  | command control =>
    cases hlistening : r.online.world.listening with
    | false =>
      simp only [next, hlistening, Bool.false_eq_true, if_false]
      exact ⟨h.unseen, h.held⟩
    | true =>
      simp only [next, hlistening, if_true]
      refine ⟨fun hfresh => ?_, fun hseen => ((h.held hseen).control h.calm control).1⟩
      exact absurd ((h.heard hlistening).symm.trans hfresh) Bool.false_ne_true
  | tick healthy =>
    cases hcontroller : r.online.world.hasController with
    | false =>
      have hstays : r.online.tick healthy = r.online := by simp [tick, hcontroller]
      simp only [next, hcontroller, hstays, Bool.not_false, Bool.and_true]
      exact ⟨h.unseen, h.held⟩
    | true =>
      simp only [next, hcontroller, Bool.not_true, Bool.and_false]
      refine ⟨nofun, fun _ => held_tick hcontroller ?_ healthy⟩
      cases hfresh : r.fresh with
      | false => exact .inl (h.held hfresh)
      | true => exact .inr ⟨hnoticed hfresh hcontroller, h.unseen hfresh⟩
  | sessionEnded =>
    refine ⟨fun hfresh => ?_, fun hseen => (h.held hseen).ended⟩
    exact absurd (Eq.symm hnoticed |>.trans hfresh) Bool.false_ne_true

theorem inv_step {r : OnlineRun} (h : Inv r) (event : OnlineEvent) (hnoticed : r.Noticed event) :
    Inv (r.step event) :=
  inv_settle (inv_next h event hnoticed).1 (inv_next h event hnoticed).2

theorem inv_start (world : OnlineWorld) (token : Bytes) (session : Session) :
    Inv (start world token session) :=
  ⟨fun _ => ⟨rfl, fun _ => rfl, rfl⟩, nofun, fun _ => rfl⟩

theorem Inv.givenBack {r : OnlineRun} (h : Inv r) {event : OnlineEvent}
    (hnoticed : r.Noticed event) : GivenBack r event where
  free hseen hfree := (((inv_step h event hnoticed).held hseen).free hfree).1
  disabled := by
    rintro control rfl hlistening hdisable hresult
    have hcontrol := (h.held (h.heard hlistening)).control h.calm control
    simp only [step, next, hlistening, if_true, settle_online]
    exact hcontrol.2.2 hdisable hresult
  refused := by
    rintro control rfl hlistening henable hresult
    have hcontrol := (h.held (h.heard hlistening)).control h.calm control
    simp only [step, next, hlistening, if_true, settle_online]
    exact hcontrol.2.1 henable hresult

/-- **The game's own maximum comes back.**  In every run in which each new world is noticed: a `disable`
that succeeds leaves the maximum that the game set, a refused `enable` leaves the one of before or a
restore pending, and whenever no snapshot is held the maximum is the game's own. -/
theorem maximum_given_back (world : OnlineWorld) (adaptiveControlToken : Bytes) (session : Session)
    (events : List OnlineEvent)
    (hnoticed : Along step Noticed (start world adaptiveControlToken session) events) :
    Along step GivenBack (start world adaptiveControlToken session) events :=
  along_of_invariant (I := Inv) (fun _ event h hnoticed => inv_step h event hnoticed)
    (fun _ _ h hnoticed => h.givenBack hnoticed) events _ (inv_start world adaptiveControlToken session)
    hnoticed

/-- A match on a map; the gore manager stores what is written, from the given write on. -/
def matchOn (mapName : String) (realTimeSeconds : ℚ) (maxDeadBodies : ℤ) (stores : ℕ) : OnlineWorld where
  mapName := ascii mapName
  netMode := .client
  realTimeSeconds := realTimeSeconds
  hasController := true
  gore := ⟨maxDeadBodies, fun n live maximum => if n < stores then live else maximum⟩
  hasGoreManager := true

/-- The highest settings, in an engine that stores all. -/
def richSession : Session where
  snapshot := .new
  engine.settings
    | ⟨.int, _⟩ => (4096 : ℤ)
    | ⟨.float, _⟩ => (1.5 : Float32)
    | ⟨.bool, _⟩ => true
  engine.stored _ _ := true

def exampleToken : Bytes := ascii "0123456789abcdef0123456789abcdef"

/-- An `enable` that is refused and one that is not, a new match before any `disable`, and the same there
with one. -/
def twoMatches : List OnlineEvent :=
  [.tick true, .command ⟨exampleToken, 1, ascii "enable", 300⟩,
    .command ⟨exampleToken, 2, ascii "enable", 300⟩, .clock 60, .tick true,
    .travel (matchOn "KF-Outpost" 1 800 0), .tick true,
    .command ⟨exampleToken, 3, ascii "enable", 400⟩, .command ⟨exampleToken, 4, ascii "disable", 50⟩]

theorem maximum_given_back_twoMatches :
    Along step GivenBack (start (matchOn "KF-BurningParis" 10 1000 1) exampleToken richSession)
        twoMatches ∧
      (exec step (start (matchOn "KF-BurningParis" 10 1000 1) exampleToken richSession)
        twoMatches).online.live = 800 :=
  ⟨maximum_given_back _ _ _ _ (by decide +kernel), by decide +kernel⟩

end OnlineRun

end Online

end Kf2Optimizer.Graphics
