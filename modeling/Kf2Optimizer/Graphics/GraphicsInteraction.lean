/-
# The observer of the graphics menu

While Adaptive has lowered some settings, the user may change others in KF2's graphics menu.
`KF2OptimizerGraphicsInteraction` watches the live settings from its `Tick`: in the main menu, while
the graphics menu is open and once more when it closes, it compares them with what it saw last, and
takes every field that differs for a choice of the user (`RebaseOriginalFromMenuChange`).

It cannot see who has changed a field.  A command that lowers a setting between two observations is
taken for the user (`adaptive_reduction_becomes_baseline`).  In every run in which no command changes
the settings while an observation is held, and no choice escapes the observer, the snapshot holds
what the user chose last (`baseline_is_user_choice`).
-/
import Kf2Optimizer.Graphics.OriginalRestored
import Kf2Optimizer.Lib.Machine

namespace Kf2Optimizer.Graphics

open Tables Text Game StepMachine

/-! ## 1. Rebasing -/

/-- A snapshot restores to a field what it holds for it. -/
theorem userSettings_apply (s : AdaptiveGraphicsState) {k : Kind} {o : OriginalField k}
    {f : GFXField k} (h : ⟨k, o, f⟩ ∈ copied) : s.userSettings ⟨k, f⟩ = s.original ⟨k, o⟩ := by
  have hback : (⟨k, f, o⟩ : Σ k, GFXField k × OriginalField k) ∈ restored := by
    rw [restored_eq]
    exact List.mem_map.mpr ⟨⟨k, o, f⟩, h, rfl⟩
  exact assign_of_mem targets_restored_nodup hback

theorem exists_copied (f : Σ k, GFXField k) :
    ∃ o, (⟨f.1, o, f.2⟩ : Σ k, OriginalField k × GFXField k) ∈ copied := by
  have hmem := mem_targets_restored f
  rw [restored_eq] at hmem
  obtain ⟨o, ho⟩ := exists_of_mem_targets hmem
  obtain ⟨⟨k, o', f'⟩, hline, heq⟩ := List.mem_map.mp ho
  cases heq
  exact ⟨_, hline⟩

theorem foldl_rebaseField (previous current : Originals) (o : Σ k, OriginalField k) :
    ∀ (fields : List (Σ k, OriginalField k)) (original : Originals), fields.Nodup →
      fields.foldl (rebaseField previous current) original o =
        if o ∈ fields ∧ o.1.same (previous o) (current o) = false then current o else original o
  | [], original, _ => by simp
  | field :: rest, original, hnodup => by
    obtain ⟨hnew, hrest⟩ := List.nodup_cons.mp hnodup
    rw [List.foldl_cons, foldl_rebaseField previous current o rest _ hrest]
    by_cases heq : o = field
    · subst heq
      unfold rebaseField
      cases hsame : o.1.same (previous o) (current o) <;> simp [hnew]
    · have hkeep : rebaseField previous current original field o = original o := by
        unfold rebaseField
        split
        · rfl
        · exact Function.update_of_ne heq _ _
      simp [hkeep, heq]

/-- **What a rebase leaves**, field by field. -/
theorem userSettings_rebase {s : AdaptiveGraphicsState} (hcap : s.originalCaptured = true)
    (previous current : AdaptiveGraphicsState) (f : Σ k, GFXField k) :
    (rebaseOriginalFromMenuChange s previous current).2.userSettings f =
      if f.1.same (previous.userSettings f) (current.userSettings f) then s.userSettings f
      else current.userSettings f := by
  obtain ⟨o, hmem⟩ := exists_copied f
  simp only [userSettings_apply _ hmem]
  have ho : (⟨f.1, o⟩ : Σ k, OriginalField k) ∈ rebased := rebased_eq ▸ mem_targets_copied _
  unfold rebaseOriginalFromMenuChange
  simp only [hcap, Bool.not_true, Bool.false_or]
  by_cases hdiffer : ownedSettingsDiffer previous current = true
  · simp only [hdiffer, Bool.not_true, Bool.false_eq_true, if_false]
    rw [foldl_rebaseField _ _ _ _ _ (rebased_eq ▸ targets_copied_nodup)]
    cases hsame : f.1.same (previous.original ⟨f.1, o⟩) (current.original ⟨f.1, o⟩)
    · simp [ho]
    · simp
  · have hsame : f.1.same (previous.original ⟨f.1, o⟩) (current.original ⟨f.1, o⟩) = true := by
      have hall : ∀ o : Σ k, OriginalField k, ¬ (!o.1.same (previous.original o) (current.original o)) = true := by
        intro o hne
        refine hdiffer (List.any_eq_true.mpr ⟨o, ?_, hne⟩)
        exact differing_eq ▸ mem_targets_copied o
      simpa using hall ⟨f.1, o⟩
    simp [Bool.eq_false_iff.mpr hdiffer, hsame]

theorem rebase_originalCaptured (s previous current : AdaptiveGraphicsState) :
    (rebaseOriginalFromMenuChange s previous current).2.originalCaptured = s.originalCaptured := by
  unfold rebaseOriginalFromMenuChange
  split <;> rfl

theorem rebase_uncaptured {s : AdaptiveGraphicsState} (hcap : s.originalCaptured = false)
    (previous current : AdaptiveGraphicsState) :
    (rebaseOriginalFromMenuChange s previous current).2 = s := by
  unfold rebaseOriginalFromMenuChange
  simp [hcap]

/-! ## 2. The observer -/

/-- What `Tick` reads of KF2. -/
structure GameWorld where
  mapName : Bytes
  standalone : Bool
  realTimeSeconds : Float32
  /-- `IsGraphicsMenuOpen`. -/
  graphicsMenuOpen : Bool

/-- The interaction, as far as it watches the menu. -/
structure Observer where
  nextReadRealTime : Float32 := 0
  lastObservedRealTime : Float32 := 0
  lastRuntimeGuardMapName : Bytes := []
  previous : AdaptiveGraphicsState := .new
  current : AdaptiveGraphicsState := .new
  menuGraphicsStateInitialized : Bool := false
  graphicsMenuWasOpen : Bool := false

namespace Observer

/-- `ResetMenuGraphicsObservation`. -/
def resetMenuGraphicsObservation (o : Observer) : Observer :=
  { o with menuGraphicsStateInitialized := false, graphicsMenuWasOpen := false }

/-- `ObserveMenuGraphicsAndRebase`, with one snapshot. -/
def observeMenuGraphicsAndRebase (o : Observer) (s : Session) : Observer × Session :=
  let current := copyOwnedSettings o.current s.live
  ({ o with previous := current, current := o.previous, menuGraphicsStateInitialized := true },
    if o.menuGraphicsStateInitialized && ownedSettingsDiffer o.previous current then
      { s with snapshot := (rebaseOriginalFromMenuChange s.snapshot o.previous current).2 }
    else s)

/-- The clock or the map says that another map has been loaded. -/
def restarts (w : GameWorld) (o : Observer) : Bool :=
  decide (w.realTimeSeconds < o.lastObservedRealTime) ||
    (decide (o.lastRuntimeGuardMapName ≠ []) && !sameText w.mapName o.lastRuntimeGuardMapName)

/-- `Tick` up to its first return. -/
def started (w : GameWorld) (o : Observer) : Observer :=
  let o := if restarts w o then { o.resetMenuGraphicsObservation with nextReadRealTime := 0 } else o
  let o := { o with lastObservedRealTime := w.realTimeSeconds, lastRuntimeGuardMapName := w.mapName }
  if w.graphicsMenuOpen != o.graphicsMenuWasOpen then { o with nextReadRealTime := 0 } else o

/-- Nothing is to be watched. -/
def idles (w : GameWorld) (o : Observer) : Bool :=
  !w.standalone && !w.graphicsMenuOpen && !(o.started w).graphicsMenuWasOpen

/-- It is not yet time to read. -/
def waits (w : GameWorld) (o : Observer) : Bool :=
  decide (w.realTimeSeconds < (o.started w).nextReadRealTime)

/-- There is a menu to be watched. -/
def watches (w : GameWorld) (o : Observer) : Bool :=
  sameText w.mapName (ascii "KFMainMenu") || w.graphicsMenuOpen || (o.started w).graphicsMenuWasOpen

/-- `Tick`. -/
def tick (w : GameWorld) (o : Observer) (s : Session) : Observer × Session :=
  if o.idles w then ((o.started w).resetMenuGraphicsObservation, s)
  else if o.waits w then (o.started w, s)
  else
    let next := { o.started w with nextReadRealTime := w.realTimeSeconds + 0.5 }
    let (o, s) := if o.watches w then next.observeMenuGraphicsAndRebase s
      else (next.resetMenuGraphicsObservation, s)
    ({ o with graphicsMenuWasOpen := w.graphicsMenuOpen }, s)

/-- This tick observes. -/
def looks (w : GameWorld) (o : Observer) : Bool := !o.idles w && !o.waits w && o.watches w

/-- This tick gives up the observation that is held. -/
def forgets (w : GameWorld) (o : Observer) : Bool :=
  o.restarts w || o.idles w || (!o.waits w && !o.watches w)

theorem started_previous (w : GameWorld) (o : Observer) : (o.started w).previous = o.previous := by
  unfold started
  simp only
  split <;> split <;> rfl

theorem started_initialized (w : GameWorld) (o : Observer) :
    (o.started w).menuGraphicsStateInitialized =
      (!o.restarts w && o.menuGraphicsStateInitialized) := by
  unfold started
  cases hrestarts : o.restarts w <;> simp only [Bool.false_eq_true, if_false, if_true] <;>
    split <;> rfl

end Observer

/-! ## 3. The system -/

/-- Choices of the user, field by field. -/
abbrev Choice := (f : Σ k, GFXField k) → Option f.1.Value

/-- KF2, the actuator's session and the observer, and what the user wants. -/
structure MenuSystem where
  world : GameWorld
  session : Session
  observer : Observer := {}
  /-- The user's last choice of every field. -/
  user : GFXSettings
  /-- The same when the settings were captured or observed last. -/
  chosen : GFXSettings

inductive MenuEvent
  /-- Time passes, a map is loaded, a menu is opened or closed. -/
  | world (w : GameWorld)
  | tick
  /-- The user applies these fields in the graphics menu. -/
  | edit (choice : Choice)
  /-- An Adaptive command reaches `ApplyResource`. -/
  | command (resource : Bytes) (quality : ℤ)

/-- The settings with the user's choices. -/
def Choice.over (choice : Choice) (settings : GFXSettings) : GFXSettings :=
  fun f => (choice f).getD (settings f)

namespace MenuSystem

def step (m : MenuSystem) : MenuEvent → MenuSystem
  | .world w => { m with world := w }
  | .tick =>
    let (observer, session) := m.observer.tick m.world m.session
    { m with observer, session, chosen := if m.observer.looks m.world then m.user else m.chosen }
  | .edit choice =>
    if m.world.graphicsMenuOpen then
      { m with
        session := { m.session with
          engine := { m.session.engine with settings := choice.over m.session.live } }
        user := choice.over m.user }
    else m
  | .command resource quality =>
    { m with
      session := (applyResource resource quality m.session).2
      chosen := if m.session.snapshot.originalCaptured then m.chosen else m.user }

/-- What the snapshot holds is what the user had chosen when it was captured, or last observed. -/
def Baseline (m : MenuSystem) : Prop :=
  m.session.snapshot.originalCaptured = true → m.session.snapshot.userSettings = m.chosen

/-- A command that writes what is live already. -/
def Quiet (s : Session) (resource : Bytes) (quality : ℤ) : Prop :=
  composition s.captured s.live = s.live ∧
    ∀ snapshot, withResource s.captured resource quality = some snapshot →
      composition snapshot s.live = s.live

/-- The observer sees what the user does, and nothing else: every choice changes a field from what
it was when it was last observed, or repeats the baseline; no command changes the settings while an
observation is held; and an observation is not given up between a choice and the next one. -/
def Watched (m : MenuSystem) : MenuEvent → Prop
  | .world _ => True
  | .tick => m.session.snapshot.originalCaptured = true →
    (m.observer.forgets m.world = true → m.user = m.session.snapshot.userSettings) ∧
      (m.observer.looks m.world = true →
        ∀ f : Σ k, GFXField k, f.1.same (m.session.live f) (m.session.live f) = true)
  | .edit choice => m.session.snapshot.originalCaptured = true → m.world.graphicsMenuOpen = true →
    ∀ f v, choice f = some v → v = m.session.snapshot.userSettings f ∨
      m.observer.menuGraphicsStateInitialized = true ∧
        f.1.same (m.observer.previous.userSettings f) v = false
  | .command resource quality =>
    m.observer.menuGraphicsStateInitialized = true → Quiet m.session resource quality

@[simp] theorem step_world_session (m : MenuSystem) (w : GameWorld) :
    (m.step (.world w)).session = m.session := rfl

@[simp] theorem step_command_session (m : MenuSystem) (resource : Bytes) (quality : ℤ) :
    (m.step (.command resource quality)).session = (applyResource resource quality m.session).2 :=
  rfl

theorem step_edit_live {m : MenuSystem} (h : m.world.graphicsMenuOpen = true) (choice : Choice) :
    (m.step (.edit choice)).session.live = choice.over m.session.live := by
  simp [MenuSystem.step, h, Session.live]

/-- A tick writes no setting. -/
@[simp] theorem step_tick_live (m : MenuSystem) :
    (m.step .tick).session.live = m.session.live := by
  simp only [MenuSystem.step, Observer.tick, Observer.observeMenuGraphicsAndRebase]
  split
  · rfl
  · split
    · rfl
    · split
      · simp only
        split <;> rfl
      · rfl

/-- What a tick that observes has seen. -/
theorem step_tick_previous {m : MenuSystem} (h : m.observer.looks m.world = true) :
    (m.step .tick).observer.previous.userSettings = m.session.live := by
  simp only [Observer.looks, Bool.and_eq_true, Bool.not_eq_true'] at h
  simp only [MenuSystem.step, Observer.tick, h.1.1, h.1.2, h.2, Bool.false_eq_true, if_false,
    if_true, Observer.observeMenuGraphicsAndRebase]
  exact userSettings_copyOwnedSettings _ _

/-! ## 4. What a step keeps -/

/-- Without a capture the live settings are the user's.  With one, a field the observer has not seen
change is as the user chose it, and one that has changed was changed by the user. -/
structure Inv (m : MenuSystem) : Prop where
  free : m.session.snapshot.originalCaptured = false → m.session.live = m.user
  baseline : m.Baseline
  unseen : m.session.snapshot.originalCaptured = true →
    m.observer.menuGraphicsStateInitialized = false → m.user = m.chosen
  seen : m.session.snapshot.originalCaptured = true →
    m.observer.menuGraphicsStateInitialized = true → ∀ f,
      m.session.live f = m.observer.previous.userSettings f ∧ m.user f = m.chosen f ∨
      m.session.live f = m.user f ∧
        (f.1.same (m.observer.previous.userSettings f) (m.user f) = false ∨ m.user f = m.chosen f)

/-- A step that leaves the session, the observation and the user's choices alone. -/
theorem Inv.congr {m m' : MenuSystem} (h : Inv m) (hsession : m'.session = m.session)
    (hinit : m'.observer.menuGraphicsStateInitialized = m.observer.menuGraphicsStateInitialized)
    (hprevious : m'.observer.previous = m.observer.previous) (huser : m'.user = m.user)
    (hchosen : m'.chosen = m.chosen) : Inv m' := by
  constructor
  · rw [hsession, huser]
    exact h.free
  · unfold Baseline
    rw [hsession, hchosen]
    exact h.baseline
  · rw [hsession, hinit, huser, hchosen]
    exact h.unseen
  · rw [hsession, hinit, hprevious, huser, hchosen]
    exact h.seen

/-- A step that gives up the observation when the user has made no choice since. -/
theorem Inv.forget {m m' : MenuSystem} (h : Inv m) (hsession : m'.session = m.session)
    (hinit : m'.observer.menuGraphicsStateInitialized = false) (huser : m'.user = m.user)
    (hchosen : m'.chosen = m.chosen)
    (hcaught : m.session.snapshot.originalCaptured = true →
      m.user = m.session.snapshot.userSettings) : Inv m' := by
  constructor
  · rw [hsession, huser]
    exact h.free
  · unfold Baseline
    rw [hsession, hchosen]
    exact h.baseline
  · rw [hsession, huser, hchosen]
    exact fun hcap _ => (hcaught hcap).trans (h.baseline hcap)
  · rw [hinit]
    exact fun _ hfalse => absurd hfalse (by decide)

/-- What an observation finds in a field of a captured snapshot. -/
theorem Inv.observed_field {m : MenuSystem} (h : Inv m)
    (hcap : m.session.snapshot.originalCaptured = true)
    (hinit : m.observer.menuGraphicsStateInitialized = true) (f : Σ k, GFXField k)
    (hsame : f.1.same (m.session.live f) (m.session.live f) = true) :
    (if f.1.same (m.observer.previous.userSettings f) (m.session.live f)
      then m.session.snapshot.userSettings f else m.session.live f) = m.user f := by
  rw [h.baseline hcap]
  obtain ⟨hlive, huser⟩ | ⟨hlive, hchange⟩ := h.seen hcap hinit f
  · rw [hlive] at hsame
    rw [hlive, if_pos hsame, huser]
  · rw [hlive]
    split
    · rename_i hequal
      obtain hdiffer | hchosen := hchange
      · rw [hequal] at hdiffer
        cases hdiffer
      · exact hchosen.symm
    · rfl

/-- An observation takes the user's choices into the snapshot. -/
theorem Inv.observe {m : MenuSystem} (h : Inv m) (o : Observer)
    (hprevious : o.previous = m.observer.previous)
    (hinit : o.menuGraphicsStateInitialized = m.observer.menuGraphicsStateInitialized ∨
      o.menuGraphicsStateInitialized = false ∧ (m.session.snapshot.originalCaptured = true →
        m.user = m.session.snapshot.userSettings))
    (hsame : m.session.snapshot.originalCaptured = true →
      ∀ f : Σ k, GFXField k, f.1.same (m.session.live f) (m.session.live f) = true) (open' : Bool) :
    Inv { m with
      observer := { (o.observeMenuGraphicsAndRebase m.session).1 with graphicsMenuWasOpen := open' }
      session := (o.observeMenuGraphicsAndRebase m.session).2
      chosen := m.user } := by
  have hlive : (o.observeMenuGraphicsAndRebase m.session).2.live = m.session.live := by
    simp only [Observer.observeMenuGraphicsAndRebase]
    split <;> rfl
  have hcaptured : (o.observeMenuGraphicsAndRebase m.session).2.snapshot.originalCaptured =
      m.session.snapshot.originalCaptured := by
    simp only [Observer.observeMenuGraphicsAndRebase]
    split
    · exact rebase_originalCaptured _ _ _
    · rfl
  have hseen : (o.observeMenuGraphicsAndRebase m.session).1.previous.userSettings =
      m.session.live := userSettings_copyOwnedSettings _ _
  have hsettings : m.session.snapshot.originalCaptured = true →
      (o.observeMenuGraphicsAndRebase m.session).2.snapshot.userSettings = m.user := by
    intro hcap
    obtain hinit | ⟨hnew, hcaught⟩ := hinit
    · by_cases hheld : m.observer.menuGraphicsStateInitialized = true
      · funext f
        rw [← h.observed_field hcap hheld f (hsame hcap f)]
        simp only [Observer.observeMenuGraphicsAndRebase, hinit, hheld, Bool.true_and, hprevious]
        split
        · rw [userSettings_rebase hcap, userSettings_copyOwnedSettings]
        · rename_i hdiffer
          have hrebase := userSettings_rebase hcap m.observer.previous
            (copyOwnedSettings o.current m.session.live) f
          rw [userSettings_copyOwnedSettings] at hrebase
          rw [← hrebase]
          unfold rebaseOriginalFromMenuChange
          simp [hdiffer]
      · have hheld := Bool.eq_false_iff.mpr hheld
        simp only [Observer.observeMenuGraphicsAndRebase, hinit, hheld, Bool.false_and,
          Bool.false_eq_true, if_false]
        exact (h.baseline hcap).trans (h.unseen hcap hheld).symm
    · simp only [Observer.observeMenuGraphicsAndRebase, hnew, Bool.false_and, Bool.false_eq_true,
        if_false]
      exact (hcaught hcap).symm
  constructor
  · intro hfree
    rw [hcaptured] at hfree
    exact hlive.trans (h.free hfree)
  · intro hcap
    rw [hcaptured] at hcap
    exact hsettings hcap
  · exact fun _ _ => rfl
  · intro _ _ f
    refine .inl ⟨?_, rfl⟩
    rw [hlive]
    exact (congrFun hseen f).symm

/-- `Tick` keeps the baseline. -/
theorem Inv.tick {m : MenuSystem} (h : Inv m) (hwatched : Watched m .tick) : Inv (m.step .tick) := by
  obtain ⟨hcaught, hsame⟩ : (m.session.snapshot.originalCaptured = true →
      m.observer.forgets m.world = true → m.user = m.session.snapshot.userSettings) ∧
      (m.session.snapshot.originalCaptured = true → m.observer.looks m.world = true →
        ∀ f : Σ k, GFXField k, f.1.same (m.session.live f) (m.session.live f) = true) :=
    ⟨fun hcap => (hwatched hcap).1, fun hcap => (hwatched hcap).2⟩
  have hprevious := m.observer.started_previous m.world
  have hinit := m.observer.started_initialized m.world
  unfold MenuSystem.step Observer.tick
  by_cases hidles : m.observer.idles m.world = true
  · have hlooks : m.observer.looks m.world = false := by simp [Observer.looks, hidles]
    simp only [hidles, if_true, hlooks, Bool.false_eq_true, if_false]
    exact h.forget rfl rfl rfl rfl fun hcap => hcaught hcap (by simp [Observer.forgets, hidles])
  · simp only [hidles]
    by_cases hwaits : m.observer.waits m.world = true
    · have hlooks : m.observer.looks m.world = false := by simp [Observer.looks, hwaits]
      simp only [hwaits, if_true, hlooks, Bool.false_eq_true, if_false]
      cases hrestarts : m.observer.restarts m.world with
      | false => exact h.congr rfl (by simpa [hrestarts] using hinit) hprevious rfl rfl
      | true =>
        exact h.forget rfl (by simpa [hrestarts] using hinit) rfl rfl fun hcap =>
          hcaught hcap (by simp [Observer.forgets, hrestarts])
    · simp only [hwaits]
      by_cases hwatches : m.observer.watches m.world = true
      · have hlooks : m.observer.looks m.world = true := by
          simp [Observer.looks, hidles, hwaits, hwatches]
        simp only [hwatches, if_true, hlooks]
        refine h.observe { m.observer.started m.world with
          nextReadRealTime := m.world.realTimeSeconds + 0.5 } hprevious ?_
          (fun hcap => hsame hcap hlooks) m.world.graphicsMenuOpen
        cases hrestarts : m.observer.restarts m.world with
        | false => exact .inl (by simpa [hrestarts] using hinit)
        | true =>
          exact .inr ⟨by simpa [hrestarts] using hinit, fun hcap =>
            hcaught hcap (by simp [Observer.forgets, hrestarts])⟩
      · have hlooks : m.observer.looks m.world = false := by simp [Observer.looks, hwatches]
        simp only [hwatches, if_false, hlooks, Bool.false_eq_true]
        exact h.forget rfl rfl rfl rfl fun hcap =>
          hcaught hcap (by simp [Observer.forgets, hwaits, hwatches])

/-- A choice in the menu. -/
theorem Inv.edit {m : MenuSystem} (h : Inv m) (choice : Choice)
    (hwatched : Watched m (.edit choice)) : Inv (m.step (.edit choice)) := by
  unfold MenuSystem.step
  simp only
  split
  · rename_i hopen
    constructor
    · intro hfree
      have hlive : m.session.live = m.user := h.free hfree
      exact congrArg choice.over hlive
    · exact h.baseline
    · intro hcap hinit
      refine (funext fun f => ?_ : choice.over m.user = m.user).trans (h.unseen hcap hinit)
      unfold Choice.over
      cases hf : choice f with
      | none => rfl
      | some v =>
        obtain hv | ⟨hheld, -⟩ := hwatched hcap hopen f v hf
        · rw [Option.getD_some, hv, h.baseline hcap, h.unseen hcap hinit]
        · exact absurd (hinit.symm.trans hheld) (by decide)
    · intro hcap hinit f
      change choice.over m.session.live f = _ ∧ choice.over m.user f = _ ∨
        choice.over m.session.live f = choice.over m.user f ∧
          (f.1.same _ (choice.over m.user f) = false ∨ choice.over m.user f = _)
      unfold Choice.over
      cases hf : choice f with
      | none => exact h.seen hcap hinit f
      | some v =>
        refine .inr ⟨rfl, ?_⟩
        obtain hv | ⟨-, hchange⟩ := hwatched hcap hopen f v hf
        · exact .inr (hv.trans (congrFun (h.baseline hcap) f))
        · exact .inl hchange
  · exact h

/-- A capture holds what a restore would have given back before the command. -/
theorem applyResource_captured (resource : Bytes) (quality : ℤ) (s : Session) :
    applyResource resource quality s = (false, s) ∨
      (applyResource resource quality s).2.snapshot.originalCaptured = true ∧
        (applyResource resource quality s).2.snapshot.userSettings = s.base := by
  have hcap := s.captured_originalCaptured
  have hbase := s.captured_userSettings
  obtain ⟨-, heq⟩ | ⟨-, heq⟩ | ⟨snapshot, engine, rolled, -, hwith, -, -, hrest⟩ :=
    applyResource_cases resource quality s
  · exact .inl heq
  · exact .inr (by rw [heq]; exact ⟨hcap, hbase⟩)
  · obtain ⟨q, d, e, rfl⟩ := withResource_frame hwith
    obtain ⟨-, heq⟩ | ⟨-, heq⟩ | heq := hrest
    · exact .inr (by rw [heq]; exact ⟨hcap, hbase⟩)
    · exact .inr (by rw [heq]; exact ⟨hcap, hbase⟩)
    · exact .inr (by rw [heq]; exact ⟨hcap, hbase⟩)

theorem write_self {engine : Engine} {requested : GFXSettings}
    (h : requested = engine.settings) : (engine.write requested).settings = engine.settings := by
  funext f
  obtain hf | hf := engine.write_settings requested f
  · rw [hf, h]
  · exact hf

/-- A quiet command changes no setting, whatever the engine stores of it. -/
theorem Quiet.live {s : Session} {resource : Bytes} {quality : ℤ} (h : Quiet s resource quality) :
    (applyResource resource quality s).2.live = s.live := by
  obtain ⟨-, heq⟩ | ⟨-, heq⟩ | ⟨snapshot, engine, rolled, -, hwith, hengine, hrolled, hrest⟩ :=
    applyResource_cases resource quality s
  · rw [heq]
  · rw [heq]
  · have hfirst : engine.settings = s.live := by
      rw [hengine]
      exact write_self (h.2 snapshot hwith)
    have hsecond : rolled.settings = s.live := by
      rw [hrolled, ← hfirst]
      refine write_self ?_
      rw [hfirst]
      exact h.1
    obtain ⟨-, heq⟩ | ⟨-, heq⟩ | heq := hrest
    · rw [heq]
      exact hfirst
    · rw [heq]
      exact hsecond
    · rw [heq]
      exact hsecond

/-- A command that is quiet, or that meets no observation. -/
theorem Inv.command {m : MenuSystem} (h : Inv m) (resource : Bytes) (quality : ℤ)
    (hwatched : Watched m (.command resource quality)) :
    Inv (m.step (.command resource quality)) := by
  have hchosen : m.session.snapshot.originalCaptured = false →
      (m.step (.command resource quality)).chosen = m.user := fun hfree => by
    simp [MenuSystem.step, hfree]
  have hkept : m.session.snapshot.originalCaptured = true →
      (m.step (.command resource quality)).chosen = m.chosen := fun hcap => by
    simp [MenuSystem.step, hcap]
  constructor
  · intro hfree
    obtain heq | ⟨hcap, -⟩ := applyResource_captured resource quality m.session
    · change (applyResource resource quality m.session).2.live = m.user
      change (applyResource resource quality m.session).2.snapshot.originalCaptured = false at hfree
      rw [heq] at hfree ⊢
      exact h.free hfree
    · exact absurd (hcap.symm.trans hfree) (by decide)
  · intro hcap
    change (applyResource resource quality m.session).2.snapshot.userSettings = _
    change (applyResource resource quality m.session).2.snapshot.originalCaptured = true at hcap
    obtain heq | ⟨-, hsettings⟩ := applyResource_captured resource quality m.session
    · rw [heq] at hcap ⊢
      exact (h.baseline hcap).trans (hkept hcap).symm
    · rw [hsettings]
      unfold Session.base
      split
      · rename_i hbefore
        exact (h.baseline hbefore).trans (hkept hbefore).symm
      · rename_i hbefore
        have hfree := Bool.eq_false_iff.mpr hbefore
        exact (h.free hfree).trans (hchosen hfree).symm
  · intro _ hinit
    cases hbefore : m.session.snapshot.originalCaptured with
    | true => exact (h.unseen hbefore hinit).trans (hkept hbefore).symm
    | false => exact (hchosen hbefore).symm
  · intro _ hinit f
    have hlive : (m.step (.command resource quality)).session.live = m.session.live :=
      (hwatched hinit).live
    rw [hlive]
    cases hbefore : m.session.snapshot.originalCaptured with
    | true =>
      rw [hkept hbefore]
      exact h.seen hbefore hinit f
    | false =>
      rw [hchosen hbefore]
      exact .inr ⟨congrFun (h.free hbefore) f, .inr rfl⟩

theorem Inv.step {m : MenuSystem} (h : Inv m) (e : MenuEvent) (hwatched : Watched m e) :
    Inv (m.step e) := by
  cases e with
  | world w => exact h.congr rfl rfl rfl rfl rfl
  | tick => exact h.tick hwatched
  | edit choice => exact h.edit choice hwatched
  | command resource quality => exact h.command resource quality hwatched

/-! ## 5. Runs -/

/-- A system that nothing has been captured in. -/
def start (world : GameWorld) (engine : Engine) : MenuSystem :=
  { world, session := ⟨.new, engine⟩, user := engine.settings, chosen := engine.settings }

theorem Inv.start (world : GameWorld) (engine : Engine) : Inv (start world engine) where
  free := fun _ => rfl
  baseline := fun hcap => by cases hcap
  unseen := fun hcap => by cases hcap
  seen := fun hcap => by cases hcap

/-- **The baseline is the user's choice.**  In every run that the observer can watch, a snapshot
that is captured holds what the user had chosen when the settings were captured or last observed;
and an observation takes in the choice made last. -/
theorem baseline_is_user_choice (world : GameWorld) (engine : Engine) (es : List MenuEvent)
    (hwatched : Along MenuSystem.step Watched (start world engine) es) :
    Baseline (exec MenuSystem.step (start world engine) es) ∧
      ∀ rest, es = rest ++ [.tick] →
        (exec MenuSystem.step (start world engine) rest).observer.looks
          (exec MenuSystem.step (start world engine) rest).world = true →
        (exec MenuSystem.step (start world engine) es).chosen =
          (exec MenuSystem.step (start world engine) es).user := by
  constructor
  · exact (exec_invariant_along (I := Inv) (fun _ e h hw => h.step e hw) es _
      (Inv.start world engine) hwatched).baseline
  · rintro rest rfl hlooks
    rw [exec_snoc]
    simp only [MenuSystem.step, hlooks, if_true]

/-! ## 6. A command between two observations -/

/-- An engine with the highest settings that stores what it is told. -/
def obedientEngine : Engine where
  settings := forgetfulEngine.settings
  stored _ _ := true

/-- A solo game of one second. -/
def soloWorld (seconds : Float32) (menu : Bool) : GameWorld :=
  { mapName := ascii "KF-Biotics", standalone := true, realTimeSeconds := seconds,
    graphicsMenuOpen := menu }

/-- A first command; the menu is opened and observed; a second command; and an observation. -/
def commandInMenu : List MenuEvent :=
  [.command (ascii "gpu") 90, .world (soloWorld 1 true), .tick, .command (ascii "gpu") 50,
    .world (soloWorld 2 true), .tick]

/-- A first command; the menu is opened and observed; a choice; the menu is closed and observed. -/
def choiceInMenu : List MenuEvent :=
  [.command (ascii "gpu") 100, .world (soloWorld 1 true), .tick,
    .edit fun f => if h : f = ⟨.int, .maxAnisotropy⟩ then some (h ▸ (16 : ℤ)) else none,
    .world (soloWorld 2 false), .tick]

theorem same_self {settings : GFXSettings}
    (h : ∀ f : GFXField .float, Kind.same .float (settings ⟨.float, f⟩) (settings ⟨.float, f⟩) = true) :
    ∀ f : Σ k, GFXField k, f.1.same (settings f) (settings f) = true
  | ⟨.int, _⟩ => decide_eq_true rfl
  | ⟨.float, f⟩ => h f
  | ⟨.bool, _⟩ => beq_self_eq_true _

/-- A first command that lowers nothing. -/
theorem live_command_full (world : GameWorld) (engine : Engine) :
    (applyResource (ascii "gpu") 100 (start world engine).session).2.live = engine.settings := by
  have hfull : ∀ s : AdaptiveGraphicsState, s.quality = .full → s.fixedOverdrawQuality = 100 →
      s.fixedEffectsQuality = 100 → s.userSettings = engine.settings →
      composition s engine.settings = engine.settings := by
    intro s hq hd he hs
    simp [composition, restoreOwnedSettings_eq, hs, hq, hd, he, Qualities.full, applyGpu, applyCpu,
      applyVram, applyRam, applyOverdraw, applyEffects, effectiveOverdrawQuality,
      effectiveEffectsQuality]
  refine Quiet.live ⟨hfull _ rfl rfl rfl (userSettings_captureOriginal _ _), fun s hs => ?_⟩
  unfold withResource at hs
  rw [if_neg (by decide +kernel), if_pos (by decide +kernel)] at hs
  cases hs
  refine hfull _ rfl rfl rfl ?_
  exact (userSettings_congr rfl).trans (userSettings_captureOriginal .new engine.settings)

theorem watched_choiceInMenu :
    Along MenuSystem.step Watched (start (soloWorld 0 false) obedientEngine) choiceInMenu := by
  have hlive := live_command_full (soloWorld 0 false) obedientEngine
  refine ⟨?_, trivial, ?_, ?_, trivial, ?_, trivial⟩
  · intro hinit
    cases hinit
  · intro _
    refine ⟨fun hforgets => absurd hforgets (by decide +kernel), fun _ => ?_⟩
    rw [step_world_session, step_command_session]
    exact same_self fun f => by rw [hlive]; cases f <;> decide +kernel
  · intro _ _ f v hv
    simp only at hv
    split at hv
    · rename_i heq
      subst heq
      cases hv
      refine .inr ⟨by decide +kernel, ?_⟩
      rw [step_tick_previous (by decide +kernel), step_world_session, step_command_session]
      rw [hlive]
      decide +kernel
    · cases hv
  · intro _
    refine ⟨fun hforgets => absurd hforgets (by decide +kernel), fun _ => same_self fun f => ?_⟩
    rw [step_world_session, step_edit_live (by decide +kernel), step_tick_live, step_world_session,
      step_command_session, hlive]
    cases f <;> decide +kernel

theorem baseline_is_user_choice_in_menu :
    (exec MenuSystem.step (start (soloWorld 0 false) obedientEngine)
        choiceInMenu).session.snapshot.originalCaptured = true ∧
      Baseline (exec MenuSystem.step (start (soloWorld 0 false) obedientEngine) choiceInMenu) :=
  ⟨by decide +kernel,
    (baseline_is_user_choice (soloWorld 0 false) obedientEngine choiceInMenu
      watched_choiceInMenu).1⟩

/-- **A reduction becomes the baseline.**  The user has chosen nothing in the menu, and the snapshot
holds the shadow resolution of the second command for the user's own. -/
theorem adaptive_reduction_becomes_baseline :
    ¬ ∀ (world : GameWorld) (engine : Engine) (es : List MenuEvent),
      Baseline (exec MenuSystem.step (start world engine) es) := by
  intro h
  have hrun := h (soloWorld 0 false) obedientEngine commandInMenu (by decide +kernel)
  have hfield := congrFun hrun ⟨.int, .maxShadowResolution⟩
  exact absurd hfield (by decide +kernel)

end MenuSystem

end Kf2Optimizer.Graphics
