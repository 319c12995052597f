/-
# Conditional replacement, step by step

`atomic_replace_utf8_if_unchanged` cannot compare and write at once.  It lets the system write the
new bytes in one operation that keeps the old ones, compares those with the expected ones, and
puts them back where they differ.  `atomicReplaceIfUnchanged` is the same as one operation; here
other programs can write between the steps, and the process can stop there.

Whether a file is still the one that was opened before is a question to the system.
-/
import Kf2Optimizer.Platform.AtomicFile

namespace Kf2Optimizer.Platform

open Text Files

variable {P : Type} [DecidableEq P]

/-! ## 1. The steps -/

def identityChanged : Error :=
  { code := .staleData, message := "Atomic target identity changed before replacement" }

/-- `rename_open_file_in_place`: what was captured takes its place again, over whatever is there. -/
def putBack {α : Type} (p : P) (captured : Bytes) (e : Error) : Task P Bytes Error α := do
  match ← perform (.write p captured) with
  | .done => throw e
  | _ => throw { code := .ioFailure, message := "Atomic rollback rename failed" }

/-- `verify_existing_commit`: the captured file and the new one are opened, and are the files that
they should be. -/
def verifyExistingCommit (p : P) (captured : Bytes) : Task P Bytes Error Unit := do
  match ← perform .ask with
  | .done =>
    match ← perform .ask with
    | .done =>
      match ← perform .ask with
      | .done => pure ()
      | _ =>
        -- the new file is still in its place
        match ← perform .ask with
        | .done => putBack p captured identityChanged
        | _ => throw identityChanged
    | _ => putBack p captured { code := .ioFailure, message := "File identity cannot be opened" }
  | _ => throw { code := .ioFailure, message := "File identity cannot be opened" }

/-- What was captured is removed if it is what was expected, and put back otherwise. -/
def settle (p : P) (expected captured : Bytes) : Task P Bytes Error Unit := do
  match ← perform .ask with
  | .done =>
    if captured = expected then
      match ← perform .ask with
      | .done => pure ()
      | _ => putBack p captured { code := .ioFailure, message := "Atomic rollback file cannot be removed" }
    else
      putBack p captured { code := .staleData, message := "Configuration changed before atomic replacement" }
  | _ => putBack p captured { code := .accessDenied, message := "Atomic rollback file identity is unsafe" }

/-- `atomic_replace_utf8_if_unchanged`. -/
def replaceIfUnchanged (p : P) (expected bytes : Bytes) : Task P Bytes Error Unit := do
  match ← perform (.read p) with
  | .content _ =>
    -- the directory is locked, the file is the same, and the new bytes are written beside it
    match ← perform .ask with
    | .done =>
      match ← perform (.exchange p bytes) with
      | .content captured =>
        verifyExistingCommit p captured
        settle p expected captured
      | _ => throw { code := .ioFailure, message := "Conditional atomic replacement failed" }
    | _ => throw { code := .staleData, message := "Conditional atomic target identity changed" }
  | .missing => throw { code := .notFound, message := "File identity cannot be opened", nativeCode := fileNotFound }
  | _ => throw { code := .ioFailure, message := "File identity cannot be opened" }

/-! ## 2. What they do -/

/-- Nothing fails and nothing stops. -/
def Faultless (A : Turn P Bytes → Prop) : Prop := ∀ turn, A turn → turn.fate = .ok

section

variable {A : Turn P Bytes → Prop} {I : World P Bytes → Prop} {M : Bytes → World P Bytes → Prop}
  {C : World P Bytes → Prop} {w : World P Bytes} {p : P} {expected bytes captured : Bytes}
  {good : Unit → World P Bytes → Prop} {bad : Error → World P Bytes → Prop}

/-- What was captured is put back, unless that fails. -/
theorem wpTask_putBack {α : Type} {good : α → World P Bytes → Prop} {e : Error}
    (hstable : ∀ c turn v, A turn → M c v → M c (v.intrude turn.others))
    (hbad : ¬ Faultless A → ∀ c e v, M c v → bad e v)
    (hback : ∀ c e v, M c v → bad e (v.own p (some c)))
    (hC : ¬ Faultless A → ∀ c v, M c v → C v) (hM : M captured w) :
    wpTask A (putBack p captured e : Task P Bytes Error α) good bad C w := by
  rw [putBack, wpTask_bind, wpTask_perform]
  intro turn hturn
  have hv := hstable captured turn w hturn hM
  cases hfate : turn.fate with
  | ok => exact hback captured _ _ hv
  | fail => exact hbad (fun h => by rw [h turn hturn] at hfate; cases hfate) captured _ _ hv
  | late => exact hback captured _ _ hv
  | crash => exact hC (fun h => by rw [h turn hturn] at hfate; cases hfate) captured _ hv

/-- A question to the system in the middle of a replacement. -/
theorem wpTask_ask_bind {α : Type} {f : Answer P Bytes → Task P Bytes Error α}
    {good : α → World P Bytes → Prop}
    (hstable : ∀ c turn v, A turn → M c v → M c (v.intrude turn.others))
    (hC : ¬ Faultless A → ∀ c v, M c v → C v) (hM : M captured w)
    (hdone : ∀ v, M captured v → wpTask A (f .done) good bad C v)
    (hfailed : ¬ Faultless A → ∀ v, M captured v → wpTask A (f .failed) good bad C v) :
    wpTask A (perform .ask >>= f) good bad C w := by
  rw [wpTask_bind, wpTask_perform]
  intro turn hturn
  have hv := hstable captured turn w hturn hM
  have hfault : turn.fate ≠ .ok → ¬ Faultless A := fun hne h => hne (h turn hturn)
  cases hfate : turn.fate with
  | ok => exact hdone _ hv
  | fail => exact hfailed (hfault (by rw [hfate]; decide)) _ hv
  | late => exact hfailed (hfault (by rw [hfate]; decide)) _ hv
  | crash => exact hC (hfault (by rw [hfate]; decide)) captured _ hv

/-- **A conditional replacement**: `I` holds before the new bytes are there and `M c` while they
are there and `c` was captured. -/
theorem wpTask_replaceIfUnchanged
    (hstable : ∀ turn v, A turn → I v → I (v.intrude turn.others))
    (hstableM : ∀ c turn v, A turn → M c v → M c (v.intrude turn.others))
    (hexchange : ∀ c v, I v → v.disk p = some c → M c (v.own p (some bytes)))
    (hok : ∀ v, M expected v → good () v) (hbad : ∀ e v, I v → bad e v)
    (hbadM : ¬ Faultless A → ∀ c e v, M c v → bad e v)
    (hback : ∀ c e v, M c v → bad e (v.own p (some c))) (hC : ∀ v, I v → C v)
    (hCM : ¬ Faultless A → ∀ c v, M c v → C v) (hI : I w) :
    wpTask A (replaceIfUnchanged p expected bytes) good bad C w := by
  have hputBack : ∀ {α : Type} {good : α → World P Bytes → Prop} {c : Bytes} {e : Error}
      {v : World P Bytes}, M c v → wpTask A (putBack p c e : Task P Bytes Error α) good bad C v :=
    fun hM => wpTask_putBack hstableM hbadM hback hCM hM
  have hsettle : ∀ c v, M c v → wpTask A (settle p expected c) good bad C v := by
    intro c v hv
    refine wpTask_ask_bind hstableM hCM hv (fun v hv => ?_) fun _ v hv => hputBack hv
    by_cases hsame : c = expected
    · simp only [if_pos hsame]
      refine wpTask_ask_bind hstableM hCM hv (fun v hv => ?_) fun _ v hv => hputBack hv
      exact hok v (hsame ▸ hv)
    · simp only [if_neg hsame]
      exact hputBack hv
  have hverify : ∀ c v, M c v → wpTask A (verifyExistingCommit p c) (fun _ => M c) bad C v := by
    intro c v hv
    refine wpTask_ask_bind hstableM hCM hv (fun v hv => ?_) fun hf v hv => hbadM hf c _ v hv
    refine wpTask_ask_bind hstableM hCM hv (fun v hv => ?_) fun _ v hv => hputBack hv
    refine wpTask_ask_bind hstableM hCM hv (fun v hv => hv) fun _ v hv => ?_
    exact wpTask_ask_bind hstableM hCM hv (fun v hv => hputBack hv) fun hf v hv => hbadM hf c _ v hv
  -- the operation that writes
  have hexchanged : ∀ v, I v → wpTask A (perform (.exchange p bytes) >>= fun answer =>
      match answer with
      | .content captured => do
        verifyExistingCommit p captured
        settle p expected captured
      | _ => throw { code := .ioFailure, message := "Conditional atomic replacement failed" })
      good bad C v := by
    intro v hv
    rw [wpTask_bind, wpTask_perform]
    intro turn hturn
    have hu := hstable turn v hturn hv
    generalize v.intrude turn.others = u at hu
    cases hdisk : u.disk p with
    | none =>
      rw [World.act_exchange_missing u bytes hdisk]
      simp only [Op.answer, hdisk]
      cases turn.fate
      exacts [hbad _ _ hu, hbad _ _ hu, hbad _ _ hu, hC _ hu]
    | some c =>
      have hM := hexchange c u hu hdisk
      rw [World.act_exchange u bytes (by rw [hdisk]; exact Option.some_ne_none c)]
      simp only [Op.answer, hdisk]
      cases hfate : turn.fate with
      | ok =>
        exact wpTask_bind.mpr (wpTask_mono (hverify c _ hM) (fun _ v hv => hsettle c v hv)
          (fun _ _ h => h) fun _ h => h)
      | fail => exact hbad _ _ hu
      | late => exact hbadM (fun h => by rw [h turn hturn] at hfate; cases hfate) c _ _ hM
      | crash => exact hC _ hu
  rw [replaceIfUnchanged, wpTask_bind, wpTask_perform]
  intro turn hturn
  have hv := hstable turn w hturn hI
  cases turn.fate with
  | fail => exact hbad _ _ hv
  | late => exact hbad _ _ hv
  | crash => exact hC _ hv
  | ok =>
    simp only [Op.answer, World.act_read]
    cases (w.intrude turn.others).disk p with
    | none => exact hbad _ _ hv
    | some found =>
      simp only
      rw [wpTask_bind, wpTask_perform]
      intro turn hturn
      have hu := hstable turn _ hturn hv
      cases turn.fate with
      | ok => exact hexchanged _ hu
      | fail => exact hbad _ _ hu
      | late => exact hbad _ _ hu
      | crash => exact hC _ hu

/-- **Undisturbed**, what is expected is replaced. -/
theorem wpTask_replace_undisturbed (h : w.disk p = some expected)
    (hgood : good () (w.own p (some bytes))) :
    wpTask Undisturbed (replaceIfUnchanged p expected bytes) good bad C w := by
  have hact : w.act (.exchange p bytes) = w.own p (some bytes) :=
    World.act_exchange w bytes (by rw [h]; exact Option.some_ne_none _)
  rw [replaceIfUnchanged, wpTask_bind, wpTask_perform_undisturbed]
  simp only [Op.answer, h, World.act_read]
  rw [wpTask_bind, wpTask_perform_undisturbed]
  simp only [Op.answer, World.act_ask]
  rw [wpTask_bind, wpTask_perform_undisturbed, hact]
  simp only [Op.answer, h, verifyExistingCommit, settle, wpTask_bind, wpTask_perform_undisturbed,
    World.act_ask, if_true]
  exact hgood

end

end Kf2Optimizer.Platform
