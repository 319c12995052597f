/-
# Atomic file operations

`atomic_file.cpp`: bounded reads, replacement, replacement of expected bytes and quarantine, each
as one operation on the files, with what each does.  A file that another program holds open, a link or a directory in
its place, and whatever else the system refuses, is an operation that fails.
-/
import Kf2Optimizer.Core.Result
import Kf2Optimizer.Lib.Files
import Kf2Optimizer.Lib.Text

namespace Kf2Optimizer.Platform

open Text Files

variable {P : Type} [DecidableEq P]

/-! ## 1. The operations -/

/-- `ERROR_FILE_NOT_FOUND`. -/
def fileNotFound : ℕ := 2

/-- `ERROR_FILE_TOO_LARGE`. -/
def fileTooLarge : ℕ := 223

/-- What a bounded read makes of the bytes of a file. -/
def bounded (maximum : ℕ) (bytes : Bytes) : Result Bytes :=
  if bytes.length ≤ maximum then .ok bytes
  else .error { code := .accessDenied, message := "Bounded file exceeds its size limit", nativeCode := fileTooLarge }

/-- `read_bounded_verified_file`. -/
def readBounded (p : P) (maximum : ℕ) : Task P Bytes Error Bytes := do
  match ← perform (.read p) with
  | .content bytes => liftExcept (bounded maximum bytes)
  | .missing => throw { code := .notFound, message := "Bounded file cannot be opened for reading", nativeCode := fileNotFound }
  | _ => throw { code := .ioFailure, message := "Bounded file cannot be read" }

/-- `std::filesystem::exists`. -/
def pathExists (p : P) (e : Error) : Task P Bytes Error Bool := do
  match ← perform (.read p) with
  | .content _ => pure true
  | .missing => pure false
  | _ => throw e

/-- `atomic_replace_utf8`. -/
def atomicReplace (p : P) (bytes : Bytes) : Task P Bytes Error Unit := do
  match ← perform (.write p bytes) with
  | .done => pure ()
  | _ => throw { code := .ioFailure, message := "Atomic file replacement failed" }

/-- `atomic_replace_utf8_if_unchanged`. -/
def atomicReplaceIfUnchanged (p : P) (expected bytes : Bytes) : Task P Bytes Error Unit := do
  match ← perform (.writeIf p expected bytes) with
  | .done => pure ()
  | .missing => throw { code := .notFound, message := "File identity cannot be opened", nativeCode := fileNotFound }
  | .changed => throw { code := .staleData, message := "Configuration changed before atomic replacement" }
  | _ => throw { code := .ioFailure, message := "Conditional atomic replacement failed" }

/-- `quarantine_regular_file`: the file is moved to a name that nothing reads. -/
def quarantineRegularFile (p : P) : Task P Bytes Error Unit := do
  match ← perform (.remove p) with
  | .done => pure ()
  | .missing => throw { code := .notFound, message := "File identity cannot be opened", nativeCode := fileNotFound }
  | _ => throw { code := .ioFailure, message := "File quarantine failed" }

/-! ## 2. What they do -/

theorem careful_readBounded {R : P → Prop} {p : P} (hp : R p) (maximum : ℕ) :
    Careful R (fun _ => True) (readBounded p maximum).run := by
  refine careful_perform hp ⟨_, trivial, rfl⟩ fun answer => ?_
  cases answer with
  | content bytes => exact careful_liftExcept _
  | _ => exact .ret _

theorem bounded_eq_ok {maximum : ℕ} {bytes b : Bytes} :
    bounded maximum bytes = .ok b ↔ bytes.length ≤ maximum ∧ bytes = b := by
  unfold bounded
  by_cases h : bytes.length ≤ maximum
  · simp [h]
  · simp [h]

theorem value_readBounded_of_some {p : P} {maximum : ℕ} {d : Disk P Bytes} {bytes : Bytes}
    (h : d p = some bytes) : value (readBounded p maximum).run d = bounded maximum bytes := by
  unfold readBounded
  rw [value_perform]
  simp only [Op.answer, h, value_liftExcept]

theorem value_readBounded_eq_ok {p : P} {maximum : ℕ} {d : Disk P Bytes} {bytes : Bytes} :
    value (readBounded p maximum).run d = .ok bytes ↔
      d p = some bytes ∧ bytes.length ≤ maximum := by
  unfold readBounded
  rw [value_perform]
  cases h : d p with
  | none => simp [Op.answer, h]
  | some b =>
    simp only [Op.answer, h, value_liftExcept, bounded_eq_ok, Option.some.injEq]
    constructor
    · rintro ⟨hlen, rfl⟩
      exact ⟨rfl, hlen⟩
    · rintro ⟨rfl, hlen⟩
      exact ⟨hlen, rfl⟩

theorem careful_pathExists {R : P → Prop} {p : P} (h : R p) (e : Error) :
    Careful R (fun _ => True) (pathExists p e).run := by
  refine careful_perform h ⟨_, trivial, rfl⟩ fun answer => ?_
  cases answer <;> exact .ret _

theorem value_pathExists_eq_ok {p : P} {e : Error} {found : Bool} {d : Disk P Bytes}
    (h : value (pathExists p e).run d = .ok found) : found = (d p).isSome := by
  rw [pathExists, value_perform] at h
  cases hdisk : d p with
  | none =>
    simp only [Op.answer, hdisk] at h
    cases h
    rfl
  | some bytes =>
    simp only [Op.answer, hdisk] at h
    cases h
    rfl

section

variable {A : Turn P Bytes → Prop} {I C : World P Bytes → Prop} {w : World P Bytes} {p : P}
  (hstable : ∀ turn v, A turn → I v → I (v.intrude turn.others)) (hC : ∀ v, I v → C v) (hI : I w)
include hstable hC hI

/-- A file is read as it is at that moment. -/
theorem wpTask_readBounded {maximum : ℕ} {good : Bytes → World P Bytes → Prop}
    {bad : Error → World P Bytes → Prop}
    (hok : ∀ bytes v, I v → v.disk p = some bytes → bytes.length ≤ maximum → good bytes v)
    (hbad : ∀ e v, I v → (∀ bytes, v.disk p = some bytes → maximum < bytes.length) ∨ CanFail A →
      bad e v) :
    wpTask A (readBounded p maximum) good bad C w := by
  rw [readBounded, wpTask_bind, wpTask_perform]
  intro turn hturn
  have hv := hstable turn w hturn hI
  cases hfate : turn.fate with
  | ok =>
    cases hdisk : (w.intrude turn.others).disk p with
    | none =>
      simp only [Op.answer, hdisk, World.act_read, wpTask_throw]
      exact hbad _ _ hv (.inl fun bytes h => by rw [hdisk] at h; cases h)
    | some bytes =>
      simp only [Op.answer, hdisk, World.act_read, wpTask_liftExcept, bounded]
      by_cases hlen : bytes.length ≤ maximum
      · rw [if_pos hlen]
        exact hok bytes _ hv hdisk hlen
      · rw [if_neg hlen]
        refine hbad _ _ hv (.inl fun bytes' h => ?_)
        rw [hdisk, Option.some.injEq] at h
        exact h ▸ Nat.not_le.mp hlen
  | fail => exact hbad _ _ hv (.inr ⟨turn, hturn, .inl hfate⟩)
  | late => exact hbad _ _ hv (.inr ⟨turn, hturn, .inr hfate⟩)
  | crash => exact hC _ hv

/-- A file is replaced whatever it holds. -/
theorem wpTask_atomicReplace {bytes : Bytes} {good : Unit → World P Bytes → Prop}
    {bad : Error → World P Bytes → Prop} (hok : ∀ v, I v → good () (v.own p (some bytes)))
    (hfail : CanFail A → ∀ e v, I v → bad e v)
    (hlate : CanBeLate A → ∀ e v, I v → bad e (v.own p (some bytes))) :
    wpTask A (atomicReplace p bytes) good bad C w := by
  rw [atomicReplace, wpTask_bind, wpTask_perform]
  intro turn hturn
  have hv := hstable turn w hturn hI
  cases hfate : turn.fate with
  | ok => exact hok _ hv
  | fail => exact hfail ⟨turn, hturn, .inl hfate⟩ _ _ hv
  | late => exact hlate ⟨turn, hturn, hfate⟩ _ _ hv
  | crash => exact hC _ hv

/-- A file is replaced if it holds what is expected. -/
theorem wpTask_atomicReplaceIfUnchanged {expected bytes : Bytes}
    {good : Unit → World P Bytes → Prop} {bad : Error → World P Bytes → Prop}
    (hok : ∀ v, I v → v.disk p = some expected → good () (v.own p (some bytes)))
    (hbad : ∀ e v, I v → v.disk p ≠ some expected ∨ CanFail A → bad e v)
    (hlate : CanBeLate A → ∀ e v, I v → v.disk p = some expected → bad e (v.own p (some bytes))) :
    wpTask A (atomicReplaceIfUnchanged p expected bytes) good bad C w := by
  rw [atomicReplaceIfUnchanged, wpTask_bind, wpTask_perform]
  intro turn hturn
  have hv := hstable turn w hturn hI
  by_cases hsame : (w.intrude turn.others).disk p = some expected
  · cases hfate : turn.fate with
    | ok =>
      simp only [Op.answer, hsame, if_true, World.act_writeIf _ bytes hsame]
      exact hok _ hv hsame
    | fail => exact hbad _ _ hv (.inr ⟨turn, hturn, .inl hfate⟩)
    | late =>
      simp only [World.act_writeIf _ bytes hsame]
      exact hlate ⟨turn, hturn, hfate⟩ _ _ hv hsame
    | crash => exact hC _ hv
  · cases hfate : turn.fate with
    | ok =>
      simp only [World.act_writeIf_ne _ bytes hsame]
      cases hdisk : (w.intrude turn.others).disk p with
      | none =>
        simp only [Op.answer, hdisk, wpTask_throw]
        exact hbad _ _ hv (.inl hsame)
      | some found =>
        have hne : found ≠ expected := fun h => hsame (hdisk.trans (congrArg some h))
        simp only [Op.answer, hdisk, if_neg hne, wpTask_throw]
        exact hbad _ _ hv (.inl hsame)
    | fail => exact hbad _ _ hv (.inl hsame)
    | late =>
      simp only [World.act_writeIf_ne _ bytes hsame]
      exact hbad _ _ hv (.inl hsame)
    | crash => exact hC _ hv

end

end Kf2Optimizer.Platform
