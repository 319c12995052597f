/-
# Programs over files

A program reads and writes files one operation at a time, and each operation is atomic.  A PLAN
says what becomes of its operations, one TURN each: what other programs write before it, and its
FATE.  The operation takes place, it fails, it takes place and is reported as failed, or the
process stops in front of it.  What the world looks like when a program ends or stops is then a
matter of the plan alone, and `run` computes it, with a log of what was written.

`wp` is the calculus: `wp A x Q C w` says that `x`, started in `w` under any plan of turns in `A`,
ends in `Q` or stops in `C` (`wp_sound`).  It composes along `bind` (`wp_bind`), along the
exceptions that most programs are written with (`wpTask_bind`, `wpTask_attempt`) and along loops
(`wpTask_forEach`).  A part of a program that only reads is taken in one step (`wpTask_of_careful`), and
what no operation of a part can break survives it (`wp_of_only`).
-/
import Mathlib.Control.Basic
import Mathlib.Data.Nat.Notation
import Mathlib.Tactic.Common

set_option linter.unusedSectionVars false

namespace Files

/-! ## 1. Programs -/

/-- The files there are. -/
abbrev Disk (P B : Type) := P → Option B

/-- An operation on a file. -/
inductive Op (P B : Type)
  | read (p : P)
  | write (p : P) (b : B)
  /-- Writes only over the bytes that are expected. -/
  | writeIf (p : P) (expected b : B)
  /-- Writes over what there is, and keeps that. -/
  | exchange (p : P) (b : B)
  | remove (p : P)
  /-- The files there are of these names: a directory, in the order the system lists it. -/
  | list (names : List P)
  /-- When a file was written last. -/
  | stamp (p : P)
  /-- Asks the system for something that is no file. -/
  | ask

/-- What an operation reports. -/
inductive Answer (P B : Type)
  | content (b : B)
  | names (l : List P)
  | time (t : ℕ)
  | done
  | missing
  | changed
  | failed

/-- A program: it ends, or it does an operation and goes on with the answer. -/
inductive Prog (P B α : Type)
  | ret (a : α)
  | step (op : Op P B) (next : Answer P B → Prog P B α)

variable {P B α β γ ε : Type}

namespace Prog

def bind : Prog P B α → (α → Prog P B β) → Prog P B β
  | .ret a, f => f a
  | .step op next, f => .step op fun answer => (next answer).bind f

instance : Monad (Prog P B) where
  pure := .ret
  bind := bind

@[simp] theorem ret_bind (a : α) (f : α → Prog P B β) : (Prog.ret a : Prog P B α) >>= f = f a := rfl

@[simp] theorem step_bind (op : Op P B) (next : Answer P B → Prog P B α) (f : α → Prog P B β) :
    Prog.step op next >>= f = .step op fun answer => next answer >>= f := rfl

/-- One operation. -/
def op (o : Op P B) : Prog P B (Answer P B) := .step o .ret

end Prog

/-- A program that may give up with an error. -/
abbrev Task (P B ε α : Type) := ExceptT ε (Prog P B) α

/-- One operation, whatever it answers. -/
def perform (o : Op P B) : Task P B ε (Answer P B) := ExceptT.lift (Prog.op o)

/-- A check on the way. -/
def ensure (c : Prop) [Decidable c] (e : ε) : Task P B ε Unit := if c then pure () else throw e

/-- A loop that gives up at the first error. -/
def forEach (f : α → Task P B ε Unit) : List α → Task P B ε Unit
  | [] => pure ()
  | a :: rest => do
    f a
    forEach f rest

/-- A loop that gives up at the first error, with what its rounds give. -/
def collect (f : α → Task P B ε β) : List α → Task P B ε (List β)
  | [] => pure []
  | a :: rest => do
    let b ← f a
    let bs ← collect f rest
    pure (b :: bs)

/-- The outcome of a task, as a value. -/
def attempt {ε' : Type} (x : Task P B ε α) : Task P B ε' (Except ε α) := ExceptT.lift x.run

/-! ## 2. Runs -/

inductive Fate
  | ok
  | fail
  /-- The operation takes place and reports that it failed. -/
  | late
  /-- The process stops in front of the operation. -/
  | crash
  deriving DecidableEq, Repr

/-- What happens at an operation. -/
structure Turn (P B : Type) where
  others : List (P × Option B) := []
  fate : Fate := .ok

/-- A file that was written or removed, by the program itself or by another. -/
inductive Event (P B : Type)
  | own (p : P) (old new : Option B)
  | other (p : P) (new : Option B)
  deriving DecidableEq

/-- The file an event is about. -/
def Event.path : Event P B → P
  | .own p _ _ => p
  | .other p _ => p

/-- What the file is from then on. -/
def Event.new : Event P B → Option B
  | .own _ _ new => new
  | .other _ new => new

/-- The files, and what has happened to them, the latest first. -/
structure World (P B : Type) where
  disk : Disk P B
  log : List (Event P B) := []

section

variable [DecidableEq P] [DecidableEq B]

/-- The disk with one file set. -/
def Disk.set (d : Disk P B) (p : P) (b : Option B) : Disk P B := fun q => if q = p then b else d q

@[simp] theorem Disk.set_same (d : Disk P B) (p : P) (b : Option B) : d.set p b p = b := if_pos rfl

theorem Disk.set_other (d : Disk P B) {p q : P} (b : Option B) (h : q ≠ p) : d.set p b q = d q :=
  if_neg h

theorem Disk.set_self (d : Disk P B) (p : P) : d.set p (d p) = d := by
  funext q
  by_cases h : q = p
  · rw [h, Disk.set_same]
  · exact Disk.set_other d _ h

/-- When a file was written last: how much had happened then. -/
def lastWrite (p : P) : List (Event P B) → ℕ
  | [] => 0
  | e :: log => if e.path = p then log.length + 1 else lastWrite p log

/-- The answer of an operation that is not disturbed. -/
def Op.answer : Op P B → World P B → Answer P B
  | .read p, w => match w.disk p with
    | some b => .content b
    | none => .missing
  | .write _ _, _ => .done
  | .writeIf p expected _, w => match w.disk p with
    | some b => if b = expected then .done else .changed
    | none => .missing
  | .exchange p _, w => match w.disk p with
    | some b => .content b
    | none => .missing
  | .remove p, w => if w.disk p = none then .missing else .done
  | .list names, w => .names (names.filter fun p => (w.disk p).isSome)
  | .stamp p, w => if w.disk p = none then .missing else .time (lastWrite p w.log)
  | .ask, _ => .done

/-- The file an operation sets, and to what. -/
def Op.sets : Op P B → Disk P B → Option (P × Option B)
  | .read _, _ => none
  | .write p b, _ => some (p, some b)
  | .writeIf p expected b, d => if d p = some expected then some (p, some b) else none
  | .exchange p b, d => if d p = none then none else some (p, some b)
  | .remove p, d => if d p = none then none else some (p, none)
  | .list _, _ => none
  | .stamp _, _ => none
  | .ask, _ => none

namespace World

/-- The world with one file set by the program. -/
def own (w : World P B) (p : P) (b : Option B) : World P B :=
  ⟨w.disk.set p b, .own p (w.disk p) b :: w.log⟩

/-- The world with one file set by another program. -/
def other (w : World P B) (p : P) (b : Option B) : World P B :=
  ⟨w.disk.set p b, .other p b :: w.log⟩

/-- The world after an operation. -/
def act (w : World P B) (op : Op P B) : World P B :=
  match op.sets w.disk with
  | none => w
  | some (p, b) => w.own p b

/-- The world after what other programs write. -/
def intrude (w : World P B) (others : List (P × Option B)) : World P B :=
  others.foldl (fun w o => w.other o.1 o.2) w

@[simp] theorem intrude_nil (w : World P B) : w.intrude [] = w := rfl

@[simp] theorem act_read (w : World P B) (p : P) : w.act (.read p) = w := rfl

@[simp] theorem act_ask (w : World P B) : w.act .ask = w := rfl

@[simp] theorem act_write (w : World P B) (p : P) (b : B) :
    w.act (.write p b) = w.own p (some b) := rfl

theorem act_writeIf (w : World P B) {p : P} {expected : B} (b : B)
    (h : w.disk p = some expected) : w.act (.writeIf p expected b) = w.own p (some b) := by
  simp only [act, Op.sets, if_pos h]

theorem act_writeIf_ne (w : World P B) {p : P} {expected : B} (b : B)
    (h : w.disk p ≠ some expected) : w.act (.writeIf p expected b) = w := by
  simp only [act, Op.sets, if_neg h]

theorem act_exchange (w : World P B) {p : P} (b : B) (h : w.disk p ≠ none) :
    w.act (.exchange p b) = w.own p (some b) := by
  simp only [act, Op.sets, if_neg h]

theorem act_exchange_missing (w : World P B) {p : P} (b : B) (h : w.disk p = none) :
    w.act (.exchange p b) = w := by
  simp only [act, Op.sets, if_pos h]

theorem act_remove (w : World P B) {p : P} (h : w.disk p ≠ none) :
    w.act (.remove p) = w.own p none := by
  simp only [act, Op.sets, if_neg h]

theorem act_remove_missing (w : World P B) {p : P} (h : w.disk p = none) :
    w.act (.remove p) = w := by
  simp only [act, Op.sets, if_pos h]

@[simp] theorem disk_own_same (w : World P B) (p : P) (b : Option B) : (w.own p b).disk p = b :=
  Disk.set_same _ _ _

theorem disk_own_other (w : World P B) {p q : P} (b : Option B) (h : q ≠ p) :
    (w.own p b).disk q = w.disk q :=
  Disk.set_other _ _ h

theorem disk_intrude_other (w : World P B) {others : List (P × Option B)} {q : P}
    (h : ∀ o ∈ others, q ≠ o.1) : (w.intrude others).disk q = w.disk q := by
  induction others generalizing w with
  | nil => rfl
  | cons o others ih =>
    obtain ⟨ho, hrest⟩ := List.forall_mem_cons.mp h
    exact (ih _ hrest).trans (Disk.set_other _ _ ho)

theorem lastWrite_own_other (w : World P B) {p q : P} (b : Option B) (h : q ≠ p) :
    lastWrite q (w.own p b).log = lastWrite q w.log :=
  if_neg (Ne.symm h)

theorem lastWrite_intrude_other (w : World P B) {others : List (P × Option B)} {q : P}
    (h : ∀ o ∈ others, q ≠ o.1) : lastWrite q (w.intrude others).log = lastWrite q w.log := by
  induction others generalizing w with
  | nil => rfl
  | cons o others ih =>
    obtain ⟨ho, hrest⟩ := List.forall_mem_cons.mp h
    exact (ih _ hrest).trans (if_neg (Ne.symm ho))

theorem disk_act_other (w : World P B) {op : Op P B} {q : P}
    (h : ∀ p b, op.sets w.disk = some (p, b) → q ≠ p) : (w.act op).disk q = w.disk q := by
  unfold act
  split
  · rfl
  · rename_i p b hsets
    exact disk_own_other w b (h p b hsets)

end World

/-- The outcome and the world of a run; no outcome when the process stopped.  Operations beyond
the plan take place undisturbed. -/
def run : Prog P B α → List (Turn P B) → World P B → Option α × World P B
  | .ret a, _, w => (some a, w)
  | .step op next, [], w => run (next (op.answer w)) [] (w.act op)
  | .step op next, turn :: plan, w =>
    let w := w.intrude turn.others
    match turn.fate with
    | .ok => run (next (op.answer w)) plan (w.act op)
    | .fail => run (next .failed) plan w
    | .late => run (next .failed) plan (w.act op)
    | .crash => (none, w)

/-! ## 3. The log -/

/-- The files that a log leads to. -/
def replay (d : Disk P B) : List (Event P B) → Disk P B
  | [] => d
  | e :: log => (replay d log).set e.path e.new

/-- The log tells the whole story. -/
def Logged (d : Disk P B) (w : World P B) : Prop := w.disk = replay d w.log

theorem logged_start (d : Disk P B) : Logged d ⟨d, []⟩ := rfl

theorem Logged.act {d : Disk P B} {w : World P B} (h : Logged d w) (op : Op P B) :
    Logged d (w.act op) := by
  unfold World.act
  split
  · exact h
  · exact congrArg (Disk.set · _ _) h

theorem Logged.intrude {d : Disk P B} {w : World P B} (h : Logged d w)
    (others : List (P × Option B)) : Logged d (w.intrude others) := by
  induction others generalizing w with
  | nil => exact h
  | cons o others ih => exact ih (congrArg (Disk.set · _ _) h)

theorem Logged.run {d : Disk P B} {w : World P B} (h : Logged d w) (x : Prog P B α)
    (plan : List (Turn P B)) : Logged d (run x plan w).2 := by
  induction x generalizing plan w with
  | ret a => exact h
  | step op next ih =>
    cases plan with
    | nil => exact ih _ (h.act op) []
    | cons turn plan =>
      have hturn := h.intrude turn.others
      unfold Files.run
      simp only
      cases turn.fate with
      | ok => exact ih _ (hturn.act op) plan
      | fail => exact ih _ hturn plan
      | late => exact ih _ (hturn.act op) plan
      | crash => exact hturn

/-- What is not in the log is as it was. -/
theorem Logged.mem {d : Disk P B} {w : World P B} (h : Logged d w) {p : P}
    (hp : w.disk p ≠ d p) : ∃ e ∈ w.log, e.path = p := by
  have hreplay : ∀ log : List (Event P B), replay d log p ≠ d p → ∃ e ∈ log, e.path = p := by
    intro log
    induction log with
    | nil => exact fun hne => absurd rfl hne
    | cons e log ih =>
      intro hne
      by_cases heq : p = e.path
      · exact ⟨e, List.mem_cons_self, heq.symm⟩
      · rw [replay, Disk.set_other _ _ heq] at hne
        obtain ⟨e', he', hpath⟩ := ih hne
        exact ⟨e', List.mem_cons_of_mem e he', hpath⟩
  exact hreplay w.log (h ▸ hp)

/-- At some moment since the program last wrote the file, it has held these bytes. -/
def Seen (d : Disk P B) (p : P) (b : B) : List (Event P B) → Prop
  | [] => d p = some b
  | .own q _ new :: log => if q = p then new = some b else Seen d p b log
  | .other q new :: log => q = p ∧ new = some b ∨ Seen d p b log

/-- What a file holds is seen there. -/
theorem seen_of_disk {d : Disk P B} {w : World P B} (h : Logged d w) {p : P} {b : B}
    (hp : w.disk p = some b) : Seen d p b w.log := by
  rw [h] at hp
  generalize w.log = log at hp
  induction log with
  | nil => exact hp
  | cons e log ih =>
    cases e with
    | own q old new =>
      by_cases hq : q = p
      · rw [replay, Event.path, Event.new, hq, Disk.set_same] at hp
        exact (if_pos hq).mpr hp
      · rw [replay, Event.path, Disk.set_other _ _ (Ne.symm hq)] at hp
        exact (if_neg hq).mpr (ih hp)
    | other q new =>
      by_cases hq : q = p
      · rw [replay, Event.path, Event.new, hq, Disk.set_same] at hp
        exact .inl ⟨hq, hp⟩
      · rw [replay, Event.path, Disk.set_other _ _ (Ne.symm hq)] at hp
        exact .inr (ih hp)

theorem Seen.intrude {d : Disk P B} {w : World P B} {p : P} {b : B} (h : Seen d p b w.log)
    (others : List (P × Option B)) : Seen d p b (w.intrude others).log := by
  induction others generalizing w with
  | nil => exact h
  | cons o others ih => exact ih (.inr h)

theorem Seen.own {d : Disk P B} {w : World P B} {p : P} {b : B} (h : Seen d p b w.log) {q : P}
    (hq : q ≠ p) (new : Option B) : Seen d p b (w.own q new).log :=
  (if_neg hq).mpr h

/-- What is seen is what the file holds, where no other program has written it. -/
theorem Seen.disk {d : Disk P B} {w : World P B} {p : P} {b : B} (hw : Logged d w)
    (h : Seen d p b w.log) (hothers : ∀ new, .other p new ∉ w.log) : w.disk p = some b := by
  rw [hw]
  generalize w.log = log at h hothers
  induction log with
  | nil => exact h
  | cons e log ih =>
    obtain ⟨hfirst, hrest⟩ : (∀ new, Event.other p new ≠ e) ∧ ∀ new, .other p new ∉ log := by
      simpa [forall_and] using hothers
    cases e with
    | own q old new =>
      by_cases hq : q = p
      · have hnew : new = some b := (if_pos hq).mp h
        rw [replay, Event.path, Event.new, hq, Disk.set_same, hnew]
      · rw [replay, Event.path, Disk.set_other _ _ (Ne.symm hq)]
        exact ih ((if_neg hq).mp h) hrest
    | other q new =>
      have hq : p ≠ q := fun heq => hfirst new (heq ▸ rfl)
      rw [replay, Event.path, Disk.set_other _ _ hq]
      exact ih (h.resolve_left fun hseen => hq hseen.1.symm) hrest

/-- At some moment the file has held these bytes. -/
def Once (d : Disk P B) (p : P) (b : B) (log : List (Event P B)) : Prop :=
  ∃ early, early <:+ log ∧ replay d early p = some b

theorem once_of_disk {d : Disk P B} {w : World P B} (h : Logged d w) {p : P} {b : B}
    (hp : w.disk p = some b) : Once d p b w.log :=
  ⟨w.log, List.suffix_refl _, by rw [← h, hp]⟩

theorem Seen.once {d : Disk P B} {p : P} {b : B} {log : List (Event P B)} (h : Seen d p b log) :
    Once d p b log := by
  induction log with
  | nil => exact ⟨[], List.suffix_refl _, h⟩
  | cons e log ih =>
    have hearlier : Seen d p b log → Once d p b (e :: log) := fun h => by
      obtain ⟨early, hearly, hreplay⟩ := ih h
      exact ⟨early, hearly.trans (List.suffix_cons _ _), hreplay⟩
    have hnow : e.path = p → e.new = some b → Once d p b (e :: log) := fun hpath hnew =>
      ⟨e :: log, List.suffix_refl _, by rw [replay, hpath, hnew, Disk.set_same]⟩
    cases e with
    | own q old new =>
      by_cases hq : q = p
      · exact hnow hq ((if_pos hq).mp h)
      · exact hearlier ((if_neg hq).mp h)
    | other q new =>
      rcases h with ⟨hq, hnew⟩ | h
      · exact hnow hq hnew
      · exact hearlier h

theorem Once.mono {d : Disk P B} {p : P} {b : B} {log log' : List (Event P B)} (h : Once d p b log)
    (hlog : log <:+ log') : Once d p b log' := by
  obtain ⟨early, hearly, hreplay⟩ := h
  exact ⟨early, hearly.trans hlog, hreplay⟩

namespace World

theorem suffix_act (w : World P B) (op : Op P B) : w.log <:+ (w.act op).log := by
  unfold act
  split
  · exact List.suffix_refl _
  · exact List.suffix_cons _ _

theorem suffix_intrude (w : World P B) (others : List (P × Option B)) :
    w.log <:+ (w.intrude others).log := by
  induction others generalizing w with
  | nil => exact List.suffix_refl _
  | cons o others ih => exact (List.suffix_cons _ _).trans (ih (w.other o.1 o.2))

end World

/-! ## 4. The calculus -/

/-- Under any plan of turns in `A`, the program ends in `Q` or stops in `C`. -/
def wp (A : Turn P B → Prop) :
    Prog P B α → (α → World P B → Prop) → (World P B → Prop) → World P B → Prop
  | .ret a, Q, _, w => Q a w
  | .step op next, Q, C, w => ∀ turn, A turn →
    match turn.fate with
    | .ok => wp A (next (op.answer (w.intrude turn.others))) Q C
        ((w.intrude turn.others).act op)
    | .fail => wp A (next .failed) Q C (w.intrude turn.others)
    | .late => wp A (next .failed) Q C ((w.intrude turn.others).act op)
    | .crash => C (w.intrude turn.others)

variable {A : Turn P B → Prop} {Q : α → World P B → Prop} {C : World P B → Prop} {w : World P B}

/-- **Soundness.** -/
theorem wp_sound {x : Prog P B α} (h : wp A x Q C w) (hquiet : A {}) {plan : List (Turn P B)}
    (hplan : ∀ turn ∈ plan, A turn) :
    match run x plan w with
    | (some a, w') => Q a w'
    | (none, w') => C w' := by
  induction x generalizing plan w with
  | ret a => exact h
  | step op next ih =>
    cases plan with
    | nil => exact ih _ (h {} hquiet) (by simp)
    | cons turn plan =>
      obtain ⟨hturn, hrest⟩ := List.forall_mem_cons.mp hplan
      have hstep := h turn hturn
      unfold run
      simp only
      cases hfate : turn.fate with
      | ok =>
        rw [hfate] at hstep
        exact ih _ hstep hrest
      | fail =>
        rw [hfate] at hstep
        exact ih _ hstep hrest
      | late =>
        rw [hfate] at hstep
        exact ih _ hstep hrest
      | crash =>
        rw [hfate] at hstep
        exact hstep

theorem wp_mono {Q' : α → World P B → Prop} {C' : World P B → Prop} {x : Prog P B α}
    (h : wp A x Q C w) (hQ : ∀ a w', Q a w' → Q' a w') (hC : ∀ w', C w' → C' w') :
    wp A x Q' C' w := by
  induction x generalizing w with
  | ret a => exact hQ a w h
  | step op next ih =>
    intro turn hturn
    have hstep := h turn hturn
    cases hfate : turn.fate <;> rw [hfate] at hstep
    exacts [ih _ hstep, ih _ hstep, ih _ hstep, hC _ hstep]

theorem wp_and {Q' : α → World P B → Prop} {C' : World P B → Prop} {x : Prog P B α}
    (h : wp A x Q C w) (h' : wp A x Q' C' w) :
    wp A x (fun a w' => Q a w' ∧ Q' a w') (fun w' => C w' ∧ C' w') w := by
  induction x generalizing w with
  | ret a => exact ⟨h, h'⟩
  | step op next ih =>
    intro turn hturn
    have hstep := h turn hturn
    have hstep' := h' turn hturn
    cases hfate : turn.fate <;> rw [hfate] at hstep hstep'
    exacts [ih _ hstep hstep', ih _ hstep hstep', ih _ hstep hstep', ⟨hstep, hstep'⟩]

@[simp] theorem wp_ret (a : α) : wp A (Prog.ret a) Q C w ↔ Q a w := Iff.rfl

/-- **One program after another.** -/
theorem wp_bind {x : Prog P B α} {f : α → Prog P B β} {Q : β → World P B → Prop} :
    wp A (x >>= f) Q C w ↔ wp A x (fun a w' => wp A (f a) Q C w') C w := by
  induction x generalizing w with
  | ret a => rfl
  | step op next ih =>
    rw [Prog.step_bind]
    refine forall_congr' fun turn => imp_congr_right fun _ => ?_
    cases turn.fate
    exacts [ih _, ih _, ih _, Iff.rfl]

/-- What has been logged stays. -/
theorem wp_grows {base : List (Event P B)} {x : Prog P B α} (h : base <:+ w.log) :
    wp A x (fun _ v => base <:+ v.log) (fun v => base <:+ v.log) w := by
  induction x generalizing w with
  | ret a => exact h
  | step op next ih =>
    intro turn _
    have hturn := h.trans (w.suffix_intrude turn.others)
    have hact := hturn.trans ((w.intrude turn.others).suffix_act op)
    cases turn.fate
    exacts [ih _ hact, ih _ hturn, ih _ hact, hturn]

/-! ## 5. Tasks -/

/-- A postcondition of a task, by its outcome. -/
def Ends (good : α → World P B → Prop) (bad : ε → World P B → Prop) :
    Except ε α → World P B → Prop
  | .ok a, w => good a w
  | .error e, w => bad e w

/-- Under any plan of turns in `A`, the task ends in `good`, gives up in `bad` or stops in `C`. -/
def wpTask (A : Turn P B → Prop) (x : Task P B ε α) (good : α → World P B → Prop)
    (bad : ε → World P B → Prop) (C : World P B → Prop) (w : World P B) : Prop :=
  wp A x.run (Ends good bad) C w

variable {good : α → World P B → Prop} {bad : ε → World P B → Prop}

theorem wpTask_mono {good' : α → World P B → Prop} {bad' : ε → World P B → Prop}
    {C' : World P B → Prop} {x : Task P B ε α} (h : wpTask A x good bad C w)
    (hgood : ∀ a w', good a w' → good' a w') (hbad : ∀ e w', bad e w' → bad' e w')
    (hC : ∀ w', C w' → C' w') : wpTask A x good' bad' C' w := by
  refine wp_mono h (fun r w' hr => ?_) hC
  cases r with
  | ok a => exact hgood a w' hr
  | error e => exact hbad e w' hr

theorem wpTask_and {good' : α → World P B → Prop} {bad' : ε → World P B → Prop}
    {C' : World P B → Prop} {x : Task P B ε α} (h : wpTask A x good bad C w)
    (h' : wpTask A x good' bad' C' w) :
    wpTask A x (fun a w' => good a w' ∧ good' a w') (fun e w' => bad e w' ∧ bad' e w')
      (fun w' => C w' ∧ C' w') w := by
  refine wp_mono (wp_and h h') (fun r w' hr => ?_) fun _ hc => hc
  cases r with
  | ok a => exact hr
  | error e => exact hr

/-- **One task after another**: the second runs when the first has not given up. -/
theorem wpTask_bind {x : Task P B ε β} {f : β → Task P B ε α} :
    wpTask A (x >>= f) good bad C w ↔
      wpTask A x (fun b w' => wpTask A (f b) good bad C w') bad C w := by
  unfold wpTask
  rw [ExceptT.run_bind, wp_bind]
  constructor
  · intro h
    refine wp_mono h (fun r w' hr => ?_) fun _ hc => hc
    cases r with
    | ok b => exact hr
    | error e => exact hr
  · intro h
    refine wp_mono h (fun r w' hr => ?_) fun _ hc => hc
    cases r with
    | ok b => exact hr
    | error e => exact hr

@[simp] theorem wpTask_pure {a : α} :
    wpTask A (pure a : Task P B ε α) good bad C w ↔ good a w := Iff.rfl

@[simp] theorem wpTask_throw {e : ε} :
    wpTask A (throw e : Task P B ε α) good bad C w ↔ bad e w := Iff.rfl

theorem wpTask_ensure {c : Prop} [Decidable c] {e : ε} {f : Unit → Task P B ε α}
    (herror : ¬ c → bad e w) (hok : c → wpTask A (f ()) good bad C w) :
    wpTask A (ensure c e >>= f) good bad C w := by
  rw [wpTask_bind]
  unfold ensure
  by_cases hc : c
  · rw [if_pos hc]
    exact hok hc
  · rw [if_neg hc]
    exact herror hc

theorem wpTask_liftExcept {r : Except ε α} :
    wpTask A (liftExcept r : Task P B ε α) good bad C w ↔ Ends good bad r w := by
  cases r with
  | ok a => rfl
  | error e => rfl

theorem wpTask_attempt {ε' : Type} {x : Task P B ε β} {good : Except ε β → World P B → Prop}
    {bad : ε' → World P B → Prop} :
    wpTask A (attempt x) good bad C w ↔
      wpTask A x (fun b w' => good (.ok b) w') (fun e w' => good (.error e) w') C w := by
  unfold wpTask attempt
  rw [ExceptT.run_lift]
  refine wp_bind.trans ⟨fun h => ?_, fun h => ?_⟩
  · refine wp_mono h (fun r w' hr => ?_) fun _ hc => hc
    cases r with
    | ok b => exact hr
    | error e => exact hr
  · refine wp_mono h (fun r w' hr => ?_) fun _ hc => hc
    cases r with
    | ok b => exact hr
    | error e => exact hr

theorem wpTask_adapt {ε' : Type} {x : Task P B ε α} {f : ε → ε'} {bad : ε' → World P B → Prop} :
    wpTask A (x.adapt f) good bad C w ↔ wpTask A x good (fun e w' => bad (f e) w') C w := by
  unfold wpTask
  rw [ExceptT.run_adapt]
  refine wp_bind.trans ⟨fun h => ?_, fun h => ?_⟩
  · refine wp_mono h (fun r w' hr => ?_) fun _ hc => hc
    cases r with
    | ok b => exact hr
    | error e => exact hr
  · refine wp_mono h (fun r w' hr => ?_) fun _ hc => hc
    cases r with
    | ok b => exact hr
    | error e => exact hr

theorem wpTask_grows {base : List (Event P B)} {x : Task P B ε α} (h : base <:+ w.log) :
    wpTask A x (fun _ v => base <:+ v.log) (fun _ v => base <:+ v.log) (fun v => base <:+ v.log) w := by
  refine wp_mono (wp_grows h) (fun outcome v hv => ?_) fun _ hv => hv
  cases outcome with
  | ok a => exact hv
  | error e => exact hv

/-- **The loop rule**: `I` holds of what has been done so far. -/
theorem wpTask_forEach {f : α → Task P B ε Unit} {l : List α} {I : List α → World P B → Prop}
    {good : Unit → World P B → Prop}
    (hstep : ∀ before a rest w, l = before ++ a :: rest → I before w →
      wpTask A (f a) (fun _ => I (before ++ [a])) bad C w)
    (hdone : ∀ w, I l w → good () w) (hinit : I [] w) : wpTask A (forEach f l) good bad C w := by
  have h : ∀ rest before w, l = before ++ rest → I before w →
      wpTask A (forEach f rest) good bad C w := by
    intro rest
    induction rest with
    | nil =>
      intro before w hl hI
      rw [List.append_nil] at hl
      rw [forEach, wpTask_pure]
      exact hdone w (hl ▸ hI)
    | cons a rest ih =>
      intro before w hl hI
      rw [forEach, wpTask_bind]
      refine wpTask_mono (hstep before a rest w hl hI) (fun _ w' hr => ?_) (fun _ _ he => he)
        fun _ hc => hc
      exact ih (before ++ [a]) w' (by simp [hl]) hr
  exact h l [] w rfl hinit

/-- **The loop rule** where every round gives something. -/
theorem wpTask_collect {f : α → Task P B ε β} {l : List α}
    {I : List α → List β → World P B → Prop} {good : List β → World P B → Prop}
    (hstep : ∀ before a rest bs w, l = before ++ a :: rest → I before bs w →
      wpTask A (f a) (fun b => I (before ++ [a]) (bs ++ [b])) bad C w)
    (hdone : ∀ bs w, I l bs w → good bs w) (hinit : I [] [] w) :
    wpTask A (collect f l) good bad C w := by
  have h : ∀ rest before bs w, l = before ++ rest → I before bs w →
      wpTask A (collect f rest) (fun bs' => I l (bs ++ bs')) bad C w := by
    intro rest
    induction rest with
    | nil =>
      intro before bs w hl hI
      rw [List.append_nil] at hl
      rw [collect, wpTask_pure, List.append_nil]
      exact hl ▸ hI
    | cons a rest ih =>
      intro before bs w hl hI
      rw [collect, wpTask_bind]
      refine wpTask_mono (hstep before a rest bs w hl hI) (fun b w' hr => ?_) (fun _ _ he => he)
        fun _ hc => hc
      rw [wpTask_bind]
      refine wpTask_mono (ih (before ++ [a]) (bs ++ [b]) w' (by simp [hl]) hr)
        (fun bs' w'' hr => ?_) (fun _ _ he => he) fun _ hc => hc
      rw [wpTask_pure]
      simpa using hr
  exact wpTask_mono (h l [] [] w rfl hinit) (fun bs w' hr => hdone bs w' hr) (fun _ _ he => he)
    fun _ hc => hc

/-- **One operation.** -/
theorem wpTask_perform {op : Op P B} {good : Answer P B → World P B → Prop} :
    wpTask A (perform op) good bad C w ↔ ∀ turn, A turn →
      match turn.fate with
      | .ok => good (op.answer (w.intrude turn.others)) ((w.intrude turn.others).act op)
      | .fail => good .failed (w.intrude turn.others)
      | .late => good .failed ((w.intrude turn.others).act op)
      | .crash => C (w.intrude turn.others) :=
  Iff.rfl

/-! ## 6. Plans -/

/-- The process may stop anywhere, and nothing else goes wrong. -/
def Interrupted (turn : Turn P B) : Prop :=
  turn.others = [] ∧ (turn.fate = .ok ∨ turn.fate = .crash)

/-- Nothing goes wrong. -/
def Undisturbed (turn : Turn P B) : Prop := turn.others = [] ∧ turn.fate = .ok

/-- An operation of a process that can only be interrupted. -/
theorem wp_interrupted {op : Op P B} {next : Answer P B → Prog P B α} :
    wp Interrupted (.step op next) Q C w ↔
      wp Interrupted (next (op.answer w)) Q C (w.act op) ∧ C w := by
  constructor
  · intro h
    exact ⟨h {} ⟨rfl, .inl rfl⟩, h { fate := .crash } ⟨rfl, .inr rfl⟩⟩
  · rintro ⟨hok, hcrash⟩ ⟨others, fate⟩ ⟨rfl, rfl | rfl⟩
    · exact hok
    · exact hcrash

theorem wpTask_perform_interrupted {op : Op P B} {good : Answer P B → World P B → Prop} :
    wpTask Interrupted (perform op) good bad C w ↔ good (op.answer w) (w.act op) ∧ C w :=
  wp_interrupted

theorem wp_undisturbed {op : Op P B} {next : Answer P B → Prog P B α} :
    wp Undisturbed (.step op next) Q C w ↔
      wp Undisturbed (next (op.answer w)) Q C (w.act op) := by
  constructor
  · intro h
    exact h {} ⟨rfl, rfl⟩
  · rintro hok ⟨others, fate⟩ ⟨rfl, rfl⟩
    exact hok

theorem wpTask_perform_undisturbed {op : Op P B} {good : Answer P B → World P B → Prop} :
    wpTask Undisturbed (perform op) good bad C w ↔ good (op.answer w) (w.act op) :=
  wp_undisturbed

/-- **An undisturbed program** does what `run` computes without a plan. -/
theorem wp_undisturbed_iff {x : Prog P B α} :
    wp Undisturbed x Q C w ↔ ∃ a, (run x [] w).1 = some a ∧ Q a (run x [] w).2 := by
  induction x generalizing w with
  | ret a => exact ⟨fun h => ⟨a, rfl, h⟩, by rintro ⟨b, hb, h⟩; cases hb; exact h⟩
  | step op next ih =>
    rw [wp_undisturbed]
    exact ih _

/-- What an undisturbed task does. -/
theorem run_of_wpTask {x : Task P B ε α} (h : wpTask Undisturbed x good bad C w) :
    ∃ r, (run x.run [] w).1 = some r ∧ Ends good bad r (run x.run [] w).2 :=
  wp_undisturbed_iff.mp h

/-! ## 7. What the operations of a program can be -/

/-- Every operation of the program satisfies `p` and every outcome `r`, whatever is answered. -/
inductive Only (p : Op P B → Prop) (r : α → Prop) : Prog P B α → Prop
  | ret (a : α) (ha : r a) : Only p r (.ret a)
  | step (op : Op P B) (next : Answer P B → Prog P B α) (hop : p op)
      (hnext : ∀ answer, Only p r (next answer)) : Only p r (.step op next)

/-- The same of a task that has not given up. -/
def OnlyTask (p : Op P B → Prop) (r : α → Prop) (x : Task P B ε α) : Prop :=
  Only p (fun outcome => ∀ a, outcome = .ok a → r a) x.run

variable {p : Op P B → Prop} {r : α → Prop}

theorem Only.mono {p' : Op P B → Prop} {r' : α → Prop} {x : Prog P B α} (hx : Only p r x)
    (hp : ∀ op, p op → p' op) (hr : ∀ a, r a → r' a) : Only p' r' x := by
  induction hx with
  | ret a ha => exact .ret a (hr a ha)
  | step op next hop _ ih => exact .step op next (hp op hop) ih

theorem OnlyTask.mono {p' : Op P B → Prop} {r' : α → Prop} {x : Task P B ε α}
    (hx : OnlyTask p r x) (hp : ∀ op, p op → p' op) (hr : ∀ a, r a → r' a) : OnlyTask p' r' x :=
  Only.mono hx hp fun _ h a ha => hr a (h a ha)

theorem Only.bind {r' : β → Prop} {x : Prog P B α} {f : α → Prog P B β} (hx : Only p r x)
    (hf : ∀ a, r a → Only p r' (f a)) : Only p r' (x >>= f) := by
  induction hx with
  | ret a ha => exact hf a ha
  | step op next hop _ ih => exact .step op _ hop ih

theorem onlyTask_pure {a : α} (h : r a) : OnlyTask p r (pure a : Task P B ε α) := by
  refine .ret _ fun b hb => ?_
  cases hb
  exact h

theorem onlyTask_throw (e : ε) : OnlyTask p r (throw e : Task P B ε α) :=
  .ret _ fun _ hb => by cases hb

theorem OnlyTask.bind {r' : β → Prop} {x : Task P B ε α} {f : α → Task P B ε β}
    (hx : OnlyTask p r x) (hf : ∀ a, r a → OnlyTask p r' (f a)) : OnlyTask p r' (x >>= f) := by
  unfold OnlyTask
  rw [ExceptT.run_bind]
  refine Only.bind hx fun outcome hout => ?_
  cases outcome with
  | ok a => exact hf a (hout a rfl)
  | error e => exact onlyTask_throw e

theorem onlyTask_ensure (c : Prop) [Decidable c] (e : ε) :
    OnlyTask p (fun _ => c) (ensure c e : Task P B ε Unit) := by
  unfold ensure
  by_cases hc : c
  · rw [if_pos hc]
    exact onlyTask_pure hc
  · rw [if_neg hc]
    exact onlyTask_throw e

theorem onlyTask_perform {op : Op P B} {f : Answer P B → Task P B ε α} (hop : p op)
    (hf : ∀ answer, OnlyTask p r (f answer)) : OnlyTask p r (perform op >>= f) :=
  .step op _ hop hf

theorem onlyTask_liftExcept (outcome : Except ε α) (h : ∀ a, outcome = .ok a → r a) :
    OnlyTask p r (liftExcept outcome : Task P B ε α) := by
  cases outcome with
  | ok a => exact onlyTask_pure (h a rfl)
  | error e => exact onlyTask_throw e

theorem onlyTask_attempt {ε' : Type} {x : Task P B ε α} (hx : OnlyTask p r x) :
    OnlyTask p (fun outcome => ∀ a, outcome = .ok a → r a)
      (attempt x : Task P B ε' (Except ε α)) := by
  unfold attempt OnlyTask
  rw [ExceptT.run_lift]
  refine Only.bind hx fun outcome hout => .ret _ fun b hb => ?_
  cases hb
  exact hout

theorem OnlyTask.adapt {ε' : Type} {x : Task P B ε α} (hx : OnlyTask p r x) (f : ε → ε') :
    OnlyTask p r (x.adapt f) := by
  unfold OnlyTask
  rw [ExceptT.run_adapt]
  refine Only.bind hx fun outcome hout => .ret _ fun a ha => ?_
  cases outcome with
  | ok b => exact hout a (by cases ha; rfl)
  | error e => cases ha

theorem onlyTask_forEach {f : α → Task P B ε Unit} {l : List α} {r : α → Prop}
    (hf : ∀ a ∈ l, OnlyTask p (fun _ => r a) (f a)) :
    OnlyTask p (fun _ => ∀ a ∈ l, r a) (forEach f l) := by
  induction l with
  | nil => exact onlyTask_pure (by simp)
  | cons a l ih =>
    refine (hf a List.mem_cons_self).bind fun _ ha => ?_
    refine (ih fun b hb => hf b (List.mem_cons_of_mem a hb)).mono (fun _ h => h) fun _ hrest => ?_
    exact List.forall_mem_cons.mpr ⟨ha, hrest⟩

theorem onlyTask_collect {f : α → Task P B ε β} {g : α → β} {l : List α}
    (hf : ∀ a ∈ l, OnlyTask p (fun b => b = g a) (f a)) :
    OnlyTask p (fun bs => bs = l.map g) (collect f l) := by
  induction l with
  | nil => exact onlyTask_pure rfl
  | cons a l ih =>
    refine (hf a List.mem_cons_self).bind fun b hb => ?_
    refine (ih fun b hb => hf b (List.mem_cons_of_mem a hb)).bind fun bs hbs => ?_
    exact onlyTask_pure (by rw [hb, hbs, List.map_cons])

theorem onlyTask_collect_any {f : α → Task P B ε β} {l : List α}
    (hf : ∀ a ∈ l, OnlyTask p (fun _ => True) (f a)) :
    OnlyTask p (fun _ => True) (collect f l) := by
  induction l with
  | nil => exact onlyTask_pure trivial
  | cons a l ih =>
    refine (hf a List.mem_cons_self).bind fun b _ => ?_
    refine (ih fun b hb => hf b (List.mem_cons_of_mem a hb)).bind fun bs _ => ?_
    exact onlyTask_pure trivial

/-- **What no operation can break** holds to the end. -/
theorem wp_of_only {I : World P B → Prop} {x : Prog P B α} (hx : Only p r x)
    (hothers : ∀ turn w, A turn → I w → I (w.intrude turn.others))
    (hact : ∀ op w, p op → I w → I (w.act op)) (hI : I w) :
    wp A x (fun a w' => I w' ∧ r a) I w := by
  induction hx generalizing w with
  | ret a ha => exact ⟨hI, ha⟩
  | step op next hop _ ih =>
    intro turn hturn
    have hI' := hothers turn w hturn hI
    cases turn.fate
    exacts [ih _ (hact op _ hop hI'), ih _ hI', ih _ (hact op _ hop hI'), hI']

theorem wpTask_of_only {I : World P B → Prop} {x : Task P B ε α} (hx : OnlyTask p r x)
    (hothers : ∀ turn w, A turn → I w → I (w.intrude turn.others))
    (hact : ∀ op w, p op → I w → I (w.act op)) (hI : I w) :
    wpTask A x (fun a w' => I w' ∧ r a) (fun _ => I) I w := by
  refine wp_mono (wp_of_only hx hothers hact hI) (fun outcome w' h => ?_) fun _ hc => hc
  cases outcome with
  | ok a => exact ⟨h.1, h.2 a rfl⟩
  | error e => exact h.1

/-! ## 8. Parts that only read -/

/-- The operation only asks, and reads no file outside `R`. -/
def Op.readsIn (R : P → Prop) : Op P B → Prop
  | .read p => R p
  | .ask => True
  | _ => False

theorem act_of_readsIn {R : P → Prop} {op : Op P B} (h : op.readsIn R) (w : World P B) :
    w.act op = w := by
  cases op with
  | read p => rfl
  | ask => rfl
  | write p b => cases h
  | writeIf p expected b => cases h
  | exchange p b => cases h
  | remove p => cases h
  | list names => cases h
  | stamp p => cases h

theorem answer_of_readsIn {R : P → Prop} {op : Op P B} (h : op.readsIn R) {w w' : World P B}
    (hdisk : ∀ p, R p → w.disk p = w'.disk p) : op.answer w = op.answer w' := by
  cases op with
  | read p => simp only [Op.answer, hdisk p h]
  | ask => rfl
  | write p b => cases h
  | writeIf p expected b => cases h
  | exchange p b => cases h
  | remove p => cases h
  | list names => cases h
  | stamp p => cases h

/-- **What only asks** breaks nothing that other programs do not break. -/
theorem wpTask_of_reads {A : Turn P B → Prop} {I : World P B → Prop} {R : P → Prop} {r : α → Prop}
    {x : Task P B ε α} {w : World P B} (hx : OnlyTask (fun op : Op P B => op.readsIn R) r x)
    (hothers : ∀ turn w, A turn → I w → I (w.intrude turn.others)) (hI : I w) :
    wpTask A x (fun a v => I v ∧ r a) (fun _ => I) I w := by
  refine wpTask_of_only hx hothers (fun op v hop hv => ?_) hI
  rw [act_of_readsIn hop]
  exact hv

/-- The task reads files of `R`, and gives up with an error of `F` when an operation fails. -/
inductive Careful (R : P → Prop) (F : ε → Prop) : Prog P B (Except ε α) → Prop
  | ret (r : Except ε α) : Careful R F (.ret r)
  | step (op : Op P B) (next : Answer P B → Prog P B (Except ε α)) (hop : op.readsIn R)
      (hfail : ∃ e, F e ∧ next .failed = .ret (.error e))
      (hnext : ∀ answer, Careful R F (next answer)) : Careful R F (.step op next)

variable {R : P → Prop} {F : ε → Prop}

theorem Careful.mono {R' : P → Prop} {F' : ε → Prop} {x : Prog P B (Except ε α)}
    (hx : Careful R F x) (hR : ∀ p, R p → R' p) (hF : ∀ e, F e → F' e) : Careful R' F' x := by
  induction hx with
  | ret r => exact .ret r
  | step op next hop hfail _ ih =>
    obtain ⟨e, he, hnext⟩ := hfail
    refine .step op next ?_ ⟨e, hF e he, hnext⟩ ih
    cases op with
    | read p => exact hR p hop
    | ask => trivial
    | _ => cases hop

theorem Careful.bind {x : Task P B ε α} {f : α → Task P B ε β} (hx : Careful R F x.run)
    (hf : ∀ a, Careful R F (f a).run) : Careful R F (x >>= f).run := by
  rw [ExceptT.run_bind]
  generalize x.run = prog at hx
  induction hx with
  | ret r =>
    cases r with
    | ok a => exact hf a
    | error e => exact .ret _
  | step op next hop hfail _ ih =>
    obtain ⟨e, hF, he⟩ := hfail
    refine .step op _ hop ⟨e, hF, ?_⟩ ih
    rw [he]
    rfl

theorem careful_perform {op : Op P B} {f : Answer P B → Task P B ε α} (hop : op.readsIn R)
    (hfail : ∃ e, F e ∧ f .failed = throw e) (hf : ∀ answer, Careful R F (f answer).run) :
    Careful R F (perform op >>= f).run := by
  obtain ⟨e, hF, he⟩ := hfail
  refine .step op _ hop ⟨e, hF, ?_⟩ hf
  exact congrArg ExceptT.run he

theorem Careful.adapt {ε' : Type} {x : Task P B ε α} {F' : ε' → Prop} (hx : Careful R F x.run)
    (f : ε → ε') (hF' : ∀ e, F e → F' (f e)) : Careful R F' (x.adapt f).run := by
  rw [ExceptT.run_adapt]
  generalize x.run = prog at hx
  induction hx with
  | ret r => exact .ret _
  | step op next hop hfail _ ih =>
    obtain ⟨e, hF, he⟩ := hfail
    exact .step op _ hop ⟨f e, hF' e hF, by rw [he]; rfl⟩ ih

theorem careful_pure (a : α) : Careful R F (pure a : Task P B ε α).run := .ret _

theorem careful_throw (e : ε) : Careful R F (throw e : Task P B ε α).run := .ret _

theorem careful_liftExcept (r : Except ε α) :
    Careful R F (liftExcept r : Task P B ε α).run := by
  cases r with
  | ok a => exact .ret _
  | error e => exact .ret _

theorem careful_ensure (c : Prop) [Decidable c] (e : ε) :
    Careful R F (ensure c e : Task P B ε Unit).run := by
  unfold ensure
  split
  · exact .ret _
  · exact .ret _

theorem careful_forEach {f : α → Task P B ε Unit} {l : List α}
    (hf : ∀ a ∈ l, Careful R F (f a).run) : Careful R F (forEach f l).run := by
  induction l with
  | nil => exact .ret _
  | cons a l ih =>
    refine (hf a List.mem_cons_self).bind fun _ => ?_
    exact ih fun b hb => hf b (List.mem_cons_of_mem a hb)

/-- A part that only reads does nothing else. -/
theorem Careful.onlyTask {x : Task P B ε α} (hx : Careful R F x.run) :
    OnlyTask (fun op => op.readsIn R) (fun _ => True) x := by
  unfold OnlyTask
  generalize x.run = prog at hx
  induction hx with
  | ret r => exact .ret r fun _ _ => trivial
  | step op next hop _ _ ih => exact .step op next hop ih

/-- What a program answers when nothing disturbs it, as far as it only reads. -/
def value : Prog P B α → Disk P B → α
  | .ret a, _ => a
  | .step op next, d => value (next (op.answer ⟨d, []⟩)) d

@[simp] theorem value_ret (a : α) (d : Disk P B) : value (Prog.ret a) d = a := rfl

theorem value_bind (x : Prog P B α) (f : α → Prog P B β) (d : Disk P B) :
    value (x >>= f) d = value (f (value x d)) d := by
  induction x with
  | ret a => rfl
  | step op next ih =>
    rw [Prog.step_bind]
    exact ih (op.answer ⟨d, []⟩)

@[simp] theorem value_pure (a : α) (d : Disk P B) : value (pure a : Prog P B α) d = a := rfl

@[simp] theorem value_perform (op : Op P B) (f : Answer P B → Task P B ε α) (d : Disk P B) :
    value (perform op >>= f).run d = value (f (op.answer ⟨d, []⟩)).run d := rfl

@[simp] theorem value_liftExcept (r : Except ε α) (d : Disk P B) :
    value (liftExcept r : Task P B ε α).run d = r := by
  cases r with
  | ok a => rfl
  | error e => rfl

theorem value_task_bind (x : Task P B ε α) (f : α → Task P B ε β) (d : Disk P B) :
    value (x >>= f).run d = match value x.run d with
      | .ok a => value (f a).run d
      | .error e => .error e := by
  rw [ExceptT.run_bind, value_bind]
  cases value x.run d with
  | ok a => rfl
  | error e => rfl

theorem value_adapt {ε' : Type} (x : Task P B ε α) (f : ε → ε') (d : Disk P B) :
    value (x.adapt f).run d = (value x.run d).mapError f := by
  rw [ExceptT.run_adapt]
  exact value_bind _ _ _

theorem value_ensure (c : Prop) [Decidable c] (e : ε) (d : Disk P B) :
    value (ensure c e : Task P B ε Unit).run d = if c then .ok () else .error e := by
  unfold ensure
  split
  · rfl
  · rfl

/-- The first part gives something and the second goes on with it. -/
theorem value_bind_eq_ok {x : Task P B ε α} {f : α → Task P B ε β} {d : Disk P B} {b : β} :
    value (x >>= f).run d = .ok b ↔
      ∃ a, value x.run d = .ok a ∧ value (f a).run d = .ok b := by
  rw [value_task_bind]
  cases value x.run d with
  | ok a =>
    constructor
    · intro h
      exact ⟨a, rfl, h⟩
    · rintro ⟨a', ha, h⟩
      cases ha
      exact h
  | error e =>
    constructor
    · intro h
      cases h
    · rintro ⟨a, ha, -⟩
      cases ha

theorem value_adapt_eq_ok {ε' : Type} {x : Task P B ε α} {f : ε → ε'} {d : Disk P B} {a : α} :
    value (x.adapt f).run d = .ok a ↔ value x.run d = .ok a := by
  rw [value_adapt]
  cases value x.run d with
  | ok b => simp [Except.mapError]
  | error e => simp [Except.mapError]

theorem value_ensure_eq_ok {c : Prop} [Decidable c] {e : ε} {d : Disk P B} {u : Unit} :
    value (ensure c e : Task P B ε Unit).run d = .ok u ↔ c := by
  rw [value_ensure]
  by_cases hc : c
  · simp [hc]
  · simp [hc]

theorem value_forEach_eq_ok {f : α → Task P B ε Unit} {l : List α} {d : Disk P B} {u : Unit} :
    value (forEach f l).run d = .ok u ↔ ∀ a ∈ l, value (f a).run d = .ok () := by
  induction l with
  | nil => simp [forEach]
  | cons a l ih =>
    rw [forEach, value_bind_eq_ok, List.forall_mem_cons, ← ih]
    constructor
    · rintro ⟨_, ha, hrest⟩
      exact ⟨ha, hrest⟩
    · rintro ⟨ha, hrest⟩
      exact ⟨(), ha, hrest⟩

theorem value_congr {x : Prog P B (Except ε α)} (hx : Careful R F x) {d d' : Disk P B}
    (h : ∀ p, R p → d p = d' p) : value x d = value x d' := by
  induction hx with
  | ret r => rfl
  | step op next hop _ _ ih =>
    have hanswer : op.answer (⟨d, []⟩ : World P B) = op.answer ⟨d', []⟩ :=
      answer_of_readsIn hop h
    rw [value, value, hanswer]
    exact ih _

/-- An operation can fail, or be reported as failed. -/
def CanFail (A : Turn P B → Prop) : Prop := ∃ turn, A turn ∧ (turn.fate = .fail ∨ turn.fate = .late)

/-- An operation can take place and be reported as failed. -/
def CanBeLate (A : Turn P B → Prop) : Prop := ∃ turn, A turn ∧ turn.fate = .late

theorem not_canFail_undisturbed : ¬ CanFail (Undisturbed : Turn P B → Prop) := by
  rintro ⟨turn, ⟨-, hok⟩, hfail | hlate⟩
  · rw [hok] at hfail
    cases hfail
  · rw [hok] at hlate
    cases hlate

/-- **A part that only reads** answers its value, unless an operation fails, while other programs
leave alone the files it reads. -/
theorem wpTask_of_careful {I : World P B → Prop} {x : Task P B ε α} (hx : Careful R F x.run)
    (hothers : ∀ turn w, A turn → I w → I (w.intrude turn.others))
    (hR : ∀ turn, A turn → ∀ o ∈ turn.others, ¬ R o.1) (hC : ∀ w, I w → C w) (hI : I w) :
    wpTask A x
      (fun a w' => I w' ∧ value x.run w.disk = .ok a)
      (fun e w' => I w' ∧ (value x.run w.disk = .error e ∨ CanFail A ∧ F e)) C w := by
  unfold wpTask
  generalize x.run = prog at hx
  induction hx generalizing w with
  | ret r =>
    cases r with
    | ok a => exact ⟨hI, rfl⟩
    | error e => exact ⟨hI, .inl rfl⟩
  | step op next hop hfail hnext ih =>
    intro turn hturn
    have hI' := hothers turn w hturn hI
    have hsame : ∀ p, R p → (w.intrude turn.others).disk p = w.disk p := fun p hp =>
      World.disk_intrude_other _ fun o ho h => hR turn hturn o ho (h ▸ hp)
    obtain ⟨e, hF, he⟩ := hfail
    cases hfate : turn.fate with
    | ok =>
      have hanswer : op.answer (w.intrude turn.others) = op.answer ⟨w.disk, []⟩ :=
        answer_of_readsIn hop hsame
      have hvalue : value (.step op next) w.disk =
          value (next (op.answer (w.intrude turn.others))) (w.intrude turn.others).disk := by
        rw [value, ← hanswer]
        exact value_congr (hnext _) fun p hp => (hsame p hp).symm
      rw [act_of_readsIn hop, hvalue]
      exact ih _ hI'
    | fail =>
      simp only [he]
      exact ⟨hI', .inr ⟨⟨turn, hturn, .inl hfate⟩, hF⟩⟩
    | late =>
      simp only [he, act_of_readsIn hop]
      exact ⟨hI', .inr ⟨⟨turn, hturn, .inr hfate⟩, hF⟩⟩
    | crash => exact hC _ hI'

section

variable {I : World P B → Prop} {x : Task P B ε β} (hx : Careful R F x.run)
  (hothers : ∀ turn w, A turn → I w → I (w.intrude turn.others))
  (hR : ∀ turn, A turn → ∀ o ∈ turn.others, ¬ R o.1) (hC : ∀ w, I w → C w) (hI : I w)
include hx hothers hR hC hI

/-- A part that only reads, and what comes after it. -/
theorem wpTask_careful_bind {f : β → Task P B ε α}
    (hok : ∀ b w', I w' → value x.run w.disk = .ok b → wpTask A (f b) good bad C w')
    (hbad : ∀ e w', I w' → value x.run w.disk = .error e ∨ CanFail A ∧ F e → bad e w') :
    wpTask A (x >>= f) good bad C w := by
  rw [wpTask_bind]
  exact wpTask_mono (wpTask_of_careful hx hothers hR hC hI) (fun b w' h => hok b w' h.1 h.2)
    (fun e w' h => hbad e w' h.1 h.2) fun _ hc => hc

/-- A part that only reads, and what comes after it whatever its outcome is. -/
theorem wpTask_careful_attempt {ε' : Type} {f : Except ε β → Task P B ε' α}
    {bad : ε' → World P B → Prop}
    (hok : ∀ b w', I w' → value x.run w.disk = .ok b → wpTask A (f (.ok b)) good bad C w')
    (herror : ∀ e w', I w' → value x.run w.disk = .error e ∨ CanFail A ∧ F e →
      wpTask A (f (.error e)) good bad C w') :
    wpTask A (attempt x >>= f) good bad C w := by
  rw [wpTask_bind, wpTask_attempt]
  exact wpTask_mono (wpTask_of_careful hx hothers hR hC hI) (fun b w' h => hok b w' h.1 h.2)
    (fun e w' h => herror e w' h.1 h.2) fun _ hc => hc

end

/-- The same of a process that can only be interrupted: its answer is the value, whatever it is. -/
theorem wp_interrupted_of_careful {Q : Except ε α → World P B → Prop}
    {x : Prog P B (Except ε α)} (hx : Careful R F x) (hC : C w) (hQ : Q (value x w.disk) w) :
    wp Interrupted x Q C w := by
  induction hx with
  | ret r => exact hQ
  | step op next hop hfail hnext ih =>
    rw [wp_interrupted, act_of_readsIn hop]
    have hanswer : op.answer w = op.answer ⟨w.disk, []⟩ := answer_of_readsIn hop fun _ _ => rfl
    rw [value, ← hanswer] at hQ
    exact ⟨ih _ hQ, hC⟩

theorem wpTask_careful_interrupted {x : Task P B ε α} (hx : Careful R F x.run) (hC : C w)
    (h : Ends good bad (value x.run w.disk) w) : wpTask Interrupted x good bad C w :=
  wp_interrupted_of_careful hx hC h

/-- And of one that nothing disturbs. -/
theorem wpTask_careful_undisturbed {x : Task P B ε α} (hx : Careful R F x.run)
    (h : Ends good bad (value x.run w.disk) w) : wpTask Undisturbed x good bad C w := by
  unfold wpTask
  generalize x.run = prog at hx h
  induction hx with
  | ret r => exact h
  | step op next hop _ _ ih =>
    rw [wp_undisturbed, act_of_readsIn hop]
    have hanswer : op.answer w = op.answer ⟨w.disk, []⟩ := answer_of_readsIn hop fun _ _ => rfl
    rw [value, ← hanswer] at h
    exact ih _ h

end

/-! ## 9. What was logged before -/

section

variable [DecidableEq P] [DecidableEq B]

/-- The operation does not ask when a file was written. -/
def Op.Timeless : Op P B → Prop
  | .stamp _ => False
  | _ => True

theorem timeless_of_readsIn {R : P → Prop} {op : Op P B} (h : op.readsIn R) : op.Timeless := by
  cases op with
  | stamp p => exact h
  | _ => trivial

/-- The world with what had been logged before. -/
def World.since (w : World P B) (base : List (Event P B)) : World P B := ⟨w.disk, w.log ++ base⟩

theorem World.since_intrude (w : World P B) (base : List (Event P B)) (others : List (P × Option B)) :
    (w.since base).intrude others = (w.intrude others).since base := by
  induction others generalizing w with
  | nil => rfl
  | cons o others ih => exact ih (w.other o.1 o.2)

theorem World.since_act (w : World P B) (base : List (Event P B)) (op : Op P B) :
    (w.since base).act op = (w.act op).since base := by
  have hsets : op.sets (w.since base).disk = op.sets w.disk := rfl
  unfold World.act
  rw [hsets]
  cases op.sets w.disk <;> rfl

theorem replay_append (d : Disk P B) (log base : List (Event P B)) :
    replay d (log ++ base) = replay (replay d base) log := by
  induction log with
  | nil => rfl
  | cons e log ih => rw [List.cons_append, replay, replay, ih]

theorem Logged.since {d : Disk P B} {start w : World P B} (hstart : Logged d start)
    (h : Logged start.disk w) : Logged d (w.since start.log) := by
  unfold Logged World.since
  rw [replay_append, ← hstart]
  exact h

theorem Op.Timeless.answer {op : Op P B} (h : op.Timeless) (w : World P B) (base : List (Event P B)) :
    op.answer (w.since base) = op.answer w := by
  cases op with
  | stamp p => exact h.elim
  | _ => rfl

/-- **What was logged before** does not matter to a program that asks for no time. -/
theorem wp_since {A : Turn P B → Prop} {Q : α → World P B → Prop} {C : World P B → Prop}
    {x : Prog P B α} (hx : Only Op.Timeless (fun _ => True) x) {w : World P B} (h : wp A x Q C w)
    (base : List (Event P B)) :
    wp A x (fun a v => ∃ u, v = World.since u base ∧ Q a u)
      (fun v => ∃ u, v = World.since u base ∧ C u) (w.since base) := by
  induction hx generalizing w with
  | ret a _ => exact ⟨w, rfl, h⟩
  | step op next hop _ ih =>
    intro turn hturn
    have hstep := h turn hturn
    rw [World.since_intrude, World.since_act, hop.answer]
    cases hfate : turn.fate with
    | ok =>
      rw [hfate] at hstep
      exact ih _ hstep
    | fail =>
      rw [hfate] at hstep
      exact ih _ hstep
    | late =>
      rw [hfate] at hstep
      exact ih _ hstep
    | crash =>
      rw [hfate] at hstep
      exact ⟨_, rfl, hstep⟩

theorem wpTask_since {A : Turn P B → Prop} {good : α → World P B → Prop}
    {bad : ε → World P B → Prop} {C : World P B → Prop} {x : Task P B ε α}
    (hx : OnlyTask Op.Timeless (fun _ => True) x) {w : World P B} (h : wpTask A x good bad C w)
    (base : List (Event P B)) :
    wpTask A x (fun a v => ∃ u, v = World.since u base ∧ good a u)
      (fun e v => ∃ u, v = World.since u base ∧ bad e u)
      (fun v => ∃ u, v = World.since u base ∧ C u) (w.since base) := by
  refine wp_mono (wp_since (Only.mono hx (fun _ h => h) fun _ _ => trivial) h base)
    (fun r v hr => ?_) fun _ hc => hc
  cases r with
  | ok a => exact hr
  | error e => exact hr

end

/-! ## 10. A program that has the files for itself -/

section

variable [DecidableEq P] [DecidableEq B]

/-- No other program writes. -/
def Alone (turn : Turn P B) : Prop := turn.others = []

/-- The task ends in `good`, or gives up or stops in `J`, while no other program writes. -/
def Leads (x : Task P B ε α) (good : α → World P B → Prop) (J : World P B → Prop)
    (w : World P B) : Prop :=
  wpTask Alone x good (fun _ => J) J w

variable {J : World P B → Prop} {w : World P B} {good : α → World P B → Prop}

theorem Leads.mono {good' : α → World P B → Prop} {J' : World P B → Prop} {x : Task P B ε α}
    (h : Leads x good J w) (hgood : ∀ a v, good a v → good' a v) (hJ : ∀ v, J v → J' v) :
    Leads x good' J' w :=
  wpTask_mono h hgood (fun _ => hJ) hJ

theorem leads_pure {a : α} (h : good a w) : Leads (pure a : Task P B ε α) good J w := h

theorem leads_throw {e : ε} (h : J w) : Leads (throw e : Task P B ε α) good J w := h

theorem leads_bind {x : Task P B ε β} {f : β → Task P B ε α}
    (h : Leads x (fun b v => Leads (f b) good J v) J w) : Leads (x >>= f) good J w :=
  wpTask_bind.mpr h

theorem leads_ensure {c : Prop} [Decidable c] {e : ε} {good : Unit → World P B → Prop} (hJ : J w)
    (h : c → good () w) : Leads (ensure c e : Task P B ε Unit) good J w := by
  unfold ensure
  split
  · exact h ‹_›
  · exact hJ

theorem leads_ensure_bind {c : Prop} [Decidable c] {e : ε} {f : Unit → Task P B ε α} (hJ : J w)
    (h : c → Leads (f ()) good J w) : Leads (ensure c e >>= f) good J w :=
  leads_bind (leads_ensure hJ h)

theorem leads_attempt {ε' : Type} {x : Task P B ε β} {good : Except ε β → World P B → Prop}
    {ended : β → World P B → Prop} {stopped : World P B → Prop} (h : Leads x ended stopped w)
    (hok : ∀ b v, ended b v → good (.ok b) v) (herror : ∀ e v, stopped v → good (.error e) v)
    (hJ : ∀ v, stopped v → J v) : Leads (attempt x : Task P B ε' _) good J w :=
  wpTask_attempt.mpr (wpTask_mono h hok herror hJ)

theorem leads_adapt {ε' : Type} {x : Task P B ε α} {f : ε → ε'} (h : Leads x good J w) :
    Leads (x.adapt f) good J w :=
  wpTask_adapt.mpr h

theorem leads_perform {op : Op P B} {good : Answer P B → World P B → Prop}
    (hok : good (op.answer w) (w.act op)) (hfail : good .failed w) (hlate : good .failed (w.act op))
    (hJ : J w) : Leads (perform op : Task P B ε _) good J w := by
  rintro ⟨others, fate⟩ (rfl : others = [])
  cases fate with
  | ok => exact hok
  | fail => exact hfail
  | late => exact hlate
  | crash => exact hJ

/-- A part that only reads leaves everything as it is. -/
theorem leads_careful {R : P → Prop} {F : ε → Prop} {x : Task P B ε α} (hx : Careful R F x.run)
    (hJ : J w) (h : ∀ a, value x.run w.disk = .ok a → good a w) : Leads x good J w := by
  refine wpTask_mono (wpTask_of_careful (I := (· = w)) hx ?_ ?_ (fun _ hv => hv) rfl) ?_ ?_ ?_
  · rintro turn v (hturn : turn.others = []) rfl
    rw [hturn]
    rfl
  · intro turn (hturn : turn.others = []) o ho
    rw [hturn] at ho
    cases ho
  · rintro a v ⟨rfl, ha⟩
    exact h a ha
  · rintro e v ⟨rfl, -⟩
    exact hJ
  · rintro v rfl
    exact hJ

theorem leads_careful_bind {R : P → Prop} {F : ε → Prop} {x : Task P B ε β}
    {f : β → Task P B ε α} (hx : Careful R F x.run) (hJ : J w)
    (h : ∀ b, value x.run w.disk = .ok b → Leads (f b) good J w) : Leads (x >>= f) good J w :=
  leads_bind (leads_careful hx hJ h)

/-- What becomes of a task that has the files for itself. -/
theorem leads_sound {x : Task P B ε α} (h : Leads x good J w) {plan : List (Turn P B)}
    (hplan : ∀ turn ∈ plan, Alone turn) :
    match run x.run plan w with
    | (some (.ok a), v) => good a v
    | (some (.error _), v) => J v
    | (none, v) => J v := by
  have hsound := wp_sound h rfl hplan
  generalize run x.run plan w = ended at hsound
  match ended, hsound with
  | (some (.ok a), v), hsound => exact hsound
  | (some (.error e), v), hsound => exact hsound
  | (none, v), hsound => exact hsound

end

/-! ## 11. The errors of a task -/

section

variable [DecidableEq P] [DecidableEq B] {E : ε → Prop}

/-- Whatever is answered, the task gives up with errors of `E` only. -/
def Throws (E : ε → Prop) (x : Task P B ε α) : Prop :=
  Only (fun _ => True) (fun outcome => ∀ e, outcome = .error e → E e) x.run

theorem throws_pure (a : α) : Throws E (pure a : Task P B ε α) := .ret _ fun _ he => by cases he

theorem throws_throw {e : ε} (h : E e) : Throws E (throw e : Task P B ε α) := by
  refine .ret _ fun e' he => ?_
  cases he
  exact h

theorem Throws.mono {E' : ε → Prop} {x : Task P B ε α} (hx : Throws E x) (h : ∀ e, E e → E' e) :
    Throws E' x :=
  Only.mono hx (fun _ h => h) fun _ hout e he => h e (hout e he)

theorem Throws.bind {x : Task P B ε α} {f : α → Task P B ε β} (hx : Throws E x)
    (hf : ∀ a, Throws E (f a)) : Throws E (x >>= f) := by
  unfold Throws
  rw [ExceptT.run_bind]
  refine Only.bind hx fun outcome hout => ?_
  cases outcome with
  | ok a => exact hf a
  | error e => exact throws_throw (hout e rfl)

theorem throws_ensure {c : Prop} [Decidable c] {e : ε} (h : E e) :
    Throws E (ensure c e : Task P B ε Unit) := by
  unfold ensure
  by_cases hc : c
  · rw [if_pos hc]
    exact throws_pure ()
  · rw [if_neg hc]
    exact throws_throw h

theorem throws_perform {op : Op P B} {f : Answer P B → Task P B ε α}
    (hf : ∀ answer, Throws E (f answer)) : Throws E (perform op >>= f) :=
  .step op _ trivial hf

theorem throws_liftExcept {outcome : Except ε α} (h : ∀ e, outcome = .error e → E e) :
    Throws E (liftExcept outcome : Task P B ε α) := by
  cases outcome with
  | ok a => exact throws_pure a
  | error e => exact throws_throw (h e rfl)

theorem throws_attempt_bind {ε' : Type} {E' : ε' → Prop} {x : Task P B ε' α}
    {f : Except ε' α → Task P B ε β} (hx : Throws E' x) (hok : ∀ a, Throws E (f (.ok a)))
    (herror : ∀ e, E' e → Throws E (f (.error e))) : Throws E (attempt x >>= f) := by
  have hattempt : Only (fun _ => True)
      (fun tried => ∃ outcome, tried = .ok outcome ∧ ∀ e, outcome = .error e → E' e)
      (attempt x : Task P B ε (Except ε' α)).run := by
    unfold attempt
    rw [ExceptT.run_lift]
    exact Only.bind hx fun outcome hout => .ret _ ⟨outcome, rfl, hout⟩
  unfold Throws
  rw [ExceptT.run_bind]
  refine Only.bind hattempt fun tried htried => ?_
  obtain ⟨outcome, rfl, hout⟩ := htried
  cases outcome with
  | ok a => exact hok a
  | error e => exact herror e (hout e rfl)

theorem Throws.adapt {ε' : Type} {E' : ε' → Prop} {x : Task P B ε α} (hx : Throws E x) {f : ε → ε'}
    (h : ∀ e, E e → E' (f e)) : Throws E' (x.adapt f) := by
  unfold Throws
  rw [ExceptT.run_adapt]
  refine Only.bind hx fun outcome hout => .ret _ fun e he => ?_
  cases outcome with
  | ok a => cases he
  | error e' =>
    cases he
    exact h e' (hout e' rfl)

theorem throws_forEach {f : α → Task P B ε Unit} {l : List α} (hf : ∀ a ∈ l, Throws E (f a)) :
    Throws E (forEach f l) := by
  induction l with
  | nil => exact throws_pure ()
  | cons a l ih =>
    refine (hf a List.mem_cons_self).bind fun _ => ?_
    exact ih fun b hb => hf b (List.mem_cons_of_mem a hb)

/-- What is proved of a task, and of its errors. -/
theorem Throws.wpTask {A : Turn P B → Prop} {good : α → World P B → Prop}
    {bad : ε → World P B → Prop} {C : World P B → Prop} {x : Task P B ε α} {w : World P B}
    (hx : Throws E x) (h : wpTask A x good bad C w) :
    wpTask A x good (fun e v => bad e v ∧ E e) C w := by
  have herrors := wp_of_only (A := A) (I := fun _ : World P B => True) (w := w) hx
    (fun _ _ _ _ => trivial) (fun _ _ _ _ => trivial) trivial
  refine wp_mono (wp_and h herrors) (fun outcome v hout => ?_) fun _ hC => hC.1
  cases outcome with
  | ok a => exact hout.1
  | error e => exact ⟨hout.1, hout.2.2 e rfl⟩

end

/-! ## 12. Undisturbed runs, and files out of reach -/

section

variable [DecidableEq P] [DecidableEq B]

/-- What an undisturbed program answers, and what it leaves behind. -/
def exec : Prog P B α → World P B → α × World P B
  | .ret a, w => (a, w)
  | .step op next, w => exec (next (op.answer w)) (w.act op)

theorem run_nil (x : Prog P B α) (w : World P B) : run x [] w = (some (exec x w).1, (exec x w).2) := by
  induction x generalizing w with
  | ret a => rfl
  | step op next ih => exact ih _ _

theorem exec_bind (x : Prog P B α) (f : α → Prog P B β) (w : World P B) :
    exec (x >>= f) w = exec (f (exec x w).1) (exec x w).2 := by
  induction x generalizing w with
  | ret a => rfl
  | step op next ih =>
    rw [Prog.step_bind]
    exact ih _ _

theorem exec_task_bind (x : Task P B ε α) (f : α → Task P B ε β) (w : World P B) :
    exec (x >>= f).run w = match (exec x.run w).1 with
      | .ok a => exec (f a).run (exec x.run w).2
      | .error e => (.error e, (exec x.run w).2) := by
  rw [ExceptT.run_bind, exec_bind]
  cases (exec x.run w).1 with
  | ok a => rfl
  | error e => rfl

/-- A part that only reads answers its value. -/
theorem exec_careful {R : P → Prop} {F : ε → Prop} {x : Prog P B (Except ε α)} (hx : Careful R F x)
    (w : World P B) : exec x w = (value x w.disk, w) := by
  induction hx generalizing w with
  | ret r => rfl
  | step op next hop _ _ ih =>
    have hanswer : op.answer w = op.answer ⟨w.disk, []⟩ := answer_of_readsIn hop fun _ _ => rfl
    rw [exec, ih, act_of_readsIn hop, value, hanswer]

theorem exec_attempt {ε' : Type} (x : Task P B ε α) (w : World P B) :
    exec (attempt x : Task P B ε' (Except ε α)).run w = (.ok (exec x.run w).1, (exec x.run w).2) := by
  unfold attempt
  rw [ExceptT.run_lift]
  exact exec_bind _ _ _

/-- The operation has nothing to do with the files of `X`, and does not ask for a time. -/
def Op.Avoids (X : P → Prop) : Op P B → Prop
  | .read p => ¬ X p
  | .write p _ => ¬ X p
  | .writeIf p _ _ => ¬ X p
  | .exchange p _ => ¬ X p
  | .remove p => ¬ X p
  | .list names => ∀ p ∈ names, ¬ X p
  | .stamp _ => False
  | .ask => True

theorem Op.Avoids.mono {X Y : P → Prop} {op : Op P B} (h : op.Avoids X) (hXY : ∀ p, Y p → X p) :
    op.Avoids Y := by
  cases op with
  | stamp p => exact h
  | ask => exact h
  | list names => exact fun p hp hY => h p hp (hXY p hY)
  | _ => exact fun hY => h (hXY _ hY)

theorem avoids_of_readsIn {X R : P → Prop} {op : Op P B} (h : op.readsIn R) (hR : ∀ p, R p → ¬ X p) :
    op.Avoids X := by
  cases op with
  | read p => exact hR p h
  | ask => trivial
  | _ => exact h.elim

/-- The disks differ on the files of `X` at most. -/
def SameBut (X : P → Prop) (w w' : World P B) : Prop := ∀ p, ¬ X p → w.disk p = w'.disk p

theorem Op.Avoids.answer {X : P → Prop} {op : Op P B} (h : op.Avoids X) {w w' : World P B}
    (hw : SameBut X w w') : op.answer w = op.answer w' := by
  cases op with
  | ask => rfl
  | stamp p => exact h.elim
  | write p b => rfl
  | list names =>
    simp only [Op.answer]
    rw [List.filter_congr fun p hp => by rw [hw p (h p hp)]]
  | _ => simp only [Op.answer, hw _ h]

theorem Op.Avoids.sets {X : P → Prop} {op : Op P B} (h : op.Avoids X) {d d' : Disk P B}
    (hd : ∀ p, ¬ X p → d p = d' p) :
    op.sets d = op.sets d' ∧ ∀ p b, op.sets d = some (p, b) → ¬ X p := by
  cases op with
  | read p => exact ⟨rfl, fun _ _ h => by cases h⟩
  | list names => exact ⟨rfl, fun _ _ h => by cases h⟩
  | stamp p => exact h.elim
  | ask => exact ⟨rfl, fun _ _ h => by cases h⟩
  | write p b =>
    refine ⟨rfl, fun q b' hq => ?_⟩
    cases hq
    exact h
  | writeIf p expected b =>
    simp only [Op.sets, hd p h]
    refine ⟨trivial, fun q b' hq => ?_⟩
    split at hq
    · cases hq
      exact h
    · cases hq
  | exchange p b =>
    simp only [Op.sets, hd p h]
    refine ⟨trivial, fun q b' hq => ?_⟩
    split at hq
    · cases hq
    · cases hq
      exact h
  | remove p =>
    simp only [Op.sets, hd p h]
    refine ⟨trivial, fun q b' hq => ?_⟩
    split at hq
    · cases hq
    · cases hq
      exact h

theorem Op.Avoids.act {X : P → Prop} {op : Op P B} (h : op.Avoids X) {w w' : World P B}
    (hw : SameBut X w w') : SameBut X (w.act op) (w'.act op) := by
  obtain ⟨hsets, -⟩ := h.sets hw
  intro p hp
  unfold World.act
  rw [← hsets]
  cases op.sets w.disk with
  | none => exact hw p hp
  | some pb =>
    by_cases heq : p = pb.1
    · rw [heq, World.disk_own_same, World.disk_own_same]
    · rw [World.disk_own_other _ _ heq, World.disk_own_other _ _ heq]
      exact hw p hp

/-- **What is out of reach stays as it is.** -/
theorem exec_frame {X : P → Prop} {r : α → Prop} {x : Prog P B α} (hx : Only (Op.Avoids X) r x)
    (w : World P B) {p : P} (hp : X p) : (exec x w).2.disk p = w.disk p := by
  induction hx generalizing w with
  | ret a _ => rfl
  | step op next hop _ ih =>
    refine (ih _ _).trans ?_
    obtain ⟨-, hsets⟩ := hop.sets (d := w.disk) (fun _ _ => rfl)
    unfold World.act
    cases hs : op.sets w.disk with
    | none => rfl
    | some pb => exact World.disk_own_other _ _ fun heq => hsets _ _ hs (heq ▸ hp)

/-- **What is out of reach does not matter.** -/
theorem exec_sameBut {X : P → Prop} {r : α → Prop} {x : Prog P B α} (hx : Only (Op.Avoids X) r x)
    {w w' : World P B} (hw : SameBut X w w') :
    (exec x w).1 = (exec x w').1 ∧ SameBut X (exec x w).2 (exec x w').2 := by
  induction hx generalizing w w' with
  | ret a _ => exact ⟨rfl, hw⟩
  | step op next hop _ ih =>
    rw [exec, exec, ← hop.answer hw]
    exact ih _ (hop.act hw)

end

end Files
