/-
# Operations that take place or fail

A program that has the files for itself, and whose operations take place or fail, but are not
reported as failed when they have taken place, may still be stopped in front of any of them.
`Keeps J x good w` says that `x`, started in `w`, ends in `good`, and that `J` holds of the files it
leaves behind when it gives up or is stopped.  What is asked of `J` is then asked once for each
operation that sets a file, and nowhere else.
-/
import Kf2Optimizer.Lib.Files

set_option linter.unusedSectionVars false

namespace Files

variable {P B ε α β : Type} [DecidableEq P] [DecidableEq B]

/-- No other program writes, and what is reported as failed has not taken place. -/
def Atomically (turn : Turn P B) : Prop := turn.others = [] ∧ turn.fate ≠ .late

theorem not_canBeLate_atomically : ¬ CanBeLate (Atomically : Turn P B → Prop) := fun ⟨_, h, hlate⟩ => h.2 hlate

theorem Atomically.intrude {turn : Turn P B} (h : Atomically turn) (w : World P B) : w.intrude turn.others = w := by
  rw [h.1]
  rfl

/-- The task ends in `good`, or gives up or stops in `J`. -/
def Keeps (J : Disk P B → Prop) (x : Task P B ε α) (good : α → Disk P B → Prop) (w : World P B) : Prop :=
  wpTask Atomically x (fun a v => good a v.disk) (fun _ v => J v.disk) (fun v => J v.disk) w

variable {J : Disk P B → Prop} {good : β → Disk P B → Prop} {w : World P B}

theorem Keeps.mono {J' : Disk P B → Prop} {good' : β → Disk P B → Prop} {x : Task P B ε β}
    (h : Keeps J x good w) (hgood : ∀ b d, good b d → good' b d) (hJ : ∀ d, J d → J' d) :
    Keeps J' x good' w :=
  wpTask_mono h (fun b v hb => hgood b v.disk hb) (fun _ v hv => hJ v.disk hv) fun v hv => hJ v.disk hv

/-- **One task after another.** -/
theorem keeps_bind {x : Task P B ε α} {f : α → Task P B ε β} {M : α → Disk P B → Prop}
    (h : Keeps J x M w) (hf : ∀ a v, M a v.disk → Keeps J (f a) good v) : Keeps J (x >>= f) good w :=
  wpTask_bind.mpr (wpTask_mono h (fun a v ha => hf a v ha) (fun _ _ h => h) fun _ h => h)

theorem keeps_ensure_bind {c : Prop} [Decidable c] {e : ε} {f : Unit → Task P B ε β} (hJ : J w.disk)
    (h : c → Keeps J (f ()) good w) : Keeps J (ensure c e >>= f) good w :=
  wpTask_ensure (fun _ => hJ) h

/-- A part that only reads leaves everything as it is. -/
theorem keeps_careful {R : P → Prop} {F : ε → Prop} {x : Task P B ε β} (hx : Careful R F x.run)
    (hJ : J w.disk) (h : ∀ b, value x.run w.disk = .ok b → good b w.disk) : Keeps J x good w := by
  refine wpTask_mono (wpTask_of_careful (I := (· = w)) hx ?_ ?_ (fun _ hv => hv) rfl) ?_ ?_ ?_
  · rintro turn v hturn rfl
    exact hturn.intrude v
  · intro turn hturn o ho
    rw [hturn.1] at ho
    cases ho
  · rintro b v ⟨rfl, hb⟩
    exact h b hb
  · rintro e v ⟨rfl, -⟩
    exact hJ
  · rintro v rfl
    exact hJ

theorem keeps_careful_bind {R : P → Prop} {F : ε → Prop} {x : Task P B ε α} {f : α → Task P B ε β}
    (hx : Careful R F x.run) (hJ : J w.disk)
    (h : ∀ a, value x.run w.disk = .ok a → Keeps J (f a) good w) : Keeps J (x >>= f) good w := by
  refine wpTask_careful_bind (I := (· = w)) hx ?_ ?_ (fun v hv => ?_) rfl ?_ ?_
  · rintro turn v hturn rfl
    exact hturn.intrude v
  · intro turn hturn o ho
    rw [hturn.1] at ho
    cases ho
  · subst hv
    exact hJ
  · rintro a v rfl ha
    exact h a ha
  · rintro e v rfl -
    exact hJ

theorem keeps_attempt_bind {ε' : Type} {x : Task P B ε' α} {f : Except ε' α → Task P B ε β}
    {E : α → Disk P B → Prop} {S : Disk P B → Prop} (h : Keeps S x E w)
    (hok : ∀ a v, E a v.disk → Keeps J (f (.ok a)) good v)
    (herror : ∀ e v, S v.disk → Keeps J (f (.error e)) good v) (hJ : ∀ d, S d → J d) :
    Keeps J (attempt x >>= f) good w :=
  wpTask_bind.mpr (wpTask_attempt.mpr (wpTask_mono h (fun a v ha => hok a v ha)
    (fun e v he => herror e v he) fun v hv => hJ v.disk hv))

theorem keeps_adapt {ε' : Type} {x : Task P B ε β} {f : ε → ε'} (h : Keeps J x good w) :
    Keeps J (x.adapt f) good w :=
  wpTask_adapt.mpr h

/-- **The loop rule**: `I` holds of what has been done so far. -/
theorem keeps_forEach {f : α → Task P B ε Unit} {l : List α} {I : List α → Disk P B → Prop}
    (hstep : ∀ before a rest v, l = before ++ a :: rest → I before v.disk →
      Keeps J (f a) (fun _ => I (before ++ [a])) v) (hinit : I [] w.disk) :
    Keeps J (forEach f l) (fun _ => I l) w :=
  wpTask_forEach (I := fun before v => I before v.disk) hstep (fun _ h => h) hinit

/-- **The loop rule** where every round gives something. -/
theorem keeps_collect {f : α → Task P B ε β} {l : List α} {I : List α → List β → Disk P B → Prop}
    (hstep : ∀ before a rest bs v, l = before ++ a :: rest → I before bs v.disk →
      Keeps J (f a) (fun b => I (before ++ [a]) (bs ++ [b])) v) (hinit : I [] [] w.disk) :
    Keeps J (collect f l) (fun bs => I l bs) w :=
  wpTask_collect (I := fun before bs v => I before bs v.disk) hstep (fun _ _ h => h) hinit

/-- What becomes of the task. -/
theorem keeps_sound {x : Task P B ε β} (h : Keeps J x good w) {plan : List (Turn P B)}
    (hplan : ∀ turn ∈ plan, Atomically turn) (hgood : ∀ b d, good b d → J d) :
    J (run x.run plan w).2.disk ∧
      ∀ b, (run x.run plan w).1 = some (.ok b) → good b (run x.run plan w).2.disk := by
  have hsound := wp_sound h ⟨rfl, by simp⟩ hplan
  generalize run x.run plan w = ended at hsound
  match ended, hsound with
  | (some (.ok b), v), hsound =>
    refine ⟨hgood b _ hsound, fun b' hb' => ?_⟩
    cases hb'
    exact hsound
  | (some (.error e), v), hsound => exact ⟨hsound, fun b hb => by cases hb⟩
  | (none, v), hsound => exact ⟨hsound, fun b hb => by cases hb⟩

end Files
