/-
# Runs of a deterministic step machine

A machine is a step function `σ → ι → σ`: a state, an input, the next state.  Its run over a
list of inputs is a left fold.  This module packages, once, the inductions every safety proof
about such a machine needs:

* `exec_invariant`: what one step preserves holds after every run;
* `exec_invariant_along`: the same for the runs whose every step meets a side condition;
* `along_of_invariant`: a property of each step that such an invariant implies;
* `emitted`: what the steps of a run emit, in order.

Nothing here knows what the machine is.
-/
import Mathlib.Data.List.Basic

namespace StepMachine

variable {σ ι ω : Type}

/-! ## 1. Runs -/

/-- The state after the inputs `is`, taken in order from `s`. -/
def exec (step : σ → ι → σ) (s : σ) (is : List ι) : σ := is.foldl step s

@[simp] theorem exec_nil (step : σ → ι → σ) (s : σ) : exec step s [] = s := rfl

@[simp] theorem exec_cons (step : σ → ι → σ) (s : σ) (i : ι) (is : List ι) :
    exec step s (i :: is) = exec step (step s i) is := rfl

theorem exec_append (step : σ → ι → σ) (s : σ) (is js : List ι) :
    exec step s (is ++ js) = exec step (exec step s is) js :=
  List.foldl_append

theorem exec_snoc (step : σ → ι → σ) (s : σ) (is : List ι) (i : ι) :
    exec step s (is ++ [i]) = step (exec step s is) i := by
  rw [exec_append]; rfl

/-- **The invariant rule.**  What holds initially and survives each step holds after every
run. -/
theorem exec_invariant {step : σ → ι → σ} {I : σ → Prop}
    (hstep : ∀ s i, I s → I (step s i)) : ∀ (is : List ι) (s : σ), I s → I (exec step s is)
  | [], _, h => h
  | i :: is, s, h => exec_invariant hstep is (step s i) (hstep s i h)

/-! ## 2. Side conditions on the steps of a run -/

/-- `Along step P s is`: every step of the run over `is` from `s` meets `P`, which may read
the state before the step and its input. -/
def Along (step : σ → ι → σ) (P : σ → ι → Prop) : σ → List ι → Prop
  | _, [] => True
  | s, i :: is => P s i ∧ Along step P (step s i) is

instance decidableAlong {step : σ → ι → σ} {P : σ → ι → Prop} [∀ s i, Decidable (P s i)] :
    ∀ (s : σ) (is : List ι), Decidable (Along step P s is)
  | _, [] => isTrue trivial
  | s, i :: is => @instDecidableAnd _ _ _ (decidableAlong (step s i) is)

theorem along_append {step : σ → ι → σ} {P : σ → ι → Prop} : ∀ {s : σ} {is js : List ι},
    Along step P s (is ++ js) ↔ Along step P s is ∧ Along step P (exec step s is) js
  | _, [], _ => by simp [Along]
  | s, i :: is, js => by
    simp only [List.cons_append, Along, exec_cons, along_append, and_assoc]

/-- The invariant rule for the runs whose steps all meet a side condition. -/
theorem exec_invariant_along {step : σ → ι → σ} {P : σ → ι → Prop} {I : σ → Prop}
    (hstep : ∀ s i, I s → P s i → I (step s i)) :
    ∀ (is : List ι) (s : σ), I s → Along step P s is → I (exec step s is)
  | [], _, h, _ => h
  | i :: is, s, h, hal => exec_invariant_along hstep is (step s i) (hstep s i h hal.1) hal.2

/-- **The safety rule.**  If an invariant, kept by the steps that meet `P`, makes each such step
meet `Q`, then a run whose steps all meet `P` has steps that all meet `Q`. -/
theorem along_of_invariant {step : σ → ι → σ} {P Q : σ → ι → Prop} {I : σ → Prop}
    (hstep : ∀ s i, I s → P s i → I (step s i)) (hsafe : ∀ s i, I s → P s i → Q s i) :
    ∀ (is : List ι) (s : σ), I s → Along step P s is → Along step Q s is
  | [], _, _, _ => trivial
  | i :: rest, s, h, hal => ⟨hsafe s i h hal.1,
      along_of_invariant hstep hsafe rest (step s i) (hstep s i h hal.1) hal.2⟩

/-- A condition on the inputs alone. -/
theorem along_of_forall {step : σ → ι → σ} {Q : ι → Prop} :
    ∀ {s : σ} {is : List ι}, (∀ i ∈ is, Q i) → Along step (fun _ i => Q i) s is
  | _, [], _ => trivial
  | _, i :: _, h =>
    ⟨h i List.mem_cons_self, along_of_forall fun j hj => h j (List.mem_cons_of_mem i hj)⟩

/-! ## 3. What a run emits -/

/-- What the steps of a run emit, in order. -/
def emitted (step : σ → ι → σ) (emit : σ → ι → List ω) : σ → List ι → List ω
  | _, [] => []
  | s, i :: is => emit s i ++ emitted step emit (step s i) is

@[simp] theorem emitted_nil (step : σ → ι → σ) (emit : σ → ι → List ω) (s : σ) :
    emitted step emit s [] = [] := rfl

@[simp] theorem emitted_cons (step : σ → ι → σ) (emit : σ → ι → List ω) (s : σ) (i : ι)
    (is : List ι) :
    emitted step emit s (i :: is) = emit s i ++ emitted step emit (step s i) is := rfl

theorem emitted_append (step : σ → ι → σ) (emit : σ → ι → List ω) :
    ∀ (s : σ) (is js : List ι), emitted step emit s (is ++ js) =
      emitted step emit s is ++ emitted step emit (exec step s is) js
  | _, [], _ => rfl
  | s, i :: is, js => by
    simp only [List.cons_append, emitted, exec_cons, List.append_assoc,
      emitted_append step emit (step s i) is js]

theorem emitted_snoc (step : σ → ι → σ) (emit : σ → ι → List ω) (s : σ) (is : List ι) (i : ι) :
    emitted step emit s (is ++ [i]) =
      emitted step emit s is ++ emit (exec step s is) i := by
  simp [emitted_append, emitted]

end StepMachine
