/-
# Threads on one state

A thread runs code that takes one indivisible step after the other, and a pool runs the steps of any
number of threads in any order.  Code is `Sound` when it keeps what it GUARANTEES to the other
threads, as long as these keep what it RELIES on; `pool_sound` puts sound threads together.  A step
has a label, and a run may be restricted to steps that are `calm`.
-/
import Mathlib.Logic.Relation
import Mathlib.Logic.Function.Basic
import Mathlib.Data.Nat.Notation

namespace Kf2Optimizer.Threads

/-! ## 1. Code -/

/-- A step waits until it is ready, and then sets the state and goes on by what it saw. -/
inductive Code (L S α : Type)
  | ret (a : α)
  | step (label : L) (ready : S → Bool) (effect : S → S) (next : S → Code L S α)

variable {ι L S α β : Type}

namespace Code

def bind : Code L S α → (α → Code L S β) → Code L S β
  | ret a, f => f a
  | step label ready effect next, f => step label ready effect fun s => (next s).bind f

instance : Monad (Code L S) where
  pure := ret
  bind := bind

@[simp] theorem ret_bind (a : α) (f : α → Code L S β) : (ret a >>= f : Code L S β) = f a := rfl

@[simp] theorem pure_bind' (a : α) (f : α → Code L S β) : (pure a >>= f : Code L S β) = f a := rfl

@[simp] theorem step_bind (label : L) (ready : S → Bool) (effect : S → S) (next : S → Code L S α)
    (f : α → Code L S β) :
    (step label ready effect next >>= f : Code L S β) = step label ready effect fun s => next s >>= f := rfl

/-- One step that does not wait. -/
def atomic (label : L) (f : S → α) (effect : S → S) : Code L S α :=
  step label (fun _ => true) effect fun s => ret (f s)

/-- A thread that never goes on. -/
def stuck (label : L) (a : α) : Code L S α := step label (fun _ => false) id fun _ => ret a

end Code

/-! ## 2. Sound code -/

/-- From `s` on, whatever the others do within `R`, every calm step of the code is within `G`, and
where the code ends `Q` holds. -/
def Sound (calm : L → S → Prop) (R G : S → S → Prop) :
    Code L S α → (α → S → Prop) → S → Prop
  | .ret a, Q, s => ∀ t, R s t → Q a t
  | .step label ready effect next, Q, s => ∀ t, R s t → ready t = true → calm label t →
    G t (effect t) ∧ Sound calm R G (next t) Q (effect t)

/-- What the others cannot break. -/
def Stable (R : S → S → Prop) (P : S → Prop) : Prop := ∀ s t, R s t → P s → P t

section

variable {calm : L → S → Prop} {R G : S → S → Prop} {Q : α → S → Prop} {s t : S}
  (hrefl : ∀ s, R s s) (htrans : ∀ s t u, R s t → R t u → R s u)

include htrans in
/-- Soundness is stable. -/
theorem Sound.stable {x : Code L S α} (h : Sound calm R G x Q s) (hR : R s t) : Sound calm R G x Q t := by
  cases x with
  | ret a => exact fun u hu => h u (htrans s t u hR hu)
  | step label ready effect next => exact fun u hu => h u (htrans s t u hR hu)

theorem Sound.mono {Q' : α → S → Prop} {x : Code L S α} (h : Sound calm R G x Q s)
    (hQ : ∀ a t, Q a t → Q' a t) : Sound calm R G x Q' s := by
  induction x generalizing s with
  | ret a => exact fun t ht => hQ a t (h t ht)
  | step label ready effect next ih =>
    intro t ht hready hcalm
    obtain ⟨hG, hnext⟩ := h t ht hready hcalm
    exact ⟨hG, ih t hnext⟩

include hrefl in
/-- **One code after another.** -/
theorem Sound.bind {Q' : β → S → Prop} {x : Code L S α} {f : α → Code L S β}
    (h : Sound calm R G x (fun a t => Sound calm R G (f a) Q' t) s) : Sound calm R G (x >>= f) Q' s := by
  induction x generalizing s with
  | ret a => exact h s (hrefl s)
  | step label ready effect next ih =>
    intro t ht hready hcalm
    obtain ⟨hG, hnext⟩ := h t ht hready hcalm
    exact ⟨hG, ih t hnext⟩

theorem sound_ret {a : α} (hstable : Stable R (Q a)) (h : Q a s) : Sound calm R G (.ret a) Q s :=
  fun t ht => hstable s t ht h

/-- **One step**, from what the others cannot break. -/
theorem sound_step {P : S → Prop} {label : L} {ready : S → Bool} {effect : S → S}
    {next : S → Code L S α} (hstable : Stable R P) (h : P s)
    (hstep : ∀ t, P t → ready t = true → calm label t →
      G t (effect t) ∧ Sound calm R G (next t) Q (effect t)) :
    Sound calm R G (.step label ready effect next) Q s :=
  fun t ht hready hcalm => hstep t (hstable s t ht h) hready hcalm

theorem sound_atomic {P : S → Prop} {label : L} {f : S → α} {effect : S → S} (hstable : Stable R P)
    (h : P s) (hQ : ∀ a, Stable R (Q a))
    (hstep : ∀ t, P t → calm label t → G t (effect t) ∧ Q (f t) (effect t)) :
    Sound calm R G (.atomic label f effect) Q s :=
  sound_step hstable h fun t ht _ hcalm =>
    ⟨(hstep t ht hcalm).1, sound_ret (hQ _) (hstep t ht hcalm).2⟩

theorem sound_stuck {label : L} {a : α} : Sound calm R G (.stuck label a) Q s :=
  fun _ _ hready => absurd hready (by simp)

end

/-! ## 3. Pools -/

/-- What the threads share, and the code of each. -/
structure Pool (ι L S : Type) where
  shared : S
  code : ι → Code L S Unit

variable [DecidableEq ι]

/-- A thread that has nothing to do is given one of its calls, or a thread takes a step. -/
inductive Moves (calls : ι → Code L S Unit → Prop) (calm : L → S → Prop) :
    Pool ι L S → Pool ι L S → Prop
  | call {p : Pool ι L S} (i : ι) {x : Code L S Unit} (hidle : p.code i = .ret ()) (hx : calls i x) :
      Moves calls calm p ⟨p.shared, Function.update p.code i x⟩
  | run {p : Pool ι L S} (i : ι) {label : L} {ready : S → Bool} {effect : S → S}
      {next : S → Code L S Unit} (hcode : p.code i = .step label ready effect next)
      (hready : ready p.shared = true) (hcalm : calm label p.shared) :
      Moves calls calm p ⟨effect p.shared, Function.update p.code i (next p.shared)⟩

/-- What comes of some moves. -/
abbrev Reaches (calls : ι → Code L S Unit → Prop) (calm : L → S → Prop) :
    Pool ι L S → Pool ι L S → Prop :=
  Relation.ReflTransGen (Moves calls calm)

section

variable {calls : ι → Code L S Unit → Prop} {calm : L → S → Prop} {R G : ι → S → S → Prop}
  {P : ι → S → Prop} (hrefl : ∀ i s, R i s s) (htrans : ∀ i s t u, R i s t → R i t u → R i s u)
  (hparallel : ∀ {i j s t}, i ≠ j → G i s t → R j s t)
  (hcalls : ∀ {i x s}, calls i x → P i s → Sound calm (R i) (G i) x (fun _ => P i) s)
include hrefl htrans hparallel hcalls

theorem sound_of_moves {p q : Pool ι L S} (hmoves : Moves calls calm p q)
    (h : ∀ i, Sound calm (R i) (G i) (p.code i) (fun _ => P i) p.shared) :
    ∀ i, Sound calm (R i) (G i) (q.code i) (fun _ => P i) q.shared := by
  intro j
  cases hmoves with
  | call i hidle hx =>
    by_cases heq : j = i
    · subst heq
      have hP := h j
      rw [hidle] at hP
      simp only [Function.update_self]
      exact hcalls hx (hP _ (hrefl j _))
    · simp only [Function.update_of_ne heq]
      exact h j
  | run i hcode hready hcalm =>
    have hi := h i
    rw [hcode] at hi
    obtain ⟨hG, hnext⟩ := hi _ (hrefl i _) hready hcalm
    by_cases heq : j = i
    · subst heq
      simp only [Function.update_self]
      exact hnext
    · simp only [Function.update_of_ne heq]
      exact (h j).stable (htrans j) (hparallel (Ne.symm heq) hG)

/-- **Sound threads together.** -/
theorem pool_sound {p q : Pool ι L S} (hreaches : Reaches calls calm p q)
    (h : ∀ i, Sound calm (R i) (G i) (p.code i) (fun _ => P i) p.shared) :
    ∀ i, Sound calm (R i) (G i) (q.code i) (fun _ => P i) q.shared := by
  induction hreaches with
  | refl => exact h
  | tail _ hmoves ih => exact sound_of_moves hrefl htrans hparallel hcalls hmoves ih

/-- What no thread breaks holds in every state on the way. -/
theorem pool_invariant {J : S → Prop} (hJ : ∀ {i s t}, G i s t → J s → J t) {p q : Pool ι L S}
    (hreaches : Reaches calls calm p q) (h : ∀ i, Sound calm (R i) (G i) (p.code i) (fun _ => P i) p.shared)
    (hp : J p.shared) : J q.shared := by
  induction hreaches with
  | refl => exact hp
  | @tail q r hbefore hmoves ih =>
    cases hmoves with
    | call i hidle hx => exact ih
    | run i hcode hready hcalm =>
      have hi := pool_sound hrefl htrans hparallel hcalls hbefore h i
      rw [hcode] at hi
      exact hJ (hi _ (hrefl i _) hready hcalm).1 ih

end

/-! ## 4. One thread after the other -/

section

variable (calm : L → S → Prop) [∀ label s, Decidable (calm label s)]

/-- Code that runs alone, if it ends in so many steps. -/
def alone : ℕ → Code L S Unit → S → Option S
  | _, .ret _, s => some s
  | 0, .step _ _ _ _, _ => none
  | fuel + 1, .step label ready effect next, s =>
    if ready s = true ∧ calm label s then alone fuel (next s) (effect s) else none

/-- The calls of some threads, each alone. -/
def inTurn (fuel : ℕ) : List (ι × Code L S Unit) → S → Option S
  | [], s => some s
  | (_, x) :: rest, s => (alone calm fuel x s).bind (inTurn fuel rest)

variable {calm} {calls : ι → Code L S Unit → Prop}

theorem reaches_alone {fuel : ℕ} {i : ι} {x : Code L S Unit} {s t : S} (code : ι → Code L S Unit)
    (h : alone calm fuel x s = some t) :
    Reaches calls calm ⟨s, Function.update code i x⟩ ⟨t, Function.update code i (.ret ())⟩ := by
  induction fuel generalizing x s with
  | zero =>
    cases x with
    | ret a =>
      cases h
      exact .refl
    | step label ready effect next => cases h
  | succ fuel ih =>
    cases x with
    | ret a =>
      cases h
      exact .refl
    | step label ready effect next =>
      rw [alone] at h
      split at h
      · rename_i hgo
        have hmove : Moves calls calm ⟨s, Function.update code i (.step label ready effect next)⟩
            ⟨effect s, Function.update (Function.update code i (.step label ready effect next)) i (next s)⟩ :=
          .run i (Function.update_self ..) hgo.1 hgo.2
        rw [Function.update_idem] at hmove
        exact .head hmove (ih h)
      · cases h

/-- Calls in turn are a run. -/
theorem reaches_inTurn {fuel : ℕ} {turns : List (ι × Code L S Unit)} (hturns : ∀ turn ∈ turns, calls turn.1 turn.2)
    {code : ι → Code L S Unit} (hidle : ∀ i, code i = .ret ()) {s t : S} (h : inTurn calm fuel turns s = some t) :
    Reaches calls calm ⟨s, code⟩ ⟨t, code⟩ := by
  induction turns generalizing s with
  | nil =>
    cases h
    exact .refl
  | cons turn rest ih =>
    obtain ⟨i, x⟩ := turn
    obtain ⟨u, hu, hrest⟩ := Option.bind_eq_some_iff.mp h
    have hcall : Moves calls calm ⟨s, code⟩ ⟨s, Function.update code i x⟩ :=
      .call i (hidle i) (hturns _ List.mem_cons_self)
    have hdone : Reaches calls calm ⟨s, Function.update code i x⟩ ⟨u, code⟩ := by
      have hreaches : Reaches calls calm ⟨s, Function.update code i x⟩ ⟨u, Function.update code i (.ret ())⟩ :=
        reaches_alone code hu
      rwa [← hidle i, Function.update_eq_self] at hreaches
    exact .head hcall (hdone.trans (ih (fun turn hturn => hturns turn (List.mem_cons_of_mem _ hturn)) hrest))

end

end Kf2Optimizer.Threads
