/-
# Loops that can be started again

A ROUND of a loop sees to one item.  It takes the files to others or gives up, and which of the two
is a matter of the files alone.  Where a round that is repeated changes nothing, and what is seen to
stays so while the other items are seen to (`Restartable`), the loop may be stopped anywhere: started
again from the beginning, it passes over what is done and goes on where it was (`Resumes.next`).

`Does` says that a program does the rounds, step by step: when nothing disturbs it, it makes of
the files what they make (`Does.exec`), and where it is stopped, or an operation fails, they can be
started again (`Does.restart`).
-/
import Kf2Optimizer.Lib.Files

namespace Files

variable {P B α β ε : Type}

/-! ## 1. Rounds -/

/-- The rounds over a list, up to the first that gives up. -/
def rounds (f : α → Disk P B → Bool × Disk P B) : List α → Disk P B → Bool × Disk P B
  | [], d => (true, d)
  | a :: l, d => match f a d with
    | (true, d') => rounds f l d'
    | (false, d') => (false, d')

/-- Only files that belong to an item of the list differ. -/
def OwnOnly (owns : α → P → Prop) (l : List α) (d d' : Disk P B) : Prop :=
  ∀ p, (∀ a ∈ l, ¬ owns a p) → d' p = d p

/-- Rounds over the items of a list that can be repeated, on files with `I`. -/
structure Restartable (f : α → Disk P B → Bool × Disk P B) (owns : α → P → Prop)
    (I : Disk P B → Prop) (l : List α) : Prop where
  keeps : ∀ d d', I d → OwnOnly owns l d d' → I d'
  frame : ∀ a ∈ l, ∀ d, I d → OwnOnly owns [a] d (f a d).2
  again : ∀ a ∈ l, ∀ d, I d → f a (f a d).2 = f a d
  /-- What is seen to stays so while the other items are seen to. -/
  apart : ∀ a ∈ l, ∀ d d', I d → f a d = (true, d) →
    (∀ p, (∀ b ∈ l, b ≠ a → ¬ owns b p) → d' p = d p) → f a d' = (true, d')

variable {f : α → Disk P B → Bool × Disk P B} {owns : α → P → Prop} {I : Disk P B → Prop}
  {a : α} {l : List α} {d d' d'' : Disk P B}

theorem OwnOnly.refl (owns : α → P → Prop) (l : List α) (d : Disk P B) : OwnOnly owns l d d :=
  fun _ _ => rfl

theorem OwnOnly.trans (h : OwnOnly owns l d d') (h' : OwnOnly owns l d' d'') :
    OwnOnly owns l d d'' :=
  fun p hp => (h' p hp).trans (h p hp)

theorem OwnOnly.head (h : OwnOnly owns [a] d d') (l : List α) : OwnOnly owns (a :: l) d d' :=
  fun p hp => h p (by simpa using hp a List.mem_cons_self)

theorem OwnOnly.tail (h : OwnOnly owns l d d') (a : α) : OwnOnly owns (a :: l) d d' :=
  fun p hp => h p fun b hb => hp b (List.mem_cons_of_mem a hb)

theorem Restartable.rest (h : Restartable f owns I (a :: l)) : Restartable f owns I l where
  keeps d d' hI hown := h.keeps d d' hI (hown.tail a)
  frame b hb := h.frame b (List.mem_cons_of_mem a hb)
  again b hb := h.again b (List.mem_cons_of_mem a hb)
  apart b hb d d' hI hb' hsame :=
    h.apart b (List.mem_cons_of_mem a hb) d d' hI hb' fun p hp =>
      hsame p fun c hc => hp c (List.mem_cons_of_mem a hc)

theorem rounds_cons_of_true (h : f a d = (true, d')) : rounds f (a :: l) d = rounds f l d' := by
  rw [rounds, h]

theorem rounds_cons_of_false (h : f a d = (false, d')) : rounds f (a :: l) d = (false, d') := by
  rw [rounds, h]

theorem rounds_singleton (f : α → Disk P B → Bool × Disk P B) (a : α) (d : Disk P B) :
    rounds f [a] d = f a d := by
  rw [rounds]
  rcases f a d with ⟨ok, d'⟩
  cases ok <;> rfl

/-- Where everything is seen to, nothing is left to do. -/
theorem rounds_of_settled (h : ∀ a ∈ l, f a d = (true, d)) : rounds f l d = (true, d) := by
  induction l with
  | nil => rfl
  | cons a l ih =>
    rw [rounds_cons_of_true (h a List.mem_cons_self)]
    exact ih fun b hb => h b (List.mem_cons_of_mem a hb)

namespace Restartable

theorem rounds_frame (h : Restartable f owns I l) (hI : I d) :
    OwnOnly owns l d (rounds f l d).2 := by
  induction l generalizing d with
  | nil => exact OwnOnly.refl owns [] d
  | cons a l ih =>
    have hfirst := (h.frame a List.mem_cons_self d hI).head l
    rcases hf : f a d with ⟨ok, d'⟩
    rw [hf] at hfirst
    cases ok with
    | true =>
      rw [rounds_cons_of_true hf]
      exact hfirst.trans ((ih h.rest (h.keeps d d' hI hfirst)).tail a)
    | false =>
      rw [rounds_cons_of_false hf]
      exact hfirst

/-- An item that is seen to stays so through the rounds of others. -/
theorem settled_after (h : Restartable f owns I (a :: l)) (ha : a ∉ l) (hI : I d)
    (hf : f a d = (true, d)) (hown : OwnOnly owns l d d') : f a d' = (true, d') := by
  refine h.apart a List.mem_cons_self d d' hI hf fun p hp => hown p fun b hb => ?_
  exact hp b (List.mem_cons_of_mem a hb) fun heq => ha (heq ▸ hb)

/-- A round that has succeeded leaves its item seen to. -/
theorem settled (h : Restartable f owns I (a :: l)) (hI : I d) (hf : f a d = (true, d')) :
    I d' ∧ f a d' = (true, d') := by
  have hagain := h.again a List.mem_cons_self d hI
  have hfirst := (h.frame a List.mem_cons_self d hI).head l
  rw [hf] at hagain hfirst
  exact ⟨h.keeps d d' hI hfirst, hagain⟩

/-- **Rounds that are repeated** change nothing. -/
theorem rounds_again (h : Restartable f owns I l) (hl : l.Nodup) (hI : I d) :
    rounds f l (rounds f l d).2 = rounds f l d := by
  induction l generalizing d with
  | nil => rfl
  | cons a l ih =>
    obtain ⟨ha, hl⟩ := List.nodup_cons.mp hl
    rcases hf : f a d with ⟨ok, d'⟩
    cases ok with
    | true =>
      obtain ⟨hI', hsettled⟩ := h.settled hI hf
      rw [rounds_cons_of_true hf,
        rounds_cons_of_true (h.settled_after ha hI' hsettled (h.rest.rounds_frame hI'))]
      exact ih h.rest hl hI'
    | false =>
      have hagain := h.again a List.mem_cons_self d hI
      rw [hf] at hagain
      rw [rounds_cons_of_false hf]
      exact rounds_cons_of_false hagain

/-- Rounds that succeed leave every item seen to. -/
theorem settled_of_rounds (h : Restartable f owns I l) (hl : l.Nodup) (hI : I d)
    (hrounds : rounds f l d = (true, d')) : ∀ a ∈ l, f a d' = (true, d') := by
  induction l generalizing d with
  | nil => simp
  | cons a l ih =>
    obtain ⟨ha, hl⟩ := List.nodup_cons.mp hl
    rcases hf : f a d with ⟨ok, d₁⟩
    cases ok with
    | true =>
      obtain ⟨hI', hsettled⟩ := h.settled hI hf
      rw [rounds_cons_of_true hf] at hrounds
      have hframe := h.rest.rounds_frame hI'
      rw [hrounds] at hframe
      exact List.forall_mem_cons.mpr
        ⟨h.settled_after ha hI' hsettled hframe, ih h.rest hl hI' hrounds⟩
    | false =>
      rw [rounds_cons_of_false hf] at hrounds
      cases hrounds

/-- Items that are seen to may be left out. -/
theorem rounds_filter (h : Restartable f owns I l) (hl : l.Nodup) (hI : I d) {q : α → Bool}
    (hq : ∀ a ∈ l, q a = false → f a d = (true, d)) : rounds f (l.filter q) d = rounds f l d := by
  induction l generalizing d with
  | nil => rfl
  | cons a l ih =>
    obtain ⟨ha, hl⟩ := List.nodup_cons.mp hl
    obtain ⟨hhead, hrest⟩ := List.forall_mem_cons.mp hq
    cases hqa : q a with
    | false =>
      rw [List.filter_cons_of_neg (by simp [hqa]), rounds_cons_of_true (hhead hqa)]
      exact ih h.rest hl hI hrest
    | true =>
      rw [List.filter_cons_of_pos hqa]
      rcases hf : f a d with ⟨ok, d'⟩
      cases ok with
      | true =>
        have hframe := h.frame a List.mem_cons_self d hI
        rw [hf] at hframe
        rw [rounds_cons_of_true hf, rounds_cons_of_true hf]
        refine ih h.rest hl (h.settled hI hf).1 fun b hb hqb => ?_
        refine h.apart b (List.mem_cons_of_mem a hb) d d' hI (hrest b hb hqb) fun p hp => ?_
        refine hframe p fun c hc => hp c ?_ ?_
        · exact List.mem_singleton.mp hc ▸ List.mem_cons_self
        · exact fun heq => ha (List.mem_singleton.mp hc ▸ heq ▸ hb)
      | false => rw [rounds_cons_of_false hf, rounds_cons_of_false hf]

end Restartable

/-! ## 2. Starting again -/

/-- The rounds, started again with the files of `d'`, do what they do with those of `d`. -/
structure Resumes (f : α → Disk P B → Bool × Disk P B) (owns : α → P → Prop) (l : List α)
    (d d' : Disk P B) : Prop where
  rounds : rounds f l d' = rounds f l d
  own : OwnOnly owns l d d'

theorem Resumes.refl (f : α → Disk P B → Bool × Disk P B) (owns : α → P → Prop) (l : List α)
    (d : Disk P B) : Resumes f owns l d d :=
  ⟨rfl, OwnOnly.refl owns l d⟩

/-- In the first round. -/
theorem Resumes.first (h : Resumes f owns [a] d d') (l : List α) : Resumes f owns (a :: l) d d' := by
  have hfirst := h.rounds
  rw [rounds_singleton, rounds_singleton] at hfirst
  exact ⟨by rw [Files.rounds, Files.rounds, hfirst], h.own.head l⟩

/-- In a later round. -/
theorem Resumes.next (hf : Restartable f owns I (a :: l)) (ha : a ∉ l) (hI : I d)
    (hfirst : f a d = (true, d')) (h : Resumes f owns l d' d'') :
    Resumes f owns (a :: l) d d'' := by
  have hframe := (hf.frame a List.mem_cons_self d hI).head l
  obtain ⟨hI', hsettled⟩ := hf.settled hI hfirst
  rw [hfirst] at hframe
  refine ⟨?_, hframe.trans (h.own.tail a)⟩
  rw [rounds_cons_of_true hfirst,
    rounds_cons_of_true (hf.settled_after ha hI' hsettled h.own)]
  exact h.rounds

/-! ## 3. Programs that do the rounds -/

section

variable [DecidableEq P] [DecidableEq B] {A : Turn P B → Prop} {w : World P B}

/-- The rounds have given up, or an operation has failed where they can be started again. -/
def Halted (A : Turn P B → Prop) (f : α → Disk P B → Bool × Disk P B) (owns : α → P → Prop)
    (l : List α) (d d' : Disk P B) : Prop :=
  rounds f l d = (false, d') ∨ CanFail A ∧ Resumes f owns l d d'

/-- The task, on its way, does the rounds that began with the files of `d`. -/
def Does (A : Turn P B → Prop) (f : α → Disk P B → Bool × Disk P B) (owns : α → P → Prop)
    (l : List α) (d : Disk P B) (x : Task P B ε β) (good : β → World P B → Prop) (w : World P B) :
    Prop :=
  wpTask A x (fun r v => rounds f l d = (true, v.disk) ∧ good r v)
    (fun _ v => Halted A f owns l d v.disk) (fun v => Resumes f owns l d v.disk) w

variable {γ : Type} {good : β → World P B → Prop}

theorem Does.mono {good' : β → World P B → Prop} {x : Task P B ε β}
    (h : Does A f owns l d x good w) (hgood : ∀ r v, good r v → good' r v) :
    Does A f owns l d x good' w :=
  wpTask_mono h (fun r v hr => ⟨hr.1, hgood r v hr.2⟩) (fun _ _ h => h) fun _ h => h

/-- The first round, and the others after it. -/
theorem Does.cons {x : Task P B ε γ} {k : γ → Task P B ε β} {first : γ → World P B → Prop}
    (hf : Restartable f owns I (a :: l)) (ha : a ∉ l) (hI : I w.disk)
    (h : Does A f owns [a] w.disk x first w)
    (hrest : ∀ r v, I v.disk → f a w.disk = (true, v.disk) → first r v →
      Does A f owns l v.disk (k r) good v) :
    Does A f owns (a :: l) w.disk (x >>= k) good w := by
  refine wpTask_bind.mpr (wpTask_mono h (fun r v hr => ?_) (fun _ v hv => ?_) fun v hv => hv.first l)
  · obtain ⟨hrounds, hr⟩ := hr
    rw [rounds_singleton] at hrounds
    have hI' := (hf.settled hI hrounds).1
    refine wpTask_mono (hrest r v hI' hrounds hr) (fun r' u hu => ?_) (fun _ u hu => ?_)
      fun u hu => hu.next hf ha hI hrounds
    · rw [rounds_cons_of_true hrounds]
      exact hu
    · rcases hu with hfalse | ⟨hfail, hresumes⟩
      · exact .inl ((rounds_cons_of_true hrounds).trans hfalse)
      · exact .inr ⟨hfail, hresumes.next hf ha hI hrounds⟩
  · rcases hv with hfalse | ⟨hfail, hresumes⟩
    · rw [rounds_singleton] at hfalse
      exact .inl (rounds_cons_of_false hfalse)
    · exact .inr ⟨hfail, hresumes.first l⟩

/-- **The loop** over the items. -/
theorem does_forEach {g : α → Task P B ε Unit} (hf : Restartable f owns I l) (hl : l.Nodup)
    (hround : ∀ a ∈ l, ∀ v : World P B, I v.disk →
      Does A f owns [a] v.disk (g a) (fun _ _ => True) v) (hI : I w.disk) :
    Does A f owns l w.disk (forEach g l) (fun _ _ => True) w := by
  induction l generalizing w with
  | nil => exact ⟨rfl, trivial⟩
  | cons a l ih =>
    obtain ⟨ha, hl⟩ := List.nodup_cons.mp hl
    obtain ⟨hfirst, hrest⟩ := List.forall_mem_cons.mp hround
    exact Does.cons hf ha hI (hfirst w hI) fun _ v hI' _ _ => ih hf.rest hl hrest hI'

/-- A part that only reads, in front of the others. -/
theorem does_careful_bind {R : P → Prop} {F : ε → Prop} (hA : ∀ turn, A turn → turn.others = [])
    {x : Task P B ε γ} {k : γ → Task P B ε β} (hx : Careful R F x.run)
    (hhere : Resumes f owns l d w.disk)
    (herror : ∀ e, value x.run w.disk = .error e → rounds f l d = (false, w.disk))
    (hok : ∀ r, value x.run w.disk = .ok r → Does A f owns l d (k r) good w) :
    Does A f owns l d (x >>= k) good w := by
  refine wpTask_careful_bind (I := (· = w)) hx ?_ ?_ ?_ rfl ?_ ?_
  · rintro turn v hturn rfl
    rw [hA turn hturn]
    rfl
  · intro turn hturn o ho
    rw [hA turn hturn] at ho
    cases ho
  · rintro v rfl
    exact hhere
  · rintro r v rfl hr
    exact hok r hr
  · rintro e v rfl (he | ⟨hfail, -⟩)
    · exact .inl (herror e he)
    · exact .inr ⟨hfail, hhere⟩

/-- A check on the way. -/
theorem does_ensure_bind {c : Prop} [Decidable c] {e : ε} {k : Unit → Task P B ε β}
    (hnot : ¬ c → rounds f l d = (false, w.disk)) (hok : c → Does A f owns l d (k ()) good w) :
    Does A f owns l d (ensure c e >>= k) good w :=
  wpTask_ensure (fun h => .inl (hnot h)) hok

/-- The rounds of a task under a plan can be started again. -/
theorem Does.restart {x : Task P B ε β} (h : Does A f owns l w.disk x good w)
    (hagain : rounds f l (rounds f l w.disk).2 = rounds f l w.disk) (hquiet : A {})
    {plan : List (Turn P B)} (hplan : ∀ turn ∈ plan, A turn) :
    rounds f l (run x.run plan w).2.disk = rounds f l w.disk := by
  have hsound := wp_sound h hquiet hplan
  generalize run x.run plan w = ended at hsound
  match ended, hsound with
  | (some (.ok r), v), hv =>
    have hrounds : rounds f l w.disk = (true, v.disk) := hv.1
    rwa [hrounds] at hagain ⊢
  | (some (.error e), v), hv =>
    rcases hv with hrounds | ⟨-, hresumes⟩
    · have hrounds : rounds f l w.disk = (false, v.disk) := hrounds
      rwa [hrounds] at hagain ⊢
    · exact hresumes.rounds
  | (none, v), hv => exact hv.rounds

/-- **An undisturbed task** does what the rounds do. -/
theorem Does.exec {x : Task P B ε β} (h : Does Undisturbed f owns l w.disk x good w) :
    rounds f l w.disk = ((exec x.run w).1.isOk, (exec x.run w).2.disk) ∧
      ∀ r, (exec x.run w).1 = .ok r → good r (exec x.run w).2 := by
  obtain ⟨outcome, hrun, hends⟩ := run_of_wpTask h
  rw [run_nil] at hrun hends
  obtain rfl := Option.some.inj hrun
  rcases hexec : Files.exec x.run w with ⟨outcome, v⟩
  rw [hexec] at hends
  cases outcome with
  | ok r =>
    refine ⟨hends.1, fun r' hr' => ?_⟩
    cases hr'
    exact hends.2
  | error e =>
    rcases hends with hrounds | ⟨hfail, -⟩
    · exact ⟨hrounds, fun r hr => by cases hr⟩
    · exact absurd hfail not_canFail_undisturbed

end

end Files
