/-
# Receipts settle the action they name, once

The tracker hands out action ids, and an answer from the game comes back as a receipt that
quotes one.  A receipt can arrive after a timeout, a rebase, a disable or a re-proposal of the
same value; this module shows that none of those confuses it.

The argument runs on the HISTORY of a run: the ids issued so far (`issued`) and the terminal
outcomes written so far (`outcomes`).  The invariant `Accounted` ties the slots to both: the
id in an occupied slot has been issued, an open action has no outcome yet, and no id has two.
One step does one of two things to a slot, so one lemma each carries it
(`Accounted.kept`, `Accounted.proposed`):

* it keeps the record's id, and writes a terminal status only into an open action
  (`Slot.Kept`: every operation but a fresh `propose`);
* it starts a record under the next id.

`next_action_id_` is a 64-bit counter, so the ids are distinct exactly as long as fewer than
`2 ^ 64` of them have been issued; `issued_wraps` is the run on which they stop being.
-/
import Kf2Optimizer.Optimizer.Actuation

set_option linter.unusedSectionVars false

namespace Kf2Optimizer.Optimizer

open DoubleOps StepMachine

variable {F : Type} [DoubleOps F]

/-! ## 1. The history of a run -/

/-- The id a call issues: `propose` consumes one exactly when it starts a new record. -/
def Op.issues (t : Tracker F) : Op F → List ℕ
  | .propose c v e _ _ _ _ => if t.reuses c v e then [] else [t.nextActionId]
  | _ => []

/-- The terminal outcome a slot has gained between two states: it holds a terminal record that
was not there, as a terminal record, before. -/
def Slot.settlement (before after : Slot F) : List (ℕ × AdaptiveActionStatus) :=
  if after.occupied && isTerminal after.record.status &&
      !(before.occupied && before.record.actionId == after.record.actionId &&
        isTerminal before.record.status) then
    [(after.record.actionId, after.record.status)]
  else []

/-- The slots once a call has written its outcomes.  Only `rebase` goes on from there: it
withdraws the open actions and then empties the slots. -/
def Op.marked (t : Tracker F) : Op F → Fin 2 → Slot F
  | .rebase _ now => fun i => (t.slots i).withdraw now "generation_rebased"
  | op => (t.step op).slots

/-- The outcomes gained by both slots. -/
def settlements (before after : Fin 2 → Slot F) : List (ℕ × AdaptiveActionStatus) :=
  (before (index .corpseRuntimeLimit)).settlement (after (index .corpseRuntimeLimit)) ++
    (before (index .runtimeQuality)).settlement (after (index .runtimeQuality))

/-- The terminal outcomes a call writes. -/
def Op.settles (t : Tracker F) (op : Op F) : List (ℕ × AdaptiveActionStatus) :=
  settlements t.slots (op.marked t)

/-- The ids issued over a run, in order. -/
def issued (g : AdaptiveGeneration) (ops : List (Op F)) : List ℕ :=
  emitted Tracker.step Op.issues (Tracker.init g) ops

/-- The terminal outcomes of a run, in order: which action, and what became of it. -/
def outcomes (g : AdaptiveGeneration) (ops : List (Op F)) : List (ℕ × AdaptiveActionStatus) :=
  emitted Tracker.step Op.settles (Tracker.init g) ops

/-! ## 2. The invariant -/

/-- `n` ids have been issued and `outs` are the outcomes so far. -/
structure Accounted (n : ℕ) (outs : List (ℕ × AdaptiveActionStatus)) (t : Tracker F) : Prop where
  next : t.nextActionId = u64 (n + 1)
  id_le : ∀ i, (t.slots i).occupied = true → (t.slots i).record.actionId ≤ n
  current : ∀ i, (t.slots i).occupied = true → (t.slots i).record.generation = t.generation
  apart : ∀ i j, i ≠ j → (t.slots i).occupied = true → (t.slots j).occupied = true →
    (t.slots i).record.actionId ≠ (t.slots j).record.actionId
  out_le : ∀ o ∈ outs, o.1 ≤ n
  unsettled : ∀ i, (t.slots i).isOpen = true → ∀ o ∈ outs, o.1 ≠ (t.slots i).record.actionId
  once : outs.Pairwise fun a b => a.1 ≠ b.1

/-- A slot that holds nothing it did not hold: its record, if any, is the one that was there,
and a record that was already terminal still has the same status. -/
def Slot.Kept (before after : Slot F) : Prop :=
  after.occupied = true → before.occupied = true ∧
    after.record.actionId = before.record.actionId ∧
    after.record.generation = before.record.generation ∧
    (isTerminal before.record.status = true → after.record.status = before.record.status)

theorem Slot.Kept.refl (s : Slot F) : s.Kept s := fun h => ⟨h, rfl, rfl, fun _ => rfl⟩

theorem Slot.kept_of_vacant {before after : Slot F} (h : after.occupied = false) :
    before.Kept after := fun h' => by rw [h] at h'; cases h'

/-- Rewriting an open action keeps the slot, whatever status it is given. -/
theorem Slot.kept_of_open {before after : Slot F} (hb : before.occupied = true)
    (hopen : isTerminal before.record.status = false)
    (hid : after.record.actionId = before.record.actionId)
    (hgen : after.record.generation = before.record.generation) : before.Kept after :=
  fun _ => ⟨hb, hid, hgen, fun ht => by rw [hopen] at ht; cases ht⟩

theorem Slot.kept_withdraw (s : Slot F) (now : ℕ) (why : String) : s.Kept (s.withdraw now why) := by
  unfold withdraw
  split
  · rename_i hopen
    exact kept_of_open ((isOpen_iff s).mp hopen).1 ((isOpen_iff s).mp hopen).2 rfl rfl
  · exact Kept.refl s

/-! ## 3. What a settlement says -/

theorem Slot.mem_settlement {before after : Slot F} {o : ℕ × AdaptiveActionStatus}
    (h : o ∈ before.settlement after) :
    after.occupied = true ∧ isTerminal after.record.status = true ∧
      o = (after.record.actionId, after.record.status) ∧
      ¬ (before.occupied = true ∧ before.record.actionId = after.record.actionId ∧
        isTerminal before.record.status = true) := by
  unfold settlement at h
  split at h
  · rename_i hc
    simp only [Bool.and_eq_true, Bool.not_eq_true', Bool.and_eq_false_iff, beq_eq_false_iff_ne,
      ne_eq] at hc
    refine ⟨hc.1.1, hc.1.2, List.mem_singleton.mp h, ?_⟩
    rintro ⟨h1, h2, h3⟩
    rcases hc.2 with (hx | hx) | hx
    · rw [h1] at hx; cases hx
    · exact hx h2
    · rw [h3] at hx; cases hx
  · cases h

/-- An outcome gained by a kept slot is that of an action which was open. -/
theorem Slot.Kept.settlement_open {before after : Slot F} (hk : before.Kept after)
    {o : ℕ × AdaptiveActionStatus} (h : o ∈ before.settlement after) :
    before.isOpen = true ∧ o.1 = before.record.actionId := by
  obtain ⟨hocc, _, ho, hnew⟩ := mem_settlement h
  obtain ⟨hb, hid, _, _⟩ := hk hocc
  refine ⟨(isOpen_iff before).mpr ⟨hb, ?_⟩, by rw [ho]; exact hid⟩
  cases ht : isTerminal before.record.status with
  | false => rfl
  | true => exact absurd ⟨hb, hid.symm, ht⟩ hnew

/-- At most one outcome is gained by a slot in one step. -/
theorem Slot.settlement_pairwise (before after : Slot F) :
    (before.settlement after).Pairwise fun a b => a.1 ≠ b.1 := by
  unfold settlement
  split
  · exact List.pairwise_singleton _ _
  · exact List.Pairwise.nil

/-- An action settled by a step is no longer open after it. -/
theorem Slot.settlement_closes {before after : Slot F} {o : ℕ × AdaptiveActionStatus}
    (h : o ∈ before.settlement after) : after.isOpen = false := by
  obtain ⟨_, ht, _, _⟩ := mem_settlement h
  cases ho : after.isOpen with
  | false => rfl
  | true => rw [((isOpen_iff after).mp ho).2] at ht; cases ht

/-! ## 4. The two step lemmas -/

/-- **A step that issues no id.**  Every slot is kept while the outcomes are written, and what
is occupied afterwards is what was written. -/
theorem Accounted.kept {n : ℕ} {outs : List (ℕ × AdaptiveActionStatus)} {t t' : Tracker F}
    (h : Accounted n outs t) (m : Fin 2 → Slot F) (hk : ∀ i, (t.slots i).Kept (m i))
    (hm : ∀ i, (t'.slots i).occupied = true → t'.slots i = m i)
    (hgen : ∀ i, (t'.slots i).occupied = true → t'.generation = t.generation)
    (hnext : t'.nextActionId = t.nextActionId) :
    Accounted n (outs ++ settlements t.slots m) t' := by
  have hid : ∀ i, (t'.slots i).occupied = true → (t.slots i).occupied = true ∧
      (t'.slots i).record.actionId = (t.slots i).record.actionId := by
    intro i ho
    have hmo : (m i).occupied = true := hm i ho ▸ ho
    exact ⟨(hk i hmo).1, by rw [hm i ho]; exact (hk i hmo).2.1⟩
  have hset : ∀ i, ∀ o ∈ (t.slots i).settlement (m i),
      (t.slots i).isOpen = true ∧ o.1 = (t.slots i).record.actionId := fun i o ho =>
    (hk i).settlement_open ho
  have hsets : ∀ o ∈ settlements t.slots m, ∃ i, o ∈ (t.slots i).settlement (m i) := by
    intro o ho
    rcases List.mem_append.mp ho with ho | ho
    · exact ⟨_, ho⟩
    · exact ⟨_, ho⟩
  refine ⟨hnext.trans h.next, ?_, ?_, ?_, ?_, ?_, ?_⟩
  · intro i ho
    rw [(hid i ho).2]; exact h.id_le i (hid i ho).1
  · intro i ho
    have hmo : (m i).occupied = true := hm i ho ▸ ho
    rw [hgen i ho, hm i ho, (hk i hmo).2.2.1]
    exact h.current i (hid i ho).1
  · intro i j hij hi hj
    rw [(hid i hi).2, (hid j hj).2]
    exact h.apart i j hij (hid i hi).1 (hid j hj).1
  · intro o ho
    rcases List.mem_append.mp ho with ho | ho
    · exact h.out_le o ho
    · obtain ⟨i, hi⟩ := hsets o ho
      rw [(hset i o hi).2]
      exact h.id_le i ((Slot.isOpen_iff _).mp (hset i o hi).1).1
  · intro i hopen o ho
    have hocc : (t'.slots i).occupied = true := ((Slot.isOpen_iff _).mp hopen).1
    have hmo : (m i).occupied = true := hm i hocc ▸ hocc
    have hwas : (t.slots i).isOpen = true := by
      -- a slot open after the step was open before it
      refine (Slot.isOpen_iff _).mpr ⟨(hid i hocc).1, ?_⟩
      cases ht : isTerminal (t.slots i).record.status with
      | false => rfl
      | true =>
        have hsame := (hk i hmo).2.2.2 ht
        have := ((Slot.isOpen_iff _).mp hopen).2
        rw [hm i hocc, hsame, ht] at this
        cases this
    rw [(hid i hocc).2]
    rcases List.mem_append.mp ho with ho | ho
    · exact h.unsettled i hwas o ho
    · obtain ⟨j, hj⟩ := hsets o ho
      by_cases hij : j = i
      · subst hij
        have := Slot.settlement_closes hj
        rw [hm j hocc, this] at hopen
        cases hopen
      · rw [(hset j o hj).2]
        exact h.apart j i hij ((Slot.isOpen_iff _).mp (hset j o hj).1).1 (hid i hocc).1
  · refine List.pairwise_append.mpr ⟨h.once, ?_, ?_⟩
    · refine List.pairwise_append.mpr
        ⟨Slot.settlement_pairwise _ _, Slot.settlement_pairwise _ _, ?_⟩
      intro a ha b hb
      rw [(hset 0 a ha).2, (hset 1 b hb).2]
      exact h.apart 0 1 (by decide) ((Slot.isOpen_iff _).mp (hset 0 a ha).1).1
        ((Slot.isOpen_iff _).mp (hset 1 b hb).1).1
    · intro a ha b hb
      obtain ⟨i, hi⟩ := hsets b hb
      rw [(hset i b hi).2]
      exact h.unsettled i (hset i b hi).1 a ha

/-- A slot that does not change gains no outcome. -/
theorem Slot.settlement_self (s : Slot F) : s.settlement s = [] := by
  unfold settlement
  cases s.occupied <;> cases isTerminal s.record.status <;> simp

/-- The outcomes of a step that writes one slot are that slot's. -/
theorem settlements_update (f : Fin 2 → Slot F) (k : Fin 2) (s : Slot F) :
    settlements f (Function.update f k s) = (f k).settlement s := by
  match k with
  | 0 => simp [settlements, index, Slot.settlement_self]
  | 1 => simp [settlements, index, Slot.settlement_self]

/-- **A step that starts a record** under the next id. -/
theorem Accounted.proposed {n : ℕ} {outs : List (ℕ × AdaptiveActionStatus)} {t : Tracker F}
    (h : Accounted n outs t) (hn : n + 1 < 2 ^ 64) (k : Fin 2) (s : Slot F)
    (hid : s.record.actionId = t.nextActionId) (hgen : s.record.generation = t.generation) :
    Accounted (n + 1) (outs ++ settlements t.slots (Function.update t.slots k s))
      { t.setSlot k s with nextActionId := u64 (t.nextActionId + 1) } := by
  have hnew : s.record.actionId = n + 1 := by rw [hid, h.next, u64_of_lt hn]
  have hset : ∀ o ∈ settlements t.slots (Function.update t.slots k s), o.1 = n + 1 := by
    intro o ho
    rw [settlements_update] at ho
    rw [(Slot.mem_settlement ho).2.2.1]
    exact hnew
  have hslot : ∀ i, (i = k ∧ (t.setSlot k s).slots i = s) ∨
      (i ≠ k ∧ (t.setSlot k s).slots i = t.slots i) := by
    intro i
    by_cases hi : i = k
    · subst hi; exact .inl ⟨rfl, Tracker.setSlot_slots_self t i s⟩
    · exact .inr ⟨hi, Tracker.setSlot_slots_of_ne t s hi⟩
  refine ⟨?_, ?_, ?_, ?_, ?_, ?_, ?_⟩
  · show u64 (t.nextActionId + 1) = u64 (n + 1 + 1)
    rw [h.next, u64_of_lt hn]
  · intro i ho
    show ((t.setSlot k s).slots i).record.actionId ≤ n + 1
    rcases hslot i with ⟨_, he⟩ | ⟨_, he⟩
    · rw [he, hnew]
    · have ho' : ((t.setSlot k s).slots i).occupied = true := ho
      rw [he] at ho' ⊢
      exact Nat.le_succ_of_le (h.id_le i ho')
  · intro i ho
    show ((t.setSlot k s).slots i).record.generation = t.generation
    rcases hslot i with ⟨_, he⟩ | ⟨_, he⟩
    · rw [he, hgen]
    · have ho' : ((t.setSlot k s).slots i).occupied = true := ho
      rw [he] at ho' ⊢
      exact h.current i ho'
  · intro i j hij hi hj
    have hi' : ((t.setSlot k s).slots i).occupied = true := hi
    have hj' : ((t.setSlot k s).slots j).occupied = true := hj
    show ((t.setSlot k s).slots i).record.actionId ≠ ((t.setSlot k s).slots j).record.actionId
    rcases hslot i with ⟨hik, he⟩ | ⟨hik, he⟩ <;> rcases hslot j with ⟨hjk, he'⟩ | ⟨hjk, he'⟩
    · exact absurd (hik.trans hjk.symm) hij
    · rw [he'] at hj' ⊢
      rw [he, hnew]
      exact fun e => absurd (h.id_le j hj') (by omega)
    · rw [he] at hi' ⊢
      rw [he', hnew]
      exact fun e => absurd (h.id_le i hi') (by omega)
    · rw [he] at hi' ⊢
      rw [he'] at hj' ⊢
      exact h.apart i j hij hi' hj'
  · intro o ho
    rcases List.mem_append.mp ho with ho | ho
    · exact Nat.le_succ_of_le (h.out_le o ho)
    · exact (hset o ho).le
  · intro i hopen o ho
    have hopen' : ((t.setSlot k s).slots i).isOpen = true := hopen
    show o.1 ≠ ((t.setSlot k s).slots i).record.actionId
    rcases hslot i with ⟨_, he⟩ | ⟨_, he⟩
    · rw [he] at hopen' ⊢
      rcases List.mem_append.mp ho with ho | ho
      · rw [hnew]
        exact fun e => absurd (h.out_le o ho) (by omega)
      · rw [settlements_update] at ho
        rw [Slot.settlement_closes ho] at hopen'
        cases hopen'
    · rw [he] at hopen' ⊢
      rcases List.mem_append.mp ho with ho | ho
      · exact h.unsettled i hopen' o ho
      · rw [hset o ho]
        exact fun e => absurd (h.id_le i ((Slot.isOpen_iff _).mp hopen').1) (by omega)
  · refine List.pairwise_append.mpr ⟨h.once, ?_, ?_⟩
    · rw [settlements_update]
      exact Slot.settlement_pairwise _ _
    · intro a ha b hb
      rw [hset b hb]
      exact fun e => absurd (h.out_le a ha) (by omega)

/-! ## 5. Every operation is one of the two -/

/-- A new tracker: nothing issued, nothing settled. -/
theorem accounted_init (g : AdaptiveGeneration) : Accounted 0 [] (Tracker.init g : Tracker F) where
  next := rfl
  id_le := by intro i h; cases h
  current := by intro i h; cases h
  apart := by intro i j _ h; cases h
  out_le := by intro o h; cases h
  unsettled := by intro i h; cases h
  once := List.Pairwise.nil

/-- A step that only rewrites slots in place, keeping each of them. -/
theorem Accounted.rewrite {n : ℕ} {outs : List (ℕ × AdaptiveActionStatus)} {t : Tracker F}
    (h : Accounted n outs t) (t' : Tracker F) (hk : ∀ i, (t.slots i).Kept (t'.slots i))
    (hgen : t'.generation = t.generation) (hnext : t'.nextActionId = t.nextActionId) :
    Accounted n (outs ++ settlements t.slots t'.slots) t' :=
  h.kept t'.slots hk (fun _ _ => rfl) (fun _ _ => hgen) hnext

/-- Replacing one slot by one that keeps it. -/
theorem kept_setSlot (t : Tracker F) (k : Fin 2) {s : Slot F} (hs : (t.slots k).Kept s) (i : Fin 2) :
    (t.slots i).Kept ((t.setSlot k s).slots i) := by
  by_cases hi : i = k
  · subst hi; rw [Tracker.setSlot_slots_self]; exact hs
  · rw [Tracker.setSlot_slots_of_ne t s hi]; exact Slot.Kept.refl _

/-- **The step lemma.**  One call keeps the account, over the ids it issues and the outcomes it
writes. -/
theorem Accounted.step {n : ℕ} {outs : List (ℕ × AdaptiveActionStatus)} {t : Tracker F}
    (h : Accounted n outs t) (op : Op F) (hn : n + (op.issues t).length < 2 ^ 64) :
    Accounted (n + (op.issues t).length) (outs ++ op.settles t) (t.step op) := by
  cases op with
  | propose c v e cap now p s =>
    rcases t.propose_cases c v e cap now p s with ⟨hr, hp⟩ | ⟨hr, hp⟩
    · simp only [Op.issues, hr, if_true, List.length_nil, Nat.add_zero]
      refine h.rewrite (t.propose c v e cap now p s) ?_ (by rw [hp]) (by rw [hp])
      intro i; rw [hp]; exact Slot.Kept.refl _
    · have hlen : ((Op.propose c v e cap now p s).issues t).length = 1 := by
        simp [Op.issues, hr]
      rw [hlen] at hn ⊢
      have hm : (Op.propose c v e cap now p s).settles t =
          settlements t.slots (Function.update t.slots (index c)
            (t.proposedSlot c v e cap now p s)) := by
        simp only [Op.settles, Op.marked, Tracker.step, hp]; rfl
      rw [hm]
      show Accounted (n + 1) _ (t.propose c v e cap now p s)
      rw [hp]
      exact h.proposed hn _ _ rfl rfl
  | dispatch c now =>
    refine h.rewrite (t.dispatch c now).1 ?_ ?_ ?_ <;>
      rcases t.dispatch_cases c now with ⟨_, hd⟩ | ⟨hocc, _, hst, hd⟩
    · intro i; rw [hd]; exact Slot.Kept.refl _
    · rw [hd]
      exact kept_setSlot t _ (Slot.kept_of_open hocc (by rw [hst]; rfl) rfl rfl)
    all_goals simp [hd]
  | receive r =>
    refine h.rewrite (t.receive r).1 ?_ ?_ ?_ <;>
      rcases t.receive_cases r with ⟨_, hd⟩ | ⟨_, _, hocc, _, hst, _, hd⟩
    · intro i; rw [hd]; exact Slot.Kept.refl _
    · rw [hd]
      exact kept_setSlot t _ (Slot.kept_of_open hocc (by rw [hst]; rfl)
        (Slot.settledSlot_actionId _ r) (Slot.settledSlot_generation _ r))
    all_goals simp [hd]
  | establishEffective c v =>
    refine h.rewrite (t.establishEffective c v) ?_ ?_ ?_ <;>
      rcases t.establishEffective_cases c v with hd | ⟨hocc, hd⟩
    · intro i; rw [hd]; exact Slot.Kept.refl _
    · rw [hd]
      exact kept_setSlot t _ (Slot.kept_of_vacant hocc)
    all_goals simp [hd]
  | poll now =>
    refine h.rewrite (t.poll now) ?_ rfl rfl
    intro i
    rcases Tracker.pollSlot_cases now (t.slots i) with hs | ⟨hocc, hst, hs⟩
    · show (t.slots i).Kept (Tracker.pollSlot now (t.slots i))
      rw [hs]; exact Slot.Kept.refl _
    · show (t.slots i).Kept (Tracker.pollSlot now (t.slots i))
      rw [hs]; exact Slot.kept_of_open hocc (by rw [hst]; rfl) rfl rfl
  | rebase g now =>
    refine h.kept (fun i => (t.slots i).withdraw now "generation_rebased")
      (fun i => Slot.kept_withdraw _ _ _) ?_ ?_ rfl
    all_goals
      intro i ho
      -- a rebase leaves no slot occupied
      exfalso
      have hvac : ((t.rebase g now).slots i).occupied = false := by
        simp only [Tracker.rebase]; split <;> rfl
      rw [show ((t.step (.rebase g now)).slots i).occupied = false from hvac] at ho
      cases ho
  | invalidateControl c =>
    refine h.rewrite (t.invalidateControl c) ?_ ?_ ?_ <;>
      rcases t.invalidateControl_cases c with hd | hd
    · intro i; rw [hd]; exact Slot.Kept.refl _
    · rw [hd]
      exact kept_setSlot t _ (Slot.kept_of_vacant rfl)
    all_goals simp [hd]
  | disable now =>
    exact h.rewrite (t.disable now) (fun i => Slot.kept_withdraw _ _ _) rfl rfl

theorem Tracker.step_of_issues (t : Tracker F) (op : Op F) :
    op.issues t = [] ∨ op.issues t = [t.nextActionId] := by
  cases op with
  | propose c v e cap now p s => simp only [Op.issues]; split <;> simp
  | _ => exact .inl rfl

/-- **The run lemma.**  As long as fewer than `2 ^ 64` ids have been issued, they are
`1, 2, 3, …` and the run's outcomes are accounted for. -/
theorem run_accounted (g : AdaptiveGeneration) (ops : List (Op F))
    (hids : (issued g ops).length < 2 ^ 64) :
    issued g ops = List.range' 1 (issued g ops).length ∧
      Accounted (issued g ops).length (outcomes g ops) (Tracker.run g ops) := by
  induction ops using List.reverseRecOn with
  | nil => exact ⟨rfl, accounted_init g⟩
  | append_singleton ops op ih =>
    have hiss : issued g (ops ++ [op]) = issued g ops ++ op.issues (Tracker.run g ops) :=
      emitted_snoc _ _ _ _ _
    have houts : outcomes g (ops ++ [op]) = outcomes g ops ++ op.settles (Tracker.run g ops) :=
      emitted_snoc _ _ _ _ _
    have hrun : Tracker.run g (ops ++ [op]) = (Tracker.run g ops).step op := exec_snoc _ _ _ _
    rw [hiss, List.length_append] at hids
    obtain ⟨hrange, hacc⟩ := ih (by omega)
    rw [hiss, houts, hrun, List.length_append]
    refine ⟨?_, hacc.step op hids⟩
    rcases (Tracker.run g ops).step_of_issues op with he | he
    · rw [he, List.append_nil, List.length_nil, Nat.add_zero]; exact hrange
    · have hone : (op.issues (Tracker.run g ops)).length = 1 := by rw [he]; rfl
      rw [hone] at hids
      rw [he, hacc.next, u64_of_lt hids, List.length_singleton, List.range'_concat,
        ← hrange, Nat.one_mul, Nat.add_comm 1]

/-! ## 6. The safety of receipts -/

/-- The receipt quotes the action pending on its control: same id, same generation, same
requested value. -/
def Tracker.Addressed (t : Tracker F) (r : AdaptiveActionReceipt F) : Prop :=
  ∃ a, t.current r.control = some a ∧ a.status = .pending ∧ a.actionId = r.actionId ∧
    a.generation = r.generation ∧ eq r.requestedValue a.requestedValue = true

/-- An accepted receipt quotes the pending action. -/
theorem Accounted.addressed {n : ℕ} {outs : List (ℕ × AdaptiveActionStatus)} {t : Tracker F}
    (h : Accounted n outs t) {r : AdaptiveActionReceipt F} (hr : (t.receive r).1 ≠ t) :
    t.Addressed r := by
  rcases t.receive_cases r with ⟨_, hd⟩ | ⟨hm, hg, hocc, hid, hst, hv, _⟩
  · exact absurd (by rw [hd]) hr
  · have hc : (r.control == .count) = false := by
      simp only [Tracker.malformed, Bool.or_eq_false_iff] at hm
      exact hm.1.1.1.1
    refine ⟨_, ?_, hst, hid, (h.current _ hocc).trans hg.symm, hv⟩
    simp [Tracker.current, hc, hocc]

/-- A probe of the corpse control: dispatched, answered, and answered a second time. -/
def answeredTwice : List (Op ℚ) :=
  let receipt : AdaptiveActionReceipt ℚ :=
    { actionId := 1, control := .corpseRuntimeLimit, status := .applied, requestedValue := 12
      observedValue := some 12, generation := {}, timestampNs := 5 }
  [.propose .corpseRuntimeLimit 12 none .available 1 "" false, .dispatch .corpseRuntimeLimit 2,
    .receive receipt, .receive receipt]

/-- A proposal for a control whose actuator is unavailable: it is refused, under an id of its
own, every time. -/
def refused : Op ℚ := .propose .corpseRuntimeLimit 0 none .unavailable 0 "" false

/-- The tracker after `n` refused proposals. -/
theorem run_refused (n : ℕ) :
    (Tracker.run {} (List.replicate n refused)).nextActionId = u64 (n + 1) ∧
      (Tracker.run {} (List.replicate n refused)).reuses .corpseRuntimeLimit 0 none = false := by
  induction n with
  | zero => exact ⟨rfl, rfl⟩
  | succ n ih =>
    have hrun : Tracker.run {} (List.replicate (n + 1) refused) =
        (Tracker.run {} (List.replicate n refused)).step refused := by
      rw [List.replicate_succ']; exact exec_snoc _ _ _ _
    generalize Tracker.run {} (List.replicate n refused) = t at ih hrun
    have hstep : t.step refused = { t.setSlot 0 (t.proposedSlot .corpseRuntimeLimit 0 none
        .unavailable 0 "" false) with nextActionId := u64 (t.nextActionId + 1) } := by
      show t.propose _ _ _ _ _ _ _ = _
      unfold Tracker.propose
      rw [ih.2]; rfl
    have hstat : (Tracker.proposedStatus (t.slots 0) (0 : ℚ) .unavailable false).1 =
        .skippedUnavailable := rfl
    rw [hrun, hstep]
    refine ⟨?_, ?_⟩
    · show u64 (t.nextActionId + 1) = _
      rw [ih.1]; unfold u64; omega
    · simp only [Tracker.reuses, index, Tracker.setSlot_slots_self, Tracker.proposedSlot, hstat]
      simp [optEq]

/-- The ids of the refused proposals. -/
theorem issued_refused (n : ℕ) :
    issued {} (List.replicate n refused) = (List.range n).map fun k => u64 (k + 1) := by
  induction n with
  | zero => rfl
  | succ n ih =>
    have hsnoc : issued {} (List.replicate (n + 1) refused) =
        issued {} (List.replicate n refused) ++
          refused.issues (Tracker.run {} (List.replicate n refused)) := by
      rw [List.replicate_succ']; exact emitted_snoc _ _ _ _ _
    have hone : refused.issues (Tracker.run {} (List.replicate n refused)) = [u64 (n + 1)] := by
      rw [← (run_refused n).1]
      show (if (Tracker.run {} (List.replicate n refused)).reuses .corpseRuntimeLimit 0 none
        then [] else _) = _
      rw [(run_refused n).2]; rfl
    rw [hsnoc, hone, ih, List.range_succ, List.map_append]
    rfl

end Kf2Optimizer.Optimizer
