/-
# Set-associative tables with generations

A table of `sets` sets of `ways` slots.  Every slot carries the generation it was written in, and a
slot of an older generation counts as empty: the whole table is emptied by `advance`, which only
counts the generation up and clears the slots when the counter wraps.

`Bounded` says that no slot is ahead of the counter.  It is what makes a new generation start empty
(`holds_advance`), however often the counter has wrapped; `Holds P` then speaks of the live slots
alone, and is kept by every write of a content that satisfies `P` (`holds_place`), whichever slot
the write chose.  Nothing here knows what the contents are.
-/
import Mathlib.Data.UInt
import Mathlib.Data.List.FinRange

/-- What one slot holds, and since when. -/
structure WaySlot (α : Type) where
  content : α
  generation : UInt32 := 0

structure WayTable (α : Type) (sets ways : ℕ) where
  slots : Fin sets → Fin ways → WaySlot α
  /-- The way of a full set that is overwritten next. -/
  nextWay : Fin sets → Fin ways
  generation : UInt32 := 0

/-- What a search of one set finds. -/
inductive WayProbe (ways : ℕ)
  | hit (way : Fin ways)
  | stale (way : Fin ways)
  | full

namespace WayTable

variable {α : Type} {sets ways : ℕ}

/-! ## 1. Operations -/

/-- A table that was never written. -/
def empty (content : α) (first : Fin ways) : WayTable α sets ways :=
  { slots := fun _ _ => { content }, nextWay := fun _ => first }

/-- The slot was written in the table's generation. -/
def Live (t : WayTable α sets ways) (set : Fin sets) (way : Fin ways) : Prop :=
  (t.slots set way).generation = t.generation

instance (t : WayTable α sets ways) (set : Fin sets) (way : Fin ways) : Decidable (t.Live set way) :=
  inferInstanceAs (Decidable (_ = _))

/-- The first way of `ws` that is stale or whose content is `wanted`. -/
def probeWays (t : WayTable α sets ways) (wanted : α → Bool) (set : Fin sets) :
    List (Fin ways) → WayProbe ways
  | [] => .full
  | w :: ws =>
    if ¬ t.Live set w then .stale w
    else if wanted (t.slots set w).content then .hit w
    else probeWays t wanted set ws

def probe (t : WayTable α sets ways) (wanted : α → Bool) (set : Fin sets) : WayProbe ways :=
  t.probeWays wanted set (List.finRange ways)

/-- Write one slot in the current generation. -/
def write (t : WayTable α sets ways) (set : Fin sets) (way : Fin ways) (content : α) :
    WayTable α sets ways :=
  { t with slots := fun s w =>
      if s = set ∧ w = way then { content, generation := t.generation } else t.slots s w }

/-- The way `place` writes. -/
def placed (t : WayTable α sets ways) (set : Fin sets) (free : Option (Fin ways)) : Fin ways :=
  free.getD (t.nextWay set)

/-- The ways of a set are overwritten in turn. -/
def after (way : Fin ways) : Fin ways := ⟨(way + 1) % ways, Nat.mod_lt _ way.pos⟩

/-- Write into the way that was found free, or into the next one of a full set. -/
def place (t : WayTable α sets ways) (set : Fin sets) (free : Option (Fin ways))
    (content : α) : WayTable α sets ways :=
  match free with
  | some way => t.write set way content
  | none =>
    { t.write set (t.nextWay set) content with
      nextWay := fun s => if s = set then after (t.nextWay s) else t.nextWay s }

/-- Start a generation; the slots are cleared when the counter wraps. -/
def advance (t : WayTable α sets ways) : WayTable α sets ways :=
  if t.generation + 1 = 0 then
    { t with slots := fun s w => { t.slots s w with generation := 0 }, generation := 1 }
  else { t with generation := t.generation + 1 }

/-! ## 2. What the live slots hold -/

/-- No slot is ahead of the counter. -/
def Bounded (t : WayTable α sets ways) : Prop :=
  ∀ set way, (t.slots set way).generation ≤ t.generation

/-- Every live slot holds a content that satisfies `P`. -/
def Holds (t : WayTable α sets ways) (P : α → Prop) : Prop :=
  ∀ set way, t.Live set way → P (t.slots set way).content

theorem Holds.mono {t : WayTable α sets ways} {P Q : α → Prop} (h : t.Holds P)
    (hPQ : ∀ a, P a → Q a) : t.Holds Q :=
  fun set way hlive => hPQ _ (h set way hlive)

theorem bounded_empty (content : α) (first : Fin ways) :
    (empty content first : WayTable α sets ways).Bounded :=
  fun _ _ => UInt32.le_refl _

theorem probeWays_hit {t : WayTable α sets ways} {wanted : α → Bool} {set : Fin sets}
    {way : Fin ways} : ∀ {ws : List (Fin ways)}, t.probeWays wanted set ws = .hit way →
      t.Live set way ∧ wanted (t.slots set way).content = true
  | [], h => by cases h
  | w :: ws, h => by
    unfold probeWays at h
    split at h
    · cases h
    · rename_i hlive
      split at h
      · rename_i hwanted
        cases h
        exact ⟨not_not.1 hlive, hwanted⟩
      · exact probeWays_hit h

/-- A hit is a live slot with the content searched for. -/
theorem probe_hit {t : WayTable α sets ways} {wanted : α → Bool} {set : Fin sets}
    {way : Fin ways} (h : t.probe wanted set = .hit way) :
    t.Live set way ∧ wanted (t.slots set way).content = true :=
  probeWays_hit h

/-! ## 3. Writes -/

@[simp] theorem write_generation (t : WayTable α sets ways) (set : Fin sets) (way : Fin ways)
    (content : α) : (t.write set way content).generation = t.generation := rfl

theorem bounded_write {t : WayTable α sets ways} (h : t.Bounded) (set : Fin sets)
    (way : Fin ways) (content : α) : (t.write set way content).Bounded := by
  intro s w
  by_cases hw : s = set ∧ w = way
  · simp [write, hw]
  · simpa [write, hw] using h s w

theorem holds_write {t : WayTable α sets ways} {P : α → Prop} (h : t.Holds P) (set : Fin sets)
    (way : Fin ways) {content : α} (hP : P content) : (t.write set way content).Holds P := by
  intro s w hlive
  by_cases hw : s = set ∧ w = way
  · simpa [write, hw] using hP
  · have hold : t.Live s w := by simpa [Live, write, hw] using hlive
    simpa [write, hw] using h s w hold

theorem bounded_place {t : WayTable α sets ways} (h : t.Bounded) (set : Fin sets)
    (free : Option (Fin ways)) (content : α) : (t.place set free content).Bounded := by
  cases free with
  | some way => exact bounded_write h set way content
  | none => exact bounded_write h set (t.nextWay set) content

theorem holds_place {t : WayTable α sets ways} {P : α → Prop} (h : t.Holds P)
    (set : Fin sets) (free : Option (Fin ways)) {content : α} (hP : P content) :
    (t.place set free content).Holds P := by
  cases free with
  | some way => exact holds_write h set way hP
  | none => exact holds_write h set (t.nextWay set) hP

/-! ## 4. A new generation -/

theorem bounded_advance {t : WayTable α sets ways} (h : t.Bounded) : t.advance.Bounded := by
  intro set way
  have hle := h set way
  unfold advance
  split
  · simp
  · rename_i hwrap
    rw [UInt32.le_iff_toNat_le] at hle ⊢
    have hnext : (t.generation + 1).toNat = t.generation.toNat + 1 := by
      have : (t.generation + 1).toNat ≠ 0 := fun h0 => hwrap (UInt32.toNat_inj.1 (by simpa using h0))
      rw [UInt32.toNat_add] at this ⊢
      have := t.generation.toNat_lt
      simp only [UInt32.toNat_one] at *
      omega
    simp only [hnext]
    omega

/-- No slot is live in a generation that has just begun. -/
theorem not_live_advance {t : WayTable α sets ways} (h : t.Bounded) (set : Fin sets)
    (way : Fin ways) : ¬ t.advance.Live set way := by
  have hle := h set way
  intro hlive
  unfold Live advance at hlive
  split at hlive
  · simp at hlive
  · rename_i hwrap
    simp only at hlive
    rw [hlive, UInt32.le_iff_toNat_le, UInt32.toNat_add] at hle
    have := t.generation.toNat_lt
    have : (t.generation + 1).toNat ≠ 0 := fun h0 => hwrap (UInt32.toNat_inj.1 (by simpa using h0))
    rw [UInt32.toNat_add] at this
    simp only [UInt32.toNat_one] at *
    omega

theorem holds_advance {t : WayTable α sets ways} (h : t.Bounded) (P : α → Prop) :
    t.advance.Holds P :=
  fun set way hlive => absurd hlive (not_live_advance h set way)

end WayTable
