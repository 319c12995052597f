/-
# What the path search is told

`reachable_hook` is transparent (`reachable_told`): where the game's `Reachable` depends on the bits
of the destination within an outermost anchor scope, every answer is the game's.  The table only
speaks for the scope it was filled in, because a new scope advances its generation.

The walk moves are not.  The scope that `reachable_active` opens around a call of the game is not
suspended by the calls that `reachable_hook` forwards past the table, those made inside a nested
anchor search.  A walk move made in such a call is looked up among the moves of the call around it,
and answered with the code of a cycle that its own call never made (`walk_move_crosses_calls`).  In
every run without such a look-up a cycle is only ever reported within one call (`path_search_told`).
-/
import Kf2Optimizer.Game.AnchorSearch

namespace Kf2Optimizer.Game.Anchor

open StepMachine

/-! ## 1. What the hooks do -/

theorem CacheSlot.eq_of_key {s : CacheSlot} {key : ReachKey} (h : s.key = key) :
    s = ⟨key, s.result⟩ := by
  rw [← h]

namespace Thread

/-- `reachable_hook` answers, from the table or for want of a function; or it calls the game past
the table; or it calls the game for the table. -/
theorem reachableHook_cases (image : Image) (t : Thread) (pawn : Pointer) (destination : Vec3)
    (own : Int32) (hentry : t.cache.reachable = entry image.reachable t.cache.pawn) :
    (∃ answer last, t.reachableHook image pawn destination own =
        ({ t with cache := { t.cache with last } }, some answer) ∧
      (entry image.reachable pawn = 0 ∧ answer = 0 ∨
        t.cache.pawn = pawn ∧ entry image.reachable pawn ≠ 0 ∧ ∃ set way, t.cache.table.Live set way ∧
          (t.cache.table.slots set way).content = ⟨vectorBits destination, answer⟩)) ∨
    (entry image.reachable pawn ≠ 0 ∧ t.reachableHook image pawn destination own =
      (t.pushReachable (.reachableDirect · pawn (vectorBits destination) own), none)) ∨
    (t.cache.pawn = pawn ∧ entry image.reachable pawn ≠ 0 ∧ ∃ replacement,
      t.reachableHook image pawn destination own =
        (t.reachableMissed image pawn (vectorBits destination) own replacement, none)) := by
  unfold reachableHook
  by_cases hactive : t.cache.pawn = pawn ∧ t.cache.suspended = 0
  · rw [if_pos hactive]
    unfold reachableActive
    rw [hactive.1] at hentry
    by_cases hnull : t.cache.reachable = 0
    · rw [if_pos hnull]
      exact .inl ⟨0, t.cache.last, rfl, .inl ⟨hentry ▸ hnull, rfl⟩⟩
    · rw [if_neg hnull]
      have hne : entry image.reachable pawn ≠ 0 := hentry ▸ hnull
      cases hlast : t.cache.lastHit (vectorBits destination) with
      | some result =>
        refine .inl ⟨result, t.cache.last, rfl, .inr ⟨hactive.1, hne, ?_⟩⟩
        unfold CacheState.lastHit at hlast
        split at hlast
        · rename_i set way hslot
          split at hlast
          · rename_i hlive
            cases hlast
            exact ⟨set, way, hlive.1, CacheSlot.eq_of_key hlive.2⟩
          · cases hlast
        · cases hlast
      | none =>
        cases hprobe : t.cache.table.probe (CacheState.wanted (vectorBits destination))
          (CacheState.setOf (vectorBits destination)) with
        | hit way =>
          obtain ⟨hlive, hkey⟩ := WayTable.probe_hit hprobe
          have hkey : (t.cache.table.slots (CacheState.setOf (vectorBits destination))
              way).content.key = vectorBits destination := by simpa [CacheState.wanted] using hkey
          exact .inl ⟨_, _, rfl, .inr ⟨hactive.1, hne, _, way, hlive, CacheSlot.eq_of_key hkey⟩⟩
        | stale way => exact .inr (.inr ⟨hactive.1, hne, some way, rfl⟩)
        | full => exact .inr (.inr ⟨hactive.1, hne, none, rfl⟩)
  · rw [if_neg hactive]
    by_cases hnull : entry image.reachable pawn = 0
    · rw [if_pos hnull]
      exact .inl ⟨0, t.cache.last, rfl, .inl ⟨hnull, rfl⟩⟩
    · rw [if_neg hnull]
      exact .inr (.inl ⟨hnull, rfl⟩)

/-- `walk_move_hook` answers from the table, or calls the game for the table, or past it. -/
theorem walkMoveHook_cases (t : Thread) (m : WalkMove) (own : Int32) :
    (t.Caches m.pawn ∧ t.walkMoveHook m own = (t, some TestMoveCycle) ∧ ∃ set way,
      t.walk.table.Live set way ∧ (t.walk.table.slots set way).content.key = m.key) ∨
    (t.Caches m.pawn ∧ ∃ replacement,
      t.walkMoveHook m own = (t.push (.walk m.pawn m.key replacement own), none)) ∨
    t.walkMoveHook m own = (t.push (.walkDirect m.pawn m.key own), none) := by
  unfold walkMoveHook
  by_cases hcaches : t.Caches m.pawn
  · rw [if_neg (not_not.2 hcaches)]
    unfold walkMoveActive
    split
    · rename_i way hprobe
      obtain ⟨hlive, hwanted⟩ := WayTable.probe_hit hprobe
      have hwanted := of_decide_eq_true hwanted
      exact .inl ⟨hcaches, rfl, _, way, hlive, hwanted.2⟩
    · exact .inr (.inl ⟨hcaches, _, rfl⟩)
    · exact .inr (.inl ⟨hcaches, _, rfl⟩)
  · rw [if_pos hcaches]
    exact .inr (.inr rfl)

end Thread

/-! ## 2. Reachability -/

/-- `reachable_active` waits for the game. -/
def Frame.Active : Frame → Prop
  | .reachable _ _ _ _ _ _ => True
  | _ => False

/-- Below the hook that has opened the anchor scope nobody waits for the table. -/
def Covered : List Frame → Prop
  | [] => True
  | .anchor true :: rest => (∀ f ∈ rest, ¬ f.Active) ∧ Covered rest
  | _ :: rest => Covered rest

theorem entry_null (table : Pointer → Pointer) : entry table 0 = 0 := if_pos rfl

theorem pawn_ne_zero_of_entry {table : Pointer → Pointer} {pawn : Pointer}
    (h : entry table pawn ≠ 0) : pawn ≠ 0 := by
  rintro rfl
  exact h (entry_null _)

/-- The pawn a call of `Reachable` was made for has that function. -/
def Frame.HasReachable (image : Image) : Frame → Prop
  | .reachable _ pawn _ _ _ _ => entry image.reachable pawn ≠ 0
  | .reachableDirect _ pawn _ _ => entry image.reachable pawn ≠ 0
  | _ => True

/-- What waits for the table is an answer of this scope. -/
def Frame.Asked (asked : List (ReachKey × Int32)) : Frame → Prop
  | .reachable _ _ key _ _ own => (key, own) ∈ asked
  | _ => True

theorem Frame.Asked.of_not_active {asked : List (ReachKey × Int32)} {f : Frame}
    (h : ¬ f.Active) : f.Asked asked := by
  cases f <;> first | trivial | exact absurd trivial h

theorem Frame.Asked.cons {asked : List (ReachKey × Int32)} {f : Frame} (h : f.Asked asked)
    (a : ReachKey × Int32) : f.Asked (a :: asked) := by
  cases f <;> first | trivial | exact List.mem_cons_of_mem _ h

/-- The live slots of the table, and what waits for it, are answers of the scope entered last. -/
structure CacheInv (image : Image) (t : Thread) : Prop where
  bounded : t.cache.table.Bounded
  holds : t.cache.pawn ≠ 0 → t.cache.table.Holds fun s => (s.key, s.result) ∈ t.asked
  reachable : t.cache.reachable = entry image.reachable t.cache.pawn
  opened : t.cache.pawn = 0 → ∀ f ∈ t.stack, ¬ f.Active
  covered : Covered t.stack
  entries : ∀ f ∈ t.stack, f.HasReachable image
  asked : ∀ f ∈ t.stack, f.Asked t.asked

namespace Thread

variable {image : Image} {t : Thread}

theorem recorded_cache (t : Thread) (pawn : Pointer) (destination : Vec3) (own : Int32) :
    (t.recorded pawn destination own).cache = t.cache := by
  unfold recorded
  split <;> rfl

theorem recorded_stack (t : Thread) (pawn : Pointer) (destination : Vec3) (own : Int32) :
    (t.recorded pawn destination own).stack = t.stack := by
  unfold recorded
  split <;> rfl

theorem mem_recorded {pawn : Pointer} (destination : Vec3) (own : Int32)
    (hpawn : t.cache.pawn = pawn) (h0 : pawn ≠ 0) :
    (vectorBits destination, own) ∈ (t.recorded pawn destination own).asked := by
  unfold recorded
  rw [if_pos ⟨hpawn, h0⟩]
  exact List.mem_cons_self

end Thread

theorem Covered.tail : ∀ {f : Frame} {rest : List Frame}, Covered (f :: rest) → Covered rest
  | .anchor true, _, h => h.2
  | .anchor false, _, h => h
  | .reachable _ _ _ _ _ _, _, h => h
  | .reachableDirect _ _ _ _, _, h => h
  | .walk _ _ _ _, _, h => h
  | .walkDirect _ _ _, _, h => h

namespace CacheInv

variable {image : Image} {t : Thread}

theorem new : CacheInv image {} where
  bounded := WayTable.bounded_empty _ _
  holds := fun h => absurd rfl h
  reachable := (entry_null _).symm
  opened := fun _ _ hf => absurd hf List.not_mem_nil
  covered := trivial
  entries := fun _ hf => absurd hf List.not_mem_nil
  asked := fun _ hf => absurd hf List.not_mem_nil

/-- The invariant of the table reads the cache, the stack and what was asked, and the stack may
only have grown by frames that wait for nothing. -/
theorem push (h : CacheInv image t) {f : Frame} (hactive : ¬ f.Active)
    (hcovered : Covered (f :: t.stack)) (hentry : f.HasReachable image) :
    CacheInv image (t.push f) where
  bounded := h.bounded
  holds := h.holds
  reachable := h.reachable
  opened := fun h0 => List.forall_mem_cons.2 ⟨hactive, h.opened h0⟩
  covered := hcovered
  entries := List.forall_mem_cons.2 ⟨hentry, h.entries⟩
  asked := List.forall_mem_cons.2 ⟨.of_not_active hactive, h.asked⟩

theorem pushReachable (h : CacheInv image t) {f : ℕ → Frame}
    (hpawn : (f t.calls).Active → t.cache.pawn ≠ 0) (hcovered : Covered (f t.calls :: t.stack))
    (hentry : (f t.calls).HasReachable image) (hasked : (f t.calls).Asked t.asked) :
    CacheInv image (t.pushReachable f) where
  bounded := h.bounded
  holds := h.holds
  reachable := h.reachable
  opened := fun h0 => List.forall_mem_cons.2 ⟨fun hactive => hpawn hactive h0, h.opened h0⟩
  covered := hcovered
  entries := List.forall_mem_cons.2 ⟨hentry, h.entries⟩
  asked := List.forall_mem_cons.2 ⟨hasked, h.asked⟩

theorem recorded (h : CacheInv image t) (pawn : Pointer) (destination : Vec3)
    (own : Int32) : CacheInv image (t.recorded pawn destination own) := by
  unfold Thread.recorded
  split
  · exact { h with
      holds := fun h0 => (h.holds h0).mono fun _ => List.mem_cons_of_mem _
      asked := fun f hf => (h.asked f hf).cons _ }
  · exact h

theorem reachableHook (h : CacheInv image t) (pawn : Pointer) (destination : Vec3)
    (own : Int32) (hasked : t.cache.pawn = pawn → pawn ≠ 0 → (vectorBits destination, own) ∈ t.asked) :
    CacheInv image (t.reachableHook image pawn destination own).1 := by
  obtain ⟨answer, last, heq, -⟩ | ⟨hentry, heq⟩ | ⟨hpawn, hentry, replacement, heq⟩ :=
    t.reachableHook_cases image pawn destination own h.reachable
  · rw [heq]
    exact ⟨h.bounded, h.holds, h.reachable, h.opened, h.covered, h.entries, h.asked⟩
  · rw [heq]
    exact h.pushReachable (f := (.reachableDirect · pawn (vectorBits destination) own)) False.elim
      h.covered hentry trivial
  · rw [heq]
    have h0 := pawn_ne_zero_of_entry hentry
    have hwalk : CacheInv image
        { t with walk := (t.walk.anchorWalkCycleBegin image.installed pawn).1 } :=
      ⟨h.bounded, h.holds, h.reachable, h.opened, h.covered, h.entries, h.asked⟩
    exact hwalk.pushReachable (f := (.reachable · pawn (vectorBits destination) replacement
      (t.walk.anchorWalkCycleBegin image.installed pawn).2 own)) (fun _ => hpawn ▸ h0)
      h.covered hentry (hasked hpawn h0)

theorem anchorHook (h : CacheInv image t) (pawn : Pointer) :
    CacheInv image (t.anchorHook image pawn) := by
  unfold Thread.anchorHook
  split
  · exact h
  · split
    · have hsuspended : CacheInv image
          { t with cache := { t.cache with suspended := t.cache.suspended + 1 } } :=
        ⟨h.bounded, h.holds, h.reachable, h.opened, h.covered, h.entries, h.asked⟩
      exact hsuspended.push id h.covered trivial
    · rename_i hentry hpawn
      have hidle : ∀ f ∈ t.stack, ¬ f.Active := h.opened (not_not.1 hpawn)
      constructor
      · exact WayTable.bounded_advance h.bounded
      · exact fun _ => WayTable.holds_advance h.bounded _
      · rfl
      · intro h0
        exact absurd h0 (pawn_ne_zero_of_entry hentry)
      · exact ⟨hidle, h.covered⟩
      · exact List.forall_mem_cons.2 ⟨trivial, h.entries⟩
      · exact List.forall_mem_cons.2 ⟨trivial, fun f hf => .of_not_active (hidle f hf)⟩

theorem pop {f : Frame} {rest : List Frame} (h : CacheInv image t)
    (hstack : t.stack = f :: rest) : CacheInv image { t with stack := rest } where
  bounded := h.bounded
  holds := h.holds
  reachable := h.reachable
  opened := fun h0 g hg => h.opened h0 g (hstack ▸ List.mem_cons_of_mem f hg)
  covered := Covered.tail (hstack ▸ h.covered)
  entries := fun g hg => h.entries g (hstack ▸ List.mem_cons_of_mem f hg)
  asked := fun g hg => h.asked g (hstack ▸ List.mem_cons_of_mem f hg)

theorem returned {f : Frame} {rest : List Frame} (h : CacheInv image t)
    (hstack : t.stack = f :: rest) :
    CacheInv image (({ t with stack := rest } : Thread).returned f) := by
  have hpop := h.pop hstack
  have hcovered : Covered (f :: rest) := hstack ▸ h.covered
  have hasked : f.Asked t.asked := h.asked f (hstack ▸ List.mem_cons_self)
  match f with
  | .anchor true =>
    exact { hpop with
      holds := fun h0 => absurd rfl h0
      reachable := (entry_null _).symm
      opened := fun _ => hcovered.1 }
  | .anchor false => exact { hpop with }
  | .reachable call pawn key replacement walkScope own =>
    exact { hpop with
      bounded := WayTable.bounded_place h.bounded _ _ _
      holds := fun h0 => WayTable.holds_place (h.holds h0) _ _ hasked }
  | .reachableDirect _ _ _ _ => exact hpop
  | .walk _ _ _ _ => exact { hpop with }
  | .walkDirect _ _ _ => exact { hpop with }

/-- Every step keeps the invariant of the table. -/
theorem step (h : CacheInv image t) (e : Event) : CacheInv image (t.step image e) := by
  cases e with
  | anchor pawn => exact h.anchorHook pawn
  | reachable pawn destination goal own =>
    refine (h.recorded pawn destination own).reachableHook pawn destination own fun hpawn h0 => ?_
    rw [Thread.recorded_cache] at hpawn
    exact Thread.mem_recorded destination own hpawn h0
  | walkMove move own =>
    change CacheInv image (t.walkMoveHook move own).1
    obtain ⟨-, heq, -⟩ | ⟨-, replacement, heq⟩ | heq := t.walkMoveHook_cases move own
    · rw [heq]
      exact h
    · rw [heq]
      exact h.push id h.covered trivial
    · rw [heq]
      exact h.push id h.covered trivial
  | done =>
    unfold Thread.step
    cases hstack : t.stack with
    | nil => exact h
    | cons f rest => exact h.returned hstack

/-- Where the game's `Reachable` depends on the bits, the table answers for it. -/
theorem reachTold (h : CacheInv image t) {e : Event} (hbits : t.DependsOnBits e) :
    t.ReachTold image e := by
  intro pawn own answer hmem
  cases e with
  | anchor _ => cases hmem
  | reachable asked destination goal game =>
    have hcache := Thread.recorded_cache t asked destination game
    obtain ⟨given, last, heq, hanswer⟩ | ⟨-, heq⟩ | ⟨-, -, replacement, heq⟩ :=
      (t.recorded asked destination game).reachableHook_cases image asked destination game
        (h.recorded asked destination game).reachable
    · simp only [Thread.told, heq, Option.map_some, Option.toList_some, List.mem_singleton] at hmem
      cases hmem
      obtain ⟨hnull, h0⟩ | ⟨hpawn, hentry, set, way, hlive, hcontent⟩ := hanswer
      · rw [if_pos hnull, h0]
      · rw [if_neg hentry]
        rw [hcache] at hpawn hlive hcontent
        have h0 := pawn_ne_zero_of_entry hentry
        have hheld := h.holds (hpawn ▸ h0) set way hlive
        rw [hcontent] at hheld
        exact hbits hpawn h0 _ hheld rfl
    · simp [Thread.told, heq] at hmem
    · simp [Thread.told, heq] at hmem
  | walkMove move game =>
    simp [Thread.told] at hmem
  | done =>
    simp only [Thread.told] at hmem
    split at hmem
    · rename_i hstack
      cases List.mem_singleton.1 hmem
      have hentry := h.entries
      rw [hstack] at hentry
      exact (if_neg (hentry _ List.mem_cons_self)).symm
    · rename_i hstack
      cases List.mem_singleton.1 hmem
      have hentry := h.entries
      rw [hstack] at hentry
      exact (if_neg (hentry _ List.mem_cons_self)).symm
    · cases List.mem_singleton.1 hmem
    · cases List.mem_singleton.1 hmem
    · cases hmem

end CacheInv

/-! ## 3. Walk moves -/

open Thread (walkOwner)

/-- The walk scope is opened by one call at a time, and a move waits for the table only inside the
call that has opened it. -/
def Nested (pawn : Pointer) : List Frame → Prop
  | [] => True
  | .reachable _ _ _ _ .owner _ :: rest => walkOwner rest = none ∧ Nested pawn rest
  | .walk asked _ _ _ :: rest =>
    (asked = pawn ∧ innermost rest = walkOwner rest ∧ walkOwner rest ≠ none) ∧ Nested pawn rest
  | _ :: rest => Nested pawn rest

/-- Outside a walk scope no move waits for the table, so the pawn of the next scope is free. -/
theorem Nested.of_no_owner (pawn pawn' : Pointer) {stack : List Frame} (h : Nested pawn stack)
    (howner : walkOwner stack = none) : Nested pawn' stack := by
  induction stack with
  | nil => trivial
  | cons f rest ih =>
    match f with
    | .reachable _ _ _ _ .owner _ => cases howner
    | .reachable _ _ _ _ .suspended _ => exact ih h howner
    | .reachable _ _ _ _ .none _ => exact ih h howner
    | .walk _ _ _ _ => exact absurd howner h.1.2.2
    | .walkDirect _ _ _ => exact ih h howner
    | .anchor _ => exact ih h howner
    | .reachableDirect _ _ _ _ => exact ih h howner

/-- In an open walk scope the live slots are moves of the call that has opened it. -/
structure WalkInv (t : Thread) : Prop where
  bounded : t.walk.table.Bounded
  pawn : t.walk.pawn = 0 ↔ walkOwner t.stack = none
  nested : Nested t.walk.pawn t.stack
  holds : walkOwner t.stack ≠ none →
    t.walk.table.Holds fun s => ⟨walkOwner t.stack, t.walk.pawn, s.key⟩ ∈ t.moves

namespace WalkInv

variable {image : Image} {t : Thread}

theorem new : WalkInv {} where
  bounded := WayTable.bounded_empty _ _
  pawn := ⟨fun _ => rfl, fun _ => rfl⟩
  nested := trivial
  holds := fun h => absurd rfl h

/-- The invariant of the walk table reads the scope, the stack and the moves. -/
theorem congr (h : WalkInv t) {t' : Thread} (hwalk : t'.walk.table = t.walk.table)
    (hpawn : t'.walk.pawn = t.walk.pawn) (howner : walkOwner t'.stack = walkOwner t.stack)
    (hnested : Nested t.walk.pawn t'.stack) (hmoves : ∀ m ∈ t.moves, m ∈ t'.moves) :
    WalkInv t' where
  bounded := hwalk ▸ h.bounded
  pawn := by rw [hpawn, howner]; exact h.pawn
  nested := hpawn ▸ hnested
  holds := by
    rw [hwalk, hpawn, howner]
    exact fun hne => (h.holds hne).mono fun _ hm => hmoves _ hm

/-- `anchor_walk_cycle_begin` around a call of `Reachable`. -/
theorem reachableMissed (h : WalkInv t) (pawn : Pointer) (key : ReachKey) (own : Int32)
    (replacement : Option (Fin 2)) :
    WalkInv (t.reachableMissed image pawn key own replacement) := by
  unfold Thread.reachableMissed WalkState.anchorWalkCycleBegin
  by_cases hnone : image.installed = false ∨ pawn = 0
  · simp only [if_pos hnone]
    exact h.congr rfl rfl rfl h.nested fun _ hm => hm
  · by_cases hopen : t.walk.pawn ≠ 0
    · simp only [if_neg hnone, if_pos hopen]
      exact h.congr rfl rfl rfl h.nested fun _ hm => hm
    · simp only [if_neg hnone, if_neg hopen]
      have hidle : walkOwner t.stack = none := h.pawn.1 (not_not.1 hopen)
      constructor
      · exact WayTable.bounded_advance h.bounded
      · exact ⟨fun h0 => absurd (.inr h0) hnone, fun h0 => by cases h0⟩
      · exact ⟨hidle, h.nested.of_no_owner _ pawn hidle⟩
      · exact fun _ => WayTable.holds_advance h.bounded _

theorem reachableHook (h : WalkInv t) (hcache : CacheInv image t) (pawn : Pointer)
    (destination : Vec3) (own : Int32) :
    WalkInv (t.reachableHook image pawn destination own).1 := by
  obtain ⟨answer, last, heq, -⟩ | ⟨-, heq⟩ | ⟨-, -, replacement, heq⟩ :=
    t.reachableHook_cases image pawn destination own hcache.reachable
  · rw [heq]
    exact h.congr rfl rfl rfl h.nested fun _ hm => hm
  · rw [heq]
    exact h.congr rfl rfl rfl h.nested fun _ hm => hm
  · rw [heq]
    exact h.reachableMissed pawn _ own replacement

theorem anchorHook (h : WalkInv t) (pawn : Pointer) : WalkInv (t.anchorHook image pawn) := by
  unfold Thread.anchorHook
  split
  · exact h
  · split
    · exact h.congr rfl rfl rfl h.nested fun _ hm => hm
    · exact h.congr rfl rfl rfl h.nested fun _ hm => hm

theorem walkMoveHook (h : WalkInv t) (move : WalkMove) (own : Int32)
    (hown : t.OwnWalks (.walkMove move own)) : WalkInv (t.walkMoveHook move own).1 := by
  obtain ⟨-, heq, -⟩ | ⟨hcaches, replacement, heq⟩ | heq := t.walkMoveHook_cases move own
  · rw [heq]
    exact h
  · rw [heq]
    obtain ⟨hinner, howner⟩ := hown hcaches
    exact h.congr rfl rfl rfl ⟨⟨hcaches.1.symm, howner, howner ▸ hinner⟩, h.nested⟩ fun _ hm => hm
  · rw [heq]
    exact h.congr rfl rfl rfl h.nested fun _ hm => hm

theorem mem_moved {m : Move} (hm : m ∈ t.moves) (pawn : Pointer) (key : WalkKey) (own : Int32) :
    m ∈ t.moved pawn key own := by
  unfold Thread.moved
  split
  · exact List.mem_cons_of_mem _ hm
  · exact hm

/-- A move that has returned moved is written into the table as one of the call that has opened
the scope. -/
theorem walkReturned {asked : Pointer} {key : WalkKey} {replacement : Option (Fin 2)} {own : Int32}
    {rest : List Frame} (h : WalkInv t) (hstack : t.stack = .walk asked key replacement own :: rest) :
    WalkInv (({ t with stack := rest } : Thread).returned (.walk asked key replacement own)) := by
  have hnested := h.nested
  rw [hstack] at hnested
  obtain ⟨⟨rfl, hinner, howner⟩, hrest⟩ := hnested
  have hsame : walkOwner t.stack = walkOwner rest := by rw [hstack]; rfl
  have hpop : WalkInv { t with stack := rest } := h.congr rfl rfl hsame.symm hrest fun _ hm => hm
  by_cases hmoved : own = TestMoveMoved
  · simp only [Thread.returned, WalkState.walkMoveReturned, Thread.moved, if_pos hmoved]
    constructor
    · exact WayTable.bounded_place h.bounded _ _ _
    · exact hpop.pawn
    · exact hrest
    · intro hne
      refine WayTable.holds_place ?_ _ _ ?_
      · exact (hpop.holds hne).mono fun _ hm => List.mem_cons_of_mem _ hm
      · simp [hinner]
  · simp only [Thread.returned, WalkState.walkMoveReturned, Thread.moved, if_neg hmoved]
    exact hpop

theorem returned {f : Frame} {rest : List Frame} (h : WalkInv t) (hstack : t.stack = f :: rest) :
    WalkInv (({ t with stack := rest } : Thread).returned f) := by
  have hnested := h.nested
  rw [hstack] at hnested
  match f with
  | .anchor true =>
    exact h.congr rfl rfl (by rw [hstack]; rfl) hnested fun _ hm => hm
  | .anchor false =>
    exact h.congr rfl rfl (by rw [hstack]; rfl) hnested fun _ hm => hm
  | .reachable _ _ _ _ .none _ =>
    exact h.congr rfl rfl (by rw [hstack]; rfl) hnested fun _ hm => hm
  | .reachable _ _ _ _ .suspended _ =>
    have hpop : WalkInv { t with stack := rest } :=
      h.congr rfl rfl (by rw [hstack]; rfl) hnested fun _ hm => hm
    simp only [Thread.returned, WalkState.anchorWalkCycleEnd]
    split
    · exact hpop.congr rfl rfl rfl hnested fun _ hm => hm
    · exact hpop.congr rfl rfl rfl hnested fun _ hm => hm
  | .reachable _ _ _ _ .owner _ =>
    -- the scope ends, and below the call that has opened it there is no other
    constructor
    · exact h.bounded
    · exact ⟨fun _ => hnested.1, fun _ => rfl⟩
    · exact hnested.2.of_no_owner _ 0 hnested.1
    · exact fun hne => absurd hnested.1 hne
  | .reachableDirect _ _ _ _ =>
    exact h.congr rfl rfl (by rw [hstack]; rfl) hnested fun _ hm => hm
  | .walk _ _ _ _ => exact h.walkReturned hstack
  | .walkDirect pawn key own =>
    exact h.congr rfl rfl (by rw [hstack]; rfl) hnested fun _ hm =>
      mem_moved (t := { t with stack := rest }) hm pawn key own

/-- A step whose look-ups belong to the call they are made in keeps the invariant. -/
theorem step (h : WalkInv t) (hcache : CacheInv image t) {e : Event} (hown : t.OwnWalks e) :
    WalkInv (t.step image e) := by
  cases e with
  | anchor pawn => exact h.anchorHook pawn
  | reachable pawn destination goal own =>
    refine WalkInv.reachableHook ?_ (hcache.recorded pawn destination own) pawn destination own
    unfold Thread.recorded
    split
    · exact h.congr rfl rfl rfl h.nested fun _ hm => hm
    · exact h
  | walkMove move own => exact h.walkMoveHook move own hown
  | done =>
    unfold Thread.step
    cases hstack : t.stack with
    | nil => exact h
    | cons f rest => exact h.returned hstack

theorem walkTold (h : WalkInv t) {e : Event} (hown : t.OwnWalks e) : t.WalkTold image e := by
  intro call pawn key own answer hmem
  cases e with
  | anchor _ => cases hmem
  | reachable asked destination goal game => simp [Thread.told] at hmem
  | walkMove move game =>
    obtain ⟨hcaches, heq, set, way, hlive, hkey⟩ | ⟨-, replacement, heq⟩ | heq :=
      t.walkMoveHook_cases move game
    · simp only [Thread.told, heq, Option.map_some, Option.toList_some, List.mem_singleton] at hmem
      cases hmem
      obtain ⟨hinner, howner⟩ := hown hcaches
      have hheld := h.holds (howner ▸ hinner) set way hlive
      rw [← howner, hkey, hcaches.1] at hheld
      exact .inr ⟨rfl, hinner, hheld⟩
    · simp [Thread.told, heq] at hmem
    · simp [Thread.told, heq] at hmem
  | done =>
    simp only [Thread.told] at hmem
    split at hmem
    · cases List.mem_singleton.1 hmem
    · cases List.mem_singleton.1 hmem
    · cases List.mem_singleton.1 hmem
      exact .inl rfl
    · cases List.mem_singleton.1 hmem
      exact .inl rfl
    · cases hmem

end WalkInv

/-! ## 4. Runs -/

/-- **What the path search is told.**  Over every nesting of the three hooks: where the game's
`Reachable` depends on the bits of the destination within an outermost anchor scope, every answer of
`reachable_hook` is the game's; and where every walk move that is looked up is made in the call of
`Reachable` that has opened the walk scope, `walk_move_hook` reports a cycle only for a move already
made in the same call, and otherwise the game's own result. -/
theorem path_search_told (image : Image) (es : List Event) :
    (Along (Thread.step image) Thread.DependsOnBits {} es →
      Along (Thread.step image) (Thread.ReachTold image) {} es) ∧
    (Along (Thread.step image) Thread.OwnWalks {} es →
      Along (Thread.step image) (Thread.WalkTold image) {} es) := by
  constructor
  · exact along_of_invariant (I := CacheInv image) (fun _ e h _ => h.step e)
      (fun _ _ h hbits => h.reachTold hbits) es {} CacheInv.new
  · exact along_of_invariant (I := fun t => CacheInv image t ∧ WalkInv t)
      (fun _ e h hown => ⟨h.1.step e, h.2.step h.1 hown⟩)
      (fun _ _ h hown => h.2.walkTold hown) es {} ⟨CacheInv.new, WalkInv.new⟩

/-! ## 5. A nested anchor search -/

/-- An image in which every pawn has both functions. -/
def hooked : Image := { getBestAnchor := fun _ => 1, reachable := fun _ => 1, installed := true }

def stride : WalkMove :=
  { pawn := 1, delta := ⟨1, 0, 0⟩, current := ⟨0, 0, 0⟩, extent := 1, hit := 1, goal := 0,
    threshold := 0 }

/-- An anchor search, in it a call of `Reachable`, in that a move that is made twice. -/
def circling : List Event :=
  [.anchor 1, .reachable 1 ⟨1, 0, 0⟩ 0 1, .walkMove stride TestMoveMoved, .done,
    .walkMove stride TestMoveMoved, .done, .reachable 1 ⟨1, 0, 0⟩ 0 1]

theorem path_search_told_circling :
    Along (Thread.step hooked) (Thread.ReachTold hooked) {} circling ∧
      Along (Thread.step hooked) (Thread.WalkTold hooked) {} circling :=
  ⟨(path_search_told hooked circling).1 (by decide +kernel),
    (path_search_told hooked circling).2 (by decide +kernel)⟩

/-- An anchor search, in it a call of `Reachable` that makes a move and starts a nested search; in
that search another call of `Reachable`. -/
def nesting : List Event :=
  [.anchor 1, .reachable 1 ⟨1, 0, 0⟩ 0 1, .walkMove stride TestMoveMoved, .done, .anchor 1,
    .reachable 1 ⟨2, 0, 0⟩ 0 1]

/-- **A cycle that no call has made.**  The second call makes its first move, and is told that it
walks in a circle. -/
theorem walk_move_crosses_calls :
    ¬ ∀ (image : Image) (es : List Event), Along (Thread.step image) Thread.DependsOnBits {} es →
      Along (Thread.step image) (fun t e => t.ReachTold image e ∧ t.WalkTold image e) {} es := by
  intro h
  have hrun := h hooked (nesting ++ [.walkMove stride TestMoveMoved]) (by decide +kernel)
  have hlast := (along_append.1 hrun).2.1.2 (some 1) 1 stride.key TestMoveMoved TestMoveCycle
    (by decide +kernel)
  exact absurd hlast (by decide +kernel)

end Kf2Optimizer.Game.Anchor
