/-
# The hooks of the path search

Three calls of the game are routed through hooks (`anchor_reachable_cache.cpp`,
`anchor_walk_cycle.cpp`).  `anchor_hook` opens a scope for one pawn; inside it `reachable_hook`
answers the pawn's `Reachable` from a table keyed by the bits of the destination.  Around a call that
the table cannot answer, `anchor_walk_cycle_begin` opens a scope of its own, in which
`walk_move_hook` answers a move that was already made with the code of a cycle.

The hooks are entered again from inside the game's functions they call, so the model is one of calls
and returns: a step enters a hook or leaves the innermost game function, and what a hook keeps in its
locals over the call is a frame of the stack.  What the game's own function returns for a call, if it
is made, is given with the call.
-/
import Kf2Optimizer.Lib.WayTable
import Kf2Optimizer.Lib.Machine

namespace Kf2Optimizer.Game.Anchor

/-! ## 1. Keys -/

/-- An address; 0 is null. -/
abbrev Pointer := UInt64

/-- A vector, by the bits of its three floats. -/
structure Vec3 where
  x : UInt32
  y : UInt32
  z : UInt32
  deriving DecidableEq

abbrev ReachKey := Vector UInt32 3

def vectorBits (value : Vec3) : ReachKey := #v[value.x, value.y, value.z]

def vectorXyBits (value : Vec3) : Vector UInt32 2 := #v[value.x, value.y]

structure WalkKey where
  start : Vector UInt32 3
  delta : Vector UInt32 2
  threshold : UInt32
  deriving DecidableEq

def rotl (value : UInt64) (count : UInt64) : UInt64 := value <<< count ||| value >>> (64 - count)

/-- `low | (high << 32)`. -/
def pack (low high : UInt32) : UInt64 := low.toUInt64 ||| high.toUInt64 <<< 32

/-- The multiplier and the fold of both `hash_key`. -/
def scramble (value : UInt64) : UInt64 :=
  let hash := value * 0x9E3779B97F4A7C15
  hash ^^^ hash >>> 32

/-- `hash_key` of `anchor_reachable_cache.cpp`. -/
def reachHash (key : ReachKey) : UInt64 :=
  scramble (pack key[0] key[1] ^^^ rotl key[2].toUInt64 58)

/-- `hash_key` of `anchor_walk_cycle.cpp`. -/
def walkHash (key : WalkKey) : UInt64 :=
  scramble (pack key.start[0] key.start[1] ^^^ rotl (pack key.start[2] key.delta[0]) 21 ^^^
    pack key.delta[1] key.threshold)

def TestMoveMoved : Int32 := 1

def TestMoveCycle : Int32 := 3

/-! ## 2. The state of the thread -/

/-- Both tables have two ways, and overwrite the first one first. -/
def firstWay : Fin 2 := ⟨0, Nat.two_pos⟩

structure CacheSlot where
  key : ReachKey
  result : Int32

/-- `CacheState`: 256 slots in sets of two. -/
structure CacheState where
  pawn : Pointer := 0
  reachable : Pointer := 0
  suspended : UInt32 := 0
  table : WayTable CacheSlot 128 2 := .empty ⟨#v[0, 0, 0], 0⟩ firstWay
  last : Option (Fin 128 × Fin 2) := none

structure WalkSlot where
  key : WalkKey
  fingerprint : UInt32

/-- `WalkState`: 512 slots in sets of two. -/
structure WalkState where
  pawn : Pointer := 0
  suspended : UInt32 := 0
  table : WayTable WalkSlot 256 2 := .empty ⟨⟨#v[0, 0, 0], #v[0, 0], 0⟩, 0⟩ firstWay

inductive AnchorWalkCycleScope
  | none
  | owner
  | suspended
  deriving DecidableEq

/-- A hook that waits for the game's function it has called. -/
inductive Frame
  /-- `anchor_hook`; `owner` where it has opened the scope. -/
  | anchor (owner : Bool)
  /-- `reachable_active`, with the number of its call. -/
  | reachable (call : ℕ) (pawn : Pointer) (key : ReachKey) (replacement : Option (Fin 2))
      (walkScope : AnchorWalkCycleScope) (own : Int32)
  /-- `reachable_hook` past the table. -/
  | reachableDirect (call : ℕ) (pawn : Pointer) (key : ReachKey) (own : Int32)
  /-- `walk_move_active`. -/
  | walk (pawn : Pointer) (key : WalkKey) (replacement : Option (Fin 2)) (own : Int32)
  /-- `walk_move_hook` past the table. -/
  | walkDirect (pawn : Pointer) (key : WalkKey) (own : Int32)

/-- A walk move that returned moved: the innermost call of `Reachable` it was made in, its pawn and
its key. -/
structure Move where
  call : Option ℕ
  pawn : Pointer
  key : WalkKey
  deriving DecidableEq

/-- The thread: the two tables, the hooks entered and not left (innermost first), and what has
happened so far. -/
structure Thread where
  cache : CacheState := {}
  walk : WalkState := {}
  stack : List Frame := []
  /-- The calls of `Reachable` that reached the game, so far. -/
  calls : ℕ := 0
  /-- What the game's `Reachable` returns for the scope's pawn, for each call of the outermost
  anchor scope entered last. -/
  asked : List (ReachKey × Int32) := []
  moves : List Move := []

/-- What the hooks are installed into: the entries of a pawn's table of virtual functions, and
whether the walk moves are hooked. -/
structure Image where
  getBestAnchor : Pointer → Pointer
  reachable : Pointer → Pointer
  installed : Bool

/-- The entry the hooks read; a null pawn has none. -/
def entry (table : Pointer → Pointer) (pawn : Pointer) : Pointer := if pawn = 0 then 0 else table pawn

/-- The call of `Reachable` the game is in. -/
def innermost : List Frame → Option ℕ
  | [] => none
  | .reachable call _ _ _ _ _ :: _ => some call
  | .reachableDirect call _ _ _ :: _ => some call
  | _ :: rest => innermost rest

/-! ## 3. Walk moves -/

namespace WalkState

/-- `anchor_walk_cycle_begin`. -/
def anchorWalkCycleBegin (installed : Bool) (w : WalkState) (pawn : Pointer) :
    WalkState × AnchorWalkCycleScope :=
  if installed = false ∨ pawn = 0 then (w, .none)
  else if w.pawn ≠ 0 then ({ w with suspended := w.suspended + 1 }, .suspended)
  else ({ w with table := w.table.advance, pawn }, .owner)

/-- `anchor_walk_cycle_end`. -/
def anchorWalkCycleEnd (w : WalkState) : AnchorWalkCycleScope → WalkState
  | .owner => { w with pawn := 0 }
  | .suspended => if w.suspended ≠ 0 then { w with suspended := w.suspended - 1 } else w
  | .none => w

def fingerprint (key : WalkKey) : UInt32 := (walkHash key >>> 32).toUInt32

def setOf (key : WalkKey) : Fin 256 :=
  ⟨(walkHash key &&& 255).toNat % 256, Nat.mod_lt _ (by decide)⟩

/-- What the scan of `walk_move_active` looks for. -/
def wanted (key : WalkKey) (slot : WalkSlot) : Bool :=
  slot.fingerprint = fingerprint key ∧ slot.key = key

/-- What `walk_move_active` does with the game's result. -/
def walkMoveReturned (w : WalkState) (key : WalkKey) (replacement : Option (Fin 2))
    (result : Int32) : WalkState :=
  if result = TestMoveMoved then
    { w with table := w.table.place (setOf key) replacement ⟨key, fingerprint key⟩ }
  else w

end WalkState

/-- A walk move as the game asks for it.  `extent`, `hit` and `goal` are passed on. -/
structure WalkMove where
  pawn : Pointer
  delta : Vec3
  current : Vec3
  extent : Pointer
  hit : Pointer
  goal : Pointer
  threshold : UInt32

def WalkMove.key (m : WalkMove) : WalkKey :=
  { start := vectorBits m.current, delta := vectorXyBits m.delta, threshold := m.threshold }

/-! ## 4. Reachability -/

namespace CacheState

def setOf (key : ReachKey) : Fin 128 :=
  ⟨(reachHash key &&& 127).toNat % 128, Nat.mod_lt _ (by decide)⟩

def wanted (key : ReachKey) (slot : CacheSlot) : Bool := slot.key = key

/-- The shortcut of `reachable_active`: the slot used last, if it still answers. -/
def lastHit (c : CacheState) (key : ReachKey) : Option Int32 :=
  match c.last with
  | some (set, way) =>
    if c.table.Live set way ∧ (c.table.slots set way).content.key = key then
      some (c.table.slots set way).content.result
    else none
  | none => none

/-- What `reachable_active` does with the game's result. -/
def reachableReturned (c : CacheState) (key : ReachKey) (replacement : Option (Fin 2))
    (result : Int32) : CacheState :=
  { c with table := c.table.place (setOf key) replacement ⟨key, result⟩
           last := some (setOf key, c.table.placed (setOf key) replacement) }

/-- `anchor_hook` opens a scope. -/
def opened (c : CacheState) (image : Image) (pawn : Pointer) : CacheState :=
  { c with table := c.table.advance
           last := if c.table.generation + 1 = 0 then none else c.last
           pawn, reachable := entry image.reachable pawn }

/-- `anchor_hook` closes it. -/
def closed (c : CacheState) : CacheState := { c with pawn := 0, reachable := 0 }

end CacheState

/-! ## 5. Hooks -/

namespace Thread

def push (t : Thread) (f : Frame) : Thread := { t with stack := f :: t.stack }

/-- The game's `Reachable` is called. -/
def pushReachable (t : Thread) (f : ℕ → Frame) : Thread :=
  { t with stack := f t.calls :: t.stack, calls := t.calls + 1 }

/-- The end of `reachable_active`: no slot answers. -/
def reachableMissed (image : Image) (t : Thread) (pawn : Pointer) (key : ReachKey) (own : Int32)
    (replacement : Option (Fin 2)) : Thread :=
  let (walk, walkScope) := t.walk.anchorWalkCycleBegin image.installed pawn
  ({ t with walk } : Thread).pushReachable (.reachable · pawn key replacement walkScope own)

/-- `reachable_active`: the answer, or the thread on its way into the game. -/
def reachableActive (image : Image) (t : Thread) (pawn : Pointer) (key : ReachKey)
    (own : Int32) : Thread × Option Int32 :=
  if t.cache.reachable = 0 then (t, some 0)
  else
    match t.cache.lastHit key with
    | some result => (t, some result)
    | none =>
      match t.cache.table.probe (CacheState.wanted key) (CacheState.setOf key) with
      | .hit way =>
        ({ t with cache := { t.cache with last := some (CacheState.setOf key, way) } },
          some (t.cache.table.slots (CacheState.setOf key) way).content.result)
      | .stale way => (t.reachableMissed image pawn key own (some way), none)
      | .full => (t.reachableMissed image pawn key own none, none)

def reachableHook (image : Image) (t : Thread) (pawn : Pointer) (destination : Vec3)
    (own : Int32) : Thread × Option Int32 :=
  if t.cache.pawn = pawn ∧ t.cache.suspended = 0 then
    t.reachableActive image pawn (vectorBits destination) own
  else if entry image.reachable pawn = 0 then (t, some 0)
  else (t.pushReachable (.reachableDirect · pawn (vectorBits destination) own), none)

def anchorHook (image : Image) (t : Thread) (pawn : Pointer) : Thread :=
  if entry image.getBestAnchor pawn = 0 then t
  else if t.cache.pawn ≠ 0 then
    { t with cache := { t.cache with suspended := t.cache.suspended + 1 } }.push (.anchor false)
  else { t with cache := t.cache.opened image pawn, asked := [] }.push (.anchor true)

/-- `walk_move_active`: the answer, or the thread on its way into the game. -/
def walkMoveActive (t : Thread) (pawn : Pointer) (key : WalkKey) (own : Int32) :
    Thread × Option Int32 :=
  match t.walk.table.probe (WalkState.wanted key) (WalkState.setOf key) with
  | .hit _ => (t, some TestMoveCycle)
  | .stale way => (t.push (.walk pawn key (some way) own), none)
  | .full => (t.push (.walk pawn key none own), none)

/-- `walk_move_hook` caches this move. -/
def Caches (t : Thread) (pawn : Pointer) : Prop := t.walk.pawn = pawn ∧ t.walk.suspended = 0

instance (t : Thread) (pawn : Pointer) : Decidable (t.Caches pawn) :=
  inferInstanceAs (Decidable (_ ∧ _))

def walkMoveHook (t : Thread) (m : WalkMove) (own : Int32) : Thread × Option Int32 :=
  if ¬ t.Caches m.pawn then (t.push (.walkDirect m.pawn m.key own), none)
  else t.walkMoveActive m.pawn m.key own

/-! ## 6. Steps -/

/-- The walk moves that have returned moved, once this one has returned `result`. -/
def moved (t : Thread) (pawn : Pointer) (key : WalkKey) (result : Int32) : List Move :=
  if result = TestMoveMoved then ⟨innermost t.stack, pawn, key⟩ :: t.moves else t.moves

/-- The game's function returns to the hook that has called it. -/
def returned (t : Thread) : Frame → Thread
  | .anchor true => { t with cache := t.cache.closed }
  | .anchor false => { t with cache := { t.cache with suspended := t.cache.suspended - 1 } }
  | .reachable _ _ key replacement walkScope own =>
    { t with walk := t.walk.anchorWalkCycleEnd walkScope
             cache := t.cache.reachableReturned key replacement own }
  | .reachableDirect _ _ _ _ => t
  | .walk pawn key replacement own =>
    { t with walk := t.walk.walkMoveReturned key replacement own, moves := t.moved pawn key own }
  | .walkDirect pawn key own => { t with moves := t.moved pawn key own }

end Thread

/-- A call of a hook by the game, or a return from the game's innermost function.  `own` is what
the game's function returns for the call, if the hook makes it. -/
inductive Event
  | anchor (pawn : Pointer)
  | reachable (pawn : Pointer) (destination : Vec3) (goal : Pointer) (own : Int32)
  | walkMove (move : WalkMove) (own : Int32)
  | done

namespace Thread

/-- The call is one of `Reachable` for the pawn of the open scope. -/
def recorded (t : Thread) (pawn : Pointer) (destination : Vec3) (own : Int32) : Thread :=
  if t.cache.pawn = pawn ∧ pawn ≠ 0 then
    { t with asked := (vectorBits destination, own) :: t.asked }
  else t

def step (image : Image) (t : Thread) : Event → Thread
  | .anchor pawn => t.anchorHook image pawn
  | .reachable pawn destination _ own =>
    ((t.recorded pawn destination own).reachableHook image pawn destination own).1
  | .walkMove move own => (t.walkMoveHook move own).1
  | .done =>
    match t.stack with
    | [] => t
    | f :: rest => ({ t with stack := rest } : Thread).returned f

/-! ## 7. What the game is told -/

end Thread

/-- A hook returns to the game. -/
inductive Told
  | reachable (pawn : Pointer) (own answer : Int32)
  | walkMove (call : Option ℕ) (pawn : Pointer) (key : WalkKey) (own answer : Int32)
  deriving DecidableEq

namespace Thread

def told (image : Image) (t : Thread) : Event → List Told
  | .anchor _ => []
  | .reachable pawn destination _ own =>
    (((t.recorded pawn destination own).reachableHook image pawn destination own).2.map
      (Told.reachable pawn own)).toList
  | .walkMove move own =>
    ((t.walkMoveHook move own).2.map
      (Told.walkMove (innermost t.stack) move.pawn move.key own)).toList
  | .done =>
    match t.stack with
    | .reachable _ pawn _ _ _ own :: _ => [.reachable pawn own own]
    | .reachableDirect _ pawn _ own :: _ => [.reachable pawn own own]
    | .walk pawn key _ own :: rest => [.walkMove (innermost rest) pawn key own own]
    | .walkDirect pawn key own :: rest => [.walkMove (innermost rest) pawn key own own]
    | _ => []

/-- Every answer of `reachable_hook` in this step is what the game's `Reachable` would return; for
a pawn without that function it is 0. -/
def ReachTold (image : Image) (t : Thread) (e : Event) : Prop :=
  ∀ pawn own answer, .reachable pawn own answer ∈ t.told image e →
    answer = if entry image.reachable pawn = 0 then 0 else own

/-- Every answer of `walk_move_hook` in this step is the game's own result, or the code of a cycle
after a move of the same pawn with the same key has returned moved in the same innermost call of
`Reachable`. -/
def WalkTold (image : Image) (t : Thread) (e : Event) : Prop :=
  ∀ call pawn key own answer, .walkMove call pawn key own answer ∈ t.told image e →
    answer = own ∨ answer = TestMoveCycle ∧ call ≠ none ∧ ⟨call, pawn, key⟩ ∈ t.moves

/-! ## 8. What is assumed of the game, and of the nesting -/

/-- Within the outermost anchor scope the game's `Reachable` for its pawn has returned, and would
return, the same for the same bits of the destination. -/
def DependsOnBits (t : Thread) : Event → Prop
  | .reachable pawn destination _ own =>
    t.cache.pawn = pawn → pawn ≠ 0 →
      ∀ earlier ∈ t.asked, earlier.1 = vectorBits destination → earlier.2 = own
  | _ => True

instance (t : Thread) : (e : Event) → Decidable (t.DependsOnBits e)
  | .anchor _ => isTrue trivial
  | .reachable _ _ _ _ => inferInstanceAs (Decidable (_ → _ → ∀ earlier ∈ t.asked, _))
  | .walkMove _ _ => isTrue trivial
  | .done => isTrue trivial

/-- The call of `Reachable` that has opened the walk scope. -/
def walkOwner : List Frame → Option ℕ
  | [] => none
  | .reachable call _ _ _ .owner _ :: _ => some call
  | _ :: rest => walkOwner rest

/-- A walk move is only looked up in the table when the call of `Reachable` it is made in is the one
that has opened the walk scope. -/
def OwnWalks (t : Thread) : Event → Prop
  | .walkMove move _ =>
    t.Caches move.pawn → innermost t.stack ≠ none ∧ innermost t.stack = walkOwner t.stack
  | _ => True

instance (t : Thread) : (e : Event) → Decidable (t.OwnWalks e)
  | .anchor _ => isTrue trivial
  | .reachable _ _ _ _ => isTrue trivial
  | .walkMove _ _ => inferInstanceAs (Decidable (_ → _ ∧ _))
  | .done => isTrue trivial

end Thread

end Kf2Optimizer.Game.Anchor
