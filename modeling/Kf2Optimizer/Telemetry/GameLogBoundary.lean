/-
# Boundary events of the game's log

`GameLogBoundaryExtractor` reads the log in the chunks it comes in and looks for the lines that mark a
boundary of the session.  What it keeps between two chunks is a matter of the bytes behind the last line
end alone (`extractorAt`), so it consumes each complete line of at most 4096 bytes once and nothing else,
however the log is cut (`boundary_events_of_lines`).
-/
import Kf2Optimizer.Game.GameLogParser

namespace Kf2Optimizer.Telemetry

open Text Game

/-! ## 1. What a line says -/

/-- `VideoOption`. -/
inductive VideoOption where
  | display | resolution | overallQuality | vsync | variableFrameRate | environmentDetail
  | characterDetail | fxQuality | textureResolution | textureFiltering | shadowQuality
  | realtimeReflections | antiAliasing | bloom | motionBlur | ambientOcclusion | depthOfField
  | volumetricLighting | lensFlares | lightShafts | nvidiaFlex
deriving DecidableEq

/-- `GameMenuGraphicsReadback`. -/
structure GameMenuGraphicsReadback where
  choices : VideoOption → ℤ
  resolution : ℤ × ℤ
  filmGrainPercent : ℤ

/-- The names of the fields, in the order of a readback line. -/
def readbackNames : List String :=
  ["resx", "resy", "display_full", "display_borderless", "vsync", "variable_fps", "film_grain",
    "environment", "character", "fx", "texture_resolution", "texture_filtering", "shadows",
    "reflections", "aa", "bloom", "motion_blur", "ao", "dof", "volumetric", "lens_flares",
    "light_shafts", "flex"]

/-- The options behind the first seven fields, with the greatest value of each. -/
def readbackOptions : List (VideoOption × ℤ) :=
  [(.environmentDetail, 3), (.characterDetail, 2), (.fxQuality, 3), (.textureResolution, 3),
    (.textureFiltering, 3), (.shadowQuality, 3), (.realtimeReflections, 1), (.antiAliasing, 1),
    (.bloom, 2), (.motionBlur, 1), (.ambientOcclusion, 2), (.depthOfField, 3),
    (.volumetricLighting, 1), (.lensFlares, 1), (.lightShafts, 1), (.nvidiaFlex, 2)]

/-- One field of the payload, and what is behind it. -/
def readField (name : String) (payload : Bytes) : Option (ℤ × Bytes) := do
  let token := word (payload.dropWhile isBlank)
  let (key, number) ← cut 0x3D token
  if key = ascii name then
    let value ← parseInt number
    some (value, (payload.dropWhile isBlank).drop token.length)
  else none

def readFields : List String → Bytes → Option (List ℤ × Bytes)
  | [], payload => some ([], payload)
  | name :: names, payload => do
    let (value, rest) ← readField name payload
    let (values, rest) ← readFields names rest
    some (value :: values, rest)

/-- The checks on the first seven values. -/
def displayValid : List ℤ → Bool
  | resX :: resY :: full :: borderless :: vsync :: variableFps :: grain :: _ =>
    decide (640 ≤ resX ∧ resX ≤ 16384 ∧ 480 ≤ resY ∧ resY ≤ 16384 ∧ 0 ≤ full ∧ full ≤ 1 ∧
      0 ≤ borderless ∧ borderless ≤ 1 ∧ ¬ (full ≠ 0 ∧ borderless ≠ 0) ∧ 0 ≤ vsync ∧ vsync ≤ 1 ∧
      0 ≤ variableFps ∧ variableFps ≤ 1 ∧ 0 ≤ grain ∧ grain ≤ 100)
  | _ => false

/-- The checks on the choices. -/
def choicesValid (values : List ℤ) : Bool :=
  (values.zip readbackOptions).all fun choice => decide (-1 ≤ choice.1 ∧ choice.1 ≤ choice.2.2)

/-- The readback with these values. -/
def readbackOf (values : List ℤ) : GameMenuGraphicsReadback :=
  let at' := fun field => values.getD field 0
  { resolution := (at' 0, at' 1)
    filmGrainPercent := at' 6
    choices := fun
      | .display => if at' 2 ≠ 0 then 2 else if at' 3 ≠ 0 then 1 else 0
      | .vsync => at' 4
      | .variableFrameRate => at' 5
      | option =>
        match readbackOptions.findIdx? fun choice => decide (choice.1 = option) with
        | some field => at' (field + 7)
        | none => -1 }

/-- `kMaximumBoundaryLineBytes`. -/
def kMaximumBoundaryLineBytes : ℕ := 4096

/-- `parse_game_menu_graphics_readback`. -/
def parseGameMenuGraphicsReadback (line : Bytes) : Option GameMenuGraphicsReadback := do
  let (_, payload) ← search (ascii "KF2OPT_GFX_MENU schema=2 state=applied ") line
  if 4096 < line.length then none
  else
    let (values, rest) ← readFields readbackNames payload
    if rest.all isSeparator && displayValid values && choicesValid (values.drop 7) then some (readbackOf values)
    else none

/-- `safe_map_name`. -/
def safeMapName (map : Bytes) : Bool :=
  decide (map ≠ [] ∧ map.length ≤ 128) &&
    map.all fun b => decide (0x61 ≤ b ∧ b ≤ 0x7A) || decide (0x41 ≤ b ∧ b ≤ 0x5A) || isDigit b || b = 0x2D || b = 0x5F

/-- `map_prewarm_request_from_log_line`.  The name is ASCII, so its wide text has the same units. -/
def mapPrewarmRequestFromLogLine (line : Bytes) : Option Bytes := do
  let (_, behind) ← search (ascii "KF2OPT_MAP_SELECTION schema=1 state=") line
  let (_, map) ← search (ascii " map=") behind
  if (word map).all (fun b => decide (b ≤ 0x7F)) && safeMapName (word map) then some (word map) else none

/-- `game_log_reports_engine_exit`. -/
def gameLogReportsEngineExit (text : Bytes) : Bool :=
  contains (ascii "] Exit: Exiting.") text || contains (ascii "Log: Log file closed,") text

/-- `game_log_requests_settings_restart`. -/
def gameLogRequestsSettingsRestart (text : Bytes) : Bool := contains (ascii "Log: Restarting by request") text

/-- `GameLogBoundaryEvents`. -/
structure GameLogBoundaryEvents where
  graphicsReadback : Option GameMenuGraphicsReadback := none
  mapPrewarmSelection : Option Bytes := none
  loadMapStarted : Bool := false
  newSettingsRestartRequested : Bool := false
  startupReady : Bool := false
  verifiedEngineExit : Bool := false

/-- `consume_line`. -/
def consumeLine (line : Bytes) (verifiedLogIdentity : Bool) (events : GameLogBoundaryEvents) :
    GameLogBoundaryEvents where
  graphicsReadback := (parseGameMenuGraphicsReadback line).or events.graphicsReadback
  mapPrewarmSelection := (mapPrewarmRequestFromLogLine line).or events.mapPrewarmSelection
  loadMapStarted := events.loadMapStarted || contains (ascii "Log: LoadMap: ") line
  newSettingsRestartRequested := events.newSettingsRestartRequested || gameLogRequestsSettingsRestart line
  startupReady := events.startupReady || contains (ascii "WidgetInitialized - WidgetName:  StartMenu") line
  verifiedEngineExit := events.verifiedEngineExit || (verifiedLogIdentity && gameLogReportsEngineExit line)

/-! ## 2. The extractor -/

/-- `GameLogBoundaryExtractor`. -/
structure GameLogBoundaryExtractor where
  pending : Bytes := []
  droppingOversizedLine : Bool := false

namespace GameLogBoundaryExtractor

/-- The segment does not fit behind what is pending. -/
def overflows (x : GameLogBoundaryExtractor) (segment : Bytes) : Bool :=
  decide (kMaximumBoundaryLineBytes - x.pending.length < segment.length)

/-- A segment without a line end: the last one of a chunk. -/
def extend (x : GameLogBoundaryExtractor) (segment : Bytes) : GameLogBoundaryExtractor :=
  if x.droppingOversizedLine then x
  else if x.overflows segment then { pending := [], droppingOversizedLine := true }
  else { x with pending := x.pending ++ segment }

/-- A segment with its line end. -/
def endLine (x : GameLogBoundaryExtractor) (verifiedLogIdentity : Bool) (segment : Bytes)
    (events : GameLogBoundaryEvents) : GameLogBoundaryExtractor × GameLogBoundaryEvents :=
  if x.droppingOversizedLine then ({ x with droppingOversizedLine := false }, events)
  else if x.overflows segment then ({ x with pending := [] }, events)
  else ({ x with pending := [] }, consumeLine (stripCr (x.pending ++ segment)) verifiedLogIdentity events)

/-- The loop of `feed`, over the segments between the line ends.  A last segment that is empty is one that
the loop does not come to: it changes nothing. -/
def feedSegments (verifiedLogIdentity : Bool) :
    List Bytes → GameLogBoundaryExtractor → GameLogBoundaryEvents → GameLogBoundaryExtractor × GameLogBoundaryEvents
  | [], x, events => (x, events)
  | [segment], x, events => (x.extend segment, events)
  | segment :: segments, x, events =>
    let ended := x.endLine verifiedLogIdentity segment events
    feedSegments verifiedLogIdentity segments ended.1 ended.2

/-- `feed`. -/
def feed (x : GameLogBoundaryExtractor) (bytes : Bytes) (verifiedLogIdentity : Bool) :
    GameLogBoundaryExtractor × GameLogBoundaryEvents :=
  feedSegments verifiedLogIdentity (splitOn lf bytes) x {}

end GameLogBoundaryExtractor

/-- Events behind others: a flag stays set, and a later readback or selection takes the place of an earlier one. -/
def GameLogBoundaryEvents.union (events later : GameLogBoundaryEvents) : GameLogBoundaryEvents where
  graphicsReadback := later.graphicsReadback.or events.graphicsReadback
  mapPrewarmSelection := later.mapPrewarmSelection.or events.mapPrewarmSelection
  loadMapStarted := events.loadMapStarted || later.loadMapStarted
  newSettingsRestartRequested := events.newSettingsRestartRequested || later.newSettingsRestartRequested
  startupReady := events.startupReady || later.startupReady
  verifiedEngineExit := events.verifiedEngineExit || later.verifiedEngineExit

/-- The union of what the chunks give.  Each comes with the word that the log is the verified one. -/
def GameLogBoundaryExtractor.feedAll : GameLogBoundaryExtractor → List (Bytes × Bool) → GameLogBoundaryEvents
  | _, [] => {}
  | x, (bytes, verified) :: chunks => (x.feed bytes verified).2.union ((x.feed bytes verified).1.feedAll chunks)

/-! ## 3. Lines -/

/-- The complete lines of a log behind a line that has begun, each with the word of the chunk that ends it. -/
def completeLinesOf : Bytes → List (UInt8 × Bool) → List (Bytes × Bool)
  | _, [] => []
  | line, (b, verified) :: rest =>
    if b = lf then (line, verified) :: completeLinesOf [] rest else completeLinesOf (line ++ [b]) rest

/-- The bytes of the chunks, each with the word of its chunk. -/
def bytesOf (chunks : List (Bytes × Bool)) : List (UInt8 × Bool) :=
  chunks.flatMap fun chunk => chunk.1.map (·, chunk.2)

/-- Consuming complete lines, once each, if they are short enough. -/
def consumeLines (lines : List (Bytes × Bool)) (events : GameLogBoundaryEvents) : GameLogBoundaryEvents :=
  (lines.filter fun line => decide (line.1.length ≤ kMaximumBoundaryLineBytes)).foldl
    (fun events line => consumeLine (stripCr line.1) line.2 events) events

theorem completeLinesOf_chunk (verified : Bool) {line : Bytes} (hline : lf ∉ line) (bytes : Bytes)
    (rest : List (UInt8 × Bool)) :
    completeLinesOf line (bytes.map (·, verified) ++ rest) =
      (completeLines (line ++ bytes)).map (·, verified) ++ completeLinesOf (unfinished (line ++ bytes)) rest := by
  induction bytes generalizing line with
  | nil =>
    rw [List.append_nil, completeLines, unfinished, splitOn_of_not_mem hline]
    rfl
  | cons b bytes ih =>
    rw [List.map_cons, List.cons_append, completeLinesOf]
    by_cases hb : b = lf
    · subst hb
      have hsplit := splitOn_append hline bytes
      have hcomplete : completeLines (line ++ lf :: bytes) = line :: completeLines bytes := by
        rw [completeLines, hsplit, List.dropLast_cons_of_ne_nil (splitOn_ne_nil _ _)]
        rfl
      have hunfinished : unfinished (line ++ lf :: bytes) = unfinished bytes := by
        rw [unfinished, hsplit, List.getLast?_cons_of_ne_nil (splitOn_ne_nil _ _)]
        rfl
      rw [if_pos rfl, ih List.not_mem_nil, List.nil_append, hcomplete, hunfinished]
      rfl
    · have hnot : lf ∉ line ++ [b] := by simp [hline, Ne.symm hb]
      rw [if_neg hb, ih hnot, List.append_assoc]
      rfl

/-! ## 4. The extractor between two chunks -/

/-- The extractor behind the bytes of a line that has not ended. -/
def extractorAt (line : Bytes) : GameLogBoundaryExtractor :=
  if line.length ≤ kMaximumBoundaryLineBytes then { pending := line }
  else { pending := [], droppingOversizedLine := true }

theorem extractorAt_short {line : Bytes} (h : line.length ≤ kMaximumBoundaryLineBytes) :
    extractorAt line = { pending := line } := if_pos h

theorem extractorAt_long {line : Bytes} (h : kMaximumBoundaryLineBytes < line.length) :
    extractorAt line = { droppingOversizedLine := true } := if_neg (Nat.not_le.mpr h)

theorem overflows_short {line segment : Bytes} (h : line.length ≤ kMaximumBoundaryLineBytes) :
    ({ pending := line } : GameLogBoundaryExtractor).overflows segment =
      decide (kMaximumBoundaryLineBytes < (line ++ segment).length) := by
  unfold GameLogBoundaryExtractor.overflows
  rw [List.length_append]
  exact decide_eq_decide.mpr (by simp only; omega)

theorem extend_extractorAt (line segment : Bytes) :
    (extractorAt line).extend segment = extractorAt (line ++ segment) := by
  unfold GameLogBoundaryExtractor.extend
  by_cases hline : line.length ≤ kMaximumBoundaryLineBytes
  · rw [extractorAt_short hline, overflows_short hline]
    by_cases hlong : kMaximumBoundaryLineBytes < (line ++ segment).length
    · rw [extractorAt_long hlong, decide_eq_true hlong]
      rfl
    · rw [extractorAt_short (Nat.not_lt.mp hlong), decide_eq_false hlong]
      rfl
  · have hlong := Nat.not_le.mp hline
    rw [extractorAt_long hlong, extractorAt_long (by rw [List.length_append]; omega)]
    rfl

theorem consumeLines_singleton (line : Bytes × Bool) (events : GameLogBoundaryEvents) :
    consumeLines [line] events =
      if line.1.length ≤ kMaximumBoundaryLineBytes then consumeLine (stripCr line.1) line.2 events
      else events := by
  unfold consumeLines
  by_cases h : line.1.length ≤ kMaximumBoundaryLineBytes
  · rw [if_pos h]
    simp [h]
  · rw [if_neg h]
    simp [h]

/-- **The end of a line**: it is consumed if it is short enough. -/
theorem endLine_extractorAt (line segment : Bytes) (verified : Bool) (events : GameLogBoundaryEvents) :
    (extractorAt line).endLine verified segment events =
      (extractorAt [], consumeLines [(line ++ segment, verified)] events) := by
  rw [consumeLines_singleton]
  unfold GameLogBoundaryExtractor.endLine
  by_cases hline : line.length ≤ kMaximumBoundaryLineBytes
  · rw [extractorAt_short hline, overflows_short hline]
    by_cases hlong : kMaximumBoundaryLineBytes < (line ++ segment).length
    · rw [decide_eq_true hlong, if_neg (Nat.not_le.mpr hlong)]
      rfl
    · rw [decide_eq_false hlong, if_pos (Nat.not_lt.mp hlong)]
      rfl
  · have hlong := Nat.not_le.mp hline
    have hover : ¬ (line ++ segment).length ≤ kMaximumBoundaryLineBytes := by
      rw [List.length_append]
      omega
    rw [extractorAt_long hlong]
    simp only [if_true, if_neg hover]
    rfl

theorem consumeLines_append (lines lines' : List (Bytes × Bool)) (events : GameLogBoundaryEvents) :
    consumeLines (lines ++ lines') events = consumeLines lines' (consumeLines lines events) := by
  unfold consumeLines
  rw [List.filter_append, List.foldl_append]

/-- **The segments of a chunk.**  The first goes on with the line, each line end consumes one. -/
theorem feedSegments_extractorAt (verified : Bool) (segments : List Bytes) (line segment : Bytes)
    (events : GameLogBoundaryEvents) :
    GameLogBoundaryExtractor.feedSegments verified (segment :: segments) (extractorAt line) events =
      (extractorAt ((((line ++ segment) :: segments).getLast?).getD []),
        consumeLines ((((line ++ segment) :: segments).dropLast).map (·, verified)) events) := by
  induction segments generalizing line segment events with
  | nil =>
    rw [GameLogBoundaryExtractor.feedSegments, extend_extractorAt]
    rfl
  | cons next segments ih =>
    rw [GameLogBoundaryExtractor.feedSegments.eq_def]
    simp only
    rw [endLine_extractorAt, ih, List.nil_append]
    simp only [List.getLast?_cons_cons, List.dropLast_cons_cons, List.map_cons]
    rw [← consumeLines_append]
    rfl

/-- **One chunk.** -/
theorem feed_extractorAt {line : Bytes} (hline : lf ∉ line) (bytes : Bytes) (verified : Bool) :
    (extractorAt line).feed bytes verified =
      (extractorAt (unfinished (line ++ bytes)),
        consumeLines ((completeLines (line ++ bytes)).map (·, verified)) {}) := by
  obtain ⟨segment, segments, hsegments⟩ := List.exists_cons_of_ne_nil (splitOn_ne_nil lf bytes)
  have hsplit : splitOn lf (line ++ bytes) = (line ++ segment) :: segments := by
    clear * - hline hsegments
    induction line with
    | nil => exact hsegments
    | cons x line ih =>
      obtain ⟨hx, hrest⟩ := not_or.mp (List.mem_cons.not.mp hline)
      exact splitOn_cons (Ne.symm hx) (ih hrest)
  unfold GameLogBoundaryExtractor.feed completeLines unfinished
  rw [hsegments, feedSegments_extractorAt, hsplit]

/-! ## 5. The union over the chunks -/

theorem consumeLine_union (line : Bytes) (verified : Bool) (events later : GameLogBoundaryEvents) :
    consumeLine line verified (events.union later) = events.union (consumeLine line verified later) := by
  unfold consumeLine GameLogBoundaryEvents.union
  simp only [Option.or_assoc, Bool.or_assoc]

theorem union_empty (events : GameLogBoundaryEvents) : events.union {} = events := by
  simp [GameLogBoundaryEvents.union]

theorem consumeLines_union (lines : List (Bytes × Bool)) (events later : GameLogBoundaryEvents) :
    consumeLines lines (events.union later) = events.union (consumeLines lines later) := by
  unfold consumeLines
  induction lines.filter (fun line => decide (line.1.length ≤ kMaximumBoundaryLineBytes)) generalizing later with
  | nil => rfl
  | cons line lines ih =>
    rw [List.foldl_cons, consumeLine_union, ih]
    rfl

theorem lf_not_mem_unfinished (bytes : Bytes) : lf ∉ unfinished bytes := by
  have hmem : unfinished bytes ∈ splitOn lf bytes := by
    unfold unfinished
    rw [List.getLast?_eq_some_getLast (splitOn_ne_nil lf bytes)]
    exact List.getLast_mem _
  exact not_mem_of_mem_splitOn hmem

theorem feedAll_extractorAt (chunks : List (Bytes × Bool)) {line : Bytes} (hline : lf ∉ line) :
    (extractorAt line).feedAll chunks = consumeLines (completeLinesOf line (bytesOf chunks)) {} := by
  induction chunks generalizing line with
  | nil => rfl
  | cons chunk chunks ih =>
    obtain ⟨bytes, verified⟩ := chunk
    rw [GameLogBoundaryExtractor.feedAll, feed_extractorAt hline, ih (lf_not_mem_unfinished _)]
    have hbytes : bytesOf ((bytes, verified) :: chunks) = bytes.map (·, verified) ++ bytesOf chunks :=
      List.flatMap_cons
    rw [hbytes, completeLinesOf_chunk verified hline, consumeLines_append, ← consumeLines_union, union_empty]

/-- **Boundary events are independent of chunking.**  The union of what an extractor returns over the chunks
of a log is what consuming each complete line of at most 4096 bytes once gives, in order, each under the word
of the chunk that ends it; so under one word it is a matter of the bytes of the log alone. -/
theorem boundary_events_of_lines :
    (∀ chunks : List (Bytes × Bool),
      ({} : GameLogBoundaryExtractor).feedAll chunks = consumeLines (completeLinesOf [] (bytesOf chunks)) {}) ∧
    ∀ (verified : Bool) (pieces : List Bytes),
      ({} : GameLogBoundaryExtractor).feedAll (pieces.map (·, verified)) =
        consumeLines ((completeLines pieces.flatten).map (·, verified)) {} := by
  have hstart : ({} : GameLogBoundaryExtractor) = extractorAt [] := rfl
  refine ⟨fun chunks => ?_, fun verified pieces => ?_⟩
  · rw [hstart]
    exact feedAll_extractorAt chunks List.not_mem_nil
  · have hbytes : bytesOf (pieces.map (·, verified)) = pieces.flatten.map (·, verified) ++ [] := by
      rw [List.append_nil, bytesOf, List.flatMap_map, List.map_flatten, List.flatMap_def]
    rw [hstart, feedAll_extractorAt _ List.not_mem_nil, hbytes, completeLinesOf_chunk verified List.not_mem_nil]
    simp [completeLinesOf]

end Kf2Optimizer.Telemetry
