/-
# What is kept of the checks

`update_state.cpp`: the file that a check's result, its times and the ignored version are written
to, and `application_update.cpp` with `application_runtime.cpp` where they make that state of a
controller and a controller of that state.
-/
import Kf2Optimizer.Game.AdaptiveControlClient
import Kf2Optimizer.Platform.AtomicFile
import Kf2Optimizer.Update.UpdateController

namespace Kf2Optimizer.Update

open Text Files Platform Game

inductive PersistedCheckResult
  | unknown
  | current
  | available
deriving DecidableEq, Repr

structure PersistedUpdateState where
  lastCheckUnixSeconds : ℤ := 0
  lastResult : PersistedCheckResult := .unknown
  availableVersion : Bytes := []
  ignoredVersion : Bytes := []
  lastAttemptUnixSeconds : ℤ := 0
  automaticFailureCount : ℕ := 0
deriving DecidableEq, Repr

/-- `valid_cached_version`. -/
def validCachedVersion (value : Bytes) : Bool :=
  decide (value ≠ []) && decide (value.length ≤ 64) &&
    match parseSemanticVersion value with
    | .ok parsed => decide (parsed.canonical = value)
    | .error _ => false

/-- `std::from_chars` of an `int64_t`, which has to be the whole text. -/
def fromCharsInt64 (text : Bytes) : Option ℤ :=
  if text.head? = some 0x2D then (fromChars (2 ^ 63 + 1) text.tail).map fun n => -Int.ofNat n
  else (fromChars (2 ^ 63) text).map Int.ofNat

/-- `parse_timestamp`. -/
def parseTimestamp (value : Bytes) : Result ℤ :=
  match (fromCharsInt64 value).filter fun parsed => decide (0 ≤ parsed) with
  | some parsed => .ok parsed
  | none => .error (invalid "Update state timestamp is invalid")

/-- `parse_failure_count`. -/
def parseFailureCount (value : Bytes) : Result ℕ :=
  match fromChars (2 ^ 32) value with
  | some parsed => .ok parsed
  | none => .error (invalid "Update state failure count is invalid")

/-- The lines that `std::getline` gives. -/
def getlines (text : Bytes) : List Bytes :=
  let parts := splitOn lf text
  if parts.getLast? = some [] then parts.dropLast else parts

/-! ## 1. Reading -/

def timestampKey : Bytes := ascii "last_check_unix_seconds="
def attemptKey : Bytes := ascii "last_attempt_unix_seconds="
def failureCountKey : Bytes := ascii "automatic_failure_count="
def resultKey : Bytes := ascii "last_result="
def versionKey : Bytes := ascii "available_version="
def ignoredKey : Bytes := ascii "ignored_version="

/-- The values behind the keys; the second schema has no attempts. -/
structure StateValues where
  timestamp : Bytes
  retry : Option (Bytes × Bytes)
  result : Bytes
  version : Bytes
  ignored : Bytes

/-- The checks of the lines. -/
def stateValues : List Bytes → Option StateValues
  | [schema, timestamp, result, version, ignored] =>
    if schema = ascii "schema_version=2" then do
      let timestamp ← after timestampKey timestamp
      let result ← after resultKey result
      let version ← after versionKey version
      let ignored ← after ignoredKey ignored
      some ⟨timestamp, none, result, version, ignored⟩
    else none
  | [schema, timestamp, attempt, failureCount, result, version, ignored] =>
    if schema = ascii "schema_version=3" then do
      let timestamp ← after timestampKey timestamp
      let attempt ← after attemptKey attempt
      let failureCount ← after failureCountKey failureCount
      let result ← after resultKey result
      let version ← after versionKey version
      let ignored ← after ignoredKey ignored
      some ⟨timestamp, some (attempt, failureCount), result, version, ignored⟩
    else none
  | _ => none

/-- The last attempt and the failures behind it. -/
def parseRetry : Option (Bytes × Bytes) → Result (ℤ × ℕ)
  | none => .ok (0, 0)
  | some (attempt, failureCount) => do
    let attempt ← parseTimestamp attempt
    let failureCount ← parseFailureCount failureCount
    if 0 < failureCount ∧ attempt = 0 then
      throw (invalid "Update state retry metadata is invalid")
    pure (attempt, failureCount)

def parseCachedResult (result version : Bytes) : Result PersistedCheckResult :=
  if result = ascii "current" ∧ version = [] then .ok .current
  else if result = ascii "available" ∧ validCachedVersion version = true then .ok .available
  else if result ≠ ascii "unknown" ∨ version ≠ [] then
    .error (invalid "Cached update result is invalid")
  else .ok .unknown

def legacyPrefix : Bytes := ascii "schema_version=1" ++ lf :: timestampKey

/-- `if (!value.empty() && value.back() == '\n') value.remove_suffix(1);` -/
def withoutLf (value : Bytes) : Bytes := if value.getLast? = some lf then value.dropLast else value

/-- What `load_update_state` makes of the bytes. -/
def parseUpdateState (bytes : Bytes) : Result PersistedUpdateState :=
  match (after legacyPrefix bytes).filter fun _ => decide (bytes.length ≤ 128) with
  | some value => (parseTimestamp (withoutLf value)).map fun _ => {}
  | none =>
    match stateValues (getlines bytes) with
    | none => .error (invalid "Update state is invalid")
    | some values => do
      let timestamp ← parseTimestamp values.timestamp
      let (attempt, failureCount) ← parseRetry values.retry
      let result ← parseCachedResult values.result values.version
      if values.ignored ≠ [] ∧ validCachedVersion values.ignored = false then
        throw (invalid "Ignored update version is invalid")
      pure ⟨timestamp, result, values.version, values.ignored, attempt, failureCount⟩

variable {P : Type} [DecidableEq P]

/-- `load_update_state`. -/
def loadUpdateState (path : P) : Task P Bytes Error PersistedUpdateState := do
  if ← pathExists path { code := .ioFailure, message := "Update state cannot be inspected" } then
    liftExcept (parseUpdateState (← readBounded path 384))
  else pure {}

/-! ## 2. Writing -/

def PersistedCheckResult.text : PersistedCheckResult → Bytes
  | .unknown => ascii "unknown"
  | .current => ascii "current"
  | .available => ascii "available"

/-- The text that `save_update_state` writes, by its lines. -/
def PersistedUpdateState.lines (state : PersistedUpdateState) : List Bytes :=
  [ascii "schema_version=3", timestampKey ++ toText state.lastCheckUnixSeconds,
    attemptKey ++ toText state.lastAttemptUnixSeconds,
    failureCountKey ++ decimal state.automaticFailureCount,
    resultKey ++ state.lastResult.text, versionKey ++ state.availableVersion,
    ignoredKey ++ state.ignoredVersion]

/-- What `save_update_state` checks, and the bytes that it writes. -/
def encodeUpdateState (state : PersistedUpdateState) : Result Bytes :=
  if state.lastCheckUnixSeconds < 0 ∨ state.lastAttemptUnixSeconds < 0 ∨
      (0 < state.automaticFailureCount ∧ state.lastAttemptUnixSeconds = 0) then
    .error (invalid "Update state timestamp is invalid")
  else if (state.lastResult = .available ∧ validCachedVersion state.availableVersion = false) ∨
      (state.lastResult ≠ .available ∧ state.availableVersion ≠ []) then
    .error (invalid "Cached update result is invalid")
  else if state.ignoredVersion ≠ [] ∧ validCachedVersion state.ignoredVersion = false then
    .error (invalid "Ignored update version is invalid")
  else .ok (Text.lines state.lines)

/-- `save_update_state`. -/
def saveUpdateState (path : P) (state : PersistedUpdateState) : Task P Bytes Error Unit := do
  atomicReplace path (← liftExcept (encodeUpdateState state))

/-! ## 3. The controller's state -/

/-- `persisted_state`. -/
def persistedState (snapshot : UpdateSnapshot) : PersistedUpdateState where
  lastCheckUnixSeconds := snapshot.lastCheckUnixSeconds
  lastResult :=
    if snapshot.cachedCheckCompleted = false then .unknown
    else if snapshot.cachedAvailableVersion.isSome then .available
    else .current
  availableVersion :=
    if snapshot.cachedCheckCompleted = false then [] else snapshot.cachedAvailableVersion.getD []
  ignoredVersion := snapshot.ignoredVersion
  lastAttemptUnixSeconds := snapshot.lastAttemptUnixSeconds
  automaticFailureCount := snapshot.automaticFailureCount

/-- `UiRuntime::initialize_update_state`, with the setting of automatic checks and what loading the
state gave. -/
def initializeUpdateState (snapshot : UpdateSnapshot) (automaticUpdateChecks : Bool)
    (persisted : Result PersistedUpdateState) : UpdateSnapshot :=
  let cached := match persisted with
    | .ok state => state
    | .error _ => {}
  snapshot.restorePreferences automaticUpdateChecks cached.lastCheckUnixSeconds
    (decide (cached.lastResult ≠ .unknown))
    (if cached.lastResult = .available then cached.availableVersion else [])
    cached.ignoredVersion cached.lastAttemptUnixSeconds cached.automaticFailureCount

end Kf2Optimizer.Update
