/-
# When an update is looked for

`update_controller.cpp`: the checks for an update, what is kept of their results, and when the next
one may start by itself.  Times are seconds; the functions that allocate commit at their end, so that
each of them is one step.
-/
import Kf2Optimizer.Update.GithubReleaseClient

namespace Kf2Optimizer.Update

open Text

def kAutomaticCheckIntervalSeconds : ℤ := 24 * 60 * 60
def kAutomaticFailureRetryInitialSeconds : ℤ := 5 * 60
def kAutomaticFailureRetryMaximumSeconds : ℤ := 60 * 60

inductive CheckTrigger
  | automatic
  | manual
deriving DecidableEq, Repr

inductive CheckStart
  | started
  | automaticDisabled
  | throttled
  | busy
deriving DecidableEq, Repr

inductive UpdatePhase
  | idle
  | checking
  | available
  | current
  | error
  | installing
deriving DecidableEq, Repr

structure UpdateSnapshot where
  installedVersion : Bytes
  automaticChecksEnabled : Bool := true
  lastCheckUnixSeconds : ℤ := 0
  lastAttemptUnixSeconds : ℤ := 0
  automaticFailureCount : ℕ := 0
  phase : UpdatePhase := .idle
  availableRelease : Option ReleaseInfo := none
  cachedCheckCompleted : Bool := false
  cachedAvailableVersion : Option Bytes := none
  ignoredVersion : Bytes := []
  status : String := "Not checked yet"
  dismissed : Bool := false
deriving DecidableEq, Repr

/-- The loop of `automatic_failure_retry_seconds`, with the failures that are left. -/
def retryLoop : ℕ → ℤ → ℤ
  | 0, delay => delay
  | failures + 1, delay =>
    if delay < kAutomaticFailureRetryMaximumSeconds then
      retryLoop failures (min (delay * 2) kAutomaticFailureRetryMaximumSeconds)
    else delay

/-- `automatic_failure_retry_seconds`. -/
def automaticFailureRetrySeconds (failureCount : ℕ) : ℤ :=
  retryLoop (failureCount - 1) kAutomaticFailureRetryInitialSeconds

namespace UpdateSnapshot

/-- `UpdateController::restore_preferences`. -/
def restorePreferences (snapshot : UpdateSnapshot) (automaticChecksEnabled : Bool)
    (lastCheckUnixSeconds : ℤ) (cachedCheckCompleted : Bool) (cachedAvailableVersion : Bytes)
    (ignoredVersion : Bytes) (lastAttemptUnixSeconds : ℤ) (automaticFailureCount : ℕ) :
    UpdateSnapshot :=
  let lastCheck := if 0 < lastCheckUnixSeconds then lastCheckUnixSeconds else 0
  let lastAttempt := if 0 < lastAttemptUnixSeconds then lastAttemptUnixSeconds else 0
  let completed := cachedCheckCompleted && decide (0 < lastCheck)
  let next := { snapshot with
    automaticChecksEnabled
    lastCheckUnixSeconds := lastCheck
    cachedCheckCompleted := completed
    lastAttemptUnixSeconds := lastAttempt
    automaticFailureCount := if 0 < lastAttempt then automaticFailureCount else 0
    ignoredVersion }
  if completed = true ∧ cachedAvailableVersion ≠ [] then
    { next with
      cachedAvailableVersion := some cachedAvailableVersion
      status := "A new version was found during the last check."
      dismissed := decide (cachedAvailableVersion = ignoredVersion) }
  else if completed = true then
    { next with
      cachedAvailableVersion := none
      status := "No newer version was available at the last check." }
  else next

/-- What `UpdateController::begin_check` answers, when a check does not start. -/
def refusal (snapshot : UpdateSnapshot) (trigger : CheckTrigger) (now : ℤ) : Option CheckStart :=
  if snapshot.phase = .checking ∨ snapshot.phase = .installing then some .busy
  else if trigger = .automatic then
    if snapshot.automaticChecksEnabled = false then some .automaticDisabled
    else if 0 < snapshot.lastCheckUnixSeconds ∧ snapshot.lastCheckUnixSeconds ≤ now ∧
        now - snapshot.lastCheckUnixSeconds < kAutomaticCheckIntervalSeconds then some .throttled
    else if 0 < snapshot.automaticFailureCount ∧ 0 < snapshot.lastAttemptUnixSeconds ∧
        snapshot.lastAttemptUnixSeconds ≤ now ∧
        now - snapshot.lastAttemptUnixSeconds <
          automaticFailureRetrySeconds snapshot.automaticFailureCount then some .throttled
    else none
  else none

/-- `UpdateController::begin_check`. -/
def beginCheck (snapshot : UpdateSnapshot) (trigger : CheckTrigger) (now : ℤ) :
    CheckStart × UpdateSnapshot :=
  match snapshot.refusal trigger now with
  | some answer => (answer, snapshot)
  | none => (.started, { snapshot with
      lastAttemptUnixSeconds := if 0 < now then now else snapshot.lastAttemptUnixSeconds
      automaticFailureCount :=
        if trigger = .automatic ∧ 0 < now ∧ snapshot.automaticFailureCount < 2 ^ 32 - 1 then
          snapshot.automaticFailureCount + 1
        else snapshot.automaticFailureCount
      phase := .checking
      status := "Checking official GitHub Releases..."
      availableRelease := none })

/-- `UpdateController::complete_check`. -/
def completeCheck (snapshot : UpdateSnapshot) (result : Result (Option ReleaseInfo)) :
    UpdateSnapshot :=
  if snapshot.phase ≠ .checking then snapshot
  else match result with
    | .error e => { snapshot with status := e.message, phase := .error }
    | .ok available =>
      let cachedVersion := available.map ReleaseInfo.version
      { snapshot with
        status := match available with
          | none => "The installed version is current."
          | some release =>
            if release.installBlockReason = "" then "A new version is available."
            else release.installBlockReason
        lastCheckUnixSeconds :=
          if 0 < snapshot.lastAttemptUnixSeconds then snapshot.lastAttemptUnixSeconds
          else snapshot.lastCheckUnixSeconds
        automaticFailureCount := 0
        availableRelease := available
        cachedCheckCompleted := true
        cachedAvailableVersion := cachedVersion
        dismissed := decide (cachedVersion = some snapshot.ignoredVersion)
        phase := if available.isSome then .available else .current }

/-- `UpdateController::set_automatic_checks_enabled`. -/
def setAutomaticChecksEnabled (snapshot : UpdateSnapshot) (enabled : Bool) : UpdateSnapshot :=
  { snapshot with automaticChecksEnabled := enabled }

/-- A release that may be installed. -/
def installable (snapshot : UpdateSnapshot) : Bool :=
  decide (snapshot.phase = .available) && !snapshot.dismissed &&
    snapshot.availableRelease.any fun release =>
      release.asset.isSome && decide (release.installBlockReason = "")

/-- `UpdateController::begin_install_with_user_consent`. -/
def beginInstallWithUserConsent (snapshot : UpdateSnapshot) : Bool × UpdateSnapshot :=
  if snapshot.installable then
    (true, { snapshot with
      phase := .installing
      status := "Downloading and verifying the approved update..." })
  else (false, snapshot)

/-- `UpdateController::complete_install_failure`. -/
def completeInstallFailure (snapshot : UpdateSnapshot) (message : String) : UpdateSnapshot :=
  { snapshot with
    phase := if snapshot.availableRelease.isSome then .available else .error
    status := message }

/-- `UpdateController::dismiss`. -/
def dismiss (snapshot : UpdateSnapshot) : UpdateSnapshot :=
  if snapshot.phase = .available ∨ snapshot.cachedAvailableVersion.isSome then
    { snapshot with dismissed := true }
  else snapshot

/-- `UpdateController::ignore_available_version`. -/
def ignoreAvailableVersion (snapshot : UpdateSnapshot) : UpdateSnapshot :=
  match snapshot.cachedAvailableVersion with
  | none => snapshot
  | some version => { snapshot with ignoredVersion := version, dismissed := true }

end UpdateSnapshot

end Kf2Optimizer.Update
