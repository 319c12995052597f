/-
# Releases

`github_release_client.cpp`: the releases in an answer of the server, and the newest of them that is
an update.  The notes of a release are read but not kept: `release_info` makes a text for the window
of them that no decision looks at.
-/
import Kf2Optimizer.Core.Result
import Kf2Optimizer.Update.JsonReader
import Kf2Optimizer.Update.SemanticVersion

namespace Kf2Optimizer.Update

open Text

def kMaximumResponseBytes : ℕ := 2 * 1024 * 1024
def kMaximumAssetBytes : ℕ := 64 * 1024 * 1024

def invalid (message : String) : Error := { code := .invalidArgument, message }
def denied (message : String) : Error := { code := .accessDenied, message }

/-! ## 1. Reading -/

structure ParsedAsset where
  name : Bytes := []
  url : Bytes := []
  digest : Bytes := []
  size : ℕ := 0
deriving DecidableEq, Repr

structure ParsedRelease where
  tag : Bytes := []
  body : Bytes := []
  publishedAt : Bytes := []
  draft : Bool := false
  assets : List ParsedAsset := []
deriving DecidableEq, Repr

/-- A string, or `null` where there may be one. -/
def nullOrString (nullable : Bool) (incomplete : String) : Reader Error (Option Bytes) := fun text =>
  match nullValue text with
  | some rest => if nullable then .ok (none, rest) else .error (invalid incomplete)
  | none => ((string text).mapError invalid).map fun result => (some result.1, result.2)

/-- A value that is not kept; it may be 33 levels deep. -/
def ignored (malformed : String) : Reader Error Unit := fun text =>
  (skipValue 33 text).mapError fun _ => invalid malformed

def malformedAsset : String := "GitHub release asset is malformed"
def malformedAssets : String := "GitHub release assets are malformed"
def malformedRelease : String := "GitHub release is malformed"
def malformedResponse : String := "GitHub release response is malformed"

/-- `if (key == "name") asset.name = value; …`, unless the value is `null`. -/
def ParsedAsset.setText (asset : ParsedAsset) (key : Bytes) : Option Bytes → ParsedAsset
  | none => asset
  | some value =>
    if key = ascii "name" then { asset with name := value }
    else if key = ascii "browser_download_url" then { asset with url := value }
    else { asset with digest := value }

/-- The branches of `parse_asset` for a key. -/
def assetField (asset : ParsedAsset) (key : Bytes) : Reader Error ParsedAsset := fun text =>
  if key = ascii "name" ∨ key = ascii "browser_download_url" ∨ key = ascii "digest" then
    (nullOrString (decide (key = ascii "digest")) "GitHub release asset is incomplete" text).map
      fun result => (asset.setText key result.1, result.2)
  else if key = ascii "size" then
    ((unsignedNumber text).mapError invalid).map fun result =>
      ({ asset with size := result.1 }, result.2)
  else (ignored malformedAsset text).map fun result => (asset, result.2)

/-- `parse_asset`. -/
def parseAsset : Reader Error ParsedAsset := readObject (invalid malformedAsset) assetField {}

/-- `parse_assets`. -/
def parseAssets : Reader Error (List ParsedAsset) :=
  readArray (invalid malformedAssets) (some (128, denied "GitHub release has too many assets"))
    parseAsset

/-- `if (key == "tag_name") release.tag = value; …`, unless the value is `null`. -/
def ParsedRelease.setText (release : ParsedRelease) (key : Bytes) : Option Bytes → ParsedRelease
  | none => release
  | some value =>
    if key = ascii "tag_name" then { release with tag := value }
    else if key = ascii "body" then { release with body := value }
    else { release with publishedAt := value }

/-- The branches of `parse_release` for a key. -/
def releaseField (release : ParsedRelease) (key : Bytes) : Reader Error ParsedRelease := fun text =>
  if key = ascii "tag_name" ∨ key = ascii "body" ∨ key = ascii "published_at" then
    (nullOrString (decide (key = ascii "body")) "GitHub release is incomplete" text).map
      fun result => (release.setText key result.1, result.2)
  else if key = ascii "draft" then
    ((boolean text).mapError invalid).map fun result =>
      ({ release with draft := result.1 }, result.2)
  else if key = ascii "assets" then
    (parseAssets text).map fun result => ({ release with assets := result.1 }, result.2)
  else (ignored malformedRelease text).map fun result => (release, result.2)

/-- `parse_release`. -/
def parseRelease : Reader Error ParsedRelease :=
  readObject (invalid malformedRelease) releaseField {}

/-- `parse_release_array`. -/
def parseReleaseArray (json : Bytes) : Result (List ParsedRelease) :=
  if json = [] ∨ kMaximumResponseBytes < json.length then
    .error (denied "GitHub release response size is invalid")
  else
    match readArray (invalid malformedResponse)
        (some (100, denied "GitHub returned too many releases")) parseRelease json with
    | .error e => .error e
    | .ok (releases, rest) =>
      if atEnd rest then .ok releases
      else .error (invalid "GitHub release response has trailing data")

/-! ## 2. Choosing -/

/-- `safe_repository`. -/
def safeRepository (value : Bytes) : Bool :=
  match after (ascii "https://github.com/") value with
  | none => false
  | some repository =>
    decide (value.length ≤ 240) && value.all (fun b => !(ascii "?#\\").contains b) &&
      !contains (ascii "..") value &&
      match cut 0x2F repository with
      | none => false
      | some (owner, name) => decide (owner ≠ []) && decide (name ≠ []) && !name.contains 0x2F

/-- `safe_token`. -/
def safeToken (value : Bytes) : Bool :=
  decide (value ≠ []) && decide (value.length ≤ 128) &&
    value.all fun ch => isDigit ch || SemVer.isLetter ch || ch == SemVer.dot || ch == SemVer.hyphen

/-- `valid_sha256`. -/
def validSha256 (value : Bytes) : Bool :=
  decide (value.length = 64) && value.all fun ch => (Json.hexValue ch).isSome

structure ReleaseAsset where
  name : Bytes
  url : Bytes
  size : ℕ
  sha256 : Bytes
deriving DecidableEq, Repr

structure ReleaseInfo where
  repository : Bytes
  tag : Bytes
  version : Bytes
  publishedAt : Bytes
  asset : Option ReleaseAsset := none
  installBlockReason : String := ""
deriving DecidableEq, Repr

def expectedName (version : Bytes) : Bytes :=
  ascii "KF2OptimizerNext-v" ++ (version ++ ascii "-win64.zip")

def expectedUrl (repository tag version : Bytes) : Bytes :=
  repository ++ (ascii "/releases/download/" ++ (tag ++ (ascii "/" ++ expectedName version)))

/-- The asset that the loop of `release_info` stops at, and what it makes of it. -/
def verifiedAsset (repository tag version : Bytes) (asset : ParsedAsset) : Option ReleaseAsset :=
  match after (ascii "sha256:") asset.digest with
  | none => none
  | some sha256 =>
    if asset.name = expectedName version ∧ asset.url = expectedUrl repository tag version ∧
        0 < asset.size ∧ asset.size ≤ kMaximumAssetBytes ∧ validSha256 sha256 = true then
      some ⟨asset.name, asset.url, asset.size, sha256⟩
    else none

/-- `release_info`. -/
def releaseInfo (release : ParsedRelease) (repository version : Bytes) : ReleaseInfo :=
  let asset := release.assets.findSome? (verifiedAsset repository release.tag version)
  { repository
    tag := release.tag
    version
    publishedAt := release.publishedAt
    asset
    installBlockReason :=
      if asset.isSome then ""
      else "The release has no verified portable Windows-x64 package." }

/-- The version of a release that may be chosen: the checks that the loop of `parse_github_releases`
continues at. -/
def candidateVersion (installed : SemanticVersion) (release : ParsedRelease) :
    Option SemanticVersion :=
  if release.draft = true ∨ release.tag = [] ∨ release.publishedAt = [] then none
  else match parseSemanticVersion release.tag with
    | .error _ => none
    | .ok candidate =>
      if safeToken candidate.canonical = false ∨ release.tag ≠ 0x76 :: candidate.canonical ∨
          compareSemanticVersions candidate installed ≤ 0 then none
      else some candidate

/-- A round of the loop of `parse_github_releases`. -/
def betterRelease (installed : SemanticVersion) (best : Option (ParsedRelease × SemanticVersion))
    (release : ParsedRelease) : Option (ParsedRelease × SemanticVersion) :=
  match candidateVersion installed release with
  | none => best
  | some candidate =>
    match best with
    | none => some (release, candidate)
    | some (_, bestVersion) =>
      if 0 < compareSemanticVersions candidate bestVersion then some (release, candidate) else best

/-- `parse_github_releases`. -/
def parseGithubReleases (json repository installedVersion : Bytes) : Result (Option ReleaseInfo) :=
  if safeRepository repository = false then
    .error (invalid "Official update repository is invalid")
  else
    match parseSemanticVersion installedVersion with
    | .error _ => .error (invalid "Installed version is invalid")
    | .ok installed =>
      match parseReleaseArray json with
      | .error e => .error e
      | .ok releases =>
        match releases.foldl (betterRelease installed) none with
        | none => .ok none
        | some (best, version) => .ok (some (releaseInfo best repository version.canonical))

end Kf2Optimizer.Update
