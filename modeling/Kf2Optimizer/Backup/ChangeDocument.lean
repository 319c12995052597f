/-
# Change documents

`export_preview_json` and `import_requested_changes_json` of `restore_transaction.cpp`.  The changes
of a preview are written as JSON, each with the key of its setting, its value, its source and its
reason, and read back as requests.  The class `JsonReader` of that file has the functions of the one
that reads releases, but for the limit on the length of a string; those that are the same are taken
from there.
-/
import Kf2Optimizer.Config.SettingCatalog
import Kf2Optimizer.Core.Result
import Kf2Optimizer.Game.GameLogSession
import Kf2Optimizer.Update.JsonReader

namespace Kf2Optimizer.Backup

open Text Config Unicode
open Update (whitespace consume atEnd nextChar skipNumber)

/-! ## 1. Changes -/

inductive ChangeSource
  | adaptive
  | explicitUser
  deriving DecidableEq, Repr

/-- What is written of a `PreviewItem`. -/
structure PreviewItem where
  id : SettingId
  after : SettingValue
  source : ChangeSource
  reason : Wide
  deriving DecidableEq

structure RequestedChange where
  id : SettingId
  value : SettingValue
  source : ChangeSource := .explicitUser
  reason : Wide := []
  deriving DecidableEq

/-! ## 2. Writing -/

/-- A round of `json_escape`. -/
def escapeByte (character : UInt8) : Bytes :=
  if character = 0x22 then [0x5C, 0x22]
  else if character = 0x5C then [0x5C, 0x5C]
  else if character = 0x08 then [0x5C, 0x62]
  else if character = 0x0C then [0x5C, 0x66]
  else if character = 0x0A then [0x5C, 0x6E]
  else if character = 0x0D then [0x5C, 0x72]
  else if character = 0x09 then [0x5C, 0x74]
  else if character < 0x20 then
    [0x5C, 0x75, 0x30, 0x30, hexDigit (character.toNat >>> 4), hexDigit (character.toNat &&& 0x0F)]
  else [character]

/-- `json_escape`. -/
def jsonEscape (value : Bytes) : Bytes := value.flatMap escapeByte

/-- Behind the point, without the zeros at the end. -/
def fractionText (digits : Bytes) : Bytes :=
  match digits.rdropWhile (· = 0x30) with
  | [] => []
  | fraction => 0x2E :: fraction

/-- Twelve digits, the first of which stands for a power of ten. -/
def digitsText (exponent : ℤ) (digits : Bytes) : Bytes :=
  if exponent < -4 ∨ 12 ≤ exponent then
    digits.take 1 ++ fractionText (digits.drop 1) ++ 0x65 ::
      (if exponent < 0 then 0x2D else 0x2B) ::
        ((if exponent.natAbs < 10 then [0x30] else []) ++ decimal exponent.natAbs)
  else if exponent < 0 then
    0x30 :: fractionText (List.replicate (exponent.natAbs - 1) 0x30 ++ digits)
  else digits.take (exponent.toNat + 1) ++ fractionText (digits.drop (exponent.toNat + 1))

/-- `output << std::setprecision(12) << number`: twelve significant digits. -/
def realText (number : ℚ) : Bytes :=
  if number = 0 then ascii "0"
  else
    let exponent := Int.log 10 |number|
    let digits := (roundHalfEven (|number| / (10 : ℚ) ^ (exponent - 11))).toNat
    (if number < 0 then ascii "-" else []) ++
      if digits = 10 ^ 12 then digitsText (exponent + 1) (decimal (10 ^ 11))
      else digitsText exponent (decimal digits)

def valueText : SettingValue → Bytes
  | .int value => integerText value
  | .bool value => booleanText value
  | .real value => realText value

def ChangeSource.text : ChangeSource → Bytes
  | .explicitUser => ascii "explicit"
  | .adaptive => ascii "adaptive"

/-- A round of the loop of `export_preview_json`. -/
def itemText (item : PreviewItem) : Bytes :=
  ascii "\x7b\"id\":\"" ++ settingToken item.id ++ ascii "\",\"value\":" ++ valueText item.after ++
    ascii ",\"source\":\"" ++ item.source.text ++ ascii "\",\"reason\":\"" ++
    jsonEscape (wideToUtf8 item.reason) ++ ascii "\"\x7d"

/-- The items that are written. -/
def written (items : List PreviewItem) : List PreviewItem :=
  items.filter fun item => decide (settingToken item.id ≠ [])

/-- `export_preview_json`. -/
def exportPreviewJson (items : List PreviewItem) : Bytes :=
  ascii "\x7b\"version\":1,\"changes\":[" ++ Json.commas ((written items).map itemText) ++ ascii "]\x7d"

/-! ## 3. Reading -/

namespace ChangeReader

/-- The loop of `JsonReader::string`. -/
def stringLoop : ℕ → Bytes → Bytes → Option (Bytes × Bytes)
  | 0, _, _ => none
  | _ + 1, _, [] => none
  | fuel + 1, output, character :: rest =>
    if character = 0x22 then some (output, rest)
    else if character < 0x20 then none
    else match nextChar character rest with
      | none => none
      | some (added, rest) => stringLoop fuel (output ++ added) rest

/-- `JsonReader::string`. -/
def string (text : Bytes) : Option (Bytes × Bytes) :=
  match consume 0x22 text with
  | none => none
  | some rest => stringLoop rest.length [] rest

/-- `JsonReader::scalar`: a literal or a number, as it is spelled. -/
def scalar (text : Bytes) : Option (Bytes × Bytes) :=
  let text := whitespace text
  match after (ascii "true") text with
  | some rest => some (ascii "true", rest)
  | none =>
    match after (ascii "false") text with
    | some rest => some (ascii "false", rest)
    | none => (skipNumber text).map fun rest => (text.take (text.length - rest.length), rest)

/-- `JsonReader::next_is`. -/
def nextIs (expected : UInt8) (text : Bytes) : Bool := decide ((whitespace text).head? = some expected)

end ChangeReader

open ChangeReader

def malformed {α : Type} (message : String) : Except Error α :=
  .error { code := .invalidArgument, message := message }

/-- The keys that documents had before every setting was in the catalog. -/
def legacyKeys : List (String × SettingId) :=
  [("target_fps", .targetFps), ("smooth_frame_rate", .smoothFrameRate), ("corpse_limit", .corpseLimit),
    ("gore_effect_limit", .goreEffectLimit), ("explosion_decal_limit", .explosionDecalLimit),
    ("impact_decal_limit", .impactDecalLimit), ("wound_decal_limit", .woundDecalLimit),
    ("blood_splatter_decal_limit", .bloodSplatterDecalLimit),
    ("blood_pool_decal_limit", .bloodPoolDecalLimit), ("blood_effect_limit", .bloodEffectLimit),
    ("body_wound_decal_lifetime", .bodyWoundDecalLifetime),
    ("blood_splatter_lifetime", .bloodSplatterLifetime), ("blood_pool_lifetime", .bloodPoolLifetime),
    ("giblet_lifetime", .gibletLifetime), ("gore_lifetime_multiplier", .goreLifetimeMultiplier),
    ("persistent_splats_per_frame", .persistentSplatsPerFrame),
    ("blood_splatter_decals", .bloodSplatterDecals),
    ("secondary_blood_effects", .secondaryBloodEffects), ("static_decals", .staticDecals),
    ("dynamic_decals", .dynamicDecals), ("decal_cull_distance_scale", .decalCullDistanceScale),
    ("dynamic_shadows", .dynamicShadows), ("light_environment_shadows", .lightEnvironmentShadows),
    ("ambient_occlusion", .ambientOcclusion), ("bloom", .bloom), ("distortion", .distortion),
    ("drop_particle_distortion", .dropParticleDistortion),
    ("high_quality_materials", .highQualityMaterials), ("detail_mode", .detailMode),
    ("max_shadow_resolution", .maxShadowResolution),
    ("max_whole_scene_shadow_resolution", .maxWholeSceneShadowResolution),
    ("shadow_texels_per_pixel", .shadowTexelsPerPixel),
    ("fracture_cull_distance_scale", .fractureCullDistanceScale)]

/-- `setting_id`. -/
def settingId (name : Bytes) : Option SettingId :=
  match findSettingByToken name with
  | some definition => some definition.id
  | none => (legacyKeys.find? fun key => decide (ascii key.1 = name)).map Prod.snd

/-- `parse_setting_value` of a scalar of a document: a literal is no number, and a number that is out
of the range of `double` is none either. -/
def parseSettingValue (definition : SettingDefinition) (text : Bytes) : Option SettingValue :=
  if definition.type = .boolean then
    if text = ascii "true" ∨ text = ascii "1" then some (.bool true)
    else if text = ascii "false" ∨ text = ascii "0" then some (.bool false)
    else none
  else match Game.fromCharsDouble text with
    | none => none
    | some number =>
      if number < definition.minimum ∨ definition.maximum < number then none
      else if definition.type = .real then some (.real number)
      else if ⌊number⌋ ≠ number then none
      else if allowedInteger definition ⌊number⌋ then some (.int ⌊number⌋) else none

/-- What an entry has said so far. -/
structure Entry where
  rawId : Option Bytes := none
  rawValue : Option Bytes := none
  rawSource : Option Bytes := none
  rawReason : Option Bytes := none

/-- The value of a field. -/
def Entry.read {α : Type} (result : Option (Bytes × Bytes)) (store : Bytes → α) : Except Error (α × Bytes) :=
  match result with
  | some (value, rest) => .ok (store value, rest)
  | none => malformed "Change entry value is malformed"

def Entry.field (entry : Entry) (field rest : Bytes) : Except Error (Entry × Bytes) :=
  if field = ascii "id" then Entry.read (string rest) fun raw => { entry with rawId := some raw }
  else if field = ascii "value" then Entry.read (scalar rest) fun raw => { entry with rawValue := some raw }
  else if field = ascii "source" then Entry.read (string rest) fun raw => { entry with rawSource := some raw }
  else if field = ascii "reason" then Entry.read (string rest) fun raw => { entry with rawReason := some raw }
  else malformed "Change entry contains an unknown field"

/-- The loop over the fields of an entry; a round takes bytes, so that their number is fuel enough. -/
def fieldsLoop : ℕ → List Bytes → Entry → Bytes → Except Error (Entry × Bytes)
  | 0, _, _, _ => malformed "Change entry is malformed"
  | fuel + 1, fields, entry, text =>
    if nextIs 0x7D text then .ok (entry, text)
    else match string text with
      | none => malformed "Change entry contains an invalid field"
      | some (field, rest) =>
        if field ∈ fields then malformed "Change entry contains an invalid field"
        else match consume 0x3A rest with
          | none => malformed "Change entry contains an invalid field"
          | some rest => do
            let (entry, rest) ← entry.field field rest
            if nextIs 0x7D rest then fieldsLoop fuel (field :: fields) entry rest
            else match consume 0x2C rest with
              | none => malformed "Change entry is malformed"
              | some rest => fieldsLoop fuel (field :: fields) entry rest

/-- The source of an entry. -/
def sourceOf : Option Bytes → Except Error ChangeSource
  | none => .ok .explicitUser
  | some raw =>
    if raw = ascii "adaptive" ∨ raw = ascii "smart" then .ok .adaptive
    else if raw = ascii "explicit" ∨ raw = ascii "manual" then .ok .explicitUser
    else malformed "Configuration source is invalid"

/-- The reason of an entry. -/
def reasonOf : Option Bytes → Except Error Wide
  | none => .ok []
  | some raw =>
    if 4096 < raw.length then malformed "Configuration reason is too long"
    else match utf8Decode raw with
      | none => malformed "Configuration reason is not valid UTF-8"
      | some text => .ok (utf16Encode text)

/-- The request of an entry. -/
def requestOf (seen : List SettingId) (rawId rawValue : Bytes) (entry : Entry) :
    Except Error RequestedChange :=
  match settingId rawId with
  | none => malformed "Unknown configuration setting"
  | some id =>
    if id ∈ seen then malformed "Configuration setting is duplicated"
    else match (findSetting id).bind fun definition => parseSettingValue definition rawValue with
      | none => malformed "Configuration value is invalid or out of range"
      | some value => do
        let source ← sourceOf entry.rawSource
        let reason ← reasonOf entry.rawReason
        .ok ⟨id, value, source, reason⟩

/-- A round of the loop over the entries. -/
def readEntry (seen : List SettingId) (text : Bytes) : Except Error (RequestedChange × Bytes) :=
  match consume 0x7B text with
  | none => malformed "Change entry is malformed"
  | some rest => do
    let (entry, rest) ← fieldsLoop (rest.length + 1) [] {} rest
    match consume 0x7D rest, entry.rawId, entry.rawValue with
    | some rest, some rawId, some rawValue => do
      let request ← requestOf seen rawId rawValue entry
      .ok (request, rest)
    | _, _, _ => malformed "Change entry is incomplete"

/-- The loop over the entries, with the requests so far. -/
def entriesLoop : ℕ → List RequestedChange → Bytes → Except Error (List RequestedChange × Bytes)
  | 0, _, _ => malformed "Change list is malformed"
  | fuel + 1, requests, text =>
    if nextIs 0x5D text then .ok (requests, text)
    else do
      let (request, rest) ← readEntry (requests.map RequestedChange.id) text
      if allSettings.length < (requests ++ [request]).length then
        malformed "Change document contains too many settings"
      else if nextIs 0x5D rest then entriesLoop fuel (requests ++ [request]) rest
      else match consume 0x2C rest with
        | none => malformed "Change list is malformed"
        | some rest => entriesLoop fuel (requests ++ [request]) rest

/-- A key with its colon. -/
def key (expected text : Bytes) : Option Bytes :=
  match string text with
  | some (found, rest) => if found = expected then consume 0x3A rest else none
  | none => none

/-- The text behind `"changes": [`. -/
def changesOf (json : Bytes) : Except Error Bytes :=
  match (consume 0x7B json).bind (key (ascii "version")) with
  | none => malformed "Change document is malformed"
  | some rest =>
    match scalar rest with
    | some (version, rest) =>
      match if version = ascii "1" then consume 0x2C rest else none with
      | none => malformed "Change document version is invalid"
      | some rest =>
        match (key (ascii "changes") rest).bind (consume 0x5B) with
        | none => malformed "Change document is malformed"
        | some rest => .ok rest
    | none => malformed "Change document version is invalid"

/-- `import_requested_changes_json`. -/
def importRequestedChangesJson (json : Bytes) : Except Error (List RequestedChange) :=
  if json = [] ∨ 1024 * 1024 < json.length then malformed "Change document size is invalid"
  else do
    let text ← changesOf json
    let (requests, rest) ← entriesLoop (text.length + 1) [] text
    match (consume 0x5D rest).bind (consume 0x7D) with
    | some rest =>
      if atEnd rest then .ok requests
      else malformed "Change document has trailing or malformed data"
    | none => malformed "Change document has trailing or malformed data"

end Kf2Optimizer.Backup
