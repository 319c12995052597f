/-
# The game's end of the Adaptive control wire

`KF2OptimizerAdaptiveControlConnection.ReceivedLine` reads a command, hands it to the probe and
answers; the probe's `ApplyAdaptiveResourceControl` first checks what it got.  The two ends count
differently: a sequence has 64 bits on the native side and `int()` gives 32 with a sign.

`wire_agrees` is the agreement below 2^31: the fields arrive as they were sent, the probe's
check passes, and every acknowledgement that is not a refusal is accepted with the fields of the
request.  `wire_disagrees` has the first sequence that does not arrive, and the acknowledgements
beyond those of this connection that the native end takes by design.
-/
import Kf2Optimizer.Game.AdaptiveControlClient

namespace Kf2Optimizer.Game

open Text Optimizer

/-! ## 1. UnrealScript texts and numbers -/

/-- `int(...)` of a string, which belongs to the engine: a signed number of 32 bits, and the
number that decimal digits stand for when it is one. -/
structure UnrealInt where
  toInt : Bytes → ℤ
  range : ∀ text, -2 ^ 31 ≤ toInt text ∧ toInt text < 2 ^ 31
  toInt_decimal : ∀ n : ℕ, n < 2 ^ 31 → toInt (decimal n) = n

/-- A letter of either case as a small one. -/
def lower (b : UInt8) : UInt8 := if 0x41 ≤ b ∧ b ≤ 0x5A then b + 0x20 else b

/-- `~=`. -/
def sameText (a b : Bytes) : Bool := a.map lower = b.map lower

/-- `KF2OptimizerAdaptiveControlConnection.TakeToken`. -/
def connectionTakeToken (line : Bytes) : Bytes × Bytes := takeToken line

/-- `KF2OptimizerAdaptiveGraphics.IsAdaptiveControlResource`. -/
def isAdaptiveControlResource (resource : Bytes) : Bool :=
  AdaptiveResourceControl.all.any fun control => sameText resource (resourceName control)

/-- `KF2OptimizerAdaptiveGraphics.IsAdaptiveQualityResource`. -/
def isAdaptiveQualityResource (resource : Bytes) : Bool :=
  isAdaptiveControlResource resource && !sameText resource (ascii "enable") &&
    !sameText resource (ascii "disable")

/-! ## 2. The probe's check -/

/-- The arguments of `ApplyAdaptiveResourceControl`. -/
structure Control where
  token : Bytes
  sequence : ℤ
  resource : Bytes
  quality : ℤ
deriving DecidableEq

/-- What the check of `ApplyAdaptiveResourceControl` reads of the probe. -/
structure ControlGate where
  adaptiveControlToken : Bytes
  adaptiveLastControlSequence : ℤ

/-- `KF2OptimizerTelemetryProbe.ValidAdaptiveControlToken`. -/
def ControlGate.validToken (gate : ControlGate) (candidate : Bytes) : Bool :=
  decide (gate.adaptiveControlToken.length = 32) && decide (candidate = gate.adaptiveControlToken)

/-- The check at the start of `ApplyAdaptiveResourceControl`. -/
def ControlGate.accepts (gate : ControlGate) (control : Control) : Bool :=
  !(!gate.validToken control.token || decide (control.sequence ≤ 0) ||
    decide (control.sequence ≤ gate.adaptiveLastControlSequence) ||
    !isAdaptiveControlResource control.resource ||
    (sameText control.resource (ascii "enable") &&
      (decide (control.quality < 4) || decide (2000 < control.quality))) ||
    (!sameText control.resource (ascii "enable") &&
      (decide (control.quality < 10) || decide (100 < control.quality))) ||
    (!(sameText control.resource (ascii "enable") || sameText control.resource (ascii "disable")) &&
      !isAdaptiveQualityResource control.resource))

/-- What the connection reads of the probe after a command. -/
structure ProbeReply where
  applied : Bool
  /-- `WasAdaptiveQualityRestoreCompletedForLastCommand`. -/
  restoreCompleted : Bool
  /-- `IsAdaptiveQualityStateKnown`. -/
  stateKnown : Bool
  /-- `bAdaptiveDisableCommittedForLastCommand`. -/
  disableCommitted : Bool
  lastControlSequence : ℤ
deriving DecidableEq

/-! ## 3. The connection -/

/-- A line as `ReceivedLine` takes it apart. -/
structure ControlLine where
  head : Bytes
  sequenceText : Bytes
  control : Control
  /-- What is left of the line. -/
  rest : Bytes
deriving DecidableEq

def readLine (int : UnrealInt) (line : Bytes) : ControlLine :=
  let (head, line) := connectionTakeToken line
  let (token, line) := connectionTakeToken line
  let (sequenceText, line) := connectionTakeToken line
  let (resource, line) := connectionTakeToken line
  let (qualityText, line) := connectionTakeToken line
  { head, sequenceText, rest := line
    control := ⟨token, int.toInt sequenceText, resource, int.toInt qualityText⟩ }

/-- The world around a connection when a line arrives. -/
structure Connection where
  cleanupStarted : Bool := false
  /-- The peer's address starts with `127.0.0.1:`. -/
  loopback : Bool := true
  /-- The viewport has its telemetry interaction. -/
  interaction : Bool := true
  /-- The first probe of the world. -/
  probe : Option (Control → ProbeReply) := none

/-- What `ReceivedLine` does. -/
structure Received where
  sent : Option Bytes := none
  /-- What the probe was asked. -/
  asked : Option Control := none
  /-- `SetProcessAdaptiveRuntimeEnabled`. -/
  processEnabled : Option Bool := none

/-- An answer that refuses the command. -/
def failedText (sequence : Bytes) (reason : String) : Bytes :=
  ascii "KF2OPT_ACK " ++ sequence ++ ascii " failed " ++ ascii reason

/-- An answer that acknowledges the command. -/
def acknowledgeText (status : AdaptiveControlReceiptStatus) (control : Control) : Bytes :=
  ascii "KF2OPT_ACK " ++ toText control.sequence ++ [space] ++ statusName status ++ [space] ++
    control.resource ++ [space] ++ toText control.quality

/-- The end of `ReceivedLine`, after the probe was asked. -/
def answerText (control : Control) : Option ProbeReply → Bytes
  | none => failedText (toText control.sequence) "rejected"
  | some reply =>
    if reply.applied then acknowledgeText .applied control
    else if reply.restoreCompleted then acknowledgeText .restored control
    else if reply.stateKnown = false then acknowledgeText .stateUnknown control
    else failedText (toText control.sequence) "rejected"

/-- The mode of the process that a command sets. -/
def processMode (control : Control) : Option ProbeReply → Option Bool
  | none => none
  | some reply =>
    if (reply.applied || (sameText control.resource (ascii "disable") && reply.disableCommitted &&
        decide (reply.lastControlSequence = control.sequence))) &&
        (sameText control.resource (ascii "enable") || sameText control.resource (ascii "disable"))
    then some (sameText control.resource (ascii "enable"))
    else none

/-- `KF2OptimizerAdaptiveControlConnection.ReceivedLine`. -/
def receivedLine (int : UnrealInt) (connection : Connection) (line : Bytes) : Received :=
  if connection.cleanupStarted then {}
  else if connection.loopback = false ∨ 128 < line.length then
    { sent := some (failedText (ascii "0") "rejected") }
  else
    let read := readLine int line
    let control := read.control
    if read.head ≠ ascii "KF2OPT" ∨ read.rest ≠ [] then
      { sent := some (failedText read.sequenceText "malformed") }
    else if (sameText control.resource (ascii "enable") ||
        sameText control.resource (ascii "disable")) && !connection.interaction then
      { sent := some (failedText (toText control.sequence) "rejected") }
    else
      let reply := connection.probe.map fun probe => probe control
      { sent := some (answerText control reply)
        asked := connection.probe.map fun _ => control
        processEnabled := processMode control reply }

/-! ## 4. The fields arrive -/

/-- The control that a request stands for. -/
def AdaptiveControlRequest.control (request : AdaptiveControlRequest) : Control :=
  ⟨request.token, request.sequence, resourceName request.resource, request.quality⟩

theorem AdaptiveControlRequest.Valid.token_field {request : AdaptiveControlRequest}
    (h : request.Valid) : Field request.token ∧ request.token.length = 32 := by
  have htoken := h.token
  rw [validAdaptiveControlToken, Bool.and_eq_true, decide_eq_true_eq] at htoken
  have hhex : HexText request.token := htoken.2
  refine ⟨⟨hhex.not_mem (by decide), fun b hb => ?_⟩, htoken.1⟩
  by_contra hend
  rw [Bool.not_eq_false, lineEnd, Bool.or_eq_true, decide_eq_true_eq, decide_eq_true_eq] at hend
  rcases hend with rfl | rfl
  · exact hhex.not_mem (by decide) hb
  · exact hhex.not_mem (by decide) hb

/-- The line of the command. -/
def AdaptiveControlRequest.line (request : AdaptiveControlRequest) : Bytes :=
  fields (ascii "KF2OPT") request.token (decimal request.sequence) (resourceName request.resource)
    (decimal request.quality.toNat)

/-- **The line is taken apart as it was put together.** -/
theorem readLine_fields (int : UnrealInt) {a b c d e : Bytes} (ha : space ∉ a) (hb : space ∉ b)
    (hc : space ∉ c) (hd : space ∉ d) (he : space ∉ e) :
    readLine int (fields a b c d e) = ⟨a, c, ⟨b, int.toInt c, d, int.toInt e⟩, []⟩ := by
  simp only [readLine, connectionTakeToken, fields, takeToken_append ha, takeToken_append hb,
    takeToken_append hc, takeToken_append hd, takeToken_of_not_mem he]

theorem readLine_line (int : UnrealInt) {request : AdaptiveControlRequest} (h : request.Valid)
    (hsequence : request.sequence < 2 ^ 31) :
    readLine int request.line =
      ⟨ascii "KF2OPT", decimal request.sequence, request.control, []⟩ := by
  have hbounds := validValue_bounds h.value
  have hquality : int.toInt (decimal request.quality.toNat) = request.quality := by
    rw [int.toInt_decimal _ (by omega), Int.toNat_of_nonneg (by omega)]
  rw [AdaptiveControlRequest.line, readLine_fields int (by decide) h.token_field.1.1
    (numeral_decimal _).field.1 (field_resourceName _).1 (numeral_decimal _).field.1,
    int.toInt_decimal _ hsequence, hquality, AdaptiveControlRequest.control]

theorem length_resourceName_le (resource : AdaptiveResourceControl) :
    (resourceName resource).length ≤ 8 := by
  cases resource <;> decide

/-- The line is short enough for the connection. -/
theorem length_line_le {request : AdaptiveControlRequest} (h : request.Valid) :
    request.line.length ≤ 128 := by
  have hbounds := validValue_bounds h.value
  have hsequence : (decimal request.sequence).length ≤ 20 :=
    length_decimal_le (by decide) (by have := request.hsequence; omega)
  have hquality : (decimal request.quality.toNat).length ≤ 4 :=
    length_decimal_le (by decide) (by omega)
  have hhead : (ascii "KF2OPT").length = 6 := by decide
  have hname := length_resourceName_le request.resource
  have htoken := h.token_field.2
  simp only [AdaptiveControlRequest.line, fields, List.length_append, List.length_cons]
  omega

/-! ## 5. The probe's check passes -/

theorem sameText_enable (resource : AdaptiveResourceControl) :
    sameText (resourceName resource) (ascii "enable") = decide (resource = .enable) := by
  cases resource <;> decide

theorem isAdaptiveControlResource_resourceName (resource : AdaptiveResourceControl) :
    isAdaptiveControlResource (resourceName resource) = true := by
  cases resource <;> decide

theorem isAdaptiveQualityResource_or (resource : AdaptiveResourceControl) :
    (sameText (resourceName resource) (ascii "enable") ||
      sameText (resourceName resource) (ascii "disable") ||
      isAdaptiveQualityResource (resourceName resource)) = true := by
  cases resource <;> decide

/-- The probe has the limits of the native end. -/
theorem limits_of_validValue {resource : AdaptiveResourceControl} {quality : ℤ}
    (h : validValue resource quality = true) :
    (sameText (resourceName resource) (ascii "enable") &&
      (decide (quality < 4) || decide (2000 < quality))) = false ∧
    (!sameText (resourceName resource) (ascii "enable") &&
      (decide (quality < 10) || decide (100 < quality))) = false := by
  rw [sameText_enable]
  unfold validValue at h
  by_cases hr : resource = .enable
  · rw [if_pos hr, decide_eq_true_eq] at h
    rw [decide_eq_false (by omega : ¬quality < 4), decide_eq_false (by omega : ¬2000 < quality)]
    simp [hr]
  · rw [if_neg hr, decide_eq_true_eq] at h
    rw [decide_eq_false (by omega : ¬quality < 10), decide_eq_false (by omega : ¬100 < quality)]
    simp [hr]

/-- **The probe's check** accepts a new command under its token. -/
theorem accepts_control {request : AdaptiveControlRequest} (h : request.Valid) {gate : ControlGate}
    (htoken : gate.adaptiveControlToken = request.token)
    (hlast : gate.adaptiveLastControlSequence < request.sequence) :
    gate.accepts request.control = true := by
  have hlength := h.token_field.2
  have hpos : ¬(request.sequence : ℤ) ≤ 0 := by
    have := h.sequence
    omega
  have hvalid : gate.validToken request.token = true := by
    simp [ControlGate.validToken, htoken, hlength]
  have hlimits := limits_of_validValue h.value
  have hkind := isAdaptiveQualityResource_or request.resource
  rw [ControlGate.accepts, Bool.not_eq_true']
  simp only [Bool.or_eq_false_iff]
  refine ⟨⟨⟨⟨⟨⟨?_, ?_⟩, ?_⟩, ?_⟩, hlimits.1⟩, hlimits.2⟩, ?_⟩
  · exact congrArg not hvalid
  · exact decide_eq_false hpos
  · exact decide_eq_false (not_le.mpr hlast)
  · exact congrArg not (isAdaptiveControlResource_resourceName request.resource)
  · rw [← Bool.not_or]
    exact congrArg not hkind

/-! ## 6. The acknowledgements are accepted -/

theorem acknowledgeText_eq {request : AdaptiveControlRequest} (h : request.Valid)
    (status : AdaptiveControlReceiptStatus) :
    acknowledgeText status request.control = fields (ascii "KF2OPT_ACK")
      (decimal request.sequence) (statusName status) (resourceName request.resource)
      (decimal request.quality.toNat) := by
  have hbounds := validValue_bounds h.value
  have hack : ascii "KF2OPT_ACK " = ascii "KF2OPT_ACK" ++ [space] := by decide
  simp only [acknowledgeText, AdaptiveControlRequest.control]
  rw [toText_of_nonneg (by omega), toText_of_nonneg (by omega), hack]
  simp [fields]

/-- The receipt that acknowledges a request. -/
def AdaptiveControlRequest.receipt (request : AdaptiveControlRequest)
    (status : AdaptiveControlReceiptStatus) : AdaptiveControlReceipt :=
  ⟨request.sequence, request.resource, request.quality, status⟩

/-- The native end takes the answer, however it arrives, for a receipt of the request. -/
def Accepted (request : AdaptiveControlRequest) (status : AdaptiveControlReceiptStatus)
    (sent : Bytes) : Prop :=
  ∀ (ends : Bytes) (chunks : List Bytes), ends.all lineEnd = true → chunks.flatten = sent ++ ends →
    chunks.flatten.length ≤ 256 →
    sendAdaptiveControl request ⟨none, chunks.map .ok⟩ = .ok (request.receipt status)

theorem accepted_acknowledgeText {request : AdaptiveControlRequest} (h : request.Valid)
    (status : AdaptiveControlReceiptStatus) :
    Accepted request status (acknowledgeText status request.control) := by
  intro ends chunks hends harrived hlength
  have hbuild : ∃ command, buildAdaptiveControlCommand request = .ok command := by
    refine ⟨_, if_neg ?_⟩
    simp only [not_or, Bool.not_eq_false, not_lt]
    have hpos := h.sequence
    exact ⟨h.port, h.token, by omega, h.value, h.timeout.1, h.timeout.2⟩
  obtain ⟨command, hcommand⟩ := hbuild
  rw [sendAdaptiveControl, hcommand]
  have hmatch : matchesRequest request (request.receipt status) = true :=
    decide_eq_true ⟨rfl, rfl, rfl⟩
  have hfields : Acknowledgement (request.receipt status) (decimal request.sequence)
      (decimal request.quality.toNat) :=
    ⟨numeral_decimal _, numeral_decimal _, ⟨h.sequence, request.hsequence⟩, h.value⟩
  rw [acknowledgeText_eq h] at harrived
  exact sendAdaptiveControlCommand_eq hmatch hfields hends harrived hlength

/-- What the connection sends for the line of a request: a refusal, or an acknowledgement. -/
theorem sent_line (int : UnrealInt) {request : AdaptiveControlRequest} (h : request.Valid)
    (hsequence : request.sequence < 2 ^ 31) (connection : Connection) {sent : Bytes}
    (hsent : (receivedLine int connection request.line).sent = some sent) :
    (∃ sequence, sent = failedText sequence "rejected") ∨
      ∃ status, status ≠ .unsupported ∧ sent = acknowledgeText status request.control := by
  have hform : ¬(ascii "KF2OPT" ≠ ascii "KF2OPT" ∨ ([] : Bytes) ≠ []) := by simp
  simp only [receivedLine, readLine_line int h hsequence, if_neg hform] at hsent
  split at hsent
  · cases hsent
  split at hsent
  · exact .inl ⟨_, (Option.some.inj hsent).symm⟩
  split at hsent
  · exact .inl ⟨_, (Option.some.inj hsent).symm⟩
  · obtain rfl := Option.some.inj hsent
    unfold answerText
    split
    · exact .inl ⟨_, rfl⟩
    · split_ifs
      · exact .inr ⟨.applied, by decide, rfl⟩
      · exact .inr ⟨.restored, by decide, rfl⟩
      · exact .inr ⟨.stateUnknown, by decide, rfl⟩
      · exact .inl ⟨_, rfl⟩

/-! ## 7. The ends agree -/

/-- **The two ends of the wire agree** below 2^31.  The command is a line from which the
connection takes the fields of the request, the probe's check accepts them, and each answer is a
refusal or is accepted for a receipt of the request.  And a text that is accepted at all is an
acknowledgement: its five fields, at most one space, and line ends. -/
theorem wire_agrees (int : UnrealInt) {request : AdaptiveControlRequest} {command : Bytes}
    (hcommand : buildAdaptiveControlCommand request = .ok command)
    (hsequence : request.sequence < 2 ^ 31) :
    (command = request.line ++ [lf] ∧ request.line.length ≤ 128 ∧
      readLine int request.line =
        ⟨ascii "KF2OPT", decimal request.sequence, request.control, []⟩ ∧
      (∀ gate : ControlGate, gate.adaptiveControlToken = request.token →
        gate.adaptiveLastControlSequence < request.sequence →
        gate.accepts request.control = true) ∧
      ∀ (connection : Connection) (sent : Bytes),
        (receivedLine int connection request.line).sent = some sent →
        (∃ sequence, sent = failedText sequence "rejected") ∨
          ∃ status, status ≠ .unsupported ∧ sent = acknowledgeText status request.control ∧
            Accepted request status sent) ∧
    ∀ (response : Bytes) (receipt : AdaptiveControlReceipt),
      parseAdaptiveControlReceipt response = some receipt →
      ∃ sequenceText qualityText pad ends,
        Acknowledgement receipt sequenceText qualityText ∧ (pad = [] ∨ pad = [space]) ∧
        ends.all lineEnd = true ∧
        response = fields (ascii "KF2OPT_ACK") sequenceText (statusName receipt.status)
          (resourceName receipt.resource) qualityText ++ pad ++ ends := by
  obtain ⟨hvalid, hline⟩ := command_eq hcommand
  refine ⟨⟨hline, length_line_le hvalid, readLine_line int hvalid hsequence, ?_, ?_⟩, ?_⟩
  · intro gate htoken hlast
    exact accepts_control hvalid htoken hlast
  · intro connection sent hsent
    rcases sent_line int hvalid hsequence connection hsent with h | ⟨status, hstatus, rfl⟩
    · exact .inl h
    · exact .inr ⟨status, hstatus, rfl, accepted_acknowledgeText hvalid status⟩
  · intro response receipt h
    exact parse_accepted h

/-! ## 8. Where they do not -/

/-- `atoi` of a library that stops at the largest number. -/
def saturating (text : Bytes) : ℤ := (min (fromDigits (text.takeWhile isDigit)) (2 ^ 31 - 1) : ℕ)

def saturatingInt : UnrealInt where
  toInt := saturating
  range text := by
    unfold saturating
    omega
  toInt_decimal n hn := by
    have hdigits : (decimal n).takeWhile isDigit = decimal n :=
      List.takeWhile_eq_self_iff.mpr fun _ h => isDigit_of_mem_decimal h
    rw [saturating, hdigits, fromDigits_decimal]
    omega

/-- A command with the given sequence. -/
def cpuRequest (sequence : ℕ) (hsequence : sequence < 2 ^ 64 := by decide) :
    AdaptiveControlRequest := halved .cpu sequence hsequence

def cpuCommand : Bytes := ascii "KF2OPT 0123456789abcdef0123456789abcdef 7 cpu 50\n"

theorem wire_agrees_seven :
    buildAdaptiveControlCommand (cpuRequest 7) = .ok cpuCommand ∧
      readLine saturatingInt (cpuRequest 7).line =
        ⟨ascii "KF2OPT", decimal 7, (cpuRequest 7).control, []⟩ := by
  have hcommand : buildAdaptiveControlCommand (cpuRequest 7) = .ok cpuCommand := by
    decide +kernel
  exact ⟨hcommand, (wire_agrees saturatingInt hcommand (by decide)).1.2.2.1⟩

/-- The sequence 2^31 is one that the native end sends and the connection cannot read; and the
native end accepts the refusal of a capability and numbers with leading zeros. -/
theorem wire_disagrees :
    (buildAdaptiveControlCommand (cpuRequest (2 ^ 31))).isOk = true ∧
      (readLine saturatingInt (cpuRequest (2 ^ 31)).line).control.sequence = 2 ^ 31 - 1 ∧
      parseAdaptiveControlReceipt (ascii "KF2OPT_ACK 7 unsupported overdraw 50\r\n") =
        some ⟨7, .overdraw, 50, .unsupported⟩ ∧
      parseAdaptiveControlReceipt (ascii "KF2OPT_ACK 007 applied cpu 050\n") =
        some ⟨7, .cpu, 50, .applied⟩ := by
  decide +kernel

end Kf2Optimizer.Game
