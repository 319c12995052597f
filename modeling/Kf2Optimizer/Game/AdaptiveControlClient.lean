/-
# The native end of the Adaptive control wire

`adaptive_control_client.cpp`: the command that goes to the running game and the
acknowledgement that comes back, each one line of five fields.

* `command_eq`: an accepted request is written as its five fields;
* `parse_acknowledgement`: an acknowledgement of those fields is read back;
* `parse_accepted`: whatever is accepted has the fields of one, `Acknowledgement`;
* `receiveResponse_eq`: an answer is read whole however the receives cut it.
-/
import Kf2Optimizer.Core.Result
import Kf2Optimizer.Lib.Text
import Kf2Optimizer.Optimizer.Quality

namespace Kf2Optimizer.Game

open Text Optimizer

/-! ## 1. Fields and numbers -/

def space : UInt8 := 0x20

/-- `take_token`. -/
def takeToken (line : Bytes) : Bytes × Bytes :=
  match cut space line with
  | some p => p
  | none => (line, [])

/-- `std::from_chars` of an unsigned number, which has to be the whole text. -/
def fromChars (bound : ℕ) (text : Bytes) : Option ℕ :=
  if text ≠ [] ∧ text.all isDigit = true ∧ fromDigits text < bound then some (fromDigits text)
  else none

/-- `parse_integer<std::uint64_t>`. -/
def parseUInt64 (text : Bytes) : Option ℕ := fromChars (2 ^ 64) text

/-- `parse_integer<int>`: a minus sign may stand in front. -/
def parseInt (text : Bytes) : Option ℤ :=
  if text.head? = some 0x2D then
    (fromChars (2 ^ 31 + 1) text.tail).map fun n => -Int.ofNat n
  else (fromChars (2 ^ 31) text).map Int.ofNat

/-- A text of digits that stands for the number, perhaps with zeros in front. -/
def Numeral (n : ℕ) (text : Bytes) : Prop :=
  text ≠ [] ∧ text.all isDigit = true ∧ fromDigits text = n

theorem takeToken_append {t : Bytes} (ht : space ∉ t) (rest : Bytes) :
    takeToken (t ++ space :: rest) = (t, rest) := by
  rw [takeToken, cut_append ht]

theorem takeToken_of_not_mem {t : Bytes} (ht : space ∉ t) : takeToken t = (t, []) := by
  unfold takeToken
  cases hcut : cut space t with
  | none => rfl
  | some p =>
    refine absurd ?_ ht
    rw [(cut_eq_some (p := p.1) (q := p.2) hcut).1]
    simp

/-- What one token leaves: a separator was there, or the line is used up. -/
theorem takeToken_eq {line t rest : Bytes} (h : takeToken line = (t, rest)) :
    space ∉ t ∧ (line = t ++ space :: rest ∨ line = t ∧ rest = []) := by
  unfold takeToken at h
  cases hcut : cut space line with
  | none =>
    simp only [hcut, Prod.mk.injEq] at h
    obtain ⟨rfl, rfl⟩ := h
    exact ⟨cut_eq_none hcut, .inr ⟨rfl, rfl⟩⟩
  | some p =>
    simp only [hcut] at h
    subst h
    obtain ⟨hline, hmem⟩ := cut_eq_some hcut
    exact ⟨hmem, .inl hline⟩

theorem numeral_decimal (n : ℕ) : Numeral n (decimal n) :=
  ⟨decimal_ne_nil n, List.all_eq_true.mpr fun _ h => isDigit_of_mem_decimal h,
    fromDigits_decimal n⟩

theorem fromChars_eq_some {bound n : ℕ} {text : Bytes} :
    fromChars bound text = some n ↔ Numeral n text ∧ n < bound := by
  unfold fromChars Numeral
  constructor
  · intro h
    split at h
    · rename_i hc
      obtain rfl := Option.some.inj h
      exact ⟨⟨hc.1, hc.2.1, rfl⟩, hc.2.2⟩
    · cases h
  · rintro ⟨⟨hne, hall, rfl⟩, hlt⟩
    rw [if_pos ⟨hne, hall, hlt⟩]

theorem Numeral.head_ne {n : ℕ} {text : Bytes} (h : Numeral n text) :
    text.head? ≠ some 0x2D := by
  obtain ⟨hne, hall, -⟩ := h
  cases text with
  | nil => exact absurd rfl hne
  | cons x rest =>
    intro hx
    rw [List.head?_cons, Option.some.injEq] at hx
    subst hx
    simp [isDigit] at hall

theorem Numeral.not_mem {n : ℕ} {text : Bytes} (h : Numeral n text) {x : UInt8}
    (hx : isDigit x = false) : x ∉ text := by
  intro hmem
  rw [List.all_eq_true.mp h.2.1 x hmem] at hx
  cases hx

/-- A positive `int` is read from its digits alone. -/
theorem parseInt_eq_some {n : ℕ} (hn : 0 < n) {text : Bytes} :
    parseInt text = some (n : ℤ) ↔ Numeral n text ∧ n < 2 ^ 31 := by
  unfold parseInt
  constructor
  · intro h
    split at h
    · obtain ⟨m, -, hm⟩ := Option.map_eq_some_iff.mp h
      simp only [Int.ofNat_eq_natCast] at hm
      omega
    · obtain ⟨m, hm, hmn⟩ := Option.map_eq_some_iff.mp h
      rw [← fromChars_eq_some, hm, Int.ofNat.inj hmn]
  · intro h
    rw [if_neg h.1.head_ne, fromChars_eq_some.mpr h]
    rfl

/-! ## 2. The command -/

/-- `kAdaptiveResourceNames`, and `adaptive_resource_control_name` on the wire. -/
def resourceName (resource : AdaptiveResourceControl) : Bytes :=
  ascii (adaptiveResourceControlName resource)

/-- The order of `kAdaptiveResourceNames`. -/
def AdaptiveResourceControl.all : List AdaptiveResourceControl :=
  [.cpu, .gpu, .vram, .ram, .overdraw, .effects, .mixed, .recover, .enable, .disable]

/-- `parse_resource`. -/
def parseResource (value : Bytes) : Option AdaptiveResourceControl :=
  AdaptiveResourceControl.all.find? fun resource => value = resourceName resource

/-- `AdaptiveControlRequest`. -/
structure AdaptiveControlRequest where
  port : ℕ := 0
  token : Bytes := []
  sequence : ℕ := 0
  resource : AdaptiveResourceControl := .mixed
  quality : ℤ := 100
  timeoutMs : ℕ := 2000
  hport : port < 2 ^ 16 := by decide
  hsequence : sequence < 2 ^ 64 := by decide
deriving DecidableEq

/-- A request to lower one resource to half its quality. -/
def halved (resource : AdaptiveResourceControl) (sequence : ℕ) (hsequence : sequence < 2 ^ 64) :
    AdaptiveControlRequest where
  port := 40000
  token := ascii "0123456789abcdef0123456789abcdef"
  sequence := sequence
  resource := resource
  quality := 50
  hsequence := hsequence

/-- `valid_adaptive_control_token`. -/
def validAdaptiveControlToken (token : Bytes) : Bool :=
  decide (token.length = 32) && token.all isHex

/-- The values a control takes: the corpse ceiling of `enable`, a percentage otherwise. -/
def validValue (resource : AdaptiveResourceControl) (quality : ℤ) : Bool :=
  if resource = .enable then decide (4 ≤ quality ∧ quality ≤ 2000)
  else decide (10 ≤ quality ∧ quality ≤ 100)

/-- `std::to_string` of an `int`. -/
def toText (n : ℤ) : Bytes := if n < 0 then 0x2D :: decimal n.natAbs else decimal n.natAbs

/-- The five fields of a line. -/
def fields (a b c d e : Bytes) : Bytes :=
  a ++ space :: (b ++ space :: (c ++ space :: (d ++ space :: e)))

/-- `build_adaptive_control_command`. -/
def buildAdaptiveControlCommand (request : AdaptiveControlRequest) : Result Bytes :=
  if request.port = 0 ∨ validAdaptiveControlToken request.token = false ∨
      request.sequence = 0 ∨ validValue request.resource request.quality = false ∨
      request.timeoutMs < 25 ∨ 2000 < request.timeoutMs then
    .error ⟨.invalidArgument, "Adaptive runtime-control request is invalid", 0⟩
  else
    .ok (ascii "KF2OPT " ++ request.token ++ [space] ++ decimal request.sequence ++ [space] ++
      resourceName request.resource ++ [space] ++ toText request.quality ++ [lf])

/-- The request passes the checks of `build_adaptive_control_command`. -/
structure AdaptiveControlRequest.Valid (request : AdaptiveControlRequest) : Prop where
  port : request.port ≠ 0
  token : validAdaptiveControlToken request.token = true
  sequence : 0 < request.sequence
  value : validValue request.resource request.quality = true
  timeout : 25 ≤ request.timeoutMs ∧ request.timeoutMs ≤ 2000

theorem validValue_bounds {resource : AdaptiveResourceControl} {quality : ℤ}
    (h : validValue resource quality = true) : 4 ≤ quality ∧ quality ≤ 2000 := by
  unfold validValue at h
  split at h
  · exact of_decide_eq_true h
  · have hq := of_decide_eq_true h
    omega

theorem toText_of_nonneg {n : ℤ} (h : 0 ≤ n) : toText n = decimal n.toNat := by
  have habs : n.natAbs = n.toNat := by omega
  rw [toText, if_neg (by omega), habs]

/-- **The command of an accepted request** is its five fields on a line. -/
theorem command_eq {request : AdaptiveControlRequest} {command : Bytes}
    (h : buildAdaptiveControlCommand request = .ok command) :
    request.Valid ∧ command = fields (ascii "KF2OPT") request.token (decimal request.sequence)
      (resourceName request.resource) (decimal request.quality.toNat) ++ [lf] := by
  unfold buildAdaptiveControlCommand at h
  split at h
  · cases h
  · rename_i hc
    simp only [not_or, Bool.not_eq_false, not_lt] at hc
    obtain ⟨hport, htoken, hsequence, hvalue, hlow, hhigh⟩ := hc
    refine ⟨⟨hport, htoken, Nat.pos_of_ne_zero hsequence, hvalue, hlow, hhigh⟩, ?_⟩
    obtain rfl := Except.ok.inj h
    have hq := (validValue_bounds hvalue).1
    have hascii : ascii "KF2OPT " = ascii "KF2OPT" ++ [space] := by decide
    rw [toText_of_nonneg (by omega), hascii]
    simp [fields]

/-! ## 3. The acknowledgement -/

def lineEnd (b : UInt8) : Bool := b = cr || b = lf

/-- The response without the line ends behind it. -/
def stripLineEnds (response : Bytes) : Bytes := response.rdropWhile lineEnd

/-- The status an acknowledgement names. -/
def parseStatus (status : Bytes) : Option AdaptiveControlReceiptStatus :=
  if status = ascii "applied" then some .applied
  else if status = ascii "restored" then some .restored
  else if status = ascii "unknown" then some .stateUnknown
  else if status = ascii "unsupported" then some .unsupported
  else none

/-- `parse_adaptive_control_receipt`. -/
def parseAdaptiveControlReceipt (response : Bytes) : Option AdaptiveControlReceipt :=
  let response := stripLineEnds response
  let (ack, response) := takeToken response
  let (sequenceText, response) := takeToken response
  let (status, response) := takeToken response
  let (resourceText, response) := takeToken response
  let (qualityText, response) := takeToken response
  if ack ≠ ascii "KF2OPT_ACK" ∨ response ≠ [] then none
  else do
    let status ← parseStatus status
    let resource ← parseResource resourceText
    let sequence ← parseUInt64 sequenceText
    let quality ← parseInt qualityText
    if sequence ≠ 0 ∧ validValue resource quality = true then
      some ⟨sequence, resource, quality, status⟩
    else none

/-- The word for a status. -/
def statusName : AdaptiveControlReceiptStatus → Bytes
  | .applied => ascii "applied"
  | .restored => ascii "restored"
  | .stateUnknown => ascii "unknown"
  | .unsupported => ascii "unsupported"

/-- What the fields of an accepted acknowledgement hold. -/
structure Acknowledgement (receipt : AdaptiveControlReceipt) (sequenceText qualityText : Bytes) :
    Prop where
  sequence : Numeral receipt.sequence sequenceText
  quality : Numeral receipt.quality.toNat qualityText
  positive : 0 < receipt.sequence ∧ receipt.sequence < 2 ^ 64
  value : validValue receipt.resource receipt.quality = true

theorem parseStatus_statusName (status : AdaptiveControlReceiptStatus) :
    parseStatus (statusName status) = some status := by
  cases status <;> decide

theorem parseStatus_eq_some {text : Bytes} {status : AdaptiveControlReceiptStatus}
    (h : parseStatus text = some status) : text = statusName status := by
  unfold parseStatus at h
  split_ifs at h with h1 h2 h3 h4 <;>
  · obtain rfl := Option.some.inj h
    assumption

theorem parseResource_resourceName (resource : AdaptiveResourceControl) :
    parseResource (resourceName resource) = some resource := by
  cases resource <;> decide

theorem parseResource_eq_some {text : Bytes} {resource : AdaptiveResourceControl}
    (h : parseResource text = some resource) : text = resourceName resource := by
  have hfound := List.find?_some h
  exact of_decide_eq_true hfound

theorem not_space_statusName (status : AdaptiveControlReceiptStatus) :
    space ∉ statusName status := by
  cases status <;> decide

theorem not_space_resourceName (resource : AdaptiveResourceControl) :
    space ∉ resourceName resource := by
  cases resource <;> decide

theorem stripLineEnds_append {text ends : Bytes} (hends : ends.all lineEnd = true)
    (htext : ∀ b ∈ text, lineEnd b = false) : stripLineEnds (text ++ ends) = text := by
  unfold stripLineEnds
  induction ends using List.reverseRecOn with
  | nil =>
    rw [List.append_nil, List.rdropWhile_eq_self_iff]
    intro hne
    rw [htext _ (List.getLast_mem hne)]
    exact Bool.false_ne_true
  | append_singleton ends b ih =>
    rw [List.all_append, Bool.and_eq_true] at hends
    have hb : lineEnd b = true := by simpa using hends.2
    rw [← List.append_assoc, List.rdropWhile_concat_pos _ _ _ hb]
    exact ih hends.1

/-- The response is its stripped text and line ends. -/
theorem stripLineEnds_eq (response : Bytes) :
    ∃ ends, ends.all lineEnd = true ∧ response = stripLineEnds response ++ ends := by
  refine ⟨response.rtakeWhile lineEnd, ?_, (List.rdropWhile_append_rtakeWhile ..).symm⟩
  exact List.all_eq_true.mpr fun _ hb => List.mem_rtakeWhile_imp hb

/-- Can stand in a line of fields. -/
def Field (t : Bytes) : Prop := space ∉ t ∧ ∀ b ∈ t, lineEnd b = false

theorem Numeral.field {n : ℕ} {text : Bytes} (h : Numeral n text) : Field text := by
  constructor
  · exact h.not_mem (by decide)
  · intro b hb
    by_contra hend
    rw [Bool.not_eq_false, lineEnd, Bool.or_eq_true, decide_eq_true_eq, decide_eq_true_eq] at hend
    rcases hend with rfl | rfl
    · exact h.not_mem (by decide) hb
    · exact h.not_mem (by decide) hb

theorem field_statusName (status : AdaptiveControlReceiptStatus) : Field (statusName status) := by
  cases status <;> exact ⟨by decide, by decide +kernel⟩

theorem field_resourceName (resource : AdaptiveResourceControl) :
    Field (resourceName resource) := by
  cases resource <;> exact ⟨by decide, by decide +kernel⟩

theorem not_lineEnd_fields {a b c d e : Bytes} (ha : Field a) (hb : Field b) (hc : Field c)
    (hd : Field d) (he : Field e) : ∀ x ∈ fields a b c d e, lineEnd x = false := by
  intro x hx
  simp only [fields, List.mem_append, List.mem_cons] at hx
  have hspace : lineEnd space = false := by decide
  rcases hx with h | rfl | h | rfl | h | rfl | h | rfl | h
  · exact ha.2 x h
  · exact hspace
  · exact hb.2 x h
  · exact hspace
  · exact hc.2 x h
  · exact hspace
  · exact hd.2 x h
  · exact hspace
  · exact he.2 x h

/-- **An acknowledgement is read back**, with any line ends behind it. -/
theorem parse_acknowledgement {receipt : AdaptiveControlReceipt} {sequenceText qualityText : Bytes}
    (h : Acknowledgement receipt sequenceText qualityText) {ends : Bytes}
    (hends : ends.all lineEnd = true) :
    parseAdaptiveControlReceipt (fields (ascii "KF2OPT_ACK") sequenceText
      (statusName receipt.status) (resourceName receipt.resource) qualityText ++ ends) =
        some receipt := by
  have hack : Field (ascii "KF2OPT_ACK") := ⟨by decide, by decide +kernel⟩
  have hstatus := field_statusName receipt.status
  have hresource := field_resourceName receipt.resource
  have hbounds := validValue_bounds h.value
  have hquality : parseInt qualityText = some receipt.quality := by
    have hpos : 0 < receipt.quality.toNat := by omega
    have hq := (parseInt_eq_some hpos).mpr ⟨h.quality, by omega⟩
    rwa [Int.toNat_of_nonneg (by omega)] at hq
  have hsequence : parseUInt64 sequenceText = some receipt.sequence :=
    fromChars_eq_some.mpr ⟨h.sequence, h.positive.2⟩
  have hne : receipt.sequence ≠ 0 := by have := h.positive.1; omega
  unfold parseAdaptiveControlReceipt
  rw [stripLineEnds_append hends
    (not_lineEnd_fields hack h.sequence.field hstatus hresource h.quality.field)]
  simp only [fields, takeToken_append hack.1, takeToken_append h.sequence.field.1,
    takeToken_append hstatus.1, takeToken_append hresource.1,
    takeToken_of_not_mem h.quality.field.1, parseStatus_statusName, parseResource_resourceName,
    hquality, hsequence]
  simp [hne, h.value]

/-- A token that is not the last one had its separator. -/
theorem takeToken_more {line t rest : Bytes} (h : takeToken line = (t, rest)) (hne : rest ≠ []) :
    line = t ++ space :: rest := by
  rcases (takeToken_eq h).2 with hline | ⟨-, hnil⟩
  · exact hline
  · exact absurd hnil hne

/-- The last token may leave one separator behind it. -/
theorem takeToken_last {line t : Bytes} (h : takeToken line = (t, [])) :
    ∃ pad, (pad = [] ∨ pad = [space]) ∧ line = t ++ pad := by
  rcases (takeToken_eq h).2 with hline | ⟨hline, -⟩
  · exact ⟨[space], .inr rfl, hline⟩
  · exact ⟨[], .inl rfl, by rw [hline, List.append_nil]⟩

@[simp] theorem takeToken_nil : takeToken [] = ([], []) := rfl

/-- A line of which the fifth token is not empty has four separators. -/
theorem five_tokens {line a b c d e r₁ r₂ r₃ r₄ : Bytes} (h₁ : takeToken line = (a, r₁))
    (h₂ : takeToken r₁ = (b, r₂)) (h₃ : takeToken r₂ = (c, r₃)) (h₄ : takeToken r₃ = (d, r₄))
    (h₅ : takeToken r₄ = (e, [])) (he : e ≠ []) :
    ∃ pad, (pad = [] ∨ pad = [space]) ∧ line = fields a b c d e ++ pad := by
  have hr₄ : r₄ ≠ [] := by
    rintro rfl
    rw [takeToken_nil] at h₅
    exact he (Prod.mk.inj h₅).1.symm
  -- an empty rest gives empty tokens all the way
  have hback : ∀ {l t r : Bytes}, takeToken l = (t, r) → r ≠ [] → l ≠ [] := by
    rintro l t r hl hr rfl
    rw [takeToken_nil] at hl
    exact hr (Prod.mk.inj hl).2.symm
  have hr₃ := hback h₄ hr₄
  have hr₂ := hback h₃ hr₃
  have hr₁ := hback h₂ hr₂
  obtain ⟨pad, hpad, rfl⟩ := takeToken_last h₅
  refine ⟨pad, hpad, ?_⟩
  rw [takeToken_more h₁ hr₁, takeToken_more h₂ hr₂, takeToken_more h₃ hr₃, takeToken_more h₄ hr₄]
  simp [fields]

/-- **What is accepted is an acknowledgement**: five fields, at most one space behind them, and
line ends. -/
theorem parse_accepted {response : Bytes} {receipt : AdaptiveControlReceipt}
    (h : parseAdaptiveControlReceipt response = some receipt) :
    ∃ sequenceText qualityText pad ends,
      Acknowledgement receipt sequenceText qualityText ∧ (pad = [] ∨ pad = [space]) ∧
      ends.all lineEnd = true ∧
      response = fields (ascii "KF2OPT_ACK") sequenceText (statusName receipt.status)
        (resourceName receipt.resource) qualityText ++ pad ++ ends := by
  obtain ⟨ends, hends, hresponse⟩ := stripLineEnds_eq response
  unfold parseAdaptiveControlReceipt at h
  rcases h₁ : takeToken (stripLineEnds response) with ⟨a, r₁⟩
  rcases h₂ : takeToken r₁ with ⟨b, r₂⟩
  rcases h₃ : takeToken r₂ with ⟨c, r₃⟩
  rcases h₄ : takeToken r₃ with ⟨d, r₄⟩
  rcases h₅ : takeToken r₄ with ⟨e, r₅⟩
  simp only [h₁, h₂, h₃, h₄, h₅] at h
  split at h
  · cases h
  · rename_i hc
    obtain ⟨rfl, rfl⟩ : a = ascii "KF2OPT_ACK" ∧ r₅ = [] := by
      simpa only [not_or, not_not] using hc
    simp only [Option.bind_eq_bind, Option.bind_eq_some_iff] at h
    obtain ⟨status, hstatus, resource, hresource, sequence, hsequence, quality, hquality, h⟩ := h
    split at h
    · rename_i hvalid
      obtain rfl := Option.some.inj h
      obtain rfl := parseStatus_eq_some hstatus
      obtain rfl := parseResource_eq_some hresource
      have hbounds := validValue_bounds hvalid.2
      have hseq := fromChars_eq_some.mp hsequence
      have hnat : ((quality.toNat : ℕ) : ℤ) = quality := Int.toNat_of_nonneg (by omega)
      rw [← hnat] at hquality
      have hq := (parseInt_eq_some (by omega)).mp hquality
      obtain ⟨pad, hpad, hline⟩ := five_tokens h₁ h₂ h₃ h₄ h₅ hq.1.1
      refine ⟨b, e, pad, ends, ⟨hseq.1, hq.1, ⟨Nat.pos_of_ne_zero hvalid.1, hseq.2⟩, hvalid.2⟩,
        hpad, hends, ?_⟩
      rw [hresponse, hline]
    · cases h

/-! ## 4. The exchange -/

/-- `send_adaptive_control_command` after the command is sent: what `recv` returns, up to the
end of the stream, is collected until there is a line feed. -/
def receiveResponse (response : Bytes) : List (Except ℕ Bytes) → Result Bytes
  | [] => .ok response
  | .error code :: _ =>
    .error ⟨.ioFailure, "Adaptive runtime acknowledgement was not received", code⟩
  | .ok chunk :: rest =>
    if 256 < (response ++ chunk).length then
      .error ⟨.ioFailure, "Adaptive runtime acknowledgement exceeded its limit", 0⟩
    else if lf ∈ response ++ chunk then .ok (response ++ chunk)
    else receiveResponse (response ++ chunk) rest

/-- What the socket does during an exchange: it fails before the answer, or it hands over the
answer piece by piece. -/
structure Exchange where
  failure : Option Error := none
  received : List (Except ℕ Bytes) := []

/-- The receipt answers the request. -/
def matchesRequest (request : AdaptiveControlRequest) (receipt : AdaptiveControlReceipt) : Bool :=
  decide (receipt.sequence = request.sequence ∧ receipt.resource = request.resource ∧
    receipt.quality = request.quality)

/-- The response is accepted when it is an acknowledgement of the request. -/
def readReceipt (request : AdaptiveControlRequest) (response : Bytes) :
    Result AdaptiveControlReceipt :=
  match parseAdaptiveControlReceipt response with
  | some receipt =>
    if matchesRequest request receipt then .ok receipt
    else .error ⟨.ioFailure, "Adaptive runtime acknowledgement did not match the request", 0⟩
  | none => .error ⟨.ioFailure, "Adaptive runtime acknowledgement did not match the request", 0⟩

/-- `send_adaptive_control_command`. -/
def sendAdaptiveControlCommand (request : AdaptiveControlRequest) (exchange : Exchange) :
    Result AdaptiveControlReceipt :=
  match exchange.failure with
  | some failure => .error failure
  | none => (receiveResponse [] exchange.received).bind (readReceipt request)

/-- `send_adaptive_control`. -/
def sendAdaptiveControl (request : AdaptiveControlRequest) (exchange : Exchange) :
    Result AdaptiveControlReceipt :=
  (buildAdaptiveControlCommand request).bind fun _ => sendAdaptiveControlCommand request exchange

/-- **An answer that fits is read up to its line end**, however the receives cut it. -/
theorem receiveResponse_eq {text ends : Bytes} (htext : ∀ b ∈ text, lineEnd b = false)
    (hlength : (text ++ ends).length ≤ 256) :
    ∀ (chunks : List Bytes) (response : Bytes), response ++ chunks.flatten = text ++ ends →
      lf ∉ response →
      ∃ part, part <+: ends ∧
        receiveResponse response (chunks.map .ok) = .ok (text ++ part) := by
  intro chunks
  induction chunks with
  | nil =>
    intro response heq _
    refine ⟨ends, List.prefix_rfl, ?_⟩
    rw [List.flatten_nil, List.append_nil] at heq
    rw [List.map_nil, receiveResponse, heq]
  | cons chunk rest ih =>
    intro response heq hlf
    rw [List.flatten_cons, ← List.append_assoc] at heq
    have hprefix : response ++ chunk <+: text ++ ends := ⟨rest.flatten, heq⟩
    rw [List.map_cons, receiveResponse, if_neg (by have := hprefix.length_le; omega)]
    by_cases hfeed : lf ∈ response ++ chunk
    · rw [if_pos hfeed]
      -- the line feed is not in the text, so the text is whole
      have hwhole := List.prefix_append text ends
      rcases List.prefix_or_prefix_of_prefix hprefix hwhole with h | ⟨part, hpart⟩
      · have hfalse := htext lf (h.subset hfeed)
        cases hfalse
      · refine ⟨part, ?_, by rw [hpart]⟩
        rwa [← hpart, List.prefix_append_right_inj] at hprefix
    · rw [if_neg hfeed]
      exact ih _ heq hfeed

/-- **An acknowledgement of the request answers it.** -/
theorem sendAdaptiveControlCommand_eq {request : AdaptiveControlRequest}
    {receipt : AdaptiveControlReceipt} (hmatch : matchesRequest request receipt = true)
    {sequenceText qualityText : Bytes} (h : Acknowledgement receipt sequenceText qualityText)
    {ends : Bytes} (hends : ends.all lineEnd = true) {chunks : List Bytes}
    (harrived : chunks.flatten = fields (ascii "KF2OPT_ACK") sequenceText
      (statusName receipt.status) (resourceName receipt.resource) qualityText ++ ends)
    (hlength : chunks.flatten.length ≤ 256) :
    sendAdaptiveControlCommand request ⟨none, chunks.map .ok⟩ = .ok receipt := by
  have hack : Field (ascii "KF2OPT_ACK") := ⟨by decide, by decide +kernel⟩
  have htext := not_lineEnd_fields hack h.sequence.field (field_statusName receipt.status)
    (field_resourceName receipt.resource) h.quality.field
  rw [harrived] at hlength
  obtain ⟨part, hpart, hreceived⟩ :=
    receiveResponse_eq htext hlength chunks [] harrived List.not_mem_nil
  have hall : part.all lineEnd = true := by
    obtain ⟨rest, rfl⟩ := hpart
    rw [List.all_append, Bool.and_eq_true] at hends
    exact hends.1
  simp only [sendAdaptiveControlCommand, hreceived, Except.bind, readReceipt,
    parse_acknowledgement h hall, hmatch, if_true]

end Kf2Optimizer.Game
