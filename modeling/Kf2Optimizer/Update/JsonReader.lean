/-
# The JSON reader

The class `JsonReader` of `github_release_client.cpp`.  A reader is the text that is left,
`text_.substr(offset_)`; what reads from it answers with its value and the text behind, or with an
error.  A loop takes its length as fuel, since every round takes a byte.

The loops over members and over elements are the same in all of the functions that have one, apart
from their errors, so that they are written once (`membersLoop`, `elementsLoop`).
-/
import Kf2Optimizer.Lib.Json

namespace Kf2Optimizer.Update

open Text

/-- What reads from the front of a text. -/
abbrev Reader (ε α : Type) := Bytes → Except ε (α × Bytes)

/-- `JsonReader::whitespace`. -/
def whitespace : Bytes → Bytes
  | b :: rest =>
    if b = 0x20 ∨ b = 0x09 ∨ b = 0x0D ∨ b = 0x0A then whitespace rest else b :: rest
  | [] => []

/-- `JsonReader::consume`; the text is only needed when the byte was there. -/
def consume (expected : UInt8) (text : Bytes) : Option Bytes :=
  match whitespace text with
  | b :: rest => if b = expected then some rest else none
  | [] => none

/-- `JsonReader::at_end`. -/
def atEnd (text : Bytes) : Bool := decide (whitespace text = [])

/-! ## 1. Strings -/

/-- `JsonReader::hex_quad`. -/
def hexQuad : Bytes → Option (ℕ × Bytes)
  | a :: b :: c :: d :: rest => do
    let a ← Json.hexValue a
    let b ← Json.hexValue b
    let c ← Json.hexValue c
    let d ← Json.hexValue d
    some (((a * 16 + b) * 16 + c) * 16 + d, rest)
  | _ => none

/-- `JsonReader::unicode_escape`. -/
def unicodeEscape (text : Bytes) : Option (ℕ × Bytes) := do
  let (scalar, rest) ← hexQuad text
  if 0xD800 ≤ scalar ∧ scalar ≤ 0xDBFF then
    match rest with
    | 0x5C :: 0x75 :: rest => do
      let (second, rest) ← hexQuad rest
      if second < 0xDC00 ∨ 0xDFFF < second then none
      else some (0x10000 + (scalar - 0xD800) * 2 ^ 10 + (second - 0xDC00), rest)
    | _ => none
  else if 0xDC00 ≤ scalar ∧ scalar ≤ 0xDFFF then none
  else some (scalar, rest)

/-- `JsonReader::append_utf8`. -/
def appendUtf8 (scalar : ℕ) : Bytes :=
  if scalar ≤ 0x7F then [UInt8.ofNat scalar]
  else if scalar ≤ 0x7FF then
    [UInt8.ofNat (0xC0 ||| (scalar >>> 6)), UInt8.ofNat (0x80 ||| (scalar &&& 0x3F))]
  else if scalar ≤ 0xFFFF then
    [UInt8.ofNat (0xE0 ||| (scalar >>> 12)), UInt8.ofNat (0x80 ||| ((scalar >>> 6) &&& 0x3F)),
      UInt8.ofNat (0x80 ||| (scalar &&& 0x3F))]
  else
    [UInt8.ofNat (0xF0 ||| (scalar >>> 18)), UInt8.ofNat (0x80 ||| ((scalar >>> 12) &&& 0x3F)),
      UInt8.ofNat (0x80 ||| ((scalar >>> 6) &&& 0x3F)), UInt8.ofNat (0x80 ||| (scalar &&& 0x3F))]

/-- The `switch` for a letter behind a backslash, without `u`. -/
def shortEscape (escaped : UInt8) : Option UInt8 :=
  if escaped = 0x22 then some 0x22
  else if escaped = 0x5C then some 0x5C
  else if escaped = 0x2F then some 0x2F
  else if escaped = 0x62 then some 0x08
  else if escaped = 0x66 then some 0x0C
  else if escaped = 0x6E then some 0x0A
  else if escaped = 0x72 then some 0x0D
  else if escaped = 0x74 then some 0x09
  else none

/-- What a backslash adds to a value. -/
def escape : Bytes → Option (Bytes × Bytes)
  | [] => none
  | escaped :: rest =>
    if escaped = 0x75 then (unicodeEscape rest).map fun (scalar, rest) => (appendUtf8 scalar, rest)
    else (shortEscape escaped).map fun b => ([b], rest)

def malformedJson : String := "GitHub returned malformed JSON"

/-- The longest value of a string. -/
def kMaximumString : ℕ := 128 * 1024

/-- What one round of the loop takes. -/
def nextChar (ch : UInt8) (rest : Bytes) : Option (Bytes × Bytes) :=
  if ch ≠ 0x5C then some ([ch], rest) else escape rest

/-- The loop of `JsonReader::string`. -/
def stringLoop : ℕ → Bytes → Reader String Bytes
  | 0, _, _ => .error malformedJson
  | _ + 1, _, [] => .error malformedJson
  | fuel + 1, value, ch :: rest =>
    if ch = 0x22 then .ok (value, rest)
    else if ch < 0x20 then .error malformedJson
    else match nextChar ch rest with
      | none => .error malformedJson
      | some (added, rest) =>
        if kMaximumString < (value ++ added).length then .error malformedJson
        else stringLoop fuel (value ++ added) rest

/-- `JsonReader::string`. -/
def string : Reader String Bytes := fun text =>
  match whitespace text with
  | 0x22 :: rest => stringLoop rest.length [] rest
  | _ => .error malformedJson

/-! ## 2. Literals and numbers -/

/-- `JsonReader::boolean`. -/
def boolean : Reader String Bool := fun text =>
  let text := whitespace text
  match after (ascii "true") text with
  | some rest => .ok (true, rest)
  | none =>
    match after (ascii "false") text with
    | some rest => .ok (false, rest)
    | none => .error "GitHub JSON boolean is invalid"

/-- `JsonReader::null_value`. -/
def nullValue (text : Bytes) : Option Bytes := after (ascii "null") (whitespace text)

/-- The loop of `JsonReader::unsigned_number`. -/
def unsignedLoop (value : ℕ) : Reader String ℕ
  | ch :: rest =>
    if isDigit ch then
      if (2 ^ 64 - 1 - (ch.toNat - 0x30)) / 10 < value then .error "GitHub JSON number is too large"
      else unsignedLoop (value * 10 + (ch.toNat - 0x30)) rest
    else .ok (value, ch :: rest)
  | [] => .ok (value, [])

/-- `JsonReader::unsigned_number`. -/
def unsignedNumber : Reader String ℕ := fun text =>
  let text := whitespace text
  match text with
  | [] => .error "GitHub JSON number is invalid"
  | ch :: rest =>
    if !isDigit ch || (decide (ch = 0x30) && rest.head?.any isDigit) then
      .error "GitHub JSON number is invalid"
    else unsignedLoop 0 text

/-- One digit at least. -/
def someDigits : Bytes → Option Bytes
  | ch :: rest => if isDigit ch then some (rest.dropWhile isDigit) else none
  | [] => none

/-- The integer part of `JsonReader::skip_number`. -/
def skipInteger : Bytes → Option Bytes
  | ch :: rest =>
    if ch = 0x30 then (if rest.head?.any isDigit then none else some rest)
    else someDigits (ch :: rest)
  | [] => none

/-- The fraction of `JsonReader::skip_number`. -/
def skipFraction : Bytes → Option Bytes
  | 0x2E :: rest => someDigits rest
  | text => some text

/-- The exponent of `JsonReader::skip_number`. -/
def skipExponent : Bytes → Option Bytes
  | ch :: rest =>
    if ch = 0x65 ∨ ch = 0x45 then
      match rest with
      | sign :: digits => if sign = 0x2B ∨ sign = 0x2D then someDigits digits else someDigits rest
      | [] => none
    else some (ch :: rest)
  | [] => some []

/-- `JsonReader::skip_number`. -/
def skipNumber (text : Bytes) : Option Bytes := do
  let rest ← skipInteger (if text.head? = some 0x2D then text.tail else text)
  let rest ← skipFraction rest
  skipExponent rest

/-! ## 3. Objects and arrays -/

/-- The end of a round: the bracket or brace that ends the loop, or a comma and another round. -/
def closeOrComma {ε α : Type} (malformed : ε) (close : UInt8) (done more : Bytes → Except ε α)
    (text : Bytes) : Except ε α :=
  match consume close text with
  | some rest => done rest
  | none =>
    match consume 0x2C text with
    | some rest => more rest
    | none => .error malformed

/-- The loop over the members of an object, behind its brace. -/
def membersLoop {ε σ : Type} (malformed : ε) (field : σ → Bytes → Reader ε σ) :
    ℕ → σ → Reader ε σ
  | 0, _, _ => .error malformed
  | fuel + 1, state, text =>
    match string text with
    | .error _ => .error malformed
    | .ok (key, rest) =>
      match consume 0x3A rest with
      | none => .error malformed
      | some rest =>
        match field state key rest with
        | .error e => .error e
        | .ok (state, rest) =>
          closeOrComma malformed 0x7D (fun rest => .ok (state, rest))
            (membersLoop malformed field fuel state) rest

/-- An object whose members are read one after the other. -/
def readObject {ε σ : Type} (malformed : ε) (field : σ → Bytes → Reader ε σ) (state : σ) :
    Reader ε σ := fun text =>
  match consume 0x7B text with
  | none => .error malformed
  | some rest =>
    match consume 0x7D rest with
    | some rest => .ok (state, rest)
    | none => membersLoop malformed field rest.length state rest

/-- The loop over the elements of an array, behind its bracket; it may have a limit and an error for
it. -/
def elementsLoop {ε α : Type} (malformed : ε) (limit : Option (ℕ × ε)) (element : Reader ε α) :
    ℕ → List α → Reader ε (List α)
  | 0, _, _ => .error malformed
  | fuel + 1, elements, text =>
    match limit.filter fun l => decide (l.1 ≤ elements.length) with
    | some l => .error l.2
    | none =>
      match element text with
      | .error e => .error e
      | .ok (a, rest) =>
        closeOrComma malformed 0x5D (fun rest => .ok (elements ++ [a], rest))
          (elementsLoop malformed limit element fuel (elements ++ [a])) rest

/-- An array whose elements are read one after the other. -/
def readArray {ε α : Type} (malformed : ε) (limit : Option (ℕ × ε)) (element : Reader ε α) :
    Reader ε (List α) := fun text =>
  match consume 0x5B text with
  | none => .error malformed
  | some rest =>
    match consume 0x5D rest with
    | some rest => .ok ([], rest)
    | none => elementsLoop malformed limit element rest.length [] rest

/-- The end of `JsonReader::skip_value`: a literal or a number. -/
def skipScalar (text : Bytes) : Option Bytes :=
  (after (ascii "true") text).orElse fun _ =>
    (after (ascii "false") text).orElse fun _ =>
      (after (ascii "null") text).orElse fun _ => skipNumber text

/-- `JsonReader::skip_value`; `levels` is how deep a value may still be, 33 at the top. -/
def skipValue : ℕ → Reader Unit Unit
  | 0, _ => .error ()
  | levels + 1, text =>
    match (whitespace text).head? with
    | none => .error ()
    | some b =>
      if b = 0x22 then
        ((string (whitespace text)).mapError fun _ => ()).map fun result => ((), result.2)
      else if b = 0x7B then readObject () (fun _ _ => skipValue levels) () (whitespace text)
      else if b = 0x5B then
        (readArray () none (skipValue levels) (whitespace text)).map fun result => ((), result.2)
      else
        match skipScalar (whitespace text) with
        | some rest => .ok ((), rest)
        | none => .error ()

end Kf2Optimizer.Update
