/-
# The INI document

An `IniDocument` keeps the physical lines of a file as they are, and beside each line what the
parser made of it: the section it stands in, whether it is a header or an assignment, the
normalized key and where in the line the value is.  Lookups read the cached fields; edits
rewrite bytes inside a line, or put lines in, and never touch the others.

Bytes are `List UInt8` and `std::wstring` is `List UInt16`, a code unit an element; positions
are list positions.  The two conversions are exact below 2^31 elements, the largest count the
Windows calls take.  `iswspace` and `towlower` are the C library's, of which the document relies
on the two facts in `WideCtype`.
-/
import Kf2Optimizer.Core.Result
import Kf2Optimizer.Lib.Lines
import Kf2Optimizer.Lib.Text
import Kf2Optimizer.Lib.Unicode
import Mathlib.Data.List.DropRight
import Mathlib.Data.List.Infix

namespace Kf2Optimizer.Config

open Unicode Text

/-- `std::wstring`: UTF-16 code units. -/
abbrev Wide := List UInt16

/-- The classification of wide characters. -/
class WideCtype where
  iswspace : UInt16 → Bool
  towlower : UInt16 → UInt16
  iswspace_space : iswspace 0x20 = true
  iswspace_tab : iswspace 0x09 = true

/-- The "C" locale. -/
@[reducible] def cLocale : WideCtype where
  iswspace u := u == 0x20 || (decide (0x09 ≤ u) && decide (u ≤ 0x0D))
  towlower u := if 0x41 ≤ u ∧ u ≤ 0x5A then u + 0x20 else u
  iswspace_space := rfl
  iswspace_tab := rfl

/-! ## 1. Text -/

/-- Invalid UTF-8 gives the empty string. -/
def utf8ToWide (text : Bytes) : Wide :=
  match utf8Decode text with
  | some cs => utf16Encode cs
  | none => []

/-- Invalid UTF-16 gives the empty string. -/
def wideToUtf8 (text : Wide) : Bytes :=
  match utf16Decode text with
  | some cs => utf8Encode cs
  | none => []

variable [WideCtype]

def normalized (value : Wide) : Wide :=
  ((value.dropWhile WideCtype.iswspace).rdropWhile WideCtype.iswspace).map WideCtype.towlower

def isBlank (b : UInt8) : Bool := b == 0x20 || b == 0x09

def trimAscii (value : Bytes) : Bytes := (value.dropWhile isBlank).rdropWhile isBlank

def bracketOpen : UInt8 := 0x5B
def bracketClose : UInt8 := 0x5D
def equals : UInt8 := 0x3D
def semicolon : UInt8 := 0x3B
def hash : UInt8 := 0x23

def bom : Bytes := [0xEF, 0xBB, 0xBF]

def isComment (b : UInt8) : Bool := b == semicolon || b == hash

/-! ## 2. Lines -/

inductive TextEncoding
  | utf8
  | utf8Bom
  deriving DecidableEq, Repr

/-- What a file of the encoding starts with. -/
def TextEncoding.marker : TextEncoding → Bytes
  | .utf8 => []
  | .utf8Bom => bom

inductive LineEnding
  | lf
  | crlf
  deriving DecidableEq, Repr

def LineEnding.bytes : LineEnding → Bytes
  | .lf => [Lines.lf]
  | .crlf => [Lines.cr, Lines.lf]

/-- A physical line and what the parser made of it. -/
structure Line where
  bytes : Bytes
  ending : Bytes
  sectionName : Wide := []
  key : Wide := []
  valueStart : ℕ := 0
  valueEnd : ℕ := 0
  assignment : Bool := false
  sectionHeader : Bool := false
  deriving DecidableEq, Repr

namespace Line

/-- The line as it is in the file. -/
def raw (line : Line) : Lines.Line := (line.bytes, line.ending)

/-- The bytes of the value. -/
def value (line : Line) : Bytes :=
  (line.bytes.drop line.valueStart).take (line.valueEnd - line.valueStart)

/-- The value of a line replaced. -/
def withValue (line : Line) (encodedValue : Bytes) : Line :=
  { line with bytes := line.bytes.take line.valueStart ++ encodedValue ++ line.bytes.drop line.valueEnd, valueEnd := line.valueStart + encodedValue.length }

/-- The assignment of a key in a section, both normalized. -/
def assigns (wantedSection wantedKey : Wide) (line : Line) : Bool :=
  line.assignment && line.sectionName == wantedSection && line.key == wantedKey

/-- A header of a section. -/
def heads (wantedSection : Wide) (line : Line) : Bool :=
  line.sectionHeader && line.sectionName == wantedSection

end Line

structure IniDocument where
  encoding : TextEncoding := .utf8
  lineEnding : LineEnding := .lf
  lines : List Line := []
  deriving DecidableEq, Repr

structure ReplaceResult where
  changed : Bool := false
  shadowedOccurrences : ℕ := 0
  deriving DecidableEq, Repr

/-! ## 3. Parsing -/

/-- What follows the `[` of a section header. -/
def classifyHeader (line : Line) (rest : Bytes) : Result Line :=
  match cut bracketClose rest with
  | none => .error ⟨.invalidArgument, "INI section header is malformed", 0⟩
  | some (sectionText, after) =>
    if trimAscii after ≠ [] then .error ⟨.invalidArgument, "INI section header is malformed", 0⟩
    else
      let wide := utf8ToWide sectionText
      if wide = [] ∧ sectionText ≠ [] then
        .error ⟨.invalidArgument, "INI section is invalid UTF-8", 0⟩
      else .ok { line with sectionName := normalized wide, sectionHeader := true }

/-- A line that is neither blank, a comment nor a header. -/
def classifyAssignment (activeSection : Wide) (line : Line) : Line :=
  match cut equals line.bytes with
  | none => line
  | some (keyPart, after) =>
    let wideKey := utf8ToWide (trimAscii keyPart)
    if wideKey = [] then line
    else
      let blanks := after.takeWhile isBlank
      let value := ((after.dropWhile isBlank).takeWhile fun b => !isComment b).rdropWhile isBlank
      let valueStart := keyPart.length + 1 + blanks.length
      { line with sectionName := activeSection, key := normalized wideKey, valueStart := valueStart, valueEnd := valueStart + value.length, assignment := true }

/-- One turn of the loop of `parse`. -/
def classify (activeSection : Wide) (physical : Lines.Line) : Result Line :=
  let line : Line := { bytes := physical.1, ending := physical.2 }
  match trimAscii line.bytes with
  | [] => .ok line
  | first :: rest =>
    if first = bracketOpen then classifyHeader line rest
    else if first = semicolon ∨ first = hash then .ok line
    else .ok (classifyAssignment activeSection line)

/-- The section that is active after a line. -/
def Line.activeAfter (activeSection : Wide) (line : Line) : Wide :=
  if line.sectionHeader then line.sectionName else activeSection

def parseLines (activeSection : Wide) : List Lines.Line → Result (List Line)
  | [] => .ok []
  | physical :: rest => do
    let line ← classify activeSection physical
    let lines ← parseLines (line.activeAfter activeSection) rest
    return line :: lines

/-- The line ending of a text: CRLF as soon as one line has it. -/
def lineEndingOf (text : Bytes) : LineEnding :=
  if [Lines.cr, Lines.lf] <:+: text then .crlf else .lf

/-- The encoding of a file and its text without the mark. -/
def stripBom (bytes : Bytes) : TextEncoding × Bytes :=
  if bom <+: bytes then (.utf8Bom, bytes.drop 3) else (.utf8, bytes)

namespace IniDocument

def parse (bytes : Bytes) : Result IniDocument :=
  if 0 ∈ bytes then .error ⟨.invalidArgument, "INI contains an embedded NUL", 0⟩
  else
    let (encoding, text) := stripBom bytes
    if text ≠ [] ∧ utf8ToWide text = [] then
      .error ⟨.invalidArgument, "INI is not valid UTF-8", 0⟩
    else do
      let lines ← parseLines [] (Lines.split text)
      return { encoding := encoding, lineEnding := lineEndingOf text, lines := lines }

/-! ## 4. Lookups -/

/-- `find_all`: the values of a key, in file order. -/
def findAll (d : IniDocument) (section_ key : Wide) : List Wide :=
  (d.lines.filter (Line.assigns (normalized section_) (normalized key))).map
    fun line => utf8ToWide line.value

/-- `find`: the last assignment wins. -/
def find (d : IniDocument) (section_ key : Wide) : Option Wide :=
  let found := d.lines.foldl
    (fun found line => if line.assigns (normalized section_) (normalized key) then some line else found)
    none
  found.map fun line => utf8ToWide line.value

/-! ## 5. Edits -/

/-- The index of the last line with a property, as the loops over `lines_` leave it. -/
def lastIndex (p : Line → Bool) : List Line → Option ℕ
  | [] => none
  | line :: rest =>
    match lastIndex p rest with
    | some i => some (i + 1)
    | none => if p line then some 0 else none

/-- The end of the block of a header: the next header, or the end of the file. -/
def blockEnd (lines : List Line) (header : ℕ) : ℕ :=
  header + 1 + ((lines.drop (header + 1)).takeWhile fun line => !line.sectionHeader).length

/-- The last line gets a terminator when it has none. -/
def terminated (ending : Bytes) : List Line → List Line
  | [] => []
  | [line] => [if line.ending = [] then { line with ending := ending } else line]
  | line :: rest => line :: terminated ending rest

/-- The line `key=value` that the edits put in. -/
def addedLine (ending : Bytes) (wantedSection wantedKey : Wide) (encodedKey encodedValue : Bytes) :
    Line :=
  { bytes := encodedKey ++ equals :: encodedValue, ending := ending, sectionName := wantedSection, key := wantedKey, valueStart := encodedKey.length + 1, valueEnd := encodedKey.length + 1 + encodedValue.length, assignment := true }

/-- Puts a line in at an index, behind a line that is terminated. -/
def insertLine (ending : Bytes) (lines : List Line) (insertAt : ℕ) (added : Line) : List Line :=
  terminated ending (lines.take insertAt) ++ added :: lines.drop insertAt

def replace (d : IniDocument) (section_ key value : Wide) : ReplaceResult × IniDocument :=
  let wantedSection := normalized section_
  let wantedKey := normalized key
  let encodedValue := wideToUtf8 value
  let shadowed := d.lines.countP (Line.assigns wantedSection wantedKey) - 1
  match lastIndex (Line.assigns wantedSection wantedKey) d.lines with
  | some i =>
    if (d.lines[i]?.map Line.value) = some encodedValue then (⟨false, shadowed⟩, d)
    else (⟨true, shadowed⟩, { d with lines := d.lines.modify i fun line => line.withValue encodedValue })
  | none =>
    match lastIndex (Line.heads wantedSection) d.lines with
    | none => (⟨false, 0⟩, d)
    | some header =>
      let ending := d.lineEnding.bytes
      let added := addedLine ending wantedSection wantedKey (wideToUtf8 key) encodedValue
      (⟨true, 0⟩, { d with lines := insertLine ending d.lines (blockEnd d.lines header) added })

def upsert (d : IniDocument) (section_ key value : Wide) : ReplaceResult × IniDocument :=
  let existing := d.find section_ key
  let (replaced, d') := d.replace section_ key value
  if existing.isSome ∨ replaced.changed ∨ replaced.shadowedOccurrences ≠ 0 then (replaced, d')
  else
    let wantedSection := normalized section_
    let wantedKey := normalized key
    let encodedSection := wideToUtf8 section_
    let encodedKey := wideToUtf8 key
    if wantedSection = [] ∨ wantedKey = [] ∨ encodedSection = [] ∨ encodedKey = [] then
      (⟨false, 0⟩, d')
    else
      let ending := d'.lineEnding.bytes
      let header : Line := { bytes := bracketOpen :: encodedSection ++ [bracketClose], ending := ending, sectionName := wantedSection, sectionHeader := true }
      let assignment := addedLine ending wantedSection wantedKey encodedKey (wideToUtf8 value)
      (⟨true, 0⟩, { d' with lines := terminated ending d'.lines ++ [header, assignment] })

def serialize (d : IniDocument) : Bytes :=
  d.encoding.marker ++ Lines.join (d.lines.map Line.raw)

end IniDocument

end Kf2Optimizer.Config
