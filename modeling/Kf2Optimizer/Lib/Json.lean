/-
# The grammar of JSON

RFC 8259 over bytes: the values, and the texts that spell one (`Spells`), with blanks wherever the
grammar has them.  Bytes above 0x7F stand for themselves, so that the grammar does not look into an
encoding.

A function that reads from the front of a text `Reads` values as `of` says when it takes exactly the
spellings of the values that `of` gives a result for.
-/
import Kf2Optimizer.Lib.Text

namespace Json

open Text

/-! ## 1. Blanks, numbers and strings -/

/-- `ws` is a text of these. -/
def isBlank (b : UInt8) : Bool := b == 0x20 || b == 0x09 || b == 0x0A || b == 0x0D

def Blank (w : Bytes) : Prop := ∀ b ∈ w, isBlank b = true

theorem blank_nil : Blank [] := nofun

/-- `1*DIGIT`. -/
def Digits (t : Bytes) : Prop := t ≠ [] ∧ ∀ b ∈ t, isDigit b = true

/-- `int`. -/
def IntText (t : Bytes) : Prop := t = [0x30] ∨ (Digits t ∧ t.head? ≠ some 0x30)

/-- `frac`, or nothing. -/
def FracText (t : Bytes) : Prop := t = [] ∨ ∃ ds, Digits ds ∧ t = 0x2E :: ds

/-- `exp`, or nothing. -/
def ExpText (t : Bytes) : Prop :=
  t = [] ∨ ∃ e sign ds, (e = 0x65 ∨ e = 0x45) ∧ (sign = [] ∨ sign = [0x2B] ∨ sign = [0x2D]) ∧
    Digits ds ∧ t = e :: (sign ++ ds)

/-- `number`. -/
def NumberText (t : Bytes) : Prop :=
  ∃ minus int frac exp, (minus = [] ∨ minus = [0x2D]) ∧ IntText int ∧ FracText frac ∧ ExpText exp ∧
    t = minus ++ (int ++ (frac ++ exp))

/-- `char`: a byte that stands for itself, a letter behind a backslash, or four digits behind
`\u`. -/
inductive Char
  | plain (b : UInt8)
  | short (b : UInt8)
  | unicode (a b c d : UInt8)
deriving DecidableEq

/-- A hexadecimal digit of either case. -/
def hexValue (b : UInt8) : Option ℕ :=
  if 0x30 ≤ b ∧ b ≤ 0x39 then some (b.toNat - 0x30)
  else if 0x61 ≤ b ∧ b ≤ 0x66 then some (10 + (b.toNat - 0x61))
  else if 0x41 ≤ b ∧ b ≤ 0x46 then some (10 + (b.toNat - 0x41))
  else none

/-- The letters behind a backslash: quotation mark, backslash, slash, `b`, `f`, `n`, `r`, `t`. -/
def shortEscapes : List UInt8 := [0x22, 0x5C, 0x2F, 0x62, 0x66, 0x6E, 0x72, 0x74]

namespace Char

def Valid : Char → Prop
  | plain b => 0x20 ≤ b ∧ b ≠ 0x22 ∧ b ≠ 0x5C
  | short b => b ∈ shortEscapes
  | unicode a b c d => ∀ x ∈ [a, b, c, d], (hexValue x).isSome = true

def text : Char → Bytes
  | plain b => [b]
  | short b => [0x5C, b]
  | unicode a b c d => [0x5C, 0x75, a, b, c, d]

end Char

/-- `string`. -/
def stringText (cs : List Char) : Bytes := 0x22 :: (cs.flatMap Char.text ++ [0x22])

/-! ## 2. Values -/

inductive Value
  | null
  | boolean (b : Bool)
  | number (text : Bytes)
  | string (cs : List Char)
  | array (items : List Value)
  | object (members : List (List Char × Value))

/-- An element with the blanks around it. -/
structure Element where
  before : Bytes
  value : Value
  text : Bytes
  behind : Bytes

/-- A member with the blanks in it and around it. -/
structure Member where
  before : Bytes
  key : List Char
  afterKey : Bytes
  beforeValue : Bytes
  value : Value
  text : Bytes
  behind : Bytes

namespace Element

def spelled (e : Element) : Bytes := e.before ++ (e.text ++ e.behind)

def Spaced (e : Element) : Prop := Blank e.before ∧ Blank e.behind

end Element

namespace Member

def spelled (m : Member) : Bytes :=
  m.before ++ (stringText m.key ++ (m.afterKey ++ 0x3A :: (m.beforeValue ++ (m.text ++ m.behind))))

def Spaced (m : Member) : Prop :=
  Blank m.before ∧ Blank m.afterKey ∧ Blank m.beforeValue ∧ Blank m.behind ∧ ∀ c ∈ m.key, c.Valid

end Member

/-- Texts with a comma between them. -/
def commas : List Bytes → Bytes
  | [] => []
  | [t] => t
  | t :: rest => t ++ 0x2C :: commas rest

theorem commas_cons_cons (t u : Bytes) (rest : List Bytes) :
    commas (t :: u :: rest) = t ++ 0x2C :: commas (u :: rest) := rfl

theorem length_le_commas : ∀ {ts : List Bytes}, (∀ t ∈ ts, t ≠ []) → ts.length ≤ (commas ts).length
  | [], _ => Nat.zero_le _
  | [t], h => List.length_pos_iff.mpr (h t List.mem_cons_self)
  | t :: u :: rest, h => by
    have hrest := length_le_commas fun v hv => h v (List.mem_cons_of_mem t hv)
    rw [commas_cons_cons, List.length_append]
    simp only [List.length_cons] at hrest ⊢
    omega

/-- **A text spells a value.** -/
inductive Spells : Value → Bytes → Prop
  | null : Spells .null (ascii "null")
  | boolean (b : Bool) : Spells (.boolean b) (if b then ascii "true" else ascii "false")
  | number {t : Bytes} (h : NumberText t) : Spells (.number t) t
  | string {cs : List Char} (h : ∀ c ∈ cs, c.Valid) : Spells (.string cs) (stringText cs)
  | emptyArray {w : Bytes} (hw : Blank w) : Spells (.array []) (0x5B :: (w ++ [0x5D]))
  | array {es : List Element} (hne : es ≠ []) (hspaced : ∀ e ∈ es, e.Spaced)
      (h : ∀ e ∈ es, Spells e.value e.text) :
      Spells (.array (es.map Element.value)) (0x5B :: (commas (es.map Element.spelled) ++ [0x5D]))
  | emptyObject {w : Bytes} (hw : Blank w) : Spells (.object []) (0x7B :: (w ++ [0x7D]))
  | object {ms : List Member} (hne : ms ≠ []) (hspaced : ∀ m ∈ ms, m.Spaced)
      (h : ∀ m ∈ ms, Spells m.value m.text) :
      Spells (.object (ms.map fun m => (m.key, m.value)))
        (0x7B :: (commas (ms.map Member.spelled) ++ [0x7D]))

/-- `JSON-text`. -/
def JsonText (text : Bytes) (v : Value) : Prop :=
  ∃ before t behind, Blank before ∧ Spells v t ∧ Blank behind ∧ text = before ++ (t ++ behind)

/-! ## 3. Reading from the front -/

/-- No number goes on here. -/
def Ends (rest : Bytes) : Prop :=
  ∀ b ∈ rest.head?, isDigit b = false ∧ b ≠ 0x2E ∧ b ≠ 0x65 ∧ b ≠ 0x45

/-- **A reader reads values**: it takes the spellings of the values with a result, and no others. -/
structure Reads {ε α : Type} (read : Bytes → Except ε (α × Bytes)) (of : Value → Option α) : Prop where
  sound : ∀ {text rest : Bytes} {a : α}, read text = .ok (a, rest) →
    ∃ before v t, Blank before ∧ Spells v t ∧ text = before ++ (t ++ rest) ∧ of v = some a
  complete : ∀ {before t rest : Bytes} {v : Value} {a : α}, Blank before → Spells v t →
    of v = some a → Ends rest → read (before ++ (t ++ rest)) = .ok (a, rest)

/-- Other errors do not matter. -/
theorem Reads.mapError {ε ε' α : Type} {read : Bytes → Except ε (α × Bytes)} {of : Value → Option α}
    (h : Reads read of) (f : ε → ε') : Reads (fun text => (read text).mapError f) of where
  sound {text _ _} hread := by
    cases heq : read text with
    | error e =>
      rw [heq] at hread
      cases hread
    | ok result =>
      rw [heq] at hread
      obtain rfl := Except.ok.inj hread
      exact h.sound heq
  complete hbefore hspells hof hends := by
    rw [h.complete hbefore hspells hof hends]
    rfl

/-- A result of a result. -/
theorem Reads.map {ε α β : Type} {read : Bytes → Except ε (α × Bytes)} {of : Value → Option α}
    (h : Reads read of) (f : α → β) :
    Reads (fun text => (read text).map fun result => (f result.1, result.2)) fun v => (of v).map f where
  sound {text _ _} hread := by
    cases heq : read text with
    | error e =>
      rw [heq] at hread
      cases hread
    | ok result =>
      rw [heq] at hread
      obtain ⟨rfl, rfl⟩ := Prod.mk.inj (Except.ok.inj hread)
      obtain ⟨before, v, t, hbefore, hspells, htext, hof⟩ := h.sound heq
      exact ⟨before, v, t, hbefore, hspells, htext, by rw [hof]; rfl⟩
  complete hbefore hspells hof hends := by
    obtain ⟨a, ha, rfl⟩ := Option.map_eq_some_iff.mp hof
    rw [h.complete hbefore hspells ha hends]
    rfl

theorem ends_cons {b : UInt8} {rest : Bytes}
    (h : isDigit b = false ∧ b ≠ 0x2E ∧ b ≠ 0x65 ∧ b ≠ 0x45) : Ends (b :: rest) := by
  intro c hc
  obtain rfl := Option.some_inj.mp hc
  exact h

/-- No number goes on behind a blank. -/
theorem ends_blank {w rest : Bytes} (hw : Blank w) (hrest : Ends rest) : Ends (w ++ rest) := by
  cases w with
  | nil => exact hrest
  | cons b w =>
    have hb := hw b List.mem_cons_self
    refine ends_cons ?_
    simp only [isBlank, Bool.or_eq_true, beq_iff_eq] at hb
    rcases hb with ((rfl | rfl) | rfl) | rfl <;> decide

end Json
