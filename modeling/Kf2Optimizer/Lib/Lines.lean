/-
# Physical lines

A text file as a list of lines, each with the terminator it has in the file: a line feed, a
carriage return and a line feed, or nothing at the end of the file.  `split` cuts bytes into
lines and `join` puts them back.  `join_split` is unconditional; `split_join` holds of the lists
that `split` can produce (`Physical`), which is what an editor of lines has to maintain.
-/
import Mathlib.Data.List.Basic

namespace Lines

/-- A line's content and its terminator. -/
abbrev Line := List UInt8 × List UInt8

def lf : UInt8 := 0x0A
def cr : UInt8 := 0x0D

/-- A byte before the first line. -/
def extend (b : UInt8) : List Line → List Line
  | [] => [([b], [])]
  | (content, ending) :: rest => (b :: content, ending) :: rest

/-- The lines of a file. -/
def split : List UInt8 → List Line
  | [] => []
  | [b] => if b = lf then [([], [lf])] else [([b], [])]
  | b :: c :: rest =>
    if b = lf then ([], [lf]) :: split (c :: rest)
    else if b = cr ∧ c = lf then ([], [cr, lf]) :: split rest
    else extend b (split (c :: rest))

/-- The file of a list of lines. -/
def join (lines : List Line) : List UInt8 := lines.flatMap fun l => l.1 ++ l.2

@[simp] theorem join_nil : join [] = [] := rfl

@[simp] theorem join_cons (l : Line) (ls : List Line) : join (l :: ls) = l.1 ++ l.2 ++ join ls := rfl

@[simp] theorem join_append (ls ms : List Line) : join (ls ++ ms) = join ls ++ join ms :=
  List.flatMap_append

theorem join_extend (b : UInt8) (ls : List Line) : join (extend b ls) = b :: join ls := by
  cases ls with
  | nil => rfl
  | cons l ls => rfl

/-- **Cutting loses nothing.** -/
theorem join_split : ∀ bytes : List UInt8, join (split bytes) = bytes
  | [] => rfl
  | [b] => by
    simp only [split]
    split
    · rename_i h
      rw [h]
      rfl
    · rfl
  | b :: c :: rest => by
    simp only [split]
    split
    · rename_i h
      rw [join_cons, join_split (c :: rest), h]
      rfl
    · split
      · rename_i h
        rw [join_cons, join_split rest, h.1, h.2]
        rfl
      · rw [join_extend, join_split (c :: rest)]

/-! ## 1. The lists of lines that files have -/

/-- A line with a terminator. -/
def Closed (l : Line) : Prop :=
  lf ∉ l.1 ∧ ((l.2 = [lf] ∧ l.1.getLast? ≠ some cr) ∨ l.2 = [cr, lf])

/-- A last line without one. -/
def Open (l : Line) : Prop := lf ∉ l.1 ∧ l.1 ≠ [] ∧ l.2 = []

/-- Every line is closed, except that the last may be open. -/
def Physical : List Line → Prop
  | [] => True
  | [l] => Closed l ∨ Open l
  | l :: m :: ls => Closed l ∧ Physical (m :: ls)

theorem Physical.tail {l : Line} {ls : List Line} (h : Physical (l :: ls)) : Physical ls := by
  cases ls with
  | nil => trivial
  | cons m ls => exact h.2

theorem physical_cons_of_closed {l : Line} {ls : List Line} (hl : Closed l) (h : Physical ls) :
    Physical (l :: ls) := by
  cases ls with
  | nil => exact .inl hl
  | cons m ls => exact ⟨hl, h⟩

theorem Physical.head_closed {l m : Line} {ls : List Line} (h : Physical (l :: m :: ls)) :
    Closed l := h.1

theorem Physical.lf_notMem {ls : List Line} (h : Physical ls) : ∀ l ∈ ls, lf ∉ l.1 := by
  induction ls with
  | nil => simp
  | cons l ls ih =>
    intro m hm
    rcases List.mem_cons.mp hm with rfl | hm
    · cases ls with
      | nil =>
        rcases h with hc | ho
        · exact hc.1
        · exact ho.1
      | cons n ls => exact h.1.1
    · exact ih h.tail m hm

/-- A line has one of three terminators. -/
theorem Physical.ending {ls : List Line} (h : Physical ls) :
    ∀ l ∈ ls, l.2 = [] ∨ l.2 = [lf] ∨ l.2 = [cr, lf] := by
  have hclosed : ∀ l, Closed l → l.2 = [] ∨ l.2 = [lf] ∨ l.2 = [cr, lf] := by
    rintro l ⟨-, ⟨hend, -⟩ | hend⟩
    · exact .inr (.inl hend)
    · exact .inr (.inr hend)
  induction ls with
  | nil => simp
  | cons l ls ih =>
    intro m hm
    rcases List.mem_cons.mp hm with rfl | hm
    · cases ls with
      | nil =>
        rcases h with hc | ho
        · exact hclosed m hc
        · exact .inl ho.2.2
      | cons n ls => exact hclosed m h.1
    · exact ih h.tail m hm

theorem closed_ending_ne {l : Line} (h : Closed l) : l.2 ≠ [] := by
  rcases h.2 with ⟨hend, -⟩ | hend <;> simp [hend]

/-- Nothing follows a line without a terminator. -/
theorem Physical.tail_eq_nil {l : Line} {ls : List Line} (h : Physical (l :: ls))
    (hend : l.2 = []) : ls = [] := by
  cases ls with
  | nil => rfl
  | cons m ls => exact absurd hend (closed_ending_ne h.1)

theorem physical_append {ls ms : List Line} (hms : ms ≠ []) :
    Physical (ls ++ ms) ↔ (∀ l ∈ ls, Closed l) ∧ Physical ms := by
  induction ls with
  | nil => simp
  | cons l ls ih =>
    have hne : ls ++ ms ≠ [] := by simp [hms]
    obtain ⟨m, rest, hrest⟩ := List.exists_cons_of_ne_nil hne
    rw [List.cons_append, hrest]
    constructor
    · rintro ⟨hl, hrest'⟩
      rw [← hrest] at hrest'
      obtain ⟨hall, hms'⟩ := ih.mp hrest'
      exact ⟨List.forall_mem_cons.mpr ⟨hl, hall⟩, hms'⟩
    · rintro ⟨hall, hms'⟩
      obtain ⟨hl, hls⟩ := List.forall_mem_cons.mp hall
      refine ⟨hl, ?_⟩
      rw [← hrest]
      exact ih.mpr ⟨hls, hms'⟩

theorem Physical.left {ls ms : List Line} (h : Physical (ls ++ ms)) : Physical ls := by
  induction ls with
  | nil => trivial
  | cons l ls ih =>
    cases ls with
    | nil =>
      cases ms with
      | nil => exact h
      | cons m ms => exact .inl h.1
    | cons n ls => exact ⟨h.1, ih h.2⟩

theorem Physical.right {ls ms : List Line} (h : Physical (ls ++ ms)) : Physical ms := by
  induction ls with
  | nil => exact h
  | cons l ls ih => exact ih h.tail

/-- A line rewritten in its place. -/
theorem Physical.replace {ls ms : List Line} {l m : Line} (h : Physical (ls ++ l :: ms))
    (hclosed : Closed l → Closed m) (hopen : Open l → Open m) : Physical (ls ++ m :: ms) := by
  obtain ⟨hls, htail⟩ := (physical_append (by simp)).mp h
  refine (physical_append (by simp)).mpr ⟨hls, ?_⟩
  cases ms with
  | nil => exact htail.imp hclosed hopen
  | cons n ms => exact ⟨hclosed htail.1, htail.2⟩

/-- Closed lines alone are a file, one that ends in a terminator. -/
theorem physical_of_closed {ls : List Line} (h : ∀ l ∈ ls, Closed l) : Physical ls := by
  induction ls with
  | nil => trivial
  | cons l ls ih =>
    obtain ⟨hl, hls⟩ := List.forall_mem_cons.mp h
    exact physical_cons_of_closed hl (ih hls)

/-! ## 2. Cutting what was joined -/

/-- **The first line of a file** is its content up to the terminator. -/
theorem split_closed {content ending : List UInt8} (h : Closed (content, ending))
    (rest : List UInt8) :
    split (content ++ ending ++ rest) = (content, ending) :: split rest := by
  obtain ⟨hlf, hending⟩ := h
  simp only at hlf hending
  induction content with
  | nil =>
    rcases hending with ⟨rfl, -⟩ | rfl
    · cases rest with
      | nil => rfl
      | cons c rest => simp [split]
    · have hne : cr ≠ lf := by decide
      simp [split, hne]
  | cons b content ih =>
    have hb : b ≠ lf := by
      rintro rfl
      exact hlf List.mem_cons_self
    have hcontent : lf ∉ content := fun hmem => hlf (List.mem_cons_of_mem b hmem)
    have hlast : (ending = [lf] ∧ content.getLast? ≠ some cr) ∨ ending = [cr, lf] := by
      rcases hending with ⟨rfl, hcr⟩ | rfl
      · refine .inl ⟨rfl, fun hc => hcr ?_⟩
        cases content with
        | nil => cases hc
        | cons c content => simpa [List.getLast?_cons] using hc
      · exact .inr rfl
    have htail := ih hcontent hlast
    have hne : content ++ ending ++ rest ≠ [] := by
      rcases hlast with ⟨rfl, -⟩ | rfl <;> simp
    obtain ⟨c, tail, hctail⟩ := List.exists_cons_of_ne_nil hne
    -- the byte is no carriage return before the line feed: that one belongs to the terminator
    have hpair : ¬ (b = cr ∧ c = lf) := by
      rintro ⟨rfl, rfl⟩
      cases content with
      | nil =>
        rcases hending with ⟨rfl, hcr⟩ | rfl
        · exact hcr rfl
        · have hhead := (List.cons.inj hctail).1
          exact absurd hhead (by decide)
      | cons d content =>
        have hhead := (List.cons.inj hctail).1
        rw [← hhead] at hcontent
        exact hcontent List.mem_cons_self
    rw [List.cons_append, List.cons_append, hctail]
    simp only [split, if_neg hb, if_neg hpair]
    rw [← hctail, htail]
    rfl

/-- The last line of a file that does not end in a terminator. -/
theorem split_open {content : List UInt8} (hlf : lf ∉ content) (hne : content ≠ []) :
    split content = [(content, [])] := by
  induction content with
  | nil => exact absurd rfl hne
  | cons b content ih =>
    have hb : b ≠ lf := by
      rintro rfl
      exact hlf List.mem_cons_self
    cases content with
    | nil => simp only [split, if_neg hb]
    | cons c content =>
      have hcontent : lf ∉ c :: content := fun hmem => hlf (List.mem_cons_of_mem b hmem)
      have hc : ¬ (b = cr ∧ c = lf) := by
        rintro ⟨-, rfl⟩
        exact hcontent List.mem_cons_self
      simp only [split, if_neg hb, if_neg hc]
      rw [ih hcontent (by simp)]
      rfl

/-- **Joining loses nothing** of a list of lines that is a file's. -/
theorem split_join {ls : List Line} (h : Physical ls) : split (join ls) = ls := by
  induction ls with
  | nil => rfl
  | cons l ls ih =>
    have htail := ih h.tail
    cases ls with
    | nil =>
      rcases h with hc | ho
      · have hsplit := split_closed hc []
        rw [List.append_nil] at hsplit
        rw [join_cons, join_nil, List.append_nil, hsplit]
        rfl
      · obtain ⟨hlf, hne, hend⟩ := ho
        have hsplit := split_open hlf hne
        rw [join_cons, hend]
        simp only [List.append_nil, join_nil]
        rw [hsplit, ← hend]
    | cons m ls =>
      rw [join_cons, split_closed h.1, htail]

theorem physical_extend {b : UInt8} {ls : List Line} (hb : b ≠ lf)
    (hcr : b = cr → ∀ content ending rest, ls = (content, ending) :: rest →
      content = [] → ending ≠ [lf]) (h : Physical ls) : Physical (extend b ls) := by
  have hclosed : ∀ content ending rest, ls = (content, ending) :: rest →
      Closed (content, ending) → Closed (b :: content, ending) := by
    intro content ending rest hls hc
    obtain ⟨hlf, hending⟩ := hc
    refine ⟨by simp [hlf, Ne.symm hb], ?_⟩
    rcases hending with ⟨hend, hlast⟩ | hend
    · refine .inl ⟨hend, ?_⟩
      cases content with
      | nil =>
        intro hc
        simp only [List.getLast?_singleton, Option.some.injEq] at hc
        exact hcr hc [] ending rest hls rfl hend
      | cons c content => simpa [List.getLast?_cons] using hlast
    · exact .inr hend
  cases ls with
  | nil => exact .inr ⟨by simp [Ne.symm hb], by simp, rfl⟩
  | cons l ls =>
    obtain ⟨content, ending⟩ := l
    cases ls with
    | nil =>
      rcases h with hc | ⟨hlf, -, hend⟩
      · exact .inl (hclosed content ending [] rfl hc)
      · exact .inr ⟨by simpa [Ne.symm hb] using hlf, by simp, hend⟩
    | cons m ls => exact ⟨hclosed content ending (m :: ls) rfl h.1, h.2⟩

theorem split_head_lf {c : UInt8} {rest content ending : List UInt8} {ls : List Line}
    (h : split (c :: rest) = (content, ending) :: ls) (hcontent : content = [])
    (hending : ending = [lf]) : c = lf := by
  subst hcontent hending
  have hjoin := join_split (c :: rest)
  rw [h] at hjoin
  exact (List.cons.inj hjoin).1.symm

/-- **The lines of a file are physical.** -/
theorem physical_split : ∀ bytes : List UInt8, Physical (split bytes)
  | [] => trivial
  | [b] => by
    simp only [split]
    split
    · exact .inl ⟨by simp, .inl ⟨rfl, by simp⟩⟩
    · rename_i hb
      exact .inr ⟨by simpa using Ne.symm hb, by simp, rfl⟩
  | b :: c :: rest => by
    simp only [split]
    split
    · exact physical_cons_of_closed ⟨by simp, .inl ⟨rfl, by simp⟩⟩ (physical_split (c :: rest))
    · rename_i hb
      split
      · exact physical_cons_of_closed ⟨by simp, .inr rfl⟩ (physical_split rest)
      · rename_i hpair
        refine physical_extend hb ?_ (physical_split (c :: rest))
        intro hbcr content ending ls hls hcontent hending
        exact hpair ⟨hbcr, split_head_lf hls hcontent hending⟩

/-! ## 3. Putting a line behind the last one -/

/-- The last line gets a terminator when it has none. -/
def close (ending : List UInt8) : List Line → List Line
  | [] => []
  | [l] => [if l.2 = [] then (l.1, ending) else l]
  | l :: m :: ls => l :: close ending (m :: ls)

/-- **Closing the last line**: a line feed behind a carriage return is one terminator, so this
is the pair that must not come about. -/
theorem closed_close {ending : List UInt8} (he : ending = [lf] ∨ ending = [cr, lf])
    {ls : List Line} (h : Physical ls)
    (hcr : ending = [lf] → ∀ l ∈ ls.getLast?, l.2 = [] → l.1.getLast? ≠ some cr) :
    ∀ l ∈ close ending ls, Closed l := by
  induction ls with
  | nil => simp [close]
  | cons l ls ih =>
    cases ls with
    | nil =>
      intro m hm
      rw [close, List.mem_singleton] at hm
      rcases h with hc | ⟨hlf, -, hend⟩
      · rw [if_neg (closed_ending_ne hc)] at hm
        rw [hm]
        exact hc
      · rw [if_pos hend] at hm
        rw [hm]
        refine ⟨hlf, ?_⟩
        rcases he with he | he
        · exact .inl ⟨he, hcr he l rfl hend⟩
        · exact .inr he
    | cons n ls =>
      intro m hm
      rcases List.mem_cons.mp hm with rfl | hm
      · exact h.1
      · exact ih h.2 (fun he l hl => hcr he l (by rwa [List.getLast?_cons_cons])) m hm

theorem close_contents (ending : List UInt8) (ls : List Line) :
    (close ending ls).map Prod.fst = ls.map Prod.fst := by
  induction ls with
  | nil => rfl
  | cons l ls ih =>
    cases ls with
    | nil =>
      simp only [close, List.map_cons, List.map_nil]
      split <;> rfl
    | cons m ls =>
      rw [close, List.map_cons, ih]
      rfl

/-- What has to be put behind a text for it to end in a terminator. -/
def finalEnd (ending text : List UInt8) : List UInt8 :=
  if text.getLast?.all (· == lf) then [] else ending

theorem close_of_closed {ending : List UInt8} {ls : List Line} (h : ∀ l ∈ ls, Closed l) :
    close ending ls = ls := by
  induction ls with
  | nil => rfl
  | cons l ls ih =>
    cases ls with
    | nil => rw [close, if_neg (closed_ending_ne (h l List.mem_cons_self))]
    | cons m ls => rw [close, ih fun l hl => h l (List.mem_cons_of_mem _ hl)]

theorem getLast?_join_cons {l m : Line} {ls : List Line} (h : Physical (m :: ls)) :
    (join (l :: m :: ls)).getLast? = (join (m :: ls)).getLast? := by
  have hne : join (m :: ls) ≠ [] := by
    rw [join_cons]
    cases ls with
    | nil =>
      rcases h with hc | ho
      · simp [closed_ending_ne hc]
      · simp [ho.2.1]
    | cons n ls => simp [closed_ending_ne h.1]
  rw [join_cons, List.getLast?_append_of_ne_nil _ hne]

/-- **Closing the last line** puts a terminator behind the text that lacks one. -/
theorem join_close {ls : List Line} (h : Physical ls) (ending : List UInt8) :
    join (close ending ls) = join ls ++ finalEnd ending (join ls) := by
  induction ls with
  | nil => rfl
  | cons l ls ih =>
    cases ls with
    | nil =>
      have hjoin : ∀ m : Line, join [m] = m.1 ++ m.2 := fun m => by simp
      rw [close, hjoin, hjoin]
      rcases h with hc | ⟨hlf, hne, hend⟩
      · have hlast : (l.1 ++ l.2).getLast? = some lf := by
          rcases hc.2 with ⟨hend, -⟩ | hend <;> simp [hend]
        rw [if_neg (closed_ending_ne hc), finalEnd, hlast]
        simp
      · obtain ⟨b, hb⟩ := Option.ne_none_iff_exists'.mp (mt List.getLast?_eq_none_iff.mp hne)
        have hopen : b ≠ lf := fun heq => hlf (heq ▸ List.mem_of_getLast? hb)
        rw [if_pos hend, hend, List.append_nil, finalEnd, hb]
        simp [hopen]
    | cons m ls =>
      calc join (close ending (l :: m :: ls))
          = l.1 ++ l.2 ++ (join (m :: ls) ++ finalEnd ending (join (m :: ls))) := by
            rw [close, join_cons, ih h.2]
        _ = join (l :: m :: ls) ++ finalEnd ending (join (l :: m :: ls)) := by
            unfold finalEnd
            rw [getLast?_join_cons h.2, join_cons l, ← List.append_assoc]

end Lines
