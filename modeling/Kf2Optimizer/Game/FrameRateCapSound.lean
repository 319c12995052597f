/-
# The frame cap is set in both files or in neither

Other programs may write the two files at any moment.  What a run can promise is what it has SEEN:
that a file held certain bytes at a moment after the run had last written it.  Everything a run does
between arming the record and emptying it keeps `Armed`: the record is there, and every write of a
file takes what it captured into account (`Orderly`).
-/
import Kf2Optimizer.Game.FrameRateCapRecord

namespace Kf2Optimizer.Game

open Text Files Platform Security Config

/-! ## 1. What a run writes -/

/-- Every write of the file by the program writes bytes of its own over what it captures, or puts
back what it captured last; `owed` is what it has captured, has not put back, and is not its own. -/
inductive Orderly (ours : Bytes → Prop) (p : CapPath) : List (Event CapPath Bytes) → List Bytes → Prop
  | nil : Orderly ours p [] []
  | other {q : CapPath} {new : Option Bytes} {log : List (Event CapPath Bytes)} {owed : List Bytes}
      (h : Orderly ours p log owed) : Orderly ours p (.other q new :: log) owed
  | elsewhere {q : CapPath} {old new : Option Bytes} {log : List (Event CapPath Bytes)}
      {owed : List Bytes} (hq : q ≠ p) (h : Orderly ours p log owed) :
      Orderly ours p (.own q old new :: log) owed
  | captured {old new : Bytes} {log : List (Event CapPath Bytes)} {owed : List Bytes}
      (hnew : ours new) (h : Orderly ours p log owed) :
      Orderly ours p (.own p (some old) (some new) :: log) (old :: owed)
  | known {old : Bytes} {log : List (Event CapPath Bytes)} {owed : List Bytes} (hold : ours old)
      (h : Orderly ours p log (old :: owed)) : Orderly ours p log owed
  | back {old : Option Bytes} {captured : Bytes} {log : List (Event CapPath Bytes)}
      {owed : List Bytes} (h : Orderly ours p log (captured :: owed)) :
      Orderly ours p (.own p old (some captured) :: log) owed

theorem Orderly.intrude {ours : Bytes → Prop} {p : CapPath} {w : CapWorld} {owed : List Bytes}
    (h : Orderly ours p w.log owed) (others : List (CapPath × Option Bytes)) :
    Orderly ours p (w.intrude others).log owed := by
  induction others generalizing w with
  | nil => exact h
  | cons o others ih => exact ih h.other

/-- Other programs write the two files, and not the record. -/
def OthersWriteFiles (turn : Turn CapPath Bytes) : Prop := ∀ o ∈ turn.others, o.1 ≠ .record

theorem disk_intrude_record {turn : Turn CapPath Bytes} (h : OthersWriteFiles turn) (w : CapWorld) :
    (w.intrude turn.others).disk .record = w.disk .record :=
  World.disk_intrude_other w fun o ho heq => h o ho heq.symm

theorem Orderly.mono {ours ours' : Bytes → Prop} {p : CapPath} {log : List (Event CapPath Bytes)}
    {owed : List Bytes} (h : Orderly ours p log owed) (hours : ∀ b, ours b → ours' b) :
    Orderly ours' p log owed := by
  induction h with
  | nil => exact .nil
  | other _ ih => exact .other ih
  | elsewhere hq _ ih => exact .elsewhere hq ih
  | captured hnew _ ih => exact .captured (hours _ hnew) ih
  | known hold _ ih => exact .known (hours _ hold) ih
  | back _ ih => exact .back ih

/-- A program that has no bytes of its own does not write. -/
theorem Orderly.unwritten {p : CapPath} {log : List (Event CapPath Bytes)} {owed : List Bytes}
    (h : Orderly (fun _ => False) p log owed) : owed = [] ∧ ∀ old new, .own p old new ∉ log := by
  induction h with
  | nil => exact ⟨rfl, by simp⟩
  | other _ ih => simpa using ih
  | elsewhere hq _ ih => simpa [Ne.symm hq] using ih
  | captured hnew _ _ => exact hnew.elim
  | known hold _ _ => exact hold.elim
  | back _ ih => cases ih.1

section

variable {A : Turn CapPath Bytes → Prop} {I : CapWorld → Prop} {w : CapWorld} {content : Option Bytes}

/-- What there is to recover is what the record holds. -/
theorem wpTask_pendingRecord (hstable : ∀ turn v, A turn → I v → I (v.intrude turn.others))
    (hcontent : ∀ v, I v → v.disk .record = content) (hI : I w) :
    wpTask A pendingRecord (fun pending v => I v ∧ pending = content.bind asPending)
      (fun _ => I) I w := by
  rw [pendingRecord, wpTask_bind, wpTask_attempt, readBounded, wpTask_bind, wpTask_perform]
  intro turn hturn
  have hv := hstable turn w hturn hI
  have hfailed : ∀ v, I v → wpTask A (if (ErrorCode.ioFailure : ErrorCode) = .notFound then
      (pure none : CapTask (Option Bytes)) else
      throw (recoveryError { code := .ioFailure, message := "Bounded file cannot be read" }))
      (fun pending v => I v ∧ pending = content.bind asPending) (fun _ => I) I v := fun v hv => hv
  cases turn.fate with
  | fail => exact hfailed _ hv
  | late => exact hfailed _ hv
  | crash => exact hv
  | ok =>
    have hdisk := hcontent _ hv
    cases content with
    | none =>
      simp only [Op.answer, hdisk]
      exact ⟨hv, rfl⟩
    | some bytes =>
      simp only [Op.answer, hdisk, wpTask_liftExcept, bounded]
      by_cases hlen : bytes.length ≤ maximumRecordBytes
      · simp only [if_pos hlen]
        exact ⟨hv, rfl⟩
      · simp only [if_neg hlen]
        exact hv

end

/-- The record holds these bytes, every write has been in order, and some files have been seen. -/
structure Armed (start : CapDisk) (ours : CapFile → Bytes → Prop) (faultless : Prop)
    (content : Option Bytes) (seen : List (CapFile × Bytes)) (w : CapWorld) : Prop where
  logged : Logged start w
  record : w.disk .record = content
  orderly : ∀ file, ∃ owed, Orderly (ours file) (.config file) w.log owed ∧
    (faultless → owed = [])
  seen : ∀ s ∈ seen, Seen start (.config s.1) s.2 w.log

section

variable {start : CapDisk} {ours : CapFile → Bytes → Prop} {faultless : Prop}
  {content : Option Bytes} {seen : List (CapFile × Bytes)} {w : CapWorld}

namespace Armed

theorem intrude (h : Armed start ours faultless content seen w) {turn : Turn CapPath Bytes}
    (hturn : OthersWriteFiles turn) :
    Armed start ours faultless content seen (w.intrude turn.others) := by
  refine ⟨h.logged.intrude _, (disk_intrude_record hturn w).trans h.record, fun file => ?_,
    fun s hs => (h.seen s hs).intrude _⟩
  obtain ⟨owed, howed, hfault⟩ := h.orderly file
  exact ⟨owed, howed.intrude _, hfault⟩

/-- A file is looked at. -/
theorem see (h : Armed start ours faultless content seen w) {file : CapFile} {bytes : Bytes}
    (hdisk : w.disk (.config file) = some bytes) :
    Armed start ours faultless content ((file, bytes) :: seen) w := by
  refine ⟨h.logged, h.record, h.orderly, fun s hs => ?_⟩
  rcases List.mem_cons.mp hs with rfl | hs
  · exact seen_of_disk h.logged hdisk
  · exact h.seen s hs

theorem forget (h : Armed start ours faultless content seen w) {seen' : List (CapFile × Bytes)}
    (hsub : seen' ⊆ seen) : Armed start ours faultless content seen' w :=
  ⟨h.logged, h.record, h.orderly, fun s hs => h.seen s (hsub hs)⟩

/-- The record is written. -/
theorem ownRecord (h : Armed start ours faultless content seen w) (record' : Bytes) :
    Armed start ours faultless (some record') seen (w.own .record (some record')) := by
  refine ⟨h.logged.act (.write .record record'), World.disk_own_same w _ _, fun file => ?_,
    fun s hs => (h.seen s hs).own (by simp) _⟩
  obtain ⟨owed, howed, hfault⟩ := h.orderly file
  exact ⟨owed, howed.elsewhere (by simp), hfault⟩

end Armed

/-- In the middle of the replacement of a file: something was captured. -/
structure Capturing (start : CapDisk) (ours : CapFile → Bytes → Prop) (faultless : Prop)
    (content : Option Bytes) (seen : List (CapFile × Bytes)) (file : CapFile) (captured : Bytes)
    (w : CapWorld) : Prop where
  logged : Logged start w
  record : w.disk .record = content
  orderly : ∀ other, other ≠ file → ∃ owed,
    Orderly (ours other) (.config other) w.log owed ∧ (faultless → owed = [])
  owing : ∃ owed, Orderly (ours file) (.config file) w.log (captured :: owed) ∧
    (faultless → owed = [])
  seen : ∀ s ∈ seen, Seen start (.config s.1) s.2 w.log

namespace Capturing

variable {file : CapFile} {captured : Bytes}

theorem intrude (h : Capturing start ours faultless content seen file captured w)
    {turn : Turn CapPath Bytes} (hturn : OthersWriteFiles turn) :
    Capturing start ours faultless content seen file captured (w.intrude turn.others) := by
  refine ⟨h.logged.intrude _, (disk_intrude_record hturn w).trans h.record, fun other hne => ?_, ?_,
    fun s hs => (h.seen s hs).intrude _⟩
  · obtain ⟨owed, howed, hfault⟩ := h.orderly other hne
    exact ⟨owed, howed.intrude _, hfault⟩
  · obtain ⟨owed, howed, hfault⟩ := h.owing
    exact ⟨owed, howed.intrude _, hfault⟩

/-- The new bytes are there. -/
theorem begun (h : Armed start ours faultless content seen w) {bytes : Bytes}
    (hours : ours file bytes) (hseen : ∀ s ∈ seen, s.1 ≠ file)
    (hdisk : w.disk (.config file) = some captured) :
    Capturing start ours faultless content seen file captured
      (w.own (.config file) (some bytes)) := by
  refine ⟨h.logged.act (.write (.config file) bytes), ?_, fun other hne => ?_, ?_, fun s hs => ?_⟩
  · exact (World.disk_own_other w _ (by simp)).trans h.record
  · obtain ⟨owed, howed, hfault⟩ := h.orderly other
    exact ⟨owed, howed.elsewhere (by simpa using Ne.symm hne), hfault⟩
  · obtain ⟨owed, howed, hfault⟩ := h.orderly file
    refine ⟨owed, ?_, hfault⟩
    unfold World.own
    rw [hdisk]
    exact howed.captured hours
  · exact (h.seen s hs).own (by simpa using Ne.symm (hseen s hs)) _

/-- Nothing is owed for what is the program's own. -/
theorem settled (h : Capturing start ours faultless content seen file captured w)
    (hours : ours file captured) : Armed start ours faultless content seen w := by
  refine ⟨h.logged, h.record, fun other => ?_, h.seen⟩
  by_cases hne : other = file
  · subst hne
    obtain ⟨owed, howed, hfault⟩ := h.owing
    exact ⟨owed, howed.known hours, hfault⟩
  · exact h.orderly other hne

/-- Where something fails, it stays owed. -/
theorem owed (h : Capturing start ours faultless content seen file captured w)
    (hfault : ¬ faultless) : Armed start ours faultless content seen w := by
  refine ⟨h.logged, h.record, fun other => ?_, h.seen⟩
  by_cases hne : other = file
  · subst hne
    obtain ⟨owed, howed, -⟩ := h.owing
    exact ⟨captured :: owed, howed, fun hf => absurd hf hfault⟩
  · exact h.orderly other hne

/-- What was captured is put back. -/
theorem back (h : Capturing start ours faultless content seen file captured w)
    (hseen : ∀ s ∈ seen, s.1 ≠ file) :
    Armed start ours faultless content seen (w.own (.config file) (some captured)) := by
  refine ⟨h.logged.act (.write (.config file) captured), ?_, fun other => ?_, fun s hs => ?_⟩
  · exact (World.disk_own_other w _ (by simp)).trans h.record
  · by_cases hne : other = file
    · subst hne
      obtain ⟨owed, howed, hfault⟩ := h.owing
      exact ⟨owed, howed.back, hfault⟩
    · obtain ⟨owed, howed, hfault⟩ := h.orderly other hne
      exact ⟨owed, howed.elsewhere (by simpa using Ne.symm hne), hfault⟩
  · exact (h.seen s hs).own (by simpa using Ne.symm (hseen s hs)) _

end Capturing

/-! ## 2. Replacing a file -/

variable {A : Turn CapPath Bytes → Prop} (hA : ∀ turn, A turn → OthersWriteFiles turn)
include hA

/-- **A file is replaced in order**, whatever comes in between. -/
theorem wpTask_replaceConfig {file : CapFile} {expected bytes : Bytes}
    (hexpected : ours file expected) (hbytes : ours file bytes)
    (hseen : ∀ s ∈ seen, s.1 ≠ file) (hw : Armed start ours (Faultless A) content seen w) :
    wpTask A (replaceIfUnchanged (.config file) expected bytes)
      (fun _ => Armed start ours (Faultless A) content seen)
      (fun _ => Armed start ours (Faultless A) content seen)
      (Armed start ours (Faultless A) content seen) w :=
  wpTask_replaceIfUnchanged (I := Armed start ours (Faultless A) content seen)
    (M := Capturing start ours (Faultless A) content seen file)
    (fun turn _ hturn hv => hv.intrude (hA turn hturn))
    (fun _ turn _ hturn hv => hv.intrude (hA turn hturn))
    (fun _ _ hv hdisk => .begun hv hbytes hseen hdisk) (fun _ hv => hv.settled hexpected)
    (fun _ _ hv => hv) (fun hfault _ _ _ hv => hv.owed hfault) (fun _ _ _ hv => hv.back hseen)
    (fun _ hv => hv) (fun hfault _ _ hv => hv.owed hfault) hw

/-- **The record is emptied**, or put back. -/
theorem wpTask_clearRecord {record : Bytes}
    (hw : Armed start ours (Faultless A) (some record) seen w) :
    wpTask A (clearRecord record)
      (fun _ => Armed start ours (Faultless A) (some []) seen)
      (fun _ v => Armed start ours (Faultless A) (some record) seen v ∨
        Armed start ours (Faultless A) (some []) seen v)
      (fun v => Armed start ours (Faultless A) (some record) seen v ∨
        Armed start ours (Faultless A) (some []) seen v) w := by
  refine wpTask_adapt.mpr (wpTask_replaceIfUnchanged
    (I := Armed start ours (Faultless A) (some record) seen)
    (M := fun c v => c = record ∧ Armed start ours (Faultless A) (some []) seen v)
    (fun turn _ hturn hv => hv.intrude (hA turn hturn))
    (fun _ turn _ hturn hv => ⟨hv.1, hv.2.intrude (hA turn hturn)⟩) (fun c v hv hdisk => ⟨?_, ?_⟩)
    (fun _ hv => hv.2) (fun _ _ hv => .inl hv) (fun _ _ _ _ hv => .inr hv.2) ?_
    (fun _ hv => .inl hv) (fun _ _ _ hv => .inr hv.2) hw)
  · exact Option.some.inj (hdisk.symm.trans hv.record)
  · exact hv.ownRecord []
  · rintro c e v ⟨rfl, hv⟩
    exact .inl (hv.ownRecord c)

/-- A file is read as it is at that moment. -/
theorem wpTask_readFile {file : CapFile} {good : Bytes → CapWorld → Prop}
    {bad : Error → CapWorld → Prop} {C : CapWorld → Prop}
    (hok : ∀ bytes v, Armed start ours (Faultless A) content ((file, bytes) :: seen) v →
      bytes.length ≤ maximumFrameCapConfigBytes → good bytes v)
    (hbad : ∀ e v, Armed start ours (Faultless A) content seen v → bad e v)
    (hC : ∀ v, Armed start ours (Faultless A) content seen v → C v)
    (hw : Armed start ours (Faultless A) content seen w) :
    wpTask A (readFile file) good bad C w :=
  wpTask_readBounded (fun turn _ hturn hv => hv.intrude (hA turn hturn)) hC hw
    (fun bytes v hv hdisk hlen => hok bytes v (hv.see hdisk) hlen) fun e v hv _ => hbad e v hv

theorem wpTask_readBack {recovery : CapRecovery} {file : CapFile} {written : Except Error Unit}
    (hw : Armed start ours (Faultless A) content seen w) :
    wpTask A (readBack recovery file written)
      (fun _ => Armed start ours (Faultless A) content ((file, recovery.originals file) :: seen))
      (fun _ => Armed start ours (Faultless A) content seen)
      (Armed start ours (Faultless A) content seen) w := by
  unfold readBack
  rw [wpTask_bind, wpTask_attempt]
  refine wpTask_readFile hA (fun readback v hv _ => ?_) (fun e v hv => ?_) (fun _ hv => hv) hw
  · by_cases hback : readback = recovery.originals file
    · simp only [if_pos hback, wpTask_pure]
      exact hback ▸ hv
    · simp only [if_neg hback]
      cases written
      exacts [hv.forget (List.subset_cons_self _ _), hv.forget (List.subset_cons_self _ _)]
  · cases written
    exacts [hv, hv]

variable [Bcrypt]

/-- Bytes that the record answers for. -/
def Ours (recovery : CapRecovery) (file : CapFile) (bytes : Bytes) : Prop :=
  bytes = recovery.originals file ∨ digestHex bytes = recovery.appliedHashes file

theorem wpTask_capSha256 {bytes : Bytes} {good : Bytes → CapWorld → Prop}
    {bad : Error → CapWorld → Prop} {C : CapWorld → Prop}
    (hok : ∀ v, Armed start ours (Faultless A) content seen v → good (digestHex bytes) v)
    (hbad : ∀ e v, Armed start ours (Faultless A) content seen v → bad e v)
    (hC : ∀ v, Armed start ours (Faultless A) content seen v → C v)
    (hw : Armed start ours (Faultless A) content seen w) :
    wpTask A (sha256Hex bytes) good bad C w := by
  refine wpTask_mono (wpTask_of_careful (careful_sha256Hex (R := fun _ => False) bytes)
    (fun turn _ hturn hv => hv.intrude (hA turn hturn)) (fun _ _ _ _ h => h) hC hw) ?_
    (fun e v hv => hbad e v hv.1) fun _ h => h
  rintro hash v ⟨hv, hvalue⟩
  rw [value_sha256Hex] at hvalue
  cases hvalue
  exact hok v hv

/-- **A file that is restored** has been seen with its original bytes. -/
theorem wpTask_restoreFile {recovery : CapRecovery}
    (hours : ∀ file bytes, Ours recovery file bytes → ours file bytes) {file : CapFile}
    (hseen : ∀ s ∈ seen, s.1 ≠ file) (hw : Armed start ours (Faultless A) content seen w) :
    wpTask A (restoreFile recovery file)
      (fun _ => Armed start ours (Faultless A) content ((file, recovery.originals file) :: seen))
      (fun _ => Armed start ours (Faultless A) content seen)
      (Armed start ours (Faultless A) content seen) w := by
  rw [restoreFile, wpTask_bind]
  refine wpTask_readFile hA (fun current v hv _ => ?_) (fun _ _ hv => hv) (fun _ hv => hv) hw
  by_cases hsame : current = recovery.originals file
  · rw [if_pos hsame, wpTask_pure]
    exact hsame ▸ hv
  rw [if_neg hsame, wpTask_bind]
  have hv := hv.forget (List.subset_cons_self _ _)
  refine wpTask_capSha256 hA (fun v hv => ?_) (fun _ _ hv => hv) (fun _ hv => hv) hv
  refine wpTask_ensure (fun _ => hv) fun happlied => ?_
  rw [wpTask_bind, wpTask_attempt]
  exact wpTask_mono (wpTask_replaceConfig hA (hours _ _ (.inr happlied)) (hours _ _ (.inl rfl)) hseen hv)
    (fun _ u hu => wpTask_readBack hA hu) (fun _ u hu => wpTask_readBack hA hu) fun _ h => h

/-- Both files, with these bytes. -/
def both (bytes : CapFile → Bytes) : List (CapFile × Bytes) :=
  [(.game, bytes .game), (.console, bytes .console)]

theorem wpTask_restoreFiles {recovery : CapRecovery}
    (hours : ∀ file bytes, Ours recovery file bytes → ours file bytes)
    (hw : Armed start ours (Faultless A) content [] w) :
    wpTask A (restoreFiles recovery)
      (fun _ => Armed start ours (Faultless A) content (both recovery.originals))
      (fun _ => Armed start ours (Faultless A) content [])
      (Armed start ours (Faultless A) content []) w := by
  rw [restoreFiles, wpTask_bind, wpTask_attempt]
  refine wpTask_mono (wpTask_restoreFile hA hours (by simp) hw) (fun _ v hv => ?_) (fun e v hv => ?_)
    fun _ h => h
  · rw [wpTask_bind, wpTask_attempt]
    refine wpTask_mono (wpTask_restoreFile hA hours (by simp) hv) (fun _ u hu => ?_) (fun e u hu => ?_)
      fun _ hu => hu.forget (by simp)
    · exact hu
    · exact hu.forget (by simp)
  · rw [wpTask_bind, wpTask_attempt]
    refine wpTask_mono (wpTask_restoreFile hA hours (by simp) hv) (fun _ u hu => ?_) (fun _ u hu => ?_)
      fun _ hu => hu
    · exact hu.forget (by simp)
    · exact hu

end

section

variable [Bcrypt] {start : CapDisk} {ours : CapFile → Bytes → Prop} {w : CapWorld}

/-- What this record answers for, beside what earlier ones do. -/
def OursOrAlso (ours : CapFile → Bytes → Prop) (originals proposed : CapFile → Bytes) (file : CapFile)
    (bytes : Bytes) : Prop :=
  ours file bytes ∨ Ours (capRecovery originals proposed) file bytes

theorem Armed.more {faultless : Prop}
    {content : Option Bytes} {seen : List (CapFile × Bytes)} (hw : Armed start ours faultless content seen w)
    (originals proposed : CapFile → Bytes) :
    Armed start (OursOrAlso ours originals proposed) faultless content seen w := by
  refine ⟨hw.logged, hw.record, fun file => ?_, hw.seen⟩
  obtain ⟨owed, howed, hfault⟩ := hw.orderly file
  exact ⟨owed, howed.mono fun _ => .inl, hfault⟩

variable {A : Turn CapPath Bytes → Prop} (hA : ∀ turn, A turn → OthersWriteFiles turn)
include hA

/-- **Recovery** that succeeds has seen both files with their original bytes and has emptied the
record; otherwise the record is there, or all of this is true. -/
theorem wpTask_recoverFrameRateCap {recovery : CapRecovery} {record : Bytes}
    {installation : GameInstallation} {running : Bool}
    (hours : ∀ file bytes, Ours recovery file bytes → ours file bytes) (hrecord : record ≠ [])
    (hparse : ∀ r d, value (parseRecoveryRecord installation record).run d = .ok r → r = recovery)
    (hw : Armed start ours (Faultless A) (some record) [] w) :
    wpTask A (recoverFrameRateCap installation running)
      (fun recovered v => recovered = true ∧
        Armed start ours (Faultless A) (some []) (both recovery.originals) v)
      (fun _ v => Armed start ours (Faultless A) (some record) [] v ∨
        Armed start ours (Faultless A) (some []) (both recovery.originals) v)
      (fun v => Armed start ours (Faultless A) (some record) [] v ∨
        Armed start ours (Faultless A) (some []) (both recovery.originals) v) w := by
  rw [recoverFrameRateCap, wpTask_bind]
  refine wpTask_mono (wpTask_pendingRecord (fun turn _ hturn hv => hv.intrude (hA turn hturn))
    (fun _ hv => hv.record) hw) ?_ (fun _ _ hv => .inl hv) fun _ hv => .inl hv
  rintro pending v ⟨hv, rfl⟩
  have hpending : (some record).bind asPending = some record := if_neg hrecord
  simp only [hpending]
  refine wpTask_ensure (fun _ => .inl hv) fun _ => ?_
  rw [wpTask_bind, wpTask_adapt]
  refine wpTask_mono (wpTask_of_careful (careful_parseRecoveryRecord installation record)
    (fun turn _ hturn hv => hv.intrude (hA turn hturn)) (fun _ _ _ _ h => h) (fun _ hv => hv) hv) ?_
    (fun _ _ hv => .inl hv.1) fun _ hv => .inl hv
  rintro r u ⟨hu, hvalue⟩
  obtain rfl := hparse r _ hvalue
  rw [wpTask_bind, wpTask_adapt]
  refine wpTask_mono (wpTask_restoreFiles hA hours hu) (fun _ t ht => ?_) (fun _ _ ht => .inl ht)
    fun _ ht => .inl ht
  rw [wpTask_bind]
  refine wpTask_mono (wpTask_clearRecord hA ht) (fun _ s hs => ⟨rfl, hs⟩) ?_ ?_
  · exact fun _ s hs => hs.imp (fun h => h.forget (by simp)) id
  · exact fun s hs => hs.imp (fun h => h.forget (by simp)) id

/-- **Where there is nothing to recover**, nothing is done. -/
theorem wpTask_recover_idle {content : Option Bytes} {seen : List (CapFile × Bytes)}
    {installation : GameInstallation} {running : Bool} (hidle : content.bind asPending = none)
    (hw : Armed start ours (Faultless A) content seen w) :
    wpTask A (recoverFrameRateCap installation running)
      (fun recovered v => recovered = false ∧ Armed start ours (Faultless A) content seen v)
      (fun _ => Armed start ours (Faultless A) content seen)
      (Armed start ours (Faultless A) content seen) w := by
  rw [recoverFrameRateCap, wpTask_bind]
  refine wpTask_mono (wpTask_pendingRecord (fun turn _ hturn hv => hv.intrude (hA turn hturn))
    (fun _ hv => hv.record) hw) ?_ (fun _ _ hv => hv) fun _ hv => hv
  rintro pending v ⟨hv, rfl⟩
  simp only [hidle]
  exact ⟨rfl, hv⟩

end

end Kf2Optimizer.Game
