/-
# Whole runs of the frame cap

From a state that runs of the same code have left (`CapHistory`), a call of
`recover_frame_rate_cap` or `persist_frame_rate_cap` may fail or stop anywhere while other programs
write the two files.  `RecoverEnds` and `PersistEnds` list what it can leave, and
`frame_cap_all_or_nothing` says that there is nothing else, and that an undisturbed recovery brings
back what still holds proposed bytes.
-/
import Kf2Optimizer.Game.FrameRateCapSound

namespace Kf2Optimizer.Game

open Text Files Platform Security Config

/-! ## 1. Committing -/

section

variable {start : CapDisk} {ours : CapFile → Bytes → Prop} {content : Option Bytes}
  {seen : List (CapFile × Bytes)} {w : CapWorld} {A : Turn CapPath Bytes → Prop}
  (hA : ∀ turn, A turn → OthersWriteFiles turn)
include hA

theorem wpTask_armRecord {record : Bytes} (hw : Armed start ours (Faultless A) content seen w) :
    wpTask A (armRecord record) (fun _ => Armed start ours (Faultless A) (some record) seen)
      (fun _ v => Armed start ours (Faultless A) content seen v ∨
        Armed start ours (Faultless A) (some record) seen v)
      (fun v => Armed start ours (Faultless A) content seen v ∨
        Armed start ours (Faultless A) (some record) seen v) w := by
  rw [armRecord, wpTask_bind]
  refine wpTask_atomicReplace (fun turn _ hturn hv => hv.intrude (hA turn hturn)) (fun _ hv => .inl hv)
    hw (fun v hv => ?_) (fun _ _ _ hv => .inl hv) fun _ _ _ hv => .inr (hv.ownRecord record)
  rw [wpTask_bind, wpTask_adapt]
  refine wpTask_readBounded (fun turn _ hturn hu => hu.intrude (hA turn hturn)) (fun _ hu => .inr hu)
    (hv.ownRecord record) (fun bytes u hu _ _ => ?_) fun _ _ hu _ => .inr hu
  unfold ensure
  split
  · exact hu
  · exact .inr hu

theorem wpTask_writeFile {originals : CapFile → Bytes} {proposal : CapProposal} {file : CapFile}
    [WideCtype] (hexpected : ours file (originals file)) (hbytes : ours file (proposal.proposed file))
    (hw : Armed start ours (Faultless A) content [] w) :
    wpTask A (writeFile originals proposal file) (fun _ => Armed start ours (Faultless A) content [])
      (fun _ => Armed start ours (Faultless A) content [])
      (Armed start ours (Faultless A) content []) w := by
  unfold writeFile
  split
  · exact wpTask_replaceConfig hA hexpected hbytes (by simp) hw
  · exact hw

/-- What is verified has been seen. -/
theorem wpTask_verifyExact [WideCtype] {fps : ℤ} {expected : CapFile → Bytes}
    (hw : Armed start ours (Faultless A) content seen w) :
    wpTask A (verifyExact fps expected) (fun _ => Armed start ours (Faultless A) content (both expected))
      (fun _ => Armed start ours (Faultless A) content seen)
      (Armed start ours (Faultless A) content seen) w := by
  rw [verifyExact, wpTask_bind]
  refine wpTask_readFile hA (fun console v hv _ => ?_) (fun _ _ hv => hv) (fun _ hv => hv) hw
  have hforget : ∀ u, Armed start ours (Faultless A) content ((.console, console) :: seen) u →
      Armed start ours (Faultless A) content seen u := fun u hu => hu.forget (List.subset_cons_self _ _)
  rw [wpTask_bind]
  refine wpTask_readFile hA (fun game u hu _ => ?_) (fun _ u hu => hforget u hu) hforget hv
  have hseen := hforget u (hu.forget (List.subset_cons_self _ _))
  refine wpTask_ensure (fun _ => hseen) fun hsame => ?_
  obtain ⟨rfl, rfl⟩ := hsame
  rw [wpTask_liftExcept]
  cases capStands fps (expected .console) (expected .game) with
  | error e => exact hseen
  | ok _ => exact hu.forget (by simp [both])

variable [Bcrypt]

/-- How a commit ends that has begun and does not succeed: with the record, or with both files as
they were or as they should be. -/
def Unfinished (installation : GameInstallation) (start : CapDisk) (ours : CapFile → Bytes → Prop)
    (faultless : Prop) (originals proposed : CapFile → Bytes) (v : CapWorld) : Prop :=
  ((∀ file, (proposed file).length ≤ maximumFrameCapConfigBytes) ∧
      Armed start ours faultless (some (capRecord installation originals proposed)) [] v) ∨
    Armed start ours faultless (some []) (both originals) v ∨
    Armed start ours faultless (some []) (both proposed) v

variable {installation : GameInstallation} {originals proposed : CapFile → Bytes}
  (hours : ∀ file bytes, Ours (capRecovery originals proposed) file bytes → ours file bytes)
  (hsize : ∀ file, (originals file).length ≤ maximumFrameCapConfigBytes)
include hours hsize

theorem wpTask_recover_pending {running : Bool}
    (hw : Armed start ours (Faultless A) (some (capRecord installation originals proposed)) [] w) :
    wpTask A (recoverFrameRateCap installation running)
      (fun recovered v => recovered = true ∧ Armed start ours (Faultless A) (some []) (both originals) v)
      (fun _ v => Armed start ours (Faultless A) (some (capRecord installation originals proposed)) [] v ∨
        Armed start ours (Faultless A) (some []) (both originals) v)
      (fun v => Armed start ours (Faultless A) (some (capRecord installation originals proposed)) [] v ∨
        Armed start ours (Faultless A) (some []) (both originals) v) w := by
  refine wpTask_recoverFrameRateCap hA hours (capRecord_ne_nil _ _ _) (fun r d hr => ?_) hw
  rw [value_parse_capRecord hsize] at hr
  cases hr
  rfl

theorem wpTask_rollback {e : Error}
    (hw : Armed start ours (Faultless A) (some (capRecord installation originals proposed)) [] w) :
    wpTask A (rollback installation e) (fun _ _ => False)
      (fun _ v => Armed start ours (Faultless A) (some (capRecord installation originals proposed)) [] v ∨
        Armed start ours (Faultless A) (some []) (both originals) v)
      (fun v => Armed start ours (Faultless A) (some (capRecord installation originals proposed)) [] v ∨
        Armed start ours (Faultless A) (some []) (both originals) v) w := by
  rw [rollback, wpTask_bind, wpTask_attempt]
  exact wpTask_mono (wpTask_recover_pending hA hours hsize hw) (fun _ _ hv => .inr hv.2)
    (fun _ _ hv => hv) fun _ hv => hv

variable [WideCtype]

omit hours in
theorem wpTask_commitCap {fps : ℤ} {writes : CapFile → Bool}
    (hw : Armed start ours (Faultless A) content seen w) :
    wpTask A (commitCap installation fps originals ⟨proposed, writes⟩)
      (fun _ => Armed start (OursOrAlso ours originals proposed) (Faultless A) (some []) (both proposed))
      (fun _ v => Armed start ours (Faultless A) content seen v ∨
        Unfinished installation start (OursOrAlso ours originals proposed) (Faultless A) originals
          proposed v)
      (fun v => Armed start ours (Faultless A) content seen v ∨
        Unfinished installation start (OursOrAlso ours originals proposed) (Faultless A) originals
          proposed v) w := by
  rw [commitCap]
  refine wpTask_ensure (fun _ => .inl hw) fun hfits => ?_
  have hproposed : ∀ file, (proposed file).length ≤ maximumFrameCapConfigBytes := by
    intro file
    cases file
    exacts [hfits.1, hfits.2]
  rw [wpTask_bind]
  refine wpTask_mono (wpTask_of_careful (careful_recoveryRecord installation originals proposed)
    (fun turn _ hturn hv => hv.intrude (hA turn hturn)) (fun _ _ _ _ h => h) (fun _ hv => hv) hw) ?_
    (fun _ _ hv => .inl hv.1) fun _ hv => .inl hv
  rintro record v ⟨hv, hvalue⟩
  rw [value_recoveryRecord] at hvalue
  cases hvalue
  let Held (seen : List (CapFile × Bytes)) : CapWorld → Prop :=
    Armed start (OursOrAlso ours originals proposed) (Faultless A)
      (some (capRecord installation originals proposed)) seen
  -- the record is there and no file has been replaced, or some have
  have hpending : ∀ v seen', Held seen' v → Unfinished installation start
      (OursOrAlso ours originals proposed) (Faultless A) originals proposed v := fun v _ hv =>
    .inl ⟨hproposed, hv.forget (List.nil_subset _)⟩
  rw [wpTask_bind]
  refine wpTask_mono (wpTask_armRecord hA hv) ?_
    (fun _ u hu => hu.imp_right fun hu => hpending u _ (hu.more _ _))
    fun u hu => hu.imp_right fun hu => hpending u _ (hu.more _ _)
  intro _ u hu
  have hheld : Held [] u := (hu.more originals proposed).forget (List.nil_subset _)
  have hwrite : ∀ {file} {u : CapWorld}, Held [] u →
      wpTask A (writeFile originals ⟨proposed, writes⟩ file) (fun _ => Held []) (fun _ => Held [])
        (Held []) u :=
    fun hu => wpTask_writeFile hA (.inr (.inl rfl)) (.inr (.inr rfl)) hu
  have hfiles : wpTask A (writeFiles fps originals ⟨proposed, writes⟩) (fun _ => Held (both proposed))
      (fun _ => Held []) (Held []) u := by
    rw [writeFiles, wpTask_bind]
    refine wpTask_mono (hwrite hheld) (fun _ t ht => ?_) (fun _ _ ht => ht) fun _ ht => ht
    rw [wpTask_bind]
    exact wpTask_mono (hwrite ht) (fun _ t ht => wpTask_verifyExact hA ht) (fun _ _ ht => ht)
      fun _ ht => ht
  rw [wpTask_bind, wpTask_attempt]
  refine wpTask_mono hfiles (fun _ t ht => ?_) (fun e t ht => ?_) fun t ht => .inr (hpending t _ ht)
  · refine wpTask_mono (wpTask_clearRecord hA ht) (fun _ _ hs => hs) ?_ ?_
    · exact fun _ s hs => .inr (hs.elim (hpending s _) fun hs => .inr (.inr hs))
    · exact fun s hs => .inr (hs.elim (hpending s _) fun hs => .inr (.inr hs))
  · refine wpTask_mono (wpTask_rollback hA (fun _ _ => .inr) hsize ht) (fun _ _ hs => hs.elim) ?_ ?_
    · exact fun _ s hs => .inr (hs.elim (hpending s _) fun hs => .inr (.inl hs))
    · exact fun s hs => .inr (hs.elim (hpending s _) fun hs => .inr (.inl hs))

omit hours hsize

/-- What a call has read and what it makes of it. -/
structure Read (fps : ℤ) (d : CapDisk) (originals : CapFile → Bytes) (proposal : CapProposal)
    (v : CapWorld) : Prop where
  fits : ∀ file, (originals file).length ≤ maximumFrameCapConfigBytes
  proposes : proposeCap fps originals = .ok proposal
  once : ∀ file, Once d (.config file) (originals file) v.log

/-- Nothing was written, or what was read and proposed has been carried out in part. -/
def NotApplied (installation : GameInstallation) (fps : ℤ) (start : CapDisk)
    (ours : CapFile → Bytes → Prop) (faultless : Prop) (content : Option Bytes)
    (seen : List (CapFile × Bytes)) (v : CapWorld) : Prop :=
  Armed start ours faultless content seen v ∨ ∃ originals proposal, Read fps start originals proposal v ∧
    Unfinished installation start (OursOrAlso ours originals proposal.proposed) faultless originals
      proposal.proposed v

/-- **What follows when there is nothing to recover any more.** -/
theorem wpTask_applyCap {fps : ℤ} (hw : Armed start ours (Faultless A) content seen w) :
    wpTask A (applyCap installation fps)
      (fun result v => ∃ originals proposal, Read fps start originals proposal v ∧ result.targetFps = fps ∧
        ∃ left, (left = content ∨ left = some []) ∧
          Armed start (OursOrAlso ours originals proposal.proposed) (Faultless A) left
            (both proposal.proposed) v)
      (fun _ => NotApplied installation fps start ours (Faultless A) content seen)
      (NotApplied installation fps start ours (Faultless A) content seen) w := by
  rw [applyCap, wpTask_bind]
  refine wpTask_readFile hA (fun console v hv hconsole => ?_) (fun _ _ hv => .inl hv)
    (fun _ hv => .inl hv) hw
  have hforget : ∀ u, Armed start ours (Faultless A) content ((.console, console) :: seen) u →
      Armed start ours (Faultless A) content seen u := fun u hu => hu.forget (List.subset_cons_self _ _)
  rw [wpTask_bind]
  refine wpTask_readFile hA (fun game u hu hgame => ?_) (fun _ u hu => .inl (hforget u hu))
    (fun u hu => .inl (hforget u hu)) hv
  have hbefore := hforget u (hu.forget (List.subset_cons_self _ _))
  have honce : ∀ file, Once start (.config file) (perFile console game file) u.log := by
    intro file
    cases file
    · exact (hu.seen (.console, console) (by simp)).once
    · exact (hu.seen (.game, game) (by simp)).once
  have hfits : ∀ file, (perFile console game file).length ≤ maximumFrameCapConfigBytes := by
    intro file
    cases file
    exacts [hconsole, hgame]
  rw [wpTask_bind, wpTask_liftExcept]
  cases hproposal : proposeCap fps (perFile console game) with
  | error e => exact .inl hbefore
  | ok proposal =>
    have hread : ∀ v, u.log <:+ v.log → Read fps start (perFile console game) proposal v := fun v hlog =>
      ⟨hfits, hproposal, fun file => (honce file).mono hlog⟩
    by_cases hwrites : proposal.writes .console = true ∨ proposal.writes .game = true
    · simp only [Ends, if_pos hwrites]
      rw [wpTask_bind]
      refine wpTask_mono (wpTask_and (wpTask_commitCap hA hfits hbefore)
        (wpTask_grows (List.suffix_refl u.log))) ?_ ?_ ?_
      · exact fun _ v hv => ⟨_, proposal, hread v hv.2, rfl, _, .inr rfl, hv.1⟩
      · exact fun _ v hv => hv.1.imp_right fun h => ⟨_, proposal, hread v hv.2, h⟩
      · exact fun v hv => hv.1.imp_right fun h => ⟨_, proposal, hread v hv.2, h⟩
    · simp only [Ends, if_neg hwrites]
      rw [wpTask_bind]
      refine wpTask_mono (wpTask_and (wpTask_verifyExact hA hbefore)
        (wpTask_grows (List.suffix_refl u.log))) ?_ (fun _ _ hv => .inl hv.1) fun _ hv => .inl hv.1
      exact fun _ v hv => ⟨_, proposal, hread v hv.2, rfl, _, .inl rfl, hv.1.more _ _⟩

end

/-! ## 2. What a call can leave -/

/-- There is nothing to recover. -/
def Idle (d : CapDisk) : Prop := d .record = none ∨ d .record = some []

/-- Both files have had these bytes since the call last wrote them, and have them where no other
program has written them. -/
def BothSeen (d : CapDisk) (bytes : CapFile → Bytes) (v : CapWorld) : Prop :=
  ∀ file, Seen d (.config file) (bytes file) v.log ∧
    ((∀ new, .other (.config file) new ∉ v.log) → v.disk (.config file) = some (bytes file))

/-- The call has written neither file. -/
def Unwritten (v : CapWorld) : Prop := ∀ file old new, .own (.config file) old new ∉ v.log

/-- The call has written its own bytes only, and has put back what was not its own. -/
def InOrder (ours : CapFile → Bytes → Prop) (faultless : Prop) (v : CapWorld) : Prop :=
  ∀ file, ∃ owed, Orderly (ours file) (.config file) v.log owed ∧ (faultless → owed = [])

/-- The call failed or was stopped. -/
def Fails {α : Type} (outcome : Option (Except Error α)) : Prop := ∀ a, outcome ≠ some (.ok a)

theorem fails_error {α : Type} (e : Error) : Fails (some (.error e) : Option (Except Error α)) :=
  fun _ h => by cases h

theorem fails_none {α : Type} : Fails (none : Option (Except Error α)) := fun _ h => by cases h

section

variable {plan : List (Turn CapPath Bytes)}

/-- The turns of a plan. -/
def PlanTurn (plan : List (Turn CapPath Bytes)) (turn : Turn CapPath Bytes) : Prop :=
  OthersWriteFiles turn ∧ ((∀ t ∈ plan, t.fate = .ok) → turn.fate = .ok)

theorem faultless_planTurn (h : ∀ turn ∈ plan, turn.fate = .ok) : Faultless (PlanTurn plan) :=
  fun _ hturn => hturn.2 h

theorem planTurn_of_mem (hplan : ∀ turn ∈ plan, OthersWriteFiles turn) :
    ∀ turn ∈ plan, PlanTurn plan turn := fun turn hturn => ⟨hplan turn hturn, fun h => h turn hturn⟩

theorem planTurn_quiet : PlanTurn plan {} := ⟨fun _ ho => (by cases ho), fun _ => rfl⟩

theorem InOrder.mono {ours : CapFile → Bytes → Prop} {faultless faultless' : Prop} {v : CapWorld}
    (h : InOrder ours faultless v) (hfault : faultless' → faultless) : InOrder ours faultless' v := by
  intro file
  obtain ⟨owed, howed, hnone⟩ := h file
  exact ⟨owed, howed, fun hok => hnone (hfault hok)⟩

/-- A plan is run as the calculus says. -/
theorem run_ends {α : Type} {d : CapDisk} {x : CapTask α} {E : Option (Except Error α) → CapWorld → Prop}
    (hplan : ∀ turn ∈ plan, OthersWriteFiles turn)
    (h : wpTask (PlanTurn plan) x (fun a => E (some (.ok a))) (fun e => E (some (.error e))) (E none)
      ⟨d, []⟩) : E (run x.run plan ⟨d, []⟩).1 (run x.run plan ⟨d, []⟩).2 := by
  have hsound := wp_sound h planTurn_quiet (planTurn_of_mem hplan)
  generalize run x.run plan ⟨d, []⟩ = ended at hsound
  match ended, hsound with
  | (some (.ok a), v), hsound => exact hsound
  | (some (.error e), v), hsound => exact hsound
  | (none, v), hsound => exact hsound

end

section

variable {d : CapDisk} {ours : CapFile → Bytes → Prop} {faultless : Prop} {content : Option Bytes}
  {seen : List (CapFile × Bytes)} {v : CapWorld}

theorem armed_start : Armed d ours faultless (d .record) [] ⟨d, []⟩ :=
  ⟨logged_start d, rfl, fun _ => ⟨[], .nil, fun _ => rfl⟩, by simp⟩

theorem Armed.inOrder (h : Armed d ours faultless content seen v) : InOrder ours faultless v := h.orderly

theorem Armed.bothSeen {bytes : CapFile → Bytes} (h : Armed d ours faultless content (both bytes) v) :
    BothSeen d bytes v := by
  intro file
  have hseen : Seen d (.config file) (bytes file) v.log := by
    cases file
    · exact h.seen (.console, bytes .console) (by simp [both])
    · exact h.seen (.game, bytes .game) (by simp [both])
  exact ⟨hseen, hseen.disk h.logged⟩

end

section

variable [Bcrypt]

/-- There is a record of these files. -/
structure Pending (installation : GameInstallation) (originals proposed : CapFile → Bytes)
    (d : CapDisk) : Prop where
  fits : ∀ file, (originals file).length ≤ maximumFrameCapConfigBytes
  fitsProposed : ∀ file, (proposed file).length ≤ maximumFrameCapConfigBytes
  record : d .record = some (capRecord installation originals proposed)

/-- What the record that there is answers for. -/
def Recorded (installation : GameInstallation) (d : CapDisk) (file : CapFile) (bytes : Bytes) : Prop :=
  ∃ originals proposed, Pending installation originals proposed d ∧
    Ours (capRecovery originals proposed) file bytes

/-- What a recovery leaves where there was a record of these originals. -/
inductive RecoverEnds (originals : CapFile → Bytes) (d : CapDisk) :
    Option (Except Error Bool) → CapWorld → Prop
  | restored {v : CapWorld} (hrecord : v.disk .record = some []) (hfiles : BothSeen d originals v) :
      RecoverEnds originals d (some (.ok true)) v
  | kept {outcome : Option (Except Error Bool)} {v : CapWorld} (hout : Fails outcome)
      (hrecord : v.disk .record = d .record) : RecoverEnds originals d outcome v
  /-- The record was emptied, and that was reported as a failure or not at all. -/
  | unreported {outcome : Option (Except Error Bool)} {v : CapWorld} (hout : Fails outcome)
      (hrecord : v.disk .record = some []) (hfiles : BothSeen d originals v) :
      RecoverEnds originals d outcome v

theorem Pending.not_idle {installation : GameInstallation} {originals proposed : CapFile → Bytes}
    {d : CapDisk} (h : Pending installation originals proposed d) : ¬ Idle d := by
  have hne := capRecord_ne_nil installation originals proposed
  simp [Idle, h.record, hne]

/-- A record is of one pair of files. -/
theorem Pending.eq {installation : GameInstallation} {originals originals' proposed proposed' : CapFile → Bytes}
    {d : CapDisk} (h : Pending installation originals proposed d)
    (h' : Pending installation originals' proposed' d) :
    capRecovery originals proposed = capRecovery originals' proposed' := by
  have hparse : value (parseRecoveryRecord installation (capRecord installation originals proposed)).run d =
      .ok (capRecovery originals proposed) := value_parse_capRecord h.fits d
  rw [Option.some.inj (h.record.symm.trans h'.record), value_parse_capRecord h'.fits] at hparse
  exact (Except.ok.inj hparse).symm

theorem recorded_of_idle {installation : GameInstallation} {d : CapDisk} (h : Idle d) {file : CapFile}
    {bytes : Bytes} : ¬ Recorded installation d file bytes := by
  rintro ⟨_, _, hd, -⟩
  exact hd.not_idle h

variable [WideCtype]

/-- What persisting leaves. -/
inductive PersistEnds (installation : GameInstallation) (fps : ℤ) (faultless : Prop) (d : CapDisk) :
    Option (Except Error FrameRateCapResult) → CapWorld → Prop
  | applied {result : FrameRateCapResult} {originals : CapFile → Bytes} {proposal : CapProposal}
      {v : CapWorld} (hread : Read fps d originals proposal v) (hresult : result.targetFps = fps)
      (hrecord : Idle v.disk) (hfiles : BothSeen d proposal.proposed v)
      (horder : InOrder (OursOrAlso (Recorded installation d) originals proposal.proposed) faultless v) :
      PersistEnds installation fps faultless d (some (.ok result)) v
  /-- An earlier record is still there. -/
  | kept {outcome : Option (Except Error FrameRateCapResult)} {v : CapWorld} (hout : Fails outcome)
      (hd : ¬ Idle d) (hrecord : v.disk .record = d .record)
      (horder : InOrder (Recorded installation d) faultless v) :
      PersistEnds installation fps faultless d outcome v
  /-- There is no earlier record any more, and no new one yet. -/
  | unapplied {outcome : Option (Except Error FrameRateCapResult)} {v : CapWorld} (hout : Fails outcome)
      (hrecord : Idle v.disk) (hidle : Idle d → Unwritten v)
      (hpending : ∀ originals proposed, Pending installation originals proposed d →
        BothSeen d originals v)
      (horder : InOrder (Recorded installation d) faultless v) :
      PersistEnds installation fps faultless d outcome v
  | pending {outcome : Option (Except Error FrameRateCapResult)} {originals : CapFile → Bytes}
      {proposal : CapProposal} {v : CapWorld} (hout : Fails outcome)
      (hread : Read fps d originals proposal v)
      (hrecord : Pending installation originals proposal.proposed v.disk)
      (horder : InOrder (OursOrAlso (Recorded installation d) originals proposal.proposed) faultless v) :
      PersistEnds installation fps faultless d outcome v
  /-- The new record was emptied with both files as they were or as they should be. -/
  | emptied {outcome : Option (Except Error FrameRateCapResult)} {originals : CapFile → Bytes}
      {proposal : CapProposal} {v : CapWorld} (hout : Fails outcome)
      (hread : Read fps d originals proposal v) (hrecord : v.disk .record = some [])
      (hfiles : BothSeen d originals v ∨ BothSeen d proposal.proposed v)
      (horder : InOrder (OursOrAlso (Recorded installation d) originals proposal.proposed) faultless v) :
      PersistEnds installation fps faultless d outcome v

end

/-! ## 3. Calls -/

section

variable [Bcrypt] {installation : GameInstallation} {d : CapDisk} {ours : CapFile → Bytes → Prop}
  {faultless : Prop} {content : Option Bytes} {seen : List (CapFile × Bytes)} {v : CapWorld}

/-- Who has no bytes of his own has written nothing. -/
theorem Armed.unwritten (h : Armed d (Recorded installation d) faultless content seen v) (hd : Idle d) :
    Unwritten v := by
  intro file
  obtain ⟨owed, howed, -⟩ := h.orderly file
  exact (howed.mono fun _ hours => recorded_of_idle hd hours).unwritten.2

variable {A : Turn CapPath Bytes → Prop} (hA : ∀ turn, A turn → OthersWriteFiles turn)
include hA

/-- **A recovery.** -/
theorem wpTask_recover_ends {originals proposed : CapFile → Bytes} {running : Bool}
    (hd : Pending installation originals proposed d) :
    wpTask A (recoverFrameRateCap installation running)
      (fun recovered v => RecoverEnds originals d (some (.ok recovered)) v ∧
        InOrder (Ours (capRecovery originals proposed)) (Faultless A) v)
      (fun e v => RecoverEnds originals d (some (.error e)) v ∧
        InOrder (Ours (capRecovery originals proposed)) (Faultless A) v)
      (fun v => RecoverEnds originals d none v ∧
        InOrder (Ours (capRecovery originals proposed)) (Faultless A) v) ⟨d, []⟩ := by
  have hstart : Armed d (Ours (capRecovery originals proposed)) (Faultless A)
      (some (capRecord installation originals proposed)) [] ⟨d, []⟩ := hd.record ▸ armed_start
  have hfailed : ∀ {outcome : Option (Except Error Bool)} {v : CapWorld}, Fails outcome →
      (Armed d (Ours (capRecovery originals proposed)) (Faultless A)
          (some (capRecord installation originals proposed)) [] v ∨
        Armed d (Ours (capRecovery originals proposed)) (Faultless A) (some []) (both originals) v) →
      RecoverEnds originals d outcome v ∧
        InOrder (Ours (capRecovery originals proposed)) (Faultless A) v := by
    rintro outcome v hout (hv | hv)
    · exact ⟨.kept hout (hv.record.trans hd.record.symm), hv.inOrder⟩
    · exact ⟨.unreported hout hv.record hv.bothSeen, hv.inOrder⟩
  refine wpTask_mono (wpTask_recover_pending hA (fun _ _ h => h) hd.fits hstart) ?_
    (fun e v hv => hfailed (fails_error e) hv) fun v hv => hfailed fails_none hv
  rintro recovered v ⟨rfl, hv⟩
  exact ⟨.restored hv.record hv.bothSeen, hv.inOrder⟩

variable [WideCtype] {fps : ℤ}

omit hA in
/-- What was read and proposed and has not been applied. -/
theorem persistEnds_of_notApplied {outcome : Option (Except Error FrameRateCapResult)}
    (hout : Fails outcome)
    (hbefore : Armed d (Recorded installation d) faultless content seen v →
      PersistEnds installation fps faultless d outcome v)
    (h : NotApplied installation fps d (Recorded installation d) faultless content seen v) :
    PersistEnds installation fps faultless d outcome v := by
  rcases h with h | ⟨originals, proposal, hread, h⟩
  · exact hbefore h
  rcases h with ⟨hfits, h⟩ | h | h
  · exact .pending hout hread ⟨hread.fits, hfits, h.record⟩ h.inOrder
  · exact .emptied hout hread h.record (.inl h.bothSeen) h.inOrder
  · exact .emptied hout hread h.record (.inr h.bothSeen) h.inOrder

/-- What follows a recovery that has succeeded. -/
theorem wpTask_applyCap_ends {w : CapWorld} (hcontent : content = none ∨ content = some [])
    (hw : Armed d (Recorded installation d) (Faultless A) content seen w)
    (hbefore : ∀ {outcome v}, Fails outcome →
      Armed d (Recorded installation d) (Faultless A) content seen v →
      PersistEnds installation fps (Faultless A) d outcome v) :
    wpTask A (applyCap installation fps)
      (fun result => PersistEnds installation fps (Faultless A) d (some (.ok result)))
      (fun e => PersistEnds installation fps (Faultless A) d (some (.error e)))
      (PersistEnds installation fps (Faultless A) d none) w := by
  refine wpTask_mono (wpTask_applyCap hA hw) ?_ ?_ ?_
  · rintro result v ⟨originals, proposal, hread, hresult, left, hleft, hv⟩
    refine .applied hread hresult ?_ hv.bothSeen hv.inOrder
    rcases hleft with rfl | rfl
    · exact hcontent.imp hv.record.trans hv.record.trans
    · exact .inr hv.record
  · exact fun e v hv => persistEnds_of_notApplied (fails_error e) (hbefore (fails_error e)) hv
  · exact fun v hv => persistEnds_of_notApplied fails_none (hbefore fails_none) hv

/-- **Persisting.** -/
theorem wpTask_persist_ends
    (hd : Idle d ∨ ∃ originals proposed, Pending installation originals proposed d) :
    wpTask A (persistFrameRateCap installation fps)
      (fun result => PersistEnds installation fps (Faultless A) d (some (.ok result)))
      (fun e => PersistEnds installation fps (Faultless A) d (some (.error e)))
      (PersistEnds installation fps (Faultless A) d none) ⟨d, []⟩ := by
  have hstart : Armed d (Recorded installation d) (Faultless A) (d .record) [] ⟨d, []⟩ := armed_start
  have hstay : ∀ {outcome v}, Fails outcome →
      Armed d (Recorded installation d) (Faultless A) (d .record) [] v →
      PersistEnds installation fps (Faultless A) d outcome v := by
    intro outcome v hout hv
    by_cases hidle : Idle d
    · refine .unapplied hout ?_ (fun _ => hv.unwritten hidle)
        (fun _ _ hpending => absurd hidle hpending.not_idle) hv.inOrder
      exact hidle.imp hv.record.trans hv.record.trans
    · exact .kept hout hidle hv.record hv.inOrder
  rw [persistFrameRateCap]
  refine wpTask_ensure (fun _ => hstay (fails_error _) hstart) fun _ => ?_
  rw [wpTask_bind]
  rcases hd with hidle | ⟨originals, proposed, hd⟩
  · have hnone : (d .record).bind asPending = none := by
      rcases hidle with h | h
      · rw [h]; rfl
      · rw [h]; rfl
    refine wpTask_mono (wpTask_recover_idle hA hnone hstart) (fun _ v hv => ?_)
      (fun e v hv => hstay (fails_error e) hv) fun v hv => hstay fails_none hv
    exact wpTask_applyCap_ends hA hidle hv.2 hstay
  · rw [hd.record] at hstart hstay
    have hcleared : ∀ {outcome v}, Fails outcome →
        Armed d (Recorded installation d) (Faultless A) (some []) (both originals) v →
        PersistEnds installation fps (Faultless A) d outcome v := by
      intro outcome v hout hv
      refine .unapplied hout (.inr hv.record) (fun hidle => absurd hidle hd.not_idle) ?_ hv.inOrder
      intro originals' proposed' hd'
      have heq : originals = originals' := congrArg CapRecovery.originals (hd.eq hd')
      exact heq ▸ hv.bothSeen
    refine wpTask_mono (wpTask_recover_pending hA (fun file bytes hours => ⟨_, _, hd, hours⟩) hd.fits
      hstart) (fun _ v hv => ?_) ?_ ?_
    · exact wpTask_applyCap_ends hA (.inr rfl) hv.2 hcleared
    · exact fun e v hv => hv.elim (hstay (fails_error e)) (hcleared (fails_error e))
    · exact fun v hv => hv.elim (hstay fails_none) (hcleared fails_none)

end

/-! ## 4. An undisturbed recovery -/

theorem value_readFile_eq_ok {file : CapFile} {bytes : Bytes} {d : CapDisk} :
    value (readFile file).run d = .ok bytes ↔
      d (.config file) = some bytes ∧ bytes.length ≤ maximumFrameCapConfigBytes :=
  value_readBounded_eq_ok

theorem careful_readFile (file : CapFile) :
    Careful (fun _ => True) (fun _ => True) (readFile file).run :=
  careful_readBounded trivial _

section

variable [Bcrypt]

/-- The file can be read, and holds bytes that the record answers for. -/
def Restorable (recovery : CapRecovery) (file : CapFile) (content : Option Bytes) : Prop :=
  ∃ bytes, content = some bytes ∧ bytes.length ≤ maximumFrameCapConfigBytes ∧ Ours recovery file bytes

variable {recovery : CapRecovery} {C : CapWorld → Prop} {w : CapWorld}

/-- **A file is restored** if it can be. -/
theorem wpTask_restoreFile_undisturbed {file : CapFile}
    (hfits : (recovery.originals file).length ≤ maximumFrameCapConfigBytes) :
    wpTask Undisturbed (restoreFile recovery file)
      (fun _ v => Restorable recovery file (w.disk (.config file)) ∧
        v.disk = w.disk.set (.config file) (some (recovery.originals file)))
      (fun _ v => ¬ Restorable recovery file (w.disk (.config file)) ∧ v.disk = w.disk) C w := by
  rw [restoreFile, wpTask_bind]
  refine wpTask_careful_undisturbed (careful_readFile file) ?_
  cases hvalue : value (readFile file).run w.disk with
  | error e =>
    refine ⟨?_, rfl⟩
    rintro ⟨bytes, hdisk, hlen, -⟩
    rw [value_readFile_eq_ok.mpr ⟨hdisk, hlen⟩] at hvalue
    cases hvalue
  | ok current =>
    obtain ⟨hdisk, hlen⟩ := value_readFile_eq_ok.mp hvalue
    by_cases hsame : current = recovery.originals file
    · simp only [Ends, if_pos hsame, wpTask_pure]
      refine ⟨⟨current, hdisk, hlen, .inl hsame⟩, ?_⟩
      rw [← hsame, ← hdisk, Disk.set_self]
    · simp only [Ends, if_neg hsame]
      rw [wpTask_bind]
      refine wpTask_careful_undisturbed (careful_sha256Hex (R := fun _ => False) current) ?_
      rw [value_sha256Hex]
      refine wpTask_ensure (fun hhash => ⟨?_, rfl⟩) fun happlied => ?_
      · rintro ⟨bytes, hdisk', -, hours⟩
        obtain rfl := Option.some.inj (hdisk.symm.trans hdisk')
        exact hours.elim hsame hhash
      rw [wpTask_bind, wpTask_attempt]
      refine wpTask_replace_undisturbed hdisk ?_
      rw [readBack, wpTask_bind, wpTask_attempt]
      refine wpTask_careful_undisturbed (careful_readFile file) ?_
      rw [value_readFile_eq_ok.mpr ⟨World.disk_own_same _ _ _, hfits⟩]
      simp only [Ends, if_true, wpTask_pure]
      exact ⟨⟨current, hdisk, hlen, .inr happlied⟩, rfl⟩

theorem wpTask_restoreFiles_undisturbed
    (hfits : ∀ file, (recovery.originals file).length ≤ maximumFrameCapConfigBytes) :
    wpTask Undisturbed (restoreFiles recovery)
      (fun _ v => (∀ file, Restorable recovery file (w.disk (.config file)) ∧
        v.disk (.config file) = some (recovery.originals file)) ∧ v.disk .record = w.disk .record)
      (fun _ v => (∃ file, ¬ Restorable recovery file (w.disk (.config file))) ∧ ∀ file,
        (Restorable recovery file (w.disk (.config file)) →
          v.disk (.config file) = some (recovery.originals file)) ∧
        (¬ Restorable recovery file (w.disk (.config file)) →
          v.disk (.config file) = w.disk (.config file))) C w := by
  have hapart : ∀ {file file' : CapFile} {b : Option Bytes} (d : CapDisk), file' ≠ file →
      d.set (.config file) b (.config file') = d (.config file') := fun d hne =>
    Disk.set_other d _ (by simpa using hne)
  rw [restoreFiles, wpTask_bind, wpTask_attempt]
  refine wpTask_mono (wpTask_restoreFile_undisturbed (hfits .console)) (fun _ v hv => ?_)
    (fun e v hv => ?_) fun _ h => h
  · obtain ⟨hconsole, hv⟩ := hv
    rw [wpTask_bind, wpTask_attempt]
    refine wpTask_mono (wpTask_restoreFile_undisturbed (hfits .game)) (fun _ u hu => ?_)
      (fun e u hu => ?_) fun _ h => h
    · obtain ⟨hgame, hu⟩ := hu
      rw [hv, hapart _ (by decide)] at hgame
      refine ⟨fun file => ?_, by rw [hu, hv]; rfl⟩
      cases file
      · exact ⟨hconsole, by rw [hu, hapart _ (by decide), hv, Disk.set_same]⟩
      · exact ⟨hgame, by rw [hu, Disk.set_same]⟩
    · obtain ⟨hgame, hu⟩ := hu
      rw [hv, hapart _ (by decide)] at hgame
      refine ⟨⟨.game, hgame⟩, fun file => ?_⟩
      cases file
      · exact ⟨fun _ => by rw [hu, hv, Disk.set_same], fun h => absurd hconsole h⟩
      · exact ⟨fun h => absurd h hgame, fun _ => by rw [hu, hv, hapart _ (by decide)]⟩
  · obtain ⟨hconsole, hv⟩ := hv
    rw [wpTask_bind, wpTask_attempt]
    refine wpTask_mono (wpTask_restoreFile_undisturbed (hfits .game)) (fun _ u hu => ?_)
      (fun e u hu => ?_) fun _ h => h
    · obtain ⟨hgame, hu⟩ := hu
      rw [hv] at hgame
      refine ⟨⟨.console, hconsole⟩, fun file => ?_⟩
      cases file
      · exact ⟨fun h => absurd h hconsole, fun _ => by rw [hu, hapart _ (by decide), hv]⟩
      · exact ⟨fun _ => by rw [hu, Disk.set_same], fun h => absurd hgame h⟩
    · obtain ⟨hgame, hu⟩ := hu
      rw [hv] at hgame
      refine ⟨⟨.console, hconsole⟩, fun file => ?_⟩
      cases file
      · exact ⟨fun h => absurd h hconsole, fun _ => by rw [hu, hv]⟩
      · exact ⟨fun h => absurd h hgame, fun _ => by rw [hu, hv]⟩

/-- **An undisturbed recovery** brings back every file that can be brought back. -/
theorem wpTask_recover_undisturbed {installation : GameInstallation}
    {originals proposed : CapFile → Bytes} {d : CapDisk} (hd : Pending installation originals proposed d) :
    wpTask Undisturbed (recoverFrameRateCap installation false)
      (fun recovered v => recovered = true ∧ ∀ file,
        Restorable (capRecovery originals proposed) file (d (.config file)) ∧
          v.disk (.config file) = some (originals file))
      (fun _ v => (∃ file, ¬ Restorable (capRecovery originals proposed) file (d (.config file))) ∧
        ∀ file, (Restorable (capRecovery originals proposed) file (d (.config file)) →
            v.disk (.config file) = some (originals file)) ∧
          (¬ Restorable (capRecovery originals proposed) file (d (.config file)) →
            v.disk (.config file) = d (.config file))) C ⟨d, []⟩ := by
  have hlength : (capRecord installation originals proposed).length ≤ maximumRecordBytes :=
    length_recordBytes_le (r := capRecovery originals proposed) (validHash_digestHex _)
      (validHash_digestHex _) hd.fits fun _ => validHash_digestHex _
  have hpending : asPending (capRecord installation originals proposed) =
      some (capRecord installation originals proposed) := if_neg (capRecord_ne_nil _ _ _)
  rw [recoverFrameRateCap, pendingRecord, wpTask_bind, wpTask_bind, wpTask_attempt]
  refine wpTask_careful_undisturbed (careful_readBounded (R := fun _ => True) trivial _) ?_
  rw [value_readBounded_eq_ok.mpr ⟨hd.record, hlength⟩]
  simp only [Ends, wpTask_pure, hpending]
  refine wpTask_ensure (fun h => absurd trivial h) fun _ => ?_
  rw [wpTask_bind, wpTask_adapt]
  refine wpTask_careful_undisturbed (careful_parseRecoveryRecord installation _) ?_
  rw [value_parse_capRecord hd.fits]
  simp only [Ends]
  rw [wpTask_bind, wpTask_adapt]
  refine wpTask_mono (wpTask_restoreFiles_undisturbed hd.fits) (fun _ v hv => ?_) (fun _ _ hv => hv)
    fun _ h => h
  obtain ⟨hfiles, hrecord⟩ := hv
  rw [wpTask_bind, clearRecord, wpTask_adapt]
  refine wpTask_replace_undisturbed (hrecord.trans hd.record) ⟨rfl, fun file => ⟨(hfiles file).1, ?_⟩⟩
  exact (World.disk_own_other v _ (by simp)).trans (hfiles file).2

end

/-! ## 5. Histories -/

section

variable [Bcrypt]

/-- A call of `recover_frame_rate_cap`. -/
def recoverRun (installation : GameInstallation) (running : Bool) (plan : List (Turn CapPath Bytes))
    (d : CapDisk) : Option (Except Error Bool) × CapWorld :=
  run (recoverFrameRateCap installation running).run plan ⟨d, []⟩

variable [WideCtype]

/-- A call of `persist_frame_rate_cap`. -/
def persistRun (installation : GameInstallation) (fps : ℤ) (plan : List (Turn CapPath Bytes))
    (d : CapDisk) : Option (Except Error FrameRateCapResult) × CapWorld :=
  run (persistFrameRateCap installation fps).run plan ⟨d, []⟩

/-- What calls and other programs make of an installation without a record: every call may fail or
stop anywhere, and other programs write the two files at any moment. -/
inductive CapHistory (installation : GameInstallation) : CapDisk → Prop
  | start {d : CapDisk} (h : Idle d) : CapHistory installation d
  | others {d : CapDisk} (h : CapHistory installation d) {turn : Turn CapPath Bytes}
      (hturn : OthersWriteFiles turn) :
      CapHistory installation ((⟨d, []⟩ : CapWorld).intrude turn.others).disk
  | recover {d : CapDisk} (h : CapHistory installation d) (running : Bool)
      {plan : List (Turn CapPath Bytes)} (hplan : ∀ turn ∈ plan, OthersWriteFiles turn) :
      CapHistory installation (recoverRun installation running plan d).2.disk
  | persist {d : CapDisk} (h : CapHistory installation d) (fps : ℤ)
      {plan : List (Turn CapPath Bytes)} (hplan : ∀ turn ∈ plan, OthersWriteFiles turn) :
      CapHistory installation (persistRun installation fps plan d).2.disk

end

section

variable [Bcrypt] {installation : GameInstallation} {d : CapDisk} {plan : List (Turn CapPath Bytes)}
  (hplan : ∀ turn ∈ plan, OthersWriteFiles turn)
include hplan

/-- **Where nothing is recorded**, a recovery does nothing. -/
theorem recoverRun_idle (hd : Idle d) (running : Bool) :
    (recoverRun installation running plan d).1 ≠ some (.ok true) ∧
      Idle (recoverRun installation running plan d).2.disk ∧
      Unwritten (recoverRun installation running plan d).2 := by
  have hnone : (d .record).bind asPending = none := by
    rcases hd with h | h
    · rw [h]; rfl
    · rw [h]; rfl
  have hstart : Armed d (Recorded installation d) (Faultless (PlanTurn plan)) (d .record) [] ⟨d, []⟩ :=
    armed_start
  have hleft : ∀ v, Armed d (Recorded installation d) (Faultless (PlanTurn plan)) (d .record) [] v →
      Idle v.disk ∧ Unwritten v := fun v hv =>
    ⟨hd.imp hv.record.trans hv.record.trans, hv.unwritten hd⟩
  refine run_ends (E := fun outcome v => outcome ≠ some (.ok true) ∧ Idle v.disk ∧ Unwritten v) hplan ?_
  refine wpTask_mono (wpTask_recover_idle (fun _ hturn => hturn.1) hnone hstart) ?_ ?_ ?_
  · rintro _ v ⟨rfl, hv⟩
    exact ⟨by simp, hleft v hv⟩
  · exact fun e v hv => ⟨by simp, hleft v hv⟩
  · exact fun v hv => ⟨by simp, hleft v hv⟩

/-- **Where something is recorded.** -/
theorem recoverRun_pending {originals proposed : CapFile → Bytes}
    (hd : Pending installation originals proposed d) (running : Bool) :
    RecoverEnds originals d (recoverRun installation running plan d).1
        (recoverRun installation running plan d).2 ∧
      InOrder (Ours (capRecovery originals proposed)) (∀ turn ∈ plan, turn.fate = .ok)
        (recoverRun installation running plan d).2 :=
  run_ends (E := fun outcome v => RecoverEnds originals d outcome v ∧
      InOrder (Ours (capRecovery originals proposed)) (∀ turn ∈ plan, turn.fate = .ok) v) hplan
    (wpTask_mono (wpTask_recover_ends (fun _ hturn => hturn.1) hd)
      (fun _ _ hv => ⟨hv.1, hv.2.mono faultless_planTurn⟩) (fun _ _ hv => ⟨hv.1, hv.2.mono faultless_planTurn⟩)
      fun _ hv => ⟨hv.1, hv.2.mono faultless_planTurn⟩)

variable [WideCtype] {fps : ℤ}

omit hplan in
theorem PersistEnds.mono {faultless faultless' : Prop} (hfault : faultless' → faultless)
    {outcome : Option (Except Error FrameRateCapResult)} {v : CapWorld}
    (h : PersistEnds installation fps faultless d outcome v) :
    PersistEnds installation fps faultless' d outcome v := by
  cases h with
  | applied hread hresult hrecord hfiles horder =>
    exact .applied hread hresult hrecord hfiles (horder.mono hfault)
  | kept hout hd hrecord horder => exact .kept hout hd hrecord (horder.mono hfault)
  | unapplied hout hrecord hidle hpending horder =>
    exact .unapplied hout hrecord hidle hpending (horder.mono hfault)
  | pending hout hread hrecord horder => exact .pending hout hread hrecord (horder.mono hfault)
  | emptied hout hread hrecord hfiles horder =>
    exact .emptied hout hread hrecord hfiles (horder.mono hfault)

theorem persistRun_ends (fps : ℤ)
    (hd : Idle d ∨ ∃ originals proposed, Pending installation originals proposed d) :
    PersistEnds installation fps (∀ turn ∈ plan, turn.fate = .ok) d
      (persistRun installation fps plan d).1 (persistRun installation fps plan d).2 :=
  run_ends (E := PersistEnds installation fps (∀ turn ∈ plan, turn.fate = .ok) d) hplan
    (wpTask_mono (wpTask_persist_ends (fun _ hturn => hturn.1) hd)
      (fun _ _ hv => hv.mono faultless_planTurn) (fun _ _ hv => hv.mono faultless_planTurn)
      fun _ hv => hv.mono faultless_planTurn)

omit hplan in
/-- There is nothing to recover, or there is a record that can be read. -/
theorem CapHistory.idle_or_pending (h : CapHistory installation d) :
    Idle d ∨ ∃ originals proposed, Pending installation originals proposed d := by
  have hsame : ∀ {d d' : CapDisk}, d' .record = d .record →
      (Idle d ∨ ∃ originals proposed, Pending installation originals proposed d) →
      Idle d' ∨ ∃ originals proposed, Pending installation originals proposed d' := by
    rintro d d' hrecord (hidle | ⟨originals, proposed, hd⟩)
    · exact .inl (hidle.imp hrecord.trans hrecord.trans)
    · exact .inr ⟨originals, proposed, hd.fits, hd.fitsProposed, hrecord.trans hd.record⟩
  induction h with
  | start hidle => exact .inl hidle
  | others _ hturn ih => exact hsame (disk_intrude_record hturn _) ih
  | recover _ running hplan ih =>
    rcases ih with hidle | ⟨originals, proposed, hd⟩
    · exact .inl (recoverRun_idle hplan hidle running).2.1
    · have hends := (recoverRun_pending hplan hd running).1
      generalize recoverRun installation running _ _ = ended at hends ⊢
      obtain ⟨outcome, v⟩ := ended
      cases hends with
      | restored hrecord _ => exact .inl (.inr hrecord)
      | unreported _ hrecord _ => exact .inl (.inr hrecord)
      | kept _ hrecord => exact hsame hrecord (.inr ⟨originals, proposed, hd⟩)
  | persist _ fps hplan ih =>
    have hends := persistRun_ends hplan fps ih
    generalize persistRun installation fps _ _ = ended at hends ⊢
    obtain ⟨outcome, v⟩ := ended
    cases hends with
    | applied _ _ hrecord _ _ => exact .inl hrecord
    | kept _ _ hrecord _ => exact hsame hrecord ih
    | unapplied _ hrecord _ _ _ => exact .inl hrecord
    | pending _ _ hrecord _ => exact .inr ⟨_, _, hrecord⟩
    | emptied _ _ hrecord _ _ => exact .inl (.inr hrecord)

/-- **Both files or neither.**  In every state that calls and other programs can have left, a
recovery without a record does nothing, one with a record ends as `RecoverEnds` says and persisting
as `PersistEnds` says, both write over what they know only, and an undisturbed recovery brings back
every file that holds bytes of the record. -/
theorem frame_cap_all_or_nothing (h : CapHistory installation d) :
    (Idle d ∨ ∃ originals proposed, Pending installation originals proposed d) ∧
    (Idle d → ∀ running, (recoverRun installation running plan d).1 ≠ some (.ok true) ∧
      Idle (recoverRun installation running plan d).2.disk ∧
      Unwritten (recoverRun installation running plan d).2) ∧
    (∀ originals proposed, Pending installation originals proposed d → ∀ running,
      RecoverEnds originals d (recoverRun installation running plan d).1
          (recoverRun installation running plan d).2 ∧
        InOrder (Ours (capRecovery originals proposed)) (∀ turn ∈ plan, turn.fate = .ok)
          (recoverRun installation running plan d).2) ∧
    (∀ fps, PersistEnds installation fps (∀ turn ∈ plan, turn.fate = .ok) d
      (persistRun installation fps plan d).1 (persistRun installation fps plan d).2) ∧
    ∀ originals proposed, Pending installation originals proposed d →
      ((∀ file, Restorable (capRecovery originals proposed) file (d (.config file))) →
        (recoverRun installation false [] d).1 = some (.ok true)) ∧
      ∀ file, (Restorable (capRecovery originals proposed) file (d (.config file)) →
          (recoverRun installation false [] d).2.disk (.config file) = some (originals file)) ∧
        (¬ Restorable (capRecovery originals proposed) file (d (.config file)) →
          (recoverRun installation false [] d).2.disk (.config file) = d (.config file)) := by
  refine ⟨h.idle_or_pending, fun hidle running => recoverRun_idle hplan hidle running,
    fun _ _ hd running => recoverRun_pending hplan hd running,
    fun fps => persistRun_ends hplan fps h.idle_or_pending, fun originals proposed hd => ?_⟩
  obtain ⟨outcome, hrun, hends⟩ := run_of_wpTask (wpTask_recover_undisturbed (C := fun _ => True) hd)
  unfold recoverRun
  rw [hrun]
  cases outcome with
  | ok recovered =>
    obtain ⟨rfl, hfiles⟩ := hends
    exact ⟨fun _ => rfl, fun file => ⟨fun _ => (hfiles file).2, fun hnot => absurd (hfiles file).1 hnot⟩⟩
  | error e =>
    obtain ⟨⟨file, hnot⟩, hfiles⟩ := hends
    exact ⟨fun hall => absurd (hall file) hnot, hfiles⟩

end

/-! ## 6. A small installation -/

def smallInstallation : GameInstallation := ⟨ascii "C:/KF2", ascii "C:/KF2/Config"⟩

/-- Both files with a cap of this many frames. -/
def smallFiles (fps : String) : CapFile → Bytes :=
  perFile (ascii ("[Startup]\nt.MaxFPS=" ++ fps ++ "\n"))
    (ascii ("[KFGame.KFGameEngine]\nbSmoothFrameRate=True\nMinSmoothedFrameRate=22.000000\n" ++
      "MaxSmoothedFrameRate=" ++ fps ++ ".000000\n"))

def smallDisk : CapDisk
  | .record => none
  | .config file => some (smallFiles "62" file)

/-- The process stops behind the replacement of the first file. -/
def stoppedPlan : List (Turn CapPath Bytes) := List.replicate 14 ⟨[], .ok⟩ ++ [⟨[], .crash⟩]

def stoppedDisk : CapDisk := (@persistRun _ cLocale smallInstallation 90 stoppedPlan smallDisk).2.disk

theorem stoppedDisk_eq :
    stoppedDisk .record = some (capRecord smallInstallation (smallFiles "62") (smallFiles "90")) ∧
      stoppedDisk (.config .console) = some (smallFiles "90" .console) ∧
      stoppedDisk (.config .game) = some (smallFiles "62" .game) := by
  decide +kernel

/-- A process that stopped between the two files is recovered. -/
theorem frame_cap_all_or_nothing_stopped :
    stoppedDisk (.config .console) = some (smallFiles "90" .console) ∧
      (recoverRun smallInstallation false [] stoppedDisk).1 = some (.ok true) ∧
      ∀ file, (recoverRun smallInstallation false [] stoppedDisk).2.disk (.config file) =
        some (smallFiles "62" file) := by
  obtain ⟨hrecord, hconsole, hgame⟩ := stoppedDisk_eq
  have hstopped : ∀ turn ∈ stoppedPlan, OthersWriteFiles turn := by
    simp [stoppedPlan, OthersWriteFiles]
  have hhistory : @CapHistory _ cLocale smallInstallation stoppedDisk :=
    @CapHistory.persist _ cLocale _ _ (@CapHistory.start _ cLocale _ _ (.inl rfl)) 90 _ hstopped
  have hsmall : ∀ fps ∈ ["62", "90"], ∀ file,
      (smallFiles fps file).length ≤ maximumFrameCapConfigBytes := by
    intro fps hfps file
    have hshort : (smallFiles fps file).length ≤ 200 := by
      revert fps
      cases file <;> decide +kernel
    exact Nat.le_trans hshort (by decide)
  have hpending : Pending smallInstallation (smallFiles "62") (smallFiles "90") stoppedDisk :=
    ⟨hsmall "62" (by simp), hsmall "90" (by simp), hrecord⟩
  obtain ⟨-, -, -, -, hrestored⟩ := @frame_cap_all_or_nothing _ smallInstallation stoppedDisk [] (by simp)
    cLocale hhistory
  obtain ⟨hok, hfiles⟩ := hrestored _ _ hpending
  have hrestorable : ∀ file, Restorable (capRecovery (smallFiles "62") (smallFiles "90")) file
      (stoppedDisk (.config file)) := by
    intro file
    cases file
    · exact ⟨_, hconsole, hsmall "90" (by simp) _, .inr rfl⟩
    · exact ⟨_, hgame, hsmall "62" (by simp) _, .inl rfl⟩
  exact ⟨hconsole, hok hrestorable, fun file => (hfiles file).1 (hrestorable file)⟩

/-- Another program writes the first file when it has been verified. -/
def disturbedPlan : List (Turn CapPath Bytes) :=
  List.replicate 16 ⟨[], .ok⟩ ++ [⟨[(.config .console, some (ascii "x"))], .ok⟩]

/-- A recovery that succeeds need not leave both files with their original bytes. -/
theorem recovered_and_changed :
    (recoverRun smallInstallation false disturbedPlan stoppedDisk).1 = some (.ok true) ∧
      (recoverRun smallInstallation false disturbedPlan stoppedDisk).2.disk (.config .console) =
        some (ascii "x") := by
  decide +kernel

end Kf2Optimizer.Game
