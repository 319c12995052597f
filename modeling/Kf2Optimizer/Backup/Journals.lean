/-
# Journals

A journal that was written is read back (`parseJournal_journalText`).  One that says
`replacement_started` or `verification_complete` is PENDING: recovery still has to act on it, with
the manifest and the objects of its backup.
-/
import Kf2Optimizer.Backup.RestoreTransaction

namespace Kf2Optimizer.Backup

open Text Files Security Platform Config

/-! ## 1. Journals that were written -/

theorem inline_journalRecords (state : JournalState) {id : Bytes} (hid : ValidHash id) :
    ∀ r ∈ [ascii "version=1", ascii "state=" ++ state.text, ascii "id=" ++ id], Inline r := by
  intro r hr
  simp only [List.mem_cons, List.not_mem_nil, or_false] at hr
  rcases hr with rfl | rfl | rfl
  · exact ⟨by decide, by decide⟩
  · cases state <;> exact ⟨by decide, by decide⟩
  · have hkey : Inline (ascii "id=") := ⟨by decide, by decide⟩
    exact hkey.append hid.2.inline

/-- A line of a journal is its key and its value. -/
theorem JournalRecords.line_append (r : JournalRecords) {key : Bytes} (value : Bytes)
    (hkey : 0x3D ∉ key) (hne : key ≠ []) :
    r.line (key ++ 0x3D :: value) =
      if key = ascii "version" ∧ r.version = none then .ok { r with version := some value }
      else if key = ascii "state" ∧ r.state = none then .ok { r with state := some value }
      else if key = ascii "id" ∧ r.id = none then .ok { r with id := some value }
      else .error (ioFailure "Recovery journal contains a duplicate or unknown record") := by
  unfold JournalRecords.line
  rw [cut_append hkey]
  simp only [if_neg hne]

theorem JournalState.ofText_text (s : JournalState) : JournalState.ofText s.text = some s := by
  cases s <;> decide

/-- **A journal that was written is read back.** -/
theorem parseJournal_journalText (state : JournalState) {id : Bytes} (hid : ValidHash id) :
    parseJournal (journalText state id) id = .ok ⟨state, id⟩ := by
  have hversion : ascii "version=1" = ascii "version" ++ 0x3D :: ascii "1" := by decide
  have hstate : ascii "state=" ++ state.text = ascii "state" ++ 0x3D :: state.text := by
    cases state <;> decide
  have hrecord : ascii "id=" ++ id = ascii "id" ++ 0x3D :: id := by
    rw [show ascii "id=" = ascii "id" ++ [0x3D] by decide, List.append_assoc]
    rfl
  have hkeys : ascii "state" ≠ ascii "version" ∧ ascii "id" ≠ ascii "version" ∧
      ascii "id" ≠ ascii "state" := by decide
  have hfold : (records (journalText state id)).foldlM JournalRecords.line {} =
      .ok ⟨some (ascii "1"), some state.text, some id⟩ := by
    rw [journalText, records_lines (inline_journalRecords state hid), hversion, hstate, hrecord,
      List.foldlM_cons, JournalRecords.line_append _ _ (by decide) (by decide), if_pos ⟨rfl, rfl⟩]
    change List.foldlM JournalRecords.line _ _ = _
    rw [List.foldlM_cons, JournalRecords.line_append _ _ (by decide) (by decide),
      if_neg fun h => hkeys.1 h.1, if_pos ⟨rfl, rfl⟩]
    change List.foldlM JournalRecords.line _ _ = _
    rw [List.foldlM_cons, JournalRecords.line_append _ _ (by decide) (by decide),
      if_neg fun h => hkeys.2.1 h.1, if_neg fun h => hkeys.2.2 h.1, if_pos ⟨rfl, rfl⟩]
    rfl
  rw [parseJournal_eq hfold]
  simp only [Option.bind_some, JournalState.ofText_text]
  exact if_pos ⟨trivial, hid, trivial⟩

/-- A journal that is valid is one of the id. -/
theorem parseJournal_eq_ok {bytes id : Bytes} {j : RecoveryJournal}
    (h : parseJournal bytes id = .ok j) : ValidHash id ∧ j.id = id := by
  cases hr : (records bytes).foldlM JournalRecords.line ({} : JournalRecords) with
  | error e =>
    unfold parseJournal at h
    rw [hr] at h
    cases h
  | ok r =>
    rw [parseJournal_eq hr] at h
    split at h
    · split at h
      · rename_i hvalid
        obtain ⟨-, hhash, rfl⟩ := hvalid
        cases h
        exact ⟨hhash, rfl⟩
      · cases h
    · cases h

theorem length_journalText_le (state : JournalState) {id : Bytes} (hid : ValidHash id) :
    (journalText state id).length ≤ maxJournalBytes := by
  have hstate : state.text.length ≤ 21 := by cases state <;> decide
  have hkeys : (ascii "version=1").length = 9 ∧ (ascii "state=").length = 6 ∧
      (ascii "id=").length = 3 := by decide
  simp only [journalText, lines, List.flatMap_cons, List.flatMap_nil, List.length_append,
    List.length_singleton, List.length_nil, hkeys, hid.1, maxJournalBytes]
  omega

/-! ## 2. Journals that are pending -/

/-- The states in which recovery looks at the files of a transaction. -/
def JournalState.owed (s : JournalState) : Prop := s = .replacementStarted ∨ s = .verificationComplete

/-- The journal of the id is one that recovery still has to act on. -/
def Pending (d : StoreDisk) (id : Bytes) : Prop :=
  ∃ bytes j, d (.journal id) = some bytes ∧ bytes.length ≤ maxJournalBytes ∧
    parseJournal bytes id = .ok j ∧ j.state.owed

theorem validHash_of_pending {d : StoreDisk} {id : Bytes} (h : Pending d id) : ValidHash id := by
  obtain ⟨bytes, j, -, -, hparse, -⟩ := h
  exact (parseJournal_eq_ok hparse).1

theorem pending_iff_of_written {d : StoreDisk} {id : Bytes} {state : JournalState}
    (hid : ValidHash id) (h : d (.journal id) = some (journalText state id)) :
    Pending d id ↔ state.owed := by
  constructor
  · rintro ⟨bytes, j, hbytes, -, hparse, howed⟩
    rw [h, Option.some.injEq] at hbytes
    subst hbytes
    rw [parseJournal_journalText state hid] at hparse
    cases hparse
    exact howed
  · intro howed
    exact ⟨_, _, h, length_journalText_le state hid, parseJournal_journalText state hid, howed⟩

end Kf2Optimizer.Backup
