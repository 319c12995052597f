/-
# What pruning removes

What the files look like while `prune_verified` runs and after it, whatever fails on the way and
wherever the process stops, while other programs write configuration files only (`Outside`).  The
listing only removes corrupt manifests (`wpTask_listBackups`).
-/
import Kf2Optimizer.Backup.Retention

namespace Kf2Optimizer.Backup

open Text Files Security Platform Config

/-! ## 1. What is left -/

theorem newestFirst_perm (ordered : List (ℕ × BackupSet)) :
    (newestFirst ordered).Perm (ordered.map Prod.snd) :=
  (List.perm_insertionSort _ _).map _

theorem stem_of_isManifest {p : Path} (h : p.isManifest = true) : p = .manifest p.stem := by
  cases p with
  | manifest id => rfl
  | _ => cases h

theorem mem_present {directory : List Path} {kind : Path → Bool} {d : StoreDisk} {p : Path} :
    p ∈ present directory kind d ↔ p ∈ directory ∧ kind p = true ∧ d p ≠ none := by
  unfold present
  rw [List.mem_filter, List.mem_filter, Option.isSome_iff_ne_none, and_assoc]

theorem value_inspect (e : Error) (d : StoreDisk) : value (inspect e).run d = .ok () := rfl

theorem wpTask_entries {A : Turn Path Bytes → Prop} {directory : List Path} {w : StoreWorld}
    {kind : Path → Bool} {e : Error} {I : StoreWorld → Prop}
    {good : List Path → StoreWorld → Prop} {bad : Error → StoreWorld → Prop}
    {C : StoreWorld → Prop}
    (hstable : ∀ turn v, A turn → I v → I (v.intrude turn.others)) (hC : ∀ v, I v → C v)
    (hI : I w) (hok : ∀ v, I v → good (present directory kind v.disk) v)
    (hbad : CanFail A → ∀ v, I v → bad e v) :
    wpTask A (entries directory kind e) good bad C w := by
  rw [entries, wpTask_bind, wpTask_perform]
  intro turn hturn
  have h := hstable turn w hturn hI
  cases hfate : turn.fate with
  | ok => exact hok _ h
  | fail => exact hbad ⟨turn, hturn, .inl hfate⟩ _ h
  | late => exact hbad ⟨turn, hturn, .inr hfate⟩ _ h
  | crash => exact hC _ h

theorem wpTask_removeSafeRegularFile {A : Turn Path Bytes → Prop} {w : StoreWorld} (hA : Outside A)
    (p : Path) :
    wpTask A (removeSafeRegularFile p)
      (fun _ w' => Removed (fun q => q = p) w w' ∧ w'.disk p = none)
      (fun _ w' => Removed (fun q => q = p) w w' ∧ CanFail A)
      (Removed (fun q => q = p) w) w := by
  rw [removeSafeRegularFile, wpTask_bind, wpTask_perform]
  intro turn hturn
  have h : Removed (fun q => q = p) w (w.intrude turn.others) :=
    (Removed.refl _ w).intrude (hA turn hturn)
  have hgone : Removed (fun q => q = p) w ((w.intrude turn.others).act (.remove p)) :=
    h.remove rfl
  cases hfate : turn.fate with
  | ok =>
    by_cases hthere : (w.intrude turn.others).disk p = none
    · simp only [Op.answer, if_pos hthere, wpTask_pure]
      refine ⟨hgone, ?_⟩
      rw [World.act_remove_missing _ hthere]
      exact hthere
    · simp only [Op.answer, if_neg hthere, wpTask_pure]
      refine ⟨hgone, ?_⟩
      rw [World.act_remove _ hthere]
      exact World.disk_own_same _ _ _
  | fail => exact ⟨h, turn, hturn, .inl hfate⟩
  | late => exact ⟨hgone, turn, hturn, .inr hfate⟩
  | crash => exact h

theorem Removed.oversized {directory : List Path} {X : Path → Prop} {w w' : StoreWorld}
    (h : Removed X w w')
    (hover : Oversized directory w'.disk) : Oversized directory w.disk := by
  obtain ⟨id, text, hvalid, hdir, htext, hlen⟩ := hover
  rcases h.gone _ (Path.stored_manifest id) with hsame | hnone
  · exact ⟨id, text, hvalid, hdir, hsame.symm.trans htext, hlen⟩
  · rw [hnone] at htext
    cases htext

/-- **The second loop** removes objects that are not in the list. -/
theorem wpTask_removeObjects {A : Turn Path Bytes → Prop} {w : StoreWorld} (hA : Outside A)
    (directory : List Path) (referenced : List Bytes) :
    wpTask A (removeObjects directory referenced)
      (fun _ w' => Removed (fun p => p.isObject = true ∧ p.stem ∉ referenced) w w')
      (fun _ w' => Removed (fun p => p.isObject = true ∧ p.stem ∉ referenced) w w' ∧ CanFail A)
      (Removed (fun p => p.isObject = true ∧ p.stem ∉ referenced) w) w := by
  let I : StoreWorld → Prop := Removed (fun p => p.isObject = true ∧ p.stem ∉ referenced) w
  have hstable : ∀ turn v, A turn → I v → I (v.intrude turn.others) :=
    fun turn v hturn h => h.intrude (hA turn hturn)
  have hC : ∀ v, I v → I v := fun _ h => h
  unfold removeObjects
  refine wpTask_careful_bind (careful_inspect _) hstable hA hC (Removed.refl _ w) ?_ ?_
  · intro _ w1 h1 _
    rw [wpTask_bind]
    refine wpTask_entries hstable hC h1 (fun w2 h2 => ?_) fun hfail w2 h2 => ⟨h2, hfail⟩
    refine wpTask_forEach (I := fun _ => I) ?_ (fun v h => h) h2
    intro before p rest v hl hv
    have hobject : p.isObject = true :=
      (mem_present.mp (hl ▸ List.mem_append_right _ List.mem_cons_self)).2.1
    unfold removeUnreferenced
    by_cases hkeep : ¬ ValidHash p.stem ∨ p.stem ∈ referenced
    · rw [if_pos hkeep]
      exact hv
    · rw [if_neg hkeep, wpTask_bind]
      have hown : ∀ v', Removed (fun q => q = p) v v' → I v' := fun v' h =>
        Removed.trans hv (h.mono fun q _ hq => hq ▸ ⟨hobject, fun hmem => hkeep (.inr hmem)⟩)
      refine wpTask_mono (wpTask_removeSafeRegularFile hA _) (fun _ v' h => hown v' h.1)
        (fun _ v' h => ⟨hown v' h.1, h.2⟩) hown
  · intro e w1 h1 herr
    refine ⟨h1, ?_⟩
    rcases herr with hval | ⟨hfail, -⟩
    · rw [value_inspect] at hval
      cases hval
    · exact hfail

theorem outside_undisturbed : Outside Undisturbed := by
  rintro turn ⟨hothers, -⟩ o ho
  rw [hothers] at ho
  cases ho

/-- Every manifest is in the directory. -/
def Covers (directory : List Path) (d : StoreDisk) : Prop :=
  ∀ id, d (.manifest id) ≠ none → .manifest id ∈ directory

theorem Covers.own {directory : List Path} {w : StoreWorld} (h : Covers directory w.disk) {p : Path}
    (bytes : Option Bytes) (hp : ∀ id, p = .manifest id → p ∈ directory) :
    Covers directory (w.own p bytes).disk := by
  intro id hthere
  by_cases heq : .manifest id = p
  · rw [heq]
    exact hp id heq.symm
  · rw [World.disk_own_other _ _ heq] at hthere
    exact h id hthere

section

variable [Bcrypt]

namespace Removed

variable {X : Path → Prop} {w w' : StoreWorld}

/-- What loads afterwards loaded before. -/
theorem loads (h : Removed X w w') {id : Bytes} {b : BackupSet} (hb : Loads w'.disk id b) :
    Loads w.disk id b := by
  rcases h.gone (.manifest id) trivial with hsame | hnone
  · exact hb.congr hsame.symm
  · obtain ⟨text, htext, -⟩ := hb.manifest
    rw [hnone] at htext
    cases htext

/-- A backup that loads still does when its manifest is not among what was removed. -/
theorem loads_of_not (h : Removed X w w') {id : Bytes} {b : BackupSet} (hb : Loads w.disk id b)
    (hX : ¬ X (.manifest id)) : Loads w'.disk id b :=
  hb.congr (h.same _ (Path.stored_manifest _) hX).1

theorem verifies (h : Removed X w w') {b : BackupSet} (hb : Verifies w'.disk b)
    (hX : ∀ s ∈ b.snapshots, ¬ X (.object s.sha256)) : Verifies w.disk b := by
  refine ⟨h.loads hb.loads, fun s hs => ?_⟩
  obtain ⟨bytes, hbytes, hrest⟩ := hb.objects s hs
  exact ⟨bytes, (h.same _ (Path.stored_object _) (hX s hs)).1.symm.trans hbytes, hrest⟩

theorem verifies_of_not (h : Removed X w w') {b : BackupSet} (hb : Verifies w.disk b)
    (hmanifest : ¬ X (.manifest b.id)) (hX : ∀ s ∈ b.snapshots, ¬ X (.object s.sha256)) :
    Verifies w'.disk b :=
  hb.congr (h.same _ (Path.stored_manifest _) hmanifest).1 fun s hs =>
    (h.same _ (Path.stored_object _) (hX s hs)).1

end Removed

/-! ## 2. The listing -/

theorem loadedAt_eq_some {d : StoreDisk} {p : Path} {b : BackupSet} :
    loadedAt d p = some b ↔ Loads d p.stem b := by
  rw [← value_load_eq_ok, loadedAt]
  cases value (load p.stem).run d with
  | ok b' => simp [Except.toOption]
  | error e => simp [Except.toOption]

/-- **The listing** has the backups whose manifests are in the directory and load. -/
theorem mem_backupsOf {directory : List Path} {w : StoreWorld} {b : BackupSet} :
    b ∈ backupsOf directory w ↔ .manifest b.id ∈ directory ∧ Loads w.disk b.id b := by
  have hmem : b ∈ ((present directory Path.isManifest w.disk).map (loadedAt w.disk)).reduceOption ↔
      .manifest b.id ∈ directory ∧ Loads w.disk b.id b := by
    rw [List.reduceOption_mem_iff, List.mem_map]
    constructor
    · rintro ⟨p, hp, hb⟩
      obtain ⟨hdir, hkind, -⟩ := mem_present.mp hp
      have hloads := loadedAt_eq_some.mp hb
      rw [stem_of_isManifest hkind, ← hloads.id_eq] at hdir
      rw [← hloads.id_eq] at hloads
      exact ⟨hdir, hloads⟩
    · rintro ⟨hdir, hloads⟩
      obtain ⟨text, htext, -⟩ := hloads.manifest
      refine ⟨.manifest b.id, mem_present.mpr ⟨hdir, rfl, ?_⟩, loadedAt_eq_some.mpr hloads⟩
      rw [htext]
      exact Option.some_ne_none text
  unfold backupsOf
  simp only
  split
  · rw [(newestFirst_perm _).mem_iff, List.map_map]
    exact (by simpa [stampedAt, Function.comp_def] using hmem)
  · exact hmem

/-- No manifest is listed twice. -/
theorem nodup_backupsOf {directory : List Path} (hnodup : directory.Nodup) (w : StoreWorld) :
    ((backupsOf directory w).map BackupSet.id).Nodup := by
  have hids : ∀ l : List Path, (∀ p ∈ l, p.isManifest = true) → l.Nodup →
      ((l.map (loadedAt w.disk)).reduceOption.map BackupSet.id).Nodup := by
    intro l
    induction l with
    | nil => intro _ _; simp [List.reduceOption]
    | cons p l ih =>
      intro hkind hnodup
      obtain ⟨hp, hkind⟩ := List.forall_mem_cons.mp hkind
      obtain ⟨hnotin, hnodup⟩ := List.nodup_cons.mp hnodup
      rw [List.map_cons]
      cases hload : loadedAt w.disk p with
      | none =>
        rw [List.reduceOption_cons_of_none]
        exact ih hkind hnodup
      | some b =>
        rw [List.reduceOption_cons_of_some, List.map_cons, List.nodup_cons]
        refine ⟨fun hmem => hnotin ?_, ih hkind hnodup⟩
        obtain ⟨b', hb', hid⟩ := List.mem_map.mp hmem
        rw [List.reduceOption_mem_iff, List.mem_map] at hb'
        obtain ⟨q, hq, hb'⟩ := hb'
        have hpid := (loadedAt_eq_some.mp hload).id_eq
        have hqid := (loadedAt_eq_some.mp hb').id_eq
        rw [stem_of_isManifest hp, ← hpid, ← hid, hqid, ← stem_of_isManifest (hkind q hq)]
        exact hq
  have hpresent : (present directory Path.isManifest w.disk).Nodup :=
    (hnodup.filter _).filter _
  have hall := hids _ (fun p hp => (mem_present.mp hp).2.1) hpresent
  unfold backupsOf
  simp only
  split
  · refine ((newestFirst_perm _).map _).nodup_iff.mpr ?_
    simpa [stampedAt, Function.comp_def] using hall
  · exact hall

section

variable {A : Turn Path Bytes → Prop} {directory : List Path} {w : StoreWorld}

/-- The manifests that a loop over entries has moved away. -/
def Moved (d : StoreDisk) (before : List Path) (p : Path) : Prop :=
  p ∈ before ∧ CorruptManifest d p

/-- The entry makes the listing give up. -/
def Unreadable (d : StoreDisk) (p : Path) : Prop :=
  ∃ e, value (load p.stem).run d = .error ⟨.operational, e⟩

/-- **A round of the listing.** -/
theorem wpTask_listed (hA : Outside A) {p : Path} {before : List Path} {w' : StoreWorld}
    (hp : p.isManifest = true) (hpresent : w.disk p ≠ none) (hfresh : p ∉ before)
    (hremoved : Removed (Moved w.disk before) w w') :
    wpTask A (listed p)
      (fun o w'' => o = loadedAt w.disk p ∧ ¬ Unreadable w.disk p ∧
        Removed (Moved w.disk (before ++ [p])) w w'')
      (fun _ w'' => Removed (CorruptManifest w.disk) w w'' ∧ (CanFail A ∨ Unreadable w.disk p))
      (Removed (CorruptManifest w.disk) w) w' := by
  have hstable : ∀ turn v, A turn → Removed (Moved w.disk before) w v →
      Removed (Moved w.disk before) w (v.intrude turn.others) :=
    fun turn v hturn h => h.intrude (hA turn hturn)
  have hC : ∀ v, Removed (Moved w.disk before) w v → Removed (CorruptManifest w.disk) w v :=
    fun v h => h.mono fun q _ hq => hq.2
  have hstored : p.stored := by
    rw [stem_of_isManifest hp]
    exact Path.stored_manifest _
  -- the entry has not been moved yet
  have hsame : ∀ v, Removed (Moved w.disk before) w v → v.disk p = w.disk p := fun v h =>
    (h.same p hstored fun hq => hfresh hq.1).1
  have hvalue : ∀ v, Removed (Moved w.disk before) w v →
      value (load p.stem).run v.disk = value (load p.stem).run w.disk := by
    intro v h
    apply value_load_congr
    rw [← stem_of_isManifest hp]
    exact hsame v h
  have hkeep : ∀ v, Removed (Moved w.disk before) w v →
      Removed (Moved w.disk (before ++ [p])) w v :=
    fun v h => h.mono fun q _ hq => ⟨List.mem_append_left _ hq.1, hq.2⟩
  unfold listed
  refine wpTask_careful_bind (careful_inspect _) hstable hA hC hremoved ?_ ?_
  · intro _ w1 h1 _
    refine wpTask_careful_attempt (careful_load p.stem) hstable hA hC h1 ?_ ?_
    · intro b w2 h2 hval
      rw [hvalue w1 h1] at hval
      refine ⟨?_, ?_, hkeep w2 h2⟩
      · rw [loadedAt, hval]
        rfl
      · rintro ⟨e, he⟩
        rw [hval] at he
        cases he
    · rintro ⟨failure, e⟩ w2 h2 herr
      rw [hvalue w1 h1] at herr
      cases failure with
      | operational =>
        refine ⟨hC w2 h2, ?_⟩
        rcases herr with hval | ⟨hfail, -⟩
        · exact .inr ⟨e, hval⟩
        · exact .inl hfail
      | corrupt =>
        rcases herr with hval | ⟨-, hoperational⟩
        · have hcorrupt : CorruptManifest w.disk p := ⟨p.stem, e, stem_of_isManifest hp, hval⟩
          have hgone : ∀ v, Removed (Moved w.disk before) w v →
              Removed (Moved w.disk (before ++ [p])) w (v.act (.remove p)) := fun v h =>
            (hkeep v h).remove ⟨List.mem_append_right _ (List.mem_singleton_self p), hcorrupt⟩
          have hC' : ∀ v, Removed (Moved w.disk (before ++ [p])) w v →
              Removed (CorruptManifest w.disk) w v := fun v h => h.mono fun q _ hq => hq.2
          rw [wpTask_bind, wpTask_adapt, quarantineRegularFile, wpTask_bind, wpTask_perform]
          intro turn hturn
          have h3 := hstable turn w2 hturn h2
          have hanswer : (Op.remove p).answer (w2.intrude turn.others) = .done := by
            rw [Op.answer, if_neg]
            rw [hsame _ h3]
            exact hpresent
          cases hfate : turn.fate with
          | ok =>
            simp only [hanswer]
            refine ⟨?_, ?_, hgone _ h3⟩
            · rw [loadedAt, hval]
              rfl
            · rintro ⟨e', he'⟩
              rw [hval] at he'
              cases he'
          | fail => exact ⟨hC _ h3, .inl ⟨turn, hturn, .inl hfate⟩⟩
          | late => exact ⟨hC' _ (hgone _ h3), .inl ⟨turn, hturn, .inr hfate⟩⟩
          | crash => exact hC _ h3
        · cases hoperational
  · intro e w1 h1 herr
    refine ⟨hC w1 h1, ?_⟩
    rcases herr with hval | ⟨hfail, -⟩
    · rw [value_inspect] at hval
      cases hval
    · exact .inl hfail

/-- **The order of the listing** goes by the times of the manifests, which nothing has changed. -/
theorem wpTask_inOrder (hA : Outside A) {X : Path → Prop} {backups : List BackupSet}
    {w' : StoreWorld} (hbackups : ∀ b ∈ backups, Loads w.disk b.id b ∧ ¬ X (.manifest b.id))
    (hremoved : Removed X w w') :
    wpTask A (inOrder backups)
      (fun l w'' => l = (if 1 < backups.length then newestFirst (backups.map (stampedAt w))
        else backups) ∧ Removed X w w'')
      (fun _ w'' => Removed X w w'' ∧ CanFail A) (Removed X w) w' := by
  have hstable : ∀ turn v, A turn → Removed X w v → Removed X w (v.intrude turn.others) :=
    fun turn v hturn h => h.intrude (hA turn hturn)
  unfold inOrder
  by_cases hlen : 1 < backups.length
  · simp only [if_pos hlen]
    rw [wpTask_bind]
    refine wpTask_collect
      (I := fun before stamps v => stamps = before.map (stampedAt w) ∧ Removed X w v)
      ?_ ?_ ⟨rfl, hremoved⟩
    · rintro before b rest stamps v hl ⟨hstamps, hv⟩
      obtain ⟨hloads, hX⟩ := hbackups b (hl ▸ List.mem_append_right _ List.mem_cons_self)
      obtain ⟨text, htext, -⟩ := hloads.manifest
      rw [stamped, wpTask_bind, wpTask_perform]
      intro turn hturn
      have h := hstable turn v hturn hv
      obtain ⟨hdisk, hstamp⟩ := h.same _ (Path.stored_manifest b.id) hX
      have hanswer : (Op.stamp (Path.manifest b.id)).answer (v.intrude turn.others) =
          .time (lastWrite (.manifest b.id) w.log) := by
        rw [Op.answer, if_neg, hstamp]
        rw [hdisk, htext]
        exact Option.some_ne_none text
      cases hfate : turn.fate with
      | ok =>
        simp only [hanswer]
        refine ⟨?_, h⟩
        rw [hstamps, List.map_append]
        rfl
      | fail => exact ⟨h, turn, hturn, .inl hfate⟩
      | late => exact ⟨h, turn, hturn, .inr hfate⟩
      | crash => exact h
    · rintro stamps v ⟨hstamps, hv⟩
      rw [hstamps]
      exact ⟨rfl, hv⟩
  · simp only [if_neg hlen]
    exact ⟨rfl, hremoved⟩

/-- A manifest that is there and cannot be loaded for a reason of its own is too large. -/
theorem oversized_of_unreadable {p : Path} (hp : p ∈ present directory Path.isManifest w.disk)
    (h : Unreadable w.disk p) : Oversized directory w.disk := by
  obtain ⟨hdir, hkind, hthere⟩ := mem_present.mp hp
  obtain ⟨text, htext⟩ := Option.ne_none_iff_exists'.mp hthere
  rw [stem_of_isManifest hkind] at hdir htext
  obtain ⟨hvalid, hlen⟩ := (value_load_operational_iff htext).mp h
  exact ⟨p.stem, text, hvalid, hdir, htext, hlen⟩

theorem unreadable_of_oversized (h : Oversized directory w.disk) :
    ∃ p ∈ present directory Path.isManifest w.disk, Unreadable w.disk p := by
  obtain ⟨id, text, hvalid, hdir, htext, hlen⟩ := h
  refine ⟨.manifest id, mem_present.mpr ⟨hdir, rfl, ?_⟩, ?_⟩
  · rw [htext]
    exact Option.some_ne_none text
  · exact (value_load_operational_iff htext).mpr ⟨hvalid, hlen⟩

/-- **The listing** is `backupsOf`, and has moved away corrupt manifests at most.  It gives up when
an operation fails or a manifest is too large. -/
theorem wpTask_listBackups (hA : Outside A) (hnodup : directory.Nodup) :
    wpTask A (listBackups directory)
      (fun l w' => l = backupsOf directory w ∧ ¬ Oversized directory w.disk ∧
        Removed (CorruptManifest w.disk) w w')
      (fun _ w' => Removed (CorruptManifest w.disk) w w' ∧
        (CanFail A ∨ Oversized directory w.disk))
      (Removed (CorruptManifest w.disk) w) w := by
  let I : StoreWorld → Prop := Removed (Moved w.disk []) w
  have hstable : ∀ turn v, A turn → I v → I (v.intrude turn.others) :=
    fun turn v hturn h => h.intrude (hA turn hturn)
  have hC' : ∀ before v, Removed (Moved w.disk before) w v →
      Removed (CorruptManifest w.disk) w v := fun before v h => h.mono fun q _ hq => hq.2
  have hC : ∀ v, I v → Removed (CorruptManifest w.disk) w v := hC' []
  unfold listBackups
  refine wpTask_careful_bind (careful_inspect _) hstable hA hC (Removed.refl _ w) ?_ ?_
  · intro _ w1 h1 _
    rw [wpTask_bind]
    refine wpTask_entries hstable hC h1 (fun w2 h2 => ?_) fun hfail w2 h2 => ⟨hC w2 h2, .inl hfail⟩
    have hlisted : present directory Path.isManifest w2.disk =
        present directory Path.isManifest w.disk := by
      refine List.filter_congr fun p hp => ?_
      have hkind := (List.mem_filter.mp hp).2
      rw [stem_of_isManifest hkind, (h2.same _ (Path.stored_manifest _) fun h => by cases h.1).1]
    rw [hlisted, wpTask_bind]
    refine wpTask_collect
      (I := fun before bs v => bs = before.map (loadedAt w.disk) ∧
        (∀ p ∈ before, ¬ Unreadable w.disk p) ∧ Removed (Moved w.disk before) w v)
      ?_ ?_ ⟨rfl, by simp, h2⟩
    · rintro before p rest bs v hl ⟨hbs, hread, hv⟩
      have hmem : p ∈ present directory Path.isManifest w.disk :=
        hl ▸ List.mem_append_right _ List.mem_cons_self
      obtain ⟨-, hkind, hthere⟩ := mem_present.mp hmem
      have hfresh : p ∉ before := by
        have hnodup' : (before ++ p :: rest).Nodup := hl ▸ (hnodup.filter _).filter _
        exact fun hp => (List.nodup_append.mp hnodup').2.2 p hp p List.mem_cons_self rfl
      refine wpTask_mono (wpTask_listed hA hkind hthere hfresh hv) ?_ ?_ fun _ hc => hc
      · rintro o v' ⟨ho, hreadable, hv'⟩
        refine ⟨?_, ?_, hv'⟩
        · rw [hbs, ho, List.map_append]
          rfl
        · intro q hq
          rcases List.mem_append.mp hq with hq | hq
          · exact hread q hq
          · rw [List.mem_singleton.mp hq]
            exact hreadable
      · rintro e v' ⟨hv', hfail | hunreadable⟩
        · exact ⟨hv', .inl hfail⟩
        · exact ⟨hv', .inr (oversized_of_unreadable hmem hunreadable)⟩
    · rintro bs v ⟨hbs, hread, hv⟩
      subst hbs
      have hsmall : ¬ Oversized directory w.disk := fun hover => by
        obtain ⟨p, hp, hunreadable⟩ := unreadable_of_oversized hover
        exact hread p hp hunreadable
      have hloads : ∀ b ∈ ((present directory Path.isManifest w.disk).map
          (loadedAt w.disk)).reduceOption,
          Loads w.disk b.id b ∧ ¬ CorruptManifest w.disk (.manifest b.id) := by
        intro b hb
        rw [List.reduceOption_mem_iff, List.mem_map] at hb
        obtain ⟨p, -, hb⟩ := hb
        have hload := loadedAt_eq_some.mp hb
        rw [← hload.id_eq] at hload
        refine ⟨hload, ?_⟩
        rintro ⟨id, e, hid, hcorrupt⟩
        obtain rfl : b.id = id := by injection hid
        rw [value_load_eq_ok.mpr hload] at hcorrupt
        cases hcorrupt
      refine wpTask_mono (wpTask_inOrder hA hloads (hC' _ _ hv)) ?_ ?_ fun _ hc => hc
      · rintro l v' ⟨hl, hv'⟩
        exact ⟨hl, hsmall, hv'⟩
      · rintro e v' ⟨hv', hfail⟩
        exact ⟨hv', .inl hfail⟩
  · intro e w1 h1 herr
    refine ⟨hC w1 h1, ?_⟩
    rcases herr with hval | ⟨hfail, -⟩
    · rw [value_inspect] at hval
      cases hval
    · exact .inl hfail

/-! ## 3. Pruning -/

/-- What the first loop removes of a backup that verifies. -/
def VerifiedFile (l : List BackupSet) (d : StoreDisk) (p : Path) : Prop :=
  ∃ b ∈ l, Verifies d b ∧ (p = .journal b.id ∨ p = .manifest b.id)

/-- **The first loop** removes the journals and the manifests of what verifies, and of nothing
else. -/
theorem wpTask_removeVerified (hA : Outside A) (l : List BackupSet)
    (hnodup : (l.map BackupSet.id).Nodup) :
    wpTask A (removeVerified l)
      (fun _ w' => Removed (VerifiedFile l w.disk) w w' ∧
        (¬ CanFail A → ∀ b ∈ l, Verifies w.disk b → w'.disk (.manifest b.id) = none))
      (fun _ w' => Removed (VerifiedFile l w.disk) w w' ∧ CanFail A)
      (Removed (VerifiedFile l w.disk) w) w := by
  induction l generalizing w with
  | nil =>
    rw [removeVerified, wpTask_pure]
    exact ⟨Removed.refl _ w, fun _ b hb => by cases hb⟩
  | cons b l ih =>
    obtain ⟨hfresh, hnodup⟩ := List.nodup_cons.mp hnodup
    let I : StoreWorld → Prop := Removed (fun _ => False) w
    have hstable : ∀ turn v, A turn → I v → I (v.intrude turn.others) :=
      fun turn v hturn h => h.intrude (hA turn hturn)
    have hany : ∀ (Y : Path → Prop) v, I v → Removed Y w v :=
      fun Y v h => h.mono fun _ _ h => h.elim
    rw [removeVerified]
    refine wpTask_careful_attempt (careful_verify b) hstable hA (hany _) (Removed.refl _ w) ?_ ?_
    · intro _ w1 h1 hval
      have hverifies : Verifies w.disk b := value_verify_eq_ok.mp hval
      have hjournal : VerifiedFile (b :: l) w.disk (.journal b.id) :=
        ⟨b, List.mem_cons_self, hverifies, .inl rfl⟩
      have hmanifest : VerifiedFile (b :: l) w.disk (.manifest b.id) :=
        ⟨b, List.mem_cons_self, hverifies, .inr rfl⟩
      have h2 : ∀ v, Removed (fun q => q = .journal b.id) w1 v →
          Removed (VerifiedFile (b :: l) w.disk) w v := fun v h =>
        (hany _ w1 h1).trans (h.mono fun q _ hq => hq ▸ hjournal)
      rw [wpTask_bind]
      refine wpTask_mono (wpTask_removeSafeRegularFile hA _) ?_
        (fun e v hv => ⟨h2 v hv.1, hv.2⟩) h2
      rintro _ w2 ⟨hw2, -⟩
      have h3 : ∀ v, Removed (fun q => q = .manifest b.id) w2 v →
          Removed (VerifiedFile (b :: l) w.disk) w v := fun v h =>
        (h2 w2 hw2).trans (h.mono fun q _ hq => hq ▸ hmanifest)
      rw [wpTask_bind]
      refine wpTask_mono (wpTask_removeSafeRegularFile hA _) ?_
        (fun e v hv => ⟨h3 v hv.1, hv.2⟩) h3
      rintro _ w3 ⟨hw3, hgone⟩
      have hown : Removed (fun q => q = .journal b.id ∨ q = .manifest b.id) w w3 :=
        ((hany _ w1 h1).trans (hw2.mono fun _ _ => .inl)).trans (hw3.mono fun _ _ => .inr)
      -- what verifies later has verified from the start
      have hrest : ∀ p : Path, p.stored → VerifiedFile l w3.disk p →
          VerifiedFile (b :: l) w.disk p := by
        rintro p - ⟨b', hb', hver, hp⟩
        refine ⟨b', List.mem_cons_of_mem b hb', hown.verifies hver fun s _ => ?_, hp⟩
        rintro (h | h) <;> cases h
      rw [wpTask_bind]
      refine wpTask_mono (ih hnodup) ?_
        (fun e v hv => ⟨(h3 w3 hw3).trans (hv.1.mono hrest), hv.2⟩)
        fun v hv => (h3 w3 hw3).trans (hv.mono hrest)
      rintro n w4 ⟨hw4, hall⟩
      refine ⟨(h3 w3 hw3).trans (hw4.mono hrest), fun hcan b' hb' hver => ?_⟩
      rcases List.mem_cons.mp hb' with rfl | hb'
      · rcases hw4.gone _ (Path.stored_manifest b'.id) with hsame | hnone
        · rw [hsame, hgone]
        · exact hnone
      · refine hall hcan b' hb' (hown.verifies_of_not hver ?_ ?_)
        · rintro (h | h)
          · cases h
          · injection h with hid
            exact hfresh (hid ▸ List.mem_map_of_mem hb')
        · rintro s - (h | h) <;> cases h
    · intro e w1 h1 herr
      have hrest : ∀ p : Path, p.stored → VerifiedFile l w1.disk p →
          VerifiedFile (b :: l) w.disk p := by
        rintro p - ⟨b', hb', hver, hp⟩
        exact ⟨b', List.mem_cons_of_mem b hb', Removed.verifies h1 hver fun _ _ h => h, hp⟩
      refine wpTask_mono (ih hnodup) ?_
        (fun e v hv => ⟨(hany _ w1 h1).trans (hv.1.mono hrest), hv.2⟩)
        fun v hv => (hany _ w1 h1).trans (hv.mono hrest)
      rintro n w4 ⟨hw4, hall⟩
      refine ⟨(hany _ w1 h1).trans (hw4.mono hrest), fun hcan b' hb' hver => ?_⟩
      rcases List.mem_cons.mp hb' with rfl | hb'
      · rcases herr with hval | ⟨hfail, -⟩
        · rw [value_verify_eq_ok.mpr hver] at hval
          cases hval
        · exact absurd hfail hcan
      · exact hall hcan b' hb' (Removed.verifies_of_not h1 hver (fun h => h) fun _ _ h => h)

/-- No manifest that loads refers to the object. -/
def Unreferenced (d : StoreDisk) (p : Path) : Prop :=
  p.isObject = true ∧ ∀ id b, Loads d id b → p.stem ∉ b.snapshots.map FileSnapshot.sha256

/-- What pruning may remove on the way to `w'`: corrupt manifests, and, unless the listing gives
up, the journals and the manifests of what verifies behind the first `keepLatest` and objects that
nothing refers to any more. -/
def Removable (directory : List Path) (keepLatest : ℕ) (w w' : StoreWorld) (p : Path) : Prop :=
  CorruptManifest w.disk p ∨ ¬ Oversized directory w.disk ∧
    (VerifiedFile ((backupsOf directory w).drop (kept keepLatest)) w.disk p ∨
      Unreferenced w'.disk p)

/-- The files after pruning, or while it runs. -/
def Pruned (directory : List Path) (keepLatest : ℕ) (w w' : StoreWorld) : Prop :=
  Removed (Removable directory keepLatest w w') w w'

theorem Removed.corrupt {X : Path → Prop} {w w' : StoreWorld} (h : Removed X w w') {p : Path}
    (hp : CorruptManifest w'.disk p) : CorruptManifest w.disk p := by
  obtain ⟨id, e, rfl, hval⟩ := hp
  rcases h.gone _ (Path.stored_manifest id) with hsame | hnone
  · exact ⟨id, e, rfl, (value_load_congr hsame).symm.trans hval⟩
  · obtain ⟨e', he'⟩ := value_load_of_invalid w.disk (value_load_of_none hnone hval)
    exact ⟨id, e', rfl, he'⟩

/-- **Pruning**, whatever happens on the way.  When nothing fails, what verifies behind the first
`keepLatest` is gone at the end. -/
theorem wpTask_pruneVerified (hA : Outside A) (hnodup : directory.Nodup)
    (hcovers : Covers directory w.disk) (keepLatest : ℕ) :
    wpTask A (pruneVerified directory keepLatest)
      (fun _ w' => Pruned directory keepLatest w w' ∧ ¬ Oversized directory w.disk ∧
        (¬ CanFail A → ∀ b ∈ (backupsOf directory w).drop (kept keepLatest),
          Verifies w.disk b → w'.disk (.manifest b.id) = none))
      (fun _ w' => Pruned directory keepLatest w w' ∧
        (CanFail A ∨ Oversized directory w.disk))
      (Pruned directory keepLatest w) w := by
  have hfirst : ∀ v, Removed (CorruptManifest w.disk) w v → Pruned directory keepLatest w v :=
    fun v h => h.mono fun _ _ hp => .inl hp
  unfold pruneVerified
  rw [wpTask_bind]
  refine wpTask_mono (wpTask_listBackups hA hnodup) ?_ (fun e v hv => ⟨hfirst v hv.1, hv.2⟩) hfirst
  rintro backups w1 ⟨rfl, hsmall, h1⟩
  -- the first loop
  let l := (backupsOf directory w).drop (kept keepLatest)
  have hids : (l.map BackupSet.id).Nodup := by
    rw [List.map_drop]
    exact (nodup_backupsOf hnodup w).sublist (List.drop_sublist _ _)
  have hverified : ∀ v, Removed (VerifiedFile l w1.disk) w1 v →
      Removed (fun p => CorruptManifest w.disk p ∨ VerifiedFile l w.disk p) w v := by
    intro v h
    refine (h1.mono fun _ _ => .inl).trans (h.mono fun p _ hp => .inr ?_)
    obtain ⟨b, hb, hver, hp⟩ := hp
    refine ⟨b, hb, h1.verifies hver fun s _ => ?_, hp⟩
    rintro ⟨id, e, h, -⟩
    cases h
  have hsecond : ∀ v, Removed (fun p => CorruptManifest w.disk p ∨ VerifiedFile l w.disk p) w v →
      Pruned directory keepLatest w v := by
    intro v h
    refine h.mono fun p _ hp => ?_
    rcases hp with hp | hp
    · exact .inl hp
    · exact .inr ⟨hsmall, .inl hp⟩
  rw [wpTask_bind]
  refine wpTask_mono (wpTask_removeVerified hA l hids) ?_
    (fun e v hv => ⟨hsecond v (hverified v hv.1), .inl hv.2⟩)
    fun v hv => hsecond v (hverified v hv)
  rintro removed w2 ⟨h2, hexact⟩
  -- the second listing
  have hlisted : ∀ v, Removed (CorruptManifest w2.disk) w2 v →
      Removed (fun p => CorruptManifest w.disk p ∨ VerifiedFile l w.disk p) w v := fun v h =>
    (hverified w2 h2).trans (h.mono fun p _ hp => .inl ((hverified w2 h2).corrupt hp))
  rw [wpTask_bind]
  refine wpTask_mono (wpTask_listBackups hA hnodup) ?_
    (fun e v hv => ⟨hsecond v (hlisted v hv.1), ?_⟩) fun v hv => hsecond v (hlisted v hv)
  rotate_left
  · rcases hv.2 with hfail | hover
    · exact .inl hfail
    · exact .inr ((hverified w2 h2).oversized hover)
  rintro retained w3 ⟨rfl, -, h3⟩
  -- the second loop
  have hobjects : ∀ v, Removed (fun p => p.isObject = true ∧
      p.stem ∉ referencedObjects (backupsOf directory w2)) w3 v →
      Pruned directory keepLatest w v := by
    intro v h
    have hloaded : ∀ id b, Loads v.disk id b → b ∈ backupsOf directory w2 := by
      intro id b hb
      have hb2 := h3.loads (h.loads hb)
      have hb0 := (hverified w2 h2).loads hb2
      obtain ⟨text, htext, -⟩ := hb0.manifest
      have hdir : Path.manifest id ∈ directory := hcovers id (htext ▸ Option.some_ne_none text)
      obtain rfl := hb2.id_eq
      exact mem_backupsOf.mpr ⟨hdir, hb2⟩
    refine ((hlisted w3 h3).mono fun p _ hp => ?_).trans (h.mono fun p _ hp => ?_)
    · rcases hp with hp | hp
      · exact .inl hp
      · exact .inr ⟨hsmall, .inl hp⟩
    · refine .inr ⟨hsmall, .inr ⟨hp.1, fun id b hb hmem => hp.2 ?_⟩⟩
      exact List.mem_flatMap.mpr ⟨b, hloaded id b hb, hmem⟩
  rw [wpTask_bind]
  refine wpTask_mono (wpTask_removeObjects hA _ _) ?_
    (fun e v hv => ⟨hobjects v hv.1, .inl hv.2⟩) hobjects
  intro _ w4 h4
  refine ⟨hobjects w4 h4, hsmall, fun hcan b hb hver => ?_⟩
  have hgone : w2.disk (.manifest b.id) = none := by
    refine hexact hcan b hb (h1.verifies_of_not hver ?_ ?_)
    · rintro ⟨id, e, hid, hcorrupt⟩
      obtain rfl : b.id = id := by injection hid
      rw [value_load_eq_ok.mpr hver.loads] at hcorrupt
      cases hcorrupt
    · rintro s - ⟨id, e, h, -⟩
      cases h
  have hgone3 : w3.disk (.manifest b.id) = none := by
    rcases h3.gone _ (Path.stored_manifest b.id) with hsame | hnone
    · exact hsame.trans hgone
    · exact hnone
  rcases h4.gone _ (Path.stored_manifest b.id) with hsame | hnone
  · exact hsame.trans hgone3
  · exact hnone

end

/-! ## 4. A usable backup -/

/-- The answer of `verify`. -/
def verified (d : StoreDisk) (b : BackupSet) : Bool :=
  match value (verify b).run d with
  | .ok _ => true
  | .error _ => false

theorem verified_iff {d : StoreDisk} {b : BackupSet} : verified d b = true ↔ Verifies d b := by
  rw [← value_verify_eq_ok, verified]
  cases value (verify b).run d with
  | ok u => simp
  | error e => simp

/-- The latest backup that verifies. -/
def newestVerified (directory : List Path) (w : StoreWorld) : Option BackupSet :=
  (backupsOf directory w).find? (verified w.disk)

/-- The latest backup that verified is still listed and verifies, and the objects that the manifests
refer to are as they were. -/
structure KeepsUsable (directory : List Path) (w w' : StoreWorld) : Prop where
  newest : ∀ b, newestVerified directory w = some b →
    b ∈ backupsOf directory w' ∧ Verifies w'.disk b
  objects : ∀ id b, Loads w'.disk id b → ∀ s ∈ b.snapshots,
    w'.disk (.object s.sha256) = w.disk (.object s.sha256)

section

variable {directory : List Path} {w w' : StoreWorld} {keepLatest : ℕ}

theorem not_corrupt_of_loads {d : StoreDisk} {id : Bytes} {b : BackupSet} (h : Loads d id b) :
    ¬ CorruptManifest d (.manifest id) := by
  rintro ⟨id', e, hid, hcorrupt⟩
  obtain rfl : id = id' := by injection hid
  rw [value_load_eq_ok.mpr h] at hcorrupt
  cases hcorrupt

theorem not_corrupt_object (d : StoreDisk) (sha256 : Bytes) :
    ¬ CorruptManifest d (.object sha256) := by
  rintro ⟨id, e, h, -⟩
  cases h

/-- Objects that a manifest refers to stay. -/
theorem Pruned.objects (h : Pruned directory keepLatest w w') {id : Bytes} {b : BackupSet}
    (hb : Loads w'.disk id b) {s : FileSnapshot} (hs : s ∈ b.snapshots) :
    w'.disk (.object s.sha256) = w.disk (.object s.sha256) := by
  refine (h.same _ (Path.stored_object _) ?_).1
  rintro (hcorrupt | ⟨-, ⟨b', -, -, heq | heq⟩ | hunreferenced⟩)
  · exact not_corrupt_object _ _ hcorrupt
  · cases heq
  · cases heq
  · exact hunreferenced.2 id b hb (List.mem_map_of_mem hs)

/-- A backup that pruning keeps its hands off still verifies. -/
theorem Pruned.verifies (h : Pruned directory keepLatest w w') {b : BackupSet}
    (hb : Verifies w.disk b)
    (hkept : Oversized directory w.disk ∨
      ∀ b' ∈ (backupsOf directory w).drop (kept keepLatest), b'.id ≠ b.id) :
    Verifies w'.disk b := by
  have hloads : Loads w'.disk b.id b := by
    refine Removed.loads_of_not h hb.loads ?_
    rintro (hcorrupt | ⟨hsmall, ⟨b', hb', -, heq | heq⟩ | hunreferenced⟩)
    · exact not_corrupt_of_loads hb.loads hcorrupt
    · cases heq
    · rcases hkept with hover | hkept
      · exact hsmall hover
      · injection heq with hid
        exact hkept b' hb' hid.symm
    · cases hunreferenced.1
  refine ⟨hloads, fun s hs => ?_⟩
  obtain ⟨bytes, hbytes, hrest⟩ := hb.objects s hs
  exact ⟨bytes, (h.objects hloads hs).trans hbytes, hrest⟩

/-- **Pruning keeps the latest usable backup** exactly when the listing gives up or nothing stands
between that backup and the first `keep_latest` places: it goes by age, and damaged backups count.
-/
theorem prune_keepsUsable_iff (hnodup : directory.Nodup) (hcovers : Covers directory w.disk) :
    KeepsUsable directory w (run (pruneVerified directory keepLatest).run [] w).2 ↔
      Oversized directory w.disk ∨ ∀ b, newestVerified directory w = some b →
        b ∈ (backupsOf directory w).take (kept keepLatest) := by
  obtain ⟨r, -, hr⟩ := run_of_wpTask
    (wpTask_pruneVerified outside_undisturbed hnodup hcovers keepLatest)
  generalize (run (pruneVerified directory keepLatest).run [] w).2 = w' at hr
  have hpruned : Pruned directory keepLatest w w' := by
    cases r with
    | ok n => exact hr.1
    | error e => exact hr.1
  constructor
  · intro hkeeps
    by_cases hover : Oversized directory w.disk
    · exact .inl hover
    · refine .inr fun b hb => ?_
      obtain ⟨-, hverifies⟩ := hkeeps.newest b hb
      have hmem : b ∈ backupsOf directory w := List.mem_of_find?_eq_some hb
      have hver : Verifies w.disk b := verified_iff.mp (List.find?_some hb)
      rw [← List.take_append_drop (kept keepLatest) (backupsOf directory w)] at hmem
      rcases List.mem_append.mp hmem with htake | hdrop
      · exact htake
      · -- behind the first places it is gone
        cases r with
        | ok n =>
          obtain ⟨text, htext, -⟩ := hverifies.loads.manifest
          rw [hr.2.2 not_canFail_undisturbed b hdrop hver] at htext
          cases htext
        | error e =>
          rcases hr.2 with hfail | hover'
          · exact absurd hfail not_canFail_undisturbed
          · exact absurd hover' hover
  · intro hcond
    refine ⟨fun b hb => ?_, fun id b hb s hs => hpruned.objects hb hs⟩
    have hver : Verifies w.disk b := verified_iff.mp (List.find?_some hb)
    have hmem : b ∈ backupsOf directory w := List.mem_of_find?_eq_some hb
    have hstill : Verifies w'.disk b := by
      refine hpruned.verifies hver (hcond.imp_right fun htake b' hb' hid => ?_)
      have hids := nodup_backupsOf hnodup w
      rw [← List.take_append_drop (kept keepLatest) (backupsOf directory w), List.map_append] at hids
      exact (List.nodup_append.mp hids).2.2 b.id (List.mem_map_of_mem (htake b hb)) b'.id
        (List.mem_map_of_mem hb') hid.symm
    exact ⟨mem_backupsOf.mpr ⟨(mem_backupsOf.mp hmem).1, hstill.loads⟩, hstill⟩

end

end

/-! ## 5. A damaged backup in the first place -/

def enginePreview : ConfigPreview where
  configRoot := ascii "C:/"
  files := [⟨ascii "KFEngine.ini", ascii "a", ascii "b"⟩]

def gamePreview : ConfigPreview where
  configRoot := ascii "C:/"
  files := [⟨ascii "KFGame.ini", ascii "c", ascii "d"⟩]

/-- Two backups, of which the later one has lost its object. -/
def damagedStore : StoreWorld :=
  (((⟨fun _ => none, []⟩ : StoreWorld).own (.object (digestHex (ascii "a"))) (some (ascii "a"))).own
    (.manifest (backupOf enginePreview).id) (some (manifestText (backupOf enginePreview)))).own
    (.manifest (backupOf gamePreview).id) (some (manifestText (backupOf gamePreview)))

def damagedDirectory : List Path :=
  [.manifest (backupOf enginePreview).id, .manifest (backupOf gamePreview).id,
    .object (digestHex (ascii "a"))]

theorem nodup_damagedDirectory : damagedDirectory.Nodup := by decide +kernel

theorem covers_damagedStore : Covers damagedDirectory damagedStore.disk := by
  have hempty : Covers damagedDirectory (⟨fun _ => none, []⟩ : StoreWorld).disk :=
    fun _ h => absurd rfl h
  refine ((hempty.own _ fun _ h => by cases h).own _ fun _ _ => ?_).own _ fun _ _ => ?_
  · exact List.mem_cons_self
  · exact List.mem_cons_of_mem _ List.mem_cons_self

theorem prune_keepsUsable_iff_damagedStore :
    KeepsUsable damagedDirectory damagedStore
        (run (pruneVerified damagedDirectory 2).run [] damagedStore).2 ↔
      Oversized damagedDirectory damagedStore.disk ∨
        ∀ b, newestVerified damagedDirectory damagedStore = some b →
          b ∈ (backupsOf damagedDirectory damagedStore).take (kept 2) :=
  prune_keepsUsable_iff nodup_damagedDirectory covers_damagedStore

/-- Pruning to one backup keeps the damaged one and removes the only one that is usable. -/
theorem usable_backup_pruned :
    newestVerified damagedDirectory damagedStore = some (backupOf enginePreview) ∧
      (run (pruneVerified damagedDirectory 1).run [] damagedStore).2.disk
        (.manifest (backupOf enginePreview).id) = none ∧
      ¬ KeepsUsable damagedDirectory damagedStore
        (run (pruneVerified damagedDirectory 1).run [] damagedStore).2 := by
  have hrun : newestVerified damagedDirectory damagedStore = some (backupOf enginePreview) ∧
      (run (pruneVerified damagedDirectory 1).run [] damagedStore).2.disk
        (.manifest (backupOf enginePreview).id) = none := by
    decide +kernel
  obtain ⟨hnewest, hgone⟩ := hrun
  refine ⟨hnewest, hgone, fun hkeeps => ?_⟩
  obtain ⟨text, htext, -⟩ := (hkeeps.newest _ hnewest).2.loads.manifest
  rw [hgone] at htext
  cases htext

end Kf2Optimizer.Backup
