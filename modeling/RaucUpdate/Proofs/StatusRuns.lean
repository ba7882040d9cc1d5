import RaucUpdate.Proofs.StatusFile

/-!
# Runs of saves on the shared status file

The statuses are loaded once; after that the slots are only written from memory. The invariant
of a run says which statuses the slots have in memory, and what the groups of the slots that were
never updated still read as.
-/

namespace RaucUpdate

open Library

section Recorded

variable (iso : Iso8601)

lemma nonEmpty_statusString (f : KeyFile) (group key : String) :
    nonEmpty (statusString f group key) = statusString f group key := by
  rw [nonEmpty_eq_self_iff, statusString_eq]
  cases f.text group key with
  | none => simp
  | some v =>
    by_cases hv : KeyFile.decodeString v = ""
    · simp [hv]
    · simp [hv]

lemma recordedChecksum_statusChecksum (f : KeyFile) (group : String) :
    recordedChecksum (statusChecksum f group {}) = statusChecksum f group {} := by
  have hdigest := nonEmpty_statusString f group "sha256"
  unfold statusChecksum
  cases hs : statusString f group "sha256" with
  | none => rfl
  | some digest =>
    rw [hs] at hdigest
    simp [recordedChecksum, recordedDigest, hdigest]

/-- A status that comes from a file is written back without loss. -/
lemma recordedStatus_get (f : KeyFile) (group : String) :
    recordedStatus (statusFileGetSlotStatus iso f group {}) =
      statusFileGetSlotStatus iso f group {} := by
  unfold recordedStatus statusFileGetSlotStatus
  simp only [nonEmpty_statusString, rSlotClearStatus, recordedChecksum_statusChecksum]

end Recorded

section Steps

lemma setAsideBroken_load (file : StatusFile) : (setAsideBroken file).load = file.load := by
  cases file <;> rfl

/-- Replacing the file happens as a whole or, when the step fails or the execution stops, not at
all. -/
lemma replaceFile_cases (content : StatusState → KeyFile) (w : World StatusState) :
    (replaceFile content w).2.state.slots = w.state.slots ∧
      ((replaceFile content w).1 = .value () ∧ (replaceFile content w).2.state.file.load =
          content { w.state with file := setAsideBroken w.state.file } ∨
        (replaceFile content w).1 ≠ .value () ∧ (replaceFile content w).2.state.file.load =
          w.state.file.load) := by
  obtain ⟨st, fates⟩ := w
  have hrun : replaceFile content ⟨st, fates⟩ =
      (Prog.external (fun st => { st with file := .content (content st) }) saveError :
        StatusProg Unit) ⟨{ st with file := setAsideBroken st.file }, fates⟩ := rfl
  rw [hrun, Prog.external_eq]
  simp only
  cases fates 0 with
  | succeeds => exact ⟨rfl, .inl ⟨rfl, rfl⟩⟩
  | fails failure => exact ⟨rfl, .inr ⟨by simp, setAsideBroken_load st.file⟩⟩
  | stops => exact ⟨rfl, .inr ⟨by simp, setAsideBroken_load st.file⟩⟩

end Steps

section Runs

variable (iso : Iso8601) (config : SlotConfig) (file : StatusFile)

/-- The status of a slot as it is read from its group. -/
def persistedStatus (file : StatusFile) (name : String) : RaucSlotStatus :=
  statusFileGetSlotStatus iso file.load (slotGroup name) {}

/-- The run has not changed the status the slot has in memory. -/
def NotUpdated (name : String) (ops : List StatusOp) : Prop :=
  ∀ status, StatusOp.update name status ∉ ops

/-- The slots in memory are those of the configuration, each with a status. -/
structure LoadedSlots (slots : SlotTable) : Prop where
  unknown : ∀ n, config.slots.lookup n = none → slots.lookup n = none
  known : ∀ n slot, config.slots.lookup n = some slot → ∃ status, slots.lookup n =
    some (slot.withStatus status)

lemma loadedSlots_start : LoadedSlots config (rSlotStatusLoadGlobally iso file config.slots) := by
  constructor
  · intro n hn
    exact lookup_rSlotStatusLoadGlobally_none iso file config.slots n hn
  · intro n slot hslot
    exact ⟨_, lookup_rSlotStatusLoadGlobally iso file config.slots n slot hslot⟩

variable {iso config file} {slots : SlotTable}

lemma LoadedSlots.set_status (h : LoadedSlots config slots) {name : String} {old : RaucSlot}
    (status : RaucSlotStatus)
    (hold : slots.lookup name = some old) :
      LoadedSlots config (slots.set name (old.withStatus status)) := by
  constructor
  · intro n hn
    have hne : name ≠ n := by
      rintro rfl
      rw [h.unknown name hn] at hold
      exact Option.some_ne_none _ hold.symm
    rw [Table.lookup_set, if_neg hne, h.unknown n hn]
  · intro n slot hslot
    obtain ⟨status', hstatus'⟩ := h.known n slot hslot
    by_cases hname : name = n
    · subst hname
      rw [hold] at hstatus'
      refine ⟨status, ?_⟩
      rw [Table.lookup_set, if_pos rfl, Option.some.inj hstatus', RaucSlot.withStatus_withStatus]
    · refine ⟨status', ?_⟩
      rw [Table.lookup_set, if_neg hname, hstatus']

/-- Loading again changes nothing, since every slot has a status already. -/
lemma LoadedSlots.lookup_load (h : LoadedSlots config slots) (iso : Iso8601) (file : StatusFile)
    (n : String) :
    (rSlotStatusLoadGlobally iso file slots).lookup n = slots.lookup n := by
  cases hslot : config.slots.lookup n with
  | none =>
    rw [lookup_rSlotStatusLoadGlobally_none iso file slots n (h.unknown n hslot), h.unknown n hslot]
  | some slot =>
    obtain ⟨status, hstatus⟩ := h.known n slot hslot
    rw [lookup_rSlotStatusLoadGlobally iso file slots n _ hstatus, hstatus]
    rfl

lemma LoadedSlots.congr {slots' : SlotTable} (h : LoadedSlots config slots)
    (hsame : ∀ n, slots'.lookup n = slots.lookup n) : LoadedSlots config slots' := by
  constructor
  · intro n hn
    rw [hsame, h.unknown n hn]
  · intro n slot hslot
    rw [hsame]
    exact h.known n slot hslot

/-- The slots that a save visits carry exactly the configured names. -/
lemma LoadedSlots.names_order (h : LoadedSlots config slots) {names : List String}
    (hnames : names.Perm config.slots.keys) :
      (names.filterMap slots.lookup).map RaucSlot.name = names := by
  have hmem : ∀ n ∈ names, ∃ slot, slots.lookup n = some slot ∧ slot.name = n := by
    intro n hn
    have hkey := hnames.mem_iff.mp hn
    cases hslot : config.slots.lookup n with
    | none => exact absurd hkey ((Table.lookup_eq_none_iff _ _).mp hslot)
    | some slot =>
      obtain ⟨status, hstatus⟩ := h.known n slot hslot
      have hname : slot.name = n := config.name_of_lookup hslot
      exact ⟨_, hstatus, hname⟩
  clear hnames
  induction names with
  | nil => rfl
  | cons n rest ih =>
    obtain ⟨slot, hslot, hname⟩ := hmem n (by simp)
    rw [List.filterMap_cons_some hslot, List.map_cons, hname,
      ih (fun m hm => hmem m (by simp [hm]))]

/-- A successful slot-status save writes for every configured slot the status it has in memory. -/
lemma LoadedSlots.lookup_save (h : LoadedSlots config slots) {names : List String}
    (hnames : names.Perm config.slots.keys) (old : StatusFile) {n : String} {slot : RaucSlot}
    (hslot : config.slots.lookup n = some slot) {status : RaucSlotStatus}
    (hstatus : slots.lookup n = some (slot.withStatus status)) :
    (saveSlotStatusGlobally iso old (names.filterMap slots.lookup)).lookup (slotGroup n) =
      (statusFileSetSlotStatus iso Table.empty (slotGroup n) status).lookup (slotGroup n) := by
  have hname : slot.name = n := config.name_of_lookup hslot
  have hkey : n ∈ config.slots.keys := by
    by_contra hn
    rw [(Table.lookup_eq_none_iff _ _).mpr hn] at hslot
    exact Option.some_ne_none _ hslot.symm
  have hnodup : ((names.filterMap slots.lookup).map RaucSlot.name).Nodup := by
    rw [h.names_order hnames]
    exact hnames.nodup_iff.mpr config.slots.nodup
  have hmem : slot.withStatus status ∈ names.filterMap slots.lookup :=
    List.mem_filterMap.mpr ⟨n, hnames.mem_iff.mpr hkey, hstatus⟩
  have hself := lookup_saveSlotStatusGlobally_self iso old _ hnodup _ hmem status
    (RaucSlot.withStatus_status _ _)
  rwa [RaucSlot.withStatus_name, hname] at hself

/-- What is read back from the file for a slot after a save is what can be recorded of its
status. -/
lemma LoadedSlots.get_save (h : LoadedSlots config slots) (iso : Iso8601) {names : List String}
    (hnames : names.Perm config.slots.keys) (old : StatusFile) {n : String} {slot : RaucSlot}
    (hslot : config.slots.lookup n = some slot) {status : RaucSlotStatus}
    (hstatus : slots.lookup n = some (slot.withStatus status)) :
    statusFileGetSlotStatus iso (saveSlotStatusGlobally iso old (names.filterMap slots.lookup))
      (slotGroup n) {} =
      recordedStatus status := by
  rw [statusFileGetSlotStatus_congr iso (h.lookup_save hnames old hslot hstatus),
    statusFile_get_set]

variable (iso config file)

structure RunInvariant (ops : List StatusOp) (st : StatusState) : Prop where
  loaded : LoadedSlots config st.slots
  kept : ∀ n slot, config.slots.lookup n = some slot → slot.status = none → NotUpdated n ops →
    st.slots.lookup n = some (slot.withStatus (persistedStatus iso file n)) ∧
      persistedStatus iso st.file n = persistedStatus iso file n

lemma runInvariant_start : RunInvariant iso config file
    [] ⟨file, rSlotStatusLoadGlobally iso file config.slots⟩ := by
  refine ⟨loadedSlots_start iso config file, fun n slot hslot hnone _ => ⟨?_, rfl⟩⟩
  rw [lookup_rSlotStatusLoadGlobally iso file config.slots n slot hslot, hnone]
  rfl

variable {iso config file} {ops : List StatusOp} {st : StatusState}

lemma NotUpdated.of_append {name : String} {op : StatusOp} (h : NotUpdated name (ops ++ [op])) :
    NotUpdated name ops ∧ ∀ status, op ≠ .update name status := by
  refine ⟨fun status hmem => h status (by simp [hmem]), fun status heq => h status (by simp [heq])⟩

lemma updateStatus_state (name : String) (status : RaucSlotStatus) (w : World StatusState) :
    (updateStatus name status w).2.state =
      match w.state.slots.lookup name with
      | none => w.state
      | some slot =>
        { w.state with slots := w.state.slots.set name (slot.withStatus status) } := rfl

lemma RunInvariant.update (h : RunInvariant iso config file ops st) (name : String)
    (status : RaucSlotStatus)
    (fates : Nat → Fate) :
    RunInvariant iso config file (ops ++ [.update name status])
      (updateStatus name status ⟨st, fates⟩).2.state := by
  rw [updateStatus_state]
  cases hlookup : st.slots.lookup name with
  | none =>
    refine ⟨h.loaded, fun n slot hslot hnone hnot => ?_⟩
    exact h.kept n slot hslot hnone hnot.of_append.1
  | some old =>
    refine ⟨h.loaded.set_status status hlookup, fun n slot hslot hnone hnot => ?_⟩
    obtain ⟨hnot, hne⟩ := hnot.of_append
    have hname : name ≠ n := by
      rintro rfl
      exact hne status rfl
    refine ⟨?_, (h.kept n slot hslot hnone hnot).2⟩
    rw [Table.lookup_set, if_neg hname, (h.kept n slot hslot hnone hnot).1]

lemma RunInvariant.load (h : RunInvariant iso config file ops st) (fates : Nat → Fate) :
    RunInvariant iso config file (ops ++ [.load]) (slotStatusLoad iso ⟨st, fates⟩).2.state := by
  have hsame := h.loaded.lookup_load iso st.file
  change RunInvariant iso config file (ops ++ [.load])
    { st with slots := rSlotStatusLoadGlobally iso st.file st.slots }
  refine ⟨h.loaded.congr hsame, fun n slot hslot hnone hnot => ?_⟩
  rw [hsame]
  exact h.kept n slot hslot hnone hnot.of_append.1

/-- A save keeps the invariant when the content it writes still reads as before for the slots
whose status was not updated. -/
lemma RunInvariant.replaceFile (h : RunInvariant iso config file ops st)
    (content : StatusState → KeyFile)
    (op : StatusOp) (fates : Nat → Fate)
    (hcontent : ∀ n slot, config.slots.lookup n = some slot → slot.status = none →
      NotUpdated n ops →
      statusFileGetSlotStatus iso (content { st with file := setAsideBroken st.file })
        (slotGroup n) {} =
        persistedStatus iso file n) :
    RunInvariant iso config file (ops ++ [op])
      (RaucUpdate.replaceFile content ⟨st, fates⟩).2.state := by
  obtain ⟨hslots, hfile⟩ := replaceFile_cases content ⟨st, fates⟩
  refine ⟨?_, fun n slot hslot hnone hnot => ?_⟩
  · rw [hslots]
    exact h.loaded
  · obtain ⟨hnot, -⟩ := hnot.of_append
    obtain ⟨hmemory, hread⟩ := h.kept n slot hslot hnone hnot
    refine ⟨by rw [hslots]; exact hmemory, ?_⟩
    unfold persistedStatus at hread ⊢
    rcases hfile with ⟨-, hnew⟩ | ⟨-, hold⟩
    · rw [hnew]
      exact hcontent n slot hslot hnone hnot
    · rw [hold]
      exact hread

lemma StatusRun.invariant (hrun : StatusRun iso config file ops st) :
    RunInvariant iso config file ops st := by
  induction hrun with
  | start => exact runInvariant_start iso config file
  | @snoc ops st hrun op fates hnames ih =>
    cases op with
    | update name status => exact ih.update name status fates
    | load => exact ih.load fates
    | slotSave names =>
      refine ih.replaceFile _ _ fates fun n slot hslot hnone hnot => ?_
      have hsaved := ih.loaded.get_save iso (hnames names rfl) (setAsideBroken st.file) hslot
        (ih.kept n slot hslot hnone hnot).1
      exact hsaved.trans (recordedStatus_get iso file.load (slotGroup n))
    | systemSave bootId =>
      refine ih.replaceFile _ _ fates fun n slot hslot hnone hnot => ?_
      have hgroup := lookup_rSystemStatusSave_slot (setAsideBroken st.file) bootId (slotGroup n)
        (hasPrefix_slotGroup n)
      rw [statusFileGetSlotStatus_congr iso hgroup, setAsideBroken_load]
      exact (ih.kept n slot hslot hnone hnot).2

/-- The groups of the slots, of configured slots and of others. -/
def IsSlotGroup (group : String) : Prop := hasPrefix "slot." group = true

instance (group : String) : Decidable (IsSlotGroup group) := inferInstanceAs (Decidable (_ = _))

/-- The file holds for every configured slot exactly the status that the slot has in memory. -/
def HoldsStatuses (iso : Iso8601) (config : SlotConfig) (st : StatusState) : Prop :=
  ∀ n slot, config.slots.lookup n = some slot → ∃ status, st.slots.lookup n =
    some (slot.withStatus status) ∧
    st.file.load.lookup (slotGroup n) =
      (statusFileSetSlotStatus iso Table.empty (slotGroup n) status).lookup (slotGroup n)

/-- In every state of a run, a slot-status save keeps the groups that are no slot groups and,
unless it fails and changes nothing, leaves the file with the status of every configured slot; a
system-status save keeps the slot groups; and the persisted status of a slot that was not updated
still reads as it did when the statuses were loaded. -/
theorem statusRun_saves_keep (hrun : StatusRun iso config file ops st) :
    (∀ names fates, names.Perm config.slots.keys →
      (∀ group, ¬ IsSlotGroup group →
        (rSlotStatusSave iso names ⟨st, fates⟩).2.state.file.load.lookup group =
          st.file.load.lookup group) ∧
      ((rSlotStatusSave iso names ⟨st, fates⟩).1 = .value () →
        HoldsStatuses iso config (rSlotStatusSave iso names ⟨st, fates⟩).2.state) ∧
      ((rSlotStatusSave iso names ⟨st, fates⟩).1 ≠ .value () →
        (rSlotStatusSave iso names ⟨st, fates⟩).2.state.file.load = st.file.load)) ∧
    (∀ bootId fates group, IsSlotGroup group →
      (systemStatusSave bootId ⟨st, fates⟩).2.state.file.load.lookup group =
        st.file.load.lookup group) ∧
    (∀ n slot, config.slots.lookup n = some slot → slot.status = none → NotUpdated n ops →
      persistedStatus iso st.file n = persistedStatus iso file n) := by
  have hinv := hrun.invariant
  refine ⟨fun names fates hnames => ?_, fun bootId fates group hgroup => ?_,
      fun n slot hslot hnone hnot =>
    (hinv.kept n slot hslot hnone hnot).2⟩
  · obtain ⟨hslots, hfile⟩ := replaceFile_cases
      (fun st => saveSlotStatusGlobally iso st.file (names.filterMap st.slots.lookup)) ⟨st, fates⟩
    refine ⟨fun group hgroup => ?_, fun hvalue => ?_, fun hexit => ?_⟩
    · rcases hfile with ⟨-, hnew⟩ | ⟨-, hold⟩
      · refine (congrArg (fun f => Table.lookup f group) hnew).trans ?_
        simp only
        rw [lookup_saveSlotStatusGlobally_other iso _ _ group (Bool.eq_false_iff.mpr hgroup),
          setAsideBroken_load]
      · exact congrArg (fun f => Table.lookup f group) hold
    · rcases hfile with ⟨-, hnew⟩ | ⟨hexit, -⟩
      · intro n slot hslot
        obtain ⟨status, hstatus⟩ := hinv.loaded.known n slot hslot
        refine ⟨status, (congrArg (fun t => Table.lookup t n) hslots).trans hstatus, ?_⟩
        refine (congrArg (fun f => Table.lookup f (slotGroup n)) hnew).trans ?_
        exact hinv.loaded.lookup_save hnames _ hslot hstatus
      · exact absurd hvalue hexit
    · rcases hfile with ⟨hvalue, -⟩ | ⟨-, hold⟩
      · exact absurd hvalue hexit
      · exact hold
  · obtain ⟨-, hfile⟩ := replaceFile_cases (fun st => rSystemStatusSave st.file bootId) ⟨st, fates⟩
    rcases hfile with ⟨-, hnew⟩ | ⟨-, hold⟩
    · refine (congrArg (fun f => Table.lookup f group) hnew).trans ?_
      simp only
      rw [lookup_rSystemStatusSave_slot _ bootId group hgroup, setAsideBroken_load]
    · exact congrArg (fun f => Table.lookup f group) hold

/-- A shared file with a system group and the status of one of the two slots. -/
def sharedFile : StatusFile :=
  .content ⟨[("system", ⟨[("boot-id", "54ed7a9f")], by decide⟩),
    ("slot.rootfs.1", ⟨[("status", "ok"), ("installed.count", "3")], by decide⟩)], by decide⟩

/-- The state after the statuses were loaded from the file and the other slot was changed and
saved. -/
def savedPair : StatusState :=
  ((StatusOp.slotSave ["rootfs.1", "rootfs.0"]).run epochIso
    ⟨((StatusOp.update "rootfs.0" (installedStatus none)).run epochIso
      (Prog.calm ⟨sharedFile, rSlotStatusLoadGlobally epochIso sharedFile
        pairConfig.slots⟩)).2.state,
      fun _ => .succeeds⟩).2.state

theorem statusRun_saves_keep_pair :
    persistedStatus epochIso savedPair.file "rootfs.1" =
      persistedStatus epochIso sharedFile "rootfs.1" ∧
      (rSlotStatusSave epochIso ["rootfs.0", "rootfs.1"]
        (Prog.calm savedPair)).2.state.file.load.lookup "system" =
        savedPair.file.load.lookup "system" := by
  have hrun : StatusRun epochIso pairConfig.toSlotConfig sharedFile
      ([] ++ [.update "rootfs.0" (installedStatus none)] ++ [.slotSave ["rootfs.1", "rootfs.0"]])
        savedPair :=
    (StatusRun.start.snoc _ _ (by simp)).snoc _ _ (by
      intro names hnames
      obtain rfl := StatusOp.slotSave.inj hnames
      decide)
  have hkeep := statusRun_saves_keep hrun
  refine ⟨hkeep.2.2 "rootfs.1" (bootableSlot "rootfs.1" "B") (by decide) (by decide)
    (by simp [NotUpdated]), ?_⟩
  exact (hkeep.1 ["rootfs.0", "rootfs.1"] (fun _ => .succeeds) (by decide)).1 "system" (by decide)

end Runs

end RaucUpdate
