import RaucUpdate.Model.ManifestChecks
import RaucUpdate.Proofs.InstallMarks
import RaucUpdate.Proofs.StatusRuns

/-!
# When the update of a slot is skipped

A slot is skipped by comparing the digest of the image with that of its status, either of which may
be missing.
-/

namespace RaucUpdate

open Library

section Found

variable (ctx : InstallContext) (slot : RaucSlot)

/-- The status of the slot as it is stored, in its file system or in the shared file. -/
def storedStatus (system : SystemState) : RaucSlotStatus :=
  if perSlot ctx then
    match system.media.slotFiles slot.name with
    | .content keyFile => if rSlotIsMountable slot then rSlotStatusRead ctx.iso keyFile {} else {}
    | _ => {}
  else persistedStatus ctx.iso system.status.file slot.name

/-- The status that the slot has in memory; one that has not been loaded is the stored one. -/
def currentStatus (system : SystemState) : RaucSlotStatus :=
  (statusOf system.status.slots slot).getD
    (if (system.status.slots.lookup slot.name).isSome then storedStatus ctx slot system else {})

/-- The slot is not mounted by an earlier step, and its data directory is a usable path. -/
def Updatable (system : SystemState) : Prop :=
  system.media.mountPoint slot.name = none ∧ ∀ dir, slot.dataDirectory = some dir →
    isAbsolute dir = true

/-- What is read from the file system of the slot is the content of its status file. -/
def ReadFrom (media : MediaState) (keyFile : Option KeyFile) : Prop :=
  ∀ f, keyFile = some f → media.slotFiles slot.name = .content f

/-- Nothing unmounts the slot that was mounted before. -/
def StaysMounted (media media' : MediaState) : Prop :=
  media'.mountPoint slot.name = none → media.mountPoint slot.name = none

variable {ctx slot}

lemma readSlotFile_reads (media : MediaState) :
    Prog.Triple (fun m => m.slotFiles = media.slotFiles ∧ StaysMounted slot media m)
      (readSlotFile slot)
      (fun r m => ReadFrom slot media r ∧ StaysMounted slot media m) (fun _ _ => True) := by
  apply Prog.triple_bind (Prog.triple_ask (fun _ _ h => h) (fun _ _ => trivial))
  intro result
  cases result with
  | some failure => exact Prog.triple_pure (fun _ h => ⟨fun f hf => absurd hf (by simp), h.2⟩)
  | none =>
    apply Prog.triple_read_bind
    rintro m ⟨hfiles, hmounted⟩
    cases hfile : m.slotFiles slot.name with
    | missing =>
      apply Prog.triple_pure
      rintro _ rfl
      exact ⟨fun f hf => absurd hf (by simp), hmounted⟩
    | broken =>
      apply Prog.triple_pure
      rintro _ rfl
      exact ⟨fun f hf => absurd hf (by simp), hmounted⟩
    | content keyFile =>
      apply Prog.triple_pure
      rintro _ rfl
      refine ⟨fun f hf => ?_, hmounted⟩
      rw [← hfiles, hfile, Option.some.inj hf]

/-- Only a slot that is not mounted can be mounted, or fail to be. -/
lemma attempt_rMountSlot_reads (media : MediaState) :
    Prog.Triple (fun m => m = media) (Prog.attempt (rMountSlot ctx slot))
      (fun _ m => m.slotFiles = media.slotFiles ∧ media.mountPoint slot.name = none)
        (fun _ _ => True) := by
  apply Prog.triple_attempt
  apply Prog.triple_read_bind
  rintro m rfl
  split_ifs with hmounted
  · exact Prog.triple_exit (fun _ _ => trivial)
  · have hfree : m.mountPoint slot.name = none := by simpa using hmounted
    apply Prog.triple_bind (Q := fun _ m' => m'.slotFiles = m.slotFiles ∧
      m.mountPoint slot.name = none)
    · apply Prog.triple_external
      · rintro _ rfl
        exact ⟨rfl, hfree⟩
      · rintro _ rfl _
        exact ⟨rfl, hfree⟩
      · exact fun _ _ => trivial
    intro _
    apply Prog.triple_bind (Q := fun _ m' => m'.slotFiles = m.slotFiles ∧
      m.mountPoint slot.name = none)
    · exact Prog.triple_external (fun _ h => h) (fun _ h _ => h) (fun _ _ => trivial)
    intro _
    exact Prog.triple_external (fun _ h => h) (fun _ h _ => h) (fun _ _ => trivial)

lemma mountAndReadSlotFile_reads (media : MediaState) :
    Prog.Triple (fun m => m = media) (mountAndReadSlotFile ctx slot)
      (fun r m => ReadFrom slot media r ∧ StaysMounted slot media m) (fun _ _ => True) := by
  apply Prog.triple_read_bind
  rintro m rfl
  split_ifs with hext
  · apply Prog.triple_consequence (readSlotFile_reads m) _ (fun _ _ h => h) (fun _ _ h => h)
    rintro _ rfl
    exact ⟨rfl, id⟩
  · apply Prog.triple_bind (attempt_rMountSlot_reads m)
    intro result
    cases result with
    | error e => exact Prog.triple_pure (fun _ h => ⟨fun f hf => absurd hf (by simp), fun _ => h.2⟩)
    | ok _ =>
      apply Prog.triple_fact
      intro hfree
      apply Prog.triple_bind (Prog.triple_consequence (readSlotFile_reads m) (fun _ h =>
        ⟨h, fun _ => hfree⟩)
        (fun _ _ h => h.1) (fun _ _ h => h))
      intro keyFile
      have hread : Prog.Triple (fun _ => ReadFrom slot m keyFile) (Prog.attempt (rUmountSlot slot))
          (fun _ _ => ReadFrom slot m keyFile) (fun _ _ => True) :=
        fun w hw => returns_consequence (returns_any _) (fun _ _ => hw) w trivial
      apply Prog.triple_bind hread
      intro _
      exact Prog.triple_pure (fun _ h => ⟨h, fun _ => hfree⟩)

/-- The status in memory is the current one, unless it could not be read and was left empty. -/
def Loaded (ctx : InstallContext) (slot : RaucSlot) (system : SystemState) (st : SystemState) :
    Prop :=
  ((statusOf st.status.slots slot).getD {} = currentStatus ctx slot system ∨
    (statusOf st.status.slots slot).getD {} = {}) ∧ StaysMounted slot system.media st.media

/-- A change of the status, which is lost if there is no such slot. -/
lemma changeStatus_changes (slot : RaucSlot) (f : RaucSlotStatus → RaucSlotStatus)
    (status : RaucSlotStatus)
    {E : Exit GError → SystemState → Prop} (media : MediaState) (found : Bool) :
    Prog.Triple (fun st => st.media = media ∧ (st.status.slots.lookup slot.name).isSome = found ∧
        (statusOf st.status.slots slot).getD {} = status) (changeStatus slot f)
      (fun _ st => st.media = media ∧ (st.status.slots.lookup slot.name).isSome = found ∧
        (statusOf st.status.slots slot).getD {} = if found then f status else {}) E := by
  rintro w ⟨hmedia, hfound, hstatus⟩
  have hrun : (changeStatus slot f w).2.state.status =
      (updateStatus slot.name (f status) ⟨w.state.status, w.fates⟩).2.state := by
    rw [← hstatus]
    rfl
  change (changeStatus slot f w).2.state.media = _ ∧ _
  rw [hrun, updateStatus_state]
  subst hfound
  refine ⟨hmedia, ?_⟩
  cases hlookup : w.state.status.slots.lookup slot.name with
  | none => simp [statusOf, hlookup]
  | some old => simp [statusOf, Table.lookup_set]

lemma loadSlotStatusLocally_loaded (system : SystemState) (hlocal : perSlot ctx = true)
    (hnone : statusOf system.status.slots slot = none) :
    Prog.Triple (fun st => st = system) (loadSlotStatusLocally ctx slot)
      (fun _ => Loaded ctx slot system)
      (fun _ _ => True) := by
  let found := (system.status.slots.lookup slot.name).isSome
  -- the status starts empty
  have hempty : Prog.Triple (fun st => st = system) (changeStatus slot (fun _ => {}))
      (fun _ st => st.media = system.media ∧ (st.status.slots.lookup slot.name).isSome = found ∧
        (statusOf st.status.slots slot).getD {} = {}) (fun _ _ => True) := by
    apply Prog.triple_consequence (changeStatus_changes slot (fun _ => {}) {} system.media found)
    · rintro _ rfl
      exact ⟨rfl, rfl, by rw [hnone]; rfl⟩
    · rintro _ st ⟨hmedia, hfound, hstatus⟩
      exact ⟨hmedia, hfound, by rw [hstatus]; split_ifs <;> rfl⟩
    · exact fun _ _ h => h
  apply Prog.triple_bind hempty
  intro _
  split_ifs with hmountable
  · apply Prog.triple_pure
    rintro st ⟨hmedia, -, hstatus⟩
    exact ⟨.inr hstatus, fun h => hmedia ▸ h⟩
  · apply Prog.triple_bind (Q := fun keyFile st =>
      ((st.status.slots.lookup slot.name).isSome = found ∧
      (statusOf st.status.slots slot).getD {} = {}) ∧ ReadFrom slot system.media keyFile ∧
      StaysMounted slot system.media st.media)
    · apply Prog.triple_zoom
      rintro st ⟨hmedia, hst⟩
      rw [hmedia]
      exact Prog.triple_consequence (mountAndReadSlotFile_reads system.media) (fun _ h => h)
        (fun _ _ h => ⟨hst, h⟩)
        (fun _ _ h => h)
    intro keyFile
    cases keyFile with
    | none => exact Prog.triple_pure (fun st h => ⟨.inr h.1.2, h.2.2⟩)
    | some keyFile =>
      rintro w ⟨⟨hfound, hstatus⟩, hread, hmounted⟩
      have hchanged :=
        changeStatus_changes (E := fun _ _ => True) slot (rSlotStatusRead ctx.iso keyFile) {}
        w.state.media
        found w ⟨rfl, hfound, hstatus⟩
      obtain ⟨hmedia, -, hstatus'⟩ := hchanged
      refine ⟨.inl ?_, fun h => hmounted (hmedia ▸ h)⟩
      have hstored : storedStatus ctx slot system = rSlotStatusRead ctx.iso keyFile {} := by
        have hmountable' : rSlotIsMountable slot = true := by simpa using hmountable
        simp [storedStatus, hlocal, hread keyFile rfl, hmountable']
      rw [hstatus', currentStatus, hnone, hstored]
      rfl

lemma statusOf_load {system : SystemState} (hglobal : perSlot ctx = false)
    (hnone : statusOf system.status.slots slot = none) :
    (statusOf (rSlotStatusLoadGlobally ctx.iso system.status.file system.status.slots) slot).getD
      {} =
      currentStatus ctx slot system := by
  rw [currentStatus, hnone]
  unfold statusOf
  cases hlookup : system.status.slots.lookup slot.name with
  | none => rw [lookup_rSlotStatusLoadGlobally_none ctx.iso _ _ _ hlookup]; rfl
  | some old =>
    have hstatus : old.status = none := by simpa [statusOf, hlookup] using hnone
    rw [lookup_rSlotStatusLoadGlobally ctx.iso _ _ _ _ hlookup, hstatus]
    simp [storedStatus, hglobal, persistedStatus]

lemma loadMissingStatus_loaded (system : SystemState) :
    Prog.Triple (fun st => st = system) (loadMissingStatus ctx slot)
      (fun _ => Loaded ctx slot system)
      (fun _ _ => True) := by
  apply Prog.triple_bind (Q := fun status st => st = system ∧
    status = statusOf system.status.slots slot)
  · apply Prog.triple_read_bind
    rintro st rfl
    apply Prog.triple_pure
    rintro _ rfl
    exact ⟨rfl, rfl⟩
  intro status
  apply Prog.triple_fact
  intro hstatus
  cases status with
  | some status =>
    apply Prog.triple_pure
    rintro _ rfl
    refine ⟨.inl ?_, id⟩
    rw [currentStatus, ← hstatus]
    rfl
  | none =>
    simp only
    split_ifs with hlocal
    · exact loadSlotStatusLocally_loaded system hlocal hstatus.symm
    · have hglobal : perSlot ctx = false := by simpa using hlocal
      apply Prog.triple_zoom
      rintro _ rfl
      apply Prog.triple_modify
      rintro _ rfl
      exact ⟨.inl (statusOf_load hglobal hstatus.symm), id⟩

lemma rSlotCleanDataDirectory_checks (P : SystemState → Prop) :
    Prog.Triple P (rSlotCleanDataDirectory slot)
      (fun _ st => P st ∧ ∀ dir, slot.dataDirectory = some dir → isAbsolute dir = true)
        (fun _ _ => True) := by
  unfold rSlotCleanDataDirectory
  cases hdir : slot.dataDirectory with
  | none => exact Prog.triple_pure (fun _ h => ⟨h, fun dir h => absurd h (by simp)⟩)
  | some dir =>
    simp only
    split_ifs with habsolute
    · exact Prog.triple_exit (fun _ _ => trivial)
    · have habs : ∀ dir', some dir = some dir' → isAbsolute dir' = true := by
        intro dir' hdir'
        rw [← Option.some.inj hdir']
        simpa using habsolute
      apply Prog.triple_bind (Q := fun _ => P)
      · apply Prog.triple_read_bind
        rintro st hst
        apply Prog.triple_pure
        rintro _ rfl
        exact hst
      intro status
      split_ifs with hpending
      · exact Prog.triple_pure (fun _ h => ⟨h, habs⟩)
      · apply Prog.triple_bind (Prog.triple_ask (fun _ _ h => h) (fun _ _ => trivial))
        intro _
        exact Prog.triple_pure (fun _ h => ⟨h, habs⟩)

/-- The status that the decision is based on is the current one, or empty. -/
lemma checkSlot_found (system : SystemState) :
    Prog.Triple (fun st => st = system) (checkSlot ctx slot)
      (fun slotState _ => Updatable slot system ∧ (slotState = currentStatus ctx slot system ∨
        slotState = {}))
      (fun _ _ => True) := by
  apply Prog.triple_bind (Q := fun _ st => Loaded ctx slot system st ∧
    ∀ dir, slot.dataDirectory = some dir → isAbsolute dir = true)
  · apply Prog.triple_bind (loadMissingStatus_loaded system)
    intro _
    exact rSlotCleanDataDirectory_checks _
  intro _
  apply Prog.triple_read_bind
  rintro st ⟨⟨hstatus, hmounted⟩, habsolute⟩
  split_ifs with hstill
  · exact Prog.triple_exit (fun _ _ => trivial)
  · apply Prog.triple_pure
    rintro _ rfl
    exact ⟨⟨hmounted (by simpa using hstill), habsolute⟩, hstatus⟩

/-- Reading the status file when nothing fails. -/
lemma mountAndReadSlotFile_calm (ctx : InstallContext) {media : MediaState} {keyFile : KeyFile}
    (hfile : media.slotFiles slot.name = .content keyFile)
    (hfree : media.mountPoint slot.name = none) :
    ∃ media', Prog.Calmly media (mountAndReadSlotFile ctx slot) (some keyFile) media' ∧
      media'.mountPoint slot.name = none := by
  have hread : ∀ m : MediaState, m.slotFiles = media.slotFiles →
      Prog.Calmly m (readSlotFile slot) (some keyFile) m := by
    intro m hm
    apply Prog.calmly_bind (Prog.calmly_ask m)
    apply Prog.calmly_read_bind
    rw [hm, hfile]
    exact Prog.calmly_pure m _
  by_cases hext : (media.extMountPoint slot.name).isSome = true
  · refine ⟨media, ?_, hfree⟩
    apply Prog.calmly_read_bind
    rw [if_pos hext]
    exact hread media rfl
  · let mounted :=
      media.setMountPoint slot.name (some (buildFilename ctx.config.mountPrefix slot.name))
    refine ⟨mounted.setMountPoint slot.name none, ?_, by simp [MediaState.setMountPoint]⟩
    have hmount : Prog.Calmly media (rMountSlot ctx slot) () mounted := by
      apply Prog.calmly_read_bind
      rw [hfree]
      exact Prog.calmly_bind (Prog.calmly_external media _ _)
        (Prog.calmly_bind (Prog.calmly_external media _ _) (Prog.calmly_external media _ _))
    have humount :
        Prog.Calmly mounted (rUmountSlot slot) () (mounted.setMountPoint slot.name none) := by
      apply Prog.calmly_read_bind
      rw [if_neg (by simp [mounted, MediaState.setMountPoint])]
      exact Prog.calmly_external _ _ _
    apply Prog.calmly_read_bind
    rw [if_neg hext]
    apply Prog.calmly_bind (Prog.calmly_attempt hmount)
    change Prog.Calmly mounted (readSlotFile slot >>= _) _ _
    apply Prog.calmly_bind (hread mounted rfl)
    exact Prog.calmly_bind (Prog.calmly_attempt humount) (Prog.calmly_pure _ _)

lemma slotStatus_calm (st : SystemState) :
    Prog.Calmly st (slotStatus slot) (statusOf st.status.slots slot) st := rfl

lemma changeStatus_calm (f : RaucSlotStatus → RaucSlotStatus) (st : SystemState) :
    Prog.Calmly st (changeStatus slot f) () (changeStatus slot f (Prog.calm st)).2.state := rfl

/-- The status file of the slot is read when nothing fails. -/
lemma loadSlotStatusLocally_calm {system : SystemState} (hlocal : perSlot ctx = true)
    (hnone : statusOf system.status.slots slot = none) (hok : currentStatus ctx slot system ≠ {})
    (hfree : system.media.mountPoint slot.name = none) :
    ∃ st, Prog.Calmly system (loadSlotStatusLocally ctx slot) () st ∧
      (statusOf st.status.slots slot).getD {} = currentStatus ctx slot system ∧
      st.media.mountPoint slot.name = none := by
  -- the status is not empty, so the slot is there and holds a status file
  have hfound : (system.status.slots.lookup slot.name).isSome = true := by
    by_contra hfound
    simp [currentStatus, hnone, hfound] at hok
  have hcurrent : currentStatus ctx slot system = storedStatus ctx slot system := by
    simp [currentStatus, hnone, hfound]
  obtain ⟨keyFile, hfile, hmountable, hstored⟩ : ∃ keyFile, system.media.slotFiles slot.name =
      .content keyFile ∧
      rSlotIsMountable slot = true ∧ storedStatus ctx slot system =
        rSlotStatusRead ctx.iso keyFile {} := by
    rw [hcurrent] at hok
    cases hfile : system.media.slotFiles slot.name with
    | missing => simp [storedStatus, hlocal, hfile] at hok
    | broken => simp [storedStatus, hlocal, hfile] at hok
    | content keyFile =>
      have hmountable : rSlotIsMountable slot = true := by
        by_contra hmountable
        simp [storedStatus, hlocal, hfile, hmountable] at hok
      exact ⟨keyFile, rfl, hmountable, by simp [storedStatus, hlocal, hfile, hmountable]⟩
  obtain ⟨hmedia, hfound', hempty⟩ :=
    changeStatus_changes (E := fun _ _ => True) slot (fun _ => {}) {} system.media true
    (Prog.calm system) ⟨rfl, hfound, by rw [Prog.calm, hnone]; rfl⟩
  obtain ⟨media, hread, hfree'⟩ := mountAndReadSlotFile_calm ctx hfile hfree
  let emptied := (changeStatus slot (fun _ => {}) (Prog.calm system)).2.state
  let mounted : SystemState := { emptied with media := media }
  obtain ⟨hmedia', -, hstatus⟩ :=
    changeStatus_changes (E := fun _ _ => True) slot (rSlotStatusRead ctx.iso keyFile) {}
    media true (Prog.calm mounted) ⟨rfl, hfound', hempty⟩
  refine ⟨(changeStatus slot (rSlotStatusRead ctx.iso keyFile) (Prog.calm mounted)).2.state, ?_,
    ?_, ?_⟩
  · apply Prog.calmly_bind (changeStatus_calm (fun _ => {}) system)
    rw [if_neg (by simp [hmountable])]
    have hzoom : Prog.Calmly emptied (onMedia (mountAndReadSlotFile ctx slot)) (some keyFile)
        mounted := by
      apply Prog.calmly_zoom
      rw [hmedia]
      exact hread
    exact Prog.calmly_bind hzoom (changeStatus_calm (rSlotStatusRead ctx.iso keyFile) mounted)
  · rw [hcurrent, hstored]
    exact hstatus
  · rw [hmedia']
    exact hfree'

/-- Loading a status that is not empty when nothing fails. -/
lemma loadMissingStatus_calm {system : SystemState} (hok : currentStatus ctx slot system ≠ {})
    (hfree : system.media.mountPoint slot.name = none) :
    ∃ st, Prog.Calmly system (loadMissingStatus ctx slot) () st ∧
      (statusOf st.status.slots slot).getD {} = currentStatus ctx slot system ∧
      st.media.mountPoint slot.name = none := by
  cases hstatus : statusOf system.status.slots slot with
  | some status =>
    refine ⟨system, Prog.calmly_bind (slotStatus_calm system)
      ?_, by simp [currentStatus, hstatus], hfree⟩
    rw [hstatus]
    exact Prog.calmly_pure system ()
  | none =>
    cases hlocal : perSlot ctx with
    | false =>
      refine ⟨{ system with status := { system.status with
        slots := rSlotStatusLoadGlobally ctx.iso system.status.file system.status.slots } },
          Prog.calmly_bind (slotStatus_calm system) ?_,
        statusOf_load hlocal hstatus, hfree⟩
      rw [hstatus]
      simp only [hlocal, Bool.false_eq_true, if_false]
      rfl
    | true =>
      obtain ⟨st, hst, hstatus', hfree'⟩ := loadSlotStatusLocally_calm hlocal hstatus hok hfree
      refine ⟨st, Prog.calmly_bind (slotStatus_calm system) ?_, hstatus', hfree'⟩
      rw [hstatus]
      simp only [hlocal, if_true]
      exact hst

/-- The slot is checked without an error when nothing fails. -/
lemma checkSlot_calm {system : SystemState} (hok : currentStatus ctx slot system ≠ {})
    (hslot : Updatable slot system) :
    ∃ st, Prog.Calmly system (checkSlot ctx slot) (currentStatus ctx slot system) st := by
  obtain ⟨st, hload, hstatus, hfree⟩ := loadMissingStatus_calm hok hslot.1
  have hclean : Prog.Calmly st (rSlotCleanDataDirectory slot) () st := by
    unfold rSlotCleanDataDirectory
    cases hdir : slot.dataDirectory with
    | none => exact Prog.calmly_pure st ()
    | some dir =>
      have habsolute := hslot.2 dir hdir
      simp only [habsolute, Bool.not_true, Bool.false_eq_true, if_false]
      apply Prog.calmly_bind (slotStatus_calm st)
      split_ifs with hpending
      · exact Prog.calmly_pure st ()
      · exact Prog.calmly_bind (Prog.calmly_ask st) (Prog.calmly_pure st ())
  refine ⟨st, ?_⟩
  apply Prog.calmly_bind (Prog.calmly_bind hload hclean)
  apply Prog.calmly_read_bind
  rw [if_neg (by simp [hfree]), ← hstatus]
  exact Prog.calmly_pure st _

end Found

section Skips

variable (ctx : InstallContext) (args : RaucInstallArgs) (manifest : RaucManifest)
  (image : RaucImage)
  (slot : RaucSlot) (hookName : Option String) (handler : SlotHandler) (system : SystemState)

/-- The events of the installation of one image into a slot. -/
def planTrace (fates : Nat → Fate) : List InstallEvent :=
  (handleSlotInstallPlan ctx args manifest image slot hookName handler ⟨⟨system, []⟩,
    fates⟩).2.state.trace

/-- A slot that is skipped is stored as `ok`, and its status and the image have the same digest. -/
def SkipsOnlyUpToDate : Prop :=
  ∀ fates, .skipped slot.name ∈ planTrace ctx args manifest image slot hookName handler
    system fates →
    (storedStatus ctx slot system).status = some "ok" ∧
    ∃ digest, image.checksum.digest = some digest ∧
      (currentStatus ctx slot system).checksum.digest = some digest

variable {ctx args manifest image slot hookName handler system}

/-- An update that is not skipped leaves no trace of a skip. -/
lemma writeSlot_not_skipped :
    Prog.Triple (fun st => st.trace = []) (writeSlot ctx args manifest image slot hookName handler)
      (fun _ st => .skipped slot.name ∉ st.trace) (fun _ st => .skipped slot.name ∉ st.trace) := by
  let quiet : List InstallEvent → Prop := fun t => .skipped slot.name ∉ t
  apply Prog.triple_bind (Q := fun _ st => quiet st.trace)
  · apply Prog.triple_modify
    intro st hst
    simp [quiet, hst]
  intro _
  apply Prog.triple_bind (onSystem_keeps (T := quiet) _ (fun _ h => h))
  intro _
  apply Prog.triple_bind (attempt_onSystem_keeps (T := quiet) _ (fun _ h => h))
  intro result
  cases result with
  | error e =>
    apply Prog.triple_bind (attempt_onSystem_keeps (T := quiet) _ (fun _ h => h))
    intro _
    exact Prog.triple_exit (fun _ h => h)
  | ok _ =>
    apply Prog.triple_bind (Q := fun _ st => quiet st.trace)
    · apply Prog.triple_modify
      intro st hst
      simpa [quiet] using hst
    intro _
    exact onSystem_keeps (T := quiet) _ (fun _ h => h)

/-- Only the comparison with the current status leads to a skip. -/
lemma skipped_planTrace {fates : Nat → Fate}
    (h : .skipped slot.name ∈ planTrace ctx args manifest image slot hookName handler
      system fates) :
    Updatable slot system ∧ skipsUpdate image slot (currentStatus ctx slot system) = true := by
  let decided : List InstallEvent → Prop := fun t => .skipped slot.name ∈ t →
    Updatable slot system ∧ skipsUpdate image slot (currentStatus ctx slot system) = true
  have hnothing : ∀ t, t = [] → decided t := by
    rintro _ rfl hmem
    exact absurd hmem List.not_mem_nil
  have hrun : Prog.Triple (fun st => st.system = system ∧ st.trace = [])
      (handleSlotInstallPlan ctx args manifest image slot hookName handler)
      (fun _ st => decided st.trace) (fun _ st => decided st.trace) := by
    apply Prog.triple_bind (Q := fun slotState st => st.trace = [] ∧
      (Updatable slot system ∧ (slotState = currentStatus ctx slot system ∨ slotState = {})))
    · apply Prog.triple_zoom
      rintro st ⟨rfl, htrace⟩
      exact Prog.triple_consequence (checkSlot_found st.system) (fun _ h => h) (fun _ _ h =>
        ⟨htrace, h⟩)
        (fun _ _ _ => hnothing _ htrace)
    intro slotState
    apply Prog.triple_fact
    rintro ⟨hslot, hstate⟩
    split_ifs with hskip
    · -- an empty status is not `ok`
      have hcurrent : slotState = currentStatus ctx slot system := by
        rcases hstate with hstate | rfl
        · exact hstate
        · simp [skipsUpdate] at hskip
      apply Prog.triple_bind (Q := fun _ st => decided st.trace)
      · exact Prog.triple_modify (fun _ _ _ => ⟨hslot, hcurrent ▸ hskip⟩)
      intro _
      exact onSystem_keeps (T := decided) _ (fun _ h => h)
    · apply Prog.triple_bind (onSystem_keeps (T := fun t => t = []) (E := decided) _ hnothing)
      intro _
      exact Prog.triple_consequence writeSlot_not_skipped (fun _ h => h) (fun _ _ h hmem =>
        absurd hmem h)
        (fun _ _ h hmem => absurd hmem h)
  have hend := hrun ⟨⟨system, []⟩, fates⟩ ⟨rfl, rfl⟩
  unfold Prog.Holds at hend
  unfold planTrace at h
  split at hend
  · exact hend h
  · exact hend h

/-- When nothing fails, an up-to-date slot is skipped. -/
lemma planTrace_calm (hslot : Updatable slot system)
    (hskip : skipsUpdate image slot (currentStatus ctx slot system) = true) :
    .skipped slot.name ∈ planTrace ctx args manifest image slot hookName handler system
      (fun _ => .succeeds) := by
  have hok : currentStatus ctx slot system ≠ {} := by
    intro hempty
    simp [hempty, skipsUpdate] at hskip
  obtain ⟨st, hcheck⟩ := checkSlot_calm hok hslot
  have hfirst : Prog.Calmly (⟨system, []⟩ : InstallState) (onSystem (checkSlot ctx slot))
      (currentStatus ctx slot system) ⟨st, []⟩ := Prog.calmly_zoom hcheck
  have hrest : Prog.Triple (fun st => st.trace = [])
      (do
        record (.skipped slot.name)
        onSystem (finishStatus ctx args manifest image slot "ok"))
      (fun _ st => .skipped slot.name ∈ st.trace) (fun _ st => .skipped slot.name ∈ st.trace) := by
    apply Prog.triple_bind (Q := fun _ st => .skipped slot.name ∈ st.trace)
    · exact Prog.triple_modify (fun _ _ => by simp)
    intro _
    exact onSystem_keeps (T := fun t => .skipped slot.name ∈ t) _ (fun _ h => h)
  have hend := hrest (Prog.calm ⟨st, []⟩) rfl
  have hrun : handleSlotInstallPlan ctx args manifest image slot hookName handler
      (Prog.calm ⟨system, []⟩) =
      (do
        record (.skipped slot.name)
        onSystem (finishStatus ctx args manifest image slot "ok") :
          InstallProg Unit) (Prog.calm ⟨st, []⟩) := by
    refine (Prog.bind_of_value hfirst).trans ?_
    rw [if_pos hskip]
  change .skipped slot.name ∈
    (handleSlotInstallPlan ctx args manifest image slot hookName handler
      (Prog.calm ⟨system, []⟩)).2.state.trace
  rw [hrun]
  unfold Prog.Holds at hend
  split at hend
  · exact hend
  · exact hend

/-- A skip is always justified exactly if the slot is always installed, cannot be updated in this
state or is not `ok`, or else if one of the digests is there and, should they be the same, the
stored status says `ok` like the one in memory. -/
theorem skipsOnlyUpToDate_iff :
    SkipsOnlyUpToDate ctx args manifest image slot hookName handler system ↔
      slot.installSame = true ∨ ¬ Updatable slot system ∨
        (currentStatus ctx slot system).status ≠ some "ok" ∨
        (image.checksum.digest ≠ none ∨ (currentStatus ctx slot system).checksum.digest ≠ none) ∧
        (image.checksum.digest = (currentStatus ctx slot system).checksum.digest →
          (storedStatus ctx slot system).status = some "ok") := by
  constructor
  · intro honly
    by_cases hsame : slot.installSame = true
    · exact .inl hsame
    by_cases hslot : Updatable slot system
    swap
    · exact .inr (.inl hslot)
    by_cases hok : (currentStatus ctx slot system).status = some "ok"
    swap
    · exact .inr (.inr (.inl hok))
    have hcalm : image.checksum.digest = (currentStatus ctx slot system).checksum.digest →
        (storedStatus ctx slot system).status = some "ok" ∧ ∃ digest, image.checksum.digest =
          some digest ∧
          (currentStatus ctx slot system).checksum.digest = some digest := by
      intro hdigest
      apply honly (fun _ => .succeeds)
      apply planTrace_calm hslot
      simp [skipsUpdate, hsame, hok, hdigest]
    refine .inr (.inr (.inr ⟨?_, fun hdigest => (hcalm hdigest).1⟩))
    by_contra hnone
    rw [not_or, not_not, not_not] at hnone
    obtain ⟨-, digest, hdigest, -⟩ := hcalm (hnone.1.trans hnone.2.symm)
    exact absurd (hnone.1.symm.trans hdigest) (by simp)
  · intro hcond fates hmem
    obtain ⟨hslot, hskip⟩ := skipped_planTrace hmem
    simp only [skipsUpdate, Bool.and_eq_true, Bool.not_eq_true', beq_iff_eq] at hskip
    obtain ⟨⟨hsame, hok⟩, hdigest⟩ := hskip
    rcases hcond with hcond | hcond | hcond | ⟨hsome, hstored⟩
    · simp [hsame] at hcond
    · exact absurd hslot hcond
    · exact absurd hok hcond
    · refine ⟨hstored hdigest, ?_⟩
      rw [← hdigest] at hsome ⊢
      simp only [or_self] at hsome
      obtain ⟨digest, hd⟩ := Option.ne_none_iff_exists'.mp hsome
      exact ⟨digest, hd, hd⟩

end Skips

section HookOnly

/-- Two root slots that are not installed again with the same content. -/
def onceConfig : RaucConfig where
  slots := ⟨[("rootfs.0", { bootableSlot "rootfs.0" "A" with installSame := false }),
    ("rootfs.1", { bootableSlot "rootfs.1" "B" with installSame := false })], by decide⟩
  name_key := by decide
  bootname_unique := by decide
  bootname_nonempty := by decide
  bootname_plain := by decide
  child_no_bootname := by decide
  parent_is_root := by decide
  systemBootloader := some "noop"
  statusfilePath := "/data/central.raucs"

def onceContext : InstallContext where
  config := onceConfig
  iso := epochIso
  slotNames := onceConfig.slots.keys
  slotNames_perm := List.Perm.refl _
  repos := []
  repos_perm := by decide
  unloaded := by decide

def onceSlot : RaucSlot := { bootableSlot "rootfs.1" "B" with installSame := false }

def onceGroup : TargetGroup onceContext.config.toSlotConfig where
  slots := ⟨[("rootfs", onceSlot)], by decide⟩
  configured := by decide

/-- A manifest whose only image is installed by a hook, without a file. -/
def hookFile : KeyFile :=
  ⟨[("update", ⟨[("compatible", "Test System")], by decide⟩),
    ("bundle", ⟨[("format", "plain")], by decide⟩),
    ("hooks", ⟨[("filename", "hook")], by decide⟩),
      ("image.rootfs", ⟨[("hooks", "install")], by decide⟩)], by decide⟩

def hookImage : RaucImage where
  slotclass := some "rootfs"
  hooks := { install := true }

def hookManifest : RaucManifest where
  updateCompatible := some "Test System"
  bundleFormatExplicit := true
  hookName := some "hook"
  images := [hookImage]
  hash := some ""

def onceSystem : SystemState where
  status := ⟨.missing, onceConfig.slots⟩

def hookInstallation : Installation onceContext where
  bundledir := "/bundle"
  manifest := hookManifest
  group := onceGroup
  fates _ := .succeeds

/-- The state after the first installation. -/
def hookInstalled : InstallState :=
  (hookInstallation.run ⟨onceSystem.restarted onceContext, []⟩).2.state

/-- After an update by the hook the same bundle is skipped, since neither the image nor the status
has a digest. -/
theorem hook_update_is_skipped :
    ManifestAccepted (fun _ => "") hookManifest ∧ InstallRun onceContext onceSystem hookInstalled ∧
      .skipped "rootfs.1" ∈ (hookInstallation.run hookInstalled).2.state.trace ∧
      ¬ SkipsOnlyUpToDate onceContext {} hookManifest hookImage onceSlot (some "/bundle/hook")
        .hookInstall
        hookInstalled.system := by
  refine ⟨⟨hookFile, hookManifest, by decide +kernel, .inl (by decide +kernel)⟩,
    .installed .start hookInstallation (by decide +kernel), by decide +kernel, ?_⟩
  intro honly
  obtain ⟨-, digest, hdigest, -⟩ := honly (fun _ => .succeeds) (by decide +kernel)
  exact absurd hdigest (by simp [hookImage])

end HookOnly

end RaucUpdate
