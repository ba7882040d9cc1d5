import RaucUpdate.Proofs.InstallMarks
import RaucUpdate.Proofs.StatusRuns

/-!
# The shared status file tells the truth

A status that claims to be `ok` with a digest, in memory or in the shared file, is backed by the
last write to the slot. What backs it is a parameter `T` of the assertions about the system, since
the programs on the system do not see the trace.
-/

namespace RaucUpdate

open Library

section Claims

def ClaimsDigest (status : RaucSlotStatus) (digest : String) : Prop :=
  status.status = some "ok" ∧ status.checksum.digest = some digest

instance (status : RaucSlotStatus) (digest : String) : Decidable (ClaimsDigest status digest) :=
  inferInstanceAs (Decidable (_ ∧ _))

lemma eq_some_of_nonEmpty {s : Option String} {text : String} (h : nonEmpty s = some text) :
    s = some text := by
  unfold nonEmpty at h
  split_ifs at h
  exact h

/-- What is recorded of a status claims no more than the status does. -/
lemma ClaimsDigest.of_recorded {status : RaucSlotStatus} {digest : String}
    (h : ClaimsDigest (recordedStatus status) digest) : ClaimsDigest status digest := by
  obtain ⟨hstatus, hdigest⟩ := h
  refine ⟨eq_some_of_nonEmpty hstatus, ?_⟩
  have hrecorded : recordedDigest status.checksum = some digest := by
    apply eq_some_of_nonEmpty
    change (recordedChecksum status.checksum).digest = some digest at hdigest
    unfold recordedChecksum at hdigest
    cases hempty : nonEmpty (recordedDigest status.checksum) with
    | none => simp [hempty] at hdigest
    | some text => simpa [hempty] using hdigest
  unfold recordedDigest at hrecorded
  split_ifs at hrecorded
  exact hrecorded

lemma not_claims_markPending (status : RaucSlotStatus) (digest : String) :
    ¬ ClaimsDigest (markPending status) digest := by
  simp [ClaimsDigest, markPending]

lemma not_claims_markUpdate (status : RaucSlotStatus) (digest : String) :
    ¬ ClaimsDigest (markUpdate status) digest := by
  simp [ClaimsDigest, markUpdate]

lemma not_claims_failed (args : RaucInstallArgs) (manifest : RaucManifest) (image : RaucImage)
    (now : DateTime)
    (status : RaucSlotStatus) (digest : String) :
    ¬ ClaimsDigest (updateSlotStatus args manifest image "failed" now status) digest := by
  simp [ClaimsDigest, updateSlotStatus]

end Claims

section Truthful

variable (ctx : InstallContext) (T : String → String → Prop)

/-- Every claim of a configured slot, in memory or in the file, is backed. -/
structure Truthful (st : StatusState) : Prop where
  loaded : LoadedSlots ctx.config.toSlotConfig st.slots
  memory : ∀ n slot status, ctx.config.slots.lookup n = some slot →
    st.slots.lookup n = some (slot.withStatus status) → ∀ d, ClaimsDigest status d → T n d
  disk : ∀ n slot, ctx.config.slots.lookup n = some slot →
    ∀ d, ClaimsDigest (persistedStatus ctx.iso st.file n) d → T n d

/-- The status of the slot in memory claims no digest. -/
def QuietMemory (name : String) (st : StatusState) : Prop :=
  ∀ slot status, ctx.config.slots.lookup name = some slot → st.slots.lookup name =
    some (slot.withStatus status) →
    ∀ d, ¬ ClaimsDigest status d

/-- Neither in memory nor in the file does the slot claim a digest. -/
def Quiet (name : String) (st : StatusState) : Prop :=
  QuietMemory ctx name st ∧ ∀ slot, ctx.config.slots.lookup name = some slot →
    ∀ d, ¬ ClaimsDigest (persistedStatus ctx.iso st.file name) d

variable {ctx T} {st : StatusState}

lemma Truthful.mono {T' : String → String → Prop} (h : Truthful ctx T st)
    (hT : ∀ n d, T n d → T' n d) :
    Truthful ctx T' st where
  loaded := h.loaded
  memory n slot status hslot hlookup d hd := hT n d (h.memory n slot status hslot hlookup d hd)
  disk n slot hslot d hd := hT n d (h.disk n slot hslot d hd)

/-- A slot that claims nothing may lose what backs it. -/
lemma Truthful.quiet {T' : String → String → Prop} {name : String} (h : Truthful ctx T st)
    (hquiet : Quiet ctx name st)
    (hT : ∀ n d, n ≠ name → T n d → T' n d) : Truthful ctx T' st := by
  refine ⟨h.loaded, fun n slot status hslot hlookup d hd => ?_, fun n slot hslot d hd => ?_⟩
  · by_cases hn : n = name
    · subst hn
      exact absurd hd (hquiet.1 slot status hslot hlookup d)
    · exact hT n d hn (h.memory n slot status hslot hlookup d hd)
  · by_cases hn : n = name
    · subst hn
      exact absurd hd (hquiet.2 slot hslot d)
    · exact hT n d hn (h.disk n slot hslot d hd)

lemma withStatus_inj {slot slot' : RaucSlot} {status status' : RaucSlotStatus}
    (h : some (slot.withStatus status) = some (slot'.withStatus status')) : status = status' := by
  have hfields := congrArg RaucSlot.status (Option.some.inj h)
  simpa using hfields

/-- What a status that is set claims has to be backed. -/
lemma Truthful.set_status (h : Truthful ctx T st) {name : String} {old : RaucSlot}
    (hold : st.slots.lookup name = some old)
    {status : RaucSlotStatus} (hstatus : ∀ d, ClaimsDigest status d → T name d) :
    Truthful ctx T { st with slots := st.slots.set name (old.withStatus status) } := by
  refine ⟨h.loaded.set_status status hold, fun n slot status' hslot hlookup d hd => ?_, h.disk⟩
  simp only [Table.lookup_set] at hlookup
  split_ifs at hlookup with hname
  · subst hname
    obtain rfl := withStatus_inj hlookup
    exact hstatus d hd
  · exact h.memory n slot status' hslot hlookup d hd

lemma quietMemory_set_status {name : String} {old : RaucSlot} {status : RaucSlotStatus}
    (hstatus : ∀ d, ¬ ClaimsDigest status d) :
    QuietMemory ctx name { st with slots := st.slots.set name (old.withStatus status) } := by
  intro slot status' _ hlookup d hd
  simp only [Table.lookup_set, if_true] at hlookup
  obtain rfl := withStatus_inj hlookup
  exact hstatus d hd

/-- The status of the slot in memory, if it has been loaded, claims only what is backed. -/
lemma Truthful.statusOf (h : Truthful ctx T st) (slot : RaucSlot) {status : RaucSlotStatus}
    (hstatus : RaucUpdate.statusOf st.slots slot = some status) : ∀ d, ClaimsDigest status d →
      T slot.name d := by
  unfold RaucUpdate.statusOf at hstatus
  obtain ⟨current, hlookup, hcurrent⟩ := Option.bind_eq_some_iff.mp hstatus
  cases hconfig : ctx.config.slots.lookup slot.name with
  | none => exact absurd (h.loaded.unknown _ hconfig) (by simp [hlookup])
  | some configured =>
    obtain ⟨loaded, hloaded⟩ := h.loaded.known _ _ hconfig
    have hsame : current = configured.withStatus loaded :=
      Option.some.inj (hlookup.symm.trans hloaded)
    have hstatus' : loaded = status := by
      rw [hsame] at hcurrent
      exact Option.some.inj hcurrent
    subst hstatus'
    exact h.memory _ _ _ hconfig hloaded

lemma Truthful.getD_statusOf (h : Truthful ctx T st) (slot : RaucSlot) :
    ∀ d, ClaimsDigest ((RaucUpdate.statusOf st.slots slot).getD {}) d → T slot.name d := by
  intro d hd
  cases hstatus : RaucUpdate.statusOf st.slots slot with
  | none => simp [hstatus, ClaimsDigest] at hd
  | some status =>
    rw [hstatus] at hd
    exact h.statusOf slot hstatus d hd

end Truthful

section StatusPrograms

variable {ctx : InstallContext} {T : String → String → Prop}

/-- What a saved file claims for a slot is claimed in memory. -/
lemma claims_of_save {slots : SlotTable} (h : LoadedSlots ctx.config.toSlotConfig slots)
    (old : StatusFile) {n : String}
    {slot : RaucSlot} (hslot : ctx.config.slots.lookup n = some slot) {d : String}
    (hd : ClaimsDigest (statusFileGetSlotStatus ctx.iso
      (saveSlotStatusGlobally ctx.iso old (ctx.slotNames.filterMap slots.lookup))
        (slotGroup n) {}) d) :
    ∃ status, slots.lookup n = some (slot.withStatus status) ∧ ClaimsDigest status d := by
  obtain ⟨status, hstatus⟩ := h.known n slot hslot
  rw [h.get_save ctx.iso ctx.slotNames_perm old hslot hstatus] at hd
  exact ⟨status, hstatus, hd.of_recorded⟩

/-- A save puts into the file what is in memory, or leaves the file. -/
lemma Truthful.save {w : World StatusState} (h : Truthful ctx T w.state) :
    Truthful ctx T (rSlotStatusSave ctx.iso ctx.slotNames w).2.state := by
  obtain ⟨hslots, hfile⟩ := replaceFile_cases
    (fun st => saveSlotStatusGlobally ctx.iso st.file (ctx.slotNames.filterMap st.slots.lookup)) w
  refine ⟨hslots ▸ h.loaded, hslots ▸ h.memory, fun n slot hslot d hd => ?_⟩
  unfold persistedStatus at hd
  rcases hfile with ⟨-, hnew⟩ | ⟨-, hold⟩
  · obtain ⟨status, hstatus, hclaims⟩ := claims_of_save h.loaded (setAsideBroken w.state.file)
      hslot (hnew ▸ hd)
    exact h.memory n slot status hslot hstatus d hclaims
  · apply h.disk n slot hslot d
    unfold persistedStatus
    exact hold ▸ hd

/-- A slot that claims nothing in memory claims nothing in the file either once it is saved. -/
lemma QuietMemory.save {w : World StatusState} {name : String} (htrue : Truthful ctx T w.state)
    (h : QuietMemory ctx name w.state) (hsaved : (rSlotStatusSave ctx.iso ctx.slotNames w).1 =
      .value ()) :
    Quiet ctx name (rSlotStatusSave ctx.iso ctx.slotNames w).2.state := by
  obtain ⟨hslots, hfile⟩ := replaceFile_cases
    (fun st => saveSlotStatusGlobally ctx.iso st.file (ctx.slotNames.filterMap st.slots.lookup)) w
  refine ⟨fun slot status hslot hlookup => h slot status hslot (hslots ▸ hlookup),
    fun slot hslot d hd => ?_⟩
  unfold persistedStatus at hd
  rcases hfile with ⟨-, hnew⟩ | ⟨hexit, -⟩
  · obtain ⟨status, hstatus, hclaims⟩ := claims_of_save htrue.loaded (setAsideBroken w.state.file)
      hslot (hnew ▸ hd)
    exact h slot status hslot hstatus d hclaims
  · exact absurd hsaved hexit

lemma rSlotStatusSave_truthful :
    Prog.Triple (Truthful ctx T) (rSlotStatusSave ctx.iso ctx.slotNames) (fun _ => Truthful ctx T)
      (fun _ => Truthful ctx T) := by
  intro w hw
  unfold Prog.Holds
  cases (rSlotStatusSave ctx.iso ctx.slotNames w).1 <;> exact hw.save

lemma rSlotStatusSave_quiet (name : String) :
    Prog.Triple (fun st => Truthful ctx T st ∧ QuietMemory ctx name st)
      (rSlotStatusSave ctx.iso ctx.slotNames)
      (fun _ st => Truthful ctx T st ∧ Quiet ctx name st) (fun _ => Truthful ctx T) := by
  intro w hw
  unfold Prog.Holds
  cases hresult : (rSlotStatusSave ctx.iso ctx.slotNames w).1 with
  | value _ => exact ⟨hw.1.save, hw.2.save hw.1 hresult⟩
  | exit x => exact hw.1.save

lemma slotStatusLoad_truthful {E : Exit GError → StatusState → Prop} :
    Prog.Triple (Truthful ctx T) (slotStatusLoad ctx.iso) (fun _ => Truthful ctx T) E := by
  apply Prog.triple_modify
  intro st hst
  have hsame := hst.loaded.lookup_load ctx.iso st.file
  refine ⟨hst.loaded.congr hsame, fun n slot status hslot hlookup => ?_, hst.disk⟩
  rw [hsame] at hlookup
  exact hst.memory n slot status hslot hlookup

end StatusPrograms

section SystemPrograms

variable {α β : Type}

/-- The program does not change the statuses, neither in memory nor in the shared file. -/
def KeepsStatus (p : SystemProg α) : Prop :=
  ∀ P : StatusState → Prop, Prog.Triple (fun st => P st.status) p (fun _ st => P st.status)
    (fun _ st => P st.status)

lemma keepsStatus_pure (a : α) : KeepsStatus (pure a : SystemProg α) :=
  fun _ => Prog.triple_pure (fun _ h => h)

lemma keepsStatus_exit (x : Exit GError) : KeepsStatus (Prog.exit x : SystemProg α) :=
  fun _ => Prog.triple_exit (fun _ h => h)

lemma keepsStatus_bind {p : SystemProg α} {f : α → SystemProg β} (hp : KeepsStatus p)
    (hf : ∀ a, KeepsStatus (f a)) :
    KeepsStatus (p >>= f) :=
  fun P => Prog.triple_bind (hp P) (fun a => hf a P)

lemma keepsStatus_read : KeepsStatus (Prog.read : SystemProg SystemState) :=
  fun _ => Prog.triple_read (fun _ h => h)

lemma keepsStatus_modify {f : SystemState → SystemState} (hf : ∀ st, (f st).status = st.status) :
    KeepsStatus (Prog.modify f) := by
  intro P
  apply Prog.triple_modify
  intro st hst
  rw [hf]
  exact hst

lemma keepsStatus_ask : KeepsStatus (Prog.ask : SystemProg (Option Failure)) :=
  fun _ => Prog.triple_ask (fun _ _ h => h) (fun _ h => h)

lemma keepsStatus_external (report : Failure → GError) :
    KeepsStatus (Prog.external id report : SystemProg Unit) :=
  fun _ => Prog.triple_external (fun _ h => h) (fun _ h _ => h) (fun _ h => h)

lemma keepsStatus_each {f : α → SystemProg Unit} (hf : ∀ a, KeepsStatus (f a)) (l : List α) :
    KeepsStatus (Prog.each f l) :=
  fun P => Prog.triple_each (fun _ (st : SystemState) => P st.status) (fun a _ => hf a P) l

lemma keepsStatus_ofExcept (r : Except GError α) : KeepsStatus (ofExcept r) := by
  cases r with
  | error e => exact keepsStatus_exit _
  | ok a => exact keepsStatus_pure a

lemma keepsStatus_onMedia (p : MediaProg α) : KeepsStatus (onMedia p) := by
  intro P
  apply Prog.triple_zoom
  intro st hst
  exact Prog.triple_consequence (returns_any p) (fun _ _ => trivial) (fun _ _ _ => hst)
    (fun _ _ _ => hst)

lemma keepsStatus_onArtifacts (p : ArtifactProg α) : KeepsStatus (onArtifacts p) := by
  intro P
  apply Prog.triple_zoom
  intro st hst
  exact Prog.triple_consequence (returns_any p) (fun _ _ => trivial) (fun _ _ _ => hst)
    (fun _ _ _ => hst)

/-- A program on the statuses, seen from the system. -/
lemma onStatus_triple {p : StatusProg α} {P : StatusState → Prop} {Q : α → StatusState → Prop}
    {E : Exit GError → StatusState → Prop} (h : Prog.Triple P p Q E) :
    Prog.Triple (fun st : SystemState => P st.status) (onStatus p) (fun a st => Q a st.status)
      (fun x st => E x st.status) := by
  apply Prog.triple_zoom
  intro st hst
  apply Prog.triple_consequence h _ (fun _ _ h => h) (fun _ _ h => h)
  rintro _ rfl
  exact hst

variable {ctx : InstallContext} {T : String → String → Prop} (slot : RaucSlot)

lemma keepsStatus_currentTime : KeepsStatus currentTime := by
  apply keepsStatus_bind keepsStatus_read
  intro now
  exact keepsStatus_bind (keepsStatus_modify (fun _ => rfl)) (fun _ => keepsStatus_pure _)

lemma keepsStatus_rSlotCleanDataDirectory : KeepsStatus (rSlotCleanDataDirectory slot) := by
  unfold rSlotCleanDataDirectory
  cases slot.dataDirectory with
  | none => exact keepsStatus_pure ()
  | some dir =>
    simp only
    split_ifs with habsolute
    · exact keepsStatus_exit _
    · apply keepsStatus_bind (keepsStatus_bind keepsStatus_read (fun st => keepsStatus_pure _))
      intro status
      split_ifs with hpending
      · exact keepsStatus_pure ()
      · exact keepsStatus_bind keepsStatus_ask (fun _ => keepsStatus_pure ())

lemma keepsStatus_rSlotMoveChecksumDataDirectory (oldDigest : Option String) :
    KeepsStatus (rSlotMoveChecksumDataDirectory slot oldDigest) := by
  unfold rSlotMoveChecksumDataDirectory
  split_ifs with hnothing
  · exact keepsStatus_pure ()
  · exact keepsStatus_bind keepsStatus_ask (fun _ => keepsStatus_pure ())

lemma keepsStatus_replaceSlotFile : KeepsStatus (replaceSlotFile slot) :=
  keepsStatus_modify (fun _ => rfl)

lemma keepsStatus_callBootBackend : KeepsStatus (callBootBackend ctx) := by
  unfold callBootBackend
  cases ctx.config.systemBootloader with
  | none => exact keepsStatus_exit _
  | some bootloader =>
    simp only
    split_ifs with hbackend hnoop
    · exact keepsStatus_external _
    · exact keepsStatus_pure ()
    · exact keepsStatus_exit _

/-- A change of a status keeps the truth if the new status claims only what is backed. -/
lemma changeStatus_truthful {f : RaucSlotStatus → RaucSlotStatus}
    {E : Exit GError → SystemState → Prop}
    (hf : ∀ status, (∀ d, ClaimsDigest status d → T slot.name d) → ∀ d, ClaimsDigest (f status) d →
      T slot.name d) :
    Prog.Triple (fun st => Truthful ctx T st.status) (changeStatus slot f) (fun _ st =>
      Truthful ctx T st.status) E := by
  apply Prog.triple_bind (Q := fun status st => Truthful ctx T st.status ∧
    status = statusOf st.status.slots slot)
  · apply Prog.triple_read_bind
    intro st hst
    apply Prog.triple_pure
    rintro _ rfl
    exact ⟨hst, rfl⟩
  intro status
  apply Prog.triple_zoom
  rintro st ⟨hst, rfl⟩
  apply Prog.triple_modify
  rintro _ rfl
  cases hlookup : st.status.slots.lookup slot.name with
  | none => exact hst
  | some old =>
    apply hst.set_status hlookup
    exact hf _ (hst.getD_statusOf slot)

/-- After a change to a status that claims nothing, nothing is claimed in memory. -/
lemma changeStatus_quiet {f : RaucSlotStatus → RaucSlotStatus}
    {E : Exit GError → SystemState → Prop}
    (hf : ∀ status d, ¬ ClaimsDigest (f status) d) (D : StatusFile → Prop) :
    Prog.Triple (fun st => Truthful ctx T st.status ∧ D st.status.file) (changeStatus slot f)
      (fun _ st => (Truthful ctx T st.status ∧ QuietMemory ctx slot.name st.status) ∧
        D st.status.file) E := by
  intro w hw
  have htrue := changeStatus_truthful slot (T := T) (E := E) (fun status _ d hd =>
    absurd hd (hf status d)) w hw.1
  have hquiet : QuietMemory ctx slot.name (changeStatus slot f w).2.state.status ∧
      (changeStatus slot f w).2.state.status.file = w.state.status.file := by
    change QuietMemory ctx slot.name (updateStatus slot.name _ ⟨w.state.status, w.fates⟩).2.state ∧
      (updateStatus slot.name _ ⟨w.state.status, w.fates⟩).2.state.file = w.state.status.file
    rw [updateStatus_state]
    cases hlookup : w.state.status.slots.lookup slot.name with
    | none => exact ⟨fun s status _ hs => absurd hs (by simp [hlookup]), rfl⟩
    | some old => exact ⟨quietMemory_set_status (hf _), rfl⟩
  exact ⟨⟨htrue, hquiet.1⟩, hquiet.2 ▸ hw.2⟩

lemma saveSlotStatus_truthful (hglobal : perSlot ctx = false) :
    Prog.Triple (fun st => Truthful ctx T st.status) (saveSlotStatus ctx slot) (fun _ st =>
      Truthful ctx T st.status)
      (fun _ st => Truthful ctx T st.status) := by
  apply Prog.triple_bind (keepsStatus_rSlotCleanDataDirectory slot (Truthful ctx T))
  intro _
  simp only [hglobal, Bool.false_eq_true, if_false]
  exact onStatus_triple rSlotStatusSave_truthful

lemma saveSlotStatus_quiet (hglobal : perSlot ctx = false) :
    Prog.Triple (fun st => Truthful ctx T st.status ∧ QuietMemory ctx slot.name st.status)
      (saveSlotStatus ctx slot)
      (fun _ st => Truthful ctx T st.status ∧ Quiet ctx slot.name st.status)
      (fun _ st => Truthful ctx T st.status) := by
  have hclean := keepsStatus_rSlotCleanDataDirectory slot
    (fun st => Truthful ctx T st ∧ QuietMemory ctx slot.name st)
  apply Prog.triple_bind (Prog.triple_consequence hclean (fun _ h => h) (fun _ _ h => h)
    (fun _ _ h => h.1))
  intro _
  simp only [hglobal, Bool.false_eq_true, if_false]
  exact onStatus_triple (rSlotStatusSave_quiet slot.name)

lemma loadSlotStatus_truthful (hglobal : perSlot ctx = false) :
    Prog.Triple (fun st => Truthful ctx T st.status) (loadSlotStatus ctx slot) (fun _ st =>
      Truthful ctx T st.status)
      (fun _ st => Truthful ctx T st.status) := by
  apply Prog.triple_bind (Q := fun _ st => Truthful ctx T st.status)
  · apply Prog.triple_bind (keepsStatus_bind keepsStatus_read (fun st => keepsStatus_pure _)
      (Truthful ctx T))
    intro status
    cases status with
    | some status => exact Prog.triple_pure (fun _ h => h)
    | none =>
      simp only [hglobal, Bool.false_eq_true, if_false]
      exact onStatus_triple slotStatusLoad_truthful
  · intro _
    exact keepsStatus_rSlotCleanDataDirectory slot (Truthful ctx T)

/-- The status that is found for a slot claims only what is backed. -/
lemma checkSlot_truthful (hglobal : perSlot ctx = false) :
    Prog.Triple (fun st => Truthful ctx T st.status) (checkSlot ctx slot)
      (fun slotState st => Truthful ctx T st.status ∧ ∀ d, ClaimsDigest slotState d → T slot.name d)
      (fun _ st => Truthful ctx T st.status) := by
  apply Prog.triple_bind (loadSlotStatus_truthful slot hglobal)
  intro _
  apply Prog.triple_read_bind
  intro st hst
  split_ifs with hmounted
  · apply Prog.triple_exit
    rintro _ rfl
    exact hst
  · apply Prog.triple_pure
    rintro _ rfl
    exact ⟨hst, hst.getD_statusOf slot⟩

variable (args : RaucInstallArgs) (manifest : RaucManifest) (image : RaucImage)

lemma finishStatus_truthful (hglobal : perSlot ctx = false) {text : String}
    (htext : ∀ now status d, ClaimsDigest (updateSlotStatus args manifest image text now status)
      d → T slot.name d) :
    Prog.Triple (fun st => Truthful ctx T st.status)
      (finishStatus ctx args manifest image slot text)
      (fun _ st => Truthful ctx T st.status) (fun _ st => Truthful ctx T st.status) := by
  apply Prog.triple_bind (keepsStatus_currentTime (Truthful ctx T))
  intro now
  apply Prog.triple_bind (changeStatus_truthful slot (fun status _ d hd => htext now status d hd))
  intro _
  exact Prog.triple_mapError (saveSlotStatus_truthful slot hglobal) (fun _ _ h => h)

/-- Before the slot is written it claims nothing any more, neither in memory nor in the file. -/
lemma prepareWrite_truthful (hglobal : perSlot ctx = false) (slotState : RaucSlotStatus) :
    Prog.Triple (fun st => Truthful ctx T st.status) (prepareWrite ctx slot slotState)
      (fun _ st => Truthful ctx T st.status ∧ Quiet ctx slot.name st.status)
      (fun _ st => Truthful ctx T st.status) := by
  apply Prog.triple_bind (Q := fun _ st => Truthful ctx T st.status ∧ Quiet ctx slot.name st.status)
  · simp only [announcePending, hglobal, Bool.false_eq_true, if_false]
    apply Prog.triple_bind (Prog.triple_consequence
      (changeStatus_quiet slot (T := T) not_claims_markPending (fun _ => True))
      (fun _ h => ⟨h, trivial⟩) (fun _ _ h => h.1) (fun _ _ h => h))
    intro _
    apply Prog.triple_bind (Prog.triple_consequence
      (keepsStatus_rSlotMoveChecksumDataDirectory slot slotState.checksum.digest
        (fun st => Truthful ctx T st ∧ QuietMemory ctx slot.name st))
      (fun _ h => h) (fun _ _ h => h) (fun _ _ h => h.1))
    intro _
    exact Prog.triple_mapError (saveSlotStatus_quiet slot hglobal) (fun _ _ h => h)
  · intro _
    apply Prog.triple_consequence (changeStatus_quiet slot (T := T) not_claims_markUpdate
      (fun file => ∀ configured,
      ctx.config.slots.lookup slot.name = some configured →
        ∀ d, ¬ ClaimsDigest (persistedStatus ctx.iso file slot.name) d))
    · exact fun _ h => ⟨h.1, h.2.2⟩
    · exact fun _ _ h => ⟨h.1.1, h.1.2, h.2⟩
    · exact fun _ _ h => h

/-- An activation keeps the status and the digest of the slot. -/
lemma activateSlot_truthful (hglobal : perSlot ctx = false) :
    Prog.Triple (fun st => Truthful ctx T st.status) (activateSlot ctx slot) (fun _ st =>
      Truthful ctx T st.status)
      (fun _ st => Truthful ctx T st.status) := by
  apply Prog.triple_bind (loadSlotStatus_truthful slot hglobal)
  intro _
  apply Prog.triple_bind (Prog.triple_attempt_cases (keepsStatus_callBootBackend (Truthful ctx T)))
  intro result
  cases result with
  | error e => exact Prog.triple_exit (fun _ h => h)
  | ok _ =>
    apply Prog.triple_bind (keepsStatus_currentTime (Truthful ctx T))
    intro now
    apply Prog.triple_bind (changeStatus_truthful (f := countActivation now) slot (fun _ h => h))
    intro _
    apply Prog.triple_bind (Prog.triple_attempt_cases (saveSlotStatus_truthful slot hglobal))
    intro saved
    apply Prog.triple_pure
    intro st hst
    cases saved with
    | error e => exact hst
    | ok _ => exact hst

lemma keepsStatus_rInstallMakePlans (group : Table String RaucSlot) :
    KeepsStatus (rInstallMakePlans ctx manifest group) := by
  apply keepsStatus_bind
  · cases getAllManifestSlotClasses manifest.images with
    | none => exact keepsStatus_exit _
    | some classes => exact keepsStatus_pure classes
  intro classes
  apply keepsStatus_bind (keepsStatus_ofExcept _)
  intro forSlots
  apply keepsStatus_bind (keepsStatus_onArtifacts _)
  intro _
  apply keepsStatus_bind (keepsStatus_onArtifacts _)
  intro _
  apply keepsStatus_bind (keepsStatus_ofExcept _)
  intro forArtifacts
  split_ifs with hempty
  · exact keepsStatus_exit _
  · exact keepsStatus_pure _

lemma keepsStatus_getBootMarkSlot (plans : List RImageInstallPlan) :
    KeepsStatus (getBootMarkSlot plans) := by
  unfold getBootMarkSlot
  split
  · exact keepsStatus_pure _
  · exact keepsStatus_pure _
  · exact keepsStatus_exit _

lemma keepsStatus_requireFile (missing : GError) : KeepsStatus (requireFile missing) := by
  apply keepsStatus_bind keepsStatus_ask
  intro result
  cases result with
  | none => exact keepsStatus_pure ()
  | some _ => exact keepsStatus_exit _

lemma keepsStatus_checkImageFiles (image : RaucImage) : KeepsStatus (checkImageFiles image) := by
  unfold checkImageFiles
  cases image.filename with
  | none =>
    simp only
    split_ifs with hinstall
    · exact keepsStatus_pure ()
    · exact keepsStatus_exit _
  | some filename =>
    apply keepsStatus_bind
    · apply keepsStatus_bind keepsStatus_ask
      intro result
      cases result with
      | none => exact keepsStatus_pure ()
      | some _ =>
        simp only
        split_ifs with hconverted
        · exact keepsStatus_exit _
        · exact keepsStatus_pure ()
    · intro _
      exact keepsStatus_each (fun _ => keepsStatus_requireFile _) _

lemma keepsStatus_checkTarget (plan : RImageInstallPlan) : KeepsStatus (checkTarget plan) := by
  unfold checkTarget
  split
  · exact keepsStatus_exit _
  · apply keepsStatus_bind (keepsStatus_requireFile _)
    intro _
    apply keepsStatus_bind keepsStatus_read
    intro st
    split_ifs with hfree hhook hallowed
    · exact keepsStatus_pure ()
    · exact keepsStatus_pure ()
    · exact keepsStatus_exit _
    · exact keepsStatus_exit _
  · exact keepsStatus_requireFile _
  · exact keepsStatus_exit _

lemma keepsStatus_preInstallChecks (plans : List RImageInstallPlan) :
    KeepsStatus (preInstallChecks plans) := by
  apply keepsStatus_each
  intro plan
  exact keepsStatus_bind (keepsStatus_checkImageFiles plan.image)
    (fun _ => keepsStatus_checkTarget plan)

end SystemPrograms

section Writes

/-- A write of a slot that was started: the digest of its image and whether it ran to completion. -/
structure SlotWrite where
  digest : Option String
  completed : Bool
  deriving DecidableEq

def trackWrite (name : String) (write : Option SlotWrite) : InstallEvent → Option SlotWrite
  | .writeStarted n digest => if n = name then some ⟨digest, false⟩ else write
  | .writeDone n _ => if n = name then write.map (fun w => { w with completed := true }) else write
  | _ => write

/-- The most recent write that was started on the slot. -/
def lastWrite (name : String) (trace : List InstallEvent) : Option SlotWrite :=
  trace.foldl (trackWrite name) none

/-- The last write of the slot ran to completion and was for an image with this digest. If the trace
has no write of the slot, the status file the run started with is believed. -/
def WrittenAs (iso : Iso8601) (file : StatusFile) (trace : List InstallEvent)
    (name digest : String) : Prop :=
  match lastWrite name trace with
  | none => ClaimsDigest (persistedStatus iso file name) digest
  | some write => write.completed = true ∧ write.digest = some digest

lemma lastWrite_snoc (name : String) (trace : List InstallEvent) (e : InstallEvent) :
    lastWrite name (trace ++ [e]) = trackWrite name (lastWrite name trace) e := by
  simp [lastWrite]

variable {iso : Iso8601} {file : StatusFile} {trace : List InstallEvent} {n d : String}

lemma WrittenAs.snoc {e : InstallEvent} (h : WrittenAs iso file trace n d)
    (he : ∀ write, trackWrite n write e = write) :
    WrittenAs iso file (trace ++ [e]) n d := by
  unfold WrittenAs
  rw [lastWrite_snoc, he]
  exact h

lemma WrittenAs.snoc_writeDone {name : String} {digest : Option String}
    (h : WrittenAs iso file trace n d) :
    WrittenAs iso file (trace ++ [.writeDone name digest]) n d := by
  unfold WrittenAs at h ⊢
  rw [lastWrite_snoc]
  cases hlast : lastWrite n trace with
  | none =>
    rw [hlast] at h
    simpa [trackWrite] using h
  | some write =>
    rw [hlast] at h
    by_cases hname : name = n
    · simpa [trackWrite, hname] using h.2
    · simpa [trackWrite, hname] using h

lemma writtenAs_done {name : String} {digest : Option String}
    (h : lastWrite name trace = some ⟨some d, false⟩) :
      WrittenAs iso file (trace ++ [.writeDone name digest]) name d := by
  unfold WrittenAs
  rw [lastWrite_snoc, h]
  simp [trackWrite]

end Writes

section Installations

variable {ctx : InstallContext} {file : StatusFile} {α : Type}

/-- What the statuses claim is backed by the trace. -/
def Honest (ctx : InstallContext) (file : StatusFile) (st : InstallState) : Prop :=
  Truthful ctx (WrittenAs ctx.iso file st.trace) st.system.status

/-- A program on the system, whatever the trace is. -/
lemma onSystem_triple {p : SystemProg α} {P : List InstallEvent → SystemState → Prop}
    {Q : α → List InstallEvent → SystemState → Prop}
    {E : Exit GError → List InstallEvent → SystemState → Prop}
    (h : ∀ trace, Prog.Triple (P trace) p (fun a => Q a trace) (fun x => E x trace)) :
    Prog.Triple (fun st => P st.trace st.system) (onSystem p) (fun a st => Q a st.trace st.system)
      (fun x st => E x st.trace st.system) := by
  apply Prog.triple_zoom
  intro st hst
  apply Prog.triple_consequence (h st.trace) _ (fun _ _ h => h) (fun _ _ h => h)
  rintro _ rfl
  exact hst

/-- A program that keeps the truth, with a fact `C` about the trace. -/
lemma onSystem_honest (C : List InstallEvent → Prop) {p : SystemProg α}
    (hp : ∀ trace, C trace → Prog.Triple (fun st => Truthful ctx (WrittenAs ctx.iso file trace)
      st.status) p
      (fun _ st => Truthful ctx (WrittenAs ctx.iso file trace) st.status)
      (fun _ st => Truthful ctx (WrittenAs ctx.iso file trace) st.status)) :
    Prog.Triple (fun st => Honest ctx file st ∧ C st.trace) (onSystem p) (fun _ st =>
      Honest ctx file st ∧ C st.trace)
      (fun _ => Honest ctx file) := by
  apply onSystem_triple (P := fun trace st => Truthful ctx (WrittenAs ctx.iso file trace)
    st.status ∧ C trace)
    (Q := fun _ trace st => Truthful ctx (WrittenAs ctx.iso file trace) st.status ∧ C trace)
    (E := fun _ trace st => Truthful ctx (WrittenAs ctx.iso file trace) st.status)
  intro trace
  apply Prog.triple_fact
  intro hC
  exact Prog.triple_consequence (hp trace hC) (fun _ h => h) (fun _ _ h => ⟨h, hC⟩) (fun _ _ h => h)

/-- An outcome of a program that keeps the truth, as a result. -/
lemma attempt_honest {C : List InstallEvent → Prop} {p : InstallProg α}
    (hp : Prog.Triple (fun st => Honest ctx file st ∧
      C st.trace) p (fun _ st => Honest ctx file st ∧ C st.trace)
      (fun _ => Honest ctx file)) :
    Prog.Triple (fun st => Honest ctx file st ∧ C st.trace) (Prog.attempt p)
      (fun r st => Honest ctx file st ∧ ((∃ a, r = .ok a) → C st.trace))
        (fun _ => Honest ctx file) := by
  apply Prog.triple_consequence (Prog.triple_attempt_cases hp) (fun _ h => h) _ (fun _ _ h => h)
  intro result st hst
  cases result with
  | ok a => exact ⟨hst.1, fun _ => hst.2⟩
  | error e => exact ⟨hst, fun h => absurd h (by simp)⟩

/-- The truth is kept on every way out. -/
def KeepsHonest (ctx : InstallContext) (file : StatusFile) (p : InstallProg α) : Prop :=
  Prog.Triple (Honest ctx file) p (fun _ => Honest ctx file) (fun _ => Honest ctx file)

lemma keepsHonest_onSystem {p : SystemProg α}
    (hp : ∀ T, Prog.Triple (fun st => Truthful ctx T st.status) p (fun _ st =>
      Truthful ctx T st.status)
      (fun _ st => Truthful ctx T st.status)) : KeepsHonest ctx file (onSystem p) :=
  Prog.triple_consequence (onSystem_honest (fun _ => True) (fun _ _ => hp _)) (fun _ h =>
    ⟨h, trivial⟩)
    (fun _ _ h => h.1) (fun _ _ h => h)

lemma keepsHonest_record {e : InstallEvent} (he : ∀ n write, trackWrite n write e = write) :
    KeepsHonest ctx file (record e) :=
  Prog.triple_modify (fun _ hst => hst.mono (fun n _ h => h.snoc (he n)))

lemma keepsHonest_bind {β : Type} {p : InstallProg α} {f : α → InstallProg β}
    (hp : KeepsHonest ctx file p)
    (hf : ∀ a, KeepsHonest ctx file (f a)) : KeepsHonest ctx file (p >>= f) :=
  Prog.triple_bind hp hf

lemma keepsHonest_attempt {p : InstallProg α} (hp : KeepsHonest ctx file p) :
    KeepsHonest ctx file (Prog.attempt p) := by
  apply Prog.triple_consequence (Prog.triple_attempt_cases hp) (fun _ h => h) _ (fun _ _ h => h)
  intro result st hst
  cases result with
  | ok a => exact hst
  | error e => exact hst

variable (args : RaucInstallArgs) (manifest : RaucManifest) (image : RaucImage) (slot : RaucSlot)
  (hookName : Option String) (handler : SlotHandler)

/-- The digest of the image, if it has one, is that of the last write of the slot. -/
def DigestWritten (ctx : InstallContext) (file : StatusFile) (image : RaucImage) (slot : RaucSlot)
    (trace : List InstallEvent) : Prop :=
  ∀ d, image.checksum.digest = some d → WrittenAs ctx.iso file trace slot.name d

lemma finishStatus_honest (hglobal : perSlot ctx = false) (text : String) :
    Prog.Triple (fun st => Honest ctx file st ∧ DigestWritten ctx file image slot st.trace)
      (onSystem (finishStatus ctx args manifest image slot text)) (fun _ => Honest ctx file)
      (fun _ => Honest ctx file) := by
  apply Prog.triple_consequence (onSystem_honest (DigestWritten ctx file image slot) _)
    (fun _ h => h)
    (fun _ _ h => h.1) (fun _ _ h => h)
  intro trace hwritten
  apply finishStatus_truthful slot args manifest image hglobal
  exact fun now status d hd => hwritten d hd.2

/-- The write of a slot that claims nothing: only the end of the write backs the new digest. -/
lemma writeSlot_honest (hglobal : perSlot ctx = false) :
    Prog.Triple (fun st => Honest ctx file st ∧ Quiet ctx slot.name st.system.status)
      (writeSlot ctx args manifest image slot hookName handler) (fun _ => Honest ctx file)
      (fun _ => Honest ctx file) := by
  let writing : List InstallEvent → Prop :=
    fun t => lastWrite slot.name t = some ⟨image.checksum.digest, false⟩
  apply Prog.triple_bind (Q := fun _ st => Honest ctx file st ∧ writing st.trace)
  · apply Prog.triple_modify
    rintro st ⟨hst, hquiet⟩
    refine ⟨hst.quiet hquiet (fun n d hn h => h.snoc ?_), ?_⟩
    · intro write
      simp [trackWrite, Ne.symm hn]
    · change lastWrite slot.name _ = _
      rw [lastWrite_snoc]
      simp [trackWrite]
  intro _
  apply Prog.triple_bind (onSystem_honest writing (fun _ _ => keepsStatus_replaceSlotFile slot _))
  intro _
  apply Prog.triple_bind (attempt_honest (C := writing)
    (onSystem_honest writing (fun _ _ => keepsStatus_onMedia _ _)))
  intro result
  cases result with
  | error e =>
    have hfailed :
        KeepsHonest ctx file (onSystem (finishStatus ctx args manifest image slot "failed")) := by
      apply keepsHonest_onSystem
      intro T
      apply finishStatus_truthful slot args manifest image hglobal
      exact fun now status d hd => absurd hd (not_claims_failed args manifest image now status d)
    apply Prog.triple_bind (Prog.triple_consequence (keepsHonest_attempt hfailed) (fun _ h => h.1)
      (fun _ _ h => h)
      (fun _ _ h => h))
    intro _
    exact Prog.triple_exit (fun _ h => h)
  | ok _ =>
    apply Prog.triple_bind (Q := fun _ st => Honest ctx file st ∧
      DigestWritten ctx file image slot st.trace)
    · apply Prog.triple_modify
      rintro st ⟨hst, hwriting⟩
      refine ⟨hst.mono (fun n d h => h.snoc_writeDone), fun d hd => writtenAs_done ?_⟩
      have hopen : lastWrite slot.name st.trace = some ⟨image.checksum.digest, false⟩ :=
        hwriting ⟨_, rfl⟩
      rw [hopen, hd]
    intro _
    exact finishStatus_honest args manifest image slot hglobal "ok"

lemma handleSlotInstallPlan_honest (hglobal : perSlot ctx = false) :
    KeepsHonest ctx file (handleSlotInstallPlan ctx args manifest image slot hookName handler) := by
  apply Prog.triple_bind (onSystem_triple
    (P := fun trace st => Truthful ctx (WrittenAs ctx.iso file trace) st.status)
    (Q := fun slotState trace st => Truthful ctx (WrittenAs ctx.iso file trace) st.status ∧
      ∀ d, ClaimsDigest slotState d → WrittenAs ctx.iso file trace slot.name d)
    (E := fun _ trace st => Truthful ctx (WrittenAs ctx.iso file trace) st.status)
    (fun _ => checkSlot_truthful slot hglobal))
  intro slotState
  split_ifs with hskip
  · -- the digest that is recorded again is the one of the status that was found
    apply Prog.triple_bind (Q := fun _ st => Honest ctx file st ∧
      DigestWritten ctx file image slot st.trace)
    · apply Prog.triple_modify
      rintro st ⟨hst, hclaims⟩
      simp only [skipsUpdate, Bool.and_eq_true, beq_iff_eq] at hskip
      refine ⟨hst.mono (fun n _ h => h.snoc (fun _ => rfl)), fun d hd => ?_⟩
      exact WrittenAs.snoc (hclaims d ⟨hskip.1.2, hskip.2 ▸ hd⟩) (fun _ => rfl)
    intro _
    exact finishStatus_honest args manifest image slot hglobal "ok"
  · apply Prog.triple_bind (Prog.triple_consequence (onSystem_triple
      (P := fun trace st => Truthful ctx (WrittenAs ctx.iso file trace) st.status)
      (Q := fun _ trace st => Truthful ctx (WrittenAs ctx.iso file trace) st.status ∧
        Quiet ctx slot.name st.status)
      (E := fun _ trace st => Truthful ctx (WrittenAs ctx.iso file trace) st.status)
      (fun _ => prepareWrite_truthful slot hglobal slotState)) (fun _ h => h.1) (fun _ _ h => h)
        (fun _ _ h => h))
    intro _
    exact writeSlot_honest args manifest image slot hookName handler hglobal

lemma installPlan_honest (hglobal : perSlot ctx = false) (plan : RImageInstallPlan) :
    KeepsHonest ctx file (installPlan ctx args manifest hookName plan) := by
  apply keepsHonest_bind
  · unfold handlePlan
    split
    · exact handleSlotInstallPlan_honest args manifest _ _ hookName _ hglobal
    · exact Prog.triple_exit (fun _ h => h)
    · exact keepsHonest_onSystem (fun T => keepsStatus_onArtifacts _ (Truthful ctx T))
    · exact Prog.triple_pure (fun _ h => h)
  · intro _
    exact keepsHonest_record (fun _ _ => rfl)

lemma markTargetBad_honest (bootMarkSlot : Option RaucSlot) :
    KeepsHonest ctx file (markTargetBad ctx bootMarkSlot) := by
  cases bootMarkSlot with
  | none => exact Prog.triple_pure (fun _ h => h)
  | some slot =>
    have hmark : KeepsHonest ctx file (rMarkBad ctx slot) := by
      apply keepsHonest_bind
      · exact keepsHonest_attempt (keepsHonest_onSystem
          (fun T => keepsStatus_callBootBackend (Truthful ctx T)))
      intro result
      cases result with
      | error e => exact Prog.triple_exit (fun _ h => h)
      | ok _ => exact keepsHonest_record (fun _ _ => rfl)
    apply keepsHonest_bind (keepsHonest_attempt hmark)
    intro result
    cases result with
    | error e => exact Prog.triple_exit (fun _ h => h)
    | ok _ => exact Prog.triple_pure (fun _ h => h)

lemma activateTarget_honest (hglobal : perSlot ctx = false) (bootMarkSlot : Option RaucSlot) :
    KeepsHonest ctx file (activateTarget ctx bootMarkSlot) := by
  cases bootMarkSlot with
  | none => exact Prog.triple_pure (fun _ h => h)
  | some slot =>
    simp only [activateTarget]
    split_ifs with hactivate
    · refine Prog.triple_mapError ?_ (fun _ _ h => h)
      apply keepsHonest_bind (keepsHonest_record (fun _ _ => rfl))
      intro _
      exact keepsHonest_onSystem (fun T => activateSlot_truthful slot hglobal)
    · exact Prog.triple_pure (fun _ h => h)

/-- One installation keeps the truth, whichever step fails and wherever it stops. -/
lemma launchAndWaitDefaultHandler_honest (hglobal : perSlot ctx = false) (bundledir : String)
    (group : Table String RaucSlot) :
    KeepsHonest ctx file (launchAndWaitDefaultHandler ctx args bundledir manifest group) := by
  apply keepsHonest_bind
  · exact keepsHonest_onSystem (fun T => keepsStatus_rInstallMakePlans manifest group
      (Truthful ctx T))
  intro plans
  apply keepsHonest_bind
  · exact keepsHonest_onSystem (fun T => keepsStatus_getBootMarkSlot plans (Truthful ctx T))
  intro bootMarkSlot
  apply keepsHonest_bind
  · exact keepsHonest_onSystem (fun T => keepsStatus_preInstallChecks _ (Truthful ctx T))
  intro _
  apply keepsHonest_bind (markTargetBad_honest bootMarkSlot)
  intro _
  apply keepsHonest_bind
  · exact Prog.triple_each (fun _ => Honest ctx file) (fun plan _ =>
      installPlan_honest args manifest _ hglobal plan) _
  intro _
  apply keepsHonest_bind
  · exact keepsHonest_onSystem (fun T => keepsStatus_onArtifacts _ (Truthful ctx T))
  intro _
  exact activateTarget_honest hglobal bootMarkSlot

end Installations

section Runs

variable {ctx : InstallContext} {file : StatusFile}

lemma honest_run (hglobal : perSlot ctx = false) {st : InstallState} (h : Honest ctx file st)
    (i : Installation ctx) :
    Honest ctx file (i.run st).2.state := by
  have hkeeps :
      KeepsHonest ctx file (launchAndWaitDefaultHandler ctx i.args i.bundledir i.manifest
      i.group.slots) :=
    launchAndWaitDefaultHandler_honest i.args i.manifest hglobal i.bundledir i.group.slots
  have hrun := hkeeps ⟨st.withMounted i.extMountPoint, i.fates⟩ h
  unfold Prog.Holds at hrun
  unfold Installation.run
  split at hrun
  · exact hrun
  · exact hrun

/-- After a restart the statuses in memory are those of the file. -/
lemma truthful_restarted (hglobal : perSlot ctx = false) {T : String → String → Prop}
    {system : SystemState}
    (hdisk : ∀ n slot, ctx.config.slots.lookup n = some slot →
      ∀ d, ClaimsDigest (persistedStatus ctx.iso system.status.file n) d → T n d) :
    Truthful ctx T (system.restarted ctx).status := by
  simp only [SystemState.restarted, hglobal, Bool.false_eq_true, if_false]
  refine ⟨loadedSlots_start _ _ _, fun n slot status hslot hlookup d hd => ?_, hdisk⟩
  apply hdisk n slot hslot d
  have hload := lookup_rSlotStatusLoadGlobally ctx.iso system.status.file ctx.config.slots
    n slot hslot
  have hnone : slot.status = none :=
    ctx.unloaded slot (List.mem_map.mpr ⟨_, (Table.lookup_eq_some_iff _ _ _).mp hslot, rfl⟩)
  rw [hlookup, hnone] at hload
  obtain rfl := withStatus_inj hload
  exact hd

lemma honest_installRun (hglobal : perSlot ctx = false) {system : SystemState} {st : InstallState}
    (hrun : InstallRun ctx system st) : Honest ctx system.status.file st := by
  induction hrun with
  | start => exact truthful_restarted hglobal (fun n slot _ d hd => hd)
  | installed hrun i _ ih => exact honest_run hglobal ih i
  | crashed hrun i ih => exact truthful_restarted hglobal (honest_run hglobal ih i).disk

/-- With the shared status file, after any installations, with failures and crashes: where the file
says that a slot is fine and holds a digest, the last write that was started on the slot ran to
completion and was for an image with that digest. A slot that was never written keeps the word of
the file the run started with. -/
theorem persisted_ok_is_last_write (hglobal : perSlot ctx = false) {system : SystemState}
    {st : InstallState}
    (hrun : InstallRun ctx system st) (slot : RaucSlot) (hslot : slot ∈ ctx.config.slots.values)
    {digest : String}
    (hclaims : ClaimsDigest (persistedStatus ctx.iso st.system.status.file slot.name) digest) :
    lastWrite slot.name st.trace = some ⟨some digest, true⟩ ∨
      lastWrite slot.name st.trace = none ∧
        ClaimsDigest (persistedStatus ctx.iso system.status.file slot.name) digest := by
  have hlookup := (ctx.config.mem_values_iff slot).mp hslot
  have hwritten := (honest_installRun hglobal hrun).disk slot.name slot hlookup digest hclaims
  unfold WrittenAs at hwritten
  cases hlast : lastWrite slot.name st.trace with
  | none =>
    rw [hlast] at hwritten
    exact .inr ⟨rfl, hwritten⟩
  | some write =>
    rw [hlast] at hwritten
    obtain ⟨digest', completed⟩ := write
    obtain ⟨rfl, rfl⟩ := hwritten
    exact .inl rfl

/-- The two groups with a shared status file. -/
def sharedContext : InstallContext :=
  { kernelRootfsContext with
    config := { kernelRootfsContext.config with statusfilePath := "/data/central.raucs" } }

def secondRootfs : RaucSlot where
  name := "rootfs.1"
  sclass := "rootfs"
  device := "/dev/sda4"
  parentName := some "kernel.1"
  parent := some "kernel.1"

def groupUpdate (digest : String) : Installation sharedContext where
  bundledir := "/bundle"
  manifest := kernelRootfsManifest [rawImage "kernel" "cd", rawImage "rootfs" digest]
  group := secondGroup
  fates _ := .succeeds

/-- The state after two updates of the second group. -/
def updatedTwice : InstallState :=
  ((groupUpdate "ef").run ((groupUpdate "ab").run ⟨kernelRootfsSystem.restarted sharedContext,
    []⟩).2.state).2.state

/-- The second update is recorded by its digest, and it was the last one that was written. -/
theorem persisted_ok_is_last_write_rootfs :
    ClaimsDigest (persistedStatus epochIso updatedTwice.system.status.file "rootfs.1") "ef" ∧
      (lastWrite "rootfs.1" updatedTwice.trace = some ⟨some "ef", true⟩ ∨
        lastWrite "rootfs.1" updatedTwice.trace = none ∧
          ClaimsDigest (persistedStatus epochIso kernelRootfsSystem.status.file "rootfs.1")
            "ef") := by
  have hrun : InstallRun sharedContext kernelRootfsSystem updatedTwice :=
    .installed (.installed .start _ (by decide +kernel)) _ (by decide +kernel)
  have hclaims : ClaimsDigest (persistedStatus epochIso updatedTwice.system.status.file "rootfs.1")
      "ef" := by
    decide +kernel
  exact ⟨hclaims, persisted_ok_is_last_write rfl hrun secondRootfs (by decide) hclaims⟩

end Runs

end RaucUpdate
