import RaucUpdate.Library.Traces
import RaucUpdate.Proofs.InstallPlans
import RaucUpdate.Proofs.StatusFile

/-!
# The order of marking and writing

The trace of the default install handler, whichever steps fail and wherever the execution stops.
-/

namespace RaucUpdate

open Library

section OnSystem

variable {α : Type} {T E : List InstallEvent → Prop}

/-- A program on the system adds nothing to the trace. -/
lemma onSystem_returns {p : SystemProg α} {R : α → Prop} (hp : Returns p R) (hE : ∀ t, T t → E t) :
    Prog.Triple (fun st => T st.trace) (onSystem p) (fun a st => T st.trace ∧
      R a) (fun _ st => E st.trace) := by
  apply Prog.triple_zoom
  intro st hst
  exact Prog.triple_consequence hp (fun _ _ => trivial) (fun _ _ ha => ⟨hst, ha⟩)
    (fun _ _ _ => hE _ hst)

lemma onSystem_keeps (p : SystemProg α) (hE : ∀ t, T t → E t) :
    Prog.Triple (fun st => T st.trace) (onSystem p) (fun _ st => T st.trace) (fun _ st =>
      E st.trace) :=
  Prog.triple_consequence (onSystem_returns (returns_any p) hE) (fun _ h => h) (fun _ _ h => h.1)
    (fun _ _ h => h)

lemma attempt_onSystem_keeps (p : SystemProg α) (hE : ∀ t, T t → E t) :
    Prog.Triple (fun st => T st.trace) (Prog.attempt (onSystem p)) (fun _ st => T st.trace)
      (fun _ st => E st.trace) := by
  apply Prog.triple_consequence (Prog.triple_attempt_cases
    (onSystem_keeps (E := T) p (fun _ h => h))) (fun _ h => h)
  · intro result st hst
    cases result with
    | error e => exact hst
    | ok a => exact hst
  · exact fun _ _ hst => hE _ hst

lemma record_triple {T' : List InstallEvent → Prop} {e : InstallEvent}
    {F : Exit GError → InstallState → Prop}
    (h : ∀ t, T t → T' (t ++ [e])) :
    Prog.Triple (fun st => T st.trace) (record e) (fun _ st => T' st.trace) F :=
  Prog.triple_modify (fun _ hst => h _ hst)

end OnSystem

section Order

/-- A slot is written only after the root of its group has been marked bad. -/
def BadBeforeWrite (config : RaucConfig) (pre : List InstallEvent) : InstallEvent → Prop
  | .writeStarted name _ => ∀ slot, config.slots.lookup name = some slot →
      (rSlotGetParentRoot config.slots slot).bootname ≠ none →
      .markedBad (rSlotGetParentRoot config.slots slot).name ∈ pre
  | _ => True

/-- Wherever an image leads to a slot below a bootable root slot, some image leads to the root
itself. -/
def MarkCovers (config : RaucConfig) (group : Table String RaucSlot) (manifest : RaucManifest) :
    Prop :=
  ∀ image ∈ manifest.images, image.artifact = none → ∀ slot, image.slotclass.bind group.lookup =
    some slot →
    (rSlotGetParentRoot config.slots slot).bootname ≠ none →
    ∃ other ∈ manifest.images, other.artifact = none ∧
      other.slotclass.bind group.lookup = some (rSlotGetParentRoot config.slots slot)

/-- A write that was started is answered by its completion. -/
def WriteAnswer : InstallEvent → InstallEvent → Prop
  | .writeStarted name digest, a => a = .writeDone name digest
  | _, _ => False

variable (ctx : InstallContext) (args : RaucInstallArgs) (bundledir : String)
  (manifest : RaucManifest)
  (group : Table String RaucSlot)

/-- A slot is activated only after every plan of the run has succeeded and every write is
complete. -/
def ActiveAfterPlans (pre : List InstallEvent) : InstallEvent → Prop
  | .markActive _ => (∃ plans, PlansMade ctx.config group manifest plans ∧
      ∀ plan ∈ plans, .planDone (absolutePlan bundledir plan) ∈ pre) ∧ Answered WriteAnswer pre
  | _ => True

/-- The order of the events of an installation. Only the marking depends on what the images
cover. -/
def MarkOrder (trace : List InstallEvent) : Prop :=
  (MarkCovers ctx.config group manifest → Justified (BadBeforeWrite ctx.config) trace) ∧
    Justified (ActiveAfterPlans ctx bundledir manifest group) trace

variable {ctx args bundledir manifest group}

lemma MarkOrder.snoc {t : List InstallEvent} {e : InstallEvent}
    (h : MarkOrder ctx bundledir manifest group t)
    (hwrite : MarkCovers ctx.config group manifest → BadBeforeWrite ctx.config t e)
    (hactive : ActiveAfterPlans ctx bundledir manifest group t e) :
    MarkOrder ctx bundledir manifest group (t ++ [e]) :=
  ⟨fun hcovers => justified_snoc (h.1 hcovers) (hwrite hcovers), justified_snoc h.2 hactive⟩

/-- Between two plans: the order was kept, no write is open, and the facts `K` have been reached. -/
def BetweenPlans (ctx : InstallContext) (bundledir : String) (manifest : RaucManifest)
    (group : Table String RaucSlot)
    (K : List InstallEvent → Prop) (t : List InstallEvent) : Prop :=
  MarkOrder ctx bundledir manifest group t ∧ Answered WriteAnswer t ∧ K t

variable {K : List InstallEvent → Prop}

/-- An event that neither starts a write nor activates a slot. -/
lemma BetweenPlans.snoc {K' : List InstallEvent → Prop} {t : List InstallEvent} {e : InstallEvent}
    (h : BetweenPlans ctx bundledir manifest group K t)
    (hwrite : ∀ pre, BadBeforeWrite ctx.config pre e)
    (hactive : ∀ pre, ActiveAfterPlans ctx bundledir manifest group pre e)
    (hanswer : ∀ a, ¬ WriteAnswer e a)
    (hK : K t → K' (t ++ [e])) : BetweenPlans ctx bundledir manifest group K' (t ++ [e]) :=
  ⟨h.1.snoc (fun _ => hwrite t) (hactive t), answered_snoc h.2.1 hanswer, hK h.2.2⟩

/-- While a slot is written its write is the only open one. -/
def WhileWriting (ctx : InstallContext) (bundledir : String) (manifest : RaucManifest)
    (group : Table String RaucSlot)
    (K : List InstallEvent → Prop) (name : String) (digest : Option String)
    (t : List InstallEvent) : Prop :=
  ∃ before, t = before ++ [.writeStarted name digest] ∧
    BetweenPlans ctx bundledir manifest group K before ∧
    MarkOrder ctx bundledir manifest group t ∧ K t

lemma writeSlot_order {image : RaucImage} {slot : RaucSlot} {hookName : Option String}
    {handler : SlotHandler}
    (hK : ∀ t e, K t → K (t ++ [e]))
    (hmarked : ∀ t, K t → MarkCovers ctx.config group manifest →
      BadBeforeWrite ctx.config t (.writeStarted slot.name image.checksum.digest)) :
    Prog.Triple (fun st => BetweenPlans ctx bundledir manifest group K st.trace)
      (writeSlot ctx args manifest image slot hookName handler)
      (fun _ st => BetweenPlans ctx bundledir manifest group K st.trace)
      (fun _ st => MarkOrder ctx bundledir manifest group st.trace) := by
  have hopen : ∀ t, WhileWriting ctx bundledir manifest group K slot.name image.checksum.digest t →
      MarkOrder ctx bundledir manifest group t := by
    rintro t ⟨_, -, -, horder, -⟩
    exact horder
  apply Prog.triple_bind
    (Q := fun _ st => WhileWriting ctx bundledir manifest group K slot.name
      image.checksum.digest st.trace)
  · apply record_triple
    intro t ht
    exact ⟨t, rfl, ht, ht.1.snoc (hmarked t ht.2.2) trivial, hK t _ ht.2.2⟩
  intro _
  apply Prog.triple_bind (onSystem_keeps _ hopen)
  intro _
  apply Prog.triple_bind (attempt_onSystem_keeps _ hopen)
  intro result
  cases result with
  | error e =>
    apply Prog.triple_bind (attempt_onSystem_keeps _ hopen)
    intro _
    exact Prog.triple_exit (fun st hst => hopen _ hst)
  | ok _ =>
    apply Prog.triple_bind (Q := fun _ st => BetweenPlans ctx bundledir manifest group K st.trace)
    · apply record_triple
      rintro t ⟨before, rfl, hbefore, horder, hfacts⟩
      refine ⟨horder.snoc (fun _ => trivial) trivial, answered_pair hbefore.2.1 (fun a ha => ha)
        (fun a ha => ha), hK _ _ hfacts⟩
    intro _
    exact onSystem_keeps _ (fun _ h => h.1)

lemma handleSlotInstallPlan_order {image : RaucImage} {slot : RaucSlot} {hookName : Option String}
    {handler : SlotHandler} (hK : ∀ t e, K t → K (t ++ [e]))
    (hmarked : ∀ t, K t → MarkCovers ctx.config group manifest →
      BadBeforeWrite ctx.config t (.writeStarted slot.name image.checksum.digest)) :
    Prog.Triple (fun st => BetweenPlans ctx bundledir manifest group K st.trace)
      (handleSlotInstallPlan ctx args manifest image slot hookName handler)
      (fun _ st => BetweenPlans ctx bundledir manifest group K st.trace)
      (fun _ st => MarkOrder ctx bundledir manifest group st.trace) := by
  apply Prog.triple_bind (onSystem_keeps _ (fun _ h => h.1))
  intro slotState
  split_ifs with hskip
  · apply Prog.triple_bind (Q := fun _ st => BetweenPlans ctx bundledir manifest group K st.trace)
    · apply record_triple
      intro t ht
      exact ht.snoc (fun _ => trivial) (fun _ => trivial) (fun _ h => h) (hK t _)
    intro _
    exact onSystem_keeps _ (fun _ h => h.1)
  · apply Prog.triple_bind (onSystem_keeps _ (fun _ h => h.1))
    intro _
    exact writeSlot_order hK hmarked

end Order

section Covered

/-- The slot to be marked is the only target of the plans that the boot loader knows. -/
def MarksTargets (plans : List RImageInstallPlan) (bootMarkSlot : Option RaucSlot) : Prop :=
  ∀ slot ∈ plans.filterMap bootMarkTarget, bootMarkSlot = some slot

lemma getBootMarkSlot_returns (plans : List RImageInstallPlan) :
    Returns (getBootMarkSlot plans) (MarksTargets plans) := by
  unfold getBootMarkSlot MarksTargets
  cases h : plans.filterMap bootMarkTarget with
  | nil => exact returns_pure (by simp)
  | cons slot rest =>
    cases rest with
    | nil => exact returns_pure (by simp)
    | cons other rest => exact Prog.triple_exit (fun _ _ => trivial)

variable {config : RaucConfig} (group : TargetGroup config.toSlotConfig) {manifest : RaucManifest}
  {plans : List RImageInstallPlan} {bootMarkSlot : Option RaucSlot}

lemma TargetGroup.mem_config {image : RaucImage} {slot : RaucSlot}
    (h : image.slotclass.bind group.slots.lookup = some slot) : slot ∈ config.slots.values := by
  obtain ⟨slotclass, -, hlookup⟩ := Option.bind_eq_some_iff.mp h
  have hmem : slot ∈ group.slots.values :=
    List.mem_map.mpr ⟨_, (Table.lookup_eq_some_iff _ _ _).mp hlookup, rfl⟩
  rw [config.mem_values_iff]
  exact group.configured slot hmem

/-- The bootable root of a slot that is about to be written is the slot to be marked. -/
lemma bootMarkSlot_of_covers (hcovers : MarkCovers config group.slots manifest)
    (hmade : PlansMade config group.slots manifest plans) (hmarks : MarksTargets plans bootMarkSlot)
    {plan : RImageInstallPlan} (hplan : plan ∈ plans) {slot : RaucSlot}
    (hslot : plan.targetSlot = some slot)
    (hbootname : (rSlotGetParentRoot config.slots slot).bootname ≠ none) :
    bootMarkSlot = some (rSlotGetParentRoot config.slots slot) := by
  obtain ⟨image, himage, hartifact, hlookup⟩ := hmade.targetSlot hplan hslot
  have hmem := group.mem_config hlookup
  obtain ⟨other, hother, hother_artifact, hroot⟩ :=
    hcovers image himage hartifact slot hlookup hbootname
  obtain ⟨rootPlan, hrootPlan, htarget⟩ := hmade.plan_of_image hother hother_artifact hroot
  have hparent := (rSlotGetParentRoot_mem config.toSlotConfig hmem).2
  apply hmarks
  apply List.mem_filterMap.mpr
  refine ⟨rootPlan, hrootPlan, ?_⟩
  have hsome := Option.isSome_iff_ne_none.mpr hbootname
  simp [bootMarkTarget, htarget, hparent, hsome]

end Covered

section Handler

variable {ctx : InstallContext} {args : RaucInstallArgs} {bundledir : String}
  {manifest : RaucManifest}
  {group : TargetGroup ctx.config.toSlotConfig} {plans : List RImageInstallPlan}
  {bootMarkSlot : Option RaucSlot}

/-- What the trace of a run holds when the plans `done` have been installed. -/
def Progress (bootMarkSlot : Option RaucSlot) (done : List RImageInstallPlan)
    (t : List InstallEvent) : Prop :=
  (∀ slot, bootMarkSlot = some slot → .markedBad slot.name ∈ t) ∧ ∀ plan ∈ done, .planDone plan ∈ t

lemma Progress.mono {done : List RImageInstallPlan} (t : List InstallEvent) (e : InstallEvent)
    (h : Progress bootMarkSlot done t) : Progress bootMarkSlot done (t ++ [e]) :=
  ⟨fun slot hslot => List.mem_append_left _ (h.1 slot hslot), fun plan hplan =>
    List.mem_append_left _ (h.2 plan hplan)⟩

lemma Progress.planDone {done : List RImageInstallPlan} (t : List InstallEvent)
    (plan : RImageInstallPlan)
    (h : Progress bootMarkSlot done t) :
      Progress bootMarkSlot (done ++ [plan]) (t ++ [.planDone plan]) := by
  refine ⟨(h.mono t _).1, fun p hp => ?_⟩
  rcases List.mem_append.mp hp with hp | hp
  · exact (h.mono t _).2 p hp
  · simp [List.mem_singleton.mp hp]

lemma handlePlan_order (hmade : PlansMade ctx.config group.slots manifest plans)
    (hmarks : MarksTargets plans bootMarkSlot)
    {hookName : Option String} {done : List RImageInstallPlan} {plan : RImageInstallPlan}
    (hplan : plan ∈ plans) :
    Prog.Triple (fun st => BetweenPlans ctx bundledir manifest group.slots
      (Progress bootMarkSlot done) st.trace)
      (handlePlan ctx args manifest hookName (absolutePlan bundledir plan))
      (fun _ st => BetweenPlans ctx bundledir manifest group.slots (Progress bootMarkSlot done)
        st.trace)
      (fun _ st => MarkOrder ctx bundledir manifest group.slots st.trace) := by
  have htarget : (absolutePlan bundledir plan).targetSlot = plan.targetSlot := rfl
  unfold handlePlan
  rw [htarget]
  cases hslot : plan.targetSlot with
  | none =>
    cases (absolutePlan bundledir plan).targetRepo with
    | none => exact Prog.triple_pure (fun _ h => h)
    | some repo => exact onSystem_keeps _ (fun _ h => h.1)
  | some slot =>
    cases (absolutePlan bundledir plan).slotHandler with
    | none => exact Prog.triple_exit (fun _ h => h.1)
    | some handler =>
      apply handleSlotInstallPlan_order Progress.mono
      intro t ht hcovers configured hlookup hbootname
      obtain ⟨image, -, -, himage⟩ := hmade.targetSlot hplan hslot
      have hmem := group.mem_config himage
      rw [ctx.config.mem_values_iff] at hmem
      obtain rfl := Option.some.inj (hmem.symm.trans hlookup)
      exact ht.1 _ (bootMarkSlot_of_covers group hcovers hmade hmarks hplan hslot hbootname)

lemma installPlans_order (hmade : PlansMade ctx.config group.slots manifest plans)
    (hmarks : MarksTargets plans bootMarkSlot) (hookName : Option String) :
    Prog.Triple (fun st => BetweenPlans ctx bundledir manifest group.slots
      (Progress bootMarkSlot []) st.trace)
      (Prog.each (installPlan ctx args manifest hookName) (plans.map (absolutePlan bundledir)))
      (fun _ st => BetweenPlans ctx bundledir manifest group.slots
        (Progress bootMarkSlot (plans.map (absolutePlan bundledir))) st.trace)
      (fun _ st => MarkOrder ctx bundledir manifest group.slots st.trace) := by
  -- the plans that are left follow those that are done
  have hloop :=
    Prog.triple_each (E := fun _ st => MarkOrder ctx bundledir manifest group.slots st.trace)
    (f := installPlan ctx args manifest hookName)
    (fun rest st => ∃ done, plans.map (absolutePlan bundledir) = done ++ rest ∧
      BetweenPlans ctx bundledir manifest group.slots (Progress bootMarkSlot done) st.trace) ?_
    (plans.map (absolutePlan bundledir))
  · apply Prog.triple_consequence hloop
    · intro st hst
      exact ⟨[], rfl, hst⟩
    · rintro _ st ⟨done, hdone, hst⟩
      rw [List.append_nil] at hdone
      rwa [hdone]
    · exact fun _ _ h => h
  · intro plan rest w hw
    obtain ⟨done, hsplit, hst⟩ := hw
    obtain ⟨original, horiginal, rfl⟩ : ∃ original ∈ plans, absolutePlan bundledir original =
        plan := by
      have hmem : plan ∈ plans.map (absolutePlan bundledir) := by simp [hsplit]
      simpa using hmem
    refine Prog.triple_bind (handlePlan_order hmade hmarks horiginal) (fun _ => ?_) w hst
    apply Prog.triple_modify
    intro st hst
    refine ⟨done ++ [absolutePlan bundledir original], by simpa using hsplit, ?_⟩
    exact hst.snoc (fun _ => trivial) (fun _ => trivial) (fun _ h => h) (Progress.planDone _ _)

lemma rMarkBad_order (slot : RaucSlot) :
    Prog.Triple (fun st => BetweenPlans ctx bundledir manifest group.slots (fun _ => True)
      st.trace) (rMarkBad ctx slot)
      (fun _ st => BetweenPlans ctx bundledir manifest group.slots
        (Progress (some slot) []) st.trace)
      (fun _ st => MarkOrder ctx bundledir manifest group.slots st.trace) := by
  apply Prog.triple_bind (attempt_onSystem_keeps _ (fun _ h => h.1))
  intro result
  cases result with
  | error e => exact Prog.triple_exit (fun _ h => h.1)
  | ok _ =>
    apply record_triple
    intro t ht
    have hmarked : Progress (some slot) [] (t ++ [.markedBad slot.name]) := ⟨by simp, by simp⟩
    exact ht.snoc (fun _ => trivial) (fun _ => trivial) (fun _ h => h) (fun _ => hmarked)

/-- Before anything is written the slot to be marked is marked bad, or the run ends. -/
lemma markTargetBad_order (bootMarkSlot : Option RaucSlot) :
    Prog.Triple (fun st => BetweenPlans ctx bundledir manifest group.slots (fun _ => True) st.trace)
      (markTargetBad ctx bootMarkSlot)
      (fun _ st => BetweenPlans ctx bundledir manifest group.slots
        (Progress bootMarkSlot []) st.trace)
      (fun _ st => MarkOrder ctx bundledir manifest group.slots st.trace) := by
  cases bootMarkSlot with
  | none =>
    apply Prog.triple_pure
    intro st hst
    exact ⟨hst.1, hst.2.1, by simp [Progress]⟩
  | some slot =>
    apply Prog.triple_bind (Prog.triple_attempt_cases (rMarkBad_order slot))
    intro result
    cases result with
    | error e => exact Prog.triple_exit (fun _ h => h)
    | ok _ => exact Prog.triple_pure (fun _ h => h)

lemma activateTarget_order (hmade : PlansMade ctx.config group.slots manifest plans) :
    Prog.Triple (fun st => BetweenPlans ctx bundledir manifest group.slots
        (Progress bootMarkSlot (plans.map (absolutePlan bundledir))) st.trace)
      (activateTarget ctx bootMarkSlot)
      (fun _ st => MarkOrder ctx bundledir manifest group.slots st.trace)
      (fun _ st => MarkOrder ctx bundledir manifest group.slots st.trace) := by
  cases bootMarkSlot with
  | none => exact Prog.triple_pure (fun _ h => h.1)
  | some slot =>
    simp only [activateTarget]
    split_ifs with hactivate
    · refine Prog.triple_mapError ?_ (fun _ _ h => h)
      apply Prog.triple_bind (Q := fun _ st => MarkOrder ctx bundledir manifest
        group.slots st.trace)
      · apply record_triple
        intro t ht
        have hdone : ∀ plan ∈ plans, .planDone (absolutePlan bundledir plan) ∈ t :=
          fun plan hplan => ht.2.2.2 _ (List.mem_map_of_mem hplan)
        exact MarkOrder.snoc (e := .markActive slot.name) ht.1 (fun _ => trivial)
          ⟨⟨plans, hmade, hdone⟩, ht.2.1⟩
      · intro _
        exact onSystem_keeps _ (fun _ h => h)
    · exact Prog.triple_pure (fun _ h => h.1)

/-- The events of one run of the default handler. -/
def handlerTrace (ctx : InstallContext) (args : RaucInstallArgs) (bundledir : String)
    (manifest : RaucManifest)
    (group : Table String RaucSlot) (system : SystemState) (fates : Nat → Fate) :
      List InstallEvent :=
  (launchAndWaitDefaultHandler ctx args bundledir manifest group ⟨⟨system, []⟩,
    fates⟩).2.state.trace

/-- In every run, whichever step fails and wherever the execution stops: if the images cover the
bootable roots, the root of a slot has been marked bad before the slot is written; and in any case a
root is activated only after every plan has succeeded, with no slot left half-written. -/
theorem defaultHandler_marks_in_order (system : SystemState) (fates : Nat → Fate) :
    (MarkCovers ctx.config group.slots manifest → Justified (BadBeforeWrite ctx.config)
      (handlerTrace ctx args bundledir manifest group.slots system fates)) ∧
    Justified (ActiveAfterPlans ctx bundledir manifest group.slots)
      (handlerTrace ctx args bundledir manifest group.slots system fates) := by
  have hrun : Prog.Triple (fun st => st.trace = [])
      (launchAndWaitDefaultHandler ctx args bundledir manifest group.slots)
      (fun _ st => MarkOrder ctx bundledir manifest group.slots st.trace)
      (fun _ st => MarkOrder ctx bundledir manifest group.slots st.trace) := by
    have hstart : ∀ t, t = [] → BetweenPlans ctx bundledir manifest group.slots
        (fun _ => True) t := by
      rintro t rfl
      exact ⟨⟨fun _ => justified_nil _, justified_nil _⟩, answered_nil _, trivial⟩
    apply Prog.triple_bind (onSystem_returns (T := fun t => t =
      []) (rInstallMakePlans_returns ctx manifest group.slots)
      (fun t ht => (hstart t ht).1))
    intro plans
    apply Prog.triple_fact
    intro hmade
    apply Prog.triple_bind (onSystem_returns (getBootMarkSlot_returns plans) (fun t ht =>
      (hstart t ht).1))
    intro bootMarkSlot
    apply Prog.triple_fact
    intro hmarks
    apply Prog.triple_bind (Prog.triple_consequence (onSystem_keeps (T := fun t => t = []) _
      (fun _ h => h))
      (fun _ h => h) (fun _ _ h => h) (fun _ st h => (hstart st.trace h).1))
    intro _
    apply Prog.triple_bind (Prog.triple_consequence (markTargetBad_order bootMarkSlot) (fun st h =>
      hstart st.trace h)
      (fun _ _ h => h) (fun _ _ h => h))
    intro _
    apply Prog.triple_bind (installPlans_order hmade hmarks _)
    intro _
    apply Prog.triple_bind (onSystem_keeps _ (fun _ h => h.1))
    intro _
    exact activateTarget_order hmade
  have hend := hrun ⟨⟨system, []⟩, fates⟩ rfl
  unfold handlerTrace
  unfold Prog.Holds at hend
  split at hend
  · exact hend
  · exact hend

end Handler

section KernelAndRootfs

def kernelRootfsContext : InstallContext where
  config := {
    slots := kernelRootfsSlots
    name_key := by decide
    bootname_unique := by decide
    bootname_nonempty := by decide
    bootname_plain := by decide
    child_no_bootname := by decide
    parent_is_root := by decide
    systemBootloader := some "barebox" }
  iso := epochIso
  slotNames := kernelRootfsSlots.keys
  slotNames_perm := List.Perm.refl _
  repos := []
  repos_perm := by decide
  unloaded := by decide

/-- The second group, while the first one is running. -/
def secondGroup : TargetGroup kernelRootfsContext.config.toSlotConfig where
  slots := ⟨[("kernel", { name := "kernel.1", sclass := "kernel", device := "/dev/sda3",
                          bootname := some "B" }),
    ("rootfs", { name := "rootfs.1", sclass := "rootfs", device := "/dev/sda4",
                 parentName := some "kernel.1",
                 parent := some "kernel.1" })], by decide⟩
  configured := by decide

def rawImage (slotclass digest : String) : RaucImage where
  slotclass := some slotclass
  filename := some (slotclass ++ ".img")
  type := some "raw"
  typeFromFileext := true
  checksum := ⟨.sha256, some digest, 4096⟩

def kernelRootfsSystem : SystemState where
  status := ⟨.missing, kernelRootfsSlots⟩

def kernelRootfsManifest (images : List RaucImage) : RaucManifest where
  updateCompatible := some "Test System"
  images := images

/-- A bundle for the whole group marks the kernel slot before the root file system is written. -/
theorem defaultHandler_marks_kernel :
    (.writeStarted "rootfs.1" (some "ab") ∈ handlerTrace kernelRootfsContext {} "/bundle"
      (kernelRootfsManifest [rawImage "kernel" "cd", rawImage "rootfs" "ab"]) secondGroup.slots
        kernelRootfsSystem
      (fun _ => .succeeds)) ∧
    Justified (BadBeforeWrite kernelRootfsContext.config)
      (handlerTrace kernelRootfsContext {} "/bundle"
      (kernelRootfsManifest [rawImage "kernel" "cd", rawImage "rootfs" "ab"]) secondGroup.slots
        kernelRootfsSystem
      (fun _ => .succeeds)) := by
  have hcovers : MarkCovers kernelRootfsContext.config secondGroup.slots
      (kernelRootfsManifest [rawImage "kernel" "cd", rawImage "rootfs" "ab"]) := by
    intro image himage _ slot hslot _
    refine ⟨rawImage "kernel" "cd", by simp [kernelRootfsManifest], rfl, ?_⟩
    simp only [kernelRootfsManifest, List.mem_cons, List.not_mem_nil, or_false] at himage
    rcases himage with rfl | rfl
    · obtain rfl := Option.some.inj hslot
      decide
    · obtain rfl := Option.some.inj hslot
      decide
  exact ⟨by decide +kernel, (defaultHandler_marks_in_order _ _).1 hcovers⟩

/-- A bundle with an image for the root file system only: the slot is written while its root, the
kernel slot with the bootname, has not been marked. -/
theorem child_written_before_root_is_marked :
    ¬ Justified (BadBeforeWrite kernelRootfsContext.config)
      (handlerTrace kernelRootfsContext {} "/bundle"
      (kernelRootfsManifest [rawImage "rootfs" "ab"]) secondGroup.slots kernelRootfsSystem
        (fun _ => .succeeds)) := by
  have hfirst : ∃ rest, handlerTrace kernelRootfsContext {} "/bundle"
      (kernelRootfsManifest [rawImage "rootfs" "ab"])
      secondGroup.slots kernelRootfsSystem (fun _ => .succeeds) =
        [] ++ .writeStarted "rootfs.1" (some "ab") :: rest := by
    have hhead :
        (handlerTrace kernelRootfsContext {} "/bundle"
        (kernelRootfsManifest [rawImage "rootfs" "ab"])
        secondGroup.slots kernelRootfsSystem (fun _ => .succeeds)).head? =
          some (.writeStarted "rootfs.1" (some "ab")) := by decide +kernel
    exact List.head?_eq_some_iff.mp hhead
  obtain ⟨rest, htrace⟩ := hfirst
  intro hjustified
  have hmarked := hjustified [] _ rest htrace
    { name := "rootfs.1", sclass := "rootfs", device := "/dev/sda4", parentName := some "kernel.1",
      parent := some "kernel.1" } (by decide) (by decide)
  exact absurd hmarked List.not_mem_nil

end KernelAndRootfs

end RaucUpdate
