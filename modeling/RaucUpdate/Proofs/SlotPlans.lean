import RaucUpdate.Proofs.InstallMarks
import RaucUpdate.Proofs.TargetGroup

/-!
# The slot plans of an installation

What `r_install_make_plans` returns for the images of a manifest that are no artifacts.
-/

namespace RaucUpdate

open Library

section Images

variable (systemVariant : Option String) (slotclass : String)

/-- The image that is meant for the class: the first one for the system variant, or else the first
one without variant. Artifacts do not count. -/
def chosenImage (images : List RaucImage) : Option RaucImage :=
  let candidates :=
    images.filter (fun image => image.artifact.isNone && image.slotclass == some slotclass)
  (candidates.find? (fun image => image.variant == systemVariant)).or
    (candidates.find? (fun image => image.variant.isNone))

/-- The search goes on from the default image that has been found so far. -/
lemma matchingImage_eq (images : List RaucImage) (matching : Option RaucImage)
    (hmatching : ∀ image, matching = some image → image.variant = none) :
    matchingImage systemVariant slotclass matching images =
      ((images.filter (fun image => image.slotclass == some slotclass)).find?
          (fun image => image.variant.isSome && image.variant == systemVariant)).or
        (matching.or ((images.filter (fun image => image.slotclass == some slotclass)).find?
          (fun image => image.variant.isNone))) := by
  induction images generalizing matching with
  | nil => cases matching <;> rfl
  | cons image rest ih =>
    unfold matchingImage
    by_cases hclass : image.slotclass = some slotclass
    · have hfilter : (image :: rest).filter (fun image => image.slotclass == some slotclass) =
          image :: rest.filter (fun image => image.slotclass == some slotclass) :=
        List.filter_cons_of_pos (by simp [hclass])
      rw [if_neg (by simp [hclass]), hfilter]
      cases hvariant : image.variant with
      | none =>
        rw [if_pos rfl, ih]
        · cases matching with
          | none => simp [hvariant]
          | some found => simp [hvariant]
        · intro found hfound
          cases matching with
          | none =>
            obtain rfl := Option.some.inj hfound
            exact hvariant
          | some m => exact hmatching found hfound
      | some variant =>
        rw [if_neg (by simp)]
        split_ifs with hsystem
        · subst hsystem
          rw [List.find?_cons_of_pos (by simp [hvariant]), Option.some_or]
        · rw [ih matching hmatching]
          simp [hvariant, hsystem]
    · rw [if_pos hclass, ih matching hmatching, List.filter_cons_of_neg (by simp [hclass])]

/-- Where no artifact has the name of the class, the search finds the image that is meant. -/
lemma matchingImage_eq_chosenImage {images : List RaucImage}
    (h : ∀ image ∈ images, image.slotclass = some slotclass → image.artifact = none) :
    matchingImage systemVariant slotclass none images =
      chosenImage systemVariant slotclass images := by
  have hfilter :
      images.filter (fun image => image.artifact.isNone && image.slotclass == some slotclass) =
      images.filter (fun image => image.slotclass == some slotclass) := by
    apply List.filter_congr
    intro image himage
    by_cases hclass : image.slotclass = some slotclass
    · simp [hclass, h image himage hclass]
    · simp [hclass]
  rw [matchingImage_eq systemVariant slotclass images none (by simp)]
  unfold chosenImage
  simp only [hfilter, Option.none_or]
  cases systemVariant with
  | none =>
    have hnone : (fun image : RaucImage => image.variant.isSome && image.variant == none) =
        fun _ => false := by
      funext image
      cases image.variant <;> rfl
    have hdefault : (fun image : RaucImage => image.variant == none) =
        fun image => image.variant.isNone := by
      funext image
      cases image.variant <;> rfl
    simp only [hnone, hdefault, Option.or_self]
    rw [List.find?_eq_none.mpr (by simp), Option.none_or]
  | some variant =>
    have hsame : (fun image : RaucImage => image.variant.isSome && image.variant == some variant) =
        fun image => image.variant == some variant := by
      funext image
      cases image.variant <;> rfl
    rw [hsame]

lemma chosenImage_mem {images : List RaucImage} {image : RaucImage}
    (h : chosenImage systemVariant slotclass images = some image) :
    image ∈ images ∧ image.artifact = none ∧ image.slotclass = some slotclass := by
  unfold chosenImage at h
  have hmem : image ∈ images.filter (fun image => image.artifact.isNone && image.slotclass == some
      slotclass) := by
    rcases Option.or_eq_some_iff.mp h with h | ⟨-, h⟩
    · exact List.mem_of_find?_eq_some h
    · exact List.mem_of_find?_eq_some h
  simpa using hmem

end Images

section Plans

variable {config : RaucConfig} {group : Table String RaucSlot} {images : List RaucImage}

lemma slotPlans_forall₂ {classes : List String} {plans : List RImageInstallPlan}
    (h : slotPlans config group images classes = .ok plans) :
    List.Forall₂ (fun slotclass plan => slotPlan config group images slotclass = .ok plan)
      classes plans := by
  induction classes generalizing plans with
  | nil =>
    obtain rfl := Except.ok.inj h
    exact List.Forall₂.nil
  | cons slotclass rest ih =>
    unfold slotPlans at h
    cases hplan : slotPlan config group images slotclass with
    | error e => simp [hplan] at h
    | ok plan =>
      cases hrest : slotPlans config group images rest with
      | error e => simp [hplan, hrest] at h
      | ok others =>
        simp only [hplan, hrest, Except.ok.injEq] at h
        subst h
        exact List.Forall₂.cons hplan (ih hrest)

lemma exists_of_forall₂ {α β : Type} {R : α → β → Prop} {l : List α} {m : List β}
    (h : List.Forall₂ R l m) {a : α}
    (ha : a ∈ l) : ∃ b, R a b := by
  induction h with
  | nil => exact absurd ha List.not_mem_nil
  | cons hab _ ih =>
    rcases List.mem_cons.mp ha with rfl | ha
    · exact ⟨_, hab⟩
    · exact ih ha

/-- Every artifact of the manifest has a plan for its repository. -/
lemma artifactPlans_complete {plans : List RImageInstallPlan}
    (h : artifactPlans config images = .ok plans)
    {image : RaucImage} (himage : image ∈ images) (hartifact : image.artifact ≠ none) :
    ∃ repo, image.slotclass.bind config.artifactRepos.repos.lookup = some repo ∧
      { image, targetRepo := some repo } ∈ plans := by
  induction images generalizing plans with
  | nil => exact absurd himage List.not_mem_nil
  | cons first rest ih =>
    unfold artifactPlans at h
    cases hfirst : first.artifact with
    | none =>
      simp only [hfirst] at h
      rcases List.mem_cons.mp himage with rfl | himage
      · exact absurd hfirst hartifact
      · exact ih h himage
    | some artifact =>
      cases hrepo : first.slotclass.bind config.artifactRepos.repos.lookup with
      | none => simp [hfirst, hrepo] at h
      | some repo =>
        cases hrest : artifactPlans config rest with
        | error e => simp [hfirst, hrepo, hrest] at h
        | ok others =>
          simp only [hfirst, hrepo, hrest, Except.ok.injEq] at h
          subst h
          rcases List.mem_cons.mp himage with rfl | himage
          · exact ⟨repo, hrepo, List.mem_cons_self⟩
          · obtain ⟨other, hlookup, hplan⟩ := ih hrest himage
            exact ⟨other, hlookup, List.mem_cons_of_mem _ hplan⟩

/-- The plan for a slot class: the image that is meant for it, and the slot that the target group
has for it. -/
structure SlotPlanFor (config : RaucConfig) (group : Table String RaucSlot)
    (images : List RaucImage)
    (slotclass : String) (plan : RImageInstallPlan) : Prop where
  image : chosenImage config.systemVariant slotclass images = some plan.image
  listed : plan.image ∈ images ∧ plan.image.artifact = none ∧ plan.image.slotclass = some slotclass
  slot : ∃ slot, plan.targetSlot = some slot ∧ group.lookup slotclass = some slot ∧
    slot.sclass = slotclass ∧
    slot.readonly = false

/-- The slot classes of the images that are no artifacts. -/
def IsSlotClass (images : List RaucImage) (slotclass : String) : Prop :=
  ∃ image ∈ images, image.artifact = none ∧ image.slotclass = some slotclass

end Plans

section Group

variable (realpath : String → Option String)

/-- The states keep the classes of the slots. -/
lemma determineSlotStates_sclass {slots states : SlotTable} {slotlist : List String}
    {statuses : String → Option RaucSlotStatus} {bootslot : Option String}
    (h : determineSlotStates realpath slotlist (some (withStatuses statuses slots)) bootslot =
      .ok states) {t : RaucSlot}
    (ht : t ∈ states.values) : ∃ s ∈ slots.values, s.sclass = t.sclass := by
  have hmapped : ∃ f : RaucSlot → SlotState,
      states = (withStatuses statuses slots).mapValues (fun s => { s with state := f s }) := by
    unfold determineSlotStates at h
    cases bootslot with
    | none => simp at h
    | some bootslot =>
      simp only at h
      split at h
      · split_ifs at h
        exact ⟨fun _ => .inactive, (Except.ok.inj h).symm⟩
      · exact ⟨_, (Except.ok.inj h).symm⟩
  obtain ⟨f, rfl⟩ := hmapped
  rw [withStatuses, Table.values_mapValues, Table.values_mapValues] at ht
  obtain ⟨u, hu, rfl⟩ := List.mem_map.mp ht
  obtain ⟨s, hs, rfl⟩ := List.mem_map.mp hu
  exact ⟨s, hs, rfl⟩

variable (ctx : InstallContext) (manifest : RaucManifest)

/-- The slots of a target group have the class they are found under, which is no name of a
repository. -/
lemma lookup_targetGroup {slotlist : List String} {statuses : String → Option RaucSlotStatus}
    {bootslot : Option String}
    {states group : SlotTable} {order : List RaucSlot} {perSlot : Bool}
    (hstates : determineSlotStates realpath slotlist
      (some (withStatuses statuses ctx.config.slots)) bootslot = .ok states)
    (horder : order.Perm states.values)
    (hgroup : determineTargetInstallGroup perSlot order states = .ok group)
    {k : String} {slot : RaucSlot} (hslot : group.lookup k = some slot) :
    slot.sclass = k ∧ ctx.config.artifactRepos.repos.lookup k = none := by
  obtain ⟨selected, -, rfl⟩ := determineTargetInstallGroup_ok hgroup
  rcases collectGroup_mem states selected hslot with ⟨hin, hclass, -⟩ | hempty
  · obtain ⟨s, hs, hsclass⟩ := determineSlotStates_sclass realpath hstates (horder.mem_iff.mp hin)
    refine ⟨hclass, ?_⟩
    rw [← hclass, ← hsclass]
    exact ctx.config.unique_slotclasses s hs
  · exact absurd hempty (by simp)

/-- The slot plans correspond to the distinct slot classes of the manifest. Without an image or a
writable slot for one of them there is no plan at all. -/
theorem slotPlans_for_classes (slotlist : List String) (statuses : String → Option RaucSlotStatus)
    (bootslot : Option String) (states group : SlotTable) (order : List RaucSlot) (perSlot : Bool)
    (hstates : determineSlotStates realpath slotlist
      (some (withStatuses statuses ctx.config.slots)) bootslot = .ok states)
    (horder : order.Perm states.values)
    (hgroup : determineTargetInstallGroup perSlot order states = .ok group)
    (w : World SystemState) :
    (∀ plans, (rInstallMakePlans ctx manifest group w).1 = .value plans → ∃ classes : List String,
      classes.Nodup ∧
      (∀ slotclass, slotclass ∈ classes ↔ IsSlotClass manifest.images slotclass) ∧
      List.Forall₂ (SlotPlanFor ctx.config group manifest.images) classes
        (plans.filter (fun plan => plan.targetSlot.isSome))) ∧
    ((∃ slotclass, IsSlotClass manifest.images slotclass ∧
        (chosenImage ctx.config.systemVariant slotclass manifest.images = none ∨
          ∀ slot, group.lookup slotclass = some slot → slot.readonly = true)) →
      ∃ x, (rInstallMakePlans ctx manifest group w).1 = .exit x) := by
  have hplans : ∀ plans, (rInstallMakePlans ctx manifest group w).1 = .value plans →
      ∃ classes : List String,
      classes.Nodup ∧ (∀ slotclass, slotclass ∈ classes ↔ IsSlotClass manifest.images slotclass) ∧
      List.Forall₂ (SlotPlanFor ctx.config group manifest.images) classes
        (plans.filter (fun plan => plan.targetSlot.isSome)) := by
    intro plans hvalue
    obtain ⟨classes, forSlots, forArtifacts, hclasses, hslots, hartifacts, rfl⟩ :=
      (rInstallMakePlans_returns ctx manifest group).value (w := w) trivial hvalue
    have hnodup : classes.Nodup := by
      unfold getAllManifestSlotClasses at hclasses
      split_ifs at hclasses
      obtain rfl := Option.some.inj hclasses
      exact nodup_collectDistinct _ _ List.nodup_nil
    refine ⟨classes, hnodup, mem_getAllManifestSlotClasses hclasses, ?_⟩
    have hfor : List.Forall₂ (SlotPlanFor ctx.config group manifest.images) classes forSlots := by
      apply (slotPlans_forall₂ hslots).imp
      intro slotclass plan hplan
      obtain ⟨image, slot, handler, himage, hslot, hwritable, -, rfl⟩ := slotPlan_ok hplan
      obtain ⟨hclass, hrepo⟩ := lookup_targetGroup realpath ctx hstates horder hgroup hslot
      -- an artifact with the name of the class would need a repository of that name
      have hnone : ∀ image ∈ manifest.images, image.slotclass = some slotclass →
          image.artifact = none := by
        intro image himage hsame
        by_contra hartifact
        obtain ⟨repo, hlookup, -⟩ := artifactPlans_complete hartifacts himage hartifact
        rw [hsame, Option.bind_some, hrepo] at hlookup
        exact absurd hlookup (by simp)
      rw [matchingImage_eq_chosenImage _ _ hnone] at himage
      exact ⟨himage, chosenImage_mem _ _ himage, slot, rfl, hslot, hclass, hwritable⟩
    have hfilter : (forSlots ++ forArtifacts).filter (fun plan => plan.targetSlot.isSome) =
        forSlots := by
      rw [List.filter_append, List.filter_eq_self.mpr, List.filter_eq_nil_iff.mpr, List.append_nil]
      · intro plan hplan
        obtain ⟨_, -, _, -, -, rfl⟩ := artifactPlans_ok hartifacts plan hplan
        simp
      · intro plan hplan
        obtain ⟨_, _, hmade⟩ := (slotPlans_ok hslots).1 plan hplan
        obtain ⟨_, _, _, -, -, -, -, rfl⟩ := slotPlan_ok hmade
        rfl
    rw [hfilter]
    exact hfor
  refine ⟨hplans, ?_⟩
  rintro ⟨slotclass, hclass, hmissing⟩
  cases houtcome : (rInstallMakePlans ctx manifest group w).1 with
  | exit x => exact ⟨x, rfl⟩
  | value plans =>
    obtain ⟨classes, -, hmem, hfor⟩ := hplans plans houtcome
    obtain ⟨plan, hplan⟩ := exists_of_forall₂ hfor ((hmem slotclass).mpr hclass)
    obtain ⟨slot, -, hslot, -, hwritable⟩ := hplan.slot
    rcases hmissing with himage | hslots
    · exact absurd (hplan.image.symm.trans himage) (by simp)
    · exact absurd (hwritable.symm.trans (hslots slot hslot)) (by simp)

end Group

section KernelAndRootfs

def inactiveGroup : SlotTable :=
  ⟨[("kernel", { name := "kernel.1", sclass := "kernel", device := "/dev/sda3",
                 bootname := some "B", state := .inactive }),
    ("rootfs", { name := "rootfs.1", sclass := "rootfs", device := "/dev/sda4",
                 parentName := some "kernel.1",
                 parent := some "kernel.1", state := .inactive })], by decide⟩

/-- A manifest with two variants of the root file system. -/
theorem slotPlans_kernelRootfs :
    ∃ plans classes,
        (rInstallMakePlans kernelRootfsContext (kernelRootfsManifest [rawImage "kernel" "cd",
        { rawImage "rootfs" "ef" with variant := some "other" },
          rawImage "rootfs" "ab"]) inactiveGroup
        (Prog.calm kernelRootfsSystem)).1 = .value plans ∧ classes.Nodup ∧
      List.Forall₂ (SlotPlanFor kernelRootfsContext.config inactiveGroup [rawImage "kernel" "cd",
        { rawImage "rootfs" "ef" with variant := some "other" }, rawImage "rootfs" "ab"]) classes
        (plans.filter (fun plan => plan.targetSlot.isSome)) := by
  obtain ⟨plans, hplans⟩ :
      ∃ plans, (rInstallMakePlans kernelRootfsContext (kernelRootfsManifest [rawImage "kernel" "cd",
      { rawImage "rootfs" "ef" with variant := some "other" },
        rawImage "rootfs" "ab"]) inactiveGroup
      (Prog.calm kernelRootfsSystem)).1 = .value plans := ⟨_, rfl⟩
  obtain ⟨classes, hnodup, -, hfor⟩ := (slotPlans_for_classes (fun _ => none) kernelRootfsContext _
    kernelRootfsSlots.keys (fun _ => none) (some "A") runningKernelRootfs inactiveGroup
      runningKernelRootfs.values true
    rfl (List.Perm.refl _) rfl _).1 plans hplans
  exact ⟨plans, classes, hplans, hnodup, hfor⟩

end KernelAndRootfs

end RaucUpdate
