import RaucUpdate.Model.Install
import RaucUpdate.Proofs.SlotStates

namespace RaucUpdate

open Library

section Classes

lemma mem_of_mem_removeFast {x y : String} (l : List String) (h : y ∈ removeFast x l) : y ∈ l := by
  unfold removeFast at h
  cases hi : l.idxOf? x with
  | none => simpa [hi] using h
  | some i =>
    cases hz : l.getLast? with
    | none => simpa [hi, hz] using h
    | some z =>
      simp only [hi, hz] at h
      have hset := (List.dropLast_sublist _).subset h
      rcases List.mem_or_eq_of_mem_set hset with hmem | rfl
      · exact hmem
      · exact List.mem_of_getLast? hz

lemma mem_of_mem_collectDistinct {x : String} (l acc : List String)
    (h : x ∈ collectDistinct acc l) :
    x ∈ acc ∨ x ∈ l := by
  induction l generalizing acc with
  | nil => exact .inl h
  | cons y rest ih =>
    rcases ih _ h with hacc | hrest
    · rcases List.mem_append.mp hacc with hold | hnew
      · exact .inl (mem_of_mem_removeFast acc hold)
      · exact .inr (by simp [List.mem_singleton.mp hnew])
    · exact .inr (by simp [hrest])

/-- The classes of the manifest are those of its images that are no artifacts. -/
lemma mem_getAllManifestSlotClasses {images : List RaucImage} {classes : List String}
    (h : getAllManifestSlotClasses images = some classes) (slotclass : String) :
    slotclass ∈ classes ↔ ∃ image ∈ images, image.artifact = none ∧ image.slotclass =
      some slotclass := by
  unfold getAllManifestSlotClasses at h
  split_ifs at h
  obtain rfl := Option.some.inj h
  have hmem : slotclass ∈ (images.filter (fun image => image.artifact.isNone)).filterMap
      RaucImage.slotclass ↔
      ∃ image ∈ images, image.artifact = none ∧ image.slotclass = some slotclass := by
    simp [List.mem_filterMap, and_assoc]
  constructor
  · intro hc
    rcases mem_of_mem_collectDistinct _ _ hc with hnil | hc
    · exact absurd hnil List.not_mem_nil
    · exact hmem.mp hc
  · intro himage
    exact mem_collectDistinct _ _ (.inr (hmem.mpr himage))

end Classes

section Plans

variable {config : RaucConfig} {group : Table String RaucSlot} {images : List RaucImage}

/-- A plan for a slot class leads its image to the slot that the target group has for the class. -/
lemma slotPlan_ok {slotclass : String} {plan : RImageInstallPlan}
    (h : slotPlan config group images slotclass = .ok plan) :
    ∃ image slot handler, matchingImage config.systemVariant slotclass none images = some image ∧
      group.lookup slotclass = some slot ∧ slot.readonly = false ∧ getUpdateHandler image slot =
        .ok handler ∧
      plan = { image, targetSlot := some slot, slotHandler := some handler } := by
  unfold slotPlan at h
  cases himage : matchingImage config.systemVariant slotclass none images with
  | none => simp [himage] at h
  | some image =>
    cases hslot : group.lookup slotclass with
    | none => simp [himage, hslot] at h
    | some slot =>
      cases hreadonly : slot.readonly with
      | true => simp [himage, hslot, hreadonly] at h
      | false =>
        cases hhandler : getUpdateHandler image slot with
        | error e => simp [himage, hslot, hreadonly, hhandler] at h
        | ok handler =>
          simp only [himage, hslot, hreadonly, hhandler, Bool.false_eq_true, if_false,
            Except.ok.injEq] at h
          exact ⟨image, slot, handler, rfl, rfl, hreadonly, hhandler, h.symm⟩

/-- The plans correspond to the classes. -/
lemma slotPlans_ok {classes : List String} {plans : List RImageInstallPlan}
    (h : slotPlans config group images classes = .ok plans) :
    (∀ plan ∈ plans, ∃ slotclass ∈ classes, slotPlan config group images slotclass = .ok plan) ∧
      ∀ slotclass ∈ classes, ∃ plan ∈ plans, slotPlan config group images slotclass = .ok plan := by
  induction classes generalizing plans with
  | nil =>
    obtain rfl := Except.ok.inj h
    simp
  | cons slotclass rest ih =>
    unfold slotPlans at h
    cases hplan : slotPlan config group images slotclass with
    | error e => simp [hplan] at h
    | ok plan =>
      cases hrest : slotPlans config group images rest with
      | error e => simp [hplan, hrest] at h
      | ok others =>
        simp only [hplan, hrest, Except.ok.injEq] at h
        subst h
        obtain ⟨hforth, hback⟩ := ih hrest
        constructor
        · intro p hp
          rcases List.mem_cons.mp hp with rfl | hp
          · exact ⟨slotclass, by simp, hplan⟩
          · obtain ⟨c, hc, hmade⟩ := hforth p hp
            exact ⟨c, by simp [hc], hmade⟩
        · intro c hc
          rcases List.mem_cons.mp hc with rfl | hc
          · exact ⟨plan, by simp, hplan⟩
          · obtain ⟨p, hp, hmade⟩ := hback c hc
            exact ⟨p, by simp [hp], hmade⟩

/-- A plan for an artifact leads its image to the repository of that name. -/
lemma artifactPlans_ok {plans : List RImageInstallPlan}
    (h : artifactPlans config images = .ok plans) :
    ∀ plan ∈ plans, ∃ image ∈ images, ∃ repo,
      image.slotclass.bind config.artifactRepos.repos.lookup = some repo ∧
      image.artifact ≠ none ∧
      plan = { image, targetRepo := some repo } := by
  induction images generalizing plans with
  | nil =>
    obtain rfl := Except.ok.inj h
    simp
  | cons image rest ih =>
    unfold artifactPlans at h
    cases hartifact : image.artifact with
    | none =>
      simp only [hartifact] at h
      intro plan hplan
      obtain ⟨other, hother, hrest⟩ := ih h plan hplan
      exact ⟨other, by simp [hother], hrest⟩
    | some artifact =>
      cases hrepo : image.slotclass.bind config.artifactRepos.repos.lookup with
      | none => simp [hartifact, hrepo] at h
      | some repo =>
        cases hrest : artifactPlans config rest with
        | error e => simp [hartifact, hrepo, hrest] at h
        | ok others =>
          simp only [hartifact, hrepo, hrest, Except.ok.injEq] at h
          subst h
          intro plan hplan
          rcases List.mem_cons.mp hplan with rfl | hplan
          · exact ⟨image, by simp, repo, hrepo, by simp [hartifact], rfl⟩
          · obtain ⟨other, hother, hothers⟩ := ih hrest plan hplan
            exact ⟨other, by simp [hother], hothers⟩

end Plans

section Group

/-- What `determine_target_install_group` returns is a target group of the configuration. -/
theorem determineTargetInstallGroup_targetGroup (c : SlotConfig) (perSlot : Bool)
    (order : List RaucSlot)
    (slots : SlotTable) (group : Table String RaucSlot)
    (horder : ∀ s ∈ order, s.name ∈ c.slots.keys)
    (h : determineTargetInstallGroup perSlot order slots = .ok group) :
    ∃ targets : TargetGroup c, ∀ slotclass,
      (targets.slots.lookup slotclass).map RaucSlot.name =
        (group.lookup slotclass).map RaucSlot.name := by
  have hconfigured : ∀ k s, group.lookup k = some s → s.name ∈ c.slots.keys := by
    unfold determineTargetInstallGroup at h
    cases hsel : selectRoots perSlot order (rSlotGetRootClasses order) with
    | error e => simp [hsel, Bind.bind, Except.bind] at h
    | ok selected =>
      simp only [hsel, Bind.bind, Except.bind, Pure.pure, Except.pure, Except.ok.injEq] at h
      subst h
      exact collectGroup_all slots selected order Table.empty (fun s hs _ => horder s hs) (by simp)
  have hlookup : ∀ s : RaucSlot, s.name ∈ c.slots.keys → ∃ t, c.slots.lookup s.name = some t ∧
      t.name = s.name := by
    intro s hs
    cases ht : c.slots.lookup s.name with
    | none => exact absurd hs ((Table.lookup_eq_none_iff _ _).mp ht)
    | some t => exact ⟨t, rfl, c.name_of_lookup ht⟩
  refine ⟨⟨group.mapValues (fun s => (c.slots.lookup s.name).getD s), ?_⟩, ?_⟩
  · intro s hs
    rw [Table.values_mapValues] at hs
    obtain ⟨u, hu, rfl⟩ := List.mem_map.mp hs
    obtain ⟨⟨k, u⟩, he, rfl⟩ := List.mem_map.mp hu
    obtain ⟨t, ht, hname⟩ := hlookup u (hconfigured k u ((Table.lookup_eq_some_iff _ _ _).mpr he))
    simp only [ht, Option.getD_some, hname]
  · intro slotclass
    rw [Table.lookup_mapValues]
    cases hu : group.lookup slotclass with
    | none => rfl
    | some u =>
      obtain ⟨t, ht, hname⟩ := hlookup u (hconfigured slotclass u hu)
      simp [ht, hname]

end Group

/-- The plans that a run makes when it gets that far. -/
def PlansMade (config : RaucConfig) (group : Table String RaucSlot) (manifest : RaucManifest)
    (plans : List RImageInstallPlan) : Prop :=
  ∃ classes forSlots forArtifacts, getAllManifestSlotClasses manifest.images = some classes ∧
    slotPlans config group manifest.images classes = .ok forSlots ∧
    artifactPlans config manifest.images = .ok forArtifacts ∧ plans = forSlots ++ forArtifacts

lemma rInstallMakePlans_returns (ctx : InstallContext) (manifest : RaucManifest)
    (group : Table String RaucSlot) :
    Returns (rInstallMakePlans ctx manifest group) (PlansMade ctx.config group manifest) := by
  have hclasses : Returns (requireClasses (getAllManifestSlotClasses manifest.images))
      (fun classes => getAllManifestSlotClasses manifest.images = some classes) := by
    cases getAllManifestSlotClasses manifest.images with
    | none => exact Prog.triple_exit (fun _ _ => trivial)
    | some classes => exact returns_pure rfl
  apply returns_bind hclasses
  intro classes hclasses
  apply returns_bind (returns_ofExcept _)
  intro forSlots hslots
  apply returns_bind (returns_any _)
  intro _ _
  apply returns_bind (returns_any _)
  intro _ _
  apply returns_bind (returns_ofExcept _)
  intro forArtifacts hartifacts
  split_ifs with hempty
  · exact returns_fail
  · exact returns_pure ⟨classes, forSlots, forArtifacts, hclasses, hslots, hartifacts, rfl⟩

section Targets

variable {config : RaucConfig} {group : Table String RaucSlot} {manifest : RaucManifest}
  {plans : List RImageInstallPlan}

/-- The slot of a plan is the one the target group has for the class of an image. -/
lemma PlansMade.targetSlot (h : PlansMade config group manifest plans) {plan : RImageInstallPlan}
    (hplan : plan ∈ plans) {slot : RaucSlot} (hslot : plan.targetSlot = some slot) :
    ∃ image ∈ manifest.images, image.artifact = none ∧ image.slotclass.bind group.lookup =
      some slot := by
  obtain ⟨classes, forSlots, forArtifacts, hclasses, hslots, hartifacts, rfl⟩ := h
  rcases List.mem_append.mp hplan with hplan | hplan
  · obtain ⟨slotclass, hmem, hmade⟩ := (slotPlans_ok hslots).1 plan hplan
    obtain ⟨_, slot', _, -, hlookup, -, -, rfl⟩ := slotPlan_ok hmade
    obtain rfl := Option.some.inj hslot
    obtain ⟨image, himage, hartifact, hclass⟩ :=
      (mem_getAllManifestSlotClasses hclasses slotclass).mp hmem
    exact ⟨image, himage, hartifact, by simp [hclass, hlookup]⟩
  · obtain ⟨_, -, _, -, -, rfl⟩ := artifactPlans_ok hartifacts plan hplan
    exact absurd hslot (by simp)

/-- Every image that is no artifact has a plan for its class. -/
lemma PlansMade.plan_of_image (h : PlansMade config group manifest plans) {image : RaucImage}
    (himage : image ∈ manifest.images) (hartifact : image.artifact = none) {slot : RaucSlot}
    (hslot : image.slotclass.bind group.lookup = some slot) :
      ∃ plan ∈ plans, plan.targetSlot = some slot := by
  obtain ⟨classes, forSlots, forArtifacts, hclasses, hslots, -, rfl⟩ := h
  obtain ⟨slotclass, hclass, hlookup⟩ := Option.bind_eq_some_iff.mp hslot
  have hmem := (mem_getAllManifestSlotClasses hclasses slotclass).mpr ⟨image, himage,
    hartifact, hclass⟩
  obtain ⟨plan, hplan, hmade⟩ := (slotPlans_ok hslots).2 slotclass hmem
  obtain ⟨_, slot', _, -, hlookup', -, -, rfl⟩ := slotPlan_ok hmade
  obtain rfl := Option.some.inj (hlookup.symm.trans hlookup')
  exact ⟨_, List.mem_append_left _ hplan, rfl⟩

end Targets

end RaucUpdate
