import RaucUpdate.Model.UpdateCycle
import RaucUpdate.Proofs.InstallMarks

/-!
# What is started is complete

The laws that a boot loader has to keep, and the update cycle of any boot loader that keeps them:
whatever fails, and wherever a run stops, only slots are started whose group has been written
completely.
-/

namespace RaucUpdate

open Library

section Events

variable {ctx : InstallContext} {args : RaucInstallArgs} {bundledir : String}
  {manifest : RaucManifest}
  {group : TargetGroup ctx.config.toSlotConfig} {plans : List RImageInstallPlan}
  {bootMarkSlot : Option RaucSlot}

/-- What an event of an installation says about its slot. Nothing follows an activation. -/
def CycleOrder (manifest : RaucManifest) (group : Table String RaucSlot) (pre : List InstallEvent)
    (e : InstallEvent) :
    Prop :=
  (∀ name, .markActive name ∉ pre) ∧
    match e with
    | .markedBad name =>
      ∃ slot, Targeted manifest group slot ∧ slot.name = name ∧ slot.bootname ≠ none
    | .markActive name =>
      ∃ slot, Targeted manifest group slot ∧ slot.name = name ∧ slot.bootname ≠ none
    | .writeStarted name _ => ∃ slot, Targeted manifest group slot ∧ slot.name = name
    | .planDone plan =>
      ∀ slot, plan.targetSlot = some slot → ∃ digest, .writeDone slot.name digest ∈ pre
    | _ => True

/-- The events are in order, and nothing has been activated yet. -/
def Orderly (manifest : RaucManifest) (group : Table String RaucSlot) (t : List InstallEvent) :
    Prop :=
  Justified (CycleOrder manifest group) t ∧ ∀ name, .markActive name ∉ t

lemma Orderly.snoc {table : Table String RaucSlot} {t : List InstallEvent} {e : InstallEvent}
    (h : Orderly manifest table t) (hcalls : CycleOrder manifest table t e)
    (he : ∀ name, e ≠ .markActive name) :
    Orderly manifest table (t ++ [e]) := by
  refine ⟨justified_snoc h.1 hcalls, fun name hmem => ?_⟩
  rcases List.mem_append.mp hmem with hmem | hmem
  · exact h.2 name hmem
  · exact he name (List.mem_singleton.mp hmem).symm

lemma writeSlot_orderly {table : Table String RaucSlot} {image : RaucImage} {slot : RaucSlot}
    {hookName : Option String}
    {handler : SlotHandler} (htarget : Targeted manifest table slot) :
    Prog.Triple (fun st => Orderly manifest table st.trace)
      (writeSlot ctx args manifest image slot hookName handler)
      (fun _ st => Orderly manifest table st.trace ∧
        ∃ digest, .writeDone slot.name digest ∈ st.trace)
      (fun _ st => Orderly manifest table st.trace) := by
  apply Prog.triple_bind (Q := fun _ st => Orderly manifest table st.trace)
  · apply record_triple
    intro t ht
    exact ht.snoc ⟨ht.2, slot, htarget, rfl⟩ (by simp)
  intro _
  apply Prog.triple_bind (onSystem_keeps _ (fun _ h => h))
  intro _
  apply Prog.triple_bind (attempt_onSystem_keeps _ (fun _ h => h))
  intro result
  cases result with
  | error e =>
    apply Prog.triple_bind (attempt_onSystem_keeps _ (fun _ h => h))
    intro _
    exact Prog.triple_exit (fun _ h => h)
  | ok _ =>
    apply Prog.triple_bind (Q := fun _ st => Orderly manifest table st.trace ∧
      ∃ digest, .writeDone slot.name digest ∈ st.trace)
    · apply Prog.triple_modify
      intro st hst
      exact ⟨hst.snoc ⟨hst.2, trivial⟩ (by simp), image.checksum.digest, by simp⟩
    intro _
    exact onSystem_keeps (T := fun t => Orderly manifest table t ∧
      ∃ digest, .writeDone slot.name digest ∈ t) _
      (fun _ h => h.1)

/-- A slot that is always written is written by its plan. -/
lemma handleSlotInstallPlan_orderly {table : Table String RaucSlot} {image : RaucImage}
    {slot : RaucSlot}
    {hookName : Option String} {handler : SlotHandler} (htarget : Targeted manifest table slot)
    (hsame : slot.installSame = true) :
    Prog.Triple (fun st => Orderly manifest table st.trace)
      (handleSlotInstallPlan ctx args manifest image slot hookName handler)
      (fun _ st => Orderly manifest table st.trace ∧
        ∃ digest, .writeDone slot.name digest ∈ st.trace)
      (fun _ st => Orderly manifest table st.trace) := by
  apply Prog.triple_bind (onSystem_keeps _ (fun _ h => h))
  intro slotState
  have hskip : skipsUpdate image slot slotState = false := by
    unfold skipsUpdate
    simp [hsame]
  rw [hskip, if_neg Bool.false_ne_true]
  apply Prog.triple_bind (onSystem_keeps _ (fun _ h => h))
  intro _
  exact writeSlot_orderly htarget

lemma PlansMade.targeted {config : RaucConfig} {table : Table String RaucSlot}
    (hmade : PlansMade config table manifest plans) {plan : RImageInstallPlan}
    (hplan : plan ∈ plans) {slot : RaucSlot}
    (hslot : plan.targetSlot = some slot) : Targeted manifest table slot :=
      hmade.targetSlot hplan hslot

lemma Targeted.mem_config {config : RaucConfig} {group : TargetGroup config.toSlotConfig}
    {slot : RaucSlot}
    (h : Targeted manifest group.slots slot) : slot ∈ config.slots.values := by
  obtain ⟨image, -, -, hlookup⟩ := h
  exact group.mem_config hlookup

/-- One round of the loop over the plans, with the record of its end. -/
lemma installPlan_orderly (hsame : ∀ s ∈ ctx.config.slots.values, s.installSame = true)
    (hmade : PlansMade ctx.config group.slots manifest plans) {hookName : Option String}
    {plan : RImageInstallPlan}
    (hplan : plan ∈ plans) :
    Prog.Triple (fun st => Orderly manifest group.slots st.trace)
      (installPlan ctx args manifest hookName (absolutePlan bundledir plan))
      (fun _ st => Orderly manifest group.slots st.trace) (fun _ st => Orderly manifest group.slots
        st.trace) := by
  -- a plan with a target is done when the target has been written
  have hhandled : Prog.Triple (fun st => Orderly manifest group.slots st.trace)
      (handlePlan ctx args manifest hookName (absolutePlan bundledir plan))
      (fun _ st => Orderly manifest group.slots st.trace ∧ ∀ slot, plan.targetSlot = some slot →
        ∃ digest, .writeDone slot.name digest ∈ st.trace)
      (fun _ st => Orderly manifest group.slots st.trace) := by
    have htarget : (absolutePlan bundledir plan).targetSlot = plan.targetSlot := rfl
    unfold handlePlan
    rw [htarget]
    cases hslot : plan.targetSlot with
    | none =>
      have hdone : ∀ st : InstallState, Orderly manifest group.slots st.trace →
          Orderly manifest group.slots st.trace ∧
          ∀ slot : RaucSlot, none = some slot → ∃ digest, .writeDone slot.name digest ∈ st.trace :=
        fun st hst => ⟨hst, fun slot h => by simp at h⟩
      cases (absolutePlan bundledir plan).targetRepo with
      | none => exact Prog.triple_pure hdone
      | some repo =>
        exact Prog.triple_consequence (onSystem_keeps _ (fun _ h => h)) (fun _ h => h)
          (fun _ => hdone) (fun _ _ h => h)
    | some slot =>
      have htargeted := hmade.targeted hplan hslot
      cases (absolutePlan bundledir plan).slotHandler with
      | none => exact Prog.triple_exit (fun _ h => h)
      | some handler =>
        apply Prog.triple_consequence (handleSlotInstallPlan_orderly htargeted
          (hsame slot htargeted.mem_config))
          (fun _ h => h) _ (fun _ _ h => h)
        rintro _ st ⟨hst, hwritten⟩
        refine ⟨hst, fun other hother => ?_⟩
        obtain rfl := Option.some.inj hother
        exact hwritten
  apply Prog.triple_bind hhandled
  intro _
  apply Prog.triple_modify
  rintro st ⟨hst, hwritten⟩
  exact hst.snoc ⟨hst.2, hwritten⟩ (by simp)

lemma installPlans_orderly (hsame : ∀ s ∈ ctx.config.slots.values, s.installSame = true)
    (hmade : PlansMade ctx.config group.slots manifest plans) (hookName : Option String) :
    Prog.Triple (fun st => Orderly manifest group.slots st.trace)
      (Prog.each (installPlan ctx args manifest hookName) (plans.map (absolutePlan bundledir)))
      (fun _ st => Orderly manifest group.slots st.trace) (fun _ st => Orderly manifest group.slots
        st.trace) := by
  refine Prog.triple_each_mem (fun (_ : List RImageInstallPlan) (st : InstallState) =>
    Orderly manifest group.slots st.trace) _ ?_
  intro plan hplan _
  obtain ⟨original, horiginal, rfl⟩ := List.mem_map.mp hplan
  exact installPlan_orderly hsame hmade horiginal

/-- The slot to be marked is a bootable target of the plans. -/
def MarkTargeted (manifest : RaucManifest) (group : Table String RaucSlot)
    (bootMarkSlot : Option RaucSlot) : Prop :=
  ∀ slot, bootMarkSlot = some slot → Targeted manifest group slot ∧ slot.bootname ≠ none

lemma getBootMarkSlot_targeted {config : RaucConfig} {table : Table String RaucSlot}
    (hmade : PlansMade config table manifest plans) :
    Returns (getBootMarkSlot plans) (MarkTargeted manifest table) := by
  have hone : ∀ slot ∈ plans.filterMap bootMarkTarget, Targeted manifest table slot ∧
      slot.bootname ≠ none := by
    intro slot hslot
    obtain ⟨plan, hplan, htarget⟩ := List.mem_filterMap.mp hslot
    obtain ⟨hslot', hbootname⟩ := Option.filter_eq_some_iff.mp htarget
    simp only [Bool.and_eq_true, Option.isSome_iff_ne_none] at hbootname
    exact ⟨hmade.targeted hplan hslot', hbootname.2⟩
  unfold getBootMarkSlot
  cases hslots : plans.filterMap bootMarkTarget with
  | nil => exact returns_pure (by simp [MarkTargeted])
  | cons slot rest =>
    cases rest with
    | nil =>
      apply returns_pure
      intro slot' hslot'
      obtain rfl := Option.some.inj hslot'
      exact hone slot (by simp [hslots])
    | cons other rest => exact Prog.triple_exit (fun _ _ => trivial)

lemma rMarkBad_orderly {slot : RaucSlot} {table : Table String RaucSlot}
    (htarget : Targeted manifest table slot)
    (hbootname : slot.bootname ≠ none) :
    Prog.Triple (fun st => Orderly manifest table st.trace) (rMarkBad ctx slot)
      (fun _ st => Orderly manifest table st.trace) (fun _ st =>
        Orderly manifest table st.trace) := by
  apply Prog.triple_bind (attempt_onSystem_keeps _ (fun _ h => h))
  intro result
  cases result with
  | error e => exact Prog.triple_exit (fun _ h => h)
  | ok _ =>
    apply record_triple
    intro t ht
    exact ht.snoc ⟨ht.2, slot, htarget, rfl, hbootname⟩ (by simp)

lemma markTargetBad_orderly {table : Table String RaucSlot}
    (htarget : MarkTargeted manifest table bootMarkSlot) :
    Prog.Triple (fun st => Orderly manifest table st.trace) (markTargetBad ctx bootMarkSlot)
      (fun _ st => Orderly manifest table st.trace) (fun _ st =>
        Orderly manifest table st.trace) := by
  cases bootMarkSlot with
  | none => exact Prog.triple_pure (fun _ h => h)
  | some slot =>
    obtain ⟨htargeted, hbootname⟩ := htarget slot rfl
    apply Prog.triple_bind (Prog.triple_attempt_cases (rMarkBad_orderly htargeted hbootname))
    intro result
    cases result with
    | error e => exact Prog.triple_exit (fun _ h => h)
    | ok _ => exact Prog.triple_pure (fun _ h => h)

lemma activateTarget_orderly {table : Table String RaucSlot}
    (htarget : MarkTargeted manifest table bootMarkSlot) :
    Prog.Triple (fun st => Orderly manifest table st.trace) (activateTarget ctx bootMarkSlot)
      (fun _ st => Justified (CycleOrder manifest table) st.trace)
      (fun _ st => Justified (CycleOrder manifest table) st.trace) := by
  cases bootMarkSlot with
  | none => exact Prog.triple_pure (fun _ h => h.1)
  | some slot =>
    obtain ⟨htargeted, hbootname⟩ := htarget slot rfl
    simp only [activateTarget]
    split_ifs with hactivate
    · refine Prog.triple_mapError ?_ (fun _ _ h => h)
      apply Prog.triple_bind (Q := fun _ st => Justified (CycleOrder manifest table) st.trace)
      · apply record_triple
        intro t ht
        exact justified_snoc ht.1 ⟨ht.2, slot, htargeted, rfl, hbootname⟩
      · intro _
        exact onSystem_keeps _ (fun _ h => h)
    · exact Prog.triple_pure (fun _ h => h.1)

/-- What holds of the events of every run of the handler. -/
structure CycleTrace (ctx : InstallContext) (bundledir : String) (manifest : RaucManifest)
    (group : Table String RaucSlot) (t : List InstallEvent) : Prop where
  order : Justified (CycleOrder manifest group) t
  marks : MarkOrder ctx bundledir manifest group t

lemma returns_and {α : Type} {p : SystemProg α} {R R' : α → Prop} (h : Returns p R)
    (h' : Returns p R') :
    Returns p (fun a => R a ∧ R' a) :=
  Prog.triple_consequence (Prog.triple_and h h') (fun _ h => h) (fun _ _ h => h)
    (fun _ _ _ => trivial)

lemma launchAndWaitDefaultHandler_cycle (hsame : ∀ s ∈ ctx.config.slots.values,
    s.installSame = true) :
    Prog.Triple (fun st => st.trace = []) (launchAndWaitDefaultHandler ctx args bundledir manifest
      group.slots)
      (fun _ st => CycleTrace ctx bundledir manifest group.slots st.trace)
      (fun _ st => CycleTrace ctx bundledir manifest group.slots st.trace) := by
  have hstart : ∀ t, t = [] → BetweenPlans ctx bundledir manifest group.slots (fun _ => True) t ∧
      Orderly manifest group.slots t := by
    rintro t rfl
    exact ⟨⟨⟨fun _ => justified_nil _, justified_nil _⟩, answered_nil _, trivial⟩,
      justified_nil _, by simp⟩
  have hempty : ∀ t, t = [] → CycleTrace ctx bundledir manifest group.slots t :=
    fun t ht => ⟨(hstart t ht).2.1, (hstart t ht).1.1⟩
  apply Prog.triple_bind (onSystem_returns (T := fun t => t =
    []) (rInstallMakePlans_returns ctx manifest group.slots)
    hempty)
  intro plans
  apply Prog.triple_fact
  intro hmade
  apply Prog.triple_bind (onSystem_returns (returns_and (getBootMarkSlot_returns plans)
    (getBootMarkSlot_targeted hmade)) hempty)
  intro bootMarkSlot
  apply Prog.triple_fact
  rintro ⟨hmarks, htargeted⟩
  apply Prog.triple_bind (Prog.triple_consequence (onSystem_keeps (T := fun t => t = []) _
    (fun _ h => h))
    (fun _ h => h) (fun _ _ h => h) (fun _ st h => hempty st.trace h))
  intro _
  apply Prog.triple_bind (Prog.triple_consequence
    (Prog.triple_both (markTargetBad_order bootMarkSlot)
    (markTargetBad_orderly htargeted)) (fun st h => hstart st.trace h) (fun _ _ h => h)
      (fun _ _ h => ⟨h.2.1, h.1⟩))
  intro _
  apply Prog.triple_bind (Prog.triple_consequence
    (Prog.triple_both (installPlans_order hmade hmarks _)
    (installPlans_orderly hsame hmade _)) (fun _ h => h) (fun _ _ h => h) (fun _ _ h =>
      ⟨h.2.1, h.1⟩))
  intro _
  apply Prog.triple_bind (onSystem_keeps (T := fun t =>
    BetweenPlans ctx bundledir manifest group.slots
    (Progress bootMarkSlot (plans.map (absolutePlan bundledir))) t ∧
      Orderly manifest group.slots t) _
    (fun _ h => ⟨h.2.1, h.1.1⟩))
  intro _
  exact Prog.triple_consequence (Prog.triple_both (activateTarget_order hmade)
    (activateTarget_orderly htargeted))
    (fun _ h => h) (fun _ _ h => ⟨h.2, h.1⟩) (fun _ _ h => ⟨h.2, h.1⟩)

end Events

section Damage

variable {t : List InstallEvent} {damaged : String → Bool} {name : String}

lemma foldl_trackDamage_snoc (t : List InstallEvent) (e : InstallEvent) (damaged : String → Bool) :
    (t ++ [e]).foldl trackDamage damaged = trackDamage (t.foldl trackDamage damaged) e := by
  simp

/-- A slot that is damaged has been so all the time, or there is a write without an end. -/
lemma damaged_cases (h : t.foldl trackDamage damaged name = true) :
    (damaged name = true ∧ ∀ digest, .writeDone name digest ∉ t) ∨
      ∃ pre digest post, t = pre ++ .writeStarted name digest :: post ∧
        ∀ digest', .writeDone name digest' ∉ post := by
  induction t using List.reverseRecOn with
  | nil => exact .inl ⟨h, by simp⟩
  | append_singleton t e ih =>
    rw [foldl_trackDamage_snoc] at h
    -- an event that is neither the start nor the end of a write to the slot
    have hsame : (∀ digest, e ≠ .writeDone name digest) → t.foldl trackDamage damaged name = true →
        (damaged name = true ∧ ∀ digest, .writeDone name digest ∉ t ++ [e]) ∨
          ∃ pre digest post, t ++ [e] = pre ++ .writeStarted name digest :: post ∧
            ∀ digest', .writeDone name digest' ∉ post := by
      intro hother hbefore
      rcases ih hbefore with ⟨hold, hnone⟩ | ⟨pre, digest, post, rfl, hnone⟩
      · refine .inl ⟨hold, fun digest hmem => ?_⟩
        rcases List.mem_append.mp hmem with hmem | hmem
        · exact hnone digest hmem
        · exact hother digest (List.mem_singleton.mp hmem).symm
      · refine .inr ⟨pre, digest, post ++ [e], by simp, fun digest' hmem => ?_⟩
        rcases List.mem_append.mp hmem with hmem | hmem
        · exact hnone digest' hmem
        · exact hother digest' (List.mem_singleton.mp hmem).symm
    cases e with
    | writeStarted slot digest =>
      by_cases hslot : name = slot
      · obtain rfl := hslot
        exact .inr ⟨t, digest, [], rfl, by simp⟩
      · simp only [trackDamage, if_neg hslot] at h
        exact hsame (by simp) h
    | writeDone slot digest =>
      by_cases hslot : name = slot
      · simp [trackDamage, hslot] at h
      · simp only [trackDamage, if_neg hslot] at h
        refine hsame (fun digest' heq => hslot ?_) h
        exact (InstallEvent.writeDone.inj heq).1.symm
    | markedBad slot => exact hsame (by simp) h
    | skipped slot => exact hsame (by simp) h
    | planDone plan => exact hsame (by simp) h
    | markActive slot => exact hsame (by simp) h

/-- When every write has ended, a slot that was written is complete. -/
lemma intact_of_written (hanswered : Answered WriteAnswer t)
    (hwritten : ∃ digest, .writeDone name digest ∈ t) :
    t.foldl trackDamage damaged name = false := by
  by_contra hdamaged
  obtain ⟨digest, hmem⟩ := hwritten
  rcases damaged_cases (Bool.not_eq_false _ ▸ hdamaged) with ⟨-, hnone⟩ | ⟨pre, digest',
    post, ht, hnone⟩
  · exact hnone digest hmem
  · exact hnone digest' (hanswered pre _ post ht _ rfl)

end Damage

section Cycle

variable {ε : Type}

/-- The bootnames that a boot loader may start, whatever its counters say, and how the calls change
them. `Sound` tells a state of the boot loader in which the system that is running will be found
again. -/
structure SchemeLaws (config : RaucConfig) (scheme : BootScheme ε) where
  offers : ε → String → Prop
  Sound : ε → Option String → Prop
  bad {slot : RaucSlot} {b : String} {boot boot' : ε} {running : Option String} {ok : Bool} :
    slot ∈ config.slots.values → slot.bootname = some b → Sound boot running → running ≠ some b →
    scheme.setState slot false boot ok boot' →
    Sound boot' running ∧ (∀ c, offers boot' c → offers boot c) ∧ (ok = true → ¬ offers boot' b)
  good {slot : RaucSlot} {b : String} {boot boot' : ε} {running : Option String} {ok : Bool} :
    slot ∈ config.slots.values → slot.bootname = some b → Sound boot running →
    scheme.setState slot true boot ok boot' → Sound boot' running ∧ ∀ c, offers boot' c →
      offers boot c ∨ c = b
  primary {slot : RaucSlot} {b : String} {boot boot' : ε} {running : Option String} {ok : Bool} :
    slot ∈ config.slots.values → slot.bootname = some b → Sound boot running →
    scheme.setPrimary slot boot ok boot' → Sound boot' running ∧ ∀ c, offers boot' c →
      offers boot c ∨ c = b
  boots {boot boot' : ε} {running next : Option String} :
    Sound boot running → scheme.boots boot next boot' →
    Sound boot' next ∧ (∀ c, offers boot' c → offers boot c) ∧ ∀ b, next = some b → offers boot b

variable {scheme : BootScheme ε} {ctx : InstallContext} (laws : SchemeLaws ctx.config scheme)

/-- The boot loader does not offer a slot of which some part is damaged, and such a slot is not
running. -/
structure SchemeLaws.Hidden (boot : ε) (running : Option String) (damaged : String → Bool) :
    Prop where
  sound : laws.Sound boot running
  hidden : ∀ s ∈ ctx.config.slots.values, damaged s.name = true → ∀ b,
    (rSlotGetParentRoot ctx.config.slots s).bootname = some b → ¬ laws.offers boot b ∧
      running ≠ some b

/-- No slot of the group is damaged. -/
def IntactGroup (ctx : InstallContext) (damaged : String → Bool) (b : String) : Prop :=
  ∀ s ∈ ctx.config.slots.values, (rSlotGetParentRoot ctx.config.slots s).bootname = some b →
    damaged s.name = false

variable {laws} {boot boot' : ε} {running : Option String} {damaged : String → Bool}

/-- A change after which no more slots are offered than before, but for an intact one. -/
lemma SchemeLaws.Hidden.call (h : laws.Hidden boot running damaged)
    (hsound : laws.Sound boot' running)
    (hoffers : ∀ c, laws.offers boot' c → laws.offers boot c ∨ IntactGroup ctx damaged c) :
    laws.Hidden boot' running damaged := by
  refine ⟨hsound, fun s hs hdamaged b hb => ⟨fun hoffered => ?_, (h.hidden s hs hdamaged b hb).2⟩⟩
  rcases hoffers b hoffered with hbefore | hintact
  · exact (h.hidden s hs hdamaged b hb).1 hbefore
  · rw [hintact s hs hb] at hdamaged
    exact absurd hdamaged Bool.false_ne_true

lemma SchemeLaws.Hidden.intact (h : laws.Hidden boot running damaged) {b : String}
    (hb : laws.offers boot b ∨ running = some b) : IntactGroup ctx damaged b := by
  intro s hs hroot
  by_contra hdamaged
  obtain ⟨hoffers, hrunning⟩ := h.hidden s hs (Bool.not_eq_false _ ▸ hdamaged) b hroot
  rcases hb with hb | hb
  · exact hoffers hb
  · exact hrunning hb

section Installation

variable {bundledir : String} {manifest : RaucManifest}
  {group : TargetGroup ctx.config.toSlotConfig}
  {t : List InstallEvent}

lemma bootname_of_name {slot slot' : RaucSlot} (hslot : slot ∈ ctx.config.slots.values)
    (hslot' : slot' ∈ ctx.config.slots.values) (hname : slot.name = slot'.name) : slot = slot' :=
  ctx.config.eq_of_name_eq hslot hslot' hname

/-- A slot with a bootname is the root of its group. -/
lemma root_of_bootname {slot : RaucSlot} (hslot : slot ∈ ctx.config.slots.values)
    (hb : slot.bootname ≠ none) :
    rSlotGetParentRoot ctx.config.slots slot = slot := by
  apply rSlotGetParentRoot_of_root ctx.config.toSlotConfig
  by_contra hparent
  exact hb (ctx.config.child_no_bootname slot hslot hparent)

/-- The group of an activated slot has been written by the run. -/
lemma intact_of_activated (damaged : String → Bool)
    (hcovers : CoversGroups ctx manifest group.slots) {slot : RaucSlot}
    (htargeted : Targeted manifest group.slots slot) {b : String} (hb : slot.bootname = some b)
    (horder : Justified (CycleOrder manifest group.slots) t)
    (hactive : ActiveAfterPlans ctx bundledir manifest group.slots t (.markActive slot.name)) :
    IntactGroup ctx (t.foldl trackDamage damaged) b := by
  obtain ⟨⟨plans, hmade, hdone⟩, hanswered⟩ := hactive
  have hslot := htargeted.mem_config
  have hroot := root_of_bootname hslot (by simp [hb])
  intro s hs hsb
  have hsroot := ctx.config.bootname_unique _ (rSlotGetParentRoot_mem ctx.config.toSlotConfig hs).1
    slot hslot b hsb hb
  obtain ⟨image, himage, hartifact, hlookup⟩ :=
    hcovers slot htargeted (by simp [hroot, hb]) s hs (by rw [hsroot, hroot])
  obtain ⟨plan, hplan, hplanSlot⟩ := hmade.plan_of_image himage hartifact hlookup
  -- the plan for the slot was done, so the slot was written in front of it
  obtain ⟨pre, post, ht⟩ := List.append_of_mem (hdone plan hplan)
  obtain ⟨digest, hwritten⟩ := (horder pre _ post ht).2 s hplanSlot
  apply intact_of_written hanswered
  exact ⟨digest, by rw [ht]; exact List.mem_append_left _ hwritten⟩

lemma markCovers_of_groups (hcovers : CoversGroups ctx manifest group.slots) :
    MarkCovers ctx.config group.slots manifest := by
  intro image himage hartifact slot hlookup hbootname
  have htargeted : Targeted manifest group.slots slot := ⟨image, himage, hartifact, hlookup⟩
  have hroot := (rSlotGetParentRoot_mem ctx.config.toSlotConfig htargeted.mem_config).1
  exact hcovers slot htargeted hbootname _ hroot (root_of_bootname hroot hbootname)

lemma justified_of_snoc {J : List InstallEvent → InstallEvent → Prop} {e : InstallEvent}
    (h : Justified J (t ++ [e])) : Justified J t ∧ J t e := by
  refine ⟨fun pre x post ht => h pre x (post ++ [e]) (by simp [ht]), h t e [] rfl⟩

/-- The events of an installation up to here: nothing that is damaged is offered, and as long as
nothing was activated neither is a slot that was marked bad. -/
structure SchemeLaws.Marked (laws : SchemeLaws ctx.config scheme) (manifest : RaucManifest)
    (group : Table String RaucSlot) (boot : ε) (running : Option String) (damaged : String → Bool)
    (t : List InstallEvent) : Prop where
  hidden : laws.Hidden boot running (t.foldl trackDamage damaged)
  marked : (∀ name, .markActive name ∉ t) → ∀ slot ∈ ctx.config.slots.values, ∀ b,
    slot.bootname = some b →
    .markedBad slot.name ∈ t → ¬ laws.offers boot b

/-- An event that calls nothing: the group of a slot that is written has been marked before. -/
lemma SchemeLaws.Marked.other (h : laws.Marked manifest group.slots boot running damaged t)
    {e : InstallEvent}
    (he : e.callsBackend = false) (hspares : SparesRunning ctx manifest group.slots running)
    (horder : CycleOrder manifest group.slots t e) (hwrite : BadBeforeWrite ctx.config t e) :
    laws.Marked manifest group.slots boot running damaged (t ++ [e]) := by
  have hmarks : ∀ name, (.markedBad name ∈ t ++ [e] ↔ .markedBad name ∈ t) := by
    intro name
    simp only [List.mem_append, List.mem_singleton, or_iff_left_iff_imp]
    rintro rfl
    simp [InstallEvent.callsBackend] at he
  refine ⟨⟨h.hidden.sound, ?_⟩, fun hactive slot hslot b hb hmem =>
    h.marked horder.1 slot hslot b hb ((hmarks _).mp hmem)⟩
  intro s hs hdamaged b hb
  rw [foldl_trackDamage_snoc] at hdamaged
  by_cases hbefore : t.foldl trackDamage damaged s.name = true
  · exact h.hidden.hidden s hs hbefore b hb
  · -- only the start of a write damages a slot
    cases e with
    | writeStarted name digest =>
      obtain ⟨slot, htargeted, rfl⟩ := horder.2
      by_cases hname : s.name = slot.name
      · obtain rfl := bootname_of_name hs htargeted.mem_config hname
        have hroot := (rSlotGetParentRoot_mem ctx.config.toSlotConfig hs).1
        have hne : (rSlotGetParentRoot ctx.config.slots s).bootname ≠ none := by simp [hb]
        have hmarked := hwrite s (by rw [← ctx.config.mem_values_iff]; exact hs) hne
        refine ⟨h.marked horder.1 _ hroot b hb hmarked, ?_⟩
        rintro rfl
        exact hspares s htargeted hne hb
      · simp only [trackDamage, if_neg hname] at hdamaged
        exact absurd hdamaged hbefore
    | writeDone name digest =>
      by_cases hname : s.name = name
      · simp [trackDamage, hname] at hdamaged
      · simp only [trackDamage, if_neg hname] at hdamaged
        exact absurd hdamaged hbefore
    | markedBad name => exact absurd hdamaged hbefore
    | skipped name => exact absurd hdamaged hbefore
    | planDone plan => exact absurd hdamaged hbefore
    | markActive name => exact absurd hdamaged hbefore

/-- The stored data at the end of an installation, whatever its calls came to. -/
lemma bootCalls_marked (hspares : SparesRunning ctx manifest group.slots running)
    (hcovers : CoversGroups ctx manifest group.slots) (h : laws.Hidden boot running damaged)
    (hcalls : BootCalls scheme ctx boot t boot')
    (htrace : CycleTrace ctx bundledir manifest group.slots t) :
    laws.Marked manifest group.slots boot' running damaged t := by
  obtain ⟨horder, hmarks⟩ := htrace
  have hwrite := hmarks.1 (markCovers_of_groups hcovers)
  have hactive := hmarks.2
  clear hmarks
  induction hcalls with
  | nil => exact ⟨h, fun _ slot _ b _ hmem => absurd hmem List.not_mem_nil⟩
  | @other trace boot₁ _ e he ih =>
    obtain ⟨horder, hnext⟩ := justified_of_snoc horder
    obtain ⟨hwrite, hnextWrite⟩ := justified_of_snoc hwrite
    exact (ih horder hwrite (justified_of_snoc hactive).1).other he hspares hnext hnextWrite
  | @markedBad trace boot₁ boot₂ _ slot hslot hcall ih =>
    obtain ⟨horder, hnone, target, htargeted, hname, hbootname⟩ := justified_of_snoc horder
    have hbefore := ih horder (justified_of_snoc hwrite).1 (justified_of_snoc hactive).1
    obtain rfl := bootname_of_name htargeted.mem_config hslot hname
    obtain ⟨b, hb⟩ := Option.ne_none_iff_exists'.mp hbootname
    have hroot := root_of_bootname hslot hbootname
    have hrunning : running ≠ some b := by
      have hne := hspares target htargeted (by rw [hroot]; exact hbootname)
      rw [hroot, hb] at hne
      exact hne.symm
    obtain ⟨hsound, hoffers, hgone⟩ := laws.bad hslot hb hbefore.hidden.sound hrunning hcall
    refine ⟨?_, ?_⟩
    · rw [foldl_trackDamage_snoc]
      exact hbefore.hidden.call hsound (fun c hc => .inl (hoffers c hc))
    · intro _ other hother c hc hmem hoffered
      rcases List.mem_append.mp hmem with hmem | hmem
      · exact hbefore.marked hnone other hother c hc hmem (hoffers c hoffered)
      · have heq := InstallEvent.markedBad.inj (List.mem_singleton.mp hmem)
        obtain rfl := bootname_of_name hother hslot heq
        obtain rfl := Option.some.inj (hb.symm.trans hc)
        exact hgone rfl hoffered
  | @markActive trace boot₁ boot₂ _ slot hslot ok hcall ih =>
    obtain ⟨hbeforeOrder, -, target, htargeted, hname, hbootname⟩ := justified_of_snoc horder
    obtain ⟨hactive, hnext⟩ := justified_of_snoc hactive
    have hbefore := ih hbeforeOrder (justified_of_snoc hwrite).1 hactive
    obtain rfl := bootname_of_name htargeted.mem_config hslot hname
    obtain ⟨b, hb⟩ := Option.ne_none_iff_exists'.mp hbootname
    have hintact := intact_of_activated damaged hcovers htargeted hb hbeforeOrder hnext
    obtain ⟨hsound, hoffers⟩ := laws.primary hslot hb hbefore.hidden.sound hcall
    refine ⟨?_, fun hnone => absurd (by simp) (hnone target.name)⟩
    rw [foldl_trackDamage_snoc]
    apply hbefore.hidden.call hsound
    intro c hc
    rcases hoffers c hc with hold | rfl
    · exact .inl hold
    · exact .inr hintact

end Installation

/-- The events of an installation of any machine. -/
lemma installation_trace (hsame : ∀ s ∈ ctx.config.slots.values, s.installSame = true)
    (i : Installation ctx)
    (st : CycleState ε) : CycleTrace ctx i.bundledir i.manifest i.group.slots
      (i.result st).trace := by
  have hhandler : Prog.Triple (fun st => st.trace = [])
      (launchAndWaitDefaultHandler ctx i.args i.bundledir i.manifest i.group.slots)
      (fun _ st => CycleTrace ctx i.bundledir i.manifest i.group.slots st.trace)
      (fun _ st => CycleTrace ctx i.bundledir i.manifest i.group.slots st.trace) :=
    launchAndWaitDefaultHandler_cycle hsame
  have hrun := hhandler ⟨InstallState.withMounted ⟨st.system, []⟩ i.extMountPoint, i.fates⟩ rfl
  unfold Prog.Holds at hrun
  split at hrun
  · exact hrun
  · exact hrun

/-- What one step keeps, when the user is careful. -/
lemma SchemeLaws.Hidden.step (hsame : ∀ s ∈ ctx.config.slots.values, s.installSame = true)
    {st st' : CycleState ε}
    {action : CycleAction ctx} (h : laws.Hidden st.boot st.running st.damaged)
    (hcareful : Careful ctx st action)
    (hstep : CycleStep scheme ctx st action st') :
      laws.Hidden st'.boot st'.running st'.damaged := by
  cases hstep with
  | installed i hcalls =>
    obtain ⟨hspares, hcovers⟩ := hcareful
    exact (bootCalls_marked hspares hcovers h hcalls (installation_trace hsame i st)).hidden
  | refused i _ htarget hbootname hcall =>
    have hslot := htarget.mem_config
    have hroot := root_of_bootname hslot hbootname
    have hspares := hcareful.1 _ htarget (by rw [hroot]; exact hbootname)
    obtain ⟨b, hb⟩ := Option.ne_none_iff_exists'.mp hbootname
    rw [hroot, hb] at hspares
    obtain ⟨hsound, hoffers, -⟩ := laws.bad hslot hb h.sound hspares.symm hcall
    exact h.call hsound (fun c hc => .inl (hoffers c hc))
  | restarted => exact h
  | markedGood hslot ok hcall =>
    obtain ⟨b, hb, hgood⟩ := hcareful
    obtain ⟨hsound, hoffers⟩ := laws.good hslot hb h.sound hcall
    apply h.call hsound
    intro c hc
    rcases hoffers c hc with hold | rfl
    · exact .inl hold
    · rcases hgood with hrunning | hintact
      · exact .inr (h.intact (.inr hrunning))
      · exact .inr hintact
  | markedBad hslot ok hcall =>
    obtain ⟨b, hb, hspares⟩ := hcareful
    obtain ⟨hsound, hoffers, -⟩ := laws.bad hslot hb h.sound hspares hcall
    exact h.call hsound (fun c hc => .inl (hoffers c hc))
  | activated hslot ok hcall =>
    obtain ⟨b, hb, hintact⟩ := hcareful
    obtain ⟨hsound, hoffers⟩ := laws.primary hslot hb h.sound hcall
    apply h.call hsound
    intro c hc
    rcases hoffers c hc with hold | rfl
    · exact .inl hold
    · exact .inr hintact
  | started hboots =>
    obtain ⟨hsound, hoffers, hnext⟩ := laws.boots h.sound hboots
    refine ⟨hsound, fun s hs hdamaged b hb => ⟨fun hoffered => ?_, fun hrunning => ?_⟩⟩
    · exact (h.hidden s hs hdamaged b hb).1 (hoffers b hoffered)
    · exact (h.hidden s hs hdamaged b hb).1 (hnext b hrunning)

/-- In every state of the life of a machine nothing that is damaged is offered or running. -/
lemma updateCycle_hidden (laws : SchemeLaws ctx.config scheme)
    (hsame : ∀ s ∈ ctx.config.slots.values, s.installSame = true) {st₀ st : CycleState ε}
    {steps : List (CycleState ε × CycleAction ctx)} (hsound : laws.Sound st₀.boot st₀.running)
    (hintact : st₀.Delivered)
    (hcycle : UpdateCycle scheme ctx st₀ steps st)
    (hcareful : ∀ step ∈ steps, Careful ctx step.1 step.2) :
    laws.Hidden st.boot st.running st.damaged := by
  induction hcycle with
  | nil =>
    refine ⟨hsound, fun s _ hdamaged => ?_⟩
    rw [hintact s.name] at hdamaged
    exact absurd hdamaged Bool.false_ne_true
  | @snoc steps st st' action _ hstep ih =>
    have hbefore := ih (fun step hmem => hcareful step (List.mem_append_left _ hmem))
    exact hbefore.step hsame (hcareful (st, action) (by simp)) hstep

/-- Whatever slot is started next, its group is complete. -/
lemma SchemeLaws.Hidden.starts_intact {st : CycleState ε}
    (h : laws.Hidden st.boot st.running st.damaged) {b : String}
    (hboots : scheme.boots st.boot (some b) boot) : GroupIntact ctx st b :=
  h.intact (.inl ((laws.boots h.sound hboots).2.2 b rfl))

end Cycle

section KernelAndRootfs

variable {bootloader : String} {ε : Type} {scheme : BootScheme ε} {boot boot' : ε}

/-- The two groups of a kernel and a root file system, with another boot loader. -/
def twoGroupsContext (bootloader : String) : InstallContext :=
  { kernelRootfsContext with
    config := { kernelRootfsContext.config with systemBootloader := some bootloader } }

/-- An update of the second group that breaks off in the first write. -/
def brokenOffUpdate (bootloader : String) : Installation (twoGroupsContext bootloader) where
  bundledir := "/bundle"
  manifest := kernelRootfsManifest [rawImage "kernel" "cd", rawImage "rootfs" "ab"]
  group := secondGroup
  fates := fun i => if i = 5 then .stops else .succeeds

/-- The kernel slot of the second group. -/
def secondKernel : RaucSlot := { name := "kernel.1", sclass := "kernel", device := "/dev/sda3",
                                 bootname := some "B" }

lemma brokenOffUpdate_trace (hbootloader : bootloader = "uboot" ∨ bootloader = "grub")
    (st : CycleState ε)
    (hsystem : st.system = kernelRootfsSystem) :
    ((brokenOffUpdate bootloader).result st).trace =
      [.markedBad "kernel.1", .writeStarted "kernel.1" (some "cd")] := by
  unfold Installation.result
  rw [hsystem]
  rcases hbootloader with rfl | rfl
  · decide +kernel
  · decide +kernel

/-- The machine with the first group running, as it is delivered. -/
def firstRunning (boot : ε) : CycleState ε := ⟨kernelRootfsSystem, boot, some "A", fun _ => false⟩

/-- A machine that runs the first group and lost its power in the first write to the second
group. -/
lemma brokenOffUpdate_cycle (hbootloader : bootloader = "uboot" ∨ bootloader = "grub")
    (hcall : scheme.setState secondKernel false boot true boot') :
    ∃ st, UpdateCycle scheme (twoGroupsContext bootloader) (firstRunning boot)
      [(firstRunning boot, .install (brokenOffUpdate bootloader))] st ∧ st.boot = boot' ∧
        st.damaged "kernel.1" = true := by
  have htrace := brokenOffUpdate_trace hbootloader (firstRunning boot) rfl
  have hcalls : BootCalls scheme (twoGroupsContext bootloader) boot
      ((brokenOffUpdate bootloader).result (firstRunning boot)).trace boot' := by
    rw [htrace]
    have hmem : secondKernel ∈ kernelRootfsSlots.values := by decide
    have hmarked : BootCalls scheme (twoGroupsContext bootloader) boot
        ([] ++ [.markedBad secondKernel.name]) boot' :=
      .markedBad .nil hmem hcall
    exact .other hmarked (.writeStarted "kernel.1" (some "cd")) rfl
  refine ⟨_, .snoc .nil (.installed (brokenOffUpdate bootloader) hcalls), rfl, ?_⟩
  rw [htrace]
  rfl

/-- The update has images for the whole second group and none for the first one, which is
running. -/
lemma brokenOffUpdate_careful (bootloader : String) (boot : ε) :
    Careful (twoGroupsContext bootloader) (firstRunning boot)
      (.install (brokenOffUpdate bootloader)) := by
  have htargets : ∀ slot, Targeted (brokenOffUpdate bootloader).manifest secondGroup.slots slot →
      slot ∈ secondGroup.slots.values := by
    rintro slot ⟨image, -, -, hlookup⟩
    obtain ⟨sclass, -, hlookup⟩ := Option.bind_eq_some_iff.mp hlookup
    exact List.mem_map_of_mem ((Table.lookup_eq_some_iff _ _ _).mp hlookup)
  constructor
  · intro slot hslot _
    have hsecond : ∀ s ∈ secondGroup.slots.values,
        (rSlotGetParentRoot kernelRootfsSlots s).bootname ≠ some "A" := by decide
    exact hsecond slot (htargets slot hslot)
  · intro slot hslot _ s hs hroot
    have hsecond : ∀ t ∈ secondGroup.slots.values, ∀ s ∈ kernelRootfsSlots.values,
        rSlotGetParentRoot kernelRootfsSlots s = rSlotGetParentRoot kernelRootfsSlots t →
          ∃ image ∈ [rawImage "kernel" "cd", rawImage "rootfs" "ab"], image.artifact = none ∧
            image.slotclass.bind secondGroup.slots.lookup = some s := by decide
    exact hsecond slot (htargets slot hslot) s hs hroot

end KernelAndRootfs

end RaucUpdate
