import RaucUpdate.Model.SlotStates
import RaucUpdate.Proofs.SlotConfig

namespace RaucUpdate

open Library

section Update

/-- A change of the slots that leaves names, parents and bootnames alone keeps the invariant. -/
def SlotConfig.update (c : SlotConfig) (f : RaucSlot → RaucSlot)
    (hf : ∀ s, (f s).name = s.name ∧ (f s).parent = s.parent ∧ (f s).bootname = s.bootname) :
      SlotConfig where
  slots := c.slots.mapValues f
  name_key := by
    intro e he
    obtain ⟨e', he', rfl⟩ := List.mem_map.mp he
    rw [(hf e'.2).1]
    exact c.name_key e' he'
  bootname_unique := by
    intro s hs t ht b hsb htb
    rw [Table.values_mapValues] at hs ht
    obtain ⟨u, hu, rfl⟩ := List.mem_map.mp hs
    obtain ⟨v, hv, rfl⟩ := List.mem_map.mp ht
    rw [(hf u).2.2] at hsb
    rw [(hf v).2.2] at htb
    rw [c.bootname_unique u hu v hv b hsb htb]
  bootname_nonempty := by
    intro s hs
    rw [Table.values_mapValues] at hs
    obtain ⟨u, hu, rfl⟩ := List.mem_map.mp hs
    rw [(hf u).2.2]
    exact c.bootname_nonempty u hu
  bootname_plain := by
    intro s hs b hb
    rw [Table.values_mapValues] at hs
    obtain ⟨u, hu, rfl⟩ := List.mem_map.mp hs
    rw [(hf u).2.2] at hb
    exact c.bootname_plain u hu b hb
  child_no_bootname := by
    intro s hs hp
    rw [Table.values_mapValues] at hs
    obtain ⟨u, hu, rfl⟩ := List.mem_map.mp hs
    rw [(hf u).2.1] at hp
    rw [(hf u).2.2]
    exact c.child_no_bootname u hu hp
  parent_is_root := by
    intro s hs p hp
    rw [Table.values_mapValues] at hs
    obtain ⟨u, hu, rfl⟩ := List.mem_map.mp hs
    rw [(hf u).2.1] at hp
    obtain ⟨r, hr, hnone⟩ := c.parent_is_root u hu p hp
    exact ⟨f r, by rw [Table.lookup_mapValues, hr]; rfl, by rw [(hf r).2.1, hnone]⟩

variable (c : SlotConfig)

/-- In a slot configuration the root of a slot is the slot itself or its parent. -/
lemma rSlotGetParentRoot_of_root {s : RaucSlot} (hp : s.parent = none) :
    rSlotGetParentRoot c.slots s = s := by
  have hparent : parentOf c.slots s = none := by simp [parentOf, hp]
  unfold rSlotGetParentRoot
  cases c.slots.entries.length with
  | zero => rfl
  | succ n => simp [parentRootAux, hparent]

lemma rSlotGetParentRoot_of_child {s r : RaucSlot} {p : String} (hs : s ∈ c.slots.values)
    (hp : s.parent = some p) (hr : c.slots.lookup p = some r) :
      rSlotGetParentRoot c.slots s = r := by
  have hparent : parentOf c.slots s = some r := by simp [parentOf, hp, hr]
  obtain ⟨r', hr', hnone⟩ := c.parent_is_root s hs p hp
  obtain rfl := Option.some.inj (hr.symm.trans hr')
  have hroot : parentOf c.slots r = none := by simp [parentOf, hnone]
  unfold rSlotGetParentRoot
  cases hlen : c.slots.entries.length with
  | zero =>
    rw [List.length_eq_zero_iff] at hlen
    simp [Table.values, hlen] at hs
  | succ n =>
    rw [parentRootAux, hparent]
    cases n with
    | zero => rfl
    | succ m => simp [parentRootAux, hroot]

lemma rSlotGetParentRoot_mem {s : RaucSlot} (hs : s ∈ c.slots.values) :
    rSlotGetParentRoot c.slots s ∈ c.slots.values ∧
      (rSlotGetParentRoot c.slots s).parent = none := by
  cases hp : s.parent with
  | none =>
    rw [rSlotGetParentRoot_of_root c hp]
    exact ⟨hs, hp⟩
  | some p =>
    obtain ⟨r, hr, hnone⟩ := c.parent_is_root s hs p hp
    rw [rSlotGetParentRoot_of_child c hs hp hr]
    refine ⟨?_, hnone⟩
    rw [c.mem_values_iff, c.name_of_lookup hr]
    exact hr

end Update

section Select

/-- Whatever holds of the inactive slots of the class holds of the selected one. -/
lemma selectLoop_inactive (perSlot : Bool) (rootclass : String) (P : RaucSlot → Prop)
    (order : List RaucSlot)
    (hP : ∀ x ∈ order, x.state = .inactive → x.sclass = rootclass → P x)
    (candidate : Option (RaucSlot × DateTime))
    (hc : ∀ c, candidate = some c → P c.1)
    (s : RaucSlot) (h : selectLoop perSlot rootclass candidate order = .ok (some s)) : P s := by
  induction order generalizing candidate with
  | nil =>
    simp only [selectLoop, Except.ok.injEq, Option.map_eq_some_iff] at h
    obtain ⟨c, hcand, rfl⟩ := h
    exact hc c hcand
  | cons t rest ih =>
    have ihrest := ih (fun x hx => hP x (by simp [hx]))
    unfold selectLoop at h
    by_cases hstate : t.state ≠ .inactive
    · rw [if_pos hstate] at h
      exact ihrest candidate hc h
    · rw [if_neg hstate] at h
      rw [not_not] at hstate
      by_cases hclass : t.sclass ≠ rootclass
      · rw [if_pos hclass] at h
        exact ihrest candidate hc h
      · rw [if_neg hclass] at h
        rw [not_not] at hclass
        have hPt : P t := hP t (by simp) hstate hclass
        have ht : ∀ stamp c, some (t, stamp) = some c → P (c : RaucSlot × DateTime).1 := by
          rintro stamp c hcand
          rw [← Option.some.inj hcand]
          exact hPt
        split_ifs at h with hper
        · rw [← Option.some.inj (Except.ok.inj h)]
          exact hPt
        · cases hstatus : t.status with
          | none => simp [hstatus] at h
          | some status =>
            simp only [hstatus] at h
            split_ifs at h with hfailed
            · rw [← Option.some.inj (Except.ok.inj h)]
              exact hPt
            · cases hstamp : status.installedTimestamp with
              | none =>
                simp only [hstamp] at h
                rw [← Option.some.inj (Except.ok.inj h)]
                exact hPt
              | some stamp =>
                cases candidate with
                | none =>
                  simp only [hstamp] at h
                  exact ihrest _ (ht stamp) h
                | some c =>
                  simp only [hstamp] at h
                  split_ifs at h with hlt
                  · exact ihrest _ (ht stamp) h
                  · exact ihrest _ hc h

lemma selectRoots_cons {perSlot : Bool} {order : List RaucSlot} {rootclass : String}
    {classes : List String}
    {selected : List RaucSlot} (h : selectRoots perSlot order (rootclass :: classes) =
      .ok selected) :
    ∃ sel others, selectInactiveSlotClassMember perSlot order rootclass = .ok sel ∧
      selectRoots perSlot order classes = .ok others ∧ selected = sel.toList ++ others := by
  unfold selectRoots at h
  cases hsel : selectInactiveSlotClassMember perSlot order rootclass with
  | error e => simp [hsel, Bind.bind, Except.bind] at h
  | ok sel =>
    cases hrest : selectRoots perSlot order classes with
    | error e => simp [hsel, hrest, Bind.bind, Except.bind] at h
    | ok others =>
      simp only [hsel, hrest, Bind.bind, Except.bind, Pure.pure, Except.pure, Except.ok.injEq] at h
      exact ⟨sel, others, rfl, rfl, h.symm⟩

/-- What is selected is an inactive slot that was selected for its class. -/
lemma selectRoots_inactive (perSlot : Bool) (order : List RaucSlot) (classes : List String)
    (selected : List RaucSlot) (h : selectRoots perSlot order classes = .ok selected) :
    ∀ s ∈ selected, s ∈ order ∧ s.state = .inactive ∧ s.sclass ∈ classes ∧
      selectInactiveSlotClassMember perSlot order s.sclass = .ok (some s) := by
  induction classes generalizing selected with
  | nil =>
    simp only [selectRoots, Except.ok.injEq] at h
    subst h
    simp
  | cons rootclass rest ih =>
    obtain ⟨sel, others, hsel, hothers, rfl⟩ := selectRoots_cons h
    intro s hs
    rcases List.mem_append.mp hs with hs | hs
    · rw [Option.mem_toList] at hs
      rw [hs] at hsel
      obtain ⟨hin, hinactive, hclass⟩ := selectLoop_inactive perSlot rootclass
        (fun x => x ∈ order ∧ x.state = .inactive ∧ x.sclass = rootclass) order
        (fun x hx hi hc => ⟨hx, hi, hc⟩) none (by simp) s hsel
      subst hclass
      exact ⟨hin, hinactive, by simp, hsel⟩
    · obtain ⟨hin, hinactive, hclass, hsel'⟩ := ih others hothers s hs
      exact ⟨hin, hinactive, by simp [hclass], hsel'⟩

/-- Whatever holds of the slots below a selected root holds of every member of the group. -/
lemma collectGroup_all {P : RaucSlot → Prop} (slots : SlotTable) (selected order : List RaucSlot)
    (group : Table String RaucSlot)
    (horder : ∀ s ∈ order, rSlotListContains selected (rSlotGetParentRoot slots s) = true → P s)
    (hgroup : ∀ k t, group.lookup k = some t → P t) :
    ∀ k t, (collectGroup slots selected order group).lookup k = some t → P t := by
  induction order generalizing group with
  | nil => exact hgroup
  | cons s rest ih =>
    have hrest : ∀ t ∈ rest, rSlotListContains selected (rSlotGetParentRoot slots t) = true → P t :=
      fun t ht => horder t (by simp [ht])
    unfold collectGroup
    split_ifs with hs
    · apply ih _ hrest
      intro k t hk
      rw [Table.lookup_set] at hk
      split_ifs at hk with hclass
      · rw [← Option.some.inj hk]
        exact horder s (by simp) hs
      · exact hgroup k t hk
    · exact ih group hrest hgroup

lemma collectGroup_last (slots : SlotTable) (selected order : List RaucSlot)
    (group : Table String RaucSlot)
    (s : RaucSlot) (hs : rSlotListContains selected (rSlotGetParentRoot slots s) = true) :
    (collectGroup slots selected (order ++ [s]) group).lookup s.sclass = some s := by
  induction order generalizing group with
  | nil => simp [collectGroup, hs]
  | cons t rest ih =>
    rw [List.cons_append, collectGroup]
    split_ifs
    · exact ih _
    · exact ih _

end Select

section RootClasses

lemma mem_removeFast {x y : String} (hne : y ≠ x) (l : List String) (h : y ∈ l) :
    y ∈ removeFast x l := by
  unfold removeFast
  cases hi : l.idxOf? x with
  | none => exact h
  | some i =>
    induction l using List.reverseRecOn with
    | nil => exact absurd h List.not_mem_nil
    | append_singleton init z _ =>
      rw [List.getLast?_append_of_ne_nil _ (List.cons_ne_nil _ _)]
      simp only [List.getLast?_singleton]
      rw [List.idxOf?_eq_some_iff] at hi
      obtain ⟨hlt, hx, -⟩ := hi
      have hx' : (init ++ [z])[i]? = some x := by
        rw [List.getElem?_eq_getElem hlt, hx]
      by_cases hlast : i < init.length
      · rw [List.set_append_left _ _ hlast, List.dropLast_concat]
        rcases List.mem_append.mp h with h | h
        · obtain ⟨j, hj, hyj⟩ := List.getElem_of_mem h
          have hij : i ≠ j := by
            rintro rfl
            rw [List.getElem?_append_left hlast, List.getElem?_eq_getElem hlast, hyj] at hx'
            exact hne (Option.some.inj hx')
          refine List.mem_iff_getElem.mpr ⟨j, by simpa using hj, ?_⟩
          rw [List.getElem_set_ne hij, hyj]
        · rw [List.mem_singleton.mp h]
          exact List.mem_set hlast z
      · have hlen : i = init.length := by
          simp only [List.length_append, List.length_singleton] at hlt
          omega
        subst hlen
        rw [List.getElem?_append_right (le_refl _)] at hx'
        have hzx : z = x := by simpa using hx'
        rw [List.set_append_right _ _ (le_refl _), Nat.sub_self]
        simp only [List.set_cons_zero, List.dropLast_concat]
        rcases List.mem_append.mp h with h | h
        · exact h
        · exact absurd ((List.mem_singleton.mp h).trans hzx) hne

lemma mem_collectDistinct {x : String} (l acc : List String) (h : x ∈ acc ∨ x ∈ l) :
    x ∈ collectDistinct acc l := by
  induction l generalizing acc with
  | nil => simpa [collectDistinct] using h
  | cons y rest ih =>
    refine ih _ ?_
    by_cases hxy : x = y
    · exact Or.inl (by simp [hxy])
    · rcases h with h | h
      · exact Or.inl (List.mem_append_left _ (mem_removeFast hxy acc h))
      · exact Or.inr ((List.mem_cons.mp h).resolve_left hxy)

lemma mem_rSlotGetRootClasses {order : List RaucSlot} {s : RaucSlot} (hs : s ∈ order)
    (hp : s.parent = none) :
    s.sclass ∈ rSlotGetRootClasses order := by
  refine mem_collectDistinct _ _ (Or.inr (List.mem_map.mpr ⟨s, ?_, rfl⟩))
  exact List.mem_filter.mpr ⟨hs, by simp [hp]⟩

end RootClasses

section RunningGroup

variable (realpath : String → Option String)

/-- Nothing of the running system is a target: for all hash orders and slot statuses, no member of
the target group is the booted slot or shares its root. -/
def SparesRunningGroup (slots : SlotTable) (bootslot : String) : Prop :=
  ∀ (slotlist : List String) (order : List RaucSlot) (statuses : String → Option RaucSlotStatus)
    (perSlot : Bool) (states group : SlotTable) (b : RaucSlot),
    slotlist.Perm slots.keys →
    determineSlotStates realpath slotlist (some (withStatuses statuses slots)) (some bootslot) =
      .ok states →
    b ∈ states.values → b.state = .booted → order.Perm states.values →
    determineTargetInstallGroup perSlot order states = .ok group →
    ∀ t ∈ group.values, t ≠ b ∧ rSlotGetParentRoot states t ≠ rSlotGetParentRoot states b

/-- The configuration once the statuses are loaded and the booted slot is known. -/
def SlotConfig.running (c : SlotConfig) (statuses : String → Option RaucSlotStatus)
    (booted : RaucSlot) :
    SlotConfig :=
  (c.update (fun s => { s with status := statuses s.name }) (fun _ => ⟨rfl, rfl, rfl⟩)).update
    (fun s => { s with state := stateWhenBooted booted s }) (fun _ => ⟨rfl, rfl, rfl⟩)

/-- A slot with its status and its state. -/
def runningSlot (statuses : String → Option RaucSlotStatus) (booted s : RaucSlot) : RaucSlot :=
  { s with status := statuses s.name, state := stateWhenBooted booted s }

lemma SlotConfig.running_values (c : SlotConfig) (statuses : String → Option RaucSlotStatus)
    (booted : RaucSlot) :
    (c.running statuses booted).slots.values =
      c.slots.values.map (runningSlot statuses booted) := by
  simp only [SlotConfig.running, SlotConfig.update, Table.values_mapValues, List.map_map]
  rfl

lemma SlotConfig.running_lookup (c : SlotConfig) (statuses : String → Option RaucSlotStatus)
    (booted : RaucSlot)
    (k : String) :
    (c.running statuses booted).slots.lookup k =
      (c.slots.lookup k).map (runningSlot statuses booted) := by
  simp only [SlotConfig.running, SlotConfig.update, Table.lookup_mapValues, Option.map_map]
  rfl

/-- With a booted slot the states are those of the running configuration. -/
lemma determineSlotStates_booted (c : SlotConfig) (slotlist : List String)
    (statuses : String → Option RaucSlotStatus) (bootslot : String) (states : SlotTable)
    (b : RaucSlot)
    (h : determineSlotStates realpath slotlist (some (withStatuses statuses c.slots))
      (some bootslot) = .ok states)
    (hb : b ∈ states.values) (hstate : b.state = .booted) :
    ∃ booted ∈ c.slots.values, bootslotMatches realpath bootslot booted = true ∧
      states = (c.running statuses booted).slots ∧ b = runningSlot statuses booted booted := by
  unfold determineSlotStates at h
  simp only at h
  cases hfind : (slotlist.filterMap (withStatuses statuses c.slots).lookup).find?
      (bootslotMatches realpath bootslot) with
  | none =>
    simp only [hfind] at h
    split_ifs at h with hext
    obtain rfl := Except.ok.inj h
    rw [Table.values_mapValues] at hb
    obtain ⟨u, -, rfl⟩ := List.mem_map.mp hb
    exact absurd hstate (by simp)
  | some found =>
    simp only [hfind] at h
    obtain rfl := Except.ok.inj h
    have hmatch := List.find?_some hfind
    obtain ⟨k, -, hk⟩ := List.mem_filterMap.mp (List.mem_of_find?_eq_some hfind)
    rw [withStatuses, Table.lookup_mapValues] at hk
    obtain ⟨booted, hbooted, rfl⟩ := Option.map_eq_some_iff.mp hk
    have hmem : booted ∈ c.slots.values := by
      rw [c.mem_values_iff, c.name_of_lookup hbooted]
      exact hbooted
    refine ⟨booted, hmem, hmatch, rfl, ?_⟩
    change b ∈ (c.running statuses booted).slots.values at hb
    rw [SlotConfig.running_values] at hb
    obtain ⟨u, hu, rfl⟩ := List.mem_map.mp hb
    have hname : u.name = booted.name := by
      by_contra hne
      simp only [runningSlot, stateWhenBooted, hne, if_false] at hstate
      split_ifs at hstate
    rw [c.eq_of_name_eq hu hmem hname]

/-- When the booted slot is a root, no target lies below it. -/
lemma sparesRunningGroup_of_root (c : SlotConfig) (bootslot : String)
    (hroot : ∀ s ∈ c.slots.values, s.parent ≠ none → bootslotMatches realpath bootslot s = false) :
    SparesRunningGroup realpath c.slots bootslot := by
  intro slotlist order statuses perSlot states group b _ hstates hb hstate horder hgroup t ht
  obtain ⟨booted, hmem, hmatch, rfl, rfl⟩ :=
    determineSlotStates_booted realpath c slotlist statuses bootslot states b hstates hb hstate
  have hparent : booted.parent = none := by
    by_contra hno
    rw [hroot booted hmem hno] at hmatch
    exact absurd hmatch Bool.false_ne_true
  have hbroot : rSlotGetParentRoot (c.running statuses booted).slots
      (runningSlot statuses booted booted) =
      runningSlot statuses booted booted := rSlotGetParentRoot_of_root _ hparent
  unfold determineTargetInstallGroup at hgroup
  cases hsel : selectRoots perSlot order (rSlotGetRootClasses order) with
  | error e => simp [hsel, Bind.bind, Except.bind] at hgroup
  | ok selected =>
    simp only [hsel, Bind.bind, Except.bind, Pure.pure, Except.pure, Except.ok.injEq] at hgroup
    subst hgroup
    obtain ⟨⟨k, u⟩, he, rfl⟩ := List.mem_map.mp ht
    have hbelow := collectGroup_all (c.running statuses booted).slots selected order Table.empty
      (fun _ _ h => h)
      (by simp) k u ((Table.lookup_eq_some_iff _ _ _).mpr he)
    have hne : rSlotGetParentRoot (c.running statuses booted).slots u ≠ runningSlot statuses booted
        booted := by
      intro heq
      rw [heq] at hbelow
      obtain ⟨r, hr, hname⟩ := List.any_eq_true.mp hbelow
      obtain ⟨hin, hinactive, -, -⟩ := selectRoots_inactive perSlot order _ selected hsel r hr
      have hsame := (c.running statuses booted).eq_of_name_eq (horder.mem_iff.mp hin) hb
        (of_decide_eq_true hname)
      rw [hsame, hstate] at hinactive
      exact absurd hinactive (by decide)
    rw [hbroot]
    refine ⟨?_, hne⟩
    rintro rfl
    exact hne hbroot

/-- Any two elements of a list can be brought to its front and to its end. -/
lemma perm_first_last {l : List RaucSlot} {x y : RaucSlot} (hx : x ∈ l) (hy : y ∈ l) (hne : x ≠ y) :
    ∃ others, (x :: others ++ [y]).Perm l := by
  have hy' : y ∈ l.erase x := (List.mem_erase_of_ne hne.symm).mpr hy
  refine ⟨(l.erase x).erase y, ?_⟩
  calc (x :: (l.erase x).erase y ++ [y]).Perm (x :: y :: (l.erase x).erase y) := by
        rw [List.cons_append]
        exact List.Perm.cons x (List.perm_append_singleton y _)
    _ |>.Perm (x :: l.erase x) := List.Perm.cons x (List.perm_cons_erase hy').symm
    _ |>.Perm l := (List.perm_cons_erase hx).symm

/-- In per-slot mode the first inactive slot of the class is taken. -/
lemma selectInactive_first (s : RaucSlot) (rest : List RaucSlot) (hstate : s.state = .inactive) :
    selectInactiveSlotClassMember true (s :: rest) s.sclass = .ok (some s) := by
  simp [selectInactiveSlotClassMember, selectLoop, hstate]

/-- The selection fails only for a status that is missing. -/
lemma selectLoop_ok {perSlot : Bool} {order : List RaucSlot} (rootclass : String)
    (candidate : Option (RaucSlot × DateTime))
    (hstatus : perSlot = false → ∀ s ∈ order, s.status ≠ none) :
    ∃ r, selectLoop perSlot rootclass candidate order = .ok r := by
  induction order generalizing candidate with
  | nil => exact ⟨_, rfl⟩
  | cons t rest ih =>
    have ihrest := fun c => ih c (fun hper s hs => hstatus hper s (by simp [hs]))
    unfold selectLoop
    split_ifs with hstate hclass hper
    · exact ihrest candidate
    · exact ihrest candidate
    · exact ⟨_, rfl⟩
    · obtain ⟨status, hsome⟩ :=
        Option.ne_none_iff_exists'.mp (hstatus (by simpa using hper) t (by simp))
      rw [hsome]
      simp only
      split_ifs with hfailed
      · exact ⟨_, rfl⟩
      · cases status.installedTimestamp with
        | none => exact ⟨_, rfl⟩
        | some stamp =>
          cases candidate with
          | none => exact ihrest _
          | some c =>
            simp only
            split_ifs with holder
            · exact ihrest _
            · exact ihrest _

lemma selectRoots_ok (perSlot : Bool) (order : List RaucSlot) (classes : List String)
    (hstatus : perSlot = false → ∀ s ∈ order, s.status ≠ none) :
    ∃ selected, selectRoots perSlot order classes = .ok selected := by
  induction classes with
  | nil => exact ⟨[], rfl⟩
  | cons rootclass rest ih =>
    obtain ⟨others, hothers⟩ := ih
    obtain ⟨sel, hsel⟩ := selectLoop_ok rootclass none hstatus
    have hsel' : selectInactiveSlotClassMember perSlot order rootclass = .ok sel := hsel
    refine ⟨sel.toList ++ others, ?_⟩
    simp [selectRoots, hsel', hothers, Bind.bind, Except.bind, Pure.pure, Except.pure]

lemma mem_selectRoots {perSlot : Bool} {order : List RaucSlot} {classes : List String}
    {selected : List RaucSlot}
    (h : selectRoots perSlot order classes = .ok selected) {rootclass : String}
    (hclass : rootclass ∈ classes)
    {s : RaucSlot} (hs : selectInactiveSlotClassMember perSlot order rootclass = .ok (some s)) :
      s ∈ selected := by
  induction classes generalizing selected with
  | nil => exact absurd hclass List.not_mem_nil
  | cons c rest ih =>
    obtain ⟨sel, others, hsel, hothers, rfl⟩ := selectRoots_cons h
    rcases List.mem_cons.mp hclass with rfl | hclass
    · rw [hsel] at hs
      rw [Except.ok.inj hs]
      simp
    · exact List.mem_append_right _ (ih hothers hclass)

/-- When a child slot matches the boot slot, some order makes it a target itself. -/
lemma not_sparesRunningGroup_of_child (c : SlotConfig) (bootslot : String) (s : RaucSlot)
    (hs : s ∈ c.slots.values) (hparent : s.parent ≠ none)
    (hmatch : bootslotMatches realpath bootslot s = true) :
    ¬SparesRunningGroup realpath c.slots bootslot := by
  intro hspares
  obtain ⟨p, hp⟩ := Option.ne_none_iff_exists'.mp hparent
  obtain ⟨root, hroot, hnone⟩ := c.parent_is_root s hs p hp
  have hrootMem : root ∈ c.slots.values := by
    rw [c.mem_values_iff, c.name_of_lookup hroot]
    exact hroot
  have hne : root ≠ s := by
    rintro rfl
    exact hparent hnone
  have hname : root.name ≠ s.name := fun hname => hne (c.eq_of_name_eq hrootMem hs hname)
  -- the slot comes first among the keys, its root first and the slot itself last among the slots
  let statuses : String → Option RaucSlotStatus := fun _ => some {}
  let f := runningSlot statuses s
  let c' := c.running statuses s
  obtain ⟨others, hperm⟩ := perm_first_last hrootMem hs hne
  have hvalues : ((root :: others ++ [s]).map f).Perm c'.slots.values := by
    rw [SlotConfig.running_values]
    exact hperm.map f
  have hkeyMem : s.name ∈ c.slots.keys := by
    by_contra hno
    have hlookup := (c.mem_values_iff s).mp hs
    rw [(Table.lookup_eq_none_iff _ _).mpr hno] at hlookup
    exact absurd hlookup (by simp)
  have hstates : determineSlotStates realpath (s.name :: c.slots.keys.erase s.name)
      (some (withStatuses statuses c.slots)) (some bootslot) = .ok c'.slots := by
    have hlookup : (withStatuses statuses c.slots).lookup s.name =
        some { s with status := statuses s.name } := by
      rw [withStatuses, Table.lookup_mapValues, (c.mem_values_iff s).mp hs]
      rfl
    have hmatch' : bootslotMatches realpath bootslot { s with status := statuses s.name } = true :=
      hmatch
    have hfind :
        ((s.name :: c.slots.keys.erase s.name).filterMap
        (withStatuses statuses c.slots).lookup).find?
        (bootslotMatches realpath bootslot) = some { s with status := statuses s.name } := by
      rw [List.filterMap_cons_some hlookup, List.find?_cons_of_pos hmatch']
    simp only [determineSlotStates, hfind]
    rfl
  have hmemS : f s ∈ c'.slots.values := hvalues.mem_iff.mp (List.mem_map_of_mem (by simp))
  have hstateS : (f s).state = .booted := by simp [f, runningSlot, stateWhenBooted]
  have hstateRoot : (f root).state = .inactive := by
    simp [f, runningSlot, stateWhenBooted, hname, hnone]
  have hrootOf : rSlotGetParentRoot c'.slots (f s) = f root := by
    refine rSlotGetParentRoot_of_child c' hmemS hp ?_
    rw [SlotConfig.running_lookup, hroot]
    rfl
  obtain ⟨selected, hselected⟩ := selectRoots_ok true ((root :: others ++ [s]).map f)
    (rSlotGetRootClasses ((root :: others ++ [s]).map f)) (fun h => absurd h (by simp))
  have hrootSelected : f root ∈ selected := by
    apply mem_selectRoots hselected (mem_rSlotGetRootClasses (s := f root)
      (List.mem_map_of_mem (by simp)) hnone)
    exact selectInactive_first (f root) _ hstateRoot
  have hcontains : rSlotListContains selected (rSlotGetParentRoot c'.slots (f s)) = true := by
    rw [hrootOf]
    exact List.any_eq_true.mpr ⟨f root, hrootSelected, by simp⟩
  have hlast : (collectGroup c'.slots selected ((root :: others ++ [s]).map f) Table.empty).lookup
      (f s).sclass =
      some (f s) := by
    rw [List.map_append]
    exact collectGroup_last c'.slots selected _ Table.empty (f s) hcontains
  have hgroup : determineTargetInstallGroup true ((root :: others ++ [s]).map f) c'.slots =
      .ok (collectGroup c'.slots selected ((root :: others ++ [s]).map f) Table.empty) := by
    unfold determineTargetInstallGroup
    rw [hselected]
    rfl
  have htarget :
      f s ∈ (collectGroup c'.slots selected ((root :: others ++ [s]).map f) Table.empty).values :=
    List.mem_map.mpr ⟨_, (Table.lookup_eq_some_iff _ _ _).mp hlast, rfl⟩
  exact (hspares _ _ statuses true _ _ (f s) (List.perm_cons_erase hkeyMem).symm hstates hmemS
    hstateS hvalues hgroup
    (f s) htarget).1 rfl

/-- For every accepted slot configuration, the targets spare the running group exactly when no
slot with a parent can be taken for the booted one. -/
theorem sparesRunningGroup_iff (ctx : ParseContext) (filename : Option String)
    (system : SystemSection)
    (keyFile : KeyFile) (slots : SlotTable)
    (hparse : Prog.observe (parseSlots ctx filename system) keyFile = .value slots)
    (bootslot : String) :
    SparesRunningGroup realpath slots bootslot ↔
      ∀ s ∈ slots.values, s.parent ≠ none → bootslotMatches realpath bootslot s = false := by
  obtain ⟨c, rfl⟩ := parseSlots_slotConfig ctx filename system keyFile slots hparse
  constructor
  · intro hspares s hs hparent
    cases hmatch : bootslotMatches realpath bootslot s with
    | false => rfl
    | true =>
      exact absurd hspares (not_sparesRunningGroup_of_child realpath c bootslot s hs hparent hmatch)
  · exact sparesRunningGroup_of_root realpath c bootslot

end RunningGroup

section KernelAndRootfs

/-- A parse context with the table order as hash order. -/
def plainContext : ParseContext where
  cwd := "/"
  shellParseArgv := fun s => .ok (splitFields ' ' s)
  keyOrder := ⟨Table.keys, fun _ => List.Perm.refl _⟩
  iterOrder := ⟨Table.keys, fun _ => List.Perm.refl _⟩

lemma bootGroup_nodup (device bootname : String) :
    ([("device", device), ("bootname", bootname)].map Prod.fst).Nodup := by simp

/-- Two groups, each a bootable kernel slot with the root file system as its child. -/
def kernelRootfsFile : KeyFile :=
  ⟨[("slot.kernel.0", ⟨[("device", "/dev/sda1"), ("bootname", "A")], by decide⟩),
    ("slot.rootfs.0", ⟨[("device", "/dev/sda2"), ("parent", "kernel.0")], by decide⟩),
    ("slot.kernel.1", ⟨[("device", "/dev/sda3"), ("bootname", "B")], by decide⟩),
    ("slot.rootfs.1", ⟨[("device", "/dev/sda4"), ("parent", "kernel.1")], by decide⟩)], by decide⟩

def kernelRootfsSlots : SlotTable :=
  ⟨[("kernel.0", { name := "kernel.0", sclass := "kernel", device := "/dev/sda1",
                   bootname := some "A" }),
    ("rootfs.0", { name := "rootfs.0", sclass := "rootfs", device := "/dev/sda2",
                   parentName := some "kernel.0",
                   parent := some "kernel.0" }),
    ("kernel.1", { name := "kernel.1", sclass := "kernel", device := "/dev/sda3",
                   bootname := some "B" }),
    ("rootfs.1", { name := "rootfs.1", sclass := "rootfs", device := "/dev/sda4",
                   parentName := some "kernel.1",
                   parent := some "kernel.1" })], by decide⟩

lemma parseSlots_kernelRootfs :
    Prog.observe (parseSlots plainContext none {}) kernelRootfsFile = .value kernelRootfsSlots := by
  decide +kernel

/-- Booted by bootname, the running group is spared. -/
theorem sparesRunningGroup_kernelRootfs :
    SparesRunningGroup (fun _ => none) kernelRootfsSlots "A" :=
  (sparesRunningGroup_iff (fun _ => none) plainContext none {} kernelRootfsFile kernelRootfsSlots
    parseSlots_kernelRootfs "A").mpr (by decide)

def bootedRootfs : RaucSlot where
  name := "rootfs.0"
  sclass := "rootfs"
  device := "/dev/sda2"
  parentName := some "kernel.0"
  parent := some "kernel.0"
  state := .booted
  status := some {}

/-- Booted from the device of the root file system, which is a child slot, the running root file
system itself is a member of the target group. -/
theorem booted_child_is_target :
    ∃ states group b,
      Prog.observe (parseSlots plainContext none {}) kernelRootfsFile = .value kernelRootfsSlots ∧
      determineSlotStates (fun _ => none) kernelRootfsSlots.keys
        (some (withStatuses (fun _ => some {}) kernelRootfsSlots)) (some "/dev/sda2") = .ok states ∧
      b ∈ states.values ∧ b.state = .booted ∧
      determineTargetInstallGroup false states.values states = .ok group ∧ b ∈ group.values := by
  refine ⟨_, _, bootedRootfs, parseSlots_kernelRootfs, rfl, ?_, rfl, rfl, ?_⟩
  · decide
  · decide

end KernelAndRootfs

end RaucUpdate
