import RaucUpdate.Proofs.SlotStates

/-!
# What the target group holds

When `determine_target_install_group` finds a target for every root class with an inactive root slot
and for everything below it, whatever the hash order is.
-/

namespace RaucUpdate

open Library

section Distinct

lemma not_mem_removeFast {x : String} {l : List String} (h : l.Nodup) : (removeFast x l).Nodup ∧
    x ∉ removeFast x l := by
  unfold removeFast
  cases hi : l.idxOf? x with
  | none =>
    rw [List.idxOf?_eq_none_iff] at hi
    exact ⟨h, hi⟩
  | some i =>
    induction l using List.reverseRecOn with
    | nil => simp at hi
    | append_singleton init z _ =>
      rw [List.getLast?_append_of_ne_nil _ (List.cons_ne_nil _ _)]
      simp only [List.getLast?_singleton]
      rw [List.idxOf?_eq_some_iff] at hi
      obtain ⟨hlt, hx, -⟩ := hi
      obtain ⟨hinit, -, hdisjoint⟩ := List.nodup_append.mp h
      have hz : z ∉ init := fun hz => hdisjoint z hz z (by simp) rfl
      by_cases hlast : i < init.length
      · have hxi : init[i] = x := by rw [← hx, List.getElem_append_left hlast]
        rw [List.set_append_left _ _ hlast, List.dropLast_concat]
        refine ⟨hinit.set hz, fun hmem => ?_⟩
        obtain ⟨j, hj, hjx⟩ := List.getElem_of_mem hmem
        by_cases hij : i = j
        · subst hij
          rw [List.getElem_set_self] at hjx
          apply hz
          rw [hjx, ← hxi]
          exact List.getElem_mem hlast
        · rw [List.getElem_set_ne hij] at hjx
          have hlen : j < init.length := by simpa using hj
          exact hij ((hinit.getElem_inj_iff).mp (hxi.trans hjx.symm))
      · have hlen : i = init.length := by
          simp only [List.length_append, List.length_singleton] at hlt
          omega
        subst hlen
        rw [List.set_append_right _ _ (le_refl _), Nat.sub_self]
        simp only [List.set_cons_zero, List.dropLast_concat]
        refine ⟨hinit, fun hmem => hz ?_⟩
        have hzx : z = x := by simpa using hx
        rw [hzx]
        exact hmem

lemma nodup_collectDistinct (l acc : List String) (h : acc.Nodup) :
    (collectDistinct acc l).Nodup := by
  induction l generalizing acc with
  | nil => exact h
  | cons x rest ih =>
    obtain ⟨hnodup, hx⟩ := not_mem_removeFast (x := x) h
    apply ih
    exact List.Nodup.append hnodup (List.nodup_singleton x) (by simpa using hx)

end Distinct

section Collect

variable (slots : SlotTable) (selected : List RaucSlot)

/-- What is in the group is there under its class, below a selected slot. -/
lemma collectGroup_mem {order : List RaucSlot} {group : Table String RaucSlot} {k : String}
    {t : RaucSlot}
    (h : (collectGroup slots selected order group).lookup k = some t) :
    (t ∈ order ∧ t.sclass = k ∧ rSlotListContains selected (rSlotGetParentRoot slots t) = true) ∨
      group.lookup k = some t := by
  induction order generalizing group with
  | nil => exact .inr h
  | cons s rest ih =>
    unfold collectGroup at h
    split_ifs at h with hs
    · rcases ih h with ⟨hin, hclass, hbelow⟩ | hgroup
      · exact .inl ⟨by simp [hin], hclass, hbelow⟩
      · rw [Table.lookup_set] at hgroup
        split_ifs at hgroup with hclass
        · obtain rfl := Option.some.inj hgroup
          exact .inl ⟨by simp, hclass, hs⟩
        · exact .inr hgroup
    · rcases ih h with ⟨hin, hclass, hbelow⟩ | hgroup
      · exact .inl ⟨by simp [hin], hclass, hbelow⟩
      · exact .inr hgroup

/-- The class of every slot below a selected slot is in the group. -/
lemma collectGroup_covers {order : List RaucSlot} {group : Table String RaucSlot} {k : String}
    (h : (∃ s ∈ order, s.sclass = k ∧ rSlotListContains selected (rSlotGetParentRoot slots s) =
      true) ∨
      group.lookup k ≠ none) : (collectGroup slots selected order group).lookup k ≠ none := by
  induction order generalizing group with
  | nil =>
    rcases h with ⟨s, hs, -⟩ | h
    · exact absurd hs List.not_mem_nil
    · exact h
  | cons t rest ih =>
    unfold collectGroup
    split_ifs with ht
    · apply ih
      by_cases hk : t.sclass = k
      · exact .inr (by simp [hk])
      · rcases h with ⟨s, hs, hclass, hbelow⟩ | h
        · rcases List.mem_cons.mp hs with rfl | hs
          · exact absurd hclass hk
          · exact .inl ⟨s, hs, hclass, hbelow⟩
        · exact .inr (by simpa [hk] using h)
    · apply ih
      rcases h with ⟨s, hs, hclass, hbelow⟩ | h
      · rcases List.mem_cons.mp hs with rfl | hs
        · exact absurd hbelow ht
        · exact .inl ⟨s, hs, hclass, hbelow⟩
      · exact .inr h

end Collect

section Selection

variable {perSlot : Bool} {order : List RaucSlot}

/-- If there is an inactive slot of the class and the statuses are loaded, one is selected. -/
lemma selectLoop_some (rootclass : String) (candidate : Option (RaucSlot × DateTime))
    (hstatus : perSlot = false → ∀ s ∈ order, s.status ≠ none)
    (h : (∃ s ∈ order, s.state = .inactive ∧ s.sclass = rootclass) ∨ candidate ≠ none) :
    ∃ s, selectLoop perSlot rootclass candidate order = .ok (some s) := by
  induction order generalizing candidate with
  | nil =>
    rcases h with ⟨s, hs, -⟩ | h
    · exact absurd hs List.not_mem_nil
    · obtain ⟨c, rfl⟩ := Option.ne_none_iff_exists'.mp h
      exact ⟨c.1, rfl⟩
  | cons t rest ih =>
    have ihrest := fun c => ih c (fun hper s hs => hstatus hper s (by simp [hs]))
    have hpass : ¬ (t.state = .inactive ∧ t.sclass = rootclass) →
        (∃ s ∈ rest, s.state = .inactive ∧ s.sclass = rootclass) ∨ candidate ≠ none := by
      intro hno
      rcases h with ⟨s, hs, hfits⟩ | h
      · rcases List.mem_cons.mp hs with rfl | hs
        · exact absurd hfits hno
        · exact .inl ⟨s, hs, hfits⟩
      · exact .inr h
    unfold selectLoop
    split_ifs with hstate hclass hper
    · exact ihrest candidate (hpass (fun hfits => hstate hfits.1))
    · exact ihrest candidate (hpass (fun hfits => hclass hfits.2))
    · exact ⟨t, rfl⟩
    · obtain ⟨status, hsome⟩ :=
        Option.ne_none_iff_exists'.mp (hstatus (by simpa using hper) t (by simp))
      rw [hsome]
      simp only
      split_ifs with hfailed
      · exact ⟨t, rfl⟩
      · cases status.installedTimestamp with
        | none => exact ⟨t, rfl⟩
        | some stamp =>
          cases candidate with
          | none => exact ihrest _ (.inr (by simp))
          | some c =>
            simp only
            split_ifs with holder
            · exact ihrest _ (.inr (by simp))
            · exact ihrest _ (.inr (by simp))

/-- The one selected slot of a class. -/
lemma filter_selectRoots {classes : List String} {selected : List RaucSlot}
    (h : selectRoots perSlot order classes = .ok selected) (hnodup : classes.Nodup)
    {rootclass : String}
    {sel : Option RaucSlot} (hsel : selectInactiveSlotClassMember perSlot order rootclass =
      .ok sel) :
    selected.filter (fun s => s.sclass = rootclass) = if rootclass ∈ classes then sel.toList
      else [] := by
  induction classes generalizing selected with
  | nil =>
    obtain rfl := Except.ok.inj h
    rfl
  | cons c rest ih =>
    obtain ⟨sel', others, hsel', hothers, rfl⟩ := selectRoots_cons h
    obtain ⟨hc, hrest⟩ := List.nodup_cons.mp hnodup
    have hclass : ∀ s ∈ sel'.toList, s.sclass = c := by
      intro s hs
      rw [Option.mem_toList] at hs
      rw [hs] at hsel'
      exact selectLoop_inactive perSlot c (fun x => x.sclass = c) order (fun x _ _ hx => hx) none
        (by simp) s hsel'
    rw [List.filter_append, ih hothers hrest]
    by_cases hsame : rootclass = c
    · subst hsame
      rw [hsel] at hsel'
      obtain rfl := Except.ok.inj hsel'
      rw [if_neg hc, if_pos (by simp), List.append_nil, List.filter_eq_self]
      exact fun s hs => by simp [hclass s hs]
    · have hnone : sel'.toList.filter (fun s => decide (s.sclass = rootclass)) = [] := by
        rw [List.filter_eq_nil_iff]
        intro s hs
        simp [hclass s hs, Ne.symm hsame]
      rw [hnone, List.nil_append]
      simp [hsame]

end Selection

section Complete

variable (states : SlotTable)

def InactiveRoot (r : RaucSlot) : Prop := r ∈ states.values ∧ r.parent = none ∧ r.state = .inactive

def ChildOf (r x : RaucSlot) : Prop := x ∈ states.values ∧ x.parent = some r.name

instance (r : RaucSlot) : Decidable (InactiveRoot states r) := inferInstanceAs (Decidable (_ ∧ _))

instance (r x : RaucSlot) : Decidable (ChildOf states r x) := inferInstanceAs (Decidable (_ ∧ _))

/-- Exactly one inactive root slot of the class is selected, and the group has it and a child of it
for every class below it. -/
def RootTarget (perSlot : Bool) (order : List RaucSlot) (group : Table String RaucSlot)
    (rootclass : String) : Prop :=
  ∃ selected r, selectRoots perSlot order (rSlotGetRootClasses order) = .ok selected ∧
    selected.filter (fun s => s.sclass = rootclass) = [r] ∧ InactiveRoot states r ∧
    group.lookup rootclass = some r ∧
    ∀ x, ChildOf states r x → ∃ t, group.lookup x.sclass = some t ∧ ChildOf states r t

/-- For every hash order there is a group with a target for every root class that has an inactive
root slot, and the orders agree on the classes that have a target. With the shared status file the
statuses are loaded. -/
def GroupCompleteWith (perSlot : Bool) : Prop :=
  (perSlot = false → ∀ s ∈ states.values, s.status ≠ none) →
    (∀ order : List RaucSlot, order.Perm states.values → ∃ group,
      determineTargetInstallGroup perSlot order states = .ok group ∧
      ∀ r, InactiveRoot states r → RootTarget states perSlot order group r.sclass) ∧
    ∀ (order order' : List RaucSlot) (group group' : Table String RaucSlot),
      order.Perm states.values →
      order'.Perm states.values → determineTargetInstallGroup perSlot order states = .ok group →
      determineTargetInstallGroup perSlot order' states = .ok group' → ∀ k, group.contains k =
        group'.contains k

/-- The group is complete with status files for each slot and with the shared one. -/
def GroupComplete : Prop := ∀ perSlot : Bool, GroupCompleteWith states perSlot

/-- The classes below the inactive roots: none is that of an inactive root, inactive roots of
different classes have different ones, and those of the same class have the same ones. -/
structure ClassesApart : Prop where
  roots : ∀ r q x, InactiveRoot states r → InactiveRoot states q → ChildOf states q x →
    x.sclass ≠ r.sclass
  children : ∀ r q x y, InactiveRoot states r → InactiveRoot states q → r.sclass ≠ q.sclass →
    ChildOf states r x → ChildOf states q y → x.sclass ≠ y.sclass
  alike : ∀ r q x, InactiveRoot states r → InactiveRoot states q → r.sclass = q.sclass →
    ChildOf states r x →
    ∃ y, ChildOf states q y ∧ y.sclass = x.sclass

end Complete

section Groups

variable (c : SlotConfig)

/-- A slot is inactive only below an inactive root. -/
def RootsFit : Prop :=
  ∀ s ∈ c.slots.values, s.state = .inactive → ∀ p r, s.parent = some p → c.slots.lookup p =
    some r → r.state = .inactive

variable {c} {perSlot : Bool} {order selected : List RaucSlot} {group : Table String RaucSlot}

lemma determineTargetInstallGroup_ok {slots : SlotTable}
    (h : determineTargetInstallGroup perSlot order slots = .ok group) :
    ∃ selected, selectRoots perSlot order (rSlotGetRootClasses order) = .ok selected ∧
      group = collectGroup slots selected order Table.empty := by
  unfold determineTargetInstallGroup at h
  cases hsel : selectRoots perSlot order (rSlotGetRootClasses order) with
  | error e => simp [hsel, Bind.bind, Except.bind] at h
  | ok selected =>
    simp only [hsel, Bind.bind, Except.bind, Pure.pure, Except.pure, Except.ok.injEq] at h
    exact ⟨selected, rfl, h.symm⟩

lemma determineTargetInstallGroup_of_selected {slots : SlotTable}
    (h : selectRoots perSlot order (rSlotGetRootClasses order) = .ok selected) :
    determineTargetInstallGroup perSlot order slots =
      .ok (collectGroup slots selected order Table.empty) := by
  unfold determineTargetInstallGroup
  rw [h]
  rfl

lemma lookup_root {r : RaucSlot} (hr : InactiveRoot c.slots r) : c.slots.lookup r.name = some r :=
  (c.mem_values_iff r).mp hr.1

/-- The parent of a child slot is the root it has. -/
lemma root_of_child {x : RaucSlot} (hx : x ∈ c.slots.values) {p : String} (hp : x.parent = some p) :
    ∃ q, q ∈ c.slots.values ∧ q.parent = none ∧ ChildOf c.slots q x ∧ c.slots.lookup p =
      some q := by
  obtain ⟨q, hq, hnone⟩ := c.parent_is_root x hx p hp
  have hname := c.name_of_lookup hq
  refine ⟨q, ?_, hnone, ⟨hx, hname ▸ hp⟩, hq⟩
  rw [c.mem_values_iff, hname]
  exact hq

section Below

variable (horder : order.Perm c.slots.values)
  (hselected : selectRoots perSlot order (rSlotGetRootClasses order) = .ok selected)
include horder hselected

/-- A slot below a selected one is an inactive root or a child of one. -/
lemma below_cases {t : RaucSlot} (ht : t ∈ c.slots.values)
    (hbelow : rSlotListContains selected (rSlotGetParentRoot c.slots t) = true) :
    ∃ q ∈ selected, InactiveRoot c.slots q ∧ (t = q ∨ ChildOf c.slots q t) := by
  obtain ⟨q, hq, hname⟩ := List.any_eq_true.mp hbelow
  obtain ⟨hin, hinactive, -, -⟩ := selectRoots_inactive perSlot order _ selected hselected q hq
  have hvalues := horder.mem_iff.mp hin
  obtain ⟨hmem, hnone⟩ := rSlotGetParentRoot_mem c ht
  have heq := c.eq_of_name_eq hvalues hmem (of_decide_eq_true hname)
  refine ⟨q, hq, ⟨hvalues, heq ▸ hnone, hinactive⟩, ?_⟩
  cases hp : t.parent with
  | none =>
    rw [rSlotGetParentRoot_of_root c hp] at heq
    exact .inl heq.symm
  | some p =>
    obtain ⟨r, -, -, hchild, hlookup⟩ := root_of_child ht hp
    rw [rSlotGetParentRoot_of_child c ht hp hlookup] at heq
    exact .inr (heq ▸ hchild)

omit horder hselected in
lemma contains_below {q t : RaucSlot} (hq : q ∈ selected) (hroot : InactiveRoot c.slots q)
    (ht : t = q ∨ ChildOf c.slots q t) :
      rSlotListContains selected (rSlotGetParentRoot c.slots t) = true := by
  have hparent : rSlotGetParentRoot c.slots t = q := by
    rcases ht with rfl | ht
    · exact rSlotGetParentRoot_of_root c hroot.2.1
    · exact rSlotGetParentRoot_of_child c ht.1 ht.2 (lookup_root hroot)
  rw [hparent]
  exact List.any_eq_true.mpr ⟨q, hq, by simp⟩

/-- A class is in the group if and only if a slot of it lies below a selected one. -/
lemma lookup_group_ne_none (k : String) :
    (collectGroup c.slots selected order Table.empty).lookup k ≠ none ↔
      ∃ t q, t.sclass = k ∧ q ∈ selected ∧ InactiveRoot c.slots q ∧
        (t = q ∨ ChildOf c.slots q t) := by
  constructor
  · intro h
    obtain ⟨t, ht⟩ := Option.ne_none_iff_exists'.mp h
    rcases collectGroup_mem c.slots selected ht with ⟨hin, hclass, hbelow⟩ | hempty
    · obtain ⟨q, hq, hroot, hcases⟩ := below_cases horder hselected (horder.mem_iff.mp hin) hbelow
      exact ⟨t, q, hclass, hq, hroot, hcases⟩
    · exact absurd hempty (by simp)
  · rintro ⟨t, q, hclass, hq, hroot, hcases⟩
    apply collectGroup_covers
    have hmem : t ∈ c.slots.values := by
      rcases hcases with rfl | hchild
      · exact hroot.1
      · exact hchild.1
    exact .inl ⟨t, horder.mem_iff.mpr hmem, hclass, contains_below hq hroot hcases⟩

/-- What the group has for a class lies below a selected slot. -/
lemma lookup_group_cases {k : String} {t : RaucSlot}
    (h : (collectGroup c.slots selected order Table.empty).lookup k = some t) :
    t.sclass = k ∧ ∃ q ∈ selected, InactiveRoot c.slots q ∧ (t = q ∨ ChildOf c.slots q t) := by
  rcases collectGroup_mem c.slots selected h with ⟨hin, hclass, hbelow⟩ | hempty
  · exact ⟨hclass, below_cases horder hselected (horder.mem_iff.mp hin) hbelow⟩
  · exact absurd hempty (by simp)

omit horder in
/-- Two selected slots of one class are the same. -/
lemma selected_unique {q q' : RaucSlot} (hq : q ∈ selected) (hq' : q' ∈ selected)
    (hclass : q.sclass = q'.sclass) :
    q = q' := by
  obtain ⟨-, -, -, hsel⟩ := selectRoots_inactive perSlot order _ selected hselected q hq
  obtain ⟨-, -, -, hsel'⟩ := selectRoots_inactive perSlot order _ selected hselected q' hq'
  rw [hclass, hsel'] at hsel
  exact (Option.some.inj (Except.ok.inj hsel)).symm

/-- A root class with an inactive root slot has a selected member. -/
lemma selected_of_root (hstatus : perSlot = false → ∀ s ∈ c.slots.values, s.status ≠ none)
    {r : RaucSlot}
    (hr : InactiveRoot c.slots r) : ∃ s ∈ selected, s.sclass = r.sclass ∧
      selectInactiveSlotClassMember perSlot order r.sclass = .ok (some s) ∧
        r.sclass ∈ rSlotGetRootClasses order := by
  have hin := horder.mem_iff.mpr hr.1
  have hclass := mem_rSlotGetRootClasses hin hr.2.1
  obtain ⟨s, hs⟩ :=
    selectLoop_some r.sclass none (fun hper s hs => hstatus hper s (horder.mem_iff.mp hs))
    (.inl ⟨r, hin, hr.2.2, rfl⟩)
  have hmem := mem_selectRoots hselected hclass hs
  refine ⟨s, hmem, ?_, hs, hclass⟩
  exact selectLoop_inactive perSlot r.sclass (fun x => x.sclass = r.sclass) order (fun x _ _ hx =>
    hx) none (by simp) s hs

/-- With the classes apart, what is selected for a class with an inactive root is such a root. -/
lemma selected_root (hfit : RootsFit c) (hapart : ClassesApart c.slots) {s r : RaucSlot}
    (hs : s ∈ selected)
    (hr : InactiveRoot c.slots r) (hclass : s.sclass = r.sclass) : InactiveRoot c.slots s := by
  obtain ⟨hin, hinactive, -, -⟩ := selectRoots_inactive perSlot order _ selected hselected s hs
  have hvalues := horder.mem_iff.mp hin
  cases hp : s.parent with
  | none => exact ⟨hvalues, hp, hinactive⟩
  | some p =>
    obtain ⟨q, hq, hnone, hchild, hlookup⟩ := root_of_child hvalues hp
    exact absurd hclass (hapart.roots r q s hr ⟨hq, hnone, hfit s hvalues hinactive p q hp hlookup⟩
      hchild)

/-- The target of a root class with an inactive root slot. -/
lemma rootTarget_of_apart (hfit : RootsFit c) (hapart : ClassesApart c.slots)
    (hstatus : perSlot = false → ∀ s ∈ c.slots.values, s.status ≠ none) {r : RaucSlot}
    (hr : InactiveRoot c.slots r) :
    RootTarget c.slots perSlot order (collectGroup c.slots selected order Table.empty)
      r.sclass := by
  obtain ⟨s, hs, hclass, hselect, hmem⟩ := selected_of_root horder hselected hstatus hr
  have hroot := selected_root horder hselected hfit hapart hs hr hclass
  refine ⟨selected, s, hselected, ?_, hroot, ?_, ?_⟩
  · have hnodup : (rSlotGetRootClasses order).Nodup := nodup_collectDistinct _ _ List.nodup_nil
    rw [filter_selectRoots hselected hnodup hselect, if_pos hmem]
    rfl
  · have hne := (lookup_group_ne_none horder hselected r.sclass).mpr ⟨s, s, hclass, hs,
      hroot, .inl rfl⟩
    obtain ⟨t, ht⟩ := Option.ne_none_iff_exists'.mp hne
    obtain ⟨htclass, q, hq, hqroot, rfl | hchild⟩ := lookup_group_cases horder hselected ht
    · rw [ht, selected_unique hselected hq hs (htclass.trans hclass.symm)]
    · exact absurd htclass (hapart.roots r q t hr hqroot hchild)
  · intro x hx
    have hne := (lookup_group_ne_none horder hselected x.sclass).mpr ⟨x, s, rfl, hs, hroot, .inr hx⟩
    obtain ⟨t, ht⟩ := Option.ne_none_iff_exists'.mp hne
    obtain ⟨htclass, q, hq, hqroot, rfl | hchild⟩ := lookup_group_cases horder hselected ht
    · exact absurd htclass.symm (hapart.roots t s x hqroot hroot hx)
    · refine ⟨t, ht, ?_⟩
      by_cases hsame : s.sclass = q.sclass
      · rw [selected_unique hselected hs hq hsame]
        exact hchild
      · exact absurd htclass.symm (hapart.children s q x t hroot hqroot hsame hx hchild)

end Below

/-- With the classes apart, the classes of the group do not depend on the order. -/
lemma lookup_group_of_apart (hfit : RootsFit c) (hapart : ClassesApart c.slots)
    (hstatus : perSlot = false → ∀ s ∈ c.slots.values, s.status ≠ none)
    {order' selected' : List RaucSlot}
    (horder : order.Perm c.slots.values) (horder' : order'.Perm c.slots.values)
    (hselected : selectRoots perSlot order (rSlotGetRootClasses order) = .ok selected)
    (hselected' : selectRoots perSlot order' (rSlotGetRootClasses order') = .ok selected')
    {k : String}
    (h : (collectGroup c.slots selected order Table.empty).lookup k ≠ none) :
    (collectGroup c.slots selected' order' Table.empty).lookup k ≠ none := by
  obtain ⟨t, q, hclass, -, hroot, hcases⟩ := (lookup_group_ne_none horder hselected k).mp h
  obtain ⟨s, hs, hsclass, -, -⟩ := selected_of_root horder' hselected' hstatus hroot
  have hsroot := selected_root horder' hselected' hfit hapart hs hroot hsclass
  apply (lookup_group_ne_none horder' hselected' k).mpr
  rcases hcases with rfl | hchild
  · exact ⟨s, s, hsclass.trans hclass, hs, hsroot, .inl rfl⟩
  · obtain ⟨y, hy, hyclass⟩ := hapart.alike q s t hroot hsroot hsclass.symm hchild
    exact ⟨y, s, hyclass.trans hclass, hs, hsroot, .inr hy⟩

/-- With either kind of status files it is enough that the classes are apart. -/
lemma groupCompleteWith_of_apart (hfit : RootsFit c) (hapart : ClassesApart c.slots)
    (perSlot : Bool) :
    GroupCompleteWith c.slots perSlot := by
  intro hstatus
  constructor
  · intro order horder
    obtain ⟨selected, hselected⟩ := selectRoots_ok perSlot order (rSlotGetRootClasses order)
      (fun hper s hs => hstatus hper s (horder.mem_iff.mp hs))
    refine ⟨_, determineTargetInstallGroup_of_selected hselected, fun r hr => ?_⟩
    exact rootTarget_of_apart horder hselected hfit hapart hstatus hr
  · intro order order' group group' horder horder' hgroup hgroup' k
    obtain ⟨selected, hselected, rfl⟩ := determineTargetInstallGroup_ok hgroup
    obtain ⟨selected', hselected', rfl⟩ := determineTargetInstallGroup_ok hgroup'
    rw [Bool.eq_iff_iff]
    unfold Table.contains
    rw [Option.isSome_iff_ne_none, Option.isSome_iff_ne_none]
    exact ⟨lookup_group_of_apart hfit hapart hstatus horder horder' hselected hselected',
      lookup_group_of_apart hfit hapart hstatus horder' horder hselected' hselected⟩

/-- In per-slot mode a root that comes first is selected. -/
lemma mem_selected_first {r : RaucSlot} {rest : List RaucSlot} (hr : InactiveRoot c.slots r)
    (hselected : selectRoots true (r :: rest) (rSlotGetRootClasses (r :: rest)) = .ok selected) :
      r ∈ selected :=
  mem_selectRoots hselected (mem_rSlotGetRootClasses (by simp) hr.2.1)
    (selectInactive_first r rest hr.2.2)

lemma groupComplete_perSlot (h : GroupCompleteWith c.slots true) {order : List RaucSlot}
    (horder : order.Perm c.slots.values) :
    ∃ selected, selectRoots true order (rSlotGetRootClasses order) = .ok selected ∧
      ∀ r, InactiveRoot c.slots r →
      RootTarget c.slots true order (collectGroup c.slots selected order Table.empty) r.sclass := by
  obtain ⟨group, hgroup, htargets⟩ := (h (by simp)).1 order horder
  obtain ⟨selected, hselected, rfl⟩ := determineTargetInstallGroup_ok hgroup
  exact ⟨selected, hselected, htargets⟩

lemma ChildOf.ne_root {q x r : RaucSlot} (hx : ChildOf c.slots q x) (hr : InactiveRoot c.slots r) :
    r ≠ x := by
  rintro rfl
  exact absurd (hr.2.1.symm.trans hx.2) (by simp)

/-- A child whose class is that of an inactive root takes the place of the root when it comes
last. -/
lemma GroupCompleteWith.roots (h : GroupCompleteWith c.slots true) {r q x : RaucSlot}
    (hr : InactiveRoot c.slots r)
    (hq : InactiveRoot c.slots q) (hx : ChildOf c.slots q x) : x.sclass ≠ r.sclass := by
  intro hclass
  obtain ⟨others, horder⟩ := perm_first_last hq.1 hx.1 (hx.ne_root hq)
  obtain ⟨selected, hselected, htargets⟩ := groupComplete_perSlot h horder
  have hmem : q ∈ selected := mem_selected_first hq hselected
  obtain ⟨_, s, -, -, hs, hlookup, -⟩ := htargets r hr
  have hlast := collectGroup_last c.slots selected (q :: others) Table.empty x
    (contains_below hmem hq (.inr hx))
  rw [hclass, hlookup] at hlast
  exact hx.ne_root hs (Option.some.inj hlast)

/-- Of two children of one class below roots of different classes, the one that comes last takes the
place of the other. -/
lemma GroupCompleteWith.children (h : GroupCompleteWith c.slots true) {r q x y : RaucSlot}
    (hr : InactiveRoot c.slots r)
    (hq : InactiveRoot c.slots q) (hne : r.sclass ≠ q.sclass) (hx : ChildOf c.slots r x)
    (hy : ChildOf c.slots q y) :
    x.sclass ≠ y.sclass := by
  intro hclass
  have hrq : r ≠ q := fun heq => hne (heq ▸ rfl)
  obtain ⟨others, hperm⟩ := perm_first_last (l := c.slots.values.erase r)
    ((List.mem_erase_of_ne hrq.symm).mpr hq.1) ((List.mem_erase_of_ne (hy.ne_root hr).symm).mpr
      hy.1) (hy.ne_root hq)
  have horder : (r :: (q :: others ++ [y])).Perm c.slots.values :=
    (hperm.cons r).trans (List.perm_cons_erase hr.1).symm
  obtain ⟨selected, hselected, htargets⟩ := groupComplete_perSlot h horder
  have hrmem : r ∈ selected := mem_selected_first hr hselected
  have hqmem : q ∈ selected := by
    apply mem_selectRoots hselected (mem_rSlotGetRootClasses (s := q) (by simp) hq.2.1)
    simp [selectInactiveSlotClassMember, selectLoop, hr.2.2, hne, hq.2.2]
  obtain ⟨_, s, hselected', hfilter, hs, hlookup, hchildren⟩ := htargets r hr
  -- the selected slot of the class is the first one
  have hsr : s = r := by
    obtain rfl := Except.ok.inj (hselected.symm.trans hselected')
    have hmem : r ∈ selected.filter (fun t => t.sclass = r.sclass) := by simp [hrmem]
    rw [hfilter, List.mem_singleton] at hmem
    exact hmem.symm
  subst hsr
  obtain ⟨t, ht, hchild⟩ := hchildren x hx
  have hlast := collectGroup_last c.slots selected (s :: q :: others) Table.empty y
    (contains_below hqmem hq (.inr hy))
  rw [← hclass] at hlast
  obtain rfl := Option.some.inj (ht.symm.trans hlast)
  have hname : s.name = q.name := Option.some.inj (hchild.2.symm.trans hy.2)
  exact hrq (c.eq_of_name_eq hr.1 hq.1 hname)

/-- A class that only one of two alike roots has is in the group for some orders only. -/
lemma GroupCompleteWith.alike (h : GroupCompleteWith c.slots true) {r q x : RaucSlot}
    (hr : InactiveRoot c.slots r)
    (hq : InactiveRoot c.slots q) (hsame : r.sclass = q.sclass) (hx : ChildOf c.slots r x) :
    ∃ y, ChildOf c.slots q y ∧ y.sclass = x.sclass := by
  have horder : (r :: c.slots.values.erase r).Perm c.slots.values :=
    (List.perm_cons_erase hr.1).symm
  have horder' : (q :: c.slots.values.erase q).Perm c.slots.values :=
    (List.perm_cons_erase hq.1).symm
  obtain ⟨selected, hselected, -⟩ := groupComplete_perSlot h horder
  obtain ⟨selected', hselected', -⟩ := groupComplete_perSlot h horder'
  have hmapped := (lookup_group_ne_none horder hselected x.sclass).mpr
    ⟨x, r, rfl, mem_selected_first hr hselected, hr, .inr hx⟩
  have hcontains :=
    (h (by simp)).2 _ _ _ _ horder horder' (determineTargetInstallGroup_of_selected hselected)
    (determineTargetInstallGroup_of_selected hselected') x.sclass
  rw [Bool.eq_iff_iff] at hcontains
  unfold Table.contains at hcontains
  rw [Option.isSome_iff_ne_none, Option.isSome_iff_ne_none] at hcontains
  obtain ⟨t, q', htclass, hq', hqroot, rfl | hchild⟩ :=
    (lookup_group_ne_none horder' hselected' x.sclass).mp (hcontains.mp hmapped)
  · exact absurd htclass.symm (h.roots hqroot hr hx)
  · by_cases hclass : q.sclass = q'.sclass
    · rw [selected_unique hselected' (mem_selected_first hq hselected') hq' hclass]
      exact ⟨t, hchild, htclass⟩
    · exact absurd htclass.symm (h.children hr hqroot (hsame ▸ hclass) hx hchild)

/-- With a status file for each slot it is also necessary. -/
lemma groupCompleteWith_perSlot_iff (hfit : RootsFit c) : GroupCompleteWith c.slots true ↔
    ClassesApart c.slots := by
  constructor
  · intro h
    exact ⟨fun _ _ _ hr hq hx => h.roots hr hq hx, fun _ _ _ _ hr hq hne hx hy =>
      h.children hr hq hne hx hy,
      fun _ _ _ hr hq hsame hx => h.alike hr hq hsame hx⟩
  · exact fun hapart => groupCompleteWith_of_apart hfit hapart true

lemma groupComplete_iff (hfit : RootsFit c) : GroupComplete c.slots ↔ ClassesApart c.slots := by
  constructor
  · exact fun h => (groupCompleteWith_perSlot_iff hfit).mp (h true)
  · exact groupCompleteWith_of_apart hfit

end Groups

section Determined

variable (realpath : String → Option String)

/-- The states are given to the slots of a configuration, and they fit its roots. -/
lemma determineSlotStates_fit (c : SlotConfig) (slotlist : List String)
    (statuses : String → Option RaucSlotStatus)
    (bootslot : String) (states : SlotTable)
    (h : determineSlotStates realpath slotlist (some (withStatuses statuses c.slots))
      (some bootslot) = .ok states) :
    ∃ c' : SlotConfig, c'.slots = states ∧ RootsFit c' := by
  let loaded := c.update (fun s => { s with status := statuses s.name }) (fun _ => ⟨rfl, rfl, rfl⟩)
  unfold determineSlotStates at h
  simp only at h
  cases hfind : (slotlist.filterMap (withStatuses statuses c.slots).lookup).find?
    (bootslotMatches realpath bootslot) with
  | none =>
    simp only [hfind] at h
    split_ifs at h with hexternal
    refine ⟨loaded.update (fun s => { s with state := .inactive }) (fun _ => ⟨rfl, rfl, rfl⟩),
      Except.ok.inj h, ?_⟩
    intro s _ _ p r _ hr
    simp only [SlotConfig.update, Table.lookup_mapValues] at hr
    obtain ⟨u, -, rfl⟩ := Option.map_eq_some_iff.mp hr
    rfl
  | some booted =>
    simp only [hfind] at h
    let running := loaded.update (fun s => { s with state := stateWhenBooted booted s })
      (fun _ => ⟨rfl, rfl, rfl⟩)
    refine ⟨running, Except.ok.inj h, ?_⟩
    intro s hs hinactive p r hp hr
    have hname : r.name = p := running.name_of_lookup hr
    have hroot : r.parent = none := by
      obtain ⟨r', hr', hnone⟩ := running.parent_is_root s hs p hp
      obtain rfl := Option.some.inj (hr.symm.trans hr')
      exact hnone
    have hstate : ∀ t ∈ running.slots.values, t.state = stateWhenBooted booted t := by
      intro t ht
      simp only [running, SlotConfig.update, Table.values_mapValues] at ht
      obtain ⟨u, -, rfl⟩ := List.mem_map.mp ht
      rfl
    have hmem : r ∈ running.slots.values := by
      rw [running.mem_values_iff, hname]
      exact hr
    rw [hstate s hs] at hinactive
    rw [hstate r hmem]
    unfold stateWhenBooted at hinactive ⊢
    -- a child of the booted slot would be active
    have hne : r.name ≠ booted.name := by
      intro heq
      rw [hname] at heq
      rw [hp, heq] at hinactive
      rw [if_neg (by rintro hself; simp [hself] at hinactive), if_pos rfl] at hinactive
      exact absurd hinactive (by simp)
    simp [hne, hroot]

/-- For every accepted slot configuration and every assignment of states, the group is complete for
all hash orders if and only if the classes below the inactive roots are apart. -/
theorem targetGroup_complete_iff (ctx : ParseContext) (filename : Option String)
    (system : SystemSection)
    (keyFile : KeyFile) (slots : SlotTable)
    (hparse : Prog.observe (parseSlots ctx filename system) keyFile = .value slots)
    (slotlist : List String)
    (statuses : String → Option RaucSlotStatus) (bootslot : String) (states : SlotTable)
    (hstates : determineSlotStates realpath slotlist (some (withStatuses statuses slots))
      (some bootslot) = .ok states) :
    GroupComplete states ↔ ClassesApart states := by
  obtain ⟨c, rfl⟩ := parseSlots_slotConfig ctx filename system keyFile slots hparse
  obtain ⟨c', rfl, hfit⟩ := determineSlotStates_fit realpath c slotlist statuses bootslot
    states hstates
  exact groupComplete_iff hfit

def runningKernelRootfs : SlotTable :=
  kernelRootfsSlots.mapValues (fun s => { s with state :=
    if s.name = "kernel.0" then .booted else if s.parent = some "kernel.0" then .active
    else .inactive })

/-- The second group of the kernel and root file system slots is complete while the first one is
running. -/
theorem targetGroup_complete_kernelRootfs : GroupComplete runningKernelRootfs := by
  have hroots : ∀ r ∈ runningKernelRootfs.values, InactiveRoot runningKernelRootfs r →
      r.name = "kernel.1" ∧
      r.sclass = "kernel" := by decide +kernel
  have hchildren : ∀ x ∈ runningKernelRootfs.values, x.parent = some "kernel.1" →
    x.sclass = "rootfs" := by decide +kernel
  refine (targetGroup_complete_iff (fun _ => none) plainContext none {} kernelRootfsFile
    kernelRootfsSlots
    parseSlots_kernelRootfs kernelRootfsSlots.keys (fun _ => none) "A" runningKernelRootfs rfl).mpr
      ⟨?_, ?_, ?_⟩
  · intro r q x hr hq hx
    rw [hchildren x hx.1 ((hroots q hq.1 hq).1 ▸ hx.2), (hroots r hr.1 hr).2]
    decide
  · intro r q x y hr hq hne
    exact absurd ((hroots r hr.1 hr).2.trans (hroots q hq.1 hq).2.symm) hne
  · intro r q x hr hq _ hx
    exact ⟨x, ⟨hx.1,
      hx.2.trans (congrArg some ((hroots r hr.1 hr).1.trans (hroots q hq.1 hq).1.symm))⟩, rfl⟩

/-- A rescue system has a root file system of its own, as a child of the rescue slot. -/
def rescueFile : KeyFile :=
  ⟨[("slot.rootfs.0", ⟨[("device", "/dev/sda1"), ("bootname", "A")],
    bootGroup_nodup "/dev/sda1" "A"⟩),
    ("slot.rootfs.1", ⟨[("device", "/dev/sda2"), ("bootname", "B")],
      bootGroup_nodup "/dev/sda2" "B"⟩),
    ("slot.rescue.0", ⟨[("device", "/dev/sda3"), ("bootname", "R")],
      bootGroup_nodup "/dev/sda3" "R"⟩),
    ("slot.rootfs.2", ⟨[("device", "/dev/sda4"), ("parent", "rescue.0")], by decide⟩)], by decide⟩

def rescueSlots : SlotTable :=
  ⟨[("rootfs.0", { name := "rootfs.0", sclass := "rootfs", device := "/dev/sda1",
                   bootname := some "A" }),
    ("rootfs.1", { name := "rootfs.1", sclass := "rootfs", device := "/dev/sda2",
                   bootname := some "B" }),
    ("rescue.0", { name := "rescue.0", sclass := "rescue", device := "/dev/sda3",
                   bootname := some "R" }),
    ("rootfs.2", { name := "rootfs.2", sclass := "rootfs", device := "/dev/sda4",
                   parentName := some "rescue.0",
                   parent := some "rescue.0" })], by decide⟩

def runningRescue : SlotTable :=
  rescueSlots.mapValues
    (fun s => { s with state := if s.name = "rootfs.0" then .booted else .inactive })

/-- When the child slot comes first, it is selected for the class of the root slot `rootfs.1`, which
then has no target; the class leads to the root file system of the rescue system instead. -/
theorem rescue_child_is_selected :
    Prog.observe (parseSlots plainContext none {}) rescueFile = .value rescueSlots ∧
    determineSlotStates (fun _ => none) rescueSlots.keys
      (some (withStatuses (fun _ => none) rescueSlots)) (some "A") =
      .ok runningRescue ∧
    ¬ GroupComplete runningRescue := by
  refine ⟨by decide +kernel, rfl, fun h => ?_⟩
  obtain ⟨group, -, htargets⟩ :=
    (h true (by simp)).1 runningRescue.values.reverse (List.reverse_perm _)
  obtain ⟨selected, r, hselected, hfilter, hroot, -, -⟩ := htargets
    { name := "rootfs.1", sclass := "rootfs", device := "/dev/sda2", bootname := some "B",
      state := .inactive }
    (by decide +kernel)
  have hpicked :
      (selectRoots true runningRescue.values.reverse
      (rSlotGetRootClasses runningRescue.values.reverse)).toOption.map
      (fun l => (l.filter (fun s => s.sclass = "rootfs")).map RaucSlot.parent) =
        some [some "rescue.0"] := by
    decide +kernel
  rw [hselected] at hpicked
  simp only [Except.toOption, Option.map_some, Option.some.injEq] at hpicked
  rw [hfilter] at hpicked
  simp [hroot.2.1] at hpicked

end Determined

end RaucUpdate
