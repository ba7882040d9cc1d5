import RaucUpdate.Proofs.TargetGroup

/-!
# The order of the slot table

Which results depend on the order in which the hash table hands out the slots: the booted slot is
the first one that matches, and the slot to install is the oldest one in every order.
-/

namespace RaucUpdate

open Library

section BootedSlot

variable (realpath : String → Option String)

/-- The device of a slot as the comparison with the boot slot sees it. -/
def resolvedDevice (s : RaucSlot) : String := (realpath s.device).getD s.device

/-- For every two orders of the slots the states are the same, or the same error is reported. -/
def OrderFree (slots : SlotTable) (bootslot : String) : Prop :=
  ∀ slotlist slotlist' : List String, slotlist.Perm slots.keys → slotlist'.Perm slots.keys →
    determineSlotStates realpath slotlist (some slots) (some bootslot) =
      determineSlotStates realpath slotlist' (some slots) (some bootslot)

/-- The boot slot is given by one name of one slot only, where a slot goes by its bootname, its name
and its resolved device. -/
def OneMeaning (slots : SlotTable) (bootslot : String) : Prop :=
  ∀ s ∈ slots.values, ∀ t ∈ slots.values, s ≠ t →
    (s.bootname = some bootslot → t.name ≠ bootslot ∧ resolvedDevice realpath t ≠ bootslot) ∧
    (s.name = bootslot → resolvedDevice realpath t ≠ bootslot) ∧
    (resolvedDevice realpath s = bootslot → resolvedDevice realpath t ≠ bootslot)

instance (slots : SlotTable) (bootslot : String) : Decidable (OneMeaning realpath slots bootslot) :=
  inferInstanceAs (Decidable (∀ s ∈ slots.values, ∀ t ∈ slots.values, _ → _ ∧ _ ∧ _))

lemma bootslotMatches_iff {bootslot : String} {s : RaucSlot} :
    bootslotMatches realpath bootslot s = true ↔
      s.bootname = some bootslot ∨ s.name = bootslot ∨ resolvedDevice realpath s = bootslot := by
  simp [bootslotMatches, resolvedDevice]

/-- The parser leaves no two slots with one bootname and no two with one name. -/
lemma oneMeaning_iff (c : SlotConfig) (bootslot : String) :
    OneMeaning realpath c.slots bootslot ↔
      ∀ s ∈ c.slots.values, ∀ t ∈ c.slots.values, bootslotMatches realpath bootslot s = true →
        bootslotMatches realpath bootslot t = true → s = t := by
  constructor
  · intro hone s hs t ht hmatch hmatch'
    by_contra hne
    obtain ⟨hboot, hname, hdevice⟩ := hone s hs t ht hne
    obtain ⟨hboot', hname', -⟩ := hone t ht s hs (Ne.symm hne)
    rw [bootslotMatches_iff] at hmatch hmatch'
    rcases hmatch with hs' | hs' | hs'
    · rcases hmatch' with ht' | ht' | ht'
      · exact hne (c.bootname_unique s hs t ht bootslot hs' ht')
      · exact (hboot hs').1 ht'
      · exact (hboot hs').2 ht'
    · rcases hmatch' with ht' | ht' | ht'
      · exact (hboot' ht').1 hs'
      · exact hne (c.eq_of_name_eq hs ht (hs'.trans ht'.symm))
      · exact hname hs' ht'
    · rcases hmatch' with ht' | ht' | ht'
      · exact (hboot' ht').2 hs'
      · exact hname' ht' hs'
      · exact hdevice hs' ht'
  · intro hunique s hs t ht hne
    have hboth : ∀ {P : Prop}, bootslotMatches realpath bootslot s = true →
        bootslotMatches realpath bootslot t = true → P :=
      fun hmatch hmatch' => absurd (hunique s hs t ht hmatch hmatch') hne
    simp only [bootslotMatches_iff] at hboth
    refine ⟨fun hs' => ⟨fun ht' => ?_, fun ht' => ?_⟩, fun hs' ht' => ?_, fun hs' ht' => ?_⟩
    · exact hboth (.inl hs') (.inr (.inl ht'))
    · exact hboth (.inl hs') (.inr (.inr ht'))
    · exact hboth (.inr (.inl hs')) (.inr (.inr ht'))
    · exact hboth (.inr (.inr hs')) (.inr (.inr ht'))

lemma mem_filterMap_keys (c : SlotConfig) {slotlist : List String}
    (hkeys : slotlist.Perm c.slots.keys)
    {s : RaucSlot} : s ∈ slotlist.filterMap c.slots.lookup ↔ s ∈ c.slots.values := by
  rw [List.mem_filterMap, c.mem_values_iff]
  constructor
  · rintro ⟨k, -, hk⟩
    rw [c.name_of_lookup hk]
    exact hk
  · intro hs
    refine ⟨s.name, ?_, hs⟩
    rw [hkeys.mem_iff]
    by_contra hno
    rw [(Table.lookup_eq_none_iff _ _).mpr hno] at hs
    exact absurd hs (by simp)

/-- A test that at most one element passes finds the same element in every order. -/
lemma find?_of_unique {α : Type} {p : α → Bool} {l l' : List α} (hmem : ∀ x, x ∈ l ↔ x ∈ l')
    (hunique : ∀ x ∈ l, ∀ y ∈ l, p x = true → p y = true → x = y) : l.find? p = l'.find? p := by
  cases h : l.find? p with
  | none =>
    rw [List.find?_eq_none] at h
    symm
    rw [List.find?_eq_none]
    intro x hx
    exact h x ((hmem x).mpr hx)
  | some x =>
    have hx := List.mem_of_find?_eq_some h
    have hpx := List.find?_some h
    cases h' : l'.find? p with
    | none =>
      rw [List.find?_eq_none] at h'
      exact absurd hpx (h' x ((hmem x).mp hx))
    | some y =>
      have hy := (hmem y).mpr (List.mem_of_find?_eq_some h')
      rw [hunique x hx y hy hpx (List.find?_some h')]

lemma orderFree_of_oneMeaning (c : SlotConfig) (bootslot : String)
    (h : OneMeaning realpath c.slots bootslot) :
    OrderFree realpath c.slots bootslot := by
  intro slotlist slotlist' hkeys hkeys'
  rw [oneMeaning_iff] at h
  have hfind : (slotlist.filterMap c.slots.lookup).find? (bootslotMatches realpath bootslot) =
      (slotlist'.filterMap c.slots.lookup).find? (bootslotMatches realpath bootslot) := by
    apply find?_of_unique
    · intro x
      rw [mem_filterMap_keys c hkeys, mem_filterMap_keys c hkeys']
    · intro x hx y hy
      exact h x ((mem_filterMap_keys c hkeys).mp hx) y ((mem_filterMap_keys c hkeys).mp hy)
  simp only [determineSlotStates, hfind]

/-- With a matching slot in front of the others, that slot is the booted one. -/
lemma determineSlotStates_first (c : SlotConfig) {bootslot : String} {s : RaucSlot}
    (hs : s ∈ c.slots.values)
    (hmatch : bootslotMatches realpath bootslot s = true) :
    determineSlotStates realpath (s.name :: c.slots.keys.erase s.name) (some c.slots)
      (some bootslot) =
      .ok (c.slots.mapValues (fun t => { t with state := stateWhenBooted s t })) := by
  have hfind : ((s.name :: c.slots.keys.erase s.name).filterMap c.slots.lookup).find?
      (bootslotMatches realpath bootslot) = some s := by
    rw [List.filterMap_cons_some ((c.mem_values_iff s).mp hs), List.find?_cons_of_pos hmatch]
  simp only [determineSlotStates, hfind]

lemma perm_name_first (c : SlotConfig) {s : RaucSlot} (hs : s ∈ c.slots.values) :
    (s.name :: c.slots.keys.erase s.name).Perm c.slots.keys := by
  refine (List.perm_cons_erase ?_).symm
  by_contra hno
  have hlookup := (c.mem_values_iff s).mp hs
  rw [(Table.lookup_eq_none_iff _ _).mpr hno] at hlookup
  exact absurd hlookup (by simp)

lemma oneMeaning_of_orderFree (c : SlotConfig) (bootslot : String)
    (h : OrderFree realpath c.slots bootslot) :
    OneMeaning realpath c.slots bootslot := by
  rw [oneMeaning_iff]
  intro s hs t ht hmatch hmatch'
  have hsame := h _ _ (perm_name_first c hs) (perm_name_first c ht)
  rw [determineSlotStates_first realpath c hs hmatch, determineSlotStates_first realpath c ht
    hmatch'] at hsame
  have hlookup := congrArg (fun states => Table.lookup states s.name) (Except.ok.inj hsame)
  simp only [Table.lookup_mapValues, (c.mem_values_iff s).mp hs, Option.map_some,
    Option.some.injEq] at hlookup
  have hstate : stateWhenBooted s s = stateWhenBooted t s := congrArg RaucSlot.state hlookup
  by_contra hne
  have hname : s.name ≠ t.name := fun hname => hne (c.eq_of_name_eq hs ht hname)
  simp only [stateWhenBooted, if_true, hname, if_false] at hstate
  split_ifs at hstate

/-- For every accepted slot configuration and every boot slot, the order of the slots does not
matter exactly when no two slots go by the name of the boot slot. -/
theorem determineSlotStates_orderFree_iff (ctx : ParseContext) (filename : Option String)
    (system : SystemSection)
    (keyFile : KeyFile) (slots : SlotTable)
    (hparse : Prog.observe (parseSlots ctx filename system) keyFile = .value slots)
    (bootslot : String) :
    OrderFree realpath slots bootslot ↔ OneMeaning realpath slots bootslot := by
  obtain ⟨c, rfl⟩ := parseSlots_slotConfig ctx filename system keyFile slots hparse
  exact ⟨oneMeaning_of_orderFree realpath c bootslot, orderFree_of_oneMeaning realpath c bootslot⟩

/-- Kernel and root file system slots go by different names. -/
theorem determineSlotStates_orderFree_kernelRootfs :
    OrderFree (fun _ => none) kernelRootfsSlots "A" :=
  (determineSlotStates_orderFree_iff (fun _ => none) plainContext none {} kernelRootfsFile
    kernelRootfsSlots
    parseSlots_kernelRootfs "A").mpr (by decide)

/-- Two root file system slots on one device. -/
def sharedDeviceFile : KeyFile :=
  ⟨[("slot.rootfs.0", ⟨[("device", "/dev/sda2"), ("bootname", "A")],
    bootGroup_nodup "/dev/sda2" "A"⟩),
    ("slot.rootfs.1", ⟨[("device", "/dev/sda2"), ("bootname", "B")],
      bootGroup_nodup "/dev/sda2" "B"⟩)], by decide⟩

def sharedDeviceSlots : SlotTable :=
  ⟨[("rootfs.0", { name := "rootfs.0", sclass := "rootfs", device := "/dev/sda2",
                   bootname := some "A" }),
    ("rootfs.1", { name := "rootfs.1", sclass := "rootfs", device := "/dev/sda2",
                   bootname := some "B" })], by decide⟩

/-- Two slots on one device are accepted, and the first one of them is the booted one. -/
theorem determineSlotStates_sharedDevice :
    Prog.observe (parseSlots plainContext none {}) sharedDeviceFile = .value sharedDeviceSlots ∧
    ¬ OrderFree (fun _ => none) sharedDeviceSlots "/dev/sda2" := by
  refine ⟨by decide +kernel, fun h => ?_⟩
  have hsame := h ["rootfs.0", "rootfs.1"] ["rootfs.1", "rootfs.0"] (by decide) (by decide)
  revert hsame
  decide +kernel

end BootedSlot

section Oldest

/-- An inactive slot of the class. -/
def SlotCandidate (rootclass : String) (s : RaucSlot) : Prop :=
  s.state = .inactive ∧ s.sclass = rootclass

/-- A failed slot, or one without a timestamp. -/
def RaucSlot.Outdated (s : RaucSlot) : Prop :=
  ∃ status, s.status = some status ∧ (status.status = some "failed" ∨
    status.installedTimestamp = none)

def RaucSlot.InstalledAt (s : RaucSlot) (stamp : DateTime) : Prop :=
  ∃ status, s.status = some status ∧ status.installedTimestamp = some stamp

variable {rootclass : String} {candidate : Option (RaucSlot × DateTime)} {s : RaucSlot}
  {rest : List RaucSlot}

/-- The older one of the candidate so far and another slot. -/
def olderCandidate (candidate : Option (RaucSlot × DateTime)) (s : RaucSlot) (stamp : DateTime) :
    RaucSlot × DateTime :=
  match candidate with
  | none => (s, stamp)
  | some (c, oldest) => if stamp < oldest then (s, stamp) else (c, oldest)

lemma selectLoop_skipped (h : ¬ SlotCandidate rootclass s) :
    selectLoop false rootclass candidate (s :: rest) =
      selectLoop false rootclass candidate rest := by
  rw [selectLoop]
  by_cases hstate : s.state = .inactive
  · have hclass : s.sclass ≠ rootclass := fun hclass => h ⟨hstate, hclass⟩
    rw [if_neg (by simpa using hstate), if_pos hclass]
  · rw [if_pos hstate]

lemma selectLoop_outdated (h : SlotCandidate rootclass s) (hold : s.Outdated) :
    selectLoop false rootclass candidate (s :: rest) = .ok (some s) := by
  obtain ⟨hstate, hclass⟩ := h
  obtain ⟨status, hstatus, hold⟩ := hold
  rw [selectLoop, if_neg (by simpa using hstate), if_neg (by simpa using hclass),
    if_neg (by simp), hstatus]
  simp only
  split_ifs with hfailed
  · rfl
  · rw [hold.resolve_left hfailed]

lemma selectLoop_dated (h : SlotCandidate rootclass s) (hold : ¬ s.Outdated) {stamp : DateTime}
    (hstamp : s.InstalledAt stamp) :
    selectLoop false rootclass candidate (s :: rest) =
      selectLoop false rootclass (some (olderCandidate candidate s stamp)) rest := by
  obtain ⟨hstate, hclass⟩ := h
  obtain ⟨status, hstatus, hstamp⟩ := hstamp
  have hfailed : status.status ≠ some "failed" :=
    fun hfailed => hold ⟨status, hstatus, .inl hfailed⟩
  rw [selectLoop, if_neg (by simpa using hstate), if_neg (by simpa using hclass),
    if_neg (by simp), hstatus]
  simp only [hstamp]
  rw [if_neg hfailed]
  cases candidate with
  | none => rfl
  | some c =>
    simp only [olderCandidate]
    split_ifs
    · rfl
    · rfl

lemma installedAt_of_not_outdated (hstatus : s.status ≠ none) (hold : ¬ s.Outdated) :
    ∃ stamp, s.InstalledAt stamp := by
  obtain ⟨status, hsome⟩ := Option.ne_none_iff_exists'.mp hstatus
  cases hstamp : status.installedTimestamp with
  | none => exact absurd ⟨status, hsome, .inr hstamp⟩ hold
  | some stamp => exact ⟨stamp, status, hsome, hstamp⟩

/-- An outdated candidate is selected whenever there is one. -/
lemma selectLoop_prefers {order : List RaucSlot} (hstatus : ∀ s ∈ order, s.status ≠ none)
    (h : ∃ t ∈ order, SlotCandidate rootclass t ∧ t.Outdated) :
    ∃ s, selectLoop false rootclass candidate order = .ok (some s) ∧ s ∈ order ∧
      SlotCandidate rootclass s ∧
      s.Outdated := by
  induction order generalizing candidate with
  | nil =>
    obtain ⟨t, ht, -⟩ := h
    exact absurd ht List.not_mem_nil
  | cons u rest ih =>
    by_cases hu : SlotCandidate rootclass u ∧ u.Outdated
    · exact ⟨u, selectLoop_outdated hu.1 hu.2, by simp, hu⟩
    · have hrest : ∃ t ∈ rest, SlotCandidate rootclass t ∧ t.Outdated := by
        obtain ⟨t, ht, hfits⟩ := h
        rcases List.mem_cons.mp ht with rfl | ht
        · exact absurd hfits hu
        · exact ⟨t, ht, hfits⟩
      by_cases hcandidate : SlotCandidate rootclass u
      · have hold : ¬ u.Outdated := fun hold => hu ⟨hcandidate, hold⟩
        obtain ⟨stamp, hstamp⟩ := installedAt_of_not_outdated (hstatus u (by simp)) hold
        obtain ⟨s, hs, hmem, hfits⟩ := ih (fun s hs => hstatus s (by simp [hs])) hrest
        rw [selectLoop_dated hcandidate hold hstamp]
        exact ⟨s, hs, by simp [hmem], hfits⟩
      · obtain ⟨s, hs, hmem, hfits⟩ := ih (fun s hs => hstatus s (by simp [hs])) hrest
        rw [selectLoop_skipped hcandidate]
        exact ⟨s, hs, by simp [hmem], hfits⟩

/-- Without an outdated candidate the loop ends with the oldest of the candidates and the one it
had. -/
lemma selectLoop_ends_oldest {order : List RaucSlot} (hstatus : ∀ s ∈ order, s.status ≠ none)
    (h : ∀ t ∈ order, SlotCandidate rootclass t → ¬ t.Outdated) {c : RaucSlot} {oldest : DateTime}
    (hc : c.InstalledAt oldest) :
    ∃ s stamp, selectLoop false rootclass (some (c, oldest)) order = .ok (some s) ∧
      s.InstalledAt stamp ∧
      stamp ≤ oldest ∧ ∀ t ∈ order, SlotCandidate rootclass t → ∃ stamp', t.InstalledAt stamp' ∧
        stamp ≤ stamp' := by
  induction order generalizing c oldest with
  | nil => exact ⟨c, oldest, rfl, hc, le_refl _, by simp⟩
  | cons u rest ih =>
    have ihrest := fun {c : RaucSlot} {oldest : DateTime} (hc : c.InstalledAt oldest) =>
      ih (fun s hs => hstatus s (by simp [hs])) (fun t ht => h t (by simp [ht])) hc
    by_cases hcandidate : SlotCandidate rootclass u
    · have hold := h u (by simp) hcandidate
      obtain ⟨stamp', hstamp'⟩ := installedAt_of_not_outdated (hstatus u (by simp)) hold
      rw [selectLoop_dated hcandidate hold hstamp']
      simp only [olderCandidate]
      split_ifs with hlt
      · obtain ⟨s, stamp, hs, hat, hle, hall⟩ := ihrest hstamp'
        refine ⟨s, stamp, hs, hat, le_trans hle hlt.le, ?_⟩
        intro t ht hfits
        rcases List.mem_cons.mp ht with rfl | ht
        · exact ⟨stamp', hstamp', hle⟩
        · exact hall t ht hfits
      · obtain ⟨s, stamp, hs, hat, hle, hall⟩ := ihrest hc
        refine ⟨s, stamp, hs, hat, hle, ?_⟩
        intro t ht hfits
        rcases List.mem_cons.mp ht with rfl | ht
        · exact ⟨stamp', hstamp', le_trans hle (not_lt.mp hlt)⟩
        · exact hall t ht hfits
    · rw [selectLoop_skipped hcandidate]
      obtain ⟨s, stamp, hs, hat, hle, hall⟩ := ihrest hc
      refine ⟨s, stamp, hs, hat, hle, ?_⟩
      intro t ht hfits
      rcases List.mem_cons.mp ht with rfl | ht
      · exact absurd hfits hcandidate
      · exact hall t ht hfits

lemma selectLoop_without_candidate {order : List RaucSlot}
    (h : ∀ t ∈ order, ¬ SlotCandidate rootclass t) :
    selectLoop false rootclass candidate order = .ok (candidate.map Prod.fst) := by
  induction order with
  | nil => rfl
  | cons u rest ih =>
    rw [selectLoop_skipped (h u (by simp))]
    exact ih (fun t ht => h t (by simp [ht]))

/-- The first candidate starts the search for the oldest one. -/
lemma selectLoop_oldest {order : List RaucSlot} (hstatus : ∀ s ∈ order, s.status ≠ none)
    (h : ∀ t ∈ order, SlotCandidate rootclass t → ¬ t.Outdated)
    (hsome : ∃ t ∈ order, SlotCandidate rootclass t) :
    ∃ s stamp, selectLoop false rootclass none order = .ok (some s) ∧ s.InstalledAt stamp ∧
      ∀ t ∈ order, SlotCandidate rootclass t → ∃ stamp', t.InstalledAt stamp' ∧ stamp ≤ stamp' := by
  induction order with
  | nil =>
    obtain ⟨t, ht, -⟩ := hsome
    exact absurd ht List.not_mem_nil
  | cons u rest ih =>
    have hstatus' : ∀ s ∈ rest, s.status ≠ none := fun s hs => hstatus s (by simp [hs])
    have h' : ∀ t ∈ rest, SlotCandidate rootclass t → ¬ t.Outdated := fun t ht => h t (by simp [ht])
    by_cases hcandidate : SlotCandidate rootclass u
    · have hold := h u (by simp) hcandidate
      obtain ⟨first, hfirst⟩ := installedAt_of_not_outdated (hstatus u (by simp)) hold
      obtain ⟨s, stamp, hs, hat, hle, hall⟩ := selectLoop_ends_oldest hstatus' h' hfirst
      rw [selectLoop_dated hcandidate hold hfirst]
      refine ⟨s, stamp, hs, hat, ?_⟩
      intro t ht hfits
      rcases List.mem_cons.mp ht with rfl | ht
      · exact ⟨first, hfirst, hle⟩
      · exact hall t ht hfits
    · have hsome' : ∃ t ∈ rest, SlotCandidate rootclass t := by
        obtain ⟨t, ht, hfits⟩ := hsome
        rcases List.mem_cons.mp ht with rfl | ht
        · exact absurd hfits hcandidate
        · exact ⟨t, ht, hfits⟩
      obtain ⟨s, stamp, hs, hat, hall⟩ := ih hstatus' h' hsome'
      rw [selectLoop_skipped hcandidate]
      refine ⟨s, stamp, hs, hat, ?_⟩
      intro t ht hfits
      rcases List.mem_cons.mp ht with rfl | ht
      · exact absurd hfits hcandidate
      · exact hall t ht hfits

/-- The table with a status for every slot, as the context sets it up for a global status file. -/
def statusTable (statuses : RaucSlot → RaucSlotStatus) (slots : SlotTable) : SlotTable :=
  slots.mapValues (fun s => s.withStatus (statuses s))

lemma statusTable_status {statuses : RaucSlot → RaucSlotStatus} {slots : SlotTable} {s : RaucSlot}
    (hs : s ∈ (statusTable statuses slots).values) : s.status ≠ none := by
  unfold statusTable at hs
  rw [Table.values_mapValues] at hs
  obtain ⟨t, -, rfl⟩ := List.mem_map.mp hs
  simp

/-- With a global status file, a slot is selected exactly when the class has an inactive member. It
is such a member, an outdated one if there is one, and otherwise one that was installed first. -/
theorem selectInactiveSlotClassMember_oldest (statuses : RaucSlot → RaucSlotStatus)
    (slots : SlotTable)
    (rootclass : String) (order : List RaucSlot)
    (horder : order.Perm (statusTable statuses slots).values) :
    ∃ selected, selectInactiveSlotClassMember false order rootclass = .ok selected ∧
      ((∃ s, selected = some s) ↔ ∃ s ∈ (statusTable statuses slots).values,
        SlotCandidate rootclass s) ∧
      ∀ s, selected = some s → s ∈ (statusTable statuses slots).values ∧ SlotCandidate rootclass s ∧
        ((∃ t ∈ (statusTable statuses slots).values, SlotCandidate rootclass t ∧ t.Outdated) →
          s.Outdated) ∧
        ((¬ ∃ t ∈ (statusTable statuses slots).values, SlotCandidate rootclass t ∧ t.Outdated) →
          ∃ stamp, s.InstalledAt stamp ∧ ∀ t ∈ (statusTable statuses slots).values,
            SlotCandidate rootclass t →
            ∃ stamp', t.InstalledAt stamp' ∧ stamp ≤ stamp') := by
  simp only [← horder.mem_iff]
  have hstatus : ∀ s ∈ order, s.status ≠ none :=
    fun s hs => statusTable_status (horder.mem_iff.mp hs)
  unfold selectInactiveSlotClassMember
  by_cases hold : ∃ t ∈ order, SlotCandidate rootclass t ∧ t.Outdated
  · obtain ⟨s, hs, hmem, hfits, houtdated⟩ := @selectLoop_prefers rootclass none order hstatus hold
    refine ⟨some s, hs, ⟨fun _ => ⟨s, hmem, hfits⟩, fun _ => ⟨s, rfl⟩⟩, ?_⟩
    intro s' hs'
    obtain rfl := Option.some.inj hs'
    exact ⟨hmem, hfits, fun _ => houtdated, fun hno => absurd hold hno⟩
  · by_cases hsome : ∃ t ∈ order, SlotCandidate rootclass t
    · have hdated : ∀ t ∈ order, SlotCandidate rootclass t → ¬ t.Outdated :=
          fun t ht hfits houtdated =>
        hold ⟨t, ht, hfits, houtdated⟩
      obtain ⟨s, stamp, hs, hat, hall⟩ := selectLoop_oldest hstatus hdated hsome
      have hfits : s ∈ order ∧ SlotCandidate rootclass s :=
        selectLoop_inactive false rootclass (fun x => x ∈ order ∧ SlotCandidate rootclass x) order
          (fun x hx hstate hclass => ⟨hx, hstate, hclass⟩) none (by simp) s hs
      refine ⟨some s, hs, ⟨fun _ => hsome, fun _ => ⟨s, rfl⟩⟩, ?_⟩
      intro s' hs'
      obtain rfl := Option.some.inj hs'
      exact ⟨hfits.1, hfits.2, fun hno => absurd hno hold, fun _ => ⟨stamp, hat, hall⟩⟩
    · have hnone : ∀ t ∈ order, ¬ SlotCandidate rootclass t :=
        fun t ht hfits => hsome ⟨t, ht, hfits⟩
      refine ⟨none, selectLoop_without_candidate hnone, ⟨by simp, fun h => absurd h hsome⟩, by simp⟩

/-- Two inactive slots, in the order of the table. -/
theorem selectInactiveSlotClassMember_oldest_rescue :
    ∃ selected, selectInactiveSlotClassMember false
      (statusTable (fun s => { installedTimestamp := if s.name = "rootfs.1" then some 20
                               else some 10 })
        runningRescue).values "rootfs" = .ok selected ∧ ∃ s, selected = some s := by
  obtain ⟨selected, hselected, hsome, -⟩ := selectInactiveSlotClassMember_oldest
    (fun s => { installedTimestamp := if s.name = "rootfs.1" then some 20 else some 10 })
      runningRescue "rootfs" _
    (List.Perm.refl _)
  refine ⟨selected, hselected, hsome.mpr ?_⟩
  refine ⟨_, List.mem_map.mpr ⟨_, List.mem_cons_of_mem _ (List.mem_cons_self), rfl⟩, ?_⟩
  exact ⟨rfl, rfl⟩

end Oldest

end RaucUpdate
