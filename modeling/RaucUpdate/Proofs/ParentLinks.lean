import RaucUpdate.Library.ParentLinks
import RaucUpdate.Proofs.SlotConfig

namespace RaucUpdate

open Library

/-- A slot table in which every parent pointer leads to a slot. -/
structure ParentTable where
  slots : SlotTable
  name_key : ∀ k s, slots.lookup k = some s → s.name = k
  parent_known : ∀ k s p, slots.lookup k = some s → s.parent = some p → ∃ r, slots.lookup p = some r

/-- The parent pointers by the names of the slots. -/
def parentLink (slots : SlotTable) (k : String) : Option String :=
  (slots.lookup k).bind RaucSlot.parent

section Climbing

variable (t : ParentTable)

lemma parentOf_none_iff {k : String} {s : RaucSlot} (hs : t.slots.lookup k = some s) :
    parentOf t.slots s = none ↔ parentLink t.slots k = none := by
  simp only [parentOf, parentLink, hs, Option.bind_some]
  cases hp : s.parent with
  | none => simp
  | some p =>
    obtain ⟨r, hr⟩ := t.parent_known k s p hs hp
    simp [hr]

lemma parentOf_some_iff {k : String} {s r : RaucSlot} (hs : t.slots.lookup k = some s) :
    parentOf t.slots s = some r ↔ parentLink t.slots k = some r.name ∧ t.slots.lookup r.name =
      some r := by
  simp only [parentOf, parentLink, hs, Option.bind_some]
  cases hp : s.parent with
  | none => simp
  | some p =>
    simp only [Option.bind_some, Option.some.injEq]
    constructor
    · intro hr
      rw [t.name_key p r hr]
      exact ⟨rfl, hr⟩
    · rintro ⟨rfl, hr⟩
      exact hr

/-- The inner loop finds the root of a chain when its steps suffice. -/
lemma realParent_iff {steps : Nat} {k : String} {s r : RaucSlot} (hs : t.slots.lookup k = some s) :
    realParent t.slots steps s = some r ↔
      t.slots.lookup r.name = some r ∧ ∃ n, n ≤ steps ∧ RootAt (parentLink t.slots) n k r.name := by
  induction steps generalizing k s with
  | zero =>
    unfold realParent
    cases hp : parentOf t.slots s with
    | none =>
      have hlink := (parentOf_none_iff t hs).mp hp
      simp only [Option.some.injEq]
      constructor
      · rintro rfl
        rw [t.name_key k s hs]
        exact ⟨hs, 0, Nat.le_refl 0, RootAt.zero_iff.mpr ⟨rfl, hlink⟩⟩
      · rintro ⟨hr, n, hn, hroot⟩
        obtain rfl : n = 0 := by omega
        obtain ⟨rfl, -⟩ := RootAt.zero_iff.mp hroot
        exact Option.some.inj (hs.symm.trans hr)
    | some parent =>
      obtain ⟨hlink, -⟩ := (parentOf_some_iff t hs).mp hp
      simp only [reduceCtorEq, false_iff, not_and, not_exists]
      intro _ n hn hroot
      obtain rfl : n = 0 := by omega
      rw [(RootAt.zero_iff.mp hroot).2] at hlink
      exact absurd hlink (by simp)
  | succ steps ih =>
    unfold realParent
    cases hp : parentOf t.slots s with
    | none =>
      have hlink := (parentOf_none_iff t hs).mp hp
      simp only [Option.some.injEq]
      constructor
      · rintro rfl
        rw [t.name_key k s hs]
        exact ⟨hs, 0, Nat.zero_le _, RootAt.zero_iff.mpr ⟨rfl, hlink⟩⟩
      · rintro ⟨hr, n, -, hroot⟩
        obtain ⟨-, hname⟩ := hroot.eq (RootAt.zero_iff.mpr ⟨rfl, hlink⟩)
        rw [hname] at hr
        exact Option.some.inj (hs.symm.trans hr)
    | some parent =>
      obtain ⟨hlink, hparent⟩ := (parentOf_some_iff t hs).mp hp
      simp only [ih hparent]
      constructor
      · rintro ⟨hr, n, hn, hroot⟩
        exact ⟨hr, n + 1, by omega, hroot.of_next hlink⟩
      · rintro ⟨hr, n, hn, hroot⟩
        cases n with
        | zero =>
          rw [(RootAt.zero_iff.mp hroot).2] at hlink
          exact absurd hlink (by simp)
        | succ n =>
          obtain ⟨y, hy, hrest⟩ := RootAt.succ_iff.mp hroot
          obtain rfl := Option.some.inj (hlink.symm.trans hy)
          exact ⟨hr, n, by omega, hrest⟩

end Climbing

section Flattening

variable (t : ParentTable)

/-- A slot without a parent is as it was, and another one has the root of its chain as its
parent. -/
def RootedEntry (k : String) (s s' : RaucSlot) : Prop :=
  s.parent = none ∧ s' = s ∨ ∃ n r, RootAt (parentLink t.slots) (n + 1) k r ∧ s' = s.withParent r

/-- The table in the middle of the loop. -/
structure Flattening (pending : List String) (current : SlotTable) : Prop where
  same_keys : current.keys = t.slots.keys
  entry : ∀ k s, t.slots.lookup k = some s → ∃ s', current.lookup k = some s' ∧
    (s' = s ∨ RootedEntry t k s s')
  settled : ∀ k s s', t.slots.lookup k = some s → current.lookup k = some s' → k ∉ pending →
    RootedEntry t k s s'

variable {t} {pending : List String} {current : SlotTable}

lemma climbs_known {n : Nat} {k r : String} (h : Climbs (parentLink t.slots) n k r)
    (hk : ∃ s, t.slots.lookup k = some s) : ∃ root, t.slots.lookup r = some root := by
  induction h with
  | here k => exact hk
  | up hnext _ ih =>
    obtain ⟨s, hs⟩ := hk
    rw [parentLink, hs] at hnext
    exact ih (t.parent_known _ s _ hs hnext)

lemma Flattening.lookup_some (h : Flattening t pending current) {k : String} {s' : RaucSlot}
    (hk : current.lookup k = some s') :
    ∃ s, t.slots.lookup k = some s ∧ (s' = s ∨ RootedEntry t k s s') := by
  cases hs : t.slots.lookup k with
  | none =>
    rw [Table.lookup_eq_none_iff, ← h.same_keys, ← Table.lookup_eq_none_iff, hk] at hs
    exact absurd hs (by simp)
  | some s =>
    obtain ⟨s'', hk', hentry⟩ := h.entry k s hs
    obtain rfl := Option.some.inj (hk.symm.trans hk')
    exact ⟨s, rfl, hentry⟩

/-- The table of the loop keeps names, and its pointers lead to slots. -/
def Flattening.table (h : Flattening t pending current) : ParentTable where
  slots := current
  name_key := by
    intro k s' hk
    obtain ⟨s, hs, rfl | ⟨-, rfl⟩ | ⟨n, r, -, rfl⟩⟩ := h.lookup_some hk
    · exact t.name_key k s' hs
    · exact t.name_key k s' hs
    · exact t.name_key k s hs
  parent_known := by
    intro k s' p hk hp
    obtain ⟨s, hs, hentry⟩ := h.lookup_some hk
    have hknown : ∃ root, t.slots.lookup p = some root := by
      obtain rfl | ⟨-, rfl⟩ | ⟨n, r, hroot, rfl⟩ := hentry
      · exact t.parent_known k s' p hs hp
      · exact t.parent_known k s' p hs hp
      · obtain rfl : r = p := Option.some.inj hp
        exact climbs_known hroot.1 ⟨s, hs⟩
    obtain ⟨root, hroot⟩ := hknown
    obtain ⟨root', hroot', -⟩ := h.entry p root hroot
    exact ⟨root', hroot'⟩

/-- The pointers of the loop are those of the beginning, or lead to the roots. -/
lemma Flattening.shortcut (h : Flattening t pending current) :
    Shortcut (parentLink t.slots) (parentLink current) := by
  intro k
  cases hk : current.lookup k with
  | none =>
    have hs : t.slots.lookup k = none := by
      rw [Table.lookup_eq_none_iff, ← h.same_keys, ← Table.lookup_eq_none_iff, hk]
    simp [parentLink, hk, hs]
  | some s' =>
    obtain ⟨s, hs, rfl | ⟨-, rfl⟩ | ⟨n, r, hroot, rfl⟩⟩ := h.lookup_some hk
    · exact .inl (by simp [parentLink, hk, hs])
    · exact .inl (by simp [parentLink, hk, hs])
    · exact .inr ⟨n, r, hroot, by simp [parentLink, hk]⟩

lemma flattening_start (hkeys : ∀ k ∈ t.slots.keys, k ∈ pending) :
    Flattening t pending t.slots := by
  refine ⟨rfl, fun k s hs => ⟨s, hs, .inl rfl⟩, ?_⟩
  intro k s s' hs _ hout
  have hmem : k ∈ t.slots.keys := by
    by_contra hno
    rw [(Table.lookup_eq_none_iff _ _).mpr hno] at hs
    exact absurd hs (by simp)
  exact absurd (hkeys k hmem) hout

/-- A slot that is left alone has no parent. -/
lemma Flattening.skip {key : String} {rest : List String} {s' : RaucSlot}
    (h : Flattening t (key :: rest) current) (hkey : current.lookup key = some s')
    (hparent : parentOf current s' = none) : Flattening t rest current := by
  refine ⟨h.same_keys, h.entry, ?_⟩
  intro k s u hs hu hout
  by_cases hk : k = key
  · subst hk
    obtain rfl := Option.some.inj (hkey.symm.trans hu)
    obtain ⟨v, hv, hentry⟩ := h.lookup_some hkey
    obtain rfl := Option.some.inj (hs.symm.trans hv)
    have hlink := (parentOf_none_iff h.table hkey).mp hparent
    have hnone : s'.parent = none := by
      change parentLink current k = none at hlink
      simpa [parentLink, hkey] using hlink
    rcases hentry with rfl | hrooted
    · exact .inl ⟨hnone, rfl⟩
    · exact hrooted
  · exact h.settled k s u hs hu (by simp [hk, hout])

/-- A slot whose chain ends gets the root of its chain as its parent. -/
lemma Flattening.link {key r : String} {rest : List String} {s' : RaucSlot} {n : Nat}
    (h : Flattening t (key :: rest) current) (hkey : current.lookup key = some s')
    (hroot : RootAt (parentLink t.slots) (n + 1) key r) :
    Flattening t rest (current.set key (s'.withParent r)) := by
  obtain ⟨s, hs, hentry⟩ := h.lookup_some hkey
  have hlinked : s'.withParent r = s.withParent r := by
    obtain rfl | ⟨-, rfl⟩ | ⟨-, -, -, rfl⟩ := hentry
    · rfl
    · rfl
    · rfl
  have hrooted : RootedEntry t key s (s'.withParent r) := .inr ⟨n, r, hroot, hlinked⟩
  have hmem : key ∈ current.keys := by
    by_contra hno
    rw [(Table.lookup_eq_none_iff _ _).mpr hno] at hkey
    exact absurd hkey (by simp)
  refine ⟨?_, ?_, ?_⟩
  · rw [Table.keys_set, if_pos hmem, h.same_keys]
  · intro k u hu
    rw [Table.lookup_set]
    split_ifs with hk
    · subst hk
      obtain rfl := Option.some.inj (hs.symm.trans hu)
      exact ⟨_, rfl, .inr hrooted⟩
    · exact h.entry k u hu
  · intro k u u' hu hu' hout
    rw [Table.lookup_set] at hu'
    split_ifs at hu' with hk
    · subst hk
      obtain rfl := Option.some.inj (hs.symm.trans hu)
      rw [← Option.some.inj hu']
      exact hrooted
    · exact h.settled k u u' hu hu' (by simp [Ne.symm hk, hout])

end Flattening

section Runs

variable {t : ParentTable}

/-- Every chain of parents is short enough for the loop, or runs into a cycle. -/
def WithinLimit (t : ParentTable) : Prop :=
  ∀ k ∈ t.slots.keys, (∃ n r, n ≤ 101 ∧ RootAt (parentLink t.slots) n k r) ∨
    Cyclic (parentLink t.slots) k

/-- The loop over the slots gives up at a cycle, or leaves every slot settled. -/
lemma fixGrandparentLinks_cases (hlimit : WithinLimit t) (keys : List String) (current : SlotTable)
    (h : Flattening t keys current) (hkeys : ∀ k ∈ keys, k ∈ t.slots.keys) :
    ((∃ e, fixGrandparentLinks keys current = .error e) ∧
      ∃ k ∈ t.slots.keys, Cyclic (parentLink t.slots) k) ∨
      ∃ fixed, fixGrandparentLinks keys current = .ok fixed ∧ Flattening t [] fixed := by
  induction keys generalizing current with
  | nil => exact .inr ⟨current, rfl, h⟩
  | cons key rest ih =>
    have hrest : ∀ k ∈ rest, k ∈ t.slots.keys := fun k hk => hkeys k (by simp [hk])
    have hmem : key ∈ t.slots.keys := hkeys key (by simp)
    unfold fixGrandparentLinks
    cases hkey : current.lookup key with
    | none =>
      rw [Table.lookup_eq_none_iff, h.same_keys] at hkey
      exact absurd hmem hkey
    | some s =>
      simp only
      cases hparent : parentOf current s with
      | none => exact ih current (h.skip hkey hparent) hrest
      | some parent =>
        simp only
        obtain ⟨hlink, hlookup⟩ := (parentOf_some_iff h.table hkey).mp hparent
        change parentLink current key = some parent.name at hlink
        cases hreal : realParent current 100 parent with
        | none =>
          refine .inl ⟨⟨_, rfl⟩, key, hmem, (hlimit key hmem).resolve_left ?_⟩
          rintro ⟨n, r, hn, hroot⟩
          obtain ⟨m, hm, hroot'⟩ := h.shortcut.rootAt hroot
          cases m with
          | zero =>
            have hnone := (RootAt.zero_iff.mp hroot').2
            rw [hlink] at hnone
            exact absurd hnone (by simp)
          | succ m =>
            obtain ⟨y, hy, hup⟩ := RootAt.succ_iff.mp hroot'
            obtain rfl := Option.some.inj (hlink.symm.trans hy)
            obtain ⟨root, hrootLookup⟩ := climbs_known (t := h.table) hup.1 ⟨parent, hlookup⟩
            obtain rfl := h.table.name_key r root hrootLookup
            have hfound : realParent current 100 parent = some root :=
              (realParent_iff h.table hlookup).mpr ⟨hrootLookup, m, by omega, hup⟩
            rw [hfound] at hreal
            exact absurd hreal (by simp)
        | some root =>
          simp only
          obtain ⟨-, n, -, hup⟩ := (realParent_iff h.table hlookup).mp hreal
          obtain ⟨m, hroot⟩ := h.shortcut.exists_rootAt (hup.of_next hlink)
          cases m with
          | zero =>
            have hnone := h.shortcut.of_root (RootAt.zero_iff.mp hroot).2
            rw [hlink] at hnone
            exact absurd hnone (by simp)
          | succ m => exact ih _ (h.link hkey hroot) hrest

/-- Every slot is as it was, but for a parent that is the root of the chain of the slot. -/
def RootsAsParents (t : ParentTable) (fixed : SlotTable) : Prop :=
  fixed.keys = t.slots.keys ∧ ∀ k s, t.slots.lookup k = some s → ∃ s', fixed.lookup k = some s' ∧
    (s.parent = none ∧ s' = s ∨
      s.parent ≠ none ∧ ∃ n r, RootAt (parentLink t.slots) n k r ∧ s' = s.withParent r)

lemma RootedEntry.root {k : String} {s s' : RaucSlot} (h : RootedEntry t k s s')
    (hs : t.slots.lookup k = some s) :
    s.parent = none ∧ s' = s ∨ s.parent ≠ none ∧ ∃ n r, RootAt (parentLink t.slots) n k r ∧
      s' = s.withParent r := by
  rcases h with hnone | ⟨n, r, hroot, rfl⟩
  · exact .inl hnone
  · refine .inr ⟨?_, n + 1, r, hroot, rfl⟩
    obtain ⟨y, hy, -⟩ := RootAt.succ_iff.mp hroot
    rw [parentLink, hs] at hy
    intro hnone
    simp [hnone] at hy

lemma Flattening.rootsAsParents {fixed : SlotTable} (h : Flattening t [] fixed) :
    RootsAsParents t fixed := by
  refine ⟨h.same_keys, ?_⟩
  intro k s hs
  obtain ⟨s', hs', -⟩ := h.entry k s hs
  exact ⟨s', hs', (h.settled k s s' hs hs' List.not_mem_nil).root hs⟩

/-- There is at most one table with the roots as the parents. -/
lemma RootsAsParents.unique {fixed fixed' : SlotTable} (h : RootsAsParents t fixed)
    (h' : RootsAsParents t fixed') :
    fixed = fixed' := by
  apply Table.ext_lookup (h.1.trans h'.1.symm)
  intro k
  cases hs : t.slots.lookup k with
  | none =>
    have hno := hs
    rw [Table.lookup_eq_none_iff] at hno
    rw [(Table.lookup_eq_none_iff fixed k).mpr (h.1 ▸ hno), (Table.lookup_eq_none_iff fixed' k).mpr
      (h'.1 ▸ hno)]
  | some s =>
    obtain ⟨u, hu, hcase⟩ := h.2 k s hs
    obtain ⟨v, hv, hcase'⟩ := h'.2 k s hs
    rw [hu, hv]
    rcases hcase with ⟨hnone, rfl⟩ | ⟨hsome, n, r, hroot, rfl⟩
    · rcases hcase' with ⟨-, rfl⟩ | ⟨hsome, -⟩
      · rfl
      · exact absurd hnone hsome
    · rcases hcase' with ⟨hnone, -⟩ | ⟨-, m, r', hroot', rfl⟩
      · exact absurd hnone hsome
      · rw [(hroot.eq hroot').2]

lemma RootsAsParents.not_cyclic {fixed : SlotTable} (h : RootsAsParents t fixed) {k : String}
    (hk : k ∈ t.slots.keys) : ¬ Cyclic (parentLink t.slots) k := by
  intro hcyclic
  cases hs : t.slots.lookup k with
  | none => exact (Table.lookup_eq_none_iff _ _).mp hs hk
  | some s =>
    obtain ⟨s', -, ⟨hnone, -⟩ | ⟨-, n, r, hroot, -⟩⟩ := h.2 k s hs
    · have hend : RootAt (parentLink t.slots) 0 k k :=
        RootAt.zero_iff.mpr ⟨rfl, by simp [parentLink, hs, hnone]⟩
      exact hcyclic.not_rootAt hend
    · exact hcyclic.not_rootAt hroot

/-- In every order of the slots the loop fails exactly when a chain of parents is cyclic, and
otherwise it makes the root of its chain the parent of every slot that has one. -/
theorem fixGrandparentLinks_roots (t : ParentTable) (hlimit : WithinLimit t) (keys : List String)
    (hkeys : keys.Perm t.slots.keys) :
    ((∃ e, fixGrandparentLinks keys t.slots = .error e) ↔
      ∃ k ∈ t.slots.keys, Cyclic (parentLink t.slots) k) ∧
    ∀ fixed, fixGrandparentLinks keys t.slots = .ok fixed → RootsAsParents t fixed ∧
      ∀ keys', keys'.Perm t.slots.keys → fixGrandparentLinks keys' t.slots = .ok fixed := by
  have hrun : ∀ order : List String, order.Perm t.slots.keys →
      ((∃ e, fixGrandparentLinks order t.slots = .error e) ∧
        ∃ k ∈ t.slots.keys, Cyclic (parentLink t.slots) k) ∨
        ∃ fixed, fixGrandparentLinks order t.slots = .ok fixed ∧ RootsAsParents t fixed := by
    intro order horder
    rcases fixGrandparentLinks_cases hlimit order t.slots
      (flattening_start (fun k hk => horder.mem_iff.mpr hk))
      (fun k hk => horder.mem_iff.mp hk) with hfail | ⟨fixed, hfixed, hdone⟩
    · exact .inl hfail
    · exact .inr ⟨fixed, hfixed, hdone.rootsAsParents⟩
  constructor
  · rcases hrun keys hkeys with ⟨herror, hcyclic⟩ | ⟨fixed, hfixed, hroots⟩
    · exact ⟨fun _ => hcyclic, fun _ => herror⟩
    · constructor
      · rintro ⟨e, he⟩
        rw [hfixed] at he
        exact absurd he (by simp)
      · rintro ⟨k, hk, hcyclic⟩
        exact absurd hcyclic (hroots.not_cyclic hk)
  · intro fixed hfixed
    rcases hrun keys hkeys with ⟨⟨e, he⟩, -⟩ | ⟨fixed', hfixed', hroots⟩
    · rw [hfixed] at he
      exact absurd he (by simp)
    · obtain rfl := Except.ok.inj (hfixed.symm.trans hfixed')
      refine ⟨hroots, ?_⟩
      intro keys' hkeys'
      rcases hrun keys' hkeys' with ⟨-, k, hk, hcyclic⟩ | ⟨other, hother, hroots'⟩
      · exact absurd hcyclic (hroots.not_cyclic hk)
      · rw [hother, hroots'.unique hroots]

/-- Three slots, each the parent of the next one. -/
def threeGenerations : ParentTable where
  slots :=
    ⟨[("app.0", { name := "app.0", sclass := "app", device := "/dev/sda3",
                  parent := some "rootfs.0" }),
      ("rootfs.0", { name := "rootfs.0", sclass := "rootfs", device := "/dev/sda2",
                     parent := some "kernel.0" }),
      ("kernel.0", { name := "kernel.0", sclass := "kernel", device := "/dev/sda1" })], by decide⟩
  name_key := by
    intro k s hs
    have hmem := (Table.lookup_eq_some_iff _ _ _).mp hs
    simp only [List.mem_cons, Prod.mk.injEq, List.not_mem_nil, or_false] at hmem
    rcases hmem with ⟨rfl, rfl⟩ | ⟨rfl, rfl⟩ | ⟨rfl, rfl⟩ <;> rfl
  parent_known := by
    intro k s p hs hp
    have hmem := (Table.lookup_eq_some_iff _ _ _).mp hs
    simp only [List.mem_cons, Prod.mk.injEq, List.not_mem_nil, or_false] at hmem
    rcases hmem with ⟨rfl, rfl⟩ | ⟨rfl, rfl⟩ | ⟨rfl, rfl⟩
    · obtain rfl := Option.some.inj hp
      exact ⟨_, rfl⟩
    · obtain rfl := Option.some.inj hp
      exact ⟨_, rfl⟩
    · exact absurd hp (by simp)

/-- The two slots below the kernel get it as their parent, in this order and in another one. -/
theorem fixGrandparentLinks_threeGenerations :
    (∃ fixed, fixGrandparentLinks ["kernel.0", "app.0", "rootfs.0"] threeGenerations.slots =
      .ok fixed ∧
      (∀ k ∈ ["app.0", "rootfs.0"], (fixed.lookup k).bind RaucSlot.parent = some "kernel.0") ∧
      RootsAsParents threeGenerations fixed ∧
      fixGrandparentLinks ["rootfs.0", "kernel.0", "app.0"] threeGenerations.slots = .ok fixed) ∧
    ¬∃ k ∈ threeGenerations.slots.keys, Cyclic (parentLink threeGenerations.slots) k := by
  have hkernel : RootAt (parentLink threeGenerations.slots) 0 "kernel.0" "kernel.0" :=
    RootAt.zero_iff.mpr ⟨rfl, by decide⟩
  have hrootfs : RootAt (parentLink threeGenerations.slots) 1 "rootfs.0" "kernel.0" :=
    hkernel.of_next (by decide)
  have happ : RootAt (parentLink threeGenerations.slots) 2 "app.0" "kernel.0" :=
    hrootfs.of_next (by decide)
  have hlimit : WithinLimit threeGenerations := by
    intro k hk
    have hcases : k = "app.0" ∨ k = "rootfs.0" ∨ k = "kernel.0" := by
      simpa [Table.keys, threeGenerations] using hk
    rcases hcases with rfl | rfl | rfl
    · exact .inl ⟨2, _, by omega, happ⟩
    · exact .inl ⟨1, _, by omega, hrootfs⟩
    · exact .inl ⟨0, _, by omega, hkernel⟩
  obtain ⟨fixed, hfixed, hparents⟩ : ∃ fixed,
      fixGrandparentLinks ["kernel.0", "app.0", "rootfs.0"] threeGenerations.slots = .ok fixed ∧
        ∀ k ∈ ["app.0", "rootfs.0"], (fixed.lookup k).bind RaucSlot.parent = some "kernel.0" :=
    ⟨_, rfl, by decide⟩
  obtain ⟨herror, hroots⟩ := fixGrandparentLinks_roots threeGenerations hlimit ["kernel.0",
    "app.0", "rootfs.0"] (by decide)
  refine ⟨⟨fixed, hfixed, hparents, (hroots fixed hfixed).1,
    (hroots fixed hfixed).2 _ (by decide)⟩, fun hcyclic => ?_⟩
  obtain ⟨e, he⟩ := herror.mpr hcyclic
  exact absurd (hfixed.symm.trans he) (by simp)

end Runs

end RaucUpdate
