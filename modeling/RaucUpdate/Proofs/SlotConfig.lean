import RaucUpdate.Model.Config
import RaucUpdate.Model.SlotConfig

namespace RaucUpdate

open Library

section Groups

/-- The white space a bootname cannot contain. -/
def PlainBootname (b : String) : Prop := b ≠ "" ∧ ' ' ∉ b.toList ∧ '\t' ∉ b.toList

lemma parseBootname_returns (group name : String) (bootnames : List String) :
    Returns (parseBootname group name bootnames)
      (fun r => ∀ b, r = some b → PlainBootname b ∧ b ∉ bootnames) := by
  refine returns_bind (consumeOptional_returns group "bootname") (fun r hr => ?_)
  cases r with
  | none => exact returns_pure (fun b h => absurd h (by simp))
  | some bootname =>
    simp only [valueCheckTabWhitespace]
    by_cases hspace : '\t' ∈ bootname.toList ∨ ' ' ∈ bootname.toList
    · rw [if_pos hspace]
      exact returns_fail
    · rw [if_neg hspace]
      by_cases hseen : bootname ∈ bootnames
      · simp only [hseen, if_true]
        exact returns_fail
      · simp only [hseen, if_false]
        refine returns_pure (fun b hb => ?_)
        obtain rfl := Option.some.inj hb
        rw [not_or] at hspace
        exact ⟨⟨fun hempty => hr (by rw [hempty]), hspace.2, hspace.1⟩, hseen⟩

lemma parseSlot_returns (ctx : ParseContext) (filename : Option String) (system : SystemSection)
    (group sclass index : String) (bootnames : List String) :
    Returns (parseSlot ctx filename system group sclass index bootnames)
      (fun s => s.parent = none ∧ ∀ b, s.bootname = some b → PlainBootname b ∧ b ∉ bootnames) := by
  iterate 5 refine returns_bind (returns_any _) (fun _ _ => ?_)
  refine returns_bind (parseBootname_returns _ _ _) (fun bootname hbootname => ?_)
  iterate 13 refine returns_bind (returns_any _) (fun _ _ => ?_)
  exact returns_pure ⟨rfl, hbootname⟩

/-- What holds of the slots read so far. -/
structure ParsedSlots (slots : SlotTable) (bootnames : List String) : Prop where
  name_key : ∀ k s, slots.lookup k = some s → s.name = k
  parent : ∀ k s, slots.lookup k = some s → s.parent = none
  plain : ∀ k s b, slots.lookup k = some s → s.bootname = some b → PlainBootname b ∧ b ∈ bootnames
  unique : ∀ k s k' s' b, slots.lookup k = some s → slots.lookup k' = some s' →
    s.bootname = some b → s'.bootname = some b → k = k'

lemma parsedSlots_empty : ParsedSlots Table.empty [] := by
  refine ⟨?_, ?_, ?_, ?_⟩
  · intro k s h
    exact absurd h (by simp)
  · intro k s h
    exact absurd h (by simp)
  · intro k s b h
    exact absurd h (by simp)
  · intro k s k' s' b h
    exact absurd h (by simp)

lemma parsedSlots_set {slots : SlotTable} {bootnames : List String}
    (h : ParsedSlots slots bootnames)
    (slot : RaucSlot) (hparent : slot.parent = none)
    (hbootname : ∀ b, slot.bootname = some b → PlainBootname b ∧ b ∉ bootnames) :
    ParsedSlots (slots.set slot.name slot) (slot.bootname.toList ++ bootnames) := by
  have hcases : ∀ k s, (slots.set slot.name slot).lookup k = some s →
      (slot.name = k ∧ slot = s) ∨ slots.lookup k = some s := by
    intro k s hk
    rw [Table.lookup_set] at hk
    split_ifs at hk with hname
    · exact Or.inl ⟨hname, Option.some.inj hk⟩
    · exact Or.inr hk
  refine ⟨?_, ?_, ?_, ?_⟩
  · intro k s hk
    rcases hcases k s hk with ⟨hname, rfl⟩ | hk
    · exact hname
    · exact h.name_key k s hk
  · intro k s hk
    rcases hcases k s hk with ⟨-, rfl⟩ | hk
    · exact hparent
    · exact h.parent k s hk
  · intro k s b hk hb
    rcases hcases k s hk with ⟨-, rfl⟩ | hk
    · exact ⟨(hbootname b hb).1, by simp [hb]⟩
    · exact ⟨(h.plain k s b hk hb).1, List.mem_append_right _ (h.plain k s b hk hb).2⟩
  · intro k s k' s' b hk hk' hb hb'
    rcases hcases k s hk with ⟨hname, rfl⟩ | hk
    · rcases hcases k' s' hk' with ⟨hname', -⟩ | hk'
      · rw [← hname, ← hname']
      · exact absurd (h.plain k' s' b hk' hb').2 (hbootname b hb).2
    · rcases hcases k' s' hk' with ⟨-, rfl⟩ | hk'
      · exact absurd (h.plain k s b hk hb).2 (hbootname b hb').2
      · exact h.unique k s k' s' b hk hk' hb hb'

lemma parseSlotGroups_returns (ctx : ParseContext) (filename : Option String)
    (system : SystemSection)
    (groups bootnames : List String) (slots : SlotTable) (h : ParsedSlots slots bootnames) :
    Returns (parseSlotGroups ctx filename system groups bootnames slots) (fun t => ∃ seen,
      ParsedSlots t seen) := by
  induction groups generalizing bootnames slots with
  | nil => exact returns_pure ⟨bootnames, h⟩
  | cons group rest ih =>
    unfold parseSlotGroups
    split
    · split
      · refine returns_bind (parseSlot_returns ctx filename system _ _ _ bootnames)
          (fun slot hslot => ?_)
        exact ih _ _ (parsedSlots_set h slot hslot.1 hslot.2)
      · exact returns_fail
    · exact ih _ _ h

end Groups

section Links

/-- What holds of the slot table while the parent pointers are set. -/
structure LinkedSlots (slots : SlotTable) : Prop where
  name_key : ∀ k s, slots.lookup k = some s → s.name = k
  plain : ∀ k s b, slots.lookup k = some s → s.bootname = some b → PlainBootname b
  unique : ∀ k s k' s' b, slots.lookup k = some s → slots.lookup k' = some s' →
    s.bootname = some b → s'.bootname = some b → k = k'
  child : ∀ k s, slots.lookup k = some s → s.parent ≠ none → s.bootname = none
  parent : ∀ k s p, slots.lookup k = some s → s.parent = some p → (slots.lookup p).isSome

lemma linkedSlots_of_parsed {slots : SlotTable} {seen : List String} (h : ParsedSlots slots seen) :
    LinkedSlots slots := by
  refine ⟨h.name_key, fun k s b hk hb => (h.plain k s b hk hb).1, h.unique, ?_, ?_⟩
  · intro k s hk hparent
    exact absurd (h.parent k s hk) hparent
  · intro k s p hk hparent
    rw [h.parent k s hk] at hparent
    exact absurd hparent (by simp)

/-- Setting the parent of a slot without bootname keeps the table linked. -/
lemma linkedSlots_setParent {slots : SlotTable} (h : LinkedSlots slots) {key p : String}
    {slot : RaucSlot}
    (hkey : slots.lookup key = some slot) (hboot : slot.bootname = none)
    (hp : (slots.lookup p).isSome) :
    LinkedSlots (slots.set key (slot.withParent p)) := by
  have hcases : ∀ k s, (slots.set key (slot.withParent p)).lookup k = some s →
      (key = k ∧ s = slot.withParent p) ∨ slots.lookup k = some s := by
    intro k s hk
    rw [Table.lookup_set] at hk
    split_ifs at hk with hname
    · exact Or.inl ⟨hname, (Option.some.inj hk).symm⟩
    · exact Or.inr hk
  have hsome : ∀ q, (slots.lookup q).isSome →
      ((slots.set key (slot.withParent p)).lookup q).isSome := by
    intro q hq
    rw [Table.lookup_set]
    split_ifs
    · rfl
    · exact hq
  refine ⟨?_, ?_, ?_, ?_, ?_⟩
  · intro k s hk
    rcases hcases k s hk with ⟨rfl, rfl⟩ | hk
    · exact h.name_key key slot hkey
    · exact h.name_key k s hk
  · intro k s b hk hb
    rcases hcases k s hk with ⟨rfl, rfl⟩ | hk
    · exact absurd hb (by simp [hboot])
    · exact h.plain k s b hk hb
  · intro k s k' s' b hk hk' hb hb'
    rcases hcases k s hk with ⟨rfl, rfl⟩ | hk
    · exact absurd hb (by simp [hboot])
    · rcases hcases k' s' hk' with ⟨rfl, rfl⟩ | hk'
      · exact absurd hb' (by simp [hboot])
      · exact h.unique k s k' s' b hk hk' hb hb'
  · intro k s hk hparent
    rcases hcases k s hk with ⟨rfl, rfl⟩ | hk
    · exact hboot
    · exact h.child k s hk hparent
  · intro k s q hk hq
    rcases hcases k s hk with ⟨rfl, rfl⟩ | hk
    · obtain rfl : p = q := Option.some.inj hq
      exact hsome p hp
    · exact hsome q (h.parent k s q hk hq)

lemma addParentPointers_linked (keys : List String) (slots slots' : SlotTable)
    (h : LinkedSlots slots)
    (hrun : addParentPointers keys slots = .ok slots') : LinkedSlots slots' := by
  induction keys generalizing slots with
  | nil =>
    simp only [addParentPointers, Except.ok.injEq] at hrun
    exact hrun ▸ h
  | cons key rest ih =>
    unfold addParentPointers at hrun
    cases hkey : slots.lookup key with
    | none =>
      simp only [hkey] at hrun
      exact ih slots h hrun
    | some slot =>
      simp only [hkey] at hrun
      cases hname : slot.parentName with
      | none =>
        simp only [hname] at hrun
        exact ih slots h hrun
      | some parentName =>
        simp only [hname] at hrun
        cases hparent : slots.lookup parentName with
        | none => simp [hparent] at hrun
        | some parent =>
          simp only [hparent] at hrun
          split_ifs at hrun with hboot
          refine ih _ (linkedSlots_setParent h hkey (by simpa using hboot) ?_) hrun
          rw [h.name_key parentName parent hparent, hparent]
          rfl

/-- A slot of a linked table without a parent to follow is a root. -/
lemma parent_none_of_parentOf {slots : SlotTable} (h : LinkedSlots slots) {k : String}
    {s : RaucSlot}
    (hk : slots.lookup k = some s) (hp : parentOf slots s = none) : s.parent = none := by
  cases hparent : s.parent with
  | none => rfl
  | some p =>
    have hsome := h.parent k s p hk hparent
    unfold parentOf at hp
    rw [hparent] at hp
    exact absurd hsome (by simpa using hp)

lemma lookup_of_parentOf {slots : SlotTable} (h : LinkedSlots slots) {s r : RaucSlot}
    (hr : parentOf slots s = some r) : slots.lookup r.name = some r := by
  unfold parentOf at hr
  obtain ⟨p, -, hp⟩ := Option.bind_eq_some_iff.mp hr
  rw [h.name_key p r hp]
  exact hp

lemma realParent_root {slots : SlotTable} (h : LinkedSlots slots) (steps : Nat) (s r : RaucSlot)
    (hs : slots.lookup s.name = some s) (hr : realParent slots steps s = some r) :
    slots.lookup r.name = some r ∧ r.parent = none := by
  induction steps generalizing s with
  | zero =>
    unfold realParent at hr
    cases hp : parentOf slots s with
    | none =>
      simp only [hp, Option.some.injEq] at hr
      exact hr ▸ ⟨hs, parent_none_of_parentOf h hs hp⟩
    | some parent => simp [hp] at hr
  | succ steps ih =>
    unfold realParent at hr
    cases hp : parentOf slots s with
    | none =>
      simp only [hp, Option.some.injEq] at hr
      exact hr ▸ ⟨hs, parent_none_of_parentOf h hs hp⟩
    | some parent =>
      simp only [hp] at hr
      exact ih parent (lookup_of_parentOf h hp) hr

/-- Outside the slots still to come, every parent is a root. -/
def RootedOutside (pending : List String) (slots : SlotTable) : Prop :=
  ∀ k s p, slots.lookup k = some s → k ∉ pending → s.parent = some p →
    ∃ r, slots.lookup p = some r ∧ r.parent = none

lemma fixGrandparentLinks_rooted (keys : List String) (slots slots' : SlotTable)
    (h : LinkedSlots slots)
    (hrooted : RootedOutside keys slots) (hrun : fixGrandparentLinks keys slots = .ok slots') :
    LinkedSlots slots' ∧ RootedOutside [] slots' := by
  induction keys generalizing slots with
  | nil =>
    simp only [fixGrandparentLinks, Except.ok.injEq] at hrun
    exact hrun ▸ ⟨h, hrooted⟩
  | cons key rest ih =>
    unfold fixGrandparentLinks at hrun
    cases hkey : slots.lookup key with
    | none =>
      simp only [hkey] at hrun
      refine ih slots h ?_ hrun
      intro k s p hk hout hp
      refine hrooted k s p hk ?_ hp
      rw [List.mem_cons, not_or]
      refine ⟨?_, hout⟩
      rintro rfl
      rw [hkey] at hk
      exact absurd hk (by simp)
    | some slot =>
      simp only [hkey] at hrun
      cases hparent : parentOf slots slot with
      | none =>
        simp only [hparent] at hrun
        refine ih slots h ?_ hrun
        intro k s p hk hout hp
        refine hrooted k s p hk ?_ hp
        rw [List.mem_cons, not_or]
        refine ⟨?_, hout⟩
        rintro rfl
        obtain rfl := Option.some.inj (hkey.symm.trans hk)
        rw [parent_none_of_parentOf h hkey hparent] at hp
        exact absurd hp (by simp)
      | some parent =>
        simp only [hparent] at hrun
        cases hreal : realParent slots 100 parent with
        | none => simp [hreal] at hrun
        | some root =>
          simp only [hreal] at hrun
          obtain ⟨hroot, hnone⟩ :=
            realParent_root h 100 parent root (lookup_of_parentOf h hparent) hreal
          have hslotParent : slot.parent ≠ none := by
            intro hno
            simp [parentOf, hno] at hparent
          have hstays : ∀ r : RaucSlot, ∀ p, slots.lookup p = some r → r.parent = none →
              (slots.set key (slot.withParent root.name)).lookup p = some r := by
            intro r p hp hr
            have hne : key ≠ p := by
              rintro rfl
              obtain rfl := Option.some.inj (hkey.symm.trans hp)
              exact hslotParent hr
            rw [Table.lookup_set, if_neg hne]
            exact hp
          refine ih _ (linkedSlots_setParent h hkey (h.child key slot hkey hslotParent)
            (by rw [hroot]; rfl)) ?_ hrun
          intro k s p hk hout hp
          rw [Table.lookup_set] at hk
          split_ifs at hk with hname
          · obtain rfl := Option.some.inj hk
            obtain rfl : root.name = p := Option.some.inj hp
            exact ⟨root, hstays root _ hroot hnone, hnone⟩
          · obtain ⟨r, hr, hrnone⟩ := hrooted k s p hk
              (by rw [List.mem_cons, not_or]; exact ⟨fun heq => hname heq.symm, hout⟩) hp
            exact ⟨r, hstays r p hr hrnone, hrnone⟩

end Links

/-- Every slot table that `parse_slots` accepts carries the invariant of a slot configuration. -/
lemma parseSlots_slotConfig (ctx : ParseContext) (filename : Option String) (system : SystemSection)
    (keyFile : KeyFile) (slots : SlotTable)
    (h : Prog.observe (parseSlots ctx filename system) keyFile = .value slots) :
    ∃ c : SlotConfig, c.slots = slots := by
  have hreturns : Returns (parseSlots ctx filename system)
      (fun t => LinkedSlots t ∧ RootedOutside [] t) := by
    refine returns_bind (returns_any _) (fun f _ => ?_)
    refine returns_bind (parseSlotGroups_returns ctx filename system _ _ _ parsedSlots_empty)
      (fun t ht => ?_)
    obtain ⟨seen, hseen⟩ := ht
    cases hadd : addParentPointers (ctx.keyOrder.keys t) t with
    | error e => exact returns_fail
    | ok linked =>
      have hlinked := addParentPointers_linked _ _ _ (linkedSlots_of_parsed hseen) hadd
      simp only
      cases hfix : fixGrandparentLinks (ctx.iterOrder.keys linked) linked with
      | error e => exact returns_fail
      | ok fixed =>
        refine returns_pure (fixGrandparentLinks_rooted _ _ _ hlinked ?_ hfix)
        intro k s p hk hout
        have hin : k ∈ linked.keys := by
          by_contra hno
          rw [(Table.lookup_eq_none_iff _ _).mpr hno] at hk
          exact absurd hk (by simp)
        exact absurd ((ctx.iterOrder.keys_perm linked).mem_iff.mpr hin) hout
  obtain ⟨hlinked, hrooted⟩ := hreturns.value (w := Prog.calm keyFile) trivial h
  have hvalues : ∀ s ∈ slots.values, slots.lookup s.name = some s := by
    intro s hs
    obtain ⟨⟨k, s'⟩, he, rfl⟩ := List.mem_map.mp hs
    have hk := (Table.lookup_eq_some_iff _ _ _).mpr he
    rw [hlinked.name_key _ _ hk]
    exact hk
  refine ⟨⟨slots, ?_, ?_, ?_, ?_, ?_, ?_⟩, rfl⟩
  · intro e he
    exact hlinked.name_key e.1 e.2 ((Table.lookup_eq_some_iff _ _ _).mpr he)
  · intro s hs t ht b hsb htb
    have hname := hlinked.unique _ s _ t b (hvalues s hs) (hvalues t ht) hsb htb
    have hlookup := hvalues s hs
    rw [hname, hvalues t ht] at hlookup
    exact (Option.some.inj hlookup).symm
  · intro s hs hempty
    exact (hlinked.plain _ s "" (hvalues s hs) hempty).1 rfl
  · intro s hs b hb
    exact (hlinked.plain _ s b (hvalues s hs) hb).2
  · intro s hs hparent
    exact hlinked.child _ s (hvalues s hs) hparent
  · intro s hs p hp
    exact hrooted _ s p (hvalues s hs) List.not_mem_nil hp

section Repositories

variable (cwd : String) (filename dataDirectory : Option String)

/-- What holds of the repositories read so far. -/
def ParsedRepos (repos : Table String RArtifactRepo) : Prop :=
  ∀ k r, repos.lookup k = some r → r.name = k ∧ rArtifactRepoIsValidType r.type = true ∧
    r.parentClass = none

lemma parseRepoType_returns (group name : String) :
    Returns (parseRepoType group name) (fun type => rArtifactRepoIsValidType type = true) := by
  refine returns_bind (returns_any _) (fun type _ => ?_)
  by_cases hvalid : rArtifactRepoIsValidType type = true
  · rw [if_pos hvalid]
    exact returns_pure hvalid
  · rw [if_neg hvalid]
    exact returns_fail

lemma parseRepo_returns (group name : String) :
    Returns (parseRepo cwd filename dataDirectory group name)
    (fun r => r.name = name ∧ rArtifactRepoIsValidType r.type = true ∧ r.parentClass = none) := by
  iterate 2 refine returns_bind (returns_any _) (fun _ _ => ?_)
  refine returns_bind (parseRepoType_returns group name) (fun type htype => ?_)
  refine returns_bind (returns_any _) (fun parentClass _ => ?_)
  by_cases hparent : parentClass.isSome = true
  · rw [if_pos hparent]
    exact returns_fail
  · rw [if_neg hparent]
    iterate 2 refine returns_bind (returns_any _) (fun _ _ => ?_)
    exact returns_pure ⟨rfl, htype, rfl⟩

lemma parseRepoGroups_returns (groups : List String) (repos : Table String RArtifactRepo)
    (h : ParsedRepos repos) :
    Returns (parseRepoGroups cwd filename dataDirectory groups repos) ParsedRepos := by
  induction groups generalizing repos with
  | nil => exact returns_pure h
  | cons group rest ih =>
    unfold parseRepoGroups
    split
    · split
      · refine returns_bind (parseRepo_returns cwd filename dataDirectory group _)
          (fun repo hrepo => ih _ ?_)
        intro k r hr
        rw [Table.lookup_set] at hr
        split_ifs at hr with hname
        · obtain rfl := Option.some.inj hr
          exact ⟨hname, hrepo.2⟩
        · exact h k r hr
      · exact returns_fail
    · exact ih repos h

/-- Slots and repositories that are parsed make up a configuration when the check of `load_config`
accepts them. -/
lemma parsed_raucConfig (ctx : ParseContext) (system : SystemSection) (keyFile keyFile' : KeyFile)
    (slots : SlotTable)
    (repos : Table String RArtifactRepo) (order : List RaucSlot)
    (hslots : Prog.observe (parseSlots ctx filename system) keyFile = .value slots)
    (hrepos : Prog.observe (parseArtifactRepos cwd filename dataDirectory) keyFile' = .value repos)
    (horder : order.Perm slots.values) (hunique : checkUniqueSlotclasses order repos = .ok ()) :
    ∃ config : RaucConfig, config.slots = slots ∧ config.artifactRepos.repos = repos := by
  obtain ⟨c, rfl⟩ := parseSlots_slotConfig ctx filename system keyFile slots hslots
  have hreturns : Returns (parseArtifactRepos cwd filename dataDirectory) ParsedRepos :=
    returns_bind (returns_any _) (fun f _ => parseRepoGroups_returns cwd filename dataDirectory _ _
      (fun _ _ hr => absurd hr (by simp)))
  have hparsed : ParsedRepos repos := hreturns.value (w := Prog.calm keyFile') trivial hrepos
  have hvalues : ∀ r ∈ repos.values, rArtifactRepoIsValidType r.type = true ∧
      r.parentClass = none := by
    intro r hr
    obtain ⟨⟨k, r'⟩, he, rfl⟩ := List.mem_map.mp hr
    exact (hparsed k _ ((Table.lookup_eq_some_iff _ _ _).mpr he)).2
  have hclasses : ∀ s ∈ c.slots.values, repos.lookup s.sclass = none := by
    intro s hs
    unfold checkUniqueSlotclasses at hunique
    cases hfind : order.find? (fun slot => repos.contains slot.sclass) with
    | some slot =>
      rw [hfind] at hunique
      exact absurd hunique (by simp)
    | none =>
      have hno := List.find?_eq_none.mp hfind s (horder.mem_iff.mpr hs)
      unfold Table.contains at hno
      exact Option.not_isSome_iff_eq_none.mp hno
  refine ⟨{ c with
    artifactRepos := ⟨repos, ?_, fun r hr => (hvalues r hr).1, fun r hr => (hvalues r hr).2⟩
    unique_slotclasses := hclasses }, rfl, rfl⟩
  intro e he
  exact (hparsed e.1 e.2 ((Table.lookup_eq_some_iff _ _ _).mpr he)).1

end Repositories

end RaucUpdate
