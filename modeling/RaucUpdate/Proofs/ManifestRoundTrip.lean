import RaucUpdate.Proofs.ManifestSections

/-!
# Saving and loading a manifest

What comes back when a saved manifest is loaded is the manifest without the parts that
`prepare_manifest` does not write; from that follows when the two are equal.
-/

namespace RaucUpdate

open Library

section ImageGroups

variable {group : String} {image : RaucImage}

/-- The target part of a group name is composed again from the slot class and the artifact. -/
lemma join_target {target slotclass : String} {artifact : Option String}
    (hslotclass : (splitAtMost '/' 2 target)[0]? = some slotclass)
    (hartifact : (splitAtMost '/' 2 target)[1]? = artifact) :
    slotclass ++ artifact.elim "" ("/" ++ ·) = target := by
  have hlength := length_splitAtMost '/' 2 (by decide) target
  have hjoin : target ≠ "" → joinFields '/' (splitAtMost '/' 2 target) = target :=
    joinFields_splitAtMost '/' 2
  cases hsplit : splitAtMost '/' 2 target with
  | nil => simp [hsplit] at hslotclass
  | cons c rest =>
    have hne : target ≠ "" := by
      rintro rfl
      simp [splitAtMost] at hsplit
    have hjoin := hjoin hne
    rw [hsplit] at hslotclass hartifact hjoin hlength
    obtain rfl : c = slotclass := by simpa using hslotclass
    cases rest with
    | nil =>
      obtain rfl : none = artifact := by simpa using hartifact
      rw [joinFields_singleton] at hjoin
      simpa using hjoin
    | cons a rest =>
      obtain rfl : some a = artifact := by simpa using hartifact
      have hnil : rest = [] := by
        apply List.length_eq_zero_iff.mp
        simp only [List.length_cons] at hlength
        omega
      rw [hnil, joinFields_cons, joinFields_singleton] at hjoin
      rw [← hjoin, String.append_assoc]
      rfl

/-- The group name is composed again from the slot class, the artifact and the variant. -/
lemma imageGroup_of_accepted (h : AcceptedImage group image) (hslotclass : image.slotclass ≠ none) :
    imageGroup image = some group := by
  obtain ⟨t, htarget, hs, ha, hv⟩ := h.target
  have hlength := length_splitAtMost '.' 3 (by decide) group
  unfold imageTarget at htarget
  split at htarget
  case h_2 => exact absurd htarget (by simp)
  case h_1 target variant hsplit =>
    obtain rfl := Option.some.inj htarget
    simp only at hs ha hv
    have hne : group ≠ "" := by
      rintro rfl
      simp [splitAtMost] at hsplit
    have hgroup := joinFields_splitAtMost '.' 3 hne
    rw [hsplit] at hgroup hlength
    obtain ⟨slotclass, hsome⟩ := Option.ne_none_iff_exists'.mp hslotclass
    have hjoin := join_target (hs.trans hsome) ha
    rw [joinFields_cons] at hgroup
    have hname :
        imageGroup image = some ("image." ++ target ++ image.variant.elim "" ("." ++ ·)) := by
      unfold imageGroup
      rw [hsome, Option.map_some, ← hjoin]
      simp only [String.append_assoc]
    rw [hname]
    apply congrArg some
    cases variant with
    | nil =>
      have hnone : image.variant = none := by simpa using hv.symm
      rw [joinFields_singleton] at hgroup
      rw [hnone, ← hgroup]
      simp
    | cons v rest =>
      have hv : image.variant = some v := by simpa using hv.symm
      have hnil : rest = [] := by
        apply List.length_eq_zero_iff.mp
        simp only [List.length_cons] at hlength
        omega
      rw [hnil, joinFields_cons, joinFields_singleton] at hgroup
      rw [hv, ← hgroup]
      simp only [Option.elim_some, String.append_assoc]
      rfl

/-- The images that are written. -/
def writtenImages (images : List RaucImage) : List RaucImage :=
  (images.filter (fun image => image.slotclass.isSome)).map writtenImage

lemma imageSection_of_accepted (h : AcceptedImage group image)
    (hslotclass : image.slotclass ≠ none) :
    imageSection image = some (group, imageTexts image) := by
  unfold imageSection
  rw [imageGroup_of_accepted h hslotclass]
  rfl

lemma imageSection_none (hslotclass : image.slotclass = none) : imageSection image = none := by
  unfold imageSection imageGroup
  rw [hslotclass]
  rfl

/-- The written image groups are among the groups that the images came from. -/
lemma imageSections_sublist {groups : List String} {images : List RaucImage}
    (h : List.Forall₂ AcceptedImage groups images) :
      ((images.filterMap imageSection).map Prod.fst).Sublist groups := by
  induction h with
  | nil => exact List.Sublist.slnil
  | @cons group image groups images himage _ ih =>
    by_cases hslotclass : image.slotclass = none
    · rw [List.filterMap_cons_none (imageSection_none hslotclass)]
      exact ih.cons group
    · rw [List.filterMap_cons_some (imageSection_of_accepted himage hslotclass), List.map_cons]
      exact ih.cons_cons group

lemma hasPrefix_meta_of_image (hpre : hasPrefix "image." group = true) :
    hasPrefix "meta." group = false := by
  obtain ⟨rest, hrest⟩ := List.isPrefixOf_iff_prefix.mp hpre
  unfold hasPrefix
  rw [← hrest]
  rfl

/-- The loop reads the image groups one after the other and goes on with the rest. -/
lemma parseGroups_images {groups : List String} {images : List RaucImage}
    (h : List.Forall₂ AcceptedImage groups images)
    (hpre : ∀ group ∈ groups, hasPrefix "image." group = true)
    (others : List ManifestSection) (names : List String) (m : RaucManifest)
    {Q : RaucManifest → KeyFile → Prop} {E : Exit GError → KeyFile → Prop}
    (hothers : Prog.Triple (SectionsLeft others)
      (parseGroups names { m with images := m.images ++ writtenImages images }) Q E) :
    Prog.Triple (SectionsLeft (images.filterMap imageSection ++ others))
      (parseGroups ((images.filterMap imageSection).map Prod.fst ++ names) m) Q E := by
  induction h generalizing m with
  | nil => simpa [writtenImages] using hothers
  | @cons group image groups images himage _ ih =>
    have hrest := ih (fun g hg => hpre g (by simp [hg]))
    by_cases hslotclass : image.slotclass = none
    · rw [List.filterMap_cons_none (imageSection_none hslotclass)]
      apply hrest
      have hskip : writtenImages (image :: images) = writtenImages images := by
        simp [writtenImages, hslotclass]
      rwa [hskip] at hothers
    · rw [List.filterMap_cons_some (imageSection_of_accepted himage hslotclass)]
      have hgroup := hpre group (by simp)
      have hwritten : writtenImages (image :: images) =
          writtenImage image :: writtenImages images := by
        unfold writtenImages
        rw [List.filter_cons, if_pos (Option.isSome_iff_ne_none.mpr hslotclass), List.map_cons]
      have hnext := hrest { m with images := m.images ++ [writtenImage image] } (by
        rw [hwritten] at hothers
        simpa using hothers)
      simp only [List.cons_append, List.map_cons, parseGroups, hgroup,
        hasPrefix_meta_of_image hgroup, if_true,
        Bool.false_eq_true, if_false]
      apply Prog.Yields.triple_bind (M := SectionsLeft (images.filterMap imageSection ++ others))
      · apply Prog.yields_bind (Prog.yields_mapError (yields_parseImage himage))
        exact Prog.yields_pure (fun _ hs => hs)
      · exact hnext

end ImageGroups

section Metadata

variable (order : MetaOrder) {rest : List ManifestSection}

lemma find_metaTexts (kvs : Table String String) (key : String) :
    (Table.find key (metaTexts order kvs)).join = stringText (kvs.lookup key) := by
  have hfind :
      ∀ keys : List String,
      Table.find key (keys.map (fun key => (key, stringText (kvs.lookup key)))) =
      if key ∈ keys then some (stringText (kvs.lookup key)) else none := by
    intro keys
    induction keys with
    | nil => rfl
    | cons k rest ih =>
      by_cases hk : k = key
      · simp [Table.find, hk]
      · have hk' : key ≠ k := Ne.symm hk
        simp [Table.find, hk, hk', ih]
  unfold metaTexts
  rw [hfind]
  split_ifs with hmem
  · rfl
  · have hnone : kvs.lookup key = none := by
      apply (Table.lookup_eq_none_iff kvs key).mpr
      rw [← (order.keys_perm kvs).mem_iff]
      exact hmem
    rw [hnone]
    rfl

lemma metaTexts_any (kvs : Table String String) : (metaTexts order kvs).any (·.2.isSome) = true ↔
    kvs.keys ≠ [] := by
  have hsome : ∀ key ∈ order.keys kvs, (stringText (kvs.lookup key)).isSome = true := by
    intro key hkey
    cases hlookup : kvs.lookup key with
    | some value => rfl
    | none =>
      exact absurd ((order.keys_perm kvs).mem_iff.mp hkey)
        ((Table.lookup_eq_none_iff kvs key).mp hlookup)
  rw [List.any_eq_true]
  constructor
  · rintro ⟨e, he, -⟩ hnil
    obtain ⟨key, hkey, -⟩ := List.mem_map.mp he
    have hmem := (order.keys_perm kvs).mem_iff.mp hkey
    rw [hnil] at hmem
    exact absurd hmem List.not_mem_nil
  · intro hne
    obtain ⟨key, hkey⟩ := List.exists_mem_of_ne_nil _ hne
    have hkey := (order.keys_perm kvs).mem_iff.mpr hkey
    exact ⟨_, List.mem_map_of_mem hkey, hsome key hkey⟩

/-- The values are collected in the order of the keys. -/
lemma yields_parseMetaKeys {f : KeyFile} {group : String} {texts : List (String × Option String)}
    {taken : List String} (keys : List String) (hnodup : keys.Nodup)
    (hkeys : ∀ key ∈ keys, key ∉ taken ∧ found texts key ≠ none ∧ EnvKey key)
    (kvs : Table String String) :
    Prog.Yields (Consuming f group texts taken) (parseMetaKeys group keys kvs)
      (keys.foldl (fun t key => t.set key ((found texts key).getD "")) kvs)
      (Consuming f group texts (keys.reverse ++ taken)) := by
  induction keys generalizing taken kvs with
  | nil => exact Prog.yields_pure (fun _ hs => hs)
  | cons key rest ih =>
    obtain ⟨hkey, hfound, name, henv⟩ := hkeys key (by simp)
    obtain ⟨value, hvalue⟩ := Option.ne_none_iff_exists'.mp hfound
    simp only [List.nodup_cons] at hnodup
    have hrest : ∀ k ∈ rest, k ∉ key :: taken ∧ found texts k ≠ none ∧ EnvKey k := by
      intro k hk
      obtain ⟨htaken, hkfound, hkenv⟩ := hkeys k (by simp [hk])
      refine ⟨?_, hkfound, hkenv⟩
      rw [List.mem_cons, not_or]
      exact ⟨fun heq => hnodup.1 (heq ▸ hk), htaken⟩
    have hnext := ih hnodup.2 hrest (kvs.set key value)
    apply Prog.yields_bind (yields_consumeRequired hkey hvalue)
    rw [henv]
    simpa [hvalue] using hnext

lemma lookup_foldl_set (value : String → String) (keys : List String) (t : Table String String)
    (key : String) :
    (keys.foldl (fun t key => t.set key (value key)) t).lookup key =
      if key ∈ keys then some (value key) else t.lookup key := by
  induction keys generalizing t with
  | nil => rfl
  | cons k rest ih =>
    rw [List.foldl_cons, ih, Table.lookup_set]
    by_cases hk : k = key
    · simp [hk]
    · have hk' : key ≠ k := Ne.symm hk
      simp [hk, hk']

lemma parseMeta_read {label : String} {kvs : Table String String} (hlabel : '.' ∉ label.toList)
    (henv : EnvKey label)
    (hkvs : ∀ key value, kvs.lookup key = some value → value ≠ "" ∧ EnvKey key) (m : RaucManifest) :
    Prog.Triple (SectionsLeft (("meta." ++ label, metaTexts order kvs) :: rest))
      (parseMeta ("meta." ++ label) m)
      (fun m' s => SectionsLeft rest s ∧ ∃ kvs', m' =
        { m with metaTable := m.metaTable.set label kvs' } ∧
        Table.lookup kvs' = Table.lookup kvs) (fun _ _ => False) := by
  have hfound : ∀ key, found (metaTexts order kvs) key = kvs.lookup key := by
    intro key
    unfold found
    rw [find_metaTexts]
    exact readString_stringText (fun h => (hkvs key "" h).1 rfl)
  have hsplit : splitAtMost '.' 2 ("meta." ++ label) = ["meta", label] :=
    splitAtMost_two '.' "meta" label (by decide)
  obtain ⟨name, henv⟩ := henv
  intro w hw
  have htext : ∀ key, w.state.text ("meta." ++ label) key =
      (Table.find key (metaTexts order kvs)).join :=
    hw.texts ("meta." ++ label, metaTexts order kvs) (by simp)
  have hstart : Consuming w.state ("meta." ++ label) (metaTexts order kvs) [] w.state := by
    refine ⟨rfl, rfl, ?_⟩
    intro key
    rw [htext, leftover_of_notMem _ List.not_mem_nil]
  have hmem : ∀ key, key ∈ w.state.keysOf ("meta." ++ label) ↔ kvs.lookup key ≠ none := by
    intro key
    rw [KeyFile.mem_keysOf, htext, find_metaTexts]
    cases kvs.lookup key <;> simp [stringText]
  have hkeys : ∀ key ∈ w.state.keysOf ("meta." ++ label),
      key ∉ [] ∧ found (metaTexts order kvs) key ≠ none ∧ EnvKey key := by
    intro key hkey
    have hne := (hmem key).mp hkey
    obtain ⟨value, hvalue⟩ := Option.ne_none_iff_exists'.mp hne
    rw [hfound]
    exact ⟨List.not_mem_nil, hne, (hkvs key value hvalue).2⟩
  have hread :=
    Prog.yields_bind (yields_parseMetaKeys (f := w.state) (w.state.keysOf ("meta." ++ label))
    (KeyFile.nodup_keysOf _ _) hkeys Table.empty)
    (f := fun kvs => do
      Prog.modify (fun f => f.removeGroup ("meta." ++ label))
      return { m with metaTable := m.metaTable.set label kvs })
    (Prog.yields_bind yields_removeGroup (Prog.yields_pure (fun _ hs => hs)))
  have hrun : parseMeta ("meta." ++ label) m w = (do
      let kvs ← parseMetaKeys ("meta." ++ label) (w.state.keysOf ("meta." ++ label)) Table.empty
      Prog.modify (fun f => f.removeGroup ("meta." ++ label))
      return { m with metaTable := m.metaTable.set label kvs } : ParseProg RaucManifest) w := by
    unfold parseMeta
    rw [hsplit]
    simp only [hlabel, if_false, henv]
    rfl
  obtain ⟨hvalue, hstate⟩ := hread w hstart
  rw [hrun]
  unfold Prog.Holds
  rw [hvalue]
  refine ⟨hstate ▸ hw.removeGroup, _, rfl, ?_⟩
  funext key
  rw [lookup_foldl_set, hfound]
  split_ifs with hkey
  · obtain ⟨value, hvalue⟩ := Option.ne_none_iff_exists'.mp ((hmem key).mp hkey)
    simp [hvalue]
  · rw [hmem, not_not] at hkey
    simp [hkey]

/-- The metadata of a label as a map, unless its section is empty. -/
def writtenMeta (table : Table String (Table String String)) (label : String) :
    Option (String → Option String) :=
  ((table.lookup label).filter (fun kvs => kvs.keys ≠ [])).map Table.lookup

lemma SectionsLeft.dropEmpty {sec : ManifestSection} {s : KeyFile}
    (h : SectionsLeft (sec :: rest) s)
    (hempty : sec.2.any (·.2.isSome) = false) : SectionsLeft rest s := by
  obtain ⟨hnodup, hgroups, htexts⟩ := h
  simp only [List.map_cons, List.nodup_cons] at hnodup
  refine ⟨hnodup.2, ?_, fun t ht => htexts t (by simp [ht])⟩
  rw [hgroups, List.filter_cons, hempty]
  rfl

lemma hasPrefix_meta (label : String) :
    hasPrefix "image." ("meta." ++ label) = false ∧
      hasPrefix "meta." ("meta." ++ label) = true := by
  constructor
  · simp only [hasPrefix, String.toList_append]
    rfl
  · simp [hasPrefix, String.toList_append]

variable (table : Table String (Table String String))

/-- The sections of some of the labels. -/
def sectionsOf (labels : List String) : List ManifestSection :=
  labels.filterMap (fun label => (table.lookup label).map (fun kvs =>
    ("meta." ++ label, metaTexts order kvs)))

/-- The loop reads the metadata groups one after the other. -/
lemma parseGroups_meta (htable : AcceptedMeta table) (labels : List String) (hnodup : labels.Nodup)
    (m : RaucManifest) :
    Prog.Triple (SectionsLeft (sectionsOf order table labels))
      (parseGroups
        (((sectionsOf order table labels).filter (fun sec => sec.2.any (·.2.isSome))).map Prod.fst)
        m)
      (fun m' s => s.groups = [] ∧ ∃ t, m' = { m with metaTable := t } ∧ ∀ label,
        (t.lookup label).map Table.lookup = (if label ∈ labels then writtenMeta table label
          else none).or
          ((m.metaTable.lookup label).map Table.lookup)) (fun _ _ => False) := by
  induction labels generalizing m with
  | nil =>
    apply Prog.triple_pure
    intro s hs
    exact ⟨hs.groups, m.metaTable, rfl, by simp⟩
  | cons label rest ih =>
    simp only [List.nodup_cons] at hnodup
    -- a label without values is not written, and nothing is read for it
    have hskip : writtenMeta table label = none →
        ∀ l, (if l ∈ label :: rest then writtenMeta table l else none) =
        if l ∈ rest then writtenMeta table l else none := by
      intro hnone l
      by_cases hl : l = label
      · simp [hl, hnone]
      · simp [hl]
    cases hlookup : table.lookup label with
    | none =>
      have hnone : writtenMeta table label = none := by simp [writtenMeta, hlookup]
      have hsections : sectionsOf order table (label :: rest) = sectionsOf order table rest := by
        unfold sectionsOf
        rw [List.filterMap_cons_none (by simp [hlookup])]
      simp only [hsections, hskip hnone]
      exact ih hnodup.2 m
    | some kvs =>
      have hsections : sectionsOf order table (label :: rest) =
          ("meta." ++ label, metaTexts order kvs) :: sectionsOf order table rest := by
        unfold sectionsOf
        rw [List.filterMap_cons_some (by simp [hlookup]; rfl)]
      by_cases hempty : kvs.keys = []
      · have hnone : writtenMeta table label = none := by simp [writtenMeta, hlookup, hempty]
        have hany : (metaTexts order kvs).any (·.2.isSome) = false := by
          rw [Bool.eq_false_iff, Ne, metaTexts_any, not_not]
          exact hempty
        simp only [hsections, hskip hnone, List.filter_cons, hany, Bool.false_eq_true, if_false]
        exact Prog.triple_consequence (ih hnodup.2 m) (fun s hs => hs.dropEmpty hany) (fun _ _ h =>
          h) (fun _ _ h => h)
      · have hany : (metaTexts order kvs).any (·.2.isSome) = true :=
          (metaTexts_any order kvs).mpr hempty
        have hwritten : writtenMeta table label = some (Table.lookup kvs) := by
          simp [writtenMeta, hlookup, hempty]
        obtain ⟨hdot, henv, hkvs⟩ := htable label kvs hlookup
        simp only [hsections, List.filter_cons, hany, if_true, List.map_cons, parseGroups,
          (hasPrefix_meta label).1,
          (hasPrefix_meta label).2, Bool.false_eq_true, if_false]
        apply Prog.Yields.triple_bind (Prog.yields_pure (fun _ hs => hs))
        apply Prog.triple_bind (parseMeta_read order hdot henv hkvs m)
        rintro _ w ⟨hleft, kvs', rfl, hsame⟩
        apply Prog.triple_consequence (ih hnodup.2
          { m with metaTable := m.metaTable.set label kvs' }) (fun _ hs => hs)
          ?_ (fun _ _ h => h) w hleft
        rintro _ s ⟨hgroups, t, rfl, ht⟩
        refine ⟨hgroups, t, rfl, ?_⟩
        intro l
        rw [ht l, Table.lookup_set]
        by_cases hl : label = l
        · subst hl
          simp [hnodup.1, hwritten, hsame]
        · have hl' : l ≠ label := Ne.symm hl
          simp [hl, hl']

end Metadata

section SavedFile

variable (order : MetaOrder) {m : RaucManifest}

lemma sectionsOf_names (table : Table String (Table String String)) (labels : List String) :
    ((sectionsOf order table labels).map Prod.fst).Sublist (labels.map ("meta." ++ ·)) := by
  induction labels with
  | nil => exact List.Sublist.slnil
  | cons label rest ih =>
    unfold sectionsOf at ih ⊢
    cases hlookup : table.lookup label with
    | none =>
      rw [List.filterMap_cons_none (by simp [hlookup])]
      exact ih.cons _
    | some kvs =>
      rw [List.filterMap_cons_some (by simp [hlookup]; rfl)]
      exact ih.cons_cons _

lemma metaLabel_injective : Function.Injective (fun label : String => "meta." ++ label) := by
  intro a b h
  have hlist := congrArg String.toList h
  simp only [String.toList_append] at hlist
  exact String.toList_inj.mp (List.append_cancel_left hlist)

/-- The names of the sections that come first. -/
def headerNames : List String := ["update", "bundle", "handler", "hooks"]

lemma manifestSections_nodup (h : AcceptedManifest m) :
    ((manifestSections order m).map Prod.fst).Nodup := by
  obtain ⟨groups, hnodup, hpre, himages⟩ := h.images
  have hsub := imageSections_sublist himages
  have hmeta := sectionsOf_names order m.metaTable (order.labels m.metaTable)
  have hlabels : ((order.labels m.metaTable).map ("meta." ++ ·)).Nodup :=
    ((order.labels_perm m.metaTable).nodup_iff.mpr m.metaTable.nodup).map metaLabel_injective
  have hheader : ∀ name ∈ headerNames, hasPrefix "image." name = false ∧ hasPrefix "meta." name =
    false := by decide
  have himage : ∀ name ∈ (m.images.filterMap imageSection).map Prod.fst, hasPrefix "image." name =
      true :=
    fun name hname => hpre name (hsub.subset hname)
  have hmetaName : ∀ name ∈ (metaSections order m.metaTable).map Prod.fst, hasPrefix "meta." name =
      true := by
    intro name hname
    obtain ⟨label, -, rfl⟩ := List.mem_map.mp (hmeta.subset hname)
    exact (hasPrefix_meta label).2
  have hnames : (manifestSections order m).map Prod.fst = headerNames ++
      (m.images.filterMap imageSection).map Prod.fst ++ (metaSections order m.metaTable).map
        Prod.fst := by
    simp [manifestSections, headerNames]
  rw [hnames, List.nodup_append', List.nodup_append']
  refine ⟨⟨by decide, hnodup.sublist hsub, ?_⟩, hlabels.sublist hmeta, ?_⟩
  · intro name hname hname'
    have hfalse := (hheader name hname).1
    rw [himage name hname'] at hfalse
    exact absurd hfalse (by simp)
  · intro name hname hname'
    have htrue := hmetaName name hname'
    rcases List.mem_append.mp hname with hname | hname
    · rw [(hheader name hname).2] at htrue
      exact absurd htrue (by simp)
    · rw [hasPrefix_meta_of_image (himage name hname)] at htrue
      exact absurd htrue (by simp)

lemma manifestSections_keys : ∀ sec ∈ manifestSections order m, (sec.2.map Prod.fst).Nodup := by
  intro sec hsec
  unfold manifestSections at hsec
  simp only [List.mem_append, List.mem_cons, List.not_mem_nil, or_false] at hsec
  rcases hsec with ((rfl | rfl | rfl | rfl) | himage) | hmeta
  · simp [updateTexts]
  · unfold bundleTexts
    cases m.bundleFormat <;> simp [verityTexts]
  · simp [handlerTexts]
  · simp [hooksTexts]
  · obtain ⟨image, -, hsection⟩ := List.mem_filterMap.mp himage
    obtain ⟨group, -, rfl⟩ := Option.map_eq_some_iff.mp hsection
    simp [imageTexts]
  · obtain ⟨label, -, hsection⟩ := List.mem_filterMap.mp hmeta
    obtain ⟨kvs, -, rfl⟩ := Option.map_eq_some_iff.mp hsection
    have hkeys := (order.keys_perm kvs).nodup_iff.mpr kvs.nodup
    simpa [metaTexts, Function.comp_def] using hkeys

lemma sectionsLeft_saved (h : AcceptedManifest m) :
    SectionsLeft (manifestSections order m) (saveManifestMem order m) := by
  have hnodup := manifestSections_nodup order h
  have hkeys := manifestSections_keys order (m := m)
  exact ⟨hnodup, KeyFile.groups_ofSections hnodup hkeys, fun sec hsec =>
    KeyFile.text_ofSections hnodup hkeys hsec⟩

/-- The manifest that is read from a saved one: the same up to what is not written. -/
def ReadBack (m m' : RaucManifest) : Prop :=
  m' = { m with updateMinRaucVersion := none, images := writtenImages m.images,
                metaTable := m'.metaTable } ∧
    ∀ label, (m'.metaTable.lookup label).map Table.lookup = writtenMeta m.metaTable label

lemma parseGroups_saved (h : AcceptedManifest m) (base : RaucManifest) (s : KeyFile)
    (hs : SectionsLeft (m.images.filterMap imageSection ++ metaSections order m.metaTable) s)
    (hbase : base.images = [] ∧ base.metaTable = Table.empty) :
    Prog.Triple (fun s' => s' = s) (parseGroups s.groups base)
      (fun m' s => s.groups = [] ∧
        ∃ t, m' = { base with images := writtenImages m.images, metaTable := t } ∧
        ∀ label, (t.lookup label).map Table.lookup =
          writtenMeta m.metaTable label) (fun _ _ => False) := by
  obtain ⟨groups, -, hpre, himages⟩ := h.images
  have hall : ∀ sec ∈ m.images.filterMap imageSection, sec.2.any (·.2.isSome) = true := by
    intro sec hsec
    obtain ⟨image, himage, hsection⟩ := List.mem_filterMap.mp hsec
    obtain ⟨i, hi, rfl⟩ := List.getElem_of_mem himage
    obtain ⟨_, -, rfl⟩ := Option.map_eq_some_iff.mp hsection
    exact imageTexts_any (himages.get (himages.length_eq ▸ hi) hi)
  have hgroups : s.groups = (m.images.filterMap imageSection).map Prod.fst ++
      ((metaSections order m.metaTable).filter (fun sec => sec.2.any (·.2.isSome))).map
        Prod.fst := by
    rw [hs.groups, List.filter_append, List.filter_eq_self.mpr hall, List.map_append]
  have hlabels := (order.labels_perm m.metaTable).nodup_iff.mpr m.metaTable.nodup
  have hmeta := parseGroups_meta order m.metaTable h.metaTable (order.labels m.metaTable) hlabels
    { base with images := base.images ++ writtenImages m.images }
  have hread := parseGroups_images himages hpre (metaSections order m.metaTable) _ base hmeta
  rw [hgroups]
  apply Prog.triple_consequence hread
  · rintro _ rfl
    exact hs
  · rintro m' s' ⟨hnil, t, rfl, ht⟩
    refine ⟨hnil, t, by rw [hbase.1]; rfl, ?_⟩
    intro label
    rw [ht label, hbase.2]
    by_cases hlabel : label ∈ order.labels m.metaTable
    · simp [hlabel]
    · have hnone : m.metaTable.lookup label = none := by
        apply (Table.lookup_eq_none_iff _ _).mpr
        rw [← (order.labels_perm m.metaTable).mem_iff]
        exact hlabel
      simp [hlabel, writtenMeta, hnone]
  · exact fun _ _ hfalse => hfalse

/-- A saved manifest is read without error. -/
lemma parseManifest_saved (h : AcceptedManifest m) :
    ∃ m', Prog.observe parseManifest (saveManifestMem order m) = .value m' ∧ ReadBack m m' := by
  obtain ⟨compatible, hcompatible⟩ := Option.ne_none_iff_exists'.mp h.compatible
  have hstrings := h.strings
  simp only [manifestStrings, List.forall_mem_cons] at hstrings
  obtain ⟨-, -, -, -, -, -, -, -, hname, hargs, hhook, -⟩ := hstrings
  have hclose : ∀ value : RaucManifest, Prog.Yields (fun s : KeyFile => s.groups = [])
      (do
        Prog.modify (fun f => f.removeGroup "rollout")
        checkRemainingGroups
        return value) value (fun s => s.groups = []) := by
    intro value
    apply Prog.yields_bind (M := fun s => s.groups = [])
    · apply Prog.yields_modify
      intro s hs
      rw [KeyFile.groups_removeGroup, hs]
      rfl
    · exact Prog.yields_bind yields_checkRemainingGroups (Prog.yields_pure (fun _ hs => hs))
  have hparse : Prog.Triple (SectionsLeft (manifestSections order m)) parseManifest (fun m' _ =>
      ReadBack m m')
      (fun _ _ => False) := by
    apply Prog.Yields.triple_bind (yields_parseUpdateSection m compatible hcompatible h.strings)
    apply Prog.Yields.triple_bind (yields_parseBundleSection _ _ _ _ _ h.format h.strings)
    apply Prog.Yields.triple_bind (yields_parseHandlerSection _ h.handler hname hargs)
    apply Prog.Yields.triple_bind (yields_parseHooksSection _ hhook)
    apply Prog.triple_read_bind
    intro s hs
    apply Prog.triple_bind (parseGroups_saved order h _ s hs ⟨rfl, rfl⟩)
    rintro _ w ⟨hnil, t, rfl, ht⟩
    apply (hclose _).triple ?_ w hnil
    intro _ _
    refine ⟨?_, ht⟩
    simp [withBundle, updateManifest, hcompatible, h.hash]
  have hsaved := sectionsLeft_saved order h
  obtain ⟨m', hvalue, hback⟩ := hparse.total (w := Prog.calm (saveManifestMem order m)) hsaved
  exact ⟨m', hvalue, hback⟩

end SavedFile

section RoundTrip

variable (digest : KeyFile → String) (order : MetaOrder)

/-- Equal in every field but the content hash, the metadata being maps. -/
def SameManifest (m m' : RaucManifest) : Prop :=
  m = { m' with metaTable := m.metaTable, hash := m.hash } ∧
    ∀ label, (m.metaTable.lookup label).map Table.lookup =
      (m'.metaTable.lookup label).map Table.lookup

/-- Every option of the manifest is one that is written: no minimum version is required, every
image has a slot class, a size that is unset or a 63-bit number, and no empty list of converted
files, and no metadata section is empty. -/
structure Writable (m : RaucManifest) : Prop where
  minRaucVersion : m.updateMinRaucVersion = none
  slotclass : ∀ image ∈ m.images, image.slotclass ≠ none
  size : ∀ image ∈ m.images, -1 ≤ image.checksum.size
  converted : ∀ image ∈ m.images, image.converted ≠ some []
  metaTable : ∀ label kvs, m.metaTable.lookup label = some kvs → kvs.keys ≠ []

lemma writtenImage_eq_self_iff (image : RaucImage) :
    writtenImage image = image ↔ -1 ≤ image.checksum.size ∧ image.converted ≠ some [] := by
  have hfields : writtenImage image = image ↔
      (if image.checksum.size ≥ 0 then image.checksum.size else -1) = image.checksum.size ∧
      (if image.converted = some [] then none else image.converted) = image.converted := by
    obtain ⟨slotclass, artifact, variant, ⟨type, digest, size⟩, filename, itype, derived, hooks,
      adaptive, convert,
      converted⟩ := image
    simp [writtenImage]
  have hsize : (if image.checksum.size ≥ 0 then image.checksum.size else -1) = image.checksum.size ↔
      -1 ≤ image.checksum.size := by
    by_cases hpos : image.checksum.size ≥ 0
    · have hlow : -1 ≤ image.checksum.size := Int64.le_trans (by decide) hpos
      simp [hpos, hlow]
    · rw [if_neg hpos]
      constructor
      · intro heq
        rw [← heq]
        decide
      · intro hlow
        rw [ge_iff_le, Int64.le_iff_toInt_le] at hpos
        rw [Int64.le_iff_toInt_le] at hlow
        have hzero : (0 : Int64).toInt = 0 := by decide
        have hone : (-1 : Int64).toInt = -1 := by decide
        apply Int64.toInt_inj.mp
        omega
  have hconverted : (if image.converted = some [] then none else image.converted) =
      image.converted ↔
      image.converted ≠ some [] := by
    split_ifs with hnil
    · simp [hnil]
    · simp [hnil]
  rw [hfields, hsize, hconverted]

lemma writtenImages_eq_self_iff (images : List RaucImage) :
    writtenImages images = images ↔ ∀ image ∈ images,
      image.slotclass ≠ none ∧ -1 ≤ image.checksum.size ∧ image.converted ≠ some [] := by
  unfold writtenImages
  constructor
  · intro heq
    have hlength := congrArg List.length heq
    rw [List.length_map] at hlength
    have hall := List.length_filter_eq_length_iff.mp hlength
    rw [List.filter_eq_self.mpr hall] at heq
    intro image himage
    refine ⟨Option.isSome_iff_ne_none.mp (hall image himage), ?_⟩
    rw [← writtenImage_eq_self_iff]
    exact List.map_inj_left.mp (heq.trans (List.map_id images).symm) image himage
  · intro hall
    rw [List.filter_eq_self.mpr (fun image himage => Option.isSome_iff_ne_none.mpr
      (hall image himage).1)]
    refine (List.map_inj_left.mpr ?_).trans (List.map_id images)
    intro image himage
    exact (writtenImage_eq_self_iff image).mpr (hall image himage).2

lemma writtenMeta_eq_iff (table : Table String (Table String String)) :
    (∀ label, writtenMeta table label = (table.lookup label).map Table.lookup) ↔
      ∀ label kvs, table.lookup label = some kvs → kvs.keys ≠ [] := by
  constructor
  · intro heq label kvs hlookup hnil
    have hlabel := heq label
    simp [writtenMeta, hlookup, hnil] at hlabel
  · intro hall label
    unfold writtenMeta
    cases hlookup : table.lookup label with
    | none => rfl
    | some kvs => simp [hall label kvs hlookup]

/-- Loading what was saved gives an equal manifest exactly when every option of it is written. -/
theorem manifest_roundTrip_iff (keyFile : KeyFile) (m : RaucManifest)
    (hload : loadManifestMem digest keyFile = .value m) :
    (∃ m', loadManifestMem digest (saveManifestMem order m) = .value m' ∧ SameManifest m' m) ↔
      Writable m := by
  have haccepted := loadManifestMem_accepted hload
  obtain ⟨back, hvalue, hfields, hmeta⟩ := parseManifest_saved order haccepted
  have hsaved : loadManifestMem digest (saveManifestMem order m) =
      .value { back with hash := some (digest (saveManifestMem order m)) } := by
    have hsame : saveManifestMem order { m with hash := none } = saveManifestMem order m := rfl
    unfold loadManifestMem
    rw [← hsame, hvalue]
  have himages := writtenImages_eq_self_iff m.images
  have htable := writtenMeta_eq_iff m.metaTable
  constructor
  · rintro ⟨m', hm', heq, hsameMeta⟩
    rw [hsaved] at hm'
    obtain rfl := Outcome.value.inj hm'
    have hmin := congrArg RaucManifest.updateMinRaucVersion heq
    have hback := congrArg RaucManifest.images heq
    simp only at hmin hback
    have hwritten : back.images = writtenImages m.images := congrArg RaucManifest.images hfields
    have hnone : back.updateMinRaucVersion = none :=
      congrArg RaucManifest.updateMinRaucVersion hfields
    have hall := himages.mp (hwritten.symm.trans hback)
    refine ⟨hmin.symm.trans hnone, fun image h => (hall image h).1, fun image h =>
      (hall image h).2.1,
      fun image h => (hall image h).2.2, htable.mp ?_⟩
    intro label
    exact (hmeta label).symm.trans (hsameMeta label)
  · intro h
    have hwritten :=
      himages.mpr (fun image hi => ⟨h.slotclass image hi, h.size image hi, h.converted image hi⟩)
    refine ⟨_, hsaved, ?_, ?_⟩
    · rw [hfields]
      simp [hwritten, h.minRaucVersion]
    · intro label
      exact (hmeta label).trans (htable.mpr h.metaTable label)

/-- A hash table that hands out its keys in the order of insertion. -/
def insertionOrder : MetaOrder where
  labels := Table.keys
  labels_perm _ := List.Perm.refl _
  keys := Table.keys
  keys_perm _ := List.Perm.refl _

/-- The manifest of a verity bundle with one image, given further keys of its `[update]` section. -/
def rootfsKeyFile (update : Table String String) : KeyFile :=
  ⟨[("update", update),
    ("bundle", ⟨[("format", "verity")], by decide⟩),
    ("image.rootfs", ⟨[("filename", "rootfs.ext4"), ("size", "1024"),
      ("sha256", "b94d27b9934d3e08a52e52d7da7dabfac484efe37a5380ee9088f7ace2efcde9")], by decide⟩),
    ("meta.release", ⟨[("channel", "stable")], by decide⟩)], by simp⟩

def rootfsManifest (minRaucVersion : Option String) : RaucManifest where
  updateCompatible := some "Test System"
  updateMinRaucVersion := minRaucVersion
  bundleFormat := .verity
  bundleFormatExplicit := true
  images := [{ slotclass := some "rootfs", filename := some "rootfs.ext4", type := some "ext4",
               typeFromFileext := true,
               checksum := ⟨.sha256,
                 some "b94d27b9934d3e08a52e52d7da7dabfac484efe37a5380ee9088f7ace2efcde9", 1024⟩ }]
  metaTable := ⟨[("release", ⟨[("channel", "stable")], by decide⟩)], by decide⟩
  hash := some ""

theorem manifest_roundTrip_rootfs :
    ∃ m', loadManifestMem (fun _ => "") (saveManifestMem insertionOrder (rootfsManifest none)) =
      .value m' ∧
      SameManifest m' (rootfsManifest none) := by
  apply (manifest_roundTrip_iff (fun _ => "") insertionOrder
    (rootfsKeyFile ⟨[("compatible", "Test System")], by decide⟩) (rootfsManifest none)
      (by decide +kernel)).mpr
  refine ⟨rfl, by decide, by decide, by decide, ?_⟩
  intro label kvs hlookup
  have hmem := (Table.lookup_eq_some_iff _ _ _).mp hlookup
  simp only [rootfsManifest, List.mem_singleton, Prod.mk.injEq] at hmem
  rw [hmem.2]
  decide

/-- The minimum version is read from the manifest and not written. -/
theorem min_rauc_version_lost :
    loadManifestMem (fun _ => "")
        (rootfsKeyFile ⟨[("compatible", "Test System"), ("min-rauc-version", "1.14")], by decide⟩) =
      .value (rootfsManifest (some "1.14")) ∧
    ¬∃ m', loadManifestMem (fun _ => "") (saveManifestMem insertionOrder
      (rootfsManifest (some "1.14"))) = .value m' ∧
      SameManifest m' (rootfsManifest (some "1.14")) := by
  refine ⟨by decide +kernel, ?_⟩
  rintro ⟨m', hload, heq, -⟩
  have hback :
      loadManifestMem (fun _ => "") (saveManifestMem insertionOrder
      (rootfsManifest (some "1.14"))) =
      .value (rootfsManifest none) := by
    decide +kernel
  rw [hback] at hload
  obtain rfl := Outcome.value.inj hload
  exact absurd (congrArg RaucManifest.updateMinRaucVersion heq) (by decide)

end RoundTrip

end RaucUpdate
