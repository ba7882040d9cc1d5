import RaucUpdate.Proofs.ArtifactData

/-!
# The object store of a composefs repository

What every artifact needs stays in the store, whatever fails and wherever an execution stops:
objects are there before the artifact gets its name, and what a crash may have damaged is not needed
by anything and is removed before the next installation looks for objects that it can use again.
-/

namespace RaucUpdate

open Library Prog

section Invariants

variable {st st' : CfsState} {e : String}

/-- The entry of an artifact. Temporary entries have another end. -/
structure FinalName (e : String) : Prop where
  artifact : hasPrefix ".artifact-" e = true
  notTmp : ¬".tmp".toList <:+ e.toList

/-- The image and everything it requires have reached the disk. -/
structure Whole (st : CfsState) (e : String) : Prop where
  synced : (st.image e).synced = true
  objects : ∀ object ∈ (st.image e).objects, st.store.lookup object = some (.complete true)

lemma Whole.congr {e' : String} (h : Whole st e) (himage : st'.image e' = st.image e)
    (hstore : st'.store = st.store) :
    Whole st' e' := by
  constructor
  · rw [himage]
    exact h.synced
  · rw [himage, hstore]
    exact h.objects

def ObjectsKept (st : CfsState) : Prop := ∀ e, HasDir st.repo.dir e → FinalName e → Whole st e

def LocalListed (st : CfsState) : Prop := ∀ object, object ∈ st.localStoreObjects ↔
    st.store.lookup object ≠ none

/-- What is known after the repository has been read. -/
structure Prepared (st : CfsState) : Prop where
  kept : ObjectsKept st
  keyed : Keyed st.repo.artifacts
  listed : ∀ e, HasDir st.repo.dir e → ListedAs (HasDir st.repo.dir) st.repo.artifacts e
  localListed : LocalListed st

/-- What is known after it has been pruned: no object in the store is damaged. -/
structure Pruned (st : CfsState) : Prop where
  kept : ObjectsKept st
  keyed : Keyed st.repo.artifacts
  owned : ∀ e, HasDir st.repo.dir e → Owned st.repo.artifacts e
  localListed : LocalListed st
  undamaged : ∀ object stored, st.store.lookup object = some stored → ∃ synced, stored =
    .complete synced

lemma storeDir_not_final : ¬FinalName storeDirName := fun h => absurd h.artifact (by decide)

lemma tmpName_not_final (n d : String) : ¬FinalName (artifactTmpName n d) := by
  intro h
  apply h.notTmp
  unfold artifactTmpName
  rw [String.toList_append]
  exact List.suffix_append _ _

lemma storeDir_no_match : matchArtifactEntry storeDirName = none := by decide

lemma entryName_ne_storeDir (n d : String) : artifactEntryName n d ≠ storeDirName := by
  intro h
  have hpre : hasPrefix ".artifact-" (artifactEntryName n d) = true := by
    rw [hasPrefix_iff]
    exact ⟨n.toList ++ '-' :: d.toList, by simp [artifactEntryName, String.toList_append]⟩
  rw [h] at hpre
  exact absurd hpre (by decide)

/-- What is read as an artifact has no temporary name. -/
lemma finalName_of_match {artifact : String × String} (h : matchArtifactEntry e = some artifact) :
    FinalName e := by
  have hpre : hasPrefix ".artifact-" e = true := by
    unfold matchArtifactEntry at h
    split_ifs at h with hpre
    exact hpre
  refine ⟨hpre, ?_⟩
  rintro ⟨front, htmp⟩
  obtain ⟨rest, hrest⟩ := (hasPrefix_iff _ _).mp hpre
  have hlast : e.toList.getLast? = some 'p' := by
    rw [← htmp, List.getLast?_append_of_ne_nil _ (by decide)]
    rfl
  rcases List.eq_nil_or_concat rest with rfl | ⟨body, c, rfl⟩
  · rw [hrest, List.append_nil] at hlast
    exact absurd hlast (by decide)
  · rw [hrest, List.concat_eq_append, ← List.append_assoc, List.getLast?_concat] at hlast
    obtain rfl := Option.some.inj hlast
    rw [List.concat_eq_append] at hrest
    rw [matchArtifactEntry_of_last hrest] at h
    simp at h

lemma Pruned.prepared (h : Pruned st) : Prepared st where
  kept := h.kept
  keyed := h.keyed
  listed e hdir n d hmatch := by
    rcases h.owned e hdir with rfl | hin
    · rw [storeDir_no_match] at hmatch
      simp at hmatch
    · exact .inl hin
  localListed := h.localListed

lemma HasDir.of_changeDir {rs : RepoState} {change : RepoDir → RepoDir}
    (h : HasDir (rs.changeDir change).dir e) :
    HasDir (change rs.dir) e := by
  obtain ⟨b, hdata⟩ := h
  rcases rs.changeDir_dir change with hdir | hdir
  · rw [hdir] at hdata
    exact ⟨b, hdata⟩
  · rw [hdir] at hdata
    simp at hdata

/-- Nothing that is required is overwritten by an object that was not complete on disk. -/
lemma ObjectsKept.setObject (h : ObjectsKept st) {o : ObjectName}
    (ho : st.store.lookup o ≠ some (.complete true))
    (stored : StoredObject) : ObjectsKept (st.setObject o stored) := by
  intro e hdir hfinal
  refine ⟨(h e hdir hfinal).synced, ?_⟩
  intro o' ho'
  have hthere := (h e hdir hfinal).objects o' ho'
  change (st.store.set o stored).lookup o' = _
  rw [Table.lookup_set, if_neg]
  · exact hthere
  · rintro rfl
    exact ho hthere

/-- The directories have become fewer, and the rest is as it was. -/
structure Shrunk (st st' : CfsState) : Prop where
  dirs : OnlyData (HasDir st.repo.dir) st'.repo
  image : st'.image = st.image
  store : st'.store = st.store
  localStore : st'.localStoreObjects = st.localStoreObjects

lemma Shrunk.kept (h : Shrunk st st') (hkept : ObjectsKept st) : ObjectsKept st' := by
  rintro e ⟨b, hdata⟩ hfinal
  exact (hkept e (h.dirs e b hdata) hfinal).congr (by rw [h.image]) h.store

lemma Shrunk.localListed (h : Shrunk st st') (hlisted : LocalListed st) : LocalListed st' := by
  intro object
  rw [h.localStore, h.store]
  exact hlisted object

/-- Programs on the directory leave the images and the store alone. -/
lemma triple_onDirectory {α : Type} {P : CfsState → Prop} {p : RepoProg α}
    {Q : CfsState → α → RepoState → Prop}
    (h : ∀ st, P st → DataTriple (HasDir st.repo.dir) (· = st.repo) p
      (fun a rs => OnlyData (HasDir st.repo.dir) rs ∧ Q st a rs)) :
    Triple P (onDirectory p) (fun a st' => ∃ st, P st ∧ Shrunk st st' ∧ Q st a st'.repo)
      (fun _ st' => ∃ st, P st ∧ Shrunk st st') := by
  apply triple_zoom
  intro st hst
  refine triple_consequence (h st hst) (fun _ hs => hs) ?_ ?_
  · rintro a rs ⟨hdirs, hQ⟩
    exact ⟨st, hst, ⟨hdirs, rfl, rfl, rfl⟩, hQ⟩
  · intro _ rs hdirs
    exact ⟨st, hst, ⟨hdirs, rfl, rfl, rfl⟩⟩

end Invariants

section Preparing

variable {st st' : CfsState}

/-- What is known between the reading of the artifacts and that of the store. -/
structure ArtifactsRead (st : CfsState) : Prop where
  kept : ObjectsKept st
  keyed : Keyed st.repo.artifacts
  listed : ∀ e, HasDir st.repo.dir e → ListedAs (HasDir st.repo.dir) st.repo.artifacts e

/-- With fewer directories an artifact without one still has none. -/
lemma ListedAs.anti {D D' : String → Prop} {table : ArtifactTable} {e : String}
    (h : ListedAs D table e)
    (hD : ∀ e', D' e' → D e') : ListedAs D' table e := by
  intro n d hmatch
  rcases h n d hmatch with hin | ⟨n', d', hfind, hlost⟩
  · exact .inl hin
  · exact .inr ⟨n', d', hfind, fun hdir => hlost (hD _ hdir)⟩

/-- The directory of the store belongs to no artifact. -/
lemma ArtifactsRead.mkdir (h : ArtifactsRead st) :
    ArtifactsRead (st.setRepo (st.repo.changeDir addStoreDir)) := by
  have hdirs : ∀ e, HasDir (st.repo.changeDir addStoreDir).dir e → HasDir st.repo.dir e ∨
      e = storeDirName := by
    intro e hdir
    obtain ⟨b, hdata⟩ := hdir.of_changeDir
    unfold addStoreDir at hdata
    split_ifs at hdata
    · exact .inl ⟨b, hdata⟩
    · rw [Table.lookup_set] at hdata
      split_ifs at hdata with he
      · exact .inr he.symm
      · exact .inl ⟨b, hdata⟩
  constructor
  case kept =>
    intro e hdir hfinal
    rcases hdirs e hdir with hdir | rfl
    · exact (h.kept e hdir hfinal).congr rfl rfl
    · exact absurd hfinal storeDir_not_final
  case keyed => exact h.keyed
  case listed =>
    intro e hdir n d hmatch
    rcases hdirs e hdir with hdir | rfl
    · rcases h.listed e hdir n d hmatch with hin | ⟨n', d', hfind, hlost⟩
      · exact .inl hin
      · refine .inr ⟨n', d', hfind, fun hdir' => ?_⟩
        rcases hdirs _ hdir' with hdir' | hname
        · exact hlost hdir'
        · exact entryName_ne_storeDir n' d' hname
    · rw [storeDir_no_match] at hmatch
      simp at hmatch

lemma ArtifactsRead.setLocal (h : ArtifactsRead st) (objects : List ObjectName) :
    ArtifactsRead (st.setLocal objects) :=
  ⟨fun e hdir hfinal => (h.kept e hdir hfinal).congr rfl rfl, h.keyed, h.listed⟩

lemma listObject_triple (object : ObjectName) (rest : List ObjectName) :
    Triple (fun st => ArtifactsRead st ∧
        ∀ o, (o ∈ st.localStoreObjects ∨ o ∈ object :: rest) ↔ st.store.lookup o ≠ none)
      (listObject object)
      (fun _ st => ArtifactsRead st ∧ ∀ o, (o ∈ st.localStoreObjects ∨ o ∈ rest) ↔
        st.store.lookup o ≠ none)
      (fun _ => ObjectsKept) := by
  unfold listObject
  refine triple_bind (triple_external_id (fun _ _ h => h.1.kept)) (fun _ => ?_)
  apply triple_modify
  rintro st ⟨hread, hlisted⟩
  refine ⟨hread.setLocal _, fun o => ?_⟩
  refine Iff.trans ?_ (hlisted o)
  change (o ∈ st.localStoreObjects.insert object ∨ o ∈ rest) ↔ _
  rw [List.mem_insert_iff, List.mem_cons]
  tauto

lemma prepareComposefs_triple (repo : ComposefsRepo) :
    Triple ObjectsKept (prepareComposefs repo) (fun _ => Prepared) (fun _ => ObjectsKept) := by
  unfold prepareComposefs
  have hread : Triple ObjectsKept (onDirectory (readArtifacts repo)) (fun _ => ArtifactsRead)
      (fun _ => ObjectsKept) := by
    refine triple_consequence (triple_onDirectory (Q := fun st _ rs =>
      DataWithin (HasDir st.repo.dir) (ListedAs (HasDir st.repo.dir)) rs) ?_) (fun _ h => h) ?_ ?_
    · intro st _
      exact triple_consequence (readArtifacts_triple repo st.repo) (fun _ h => h) (fun _ _ h =>
        ⟨h.data, h⟩)
        (fun _ _ h => h)
    · rintro _ st' ⟨st, hkept, hshrunk, hwithin⟩
      refine ⟨hshrunk.kept hkept, hwithin.keyed, ?_⟩
      rintro e ⟨b, hdata⟩
      exact (hwithin.known e b hdata).anti (fun e' ⟨b', hdata'⟩ => hwithin.data e' b' hdata')
    · rintro _ st' ⟨st, hkept, hshrunk⟩
      exact hshrunk.kept hkept
  refine triple_bind hread (fun _ => ?_)
  unfold rComposefsArtifactRepoPrepare
  have hclear : Triple ArtifactsRead (modify (CfsState.setLocal []) : CfsProg Unit)
      (fun _ st => ArtifactsRead st ∧ st.localStoreObjects = []) (fun _ => ObjectsKept) :=
    triple_modify (fun st h => ⟨h.setLocal [], rfl⟩)
  refine triple_bind hclear (fun _ => ?_)
  have hmkdir : Triple (fun st => ArtifactsRead st ∧ st.localStoreObjects = [])
      (onDirectory (changeDir "Failed to create composefs object store: " addStoreDir))
      (fun _ st => ArtifactsRead st ∧ st.localStoreObjects = []) (fun _ => ObjectsKept) := by
    apply triple_zoom
    rintro st ⟨hst, hlocal⟩
    apply triple_external
    · rintro _ rfl
      exact ⟨hst.mkdir, hlocal⟩
    · rintro _ rfl _
      exact hst.kept
    · rintro _ rfl
      exact hst.kept
  refine triple_bind hmkdir (fun _ => ?_)
  refine triple_bind (triple_external_id (fun _ _ h => h.1.kept)) (fun _ => ?_)
  apply triple_read_bind
  rintro st ⟨hst, hlocal⟩
  refine triple_consequence (triple_each (fun rest st' => ArtifactsRead st' ∧
    ∀ o, (o ∈ st'.localStoreObjects ∨ o ∈ rest) ↔
      st'.store.lookup o ≠ none) listObject_triple st.store.keys) ?_ ?_
    (fun _ _ h => h)
  · rintro st rfl
    refine ⟨hst, fun o => ?_⟩
    rw [hlocal, Ne, Table.lookup_eq_none_iff, not_not]
    simp
  · rintro _ st' ⟨hst', hlisted⟩
    exact ⟨hst'.kept, hst'.keyed, hst'.listed, fun o => by rw [← hlisted o]; simp⟩

end Preparing

section Pruning

variable {st st' : CfsState}

/-- What is known between the removal of artifacts and that of objects. -/
structure Swept (st : CfsState) : Prop extends Prepared st where
  expected : ∀ e, HasDir st.repo.dir e → Expected e

/-- What an artifact that is there under its name requires. -/
def RequiredBy (st : CfsState) (object : ObjectName) : Prop :=
  ∃ e, HasDir st.repo.dir e ∧ FinalName e ∧ object ∈ (st.image e).objects

lemma composefsObjectsFromImage_peeks (st : CfsState) (e : String) :
    Peeks st (composefsObjectsFromImage e) (fun objects => HasDir st.repo.dir e ∧
      objects = (st.image e).objects) := by
  unfold composefsObjectsFromImage
  apply peeks_external
  apply peeks_read
  split
  · rename_i complete hlookup
    exact peeks_pure ⟨⟨complete, hlookup⟩, rfl⟩
  · exact peeks_exit

/-- The loop adds up what all artifacts in memory require, and each of them has its directory. -/
lemma collectRequired_peeks (st : CfsState) (artifacts : List RArtifact)
    (required : List ObjectName) :
    Peeks st (collectRequired artifacts required)
      (fun r => (∀ a ∈ artifacts, HasDir st.repo.dir a.path) ∧
      ∀ o, o ∈ r ↔ o ∈ required ∨ ∃ a ∈ artifacts, o ∈ (st.image a.path).objects) := by
  induction artifacts generalizing required with
  | nil => exact peeks_pure ⟨by simp, by simp⟩
  | cons artifact rest ih =>
    apply peeks_bind (composefsObjectsFromImage_peeks st artifact.path)
    rintro objects ⟨hdir, rfl⟩
    refine triple_consequence (ih (required ∪ (st.image artifact.path).objects)) (fun _ h => h) ?_
      (fun _ _ h => h)
    rintro r _ ⟨hst, hdirs, hr⟩
    refine ⟨hst, ?_, ?_⟩
    · rw [List.forall_mem_cons]
      exact ⟨hdir, hdirs⟩
    · intro o
      rw [hr, List.mem_union_iff, List.exists_mem_cons_iff, or_assoc]

/-- Once all artifacts in memory have been looked at, they are those of the directory. -/
lemma Swept.owned (h : Swept st) (hdirs : ∀ a ∈ artifactList st.repo.artifacts,
    HasDir st.repo.dir a.path) {e : String}
    (hdir : HasDir st.repo.dir e) : Owned st.repo.artifacts e := by
  rcases h.expected e hdir with hmatch | hstore
  · obtain ⟨⟨n, d⟩, hmatch⟩ := Option.isSome_iff_exists.mp hmatch
    rcases h.listed e hdir n d hmatch with hin | ⟨n', d', hfind, hlost⟩
    · exact .inr hin
    · obtain ⟨a, ha⟩ := Option.ne_none_iff_exists'.mp hfind
      obtain ⟨rfl, rfl⟩ := h.keyed n' d' a ha
      exact absurd (hdirs a (mem_artifactList ha)) hlost
  · exact .inl hstore

lemma Swept.finalName (h : Swept st) {a : RArtifact} (hdir : HasDir st.repo.dir a.path) :
    FinalName a.path := by
  rcases h.expected _ hdir with hmatch | hstore
  · obtain ⟨artifact, hmatch⟩ := Option.isSome_iff_exists.mp hmatch
    exact finalName_of_match hmatch
  · exact absurd hstore (entryName_ne_storeDir a.name a.digest)

/-- What is required by the artifacts in memory is what is required by those in the directory. -/
lemma Swept.requiredBy_iff (h : Swept st)
    (hdirs : ∀ a ∈ artifactList st.repo.artifacts, HasDir st.repo.dir a.path)
    (o : ObjectName) :
    RequiredBy st o ↔ ∃ a ∈ artifactList st.repo.artifacts, o ∈ (st.image a.path).objects := by
  constructor
  · rintro ⟨e, hdir, hfinal, ho⟩
    rcases h.owned hdirs hdir with rfl | ⟨n, d, hfind, rfl⟩
    · exact absurd hfinal storeDir_not_final
    · obtain ⟨a, ha⟩ := Option.ne_none_iff_exists'.mp hfind
      obtain ⟨rfl, rfl⟩ := h.keyed n d a ha
      exact ⟨a, mem_artifactList ha, ho⟩
  · rintro ⟨a, ha, ho⟩
    exact ⟨a.path, hdirs a ha, h.finalName (hdirs a ha), ho⟩

/-- What is known while unused objects are removed: those that were looked at are gone unless they
are required, and nothing else has changed. -/
structure Removing (before : CfsState) (required done : List ObjectName) (st : CfsState) :
    Prop where
  repo : st.repo = before.repo
  image : st.image = before.image
  removed : ∀ o ∈ done, o ∉ required → st.store.lookup o = none
  stays : ∀ o, o ∉ done ∨ o ∈ required → st.store.lookup o = before.store.lookup o
  localListed : LocalListed st

lemma Removing.kept {before : CfsState} {required done : List ObjectName}
    (h : Removing before required done st)
    (hkept : ObjectsKept before) (hrequired : ∀ o, RequiredBy before o →
      before.store.lookup o ≠ none → o ∈ required) :
    ObjectsKept st := by
  intro e hdir hfinal
  rw [h.repo] at hdir
  have hwhole := hkept e hdir hfinal
  constructor
  · rw [h.image]
    exact hwhole.synced
  · intro o ho
    rw [h.image] at ho
    have hthere := hwhole.objects o ho
    rw [h.stays o (.inr (hrequired o ⟨e, hdir, hfinal, ho⟩ (by simp [hthere])))]
    exact hthere

lemma removeUnused_triple {before : CfsState} {required done : List ObjectName} {o : ObjectName}
    {E : Exit GError → CfsState → Prop} (hE : ∀ x st, Removing before required done st → E x st) :
    Triple (Removing before required done) (removeUnused required o)
      (fun _ => Removing before required (done ++ [o])) E := by
  unfold removeUnused
  split_ifs with hrequired
  · apply triple_pure
    intro st h
    refine ⟨h.repo, h.image, ?_, ?_, h.localListed⟩
    · intro o' ho' hnot
      rcases List.mem_append.mp ho' with hdone | hlast
      · exact h.removed o' hdone hnot
      · rw [List.mem_singleton.mp hlast] at hnot
        exact absurd hrequired hnot
    · intro o' ho'
      exact h.stays o' (ho'.imp_left (fun hnot hdone => hnot (List.mem_append_left _ hdone)))
  · apply triple_read_bind
    intro st hst
    split_ifs with hcontains
    · refine triple_bind (Q := fun _ st' => st' = st.eraseObject o) (triple_external ?_ ?_ ?_)
        (fun _ => ?_)
      · rintro _ rfl
        rfl
      · rintro _ rfl _
        exact hE _ _ hst
      · rintro _ rfl
        exact hE _ _ hst
      · apply triple_modify
        rintro _ rfl
        have herase : ∀ o', (st.store.erase o).lookup o' = if o =
            o' then none else st.store.lookup o' :=
          Table.lookup_erase st.store o
        constructor
        case repo => exact hst.repo
        case image => exact hst.image
        case removed =>
          intro o' ho' hnot
          refine (herase o').trans ?_
          split_ifs with hsame
          · rfl
          · rcases List.mem_append.mp ho' with hdone | hlast
            · exact hst.removed o' hdone hnot
            · exact absurd (List.mem_singleton.mp hlast).symm hsame
        case stays =>
          intro o' ho'
          have hsame : o ≠ o' := by
            rintro rfl
            rcases ho' with hnot | hin
            · exact hnot (List.mem_append_right _ List.mem_cons_self)
            · exact hrequired hin
          refine (herase o').trans ?_
          rw [if_neg hsame]
          exact hst.stays o' (ho'.imp_left (fun hnot hdone => hnot (List.mem_append_left _ hdone)))
        case localListed =>
          intro o'
          have hlisted := hst.localListed o'
          change o' ∈ st.localStoreObjects.filter (· ≠ o) ↔ (st.store.erase o).lookup o' ≠ none
          rw [herase, List.mem_filter, hlisted]
          by_cases hsame : o = o'
          · simp [hsame]
          · simp [hsame, Ne.symm hsame]
    · apply triple_exit
      rintro _ rfl
      exact hE _ _ hst

/-- After a successful pruning the store holds what is required, as it was before, and nothing
else. -/
def PrunedFrom (before after : CfsState) : Prop :=
  ∀ o, (RequiredBy after o → after.store.lookup o = before.store.lookup o) ∧
    (¬RequiredBy after o → after.store.lookup o = none)

/-- At the end of the loop over all objects. -/
lemma Removing.finished {before : CfsState} {found : List ObjectName} (hswept : Swept before)
    (hdirs : ∀ a ∈ artifactList before.repo.artifacts, HasDir before.repo.dir a.path)
    (hin : ∀ o, o ∈ found ↔ RequiredBy before o ∧ before.store.lookup o ≠ none)
    (h : Removing before found before.localStoreObjects st) : Pruned st ∧ PrunedFrom before st := by
  have hother : ∀ o, o ∉ found → st.store.lookup o = none := by
    intro o hnot
    by_cases hlocal : o ∈ before.localStoreObjects
    · exact h.removed o hlocal hnot
    · rw [h.stays o (.inl hlocal)]
      by_contra hthere
      exact hlocal ((hswept.localListed o).mpr hthere)
  have hrequired : ∀ o, RequiredBy st o ↔ RequiredBy before o := by
    intro o
    unfold RequiredBy
    rw [h.repo, h.image]
  have hkept := h.kept hswept.kept (fun o ho hthere => (hin o).mpr ⟨ho, hthere⟩)
  refine ⟨⟨hkept, ?_, ?_, h.localListed, ?_⟩, fun o => ⟨?_, ?_⟩⟩
  · rw [h.repo]
    exact hswept.keyed
  · intro e hdir
    rw [h.repo] at hdir ⊢
    exact hswept.owned hdirs hdir
  · intro o stored hstored
    by_cases hfound : o ∈ found
    · obtain ⟨e, hdir, hfinal, ho⟩ := ((hin o).mp hfound).1
      rw [h.stays o (.inr hfound), (hswept.kept e hdir hfinal).objects o ho] at hstored
      exact ⟨true, (Option.some.inj hstored).symm⟩
    · rw [hother o hfound] at hstored
      simp at hstored
  · intro ho
    by_cases hthere : before.store.lookup o = none
    · rw [hthere]
      exact hother o (fun hfound => ((hin o).mp hfound).2 hthere)
    · exact h.stays o (.inr ((hin o).mpr ⟨(hrequired o).mp ho, hthere⟩))
  · intro ho
    exact hother o (fun hfound => ho ((hrequired o).mpr ((hin o).mp hfound).1))

lemma rComposefsArtifactRepoPrune_triple (before : CfsState) (hswept : Swept before) :
    Triple (· = before) rComposefsArtifactRepoPrune (fun _ st => Pruned st ∧ PrunedFrom before st)
      (fun _ => ObjectsKept) := by
  unfold rComposefsArtifactRepoPrune
  apply triple_read_bind
  rintro before rfl
  have hcollect := collectRequired_peeks before (artifactList before.repo.artifacts) []
  refine triple_bind (triple_consequence hcollect (fun _ h => h) (fun _ _ h => h) ?_)
    (fun required => triple_fact ?_)
  · rintro _ _ rfl
    exact hswept.kept
  rintro ⟨hdirs, hrequired⟩
  have hneeded : ∀ o, o ∈ required ↔ RequiredBy before o := by
    intro o
    rw [hrequired, hswept.requiredBy_iff hdirs]
    simp
  generalize hfound : required.filter (· ∈ before.localStoreObjects) = found
  have hin : ∀ o, o ∈ found ↔ RequiredBy before o ∧ before.store.lookup o ≠ none := by
    intro o
    rw [← hfound, List.mem_filter, hneeded, decide_eq_true_iff, hswept.localListed]
  have hkept : ∀ done st, Removing before found done st → ObjectsKept st :=
    fun done st h => h.kept hswept.kept (fun o ho hthere => (hin o).mpr ⟨ho, hthere⟩)
  have hstep : ∀ o rest, Triple (fun st => ∃ done, done ++ o :: rest = before.localStoreObjects ∧
      Removing before found done st) (removeUnused found o)
      (fun _ st => ∃ done, done ++ rest = before.localStoreObjects ∧ Removing before found done st)
      (fun _ => ObjectsKept) := by
    intro o rest
    apply triple_start
    rintro st ⟨done, hdone, hremoving⟩
    refine triple_consequence (removeUnused_triple (fun _ st h => hkept done st h)) ?_ ?_
      (fun _ _ h => h)
    · rintro _ rfl
      exact hremoving
    · intro _ st' h
      exact ⟨done ++ [o], by rw [List.append_assoc]; exact hdone, h⟩
  have hloop : Triple (· = before) (each (removeUnused found) before.localStoreObjects)
      (fun _ => Removing before found before.localStoreObjects) (fun _ => ObjectsKept) := by
    refine triple_consequence (triple_each (fun rest st => ∃ done, done ++ rest =
      before.localStoreObjects ∧
      Removing before found done st) hstep before.localStoreObjects) ?_ ?_ (fun _ _ h => h)
    · rintro _ rfl
      exact ⟨[], rfl, rfl, rfl, by simp, fun _ _ => rfl, hswept.localListed⟩
    · rintro _ st ⟨done, hdone, hremoving⟩
      rw [List.append_nil] at hdone
      exact hdone ▸ hremoving
  refine triple_bind hloop (fun _ => ?_)
  refine triple_bind (triple_external_id (fun _ st h => hkept _ st h)) (fun _ => ?_)
  exact triple_consequence (triple_external_id (fun _ st h => hkept _ st h)) (fun _ h => h)
    (fun _ st h => h.finished hswept hdirs hin) (fun _ _ h => h)

lemma pruneComposefs_triple (repo : ComposefsRepo) (before : CfsState)
    (hprepared : Prepared before) :
    Triple (· = before) (pruneComposefs repo) (fun _ st => Pruned st ∧ PrunedFrom before st)
      (fun _ => ObjectsKept) := by
  unfold pruneComposefs
  have hsweep : Triple (· = before) (onDirectory (pruneArtifacts repo))
      (fun _ st => Swept st ∧ st.store = before.store) (fun _ => ObjectsKept) := by
    refine triple_consequence (triple_onDirectory (Q := fun _ _ rs =>
      DataWithin (fun e => HasDir before.repo.dir e ∧
        Expected e) (ListedAs (HasDir before.repo.dir)) rs) ?_)
      (fun _ h => h) ?_ ?_
    · rintro _ rfl
      refine triple_consequence (pruneArtifacts_triple repo _ hprepared.keyed hprepared.listed)
        (fun _ h => h) ?_
        (fun _ _ h => h)
      exact fun _ rs h => ⟨fun e b hdata => (h.data e b hdata).1, h⟩
    · rintro _ st ⟨_, rfl, hshrunk, hwithin⟩
      refine ⟨⟨⟨hshrunk.kept hprepared.kept, hwithin.keyed, ?_,
        hshrunk.localListed hprepared.localListed⟩, ?_⟩,
        hshrunk.store⟩
      · rintro e ⟨b, hdata⟩
        exact (hwithin.known e b hdata).anti (fun e' ⟨b', hdata'⟩ => (hwithin.data e' b' hdata').1)
      · rintro e ⟨b, hdata⟩
        exact (hwithin.data e b hdata).2
    · rintro _ st ⟨_, rfl, hshrunk⟩
      exact hshrunk.kept hprepared.kept
  refine triple_bind hsweep (fun _ => ?_)
  apply triple_start
  rintro swept ⟨hswept, hstore⟩
  refine triple_consequence (rComposefsArtifactRepoPrune_triple swept hswept) (fun _ h => h) ?_
    (fun _ _ h => h)
  rintro _ st ⟨hpruned, hfrom⟩
  refine ⟨hpruned, fun o => ⟨fun ho => ?_, (hfrom o).2⟩⟩
  rw [(hfrom o).1 ho, hstore]

end Pruning

section Installing

variable {st st' : CfsState}

/-- What is known while an artifact is filled under its temporary name. -/
structure Filling (name digest : String) (st : CfsState) : Prop where
  inTable : InTable st.repo.artifacts (artifactEntryName name digest)
  kept : ObjectsKept st
  keyed : Keyed st.repo.artifacts
  owned : ∀ e, HasDir st.repo.dir e → e = artifactTmpName name digest ∨ Owned st.repo.artifacts e
  localListed : LocalListed st
  undamaged : ∀ object stored, st.store.lookup object = some stored → ∃ synced, stored =
    .complete synced

lemma Pruned.shrunk (h : Pruned st) (hshrunk : Shrunk st st') {D : String → Prop}
    (hwithin : DataWithin D Owned st'.repo) : Pruned st' where
  kept := hshrunk.kept h.kept
  keyed := hwithin.keyed
  owned := fun e ⟨b, hdata⟩ => hwithin.known e b hdata
  localListed := hshrunk.localListed h.localListed
  undamaged := hshrunk.store ▸ h.undamaged

/-- Programs that keep the directory in order keep the rest as well. -/
lemma triple_onDirectory_pruned {α : Type} {p : RepoProg α} {Q : α → RepoState → Prop}
    (h : ∀ D, DataTriple D (DataWithin D Owned) p (fun a rs => DataWithin D Owned rs ∧ Q a rs)) :
    Triple Pruned (onDirectory p) (fun a st => Pruned st ∧ Q a st.repo) (fun _ => ObjectsKept) := by
  refine triple_consequence (triple_onDirectory (Q := fun st a rs =>
    DataWithin (HasDir st.repo.dir) Owned rs ∧ Q a rs) ?_) (fun _ h => h) ?_ ?_
  · intro st hst
    refine triple_consequence (h (HasDir st.repo.dir)) ?_ (fun a rs hrs => ⟨hrs.1.data, hrs⟩)
      (fun _ _ h => h)
    rintro _ rfl
    exact ⟨fun e b hdata => ⟨b, hdata⟩, hst.keyed, fun e b hdata => hst.owned e ⟨b, hdata⟩⟩
  · rintro a st' ⟨st, hst, hshrunk, hwithin, hQ⟩
    exact ⟨hst.shrunk hshrunk hwithin, hQ⟩
  · rintro _ st' ⟨st, hst, hshrunk⟩
    exact hshrunk.kept hst.kept

lemma checkComposefsInstall_peeks (image : RaucImage) (name digest : String) (rs : RepoState) :
    Peeks rs (checkComposefsInstall image name digest) (fun _ => True) := by
  have hfilename : Peeks rs (absoluteFilename image) (fun _ => True) := by
    unfold absoluteFilename
    split
    · split_ifs
      · exact peeks_pure trivial
      · exact peeks_exit
    · exact peeks_exit
  have hconverted : Peeks rs (artifactGetConverted image "composefs") (fun _ => True) := by
    unfold artifactGetConverted
    split
    · exact peeks_pure trivial
    · exact peeks_exit
    · split_ifs
      · exact peeks_pure trivial
      · exact peeks_pure trivial
  unfold checkComposefsInstall
  apply peeks_bind (entryExists_peeks _ rs)
  intro _ _
  apply peeks_bind (gAssert_peeks _ _ rs)
  intro _ _
  apply peeks_bind (entryExists_peeks _ rs)
  intro _ _
  apply peeks_bind (gAssert_peeks _ _ rs)
  intro _ _
  exact peeks_bind hfilename (fun _ _ => hconverted)

lemma Pruned.filling {name digest : String} (h : Pruned st)
    (hin : InTable st.repo.artifacts (artifactEntryName name digest)) : Filling name digest st :=
  ⟨hin, h.kept, h.keyed, fun e hdir => .inr (h.owned e hdir), h.localListed, h.undamaged⟩

lemma Filling.setTmp {name digest : String} (h : Filling name digest st) (complete : Bool) :
    Filling name digest
      (st.setRepo (st.repo.changeDir (fun dir => dir.set (artifactTmpName name digest)
        (.data complete)))) := by
  have hdirs :
      ∀ e, HasDir (st.repo.changeDir (fun dir => dir.set (artifactTmpName name digest)
      (.data complete))).dir e →
      HasDir st.repo.dir e ∨ e = artifactTmpName name digest := by
    intro e hdir
    obtain ⟨b, hdata⟩ := hdir.of_changeDir
    rw [Table.lookup_set] at hdata
    split_ifs at hdata with he
    · exact .inr he.symm
    · exact .inl ⟨b, hdata⟩
  refine ⟨h.inTable, ?_, h.keyed, ?_, h.localListed, h.undamaged⟩
  · intro e hdir hfinal
    rcases hdirs e hdir with hdir | rfl
    · exact (h.kept e hdir hfinal).congr rfl rfl
    · exact absurd hfinal (tmpName_not_final name digest)
  · intro e hdir
    rcases hdirs e hdir with hdir | rfl
    · exact h.owned e hdir
    · exact .inl rfl

/-- Another entry comes into being under a temporary name. -/
lemma fillTmp_triple (name digest text : String) :
    Triple (fun st => Pruned st ∧ InTable st.repo.artifacts (artifactEntryName name digest))
      (onDirectory (fillTmp name digest text)) (fun _ => Filling name digest)
      (fun _ => ObjectsKept) := by
  apply triple_zoom
  rintro st ⟨hst, hin⟩
  unfold fillTmp
  dsimp only
  split_ifs
  · apply triple_exit
    rintro _ rfl
    exact hst.kept
  · have hset : ∀ complete, Triple (fun rs => Filling name digest (st.setRepo rs))
        (changeDir text (fun dir => dir.set (artifactTmpName name digest) (.data complete)))
        (fun _ rs => Filling name digest (st.setRepo rs))
        (fun _ rs => ObjectsKept (st.setRepo rs)) :=
      fun complete => triple_external (fun rs h => h.setTmp complete) (fun rs h _ => h.kept)
        (fun rs h => h.kept)
    refine triple_consequence (triple_bind (hset false) (fun _ => hset true)) ?_ (fun _ _ h => h)
      (fun _ _ h => h)
    rintro _ rfl
    exact hst.filling hin

/-- A copied object is none that is required yet, and it is complete before it counts as being
there. -/
lemma copyObject_triple (name digest : String) (objects : List ObjectName) (o : ObjectName)
    (rest : List ObjectName) :
    Triple (fun st => Filling name digest st ∧ (st.image (artifactTmpName name digest)).objects =
        objects ∧
        ∀ o' ∈ objects, o' ∈ o :: rest ∨ st.store.lookup o' ≠ none)
      (copyObject o)
      (fun _ st => Filling name digest st ∧ (st.image (artifactTmpName name digest)).objects =
        objects ∧
        ∀ o' ∈ objects, o' ∈ rest ∨ st.store.lookup o' ≠ none)
      (fun _ => ObjectsKept) := by
  unfold copyObject
  refine triple_bind (triple_external_id (fun _ st h => h.1.kept)) (fun _ => ?_)
  apply triple_read_bind
  rintro st ⟨hst, hobjects, hthere⟩
  split_ifs with hcontains
  · apply triple_exit
    rintro _ rfl
    exact hst.kept
  · have hnone : st.store.lookup o = none := by simpa [Table.contains] using hcontains
    have hkept := hst.kept.setObject (o := o) (by simp [hnone]) .incomplete
    have hkept' := hkept.setObject (o := o) (by simp [CfsState.setObject]) (.complete false)
    refine triple_bind (Q := fun _ st' => st' = st.setObject o .incomplete)
      (triple_external ?_ ?_ ?_) (fun _ => ?_)
    · rintro _ rfl
      rfl
    · rintro _ rfl _
      exact hst.kept
    · rintro _ rfl
      exact hst.kept
    refine triple_bind (Q := fun _ st' => st' =
      (st.setObject o .incomplete).setObject o (.complete false))
      (triple_external ?_ ?_ ?_) (fun _ => ?_)
    · rintro _ rfl
      rfl
    · rintro _ rfl _
      exact hkept
    · rintro _ rfl
      exact hkept
    apply triple_modify
    rintro _ rfl
    have hlookup : ∀ o', ((st.store.set o .incomplete).set o (.complete false)).lookup o' =
        if o = o' then some (.complete false) else st.store.lookup o' := by
      intro o'
      rw [Table.lookup_set, Table.lookup_set]
      split_ifs
      · rfl
      · rfl
    refine ⟨⟨hst.inTable, ?_, hst.keyed, hst.owned, ?_, ?_⟩, hobjects, ?_⟩
    · exact fun e hdir hfinal => (hkept' e hdir hfinal).congr rfl rfl
    · intro o'
      change o' ∈ st.localStoreObjects.insert o ↔
        ((st.store.set o .incomplete).set o (.complete false)).lookup o' ≠ none
      rw [hlookup, List.mem_insert_iff, hst.localListed o']
      by_cases hsame : o = o'
      · simp [hsame]
      · simp [hsame, Ne.symm hsame]
    · intro o' stored hstored
      change ((st.store.set o .incomplete).set o (.complete false)).lookup o' =
        some stored at hstored
      rw [hlookup] at hstored
      split_ifs at hstored
      · exact ⟨false, (Option.some.inj hstored).symm⟩
      · exact hst.undamaged o' stored hstored
    · intro o' ho'
      change o' ∈ rest ∨ ((st.store.set o .incomplete).set o (.complete false)).lookup o' ≠ none
      rw [hlookup]
      by_cases hsame : o = o'
      · exact .inr (by simp [hsame])
      · rw [if_neg hsame]
        rcases hthere o' ho' with hin | hthere'
        · exact .inl ((List.mem_cons.mp hin).resolve_left (Ne.symm hsame))
        · exact .inr hthere'

/-- What is known once all objects are there, before anything is synced. -/
structure Filled (name digest : String) (st : CfsState) : Prop extends Filling name digest st where
  objects : ∀ o ∈ (st.image (artifactTmpName name digest)).objects, st.store.lookup o ≠ none

lemma Filling.setImage {name digest : String} (h : Filling name digest st) (image : ImageFile) :
    Filling name digest (st.setImage (artifactTmpName name digest) image) := by
  refine ⟨h.inTable, ?_, h.keyed, h.owned, h.localListed, h.undamaged⟩
  intro e hdir hfinal
  have himage : (st.setImage (artifactTmpName name digest) image).image e = st.image e := by
    apply if_neg
    rintro rfl
    exact tmpName_not_final name digest hfinal
  exact (h.kept e hdir hfinal).congr himage rfl

lemma rComposefsArtifactInstall_triple (source : Option LcfsNode) (name digest : String) :
    Triple (fun st => Pruned st ∧ InTable st.repo.artifacts (artifactEntryName name digest))
      (rComposefsArtifactInstall source name digest) (fun _ => Filled name digest)
      (fun _ => ObjectsKept) := by
  unfold rComposefsArtifactInstall
  refine triple_bind (fillTmp_triple name digest _) (fun _ => ?_)
  have himage : Triple (Filling name digest)
      (modify (CfsState.setImage (artifactTmpName name digest) ⟨source, false⟩) : CfsProg Unit)
      (fun _ => Filling name digest) (fun _ => ObjectsKept) :=
    triple_modify (fun st h => h.setImage _)
  refine triple_bind himage (fun _ => ?_)
  apply triple_start
  intro st hst
  refine triple_bind (triple_consequence (composefsObjectsFromImage_peeks st _) (fun _ h => h)
    (fun _ _ h => h) ?_)
    (fun objects => triple_fact ?_)
  · rintro _ _ rfl
    exact hst.kept
  rintro ⟨-, rfl⟩
  apply triple_read_bind
  rintro st rfl
  refine triple_consequence (triple_each (fun rest st' => Filling name digest st' ∧
    (st'.image (artifactTmpName name digest)).objects =
      (st.image (artifactTmpName name digest)).objects ∧
    ∀ o ∈ (st.image (artifactTmpName name digest)).objects, o ∈ rest ∨ st'.store.lookup o ≠ none)
    (copyObject_triple _ _ _) _) ?_ ?_ (fun _ _ h => h)
  · rintro st rfl
    refine ⟨hst, rfl, fun o ho => ?_⟩
    by_cases hlocal : o ∈ st.localStoreObjects
    · exact .inr ((hst.localListed o).mp hlocal)
    · left
      unfold getObjectsSorted
      rw [List.mem_mergeSort, List.mem_filter]
      exact ⟨ho, by simpa using hlocal⟩
  · rintro _ st' ⟨hfilling, hobjects, hthere⟩
    exact ⟨hfilling, fun o ho => (hthere o (hobjects ▸ ho)).resolve_left List.not_mem_nil⟩

/-- What is known once everything is synced: the artifact may get its name. -/
structure Synchronised (name digest : String) (st : CfsState) :
    Prop extends Filling name digest st where
  whole : Whole st (artifactTmpName name digest)

lemma lookup_sync (o : ObjectName) : st.sync.store.lookup o = (st.store.lookup o).map syncObject :=
  Table.lookup_mapValues _ _ _

lemma Filled.sync {name digest : String} (h : Filled name digest st) :
    Synchronised name digest st.sync := by
  have hwhole : ∀ o, st.store.lookup o ≠ none → st.sync.store.lookup o = some (.complete true) := by
    intro o ho
    obtain ⟨stored, hstored⟩ := Option.ne_none_iff_exists'.mp ho
    obtain ⟨synced, rfl⟩ := h.undamaged o stored hstored
    rw [lookup_sync, hstored]
    rfl
  have hthere : ∀ o, st.sync.store.lookup o ≠ none ↔ st.store.lookup o ≠ none := by
    intro o
    rw [lookup_sync, Ne, Option.map_eq_none_iff]
  refine ⟨⟨h.inTable, ?_, h.keyed, h.owned, ?_, ?_⟩, rfl, fun o ho => hwhole o (h.objects o ho)⟩
  · intro e hdir hfinal
    refine ⟨rfl, fun o ho => hwhole o ?_⟩
    rw [(h.kept e hdir hfinal).objects o ho]
    simp
  · exact fun o => (h.localListed o).trans (hthere o).symm
  · intro o stored hstored
    have hsynced := hwhole o ((hthere o).mp (by rw [hstored]; simp))
    rw [hstored] at hsynced
    exact ⟨true, Option.some.inj hsynced⟩

/-- The artifact appears under its name together with an image whose objects are all there. -/
lemma Synchronised.rename {name digest : String} (h : Synchronised name digest st) :
    Pruned (st.renameArtifact name digest) := by
  have hdirs : ∀ e, HasDir (st.renameArtifact name digest).repo.dir e →
      e = artifactEntryName name digest ∨ (HasDir st.repo.dir e ∧ Owned st.repo.artifacts e) := by
    intro e hdir
    have hrenamed :
        HasDir (renameEntry (artifactTmpName name digest) (artifactEntryName name digest)
        st.repo.dir) e :=
      HasDir.of_changeDir hdir
    obtain ⟨b, hdata⟩ := hrenamed
    unfold renameEntry at hdata
    split at hdata
    · rename_i hnone
      refine .inr ⟨⟨b, hdata⟩, (h.owned e ⟨b, hdata⟩).resolve_left ?_⟩
      rintro rfl
      rw [hnone] at hdata
      simp at hdata
    · rw [Table.lookup_set, Table.lookup_erase] at hdata
      split_ifs at hdata with hname htmpName
      · exact .inl hname.symm
      · exact .inr ⟨⟨b, hdata⟩, (h.owned e ⟨b, hdata⟩).resolve_left (Ne.symm htmpName)⟩
  have himage : ∀ e, (st.renameArtifact name digest).image e =
      if e = artifactEntryName name digest then st.image (artifactTmpName name digest)
      else st.image e := fun _ => rfl
  refine ⟨?_, h.keyed, ?_, h.localListed, h.undamaged⟩
  · intro e hdir hfinal
    by_cases hname : e = artifactEntryName name digest
    · exact h.whole.congr ((himage e).trans (if_pos hname)) rfl
    · exact (h.kept e ((hdirs e hdir).resolve_left hname).1 hfinal).congr
        ((himage e).trans (if_neg hname)) rfl
  · intro e hdir
    rcases hdirs e hdir with rfl | ⟨-, howned⟩
    · exact .inr h.inTable
    · exact howned

lemma installComposefs_triple (repo : ComposefsRepo) (image : RaucImage) (source : Option LcfsNode)
    (name digest : String) :
    Triple (fun st => Pruned st ∧ InTable st.repo.artifacts (artifactEntryName name digest))
      (installComposefs repo image source name digest) (fun _ => Pruned)
        (fun _ => ObjectsKept) := by
  unfold installComposefs
  have hcheck : Triple (fun st => Pruned st ∧
      InTable st.repo.artifacts (artifactEntryName name digest))
      (onDirectory (checkComposefsInstall image name digest))
      (fun _ st => Pruned st ∧ InTable st.repo.artifacts (artifactEntryName name digest))
        (fun _ => ObjectsKept) := by
    apply triple_zoom
    intro st hst
    refine triple_consequence (checkComposefsInstall_peeks image name digest st.repo)
      (fun _ h => h) ?_ ?_
    · rintro _ _ ⟨rfl, -⟩
      exact hst
    · rintro _ _ rfl
      exact hst.1.kept
  refine triple_bind hcheck (fun converted => ?_)
  cases converted with
  | false => exact triple_exit (fun st h => h.1.kept)
  | true =>
    refine triple_bind (rComposefsArtifactInstall_triple source name digest) (fun _ => ?_)
    refine triple_bind (triple_external_id (fun _ st h => h.kept)) (fun _ => ?_)
    refine triple_bind (Q := fun _ => Synchronised name digest)
      (triple_external (fun st h => h.sync) (fun st h _ => h.kept) (fun st h => h.kept))
        (fun _ => ?_)
    refine triple_bind (Q := fun _ => Pruned)
      (triple_external (fun st h => h.rename) (fun st h _ => h.kept) (fun st h => h.kept))
        (fun _ => ?_)
    exact triple_external_id (fun _ st h => h.kept)

lemma handleComposefsPlan_triple (repo : ComposefsRepo) (manifest : RaucManifest)
    (plan : ComposefsPlan) :
    Triple Pruned (handleComposefsPlan repo manifest plan) (fun _ => Pruned)
      (fun _ => ObjectsKept) := by
  unfold handleComposefsPlan
  have hcommit :
      Triple Pruned (onDirectory (commitArtifact repo.toRArtifactRepo plan.image plan.name))
      (fun _ => Pruned) (fun _ => ObjectsKept) := by
    refine triple_consequence (triple_onDirectory_pruned (Q := fun _ _ => True) (fun D => ?_))
      (fun _ h => h)
      (fun _ _ h => h.1) (fun _ _ h => h)
    exact triple_consequence (data_commitArtifact _ _ _) (fun _ h => h) (fun _ _ h => ⟨h, trivial⟩)
      (fun _ _ h => h)
  refine triple_bind (triple_onDirectory_pruned (fun D => data_checkRepo repo.toRArtifactRepo
    manifest plan.image plan.name))
    (fun missing => ?_)
  cases missing with
  | true =>
    refine triple_bind (triple_consequence (installComposefs_triple repo plan.image
      plan.source plan.name
      (plan.image.checksum.digest.getD "")) (fun st h => ⟨h.1, h.2 rfl⟩) (fun _ _ h => h)
        (fun _ _ h => h))
      (fun _ => hcommit)
  | false => exact triple_consequence hcommit (fun _ h => h.1) (fun _ _ h => h) (fun _ _ h => h)

end Installing

section Runs

variable {repo : ComposefsRepo} {st st' : CfsState} {phase : Phase}

/-- What the process can rely on in each phase. -/
def PhaseInv : Phase → CfsState → Prop
  | .idle => ObjectsKept
  | .prepared => Prepared
  | .pruned => Pruned

lemma PhaseInv.kept (h : PhaseInv phase st) : ObjectsKept st := by
  cases phase with
  | idle => exact h
  | prepared => exact Prepared.kept h
  | pruned => exact Pruned.kept h

lemma PhaseInv.prepared (h : PhaseInv phase st) (hphase : phase ≠ .idle) : Prepared st := by
  cases phase with
  | idle => exact absurd rfl hphase
  | prepared => exact h
  | pruned => exact Pruned.prepared h

/-- A step that does its work leads to the next phase, and any other one to the first. -/
lemma phaseInv_after {P : CfsState → Prop} {p : CfsProg Unit} (done : Phase)
    (h : Triple P p (fun _ => PhaseInv done) (fun _ => ObjectsKept)) {w : World CfsState}
    (hw : P w.state) :
    PhaseInv (phaseAfter done (p w).1) (p w).2.state := by
  cases hrun : (p w).1 with
  | value _ => exact h.value hw hrun
  | exit _ => exact h.exit hw hrun

/-- A crash damages only what no artifact requires. -/
lemma Crash.kept (hcrash : Crash st st') (h : ObjectsKept st) : ObjectsKept st' := by
  rintro e ⟨b, hdata⟩ hfinal
  have hdir : HasDir st.repo.dir e := by
    rcases hcrash.entries e with hsame | ⟨-, hdir, -⟩
    · exact ⟨b, hsame ▸ hdata⟩
    · exact hdir
  have hwhole := h e hdir hfinal
  have himage := hcrash.images e hwhole.synced
  constructor
  · rw [himage]
    exact hwhole.synced
  · intro o ho
    rw [himage] at ho
    exact hcrash.objects o (hwhole.objects o ho)

lemma Reaches.inv (h : Reaches repo phase st) : PhaseInv phase st := by
  induction h with
  | start st empty => exact fun e ⟨b, hdata⟩ => absurd hdata (empty e b)
  | prepare w _ ih => exact phaseInv_after .prepared (prepareComposefs_triple repo) ih.kept
  | prune w _ ready ih =>
    refine phaseInv_after .pruned (triple_consequence
      (pruneComposefs_triple repo w.state (ih.prepared ready))
      (fun _ h => h) (fun _ _ h => h.1) (fun _ _ h => h)) rfl
  | install w _ manifest plan ih =>
    exact phaseInv_after .pruned (handleComposefsPlan_triple repo manifest plan) ih
  | crash _ crashed ih => exact crashed.kept ih.kept

/-- Installing one artifact after the other is a part of a run. -/
lemma Reaches.plans (manifest : RaucManifest) (plans : List ComposefsPlan) :
    ∀ {w : World CfsState}, Reaches repo .pruned w.state →
      Reaches repo (phaseAfter .pruned (each (handleComposefsPlan repo manifest) plans w).1)
        (each (handleComposefsPlan repo manifest) plans w).2.state := by
  induction plans with
  | nil => exact fun h => h
  | cons plan rest ih =>
    intro w h
    have hstep := h.install w manifest plan
    change Reaches repo (phaseAfter .pruned
      ((handleComposefsPlan repo manifest plan >>= fun _ =>
        each (handleComposefsPlan repo manifest) rest) w).1)
      ((handleComposefsPlan repo manifest plan >>= fun _ =>
        each (handleComposefsPlan repo manifest) rest) w).2.state
    cases hrun : handleComposefsPlan repo manifest plan w with
    | mk o w' =>
      rw [hrun] at hstep
      cases o with
      | value _ =>
        rw [bind_of_value hrun]
        exact ih hstep
      | exit _ =>
        rw [bind_of_exit hrun]
        exact hstep

end Runs

end RaucUpdate
