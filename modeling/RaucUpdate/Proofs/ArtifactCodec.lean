import RaucUpdate.Library.SurePrograms
import RaucUpdate.Proofs.ArtifactRepos

/-!
# The directory of a repository as the record of its artifacts

Committing a repository writes its references as symlinks, and preparing it reads artifacts and
references back from the names in the directory.
-/

namespace RaucUpdate

open Library

section Names

/-- Neither the separators of file names nor a line break. -/
structure PlainName (name : String) : Prop where
  dotless : Dotless name
  slashless : '/' ∉ name.toList
  nonempty : name ≠ ""
  oneLine : ∀ c ∈ name.toList, isNewline c = false

structure HexDigest (digest : String) : Prop where
  nonempty : digest ≠ ""
  hex : ∀ c ∈ digest.toList, isHexDigit c = true

lemma isNewline_of_isHexDigit {c : Char} (h : isHexDigit c = true) : isNewline c = false := by
  by_contra hline
  have hmem : c ∈ ['\n', '\x0b', '\x0c', '\r', Char.ofNat 0x85, Char.ofNat 0x2028,
      Char.ofNat 0x2029] :=
    List.contains_iff_mem.mp (Bool.of_not_eq_false hline)
  simp only [List.mem_cons, List.not_mem_nil, or_false] at hmem
  rcases hmem with rfl | rfl | rfl | rfl | rfl | rfl | rfl <;> exact absurd h (by decide)

/-- The last separator ends the name, whatever the name looks like. -/
lemma recognised_of_oneLine {n d : String} (hn : ∀ c ∈ n.toList, isNewline c = false)
    (hd : HexDigest d) :
    Recognised n d := by
  have hchars : (artifactEntryName n d).toList = ".artifact-".toList ++
      (n.toList ++ '-' :: d.toList) := by
    simp [artifactEntryName, String.toList_append]
  have hpre : hasPrefix ".artifact-" (artifactEntryName n d) = true :=
    (hasPrefix_iff _ _).mpr ⟨_, hchars⟩
  have hne : d.toList ≠ [] := fun h => hd.nonempty (String.toList_inj.mp h)
  have hlast : ((n.toList ++ '-' :: d.toList).getLast?.any isNewline) = false := by
    rw [List.getLast?_append_of_ne_nil _ (List.cons_ne_nil _ _), List.getLast?_cons,
      Option.any_some]
    have hmem : d.toList.getLast?.getD '-' ∈ d.toList := by
      rw [List.getLast?_eq_getLast_of_ne_nil hne]
      exact List.getLast_mem hne
    exact isNewline_of_isHexDigit (hd.hex _ hmem)
  have hreverse : (n.toList ++ '-' :: d.toList).reverse =
    d.toList.reverse ++ '-' :: n.toList.reverse := by simp
  have hall : ∀ c ∈ d.toList.reverse, isHexDigit c = true :=
    fun c hc => hd.hex c (List.mem_reverse.mp hc)
  have hdash : isHexDigit '-' = false := by decide
  have htake : (n.toList ++ '-' :: d.toList).rtakeWhile isHexDigit = d.toList := by
    unfold List.rtakeWhile
    rw [hreverse, List.takeWhile_append_of_pos hall, List.takeWhile_cons_of_neg (by simp [hdash])]
    simp
  have hdrop : ((n.toList ++ '-' :: d.toList).rdropWhile isHexDigit).reverse =
      '-' :: n.toList.reverse := by
    unfold List.rdropWhile
    rw [hreverse, List.dropWhile_append_of_pos hall, List.dropWhile_cons_of_neg (by simp [hdash])]
    simp
  unfold Recognised matchArtifactEntry
  rw [if_pos hpre, hchars, List.drop_left]
  simp only [hlast, Bool.false_eq_true, if_false, htake, hdrop]
  rw [if_pos]
  · simp
  · refine ⟨hne, ?_⟩
    rw [List.all_eq_true]
    intro c hc
    simp [hn c (List.mem_reverse.mp hc)]

lemma recognised_of_plain {n d : String} (hn : PlainName n) (hd : HexDigest d) : Recognised n d :=
  recognised_of_oneLine hn.oneLine hd

/-- What an entry is read as is also read from the entry that is made from it, although a line break
at its end is ignored. -/
lemma recognised_of_match {e n d : String} (h : matchArtifactEntry e = some (n, d)) :
    Recognised n d := by
  unfold matchArtifactEntry at h
  split_ifs at h
  dsimp only at h
  generalize (if (e.toList.drop ".artifact-".toList.length).getLast?.any isNewline then
    (e.toList.drop ".artifact-".toList.length).dropLast
      else e.toList.drop ".artifact-".toList.length) = text at h
  split at h
  · rename_i name hname
    split_ifs at h with hparts
    obtain ⟨rfl, rfl⟩ := Prod.mk.inj (Option.some.inj h)
    apply recognised_of_oneLine
    · intro c hc
      have hall := List.all_eq_true.mp hparts.2 c (by simpa using hc)
      simpa using hall
    · constructor
      · intro hempty
        exact hparts.1 (by simpa using congrArg String.toList hempty)
      · intro c hc
        rw [String.toList_ofList] at hc
        exact List.mem_rtakeWhile_imp hc
  · simp at h

end Names

section Commit

variable {dir : RepoDir} {table : ArtifactTable} {repo : RArtifactRepo}

/-- A repository with this directory and these artifacts. -/
def RepoAt (dir : RepoDir) (table : ArtifactTable) (st : RepoState) : Prop :=
  st.disk.dir = some dir ∧ st.artifacts = table

lemma RepoAt.dir_eq {st : RepoState} (h : RepoAt dir table st) : st.dir = dir := by
  unfold RepoState.dir
  rw [h.1]
  rfl

lemma sure_changeDir (text : String) (change : RepoDir → RepoDir) :
    Prog.Sure (RepoAt dir table) (changeDir text change) (fun _ => RepoAt (change dir) table) := by
  apply Prog.sure_external
  intro st hst
  exact ⟨by simp [RepoState.changeDir, hst.1], hst.2⟩

lemma sure_entryExists (e : String) :
    Prog.Sure (RepoAt dir table) (entryExists e) (fun r st => RepoAt dir table st ∧
      r = dir.contains e) := by
  apply Prog.sure_read_bind
  intro st hst
  apply Prog.sure_pure
  rintro _ rfl
  exact ⟨hst, by rw [hst.dir_eq]⟩

lemma sure_gAssert {P : RepoState → Prop} {condition : Bool} (h : condition = true)
    (text : String) :
    Prog.Sure P (gAssert condition text) (fun _ => P) := by
  unfold gAssert
  rw [if_pos h]
  exact Prog.sure_pure (fun _ hs => hs)

/-- The artifact that a commit links, if there is one. -/
def commitTarget (inner : Table String RArtifact) : Option RArtifact :=
  inner.values.find? (fun artifact => decide ("" ∈ artifact.references))

def OnDisk (dir : RepoDir) (artifact : RArtifact) : Prop :=
  dir.contains (artifactEntryName artifact.name artifact.digest) = true

lemma sure_enabledArtifact (l : List RArtifact) (h : ∀ artifact ∈ l, OnDisk dir artifact) :
    Prog.Sure (RepoAt dir table) (enabledArtifact l) (fun r st => RepoAt dir table st ∧
      r = l.find? (fun artifact => decide ("" ∈ artifact.references))) := by
  induction l with
  | nil => exact Prog.sure_pure (fun _ hst => ⟨hst, rfl⟩)
  | cons artifact rest ih =>
    refine Prog.sure_bind (sure_entryExists _) ?_
    intro found
    refine Prog.sure_fact ?_
    rintro rfl
    refine Prog.sure_bind (sure_gAssert (h artifact List.mem_cons_self) _) ?_
    intro _
    by_cases hreference : "" ∈ artifact.references
    · rw [if_pos hreference, List.find?_cons_of_pos (by simpa using hreference)]
      exact Prog.sure_pure (fun _ hst => ⟨hst, rfl⟩)
    · rw [if_neg hreference, List.find?_cons_of_neg (by simpa using hreference)]
      exact ih (fun a ha => h a (List.mem_cons_of_mem _ ha))

/-- The directory with another entry, or none, under one name. -/
def Changed (dir dir' : RepoDir) (name : String) (entry : Option RepoEntry) : Prop :=
  ∀ e, dir'.lookup e = if e = name then entry else dir.lookup e

lemma sure_replaceLink {name : String} (target : String) (hname : Dotless name)
    (hfree : dir.lookup (tmpLinkName name) = none) :
    Prog.Sure (RepoAt dir table) (replaceLink target name)
      (fun _ st => ∃ dir', RepoAt dir' table st ∧ Changed dir dir' name (some (.link target))) := by
  refine Prog.sure_bind (sure_entryExists _) ?_
  intro found
  refine Prog.sure_fact ?_
  rintro rfl
  have hnone : dir.contains (tmpLinkName name) = false := by
    unfold Table.contains
    rw [hfree]
    rfl
  rw [hnone, if_neg (by simp)]
  refine Prog.sure_bind (sure_changeDir _ _) ?_
  intro _
  refine Prog.sure_attempt_bind (sure_changeDir _ _) ?_ ?_
  · rintro ⟨⟩
    apply Prog.sure_pure
    intro st hst
    refine ⟨_, hst, ?_⟩
    intro e
    have hother := hname.ne_tmpLink name
    unfold renameEntry
    rw [Table.lookup_set, if_pos rfl]
    by_cases he : e = name
    · subst he
      simp
    · by_cases htmp : e = tmpLinkName name
      · subst htmp
        simp [he, Ne.symm he, hfree]
      · simp [he, Ne.symm he, Ne.symm htmp]
  · intro e
    refine Prog.triple_bind (Q := fun _ _ => True) ?_
      (fun _ => Prog.triple_exit (fun _ _ => trivial))
    intro w _
    unfold Prog.Holds
    split <;> trivial

/-- A link or nothing is under the name, and its temporary name is free. -/
structure LinkPlace (dir : RepoDir) (name : String) : Prop where
  plain : PlainName name
  noData : ∀ complete, dir.lookup name ≠ some (.data complete)
  free : dir.lookup (tmpLinkName name) = none

lemma sure_rUpdateSymlink {name : String} (target : String) (h : LinkPlace dir name) :
    Prog.Sure (RepoAt dir table) (rUpdateSymlink target name)
      (fun _ st => ∃ dir', RepoAt dir' table st ∧ Changed dir dir' name (some (.link target))) := by
  apply Prog.sure_read_bind
  intro st hst
  rw [if_neg h.plain.nonempty, if_neg h.plain.slashless, hst.dir_eq]
  have hreplace : Prog.Sure (fun s => s = st) (replaceLink target name)
      (fun _ st => ∃ dir', RepoAt dir' table st ∧ Changed dir dir' name (some (.link target))) :=
    Prog.sure_consequence (sure_replaceLink target h.plain.dotless h.free)
      (by rintro _ rfl; exact hst) (fun _ _ hs => hs)
  cases hentry : dir.lookup name with
  | none => exact hreplace
  | some entry =>
    cases entry with
    | data complete => exact absurd hentry (h.noData complete)
    | link old =>
      dsimp only
      by_cases hsame : old = target
      · rw [if_pos hsame]
        apply Prog.sure_pure
        rintro _ rfl
        refine ⟨dir, hst, ?_⟩
        intro e
        by_cases he : e = name
        · rw [if_pos he, he, hentry, hsame]
        · rw [if_neg he]
      · rw [if_neg hsame]
        exact hreplace

lemma sure_removeLink {name : String} (h : name ≠ "") :
    Prog.Sure (RepoAt dir table) (removeLink name)
      (fun _ st => ∃ dir', RepoAt dir' table st ∧ Changed dir dir' name none) := by
  unfold removeLink
  rw [if_neg h]
  refine Prog.sure_bind (sure_entryExists _) ?_
  intro found
  refine Prog.sure_fact ?_
  rintro rfl
  by_cases hfound : dir.contains name = true
  · rw [if_pos hfound]
    refine Prog.sure_consequence (sure_changeDir _ _) (fun _ hs => hs) ?_
    intro _ st hst
    refine ⟨_, hst, ?_⟩
    intro e
    rw [Table.lookup_erase]
    simp only [eq_comm]
  · rw [if_neg hfound]
    apply Prog.sure_pure
    intro st hst
    refine ⟨dir, hst, ?_⟩
    intro e
    by_cases he : e = name
    · rw [if_pos he, he]
      unfold Table.contains at hfound
      simpa using hfound
    · rw [if_neg he]

def linkTo (artifact : RArtifact) : RepoEntry :=
  .link (artifactEntryName artifact.name artifact.digest)

lemma sure_commitName {name : String} {inner : Table String RArtifact} (h : LinkPlace dir name)
    (hinner : ∀ artifact ∈ inner.values, OnDisk dir artifact) :
    Prog.Sure (RepoAt dir table) (commitName (name, inner))
      (fun _ st => ∃ dir', RepoAt dir' table st ∧
        Changed dir dir' name ((commitTarget inner).map linkTo)) := by
  refine Prog.sure_bind (sure_enabledArtifact inner.values hinner) ?_
  intro found
  refine Prog.sure_fact ?_
  intro hfound
  change found = commitTarget inner at hfound
  rw [← hfound]
  cases found with
  | some artifact => exact sure_rUpdateSymlink _ h
  | none => exact sure_removeLink h.plain.nonempty

/-- What a commit of these entries of the table leaves in the directory. -/
def committed (dir : RepoDir) (done : List (String × Table String RArtifact)) (e : String) :
    Option RepoEntry :=
  match Table.find e done with
  | some inner => (commitTarget inner).map linkTo
  | none => dir.lookup e

/-- Every artifact is under its own name and digest. -/
def Keyed (table : ArtifactTable) : Prop :=
  ∀ n d a, findArtifact table n d = some a → a.name = n ∧ a.digest = d

structure Committable (dir : RepoDir) (table : ArtifactTable) : Prop where
  places : ∀ name, table.lookup name ≠ none → LinkPlace dir name
  keyed : Keyed table
  onDisk : ∀ n d a, findArtifact table n d = some a → dir.contains (artifactEntryName n d) = true

lemma find_of_mem_values {name : String} {inner : Table String RArtifact}
    (hinner : table.lookup name = some inner)
    {artifact : RArtifact} (h : artifact ∈ inner.values) :
      ∃ d, findArtifact table name d = some artifact := by
  obtain ⟨⟨d, a⟩, hmem, rfl⟩ := List.mem_map.mp h
  refine ⟨d, ?_⟩
  unfold findArtifact
  rw [hinner]
  exact (Table.lookup_eq_some_iff inner d a).mpr hmem

lemma mem_artifactList {n d : String} {a : RArtifact} (h : findArtifact table n d = some a) :
    a ∈ artifactList table := by
  unfold findArtifact at h
  obtain ⟨inner, hinner, hfind⟩ := Option.bind_eq_some_iff.mp h
  have houter := (Table.lookup_eq_some_iff _ _ _).mp hinner
  have hmem := (Table.lookup_eq_some_iff _ _ _).mp hfind
  exact List.mem_flatMap.mpr ⟨inner, List.mem_map.mpr ⟨_, houter, rfl⟩,
    List.mem_map.mpr ⟨_, hmem, rfl⟩⟩

lemma PlainName.not_hidden {name : String} (h : PlainName name) : ¬ Hidden name :=
  h.dotless.not_hidden

lemma Committable.not_key (h : Committable dir table) {e : String} (he : Hidden e ∨ ¬ Dotless e) :
    table.lookup e = none := by
  by_contra hkey
  have hplain := (h.places e hkey).plain
  exact he.elim hplain.not_hidden (fun hdot => hdot hplain.dotless)

lemma find_eq_none_of_append {done rest : List (String × Table String RArtifact)}
    (hdone : done ++ rest = table.entries)
    {e : String} (he : table.lookup e = none) : Table.find e done = none := by
  unfold Table.lookup at he
  rw [← hdone, Table.find_append, Option.or_eq_none_iff] at he
  exact he.1

lemma committed_of_none {done : List (String × Table String RArtifact)} {e : String}
    (h : Table.find e done = none) :
    committed dir done e = dir.lookup e := by
  unfold committed
  rw [h]

lemma committed_snoc {done : List (String × Table String RArtifact)} {name : String}
    {inner : Table String RArtifact}
    (hnew : Table.find name done = none) (e : String) :
    committed dir (done ++ [(name, inner)]) e =
      if e = name then (commitTarget inner).map linkTo else committed dir done e := by
  unfold committed
  rw [Table.find_append]
  by_cases he : e = name
  · subst he
    simp [hnew, Table.find]
  · rw [if_neg he]
    cases Table.find e done with
    | some inner' => rfl
    | none => simp [Table.find, Ne.symm he]

lemma tmpLinkName_not_dotless (name : String) : ¬ Dotless (tmpLinkName name) :=
  fun h => h.ne_tmpLink name rfl

/-- One name after others of the table. -/
lemma sure_commitName_next (h : Committable dir table)
    {done rest : List (String × Table String RArtifact)}
    {name : String} {inner : Table String RArtifact}
    (hsplit : done ++ (name, inner) :: rest = table.entries)
    {dir' : RepoDir} (hdir' : ∀ e, dir'.lookup e = committed dir done e) :
    Prog.Sure (RepoAt dir' table) (commitName (name, inner)) (fun _ st => ∃ dir'',
      RepoAt dir'' table st ∧
      ∀ e, dir''.lookup e = committed dir (done ++ [(name, inner)]) e) := by
  have hkeys := table.nodup
  rw [← hsplit, List.map_append, List.map_cons] at hkeys
  have hnew : Table.find name done = none := by
    rw [Table.find_eq_none_iff]
    intro hmem
    exact (List.nodup_append.mp hkeys).2.2 name hmem name List.mem_cons_self rfl
  have hinner : table.lookup name = some inner :=
    (Table.lookup_eq_some_iff table name inner).mpr
      (hsplit ▸ List.mem_append_right _ List.mem_cons_self)
  have hsame : ∀ e, table.lookup e = none → dir'.lookup e = dir.lookup e :=
    fun e he => (hdir' e).trans (committed_of_none (find_eq_none_of_append hsplit he))
  have hplace := h.places name (by rw [hinner]; simp)
  have hplace' : LinkPlace dir' name := by
    refine ⟨hplace.plain, ?_, ?_⟩
    · intro complete
      rw [hdir', committed_of_none hnew]
      exact hplace.noData complete
    · rw [hsame _ (h.not_key (.inr (tmpLinkName_not_dotless name)))]
      exact hplace.free
  have hexist : ∀ artifact ∈ inner.values, OnDisk dir' artifact := by
    intro artifact hmem
    obtain ⟨d, hfind⟩ := find_of_mem_values hinner hmem
    obtain ⟨rfl, rfl⟩ := h.keyed name d artifact hfind
    have hdisk := h.onDisk _ _ _ hfind
    unfold OnDisk
    unfold Table.contains at hdisk ⊢
    rwa [hsame _ (h.not_key (.inl (hidden_entryName _ _)))]
  refine Prog.sure_consequence (sure_commitName hplace' hexist) (fun _ hs => hs) ?_
  rintro _ st ⟨dir'', hst, hchanged⟩
  refine ⟨dir'', hst, ?_⟩
  intro e
  rw [hchanged e, committed_snoc hnew, hdir' e]

lemma sure_rArtifactRepoCommit (h : Committable dir table) :
    Prog.Sure (RepoAt dir table) (rArtifactRepoCommit repo)
      (fun _ st => ∃ dir', RepoAt dir' table st ∧ ∀ e, dir'.lookup e =
        committed dir table.entries e) := by
  apply Prog.sure_read_bind
  intro st hst
  rw [hst.2]
  have hloop := Prog.sure_each (ε := GError) (f := commitName) (fun rest st => ∃ done,
    done ++ rest = table.entries ∧
    ∃ dir', RepoAt dir' table st ∧ ∀ e, dir'.lookup e = committed dir done e) ?_ table.entries
  · refine Prog.sure_bind (Prog.sure_consequence hloop ?_ (fun _ _ hs => hs)) ?_
    · rintro _ rfl
      exact ⟨[], rfl, dir, hst, fun e => rfl⟩
    · intro _
      apply Prog.sure_external
      rintro st' ⟨done, hdone, dir', hst', hdir'⟩
      rw [List.append_nil] at hdone
      exact ⟨dir', hst', hdone ▸ hdir'⟩
  · rintro ⟨name, inner⟩ rest
    apply Prog.sure_start
    rintro st' ⟨done, hdone, dir', hst', hdir'⟩
    refine Prog.sure_consequence (sure_commitName_next h hdone hdir')
      (by rintro _ rfl; exact hst') ?_
    rintro _ st'' ⟨dir'', hst'', hdir''⟩
    exact ⟨done ++ [(name, inner)], by rw [← hdone, List.append_assoc]; rfl, dir'', hst'', hdir''⟩

/-- The links are those a commit makes. -/
def Linked (dir : RepoDir) (table : ArtifactTable) : Prop :=
  ∀ name inner, table.lookup name = some inner → dir.lookup name = (commitTarget inner).map linkTo

lemma sure_commitName_same {name : String} {inner : Table String RArtifact} (hname : PlainName name)
    (hinner : ∀ artifact ∈ inner.values, OnDisk dir artifact)
    (hlinked : dir.lookup name = (commitTarget inner).map linkTo) :
    Prog.Sure (RepoAt dir table) (commitName (name, inner)) (fun _ => RepoAt dir table) := by
  refine Prog.sure_bind (sure_enabledArtifact inner.values hinner) ?_
  intro found
  refine Prog.sure_fact ?_
  intro hfound
  change found = commitTarget inner at hfound
  rw [← hfound] at hlinked
  cases found with
  | some artifact =>
    apply Prog.sure_read_bind
    intro st hst
    rw [if_neg hname.nonempty, if_neg hname.slashless, hst.dir_eq, hlinked]
    simp only [Option.map_some, linkTo, if_true]
    exact Prog.sure_pure (by rintro _ rfl; exact hst)
  | none =>
    change Prog.Sure (RepoAt dir table) (removeLink name) _
    unfold removeLink
    rw [if_neg hname.nonempty]
    refine Prog.sure_bind (sure_entryExists _) ?_
    intro exist
    refine Prog.sure_fact ?_
    rintro rfl
    have hnone : dir.contains name = false := by
      unfold Table.contains
      rw [hlinked]
      rfl
    rw [hnone, if_neg (by simp)]
    exact Prog.sure_pure (fun _ hst => hst)

/-- A commit that finds its links does not touch the directory. -/
lemma sure_rArtifactRepoCommit_same (hnames : ∀ name, table.lookup name ≠ none → PlainName name)
    (hdisk : ∀ n inner, table.lookup n = some inner → ∀ artifact ∈ inner.values,
      OnDisk dir artifact)
    (hlinked : Linked dir table) :
    Prog.Sure (RepoAt dir table) (rArtifactRepoCommit repo) (fun _ => RepoAt dir table) := by
  apply Prog.sure_read_bind
  intro st hst
  rw [hst.2]
  have hloop := Prog.sure_each (ε := GError) (f := commitName)
    (fun rest st => RepoAt dir table st ∧ ∀ entry ∈ rest, entry ∈ table.entries) ?_ table.entries
  · refine Prog.sure_bind (Prog.sure_consequence hloop ?_ (fun _ _ hs => hs)) ?_
    · rintro _ rfl
      exact ⟨hst, fun _ h => h⟩
    · intro _
      exact Prog.sure_external (fun _ hs => hs.1)
  · rintro ⟨name, inner⟩ rest
    refine Prog.sure_fact ?_
    intro hrest
    have hinner := (Table.lookup_eq_some_iff table name inner).mpr (hrest _ List.mem_cons_self)
    refine Prog.sure_consequence (sure_commitName_same (hnames name (by rw [hinner]; simp))
      (hdisk name inner hinner)
      (hlinked name inner hinner)) (fun _ hs => hs) ?_
    intro _ st' hst'
    exact ⟨hst', fun entry hentry => hrest entry (List.mem_cons_of_mem _ hentry)⟩

end Commit

section Prepare

variable {dir : RepoDir} {table : ArtifactTable} {repo : RArtifactRepo}

lemma sure_openDir : Prog.Sure (RepoAt dir table) (openDir repo)
    (fun found st => RepoAt dir table st ∧ found = dir) := by
  refine Prog.sure_bind (Prog.sure_external (Q := fun _ => RepoAt dir table) (fun _ hs => hs)) ?_
  intro _
  apply Prog.sure_read_bind
  intro st hst
  rw [hst.1]
  exact Prog.sure_pure (by rintro _ rfl; exact ⟨hst, rfl⟩)

def NoLink (dir : RepoDir) (e : String) : Prop := ∀ target, dir.lookup e ≠ some (.link target)

lemma sure_isSymlink {e : String} (h : NoLink dir e) :
    Prog.Sure (RepoAt dir table) (isSymlink e) (fun found st => RepoAt dir table st ∧
      found = false) := by
  apply Prog.sure_read_bind
  intro st hst
  rw [hst.dir_eq]
  split
  · rename_i target hlink
    exact absurd hlink (h target)
  · exact Prog.sure_pure (by rintro _ rfl; exact ⟨hst, rfl⟩)

lemma sure_changeArtifacts (change : ArtifactTable → ArtifactTable) :
    Prog.Sure (RepoAt dir table) (changeArtifacts change) (fun _ => RepoAt dir (change table)) :=
  Prog.sure_modify (fun _ hst => ⟨hst.1, congrArg change hst.2⟩)

lemma sure_rArtifactRepoInsert {artifact : RArtifact}
    (hpath : NoLink dir (artifactEntryName artifact.name artifact.digest))
    (htmp : NoLink dir (artifactTmpName artifact.name artifact.digest))
    (hnew : findArtifact table artifact.name artifact.digest = none) :
    Prog.Sure (RepoAt dir table) (rArtifactRepoInsert repo artifact)
      (fun _ => RepoAt dir (insertArtifact table artifact)) := by
  refine Prog.sure_bind (sure_isSymlink hpath) ?_
  intro path
  refine Prog.sure_fact ?_
  rintro rfl
  refine Prog.sure_bind (sure_gAssert rfl _) ?_
  intro _
  refine Prog.sure_bind (sure_isSymlink htmp) ?_
  intro tmp
  refine Prog.sure_fact ?_
  rintro rfl
  refine Prog.sure_bind (sure_gAssert rfl _) ?_
  intro _
  apply Prog.sure_read_bind
  intro st hst
  rw [hst.2, hnew]
  exact Prog.sure_consequence (sure_changeArtifacts _) (by rintro _ rfl; exact hst) (fun _ _ hs =>
    hs)

/-- One of the entries is this artifact. -/
def listed (entries : List String) (n d : String) : Bool :=
  entries.any (fun e => decide (matchArtifactEntry e = some (n, d)))

/-- Every name of the table has an artifact. -/
def Full (table : ArtifactTable) : Prop :=
  ∀ n inner, table.lookup n = some inner → ∃ d a, findArtifact table n d = some a

lemma Full.insertArtifact (h : Full table) (artifact : RArtifact) :
    Full (insertArtifact table artifact) := by
  intro n inner hinner
  by_cases hn : artifact.name = n
  · exact ⟨artifact.digest, artifact, by rw [find_insertArtifact, if_pos ⟨hn, rfl⟩]⟩
  · unfold RaucUpdate.insertArtifact at hinner
    rw [Table.lookup_set, if_neg hn] at hinner
    obtain ⟨d, a, hfind⟩ := h n inner hinner
    exact ⟨d, a, by rw [find_insertArtifact, if_neg (fun hand => hn hand.1), hfind]⟩

/-- The names under which artifacts are found can be read as artifacts. -/
structure Readable (dir : RepoDir) : Prop where
  entry : ∀ e n d, matchArtifactEntry e = some (n, d) → dir.lookup e ≠ none →
    e = artifactEntryName n d ∧ NoLink dir e ∧ NoLink dir (artifactTmpName n d)

lemma sure_prepareEntry (h : Readable dir) {done rest : List String} {e : String}
    (hsplit : done ++ e :: rest = dir.keys)
    (hfull : Full table)
    (htable : ∀ n d, findArtifact table n d =
      if listed done n d then some { name := n, digest := d } else none) :
    Prog.Sure (RepoAt dir table) (prepareEntry repo e) (fun _ st => ∃ table',
      RepoAt dir table' st ∧ Full table' ∧
      ∀ n d, findArtifact table' n d = if listed (done ++ [e]) n d then some
        { name := n, digest := d } else none) := by
  have hsnoc : ∀ n d, listed (done ++ [e]) n d =
      (listed done n d || decide (matchArtifactEntry e = some (n, d))) := by
    intro n d
    simp [listed]
  have hfound : dir.lookup e ≠ none := by
    rw [Ne, Table.lookup_eq_none_iff, not_not, ← hsplit]
    exact List.mem_append_right _ List.mem_cons_self
  unfold prepareEntry
  cases hmatch : matchArtifactEntry e with
  | none =>
    apply Prog.sure_pure
    intro st hst
    refine ⟨table, hst, hfull, ?_⟩
    intro n d
    rw [htable, hsnoc, hmatch]
    simp
  | some artifact =>
    obtain ⟨name, digest⟩ := artifact
    obtain ⟨hentry, hpath, htmp⟩ := h.entry e name digest hmatch hfound
    have hfresh : listed done name digest = false := by
      unfold listed
      rw [List.any_eq_false]
      intro e' he' hsame
      have hkeys := dir.nodup
      change dir.keys.Nodup at hkeys
      rw [← hsplit] at hkeys
      have hmatch' : matchArtifactEntry e' = some (name, digest) := by simpa using hsame
      have hfound' : dir.lookup e' ≠ none := by
        rw [Ne, Table.lookup_eq_none_iff, not_not, ← hsplit]
        exact List.mem_append_left _ he'
      have heq : e' = e := (h.entry e' name digest hmatch' hfound').1.trans hentry.symm
      exact (List.nodup_append.mp hkeys).2.2 e' he' e List.mem_cons_self heq
    have hnew : findArtifact table name digest = none := by
      rw [htable, hfresh]
      rfl
    refine Prog.sure_consequence (sure_rArtifactRepoInsert (hentry ▸ hpath) htmp hnew)
      (fun _ hs => hs) ?_
    intro _ st hst
    refine ⟨_, hst, hfull.insertArtifact _, ?_⟩
    intro n d
    rw [find_insertArtifact, htable, hsnoc, hmatch]
    by_cases hsame : name = n ∧ digest = d
    · obtain ⟨rfl, rfl⟩ := hsame
      simp
    · rw [if_neg hsame]
      have hother : ¬ (some (name, digest) = some (n, d)) := by simpa using hsame
      simp [hother]

/-- A link of the directory that counts as a reference to this artifact. -/
def leadsTo (n d : String) : String × RepoEntry → Bool
  | (name, .link target) => !hasPrefix "." name && decide (matchArtifactEntry target = some (n, d))
  | (_, .data _) => false

def RArtifact.refer (artifact : RArtifact) (count : Nat) : RArtifact :=
  { artifact with references := artifact.references ++ List.replicate count "" }

lemma find_readLink (hkeyed : Keyed table) (entry : String × RepoEntry) (n d : String) :
    findArtifact (readLink table entry) n d =
      (findArtifact table n d).map (fun a => a.refer (if leadsTo n d entry then 1 else 0)) := by
  have hrefer : ∀ a : RArtifact, a.refer 0 = a := fun a => by simp [RArtifact.refer]
  have hskip : leadsTo n d entry = false → findArtifact table n d =
      (findArtifact table n d).map (fun a => a.refer (if leadsTo n d entry then 1 else 0)) := by
    intro hno
    simp [hno, hrefer]
  obtain ⟨name, kind⟩ := entry
  cases kind with
  | data complete => exact hskip rfl
  | link target =>
    unfold readLink
    dsimp only
    by_cases hhidden : hasPrefix "." name = true
    · rw [if_pos hhidden]
      exact hskip (by simp [leadsTo, hhidden])
    · rw [if_neg hhidden]
      cases hmatch : matchArtifactEntry target with
      | none => exact hskip (by simp [leadsTo, hmatch])
      | some pair =>
        obtain ⟨aName, aDigest⟩ := pair
        dsimp only
        have hleads : leadsTo n d (name, .link target) = decide (aName = n ∧ aDigest = d) := by
          simp [leadsTo, hmatch, hhidden]
        cases hfind : findArtifact table aName aDigest with
        | none =>
          by_cases hsame : aName = n ∧ aDigest = d
          · obtain ⟨rfl, rfl⟩ := hsame
            simp [hfind]
          · exact hskip (by simp [hleads, hsame])
        | some artifact =>
          obtain ⟨hname, hdigest⟩ := hkeyed aName aDigest artifact hfind
          dsimp only
          rw [find_insertArtifact, hname, hdigest, hleads]
          by_cases hsame : aName = n ∧ aDigest = d
          · obtain ⟨rfl, rfl⟩ := hsame
            simp [hfind, RArtifact.refer, hname, hdigest]
          · rw [if_neg hsame]
            simp [hsame, hrefer]

lemma Keyed.map {table' : ArtifactTable} (h : Keyed table) (count : String → String → Nat)
    (hmap : ∀ n d, findArtifact table' n d =
      (findArtifact table n d).map (fun a => a.refer (count n d))) :
    Keyed table' := by
  intro n d a hfind
  rw [hmap, Option.map_eq_some_iff] at hfind
  obtain ⟨a', hfind', rfl⟩ := hfind
  exact h n d a' hfind'

lemma readLink_full (h : Full table) (entry : String × RepoEntry) :
    Full (readLink table entry) := by
  unfold readLink
  split
  · split_ifs
    · exact h
    · split
      · exact h
      · split
        · exact h
        · exact h.insertArtifact _
  · exact h

/-- Reading the links counts them. -/
lemma find_foldl_readLink (entries : List (String × RepoEntry)) (n d : String) :
    ∀ {table : ArtifactTable}, Keyed table →
    findArtifact (entries.foldl readLink table) n d =
      (findArtifact table n d).map (fun a => a.refer (entries.countP (leadsTo n d))) := by
  induction entries with
  | nil =>
    intro table _
    simp [RArtifact.refer]
  | cons entry rest ih =>
    intro table hkeyed
    have hstep := find_readLink hkeyed entry
    rw [List.foldl_cons, ih (hkeyed.map _ hstep), hstep, Option.map_map]
    congr 1
    funext a
    simp only [Function.comp_apply, RArtifact.refer, List.countP_cons, List.append_assoc,
      List.replicate_append_replicate,
      Nat.add_comm]

lemma foldl_readLink_full (entries : List (String × RepoEntry)) :
    ∀ {table : ArtifactTable}, Full table →
    Full (entries.foldl readLink table) := by
  induction entries with
  | nil =>
    intro table h
    exact h
  | cons entry rest ih =>
    intro table h
    exact ih (readLink_full h entry)

lemma sure_rArtifactRepoPrepare (h : Readable dir) :
    Prog.Sure (RepoAt dir table) (rArtifactRepoPrepare repo) (fun _ st => ∃ table',
      RepoAt dir table' st ∧ Full table' ∧
      ∀ n d, findArtifact table' n d = if listed dir.keys n d
        then some {
          name := n, digest := d,
          references := List.replicate (dir.entries.countP (leadsTo n d)) "" }
        else none) := by
  refine Prog.sure_bind sure_openDir ?_
  intro found
  refine Prog.sure_fact ?_
  rintro rfl
  refine Prog.sure_bind (sure_changeArtifacts _) ?_
  intro _
  have hloop := Prog.sure_each (ε := GError) (f := prepareEntry repo) (fun rest st => ∃ done,
    done ++ rest = found.keys ∧
    ∃ table', RepoAt found table' st ∧ Full table' ∧
      ∀ n d, findArtifact table' n d = if listed done n d then some { name := n, digest := d }
        else none) ?_ found.keys
  · refine Prog.sure_bind (Prog.sure_consequence hloop ?_ (fun _ _ hs => hs)) ?_
    · intro st hst
      refine ⟨[], rfl, Table.empty, hst, ?_, ?_⟩
      · intro n inner hinner
        simp [Table.lookup, Table.empty, Table.find] at hinner
      · intro n d
        simp [findArtifact, Table.lookup, Table.empty, Table.find, listed]
    · intro _
      apply Prog.sure_start
      rintro st ⟨done, hdone, table', hst, hfull, htable⟩
      rw [List.append_nil] at hdone
      subst hdone
      have hkeyed : Keyed table' := by
        intro n d a hfind
        rw [htable] at hfind
        split_ifs at hfind
        obtain rfl := Option.some.inj hfind
        exact ⟨rfl, rfl⟩
      refine Prog.sure_bind (Q := fun _ => RepoAt found (found.entries.foldl readLink table')) ?_ ?_
      · unfold artifactRepoReadLinks
        refine Prog.sure_bind (Prog.sure_consequence sure_openDir
          (by rintro _ rfl; exact hst) (fun _ _ hs => hs)) ?_
        intro dir
        refine Prog.sure_fact ?_
        rintro rfl
        exact sure_changeArtifacts _
      · intro _
        refine Prog.sure_consequence (Q := fun _ =>
          RepoAt found (found.entries.foldl readLink table')) ?_
          (fun _ hs => hs) ?_
        · unfold composefsStep
          split_ifs
          · exact Prog.sure_external (fun _ hs => hs)
          · exact Prog.sure_pure (fun _ hs => hs)
        · intro _ st' hst'
          refine ⟨_, hst', foldl_readLink_full _ hfull, ?_⟩
          intro n d
          rw [find_foldl_readLink _ n d hkeyed, htable]
          by_cases hlisted : listed found.keys n d = true
          · simp [hlisted, RArtifact.refer]
          · simp [hlisted]
  · intro e rest
    apply Prog.sure_start
    rintro st ⟨done, hdone, table', hst, hfull, htable⟩
    refine Prog.sure_consequence (sure_prepareEntry h hdone hfull htable)
      (by rintro _ rfl; exact hst) ?_
    rintro _ st' ⟨table'', hst', hfull', htable'⟩
    exact ⟨done ++ [e], by rw [← hdone, List.append_assoc]; rfl, table'', hst', hfull', htable'⟩

end Prepare

section RoundTrip

variable {dir dir' : RepoDir} {table table' : ArtifactTable}

/-- A repository as it is described by its artifacts in memory. -/
structure RepoRecord (dir : RepoDir) (table : ArtifactTable) : Prop where
  names : ∀ n, table.lookup n ≠ none → PlainName n
  digests : ∀ n d a, findArtifact table n d = some a → HexDigest d
  keyed : Keyed table
  exist : ∀ n d a, findArtifact table n d = some a → Kept dir n d
  single : ∀ n d a d' a', findArtifact table n d = some a → findArtifact table n d' = some a' →
    "" ∈ a.references → "" ∈ a'.references → d = d'
  parentless : ∀ n d a, findArtifact table n d = some a → ∀ reference ∈ a.references, reference = ""

/-- Nothing else in the directory is taken for a part of the repository: every artifact of the
directory is in memory, only links under the names of artifacts lead to artifacts, and the places of
links are free for them. -/
structure NothingElse (dir : RepoDir) (table : ArtifactTable) : Prop where
  known : ∀ e n d, matchArtifactEntry e = some (n, d) → dir.lookup e ≠ none →
    e = artifactEntryName n d ∧ findArtifact table n d ≠ none
  tmp : ∀ n d, findArtifact table n d ≠ none → NoLink dir (artifactTmpName n d)
  links : ∀ e target n d, dir.lookup e = some (.link target) → ¬ Hidden e →
    matchArtifactEntry target = some (n, d) →
    findArtifact table n d ≠ none → table.lookup e ≠ none
  noData : ∀ n, table.lookup n ≠ none → ∀ complete, dir.lookup n ≠ some (.data complete)
  free : ∀ n, table.lookup n ≠ none → dir.lookup (tmpLinkName n) = none

/-- The same artifacts with the same references. -/
def SameArtifacts (table table' : ArtifactTable) : Prop :=
  ∀ n d, (∀ a, findArtifact table n d = some a → ∃ a', findArtifact table' n d = some a' ∧
      a'.name = a.name ∧
      a'.digest = a.digest ∧ ∀ reference, reference ∈ a'.references ↔ reference ∈ a.references) ∧
    (findArtifact table n d = none → findArtifact table' n d = none)

lemma RepoRecord.committable (h : RepoRecord dir table) (helse : NothingElse dir table) :
    Committable dir table where
  places := fun n hn => ⟨h.names n hn, helse.noData n hn, helse.free n hn⟩
  keyed := h.keyed
  onDisk := by
    intro n d a hfind
    obtain ⟨complete, hkept⟩ := h.exist n d a hfind
    unfold Table.contains
    rw [hkept]
    rfl

lemma lookup_ne_none_of_find {n d : String} {a : RArtifact} (h : findArtifact table n d = some a) :
    table.lookup n ≠ none := by
  intro hnone
  unfold findArtifact at h
  rw [hnone] at h
  cases h

lemma RepoRecord.recognised (h : RepoRecord dir table) {n d : String} {a : RArtifact}
    (hfind : findArtifact table n d = some a) : Recognised n d :=
  recognised_of_plain (h.names n (lookup_ne_none_of_find hfind)) (h.digests n d a hfind)

lemma commitTarget_some {n : String} {inner : Table String RArtifact} {a : RArtifact}
    (hkeyed : Keyed table)
    (hinner : table.lookup n = some inner) (h : commitTarget inner = some a) :
    findArtifact table n a.digest = some a ∧ a.name = n ∧ "" ∈ a.references := by
  unfold commitTarget at h
  obtain ⟨d, hfind⟩ := find_of_mem_values hinner (List.mem_of_find?_eq_some h)
  obtain ⟨hname, rfl⟩ := hkeyed n d a hfind
  have hreference := List.find?_some h
  exact ⟨hfind, hname, by simpa using hreference⟩

lemma commitTarget_none {n d : String} {inner : Table String RArtifact} {a : RArtifact}
    (hinner : table.lookup n = some inner) (h : commitTarget inner = none)
    (hfind : findArtifact table n d = some a) :
    "" ∉ a.references := by
  unfold commitTarget at h
  rw [List.find?_eq_none] at h
  have hmem : a ∈ inner.values := by
    unfold findArtifact at hfind
    rw [hinner] at hfind
    exact List.mem_map.mpr ⟨(d, a), (Table.lookup_eq_some_iff inner d a).mp hfind, rfl⟩
  simpa using h a hmem

/-- The directory after a commit. -/
def Committed (dir dir' : RepoDir) (table : ArtifactTable) : Prop :=
  ∀ e, dir'.lookup e = committed dir table.entries e

lemma Committed.of_none (h : Committed dir dir' table) {e : String} (he : table.lookup e = none) :
    dir'.lookup e = dir.lookup e :=
  (h e).trans (committed_of_none he)

lemma Committed.linked (h : Committed dir dir' table) : Linked dir' table := by
  intro n inner hinner
  have hfind : Table.find n table.entries = some inner := hinner
  rw [h n]
  unfold committed
  rw [hfind]

lemma RepoRecord.not_key (h : RepoRecord dir table) {e : String} (he : Hidden e) :
    table.lookup e = none := by
  by_contra hkey
  exact (h.names e hkey).not_hidden he

/-- A link of the committed directory leads to an artifact just when the artifact is referenced. -/
lemma leadsTo_iff (h : RepoRecord dir table) (helse : NothingElse dir table)
    (hcommitted : Committed dir dir' table)
    {n d : String} {a : RArtifact} (hfind : findArtifact table n d = some a)
    {entry : String × RepoEntry}
    (hentry : entry ∈ dir'.entries) :
    leadsTo n d entry = true ↔ entry = (n, .link (artifactEntryName n d)) ∧ "" ∈ a.references := by
  obtain ⟨e, kind⟩ := entry
  have hlookup := (Table.lookup_eq_some_iff dir' e kind).mpr hentry
  constructor
  · intro hleads
    cases kind with
    | data complete => simp [leadsTo] at hleads
    | link target =>
      obtain ⟨hshown, hmatch⟩ : ¬ Hidden e ∧ matchArtifactEntry target = some (n, d) := by
        simpa [leadsTo, Hidden] using hleads
      cases hkey : table.lookup e with
      | none =>
        rw [hcommitted.of_none hkey] at hlookup
        exact absurd hkey (helse.links e target n d hlookup hshown hmatch (by rw [hfind]; simp))
      | some inner =>
        rw [hcommitted.linked e inner hkey, Option.map_eq_some_iff] at hlookup
        obtain ⟨a', htarget, hlink⟩ := hlookup
        obtain ⟨hfind', hname, hreference⟩ := commitTarget_some h.keyed hkey htarget
        obtain rfl : artifactEntryName a'.name a'.digest = target := RepoEntry.link.inj hlink
        have hrec : Recognised e a'.digest := h.recognised hfind'
        rw [hname, hrec] at hmatch
        obtain ⟨rfl, rfl⟩ := Prod.mk.inj (Option.some.inj hmatch)
        rw [hfind] at hfind'
        obtain rfl := Option.some.inj hfind'
        exact ⟨by rw [hname], hreference⟩
  · rintro ⟨hsame, -⟩
    obtain ⟨rfl, rfl⟩ := Prod.mk.inj hsame
    have hshown : ¬ Hidden e := (h.names e (lookup_ne_none_of_find hfind)).not_hidden
    have hrec : matchArtifactEntry (artifactEntryName e d) = some (e, d) := h.recognised hfind
    simpa [leadsTo, Hidden, hrec] using hshown

lemma count_leadsTo (h : RepoRecord dir table) (helse : NothingElse dir table)
    (hcommitted : Committed dir dir' table)
    {n d : String} {a : RArtifact} (hfind : findArtifact table n d = some a) :
    dir'.entries.countP (leadsTo n d) = if "" ∈ a.references then 1 else 0 := by
  have hiff := fun entry (hentry : entry ∈ dir'.entries) => leadsTo_iff h helse hcommitted
    hfind hentry
  by_cases hreference : "" ∈ a.references
  · rw [if_pos hreference]
    obtain ⟨inner, hinner⟩ := Option.ne_none_iff_exists'.mp (lookup_ne_none_of_find hfind)
    have hlink : dir'.lookup n = some (.link (artifactEntryName n d)) := by
      rw [hcommitted.linked n inner hinner]
      cases htarget : commitTarget inner with
      | none => exact absurd hreference (commitTarget_none hinner htarget hfind)
      | some a' =>
        obtain ⟨hfind', hname, hreference'⟩ := commitTarget_some h.keyed hinner htarget
        rw [Option.map_some, linkTo, hname, h.single n _ a' d a hfind' hfind hreference' hreference]
    have hmem := (Table.lookup_eq_some_iff dir' n _).mp hlink
    rw [List.countP_congr (q := fun entry => entry == (n, .link (artifactEntryName n d)))]
    · exact List.count_eq_one_of_mem (List.Nodup.of_map _ dir'.nodup) hmem
    · intro entry hentry
      rw [hiff entry hentry]
      simp [hreference]
  · rw [if_neg hreference, List.countP_eq_zero]
    intro entry hentry hleads
    exact hreference ((hiff entry hentry).mp hleads).2

lemma Committed.readable (h : RepoRecord dir table) (helse : NothingElse dir table)
    (hcommitted : Committed dir dir' table) : Readable dir' where
  entry := by
    intro e n d hmatch hfound
    rw [hcommitted.of_none (h.not_key (hidden_of_match hmatch))] at hfound
    obtain ⟨rfl, hfind⟩ := helse.known e n d hmatch hfound
    obtain ⟨a, ha⟩ := Option.ne_none_iff_exists'.mp hfind
    obtain ⟨complete, hkept⟩ := h.exist n d a ha
    refine ⟨rfl, ?_, ?_⟩
    · intro target
      rw [hcommitted.of_none (h.not_key (hidden_entryName n d)), hkept]
      simp
    · intro target
      rw [hcommitted.of_none (h.not_key (hidden_tmpName n d))]
      exact helse.tmp n d hfind target

lemma listed_iff (h : RepoRecord dir table) (helse : NothingElse dir table)
    (hcommitted : Committed dir dir' table)
    (n d : String) : listed dir'.keys n d = true ↔ findArtifact table n d ≠ none := by
  unfold listed
  rw [List.any_eq_true]
  constructor
  · rintro ⟨e, hkey, hmatch⟩
    have hmatch : matchArtifactEntry e = some (n, d) := by simpa using hmatch
    have hfound : dir'.lookup e ≠ none := by rwa [Ne, Table.lookup_eq_none_iff, not_not]
    rw [hcommitted.of_none (h.not_key (hidden_of_match hmatch))] at hfound
    exact (helse.known e n d hmatch hfound).2
  · intro hfind
    obtain ⟨a, ha⟩ := Option.ne_none_iff_exists'.mp hfind
    obtain ⟨complete, hkept⟩ := h.exist n d a ha
    refine ⟨artifactEntryName n d, ?_, ?_⟩
    · have hfound : dir'.lookup (artifactEntryName n d) ≠ none := by
        rw [hcommitted.of_none (h.not_key (hidden_entryName n d)), hkept]
        simp
      rwa [Ne, Table.lookup_eq_none_iff, not_not] at hfound
    · have hrec : matchArtifactEntry (artifactEntryName n d) = some (n, d) := h.recognised ha
      simp [hrec]

/-- What the directory says about an artifact after a commit. -/
lemma find_prepared (h : RepoRecord dir table) (helse : NothingElse dir table)
    (hcommitted : Committed dir dir' table)
    (hprepared : ∀ n d, findArtifact table' n d = if listed dir'.keys n d
      then some {
        name := n, digest := d,
        references := List.replicate (dir'.entries.countP (leadsTo n d)) "" }
      else none) (n d : String) :
    findArtifact table' n d = (findArtifact table n d).map
      (fun a => { a with references := if "" ∈ a.references then [""] else [] }) := by
  rw [hprepared]
  cases hfind : findArtifact table n d with
  | none =>
    rw [if_neg (fun hlisted => (listed_iff h helse hcommitted n d).mp hlisted hfind)]
    rfl
  | some a =>
    obtain ⟨hname, hdigest⟩ := h.keyed n d a hfind
    rw [if_pos ((listed_iff h helse hcommitted n d).mpr (by rw [hfind]; simp)),
      count_leadsTo h helse hcommitted hfind,
      Option.map_some, hname, hdigest]
    congr 2
    split_ifs <;> rfl

/-- The prepared table asks for the links that are there. -/
lemma linked_prepared (h : RepoRecord dir table) (hcommitted : Committed dir dir' table)
    (hfull : Full table')
    (hfind : ∀ n d, findArtifact table' n d = (findArtifact table n d).map
      (fun a => { a with references := if "" ∈ a.references then [""] else [] })) :
    Linked dir' table' := by
  have hkeyed' : Keyed table' := by
    intro n d a ha
    rw [hfind, Option.map_eq_some_iff] at ha
    obtain ⟨a', ha', rfl⟩ := ha
    exact h.keyed n d a' ha'
  intro n inner' hinner'
  obtain ⟨d, a', ha'⟩ := hfull n inner' hinner'
  rw [hfind, Option.map_eq_some_iff] at ha'
  obtain ⟨a, ha, -⟩ := ha'
  obtain ⟨inner, hinner⟩ := Option.ne_none_iff_exists'.mp (lookup_ne_none_of_find ha)
  rw [hcommitted.linked n inner hinner]
  cases htarget' : commitTarget inner' with
  | none =>
    cases htarget : commitTarget inner with
    | none => rfl
    | some b =>
      obtain ⟨hb, -, hreference⟩ := commitTarget_some h.keyed hinner htarget
      have hb' := hfind n b.digest
      rw [hb, Option.map_some, if_pos hreference] at hb'
      exact absurd List.mem_cons_self (commitTarget_none hinner' htarget' hb')
  | some b' =>
    obtain ⟨hb', hname', hreference'⟩ := commitTarget_some hkeyed' hinner' htarget'
    rw [hfind, Option.map_eq_some_iff] at hb'
    obtain ⟨b, hb, hbb'⟩ := hb'
    have hreference : "" ∈ b.references := by
      by_contra hno
      rw [← hbb', if_neg hno] at hreference'
      simp at hreference'
    cases htarget : commitTarget inner with
    | none => exact absurd hreference (commitTarget_none hinner htarget hb)
    | some c =>
      obtain ⟨hc, hname, hreferenceC⟩ := commitTarget_some h.keyed hinner htarget
      have hdigest := h.single n _ c _ b hc hb hreferenceC hreference
      rw [Option.map_some, Option.map_some, linkTo, linkTo, hname, hname', hdigest]

lemma onDisk_committed (h : RepoRecord dir table) (hcommitted : Committed dir dir' table)
    {n d : String} {a : RArtifact}
    (hfind : findArtifact table n d = some a) : dir'.contains (artifactEntryName n d) = true := by
  obtain ⟨complete, hkept⟩ := h.exist n d a hfind
  unfold Table.contains
  rw [hcommitted.of_none (h.not_key (hidden_entryName n d)), hkept]
  rfl

lemma sameArtifacts_prepared (h : RepoRecord dir table)
    (hfind : ∀ n d, findArtifact table' n d = (findArtifact table n d).map
      (fun a => { a with references := if "" ∈ a.references then [""] else [] })) :
    SameArtifacts table table' := by
  intro n d
  rw [hfind]
  refine ⟨?_, fun hnone => by rw [hnone]; rfl⟩
  intro a ha
  refine ⟨{ a with references := if "" ∈ a.references then [""] else [] }, by rw [ha]; rfl,
    rfl, rfl, ?_⟩
  intro reference
  dsimp only
  have hparentless := h.parentless n d a ha
  by_cases hreference : "" ∈ a.references
  · rw [if_pos hreference, List.mem_singleton]
    exact ⟨fun heq => heq ▸ hreference, hparentless reference⟩
  · rw [if_neg hreference]
    refine ⟨fun hmem => absurd hmem List.not_mem_nil, fun hmem => ?_⟩
    exact absurd (hparentless reference hmem ▸ hmem) hreference

def commitAndPrepare (repo : RArtifactRepo) : RepoProg Unit := do
  rArtifactRepoCommit repo
  rArtifactRepoPrepare repo

/-- A commit and a preparation give the artifacts back, and a second commit finds its links. -/
theorem commit_prepare_roundTrip (repo : RArtifactRepo) (dir : RepoDir) (table : ArtifactTable)
    (h : RepoRecord dir table) (helse : NothingElse dir table) :
    (∀ n d, matchArtifactEntry (artifactTmpName n d) = none) ∧
    Prog.Sure (RepoAt dir table) (commitAndPrepare repo) (fun _ st =>
      ∃ dir' table', RepoAt dir' table' st ∧ SameArtifacts table table' ∧
        Prog.Sure (RepoAt dir' table) (rArtifactRepoCommit repo) (fun _ => RepoAt dir' table) ∧
        Prog.Sure (RepoAt dir' table') (rArtifactRepoCommit repo)
          (fun _ => RepoAt dir' table')) := by
  refine ⟨matchArtifactEntry_tmp, Prog.sure_bind (sure_rArtifactRepoCommit (h.committable helse))
    ?_⟩
  intro _
  apply Prog.sure_start
  rintro st ⟨dir', hst, hdir'⟩
  have hcommitted : Committed dir dir' table := hdir'
  refine Prog.sure_consequence (sure_rArtifactRepoPrepare (Committed.readable h helse hcommitted))
    (by rintro _ rfl; exact hst) ?_
  rintro _ st' ⟨table', hst', hfull, hprepared⟩
  have hfind := find_prepared h helse hcommitted hprepared
  refine ⟨dir', table', hst', sameArtifacts_prepared h hfind, ?_, ?_⟩
  · refine sure_rArtifactRepoCommit_same h.names ?_ hcommitted.linked
    intro n inner hinner a ha
    obtain ⟨d, hd⟩ := find_of_mem_values hinner ha
    obtain ⟨rfl, rfl⟩ := h.keyed n d a hd
    exact onDisk_committed h hcommitted hd
  · refine sure_rArtifactRepoCommit_same ?_ ?_ (linked_prepared h hcommitted hfull hfind)
    · intro n hn
      obtain ⟨inner, hinner⟩ := Option.ne_none_iff_exists'.mp hn
      obtain ⟨d, a', ha'⟩ := hfull n inner hinner
      rw [hfind, Option.map_eq_some_iff] at ha'
      obtain ⟨a, ha, -⟩ := ha'
      exact h.names n (lookup_ne_none_of_find ha)
    · intro n inner hinner a' ha'
      obtain ⟨d, hd⟩ := find_of_mem_values hinner ha'
      rw [hfind, Option.map_eq_some_iff] at hd
      obtain ⟨a, ha, rfl⟩ := hd
      obtain ⟨rfl, rfl⟩ := h.keyed n d a ha
      exact onDisk_committed h hcommitted ha

end RoundTrip

section Samples

/-- A repository with one artifact. -/
def oneArtifact (artifact : RArtifact) : ArtifactTable :=
  ⟨[(artifact.name, ⟨[(artifact.digest, artifact)], by simp⟩)], by simp⟩

lemma lookup_oneArtifact {artifact : RArtifact} {n : String}
    (h : (oneArtifact artifact).lookup n ≠ none) :
    n = artifact.name := by
  by_contra hne
  exact h (by simp [oneArtifact, Table.lookup, Table.find, Ne.symm hne])

lemma find_oneArtifact {artifact : RArtifact} {n d : String}
    (h : findArtifact (oneArtifact artifact) n d ≠ none) :
    n = artifact.name ∧ d = artifact.digest ∧ findArtifact (oneArtifact artifact) n d =
      some artifact := by
  obtain ⟨a, ha⟩ := Option.ne_none_iff_exists'.mp h
  obtain rfl := lookup_oneArtifact (lookup_ne_none_of_find ha)
  by_cases hd : artifact.digest = d
  · subst hd
    simp [findArtifact, oneArtifact, Table.lookup, Table.find]
  · simp [findArtifact, oneArtifact, Table.lookup, Table.find, hd] at ha

lemma repoRecord_one {dir : RepoDir} {artifact : RArtifact} (hname : PlainName artifact.name)
    (hdigest : HexDigest artifact.digest) (hkept : Kept dir artifact.name artifact.digest)
    (hreferences : ∀ reference ∈ artifact.references, reference = "") :
      RepoRecord dir (oneArtifact artifact) := by
  have hfind : ∀ n d a, findArtifact (oneArtifact artifact) n d = some a →
      n = artifact.name ∧ d = artifact.digest ∧ a = artifact := by
    intro n d a ha
    have hsome : findArtifact (oneArtifact artifact) n d ≠ none := by
      rw [ha]
      simp
    obtain ⟨hn, hd, hartifact⟩ := find_oneArtifact hsome
    exact ⟨hn, hd, Option.some.inj (ha.symm.trans hartifact)⟩
  refine ⟨?_, ?_, ?_, ?_, ?_, ?_⟩
  · intro n hn
    exact lookup_oneArtifact hn ▸ hname
  · intro n d a ha
    exact (hfind n d a ha).2.1 ▸ hdigest
  · intro n d a ha
    obtain ⟨rfl, rfl, rfl⟩ := hfind n d a ha
    exact ⟨rfl, rfl⟩
  · intro n d a ha
    obtain ⟨rfl, rfl, rfl⟩ := hfind n d a ha
    exact hkept
  · intro n d a d' a' ha ha' _ _
    rw [(hfind n d a ha).2.1, (hfind n d' a' ha').2.1]
  · intro n d a ha
    obtain ⟨rfl, rfl, rfl⟩ := hfind n d a ha
    exact hreferences

/-- A name that looks like the end of an entry, and a temporary entry left behind. -/
def sampleArtifact : RArtifact := { name := "app-12", digest := "34", references := [""] }

def sampleDir : RepoDir :=
  ⟨[(".artifact-app-12-34", .data true), (".artifact-app-12-34.tmp", .data false)], by decide⟩

def filesRepo : RArtifactRepo := { name := "files", path := "/srv", type := "files" }

theorem commit_prepare_sample :
    Prog.Sure (RepoAt sampleDir (oneArtifact sampleArtifact)) (commitAndPrepare filesRepo)
      (fun _ st => ∃ dir' table', RepoAt dir' table' st ∧
        SameArtifacts (oneArtifact sampleArtifact) table') := by
  have hrecord : RepoRecord sampleDir (oneArtifact sampleArtifact) :=
    repoRecord_one ⟨by decide, by decide, by decide, by simp [sampleArtifact, isNewline]⟩
      ⟨by decide, by simp [sampleArtifact, isHexDigit]⟩ ⟨true, by decide⟩ (by decide)
  have hentries : ∀ e, sampleDir.lookup e ≠ none → e = ".artifact-app-12-34" ∨
      e = ".artifact-app-12-34.tmp" := by
    intro e he
    rw [Ne, Table.lookup_eq_none_iff, not_not] at he
    simpa [sampleDir, Table.keys] using he
  have helse : NothingElse sampleDir (oneArtifact sampleArtifact) := by
    refine ⟨?_, ?_, ?_, ?_, ?_⟩
    · intro e n d hmatch hfound
      rcases hentries e hfound with rfl | rfl
      · have hname : matchArtifactEntry ".artifact-app-12-34" = some ("app-12", "34") := by decide
        obtain ⟨rfl, rfl⟩ := Prod.mk.inj (Option.some.inj (hname.symm.trans hmatch))
        exact ⟨by decide, by decide⟩
      · have hnone : matchArtifactEntry ".artifact-app-12-34.tmp" = none := by decide
        rw [hnone] at hmatch
        cases hmatch
    · intro n d hfind target
      obtain ⟨rfl, rfl, -⟩ := find_oneArtifact hfind
      have hdata : sampleDir.lookup (artifactTmpName sampleArtifact.name sampleArtifact.digest) =
          some (.data false) := by
        decide
      rw [hdata]
      simp
    · intro e target n d hlink
      have hdata : sampleDir.lookup ".artifact-app-12-34" = some (.data true) ∧
          sampleDir.lookup ".artifact-app-12-34.tmp" = some (.data false) := by decide
      rcases hentries e (by rw [hlink]; simp) with rfl | rfl
      · rw [hdata.1] at hlink
        cases hlink
      · rw [hdata.2] at hlink
        cases hlink
    · intro n hn complete
      obtain rfl := lookup_oneArtifact hn
      have hnone : sampleDir.lookup sampleArtifact.name = none := by decide
      rw [hnone]
      simp
    · intro n hn
      obtain rfl := lookup_oneArtifact hn
      decide
  refine Prog.sure_consequence
    (commit_prepare_roundTrip filesRepo sampleDir (oneArtifact sampleArtifact) hrecord helse).2
    (fun _ hs => hs) ?_
  rintro _ st ⟨dir', table', hst, hsame, -⟩
  exact ⟨dir', table', hst, hsame⟩

/-- The artifact has no reference in memory, and a link under some other name leads to it. -/
def strayDir : RepoDir :=
  ⟨[(".artifact-app-34", .data true), ("other", .link ".artifact-app-34")], by decide⟩

def strayArtifact : RArtifact := { name := "app", digest := "34" }

def strayRepo : RepoState := ⟨{ dir := some strayDir }, oneArtifact strayArtifact⟩

/-- An artifact whose name goes over two lines, which the regular expression does not match. -/
def lineDir : RepoDir := ⟨[(".artifact-a\nb-34", .data true)], by decide⟩

def lineArtifact : RArtifact := { name := "a\nb", digest := "34" }

def lineRepo : RepoState := ⟨{ dir := some lineDir }, oneArtifact lineArtifact⟩

/-- The other link is taken for a reference of the artifact, and a line break hides an artifact. -/
theorem stray_link_is_read_back :
    (RepoRecord strayDir (oneArtifact strayArtifact) ∧
      ¬ Prog.Calms (RepoAt strayDir (oneArtifact strayArtifact)) (commitAndPrepare filesRepo)
        (fun _ st => SameArtifacts (oneArtifact strayArtifact) st.artifacts)) ∧
    (Dotless lineArtifact.name ∧ '/' ∉ lineArtifact.name.toList ∧
      Kept lineDir lineArtifact.name lineArtifact.digest ∧
      ¬ Prog.Calms (RepoAt lineDir (oneArtifact lineArtifact)) (commitAndPrepare filesRepo)
        (fun _ st => SameArtifacts (oneArtifact lineArtifact) st.artifacts)) := by
  refine ⟨⟨repoRecord_one ⟨by decide, by decide, by decide, by simp [strayArtifact, isNewline]⟩
    ⟨by decide, by simp [strayArtifact, isHexDigit]⟩ ⟨true, by decide⟩ (by decide), ?_⟩, by
      decide, by decide, ⟨true, by decide⟩, ?_⟩
  · intro h
    obtain ⟨-, -, hsame⟩ := h.value (s := strayRepo) ⟨rfl, rfl⟩
    have hread : findArtifact (commitAndPrepare filesRepo (Prog.calm strayRepo)).2.state.artifacts
        "app" "34" =
        some { name := "app", digest := "34", references := [""] } := by decide +kernel
    obtain ⟨a, ha, -, -, hreferences⟩ := (hsame "app" "34").1 strayArtifact (by decide)
    obtain rfl := Option.some.inj (hread.symm.trans ha)
    have hnone := (hreferences "").mp List.mem_cons_self
    simp [strayArtifact] at hnone
  · intro h
    obtain ⟨-, -, hsame⟩ := h.value (s := lineRepo) ⟨rfl, rfl⟩
    have hread : findArtifact (commitAndPrepare filesRepo (Prog.calm lineRepo)).2.state.artifacts
        "a\nb" "34" =
        none := by decide +kernel
    obtain ⟨a, ha, -⟩ := (hsame "a\nb" "34").1 lineArtifact (by decide)
    rw [hread] at ha
    cases ha

end Samples

end RaucUpdate
