import RaucUpdate.Proofs.ArtifactCodec
import RaucUpdate.Model.Composefs

/-!
# The directories of the artifacts

What the operations on a repository do to the directories in it, whatever the names are: only an
installation adds one, and those that are left stay in the table. Nothing here asks for an accepted
manifest.
-/

namespace RaucUpdate

open Library Prog

section Data

/-- All directories of the repository satisfy this. -/
def DataIn (D : String → Prop) (dir : RepoDir) : Prop := ∀ e b, dir.lookup e = some (.data b) → D e

def OnlyData (D : String → Prop) (st : RepoState) : Prop := DataIn D st.dir

def HasDir (dir : RepoDir) (e : String) : Prop := ∃ b, dir.lookup e = some (.data b)

def InTable (table : ArtifactTable) (e : String) : Prop :=
  ∃ n d, findArtifact table n d ≠ none ∧ artifactEntryName n d = e

/-- A repository whose directories are among these, and are known to the table in some way. -/
structure DataWithin (D : String → Prop) (K : ArtifactTable → String → Prop) (st : RepoState) :
    Prop where
  data : OnlyData D st
  keyed : Keyed st.artifacts
  known : ∀ e b, st.dir.lookup e = some (.data b) → K st.artifacts e

variable {D D' : String → Prop} {K K' : ArtifactTable → String → Prop} {α β : Type}

/-- A program on a repository that brings this about, and adds no other directory on its way. -/
def DataTriple (D : String → Prop) (P : RepoState → Prop) (p : RepoProg α)
    (Q : α → RepoState → Prop) : Prop :=
  Triple P p Q (fun _ => OnlyData D)

lemma dataIn_empty (D : String → Prop) : DataIn D Table.empty := by
  intro e b h
  simp at h

lemma RepoState.changeDir_dir (st : RepoState) (change : RepoDir → RepoDir) :
    (st.changeDir change).dir = change st.dir ∨ (st.changeDir change).dir = Table.empty := by
  cases hdir : st.disk.dir with
  | none => exact .inr (by simp [RepoState.dir, RepoState.changeDir, hdir])
  | some dir => exact .inl (by simp [RepoState.dir, RepoState.changeDir, hdir])

/-- A change that adds no directory keeps what is known. -/
lemma DataWithin.changeDir {st : RepoState} (h : DataWithin D K st) {change : RepoDir → RepoDir}
    (hchange : ∀ e b, (change st.dir).lookup e = some (.data b) → D' e ∧ K' st.artifacts e) :
    DataWithin D' K' (st.changeDir change) := by
  rcases st.changeDir_dir change with hdir | hdir
  · refine ⟨?_, h.keyed, ?_⟩
    · intro e b hdata
      rw [hdir] at hdata
      exact (hchange e b hdata).1
    · intro e b hdata
      rw [hdir] at hdata
      exact (hchange e b hdata).2
  · refine ⟨?_, h.keyed, ?_⟩
    · unfold OnlyData
      rw [hdir]
      exact dataIn_empty D'
    · intro e b hdata
      rw [hdir] at hdata
      simp at hdata

lemma DataWithin.mono {st : RepoState} (h : DataWithin D K st) (hD : ∀ e, D e → D' e)
    (hK : ∀ e, D e → K st.artifacts e → K' st.artifacts e) : DataWithin D' K' st :=
  ⟨fun e b hdata => hD e (h.data e b hdata), h.keyed, fun e b hdata =>
    hK e (h.data e b hdata) (h.known e b hdata)⟩

/-- Programs that only look at the repository. -/
lemma data_peeks {p : RepoProg α} {Q : RepoState → α → Prop} (h : ∀ st, Peeks st p (Q st)) :
    DataTriple D (DataWithin D K) p (fun a st => DataWithin D K st ∧ Q st a) := by
  intro w hw
  have hrun := h w.state w rfl
  unfold Holds at hrun ⊢
  cases hr : (p w).1 with
  | value a =>
    rw [hr] at hrun
    rw [hrun.1]
    exact ⟨hw, hrun.2⟩
  | exit x =>
    rw [hr] at hrun
    change (p w).2.state = w.state at hrun
    rw [hrun]
    exact hw.data

lemma openDir_peeks (repo : RArtifactRepo) (st : RepoState) :
    Peeks st (openDir repo) (fun dir => dir = st.dir) := by
  unfold openDir
  apply peeks_external
  apply peeks_read
  cases hdir : st.disk.dir with
  | none => exact peeks_exit
  | some dir => exact peeks_pure (by simp [RepoState.dir, hdir])

lemma entryExists_peeks (e : String) (st : RepoState) :
    Peeks st (entryExists e) (fun found => found = st.dir.contains e) :=
  peeks_read (peeks_pure rfl)

lemma isSymlink_peeks (e : String) (st : RepoState) : Peeks st (isSymlink e) (fun _ => True) := by
  apply peeks_read
  split
  · exact peeks_pure trivial
  · exact peeks_pure trivial

lemma gAssert_peeks (condition : Bool) (text : String) (st : RepoState) :
    Peeks st (gAssert condition text) (fun _ => condition = true) := by
  unfold gAssert
  split_ifs with h
  · exact peeks_pure h
  · exact peeks_exit

lemma data_changeDir {text : String} {change : RepoDir → RepoDir} {P : RepoState → Prop}
    (hkeep : ∀ st, P st → DataWithin D K st)
    (hchange : ∀ st, P st → ∀ e b, (change st.dir).lookup e = some (.data b) → D' e ∧
      K' st.artifacts e) :
    DataTriple D P (changeDir text change) (fun _ => DataWithin D' K') :=
  triple_external (fun st hst => (hkeep st hst).changeDir (hchange st hst)) (fun st hst _ =>
    (hkeep st hst).data)
    (fun st hst => (hkeep st hst).data)

lemma data_changeArtifacts {change : ArtifactTable → ArtifactTable} {P : RepoState → Prop}
    {Q : Unit → RepoState → Prop}
    (h : ∀ st, P st → Q () { st with artifacts := change st.artifacts }) :
      DataTriple D P (changeArtifacts change) Q :=
  triple_modify h

lemma data_external (report : Failure → GError) :
    DataTriple D (DataWithin D K) (external id report) (fun _ => DataWithin D K) :=
  triple_external_id (fun _ _ h => h.data)

/-- After `rm_tree` the entry is gone, and it is no new one meanwhile. -/
lemma data_rmTree {e : String} {P : RepoState → Prop} (hkeep : ∀ st, P st → DataWithin D K st)
    (hD : D e)
    (hK : ∀ st, P st → K st.artifacts e) :
    DataTriple D P (rmTree e) (fun _ => DataWithin (fun e' => D e' ∧ e' ≠ e) K) := by
  have hset : DataTriple D P (changeDir ("failed to remove tree at " ++ e ++ ": ") (fun dir =>
      dir.set e (.data false)))
      (fun _ => DataWithin D K) := by
    apply data_changeDir hkeep
    intro st hst e' b hdata
    rw [Table.lookup_set] at hdata
    split_ifs at hdata with he
    · subst he
      exact ⟨hD, hK st hst⟩
    · exact ⟨(hkeep st hst).data e' b hdata, (hkeep st hst).known e' b hdata⟩
  refine triple_bind hset (fun _ => ?_)
  apply data_changeDir (fun _ h => h)
  intro st hst e' b hdata
  rw [Table.lookup_erase] at hdata
  split_ifs at hdata with he
  exact ⟨⟨hst.data e' b hdata, Ne.symm he⟩, hst.known e' b hdata⟩

/-- Files that are checked are those of a directory. -/
lemma data_rTreeCheckOpen (e : String) :
    DataTriple D (DataWithin D K) (rTreeCheckOpen e) (fun _ st => DataWithin D K st ∧
      HasDir st.dir e) := by
  refine triple_bind (data_external _) (fun _ => ?_)
  apply triple_read_bind
  intro st hst
  refine triple_bind (Q := fun _ st' => st'.dir = st.dir ∧ st'.artifacts = st.artifacts) ?_
    (fun _ => ?_)
  · apply triple_modify
    rintro st' rfl
    exact ⟨rfl, rfl⟩
  · have hsame : ∀ st' : RepoState, st'.dir = st.dir ∧ st'.artifacts = st.artifacts →
        DataWithin D K st' := by
      rintro st' ⟨hdir, htable⟩
      refine ⟨?_, htable ▸ hst.keyed, ?_⟩
      · intro e b hdata
        exact hst.data e b (hdir ▸ hdata)
      · intro e b hdata
        rw [htable]
        exact hst.known e b (hdir ▸ hdata)
    split
    · rename_i complete hlookup
      apply triple_pure
      intro st' hst'
      exact ⟨hsame st' hst', complete, hst'.1 ▸ hlookup⟩
    · exact triple_exit (fun st' hst' => (hsame st' hst').data)

end Data

section Reading

variable {D D' : String → Prop} {table table' : ArtifactTable}

/-- Some artifact of the table has no directory. -/
def Lost (D : String → Prop) (table : ArtifactTable) : Prop :=
  ∃ n d, findArtifact table n d ≠ none ∧ ¬D (artifactEntryName n d)

/-- An entry that is read as an artifact is in the table under its own name. Where a line break at
its end was ignored, the directory of the artifact that it is read as does not exist. -/
def ListedAs (D : String → Prop) (table : ArtifactTable) (e : String) : Prop :=
  ∀ n d, matchArtifactEntry e = some (n, d) → InTable table e ∨ Lost D table

/-- The artifacts of the table are others, but there are artifacts for the same names and
digests. -/
def SameNames (table table' : ArtifactTable) : Prop :=
  ∀ n d, (findArtifact table' n d).map (fun a => (a.name, a.digest)) =
    (findArtifact table n d).map (fun a => (a.name, a.digest))

lemma SameNames.keyed (h : SameNames table table') (hkeyed : Keyed table) : Keyed table' := by
  intro n d a hfind
  have hmap := h n d
  rw [hfind, Option.map_some] at hmap
  obtain ⟨a', hfind', hsame⟩ := Option.map_eq_some_iff.mp hmap.symm
  obtain ⟨rfl, rfl⟩ := hkeyed n d a' hfind'
  simpa using hsame.symm

lemma SameNames.found (h : SameNames table table') {n d : String}
    (hfind : findArtifact table n d ≠ none) :
    findArtifact table' n d ≠ none := by
  intro hnone
  have hmap := h n d
  rw [hnone, Option.map_none] at hmap
  exact hfind (by simpa using hmap.symm)

lemma rArtifactRepoInsert_triple (repo : RArtifactRepo) (artifact : RArtifact) (st : RepoState) :
    Triple (· = st) (rArtifactRepoInsert repo artifact)
      (fun _ st' => findArtifact st.artifacts artifact.name artifact.digest = none ∧
        st' = { st with artifacts := insertArtifact st.artifacts artifact }) (fun _ st' =>
          st' = st) := by
  unfold rArtifactRepoInsert
  refine triple_bind (isSymlink_peeks _ st) (fun _ => triple_fact (fun _ => ?_))
  refine triple_bind (gAssert_peeks _ _ st) (fun _ => triple_fact (fun _ => ?_))
  refine triple_bind (isSymlink_peeks _ st) (fun _ => triple_fact (fun _ => ?_))
  refine triple_bind (gAssert_peeks _ _ st) (fun _ => triple_fact (fun _ => ?_))
  apply triple_read_bind
  rintro st rfl
  cases hfind : findArtifact st.artifacts artifact.name artifact.digest with
  | some found => exact triple_exit (fun _ h => h)
  | none =>
    apply triple_modify
    rintro st rfl
    exact ⟨rfl, rfl⟩

/-- What is known while the entries are read: there is an artifact for each of those that were, and
no two were read as the same one. -/
structure ReadSoFar (st : RepoState) (done : List String) (st' : RepoState) : Prop where
  disk : st'.disk = st.disk
  keyed : Keyed st'.artifacts
  found : ∀ e ∈ done, ∀ n d, matchArtifactEntry e = some (n, d) →
    findArtifact st'.artifacts n d ≠ none
  once : ∀ e ∈ done, ∀ e' ∈ done, ∀ artifact, matchArtifactEntry e = some artifact →
    matchArtifactEntry e' = some artifact → e = e'

lemma ReadSoFar.next {st st' : RepoState} {done : List String} {e : String}
    (h : ReadSoFar st done st')
    (repo : RArtifactRepo) :
    Triple (· = st') (prepareEntry repo e) (fun _ => ReadSoFar st (done ++ [e])) (fun _ st'' =>
      st''.disk = st.disk) := by
  unfold prepareEntry
  cases hmatch : matchArtifactEntry e with
  | none =>
    apply triple_pure
    rintro st' rfl
    refine ⟨h.disk, h.keyed, ?_, ?_⟩
    · intro e' he' n d hmatch'
      rcases List.mem_append.mp he' with he' | he'
      · exact h.found e' he' n d hmatch'
      · obtain rfl := List.mem_singleton.mp he'
        rw [hmatch] at hmatch'
        simp at hmatch'
    · intro e₁ he₁ e₂ he₂ artifact hmatch₁ hmatch₂
      have hin : ∀ e' ∈ done ++ [e], matchArtifactEntry e' = some artifact → e' ∈ done := by
        intro e' he' hmatch'
        rcases List.mem_append.mp he' with he' | he'
        · exact he'
        · obtain rfl := List.mem_singleton.mp he'
          rw [hmatch] at hmatch'
          simp at hmatch'
      exact h.once e₁ (hin e₁ he₁ hmatch₁) e₂ (hin e₂ he₂ hmatch₂) artifact hmatch₁ hmatch₂
  | some pair =>
    obtain ⟨name, digest⟩ := pair
    refine triple_consequence (rArtifactRepoInsert_triple repo _ st') (fun _ hs => hs) ?_ ?_
    · rintro _ st'' ⟨hnew, rfl⟩
      dsimp only at hnew
      refine ⟨h.disk, ?_, ?_, ?_⟩
      · intro n d a hfind
        rw [find_insertArtifact] at hfind
        split_ifs at hfind with hsame
        · obtain rfl := Option.some.inj hfind
          exact hsame
        · exact h.keyed n d a hfind
      · intro e' he' n d hmatch'
        rw [find_insertArtifact]
        split_ifs with hsame
        · simp
        · rcases List.mem_append.mp he' with he' | he'
          · exact h.found e' he' n d hmatch'
          · obtain rfl := List.mem_singleton.mp he'
            rw [hmatch] at hmatch'
            exact absurd (Prod.mk.inj (Option.some.inj hmatch')) hsame
      · have hfresh : ∀ e' ∈ done, matchArtifactEntry e' ≠ some (name, digest) :=
          fun e' he' hmatch' => h.found e' he' name digest hmatch' hnew
        intro e₁ he₁ e₂ he₂ artifact hmatch₁ hmatch₂
        rcases List.mem_append.mp he₁ with hdone₁ | hlast₁
        · rcases List.mem_append.mp he₂ with hdone₂ | hlast₂
          · exact h.once e₁ hdone₁ e₂ hdone₂ artifact hmatch₁ hmatch₂
          · rw [List.mem_singleton.mp hlast₂, hmatch] at hmatch₂
            exact absurd (hmatch₁.trans hmatch₂.symm) (hfresh e₁ hdone₁)
        · rcases List.mem_append.mp he₂ with hdone₂ | hlast₂
          · rw [List.mem_singleton.mp hlast₁, hmatch] at hmatch₁
            exact absurd (hmatch₂.trans hmatch₁.symm) (hfresh e₂ hdone₂)
          · exact (List.mem_singleton.mp hlast₁).trans (List.mem_singleton.mp hlast₂).symm
    · rintro _ st'' rfl
      exact h.disk

lemma ReadSoFar.dir {st st' : RepoState} {done : List String} (h : ReadSoFar st done st') :
    st'.dir = st.dir :=
  congrArg (fun disk : RepoDisk => disk.dir.getD Table.empty) h.disk

lemma onlyData_of_disk {st st' : RepoState} (h : st'.disk = st.disk) :
    OnlyData (HasDir st.dir) st' := by
  intro e b hdata
  unfold RepoState.dir at hdata ⊢
  rw [h] at hdata
  exact ⟨b, hdata⟩

/-- What all entries were read as is what is known of the directories. -/
lemma ReadSoFar.listedAs {st st' : RepoState} (h : ReadSoFar st st.dir.keys st') :
    DataWithin (HasDir st.dir) (ListedAs (HasDir st.dir)) st' := by
  refine ⟨onlyData_of_disk h.disk, h.keyed, ?_⟩
  intro e b hdata n d hmatch
  rw [h.dir] at hdata
  have hkey : ∀ e', HasDir st.dir e' → e' ∈ st.dir.keys := by
    rintro e' ⟨b', hdata'⟩
    by_contra hkey
    rw [(Table.lookup_eq_none_iff _ _).mpr hkey] at hdata'
    simp at hdata'
  have hfound := h.found e (hkey e ⟨b, hdata⟩) n d hmatch
  by_cases hname : artifactEntryName n d = e
  · exact .inl ⟨n, d, hfound, hname⟩
  · refine .inr ⟨n, d, hfound, fun hdir => hname ?_⟩
    exact h.once _ (hkey _ hdir) e (hkey e ⟨b, hdata⟩) (n, d) (recognised_of_match hmatch) hmatch

lemma sameNames_readLinks (entries : List (String × RepoEntry)) (hkeyed : Keyed table) :
    SameNames table (entries.foldl readLink table) := by
  intro n d
  rw [find_foldl_readLink entries n d hkeyed, Option.map_map]
  rfl

lemma SameNames.listedAs (h : SameNames table table') {e : String} (hlisted : ListedAs D table e) :
    ListedAs D table' e := by
  intro n d hmatch
  rcases hlisted n d hmatch with ⟨n', d', hfind, hname⟩ | ⟨n', d', hfind, hlost⟩
  · exact .inl ⟨n', d', h.found hfind, hname⟩
  · exact .inr ⟨n', d', h.found hfind, hlost⟩

lemma readArtifacts_triple (repo : ComposefsRepo) (st : RepoState) :
    DataTriple (HasDir st.dir) (· = st) (readArtifacts repo)
      (fun _ => DataWithin (HasDir st.dir) (ListedAs (HasDir st.dir))) := by
  have hopen : ∀ st' : RepoState, st'.disk = st.disk → DataTriple (HasDir st.dir) (· = st')
      (openDir repo.toRArtifactRepo) (fun dir st'' => st'' = st' ∧ dir = st.dir) := by
    intro st' hdisk
    refine triple_consequence (openDir_peeks repo.toRArtifactRepo st') (fun _ h => h) ?_ ?_
    · rintro dir _ ⟨rfl, rfl⟩
      exact ⟨rfl, congrArg (fun disk : RepoDisk => disk.dir.getD Table.empty) hdisk⟩
    · rintro _ _ rfl
      exact onlyData_of_disk hdisk
  unfold readArtifacts
  refine triple_bind (hopen st rfl) (fun dir => triple_fact ?_)
  rintro rfl
  have hempty : DataTriple (HasDir st.dir) (· = st) (changeArtifacts (fun _ => Table.empty))
      (fun _ => ReadSoFar st []) := by
    apply data_changeArtifacts
    rintro st' rfl
    refine ⟨rfl, ?_, ?_, ?_⟩
    · intro n d a hfind
      simp [findArtifact] at hfind
    · intro e he
      simp at he
    · intro e he
      simp at he
  refine triple_bind hempty (fun _ => ?_)
  have hloop := triple_each (f := prepareEntry repo.toRArtifactRepo) (E := fun _ =>
    OnlyData (HasDir st.dir))
    (fun rest st' => ∃ done, done ++ rest = st.dir.keys ∧ ReadSoFar st done st') ?_ st.dir.keys
  · refine triple_bind (triple_consequence hloop ?_ (fun _ _ h => h) (fun _ _ h => h)) (fun _ => ?_)
    · exact fun st' h => ⟨[], rfl, h⟩
    · apply triple_start
      rintro st' ⟨done, hdone, hread⟩
      rw [List.append_nil] at hdone
      subst hdone
      unfold artifactRepoReadLinks
      refine triple_bind (hopen st' hread.disk) (fun dir => triple_fact ?_)
      rintro rfl
      apply data_changeArtifacts
      rintro st' rfl
      have hnames := sameNames_readLinks st.dir.entries hread.keyed
      have hlisted := hread.listedAs
      exact ⟨hlisted.data, hnames.keyed hread.keyed, fun e b hdata =>
        hnames.listedAs (hlisted.known e b hdata)⟩
  · intro e rest
    apply triple_start
    rintro st' ⟨done, hdone, hread⟩
    refine triple_consequence (hread.next repo.toRArtifactRepo) (fun _ h => h) ?_ ?_
    · intro _ st'' h
      exact ⟨done ++ [e], by rw [List.append_assoc]; exact hdone, h⟩
    · intro _ st'' h
      exact onlyData_of_disk h

end Reading

section Pruning

variable {D : String → Prop} {table : ArtifactTable}

/-- What a repository is expected to hold besides links. -/
def Expected (e : String) : Prop := (matchArtifactEntry e).isSome ∨ e = storeDirName

lemma pruneEntry_triple (repo : ComposefsRepo) (st : RepoState)
    {done rest : List (String × RepoEntry)}
    {entry : String × RepoEntry} (hsplit : done ++ entry :: rest = st.dir.entries) :
    DataTriple (HasDir st.dir)
      (DataWithin (fun e => HasDir st.dir e ∧ (Expected e ∨ e ∈ (entry :: rest).map Prod.fst))
        (ListedAs (HasDir st.dir)))
      (pruneEntry repo.toRArtifactRepo entry)
      (fun _ => DataWithin (fun e => HasDir st.dir e ∧ (Expected e ∨ e ∈ rest.map Prod.fst))
        (ListedAs (HasDir st.dir))) := by
  have hmem : entry ∈ st.dir.entries := by
    rw [← hsplit]
    exact List.mem_append_right _ List.mem_cons_self
  obtain ⟨name, kind⟩ := entry
  have hlookup := (Table.lookup_eq_some_iff st.dir name kind).mpr hmem
  have hskip : Expected name ∨ ¬HasDir st.dir name → ∀ st' : RepoState,
      DataWithin (fun e => HasDir st.dir e ∧ (Expected e ∨ e ∈ ((name, kind) :: rest).map Prod.fst))
        (ListedAs (HasDir st.dir)) st' →
      DataWithin (fun e => HasDir st.dir e ∧ (Expected e ∨ e ∈ rest.map Prod.fst))
        (ListedAs (HasDir st.dir)) st' := by
    intro hname st' h
    refine h.mono ?_ (fun _ _ hlisted => hlisted)
    rintro e ⟨hdir, hexpected | hin⟩
    · exact ⟨hdir, .inl hexpected⟩
    · rw [List.map_cons, List.mem_cons] at hin
      rcases hin with rfl | hin
      · exact ⟨hdir, .inl (hname.resolve_right (not_not_intro hdir))⟩
      · exact ⟨hdir, .inr hin⟩
  cases kind with
  | link target =>
    apply triple_pure
    apply hskip (.inr _)
    rintro ⟨b, hdata⟩
    rw [hlookup] at hdata
    simp at hdata
  | data complete =>
    unfold pruneEntry
    dsimp only
    split_ifs with hmatch hstore
    · exact triple_pure (hskip (.inl (.inl hmatch)))
    · exact triple_pure (hskip (.inl (.inr hstore.2)))
    · have hjunk : ∀ t, ListedAs (HasDir st.dir) t name := by
        intro t n d hmatch'
        rw [hmatch'] at hmatch
        simp at hmatch
      have hin : HasDir st.dir name ∧ (Expected name ∨
          name ∈ ((name, RepoEntry.data complete) :: rest).map Prod.fst) :=
        ⟨⟨complete, hlookup⟩, .inr List.mem_cons_self⟩
      refine triple_consequence (data_rmTree (fun _ h => h) hin (fun st' _ => hjunk st'.artifacts))
        (fun _ h => h) ?_ ?_
      · intro _ st' h
        refine h.mono ?_ (fun _ _ hlisted => hlisted)
        rintro e ⟨⟨hdir, hexpected | hin⟩, hne⟩
        · exact ⟨hdir, .inl hexpected⟩
        · rw [List.map_cons, List.mem_cons] at hin
          exact ⟨hdir, .inr (hin.resolve_left hne)⟩
      · exact fun _ st' h e b hdata => (h e b hdata).1

/-- An artifact leaves the table after its directory is gone. -/
lemma ListedAs.removeArtifact {a : RArtifact} {e : String} (h : ListedAs D table e)
    (hne : e ≠ a.path) (ha : D a.path) :
    ListedAs D (removeArtifact table a.name a.digest) e := by
  have hkeep : ∀ n d, artifactEntryName n d ≠ a.path → findArtifact table n d ≠ none →
      findArtifact (RaucUpdate.removeArtifact table a.name a.digest) n d ≠ none := by
    intro n d hname hfind
    rw [find_removeArtifact, if_neg]
    · exact hfind
    · rintro ⟨rfl, rfl⟩
      exact hname rfl
  intro n d hmatch
  rcases h n d hmatch with ⟨n', d', hfind, rfl⟩ | ⟨n', d', hfind, hlost⟩
  · exact .inl ⟨n', d', hkeep n' d' hne hfind, rfl⟩
  · refine .inr ⟨n', d', hkeep n' d' ?_ hfind, hlost⟩
    intro hname
    exact hlost (hname ▸ ha)

lemma pruneArtifact_triple (a : RArtifact) :
    DataTriple D (DataWithin (fun e => D e ∧ Expected e) (ListedAs D)) (pruneArtifact a)
      (fun _ => DataWithin (fun e => D e ∧ Expected e) (ListedAs D)) := by
  unfold pruneArtifact
  have hweak : ∀ st : RepoState, OnlyData (fun e => D e ∧ Expected e) st → OnlyData D st :=
    fun st h e b hdata => (h e b hdata).1
  split_ifs
  · exact triple_pure (fun _ h => h)
  · refine triple_bind (triple_consequence (data_rTreeCheckOpen _) (fun _ h => h) (fun _ _ h => h)
      (fun _ st h => hweak st h)) (fun held => ?_)
    split_ifs
    · exact triple_pure (fun _ h => h.1)
    · apply triple_start
      rintro st ⟨hst, hdir⟩
      obtain ⟨b, hdata⟩ := hdir
      have hpath : D a.path ∧ Expected a.path := hst.data _ b hdata
      have hlisted : ListedAs D st.artifacts a.path := hst.known _ b hdata
      have hremoved := data_rmTree (D := fun e => D e ∧ Expected e) (K := ListedAs D) (e := a.path)
        (P := (· = st))
        (by rintro _ rfl; exact hst) hpath (by rintro _ rfl; exact hlisted)
      refine triple_bind (triple_consequence hremoved (fun _ h => h) (fun _ _ h => h)
        (fun _ st h => hweak st h))
        (fun _ => ?_)
      apply data_changeArtifacts
      intro st' hst'
      refine ⟨fun e b hdata' => (hst'.data e b hdata').1, ?_, ?_⟩
      · intro n d found hfind
        dsimp only at hfind
        rw [find_removeArtifact] at hfind
        split_ifs at hfind
        exact hst'.keyed n d found hfind
      · intro e b hdata'
        exact (hst'.known e b hdata').removeArtifact (hst'.data e b hdata').2 hpath.1

lemma pruneArtifacts_triple (repo : ComposefsRepo) (st : RepoState) (hkeyed : Keyed st.artifacts)
    (hlisted : ∀ e, HasDir st.dir e → ListedAs (HasDir st.dir) st.artifacts e) :
    DataTriple (HasDir st.dir) (· = st) (pruneArtifacts repo)
      (fun _ => DataWithin (fun e => HasDir st.dir e ∧ Expected e) (ListedAs (HasDir st.dir))) := by
  unfold pruneArtifacts
  have hopen : DataTriple (HasDir st.dir) (· = st) (openDir repo.toRArtifactRepo)
      (fun dir st' => st' = st ∧ dir = st.dir) := by
    refine triple_consequence (openDir_peeks repo.toRArtifactRepo st) (fun _ h => h)
      (fun _ _ h => h) ?_
    rintro _ _ rfl
    exact onlyData_of_disk rfl
  refine triple_bind hopen (fun dir => triple_fact ?_)
  rintro rfl
  have hloop := triple_each (f := pruneEntry repo.toRArtifactRepo) (E := fun _ =>
    OnlyData (HasDir st.dir))
    (fun rest st' => (∃ done, done ++ rest = st.dir.entries) ∧
      DataWithin (fun e => HasDir st.dir e ∧ (Expected e ∨ e ∈ rest.map Prod.fst))
        (ListedAs (HasDir st.dir)) st') ?_
    st.dir.entries
  · refine triple_bind (triple_consequence hloop ?_ (fun _ _ h => h) (fun _ _ h => h)) (fun _ => ?_)
    · rintro st' rfl
      refine ⟨⟨[], rfl⟩, ?_, hkeyed, fun e b hdata => hlisted e ⟨b, hdata⟩⟩
      intro e b hdata
      have hmem := (Table.lookup_eq_some_iff _ e _).mp hdata
      exact ⟨⟨b, hdata⟩, .inr (List.mem_map.mpr ⟨_, hmem, rfl⟩)⟩
    · apply triple_read_bind
      rintro st' ⟨-, hst'⟩
      have hstart : DataWithin (fun e => HasDir st.dir e ∧
          Expected e) (ListedAs (HasDir st.dir)) st' :=
        hst'.mono (fun e he => ⟨he.1, he.2.resolve_right (by simp)⟩) (fun _ _ h => h)
      refine triple_consequence (triple_each (fun _ =>
        DataWithin (fun e => HasDir st.dir e ∧ Expected e) (ListedAs (HasDir st.dir)))
        (fun a _ => pruneArtifact_triple a) (artifactList st'.artifacts)) ?_ (fun _ _ h => h)
          (fun _ _ h => h)
      rintro _ rfl
      exact hstart
  · intro entry rest
    apply triple_start
    rintro st' ⟨⟨done, hdone⟩, hst'⟩
    refine triple_consequence (pruneEntry_triple repo st hdone) ?_ ?_ (fun _ _ h => h)
    · rintro _ rfl
      exact hst'
    · intro _ st'' h
      exact ⟨⟨done ++ [entry], by rw [List.append_assoc]; exact hdone⟩, h⟩

end Pruning

section Linking

variable {D : String → Prop} {K : ArtifactTable → String → Prop} {table table' : ArtifactTable}

/-- A failure that is handed on leaves the repository as it was. -/
lemma data_attempt {α : Type} {P : RepoState → Prop} {p : RepoProg α}
    (h : Triple P p (fun _ => DataWithin D K) (fun _ => DataWithin D K)) :
    DataTriple D P (attempt p) (fun _ => DataWithin D K) := by
  refine triple_consequence (triple_attempt_cases h) (fun _ h => h) ?_ (fun _ _ h => h.data)
  intro r st hst
  cases r with
  | ok _ => exact hst
  | error _ => exact hst

/-- A link takes the place of no directory. -/
lemma data_replaceLink (target name : String) :
    DataTriple D (DataWithin D K) (replaceLink target name) (fun _ => DataWithin D K) := by
  unfold replaceLink
  apply triple_start
  intro st hst
  have hexists : DataTriple D (· = st) (entryExists (tmpLinkName name)) (fun _ st' =>
      st' = st) := by
    refine triple_consequence (entryExists_peeks _ st) (fun _ h => h) (fun _ _ h => h.1) ?_
    rintro _ _ rfl
    exact hst.data
  refine triple_bind hexists (fun found => ?_)
  split_ifs
  · apply triple_exit
    rintro _ rfl
    exact hst.data
  · -- the temporary link, which is then renamed or removed
    have hlink : DataTriple D (· = st)
        (changeDir "Failed to create symlink: " (fun dir =>
          dir.set (tmpLinkName name) (.link target)))
        (fun _ st' => DataWithin D K st' ∧ ∀ b, st'.dir.lookup (tmpLinkName name) ≠ some
          (.data b)) := by
      apply triple_external
      · rintro st rfl
        have hset : ∀ e b, (st.dir.set (tmpLinkName name) (.link target)).lookup e =
            some (.data b) →
            st.dir.lookup e = some (.data b) ∧ e ≠ tmpLinkName name := by
          intro e b hdata
          rw [Table.lookup_set] at hdata
          split_ifs at hdata with he
          · simp at hdata
          · exact ⟨hdata, Ne.symm he⟩
        constructor
        · apply hst.changeDir
          intro e b hdata
          exact ⟨hst.data e b (hset e b hdata).1, hst.known e b (hset e b hdata).1⟩
        · intro b hdata
          rcases st.changeDir_dir (fun dir => dir.set (tmpLinkName name) (.link target)) with hdir
            | hdir
          · rw [hdir] at hdata
            exact (hset _ b hdata).2 rfl
          · rw [hdir] at hdata
            simp at hdata
      · rintro _ rfl _
        exact hst.data
      · rintro _ rfl
        exact hst.data
    refine triple_bind hlink (fun _ => ?_)
    have hrename : Triple (fun st' => DataWithin D K st' ∧
        ∀ b, st'.dir.lookup (tmpLinkName name) ≠ some (.data b))
        (changeDir "Failed to replace symlink: " (renameEntry (tmpLinkName name) name))
          (fun _ => DataWithin D K)
        (fun _ => DataWithin D K) := by
      apply triple_external
      · rintro st' ⟨hst', hnone⟩
        apply hst'.changeDir
        intro e b hdata
        have hdata' : st'.dir.lookup e = some (.data b) := by
          unfold renameEntry at hdata
          split at hdata
          · exact hdata
          · rename_i entry hentry
            rw [Table.lookup_set, Table.lookup_erase] at hdata
            split_ifs at hdata with he he'
            · rw [hentry] at hnone
              exact absurd hdata (hnone b)
            · exact hdata
        exact ⟨hst'.data e b hdata', hst'.known e b hdata'⟩
      · exact fun _ h _ => h.1
      · exact fun _ h => h.1
    refine triple_bind (data_attempt hrename) (fun r => ?_)
    cases r with
    | ok _ => exact triple_pure (fun _ h => h)
    | error e =>
      have herase : Triple (DataWithin D K) (changeDir "" (fun dir => dir.erase (tmpLinkName name)))
          (fun _ => DataWithin D K) (fun _ => DataWithin D K) := by
        apply triple_external
        · intro st' hst'
          apply hst'.changeDir
          intro e b hdata
          rw [Table.lookup_erase] at hdata
          split_ifs at hdata
          exact ⟨hst'.data e b hdata, hst'.known e b hdata⟩
        · exact fun _ h _ => h
        · exact fun _ h => h
      exact triple_bind (data_attempt herase) (fun _ => triple_exit (fun _ h => h.data))

lemma data_rUpdateSymlink (target name : String) :
    DataTriple D (DataWithin D K) (rUpdateSymlink target name) (fun _ => DataWithin D K) := by
  unfold rUpdateSymlink
  apply triple_read_bind
  intro st hst
  have hsame : ∀ st' : RepoState, st' = st → DataWithin D K st' := by
    rintro _ rfl
    exact hst
  have hreplace := triple_consequence (data_replaceLink (D := D) (K := K) target name) hsame
    (fun _ _ h => h) (fun _ _ h => h)
  split_ifs
  · exact triple_exit (fun st' h => (hsame st' h).data)
  · exact triple_exit (fun st' h => (hsame st' h).data)
  · split
    · exact triple_exit (fun st' h => (hsame st' h).data)
    · split_ifs
      · exact triple_pure hsame
      · exact hreplace
    · exact hreplace

lemma data_removeLink (name : String) :
    DataTriple D (DataWithin D K) (removeLink name) (fun _ => DataWithin D K) := by
  unfold removeLink
  split_ifs
  · exact triple_exit (fun _ h => h.data)
  · refine triple_bind (data_peeks (entryExists_peeks name)) (fun found => ?_)
    split_ifs
    · apply data_changeDir (fun _ h => h.1)
      intro st hst e b hdata
      rw [Table.lookup_erase] at hdata
      split_ifs at hdata
      exact ⟨hst.1.data e b hdata, hst.1.known e b hdata⟩
    · exact triple_pure (fun _ h => h.1)

lemma enabledArtifact_peeks (l : List RArtifact) (st : RepoState) :
    Peeks st (enabledArtifact l) (fun _ => True) := by
  induction l with
  | nil => exact peeks_pure trivial
  | cons artifact rest ih =>
    apply peeks_bind (entryExists_peeks _ st)
    intro _ _
    apply peeks_bind (gAssert_peeks _ _ st)
    intro _ _
    split_ifs
    · exact peeks_pure trivial
    · exact ih

lemma data_rArtifactRepoCommit (repo : RArtifactRepo) :
    DataTriple D (DataWithin D K) (rArtifactRepoCommit repo) (fun _ => DataWithin D K) := by
  unfold rArtifactRepoCommit
  apply triple_read_bind
  intro st hst
  refine triple_bind (Q := fun _ => DataWithin D K) ?_ (fun _ => data_external _)
  refine triple_consequence (triple_each (fun _ => DataWithin D K) ?_ st.artifacts.entries)
    (by rintro _ rfl; exact hst)
    (fun _ _ h => h) (fun _ _ h => h)
  intro entry rest
  unfold commitName
  refine triple_bind (data_peeks (enabledArtifact_peeks _)) (fun found => ?_)
  cases found with
  | some artifact =>
    exact triple_consequence (data_rUpdateSymlink _ _) (fun _ h => h.1) (fun _ _ h => h)
      (fun _ _ h => h)
  | none =>
    exact triple_consequence (data_removeLink _) (fun _ h => h.1) (fun _ _ h => h) (fun _ _ h => h)

/-- Apart from the store every directory belongs to an artifact of the table. -/
def Owned (table : ArtifactTable) (e : String) : Prop := e = storeDirName ∨ InTable table e

lemma Owned.mono {e : String} (h : Owned table e)
    (hfind : ∀ n d, findArtifact table n d ≠ none → findArtifact table' n d ≠ none) :
      Owned table' e := by
  rcases h with h | ⟨n, d, hfound, hname⟩
  · exact .inl h
  · exact .inr ⟨n, d, hfind n d hfound, hname⟩

lemma sameNames_mapEntries {f : String → Table String RArtifact → Table String RArtifact}
    (hf : ∀ n inner d, ((f n inner).lookup d).map (fun a => (a.name, a.digest)) =
      (inner.lookup d).map (fun a => (a.name, a.digest))) :
        SameNames table (table.mapEntries f) := by
  intro n d
  unfold findArtifact
  rw [Table.lookup_mapEntries]
  cases table.lookup n with
  | none => rfl
  | some inner => exact hf n inner d

lemma data_sameNames {change : ArtifactTable → ArtifactTable} (h : ∀ t, SameNames t (change t)) :
    DataTriple D (DataWithin D Owned) (changeArtifacts change) (fun _ => DataWithin D Owned) := by
  apply data_changeArtifacts
  intro st hst
  exact ⟨hst.data, (h _).keyed hst.keyed, fun e b hdata =>
    (hst.known e b hdata).mono (fun _ _ => (h _).found)⟩

lemma data_removeOldArtifacts (repo : RArtifactRepo) (manifest : RaucManifest) :
    DataTriple D (DataWithin D Owned) (removeOldArtifacts repo manifest)
      (fun _ => DataWithin D Owned) := by
  unfold removeOldArtifacts
  refine triple_bind (data_sameNames (fun t => sameNames_mapEntries ?_))
    (fun _ => data_rArtifactRepoCommit repo)
  intro n inner d
  split_ifs
  · rfl
  · unfold dropReferences
    rw [Table.lookup_mapValues, Option.map_map]
    rfl

/-- An artifact that has to be installed is in the table afterwards. -/
lemma data_checkRepo (repo : RArtifactRepo) (manifest : RaucManifest) (image : RaucImage)
    (name : String) :
    DataTriple D (DataWithin D Owned) (checkRepo manifest repo image name) (fun missing st =>
      DataWithin D Owned st ∧
      (missing = true →
        InTable st.artifacts (artifactEntryName name (image.checksum.digest.getD "")))) := by
  unfold checkRepo
  refine triple_bind (data_removeOldArtifacts repo manifest) (fun _ => ?_)
  refine triple_bind (Q := fun _ => DataWithin D Owned) ?_ (fun found => ?_)
  · refine triple_consequence (data_peeks (Q := fun _ _ => True) ?_) (fun _ h => h) (fun _ _ h =>
      h.1) (fun _ _ h => h)
    intro st
    unfold rArtifactFind
    cases image.checksum.digest with
    | none => exact peeks_exit
    | some digest => exact peeks_read (peeks_pure trivial)
  · cases found with
    | some artifact =>
      apply triple_pure
      exact fun st hst => ⟨hst, fun hmissing => by simp at hmissing⟩
    | none =>
      apply triple_start
      intro st hst
      refine triple_bind (triple_consequence (rArtifactRepoInsert_triple repo _ st) (fun _ h => h)
        (fun _ _ h => h) ?_)
        (fun _ => ?_)
      · rintro _ _ rfl
        exact hst.data
      · apply triple_pure
        rintro _ ⟨-, rfl⟩
        refine ⟨⟨hst.data, ?_, ?_⟩, fun _ => ⟨name, image.checksum.digest.getD "", ?_, rfl⟩⟩
        · intro n d a hfind
          dsimp only at hfind
          rw [find_insertArtifact] at hfind
          split_ifs at hfind with hsame
          · obtain rfl := Option.some.inj hfind
            exact hsame
          · exact hst.keyed n d a hfind
        · intro e b hdata
          apply (hst.known e b hdata).mono
          intro n d hfound
          rw [find_insertArtifact]
          split_ifs
          · simp
          · exact hfound
        · rw [find_insertArtifact, if_pos ⟨rfl, rfl⟩]
          simp

lemma data_commitArtifact (repo : RArtifactRepo) (image : RaucImage) (name : String) :
    DataTriple D (DataWithin D Owned) (commitArtifact repo image name)
      (fun _ => DataWithin D Owned) := by
  unfold commitArtifact rArtifactActivate
  refine triple_bind (data_peeks (gAssert_peeks _ _)) (fun _ => triple_fact (fun _ => ?_))
  refine triple_bind (data_sameNames (fun t => sameNames_mapEntries ?_))
    (fun _ => data_rArtifactRepoCommit repo)
  intro n inner d
  split_ifs
  · unfold activateDigest
    rw [Table.lookup_mapEntries, Option.map_map]
    cases inner.lookup d with
    | none => rfl
    | some a =>
      simp only [Option.map_some, Function.comp_apply]
      split_ifs
      · unfold addReference
        split_ifs
        · rfl
        · rfl
      · rfl
  · rfl

end Linking

end RaucUpdate
