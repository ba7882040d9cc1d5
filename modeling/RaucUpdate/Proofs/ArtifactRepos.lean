import RaucUpdate.Proofs.ArtifactNames

/-!
# One artifact repository

The invariant of the directory of a repository, which holds whenever a run can end, and what the
table of artifacts in memory says about the directory in between. Both depend on `Terms`, what the
surroundings of a run promise.
-/

namespace RaucUpdate

open Library

section Invariant

/-- Which names the artifacts of manifests have, whether no file is open in incomplete data, whether
no temporary link is left when a run starts, and whether an assertion of the code may fail. -/
structure Terms where
  admits : String → Prop
  dotless : ∀ n, admits n → Dotless n
  unheld : Prop
  settled : Prop
  mayAbort : Prop

def LinkedTo (dir : RepoDir) (name digest : String) : Prop :=
  dir.lookup name = some (.link (artifactEntryName name digest))

def TmpLinkedTo (dir : RepoDir) (name digest : String) : Prop :=
  dir.lookup (tmpLinkName name) = some (.link (artifactEntryName name digest))

def Kept (dir : RepoDir) (name digest : String) : Prop :=
  ∃ complete, dir.lookup (artifactEntryName name digest) = some (.data complete)

def Intact (dir : RepoDir) (name digest : String) : Prop :=
  dir.lookup (artifactEntryName name digest) = some (.data true)

/-- Who is asked finds no file open in data that is incomplete. -/
def Unheld (disk : RepoDisk) : Prop := ∀ time entry, disk.holds time entry false = false

/-- No link waits to be put in the place of another one. -/
def NoTmpLinks (dir : RepoDir) : Prop := ∀ n d, LinkName n → ¬ TmpLinkedTo dir n d

variable (T : Terms)

structure RepoInv (dir : RepoDir) : Prop where
  link : ∀ e target, dir.lookup e = some (.link target) → ∃ n d, (e = n ∨ e = tmpLinkName n) ∧
    LinkName n ∧
    Recognised n d ∧ target = artifactEntryName n d
  entry : ∀ e n d, matchArtifactEntry e = some (n, d) → dir.lookup e ≠ none →
    e = artifactEntryName n d ∧ T.admits n
  kept : ∀ n d, Dotless n → LinkedTo dir n d → Kept dir n d
  complete : T.unheld → ∀ n d, Dotless n → LinkedTo dir n d → Intact dir n d
  apart : ∀ n d, LinkName n → LinkedTo dir n d → ¬ TmpLinkedTo dir n d
  pending : T.unheld → T.settled → ∀ n d, LinkName n → TmpLinkedTo dir n d → Intact dir n d

variable {T} {dir dir' : RepoDir}

/-- No link is hidden. -/
lemma RepoInv.not_link (h : RepoInv T dir) {e : String} (he : Hidden e) (target : String) :
    dir.lookup e ≠ some (.link target) := by
  intro hlink
  obtain ⟨n, d, hname, hn, -, -⟩ := h.link e target hlink
  rcases hname with rfl | rfl
  · exact hn.dotless.not_hidden he
  · exact hn.tmpLink_not_hidden he

/-- A link that is not a temporary one leads to an artifact of its own name. -/
lemma RepoInv.linkedTo (h : RepoInv T dir) {n target : String} (hn : Dotless n)
    (hlink : dir.lookup n = some (.link target)) :
    ∃ d, LinkName n ∧ Recognised n d ∧ target = artifactEntryName n d ∧ LinkedTo dir n d := by
  obtain ⟨m, d, hname, hm, hrec, rfl⟩ := h.link n target hlink
  rcases hname with rfl | rfl
  · exact ⟨d, hm, hrec, rfl, hlink⟩
  · exact absurd rfl (hn.ne_tmpLink m)

lemma RepoInv.recognised (h : RepoInv T dir) {n d : String} (hn : Dotless n)
    (hlink : LinkedTo dir n d) :
    Recognised n d := by
  obtain ⟨d', -, hrec, htarget, -⟩ := h.linkedTo hn hlink
  rw [entryName_right_inj htarget]
  exact hrec

/-- The same links lead to the same places. -/
def SameLinks (dir dir' : RepoDir) : Prop :=
  ∀ e target, dir'.lookup e = some (.link target) ↔ dir.lookup e = some (.link target)

lemma SameLinks.refl (dir : RepoDir) : SameLinks dir dir := fun _ _ => Iff.rfl

lemma SameLinks.trans {dir'' : RepoDir} (h : SameLinks dir dir') (h' : SameLinks dir' dir'') :
    SameLinks dir dir'' :=
  fun e target => (h' e target).trans (h e target)

/-- The directories agree except for one entry, which is no link in either. -/
structure DataChange (e : String) (dir dir' : RepoDir) : Prop where
  before : ∀ target, dir.lookup e ≠ some (.link target)
  after : ∀ target, dir'.lookup e ≠ some (.link target)
  same : ∀ e', e' ≠ e → dir'.lookup e' = dir.lookup e'

lemma NoTmpLinks.same (h : NoTmpLinks dir) (hlinks : SameLinks dir dir') : NoTmpLinks dir' :=
  fun n d hn htmp => h n d hn ((hlinks _ _).mp htmp)

lemma DataChange.sameLinks {e : String} (h : DataChange e dir dir') : SameLinks dir dir' := by
  intro e' target
  by_cases he : e' = e
  · subst he
    exact iff_of_false (h.after target) (h.before target)
  · rw [h.same e' he]

end Invariant

section Specifications

variable (T : Terms) {α β : Type}

/-- The invariant of a repository, whether its directory exists or not. -/
structure Sound (disk : RepoDisk) : Prop where
  unheld : T.unheld → Unheld disk
  inv : ∀ dir, disk.dir = some dir → RepoInv T dir

/-- The invariant of a repository that exists, with an assertion about the directory and the
table. -/
structure RepoHolds (φ : RepoDir → ArtifactTable → Prop) (st : RepoState) : Prop where
  unheld : T.unheld → Unheld st.disk
  exist : ∃ dir, st.disk.dir = some dir ∧ RepoInv T dir ∧ φ dir st.artifacts

/-- The way out is none that an assertion takes, unless these may fail. -/
def Terms.Permits (x : Exit GError) : Prop := ∀ reason, x = .aborted reason → T.mayAbort

/-- The invariant holds on every way out. -/
def RepoTriple (φ : RepoDir → ArtifactTable → Prop) (p : RepoProg α)
    (ψ : α → RepoDir → ArtifactTable → Prop) : Prop :=
  Prog.Triple (RepoHolds T φ) p (fun a => RepoHolds T (ψ a)) (fun x st => Sound T st.disk ∧
    T.Permits x)

variable {T} {φ φ' : RepoDir → ArtifactTable → Prop} {ψ ψ' : α → RepoDir → ArtifactTable → Prop}

lemma RepoHolds.sound {st : RepoState} (h : RepoHolds T φ st) : Sound T st.disk := by
  obtain ⟨dir, hdir, hinv, -⟩ := h.exist
  refine ⟨h.unheld, fun dir' hdir' => ?_⟩
  rw [hdir] at hdir'
  obtain rfl := Option.some.inj hdir'
  exact hinv

lemma RepoHolds.mono {st : RepoState} (h : RepoHolds T φ st)
    (hφ : ∀ dir table, RepoInv T dir → φ dir table → φ' dir table) :
    RepoHolds T φ' st := by
  obtain ⟨dir, hdir, hinv, hst⟩ := h.exist
  exact ⟨h.unheld, dir, hdir, hinv, hφ dir _ hinv hst⟩

lemma RepoHolds.dir_eq {st : RepoState} (h : RepoHolds T φ st) :
    st.disk.dir = some st.dir ∧ RepoInv T st.dir ∧ φ st.dir st.artifacts := by
  obtain ⟨dir, hdir, hinv, hst⟩ := h.exist
  have heq : st.dir = dir := by simp [RepoState.dir, hdir]
  rw [heq]
  exact ⟨hdir, hinv, hst⟩

lemma RepoHolds.changeDir {st : RepoState} {change : RepoDir → RepoDir} (hst : RepoHolds T φ st)
    (h : ∀ dir table, RepoInv T dir → φ dir table → RepoInv T (change dir) ∧
      φ' (change dir) table) :
    RepoHolds T φ' (st.changeDir change) := by
  obtain ⟨dir, hdir, hinv, hφ⟩ := hst.exist
  obtain ⟨hinv', hφ'⟩ := h dir _ hinv hφ
  exact ⟨hst.unheld, change dir, by simp [RepoState.changeDir, hdir], hinv', hφ'⟩

end Specifications

section Tables

lemma find_insertArtifact (table : ArtifactTable) (a : RArtifact) (n d : String) :
    findArtifact (insertArtifact table a) n d = if a.name = n ∧
      a.digest = d then some a else findArtifact table n d := by
  unfold insertArtifact findArtifact
  rw [Table.lookup_set]
  by_cases hn : a.name = n
  · subst hn
    rw [if_pos rfl, Option.bind_some, Table.lookup_set]
    by_cases hd : a.digest = d
    · simp [hd]
    · simp only [hd, and_false, if_false]
      cases table.lookup a.name with
      | none => rfl
      | some inner => rfl
  · simp [hn]

lemma find_removeArtifact (table : ArtifactTable) (n d n' d' : String) :
    findArtifact (removeArtifact table n d) n' d' = if n = n' ∧
      d = d' then none else findArtifact table n' d' := by
  have hinner : ∀ t : ArtifactTable, findArtifact t n' d' =
      ((t.lookup n').getD Table.empty).lookup d' := by
    intro t
    unfold findArtifact
    cases t.lookup n' with
    | none => rfl
    | some inner => rfl
  rw [hinner, hinner]
  unfold removeArtifact
  by_cases hn : n = n'
  · subst hn
    simp only [true_and]
    split
    · -- the name has no artifact left
      rename_i hempty
      have hgone : (((table.lookup n).getD Table.empty).erase d).lookup d' = none := by
        rw [Table.lookup_eq_none_iff]
        unfold Table.keys
        rw [hempty]
        exact List.not_mem_nil
      rw [Table.lookup_erase] at hgone
      rw [Table.lookup_erase, if_pos rfl]
      exact hgone.symm
    · rw [Table.lookup_set, if_pos rfl, Option.getD_some, Table.lookup_erase]
  · simp only [hn, false_and, if_false]
    split
    · rw [Table.lookup_erase, if_neg hn]
    · rw [Table.lookup_set, if_neg hn]

/-- The artifact has its content, or a temporary link keeps it from being linked. -/
def Backed (dir : RepoDir) (name digest : String) : Prop :=
  Intact dir name digest ∨ ∃ target, dir.lookup (tmpLinkName name) = some (.link target)

variable (T : Terms)

/-- The table holds the artifacts of the directory. -/
structure Tabled (dir : RepoDir) (table : ArtifactTable) : Prop where
  named : ∀ n d a, findArtifact table n d = some a → a.name = n ∧ a.digest = d
  admitted : ∀ n d a, findArtifact table n d = some a → Recognised n d ∧ T.admits n
  present : ∀ n d a, findArtifact table n d = some a → Kept dir n d
  known : ∀ n d, Recognised n d → dir.lookup (artifactEntryName n d) ≠ none →
    findArtifact table n d ≠ none
  single : ∀ n d a, findArtifact table n d = some a → a.references = [] ∨ a.references = [""]
  names : ∀ n, table.lookup n ≠ none → T.admits n
  settled : T.settled → NoTmpLinks dir

/-- The table has a reference for every link. -/
def Referenced (dir : RepoDir) (table : ArtifactTable) : Prop :=
  ∀ n d a, Dotless n → LinkedTo dir n d → findArtifact table n d = some a → a.references = [""]

/-- What is known after the directory has been read. -/
structure Listed (dir : RepoDir) (table : ArtifactTable) : Prop extends Tabled T dir table where
  referenced : Referenced dir table
  backed : T.unheld → ∀ n d a, findArtifact table n d = some a → a.references ≠ [] → Backed dir n d

def NoTmpData (dir : RepoDir) : Prop := ∀ n d, dir.lookup (artifactTmpName n d) = none

/-- What is known once the repository has been pruned: what is left may be linked. -/
structure Usable (dir : RepoDir) (table : ArtifactTable) : Prop extends Tabled T dir table where
  backed : T.unheld → ∀ n d a, findArtifact table n d = some a → Backed dir n d
  noTmp : NoTmpData dir

/-- The links are those of the table. -/
structure Synced (dir : RepoDir) (table : ArtifactTable) : Prop extends Usable T dir table where
  referenced : Referenced dir table

variable {T} {dir dir' : RepoDir} {table table' : ArtifactTable}

lemma Synced.listed (h : Synced T dir table) : Listed T dir table :=
  { h.toTabled with
    referenced := h.referenced
    backed := fun hunheld n d a hfind _ => h.backed hunheld n d a hfind }

lemma Backed.change {n d : String} (h : Backed dir n d) (hlinks : SameLinks dir dir')
    (hentry : dir'.lookup (artifactEntryName n d) = dir.lookup (artifactEntryName n d)) :
      Backed dir' n d := by
  rcases h with h | ⟨target, h⟩
  · exact .inl (hentry.trans h)
  · exact .inr ⟨target, (hlinks _ _).mpr h⟩

end Tables

end RaucUpdate
