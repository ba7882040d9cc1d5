import RaucUpdate.Proofs.ArtifactCodec

/-!
# Reading and pruning an artifact repository

After `r_artifact_repo_prepare` the table of a repository lists what its directory holds, and after
`r_artifact_repo_prune` what is left in it may be linked. Neither touches a link.
-/

namespace RaucUpdate

open Library

section Reading

variable {T : Terms} {φ : RepoDir → ArtifactTable → Prop} {dir : RepoDir} {table : ArtifactTable}

lemma RepoInv.readable (h : RepoInv T dir) : Readable dir where
  entry e n d hmatch hfound :=
    ⟨(h.entry e n d hmatch hfound).1, h.not_link (hidden_of_match hmatch),
      h.not_link (hidden_tmpName n d)⟩

/-- The two places from which a reference to an artifact can come. -/
lemma RepoInv.leadsTo (h : RepoInv T dir) {n d : String} {entry : String × RepoEntry}
    (hentry : entry ∈ dir.entries)
    (hleads : RaucUpdate.leadsTo n d entry = true) :
    LinkName n ∧ (entry = (n, .link (artifactEntryName n d)) ∧ LinkedTo dir n d ∨
      entry = (tmpLinkName n, .link (artifactEntryName n d)) ∧ TmpLinkedTo dir n d) := by
  obtain ⟨e, kind⟩ := entry
  have hlookup := (Table.lookup_eq_some_iff dir e kind).mpr hentry
  cases kind with
  | data complete => exact absurd hleads (by simp [RaucUpdate.leadsTo])
  | link target =>
    have hmatch : matchArtifactEntry target = some (n, d) := by
      simp only [RaucUpdate.leadsTo, Bool.and_eq_true, decide_eq_true_eq] at hleads
      exact hleads.2
    obtain ⟨m, d', hname, hm, hrec, rfl⟩ := h.link e target hlookup
    obtain ⟨rfl, rfl⟩ : m = n ∧ d' = d := by simpa using hrec.symm.trans hmatch
    refine ⟨hm, ?_⟩
    rcases hname with rfl | rfl
    · exact .inl ⟨rfl, hlookup⟩
    · exact .inr ⟨rfl, hlookup⟩

lemma length_le_one_of_nodup {α : Type} {l : List α} (hnodup : l.Nodup)
    (h : ∀ x ∈ l, ∀ y ∈ l, x = y) : l.length ≤ 1 := by
  cases l with
  | nil => simp
  | cons x rest =>
    cases rest with
    | nil => simp
    | cons y rest =>
      obtain rfl := h x (by simp) y (by simp)
      simp at hnodup

/-- An artifact is referenced at most once: its own link and its temporary link do not lead to it
both. -/
lemma RepoInv.countP_leadsTo (h : RepoInv T dir) (n d : String) :
    dir.entries.countP (RaucUpdate.leadsTo n d) ≤ 1 := by
  rw [List.countP_eq_length_filter]
  apply length_le_one_of_nodup (dir.nodup.of_map.filter _)
  intro x hx y hy
  obtain ⟨hxmem, hx⟩ := List.mem_filter.mp hx
  obtain ⟨hymem, hy⟩ := List.mem_filter.mp hy
  obtain ⟨hn, hx⟩ := h.leadsTo hxmem hx
  obtain ⟨-, hy⟩ := h.leadsTo hymem hy
  rcases hx with ⟨rfl, hlink⟩ | ⟨rfl, htmp⟩
  · rcases hy with ⟨rfl, -⟩ | ⟨rfl, htmp⟩
    · rfl
    · exact absurd htmp (h.apart n d hn hlink)
  · rcases hy with ⟨rfl, hlink⟩ | ⟨rfl, -⟩
    · exact absurd htmp (h.apart n d hn hlink)
    · rfl

lemma listed_keys_iff (h : RepoInv T dir) (n d : String) :
    listed dir.keys n d = true ↔ Recognised n d ∧ dir.lookup (artifactEntryName n d) ≠ none := by
  unfold listed
  rw [List.any_eq_true]
  constructor
  · rintro ⟨e, hkey, hmatch⟩
    have hmatch : matchArtifactEntry e = some (n, d) := by simpa using hmatch
    have hfound : dir.lookup e ≠ none := fun hnone => (Table.lookup_eq_none_iff dir e).mp hnone hkey
    obtain ⟨rfl, -⟩ := h.entry e n d hmatch hfound
    exact ⟨hmatch, hfound⟩
  · rintro ⟨hrec, hfound⟩
    refine ⟨artifactEntryName n d, ?_, decide_eq_true hrec⟩
    by_contra hkey
    exact hfound ((Table.lookup_eq_none_iff dir _).mpr hkey)

/-- A table that was read from the directory lists what is in it. -/
lemma RepoInv.listed (h : RepoInv T dir) (hsettled : T.settled → NoTmpLinks dir)
    (hfull : Full table)
    (hread : ∀ n d, findArtifact table n d = if RaucUpdate.listed dir.keys n d
      then some {
        name := n, digest := d,
        references := List.replicate (dir.entries.countP (RaucUpdate.leadsTo n d)) "" }
      else none) : Listed T dir table := by
  have hfind : ∀ n d a, findArtifact table n d = some a →
      Recognised n d ∧ dir.lookup (artifactEntryName n d) ≠ none ∧ a = {
        name := n, digest := d,
        references := List.replicate (dir.entries.countP (RaucUpdate.leadsTo n d)) "" } := by
    intro n d a ha
    rw [hread] at ha
    split_ifs at ha with hlisted
    obtain ⟨hrec, hfound⟩ := (listed_keys_iff h n d).mp hlisted
    exact ⟨hrec, hfound, (Option.some.inj ha).symm⟩
  constructor
  case toTabled =>
    constructor
    case named =>
      intro n d a ha
      obtain ⟨-, -, rfl⟩ := hfind n d a ha
      exact ⟨rfl, rfl⟩
    case admitted =>
      intro n d a ha
      obtain ⟨hrec, hfound, -⟩ := hfind n d a ha
      exact ⟨hrec, (h.entry _ n d hrec hfound).2⟩
    case present =>
      intro n d a ha
      obtain ⟨-, hfound, -⟩ := hfind n d a ha
      obtain ⟨entry, hentry⟩ := Option.ne_none_iff_exists'.mp hfound
      cases entry with
      | link target => exact absurd hentry (h.not_link (hidden_entryName n d) target)
      | data complete => exact ⟨complete, hentry⟩
    case known =>
      intro n d hrec hfound
      rw [hread, if_pos ((listed_keys_iff h n d).mpr ⟨hrec, hfound⟩)]
      simp
    case single =>
      intro n d a ha
      obtain ⟨-, -, rfl⟩ := hfind n d a ha
      have hcount := h.countP_leadsTo n d
      interval_cases dir.entries.countP (RaucUpdate.leadsTo n d)
      · exact .inl rfl
      · exact .inr rfl
    case names =>
      intro n hn
      obtain ⟨inner, hinner⟩ := Option.ne_none_iff_exists'.mp hn
      obtain ⟨d, a, ha⟩ := hfull n inner hinner
      obtain ⟨hrec, hfound, -⟩ := hfind n d a ha
      exact (h.entry _ n d hrec hfound).2
    case settled => exact hsettled
  case referenced =>
    intro n d a hn hlink ha
    obtain ⟨hrec, -, rfl⟩ := hfind n d a ha
    have hleads : RaucUpdate.leadsTo n d (n, .link (artifactEntryName n d)) = true := by
      have hvisible : hasPrefix "." n = false := Bool.eq_false_iff.mpr hn.not_hidden
      simp only [RaucUpdate.leadsTo, hvisible, Bool.not_false, Bool.true_and, decide_eq_true_eq]
      exact hrec
    have hpos : 0 < dir.entries.countP (RaucUpdate.leadsTo n d) :=
      List.countP_pos_iff.mpr ⟨_, (Table.lookup_eq_some_iff dir _ _).mp hlink, hleads⟩
    have hcount := h.countP_leadsTo n d
    have hone : dir.entries.countP (RaucUpdate.leadsTo n d) = 1 := by omega
    simp only [hone]
    rfl
  case backed =>
    intro hunheld n d a ha hreferences
    obtain ⟨-, -, rfl⟩ := hfind n d a ha
    have hpos : 0 < dir.entries.countP (RaucUpdate.leadsTo n d) := by
      rw [Nat.pos_iff_ne_zero]
      intro hzero
      exact hreferences (by simp [hzero])
    obtain ⟨entry, hentry, hleads⟩ := List.countP_pos_iff.mp hpos
    obtain ⟨hn, ⟨-, hlink⟩ | ⟨-, htmp⟩⟩ := h.leadsTo hentry hleads
    · exact .inl (h.complete hunheld n d hn.dotless hlink)
    · exact .inr ⟨_, htmp⟩

end Reading

section Removal

variable {T : Terms} {φ : RepoDir → ArtifactTable → Prop} {dir dir' : RepoDir}
  {table : ArtifactTable}

lemma DataChange.trans {e : String} {dir'' : RepoDir} (h : DataChange e dir dir')
    (h' : DataChange e dir' dir'') :
    DataChange e dir dir'' where
  before := h.before
  after := h'.after
  same e' he := (h'.same e' he).trans (h.same e' he)

end Removal

section Prune

variable {T : Terms} {dir dir' : RepoDir} {table : ArtifactTable}

/-- While what does not belong there is removed: nothing is added to the directory, and temporary
data is still to come. -/
structure Junking (T : Terms) (dir₀ : RepoDir) (table₀ : ArtifactTable)
    (rest : List (String × RepoEntry))
    (dir : RepoDir) (table : ArtifactTable) : Prop where
  listed : Listed T dir table
  table_eq : table = table₀
  links : SameLinks dir₀ dir
  subset : ∀ e kind, dir.lookup e = some kind → dir₀.lookup e = some kind
  coming : ∀ n d, dir.lookup (artifactTmpName n d) ≠ none → artifactTmpName n d ∈ rest.map Prod.fst

lemma Junking.skip {dir₀ : RepoDir} {table₀ : ArtifactTable} {entry : String × RepoEntry}
    {rest : List (String × RepoEntry)} (h : Junking T dir₀ table₀ (entry :: rest) dir table)
    (hentry : ∀ n d, dir.lookup (artifactTmpName n d) ≠ none → entry.1 ≠ artifactTmpName n d) :
    Junking T dir₀ table₀ rest dir table where
  listed := h.listed
  table_eq := h.table_eq
  links := h.links
  subset := h.subset
  coming n d hfound := by
    rcases List.mem_cons.mp (h.coming n d hfound) with hname | hrest
    · exact absurd hname.symm (hentry n d hfound)
    · exact hrest

/-- While the artifacts without references are removed: what is not to come any more may be
linked. -/
structure Pruning (T : Terms) (dir₀ : RepoDir) (table₀ : ArtifactTable) (rest : List RArtifact)
    (dir : RepoDir)
    (table : ArtifactTable) : Prop where
  listed : Listed T dir table
  noTmp : NoTmpData dir
  links : SameLinks dir₀ dir
  subset : ∀ n d a, findArtifact table n d = some a → findArtifact table₀ n d = some a
  coming : ∀ a ∈ rest, findArtifact table₀ a.name a.digest = some a ∧ Recognised a.name a.digest ∧
    T.admits a.name
  backed : T.unheld → ∀ n d a, findArtifact table n d = some a → a ∉ rest → Backed dir n d

lemma Pruning.skip {dir₀ : RepoDir} {table₀ : ArtifactTable} {artifact : RArtifact}
    {rest : List RArtifact}
    (h : Pruning T dir₀ table₀ (artifact :: rest) dir table)
    (hbacked : T.unheld → ∀ n d, findArtifact table n d = some artifact → Backed dir n d) :
    Pruning T dir₀ table₀ rest dir table where
  listed := h.listed
  noTmp := h.noTmp
  links := h.links
  subset := h.subset
  coming a ha := h.coming a (List.mem_cons_of_mem _ ha)
  backed := by
    intro hunheld n d a hfind ha
    by_cases hsame : a = artifact
    · subst hsame
      exact hbacked hunheld n d hfind
    · exact h.backed hunheld n d a hfind (by simp [hsame, ha])

end Prune

end RaucUpdate
