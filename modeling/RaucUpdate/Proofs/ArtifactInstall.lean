import RaucUpdate.Proofs.ArtifactCommit

/-!
# Installing an artifact

`handle_artifact_install_plan` on its repository: artifacts that the manifest does not have lose
their links, the content is written aside and renamed, and the artifact of the plan is the only one
of its name that is linked afterwards.
-/

namespace RaucUpdate

open Library

section Copying

variable {T : Terms} {φ : RepoDir → ArtifactTable → Prop} {dir₀ : RepoDir} {table₀ : ArtifactTable}
  {name digest : String}

lemma dataChange_of_changed {dir dir' : RepoDir} {e : String} {complete : Bool} (h : NoLink dir e)
    (hchanged : Changed dir dir' e (some (.data complete))) : DataChange e dir dir' where
  before := h
  after target hlink := by
    rw [hchanged e, if_pos rfl] at hlink
    exact absurd hlink (by simp)
  same e' he := by rw [hchanged e', if_neg he]

lemma Changed.trans {dir dir' dir'' : RepoDir} {e : String} {entry entry' : Option RepoEntry}
    (h : Changed dir dir' e entry) (h' : Changed dir' dir'' e entry') :
      Changed dir dir'' e entry' := by
  intro e'
  rw [h' e', h e']
  split_ifs <;> rfl

end Copying

section References

variable {T : Terms} {dir dir' : RepoDir} {table table' : ArtifactTable}
  {D : String → Option String} {K : String → Prop}

/-- The artifact is the one of its name that is to be linked. -/
structure Active (table : ArtifactTable) (n d : String) : Prop where
  wanted : ∃ a, findArtifact table n d = some a ∧ "" ∈ a.references
  only : ∀ d' a, findArtifact table n d' = some a → "" ∈ a.references → d' = d

/-- These digests are active, and of the names that are not kept none is. -/
structure Assigned (D : String → Option String) (K : String → Prop) (table : ArtifactTable) :
    Prop where
  active : ∀ n d, D n = some d → Active table n d
  dropped : ∀ n d a, ¬ K n → findArtifact table n d = some a → a.references = []

/-- The links are those of the table, and these digests are the ones that are linked. -/
structure Provides (T : Terms) (D : String → Option String) (K : String → Prop) (dir : RepoDir)
    (table : ArtifactTable) : Prop where
  synced : Synced T dir table
  assigned : Assigned D K table
  linked : ∀ n d, D n = some d → LinkedTo dir n d

/-- A name that is not kept has no link. -/
lemma Provides.unlinked (h : Provides T D K dir table) (hinv : RepoInv T dir) {n : String}
    (hn : Dotless n) (hdropped : ¬ K n) (d : String) : ¬ LinkedTo dir n d := by
  intro hlink
  obtain ⟨complete, hkept⟩ := hinv.kept n d hn hlink
  obtain ⟨a, hfind⟩ := Option.ne_none_iff_exists'.mp
    (h.synced.known n d (hinv.recognised hn hlink) (by rw [hkept]; simp))
  have hreference := h.synced.referenced n d a hn hlink hfind
  rw [h.assigned.dropped n d a hdropped hfind] at hreference
  exact absurd hreference (by simp)

end References

section Plan

variable {T : Terms} {dir dir' : RepoDir} {table table' : ArtifactTable}
  {D : String → Option String} {K : String → Prop} {name digest : String}

/-- The artifact that was installed may be linked like the others. -/
lemma Usable.install (h : Usable T dir table) (hrec : Recognised name digest)
    (hname : T.admits name) (hinv : RepoInv T dir)
    (hchanged : Changed dir dir' (artifactEntryName name digest) (some (.data true))) :
    Usable T dir' (insertArtifact table { name, digest }) := by
  have hfind := find_insertArtifact table { name, digest }
  have hlinks : SameLinks dir dir' :=
    (dataChange_of_changed (hinv.not_link (hidden_entryName name digest)) hchanged).sameLinks
  have hnew : Intact dir' name digest := by
    unfold Intact
    rw [hchanged, if_pos rfl]
  have hother : ∀ n d, Recognised n d → ¬(name = n ∧ digest = d) →
      dir'.lookup (artifactEntryName n d) = dir.lookup (artifactEntryName n d) := by
    intro n d hrec' hne
    rw [hchanged, if_neg]
    exact fun heq => hne (hrec.inj hrec' heq.symm)
  constructor
  case toTabled =>
    constructor
    case named =>
      intro n d a ha
      rw [hfind] at ha
      split_ifs at ha with hsame
      · obtain rfl := Option.some.inj ha
        exact hsame
      · exact h.named n d a ha
    case admitted =>
      intro n d a ha
      rw [hfind] at ha
      split_ifs at ha with hsame
      · obtain ⟨rfl, rfl⟩ := hsame
        exact ⟨hrec, hname⟩
      · exact h.admitted n d a ha
    case present =>
      intro n d a ha
      rw [hfind] at ha
      split_ifs at ha with hsame
      · obtain ⟨rfl, rfl⟩ := hsame
        exact ⟨true, hnew⟩
      · unfold Kept
        rw [hother n d (h.admitted n d a ha).1 hsame]
        exact h.present n d a ha
    case known =>
      intro n d hrec' hfound
      rw [hfind]
      split_ifs with hsame
      · simp
      · rw [hother n d hrec' hsame] at hfound
        exact h.known n d hrec' hfound
    case single =>
      intro n d a ha
      rw [hfind] at ha
      split_ifs at ha with hsame
      · obtain rfl := Option.some.inj ha
        exact .inl rfl
      · exact h.single n d a ha
    case names =>
      intro n hn
      unfold insertArtifact at hn
      rw [Table.lookup_set] at hn
      split_ifs at hn with hsame
      · exact hsame ▸ hname
      · exact h.names n hn
    case settled => exact fun hsettled => (h.settled hsettled).same hlinks
  case backed =>
    intro hunheld n d a ha
    rw [hfind] at ha
    split_ifs at ha with hsame
    · obtain ⟨rfl, rfl⟩ := hsame
      exact .inl hnew
    · exact (h.backed hunheld n d a ha).change hlinks (hother n d (h.admitted n d a ha).1 hsame)
  case noTmp =>
    intro n d
    rw [hchanged, if_neg (hrec.ne_tmpName n d).symm]
    exact h.noTmp n d

lemma Assigned.insert (h : Assigned D K table) (hnew : findArtifact table name digest = none) :
    Assigned D K (insertArtifact table { name, digest }) := by
  have hfind := find_insertArtifact table { name, digest }
  constructor
  case active =>
    intro n d hd
    obtain ⟨⟨a, ha, hreference⟩, honly⟩ := h.active n d hd
    refine ⟨⟨a, ?_, hreference⟩, fun d' a' ha' hreference' => ?_⟩
    · rw [hfind, if_neg]
      · exact ha
      · rintro ⟨rfl, rfl⟩
        rw [hnew] at ha
        exact absurd ha (by simp)
    · rw [hfind] at ha'
      split_ifs at ha'
      · obtain rfl := Option.some.inj ha'
        exact absurd hreference' List.not_mem_nil
      · exact honly d' a' ha' hreference'
  case dropped =>
    intro n d a hn ha
    rw [hfind] at ha
    split_ifs at ha
    · obtain rfl := Option.some.inj ha
      rfl
    · exact h.dropped n d a hn ha

/-- The artifact becomes the one of its name that is to be linked. -/
lemma Active.activated (hsingle : ∀ d a, findArtifact table name d = some a →
    a.references = [] ∨ a.references = [""]) (hfound : findArtifact table name digest ≠ none)
    (hfind : ∀ d, findArtifact table' name d = (findArtifact table name d).map (fun a =>
      if d = digest then addReference a else rArtifactDeactivate a)) :
    Active table' name digest := by
  constructor
  case wanted =>
    obtain ⟨a, ha⟩ := Option.ne_none_iff_exists'.mp hfound
    refine ⟨addReference a, ?_, ?_⟩
    · rw [hfind, ha, Option.map_some, if_pos rfl]
    · unfold addReference
      split_ifs with hreference
      · exact hreference
      · simp
  case only =>
    intro d a' ha' hreference
    by_contra hother
    rw [hfind] at ha'
    obtain ⟨a, ha, rfl⟩ := Option.map_eq_some_iff.mp ha'
    rw [if_neg hother] at hreference
    rcases hsingle d a ha with hnone | hone
    · simp [rArtifactDeactivate, hnone] at hreference
    · simp [rArtifactDeactivate, hone] at hreference

end Plan

end RaucUpdate
