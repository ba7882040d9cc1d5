import RaucUpdate.Proofs.ArtifactPrune

/-!
# Committing an artifact repository

`r_artifact_repo_commit` leaves the links that the table asks for, and wherever it ends no link
leads to an artifact that is not there. A temporary link of an earlier installation keeps a link
from being replaced.
-/

namespace RaucUpdate

open Library

section Links

variable {T : Terms} {dir dir' : RepoDir} {name : String}

/-- What an artifact needs for a link to it. -/
structure Linkable (T : Terms) (dir : RepoDir) (name digest : String) : Prop where
  dotless : Dotless name
  recognised : Recognised name digest
  kept : Kept dir name digest
  backed : T.unheld → Backed dir name digest

/-- Without a temporary link the content is there. -/
lemma Linkable.intact {digest : String} (h : Linkable T dir name digest) (hunheld : T.unheld)
    (hfree : dir.lookup (tmpLinkName name) = none) : Intact dir name digest := by
  rcases h.backed hunheld with hintact | ⟨target, htmp⟩
  · exact hintact
  · rw [hfree] at htmp
    exact absurd htmp (by simp)

end Links

section Replacing

variable {T : Terms} {dir₀ : RepoDir} {table₀ : ArtifactTable} {name digest : String}

end Replacing

section Committing

variable {T : Terms} {dir₀ dir dir' : RepoDir} {table₀ table : ArtifactTable} {name : String}

lemma Usable.linkable (h : Usable T dir table) {n d : String} {a : RArtifact}
    (hfind : findArtifact table n d = some a) :
    Linkable T dir n d where
  dotless := T.dotless n (h.admitted n d a hfind).2
  recognised := (h.admitted n d a hfind).1
  kept := h.present n d a hfind
  backed := fun hunheld => h.backed hunheld n d a hfind

lemma Tabled.not_key (h : Tabled T dir table) {e : String} (he : Hidden e ∨ ¬ Dotless e) :
    table.lookup e = none := by
  by_contra hkey
  have hdotless := T.dotless e (h.names e hkey)
  exact he.elim hdotless.not_hidden (fun hdot => hdot hdotless)

lemma Linkable.congr {n d : String} (h : Linkable T dir n d)
    (hsame : ∀ e, Hidden e ∨ ¬ Dotless e → dir'.lookup e = dir.lookup e) : Linkable T dir' n d where
  dotless := h.dotless
  recognised := h.recognised
  kept := by
    unfold Kept
    rw [hsame _ (.inl (hidden_entryName n d))]
    exact h.kept
  backed := by
    intro hunheld
    rcases h.backed hunheld with hintact | ⟨target, htmp⟩
    · exact .inl ((hsame _ (.inl (hidden_entryName n d))).trans hintact)
    · exact .inr ⟨target, (hsame _ (.inr (tmpLinkName_not_dotless n))).trans htmp⟩

/-- After a commit the links are those of the table. -/
lemma Usable.synced (h : Usable T dir table) (hcommitted : Committed dir dir' table) :
    Synced T dir' table := by
  have hsame : ∀ e, Hidden e ∨ ¬ Dotless e → dir'.lookup e = dir.lookup e :=
    fun e he => hcommitted.of_none (h.not_key he)
  constructor
  case toUsable =>
    constructor
    case toTabled =>
      constructor
      case named => exact h.named
      case admitted => exact h.admitted
      case present => exact fun n d a hfind => ((h.linkable hfind).congr hsame).kept
      case known =>
        intro n d hrec hfound
        rw [hsame _ (.inl (hidden_entryName n d))] at hfound
        exact h.known n d hrec hfound
      case single => exact h.single
      case names => exact h.names
      case settled =>
        intro hsettled n d hn htmp
        rw [TmpLinkedTo, hsame _ (.inr (tmpLinkName_not_dotless n))] at htmp
        exact h.settled hsettled n d hn htmp
    case backed => exact fun hunheld n d a hfind => ((h.linkable hfind).congr hsame).backed hunheld
    case noTmp =>
      intro n d
      rw [hsame _ (.inl (hidden_tmpName n d))]
      exact h.noTmp n d
  case referenced =>
    intro n d a _ hlink hfind
    obtain ⟨inner, hinner⟩ := Option.ne_none_iff_exists'.mp (lookup_ne_none_of_find hfind)
    have hlinked := hcommitted.linked n inner hinner
    rw [LinkedTo, hlinked] at hlink
    obtain ⟨a', htarget, hlinkTo⟩ := Option.map_eq_some_iff.mp hlink
    obtain ⟨hfind', hname, hreference⟩ := commitTarget_some h.named hinner htarget
    rw [linkTo, hname, RepoEntry.link.injEq] at hlinkTo
    rw [entryName_right_inj hlinkTo] at hfind'
    obtain rfl := Option.some.inj (hfind.symm.trans hfind')
    rcases h.single n d a hfind with hnone | hone
    · rw [hnone] at hreference
      exact absurd hreference List.not_mem_nil
    · exact hone

end Committing

end RaucUpdate
