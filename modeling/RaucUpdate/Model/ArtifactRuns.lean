import RaucUpdate.Model.Install
import RaucUpdate.Model.ManifestChecks

/-!
# Runs of artifact installations

Installations one after the other in directories that start without artifacts, with what the links
in these directories are to lead to.
-/

namespace RaucUpdate

open Library

section Directories

/-- No link and nothing that has the name of an artifact is in the directory. -/
def Untouched (dir : RepoDir) : Prop :=
  ∀ e entry, dir.lookup e = some entry →
    (∃ complete, entry = .data complete) ∧ matchArtifactEntry e = none

end Directories

section Variants

variable (systemVariant : Option String) (images : List RaucImage) (repo name : String)

/-- The digest of the last image of the artifact. -/
def lastDigest : Option String :=
  images.foldl (fun found image =>
    if image.slotclass = some repo ∧ image.artifact = some name then image.checksum.digest
    else found) none

end Variants

section Runs

variable (ctx : InstallContext) (Given : RaucManifest → Prop) (tidy : Prop) (system : SystemState)

end Runs

end RaucUpdate
