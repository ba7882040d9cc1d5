import RaucUpdate.Proofs.ArtifactRuns

/-!
# Variants of artifacts

A successful installation activates the last image of every artifact. What is meant is the image for
the variant of the system, so the two have to agree.
-/

namespace RaucUpdate

open Library

section Variants

variable {T : Terms} {systemVariant : Option String} {manifest : RaucManifest}
  {repo : RArtifactRepo} {start dir : RepoDir}

variable {ctx : InstallContext} {fileDigest : KeyFile → String} {system : SystemState}
  {st : InstallState}

end Variants

section App

end App

end RaucUpdate
