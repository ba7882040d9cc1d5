import RaucUpdate.Library.StillPrograms
import RaucUpdate.Model.Install

/-!
# What leaves the artifacts alone

The steps of the default install handler that do not touch the artifact repositories.
-/

namespace RaucUpdate

open Library

section Frames

variable {α β : Type} (ctx : InstallContext) (slot : RaucSlot)

end Frames

end RaucUpdate
