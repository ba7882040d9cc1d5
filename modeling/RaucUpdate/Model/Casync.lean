import RaucUpdate.Model.Artifacts
import RaucUpdate.Model.Manifest

/-!
# Conversion to a casync bundle

What `convert_to_casync_bundle` of `bundle.c` does with the manifest of the bundle it was extracted
from. Each index that is made and each file that is removed is one external step.
-/

namespace RaucUpdate

open Library

def imageIsArchive (filename : String) : Bool :=
  patternMatch "*.tar*".toList filename.toList || patternMatch "*.catar".toList filename.toList

/-- The name of the index for a file. -/
def indexFilename (filename : String) : String :=
  if imageIsArchive filename then filename ++ ".caidx" else filename ++ ".caibx"

section Converting

variable {σ : Type} (ignoreImages : List String)

/-- `g_strv_contains` for the slot class of an image. -/
def ignoredImage (image : RaucImage) : Bool :=
  image.slotclass.any (fun slotclass => ignoreImages.contains slotclass)

/-- The loop of `convert_to_casync_bundle`: an archive is indexed as a directory tree, anything else
as a blob. The original file may stay behind. -/
def convertToCasyncImages : List RaucImage → Prog σ GError (List RaucImage)
  | [] => return []
  | image :: rest => do
    match image.filename with
    | none =>
      let images ← convertToCasyncImages rest
      return image :: images
    | some filename =>
      if ignoredImage ignoreImages image then
        let images ← convertToCasyncImages rest
        return image :: images
      else
        Prog.external id (fsError "Failed to run casync: ")
        let _ ← Prog.ask
        let images ← convertToCasyncImages rest
        return { image with filename := some (indexFilename filename) } :: images

/-- The manifest that is saved and signed, without the verity data of the input. -/
def convertToCasyncManifest (manifest : RaucManifest) : Prog σ GError RaucManifest := do
  let manifest := { manifest with bundleVeritySalt := none, bundleVerityHash := none,
                                  bundleVeritySize := 0 }
  let images ← convertToCasyncImages ignoreImages manifest.images
  return { manifest with images := images }

end Converting

end RaucUpdate
