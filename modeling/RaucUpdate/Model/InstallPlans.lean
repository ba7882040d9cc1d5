import RaucUpdate.Model.Artifacts

/-!
# Install plans

The part of `r_install_make_plans` in `install.c` that maps the images of a manifest to slots and
artifact repositories.
-/

namespace RaucUpdate

open Library

structure RImageInstallPlan where
  image : RaucImage
  targetSlot : Option RaucSlot := none
  slotHandler : Option SlotHandler := none
  targetRepo : Option RArtifactRepo := none
  deriving DecidableEq

/-- `get_all_manifest_slot_classes`: every image needs a slot class, also an artifact. -/
def getAllManifestSlotClasses (images : List RaucImage) : Option (List String) :=
  if images.all (fun image => image.slotclass.isSome) then
    some (collectDistinct [] ((images.filter (fun image => image.artifact.isNone)).filterMap
      RaucImage.slotclass))
  else none

/-- The loop that looks for the image of a slot class: the first default image unless there is one
for the system variant. -/
def matchingImage (systemVariant : Option String) (slotclass : String) :
    Option RaucImage → List RaucImage → Option RaucImage
  | matching, [] => matching
  | matching, image :: rest =>
    if image.slotclass ≠ some slotclass then matchingImage systemVariant slotclass matching rest
    else if image.variant = none then
      matchingImage systemVariant slotclass (matching.or (some image)) rest
    else if image.variant = systemVariant then some image
    else matchingImage systemVariant slotclass matching rest

def getUpdateHandler (image : RaucImage) (slot : RaucSlot) : Except GError SlotHandler :=
  if image.hooks.install then .ok .hookInstall
  else
    match image.type.bind (fun type => getHandlerFromType type slot.type) with
    | some handler => .ok handler
    | none => .error ⟨.updateNoHandler, "Unsupported image type '" ++ image.type.getD "(null)" ++
        "' for slot type '" ++ slot.type ++ "'"⟩

section Plans

variable (config : RaucConfig) (group : Table String RaucSlot) (images : List RaucImage)

def installFailedFor (before slotclass between : String) (image : RaucImage) (after : String) :
    GError :=
  ⟨.installFailed, before ++ slotclass ++ between ++ image.filename.getD "(null)" ++ after⟩

/-- The plan for a slot class of the manifest. -/
def slotPlan (slotclass : String) : Except GError RImageInstallPlan :=
  match matchingImage config.systemVariant slotclass none images with
  | none =>
    .error ⟨.installFailed, "Failed to find matching variant of image for slot class '" ++
      slotclass ++ "'"⟩
  | some image =>
    match group.lookup slotclass with
    | none =>
      .error (installFailedFor "No target slot for class '" slotclass "' of image '"
        image "' found")
    | some slot =>
      if slot.readonly then
        .error (installFailedFor "Target slot for class '" slotclass "' of image '" image
          "' is readonly")
      else
        match getUpdateHandler image slot with
        | .error e => .error e
        | .ok handler => .ok { image, targetSlot := some slot, slotHandler := some handler }

def slotPlans : List String → Except GError (List RImageInstallPlan)
  | [] => .ok []
  | slotclass :: rest =>
    match slotPlan config group images slotclass with
    | .error e => .error e
    | .ok plan =>
      match slotPlans rest with
      | .error e => .error e
      | .ok plans => .ok (plan :: plans)

/-- The plans for the artifacts, one for each image. -/
def artifactPlans : List RaucImage → Except GError (List RImageInstallPlan)
  | [] => .ok []
  | image :: rest =>
    match image.artifact with
    | none => artifactPlans rest
    | some artifact =>
      match image.slotclass.bind config.artifactRepos.repos.lookup with
      | none => .error ⟨.installFailed, "No target repo '" ++ image.slotclass.getD "(null)" ++
          "' for artifact image '" ++ artifact ++ "' found"⟩
      | some repo =>
        match artifactPlans rest with
        | .error e => .error e
        | .ok plans => .ok ({ image, targetRepo := some repo } :: plans)

end Plans

end RaucUpdate
