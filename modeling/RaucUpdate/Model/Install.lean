import RaucUpdate.Model.SlotUpdate

/-!
# The default install handler

`launch_and_wait_default_handler` of `install.c` with the marking of `mark.c`, and runs of
installations in which the system may crash and restart. A boot loader backend is one external step
here.
-/

namespace RaucUpdate

open Library

section Marking

variable (ctx : InstallContext) (slot : RaucSlot)

def bootBackends : List String := ["barebox", "grub", "uboot", "efi", "custom"]

/-- The dispatch that `r_boot_set_state` and `r_boot_set_primary` share. -/
def callBootBackend : SystemProg Unit :=
  match ctx.config.systemBootloader with
  | none => Prog.fail ⟨.bootchooserNotSupported, "Bootloader type '(null)' not supported yet"⟩
  | some bootloader =>
    if bootloader ∈ bootBackends then
      Prog.external id (fun failure => (waitError bootloader failure).prefixed
        (bootloader ++ " backend: "))
    else if bootloader = "noop" then return ()
    else Prog.fail ⟨.bootchooserNotSupported, "Bootloader type '" ++ bootloader ++
      "' not supported yet"⟩

def rMarkBad : InstallProg Unit := do
  match ← Prog.attempt (onSystem (callBootBackend ctx)) with
  | .error e =>
    Prog.fail ⟨.installMarkBootable, "Failed marking slot " ++ slot.name ++
      " as bad:  " ++ e.message⟩
  | .ok () => record (.markedBad slot.name)

def countActivation (now : DateTime) (slotState : RaucSlotStatus) : RaucSlotStatus :=
  { slotState with activatedTimestamp := some now, activatedCount := slotState.activatedCount + 1 }

def activateSlot : SystemProg Unit := do
  loadSlotStatus ctx slot
  match ← Prog.attempt (callBootBackend ctx) with
  | .error e =>
    Prog.fail ⟨.installMarkBootable, "failed to activate slot " ++ slot.name ++ ": " ++ e.message⟩
  | .ok () =>
    let now ← currentTime
    changeStatus slot (countActivation now)
    let _ ← Prog.attempt (saveSlotStatus ctx slot)
    return ()

/-- `r_mark_active`: the status is written afterwards, and a failure of that is only logged. -/
def rMarkActive : InstallProg Unit := do
  record (.markActive slot.name)
  onSystem (activateSlot ctx slot)

end Marking

section Checks

variable (bundledir : String)

def absolutePath (path : String) : String :=
  if isAbsolute path then path else buildFilename bundledir path

/-- An image without file name has no files. The names of the others are made absolute. -/
def absoluteImage (image : RaucImage) : RaucImage :=
  match image.filename with
  | none => image
  | some filename =>
    { image with
      filename := some (absolutePath bundledir filename)
      converted := image.converted.map (fun paths => paths.map (absolutePath bundledir)) }

def absolutePlan (plan : RImageInstallPlan) : RImageInstallPlan :=
  { plan with image := absoluteImage bundledir plan.image }

/-- `g_file_test` for a file outside the modelled directories. -/
def requireFile (missing : GError) : SystemProg Unit := do
  match ← Prog.ask with
  | none => return ()
  | some _ => Prog.fail missing

def checkConverted (path : String) : SystemProg Unit :=
  requireFile ⟨.fileError, "Converted source image '" ++ path ++ "' not found in bundle"⟩

/-- A missing source image is ignored if there are converted images. -/
def checkSource (image : RaucImage) (filename : String) : SystemProg Unit := do
  match ← Prog.ask with
  | none => return ()
  | some _ =>
    if image.converted.getD [] = [] then
      Prog.fail ⟨.fileError, "Source image '" ++ filename ++ "' not found in bundle"⟩
    else return ()

def checkImageFiles (image : RaucImage) : SystemProg Unit :=
  match image.filename with
  | some filename => do
    checkSource image filename
    Prog.each checkConverted (image.converted.getD [])
  | none =>
    -- having no filename is valid for an install hook only
    if image.hooks.install then return ()
    else Prog.abort "code should not be reached"

def preInstallCheckSlotMountStatus (slot : RaucSlot) (image : RaucImage) : SystemProg Unit := do
  let st ← Prog.read
  if (st.media.mountPoint slot.name).isNone ∧ (st.media.extMountPoint slot.name).isNone then
    return ()
  else if slot.allowMounted ∧ image.hooks.install then return ()
  else if slot.allowMounted then
    Prog.fail ⟨.installMounted, "Mounted device '" ++ slot.device ++
      "' may only be updated by a custom install hook"⟩
  else Prog.fail ⟨.installMounted, "Destination device '" ++ slot.device ++ "' already mounted"⟩

def checkTarget (plan : RImageInstallPlan) : SystemProg Unit :=
  match plan.targetSlot, plan.targetRepo with
  | some _, some _ => Prog.abort "assertion failed: (plan->target_repo == NULL)"
  | some slot, none => do
    requireFile ⟨.fileError, "Destination device '" ++ slot.device ++ "' for slot '" ++
      slot.name ++ "' not found"⟩
    preInstallCheckSlotMountStatus slot plan.image
  | none, some repo =>
    requireFile ⟨.fileError, "Destination path '" ++ repo.path ++
      "' not found for artifact repo '" ++ repo.name ++ "'"⟩
  | none, none => Prog.abort "Inconsistency detected: image install plan has no target"

def preInstallCheck (plan : RImageInstallPlan) : SystemProg Unit := do
  checkImageFiles plan.image
  checkTarget plan

/-- `pre_install_checks` for plans whose file names are absolute already. -/
def preInstallChecks (plans : List RImageInstallPlan) : SystemProg Unit :=
  Prog.each preInstallCheck plans

end Checks

section DefaultHandler

variable (ctx : InstallContext) (args : RaucInstallArgs) (bundledir : String)
  (manifest : RaucManifest)
  (group : Table String RaucSlot)

def requireClasses : Option (List String) → SystemProg (List String)
  | none => Prog.abort "assertion failed: (iterimage->slotclass != NULL)"
  | some classes => return classes

def rInstallMakePlans : SystemProg (List RImageInstallPlan) := do
  let classes ← requireClasses (getAllManifestSlotClasses manifest.images)
  let forSlots ← ofExcept (slotPlans ctx.config group manifest.images classes)
  onArtifacts (rArtifactsInit ctx.repos)
  onArtifacts (rArtifactsPrune ctx.repos)
  let forArtifacts ← ofExcept (artifactPlans ctx.config manifest.images)
  if forSlots ++ forArtifacts = [] then
    Prog.fail ⟨.installFailed, "No installable image found"⟩
  else
    return forSlots ++ forArtifacts

/-- The slot of a plan that the boot loader has to know about. -/
def bootMarkTarget (plan : RImageInstallPlan) : Option RaucSlot :=
  plan.targetSlot.filter (fun slot => slot.parent.isNone && slot.bootname.isSome)

/-- `get_boot_mark_slot`: at most one slot may need to be marked. -/
def getBootMarkSlot (plans : List RImageInstallPlan) : SystemProg (Option RaucSlot) :=
  match plans.filterMap bootMarkTarget with
  | [] => return none
  | [slot] => return some slot
  | slot :: other :: _ =>
    Prog.abort ("Inconsistency detected: Would need to activate more than one slot." ++
      "At least " ++ slot.name ++ " and " ++ other.name ++
        " have a bootname set and are about to be updated")

def markTargetBad : Option RaucSlot → InstallProg Unit
  | none => return ()
  | some slot => do
    match ← Prog.attempt (rMarkBad ctx slot) with
    | .ok () => return ()
    | .error e => Prog.fail ⟨.installMarkNonbootable,
        "Failed marking slot " ++ slot.name ++ " non-bootable (bad): " ++ e.message⟩

/-- One round of the loop over the plans; a plan without target is passed over. -/
def handlePlan (hookName : Option String) (plan : RImageInstallPlan) : InstallProg Unit :=
  match plan.targetSlot, plan.slotHandler, plan.targetRepo with
  | some slot, some handler, _ =>
    handleSlotInstallPlan ctx args manifest plan.image slot hookName handler
  | some _, none, _ => Prog.abort "plan->slot_handler is NULL"
  | none, _, some repo =>
    onSystem (onArtifacts (onRepo repo (handleArtifactInstallPlan repo plan.image manifest
      (plan.image.artifact.getD ""))))
  | none, _, none => return ()

def installPlan (hookName : Option String) (plan : RImageInstallPlan) : InstallProg Unit := do
  handlePlan ctx args manifest hookName plan
  record (.planDone plan)

def activateTarget : Option RaucSlot → InstallProg Unit
  | none => return ()
  | some slot =>
    if ctx.config.activateInstalled then
      Prog.mapError (GError.prefixed ("Failed marking slot " ++ slot.name ++
        " bootable (active/primary): "))
        (rMarkActive ctx slot)
    else return ()

def launchAndWaitDefaultHandler : InstallProg Unit := do
  let plans ← onSystem (rInstallMakePlans ctx manifest group)
  let bootMarkSlot ← onSystem (getBootMarkSlot plans)
  let plans := plans.map (absolutePlan bundledir)
  onSystem (preInstallChecks plans)
  markTargetBad ctx bootMarkSlot
  let hookName := manifest.hookName.map (buildFilename bundledir)
  Prog.each (installPlan ctx args manifest hookName) plans
  onSystem (onArtifacts (rArtifactsPrune ctx.repos))
  activateTarget ctx bootMarkSlot

end DefaultHandler

/-- A target group maps slot classes to slots of the configuration. -/
structure TargetGroup (config : SlotConfig) where
  slots : Table String RaucSlot
  configured : ∀ s ∈ slots.values, config.slots.lookup s.name = some s

section Runs

variable (ctx : InstallContext)

/-- The state after a start of the program: what it had in memory is gone, and with a shared status
file the statuses are loaded from it. -/
def SystemState.restarted (st : SystemState) : SystemState :=
  { st with
    status := ⟨st.status.file, if perSlot ctx then ctx.config.slots
      else rSlotStatusLoadGlobally ctx.iso st.status.file ctx.config.slots⟩
    media := { st.media with mountPoint := fun _ => none }
    artifacts := { st.artifacts with artifacts := fun _ => Table.empty } }

/-- An installation by the default handler: what it is given, what others have mounted by then, and
the fates of its steps. -/
structure Installation where
  args : RaucInstallArgs := {}
  bundledir : String
  manifest : RaucManifest
  group : TargetGroup ctx.config.toSlotConfig
  extMountPoint : String → Option String := fun _ => none
  fates : Nat → Fate

def InstallState.withMounted (st : InstallState) (extMountPoint : String → Option String) :
    InstallState :=
  { st with system :=
            { st.system with media := { st.system.media with extMountPoint := extMountPoint } } }

def Installation.run {ctx : InstallContext} (i : Installation ctx) (st : InstallState) :
    Outcome GError Unit × World InstallState :=
  launchAndWaitDefaultHandler ctx i.args i.bundledir i.manifest i.group.slots
    ⟨st.withMounted i.extMountPoint, i.fates⟩

/-- The program is still running after a success or a reported error. -/
def Outcome.returned {ε α : Type} : Outcome ε α → Bool
  | .value _ => true
  | .exit (.error _) => true
  | .exit (.aborted _) => false
  | .exit .stopped => false

/-- Installations one after the other, after any of which, or in the middle of it, the system may go
down and start again. -/
inductive InstallRun (system : SystemState) : InstallState → Prop where
  | start : InstallRun system ⟨system.restarted ctx, []⟩
  | installed {st : InstallState} (hrun : InstallRun system st) (i : Installation ctx)
      (hreturned : Outcome.returned (i.run st).1 = true) : InstallRun system (i.run st).2.state
  | crashed {st : InstallState} (hrun : InstallRun system st) (i : Installation ctx) :
      InstallRun system ⟨(i.run st).2.state.system.restarted ctx, (i.run st).2.state.trace⟩

end Runs

end RaucUpdate
