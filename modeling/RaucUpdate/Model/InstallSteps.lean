import RaucUpdate.Model.Install
import RaucUpdate.Model.Progress

/-!
# The steps of an installation

The default install handler of `install.c` with the progress steps that it opens and closes around
its work, and the percentages that the copying functions of `update_handler.c`, `update_utils.c` and
`hash_index.c` set meanwhile.
-/

namespace RaucUpdate

open Library

section Copying

def setCopied (percent : Int) : ProgressCall := .set "copy_image" percent

/-- `hash_file` counts the progress up once for each of its segments. -/
def hashFileCalls (count : Nat) : List ProgressCall :=
  ((List.range count).filter (fun i => i % (count / 9) == 0)).map (fun _ => .inc "copy_image")

/-- A run of `copy_block_hash_index_image_to_dev`: the number of chunks of each hash index that has
to be built, the number of chunks of the image, and the number of reports until it ends. An index of
less than nine chunks ends the process by a division. -/
structure AdaptiveRun where
  targetSlot : Option Nat := none
  activeSlot : Option Nat := none
  sourceImage : Option Nat := none
  chunkCount : Nat
  reached : Nat
  enough : ∀ count ∈ targetSlot.toList ++ activeSlot.toList ++ sourceImage.toList, 9 ≤
    count := by decide

def indexCalls (index : Option Nat) : List ProgressCall := (index.map hashFileCalls).getD []

/-- The percentage after a chunk, calculated in 32 bits. -/
def chunkPercentage (chunkCount c : Nat) : Nat := 20 + (c + 1) * 80 % 2 ^ 32 / chunkCount

def AdaptiveRun.calls (copy : AdaptiveRun) : List ProgressCall :=
  (indexCalls copy.targetSlot ++ setCopied 10 :: indexCalls copy.activeSlot ++ setCopied 20 ::
    indexCalls copy.sourceImage ++
    (List.range copy.chunkCount).map (fun c => setCopied (chunkPercentage copy.chunkCount c))).take
      copy.reached

/-- The sums of the blocks that were copied, one after the other. -/
def sumsFrom : Nat → List Nat → List Nat
  | _, [] => []
  | sum, block :: rest => (sum + block) :: sumsFrom (sum + block) rest

/-- The reports while a file is copied block by block. The percentage is stored in 32 bits, and a
size of zero is copied without a report or ends the process by a division. -/
def copyCalls (size : Nat) (blocks : List Nat) : List ProgressCall :=
  if size = 0 then []
  else (sumsFrom 0 blocks).map (fun sum => setCopied (Int.bmod (sum * 100 / size : Nat) (2 ^ 32)))

/-- A run of `r_copy_stream_with_progress`, which compares with the size from the manifest, or of
`splice_with_progress`, which compares with the length of the file. -/
inductive ImageCopy where
  | stream (blocks : List Nat)
  | splice (length : Nat) (blocks : List Nat) (within : blocks.sum ≤ length)

def ImageCopy.calls (size : Nat) : ImageCopy → List ProgressCall
  | .stream blocks => copyCalls size blocks
  | .splice length blocks _ => copyCalls length blocks

/-- What is copied in one step: a copy may follow an adaptive one that failed. -/
structure CopyWork where
  adaptive : Option AdaptiveRun := none
  copies : List ImageCopy := []

/-- The size of an image as the manifest gives it. -/
def manifestSize (image : RaucImage) : Nat := image.checksum.size.toInt.toNat

def CopyWork.calls (work : CopyWork) (size : Nat) : List ProgressCall :=
  (work.adaptive.map AdaptiveRun.calls).getD [] ++ work.copies.flatMap (ImageCopy.calls size)

end Copying

/-- What else an installation does, in the order in which it happens. -/
inductive InstallerEvent where
  | signatureVerified
  | installCheckPassed
  | defaultHandler
  | customHandler
  | pruneFailed
  deriving DecidableEq

/-- The state of an installation with its progress, all calls of the progress functions so far, and
what the copying of an image will do in one step after the other. -/
structure InstallerState where
  install : InstallState
  progress : ProgressState := {}
  calls : List ProgressCall := []
  events : List InstallerEvent := []
  copies : Nat → RaucImage → CopyWork := fun _ _ => {}

abbrev InstallerProg : Type → Type := Prog InstallerState GError

section Steps

variable {α : Type}

def onInstall (p : InstallProg α) : InstallerProg α :=
  Prog.zoom InstallerState.install (fun install st => { st with install := install }) p

def logEvent (e : InstallerEvent) : InstallerProg Unit :=
  Prog.modify (fun st => { st with events := st.events ++ [e] })

def InstallerState.called (st : InstallerState) (c : ProgressCall) : InstallerState :=
  { st with calls := st.calls ++ [c] }

/-- A call into the progress code, which may abort the process. -/
def makeCall (c : ProgressCall) : InstallerProg Unit := do
  Prog.modify (fun st => st.called c)
  let st ← Prog.read
  match progressCall st.progress c with
  | .ok progress => Prog.modify (fun st => { st with progress := progress })
  | .error reason => Prog.abort reason

/-- The usual frame of a step: it is ended with the result of what was done in it. -/
def inStep (name description : String) (substeps weight : Nat) (p : InstallerProg α) :
    InstallerProg α := do
  makeCall (.begin name description substeps weight)
  match ← Prog.attempt p with
  | .ok a =>
    makeCall (.end_ name true)
    return a
  | .error e =>
    makeCall (.end_ name false)
    Prog.fail e

end Steps

section Plans

variable (ctx : InstallContext) (args : RaucInstallArgs) (manifest : RaucManifest)

def reportCopy (image : RaucImage) : InstallerProg Unit := do
  let st ← Prog.read
  Prog.modify (fun st => { st with copies := fun n => st.copies (n + 1) })
  Prog.each makeCall ((st.copies 0 image).calls (manifestSize image))

section Slots

variable (image : RaucImage) (slot : RaucSlot) (hookName : Option String) (handler : SlotHandler)

def checkSlotText : String :=
  "Checking slot " ++ slot.name ++ (slot.bootname.map (fun bootname => " (" ++ bootname ++
    ")")).getD ""

/-- The part of `handle_slot_install_plan` that tells whether the slot is skipped, or prepares it
for writing. -/
def checkAndPrepare : InstallProg Bool := do
  let slotState ← onSystem (checkSlot ctx slot)
  if skipsUpdate image slot slotState then return true
  else
    onSystem (prepareWrite ctx slot slotState)
    return false

def skipImage : InstallProg Unit := do
  record (.skipped slot.name)
  onSystem (finishStatus ctx args manifest image slot "ok")

def startWrite : InstallProg Unit := do
  record (.writeStarted slot.name image.checksum.digest)
  onSystem (replaceSlotFile slot)

def copyImage : InstallerProg Unit := do
  onInstall (startWrite image slot)
  reportCopy image
  onInstall (onSystem (onMedia (runSlotHandler ctx image slot hookName handler)))

def finishWrite : InstallProg Unit := do
  record (.writeDone slot.name image.checksum.digest)
  onSystem (finishStatus ctx args manifest image slot "ok")

def writeSlotWithProgress : InstallerProg Unit := do
  match ← Prog.attempt (inStep "copy_image" ("Copying image to " ++ slot.name) 0 9
      (copyImage ctx image slot hookName handler)) with
  | .error e =>
    let _ ← Prog.attempt (onInstall (onSystem (finishStatus ctx args manifest image slot "failed")))
    Prog.fail (e.prefixed ("Failed updating slot " ++ slot.name ++ ": "))
  | .ok () => onInstall (finishWrite ctx args manifest image slot)

def handleSlotInstallPlanWithProgress : InstallerProg Unit := do
  let skips ← inStep "check_slot" (checkSlotText slot) 0 1
    (onInstall (checkAndPrepare ctx image slot))
  if skips then
    inStep "skip_image" "Copying image skipped" 0 9
      (onInstall (skipImage ctx args manifest image slot))
  else writeSlotWithProgress ctx args manifest image slot hookName handler

end Slots

section Artifacts

variable (repo : RArtifactRepo) (image : RaucImage) (name : String)

def onInstallRepo {α : Type} (p : RepoProg α) : InstallProg α :=
  onSystem (onArtifacts (onRepo repo p))

/-- The part of `handle_artifact_install_plan` that tells whether the artifact has to be
installed. -/
def checkRepo : RepoProg Bool := do
  removeOldArtifacts repo manifest
  match ← rArtifactFind name image.checksum.digest with
  | some _ => return false
  | none =>
    rArtifactRepoInsert repo { name, digest := image.checksum.digest.getD "" }
    return true

def commitArtifact : RepoProg Unit := do
  gAssert repo.parentClass.isNone "artifact->repo->parent_class == NULL"
  rArtifactActivate name (image.checksum.digest.getD "")
  rArtifactRepoCommit repo

def copyArtifactImage (missing : Bool) : InstallerProg Unit := do
  if missing then
    reportCopy image
    onInstall (onInstallRepo repo (rArtifactInstall repo image name
      (image.checksum.digest.getD "")))
  onInstall (onInstallRepo repo (commitArtifact repo image name))

def handleArtifactInstallPlanWithProgress : InstallerProg Unit := do
  let missing ← inStep "check_repo" ("Checking repo '" ++ repo.name ++ "'") 0 1
    (onInstall (onInstallRepo repo (checkRepo manifest repo image name)))
  inStep "copy_image" ((if missing then "Copying artifact image to"
    else "Reusing artifact image in") ++
    " repo '" ++ repo.name ++ "'") 0 9 (copyArtifactImage repo image name missing)

end Artifacts

def handlePlanWithProgress (hookName : Option String) (plan : RImageInstallPlan) :
    InstallerProg Unit :=
  match plan.targetSlot, plan.slotHandler, plan.targetRepo with
  | some slot, some handler, _ =>
    handleSlotInstallPlanWithProgress ctx args manifest plan.image slot hookName handler
  | some _, none, _ => Prog.abort "plan->slot_handler is NULL"
  | none, _, some repo =>
    handleArtifactInstallPlanWithProgress manifest repo plan.image (plan.image.artifact.getD "")
  | none, _, none => return ()

def installPlanWithProgress (hookName : Option String) (plan : RImageInstallPlan) :
    InstallerProg Unit := do
  handlePlanWithProgress ctx args manifest hookName plan
  onInstall (record (.planDone plan))

/-- The step around the loop over the plans, which a failure of the pruning leaves open. -/
def updateSlots (hookName : Option String) (plans : List RImageInstallPlan) :
    InstallerProg Unit := do
  makeCall (.begin "update_slots" "Updating slots" (plans.length * 10) 6)
  match ← Prog.attempt (Prog.each (installPlanWithProgress ctx args manifest hookName) plans) with
  | .error e =>
    makeCall (.end_ "update_slots" false)
    Prog.fail e
  | .ok () =>
    match ← Prog.attempt (onInstall (onSystem (onArtifacts (rArtifactsPrune ctx.repos)))) with
    | .error e =>
      logEvent .pruneFailed
      Prog.fail e
    | .ok () => makeCall (.end_ "update_slots" true)

/-- What `launch_and_wait_default_handler` does before the first step: the plans and the slot to be
marked. -/
def prepareInstall (bundledir : String) (group : Table String RaucSlot) :
    InstallProg (List RImageInstallPlan × Option RaucSlot) := do
  let plans ← onSystem (rInstallMakePlans ctx manifest group)
  let bootMarkSlot ← onSystem (getBootMarkSlot plans)
  let plans := plans.map (absolutePlan bundledir)
  onSystem (preInstallChecks plans)
  markTargetBad ctx bootMarkSlot
  return (plans, bootMarkSlot)

def launchAndWaitDefaultHandlerWithProgress (bundledir : String) (group : Table String RaucSlot) :
    InstallerProg Unit := do
  logEvent .defaultHandler
  let (plans, bootMarkSlot) ← onInstall (prepareInstall ctx manifest bundledir group)
  updateSlots ctx args manifest (manifest.hookName.map (buildFilename bundledir)) plans
  onInstall (activateTarget ctx bootMarkSlot)

end Plans

end RaucUpdate
