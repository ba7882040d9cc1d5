import RaucUpdate.Model.InstallPlans
import RaucUpdate.Model.StatusFile
import RaucUpdate.Model.Bootchooser

/-!
# Updating a slot

Mounting and the slot status of `mount.c`, `slot.c` and `status_file.c`, the update handlers of
`update_handler.c` and `handle_slot_install_plan` of `install.c`. What a handler does to the device
is one external step for each function it calls. A call whose precondition fails leaves no error for
its caller to report; it ends the execution like a failed assertion.
-/

namespace RaucUpdate

open Library

/-- What is mounted where, by this program or by others, and the status file in the file system of
each slot, all by the name of the slot. -/
structure MediaState where
  mountPoint : String → Option String := fun _ => none
  extMountPoint : String → Option String := fun _ => none
  slotFiles : String → StatusFile := fun _ => .missing

abbrev MediaProg : Type → Type := Prog MediaState GError

/-- The shared status file and the slots in memory, the media of the slots, and the artifact
repositories. The clock and the status files that come with the images to be written are taken from
outside, one after the other. -/
structure SystemState where
  status : StatusState
  media : MediaState := {}
  artifacts : ArtifactState := {}
  clock : Nat → DateTime := fun _ => 0
  newSlotFiles : Nat → StatusFile := fun _ => .missing

abbrev SystemProg : Type → Type := Prog SystemState GError

/-- What an installation reads: the configuration, in which no status has been loaded, and the
orders of its hash tables. -/
structure InstallContext where
  config : RaucConfig
  iso : Iso8601
  slotNames : List String
  slotNames_perm : slotNames.Perm config.slots.keys
  repos : List RArtifactRepo
  repos_perm : repos.Perm config.artifactRepos.repos.values
  unloaded : ∀ s ∈ config.slots.values, s.status = none

structure RaucInstallArgs where
  transaction : Option String := none

section State

variable {α : Type}

def onStatus (p : StatusProg α) : SystemProg α :=
  Prog.zoom SystemState.status (fun status st => { st with status := status }) p

def onMedia (p : MediaProg α) : SystemProg α :=
  Prog.zoom SystemState.media (fun media st => { st with media := media }) p

def onArtifacts (p : ArtifactProg α) : SystemProg α :=
  Prog.zoom SystemState.artifacts (fun artifacts st => { st with artifacts := artifacts }) p

/-- The status that the slot has in memory. -/
def statusOf (slots : SlotTable) (slot : RaucSlot) : Option RaucSlotStatus :=
  (slots.lookup slot.name).bind RaucSlot.status

def slotStatus (slot : RaucSlot) : SystemProg (Option RaucSlotStatus) := do
  let st ← Prog.read
  return statusOf st.status.slots slot

def changeStatus (slot : RaucSlot) (f : RaucSlotStatus → RaucSlotStatus) : SystemProg Unit := do
  let status ← slotStatus slot
  onStatus (updateStatus slot.name (f (status.getD {})))

def currentTime : SystemProg DateTime := do
  let st ← Prog.read
  Prog.modify (fun st => { st with clock := fun n => st.clock (n + 1) })
  return st.clock 0

end State

section Mounts

variable (ctx : InstallContext) (slot : RaucSlot)

def MediaState.setMountPoint (st : MediaState) (name : String) (mountPoint : Option String) :
    MediaState :=
  { st with mountPoint := fun n => if n = name then mountPoint else st.mountPoint n }

def MediaState.setSlotFile (st : MediaState) (name : String) (file : StatusFile) : MediaState :=
  { st with slotFiles := fun n => if n = name then file else st.slotFiles n }

def rMountSlot : MediaProg Unit := do
  let st ← Prog.read
  if (st.mountPoint slot.name).isSome then
    Prog.abort "r_mount_slot: assertion 'slot->mount_point == NULL' failed"
  else
    Prog.external id (fun _ => ⟨.fileError, "Slot device '" ++ slot.device ++ "' not found"⟩)
    Prog.external id (fsError "failed to create mount point: ")
    Prog.external (fun st => st.setMountPoint slot.name
      (some (buildFilename ctx.config.mountPrefix slot.name)))
      (fun failure => (waitError "mount" failure).prefixed "failed to mount slot: ")

def rUmountSlot : MediaProg Unit := do
  let st ← Prog.read
  if (st.mountPoint slot.name).isNone then
    Prog.abort "r_umount_slot: assertion 'slot->mount_point != NULL' failed"
  else
    Prog.external (fun st => st.setMountPoint slot.name none)
      (fun failure => (waitError "umount" failure).prefixed "failed to unmount slot: ")

/-- Runs a program while the slot is mounted; it is unmounted in any case, and the error of the
program is more relevant than one of the unmounting. -/
def whileMounted (p : MediaProg Unit) : MediaProg Unit := do
  rMountSlot ctx slot
  let result ← Prog.attempt p
  let unmounted ← Prog.attempt (rUmountSlot slot)
  match result, unmounted with
  | .error e, _ => Prog.fail e
  | .ok (), .error e => Prog.fail e
  | .ok (), .ok () => return ()

end Mounts

section Status

variable (ctx : InstallContext) (slot : RaucSlot)

def perSlot : Bool := ctx.config.statusfilePath == "per-slot"

/-- `r_slot_clean_data_directory`: what is obsolete is removed, and a failure is ignored. -/
def rSlotCleanDataDirectory : SystemProg Unit := do
  match slot.dataDirectory with
  | none => return ()
  | some dir =>
    if !isAbsolute dir then
      Prog.abort "assertion failed: (g_path_is_absolute(slot->data_directory))"
    else
      let status ← slotStatus slot
      if (status.getD {}).status = some "pending" then return ()
      else
        let _ ← Prog.ask
        return ()

/-- `r_slot_move_checksum_data_directory`, whose failure is ignored by its caller. -/
def rSlotMoveChecksumDataDirectory (oldDigest : Option String) : SystemProg Unit :=
  if slot.dataDirectory.isNone ∨ oldDigest.isNone then return ()
  else do
    let _ ← Prog.ask
    return ()

/-- The status file of a mounted slot, if it can be read. -/
def readSlotFile : MediaProg (Option KeyFile) := do
  match ← Prog.ask with
  | some _ => return none
  | none =>
    let st ← Prog.read
    match st.slotFiles slot.name with
    | .content keyFile => return some keyFile
    | _ => return none

/-- The slot is mounted for reading its status file unless others have mounted it already. -/
def mountAndReadSlotFile : MediaProg (Option KeyFile) := do
  let st ← Prog.read
  if (st.extMountPoint slot.name).isSome then readSlotFile slot
  else
    match ← Prog.attempt (rMountSlot ctx slot) with
    | .error _ => return none
    | .ok () =>
      let keyFile ← readSlotFile slot
      let _ ← Prog.attempt (rUmountSlot slot)
      return keyFile

def loadSlotStatusLocally : SystemProg Unit := do
  changeStatus slot (fun _ => {})
  if !rSlotIsMountable slot then return ()
  else
    match ← onMedia (mountAndReadSlotFile ctx slot) with
    | none => return ()
    | some keyFile => changeStatus slot (rSlotStatusRead ctx.iso keyFile)

/-- A status that has been loaded is not loaded again. -/
def loadMissingStatus : SystemProg Unit := do
  match ← slotStatus slot with
  | some _ => return ()
  | none =>
    if perSlot ctx then loadSlotStatusLocally ctx slot else onStatus (slotStatusLoad ctx.iso)

/-- `r_slot_status_load` -/
def loadSlotStatus : SystemProg Unit := do
  loadMissingStatus ctx slot
  rSlotCleanDataDirectory slot

def writeSlotFile (status : RaucSlotStatus) : MediaProg Unit :=
  Prog.external (fun st => st.setSlotFile slot.name (.content (rSlotStatusWrite ctx.iso status)))
    saveError

def saveSlotStatusLocally : SystemProg Unit := do
  match ← slotStatus slot with
  | none => Prog.abort "save_slot_status_locally: assertion 'dest_slot->status' failed"
  | some status =>
    if !rSlotIsMountable slot then return ()
    else onMedia (whileMounted ctx slot (writeSlotFile ctx slot status))

/-- `r_slot_status_save`: into the file system of the slot, or with all other slots into the shared
file. -/
def saveSlotStatus : SystemProg Unit := do
  rSlotCleanDataDirectory slot
  if perSlot ctx then saveSlotStatusLocally ctx slot
  else onStatus (rSlotStatusSave ctx.iso ctx.slotNames)

end Status

section Handlers

inductive SlotHook where
  | preInstall | install | postInstall
  deriving DecidableEq

variable (ctx : InstallContext) (image : RaucImage) (slot : RaucSlot) (hookName : Option String)

def slotHookError : Failure → GError
  | .notStarted message => ⟨.spawnFailed, "failed to start slot hook: " ++ message⟩
  | .interrupted message => ⟨.spawnFailed, "failed to run slot hook: " ++ message⟩
  | .killed => ⟨.spawnFailed, "failed to run slot hook: Child process killed by signal"⟩
  | .exitStatus code =>
    ⟨.spawnExit, "failed to run slot hook: Child process exited with code " ++ toString code⟩

/-- `run_slot_hook_extra_env`, which needs the hook and the name of the slot. -/
def runSlotHookExtraEnv (slotName : Option String) (_hook : SlotHook) : MediaProg Unit :=
  match hookName, slotName with
  | none, _ => Prog.abort "run_slot_hook_extra_env: assertion 'hook_name' failed"
  | some _, none => Prog.abort "run_slot_hook_extra_env: assertion 'slot->name' failed"
  | some _, some _ => Prog.external id slotHookError

def runSlotHook (hook : SlotHook) : MediaProg Unit :=
  runSlotHookExtraEnv hookName (some slot.name) hook

/-- A function that works on the device, and whether it reads the file of the image. -/
structure DeviceStep where
  function : String
  readsImage : Bool := false

/-- What a handler does around and between the pre- and post-install hooks. -/
structure HandlerShape where
  before : List DeviceStep := []
  work : List DeviceStep
  /-- The steps that fill a file system while it is mounted, if the handler mounts it. -/
  unpack : Option (List DeviceStep) := none
  after : List DeviceStep := []
  mountsForPre : Bool := false
  mountsForPost : Bool := false
  /-- The eMMC handler passes a slot of its own that has no name to the hooks. -/
  hookSlot : Option String

def archiveShape (format : String) (mountsForPre : Bool) (unpacked : List DeviceStep) :
    HandlerShape :=
  { work := [⟨format, false⟩], unpack := some unpacked, mountsForPre, hookSlot := some slot.name }

def ubiSteps : List DeviceStep :=
  [⟨"r_unix_output_stream_open_device", false⟩, ⟨"ubifs_ioctl", false⟩, ⟨"copy_raw_image", true⟩,
    ⟨"g_output_stream_close", false⟩]

def switchShape (table : String) : HandlerShape :=
  { before := [⟨"r_" ++ table ++ "_switch_get_inactive_partition", false⟩]
    work := [⟨"clear_boot_switch_partition", false⟩, ⟨"write_boot_switch_partition", true⟩]
    after := [⟨"r_" ++ table ++ "_switch_set_boot_partition", false⟩]
    hookSlot := some slot.name }

def handlerShape : SlotHandler → HandlerShape
  | .imgToFs =>
    { work := ⟨"write_image_to_dev", true⟩ ::
        (if slot.resize ∧ slot.type = "ext4" then [⟨"ext4_resize_slot", false⟩] else [])
      mountsForPre := true, mountsForPost := true, hookSlot := some slot.name }
  | .imgToRaw => { work := [⟨"write_image_to_dev", true⟩], hookSlot := some slot.name }
  | .imgToUbivol => { work := ubiSteps, hookSlot := some slot.name }
  | .imgToUbifs =>
    { work := ubiSteps, mountsForPre := true, mountsForPost := true, hookSlot := some slot.name }
  | .imgToNor =>
    { work := [⟨"flash_format_slot", false⟩, ⟨"nor_write_slot", true⟩], hookSlot := some slot.name }
  | .imgToNand =>
    { work := [⟨"flash_format_slot", false⟩, ⟨"nand_write_slot", true⟩],
      hookSlot := some slot.name }
  | .archiveToExt4 => archiveShape slot "ext4_format_slot" false
      (if image.type = some "emptyfs" then [] else [⟨"unpack_archive", true⟩])
  | .archiveToUbifs => archiveShape slot "ubifs_format_slot" true [⟨"unpack_archive", true⟩]
  | .archiveToVfat => archiveShape slot "vfat_format_slot" false [⟨"unpack_archive", true⟩]
  | .archiveToJffs2 => archiveShape slot "flash_format_slot" true [⟨"unpack_archive", true⟩]
  | .imgToBootEmmc =>
    { before := [⟨"r_emmc_read_bootpart", false⟩, ⟨"r_emmc_force_part_rw", false⟩]
      work := [⟨"clear_slot", false⟩, ⟨"copy_raw_image_to_dev", true⟩]
      after := [⟨"r_emmc_force_part_ro", false⟩, ⟨"r_emmc_write_bootpart", false⟩,
        ⟨"r_emmc_read_bootpart", false⟩]
      hookSlot := none }
  | .imgToBootMbrSwitch => switchShape slot "mbr"
  | .imgToBootGptSwitch => switchShape slot "gpt"
  | .imgToBootRawFallback =>
    { work := [⟨"check_if_area_is_clear", false⟩, ⟨"clear_boot_switch_partition", false⟩,
        ⟨"write_boot_switch_partition", true⟩, ⟨"clear_boot_switch_partition", false⟩,
        ⟨"write_boot_switch_partition", true⟩]
      hookSlot := some slot.name }
  | .hookInstall => { work := [], hookSlot := some slot.name }

def runDeviceStep (step : DeviceStep) : MediaProg Unit :=
  if step.readsImage ∧ image.filename.isNone then
    Prog.abort (step.function ++ ": image->filename is NULL")
  else Prog.external id (fsError (step.function ++ ": "))

/-- A hook that is enabled, with the slot mounted around it if the handler asks for that. -/
def enabledHook (enabled mounted : Bool) (slotName : Option String) (hook : SlotHook) :
    MediaProg Unit :=
  if hookName.isSome ∧ enabled then
    if mounted then whileMounted ctx slot (runSlotHookExtraEnv hookName slotName hook)
    else runSlotHookExtraEnv hookName slotName hook
  else return ()

def fillSlot (shape : HandlerShape) : MediaProg Unit :=
  match shape.unpack with
  | none =>
    enabledHook ctx slot hookName image.hooks.postInstall shape.mountsForPost shape.hookSlot
      .postInstall
  | some steps => whileMounted ctx slot (do
      Prog.each (runDeviceStep image) steps
      enabledHook ctx slot hookName image.hooks.postInstall false shape.hookSlot .postInstall)

def runShape (shape : HandlerShape) : MediaProg Unit := do
  Prog.each (runDeviceStep image) shape.before
  enabledHook ctx slot hookName image.hooks.preInstall shape.mountsForPre shape.hookSlot .preInstall
  Prog.each (runDeviceStep image) shape.work
  fillSlot ctx image slot hookName shape
  Prog.each (runDeviceStep image) shape.after

def runSlotHandler (handler : SlotHandler) : MediaProg Unit :=
  if handler = .hookInstall then runSlotHook slot hookName .install
  else runShape ctx image slot hookName (handlerShape image slot handler)

end Handlers

section Update

variable (ctx : InstallContext) (args : RaucInstallArgs) (manifest : RaucManifest)
  (image : RaucImage)
  (slot : RaucSlot) (hookName : Option String)

def updateSlotStatus (text : String) (now : DateTime) (slotState : RaucSlotStatus) :
    RaucSlotStatus :=
  { rSlotClearStatus slotState with
    bundleCompatible := manifest.updateCompatible
    bundleVersion := manifest.updateVersion
    bundleDescription := manifest.updateDescription
    bundleBuild := manifest.updateBuild
    bundleHash := manifest.hash
    status := some text
    checksum := image.checksum
    installedTxn := args.transaction
    installedTimestamp := some now
    installedCount := slotState.installedCount + 1 }

/-- The status in memory is updated and written out. -/
def finishStatus (text : String) : SystemProg Unit := do
  let now ← currentTime
  changeStatus slot (updateSlotStatus args manifest image text now)
  Prog.mapError (GError.prefixed "Error while writing status file: ") (saveSlotStatus ctx slot)

/-- The comparison that tells a slot which is up to date. Both digests may be missing. -/
def skipsUpdate (slotState : RaucSlotStatus) : Bool :=
  !slot.installSame && slotState.status == some "ok" && image.checksum.digest ==
    slotState.checksum.digest

def markPending (slotState : RaucSlotStatus) : RaucSlotStatus :=
  { slotState with status := some "pending",
                   checksum := { slotState.checksum with digest := none, size := 0 } }

/-- With the shared status file the status must not look valid while the slot is written. -/
def announcePending (slotState : RaucSlotStatus) : SystemProg Unit :=
  if perSlot ctx then return ()
  else do
    changeStatus slot markPending
    rSlotMoveChecksumDataDirectory slot slotState.checksum.digest
    Prog.mapError (GError.prefixed "Error while writing status file: ") (saveSlotStatus ctx slot)

def markUpdate (slotState : RaucSlotStatus) : RaucSlotStatus :=
  { slotState with status := some "update" }

/-- The status of the slot once it is loaded, and an error if the slot is still mounted. -/
def checkSlot : SystemProg RaucSlotStatus := do
  loadSlotStatus ctx slot
  let st ← Prog.read
  if (st.media.mountPoint slot.name).isSome then
    Prog.fail ⟨.installMounted, "Slot '" ++ slot.device ++ "' still mounted"⟩
  else return (statusOf st.status.slots slot).getD {}

def prepareWrite (slotState : RaucSlotStatus) : SystemProg Unit := do
  announcePending ctx slot slotState
  changeStatus slot markUpdate

/-- From here on the slot holds neither its old content nor its old status file. -/
def replaceSlotFile : SystemProg Unit :=
  Prog.modify (fun st => { st with
    media := st.media.setSlotFile slot.name (st.newSlotFiles 0)
    newSlotFiles := fun n => st.newSlotFiles (n + 1) })

/-- What an installation does, in the order in which it happens. -/
inductive InstallEvent where
  | markedBad (slot : String)
  | skipped (slot : String)
  | writeStarted (slot : String) (digest : Option String)
  | writeDone (slot : String) (digest : Option String)
  | planDone (plan : RImageInstallPlan)
  | markActive (slot : String)
  deriving DecidableEq

structure InstallState where
  system : SystemState
  trace : List InstallEvent := []

abbrev InstallProg : Type → Type := Prog InstallState GError

def onSystem {α : Type} (p : SystemProg α) : InstallProg α :=
  Prog.zoom InstallState.system (fun system st => { st with system := system }) p

def record (e : InstallEvent) : InstallProg Unit :=
  Prog.modify (fun st => { st with trace := st.trace ++ [e] })

def writeSlot (handler : SlotHandler) : InstallProg Unit := do
  record (.writeStarted slot.name image.checksum.digest)
  onSystem (replaceSlotFile slot)
  match ← Prog.attempt (onSystem (onMedia (runSlotHandler ctx image slot hookName handler))) with
  | .error e =>
    let _ ← Prog.attempt (onSystem (finishStatus ctx args manifest image slot "failed"))
    Prog.fail (e.prefixed ("Failed updating slot " ++ slot.name ++ ": "))
  | .ok () =>
    record (.writeDone slot.name image.checksum.digest)
    onSystem (finishStatus ctx args manifest image slot "ok")

def handleSlotInstallPlan (handler : SlotHandler) : InstallProg Unit := do
  let slotState ← onSystem (checkSlot ctx slot)
  if skipsUpdate image slot slotState then
    record (.skipped slot.name)
    onSystem (finishStatus ctx args manifest image slot "ok")
  else
    onSystem (prepareWrite ctx slot slotState)
    writeSlot ctx args manifest image slot hookName handler

end Update

end RaucUpdate
