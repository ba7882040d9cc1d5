import RaucUpdate.Model.BootRawFallback

/-!
# eMMC boot partitions

`emmc.c`, and `clear_slot`, `copy_raw_image_to_dev`, `copy_img_to_emmc_bootpart` and
`img_to_boot_emmc_handler` of `update_handler.c`. The device has two boot partitions, and a register
of the card says which one the machine boots from. A command that sets the register may fail to take
effect, whatever is reported.
-/

namespace RaucUpdate

open Library

/-- The errors of `emmc.h`, and those of other files. -/
inductive EmmcError where
  | ioctl (message : String)
  | bootpartUda (message : String)
  | bootpartInvalid (message : String)
  | other (e : GError)
  deriving DecidableEq

/-- The boot partitions by their number, whether they are forced to be read-only, and the byte of
the extended CSD register with the active one. Each command to set that byte has an effect or
not. -/
structure EmmcState where
  partition : Nat → DiskState
  forceRo : Nat → Bool
  partConfig : UInt8
  switches : Nat → Bool

abbrev EmmcProg : Type → Type := Prog EmmcState EmmcError

section Register

variable (device : String)

def extCsdPartConfig : Nat := 179

def openingFailed (text : String) : Failure → EmmcError
  | .notStarted message => .other ⟨.fileError, text ++ message⟩
  | .interrupted message => .other ⟨.fileError, text ++ message⟩
  | .killed | .exitStatus _ => .other ⟨.fileError, text ++ "Input/output error"⟩

def rEmmcReadExtcsd : EmmcProg UInt8 := do
  Prog.external id
    (fun _ => .ioctl ("Could not read from extcsd register " ++ toString extCsdPartConfig ++
      " in " ++ device))
  let st ← Prog.read
  return st.partConfig

/-- The field `BOOT_PARTITION_ENABLE`. -/
def bootPartitionEnable (partConfig : UInt8) : Nat := ((partConfig &&& 0x38) >>> 3).toNat

/-- The active partition, or -1 when the device does not boot from any. -/
def rEmmcReadBootpart : EmmcProg Int := do
  Prog.external id (openingFailed "opening eMMC device failed: ")
  let partConfig ← rEmmcReadExtcsd device
  match bootPartitionEnable partConfig with
  | 0 => return -1
  | 1 => return 0
  | 2 => return 1
  | 7 => Prog.fail (.bootpartUda "Active eMMC partition is UDA when boot0/boot1 was expected.")
  | _ => Prog.fail (.bootpartInvalid "Invalid (Reserved) eMMC boot part number.")

def EmmcState.switch (st : EmmcState) (value : UInt8) : EmmcState :=
  { st with
    partConfig := if st.switches 0 then value else st.partConfig
    switches := fun n => st.switches (n + 1) }

def rEmmcWriteExtcsd (value : UInt8) : EmmcProg Unit := do
  Prog.modify (fun st => st.switch value)
  Prog.external id (fun _ => .ioctl ("Could not write 0x" ++
    String.ofList (Nat.toDigits 16 value.toNat) ++
    " to extcsd register " ++ toString extCsdPartConfig ++ " in " ++ device))

/-- The bit `BOOT_ACK` is kept. -/
def bootPartValue (partConfig : UInt8) (bootpartActive : Int) : UInt8 :=
  (partConfig &&& ((1 : UInt8) <<< 6)) ||| (if bootpartActive =
    0 then 0x08 else if bootpartActive = 1 then 0x10 else 0)

def rEmmcWriteBootpart (bootpartActive : Int) : EmmcProg Unit :=
  if bootpartActive = 0 ∨ bootpartActive = 1 then do
    Prog.external id (openingFailed "opening eMMC device failed: ")
    let partConfig ← rEmmcReadExtcsd device
    rEmmcWriteExtcsd device (bootPartValue partConfig bootpartActive)
  else Prog.abort
    "r_emmc_write_bootpart: assertion 'bootpart_active == 0 || bootpart_active == 1' failed"

end Register

section Partitions

variable (device : String) (n : Nat)

def EmmcState.setPartition (st : EmmcState) (disk : DiskState) : EmmcState :=
  { st with partition := fun k => if k = n then disk else st.partition k }

def EmmcState.setForceRo (st : EmmcState) (value : Bool) : EmmcState :=
  { st with forceRo := fun k => if k = n then value else st.forceRo k }

def onPartition {α : Type} (p : DiskProg α) : EmmcProg α :=
  Prog.zoom (fun st => st.partition n) (fun disk st => st.setPartition n disk)
    (Prog.reportAs .other p)

/-- What is written to the attribute gets there when the file is closed, which is not checked. -/
def rEmmcForcePartWrite (value : Bool) (text : String) : EmmcProg Unit := do
  Prog.external id (openingFailed (text ++ "Could not open device attribute /sys/block/" ++
    device ++ "/force_ro: "))
  Prog.external id (fun _ => .other ⟨.fileError, text ++ "Could not write to /sys/block/" ++
    device ++ "/force_ro"⟩)
  match ← Prog.ask with
  | none => Prog.modify (fun st => st.setForceRo n value)
  | some _ => return ()

def rEmmcForcePartRo : EmmcProg Unit := rEmmcForcePartWrite device n true "failed forcing ro: "

def rEmmcForcePartRw : EmmcProg Unit := rEmmcForcePartWrite device n false "failed forcing rw: "

end Partitions

section Writing

variable (dev : BlockDevice) (image : RaucImage) (content : List UInt8) (slot : RaucSlot)

def clearBlockSize : Nat := 1024

/-- The size of the next write, which the size limit may cap. -/
def clearWriteSize (totalWritten : Nat) : Nat :=
  if 0 < slot.sizeLimit ∧ slot.sizeLimit < totalWritten + clearBlockSize then
    slot.sizeLimit - totalWritten
  else clearBlockSize

/-- The loop of `clear_slot` with the space that is left on the device. A write that starts in front
of the end transfers at least one byte; the counts say how many more, if that many fit. -/
def clearSlotLoop (counts : Nat → Nat) (left totalWritten : Nat) : DiskProg Unit :=
  if left = 0 then return ()
  else do
    let count := min (counts totalWritten + 1) (min (clearWriteSize slot totalWritten) left)
    diskStep (fun d => d.write totalWritten (List.replicate count 0))
      (updateFailed "failed clearing block device: ")
    if 0 < slot.sizeLimit ∧ slot.sizeLimit ≤ totalWritten + count then return ()
    else clearSlotLoop counts (left - count) (totalWritten + count)
  termination_by left
  decreasing_by
    have hsize : 0 < clearWriteSize slot totalWritten := by
      unfold clearWriteSize clearBlockSize
      split_ifs <;> omega
    omega

def openDevice (device : String) : DiskProg Unit :=
  diskStep id (updateFailed ("Failed to open output file/device " ++ device ++ " failed: "))

def clearSlot (counts : Nat → Nat) : DiskProg Unit := do
  openDevice slot.device
  clearSlotLoop slot counts dev.size 0
  diskStep id (updateFailed "")

/-- `check_image_size` -/
def checkImageSizeOnDevice : DiskProg Unit :=
  let size := image.checksum.size.toInt
  if 0 < slot.sizeLimit ∧ slot.sizeLimit < (size % 2 ^ 64).toNat then
    Prog.fail ⟨.updateFailed, "Image size (" ++ toString size ++
      " bytes) is larger than size-limit (" ++
      toString slot.sizeLimit ++ " bytes)."⟩
  else do
    match ← Prog.attempt (diskStep id (updateFailed "Failed to get device size: ")) with
    | .error e => if 0 < size then Prog.fail e else return ()
    | .ok () =>
      if (dev.size : Int) < size then
        Prog.fail ⟨.updateFailed, "Slot (" ++ toString dev.size ++
          " bytes) is too small for image (" ++
          toString size ++ " bytes)."⟩
      else return ()

/-- `copy_raw_image_to_dev` -/
def copyRawImageToBootpart : DiskProg Unit := do
  openDevice slot.device
  checkImageSizeOnDevice dev image slot
  copyRawImage dev image content 0 0
  diskStep id (updateFailed "")

end Writing

section Handler

variable (dev : BlockDevice) (image : RaucImage) (content : List UInt8) (slot : RaucSlot)
  (hookName : Option String)

/-- The slot that the hooks get has no name. -/
def emmcHook (enabled : Bool) : EmmcProg Unit :=
  if hookName.isSome ∧ enabled then
    Prog.abort "run_slot_hook_extra_env: assertion 'slot->name' failed" else return ()

/-- Nothing can be written while the partition is forced to be read-only. -/
def whenWritable (n : Nat) (p : EmmcProg Unit) : EmmcProg Unit := do
  let st ← Prog.read
  if st.forceRo n ∧ 0 < dev.size then
    Prog.fail (.other ⟨.updateFailed,
      "failed clearing block device: Error writing to file descriptor: Operation not permitted"⟩)
  else p

def fillEmmcBootpart (counts : Nat → Nat) (n : Nat) : EmmcProg Unit := do
  rEmmcForcePartRw slot.device n
  emmcHook hookName image.hooks.preInstall
  whenWritable dev n (onPartition n (clearSlot dev slot counts))
  onPartition n (copyRawImageToBootpart dev image content slot)
  emmcHook hookName image.hooks.postInstall
  rEmmcForcePartRo slot.device n

/-- After an error the partition is made read-only again, as far as that is possible. -/
def copyImgToEmmcBootpart (counts : Nat → Nat) (n : Nat) : EmmcProg Unit := do
  match ← Prog.attempt (fillEmmcBootpart dev image content slot hookName counts n) with
  | .ok () => return ()
  | .error e =>
    let _ ← Prog.attempt (rEmmcForcePartRo slot.device n)
    Prog.fail e

def inactiveBootPartition (partActive : Int) : Int := (partActive + 1) % 2

/-- The slot for the boot partition that is not active. -/
def partSlot (realdev : String) (partActive : Int) : RaucSlot where
  name := ""
  sclass := ""
  device := realdev ++ "boot" ++ toString (inactiveBootPartition partActive)
  sizeLimit := slot.sizeLimit

def imgToBootEmmcHandler (realdev : String) (counts : Nat → Nat) : EmmcProg Unit := do
  Prog.external id (fun _ => .other ⟨.updateFailed, "Can't resolve eMMC device " ++ slot.device⟩)
  let partFound ← rEmmcReadBootpart realdev
  -- a device that is not enabled for booting counts as one that boots from the second partition
  let partActive := if partFound = -1 then 1 else partFound
  let part := partSlot slot realdev partActive
  copyImgToEmmcBootpart dev image content part hookName counts
    (inactiveBootPartition partActive).toNat
  rEmmcWriteBootpart part.device (inactiveBootPartition partActive)
  let partActiveAfter ← rEmmcReadBootpart realdev
  if partActive = partActiveAfter then
    Prog.fail (.other ⟨.updateFailed,
      "Toggling the boot partition failed! Your kernel is most-likely affected by the " ++
      "ioctl ext_csd bug: see https://rauc.readthedocs.io/en/latest/advanced.html#update-bootloader-in-emmc-boot-partitions"⟩)
  else return ()

end Handler

section Runs

/-- The partition that the machine boots from. -/
def EmmcState.active (st : EmmcState) : Option Nat :=
  match bootPartitionEnable st.partConfig with
  | 1 => some 0
  | 2 => some 1
  | _ => none

def EmmcState.flush (st : EmmcState) (n : Nat) (chosen : Nat → Bool) : EmmcState :=
  st.setPartition n { st.partition n with device := (st.partition n).device.flush 512 chosen }

/-- A restart loses the caches, and the partitions are read-only again. -/
def EmmcState.crash (st : EmmcState) : EmmcState :=
  { st with
    partition := fun n => { st.partition n with device := (st.partition n).device.crash }
    forceRo := fun _ => true }

/-- The choices of the environment for the next attempt. -/
def EmmcState.withChoices (st : EmmcState) (flushes : Nat → Nat → CachedDevice UInt8 → Nat → Bool)
    (switches : Nat → Bool) : EmmcState :=
  { st with partition := fun n => ⟨(st.partition n).device, flushes n⟩, switches := switches }

/-- A device and any number of attempts to update it, each of which may end at any step, with or
without a crash. -/
inductive EmmcRun (dev : BlockDevice) (slot : RaucSlot) (Admitted : RaucImage → List UInt8 → Prop)
    (st₀ : EmmcState) :
    List (List UInt8) → EmmcState → Prop where
  | start : EmmcRun dev slot Admitted st₀ [] st₀
  | attempted {images : List (List UInt8)} {st : EmmcState}
      (hrun : EmmcRun dev slot Admitted st₀ images st)
      (image : RaucImage) (content : List UInt8) (hadmitted : Admitted image content)
        (hookName : Option String)
      (realdev : String) (counts : Nat → Nat) (flushes : Nat → Nat →
        CachedDevice UInt8 → Nat → Bool)
      (switches : Nat → Bool) (fates : Nat → Fate) :
      EmmcRun dev slot Admitted st₀ (content.take image.checksum.size.toInt.toNat :: images)
        (imgToBootEmmcHandler dev image content slot hookName realdev counts
          ⟨st.withChoices flushes switches, fates⟩).2.state
  | settled {images : List (List UInt8)} {st : EmmcState}
      (hrun : EmmcRun dev slot Admitted st₀ images st) (n : Nat)
      (chosen : Nat → Bool) : EmmcRun dev slot Admitted st₀ images (st.flush n chosen)
  | crashed {images : List (List UInt8)} {st : EmmcState}
      (hrun : EmmcRun dev slot Admitted st₀ images st) :
      EmmcRun dev slot Admitted st₀ images st.crash

end Runs

end RaucUpdate
