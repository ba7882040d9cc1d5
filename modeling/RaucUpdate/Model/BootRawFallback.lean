import RaucUpdate.Model.SlotUpdate
import RaucUpdate.Library.CachedDevice

/-!
# Raw boot images with a fallback copy

`img_to_boot_raw_fallback_handler` of `update_handler.c` and the functions that write to the device
for it. The device is seen byte by byte through the cache of the kernel; in front of every operation
some of the sectors that were written may reach the medium.
-/

namespace RaucUpdate

open Library

/-- The size of the device and that of its sectors. -/
structure BlockDevice where
  size : Nat
  sectorSize : Nat := 512

/-- The device, and the sectors that reach the medium in front of each operation. The choice may
depend on everything that was written. -/
structure DiskState where
  device : CachedDevice UInt8
  flushes : Nat → CachedDevice UInt8 → Nat → Bool

abbrev DiskProg : Type → Type := Prog DiskState GError

section Device

def updateFailed (text : String) : Failure → GError
  | .notStarted message => ⟨.updateFailed, text ++ message⟩
  | .interrupted message => ⟨.updateFailed, text ++ message⟩
  | .killed | .exitStatus _ => ⟨.updateFailed, text ++ "Input/output error"⟩

def DiskState.settle (st : DiskState) : DiskState where
  device := st.device.flush 512 (st.flushes 0 st.device)
  flushes := fun n => st.flushes (n + 1)

def diskStep (effect : CachedDevice UInt8 → CachedDevice UInt8) (report : Failure → GError) :
    DiskProg Unit := do
  Prog.modify DiskState.settle
  Prog.external (fun st => { st with device := effect st.device }) report

def fsync : DiskProg Unit := diskStep CachedDevice.sync
    (updateFailed "Syncing content to disk failed: ")

/-- `lseek` fails with −1. That is also what the position 2^64 − 1 is compared with as a signed
number, so there the functions go on where the file was opened, at its beginning. -/
def seekTo (start : Nat) (report : Failure → GError) : DiskProg Nat :=
  if start = 2 ^ 64 - 1 then return 0
  else do
    diskStep id report
    return start

structure BootSwitchPartition where
  start : Nat
  size : Nat

variable (dev : BlockDevice)

/-- The loop that writes zeros: it runs until the count, which has 32 bits, has reached the size, or
until there are no sectors left on the device. -/
def clearLoop (size : Nat) : Nat → Nat → Nat → DiskProg Unit
  | 0, _, clearCount =>
    if clearCount = size then return ()
    else Prog.fail ⟨.updateFailed, "Failed to clear partition: No space left on device"⟩
  | left + 1, pos, clearCount =>
    if clearCount < size then do
      diskStep (fun d => d.write pos (List.replicate 512 0))
        (updateFailed "Failed to clear partition: ")
      clearLoop size left (pos + 512) ((clearCount + 512) % 2 ^ 32)
    else if clearCount = size then return ()
    else Prog.fail ⟨.updateFailed, "Failed to clear partition: Success"⟩

def clearBootSwitchPartition (part : BootSwitchPartition) : DiskProg Unit := do
  diskStep id (updateFailed "Opening device failed: ")
  let pos ← seekTo part.start (updateFailed ("Failed to set file to position " ++
    toString part.start ++ ": "))
  clearLoop part.size ((dev.size - pos) / 512) pos 0

/-- The parts of the given length that a file is read in. -/
def pieces (n : Nat) : Nat → List UInt8 → List (List UInt8)
  | 0, _ => []
  | fuel + 1, content =>
    if content = [] then [] else content.take n :: pieces n fuel (content.drop n)

def writePieces : List (List UInt8) → Nat → DiskProg Unit
  | [], _ => return ()
  | piece :: rest, pos =>
    if dev.size < pos + piece.length then
      Prog.fail ⟨.updateFailed, "Error writing to file descriptor: No space left on device"⟩
    else do
      diskStep (fun d => d.write pos piece) (updateFailed "Error writing to file descriptor: ")
      writePieces rest (pos + piece.length)

/-- `r_copy_stream_with_progress`: everything up to the end of the file, unless the size is 0. -/
def rCopyStreamWithProgress (content : List UInt8) (size : Int) (pos : Nat) : DiskProg Unit :=
  if size = 0 then return () else writePieces dev (pieces 8192 content.length content) pos

/-- The beginning of the file that is to be written last. -/
def readHeader (content : List UInt8) (lenHeaderLast : Nat) : DiskProg (List UInt8) :=
  if lenHeaderLast = 0 then return []
  else if lenHeaderLast ≠ dev.sectorSize then
    Prog.fail ⟨.updateFailed, "Specified header length (" ++ toString lenHeaderLast ++
      ") does not match sector size (" ++ toString dev.sectorSize ++ ")"⟩
  else do
    diskStep id (updateFailed "Failed to read header: ")
    diskStep id (updateFailed "Failed to skip header: ")
    return content.take lenHeaderLast

/-- The header is written when everything else is on the medium. -/
def writeHeader (header : List UInt8) (start : Nat) : DiskProg Unit :=
  if header = [] then return ()
  else do
    fsync
    diskStep id (updateFailed "Failed to rewind output stream: ")
    diskStep (fun d => d.write start header) (updateFailed "Failed to write header: ")

def copyRawImage (image : RaucImage) (content : List UInt8) (start lenHeaderLast : Nat) :
    DiskProg Unit :=
  if image.checksum.size.toInt < 0 then
    Prog.fail (preconditionFailed "copy_raw_image: assertion 'image->checksum.size >= 0' failed")
  else do
    diskStep id (updateFailed "Failed to open file for reading: ")
    let header ← readHeader dev content lenHeaderLast
    Prog.mapError (GError.prefixed "Failed to copy data: ")
      (rCopyStreamWithProgress dev (content.drop header.length) image.checksum.size.toInt
        (start + header.length))
    let seeksize := if image.checksum.size.toInt = 0 then header.length else content.length
    if (seeksize : Int) ≠ image.checksum.size.toInt then
      Prog.fail ⟨.updateFailed, "Written size (" ++ toString seeksize ++ ") != image size (" ++
        toString image.checksum.size.toInt ++ ")"⟩
    else
      writeHeader header start
      diskStep id (updateFailed "")
      fsync

def writeBootSwitchPartition (image : RaucImage) (content : List UInt8) (part : BootSwitchPartition)
    (lenHeaderLast : Nat) : DiskProg Unit := do
  diskStep id (updateFailed "Opening output device failed: ")
  let pos ← seekTo part.start (updateFailed ("Failed to set file to position " ++
    toString part.start))
  copyRawImage dev image content pos lenHeaderLast
  diskStep id (updateFailed "")

/-- Erased flash memory reads as ones. -/
def isClearByte (b : UInt8) : Bool := b == 0x00 || b == 0xFF

def checkIfAreaIsClear (start size : Nat) : DiskProg Bool := do
  diskStep id (updateFailed "Opening device failed: ")
  let pos ← seekTo start (updateFailed ("Failed to set file to position " ++
    toString start ++ ": "))
  let st ← Prog.read
  return (List.range size).all (fun i => isClearByte (st.device.cache (pos + i)))

end Device

section Handler

variable (dev : BlockDevice) (image : RaucImage) (content : List UInt8) (slot : RaucSlot)
  (hookName : Option String)

def headerSize : Nat := 512

def primaryPartition : BootSwitchPartition := ⟨slot.regionStart, slot.regionSize / 2⟩

def fallbackPartition : BootSwitchPartition :=
  ⟨slot.regionStart + slot.regionSize / 2, slot.regionSize / 2⟩

/-- A hook may not touch the region. -/
def fallbackHook (enabled : Bool) : DiskProg Unit :=
  if hookName.isSome ∧ enabled then diskStep id slotHookError else return ()

def updatePartition (part : BootSwitchPartition) : DiskProg Unit := do
  clearBootSwitchPartition dev part
  writeBootSwitchPartition dev image content part headerSize

/-- A primary partition that is clear is written first, since the other one is the one that
boots. -/
def partitionOrder (primaryClear : Bool) : List BootSwitchPartition :=
  if primaryClear then [primaryPartition slot, fallbackPartition slot]
  else [fallbackPartition slot, primaryPartition slot]

def imgToBootRawFallbackHandler : DiskProg Unit :=
  let halfSize := slot.regionSize / 2
  if slot.regionStart % headerSize ≠ 0 then
    Prog.fail ⟨.updateFailed, "Region start " ++ toString slot.regionStart ++
      " is not aligned to the header size " ++
      toString headerSize⟩
  else if halfSize % headerSize ≠ 0 then
    Prog.fail ⟨.updateFailed, "Half region size " ++ toString halfSize ++
      " is not aligned to the header size " ++
      toString headerSize⟩
  else if halfSize < (image.checksum.size.toInt % 2 ^ 64).toNat then
    Prog.fail ⟨.updateFailed, "Size of image (" ++ toString image.checksum.size.toInt ++
      ") does not fit to slot size " ++ toString halfSize⟩
  else do
    fallbackHook hookName image.hooks.preInstall
    let primaryClear ← Prog.mapError
      (fun _ => ⟨.updateFailed, "Failed to check area at " ++ toString slot.regionStart ++
        " on " ++ slot.device⟩)
      (checkIfAreaIsClear slot.regionStart headerSize)
    Prog.each (updatePartition dev image content) (partitionOrder slot primaryClear)
    fallbackHook hookName image.hooks.postInstall

end Handler

section Runs

/-- The first sector of the image is not made of erased bytes only. -/
def PlainHeader (content : List UInt8) : Prop :=
  ∃ k < headerSize, ∃ b, content[k]? = some b ∧ isClearByte b = false

/-- A region with a complete image in both halves, and any number of attempts to write images of an
admitted size into it, each of which may end at any step, with or without a crash. Every set of
sectors that reaches the medium is allowed by the condition. -/
inductive FallbackRun (dev : BlockDevice) (slot : RaucSlot)
    (Allowed : CachedDevice UInt8 → (Nat → Bool) → Prop) :
    List (List UInt8) → CachedDevice UInt8 → Prop where
  | start {v : Nat → UInt8} {primary fallback : List UInt8}
      (hprimary : Stored v slot.regionStart primary)
      (hfallback : Stored v (slot.regionStart + slot.regionSize / 2) fallback)
      (hplain : PlainHeader primary ∧ PlainHeader fallback)
      (hfits : primary.length ≤ slot.regionSize / 2 ∧ fallback.length ≤ slot.regionSize / 2) :
      FallbackRun dev slot Allowed [primary, fallback] ⟨v, v⟩
  | attempted {images : List (List UInt8)} {d : CachedDevice UInt8}
      (hrun : FallbackRun dev slot Allowed images d)
      (image : RaucImage) (content : List UInt8)
        (hsize : image.checksum.size.toInt = content.length)
      (hplain : PlainHeader content) (hfits : content.length ≤ slot.regionSize / 2)
        (hookName : Option String)
      (flushes : Nat → CachedDevice UInt8 → Nat → Bool) (hflushes : ∀ n d, Allowed d (flushes n d))
        (fates : Nat → Fate) :
      FallbackRun dev slot Allowed (content :: images)
        (imgToBootRawFallbackHandler dev image content slot hookName ⟨⟨d, flushes⟩,
          fates⟩).2.state.device
  | settled {images : List (List UInt8)} {d : CachedDevice UInt8}
      (hrun : FallbackRun dev slot Allowed images d)
      (chosen : Nat → Bool) (hchosen : Allowed d chosen) :
        FallbackRun dev slot Allowed images (d.flush 512 chosen)
  | crashed {images : List (List UInt8)} {d : CachedDevice UInt8}
      (hrun : FallbackRun dev slot Allowed images d) :
      FallbackRun dev slot Allowed images d.crash

end Runs

end RaucUpdate
