import RaucUpdate.Model.BootRawFallback
import RaucUpdate.Library.FileBytes

/-!
# Boot partitions that are switched

`mbr.c` and `gpt.c`: the region with two halves, one of which the first entry of the partition table
refers to. All addresses have 64 bits, the entries of an MBR have sectors of 32 bits. What libfdisk
reports of a GPT is a parameter.
-/

namespace RaucUpdate

open Library

def bootPartitionEntry : Nat := 0

def asSigned (n : Nat) : String := toString (Int.bmod n (2 ^ 64))

def asHex (n : Nat) : String := "0x" ++ String.ofList (Nat.toDigits 16 n)

section Mbr

/-- A device with an MBR: its size in units of 512 bytes, the size of its sectors, and its geometry,
if it has one. -/
structure MbrDevice where
  bytes : Nat → UInt8
  sectors : Nat
  sectorSize : Nat := 512
  geometry : Option (UInt8 × UInt8) := none
  sector : sectorSize = 512 ∨ sectorSize = 4096
  size : sectors * 512 < 2 ^ 63

abbrev MbrProg : Type → Type := Prog MbrDevice GError

def mbrSize : Nat := 512

/-- Where an entry of the partition table begins. -/
def entryOffset (i : Nat) : Nat := 446 + 16 * i

def bytesAt (v : Nat → UInt8) (pos count : Nat) : List UInt8 :=
  (List.range count).map (fun k => v (pos + k))

def partitionStart (mbr : Nat → UInt8) (i : Nat) : Nat :=
  ofLittleEndian (bytesAt mbr (entryOffset i + 8) 4)

def partitionSize (mbr : Nat → UInt8) (i : Nat) : Nat :=
  ofLittleEndian (bytesAt mbr (entryOffset i + 12) 4)

/-- The number is stored with 32 bits. -/
def getNumberOfSectors (opened : Bool) : MbrProg Nat :=
  if opened = false then
    Prog.fail ⟨.updateFailed, "ioctl command 0x1260 failed: Bad file descriptor"⟩
  else do
    Prog.external id (updateFailed "ioctl command 0x1260 failed: ")
    let dev ← Prog.read
    return dev.sectors % 2 ^ 32

def validateRegion (opened : Bool) (start size sectorSize : Nat) : MbrProg Unit :=
  if start < mbrSize ∨ size = 0 then Prog.fail ⟨.updateFailed, "no valid configuration for region"⟩
  else if start % sectorSize ≠ 0 then
    Prog.fail ⟨.updateFailed, "Region start " ++ asSigned start ++
      " is not aligned to the sector-size " ++
      toString sectorSize⟩
  else if size % (2 * sectorSize) ≠ 0 then
    Prog.fail ⟨.updateFailed, "Region size " ++ asSigned size ++
      " is not aligned to the double sector-size " ++
      toString (2 * sectorSize)⟩
  else do
    let numberOfSectors ← getNumberOfSectors opened
    if numberOfSectors * sectorSize ≤ (start + size) % 2 ^ 64 then
      Prog.fail ⟨.updateFailed, "Region configuration is bigger than device"⟩
    else return ()

def readMbr : MbrProg (Nat → UInt8) := do
  Prog.external id (updateFailed "Read: ")
  let dev ← Prog.read
  if dev.sectors = 0 then Prog.fail ⟨.updateFailed, "Read: Success"⟩
  else if dev.bytes 510 ≠ 0x55 ∨ dev.bytes 511 ≠ 0xAA then
    Prog.fail ⟨.updateFailed, "No valid master boot record found"⟩
  else return dev.bytes

/-- The first entry that the region overlaps with is an error. The end of the region has 64 bits. -/
def isRegionFree (regionStart regionSize : Nat) (mbr : Nat → UInt8) (sectorSize : Nat) :
    List Nat → Except GError Unit
  | [] => .ok ()
  | i :: rest =>
    if i = bootPartitionEntry then isRegionFree regionStart regionSize mbr sectorSize rest
    else if partitionSize mbr i = 0 then isRegionFree regionStart regionSize mbr sectorSize rest
    else
      let pStart := partitionStart mbr i * sectorSize
      let pEnd := partitionSize mbr i * sectorSize + pStart - 1
      let regionEnd := (regionStart + regionSize - 1) % 2 ^ 64
      if pStart ≤ regionStart ∧ regionStart ≤ pEnd then
        .error ⟨.updateFailed, "Region start address " ++ asHex regionStart ++
          " is in area of partition " ++
          toString (i + 1) ++ " (" ++ asHex pStart ++ " - " ++ asHex pEnd ++ ")"⟩
      else if regionStart ≤ pStart ∧ pStart ≤ regionEnd then
        .error ⟨.updateFailed, "Region end address " ++ asHex regionEnd ++
          " is in area of partition " ++
          toString (i + 1) ++ " (" ++ asHex pStart ++ " - " ++ asHex pEnd ++ ")"⟩
      else isRegionFree regionStart regionSize mbr sectorSize rest

/-- The half of the region that the entry does not start at. -/
def inactiveHalf (regionStart regionSize sectorSize bootStart : Nat) :
    Except GError BootSwitchPartition :=
  if regionStart / sectorSize = bootStart then
    .ok ⟨(regionStart + regionSize / 2) % 2 ^ 64, regionSize / 2⟩
  else if (regionStart + regionSize / 2) % 2 ^ 64 / sectorSize = bootStart then
    .ok ⟨regionStart, regionSize / 2⟩
  else .error ⟨.updateFailed, "Boot partition's start address does not match region configuration"⟩

/-- Whether the device could be opened shows when its size is asked for. -/
def rMbrSwitchGetInactivePartition (regionStart regionSize : Nat) :
    MbrProg BootSwitchPartition := do
  let opened := (← Prog.ask).isNone
  let dev ← Prog.read
  let sectorSize := if opened then dev.sectorSize else 512
  validateRegion opened regionStart regionSize sectorSize
  let mbr ← Prog.mapError (GError.prefixed "Failed to read MBR:") readMbr
  Prog.ofExcept (isRegionFree regionStart regionSize mbr sectorSize (List.range 4))
  if partitionStart mbr bootPartitionEntry = 0 then
    Prog.fail ⟨.updateFailed, "No boot partition found in entry " ++ toString bootPartitionEntry⟩
  else Prog.ofExcept (inactiveHalf regionStart regionSize sectorSize
    (partitionStart mbr bootPartitionEntry))

/-- Head, sector and cylinder, with two bits of the cylinder in front of the sector. -/
def getChs (lba heads sectors : Nat) : List UInt8 :=
  let cylinder := lba / sectors / heads
  [UInt8.ofNat (lba / sectors % heads), UInt8.ofNat
    ((lba % sectors + 1) ||| ((cylinder >>> 2) &&& 0xC0)),
    UInt8.ofNat (cylinder &&& 0xFF)]

/-- Without heads or sectors the addresses stay as they are. -/
def writeChs (mbr : Nat → UInt8) (pos lba : Nat) (heads sectors : UInt8) : Nat → UInt8 :=
  if heads = 0 ∨ sectors = 0 then mbr else writeAt mbr pos (getChs lba heads.toNat sectors.toNat)

def getHdGeometry (dev : MbrDevice) : UInt8 × UInt8 := dev.geometry.getD (255, 63)

/-- Both numbers are stored with 32 bits. -/
def getRawPartitionEntry (dev : MbrDevice) (mbr : Nat → UInt8) (part : BootSwitchPartition) :
    Except GError (Nat → UInt8) :=
  if part.start % dev.sectorSize ≠ 0 ∨ part.size % dev.sectorSize ≠ 0 then
    .error ⟨.updateFailed, "Partition start address or size is not a multiple of sector size " ++
      toString dev.sectorSize⟩
  else
    let start := part.start / dev.sectorSize % 2 ^ 32
    let size := part.size / dev.sectorSize % 2 ^ 32
    let entry := entryOffset bootPartitionEntry
    let located := writeAt (writeAt mbr (entry + 8) (littleEndian 4 start)) (entry + 12)
      (littleEndian 4 size)
    let geometry := getHdGeometry dev
    let first := writeChs located (entry + 1) start geometry.1 geometry.2
    .ok (writeChs first (entry + 5) ((start + size + 2 ^ 32 - 1) % 2 ^ 32) geometry.1 geometry.2)

/-- The MBR is one sector, which is written as a whole. -/
def rMbrSwitchSetBootPartition (part : BootSwitchPartition) : MbrProg Unit := do
  Prog.external id (updateFailed "Opening device failed: ")
  let mbr ← Prog.mapError (GError.prefixed "Failed to read MBR:") readMbr
  let dev ← Prog.read
  let updated ← Prog.mapError (GError.prefixed "Failed to create new partition entry:")
    (Prog.ofExcept (getRawPartitionEntry dev mbr part))
  Prog.external id (fun _ => ⟨.updateFailed, "Failed to seek to position 0"⟩)
  Prog.external (fun dev => { dev with bytes := writeAt dev.bytes 0 (bytesAt updated 0 mbrSize) })
    (updateFailed "Could not write new MBR: ")

end Mbr

section Gpt

structure FdiskPartition where
  partno : Nat
  first : Nat
  last : Nat

/-- What libfdisk reports of a device, in sectors, with the number of entries that the table has
room for. -/
structure FdiskContext where
  grainSize : Nat
  sectorSize : Nat
  nsectors : Nat
  collision : Option String := none
  isGpt : Bool := true
  isHybrid : Bool := false
  alignmentOffset : Nat := 0
  entries : Nat := 128
  partitions : List FdiskPartition
  sector : sectorSize = 512 ∨ sectorSize = 4096
  grain : 0 < grainSize ∧ sectorSize ∣ grainSize
  size : nsectors * sectorSize < 2 ^ 63

abbrev GptProg : Type → Type := Prog FdiskContext GError

def checkGpt (cxt : FdiskContext) : GptProg Unit :=
  if cxt.grainSize < cxt.sectorSize then
    Prog.abort "libfdisk reported grain size is less than sector size"
  else if cxt.collision.isSome then
    Prog.fail ⟨.updateFailed, "Partition table collision found: " ++ cxt.collision.getD ""⟩
  else if cxt.isGpt = false then Prog.fail ⟨.updateFailed, "GPT not found"⟩
  else if cxt.isHybrid then
    Prog.fail ⟨.updateFailed, "Hybrid GPT is not supported, use a protective MBR instead"⟩
  else if cxt.alignmentOffset ≠ 0 then
    Prog.fail ⟨.updateFailed, "Non-zero alignment offset (" ++ toString cxt.alignmentOffset ++
      ") is not supported"⟩
  else return ()

/-- The loop over the partitions, which also looks for the entry of the boot partition. -/
def checkPartitions (regionStartSector regionEndSector : Nat) : List FdiskPartition → Bool →
    Except GError Unit
  | [], found =>
    if found then .ok ()
    else .error ⟨.updateFailed, "No boot partition found in entry " ++ toString bootPartitionEntry⟩
  | pa :: rest, found =>
    if pa.partno = bootPartitionEntry then
      checkPartitions regionStartSector regionEndSector rest true
    else if regionStartSector ≤ pa.last ∧ pa.first ≤ regionEndSector then
      .error ⟨.updateFailed, "Region (sectors " ++ asHex regionStartSector ++ " - " ++
        asHex regionEndSector ++
        ") overlaps with partition " ++ toString (pa.partno + 1) ++ " (sectors " ++
          asHex pa.first ++ " - " ++
        asHex pa.last ++ ")"⟩
    else checkPartitions regionStartSector regionEndSector rest found

def checkRegion (cxt : FdiskContext) (regionStart regionSize : Nat) : GptProg Unit :=
  if regionStart < 34 * 512 ∨ regionSize = 0 then
    Prog.fail ⟨.updateFailed, "Region configuration is invalid"⟩
  else if regionStart % cxt.grainSize ≠ 0 then
    Prog.fail ⟨.updateFailed, "Region start " ++ asSigned regionStart ++
      " is not aligned to grain-size " ++
      asSigned cxt.grainSize⟩
  else if regionSize % (2 * cxt.grainSize) ≠ 0 then
    Prog.fail ⟨.updateFailed, "Region size " ++ asSigned regionSize ++
      " is not aligned to the double grain-size " ++
      asSigned (2 * cxt.grainSize)⟩
  else if cxt.nsectors ≤ regionStart / cxt.sectorSize then
    Prog.fail ⟨.updateFailed, "Region starts beyond end of block device"⟩
  else if cxt.nsectors ≤ (regionStart + regionSize) % 2 ^ 64 / cxt.sectorSize then
    Prog.fail ⟨.updateFailed, "Region ends beyond end of block device"⟩
  else do
    Prog.external id (fun _ => ⟨.updateFailed, "Failed to get partitions"⟩)
    Prog.ofExcept (checkPartitions (regionStart / cxt.sectorSize)
      (regionStart / cxt.sectorSize + regionSize / cxt.sectorSize - 1) cxt.partitions false)

/-- The partition that the first entry refers to. -/
def FdiskContext.bootPartition (cxt : FdiskContext) : Option FdiskPartition :=
  cxt.partitions.find? (fun pa => pa.partno == bootPartitionEntry)

def rGptSwitchGetInactivePartition (device : String) (regionStart regionSize : Nat) :
    GptProg BootSwitchPartition := do
  Prog.external id (fun _ => ⟨.updateFailed, "Failed to open " ++ device ++ " with libfdisk"⟩)
  let cxt ← Prog.read
  checkGpt cxt
  checkRegion cxt regionStart regionSize
  Prog.external id
    (fun _ => ⟨.updateFailed, "No boot partition found in entry " ++ toString bootPartitionEntry⟩)
  match cxt.bootPartition with
  | none =>
    Prog.fail ⟨.updateFailed, "No boot partition found in entry " ++ toString bootPartitionEntry⟩
  | some pa => Prog.ofExcept (inactiveHalf regionStart regionSize cxt.sectorSize pa.first)

end Gpt

end RaucUpdate
