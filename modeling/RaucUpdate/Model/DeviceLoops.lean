import RaucUpdate.Model.HashIndex

/-!
# Loops over the bytes of a device

`clear_boot_switch_partition` and `check_if_area_is_clear` of `update_handler.c`, call by call. Each
call to write or to read transfers as much of what is asked for as the kernel likes, nothing
included, or fails. Behind the end of the device nothing can be written and nothing is left to read.
-/

namespace RaucUpdate

open Library

/-- Sizes and positions of a device are signed numbers of 64 bits. -/
structure DeviceFile extends ByteFile where
  sizeLimit : size < 2 ^ 63

/-- Whether the device can be opened, and how each call ends: with an error, or with at most so many
bytes. -/
structure DeviceCalls where
  opens : Bool
  results : Nat → Option Nat

/-- The position after `lseek`, if the functions go on. It can not be set behind the end of the
device. The call then returns −1, which is taken for the position 2^64 − 1 when that was asked for;
nothing has moved. -/
def seekPosition (dev : DeviceFile) (start : Nat) : Option Nat :=
  if start ≤ dev.size then some start
  else if start = 2 ^ 64 - 1 then some 0
  else none

def bufferSize : Nat := 512

section Clearing

def writeCall (dev : ByteFile) (pos request : Nat) (result : Option Nat) : Option Nat :=
  if dev.size ≤ pos then none else result.map (fun k => min k (min request (dev.size - pos)))

/-- The variables of the loop, with the device and the places that were written. The count has 32
bits. -/
structure ClearRun where
  pos : Nat
  clearSize : Nat
  clearCount : Nat
  bytes : Nat → UInt8
  writes : List (Nat × Nat)

def clearWrites (dev : ByteFile) (size : Nat) (results : Nat → Option Nat) : Nat → Nat → ClearRun →
    Option ClearRun
  | 0, _, _ => none
  | fuel + 1, n, run =>
    if run.clearCount < size then
      let clearSize := if size - run.clearCount < bufferSize then size - run.clearCount
        else run.clearSize
      match writeCall dev run.pos clearSize (results n) with
      | none => some { run with clearSize := clearSize }
      | some tmpCount => clearWrites dev size results fuel (n + 1) {
          pos := run.pos + tmpCount
          clearSize := clearSize
          clearCount := (run.clearCount + tmpCount) % 2 ^ 32
          bytes := writeAt run.bytes run.pos (List.replicate tmpCount 0)
          writes := run.writes ++ [(run.pos, tmpCount)] }
    else some run

def clearBootSwitchPartitionOn (dev : DeviceFile) (part : BootSwitchPartition)
    (calls : DeviceCalls) (fuel : Nat) :
    Option (Bool × ClearRun) :=
  let opened : ClearRun := ⟨0, bufferSize, 0, dev.bytes, []⟩
  if calls.opens = false then some (false, opened)
  else
    match seekPosition dev part.start with
    | none => some (false, opened)
    | some pos =>
      (clearWrites dev.toByteFile part.size calls.results fuel 0 { opened with pos := pos }).map
        (fun run => (run.clearCount == part.size, run))

end Clearing

section Checking

def readCall (dev : ByteFile) (pos request : Nat) (result : Option Nat) : Option Nat :=
  result.map (fun k => min k (min request (dev.size - pos)))

/-- The loop, with the size that is left. The result is whether the area is clear, if there was no
error. -/
def clearReads (dev : ByteFile) (results : Nat → Option Nat) : Nat → Nat → Nat → Nat → Nat →
    Option (Option Bool)
  | 0, _, _, _, _ => none
  | fuel + 1, n, pos, readSize, size =>
    if size = 0 then some (some true)
    else
      let request := if size < readSize then size else readSize
      match readCall dev pos request (results n) with
      | none => some none
      | some readCount =>
        if (List.range readCount).all (fun i => isClearByte (dev.bytes (pos + i))) then
          clearReads dev results fuel (n + 1) (pos + readCount) request (size - readCount)
        else some (some false)

/-- The answer is the return value with the value of `*clear`. -/
def checkIfAreaIsClearOn (dev : DeviceFile) (start size : Nat) (calls : DeviceCalls) (fuel : Nat) :
    Option (Option Bool) :=
  if calls.opens = false then some none
  else
    match seekPosition dev start with
    | none => some none
    | some pos => clearReads dev.toByteFile calls.results fuel 0 pos bufferSize size

end Checking

end RaucUpdate
