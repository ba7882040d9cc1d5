import RaucUpdate.Library.FileBytes

/-!
# Creation and verification of the dm-verity hash tree

`verity_hash.c`. The hash file and the data file are the same file, opened several times; what is
written through one of the streams is in the file when another one is read, since each level starts
with a seek on the stream that was written. The levels stand behind the data, the topmost one first.
-/

namespace RaucUpdate

open Library

def verityMaxLevels : Nat := 63

def dataBlockSize : Nat := 4096

def hashBlockSize : Nat := 4096

def digestSize : Nat := 32

/-- A SHA256 digest. -/
structure Digest where
  bytes : List UInt8
  size : bytes.length = digestSize
  deriving DecidableEq

inductive HashError where
  | deviceOffsetOverflow | hashAreaOverflow
  | cannotSeekData | cannotSeekHash
  | cannotReadData | cannotReadDigest | cannotReadSpare
  | verificationFailed | spareNotZeroed | rootHashMismatch
  deriving DecidableEq

/-- The errors for a size that does not fit into the types of offsets. -/
def HashError.isOverflow : HashError → Bool
  | .deviceOffsetOverflow | .hashAreaOverflow | .cannotSeekData | .cannotSeekHash => true
  | _ => false

section Bits

def getBitsUp (u : Nat) : Nat := ((List.range 64).find? (fun i => decide ¬(1 <<< i < u))).getD 64

def getBitsDown (u : Nat) : Nat := ((List.range 64).find? (fun i => decide ¬(u >>> i > 1))).getD 64

def hashPerBlockBits : Nat := getBitsDown (hashBlockSize / digestSize)

def hashPerBlock : Nat := 1 <<< getBitsDown (hashBlockSize / digestSize)

def digestSizeFull : Nat := 1 <<< getBitsUp digestSize

def uint64MultOverflow (b size : Nat) : Bool := decide (b * size % 2 ^ 64 / size ≠ b)

/-- The largest offset has 63 bits. -/
def fseeko (offset : Nat) (e : HashError) : Except HashError Unit :=
  if offset < 2 ^ 63 then .ok () else .error e

end Bits

section Levels

/-- `hash_level_block` and `hash_level_size`. -/
structure HashLevel where
  block : Nat
  size : Nat
  deriving DecidableEq

def levelCount (dataFileBlocks : Nat) : Nat :=
  ((List.range 64).find? (fun levels => decide ¬(hashPerBlockBits * levels < 64 ∧
    ((dataFileBlocks + 2 ^ 64 - 1) % 2 ^ 64) >>> (hashPerBlockBits * levels) ≠ 0))).getD 64

/-- The levels from the given one down to the lowest, at the position; the result has the lowest
level first. -/
def hashLevelsFrom (dataFileBlocks : Nat) : Nat → Nat → Except HashError (List HashLevel × Nat)
  | 0, hashPosition => .ok ([], hashPosition)
  | i + 1, hashPosition =>
    if (i + 1) * hashPerBlockBits > 63 then .error .hashAreaOverflow
    else
      let s := ((dataFileBlocks + 2 ^ ((i + 1) * hashPerBlockBits) - 1) % 2 ^ 64) >>>
        ((i + 1) * hashPerBlockBits)
      if (hashPosition + s) % 2 ^ 64 < hashPosition then .error .hashAreaOverflow
      else (hashLevelsFrom dataFileBlocks i ((hashPosition + s) % 2 ^ 64)).map
        (fun below => (below.1 ++ [⟨hashPosition, s⟩], below.2))

/-- `hash_levels`, with the blocks used up to the end of the hash area. -/
def hashLevels (dataFileBlocks : Nat) : Except HashError (List HashLevel × Nat) :=
  if levelCount dataFileBlocks > verityMaxLevels then .error .hashAreaOverflow
  else hashLevelsFrom dataFileBlocks (levelCount dataFileBlocks) dataFileBlocks

end Levels

/-- The file, the offsets of the two streams on it, and `calculated_digest`. -/
structure HashRun where
  file : List UInt8
  rd : Nat
  wr : Nat
  calculatedDigest : Digest

def fread (file : List UInt8) (pos size : Nat) (e : HashError) : Except HashError (List UInt8) :=
  if pos + size ≤ file.length then .ok (readAt file pos size) else .error e

section Hashing

variable (sha256 : List UInt8 → Digest) (salt : List UInt8) (verify : Bool)

def verifyHashBlock (data : List UInt8) : Digest := sha256 (salt ++ data)

/-- The spare area is checked by `verify_zero` or filled with zeros. -/
def spareArea (bytes : Nat) (run : HashRun) : Except HashError HashRun :=
  if verify then do
    let block ← fread run.file run.wr bytes .cannotReadSpare
    if block.all (fun b => b = 0) then .ok { run with wr := run.wr + bytes }
    else .error .spareNotZeroed
  else .ok { run with file := overwrite 0 run.file run.wr (List.replicate bytes 0),
                      wr := run.wr + bytes }

/-- One digest is compared with the hash file or written to it. -/
def hashEntry (run : HashRun) : Except HashError HashRun :=
  if verify then do
    let readDigest ← fread run.file run.wr digestSize .cannotReadDigest
    if readDigest = run.calculatedDigest.bytes then .ok { run with wr := run.wr + digestSize }
    else .error .verificationFailed
  else .ok { run with
    file := overwrite 0 run.file run.wr run.calculatedDigest.bytes, wr := run.wr + digestSize }

variable (hasHashFile : Bool)

/-- The digests of one hash block: the entries left in it, the blocks left to be hashed, and
`left_bytes`. -/
def hashEntries : Nat → Nat → Nat → HashRun → Except HashError (Nat × Nat × HashRun)
  | 0, blocks, leftBytes, run => .ok (blocks, leftBytes, run)
  | _ + 1, 0, leftBytes, run => .ok (0, leftBytes, run)
  | i + 1, blocks + 1, leftBytes, run => do
    let data ← fread run.file run.rd dataBlockSize .cannotReadData
    let hashed :=
      { run with rd := run.rd + dataBlockSize,
                 calculatedDigest := verifyHashBlock sha256 salt data }
    if hasHashFile then
      let entered ← hashEntry verify hashed
      let spared ←
        if digestSizeFull - digestSize ≠ 0 then
          spareArea verify (digestSizeFull - digestSize) entered
        else .ok entered
      hashEntries i blocks (leftBytes - digestSizeFull) spared
    else .ok (blocks, leftBytes, hashed)

def hashBlocks : Nat → Nat → HashRun → Except HashError HashRun
  | 0, _, run => .ok run
  | blocksToWrite + 1, blocks, run => do
    let (blocks, leftBytes, entered) ← hashEntries sha256 salt verify hasHashFile hashPerBlock
      blocks hashBlockSize run
    let spared ← if hasHashFile ∧ leftBytes ≠ 0 then spareArea verify leftBytes entered
      else .ok entered
    hashBlocks blocksToWrite blocks spared

def createOrVerify (file : List UInt8) (calculatedDigest : Digest)
    (dataBlock hashBlock blocks : Nat) :
    Except HashError HashRun := do
  if uint64MultOverflow dataBlock dataBlockSize ∨ uint64MultOverflow hashBlock hashBlockSize then
    .error .deviceOffsetOverflow
  else
    fseeko (dataBlock * dataBlockSize) .cannotSeekData
    if hasHashFile then fseeko (hashBlock * hashBlockSize) .cannotSeekHash else .ok ()
    hashBlocks sha256 salt verify hasHashFile ((blocks + hashPerBlock - 1) % 2 ^ 64 / hashPerBlock)
      blocks
      ⟨file, dataBlock * dataBlockSize, hashBlock * hashBlockSize, calculatedDigest⟩

/-- The loop over the levels: each one holds the digests of the blocks below. -/
def hashEachLevel (file : List UInt8) (calculatedDigest : Digest) : Nat → Nat → List HashLevel →
    Except HashError (List UInt8 × Digest)
  | _, _, [] => .ok (file, calculatedDigest)
  | dataBlock, blocks, level :: above => do
    let run ← createOrVerify sha256 salt verify true file calculatedDigest dataBlock
      level.block blocks
    hashEachLevel run.file run.calculatedDigest level.block level.size above

/-- The root hash is that of the topmost level, or of the data if there are no levels. -/
def hashRoot (file : List UInt8) (calculatedDigest : Digest) (dataBlocks : Nat)
    (levels : List HashLevel) :
    Except HashError HashRun :=
  match levels.getLast? with
  | some top => createOrVerify sha256 salt verify false file calculatedDigest top.block 0 1
  | none => createOrVerify sha256 salt verify false file calculatedDigest 0 0 dataBlocks

/-- What is left by creation or verification: the file, `combined_blocks` and
`calculated_digest`. -/
structure HashResult where
  file : List UInt8
  combinedBlocks : Nat
  digest : Digest

/-- `verity_create_or_verify_hash` up to the comparison of the root hash. -/
def verityCreateOrVerifyHash (file : List UInt8) (dataBlocks : Nat) :
    Except HashError HashResult := do
  if uint64MultOverflow dataBlocks dataBlockSize then .error .deviceOffsetOverflow
  else
    let (levels, hashPosition) ← hashLevels dataBlocks
    if uint64MultOverflow hashPosition hashBlockSize then .error .deviceOffsetOverflow
    else
      let zero : Digest := ⟨List.replicate digestSize 0, rfl⟩
      let (file, digest) ← hashEachLevel sha256 salt verify file zero 0 dataBlocks levels
      let run ← hashRoot sha256 salt verify file digest dataBlocks levels
      return ⟨run.file, hashPosition, run.calculatedDigest⟩

end Hashing

def rVerityHashCreate (sha256 : List UInt8 → Digest) (file : List UInt8) (dataBlocks : Nat)
    (salt : List UInt8) :
    Except HashError HashResult :=
  verityCreateOrVerifyHash sha256 salt false file dataBlocks

def rVerityHashVerify (sha256 : List UInt8 → Digest) (file : List UInt8) (dataBlocks : Nat)
    (rootHash : List UInt8)
    (salt : List UInt8) : Except HashError Unit := do
  let result ← verityCreateOrVerifyHash sha256 salt true file dataBlocks
  if rootHash = result.digest.bytes then .ok () else .error .rootHashMismatch

end RaucUpdate
