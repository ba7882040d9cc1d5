import RaucUpdate.Model.BootRawFallback
import RaucUpdate.Library.SortedSearch

/-!
# Hash indices

`hash_index.c`, and the copy of an image by its index of `update_handler.c`. An index holds one hash
for each chunk of 4096 bytes, in the bytes of a file or of a buffer. The device is the one of
`DiskProg`, everything else that is read stays as it is during the copy. SHA256 is a parameter.
-/

namespace RaucUpdate

open Library

def chunkSize : Nat := 4096

def sha256Len : Nat := 32

def maxUint32 : Nat := 2 ^ 32 - 1

def rHashIndexZeroChunk : List UInt8 :=
  [0xad, 0x7f, 0xac, 0xb2, 0x58, 0x6f, 0xc6, 0xe9, 0x66, 0xc0, 0x04, 0xd7, 0xd1, 0xd1, 0x6b, 0x02,
    0x4f, 0x58, 0x05, 0xff, 0x7c, 0xb4, 0x7c, 0x7a, 0x85, 0xda, 0xbd, 0x8b, 0x48, 0x89, 0x2c, 0xa7]

def zeroChunk : List UInt8 := List.replicate chunkSize 0

/-- A file or a device of which the content can be read. -/
structure ByteFile where
  size : Nat
  bytes : Nat → UInt8

def ByteFile.ofContent (content : List UInt8) : ByteFile :=
  ⟨content.length, fun k => content.getD k 0⟩

def ByteFile.chunkAt (file : ByteFile) (i : Nat) : List UInt8 :=
  (List.range chunkSize).map (fun k => file.bytes (chunkSize * i + k))

/-- What the descriptor of an index refers to. -/
inductive DataFd where
  | target
  | file (f : ByteFile)

structure RaucHashIndex where
  dataFd : DataFd
  count : Nat
  hashes : List UInt8
  lookup : List Nat
  invalidBelow : Nat := 0
  invalidFrom : Nat := maxUint32
  skipHashCheck : Bool := false

def hashAt (hashes : List UInt8) (i : Nat) : List UInt8 :=
  (hashes.drop (sha256Len * i)).take sha256Len

def fileErrorText (text : String) : Failure → GError
  | .notStarted message => ⟨.fileError, text ++ message⟩
  | .interrupted message => ⟨.fileError, text ++ message⟩
  | .killed | .exitStatus _ => ⟨.fileError, text ++ "Input/output error"⟩

section Lookup

/-- The table is sorted with offsets of 32 bits. -/
def buildLookup (hashes : List UInt8) : List Nat :=
  sortPositions (fun i => (hashes.drop (i * sha256Len % 2 ^ 32)).take sha256Len)
    (hashes.length / sha256Len)

def hashIndexPrepare (fd : DataFd) (count : Nat) (hashes : List UInt8) : RaucHashIndex where
  dataFd := fd
  count := count
  hashes := hashes
  lookup := buildLookup hashes

/-- The forward scan: the first of the chunks with the hash that lies in the valid region. -/
def firstValid (idx : RaucHashIndex) (hash : List UInt8) : List Nat → Option Nat
  | [] => none
  | curr :: rest =>
    if hashAt idx.hashes curr ≠ hash then none
    else if idx.invalidFrom ≤ curr then none
    else if curr < idx.invalidBelow then firstValid idx hash rest
    else some curr

/-- The part of `r_hash_index_get_chunk` that selects the chunk. -/
def searchChunk (idx : RaucHashIndex) (hash : List UInt8) : Except GError Nat :=
  let entry := fun i => hashAt idx.hashes (idx.lookup.getD i 0)
  match bisect (fun i => compare (entry i) hash) idx.count 0 (idx.count - 1) with
  | none => .error ⟨.hashIndexNotFound, "hash not found in index"⟩
  | some found =>
    let middle := runStart (fun i => entry i == hash) found found
    match firstValid idx hash ((idx.lookup.take idx.count).drop middle) with
    | none =>
      .error ⟨.hashIndexNotFound, "hash not in valid region [" ++ toString idx.invalidBelow ++
        ".." ++
        toString idx.invalidFrom ++ ")"⟩
    | some chunk => .ok chunk

/-- The hash that an entry of the table points to, if the entry and the hash exist. -/
def entryIn (idx : RaucHashIndex) (i : Nat) : Option (List UInt8) := do
  let curr ← idx.lookup[i]?
  if sha256Len * (curr + 1) ≤ idx.hashes.length then some (hashAt idx.hashes curr) else none

def firstValidIn (idx : RaucHashIndex) (hash : List UInt8) : Nat → Nat → Option (Option Nat)
  | 0, _ => some none
  | left + 1, i => do
    let entry ← entryIn idx i
    let curr ← idx.lookup[i]?
    if entry ≠ hash then some none
    else if idx.invalidFrom ≤ curr then some none
    else if curr < idx.invalidBelow then firstValidIn idx hash left (i + 1)
    else some (some curr)

/-- The search with its accesses to the tables. There is no result when an access lies outside of
them or when a loop does not end. -/
def searchChunkIn (idx : RaucHashIndex) (hash : List UInt8) : Option (Except GError Nat) :=
  if idx.count = 0 then
    some (.error (preconditionFailed "r_hash_index_get_chunk: assertion 'idx->count > 0' failed"))
  else do
    match ← bisectIn (fun i => (entryIn idx i).map (compare · hash)) (idx.count + 1) 0
      (idx.count - 1) with
    | none => some (.error ⟨.hashIndexNotFound, "hash not found in index"⟩)
    | some found => do
      let middle ← runStartIn (fun i => (entryIn idx i).map (· == hash)) found found
      match ← firstValidIn idx hash (idx.count - middle) middle with
      | none =>
        some (.error ⟨.hashIndexNotFound, "hash not in valid region [" ++
          toString idx.invalidBelow ++ ".." ++
          toString idx.invalidFrom ++ ")"⟩)
      | some chunk => some (.ok chunk)

end Lookup

section Index

variable (sha256 : List UInt8 → List UInt8) (dev : BlockDevice)

def DataFd.open (cache : Nat → UInt8) : DataFd → ByteFile
  | .target => ⟨dev.size, cache⟩
  | .file f => f

/-- `r_read_exact` and `r_pread_exact` for one chunk. -/
def readChunk (fd : DataFd) (i : Nat) : DiskProg (List UInt8) := do
  diskStep id (fileErrorText "Failed to read: ")
  let st ← Prog.read
  let file := fd.open dev st.device.cache
  if file.size < chunkSize * (i + 1) then Prog.fail ⟨.fileError, "Unexpected end of file"⟩
  else return file.chunkAt i

def getChunkCount (size : Nat) : DiskProg Nat := do
  diskStep id (fileErrorText "failed to seek to end: ")
  diskStep id (fileErrorText "failed to seek to position 0: ")
  if size = 0 then Prog.fail ⟨.hashIndexSize, "image/partition is empty"⟩
  else if maxUint32 < size / chunkSize then
    Prog.fail ⟨.hashIndexSize, "image/partition size (" ++ toString size ++ ") is too large"⟩
  else if size % chunkSize ≠ 0 then
    Prog.fail ⟨.hashIndexSize, "image/partition size (" ++ toString size ++
      ") is not a multiple of 4096 bytes"⟩
  else return size / chunkSize

def hashLoop (fd : DataFd) : Nat → Nat → DiskProg (List UInt8)
  | 0, _ => return []
  | left + 1, i => do
    let chunk ← readChunk dev fd i
    let rest ← hashLoop fd left (i + 1)
    return sha256 chunk ++ rest

/-- The buffer has a size of 32 bits, and what is written beyond it is undefined. With a progress
context the number of the chunk is divided by the count over 9. -/
def hashFile (progress : Bool) (fd : DataFd) (count : Nat) : DiskProg (List UInt8) := do
  diskStep id (fileErrorText "failed to seek to position 0: ")
  if 2 ^ 32 ≤ sha256Len * count then Prog.abort "hash_file: write beyond the end of the hashes"
  else if progress ∧ count / 9 = 0 then Prog.abort "hash_file: division by zero"
  else hashLoop sha256 dev fd count 0

/-- The index file is the content of the named file, if that is a regular file. -/
def rHashIndexOpen (progress : Bool) (fd : DataFd) (indexFile : Option (List UInt8)) :
    DiskProg RaucHashIndex := do
  let st ← Prog.read
  let count ← getChunkCount (fd.open dev st.device.cache).size
  match indexFile with
  | some mapped => do
    diskStep id (fileErrorText "Failed to open file: ")
    if maxUint32 ≤ mapped.length then
      Prog.abort "assertion failed: (mapped_size < (gsize)G_MAXUINT32)"
    else if mapped.length / sha256Len < count then
      return hashIndexPrepare fd (mapped.length / sha256Len) mapped
    else return hashIndexPrepare fd count mapped
  | none => do
    let hashes ← hashFile sha256 dev progress fd count
    return hashIndexPrepare fd count hashes

def rHashIndexReuse (idx : RaucHashIndex) : DiskProg RaucHashIndex := do
  let size ← getChunkCount dev.size
  let count := if idx.count < size then idx.count else size
  return hashIndexPrepare .target count (idx.hashes.take (count * sha256Len % 2 ^ 32))

def rHashIndexOpenSlot (progress : Bool) (slot : RaucSlot) (fd : DataFd)
    (indexFile : Option (List UInt8)) :
    DiskProg RaucHashIndex := do
  diskStep id (fileErrorText ("Failed to open slot device " ++ slot.device ++ ": "))
  match slot.dataDirectory with
  | none => Prog.fail (preconditionFailed "g_propagate_error: assertion 'src != NULL' failed")
  | some dir => do
    diskStep id (fileErrorText ("Failed to create slot data directory '" ++ dir ++ "': "))
    rHashIndexOpen sha256 dev progress fd indexFile

def rHashIndexOpenImage (progress : Bool) (image : RaucImage) (content : List UInt8)
    (indexFile : Option (List UInt8)) : DiskProg RaucHashIndex := do
  diskStep id (fileErrorText ("Failed to open image file " ++ image.filename.getD "(null)" ++ ": "))
  rHashIndexOpen sha256 dev progress (.file (.ofContent content)) indexFile

def rHashIndexGetChunk (idx : RaucHashIndex) (hash : List UInt8) : DiskProg (List UInt8) :=
  if idx.count = 0 then
    Prog.fail (preconditionFailed "r_hash_index_get_chunk: assertion 'idx->count > 0' failed")
  else match searchChunk idx hash with
    | .error e => Prog.fail e
    | .ok i => do
      let chunk ← readChunk dev idx.dataFd i
      if idx.skipHashCheck = false ∧ sha256 chunk ≠ hash then
        Prog.fail ⟨.hashIndexModified, "data chunk hash differs from index"⟩
      else return chunk

end Index

section Copy

def hexChars : List Char := "0123456789abcdef".toList

def rHexEncode (raw : List UInt8) : String :=
  String.ofList (raw.flatMap (fun b => [hexChars.getD (b.toNat / 16) '0',
    hexChars.getD (b.toNat % 16) '0']))

/-- The active slot of the class, with what it and its index file contain. -/
structure SeedSlot where
  slot : RaucSlot
  data : ByteFile
  indexFile : Option (List UInt8)

/-- An image to be copied with the help of indices: the target with its stored index, the active
slot if there is one, and the image with the index that is in the bundle. -/
structure AdaptiveCopy where
  dev : BlockDevice
  isBlockDevice : Bool := true
  slot : RaucSlot
  targetIndex : Option (List UInt8)
  seed : Option SeedSlot
  image : RaucImage
  content : List UInt8
  imageIndex : Option (List UInt8)

variable (sha256 : List UInt8 → List UInt8) (job : AdaptiveCopy)

/-- `check_image_size`. Without a size the device counts as empty. -/
def checkImageSizeOfSlot : DiskProg Unit :=
  let size := job.image.checksum.size.toInt
  if 0 < job.slot.sizeLimit ∧ job.slot.sizeLimit < (size % 2 ^ 64).toNat then
    Prog.fail ⟨.updateFailed, "Image size (" ++ toString size ++
      " bytes) is larger than size-limit (" ++
      toString job.slot.sizeLimit ++ " bytes)."⟩
  else if job.isBlockDevice = false then return ()
  else do
    match ← Prog.ask with
    | none =>
      if (job.dev.size : Int) < size then
        Prog.fail ⟨.updateFailed, "Slot (" ++ toString job.dev.size ++
          " bytes) is too small for image (" ++
          toString size ++ " bytes)."⟩
      else return ()
    | some failure =>
      if 0 < size then Prog.fail (fileErrorText "Failed to get device size: " failure)
      else return ()

def rPwriteLazy (data : List UInt8) (i : Nat) : DiskProg Unit := do
  let existing ← Prog.mapError (GError.prefixed "Failed to read existing data: ")
    (readChunk job.dev .target i)
  if data = existing then return ()
  else diskStep (fun d => d.write (chunkSize * i) data) (fileErrorText "Failed to write: ")

def getChunkFrom (hash : List UInt8) : List RaucHashIndex → DiskProg (Option (List UInt8))
  | [] => return none
  | idx :: rest => do
    match ← Prog.attempt (rHashIndexGetChunk sha256 job.dev idx hash) with
    | .ok chunk => return some chunk
    | .error _ => getChunkFrom hash rest

/-- The first index covers what was written, the second one what is still as it was. -/
def updateLimits (c : Nat) : List RaucHashIndex → List RaucHashIndex
  | written :: old :: rest =>
    { written with invalidFrom := c + 1 } :: { old with invalidBelow := c } :: rest
  | sources => sources

/-- A chunk of zeros is not read from anywhere. -/
def zeroOrChunkFrom (hash : List UInt8) (sources : List RaucHashIndex) :
    DiskProg (Option (List UInt8)) :=
  if hash = rHashIndexZeroChunk then return some zeroChunk else getChunkFrom sha256 job hash sources

def findChunk (sources : List RaucHashIndex) (hash : List UInt8) : DiskProg (List UInt8) := do
  match ← zeroOrChunkFrom sha256 job hash sources with
  | none =>
    Prog.fail ⟨.hashIndexNotFound, "no chunk with required hash [" ++ rHexEncode hash ++ "] found"⟩
  | some chunk => return chunk

def copyChunks (hashes : List UInt8) : Nat → Nat → List RaucHashIndex → DiskProg Unit
  | 0, _, _ => return ()
  | left + 1, c, sources => do
    let chunk ← findChunk sha256 job sources (hashAt hashes c)
    rPwriteLazy job chunk c
    copyChunks hashes left (c + 1) (updateLimits c sources)

def openSeed (progress : Bool) : DiskProg (List RaucHashIndex) :=
  match job.seed with
  | none => return []
  | some seed => do
    let idx ← Prog.mapError (GError.prefixed ("failed to open active slot hash index for " ++
      seed.slot.name ++ ": "))
      (rHashIndexOpenSlot sha256 job.dev progress seed.slot (.file seed.data) seed.indexFile)
    return [idx]

/-- What is left to do when all chunks are written. The new index is stored if that is possible. -/
def finishCopy : DiskProg Unit := do
  diskStep id (updateFailed "Failed to seek to end of image: ")
  diskStep CachedDevice.sync (updateFailed "Syncing content to slot failed: ")
  let _ ← Prog.attempt (diskStep id (fileErrorText ""))
  return ()

def copyBlockHashIndexImageToDev (progress : Bool) : DiskProg Unit := do
  let old ← Prog.mapError (GError.prefixed ("failed to open target slot hash index for " ++
    job.slot.name ++ ": "))
    (rHashIndexOpenSlot sha256 job.dev progress job.slot .target job.targetIndex)
  checkImageSizeOfSlot job
  let seeds ← openSeed sha256 job progress
  let opened ← Prog.mapError
    (GError.prefixed ("failed to open source image hash index for " ++ job.image.filename.getD
      "(null)" ++ ": "))
    (rHashIndexOpenImage sha256 job.dev progress job.image job.content job.imageIndex)
  let source := { opened with skipHashCheck := true }
  let reused ← Prog.mapError (GError.prefixed "failed to reuse source hash index for target slot: ")
    (rHashIndexReuse job.dev source)
  let written := { reused with invalidFrom := 0, skipHashCheck := true }
  diskStep id (updateFailed "Failed to seek to start of target slot: ")
  copyChunks sha256 job source.hashes source.count 0 (written :: old :: seeds ++ [source])
  finishCopy

def copyRawImageToDev : DiskProg Unit := do
  diskStep id (fileErrorText ("Failed to open file " ++ job.slot.device ++ ": "))
  checkImageSizeOfSlot job
  copyRawImage job.dev job.image job.content 0 0
  diskStep id (fileErrorText "")

end Copy

end RaucUpdate
