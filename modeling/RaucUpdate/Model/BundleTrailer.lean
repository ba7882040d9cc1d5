import RaucUpdate.Model.Slot
import RaucUpdate.Library.FileBytes
import RaucUpdate.Library.Programs

/-!
# The signature behind the payload of a bundle

The functions of `bundle.c` that append a signature and its size to a bundle and that read them
again, from a local file or through the NBD server. Every access to the file is recorded with its
position and length.
-/

namespace RaucUpdate

open Library

/-- A bundle file, the position of the stream on it, and the reads so far. -/
structure BundleFile where
  content : List UInt8
  position : Nat := 0
  reads : List (Nat × Nat) := []

abbrev BundleProg : Type → Type := Prog BundleFile GError

/-- `bundle->size` and `bundle->sigdata`. -/
structure OpenedBundle where
  size : Nat
  sigdata : List UInt8
  deriving DecidableEq

section Streams

def fileError (text : String) : Failure → GError
  | .notStarted message => ⟨.fileError, text ++ message⟩
  | .interrupted message => ⟨.fileError, text ++ message⟩
  | .killed | .exitStatus _ => ⟨.fileError, text ++ "Input/output error"⟩

/-- `g_seekable_seek`, with the position counted from the start of the file. -/
def gSeekableSeek (target : Int) : BundleProg Unit :=
  if target < 0 then Prog.fail ⟨.fileError, "Error seeking in file: Invalid argument"⟩
  else Prog.external (fun st => { st with position := target.toNat })
    (fileError "Error seeking in file: ")

/-- What is asked for is recorded, whether it can be read or not. -/
def BundleFile.asked (st : BundleFile) (offset count : Nat) : BundleFile :=
  { st with reads := st.reads ++ [(offset, count)] }

/-- `g_input_stream_read_all` stops early only at the end of the file. -/
def gInputStreamReadAll (count : Nat) : BundleProg (List UInt8) := do
  let st ← Prog.read
  Prog.modify (fun st => st.asked st.position count)
  Prog.external (fun st => { st with position := st.position + count })
    (fileError "Error reading from file: ")
  return readAt st.content st.position count

def gOutputStreamWriteAll (bytes : List UInt8) : BundleProg Unit :=
  Prog.external (fun st => { st with
    content := overwrite 0 st.content st.position bytes, position := st.position + bytes.length })
    (fileError "Error writing to file: ")

def outputStreamWriteUint64All (data : Nat) : BundleProg Unit :=
  gOutputStreamWriteAll (bigEndian 8 data)

def inputStreamReadUint64All : BundleProg Nat := do
  let bytes ← gInputStreamReadAll 8
  if bytes.length ≠ 8 then Prog.abort "bytes_read == sizeof(tmp)"
  else return ofBigEndian bytes

def inputStreamReadBytesAll (count : Nat) : BundleProg (List UInt8) :=
  if count = 0 then Prog.abort "count != 0"
  else do
    let bytes ← gInputStreamReadAll count
    if bytes.length ≠ count then Prog.abort "bytes_read == count"
    else return bytes

end Streams

def appendSignatureToBundle (sig : List UInt8) : BundleProg Unit := do
  Prog.external id (fun failure => (fileError "" failure).prefixed
    "failed to open bundle for signing: ")
  let st ← Prog.read
  Prog.mapError (GError.prefixed "failed to seek to end of bundle: ")
    (gSeekableSeek st.content.length)
  let offset := (← Prog.read).position
  Prog.mapError (GError.prefixed "failed to append signature to bundle: ")
    (gOutputStreamWriteAll sig)
  let offset := (← Prog.read).position - offset
  Prog.mapError (GError.prefixed "failed to append signature size to bundle: ")
    (outputStreamWriteUint64All offset)

section Opening

variable (maxBundleSignatureSize : UInt64)

/-- The sanity checks of a signature size, which both ways to open a bundle make. -/
def checkSignatureSize (sigsize offset : Nat) : Except GError Unit :=
  if sigsize = 0 then .error ⟨.bundleSignature, "Signature size is 0"⟩
  else if sigsize > offset then
    .error ⟨.bundleSignature, "Signature size (" ++ toString sigsize ++ ") exceeds bundle size"⟩
  else if sigsize > maxBundleSignatureSize.toNat then
    .error ⟨.bundleSignature, "Signature size (" ++ toString sigsize ++
      ") exceeds max-bundle-signature-size (" ++
      toString maxBundleSignatureSize.toNat ++ ")"⟩
  else .ok ()

def checkedSignatureSize (sigsize offset : Nat) : BundleProg Unit :=
  match checkSignatureSize maxBundleSignatureSize sigsize offset with
  | .ok () => return ()
  | .error e => Prog.fail e

/-- `open_local_bundle`; a payload whose size is not a multiple of 4 KiB is only logged. -/
def openLocalBundle : BundleProg OpenedBundle := do
  Prog.external id (fun failure => (fileError "" failure).prefixed
    "Failed to open bundle for reading: ")
  let st ← Prog.read
  Prog.mapError (GError.prefixed "Failed to seek to end of bundle: ")
    (gSeekableSeek (st.content.length - 8))
  let offset := (← Prog.read).position
  let sigsize ← Prog.mapError (GError.prefixed "Failed to read signature size from bundle: ")
    inputStreamReadUint64All
  checkedSignatureSize maxBundleSignatureSize sigsize offset
  Prog.mapError (GError.prefixed "Failed to seek to start of bundle signature: ")
    (gSeekableSeek (offset - sigsize))
  let sigdata ← Prog.mapError (GError.prefixed "Failed to read signature from bundle: ")
    (inputStreamReadBytesAll sigsize)
  return ⟨offset - sigsize, sigdata⟩

def nbdReadError : GError := ⟨.nbdRead, "failed to read data from remote server"⟩

/-- `r_nbd_read` on the socket of the server. The length of a request has 32 bits; behind a shorter
reply the client waits for the rest of the data until the server is gone. The server has no data
behind the end of the file. -/
def rNbdRead (size offset : Nat) : BundleProg (List UInt8) :=
  if size = 0 then Prog.fail (preconditionFailed "r_nbd_read: assertion 'size > 0' failed")
  else do
    Prog.modify (fun st => st.asked offset (size % 2 ^ 32))
    Prog.external id (fun _ => nbdReadError)
    let st ← Prog.read
    if st.content.length < offset + size % 2 ^ 32 then Prog.fail nbdReadError
    else if size % 2 ^ 32 < size then Prog.abort "failed to receive nbd read reply body"
    else return readAt st.content offset size

/-- `open_remote_bundle`, for a server that offers the content of the file. -/
def openRemoteBundle : BundleProg OpenedBundle := do
  let dataSize := (← Prog.read).content.length
  if dataSize < 8 then
    Prog.fail ⟨.bundleSignature, "Bundle size (" ++ toString dataSize ++ ") is too small"⟩
  else
    let offset := dataSize - 8
    let bytes ← Prog.mapError (GError.prefixed "Failed to read signature size from bundle: ")
      (rNbdRead 8 offset)
    let sigsize := ofBigEndian bytes
    checkedSignatureSize maxBundleSignatureSize sigsize offset
    let offset := offset - sigsize
    if offset % 4096 ≠ 0 then
      Prog.fail ⟨.bundleSignature, "Payload size (" ++ toString offset ++
        ") is not a multiple of 4KiB. " ++
        "See https://rauc.readthedocs.io/en/latest/faq.html#what-causes-a-payload-size-that-is-not-a-multiple-of-4kib"⟩
    else
      let sigdata ← Prog.mapError (GError.prefixed "Failed to read signature from bundle: ")
        (rNbdRead sigsize offset)
      return ⟨offset, sigdata⟩

end Opening

end RaucUpdate
