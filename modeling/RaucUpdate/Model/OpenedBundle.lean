import RaucUpdate.Model.CreateBundle
import RaucUpdate.Model.InstallBundle

/-!
# Working on a bundle that was opened

`resign_bundle`, `encrypt_bundle`, `replace_signature`, `extract_signature` and `extract_bundle` of
`bundle.c` with the functions that they call. The output is the file that `create_bundle` would
write, and so are its variables. A bundle comes with the signature that was read from it.
-/

namespace RaucUpdate

open Library

/-- What is decided outside of the program: beside the names and the signatures of a new bundle what
is found in the opened one, how much of a file is copied before an error, and the names of the files
and directories that are used. -/
structure OpenedEnv extends CreateEnv where
  tools : BundleTools
  cmsAppendSignature : List UInt8 → List UInt8
  cmsEncrypt : List UInt8 → List UInt8
  signatureFile : Except GError (List UInt8)
  spliced : Nat := 0
  tmpdir : String

section Opened

variable (env : OpenedEnv)

section Truncate

/-- `g_seekable_truncate`; a file that is too short is filled up. -/
def truncateTo (size : Nat) (content : List UInt8) : List UInt8 :=
  content.take size ++ List.replicate (size - content.length) 0

/-- `g_output_stream_splice` for the whole content. -/
def gOutputStreamSplice (content : List UInt8) : WorkProg Unit := do
  match ← Prog.ask with
  | none => Prog.modify (writeOutput env.toCreateEnv content)
  | some failure =>
    Prog.modify (writeOutput env.toCreateEnv (content.take env.spliced))
    Prog.fail (fsError "" failure)

/-- `truncate_bundle` for the output. The input is read only after the output was created. -/
def truncateBundle (inpath : String) (size : Nat) : WorkProg Unit := do
  Prog.external id (fsError "failed to open bundle for reading: ")
  let work ← Prog.read
  match work.files.lookup inpath with
  | none => Prog.fail ⟨.fileError, "failed to open bundle for reading: No such file or directory"⟩
  | some content =>
    if work.files.contains env.bundlename then
      Prog.fail ⟨.fileError, "failed to open bundle for writing: File exists"⟩
    else
      Prog.external (writeOutput env.toCreateEnv []) (fsError "failed to open bundle for writing: ")
      gOutputStreamSplice env content
      Prog.external (writeOutput env.toCreateEnv (truncateTo size content)) (fsError "")

end Truncate

section Manifests

/-- `load_manifest_from_bundle`. A temporary directory that cannot be removed is only logged. -/
def loadManifestFromBundle (bundle : RaucBundle) : WorkProg RaucManifest := do
  let bundle ← ofOutcome (checkBundlePayload env.sha256 bundle)
  Prog.external id (fsError "Failed to create tmp dir: ")
  let result ← Prog.attempt (do
    match bundle.stream with
    | none => Prog.abort "G_IS_FILE_DESCRIPTOR_BASED (fd_based)"
    | some content =>
      Prog.external id
        (fsError "Failed to extract manifest from bundle: Failed to run unsquashfs: ")
      let data ← Prog.mapError (GError.prefixed "Failed to load manifest: ")
        (Prog.ofExcept (env.tools.manifestFile content))
      let manifest ← Prog.mapError (GError.prefixed "Failed to load manifest: ")
        (ofOutcome (loadManifest env.tools data))
      Prog.mapError (GError.prefixed "Failed to check manifest: ")
        (Prog.ofExcept (checkManifestInternal manifest)))
  let _ ← Prog.ask
  Prog.ofExcept result

/-- The manifest of the signature, or that of the payload. -/
def manifestOf (bundle : RaucBundle) : WorkProg RaucManifest :=
  match bundle.manifest with
  | some manifest => return manifest
  | none => loadManifestFromBundle env bundle

end Manifests

section Outputs

/-- The body of a function that makes a new file and removes it again on every error. -/
def withNewOutput (steps : WorkProg Unit) : WorkProg Unit := do
  let work ← Prog.read
  if work.files.contains env.bundlename then Prog.fail (alreadyExists env.toCreateEnv)
  else
    match ← Prog.attempt steps with
    | .ok () => return ()
    | .error e =>
      rTempfileCleanup env.toCreateEnv env.bundlename
      Prog.fail e

variable (bundle : RaucBundle) (sigdata : List UInt8)

def appendSignature : WorkProg (List UInt8) := do
  Prog.external id (fsError "")
  return env.cmsAppendSignature sigdata

def resignBundle (append : Bool) : WorkProg Unit := withNewOutput env (do
  let bundle ← ofOutcome (checkBundlePayload env.sha256 bundle)
  let manifest ← manifestOf env bundle
  setManifest manifest
  truncateBundle env bundle.path bundle.size
  let sig ← if append then appendSignature env sigdata else generateBundleSignature env.toCreateEnv
  appendToBundle env.toCreateEnv sig)

/-- Only a bundle with a manifest in the `crypt` format is encrypted. -/
def encryptBundle : WorkProg Unit :=
  if bundle.manifest.all (fun manifest => manifest.bundleFormat ≠ .crypt) then
    Prog.fail ⟨.bundleSignature, "Refused to encrypt input bundle that is not in 'crypt' format."⟩
  else withNewOutput env (do
    truncateBundle env bundle.path bundle.size
    Prog.external id (fsError "Failed to encrypt bundle: ")
    appendToBundle env.toCreateEnv (env.cmsEncrypt sigdata))

/-- `replace_signature`. The manifest is only needed for a message. Whether the new bundle passes
`check_bundle` is one external step. -/
def replaceSignature : WorkProg Unit := withNewOutput env (do
  let _ ← Prog.mapError (GError.prefixed "Failed to load manifest: ") (manifestOf env bundle)
  let sig ← Prog.mapError (GError.prefixed "failed to read signature file: ")
    (Prog.ofExcept env.signatureFile)
  truncateBundle env bundle.path bundle.size
  appendToBundle env.toCreateEnv sig
  Prog.external id (fsError "failed to verify the new bundle: "))

/-- `extract_signature`; an incomplete file stays. -/
def extractSignature (outputsig : String) : WorkProg Unit := do
  let work ← Prog.read
  if work.files.contains outputsig then
    Prog.fail ⟨.fileError, "failed to create file to store signature: File exists"⟩
  else
    Prog.external (fun work => { work with files := work.files.set outputsig [] })
      (fsError "failed to create file to store signature: ")
    match ← Prog.ask with
    | none => Prog.modify (fun work => { work with files := work.files.set outputsig sigdata })
    | some failure =>
      Prog.modify (fun work =>
        { work with files := work.files.set outputsig (sigdata.take env.spliced) })
      Prog.fail (fsError "failed to write signature to file: " failure)

end Outputs

section Extract

/-- The directory and the name are joined without a slash. -/
def decpath : String := env.tmpdir ++ "decrypted.raucb"

def isBelow (dir path : String) : Bool :=
  dir.toList.isPrefixOf path.toList && ((path.toList.drop dir.length).head? = some '/')

/-- `rm_tree` for the temporary directory; what cannot be removed is only logged. -/
def rmTreeTmpdir : WorkProg Unit := do
  match ← Prog.ask with
  | none =>
    Prog.modify (fun work => { work with files := work.files.eraseWhere (isBelow env.tmpdir) })
  | some _ => return ()

variable (bundle : RaucBundle)

def decryptToFile (manifest : RaucManifest) : WorkProg Unit :=
  match manifest.bundleCryptKey with
  | none => Prog.abort "bundle->manifest->bundle_crypt_key != NULL"
  | some hex =>
    match rHexDecode hex 32 with
    | none => Prog.abort "key"
    | some key =>
      Prog.zoom BundleWork.files (fun files work => { work with files := files })
        (rCryptDecrypt env.cipher key bundle.path (decpath env) (bundle.dataSize manifest))

/-- `decrypt_bundle_payload`. If the decrypted file cannot be opened there is no stream, but the
result is `TRUE`. -/
def decryptBundlePayload (manifest : RaucManifest) : WorkProg RaucBundle := do
  Prog.external id (fsError "Failed to create tmp dir: ")
  let result ← Prog.attempt (do
    decryptToFile env bundle manifest
    match ← Prog.ask with
    | none => return { bundle with stream := (← Prog.read).files.lookup (decpath env) }
    | some _ => return { bundle with stream := none })
  rmTreeTmpdir env
  Prog.ofExcept result

/-- `unsquashfs` for the whole payload; the result is the file that it reads. -/
def unsquashfs (stream : Option (List UInt8)) : WorkProg (List UInt8) :=
  match stream with
  | none => Prog.abort "G_IS_FILE_DESCRIPTOR_BASED (fd_based)"
  | some content => do
    Prog.external id (fsError "Failed to run unsquashfs: ")
    return content

/-- `extract_bundle` into a directory that may be there already. -/
def extractBundle (outputdir : String) (outputExists : Bool) : WorkProg (List UInt8) := do
  if outputExists then Prog.fail ⟨.fileError, "output directory " ++ outputdir ++ " exists already"⟩
  else
    let bundle ← ofOutcome (checkBundlePayload env.sha256 bundle)
    match bundle.manifest with
    | none => unsquashfs bundle.stream
    | some manifest =>
      if manifest.bundleFormat = .crypt then
        let bundle ← decryptBundlePayload env bundle manifest
        unsquashfs bundle.stream
      else unsquashfs bundle.stream

end Extract

end Opened

end RaucUpdate
