import RaucUpdate.Model.BundleTrailer
import RaucUpdate.Model.Crypt
import RaucUpdate.Model.HashIndex
import RaucUpdate.Model.ManifestChecks
import RaucUpdate.Model.VerityHash

/-!
# Creation of a bundle

`create_bundle` of `bundle.c` with the functions that it calls. Each file that is opened, written,
linked or removed and each program that is run is one external step. The steps may leave something
behind when they fail: the state holds the files beside the output and the variables of
`create_bundle`.
-/

namespace RaucUpdate

open Library

/-- What is decided outside of the program: the content directory and its manifest, the user, the
random numbers, the contents that other programs write, and which files can be removed. -/
structure CreateEnv where
  bundlename : String
  encpath : String
  oldWorkdir : Bool := false
  workdirFiles : List String := []
  manifestFile : Except GError KeyFile
  manifestDigest : KeyFile → String
  checksum : String → RaucChecksum
  pseudoActive : Bool := false
  root : Bool := false
  enableComposefs : Bool := true
  mksquashfsArgs : Option String := none
  squashfs : RaucManifest → Bool → Bool → List UInt8
  squashfsLeft : Option (List UInt8) := none
  cipher : IvCipher (List UInt8) UInt8 16
  cryptKey : List UInt8
  sha256 : List UInt8 → Digest
  veritySalt : List UInt8
  hashTreeLeft : List UInt8 → List UInt8
  cmsSignFile : List UInt8 → List UInt8
  cmsSignManifest : RaucManifest → List UInt8
  removable : String → Bool := fun _ => true

/-- The files in the directory of the output, and `manifest`, `fakeroot` and
`mksquashfs_metadata`. -/
structure BundleWork where
  files : Table String (List UInt8)
  manifest : RaucManifest := {}
  fakeroot : Bool := false
  mksquashfsMetadata : Bool := false

abbrev WorkProg : Type → Type := Prog BundleWork GError

section Checks

/-- The check of one image by `check_manifest_input`. -/
def checkImageInput (image : RaucImage) : Except GError Unit :=
  let filename := image.filename.getD "(null)"
  if image.filename.any (fun filename => filename.toList.contains '/') then
    manifestCheckError ("Image filename " ++ filename ++ " must not contain '/'")
  else if image.checksum.digest.isSome then
    manifestCheckError ("Unexpected digest for image " ++ filename ++ " in input manifest")
  else if image.checksum.size ≠ -1 then
    manifestCheckError ("Unexpected size " ++ toString image.checksum.size ++
      " for image " ++ filename ++
      " in input manifest")
  else if image.converted.any (fun converted => !converted.isEmpty) then
    manifestCheckError "Unexpected 'converted' option in input manifest"
  else .ok ()

def checkManifestInput (m : RaucManifest) : Except GError Unit := do
  checkManifestCommon m
  if m.bundleFormat = .plain then checkManifestPlain m
  m.images.forM checkImageInput

def checkImageCreate (image : RaucImage) : Except GError Unit :=
  if image.hooks.install ∧ (image.hooks.preInstall ∨ image.hooks.postInstall) then
    manifestCheckError
      "An 'install' hook must not be combined with 'pre-install' or 'post-install' hooks"
  else .ok ()

def checkManifestCreate (m : RaucManifest) : Except GError Unit := m.images.forM checkImageCreate

/-- A check that only looks at the manifest. -/
def checkWork (check : RaucManifest → Except GError Unit) : WorkProg Unit := do
  let work ← Prog.read
  Prog.ofExcept (check work.manifest)

def setManifest (m : RaucManifest) : WorkProg Unit :=
  Prog.modify (fun work => { work with manifest := m })

end Checks

/-- The method is in the list `convert` of the image. -/
def RaucImage.converts (image : RaucImage) (method : String) : Bool :=
  image.convert.any (fun c => c.contains method)

/-- `*mksquashfs_metadata` after `needs_fakeroot`. -/
def mksquashfsMetadata (m : RaucManifest) : Bool :=
  m.images.any (fun image => image.converts "tar-extract")

def mayNeedFakeroot (m : RaucManifest) : Bool :=
  m.images.any (fun image => image.converts "tar-extract" || image.converts "composefs")

section Steps

variable (env : CreateEnv)

def needsFakeroot (m : RaucManifest) : Bool := mayNeedFakeroot m && !env.pseudoActive && !env.root

/-- `r_tempfile_cleanup`; a file that cannot be removed is only logged. -/
def rTempfileCleanup (filename : String) : WorkProg Unit :=
  if env.removable filename then
    Prog.modify (fun work => { work with files := work.files.erase filename })
  else return ()

/-- The content directory is linked in one step. -/
def prepareWorkdir : WorkProg Unit := do
  if env.oldWorkdir then Prog.external id (fsError "Failed to remove old workdir: ")
  Prog.external id (fsError "failed to create the workdir: ")
  Prog.external id (fsError "failed to hard-link the content to workdir: ")

def loadManifestFile : WorkProg Unit := do
  Prog.external id (fsError "Failed to open file: ")
  let keyFile ← Prog.ofExcept env.manifestFile
  match loadManifestMem env.manifestDigest keyFile with
  | .value m => setManifest m
  | .exit x => Prog.exit x

/-- A name that is missing stands for the directory itself. -/
def inWorkdir (filename : Option String) : Bool :=
  filename.all (fun filename => env.workdirFiles.contains filename)

/-- The loop of `update_manifest_checksums`. -/
def updateImageChecksums : List RaucImage → WorkProg (List RaucImage)
  | [] => return []
  | image :: rest => do
    match image.filename with
    | none =>
      let images ← updateImageChecksums rest
      return { image with checksum := { image.checksum with size := -1 } } :: images
    | some filename =>
      Prog.external id (fun _ => ⟨.manifestChecksum, "Failed updating all checksums"⟩)
      let images ← updateImageChecksums rest
      return { image with checksum := env.checksum filename } :: images

def syncManifestWithContentdir : WorkProg Unit := do
  let m := (← Prog.read).manifest
  match m.images.find? (fun image => !inWorkdir env image.filename) with
  | some image =>
    Prog.fail ⟨.manifestChecksum, "image file '" ++ image.filename.getD "(null)" ++
      "' for slot '" ++
      image.slotclass.getD "(null)" ++ "' does not exist in bundle content dir"⟩
  | none =>
    if inWorkdir env m.hookName then
      let images ← updateImageChecksums env m.images
      setManifest { m with images := images }
    else Prog.fail ⟨.manifestChecksum, "hook file '" ++ m.hookName.getD "(null)" ++
      "' does not exist in bundle content dir"⟩

/-- The path of the environment is what `fakeroot` points to. -/
def rFakerootInit : WorkProg Unit := do
  Prog.external id (fsError "Failed to create tmp dir: ")
  Prog.external (fun work => { work with fakeroot := true })
    (fsError "Failed to create environment: ")

def generateIndex (filename : String) : WorkProg Unit := do
  Prog.external id (fun _ => ⟨.fileError, "Failed to open image: " ++ filename⟩)
  Prog.external id (fsError ("Failed to generate hash index for " ++ filename ++ ": "))
  Prog.external id (fsError ("Failed to write hash index for " ++ filename ++ ": "))

def generateAdaptiveMethod (image : RaucImage) (method : String) : WorkProg Unit :=
  if method = "block-hash-index" then generateIndex (image.filename.getD "(null)")
  else if method = "adaptive-test-method" then return ()
  else Prog.fail ⟨.bundlePayload, "Unsupported adaptive method: " ++ method⟩

def generateAdaptiveData : WorkProg Unit := do
  let work ← Prog.read
  Prog.each (fun image : RaucImage => Prog.each (generateAdaptiveMethod image)
    (image.adaptive.getD [])) work.manifest.images

def convertTarExtract (image : RaucImage) : WorkProg Unit := do
  Prog.external id (fsError ("failed to create directory '" ++ image.filename.getD "(null)" ++
    ".extracted': "))
  Prog.external id (fsError "failed to run tar extract: ")

def convertComposefs (image : RaucImage) : WorkProg Unit := do
  Prog.external id (fsError ("failed to create directory '" ++ image.filename.getD "(null)" ++
    ".cfs': "))
  Prog.external id (fsError "failed to create directory '.rauc-cfs-store': ")
  Prog.external id (fsError "failed to run mkcomposefs: ")

/-- The name that a method adds to the list `converted`. -/
def convertMethod (image : RaucImage) (method : String) : WorkProg String := do
  let filename := image.filename.getD "(null)"
  if method = "tar-extract" then return filename ++ ".extracted"
  else if method = "composefs" then
    if env.enableComposefs then
      convertComposefs image
      return filename ++ ".cfs"
    else Prog.fail ⟨.bundleUnsupported,
      "Convert method 'composefs' not enabled, recompile with -Dcomposefs=enabled"⟩
  else if method = "keep" then return filename
  else Prog.fail ⟨.bundlePayload, "Unsupported convert method: " ++ method⟩

def convertMethods (image : RaucImage) : List String → WorkProg (List String)
  | [] => return []
  | method :: rest => do
    let converted ← convertMethod env image method
    let others ← convertMethods image rest
    return converted :: others

/-- A list `converted` without entries is taken for one that was made before. -/
def convertImage (image : RaucImage) : WorkProg RaucImage := do
  if image.converted = some [] then
    Prog.fail ⟨.bundlePayload, "Manifest already contains converted images for '" ++
      image.slotclass.getD "(null)" ++ "'"⟩
  else
    match image.convert with
    | none => return image
    | some methods =>
      let extracts := image.converts "tar-extract" || image.converts "composefs"
      if extracts then convertTarExtract image
      let converted ← convertMethods env image methods
      if extracts && !image.converts "tar-extract" then
        Prog.external id (fsError "Failed to remove files extracted from tar: ")
      if !image.converts "keep" then
        Prog.external id (fsError ("Failed to remove input artifact image after conversion '" ++
          image.filename.getD "(null)" ++ "': "))
      return { image with converted := some converted }

def convertEach : List RaucImage → WorkProg (List RaucImage)
  | [] => return []
  | image :: rest => do
    let image ← convertImage env image
    let images ← convertEach rest
    return image :: images

def convertImages : WorkProg Unit := do
  let work ← Prog.read
  let images ← convertEach env work.manifest.images
  setManifest { work.manifest with images := images }

def saveManifestFile : WorkProg Unit := Prog.external id (fsError "Failed to create file: ")

def alreadyExists : GError := ⟨.fileError, "bundle " ++ env.bundlename ++ " already exists"⟩

def writeOutput (content : List UInt8) (work : BundleWork) : BundleWork :=
  { work with files := work.files.set env.bundlename content }

/-- A `mksquashfs` that fails may leave an incomplete file. -/
def mksquashfs : WorkProg Unit := do
  let work ← Prog.read
  if work.files.contains env.bundlename then Prog.fail (alreadyExists env)
  else
    if env.mksquashfsArgs.isSome then
      Prog.external id (fun _ => ⟨.configShellParse,
        "Failed to parse mksquashfs extra args: Text ended before matching quote was found"⟩)
    match ← Prog.ask with
    | none =>
      Prog.modify (writeOutput env (env.squashfs work.manifest work.mksquashfsMetadata
        work.fakeroot))
    | some failure =>
      match env.squashfsLeft with
      | none => Prog.fail (fsError "Failed to run mksquashfs: " failure)
      | some left =>
        Prog.modify (writeOutput env left)
        Prog.fail (fsError "Failed to run mksquashfs: " failure)

/-- The body of `encrypt_bundle_payload` behind the check that there is no key yet. -/
def encryptToBundle : WorkProg Unit := do
  Prog.external id (fun _ => ⟨.bundleCrypt, "Failed to generate crypt key"⟩)
  Prog.zoom BundleWork.files (fun files work => { work with files := files })
    (rCryptEncrypt env.cipher env.cryptKey env.bundlename env.encpath)
  Prog.modify (fun work => { work with manifest :=
    { work.manifest with bundleCryptKey := some (rHexEncode env.cryptKey) } })
  let work ← Prog.read
  match work.files.lookup env.encpath with
  | none => Prog.fail ⟨.fileError, "Renaming " ++ env.encpath ++ " to " ++ env.bundlename ++
      " failed, aborting encryption: No such file or directory"⟩
  | some encrypted =>
    Prog.external (fun work =>
      { work with files := (work.files.erase env.encpath).set env.bundlename encrypted })
      (fsError ("Renaming " ++ env.encpath ++ " to " ++ env.bundlename ++
        " failed, aborting encryption: "))

/-- The encrypted file is removed on every error. -/
def encryptBundlePayload : WorkProg Unit := do
  if (← Prog.read).manifest.bundleCryptKey.isSome then
    Prog.abort "manifest->bundle_crypt_key == NULL"
  else
    match ← Prog.attempt (encryptToBundle env) with
    | .ok () => return ()
    | .error e =>
      rTempfileCleanup env env.encpath
      Prog.fail e

/-- The hash tree behind the payload `content`, which is what the file holds. -/
def appendHashTree (content : List UInt8) : WorkProg Unit := do
  match ← Prog.ask, rVerityHashCreate env.sha256 content (content.length / 4096) env.veritySalt with
  | none, .ok result =>
    Prog.modify (writeOutput env result.file)
    if result.combinedBlocks * 4096 ≤ content.length then
      Prog.abort "combined_size*4096 > (uint64_t)offset"
    else
      Prog.modify (fun work => { work with manifest := { work.manifest with
        bundleVeritySalt := some (rHexEncode env.veritySalt)
        bundleVerityHash := some (rHexEncode result.digest.bytes)
        bundleVeritySize := UInt64.ofNat (result.combinedBlocks * 4096 - content.length) } })
  | _, _ =>
    Prog.modify (writeOutput env (env.hashTreeLeft content))
    Prog.fail ⟨.bundleVerity, "failed to generate verity hash tree"⟩

def createVerity : WorkProg Unit := do
  Prog.external id (fsError "failed to open bundle for signing: ")
  let work ← Prog.read
  match work.files.lookup env.bundlename with
  | none => Prog.fail ⟨.fileError, "failed to open bundle for signing: No such file or directory"⟩
  | some content =>
    let size := formatNat 10 content.length
    if work.manifest.bundleVeritySalt.isSome then Prog.abort "manifest->bundle_verity_salt == NULL"
    else if work.manifest.bundleVerityHash.isSome then
      Prog.abort "manifest->bundle_verity_hash == NULL"
    else if work.manifest.bundleVeritySize ≠ 0 then Prog.abort "manifest->bundle_verity_size == 0"
    else
      Prog.external id (fsError "failed to seek to end of bundle: ")
      Prog.external id (fun _ => ⟨.bundleVerity, "failed to generate verity salt"⟩)
      if content.length % 4096 ≠ 0 then
        Prog.fail ⟨.bundleVerity, "squashfs size (" ++ size ++ ") is not a multiple of 4096 bytes"⟩
      else if content.length ≤ 4096 then
        Prog.fail ⟨.bundleVerity, "squashfs size (" ++ size ++ ") must be larger than 4096 bytes"⟩
      else appendHashTree env content

/-- A check that may complete the manifest. -/
def completeManifest (text : String) (check : RaucManifest → Except GError RaucManifest) :
    WorkProg Unit := do
  let work ← Prog.read
  match check work.manifest with
  | .ok m => setManifest m
  | .error e => Prog.fail (e.prefixed text)

def generateBundleSignature : WorkProg (List UInt8) := do
  if (← Prog.read).manifest.bundleFormat = .plain then
    completeManifest "cannot sign bundle containing inconsistent manifest: " checkManifestInternal
    Prog.external id (fsError "failed to sign bundle: ")
    return env.cmsSignFile (((← Prog.read).files.lookup env.bundlename).getD [])
  else
    completeManifest "cannot sign inconsistent manifest: " checkManifestExternal
    Prog.external id (fsError "failed to sign manifest: ")
    return env.cmsSignManifest (← Prog.read).manifest

/-- `append_signature_to_bundle` for the output. -/
def appendToBundle (sig : List UInt8) : WorkProg Unit := do
  match (← Prog.read).files.lookup env.bundlename with
  | none => Prog.fail ⟨.fileError, "failed to open bundle for signing: No such file or directory"⟩
  | some content =>
    Prog.zoom (fun _ => { content := content }) (fun file => writeOutput env file.content)
      (appendSignatureToBundle sig)

def signBundle : WorkProg Unit := do
  if (← Prog.read).manifest.bundleFormat ≠ .plain then createVerity env
  let sig ← generateBundleSignature env
  appendToBundle env sig

/-- `rm_tree` for the workdir. -/
def rmTreeWorkdir : WorkProg Unit := Prog.external id (fsError "Failed to remove tree: ")

end Steps

/-- The variables of `create_bundle` with `res` and whether `bundletmp` is set. -/
structure CreateState where
  work : BundleWork
  res : Bool := false
  bundletmp : Bool := true

abbrev CreateProg : Type → Type := Prog CreateState GError

section Create

variable (env : CreateEnv)

def onWork {α : Type} (p : WorkProg α) : CreateProg α :=
  Prog.zoom CreateState.work (fun work st => { st with work := work }) p

/-- `res = ..`, and on `FALSE` the error is propagated and the end of the function follows. -/
def assignRes (p : WorkProg Unit) : CreateProg Unit := do
  match ← Prog.attempt (onWork p) with
  | .ok () => Prog.modify (fun st => { st with res := true })
  | .error e =>
    Prog.modify (fun st => { st with res := false })
    Prog.fail e

def initFakeroot : CreateProg Unit := do
  let m := (← Prog.read).work.manifest
  onWork (Prog.modify (fun work => { work with mksquashfsMetadata := mksquashfsMetadata m }))
  if needsFakeroot env m then onWork rFakerootInit else return ()

def encryptForFormat : CreateProg Unit := do
  if (← Prog.read).work.manifest.bundleFormat = .crypt then assignRes (encryptBundlePayload env)
  else return ()

/-- The function up to its label. -/
def createBundleSteps : CreateProg Unit := do
  onWork (prepareWorkdir env)
  assignRes (Prog.mapError (GError.prefixed "Failed to load manifest: ") (loadManifestFile env))
  assignRes (checkWork checkManifestInput)
  assignRes (checkWork checkManifestCreate)
  assignRes (syncManifestWithContentdir env)
  initFakeroot env
  assignRes generateAdaptiveData
  assignRes (convertImages env)
  assignRes saveManifestFile
  assignRes (mksquashfs env)
  encryptForFormat env
  assignRes (signBundle env)
  onWork (Prog.mapError (GError.prefixed "Failed to remove workdir: ") rmTreeWorkdir)
  Prog.modify (fun st => { st with res := true, bundletmp := false })

/-- What is returned, and `*error`. -/
structure CreateReturn where
  ret : Bool
  error : Option GError
  deriving DecidableEq

/-- A fakeroot environment that cannot be removed is only logged. -/
def cleanupFakeroot : CreateProg Unit := do
  if (← Prog.read).work.fakeroot then
    let _ ← Prog.ask
  else return ()

def cleanupBundletmp : CreateProg Unit := do
  if (← Prog.read).bundletmp then onWork (rTempfileCleanup env env.bundlename) else return ()

/-- The function from its label on. -/
def createBundleOut (error : Option GError) : CreateProg CreateReturn := do
  cleanupFakeroot
  cleanupBundletmp env
  return ⟨(← Prog.read).res, error⟩

/-- The function after the output is known to be new. -/
def createBundleBody : CreateProg CreateReturn := do
  match ← Prog.attempt (createBundleSteps env) with
  | .ok () => createBundleOut env none
  | .error e => createBundleOut env (some e)

def createBundle : Prog (Table String (List UInt8)) GError CreateReturn := do
  let files ← Prog.read
  if files.contains env.bundlename then return ⟨false, some (alreadyExists env)⟩
  else
    Prog.zoom (fun files => { work := { files := files } }) (fun st _ => st.work.files)
      (createBundleBody env)

end Create

end RaucUpdate
