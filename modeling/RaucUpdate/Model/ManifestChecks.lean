import RaucUpdate.Model.Manifest
import RaucUpdate.Model.SemVer

/-!
# Checks of a manifest

The checks of `manifest.c` that a loaded manifest has to pass before its bundle is installed. The
check of the images may complete a missing size.
-/

namespace RaucUpdate

open Library

def raucMesonVersion : String := "1.16-dev"

def hexDigits : List Char → Option (List UInt8)
  | [] => some []
  | [_] => none
  | upper :: lower :: rest => do
    let u ← (digitVal upper).filter (· < 16)
    let l ← (digitVal lower).filter (· < 16)
    let raw ← hexDigits rest
    return UInt8.ofNat (u * 16 + l) :: raw

def rHexDecode (hex : String) (len : Nat) : Option (List UInt8) :=
  if hex.utf8ByteSize ≠ len * 2 then none else hexDigits hex.toList

section Common

variable (m : RaucManifest)

def manifestCheckError {α : Type} (message : String) : Except GError α :=
  .error ⟨.manifestCheck, message⟩

def checkMinRaucVersion : Except GError Unit :=
  match m.updateMinRaucVersion with
  | none => .ok ()
  | some version =>
    if !semverAtMost "0" version then
      manifestCheckError
        ("Failed to parse 'min-rauc-version'. Expected 'Major[.Minor[.Patch]][-pre_release]]', got '" ++
        version ++ "'")
    else if !semverAtMost version raucMesonVersion then
      manifestCheckError ("Minimum RAUC version in manifest (" ++ version ++
        ") is newer than current version (" ++
        raucMesonVersion ++ ")")
    else if semverAtMost version "1.13" then
      manifestCheckError
        ("Minimum RAUC version field in manifest is only supported since 1.14 (not '" ++
        version ++ "')")
    else .ok ()

def SlotHooks.used (hooks : SlotHooks) : Bool :=
  hooks.preInstall || hooks.install || hooks.postInstall

def haveHooks : Bool := m.hookInstallCheck || m.images.any (fun image => image.hooks.used)

/-- `check_manifest_common`; every format that can be parsed is supported. -/
def checkManifestCommon : Except GError Unit := do
  checkMinRaucVersion m
  if haveHooks m ∧ m.hookName.isNone then
    manifestCheckError "Hooks used, but no hook 'filename' defined in [hooks] section"
  else .ok ()

def checkImagePlain (image : RaucImage) : Except GError Unit :=
  if image.artifact.isSome then manifestCheckError "Artifacts are not supported in plain bundles"
  else if image.convert.isSome ∨ image.converted.getD [] ≠ [] then
    manifestCheckError "Image converters are not supported in plain bundles"
  else .ok ()

def checkManifestPlain : Except GError Unit := m.images.forM checkImagePlain

end Common

section Bundled

/-- A size that is missing is completed for an install hook. -/
def checkImageSize (filename : String) (image : RaucImage) : Except GError RaucImage :=
  if image.checksum.size < 0 then
    if image.hooks.install then .ok { image with checksum := { image.checksum with size := 0 } }
    else manifestCheckError ("Missing size for image " ++ filename)
  else .ok image

def checkImageConverted (filename : String) (image : RaucImage) : Except GError Unit :=
  match image.convert, image.converted with
  | none, _ => .ok ()
  | some _, none => manifestCheckError ("Missing converted outputs for image " ++ filename)
  | some convert, some converted =>
    if convert.length ≠ converted.length then
      manifestCheckError ("Inconsistent number of converted inputs/outputs for image " ++ filename)
    else .ok ()

/-- An image without file name is not checked any further. -/
def checkImageBundled (image : RaucImage) : Except GError RaucImage :=
  match image.filename with
  | none => .ok image
  | some filename => do
    if image.checksum.type ≠ .sha256 then
      manifestCheckError ("Unsupported checksum algorithm for image " ++ filename)
    else if image.checksum.digest.isNone then
      manifestCheckError ("Missing digest for image " ++ filename)
    else
      let image ← checkImageSize filename image
      checkImageConverted filename image
      return image

def checkManifestBundled (m : RaucManifest) : Except GError RaucManifest := do
  let images ← m.images.mapM checkImageBundled
  return { m with images := images }

end Bundled

section Accepted

variable (m : RaucManifest)

def checkNoCryptOrVerity : Except GError Unit :=
  if m.bundleCryptKey.isSome then
    manifestCheckError "Unexpected key for crypt bundle in internal manifest"
  else if m.bundleVerityHash.isSome then
    manifestCheckError ("Unexpected verity hash for " ++ rManifestBundleFormatToStr
      m.bundleFormat ++
      " bundle in internal manifest")
  else if m.bundleVeritySalt.isSome then
    manifestCheckError ("Unexpected verity salt for " ++ rManifestBundleFormatToStr
      m.bundleFormat ++
      " bundle in internal manifest")
  else if m.bundleVeritySize ≠ 0 then
    manifestCheckError ("Unexpected verity size for " ++ rManifestBundleFormatToStr
      m.bundleFormat ++
      " bundle in internal manifest")
  else .ok ()

def checkManifestInternal : Except GError RaucManifest := do
  checkManifestCommon m
  if m.bundleFormat ≠ .plain then
    manifestCheckError ("Bundle format '" ++ rManifestBundleFormatToStr m.bundleFormat ++
      "' not allowed for internal manifest")
  else
    let m ← checkManifestBundled m
    checkManifestPlain m
    checkNoCryptOrVerity m
    return m

/-- The three fields that hold 32 bytes in hexadecimal. -/
def checkHexField (name : String) : Option String → Except GError Unit
  | none => manifestCheckError ("Missing " ++ name ++ " bundle")
  | some hex =>
    if (rHexDecode hex 32).isNone then manifestCheckError ("Invalid " ++ name ++ " bundle")
    else .ok ()

def checkVerity : Except GError Unit := do
  let format := rManifestBundleFormatToStr m.bundleFormat
  checkHexField ("hash for " ++ format) m.bundleVerityHash
  checkHexField ("salt for " ++ format) m.bundleVeritySalt
  if m.bundleVeritySize = 0 then manifestCheckError ("Missing size for " ++ format ++ " bundle")
  else if m.bundleVeritySize % 4096 ≠ 0 then
    manifestCheckError ("Unaligned size for " ++ format ++ " bundle")
  else .ok ()

def checkFormatExternal : Except GError Unit :=
  match m.bundleFormat with
  | .plain => manifestCheckError "Unsupported bundle format 'plain' for external manifest"
  | .crypt => do
    checkHexField "key for crypt" m.bundleCryptKey
    checkVerity m
  | .verity => checkVerity m

def checkManifestExternal : Except GError RaucManifest := do
  checkManifestCommon m
  checkFormatExternal m
  checkManifestBundled m

/-- What an installation is given: a manifest that was loaded and passed the check for its place,
inside or outside of the payload. -/
def ManifestAccepted (digest : KeyFile → String) (m : RaucManifest) : Prop :=
  ∃ data loaded, loadManifestMem digest data = .value loaded ∧
    (checkManifestInternal loaded = .ok m ∨ checkManifestExternal loaded = .ok m)

end Accepted

end RaucUpdate
