import RaucUpdate.Model.BundlePayload
import RaucUpdate.Model.BundleTrailer
import RaucUpdate.Model.InstallSteps
import RaucUpdate.Model.SemVer
import RaucUpdate.Model.SlotStates

/-!
# Installing a bundle

`do_install_bundle` of `install.c` with `check_bundle` and `mount_bundle` of `bundle.c` and
`cms_verify_bytes` of `signature.c`. The functions of OpenSSL, the parser of GLib and the file
system inside of a payload are parameters; a system call, a command or a device that is set up is
one external step.
-/

namespace RaucUpdate

open Library

/-- What is decided outside of the program. -/
structure BundleTools where
  /-- `CMS_is_detached` for data that can be parsed as CMS. -/
  isDetached : List UInt8 → Option Bool
  isEnvelopeddata : List UInt8 → Bool
  decrypt : List UInt8 → Except GError (List UInt8)
  /-- `CMS_verify` and the checks of the signers. The result is the content that was signed. -/
  verify : Option (List UInt8) → List UInt8 → Except GError (List UInt8)
  certChain : List UInt8 → Except GError Unit
  keyFile : List UInt8 → Except GError KeyFile
  checksum : List UInt8 → String
  /-- The file `manifest.raucm` in the file system of a payload. -/
  manifestFile : List UInt8 → Except GError (List UInt8)
  hookMessage : Option String
  uuid : String
  /-- What `update_external_mount_points` finds mounted. -/
  extMountPoint : String → Option String

/-- The part of the configuration that only the installation of a bundle reads. -/
structure BundleContext extends InstallContext where
  systemCompatible : Option String
  systemMinBundleVersion : Option String := none
  bundleFormatsMask : Nat := 7
  maxBundleSignatureSize : UInt64 := 64 * 1024
  keyringPath : Option String := none
  keyringDirectory : Option String := none
  encryptionKey : Option String := none
  performPreCheck : Bool := false
  preinstallHandler : Option String := none
  postinstallHandler : Option String := none
  handlerextra : Option String := none

structure BundleInstallArgs extends RaucInstallArgs where
  ignoreCompatible : Bool := false
  ignoreVersionLimit : Bool := false
  requireManifestHash : Option String := none

/-- A bundle as it is found under its name, in a local file or at a server. -/
structure BundleSource where
  path : String
  streaming : Bool := false
  content : List UInt8

variable (tools : BundleTools) (ctx : BundleContext)

section Signature

def ofOutcome {σ α : Type} : Outcome GError α → Prog σ GError α
  | .value a => pure a
  | .exit x => Prog.exit x

/-- `load_manifest_mem`, and `load_manifest_file` for the content of the file. -/
def loadManifest (data : List UInt8) : Outcome GError RaucManifest :=
  match tools.keyFile data with
  | .error e => .exit (.error e)
  | .ok keyFile => loadManifestMem (fun _ => tools.checksum data) keyFile

def invalidSignature (message : String) : GError := ⟨.signatureInvalid, message⟩

def verifyBytes (content : Option (List UInt8)) (sig : List UInt8) (manifest : Bool) :
    Except GError (List UInt8) :=
  match tools.isDetached sig, content with
  | none, _ => .error ⟨.signatureParse, "failed to parse signature"⟩
  | some true, none => .error (invalidSignature "no content provided for detached signature")
  | some true, some content =>
    if manifest then
      .error (invalidSignature "unexpected manifest output location for detached signature")
    else tools.verify (some content) sig
  | some false, some _ =>
    .error (invalidSignature "unexpected content provided for inline signature")
  | some false, none =>
    if manifest then tools.verify none sig
    else .error (invalidSignature "no manifest output location for inline signature")

def cmsVerifyBytes (content : Option (List UInt8)) (sig : List UInt8) (manifest : Bool) :
    InstallerProg (List UInt8) :=
  inStep "cms_verify" "Verifying signature" 0 1 (ofExcept (verifyBytes tools content sig manifest))

/-- The payload of a bundle; a size of zero is no limit. -/
def payloadOf (content : List UInt8) (size : Nat) : List UInt8 :=
  if size = 0 then content else content.take size

def decryptSignature (sigdata : List UInt8) : Except GError (List UInt8 × Bool) :=
  if tools.isEnvelopeddata sigdata then
    if ctx.encryptionKey.isNone then
      .error ⟨.bundleSignature, "Encrypted bundle detected, but no decryption key given. " ++
        "Use --key=<PEMFILE|PKCS11-URL> to provide one."⟩
    else
      match tools.decrypt sigdata with
      | .error e => .error (e.prefixed "Failed to decrypt bundle: ")
      | .ok decrypted => .ok (decrypted, true)
  else .ok (sigdata, false)

variable (source : BundleSource)

def openBundle : InstallerProg OpenedBundle :=
  Prog.mapError (GError.prefixed "Invalid bundle format: ")
    (Prog.zoom (fun _ => { content := source.content }) (fun _ st => st)
      (if source.streaming then openRemoteBundle ctx.maxBundleSignatureSize
      else openLocalBundle ctx.maxBundleSignatureSize))

/-- A detached signature is that of the payload. -/
def verifyDetached (bundle : RaucBundle) (sigdata : List UInt8) : InstallerProg RaucBundle := do
  Prog.external id (fsError "cannot ensure exclusive access to bundle: ")
  Prog.external id (fsError "Failed to map bundle: ")
  let _ ← cmsVerifyBytes tools (some (payloadOf source.content bundle.size)) sigdata false
  logEvent .signatureVerified
  ofExcept (tools.certChain sigdata)
  return { bundle with signatureVerified := true, payloadVerified := true,
                       exclusiveVerified := true }

/-- A failed `check_bundle_access` is only remembered. -/
def checkBundleAccess : InstallerProg Bool :=
  if source.streaming then return false
  else do
    let failure ← Prog.ask
    return failure.isNone

/-- An inline signature is that of the manifest. -/
def verifyInline (bundle : RaucBundle) (sigdata : List UInt8) :
    InstallerProg (RaucBundle × List UInt8) := do
  let exclusive ← checkBundleAccess source
  let data ← cmsVerifyBytes tools none sigdata true
  logEvent .signatureVerified
  ofExcept (tools.certChain sigdata)
  return ({ bundle with signatureVerified := true, exclusiveVerified := exclusive }, data)

def loadSignedManifest (data : List UInt8) : InstallerProg RaucManifest := do
  let manifest ← Prog.mapError (GError.prefixed "Failed to load manifest: ")
    (ofOutcome (loadManifest tools data))
  if manifest.bundleFormat = .plain then
    Prog.fail ⟨.bundleFormat, "Bundle format 'plain' not allowed for external manifest"⟩
  else return manifest

def verifyBundle (detached : Bool) (bundle : RaucBundle) (sigdata : List UInt8) :
    InstallerProg RaucBundle := do
  Prog.external id (fsError "failed to load keyring: ")
  if detached then verifyDetached tools source bundle sigdata
  else
    let (bundle, data) ← verifyInline tools source bundle sigdata
    let manifest ← loadSignedManifest tools data
    return { bundle with manifest := some manifest }

def formatBit : BundleFormat → Nat
  | .plain => 0
  | .verity => 1
  | .crypt => 2

def formatAllowed (format : BundleFormat) : Bool := ctx.bundleFormatsMask.testBit (formatBit format)

def requireFormat (format : BundleFormat) : Except GError Unit :=
  if formatAllowed ctx format then .ok ()
  else .error ⟨.bundleFormat, "Bundle format '" ++ rManifestBundleFormatToStr format ++
    "' not allowed"⟩

/-- `check_allowed_bundle_format`: a bundle that has no manifest yet is a plain one. -/
def checkAllowedBundleFormat : Option RaucManifest → Except GError Unit
  | none => requireFormat ctx .plain
  | some manifest =>
    if manifest.bundleFormat = .plain then .ok () else requireFormat ctx manifest.bundleFormat

/-- The connection to the server of a bundle that is streamed. -/
def startStreaming : InstallerProg Unit :=
  if source.streaming then
    Prog.external id (fsError ("Failed to stream bundle " ++ source.path ++ ": "))
  else return ()

def readOpened (opened : OpenedBundle) : InstallerProg RaucBundle := do
  match tools.isDetached opened.sigdata with
  | none => Prog.fail ⟨.signatureParse, "Invalid bundle format: Signature data is no valid CMS"⟩
  | some detached =>
    if detached ∧ source.streaming then
      Prog.fail ⟨.bundleFormat, "Bundle format 'plain' not supported in streaming mode"⟩
    else
      let (sigdata, wasEncrypted) ← ofExcept (decryptSignature tools ctx opened.sigdata)
      let stream := if source.streaming then none else some source.content
      let bundle ← verifyBundle tools source detached
        { path := source.path, stream, size := opened.size, wasEncrypted } sigdata
      ofExcept (checkAllowedBundleFormat ctx bundle.manifest)
      return bundle

def readBundle : InstallerProg RaucBundle := do
  if ctx.keyringPath.isNone ∧ ctx.keyringDirectory.isNone then
    Prog.fail ⟨.bundleKeyring, "No keyring file or directory provided"⟩
  else
    startStreaming source
    let opened ← openBundle ctx source
    readOpened tools ctx source opened

def checkBundle : InstallerProg RaucBundle :=
  inStep "check_bundle" "Checking bundle" 1 1 (readBundle tools ctx source)

end Signature

section Mounting

def ignoredSteps : Nat → InstallerProg Unit
  | 0 => return ()
  | n + 1 => do
    let _ ← Prog.ask
    ignoredSteps n

/-- The layers of the device mapper; those that are there are removed when one cannot be set up. -/
def setupLayers : Nat → List String → InstallerProg Unit
  | _, [] => return ()
  | n, layer :: rest => do
    match ← Prog.attempt (Prog.external id (fsError ("Failed to set up dm-" ++ layer ++ ": "))) with
    | .ok () => setupLayers (n + 1) rest
    | .error e =>
      ignoredSteps n
      Prog.fail e

def checkManifestStep (check : RaucManifest → Except GError RaucManifest)
    (manifest : RaucManifest) :
    InstallerProg RaucManifest :=
  inStep "check_manifest" "Checking manifest contents" 0 1 (ofExcept (check manifest))

/-- The device for the bundle, which only lives on while it is mounted. -/
def mountDevice (layers : List String) : InstallerProg Unit := do
  setupLayers 0 layers
  let result ← Prog.attempt (do
    if ctx.performPreCheck then Prog.external id (fsError "Check device failed: ")
    Prog.external id (fsError "failed to mount bundle: "))
  ignoredSteps layers.length
  ofExcept result

/-- What `prepare_verity` and `prepare_crypt` share. -/
def prepareDevice (layers : List String) (manifest : RaucManifest) :
    InstallerProg RaucManifest := do
  let manifest ← checkManifestStep checkManifestExternal manifest
  mountDevice ctx layers
  return manifest

def prepareVerity (manifest : RaucManifest) : InstallerProg RaucManifest :=
  prepareDevice ctx ["verity"] manifest

def prepareCrypt (manifest : RaucManifest) : InstallerProg RaucManifest :=
  prepareDevice ctx ["verity", "crypt"] manifest

def readPlainManifest (payload : List UInt8) : InstallerProg RaucManifest :=
  Prog.mapError (GError.prefixed "failed to load manifest from bundle: ") (do
    Prog.external id (fsError "Failed to open file: ")
    let data ← ofExcept (tools.manifestFile payload)
    ofOutcome (loadManifest tools data))

def loadPlainManifest (payload : List UInt8) : InstallerProg RaucManifest := do
  let manifest ← readPlainManifest tools payload
  let manifest ← checkManifestStep checkManifestInternal manifest
  if manifest.bundleFormat = .plain then return manifest
  else Prog.fail ⟨.bundlePayload, "plain bundles can only contain plain manifests"⟩

/-- The payload of a plain bundle is mounted first; only then there is a manifest. -/
def mountPlain (bundle : RaucBundle) : InstallerProg RaucManifest := do
  if ¬(bundle.payloadVerified ∨ bundle.verificationDisabled) then
    Prog.abort "bundle payload must be verified before mounting for plain bundles"
  else
    Prog.external id (fsError "failed to mount bundle: ")
    match ← Prog.attempt (loadPlainManifest tools
      (payloadOf (bundle.stream.getD []) bundle.size)) with
    | .ok manifest => return manifest
    | .error e =>
      ignoredSteps 1
      Prog.fail e

/-- `mount_bundle`, with the manifest that the mounted bundle has. -/
def mountBundle (bundle : RaucBundle) : InstallerProg RaucManifest := do
  Prog.external id (fsError "Failed creating mount point: ")
  if ¬(bundle.signatureVerified ∨ bundle.verificationDisabled) then
    Prog.abort "bundle signature must be verified before mounting"
  else
    Prog.external id (fsError "Failed to set up device for bundle: ")
    match bundle.manifest with
    | none => mountPlain tools bundle
    | some manifest =>
      match manifest.bundleFormat with
      | .plain => Prog.abort "unsupported bundle format"
      | .verity => prepareVerity ctx manifest
      | .crypt => prepareCrypt ctx manifest

/-- `umount_bundle`, whose errors are ignored by the caller. -/
def umountBundle (streaming : Bool) : InstallerProg Unit := do
  match ← Prog.ask with
  | some _ => return ()
  | none =>
    if streaming then
      match ← Prog.ask with
      | some _ => return ()
      | none => ignoredSteps 1
    else return ()

end Mounting

section Gates

variable (args : BundleInstallArgs)

def rejectedError (message : String) : GError := ⟨.installRejected, message⟩

def checkRequiredHash (bundle : RaucBundle) : Except GError Unit :=
  match args.requireManifestHash, bundle.manifest with
  | none, _ => .ok ()
  | some _, none =>
    .error (rejectedError "Refusing to install plain bundle when using require-manifest-hash")
  | some required, some manifest =>
    if manifest.hash = some required then .ok ()
    else .error (rejectedError ("Refusing to install bundle with unexpected hash (expected " ++
      required ++ ", got " ++
      manifest.hash.getD "(null)" ++ ")"))

def checkEncrypted (bundle : RaucBundle) : Except GError Unit :=
  match bundle.manifest with
  | none => .ok ()
  | some manifest =>
    if manifest.bundleFormat = .crypt ∧ ¬bundle.wasEncrypted then
      .error (rejectedError "Refusing to install unencrypted crypt bundles")
    else .ok ()

variable (manifest : RaucManifest)

def verifyCompatible : Except GError Unit :=
  if args.ignoreCompatible then .ok ()
  else if ctx.systemCompatible = manifest.updateCompatible then .ok ()
  else .error ⟨.installCompatMismatch, "Compatible mismatch: Expected '" ++
    ctx.systemCompatible.getD "(null)" ++
    "' but bundle manifest has '" ++ manifest.updateCompatible.getD "(null)" ++ "'"⟩

def checkVersionLimits : Except GError Unit :=
  match ctx.systemMinBundleVersion with
  | none => .ok ()
  | some minVersion =>
    if args.ignoreVersionLimit then .ok ()
    else
      match manifest.updateVersion with
      | none => .error ⟨.installVersionMismatch,
          "Version mismatch: Expected at least '" ++ minVersion ++
            "' but bundle manifest has no version"⟩
      | some version => do
        if ← rSemverLessEqual minVersion version then .ok ()
        else .error ⟨.installVersionMismatch,
          "Version mismatch: Expected at least '" ++ minVersion ++ "' but bundle manifest has '" ++
            version ++ "'"⟩

/-- An exit code from 10 on rejects the bundle, if the hook has written a message. -/
def bundleHookError : Failure → GError
  | .notStarted message => ⟨.spawnFailed, "failed to start bundle hook: " ++ message⟩
  | .interrupted message => ⟨.spawnFailed, "failed to run bundle hook: " ++ message⟩
  | .killed => ⟨.spawnFailed, "failed to run bundle hook: Child process killed by signal"⟩
  | .exitStatus code =>
    if 10 ≤ code then
      match tools.hookMessage with
      | some message => rejectedError ("Hook returned: '" ++ message ++ "'")
      | none =>
        ⟨.spawnExit, "Hook returned with exit code " ++ toString code ++
          ": Child process exited with code " ++
          toString code⟩
    else ⟨.spawnExit, "failed to run bundle hook: Child process exited with code " ++ toString code⟩

def runBundleHook : InstallerProg Unit :=
  match manifest.hookName with
  | none => Prog.abort "'manifest->hook_name' should not be NULL"
  | some _ => Prog.external id (bundleHookError tools)

def hookFailed (e : GError) : GError :=
  if e.code = .installRejected then e.prefixed "Bundle rejected: "
  else e.prefixed "Install-check hook failed: "

/-- A hook of the bundle replaces the comparison of the compatibles. -/
def checkInstallable : InstallerProg Unit := do
  if manifest.hookInstallCheck then
    Prog.mapError hookFailed (runBundleHook tools manifest)
    logEvent .installCheckPassed
  else ofExcept (verifyCompatible ctx args manifest)

end Gates

section Installing

variable (args : BundleInstallArgs)

def handlerError : Failure → GError
  | .notStarted message => ⟨.spawnFailed, message⟩
  | .interrupted message => ⟨.spawnFailed, message⟩
  | .killed => ⟨.spawnFailed, "Child process killed by signal"⟩
  | .exitStatus code => ⟨.spawnExit, "Child process exited with code " ++ toString code⟩

def launchAndWaitHandler : InstallerProg Unit := Prog.external id handlerError

def runSystemHandler (text : String) : Option String → InstallerProg Unit
  | none => return ()
  | some _ => Prog.mapError (GError.prefixed text) launchAndWaitHandler

/-- `g_shell_parse_argv` of arguments that may be missing. -/
def parseHandlerArgs : Option String → InstallerProg Unit
  | none => return ()
  | some _ =>
    Prog.external id (fun _ => ⟨.configShellParse, "Text ended before matching quote was found"⟩)

def launchAndWaitCustomHandler (manifest : RaucManifest) : InstallerProg Unit :=
  inStep "launch_and_wait_custom_handler" "Launching update handler" 0 6 (do
    parseHandlerArgs manifest.handlerArgs
    parseHandlerArgs ctx.handlerextra
    logEvent .customHandler
    launchAndWaitHandler)

def updateExternalMountPoints : InstallerProg Unit := do
  Prog.modify (fun st => { st with install := st.install.withMounted tools.extMountPoint })
  Prog.external id (fsError "failed to resolve loop device: ")

/-- A slot of the group is the one of the configuration; its status is looked up by its name. -/
def asConfigured (slot : RaucSlot) : RaucSlot := (ctx.config.slots.lookup slot.name).getD slot

def targetInstallGroup (slots : SlotTable) : Except String (Table String RaucSlot) := do
  let group ← determineTargetInstallGroup (perSlot ctx.toInstallContext)
    (ctx.slotNames.filterMap slots.lookup) slots
  return group.mapValues (asConfigured ctx)

def determineGroup : InstallerProg (Table String RaucSlot) :=
  inStep "determine_target_install_group" "Determining target install group" 0 1 (do
    let st ← Prog.read
    match targetInstallGroup ctx st.install.system.status.slots with
    | .ok group => return group
    | .error reason => Prog.abort reason)

def bundleDir : String := buildFilename ctx.config.mountPrefix "bundle"

def launchAndWait (manifest : RaucManifest) (group : Table String RaucSlot) : InstallerProg Unit :=
  if manifest.handlerName.isSome then launchAndWaitCustomHandler ctx manifest
  else
    launchAndWaitDefaultHandlerWithProgress ctx.toInstallContext
      { transaction := args.transaction.or (some tools.uuid) } manifest (bundleDir ctx) group

/-- What happens while the bundle is mounted. -/
def installMounted (manifest : RaucManifest) : InstallerProg Unit := do
  let group ← determineGroup ctx
  runSystemHandler "Pre-install handler error: " ctx.preinstallHandler
  checkInstallable tools ctx args manifest
  ofExcept (checkVersionLimits ctx args manifest)
  Prog.mapError (GError.prefixed "Installation error: ")
    (launchAndWait tools ctx args manifest group)
  runSystemHandler "Post-install handler error: " ctx.postinstallHandler

variable (source : BundleSource)

def checkAndMountBundle : InstallerProg RaucManifest := do
  let bundle ← checkBundle tools ctx source
  ofExcept (checkRequiredHash args bundle)
  ofExcept (checkEncrypted bundle)
  Prog.mapError (GError.prefixed "Failed mounting bundle: ") (mountBundle tools ctx bundle)

def installFromSource : InstallerProg Unit := do
  inStep "determine_slot_states" "Determining slot states" 0 1 (updateExternalMountPoints tools)
  let manifest ← checkAndMountBundle tools ctx args source
  let result ← Prog.attempt (installMounted tools ctx args manifest)
  umountBundle source.streaming
  ofExcept result

def doInstallBundle : InstallerProg Unit :=
  inStep "do_install_bundle" "Installing" 10 1 (installFromSource tools ctx args source)

end Installing

end RaucUpdate
