import RaucUpdate.Model.UpdateHandler

/-!
# Bundle manifests

`manifest.c`: a manifest is read from a key file section by section and group by group, each key
being consumed, and it is written back by a function of its own.
-/

namespace RaucUpdate

open Library

structure SlotHooks where
  preInstall : Bool := false
  install : Bool := false
  postInstall : Bool := false
  deriving DecidableEq

/-- An image as `r_new_image` creates it, with the size unset. -/
structure RaucImage where
  slotclass : Option String := none
  artifact : Option String := none
  variant : Option String := none
  checksum : RaucChecksum := { size := -1 }
  filename : Option String := none
  type : Option String := none
  typeFromFileext : Bool := false
  hooks : SlotHooks := {}
  adaptive : Option (List String) := none
  convert : Option (List String) := none
  converted : Option (List String) := none
  deriving DecidableEq

inductive BundleFormat where
  | plain | verity | crypt
  deriving DecidableEq

def rManifestBundleFormatToStr : BundleFormat → String
  | .plain => "plain"
  | .verity => "verity"
  | .crypt => "crypt"

structure RaucManifest where
  updateCompatible : Option String := none
  updateVersion : Option String := none
  updateDescription : Option String := none
  updateBuild : Option String := none
  updateMinRaucVersion : Option String := none
  bundleFormat : BundleFormat := .plain
  bundleVeritySalt : Option String := none
  bundleVerityHash : Option String := none
  bundleVeritySize : UInt64 := 0
  bundleFormatExplicit : Bool := false
  bundleCryptKey : Option String := none
  handlerName : Option String := none
  handlerArgs : Option String := none
  hookName : Option String := none
  hookInstallCheck : Bool := false
  images : List RaucImage := []
  metaTable : Table String (Table String String) := Table.empty
  hash : Option String := none
  warnings : List String := []
  deriving DecidableEq

section Images

def handleMissingType (image : RaucImage) : Except GError RaucImage :=
  if image.hooks.install then .ok image
  else
    match image.filename with
    | none =>
      .error ⟨.keyFileInvalidValue,
        "Failed to detect image type: Neither 'type' nor 'filename' given."⟩
    | some filename =>
      match deriveImageTypeFromFilenamePattern filename with
      | none => .error ⟨.keyFileInvalidValue,
          "No 'type=' set and unable to map extension of file '" ++ filename ++
            "' to known image type"⟩
      | some type => .ok { image with typeFromFileext := true, type := some type }

def validateFilenameRequirements (image : RaucImage) : Except GError Unit :=
  if image.type = some "emptyfs" then
    if image.filename.isSome then
      .error ⟨.manifestParse, "It is not supported setting 'filename' when 'type=emptyfs' is set"⟩
    else .ok ()
  else if image.filename.isNone ∧ ¬image.hooks.install then
    .error ⟨.keyFileKeyNotFound, "Missing required 'filename'"⟩
  else .ok ()

/-- The slot class, artifact and variant that a group name stands for: `image.rootfs`,
`image.rootfs.product-a`, `image.appfs/app-1` or `image.appfs/app-1.product-a`. -/
def imageTarget (group : String) : Option RaucImage :=
  match splitAtMost '.' 3 group with
  | "image" :: target :: variant =>
    let targetsplit := splitAtMost '/' 2 target
    some { slotclass := targetsplit[0]?, artifact := targetsplit[1]?, variant := variant[0]? }
  | _ => none

def consumeDigest (group : String) (image : RaucImage) : ParseProg RaucImage := do
  match ← consumeOptional group "sha256" with
  | some digest =>
    return { image with checksum := { image.checksum with type := .sha256, digest := some digest } }
  | none => return image

/-- The size as a signed number, or -1 when the key is missing. -/
def imageSize : Except KeyFileError Nat → Except GError Int64
  | .ok n => .ok (UInt64.ofNat n).toInt64
  | .error (.keyNotFound _ _) => .ok (-1)
  | .error e => .error (ofKeyFileError e)

def consumeSize (group : String) : ParseProg Int64 := do
  let keyFile ← Prog.read
  let size ← ofExcept (imageSize (keyFile.getUInt64 group "size"))
  Prog.modify (fun f => f.removeKey group "size")
  return size

def addSlotHook (hooks : SlotHooks) (name : String) : Except GError SlotHooks :=
  if name = "pre-install" then .ok { hooks with preInstall := true }
  else if name = "install" then .ok { hooks with install := true }
  else if name = "post-install" then .ok { hooks with postInstall := true }
  else .error ⟨.keyFileParse, "slot hook type '" ++ name ++ "' not supported"⟩

def consumeSlotHooks (group : String) : ParseProg SlotHooks := do
  let names ← consumeStringList group "hooks"
  ofExcept ((names.getD []).foldlM addSlotHook {})

/-- A string whose key may be missing, while every other error is reported. -/
def consumeIfPresent (group key : String) : ParseProg (Option String) := do
  match ← keyFileConsumeString group key with
  | .ok value => return some value
  | .error ⟨.keyFile (.keyNotFound _ _), _⟩ => return none
  | .error e => Prog.fail e

/-- The type as it is given, or as the file name tells. -/
def determineType (group : String) (image : RaucImage) : ParseProg RaucImage := do
  match ← consumeIfPresent group "type" with
  | some type => return { image with type := some type }
  | none => ofExcept (handleMissingType image)

/-- The option 'type' is not supported for artifacts. Install hooks may use types of their own. -/
def consumeType (group : String) (image : RaucImage) : ParseProg RaucImage := do
  if image.artifact.isSome then return image
  else
    let image ← determineType group image
    if ¬image.hooks.install ∧ ¬(image.type.any isImageTypeSupported) then
      Prog.fail ⟨.manifestInvalidImageType, "Unsupported image type '" ++
        image.type.getD "(null)" ++ "'"⟩
    else return image

def removeKeys (group : String) (keys : List String) : ParseProg Unit :=
  Prog.modify (fun f => keys.foldl (fun f key => f.removeKey group key) f)

def parseImage (group : String) : ParseProg RaucImage := do
  match imageTarget group with
  | none => Prog.abort "assertion failed: group is image.<slotclass>"
  | some image =>
    let image ← consumeDigest group image
    let size ← consumeSize group
    let hooks ← consumeSlotHooks group
    let filename ← consumeIfPresent group "filename"
    let image ← consumeType group
      { image with checksum := { image.checksum with size := size }, hooks := hooks,
                   filename := filename }
    ofExcept (validateFilenameRequirements image)
    removeKeys group ["version", "description", "build"]
    let adaptive ← consumeStringList group "adaptive"
    let convert ← consumeStringList group "convert"
    let converted ← consumeStringList group "converted"
    checkRemainingKeys group
    Prog.modify (fun f => f.removeGroup group)
    return { image with adaptive := adaptive, convert := convert, converted := converted }

end Images

section Parsing

/-- The keys of a metadata section, all with a value and usable as environment variables. -/
def parseMetaKeys (group : String) : List String → Table String String →
    ParseProg (Table String String)
  | [], kvs => return kvs
  | key :: rest, kvs => do
    let value ← consumeRequired group key
    match rPrepareEnvKey key with
    | .error e => Prog.fail (e.prefixed ("Invalid metadata key name '" ++ key ++ "': "))
    | .ok _ => parseMetaKeys group rest (kvs.set key value)

def parseMeta (group : String) (manifest : RaucManifest) : ParseProg RaucManifest := do
  match splitAtMost '.' 2 group with
  | [_, label] =>
    if '.' ∈ label.toList then
      Prog.fail ⟨.keyFileParse, "invalid metadata section name '" ++ group ++
        "' (must contain a single '.')"⟩
    else
      match rPrepareEnvKey label with
      | .error e => Prog.fail (e.prefixed ("Invalid metadata section name '" ++ label ++ "': "))
      | .ok _ =>
        let keyFile ← Prog.read
        let kvs ← parseMetaKeys group (keyFile.keysOf group) Table.empty
        Prog.modify (fun f => f.removeGroup group)
        return { manifest with metaTable := manifest.metaTable.set label kvs }
  | _ =>
    Prog.fail ⟨.keyFileParse, "invalid metadata section name '" ++ group ++
      "' (must contain a single '.')"⟩

/-- Ends a section: nothing unknown may be left in it. -/
def closeSection (group : String) : ParseProg Unit := do
  checkRemainingKeys group
  Prog.modify (fun f => f.removeGroup group)

def parseUpdateSection : ParseProg RaucManifest := do
  let compatible ← consumeRequired "update" "compatible"
  let version ← consumeOptional "update" "version"
  let description ← consumeOptional "update" "description"
  let build ← consumeOptional "update" "build"
  let minRaucVersion ← consumeOptional "update" "min-rauc-version"
  closeSection "update"
  return { updateCompatible := some compatible, updateVersion := version,
           updateDescription := description,
           updateBuild := build, updateMinRaucVersion := minRaucVersion }

def formatWarnings : List String :=
  ["WARNING: The manifest does not specify a bundle format, defaulting to 'plain'.",
    "  We recommend using the 'verity' format instead, if possible.",
    "  To silence this warning, select the 'plain' format explicitly.",
    "  See https://rauc.readthedocs.io/en/latest/reference.html#sec-ref-formats for details.'"]

/-- A size whose absence counts as zero; the key is removed afterwards. -/
def consumeUInt64 (group key : String) : ParseProg UInt64 := do
  let keyFile ← Prog.read
  let n := ((keyFile.getUInt64 group key).toOption.map UInt64.ofNat).getD 0
  Prog.modify (fun f => f.removeKey group key)
  return n

def consumeVerity (manifest : RaucManifest) : ParseProg RaucManifest := do
  let hash ← consumeOptional "bundle" "verity-hash"
  let salt ← consumeOptional "bundle" "verity-salt"
  let size ← consumeUInt64 "bundle" "verity-size"
  return { manifest with bundleVerityHash := hash, bundleVeritySalt := salt,
                         bundleVeritySize := size }

def consumeFormat (manifest : RaucManifest) : ParseProg RaucManifest := do
  match ← consumeOptional "bundle" "format" with
  | none => return { manifest with warnings := formatWarnings }
  | some format =>
    let manifest := { manifest with bundleFormatExplicit := true }
    if format = "plain" then return manifest
    else if format = "verity" then consumeVerity { manifest with bundleFormat := .verity }
    else if format = "crypt" then
      let manifest ← consumeVerity { manifest with bundleFormat := .crypt }
      let cryptKey ← consumeOptional "bundle" "crypt-key"
      return { manifest with bundleCryptKey := cryptKey }
    else Prog.fail ⟨.keyFileParse, "Invalid format value '" ++ format ++ "' in group '[bundle]'"⟩

def parseBundleSection (manifest : RaucManifest) : ParseProg RaucManifest := do
  let manifest ← consumeFormat manifest
  closeSection "bundle"
  return manifest

def parseHandlerSection (manifest : RaucManifest) : ParseProg RaucManifest := do
  let name ← consumeOptional "handler" "filename"
  let args ← consumeOptional "handler" "args"
  if args.isSome ∧ name.isNone then
    Prog.fail ⟨.keyFileParse,
      "Setting 'args' requires a full custom handler to be defined under 'filename' " ++
      "in group '[handler]'."⟩
  else
    closeSection "handler"
    return { manifest with handlerName := name, handlerArgs := args }

def addInstallHook (_installCheck : Bool) (name : String) : Except GError Bool :=
  if name = "install-check" then .ok true
  else .error ⟨.keyFileParse, "install hook type '" ++ name ++ "' not supported"⟩

def parseHooksSection (manifest : RaucManifest) : ParseProg RaucManifest := do
  let name ← consumeOptional "hooks" "filename"
  let hooks ← consumeStringList "hooks" "hooks"
  let installCheck ← ofExcept ((hooks.getD []).foldlM addInstallHook false)
  closeSection "hooks"
  return { manifest with hookName := name, hookInstallCheck := installCheck }

def parseImageGroup (group : String) (manifest : RaucManifest) : ParseProg RaucManifest := do
  let image ← Prog.mapError (GError.prefixed ("Cannot parse [" ++ group ++ "]: "))
    (parseImage group)
  return { manifest with images := manifest.images ++ [image] }

/-- The loop over the groups that are left, with the image and metadata sections among them. -/
def parseGroups : List String → RaucManifest → ParseProg RaucManifest
  | [], manifest => return manifest
  | group :: rest, manifest => do
    let manifest ← (if hasPrefix "image." group then parseImageGroup group manifest
      else pure manifest)
    let manifest ← (if hasPrefix "meta." group then parseMeta group manifest else pure manifest)
    parseGroups rest manifest

def parseManifest : ParseProg RaucManifest := do
  let manifest ← parseUpdateSection
  let manifest ← parseBundleSection manifest
  let manifest ← parseHandlerSection manifest
  let manifest ← parseHooksSection manifest
  let keyFile ← Prog.read
  let manifest ← parseGroups keyFile.groups manifest
  Prog.modify (fun f => f.removeGroup "rollout")
  checkRemainingGroups
  return manifest

/-- `load_manifest_mem` for data that holds a key file; the digest is that of the data. -/
def loadManifestMem (digest : KeyFile → String) (keyFile : KeyFile) : Outcome GError RaucManifest :=
  match Prog.observe parseManifest keyFile with
  | .value manifest => .value { manifest with hash := some (digest keyFile) }
  | .exit x => .exit x

end Parsing

section Writing

/-- The hash orders in which the metadata is visited. -/
structure MetaOrder where
  labels : Table String (Table String String) → List String
  labels_perm : ∀ t, (labels t).Perm t.keys
  keys : Table String String → List String
  keys_perm : ∀ t, (keys t).Perm t.keys

abbrev ManifestSection : Type := String × List (String × Option String)

def updateTexts (m : RaucManifest) : List (String × Option String) :=
  [("compatible", stringText m.updateCompatible), ("version", stringText m.updateVersion),
    ("description", stringText m.updateDescription), ("build", stringText m.updateBuild)]

def verityTexts (m : RaucManifest) : List (String × Option String) :=
  [("format", some (KeyFile.encodeString (rManifestBundleFormatToStr m.bundleFormat))),
    ("verity-hash", stringText m.bundleVerityHash), ("verity-salt", stringText m.bundleVeritySalt),
    ("verity-size", if m.bundleVeritySize = 0 then none
      else some (formatNat 10 m.bundleVeritySize.toNat))]

def bundleTexts (m : RaucManifest) : List (String × Option String) :=
  match m.bundleFormat with
  | .plain =>
    [("format", if m.bundleFormatExplicit then some (KeyFile.encodeString "plain") else none)]
  | .crypt => ("crypt-key", stringText m.bundleCryptKey) :: verityTexts m
  | .verity => verityTexts m

def handlerTexts (m : RaucManifest) : List (String × Option String) :=
  [("filename", stringText m.handlerName), ("args", stringText m.handlerArgs)]

def hooksTexts (m : RaucManifest) : List (String × Option String) :=
  [("filename", stringText m.hookName),
    ("hooks", if m.hookInstallCheck then some (KeyFile.escapeList ["install-check"]) else none)]

def imageGroup (image : RaucImage) : Option String :=
  image.slotclass.map (fun slotclass => "image." ++ slotclass ++
    (image.artifact.elim "" ("/" ++ ·)) ++
    (image.variant.elim "" ("." ++ ·)))

def slotHookNames (hooks : SlotHooks) : List String :=
  (if hooks.preInstall then ["pre-install"] else []) ++
    (if hooks.install then ["install"] else []) ++
    (if hooks.postInstall then ["post-install"] else [])

/-- The text of a list that is stored unless it is empty. -/
def nonEmptyListText (l : List String) : Option String :=
  if l = [] then none else some (KeyFile.escapeList l)

def imageTexts (image : RaucImage) : List (String × Option String) :=
  [("sha256", stringText (recordedDigest image.checksum)),
    ("size", if image.checksum.size ≥ 0 then some (formatNat 10 image.checksum.size.toUInt64.toNat)
      else none),
    ("filename", stringText image.filename),
    ("type", if image.typeFromFileext then none else stringText image.type),
    ("hooks", nonEmptyListText (slotHookNames image.hooks)),
    ("adaptive", image.adaptive.map KeyFile.escapeList),
    ("convert", image.convert.map KeyFile.escapeList),
    ("converted", image.converted.bind nonEmptyListText)]

/-- An image without slot class is skipped. -/
def imageSection (image : RaucImage) : Option ManifestSection :=
  (imageGroup image).map (fun group => (group, imageTexts image))

def metaTexts (order : MetaOrder) (kvs : Table String String) : List (String × Option String) :=
  (order.keys kvs).map (fun key => (key, stringText (kvs.lookup key)))

def metaSections (order : MetaOrder) (table : Table String (Table String String)) :
    List ManifestSection :=
  (order.labels table).filterMap (fun label =>
    (table.lookup label).map (fun kvs => ("meta." ++ label, metaTexts order kvs)))

/-- The sections in the order in which `prepare_manifest` sets them. -/
def manifestSections (order : MetaOrder) (m : RaucManifest) : List ManifestSection :=
  [("update", updateTexts m), ("bundle", bundleTexts m), ("handler", handlerTexts m),
    ("hooks", hooksTexts m)] ++
    m.images.filterMap imageSection ++ metaSections order m.metaTable

def prepareManifest (order : MetaOrder) (m : RaucManifest) : KeyFile :=
  KeyFile.ofSections (manifestSections order m)

/-- `save_manifest_mem`, which returns the key file as data. -/
def saveManifestMem (order : MetaOrder) (m : RaucManifest) : KeyFile := prepareManifest order m

end Writing

end RaucUpdate
