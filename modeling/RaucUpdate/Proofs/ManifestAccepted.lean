import RaucUpdate.Proofs.Consume

/-!
# What the manifest parser accepts

The facts about a parsed manifest that its consumers rely on: which strings are never empty, how
the type of an image came about, and which group an image was read from.
-/

namespace RaucUpdate

open Library

section Images

/-- What holds of an image that was read from the given group. -/
structure AcceptedImage (group : String) (image : RaucImage) : Prop where
  target : ∃ t, imageTarget group = some t ∧
    t.slotclass = image.slotclass ∧ t.artifact = image.artifact ∧ t.variant = image.variant
  digest_nonempty : image.checksum.digest ≠ some ""
  checksum_type : image.checksum.type = if image.checksum.digest.isSome then .sha256 else .md5
  filename_nonempty : image.filename ≠ some ""
  type_nonempty : image.type ≠ some ""
  artifact_type : image.artifact ≠ none → image.type = none ∧ image.typeFromFileext = false
  derived_type : image.typeFromFileext = true → image.hooks.install = false ∧
    ∃ filename, image.filename = some filename ∧ image.type =
      deriveImageTypeFromFilenamePattern filename
  supported_type : image.artifact = none → image.hooks.install = false →
    image.type.any isImageTypeSupported = true
  filename_ok : validateFilenameRequirements image = .ok ()

lemma imageTarget_fresh {group : String} {t : RaucImage} (h : imageTarget group = some t) :
    t = { slotclass := t.slotclass, artifact := t.artifact, variant := t.variant } := by
  unfold imageTarget at h
  split at h
  · obtain rfl := Option.some.inj h
    rfl
  · exact absurd h (by simp)

lemma consumeDigest_returns (group : String) (image : RaucImage)
    (hfresh : image.checksum = { size := -1 }) :
    Returns (consumeDigest group image) (fun image' => ∃ digest : Option String, digest ≠ some "" ∧
      image' = { image with checksum := ⟨if digest.isSome then .sha256 else .md5, digest,
                            -1⟩ }) := by
  apply returns_bind (consumeOptional_returns group "sha256")
  intro digest hdigest
  cases digest with
  | none =>
    apply returns_pure
    refine ⟨none, by simp, ?_⟩
    obtain ⟨⟩ := image
    simp only at hfresh
    simp [hfresh]
  | some digest =>
    apply returns_pure
    refine ⟨some digest, hdigest, ?_⟩
    simp [hfresh]

lemma consumeIfPresent_returns (group key : String) :
    Returns (consumeIfPresent group key) (· ≠ some "") := by
  apply returns_bind (keyFileConsumeString_returns group key)
  intro r hr
  split
  · rename_i value
    apply returns_pure
    intro heq
    exact hr value rfl (Option.some.inj heq)
  · apply returns_pure
    simp
  · exact returns_fail

lemma derive_ne_empty (filename : String) :
    deriveImageTypeFromFilenamePattern filename ≠ some "" := by
  have hnames : ∀ e ∈ extTypeMap, e.2 ≠ "" := by decide
  intro h
  unfold deriveImageTypeFromFilenamePattern at h
  obtain ⟨e, he, hempty⟩ := Option.map_eq_some_iff.mp h
  exact hnames e (List.mem_of_find?_eq_some he) hempty

/-- What `consumeType` does to an image without type. -/
def TypedFrom (image image' : RaucImage) : Prop :=
  ∃ type derived, image' = { image with type := type, typeFromFileext := derived } ∧
    type ≠ some "" ∧
    (image.artifact ≠ none → type = none ∧ derived = false) ∧
    (derived = true → image.hooks.install = false ∧
      ∃ filename, image.filename = some filename ∧
        type = deriveImageTypeFromFilenamePattern filename) ∧
    (image.artifact = none → image.hooks.install = false → type.any isImageTypeSupported = true)

lemma handleMissingType_ok {image image' : RaucImage} (hnone : image.type = none)
    (hflag : image.typeFromFileext = false)
    (h : handleMissingType image = .ok image') :
    ∃ type derived, image' = { image with type := type, typeFromFileext := derived } ∧
      type ≠ some "" ∧
      (derived = true → image.hooks.install = false ∧
        ∃ filename, image.filename = some filename ∧
          type = deriveImageTypeFromFilenamePattern filename) := by
  unfold handleMissingType at h
  by_cases hinstall : image.hooks.install = true
  · rw [if_pos hinstall] at h
    obtain rfl := Except.ok.inj h
    refine ⟨none, false, ?_, by simp, by simp⟩
    rw [← hnone, ← hflag]
  · rw [if_neg hinstall] at h
    cases hfile : image.filename with
    | none => simp [hfile] at h
    | some filename =>
      cases hderive : deriveImageTypeFromFilenamePattern filename with
      | none => simp [hfile, hderive] at h
      | some type =>
        simp only [hfile, hderive, Except.ok.injEq] at h
        refine ⟨some type, true, ?_, ?_, fun _ => ⟨Bool.eq_false_iff.mpr hinstall, filename, rfl,
          hderive.symm⟩⟩
        · exact h.symm
        · rw [← hderive]
          exact derive_ne_empty filename

lemma determineType_returns (group : String) (image : RaucImage) (hnone : image.type = none)
    (hflag : image.typeFromFileext = false) :
    Returns (determineType group image)
      (fun image' => ∃ type derived, image' =
        { image with type := type, typeFromFileext := derived } ∧
        type ≠ some "" ∧ (derived = true → image.hooks.install = false ∧
          ∃ filename, image.filename = some filename ∧
            type = deriveImageTypeFromFilenamePattern filename)) := by
  apply returns_bind (consumeIfPresent_returns group "type")
  intro type htype
  cases type with
  | some type =>
    apply returns_pure
    refine ⟨some type, false, ?_, htype, by simp⟩
    rw [← hflag]
  | none =>
    apply returns_consequence (returns_ofExcept _)
    intro image' h
    exact handleMissingType_ok hnone hflag h

lemma consumeType_returns (group : String) (image : RaucImage) (hnone : image.type = none)
    (hflag : image.typeFromFileext = false) :
      Returns (consumeType group image) (TypedFrom image) := by
  unfold consumeType
  by_cases hartifact : image.artifact.isSome = true
  · rw [if_pos hartifact]
    apply returns_pure
    refine ⟨none, false, ?_, by simp, by simp, by simp, ?_⟩
    · rw [← hnone, ← hflag]
    · intro hno
      rw [hno] at hartifact
      exact absurd hartifact (by simp)
  · rw [if_neg hartifact]
    have hno : image.artifact = none := by simpa using hartifact
    apply returns_bind (determineType_returns group image hnone hflag)
    rintro _ ⟨type, derived, rfl, hempty, hderived⟩
    simp only
    split_ifs with hsupported
    · exact returns_fail
    · apply returns_pure
      refine ⟨type, derived, rfl, hempty, fun hsome => absurd hno hsome, hderived, ?_⟩
      intro _ hinstall
      by_contra hnot
      exact hsupported ⟨by simp [hinstall], hnot⟩

lemma parseImage_returns (group : String) : Returns (parseImage group) (AcceptedImage group) := by
  unfold parseImage
  cases htarget : imageTarget group with
  | none => exact Prog.triple_exit (fun _ _ => trivial)
  | some t =>
    have hfresh := imageTarget_fresh htarget
    apply returns_bind (consumeDigest_returns group t (by rw [hfresh]))
    rintro _ ⟨digest, hdigest, rfl⟩
    apply returns_bind (returns_any _)
    intro size _
    apply returns_bind (returns_any _)
    intro hooks _
    apply returns_bind (consumeIfPresent_returns group "filename")
    intro filename hfilename
    apply returns_bind (consumeType_returns group _ (by rw [hfresh]) (by rw [hfresh]))
    rintro _ ⟨type, derived, rfl, htype, hartifact, hderived, hsupported⟩
    apply returns_bind (returns_ofExcept _)
    intro _ hvalid
    apply returns_bind (returns_any _)
    intro _ _
    apply returns_bind (returns_any _)
    intro adaptive _
    apply returns_bind (returns_any _)
    intro convert _
    apply returns_bind (returns_any _)
    intro converted _
    apply returns_bind (returns_any _)
    intro _ _
    apply returns_bind (returns_any _)
    intro _ _
    apply returns_pure
    exact ⟨⟨t, htarget, rfl, rfl, rfl⟩, hdigest, rfl, hfilename, htype, hartifact, hderived,
      hsupported, hvalid⟩

end Images

section Manifest

def EnvKey (key : String) : Prop := ∃ name, rPrepareEnvKey key = .ok name

def AcceptedMeta (table : Table String (Table String String)) : Prop :=
  ∀ label kvs, table.lookup label = some kvs → '.' ∉ label.toList ∧ EnvKey label ∧
    ∀ key value, kvs.lookup key = some value → value ≠ "" ∧ EnvKey key

/-- How the fields of the `[bundle]` section hang together. -/
def AcceptedFormat (m : RaucManifest) : Prop :=
  match m.bundleFormat with
  | .plain =>
    m.warnings = (if m.bundleFormatExplicit then [] else formatWarnings) ∧
      m.bundleVerityHash = none ∧
      m.bundleVeritySalt = none ∧ m.bundleVeritySize = 0 ∧ m.bundleCryptKey = none
  | .verity => m.bundleFormatExplicit = true ∧ m.warnings = [] ∧ m.bundleCryptKey = none
  | .crypt => m.bundleFormatExplicit = true ∧ m.warnings = []

def manifestStrings (m : RaucManifest) : List (Option String) :=
  [m.updateCompatible, m.updateVersion, m.updateDescription, m.updateBuild, m.updateMinRaucVersion,
    m.bundleVerityHash, m.bundleVeritySalt, m.bundleCryptKey, m.handlerName,
      m.handlerArgs, m.hookName]

/-- What holds of every manifest that was parsed. The images belong to different groups. -/
structure AcceptedManifest (m : RaucManifest) : Prop where
  compatible : m.updateCompatible ≠ none
  strings : ∀ o ∈ manifestStrings m, o ≠ some ""
  format : AcceptedFormat m
  handler : m.handlerArgs ≠ none → m.handlerName ≠ none
  images : ∃ groups : List String, groups.Nodup ∧
    (∀ group ∈ groups, hasPrefix "image." group = true) ∧
    List.Forall₂ AcceptedImage groups m.images
  metaTable : AcceptedMeta m.metaTable
  hash : m.hash = none

lemma consumeRequired_returns (group key : String) :
    Returns (consumeRequired group key) (· ≠ "") := by
  apply returns_bind (keyFileConsumeString_returns group key)
  intro r hr
  cases r with
  | error e => exact returns_fail
  | ok value => exact returns_pure (hr value rfl)

/-- The manifest after its `[update]` section. -/
def updateManifest (compatible : String)
    (version description build minRaucVersion : Option String) : RaucManifest where
  updateCompatible := some compatible
  updateVersion := version
  updateDescription := description
  updateBuild := build
  updateMinRaucVersion := minRaucVersion

lemma parseUpdateSection_returns :
    Returns parseUpdateSection (fun m => ∃ c v d b r, m = updateManifest c v d b r ∧
      c ≠ "" ∧ v ≠ some "" ∧ d ≠ some "" ∧ b ≠ some "" ∧ r ≠ some "") := by
  apply returns_bind (consumeRequired_returns "update" "compatible")
  intro c hc
  apply returns_bind (consumeOptional_returns "update" "version")
  intro v hv
  apply returns_bind (consumeOptional_returns "update" "description")
  intro d hd
  apply returns_bind (consumeOptional_returns "update" "build")
  intro b hb
  apply returns_bind (consumeOptional_returns "update" "min-rauc-version")
  intro r hr
  apply returns_bind (returns_any _)
  intro _ _
  apply returns_pure
  exact ⟨c, v, d, b, r, rfl, hc, hv, hd, hb, hr⟩

/-- What the `[bundle]` section adds to a manifest without format. -/
def FormattedFrom (m m' : RaucManifest) : Prop :=
  ∃ format explicit hash salt size key warnings,
    m' = { m with
      bundleFormat := format, bundleFormatExplicit := explicit, bundleVerityHash :=
        hash, bundleVeritySalt := salt,
      bundleVeritySize := size, bundleCryptKey := key, warnings := warnings } ∧
    AcceptedFormat m' ∧ hash ≠ some "" ∧ salt ≠ some "" ∧ key ≠ some ""

lemma consumeVerity_returns (m : RaucManifest) :
    Returns (consumeVerity m) (fun m' => ∃ hash salt size,
      m' = { m with bundleVerityHash := hash, bundleVeritySalt := salt, bundleVeritySize := size } ∧
        hash ≠ some "" ∧ salt ≠ some "") := by
  apply returns_bind (consumeOptional_returns "bundle" "verity-hash")
  intro hash hhash
  apply returns_bind (consumeOptional_returns "bundle" "verity-salt")
  intro salt hsalt
  apply returns_bind (returns_any _)
  intro size _
  apply returns_pure
  exact ⟨hash, salt, size, rfl, hhash, hsalt⟩

lemma parseBundleSection_returns (c : String) (v d b r : Option String) :
    Returns (parseBundleSection (updateManifest c v d b r))
      (FormattedFrom (updateManifest c v d b r)) := by
  have hformat : Returns (consumeFormat (updateManifest c v d b r))
      (FormattedFrom (updateManifest c v d b r)) := by
    apply returns_bind (consumeOptional_returns "bundle" "format")
    intro format hformat
    cases format with
    | none =>
      apply returns_pure
      exact ⟨.plain, false, none, none, 0, none, formatWarnings,
        rfl, by simp [AcceptedFormat, updateManifest], by simp, by simp, by simp⟩
    | some format =>
      simp only
      split_ifs
      · apply returns_pure
        exact ⟨.plain, true, none, none, 0, none, [],
          rfl, by simp [AcceptedFormat, updateManifest], by simp, by simp, by simp⟩
      · apply returns_consequence (consumeVerity_returns _)
        rintro _ ⟨hash, salt, size, rfl, hhash, hsalt⟩
        exact ⟨.verity, true, hash, salt, size, none, [],
          rfl, by simp [AcceptedFormat, updateManifest], hhash, hsalt, by simp⟩
      · apply returns_bind (consumeVerity_returns _)
        rintro _ ⟨hash, salt, size, rfl, hhash, hsalt⟩
        apply returns_bind (consumeOptional_returns "bundle" "crypt-key")
        intro key hkey
        apply returns_pure
        exact ⟨.crypt, true, hash, salt, size, key, [],
          rfl, by simp [AcceptedFormat, updateManifest], hhash, hsalt, hkey⟩
      · exact returns_fail
  apply returns_bind hformat
  intro m hm
  apply returns_bind (returns_any _)
  intro _ _
  exact returns_pure hm

lemma parseHandlerSection_returns (m : RaucManifest) :
    Returns (parseHandlerSection m) (fun m' => ∃ name args, m' =
      { m with handlerName := name, handlerArgs := args } ∧
      name ≠ some "" ∧ args ≠ some "" ∧ (args ≠ none → name ≠ none)) := by
  apply returns_bind (consumeOptional_returns "handler" "filename")
  intro name hname
  apply returns_bind (consumeOptional_returns "handler" "args")
  intro args hargs
  split_ifs with hboth
  · exact returns_fail
  · apply returns_bind (returns_any _)
    intro _ _
    apply returns_pure
    refine ⟨name, args, rfl, hname, hargs, ?_⟩
    intro hsome hnone
    exact hboth ⟨Option.isSome_iff_ne_none.mpr hsome, Option.isNone_iff_eq_none.mpr hnone⟩

lemma parseHooksSection_returns (m : RaucManifest) :
    Returns (parseHooksSection m) (fun m' => ∃ name check, m' =
      { m with hookName := name, hookInstallCheck := check } ∧
      name ≠ some "") := by
  apply returns_bind (consumeOptional_returns "hooks" "filename")
  intro name hname
  apply returns_bind (returns_any _)
  intro hooks _
  apply returns_bind (returns_any _)
  intro check _
  apply returns_bind (returns_any _)
  intro _ _
  apply returns_pure
  exact ⟨name, check, rfl, hname⟩

lemma parseMetaKeys_returns (group : String) (keys : List String) (kvs : Table String String)
    (hkvs : ∀ key value, kvs.lookup key = some value → value ≠ "" ∧ EnvKey key) :
    Returns (parseMetaKeys group keys kvs)
      (fun kvs => ∀ key value, kvs.lookup key = some value → value ≠ "" ∧ EnvKey key) := by
  induction keys generalizing kvs with
  | nil => exact returns_pure hkvs
  | cons key rest ih =>
    apply returns_bind (consumeRequired_returns group key)
    intro value hvalue
    cases henv : rPrepareEnvKey key with
    | error e => exact returns_fail
    | ok name =>
      apply ih
      intro key' value' hlookup
      rw [Table.lookup_set] at hlookup
      split_ifs at hlookup with hkey
      · obtain rfl := Option.some.inj hlookup
        exact ⟨hvalue, hkey ▸ ⟨name, henv⟩⟩
      · exact hkvs key' value' hlookup

lemma parseMeta_returns (group : String) (m : RaucManifest) (hm : AcceptedMeta m.metaTable) :
    Returns (parseMeta group m) (fun m' => ∃ table, m' = { m with metaTable := table } ∧
      AcceptedMeta table) := by
  unfold parseMeta
  split
  · rename_i label _
    split_ifs with hdot
    · exact returns_fail
    · cases henv : rPrepareEnvKey label with
      | error e => exact returns_fail
      | ok name =>
        apply returns_bind (returns_any _)
        intro keyFile _
        apply returns_bind (parseMetaKeys_returns group _ Table.empty (by simp))
        intro kvs hkvs
        apply returns_bind (returns_any _)
        intro _ _
        apply returns_pure
        refine ⟨_, rfl, ?_⟩
        intro label' kvs' hlookup
        rw [Table.lookup_set] at hlookup
        split_ifs at hlookup with hlabel
        · obtain rfl := Option.some.inj hlookup
          subst hlabel
          exact ⟨hdot, ⟨name, henv⟩, hkvs⟩
        · exact hm label' kvs' hlookup
  · exact returns_fail

/-- The groups that were read so far stand in the same order as their images. -/
lemma parseGroups_returns (groups done : List String) (m : RaucManifest)
    (hnodup : (done ++ groups).Nodup)
    (hpre : ∀ group ∈ done, hasPrefix "image." group = true)
    (himages : List.Forall₂ AcceptedImage done m.images)
    (hmeta : AcceptedMeta m.metaTable) :
    Returns (parseGroups groups m) (fun m' => ∃ images table done',
      m' = { m with images := images, metaTable := table } ∧ done'.Nodup ∧
      (∀ group ∈ done', hasPrefix "image." group = true) ∧ List.Forall₂ AcceptedImage done' images ∧
      AcceptedMeta table) := by
  induction groups generalizing done m with
  | nil =>
    apply returns_pure
    exact ⟨m.images, m.metaTable, done, rfl, by simpa using hnodup, hpre, himages, hmeta⟩
  | cons group rest ih =>
    have hmid : Returns (if hasPrefix "image." group then parseImageGroup group m else pure m)
        (fun m' => ∃ images done', m' = { m with images := images } ∧ (done' ++ rest).Nodup ∧
          (∀ group ∈ done', hasPrefix "image." group = true) ∧
            List.Forall₂ AcceptedImage done' images) := by
      split_ifs with hgroup
      · apply returns_bind (returns_mapError (parseImage_returns group))
        intro image himage
        apply returns_pure
        refine ⟨_, done ++ [group],
          rfl, by simpa using hnodup, ?_, List.rel_append himages (by simpa using himage)⟩
        intro g hg
        rcases List.mem_append.mp hg with hg | hg
        · exact hpre g hg
        · rw [List.mem_singleton.mp hg]
          exact hgroup
      · apply returns_pure
        exact ⟨_, done, rfl, hnodup.sublist (by simp), hpre, himages⟩
    apply returns_bind hmid
    rintro _ ⟨images, done', rfl, hnodup', hpre', himages'⟩
    have hlast :
          Returns (if hasPrefix "meta." group then parseMeta group { m with images := images }
          else pure { m with images := images })
        (fun m' => ∃ table, m' = { m with images := images, metaTable := table } ∧
          AcceptedMeta table) := by
      split_ifs
      · exact parseMeta_returns group { m with images := images } hmeta
      · exact returns_pure ⟨_, rfl, hmeta⟩
    apply returns_bind hlast
    rintro _ ⟨table, rfl, htable⟩
    exact ih done' { m with images := images, metaTable := table } hnodup' hpre' himages' htable

lemma parseManifest_returns : Returns parseManifest AcceptedManifest := by
  apply returns_bind parseUpdateSection_returns
  rintro _ ⟨c, v, d, b, r, rfl, hc, hv, hd, hb, hr⟩
  apply returns_bind (parseBundleSection_returns c v d b r)
  rintro _ ⟨format, explicit, hash, salt, size, key, warnings, rfl, hformat, hhash, hsalt, hkey⟩
  apply returns_bind (parseHandlerSection_returns _)
  rintro _ ⟨name, args, rfl, hname, hargs, hhandler⟩
  apply returns_bind (parseHooksSection_returns _)
  rintro _ ⟨hook, check, rfl, hhook⟩
  apply returns_bind (returns_any _)
  intro keyFile _
  apply returns_bind (parseGroups_returns keyFile.groups [] _ keyFile.nodup (by simp) .nil
    (by simp [AcceptedMeta, updateManifest]))
  rintro _ ⟨images, table, groups, rfl, hnodup, hpre, himages, htable⟩
  apply returns_bind (returns_any _)
  intro _ _
  apply returns_bind (returns_any _)
  intro _ _
  apply returns_pure
  refine ⟨by simp [updateManifest], ?_, hformat, hhandler, ⟨groups, hnodup, hpre, himages⟩,
    htable, rfl⟩
  simp [manifestStrings, updateManifest, hc, hv, hd, hb, hr, hhash, hsalt, hkey, hname,
    hargs, hhook]

lemma loadManifestMem_accepted {digest : KeyFile → String} {keyFile : KeyFile} {m : RaucManifest}
    (hload : loadManifestMem digest keyFile = .value m) :
      AcceptedManifest { m with hash := none } := by
  unfold loadManifestMem at hload
  cases hparse : Prog.observe parseManifest keyFile with
  | exit x => simp [hparse] at hload
  | value parsed =>
    have hparsed : AcceptedManifest parsed :=
      parseManifest_returns.value (w := Prog.calm keyFile) trivial hparse
    simp only [hparse, Outcome.value.injEq] at hload
    have heq : { m with hash := none } = parsed := by
      rw [← hload, ← hparsed.hash]
    rw [heq]
    exact hparsed

end Manifest

end RaucUpdate
