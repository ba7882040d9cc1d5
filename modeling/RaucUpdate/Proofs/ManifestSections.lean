import RaucUpdate.Proofs.ManifestAccepted

/-!
# Reading the sections of a saved manifest

A saved key file is taken apart section by section, in the order in which it was written. For each
section, its reader gives back what its writer was given, less what is not written.
-/

namespace RaucUpdate

open Library

section Sections

/-- The state in which exactly these sections are left to be read. -/
structure SectionsLeft (sections : List ManifestSection) (s : KeyFile) : Prop where
  nodup : (sections.map Prod.fst).Nodup
  groups : s.groups = (sections.filter (fun sec => sec.2.any (·.2.isSome))).map Prod.fst
  texts : ∀ sec ∈ sections, ∀ key, s.text sec.1 key = (Table.find key sec.2).join

variable {group : String} {texts : List (String × Option String)} {rest : List ManifestSection}

lemma SectionsLeft.mem_groups {s : KeyFile} (h : SectionsLeft ((group, texts) :: rest) s)
    (hany : texts.any (·.2.isSome) = true) : group ∈ s.groups := by
  rw [h.groups]
  simp [hany]

lemma SectionsLeft.removeGroup {s : KeyFile} (h : SectionsLeft ((group, texts) :: rest) s) :
    SectionsLeft rest (s.removeGroup group) := by
  obtain ⟨hnodup, hgroups, htexts⟩ := h
  simp only [List.map_cons, List.nodup_cons] at hnodup
  have hkeep : ((rest.filter (fun sec => sec.2.any (·.2.isSome))).map Prod.fst).filter (· ≠ group) =
      (rest.filter (fun sec => sec.2.any (·.2.isSome))).map Prod.fst := by
    rw [List.filter_eq_self]
    intro g hg
    have hmem := (List.filter_sublist.map Prod.fst).subset hg
    apply decide_eq_true
    rintro rfl
    exact hnodup.1 hmem
  refine ⟨hnodup.2, ?_, ?_⟩
  · rw [KeyFile.groups_removeGroup, hgroups, List.filter_cons]
    split_ifs
    · rw [List.map_cons, List.filter_cons, if_neg (by simp), hkeep]
    · exact hkeep
  · intro sec hsec key
    have hne : group ≠ sec.1 := by
      rintro rfl
      exact hnodup.1 (List.mem_map_of_mem hsec)
    rw [KeyFile.text_removeGroup, if_neg hne, htexts sec (by simp [hsec]) key]

/-- A reader that consumes its own group works on the first of the sections that are left. -/
lemma yields_section {α : Type} {p : ParseProg α} {a : α}
    (h : ∀ f : KeyFile, (texts.any (·.2.isSome) = true → group ∈ f.groups) →
      Prog.Yields (Consuming f group texts []) p a
        (fun s => s = f.removeGroup group)) :
    Prog.Yields (SectionsLeft ((group, texts) :: rest)) p a (SectionsLeft rest) := by
  intro w hw
  have hconsuming : Consuming w.state group texts [] w.state := by
    refine ⟨rfl, rfl, ?_⟩
    intro key
    rw [hw.texts (group, texts) (by simp) key, leftover_of_notMem texts List.not_mem_nil]
  obtain ⟨hvalue, hstate⟩ := h w.state hw.mem_groups w hconsuming
  refine ⟨hvalue, ?_⟩
  rw [hstate]
  exact hw.removeGroup

end Sections

section HeaderSections

variable {rest : List ManifestSection} (m : RaucManifest)

lemma yields_parseUpdateSection (compatible : String)
    (hcompatible : m.updateCompatible = some compatible)
    (hstrings : ∀ o ∈ manifestStrings m, o ≠ some "") :
    Prog.Yields (SectionsLeft (("update", updateTexts m) :: rest)) parseUpdateSection
      (updateManifest compatible m.updateVersion m.updateDescription m.updateBuild none)
        (SectionsLeft rest) := by
  simp only [manifestStrings, List.forall_mem_cons] at hstrings
  obtain ⟨hc, hv, hd, hb, -⟩ := hstrings
  have hcompatible : found (updateTexts m) "compatible" = some compatible :=
    (readString_stringText hc).trans hcompatible
  have hversion : found (updateTexts m) "version" = m.updateVersion := readString_stringText hv
  have hdescription : found (updateTexts m) "description" = m.updateDescription :=
    readString_stringText hd
  have hbuild : found (updateTexts m) "build" = m.updateBuild := readString_stringText hb
  apply yields_section
  intro f _
  apply Prog.yields_bind (yields_consumeRequired (by decide) hcompatible)
  apply Prog.yields_bind (yields_consumeOptional (by decide) hversion)
  apply Prog.yields_bind (yields_consumeOptional (by decide) hdescription)
  apply Prog.yields_bind (yields_consumeOptional (by decide) hbuild)
  apply Prog.yields_bind (yields_consumeOptional (by decide) rfl)
  apply Prog.yields_bind (yields_closeSection (by simp [updateTexts]))
  exact Prog.yields_pure (fun _ hs => hs)

/-- The manifest with the values of the `[bundle]` section of another one. -/
def withBundle (base : RaucManifest) : RaucManifest :=
  { base with
    bundleFormat := m.bundleFormat, bundleFormatExplicit := m.bundleFormatExplicit,
    bundleVerityHash := m.bundleVerityHash, bundleVeritySalt := m.bundleVeritySalt,
    bundleVeritySize := m.bundleVeritySize, bundleCryptKey := m.bundleCryptKey, warnings :=
      m.warnings }

variable {m}

lemma yields_consumeVerity {f : KeyFile} {texts : List (String × Option String)}
    (hhash : found texts "verity-hash" = m.bundleVerityHash)
    (hsalt : found texts "verity-salt" = m.bundleVeritySalt)
    (hsize : (Table.find "verity-size" texts).join =
      if m.bundleVeritySize = 0 then none else some (formatNat 10 m.bundleVeritySize.toNat))
        (base : RaucManifest) :
    Prog.Yields (Consuming f "bundle" texts ["format"]) (consumeVerity base)
      { base with
        bundleVerityHash := m.bundleVerityHash, bundleVeritySalt := m.bundleVeritySalt,
        bundleVeritySize := m.bundleVeritySize }
      (Consuming f "bundle" texts ["verity-size", "verity-salt", "verity-hash", "format"]) := by
  apply Prog.yields_bind (yields_consumeOptional (by decide) hhash)
  apply Prog.yields_bind (yields_consumeOptional (by decide) hsalt)
  apply Prog.yields_bind (yields_consumeUInt64 (by decide) m.bundleVeritySize hsize)
  exact Prog.yields_pure (fun _ hs => hs)

/-- The format is read back, and all keys of the section are taken. -/
def FormatRead (m : RaucManifest) (f : KeyFile) (base : RaucManifest) : Prop :=
  ∃ taken, Prog.Yields (Consuming f "bundle" (bundleTexts m) []) (consumeFormat base)
      (withBundle m base)
      (Consuming f "bundle" (bundleTexts m) taken) ∧ ∀ e ∈ bundleTexts m, e.1 ∈ taken

variable (f : KeyFile) (c : String) (v d b r : Option String)

lemma formatRead_plain (hplain : m.bundleFormat = .plain) (hformat : AcceptedFormat m) :
    FormatRead m f (updateManifest c v d b r) := by
  have htexts : bundleTexts m =
      [("format", if m.bundleFormatExplicit then some (KeyFile.encodeString "plain")
        else none)] := by
    unfold bundleTexts
    rw [hplain]
  unfold AcceptedFormat at hformat
  rw [hplain] at hformat
  obtain ⟨hwarnings, hhash, hsalt, hsize, hkey⟩ := hformat
  unfold FormatRead
  refine ⟨["format"], ?_, by simp [htexts]⟩
  rw [htexts]
  cases hexplicit : m.bundleFormatExplicit with
  | false =>
    have hvalue : withBundle m (updateManifest c v d b r) =
        { updateManifest c v d b r with warnings := formatWarnings } := by
      simp [withBundle, updateManifest, hplain, hhash, hsalt, hsize, hkey, hexplicit, hwarnings]
    rw [hvalue]
    apply Prog.yields_bind (yields_consumeOptional (by decide) rfl)
    exact Prog.yields_pure (fun _ hs => hs)
  | true =>
    have hvalue : withBundle m (updateManifest c v d b r) =
        { updateManifest c v d b r with bundleFormatExplicit := true } := by
      simp [withBundle, updateManifest, hplain, hhash, hsalt, hsize, hkey, hexplicit, hwarnings]
    have hfound : found [("format", if true then some (KeyFile.encodeString "plain") else none)]
        "format" =
        some "plain" := by
      simp [found, Table.find, readString]
    rw [hvalue]
    apply Prog.yields_bind (yields_consumeOptional (by decide) hfound)
    simp only [if_true]
    exact Prog.yields_pure (fun _ hs => hs)

lemma formatRead_verity (hverity : m.bundleFormat = .verity) (hformat : AcceptedFormat m)
    (hhash : m.bundleVerityHash ≠ some "") (hsalt : m.bundleVeritySalt ≠ some "") :
    FormatRead m f (updateManifest c v d b r) := by
  have htexts : bundleTexts m = verityTexts m := by
    unfold bundleTexts
    rw [hverity]
  unfold AcceptedFormat at hformat
  rw [hverity] at hformat
  obtain ⟨hexplicit, hwarnings, hkey⟩ := hformat
  have hname : found (verityTexts m) "format" = some "verity" := by
    simp [found, verityTexts, Table.find, readString, hverity, rManifestBundleFormatToStr]
  have hvalue : withBundle m (updateManifest c v d b r) =
      { updateManifest c v d b r with
        bundleFormatExplicit := true, bundleFormat := .verity, bundleVerityHash :=
          m.bundleVerityHash,
        bundleVeritySalt := m.bundleVeritySalt, bundleVeritySize := m.bundleVeritySize } := by
    simp [withBundle, updateManifest, hverity, hkey, hexplicit, hwarnings]
  have hfoundHash : found (verityTexts m) "verity-hash" = m.bundleVerityHash :=
    readString_stringText hhash
  have hfoundSalt : found (verityTexts m) "verity-salt" = m.bundleVeritySalt :=
    readString_stringText hsalt
  have hread := yields_consumeVerity (f := f) hfoundHash hfoundSalt rfl
  unfold FormatRead
  refine ⟨["verity-size", "verity-salt", "verity-hash", "format"],
    ?_, by simp [htexts, verityTexts]⟩
  rw [htexts, hvalue]
  apply Prog.yields_bind (yields_consumeOptional (by decide) hname)
  simp only [String.reduceEq, if_false, if_true]
  exact hread _

lemma formatRead_crypt (hcrypt : m.bundleFormat = .crypt) (hformat : AcceptedFormat m)
    (hhash : m.bundleVerityHash ≠ some "") (hsalt : m.bundleVeritySalt ≠ some "")
    (hkey : m.bundleCryptKey ≠ some "") :
    FormatRead m f (updateManifest c v d b r) := by
  have htexts : bundleTexts m = ("crypt-key", stringText m.bundleCryptKey) :: verityTexts m := by
    unfold bundleTexts
    rw [hcrypt]
  unfold AcceptedFormat at hformat
  rw [hcrypt] at hformat
  obtain ⟨hexplicit, hwarnings⟩ := hformat
  have hname : found (("crypt-key", stringText m.bundleCryptKey) :: verityTexts m) "format" =
      some "crypt" := by
    simp [found, verityTexts, Table.find, readString, hcrypt, rManifestBundleFormatToStr]
  have hfound : found (("crypt-key", stringText m.bundleCryptKey) :: verityTexts m) "crypt-key" =
      m.bundleCryptKey :=
    readString_stringText hkey
  have hvalue : withBundle m (updateManifest c v d b r) =
      { updateManifest c v d b r with
        bundleFormatExplicit := true, bundleFormat := .crypt, bundleVerityHash :=
          m.bundleVerityHash,
        bundleVeritySalt := m.bundleVeritySalt, bundleVeritySize := m.bundleVeritySize,
        bundleCryptKey := m.bundleCryptKey } := by
    simp [withBundle, updateManifest, hcrypt, hexplicit, hwarnings]
  have hfoundHash : found (("crypt-key", stringText m.bundleCryptKey) :: verityTexts m)
      "verity-hash" =
      m.bundleVerityHash := readString_stringText hhash
  have hfoundSalt : found (("crypt-key", stringText m.bundleCryptKey) :: verityTexts m)
      "verity-salt" =
      m.bundleVeritySalt := readString_stringText hsalt
  have hread := yields_consumeVerity (f := f) hfoundHash hfoundSalt rfl
  unfold FormatRead
  refine ⟨["crypt-key", "verity-size", "verity-salt", "verity-hash", "format"],
    ?_, by simp [htexts, verityTexts]⟩
  rw [htexts, hvalue]
  apply Prog.yields_bind (yields_consumeOptional (by decide) hname)
  simp only [String.reduceEq, if_false, if_true]
  apply Prog.yields_bind (hread _)
  apply Prog.yields_bind (yields_consumeOptional (by decide) hfound)
  exact Prog.yields_pure (fun _ hs => hs)

lemma yields_parseBundleSection (hformat : AcceptedFormat m)
    (hstrings : ∀ o ∈ manifestStrings m, o ≠ some "") :
    Prog.Yields (SectionsLeft (("bundle", bundleTexts m) :: rest))
      (parseBundleSection (updateManifest c v d b r))
      (withBundle m (updateManifest c v d b r)) (SectionsLeft rest) := by
  simp only [manifestStrings, List.forall_mem_cons] at hstrings
  obtain ⟨-, -, -, -, -, hhash, hsalt, hkey, -⟩ := hstrings
  apply yields_section
  intro f _
  have hread : FormatRead m f (updateManifest c v d b r) := by
    cases hfmt : m.bundleFormat with
    | plain => exact formatRead_plain f c v d b r hfmt hformat
    | verity => exact formatRead_verity f c v d b r hfmt hformat hhash hsalt
    | crypt => exact formatRead_crypt f c v d b r hfmt hformat hhash hsalt hkey
  obtain ⟨taken, hconsume, hall⟩ := hread
  apply Prog.yields_bind hconsume
  apply Prog.yields_bind (yields_closeSection hall)
  exact Prog.yields_pure (fun _ hs => hs)

lemma yields_parseHandlerSection (base : RaucManifest)
    (hhandler : m.handlerArgs ≠ none → m.handlerName ≠ none)
    (hname : m.handlerName ≠ some "") (hargs : m.handlerArgs ≠ some "") :
    Prog.Yields (SectionsLeft (("handler", handlerTexts m) :: rest)) (parseHandlerSection base)
      { base with handlerName := m.handlerName, handlerArgs := m.handlerArgs }
        (SectionsLeft rest) := by
  have hboth : ¬(m.handlerArgs.isSome = true ∧ m.handlerName.isNone = true) := by
    rintro ⟨hsome, hnone⟩
    exact hhandler (Option.isSome_iff_ne_none.mp hsome) (Option.isNone_iff_eq_none.mp hnone)
  have hfoundName : found (handlerTexts m) "filename" = m.handlerName := readString_stringText hname
  have hfoundArgs : found (handlerTexts m) "args" = m.handlerArgs := readString_stringText hargs
  apply yields_section
  intro f _
  apply Prog.yields_bind (yields_consumeOptional (by decide) hfoundName)
  apply Prog.yields_bind (yields_consumeOptional (by decide) hfoundArgs)
  rw [if_neg hboth]
  apply Prog.yields_bind (yields_closeSection (by simp [handlerTexts]))
  exact Prog.yields_pure (fun _ hs => hs)

lemma yields_parseHooksSection (base : RaucManifest) (hname : m.hookName ≠ some "") :
    Prog.Yields (SectionsLeft (("hooks", hooksTexts m) :: rest)) (parseHooksSection base)
      { base with hookName := m.hookName, hookInstallCheck := m.hookInstallCheck }
        (SectionsLeft rest) := by
  have hlist : (Table.find "hooks" (hooksTexts m)).join.bind KeyFile.decodeList =
      if m.hookInstallCheck then some ["install-check"] else none := by
    have hfind : (Table.find "hooks" (hooksTexts m)).join =
        if m.hookInstallCheck then some (KeyFile.escapeList ["install-check"]) else none := rfl
    rw [hfind]
    split_ifs <;> simp
  have hcheck : ((if m.hookInstallCheck then some ["install-check"] else none).getD []).foldlM
      addInstallHook false =
      .ok m.hookInstallCheck := by
    cases m.hookInstallCheck <;> rfl
  have hfoundName : found (hooksTexts m) "filename" = m.hookName := readString_stringText hname
  apply yields_section
  intro f _
  apply Prog.yields_bind (yields_consumeOptional (by decide) hfoundName)
  apply Prog.yields_bind (yields_consumeStringList (by decide) hlist)
  apply Prog.yields_bind (yields_ofExcept hcheck)
  apply Prog.yields_bind (yields_closeSection (by simp [hooksTexts]))
  exact Prog.yields_pure (fun _ hs => hs)

end HeaderSections

section ImageSections

/-- What is left of an image: a negative size and an empty list of converted files are not
written. -/
def writtenImage (image : RaucImage) : RaucImage :=
  { image with
    checksum := { image.checksum with size := if image.checksum.size ≥ 0 then image.checksum.size
                                      else -1 }
    converted := if image.converted = some [] then none else image.converted }

variable {group : String} {image : RaucImage} {rest : List ManifestSection} {f : KeyFile}

/-- At least one key is written for an accepted image, so that its group is not lost. -/
lemma imageTexts_any (h : AcceptedImage group image) :
    (imageTexts image).any (·.2.isSome) = true := by
  cases hfile : image.filename with
  | some filename => simp [imageTexts, stringText, hfile]
  | none =>
    have hderived : image.typeFromFileext = false := by
      cases hflag : image.typeFromFileext with
      | false => rfl
      | true =>
        obtain ⟨-, filename, hsome, -⟩ := h.derived_type hflag
        rw [hfile] at hsome
        exact absurd hsome (by simp)
    have hvalid := h.filename_ok
    unfold validateFilenameRequirements at hvalid
    by_cases hempty : image.type = some "emptyfs"
    · simp [imageTexts, stringText, hempty, hderived]
    · by_cases hinstall : image.hooks.install = true
      · simp [imageTexts, nonEmptyListText, slotHookNames, hinstall]
      · rw [if_neg hempty, if_pos ⟨by simp [hfile], hinstall⟩] at hvalid
        exact absurd hvalid (by simp)

lemma slotHookNames_read (hooks : SlotHooks) :
    ((nonEmptyListText (slotHookNames hooks)).bind KeyFile.decodeList).getD [] =
      slotHookNames hooks := by
  unfold nonEmptyListText
  split_ifs with hnil
  · rw [hnil]
    rfl
  · simp

lemma foldlM_slotHookNames (hooks : SlotHooks) : (slotHookNames hooks).foldlM addSlotHook {} =
    .ok hooks := by
  obtain ⟨pre, install, post⟩ := hooks
  cases pre <;> cases install <;> cases post <;> rfl

lemma yields_consumeSlotHooks {taken : List String} (hkey : "hooks" ∉ taken) :
    Prog.Yields (Consuming f group (imageTexts image) taken) (consumeSlotHooks group) image.hooks
      (Consuming f group (imageTexts image) ("hooks" :: taken)) := by
  apply Prog.yields_bind (yields_consumeStringList hkey rfl)
  apply yields_ofExcept
  have hnames : ((Table.find "hooks" (imageTexts image)).join.bind KeyFile.decodeList).getD [] =
      slotHookNames image.hooks := slotHookNames_read image.hooks
  rw [hnames]
  exact foldlM_slotHookNames image.hooks

lemma yields_consumeDigest (h : AcceptedImage group image) :
    Prog.Yields (Consuming f group (imageTexts image) [])
      (consumeDigest group { slotclass := image.slotclass, artifact := image.artifact,
                             variant := image.variant })
      { slotclass := image.slotclass, artifact := image.artifact, variant := image.variant,
        checksum := { image.checksum with size := -1 } }
      (Consuming f group (imageTexts image) ["sha256"]) := by
  have hrecorded : recordedDigest image.checksum = image.checksum.digest := by
    unfold recordedDigest
    rw [h.checksum_type]
    cases image.checksum.digest <;> simp
  have hfound : found (imageTexts image) "sha256" = image.checksum.digest := by
    rw [← hrecorded]
    exact readString_stringText (hrecorded ▸ h.digest_nonempty)
  apply Prog.yields_bind (yields_consumeOptional (by decide) hfound)
  have htype := h.checksum_type
  cases hdigest : image.checksum.digest with
  | none =>
    rw [hdigest] at htype
    simp only [htype, hdigest]
    exact Prog.yields_pure (fun _ hs => hs)
  | some digest =>
    rw [hdigest] at htype
    simp only [htype, hdigest]
    exact Prog.yields_pure (fun _ hs => hs)

/-- The image before its type is known. -/
def untypedImage (image : RaucImage) : RaucImage :=
  { writtenImage image with
    type := none, typeFromFileext := false, adaptive := none, convert := none, converted := none }

def typedImage (image : RaucImage) : RaucImage :=
  { untypedImage image with type := image.type, typeFromFileext := image.typeFromFileext }

/-- The type of an image that is no artifact is found under its key or derived once more. -/
lemma yields_determineType {taken : List String} (h : AcceptedImage group image)
    (hgroup : group ∈ f.groups)
    (hkey : "type" ∉ taken) (hartifact : image.artifact = none) :
    Prog.Yields (Consuming f group (imageTexts image) taken)
      (determineType group (untypedImage image))
      (typedImage image) (Consuming f group (imageTexts image) ("type" :: taken)) := by
  have htext : (Table.find "type" (imageTexts image)).join =
      if image.typeFromFileext then none else stringText image.type := rfl
  cases hderived : image.typeFromFileext with
  | true =>
    obtain ⟨hinstall, filename, hfilename, htype⟩ := h.derived_type hderived
    rw [hderived] at htext
    have hfound : found (imageTexts image) "type" = none := by
      unfold found
      rw [htext]
      rfl
    have hsome : ∃ type, image.type = some type := by
      have hsupported := h.supported_type hartifact hinstall
      cases hnone : image.type with
      | none => simp [hnone] at hsupported
      | some type => exact ⟨type, rfl⟩
    obtain ⟨type, hsome⟩ := hsome
    apply Prog.yields_bind (yields_consumeIfPresent hgroup hkey hfound (fun _ => htext))
    apply yields_ofExcept
    have hfile : (untypedImage image).filename = some filename := hfilename
    have hhooks : (untypedImage image).hooks.install = false := hinstall
    have hderive : deriveImageTypeFromFilenamePattern filename = some type := htype.symm.trans hsome
    unfold handleMissingType
    rw [hhooks, hfile]
    simp only [hderive, Bool.false_eq_true, if_false, typedImage, hsome, hderived, hfile]
  | false =>
    rw [hderived] at htext
    simp only [Bool.false_eq_true, if_false] at htext
    have hfound : found (imageTexts image) "type" = image.type := by
      unfold found
      rw [htext]
      exact readString_stringText h.type_nonempty
    cases htype : image.type with
    | none =>
      rw [htype] at htext hfound
      have hinstall : image.hooks.install = true := by
        by_contra hnot
        have hsupported := h.supported_type hartifact (Bool.eq_false_iff.mpr hnot)
        simp [htype] at hsupported
      apply Prog.yields_bind (yields_consumeIfPresent hgroup hkey hfound (fun _ => htext))
      apply yields_ofExcept
      have hhooks : (untypedImage image).hooks.install = true := hinstall
      unfold handleMissingType
      rw [hhooks, if_pos rfl]
      unfold typedImage
      rw [htype, hderived]
      rfl
    | some type =>
      rw [htype] at hfound
      have hvalue : typedImage image = { untypedImage image with type := some type } := by
        unfold typedImage
        rw [htype, hderived]
        rfl
      rw [hvalue]
      apply Prog.yields_bind (yields_consumeIfPresent hgroup hkey hfound (fun hnone =>
        absurd hnone (by simp)))
      exact Prog.yields_pure (fun _ hs => hs)

lemma yields_consumeType {taken : List String} (h : AcceptedImage group image)
    (hgroup : group ∈ f.groups)
    (hkey : "type" ∉ taken) :
    Prog.Yields (Consuming f group (imageTexts image) taken)
      (consumeType group (untypedImage image))
      (typedImage image) (Consuming f group (imageTexts image) ("type" :: taken)) := by
  unfold consumeType
  cases hartifact : image.artifact with
  | some artifact =>
    obtain ⟨htype, hderived⟩ := h.artifact_type (by simp [hartifact])
    have hsome : (untypedImage image).artifact.isSome = true := by
      have hsame : (untypedImage image).artifact = image.artifact := rfl
      simp [hsame, hartifact]
    have hvalue : typedImage image = untypedImage image := by
      unfold typedImage
      rw [htype, hderived]
      rfl
    rw [if_pos hsome, hvalue]
    apply Prog.yields_pure
    intro s hs
    apply hs.takeMissing
    rw [leftover_of_notMem _ hkey]
    have htext : (Table.find "type" (imageTexts image)).join =
        if image.typeFromFileext then none else stringText image.type := rfl
    rw [htext, htype]
    simp [stringText]
  | none =>
    have hnone : (untypedImage image).artifact.isSome ≠ true := by
      have hsame : (untypedImage image).artifact = image.artifact := rfl
      simp [hsame, hartifact]
    have hsupported : ¬(¬(typedImage image).hooks.install = true ∧
        ¬(typedImage image).type.any isImageTypeSupported = true) := by
      rintro ⟨hinstall, hnot⟩
      exact hnot (h.supported_type hartifact (Bool.eq_false_iff.mpr hinstall))
    rw [if_neg hnone]
    apply Prog.yields_bind (yields_determineType h hgroup hkey hartifact)
    rw [if_neg hsupported]
    exact Prog.yields_pure (fun _ hs => hs)

lemma yields_parseImage (h : AcceptedImage group image) :
    Prog.Yields (SectionsLeft ((group, imageTexts image) :: rest)) (parseImage group)
      (writtenImage image)
      (SectionsLeft rest) := by
  obtain ⟨t, htarget, hslotclass, hartifact, hvariant⟩ := h.target
  obtain rfl : t = { slotclass := image.slotclass, artifact := image.artifact,
                     variant := image.variant } := by
    rw [imageTarget_fresh htarget, hslotclass, hartifact, hvariant]
  have hlist : ∀ o : Option (List String), (o.map KeyFile.escapeList).bind KeyFile.decodeList =
      o := by
    intro o
    cases o <;> simp
  have hadaptive : (Table.find "adaptive" (imageTexts image)).join.bind KeyFile.decodeList =
      image.adaptive :=
    hlist image.adaptive
  have hconvert : (Table.find "convert" (imageTexts image)).join.bind KeyFile.decodeList =
      image.convert :=
    hlist image.convert
  have hconverted : (Table.find "converted" (imageTexts image)).join.bind KeyFile.decodeList =
      if image.converted = some [] then none else image.converted := by
    have hfind : (Table.find "converted" (imageTexts image)).join =
      image.converted.bind nonEmptyListText := rfl
    rw [hfind]
    cases image.converted with
    | none => rfl
    | some l =>
      by_cases hnil : l = []
      · simp [nonEmptyListText, hnil]
      · simp [nonEmptyListText, hnil]
  have hfilename : found (imageTexts image) "filename" = image.filename :=
    readString_stringText h.filename_nonempty
  have hmissing : image.filename = none → (Table.find "filename" (imageTexts image)).join =
      none := by
    intro hnone
    have hfind : (Table.find "filename" (imageTexts image)).join = stringText image.filename := rfl
    rw [hfind, hnone]
    rfl
  have hvalid : validateFilenameRequirements (typedImage image) = .ok () := h.filename_ok
  apply yields_section
  intro f hpresent
  have hgroup := hpresent (imageTexts_any h)
  unfold parseImage
  rw [htarget]
  apply Prog.yields_bind (yields_consumeDigest h)
  apply Prog.yields_bind (yields_consumeSize hgroup (by decide) image.checksum.size rfl)
  apply Prog.yields_bind (yields_consumeSlotHooks (by decide))
  apply Prog.yields_bind (yields_consumeIfPresent hgroup (by decide) hfilename hmissing)
  apply Prog.yields_bind (yields_consumeType h hgroup (by decide))
  apply Prog.yields_bind (yields_ofExcept hvalid)
  apply Prog.yields_bind (yields_removeKeys ["version", "description", "build"])
  apply Prog.yields_bind (yields_consumeStringList (by decide) hadaptive)
  apply Prog.yields_bind (yields_consumeStringList (by decide) hconvert)
  apply Prog.yields_bind (yields_consumeStringList (by decide) hconverted)
  apply Prog.yields_bind (yields_checkRemainingKeys (by simp [imageTexts]))
  apply Prog.yields_bind yields_removeGroup
  exact Prog.yields_pure (fun _ hs => hs)

end ImageSections

end RaucUpdate
