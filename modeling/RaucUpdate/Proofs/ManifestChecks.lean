import RaucUpdate.Model.ManifestChecks

/-!
# What the checks of a manifest leave

The checks complete the sizes of images and change nothing else, and a manifest that passed them
passes them again.
-/

namespace RaucUpdate

open Library

section Checks

variable {m m' : RaucManifest}

/-- The size is there afterwards. -/
lemma checkImageSize_ok {filename : String} {image sized : RaucImage}
    (h : checkImageSize filename image = .ok sized) :
    ∃ size : Int64, ¬size < 0 ∧
      sized = { image with checksum := { image.checksum with size := size } } := by
  unfold checkImageSize at h
  split_ifs at h with hmissing hinstall
  · exact ⟨0, by decide, (Except.ok.inj h).symm⟩
  · exact absurd h (by simp [manifestCheckError])
  · obtain rfl := Except.ok.inj h
    exact ⟨image.checksum.size, hmissing, rfl⟩

/-- An image with everything that is required is left as it is. -/
lemma checkImageBundled_complete {filename : String} {image : RaucImage}
    (hname : image.filename = some filename)
    (htype : ¬image.checksum.type ≠ .sha256) (hdigest : ¬image.checksum.digest.isNone = true)
    (hsize : ¬image.checksum.size < 0) (hconverted : checkImageConverted filename image = .ok ()) :
    checkImageBundled image = .ok image := by
  have hsized : checkImageSize filename image = .ok image := if_neg hsize
  unfold checkImageBundled
  rw [hname]
  simp only
  rw [if_neg htype, if_neg hdigest, hsized]
  change Except.bind (checkImageConverted filename image) _ = _
  rw [hconverted]
  rfl

/-- What the check of an image requires. Only its size is completed. -/
lemma checkImageBundled_cases {image image' : RaucImage}
    (h : checkImageBundled image = .ok image') :
    (image.filename = none ∧ image' = image) ∨
      ∃ (filename : String) (size : Int64), image.filename = some filename ∧
        ¬image.checksum.type ≠ .sha256 ∧ ¬image.checksum.digest.isNone = true ∧ ¬size < 0 ∧
        checkImageConverted filename image' = .ok () ∧
        image' = { image with checksum := { image.checksum with size := size } } := by
  unfold checkImageBundled at h
  cases hname : image.filename with
  | none =>
    rw [hname] at h
    exact .inl ⟨rfl, (Except.ok.inj h).symm⟩
  | some filename =>
    rw [hname] at h
    simp only at h
    by_cases htype : image.checksum.type ≠ .sha256
    · rw [if_pos htype] at h
      exact absurd h (by simp [manifestCheckError])
    by_cases hdigest : image.checksum.digest.isNone = true
    · rw [if_neg htype, if_pos hdigest] at h
      exact absurd h (by simp [manifestCheckError])
    rw [if_neg htype, if_neg hdigest] at h
    change Except.bind (checkImageSize filename image) _ = _ at h
    cases hsize : checkImageSize filename image with
    | error e =>
      rw [hsize] at h
      exact absurd h (by simp [Except.bind])
    | ok sized =>
      rw [hsize] at h
      change Except.bind (checkImageConverted filename sized) _ = _ at h
      cases hconverted : checkImageConverted filename sized with
      | error e =>
        rw [hconverted] at h
        exact absurd h (by simp [Except.bind])
      | ok _ =>
        rw [hconverted] at h
        obtain rfl := Except.ok.inj h
        obtain ⟨size, hpos, hsized⟩ := checkImageSize_ok hsize
        exact .inr ⟨filename, size, rfl, htype, hdigest, hpos, hconverted, by rw [hsized, hname]⟩

/-- The image passes the check again, and its hooks are as before. -/
lemma checkImageBundled_again {image image' : RaucImage}
    (h : checkImageBundled image = .ok image') :
    checkImageBundled image' = .ok image' ∧ image'.hooks = image.hooks := by
  rcases checkImageBundled_cases h with
    ⟨hname, rfl⟩ | ⟨filename, size, hname, htype, hdigest, hpos, hconverted, rfl⟩
  · exact ⟨h, rfl⟩
  · exact ⟨checkImageBundled_complete hname htype hdigest hpos hconverted, rfl⟩

/-- A list that was checked passes the check again. -/
lemma mapM_checkImageBundled_again {images images' : List RaucImage}
    (h : images.mapM checkImageBundled = .ok images') :
    images'.mapM checkImageBundled = .ok images' ∧ images'.map RaucImage.hooks =
      images.map RaucImage.hooks := by
  induction images generalizing images' with
  | nil =>
    obtain rfl := Except.ok.inj h
    exact ⟨rfl, rfl⟩
  | cons image rest ih =>
    rw [List.mapM_cons] at h
    change Except.bind (checkImageBundled image) _ = _ at h
    cases himage : checkImageBundled image with
    | error e =>
      rw [himage] at h
      exact absurd h (by simp [Except.bind])
    | ok image' =>
      rw [himage] at h
      change Except.bind (rest.mapM checkImageBundled) _ = _ at h
      cases hrest : rest.mapM checkImageBundled with
      | error e =>
        rw [hrest] at h
        exact absurd h (by simp [Except.bind])
      | ok rest' =>
        rw [hrest] at h
        obtain rfl := Except.ok.inj h
        obtain ⟨hagain, hhooks⟩ := checkImageBundled_again himage
        obtain ⟨hagains, hrests⟩ := ih hrest
        rw [List.mapM_cons]
        change Except.bind (checkImageBundled image') _ = _ ∧ _
        rw [hagain]
        change Except.bind (rest'.mapM checkImageBundled) _ = _ ∧ _
        rw [hagains, List.map_cons, List.map_cons, hhooks, hrests]
        exact ⟨rfl, rfl⟩

/-- A manifest that was checked passes the check again. -/
lemma checkManifestExternal_again (h : checkManifestExternal m = .ok m') :
    checkManifestExternal m' = .ok m' := by
  unfold checkManifestExternal at h
  change Except.bind (checkManifestCommon m) (fun _ => Except.bind (checkFormatExternal m) (fun _ =>
    Except.bind (m.images.mapM checkImageBundled) _)) = _ at h
  cases hcommon : checkManifestCommon m with
  | error e =>
    rw [hcommon] at h
    exact absurd h (by simp [Except.bind])
  | ok _ =>
    cases hformat : checkFormatExternal m with
    | error e =>
      rw [hcommon, hformat] at h
      exact absurd h (by simp [Except.bind])
    | ok _ =>
      cases himages : m.images.mapM checkImageBundled with
      | error e =>
        rw [hcommon, hformat, himages] at h
        exact absurd h (by simp [Except.bind])
      | ok images =>
        rw [hcommon, hformat, himages] at h
        obtain rfl := Except.ok.inj h
        obtain ⟨hagain, hhooks⟩ := mapM_checkImageBundled_again himages
        have hany : images.any (fun image => image.hooks.used) =
            m.images.any (fun image => image.hooks.used) := by
          have hmap := congrArg (fun hooks => hooks.any SlotHooks.used) hhooks
          rwa [List.any_map, List.any_map] at hmap
        have hcommon' : checkManifestCommon { m with images := images } = .ok () := by
          rw [← hcommon]
          unfold checkManifestCommon haveHooks
          rw [hany]
          rfl
        unfold checkManifestExternal
        rw [hcommon']
        change Except.bind (checkFormatExternal m)
          (fun _ => Except.bind (images.mapM checkImageBundled) _) = _
        rw [hformat, hagain]
        rfl

/-- The checks complete the images and leave the rest of a manifest as it is. -/
lemma checkManifestBundled_ok (h : checkManifestBundled m = .ok m') :
    ∃ images, m.images.mapM checkImageBundled = .ok images ∧
      m' = { m with images := images } := by
  unfold checkManifestBundled at h
  cases himages : m.images.mapM checkImageBundled with
  | error e => simp [himages, Bind.bind, Except.bind] at h
  | ok images =>
    simp only [himages, Bind.bind, Except.bind, Pure.pure, Except.pure, Except.ok.injEq] at h
    exact ⟨images, rfl, h.symm⟩

lemma checkManifestExternal_ok (h : checkManifestExternal m = .ok m') :
    ∃ images, m.images.mapM checkImageBundled = .ok images ∧
      m' = { m with images := images } := by
  unfold checkManifestExternal at h
  cases hcommon : checkManifestCommon m with
  | error e => simp [hcommon, Bind.bind, Except.bind] at h
  | ok _ =>
    cases hformat : checkFormatExternal m with
    | error e => simp [hcommon, hformat, Bind.bind, Except.bind] at h
    | ok _ =>
      simp only [hcommon, hformat, Bind.bind, Except.bind] at h
      exact checkManifestBundled_ok h

lemma checkManifestInternal_ok (h : checkManifestInternal m = .ok m') :
    ∃ images, m.images.mapM checkImageBundled = .ok images ∧
      m' = { m with images := images } := by
  unfold checkManifestInternal at h
  change Except.bind (checkManifestCommon m) _ = _ at h
  cases hcommon : checkManifestCommon m with
  | error e =>
    rw [hcommon] at h
    exact absurd h (by simp [Except.bind])
  | ok _ =>
    rw [hcommon] at h
    change (if m.bundleFormat ≠ .plain then _ else Except.bind (checkManifestBundled m) _) = _ at h
    by_cases hplain : m.bundleFormat ≠ .plain
    · rw [if_pos hplain] at h
      exact absurd h (by simp [manifestCheckError])
    rw [if_neg hplain] at h
    unfold checkManifestBundled at h
    change Except.bind (Except.bind (m.images.mapM checkImageBundled) _) _ = _ at h
    cases himages : m.images.mapM checkImageBundled with
    | error e =>
      rw [himages] at h
      exact absurd h (by simp [Except.bind])
    | ok images =>
      rw [himages] at h
      change Except.bind (checkManifestPlain { m with images := images }) (fun _ =>
        Except.bind (checkNoCryptOrVerity { m with images := images }) _) = _ at h
      cases hchecked : checkManifestPlain { m with images := images } with
      | error e =>
        rw [hchecked] at h
        exact absurd h (by simp [Except.bind])
      | ok _ =>
        cases hclean : checkNoCryptOrVerity { m with images := images } with
        | error e =>
          rw [hchecked, hclean] at h
          exact absurd h (by simp [Except.bind])
        | ok _ =>
          rw [hchecked, hclean] at h
          exact ⟨images, rfl, (Except.ok.inj h).symm⟩

/-- An image that passed the check is the one before, but for its size. -/
def SizedFrom (image image' : RaucImage) : Prop :=
  ∃ size : Int64, image' = { image with checksum := { image.checksum with size := size } }

lemma sizedFrom_of_checked {image image' : RaucImage} (h : checkImageBundled image = .ok image') :
    SizedFrom image image' := by
  rcases checkImageBundled_cases h with ⟨-, rfl⟩ | ⟨-, size, -, -, -, -, -, rfl⟩
  · exact ⟨image'.checksum.size, rfl⟩
  · exact ⟨size, rfl⟩

lemma mem_of_mapM_checkImageBundled {images images' : List RaucImage}
    (h : images.mapM checkImageBundled = .ok images') {image' : RaucImage}
    (himage : image' ∈ images') :
    ∃ image ∈ images, SizedFrom image image' := by
  induction images generalizing images' with
  | nil =>
    obtain rfl := Except.ok.inj h
    exact absurd himage List.not_mem_nil
  | cons first rest ih =>
    rw [List.mapM_cons] at h
    cases hfirst : checkImageBundled first with
    | error e => simp [hfirst, Bind.bind, Except.bind] at h
    | ok first' =>
      cases hrest : rest.mapM checkImageBundled with
      | error e => simp [hfirst, hrest, Bind.bind, Except.bind] at h
      | ok rest' =>
        simp only [hfirst, hrest, Bind.bind, Except.bind, Pure.pure, Except.pure,
          Except.ok.injEq] at h
        subst h
        rcases List.mem_cons.mp himage with rfl | himage
        · exact ⟨first, List.mem_cons_self, sizedFrom_of_checked hfirst⟩
        · obtain ⟨image, hmem, hsize⟩ := ih hrest himage
          exact ⟨image, List.mem_cons_of_mem _ hmem, hsize⟩

/-- Every image of an accepted manifest is one that was loaded, but for its size. -/
lemma ManifestAccepted.image {digest : KeyFile → String} (h : ManifestAccepted digest m)
    {image : RaucImage} (himage : image ∈ m.images) :
    ∃ data loaded original, loadManifestMem digest data = .value loaded ∧
      original ∈ loaded.images ∧ SizedFrom original image := by
  obtain ⟨data, loaded, hload, hchecked⟩ := h
  obtain ⟨images, himages, rfl⟩ : ∃ images, loaded.images.mapM checkImageBundled = .ok images ∧
      m = { loaded with images := images } :=
    hchecked.elim checkManifestInternal_ok checkManifestExternal_ok
  obtain ⟨original, hmem, hsize⟩ := mem_of_mapM_checkImageBundled himages himage
  exact ⟨data, loaded, original, hload, hmem, hsize⟩

end Checks

end RaucUpdate
