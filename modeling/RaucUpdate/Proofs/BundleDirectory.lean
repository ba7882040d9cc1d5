import RaucUpdate.Proofs.OpenedBundle

/-!
# A directory of bundles

Bundles are made by `create_bundle` and from other bundles. The creation writes its output and, for
an encrypted bundle, one more file that is gone at the end. So in a directory that nobody else
writes to every bundle either has the payload of a file of the beginning or gives the image back
that was made in one of the creations.
-/

namespace RaucUpdate

open Library Prog

section Encryption

variable {Key : Type} (cipher : IvCipher Key UInt8 16) (encrypt : Bool) (key : Key)
  (outpath : String)

/-- The files beside the output of the encryption. -/
def besides (outpath : String) (files : Table String (List UInt8)) (path : String) :
    Option (List UInt8) :=
  if path = outpath then none else files.lookup path

lemma besides_set (content : List UInt8) (files : Table String (List UInt8)) :
    besides outpath (files.set outpath content) = besides outpath files := by
  funext path
  unfold besides
  by_cases hpath : path = outpath
  · rw [if_pos hpath, if_pos hpath]
  · rw [if_neg hpath, if_neg hpath, Table.lookup_set, if_neg (Ne.symm hpath)]

lemma still_evpCipherInit (reason : String) : Still (besides outpath) (evpCipherInit reason)
    (fun _ => True) := by
  apply still_bind still_ask
  intro failure _
  cases failure with
  | none => exact still_pure trivial
  | some _ => exact still_exit _

/-- The loop only appends to its output. -/
lemma still_cryptSectors (maxsize : Int) (sectorCount : UInt64) (donesize : Nat)
    (rest : List UInt8) :
    Still (besides outpath) (cryptSectors cipher encrypt key maxsize outpath sectorCount
      donesize rest)
      (fun _ => True) := by
  induction hlength : rest.length using Nat.strong_induction_on generalizing rest sectorCount
    donesize with
  | _ n ih =>
    rw [cryptSectors.eq_def]
    apply still_bind (still_evpCipherInit outpath _)
    intro _ _
    by_cases hempty : (rest.take encSecSize).length = 0
    · rw [dif_pos hempty]
      exact still_pure trivial
    rw [dif_neg hempty]
    split_ifs with hshort hlimit
    · exact still_exit _
    · exact still_pure trivial
    · have hless : (rest.drop encSecSize).length < n := by
        unfold encSecSize at hempty ⊢
        rw [List.length_take] at hempty
        rw [List.length_drop]
        omega
      apply still_bind (still_external _)
      intro _ _
      apply still_bind (still_modify (fun files => besides_set outpath _ files))
      intro _ _
      apply still_bind (still_external _)
      intro _ _
      exact ih _ hless _ _ _ rfl

lemma still_rCryptEncryptOrDecrypt (inpath : String) (maxsize : Int) :
    Still (besides outpath) (rCryptEncryptOrDecrypt cipher encrypt key inpath outpath maxsize)
      (fun _ => True) := by
  apply still_bind (still_external _)
  intro _ _
  apply still_read_bind
  intro files
  cases files.lookup inpath with
  | none => exact still_exit _
  | some _ =>
    apply still_bind (still_effect _ (besides_set outpath []))
    intro _ _
    apply still_read_bind
    intro files
    apply still_mapError
    apply still_bind (still_evpCipherInit outpath _)
    intro _ _
    exact still_cryptSectors cipher encrypt key outpath maxsize 0 0 _

end Encryption

section Creation

variable (env : CreateEnv)

lemma still_checkWork (check : RaucManifest → Except GError Unit) :
    Still (otherFiles env) (checkWork check) (fun _ => True) :=
  still_read_bind (fun _ => still_consequence (still_decided _) (fun _ _ => trivial))

lemma still_updateImageChecksums (images : List RaucImage) :
    Still (otherFiles env) (updateImageChecksums env images) (fun _ => True) := by
  induction images with
  | nil => exact still_pure trivial
  | cons image rest ih =>
    unfold updateImageChecksums
    cases image.filename with
    | none => exact still_bind ih (fun _ _ => still_pure trivial)
    | some filename =>
      exact still_bind (still_external _) (fun _ _ => still_bind ih (fun _ _ => still_pure trivial))

lemma still_convertMethods (image : RaucImage) (methods : List String) :
    Still (otherFiles env) (convertMethods env image methods) (fun _ => True) := by
  induction methods with
  | nil => exact still_pure trivial
  | cons method rest ih =>
    refine still_bind (C := fun _ => True) ?_ (fun _ _ =>
      still_bind ih (fun _ _ => still_pure trivial))
    unfold convertMethod
    simp only
    split_ifs with htar hcomposefs henabled hkeep
    · exact still_pure trivial
    · refine still_bind (C := fun _ => True) ?_ (fun _ _ => still_pure trivial)
      exact still_bind (still_external _) (fun _ _ => still_bind (still_external _) (fun _ _ =>
        still_external _))
    · exact still_exit _
    · exact still_pure trivial
    · exact still_exit _

/-- A step that may be left out, in front of the rest. -/
lemma still_maybe {β : Type} {D : β → Prop} {c : Prop} [Decidable c] {p : WorkProg Unit}
    {f : Unit → WorkProg β}
    (hp : Still (otherFiles env) p (fun _ => True)) (hf : Still (otherFiles env) (f ()) D) :
    Still (otherFiles env) (if c then p >>= f else f ()) D := by
  by_cases hc : c
  · rw [if_pos hc]
    exact still_bind hp (fun _ _ => hf)
  · rw [if_neg hc]
    exact hf

lemma still_convertImage (image : RaucImage) : Still (otherFiles env) (convertImage env image)
    (fun _ => True) := by
  unfold convertImage
  by_cases hconverted : image.converted = some []
  · rw [if_pos hconverted]
    exact still_exit _
  rw [if_neg hconverted]
  cases image.convert with
  | none => exact still_pure trivial
  | some methods =>
    apply still_maybe
    · exact still_bind (still_external _) (fun _ _ => still_external _)
    · apply still_bind (still_convertMethods env image methods)
      intro converted _
      apply still_maybe
      · exact still_external _
      · apply still_maybe
        · exact still_external _
        · exact still_pure trivial

lemma still_convertImages : Still (otherFiles env) (convertImages env) (fun _ => True) := by
  have heach : ∀ images, Still (otherFiles env) (convertEach env images) (fun _ => True) := by
    intro images
    induction images with
    | nil => exact still_pure trivial
    | cons image rest ih =>
      exact still_bind (still_convertImage env image) (fun _ _ =>
        still_bind ih (fun _ _ => still_pure trivial))
  apply still_read_bind
  intro work
  exact still_bind (heach _) (fun _ _ => still_setManifest (fun _ _ => rfl) _)

lemma still_generateAdaptiveData : Still (otherFiles env) generateAdaptiveData (fun _ => True) := by
  apply still_read_bind
  intro work
  apply still_each
  intro image
  apply still_each
  intro method
  unfold generateAdaptiveMethod
  split_ifs with hindex htest
  · exact still_bind (still_external _) (fun _ _ => still_bind (still_external _) (fun _ _ =>
      still_external _))
  · exact still_pure trivial
  · exact still_exit _

lemma still_syncManifest : Still (otherFiles env) (syncManifestWithContentdir env)
    (fun _ => True) := by
  apply still_read_bind
  intro work
  cases hmissing : work.manifest.images.find? (fun image => !inWorkdir env image.filename) with
  | some image =>
    simp only [hmissing]
    exact still_exit _
  | none =>
    simp only [hmissing]
    split_ifs with hhook
    · exact still_bind (still_updateImageChecksums env _) (fun _ _ =>
        still_setManifest (fun _ _ => rfl) _)
    · exact still_exit _

lemma still_loadManifestFile : Still (otherFiles env) (loadManifestFile env) (fun _ => True) := by
  apply still_bind (still_external _)
  intro _ _
  apply still_bind (still_decided _)
  intro keyFile _
  cases loadManifestMem env.manifestDigest keyFile with
  | value m => exact still_setManifest (fun _ _ => rfl) m
  | exit x => exact still_exit x

lemma still_mksquashfs : Still (otherFiles env) (mksquashfs env) (fun _ => True) := by
  apply still_read_bind
  intro work
  by_cases hexists : work.files.contains env.bundlename = true
  · rw [if_pos hexists]
    exact still_exit _
  rw [if_neg hexists]
  apply still_maybe
  · exact still_external _
  · apply still_bind still_ask
    intro failure _
    cases failure with
    | none => exact still_modify (otherFiles_writeOutput env _)
    | some failure =>
      cases env.squashfsLeft with
      | none => exact still_exit _
      | some left =>
        exact still_bind (still_modify (otherFiles_writeOutput env left)) (fun _ _ => still_exit _)

lemma still_appendHashTree (content : List UInt8) :
    Still (otherFiles env) (appendHashTree env content) (fun _ => True) := by
  apply still_bind still_ask
  intro failure _
  cases failure with
  | some failure =>
    exact still_bind (still_modify (otherFiles_writeOutput env _)) (fun _ _ => still_exit _)
  | none =>
    cases rVerityHashCreate env.sha256 content (content.length / 4096) env.veritySalt with
    | error e =>
      exact still_bind (still_modify (otherFiles_writeOutput env _)) (fun _ _ => still_exit _)
    | ok created =>
      apply still_bind (still_modify (otherFiles_writeOutput env _))
      intro _ _
      split_ifs with hsmall
      · exact still_exit _
      · exact still_modify (fun _ => rfl)

lemma still_createVerity : Still (otherFiles env) (createVerity env) (fun _ => True) := by
  apply still_bind (still_external _)
  intro _ _
  apply still_read_bind
  intro work
  cases work.files.lookup env.bundlename with
  | none => exact still_exit _
  | some content =>
    simp only
    by_cases hsalt : work.manifest.bundleVeritySalt.isSome = true
    · rw [if_pos hsalt]
      exact still_exit _
    by_cases hhash : work.manifest.bundleVerityHash.isSome = true
    · rw [if_neg hsalt, if_pos hhash]
      exact still_exit _
    by_cases hsize : work.manifest.bundleVeritySize ≠ 0
    · rw [if_neg hsalt, if_neg hhash, if_pos hsize]
      exact still_exit _
    rw [if_neg hsalt, if_neg hhash, if_neg hsize]
    refine still_bind (still_external _) (fun _ _ => still_bind (still_external _) (fun _ _ => ?_))
    split_ifs with hblocks hshort
    · exact still_exit _
    · exact still_exit _
    · exact still_appendHashTree env content

lemma still_signBundle : Still (otherFiles env) (signBundle env) (fun _ => True) := by
  apply still_read_bind
  intro work
  apply still_maybe env (still_createVerity env)
  apply still_bind (still_generateBundleSignature env (fun _ _ => rfl))
  exact fun sig _ => still_appendToBundle env sig

/-- All calls but the encryption leave the files beside the output alone. -/
lemma still_createCall {step : CreateStep} (h : step ≠ .encryptPayload) :
    Still (otherFiles env) (CreateStep.call env step) (fun _ => True) := by
  cases step with
  | encryptPayload => exact absurd rfl h
  | prepareWorkdir =>
    apply still_maybe env (still_external _)
    exact still_bind (still_external _) (fun _ _ => still_external _)
  | loadManifest => exact still_mapError _ (still_loadManifestFile env)
  | checkInput => exact still_checkWork env _
  | checkCreate => exact still_checkWork env _
  | syncManifest => exact still_syncManifest env
  | fakerootInit =>
    apply still_read_bind
    intro work
    refine still_bind (C := fun _ => True) ?_ (fun _ _ => ?_)
    · apply still_modify
      intro _
      rfl
    split_ifs with hneeded
    · refine still_bind (still_external _) (fun _ _ => ?_)
      apply still_effect
      intro _
      rfl
    · exact still_pure trivial
  | adaptiveData => exact still_generateAdaptiveData env
  | convertImages => exact still_convertImages env
  | saveManifest => exact still_external _
  | mksquashfs => exact still_mksquashfs env
  | signBundle => exact still_signBundle env
  | removeWorkdir => exact still_mapError _ (still_external _)

/-- The files that are neither the output nor its encrypted form. -/
def foreignFiles (work : BundleWork) (path : String) : Option (List UInt8) :=
  if path = env.encpath then none else otherFiles env work path

lemma foreignFiles_eq (work : BundleWork) : foreignFiles env work = fun path =>
    if path = env.bundlename then none else besides env.encpath work.files path := by
  funext path
  unfold foreignFiles otherFiles besides
  split_ifs <;> rfl

lemma foreignFiles_writeOutput (content : List UInt8) (work : BundleWork) :
    foreignFiles env (writeOutput env content work) = foreignFiles env work := by
  unfold foreignFiles
  rw [otherFiles_writeOutput]

lemma still_encryptToBundle : Still (foreignFiles env) (encryptToBundle env) (fun _ => True) := by
  apply still_bind (still_external _)
  intro _ _
  have hcrypt :
      Still (foreignFiles env) (Prog.zoom BundleWork.files (fun files work =>
      { work with files := files })
      (rCryptEncrypt env.cipher env.cryptKey env.bundlename env.encpath) :
        WorkProg Unit) (fun _ => True) := by
    intro v
    apply triple_zoom
    rintro work rfl
    have hkept := still_rCryptEncryptOrDecrypt env.cipher true env.cryptKey env.encpath
      env.bundlename 0
      (besides env.encpath work.files)
    have hsame : ∀ files, besides env.encpath files = besides env.encpath work.files →
        foreignFiles env { work with files := files } = foreignFiles env work := by
      intro files hfiles
      rw [foreignFiles_eq, foreignFiles_eq, hfiles]
    apply triple_consequence hkept
    · rintro _ rfl
      rfl
    · exact fun _ files hfiles => ⟨hsame files hfiles.1, trivial⟩
    · exact fun _ files hfiles => hsame files hfiles
  apply still_bind hcrypt
  intro _ _
  refine still_bind (C := fun _ => True) (still_modify (fun _ => rfl)) (fun _ _ => ?_)
  apply still_read_bind
  intro work
  cases work.files.lookup env.encpath with
  | none => exact still_exit _
  | some encrypted =>
    apply still_effect
    intro work
    have herased : foreignFiles env { work with files := work.files.erase env.encpath } =
        foreignFiles env work := by
      funext path
      unfold foreignFiles
      by_cases hpath : path = env.encpath
      · rw [if_pos hpath, if_pos hpath]
      · unfold otherFiles
        rw [if_neg hpath, if_neg hpath, Table.lookup_erase, if_neg (Ne.symm hpath)]
    exact (foreignFiles_writeOutput env encrypted
      { work with files := work.files.erase env.encpath }).trans herased

/-- Nothing is left of the encryption but the output. -/
def EncryptionGone (v : String → Option (List UInt8)) (work : BundleWork) : Prop :=
  foreignFiles env work = v ∧ work.files.lookup env.encpath = none

variable {env} {v : String → Option (List UInt8)}

/-- The name of the encrypted file is a new one, and the file can be removed. -/
structure TemporaryEncpath (env : CreateEnv) : Prop where
  new : env.encpath ≠ env.bundlename
  removable : env.removable env.encpath = true

/-- The encrypted file takes the name of the output. -/
lemma triple_encryptRenamed (htemp : TemporaryEncpath env) :
    Triple (fun _ => True) (encryptToBundle env) (fun _ work => work.files.lookup env.encpath =
      none)
      (fun _ _ => True) := by
  unfold encryptToBundle
  refine triple_bind (triple_any (P := fun _ => True)) (fun _ => triple_bind triple_any (fun _ =>
    triple_bind triple_any (fun _ => ?_)))
  apply triple_read_bind
  intro work _
  cases work.files.lookup env.encpath with
  | none => exact triple_exit (fun _ _ => trivial)
  | some encrypted =>
    apply triple_external
    · intro s _
      rw [Table.lookup_set, if_neg (Ne.symm htemp.new), Table.lookup_erase, if_pos rfl]
    · exact fun _ _ _ => trivial
    · exact fun _ _ => trivial

/-- The encrypted file is gone whether the encryption succeeds or fails. -/
lemma triple_encryptGone (htemp : TemporaryEncpath env) :
    Triple (EncryptionGone env v) (CreateStep.call env .encryptPayload)
      (fun _ => EncryptionGone env v)
      (fun x work => ∀ e, x = .error e → EncryptionGone env v work) := by
  change Triple _ (read >>= fun work : BundleWork =>
    if work.manifest.bundleFormat = .crypt then encryptBundlePayload env else Pure.pure ()) _ _
  apply triple_read_bind
  intro work hwork
  by_cases hformat : work.manifest.bundleFormat = .crypt
  · rw [if_pos hformat]
    unfold encryptBundlePayload
    apply triple_read_bind
    intro s hs
    obtain rfl := hs.symm
    split_ifs with hkey
    · apply triple_exit
      intro _ _ e he
      exact absurd he (by simp)
    · have hencrypt : Triple (fun s => s = work) (encryptToBundle env)
          (fun _ s => foreignFiles env s = v ∧ s.files.lookup env.encpath = none)
          (fun _ s => foreignFiles env s = v) := by
        have hforeign := triple_and (still_encryptToBundle env v)
          (triple_consequence (triple_encryptRenamed htemp) (fun _ _ => trivial) (fun _ _ hs => hs)
            (fun _ _ hs => hs))
        apply triple_consequence hforeign
        · rintro _ rfl
          exact hwork.1
        · exact fun _ _ hs => ⟨hs.1.1, hs.2⟩
        · exact fun _ _ hs => hs.1
      have hattempt : Triple (fun s => s = work) (attempt (encryptToBundle env))
          (fun r s => foreignFiles env s = v ∧ (r = .ok () → s.files.lookup env.encpath = none))
          (fun x s => ∀ e, x = .error e → EncryptionGone env v s) := by
        apply triple_attempt
        apply triple_consequence hencrypt (fun _ hs => hs)
        · exact fun _ _ hs => ⟨hs.1, fun _ => hs.2⟩
        · intro x s hs
          cases x with
          | error e => exact ⟨hs, fun hok => absurd hok (by simp)⟩
          | aborted reason => exact fun _ herror => absurd herror (by simp)
          | stopped => exact fun _ herror => absurd herror (by simp)
      apply triple_bind hattempt
      intro result
      cases result with
      | ok _ => exact triple_pure (fun _ hs => ⟨hs.1, hs.2 rfl⟩)
      | error e =>
        have hcleanup : Triple (fun s => foreignFiles env s = v ∧
            (Except.error e = Except.ok () → s.files.lookup env.encpath = none))
              (rTempfileCleanup env env.encpath)
            (fun _ => EncryptionGone env v) (fun x s => ∀ e, x = .error e →
              EncryptionGone env v s) := by
          unfold rTempfileCleanup
          rw [if_pos htemp.removable]
          apply triple_modify
          rintro s ⟨hs, -⟩
          constructor
          · rw [← hs]
            funext path
            unfold foreignFiles
            by_cases hpath : path = env.encpath
            · rw [if_pos hpath, if_pos hpath]
            · unfold otherFiles
              rw [if_neg hpath, if_neg hpath, Table.lookup_erase, if_neg (Ne.symm hpath)]
          · rw [Table.lookup_erase, if_pos rfl]
        apply triple_bind hcleanup
        intro _
        apply triple_exit
        exact fun _ hs _ _ => hs
  · rw [if_neg hformat]
    apply triple_pure
    rintro _ rfl
    exact hwork

/-- Each call leaves the foreign files as they are. -/
lemma triple_createCall (htemp : TemporaryEncpath env) (step : CreateStep) :
    Triple (EncryptionGone env v) (CreateStep.call env step) (fun _ => EncryptionGone env v)
      (fun x work => ∀ e, x = .error e → EncryptionGone env v work) := by
  by_cases hstep : step = .encryptPayload
  · rw [hstep]
    exact triple_encryptGone htemp
  · intro w hw
    have hsame : ∀ work, otherFiles env work = otherFiles env w.state →
        EncryptionGone env v work := by
      intro work hwork
      have hlookup := congrFun hwork env.encpath
      unfold otherFiles at hlookup
      rw [if_neg htemp.new, if_neg htemp.new] at hlookup
      refine ⟨?_, hlookup.trans hw.2⟩
      rw [← hw.1]
      unfold foreignFiles
      rw [hwork]
    exact triple_consequence (still_createCall env hstep (otherFiles env w.state)) (fun _ hs => hs)
      (fun _ work hwork => hsame work hwork.1) (fun _ work hwork _ _ => hsame work hwork) w rfl

/-- All calls together. -/
lemma triple_createCalls (htemp : TemporaryEncpath env) :
    Triple (EncryptionGone env v) (each (CreateStep.call env) createSteps)
      (fun _ => EncryptionGone env v)
      (fun x work => ∀ e, x = .error e → EncryptionGone env v work) :=
  triple_each (fun _ => EncryptionGone env v) (fun step _ => triple_createCall htemp step)
    createSteps

end Creation

section Directory

/-- What is random or outside of the program behaves as usual: the encrypted file has a name of its
own, the two files can be removed, and no signature is longer than the address space. -/
structure UsualCreation (env : CreateEnv) (files : Table String (List UInt8)) : Prop where
  temporary : TemporaryEncpath env
  fresh : files.lookup env.encpath = none
  removable : env.removable env.bundlename = true
  signFile : ∀ payload, (env.cmsSignFile payload).length < 2 ^ 64
  signManifest : ∀ m, (env.cmsSignManifest m).length < 2 ^ 64

/-- A call of `create_bundle` that returns. -/
structure Creation where
  env : CreateEnv
  before : Table String (List UInt8)
  fates : Nat → Fate
  returned : CreateReturn
  after : World (Table String (List UInt8))
  usual : UsualCreation env before
  run : createBundle env ⟨before, fates⟩ = (.value returned, after)

/-- The creation succeeded: it made this payload of this image, and left both with the signature. -/
structure Creation.Made (c : Creation) (m : RaucManifest) (image payload sig : List UInt8) :
    Prop where
  success : c.returned = ⟨true, none⟩
  calls : CallsMake c.env ⟨c.before, c.fates⟩ m image
  written : c.after.state.lookup c.env.bundlename = some (signedFile payload sig)
  assembled : Assembled c.env m image payload sig

variable {before after files files' : Table String (List UInt8)} {log : List Creation}
  {content : List UInt8}

/-- Files stay as they are, and only a file of this name can be new, with a content of this kind. -/
structure OnlyAdds (name : String) (Q : List UInt8 → Prop)
    (before after : Table String (List UInt8)) : Prop where
  retains : ∀ path content, before.lookup path = some content → after.lookup path = some content
  introduced : ∀ path content, after.lookup path = some content → before.lookup path = none →
    path = name ∧ Q content

lemma Assembled.sig_lt {env : CreateEnv} {m : RaucManifest} {image payload sig : List UInt8}
    (h : Assembled env m image payload sig) (husual : UsualCreation env files) :
      sig.length < 2 ^ 64 := by
  by_cases hformat : m.bundleFormat = .plain
  · rw [h.plain hformat]
    exact husual.signFile payload
  · rw [(h.external hformat).1]
    exact husual.signManifest m

lemma OnlyAdds.refl (name : String) (Q : List UInt8 → Prop) (files : Table String (List UInt8)) :
    OnlyAdds name Q files files :=
  ⟨fun _ _ hfile => hfile, fun _ _ hfile hnone => absurd (hfile.symm.trans hnone) (by simp)⟩

/-- Only the output differs, and it is of this kind if it is there at all. -/
lemma OnlyAdds.of_foreign {Q : List UInt8 → Prop} {env : CreateEnv}
    (hnew : files.lookup env.bundlename = none)
    (hfresh : files.lookup env.encpath = none) (hgone : files'.lookup env.encpath = none)
    (hforeign : foreignFiles env { files := files' } = foreignFiles env { files := files })
    (hout : ∀ content, files'.lookup env.bundlename = some content → Q content) :
    OnlyAdds env.bundlename Q files files' := by
  have hsame : ∀ path, path ≠ env.bundlename → files'.lookup path = files.lookup path := by
    intro path hpath
    by_cases hencpath : path = env.encpath
    · rw [hencpath, hgone, hfresh]
    · have hlookup := congrFun hforeign path
      unfold foreignFiles otherFiles at hlookup
      rwa [if_neg hencpath, if_neg hencpath, if_neg hpath, if_neg hpath] at hlookup
  constructor
  · intro path content hfile
    by_cases hpath : path = env.bundlename
    · rw [hpath, hnew] at hfile
      exact absurd hfile (by simp)
    · rw [hsame path hpath, hfile]
  · intro path content hfile hnone
    by_cases hpath : path = env.bundlename
    · rw [hpath] at hfile
      exact ⟨hpath, hout content hfile⟩
    · rw [hsame path hpath, hnone] at hfile
      exact absurd hfile (by simp)

/-- A payload that this creation made, with some signature behind it. -/
def MadeBy (c : Creation) (content : List UInt8) : Prop :=
  ∃ m image payload sig, (∃ sig', c.Made m image payload sig') ∧ sig.length < 2 ^ 64 ∧
    content = signedFile payload sig

/-- The output is removed after a failure, and a bundle after a success. -/
lemma Creation.onlyAdds (c : Creation) :
    OnlyAdds c.env.bundlename (MadeBy c) c.before c.after.state := by
  have hrun := c.run
  by_cases hold : c.before.contains c.env.bundlename = true
  · obtain ⟨-, hafter⟩ :=
      Prod.mk.inj ((@createBundle_exists c.env ⟨c.before, c.fates⟩ hold).symm.trans hrun)
    rw [← hafter]
    exact OnlyAdds.refl _ _ c.before
  have hnew : c.before.lookup c.env.bundlename = none := by
    unfold Table.contains at hold
    exact Option.not_isSome_iff_eq_none.mp hold
  have hcalls := @triple_createCalls c.env (foreignFiles c.env { files := c.before })
    c.usual.temporary
    ⟨{ files := c.before }, c.fates⟩ ⟨rfl, c.usual.fresh⟩
  rcases createBundle_cases hold hrun with ⟨w₁, hvalue⟩ | ⟨step, e, w₁, hfail⟩
  · obtain ⟨hreturned, hfiles⟩ := createBundle_of_value hold hrun hvalue
    rw [hvalue] at hcalls
    rw [hfiles]
    apply OnlyAdds.of_foreign hnew c.usual.fresh hcalls.2 hcalls.1
    intro content hcontent
    obtain ⟨image, hmake, payload, sig, hwritten, hassembled⟩ := callsMake_of_steps hvalue
    have hfile : c.after.state.lookup c.env.bundlename = some (signedFile payload sig) := by
      rw [hfiles, hwritten]
    obtain rfl := Option.some.inj (hwritten.symm.trans hcontent)
    exact ⟨w₁.state.manifest, image, payload, sig, ⟨sig, hreturned, hmake, hfile, hassembled⟩,
      hassembled.sig_lt c.usual, rfl⟩
  · obtain ⟨-, hfiles⟩ := createBundle_of_failure hold hrun hfail
    rw [each_exit_iff.mpr ⟨step, hfail⟩] at hcalls
    obtain ⟨hforeign, hgone⟩ := hcalls e rfl
    have herased : c.after.state = w₁.state.files.erase c.env.bundlename := by
      rw [hfiles]
      exact if_pos c.usual.removable
    rw [herased]
    apply OnlyAdds.of_foreign hnew c.usual.fresh
    · rw [Table.lookup_erase, if_neg (Ne.symm c.usual.temporary.new), hgone]
    · rw [← hforeign]
      funext path
      unfold foreignFiles otherFiles
      by_cases hpath : path = c.env.bundlename
      · rw [if_pos hpath, if_pos hpath]
      · rw [if_neg hpath, if_neg hpath, Table.lookup_erase, if_neg (Ne.symm hpath)]
    · intro content hcontent
      rw [Table.lookup_erase, if_pos rfl] at hcontent
      exact absurd hcontent (by simp)

/-- What happens to the files of a directory: bundles are made from content directories, which are
logged, and from other bundles. -/
inductive DirectoryRun (before : Table String (List UInt8)) :
    List Creation → Table String (List UInt8) → Prop
  | start : DirectoryRun before [] before
  | created {log : List Creation} (c : Creation) (h : DirectoryRun before log c.before) :
      DirectoryRun before (log ++ [c]) c.after.state
  | served {log : List Creation} {files files' : Table String (List UInt8)}
      (h : DirectoryRun before log files)
      (hserved : Served files files') : DirectoryRun before log files'

/-- Where a file comes from: it was there in the beginning, its payload was, or one of the creations
made its payload. -/
inductive Origin (before : Table String (List UInt8)) (log : List Creation)
    (content : List UInt8) : Prop
  | kept (path : String) (h : before.lookup path = some content) : Origin before log content
  | copied (h : PayloadOfOne before content) : Origin before log content
  | made (c : Creation) (hlog : c ∈ log) (h : MadeBy c content) : Origin before log content

/-- Another signature does not change the origin of what is in front of it. -/
lemma Origin.resigned {sig : List UInt8} {max : UInt64} {opened : OpenedBundle}
    (h : Origin before log content)
    (hopened : Trailer max content opened) (hsig : sig.length < 2 ^ 64) :
    Origin before log (signedFile (content.take opened.size) sig) := by
  cases h with
  | kept path hfile => exact .copied ⟨path, content, max, opened, sig, hfile, hopened, hsig, rfl⟩
  | copied hcopied =>
    obtain ⟨source, original, max', opened', sig', hfile, hopened', hlt, rfl⟩ := hcopied
    rw [trailer_signedFile_inv hlt hopened, take_signedFile]
    exact .copied ⟨source, original, max', opened', sig, hfile, hopened', hsig, rfl⟩
  | made c hlog hmade =>
    obtain ⟨m, image, payload, sig', hmade, hlt, rfl⟩ := hmade
    rw [trailer_signedFile_inv hlt hopened, take_signedFile]
    exact .made c hlog ⟨m, image, payload, sig, hmade, hsig, rfl⟩

lemma Origin.later (h : Origin before log content) (c : Creation) :
    Origin before (log ++ [c]) content := by
  cases h with
  | kept path hfile => exact .kept path hfile
  | copied hcopied => exact .copied hcopied
  | made c' hlog hmade => exact .made c' (List.mem_append_left [c] hlog) hmade

lemma DirectoryRun.retains (h : DirectoryRun before log files) {path : String}
    (hfile : before.lookup path = some content) : files.lookup path = some content := by
  induction h with
  | start => exact hfile
  | created c _ ih => exact c.onlyAdds.retains path content ih
  | served _ hserved ih => exact hserved.payloadsKept.retains path content ih

/-- Each file has one of the origins, after any run. -/
lemma DirectoryRun.origin (h : DirectoryRun before log files) {path : String}
    (hfile : files.lookup path = some content) :
    Origin before log content := by
  induction h generalizing path content with
  | start => exact .kept path hfile
  | created c _ ih =>
    cases hold : c.before.lookup path with
    | some old =>
      obtain rfl := Option.some.inj ((c.onlyAdds.retains path old hold).symm.trans hfile)
      exact (ih hold).later c
    | none =>
      obtain ⟨-, hmade⟩ := c.onlyAdds.introduced path content hfile hold
      exact .made c (List.mem_append_right _ (List.mem_singleton_self c)) hmade
  | @served _ files _ _ hserved ih =>
    cases hold : files.lookup path with
    | some old =>
      obtain rfl := Option.some.inj ((hserved.payloadsKept.retains path old hold).symm.trans hfile)
      exact ih hold
    | none =>
      obtain ⟨source, original, max, opened, sig, hsource, hopened, hsig, rfl⟩ :=
        hserved.payloadsKept.introduced path content hfile hold
      exact (ih hsource).resigned hopened hsig

/-- The signature is the one that is found. -/
lemma MadeBy.givesBack {c : Creation} {max : UInt64} {opened : OpenedBundle} (h : MadeBy c content)
    (hopened : Trailer max content opened) : ∃ m image payload sig, c.Made m image payload sig ∧
      content = signedFile payload opened.sigdata ∧
        GivesBack c.env m image payload opened.sigdata max := by
  obtain ⟨m, image, payload, sig, ⟨sig', hmade⟩, hlt, rfl⟩ := h
  obtain ⟨payload', hsame, hsize, hpos, hmax⟩ := trailer_iff.mp hopened
  have hlength : payload'.length = payload.length := by
    rw [← hsize]
    exact trailer_signedFile_inv hlt hopened
  have hpayload : payload = payload' := by
    rw [signedFile_eq, signedFile_eq] at hsame
    exact (List.append_inj hsame hlength.symm).1
  rw [← hpayload] at hsame
  exact ⟨m, image, payload, sig', hmade, hsame, hmade.assembled.made.givesBack hpos hmax⟩

/-- In a directory in which bundles are made, resigned, encrypted and given other signatures, in any
order and with any errors on the way: no file is changed or lost, and each file that can be opened
has the payload of a file of the beginning, or one of the creations succeeded and from the file one
gets the image back that was made in it. -/
theorem bundle_directory_gives_back (before after : Table String (List UInt8)) (log : List Creation)
    (h : DirectoryRun before log after) :
    (∀ path content, before.lookup path = some content → after.lookup path = some content) ∧
      ∀ path content max opened, after.lookup path = some content → Trailer max content opened →
        (∃ path' original max' opened', before.lookup path' = some original ∧
          Trailer max' original opened' ∧
          content.take opened.size = original.take opened'.size) ∨
        ∃ c ∈ log, ∃ m image payload sig, c.Made m image payload sig ∧
          content = signedFile payload opened.sigdata ∧
          GivesBack c.env m image payload opened.sigdata max := by
  refine ⟨fun path content hfile => h.retains hfile, fun path content max opened hfile hopened =>
    ?_⟩
  cases h.origin hfile with
  | kept path' hkept => exact .inl ⟨path', content, max, opened, hkept, hopened, rfl⟩
  | copied hcopied =>
    obtain ⟨source, original, max', opened', sig, hsource, hopened', hsig, rfl⟩ := hcopied
    refine .inl ⟨source, original, max', opened', hsource, hopened', ?_⟩
    rw [trailer_signedFile_inv hsig hopened, take_signedFile]
  | made c hlog hmade => exact .inr ⟨c, hlog, hmade.givesBack hopened⟩

/-- The creation of a bundle of two blocks. -/
lemma creation_blocks {name : String} (hname : name ≠ smallContent.encpath) {format : BundleFormat}
    (hformat : format ≠ .plain) {files : Table String (List UInt8)}
    (hnew : files.contains name = false)
    (hfresh : files.lookup smallContent.encpath = none) :
    ∃ c : Creation, c.env = blocksContent name format ∧ c.before = files ∧
      c.after.state.lookup name =
        some (signedFile (blocksPayload format) (formatSignature format)) := by
  obtain ⟨files', hrun, hfile⟩ := createBundle_blocks hname hformat hnew
  have hshort : [(48 : UInt8)].length < 2 ^ 64 := by norm_num
  have husual : UsualCreation (blocksContent name format) files := by
    refine ⟨⟨Ne.symm hname, rfl⟩, hfresh, rfl, fun _ => hshort, fun m => ?_⟩
    have hone : ((blocksContent name format).cmsSignManifest m).length = 1 :=
      length_cmsSignManifest m
    rw [hone]
    norm_num
  exact ⟨⟨_, files, fun _ => .succeeds, ⟨true, none⟩, calm files', husual, hrun⟩, rfl, rfl, hfile⟩

/-- A bundle with a hash tree and an encrypted one that are made in an empty directory, one after
the other. -/
theorem bundle_directory_gives_back_small : ∃ log after, DirectoryRun Table.empty log after ∧
    log.length = 2 ∧
    ∀ format ≠ BundleFormat.plain, ∃ c ∈ log, ∃ m image payload sig, c.Made m image payload sig ∧
      signedFile (blocksPayload format) (formatSignature format) =
        signedFile payload (formatSignature format) ∧
        GivesBack c.env m image payload (formatSignature format) 1024 := by
  have hshort : ∀ format, 0 < (formatSignature format).length ∧ (formatSignature format).length ≤
      (1024 : UInt64).toNat := by
    intro format
    rw [length_formatSignature]
    decide
  have hempty : (Table.empty : Table String (List UInt8)).contains "verity.raucb" =
    false := by decide
  obtain ⟨c, henv, hbefore, hfile⟩ := @creation_blocks "verity.raucb" (by decide) .verity
    (by decide) Table.empty hempty rfl
  have hadds := c.onlyAdds
  rw [henv, hbefore] at hadds
  have hnone : ∀ path ≠ "verity.raucb", c.after.state.lookup path = none := by
    intro path hpath
    cases hlookup : c.after.state.lookup path with
    | none => rfl
    | some content => exact absurd (hadds.introduced path content hlookup rfl).1 hpath
  have hnew : c.after.state.contains "crypt.raucb" = false := by
    unfold Table.contains
    rw [hnone "crypt.raucb" (by decide)]
    rfl
  obtain ⟨c', henv', hbefore', hfile'⟩ :=
    @creation_blocks "crypt.raucb" (by decide) .crypt (by decide) c.after.state
    hnew (hnone smallContent.encpath (by decide))
  have hrun : DirectoryRun Table.empty [c, c'] c'.after.state := by
    have hfirst : DirectoryRun Table.empty [c] c.after.state :=
      .created c (by rw [hbefore]; exact .start)
    exact .created c' (by rw [hbefore']; exact hfirst)
  have hkept := c'.onlyAdds.retains "verity.raucb" _ (by rw [hbefore']; exact hfile)
  have hback := (bundle_directory_gives_back Table.empty c'.after.state [c, c'] hrun).2
  have hmade : ∀ path format, c'.after.state.lookup path =
      some (signedFile (blocksPayload format) (formatSignature format)) →
      ∃ c'' ∈ [c, c'], ∃ m image payload sig, c''.Made m image payload sig ∧
        signedFile (blocksPayload format) (formatSignature format) =
          signedFile payload (formatSignature format) ∧
          GivesBack c''.env m image payload (formatSignature format) 1024 := by
    intro path format hlookup
    rcases hback path _ 1024 ⟨_, formatSignature format⟩ hlookup
      (trailer_signedFile (hshort format).1 (hshort format).2) with ⟨_, _, _, _, hold, -⟩ | hmade
    · exact absurd hold (by simp)
    · exact hmade
  refine ⟨[c, c'], c'.after.state, hrun, rfl, ?_⟩
  intro format hformat
  cases format with
  | plain => exact absurd rfl hformat
  | verity => exact hmade "verity.raucb" .verity hkept
  | crypt => exact hmade "crypt.raucb" .crypt hfile'

end Directory

end RaucUpdate
