import RaucUpdate.Proofs.CreateBundle
import RaucUpdate.Proofs.CreatedTree
import RaucUpdate.Proofs.Crypt
import RaucUpdate.Proofs.PayloadAlignment

/-!
# A bundle that was made is one that is accepted

What the creation of a bundle writes depends on its format: the image alone, the image with its hash
tree, or the encrypted image with the hash tree of the encrypted one. The manifest that is signed
says how to get back to the image.
-/

namespace RaucUpdate

open Library Prog

section Keys

variable {m m' : RaucManifest}

/-- The key of an accepted manifest can be read. -/
lemma checkManifestExternal_key (h : checkManifestExternal m = .ok m')
    (hformat : m.bundleFormat = .crypt) :
    ∃ key, m.bundleCryptKey.bind (fun hex => rHexDecode hex 32) = some key := by
  cases hkey : checkHexField "key for crypt" m.bundleCryptKey with
  | ok _ => exact checkHexField_ok hkey
  | error e =>
    unfold checkManifestExternal checkFormatExternal at h
    rw [hformat] at h
    simp only [hkey] at h
    cases hcommon : checkManifestCommon m with
    | error e' => exact absurd h (by simp [hcommon, Bind.bind, Except.bind])
    | ok _ => exact absurd h (by simp [hcommon, Bind.bind, Except.bind])

end Keys

section Payloads

variable (env : CreateEnv)

/-- The image that `mksquashfs` makes of the content directory as these variables have it. -/
def squashedImage (work : BundleWork) : List UInt8 :=
  env.squashfs work.manifest work.mksquashfsMetadata work.fakeroot

/-- The image is encrypted sector by sector with the key in the manifest. -/
def Encrypted (m : RaucManifest) (image data : List UInt8) : Prop :=
  m.bundleCryptKey = some (rHexEncode env.cryptKey) ∧ ∃ n, image.length = n * encSecSize ∧
    data = sectorwise encSecSize (cryptSector env.cipher true env.cryptKey) n 0 image

/-- The data with the hash tree that the manifest describes. -/
def WithTree (m : RaucManifest) (data payload : List UInt8) : Prop :=
  ∃ n created levels, data.length = 4096 * n ∧
    CreatedTree env.sha256 env.veritySalt data n created levels ∧
    payload = created.file ∧ m.bundleVeritySalt = some (rHexEncode env.veritySalt) ∧
    m.bundleVerityHash = some (rHexEncode created.digest.bytes) ∧
    m.bundleVeritySize = UInt64.ofNat (created.combinedBlocks * 4096 - data.length)

/-- The payload that the format of the manifest asks for. -/
def MadeFrom (m : RaucManifest) (image payload : List UInt8) : Prop :=
  (m.bundleFormat = .plain → payload = image) ∧
    (m.bundleFormat = .verity → WithTree env m image payload) ∧
    (m.bundleFormat = .crypt → ∃ data, Encrypted env m image data ∧ WithTree env m data payload)

variable {env} {image : List UInt8}

/-- A step that may be left out and of which nothing is known. -/
lemma triple_after_any {σ ε β : Type} {P : σ → Prop} {R : β → σ → Prop} {c : Prop} [Decidable c]
    {p : Prog σ ε Unit}
    {f : Unit → Prog σ ε β} (h : Triple (fun _ => True) (f ()) R (fun _ _ => True)) :
    Triple P (if c then p >>= f else f ()) R (fun _ _ => True) := by
  by_cases hc : c
  · rw [if_pos hc]
    exact triple_bind triple_any (fun _ => h)
  · rw [if_neg hc]
    exact triple_consequence h (fun _ _ => trivial) (fun _ _ hs => hs) (fun _ _ hs => hs)

lemma triple_mksquashfs (work : BundleWork) :
    Triple (fun s => s = work) (mksquashfs env)
      (fun _ s => s.files.lookup env.bundlename = some (squashedImage env work))
        (fun _ _ => True) := by
  unfold mksquashfs
  apply triple_read_bind
  intro s hs
  obtain rfl := hs.symm
  by_cases hexists : work.files.contains env.bundlename = true
  · rw [if_pos hexists]
    exact triple_exit (fun _ _ => trivial)
  rw [if_neg hexists]
  apply triple_after_any
  refine triple_bind (Q := fun _ _ => True)
    (triple_ask (fun _ _ _ => trivial) (fun _ _ => trivial)) ?_
  intro failure
  cases failure with
  | none =>
    apply triple_modify
    intro s _
    unfold writeOutput
    rw [Table.lookup_set, if_pos rfl]
    rfl
  | some failure =>
    cases env.squashfsLeft with
    | none => exact triple_exit (fun _ _ => trivial)
    | some left => exact triple_bind triple_any (fun _ => triple_exit (fun _ _ => trivial))

/-- What the encryption writes; over its own input it writes nothing. -/
lemma triple_rCryptEncrypt (image : List UInt8) :
    Triple (fun files => files.lookup env.bundlename = some image)
      (rCryptEncrypt env.cipher env.cryptKey env.bundlename env.encpath)
      (fun _ files => ∃ data, files.lookup env.encpath = some data ∧
        (data ≠ [] → ∃ n, image.length = n * encSecSize ∧
        data = sectorwise encSecSize (cryptSector env.cipher true env.cryptKey) n 0 image))
          (fun _ _ => True) := by
  apply triple_start
  intro files hfiles
  by_cases hpaths : env.bundlename = env.encpath
  · unfold rCryptEncrypt rCryptEncryptOrDecrypt
    refine triple_bind triple_any (fun _ => ?_)
    apply triple_read_bind
    intro files' _
    cases hlookup : files'.lookup env.bundlename with
    | none => exact triple_exit (fun _ _ => trivial)
    | some _ =>
      refine triple_bind (Q := fun _ files => files.lookup env.encpath = some []) ?_ ?_
      · apply triple_external
        · intro s _
          rw [Table.lookup_set, if_pos rfl]
        · exact fun _ _ _ => trivial
        · exact fun _ _ => trivial
      intro _
      apply triple_read_bind
      intro opened hopened
      apply triple_mapError _ (fun _ _ _ => trivial)
      rw [hpaths, hopened, Option.getD_some]
      have hempty := Prog.sure_bind (R := fun _ (files : Table String (List UInt8)) =>
        files.lookup env.encpath =
          some []) (sure_evpCipherInit (P := fun files => files.lookup env.encpath = some [])
          "Error setting cipher") (fun _ => @sure_cryptSectors_end _ env.cipher true env.cryptKey
            env.encpath 0 0
            (fun files => files.lookup env.encpath = some []) 0)
      apply triple_consequence hempty.triple
      · rintro _ rfl
        exact hopened
      · intro _ s hs
        exact ⟨[], hs, fun hne => absurd rfl hne⟩
      · exact fun _ _ _ => trivial
  · by_cases hsectors : encSecSize ∣ image.length
    · obtain ⟨n, hn⟩ := hsectors
      have hdata : image.length = n * encSecSize := hn.trans (Nat.mul_comm _ _)
      rw [← List.append_nil image] at hfiles
      have hsure := sure_rCryptEncryptOrDecrypt env.cipher true env.cryptKey hpaths hfiles hdata
        (.inl ⟨rfl, .inl rfl⟩)
      apply triple_consequence hsure.triple (fun _ hs => hs) ?_ (fun _ _ h => h)
      intro _ s hs
      exact ⟨_, hs.1, fun _ => ⟨n, hdata, rfl⟩⟩
    · have hwhole : (image.take (image.length / encSecSize * encSecSize)).length =
          image.length / encSecSize * encSecSize := by
        rw [List.length_take, Nat.min_eq_left (Nat.div_mul_le_self _ _)]
      have hrest : (image.drop (image.length / encSecSize * encSecSize)).length =
          image.length % encSecSize := by
        have hsplit := Nat.div_add_mod' image.length encSecSize
        rw [List.length_drop]
        omega
      have hshort := Nat.mod_lt image.length (by decide : 0 < encSecSize)
      have hsome : 0 < image.length % encSecSize :=
        Nat.pos_of_ne_zero (fun hzero => hsectors (Nat.dvd_of_mod_eq_zero hzero))
      rw [← List.take_append_drop (image.length / encSecSize * encSecSize) image] at hfiles
      have hrefused := refuses_rCryptEncryptOrDecrypt env.cipher true env.cryptKey hpaths
        hfiles hwhole
        (by rw [hrest]; exact hsome) (by rw [hrest]; exact hshort)
      exact triple_consequence hrefused.triple (fun _ hs => hs) (fun _ _ hfalse => hfalse.elim)
        (fun _ _ h => h)

/-- The output holds the data that the hash tree is made for. -/
def DataWritten (env : CreateEnv) (image : List UInt8) (work : BundleWork) : Prop :=
  ∃ data, work.files.lookup env.bundlename = some data ∧
    (data ≠ [] → work.manifest.bundleFormat = .crypt → Encrypted env work.manifest image data) ∧
    (work.manifest.bundleFormat ≠ .crypt → data = image)

lemma triple_encryptToBundle :
    Triple (fun work => work.files.lookup env.bundlename = some image ∧
      work.manifest.bundleFormat = .crypt)
      (encryptToBundle env) (fun _ => DataWritten env image) (fun _ _ => True) := by
  unfold encryptToBundle
  apply triple_bind (triple_external_id (fun _ _ _ => trivial))
  intro _
  refine triple_bind (Q := fun _ work => work.manifest.bundleFormat = .crypt ∧ ∃ data,
    work.files.lookup env.encpath = some data ∧ (data ≠ [] → ∃ n, image.length = n * encSecSize ∧
      data = sectorwise encSecSize (cryptSector env.cipher true env.cryptKey) n 0 image)) ?_ ?_
  · apply triple_zoom
    rintro work ⟨hfile, hformat⟩
    apply triple_consequence (triple_rCryptEncrypt image) ?_ ?_ (fun _ _ _ => trivial)
    · rintro _ rfl
      exact hfile
    · intro _ files hfiles
      exact ⟨hformat, hfiles⟩
  intro _
  refine triple_bind (Q := fun _ work => work.manifest.bundleFormat = .crypt ∧
    work.manifest.bundleCryptKey = some (rHexEncode env.cryptKey) ∧
      ∃ data, work.files.lookup env.encpath = some data ∧
      (data ≠ [] → ∃ n, image.length = n * encSecSize ∧
        data = sectorwise encSecSize (cryptSector env.cipher true env.cryptKey) n 0 image)) ?_ ?_
  · apply triple_modify
    rintro work ⟨hformat, hdata⟩
    exact ⟨hformat, rfl, hdata⟩
  intro _
  apply triple_read_bind
  rintro work ⟨hformat, hkey, data, hfile, hdata⟩
  rw [hfile]
  apply triple_external
  · rintro _ rfl
    refine ⟨data, ?_, fun hne _ => ⟨hkey, hdata hne⟩, fun hother => absurd hformat hother⟩
    rw [Table.lookup_set, if_pos rfl]
  · exact fun _ _ _ => trivial
  · exact fun _ _ => trivial

lemma triple_encryptPayload :
    Triple (fun work => work.files.lookup env.bundlename = some image)
      (CreateStep.call env .encryptPayload)
      (fun _ => DataWritten env image) (fun _ _ => True) := by
  change Triple _ (read >>= fun work : BundleWork =>
    if work.manifest.bundleFormat = .crypt then encryptBundlePayload env else Pure.pure ()) _ _
  apply triple_read_bind
  intro work hfile
  by_cases hformat : work.manifest.bundleFormat = .crypt
  · rw [if_pos hformat]
    unfold encryptBundlePayload
    apply triple_read_bind
    intro s hs
    obtain rfl := hs.symm
    split_ifs with hkey
    · exact triple_exit (fun _ _ => trivial)
    · have hencrypt : Triple (fun s => s = work) (encryptToBundle env)
          (fun _ => DataWritten env image)
          (fun _ _ => True) := by
        apply triple_consequence triple_encryptToBundle ?_ (fun _ _ h => h) (fun _ _ h => h)
        rintro _ rfl
        exact ⟨hfile, hformat⟩
      apply triple_bind (triple_attempt_cases hencrypt)
      intro result
      cases result with
      | ok _ => exact triple_pure (fun _ h => h)
      | error e => exact triple_bind triple_any (fun _ => triple_exit (fun _ _ => trivial))
  · rw [if_neg hformat]
    apply triple_pure
    rintro _ rfl
    exact ⟨image, hfile, fun _ hcrypt => absurd hcrypt hformat, fun _ => rfl⟩

/-- The output holds the payload that the manifest describes. -/
def PayloadWritten (env : CreateEnv) (image : List UInt8) (work : BundleWork) : Prop :=
  ∃ payload, work.files.lookup env.bundlename = some payload ∧
    MadeFrom env work.manifest image payload

lemma triple_appendHashTree {m : RaucManifest} {data : List UInt8}
    (hblocks : data.length % 4096 = 0)
    (hlong : 4096 < data.length) (hformat : m.bundleFormat ≠ .plain)
    (hcrypt : m.bundleFormat = .crypt → Encrypted env m image data)
    (hother : m.bundleFormat ≠ .crypt → data = image) :
    Triple (fun work => work.manifest = m) (appendHashTree env data)
      (fun _ => PayloadWritten env image)
      (fun _ _ => True) := by
  unfold appendHashTree
  refine triple_bind (Q := fun _ work => work.manifest =
    m) (triple_ask (fun _ _ h => h) (fun _ _ => trivial)) ?_
  intro failure
  cases failure with
  | some failure => exact triple_bind triple_any (fun _ => triple_exit (fun _ _ => trivial))
  | none =>
    cases hcreate : rVerityHashCreate env.sha256 data (data.length / 4096) env.veritySalt with
    | error e => exact triple_bind triple_any (fun _ => triple_exit (fun _ _ => trivial))
    | ok created =>
      have hcount : data.length = 4096 * (data.length / 4096) := by omega
      obtain ⟨levels, htree⟩ := rVerityHashCreate_inv (by omega) hcount hcreate
      refine triple_bind (Q := fun _ work => work.manifest = m ∧ work.files.lookup env.bundlename =
        some created.file)
        ?_ ?_
      · apply triple_modify
        rintro work rfl
        refine ⟨rfl, ?_⟩
        unfold writeOutput
        rw [Table.lookup_set, if_pos rfl]
      intro _
      split_ifs with hsmall
      · exact triple_exit (fun _ _ => trivial)
      · apply triple_modify
        rintro work ⟨rfl, hfile⟩
        have hwith : WithTree env { work.manifest with
            bundleVeritySalt := some (rHexEncode env.veritySalt)
            bundleVerityHash := some (rHexEncode created.digest.bytes)
            bundleVeritySize := UInt64.ofNat (created.combinedBlocks * 4096 - data.length) } data
              created.file :=
          ⟨_, created, levels, hcount, htree, rfl, rfl, rfl, rfl⟩
        refine ⟨created.file, hfile, fun hplain => absurd hplain hformat, fun hverity => ?_,
          fun hcrypted => ?_⟩
        · have hnot : work.manifest.bundleFormat ≠ .crypt := by
            intro hcrypted
            exact absurd (hverity.symm.trans hcrypted) (by decide)
          rw [← hother hnot]
          exact hwith
        · exact ⟨data, hcrypt hcrypted, hwith⟩

lemma triple_createVerity :
    Triple (fun work => DataWritten env image work ∧ work.manifest.bundleFormat ≠ .plain)
      (createVerity env)
      (fun _ => PayloadWritten env image) (fun _ _ => True) := by
  unfold createVerity
  apply triple_bind (triple_external_id (fun _ _ _ => trivial))
  intro _
  apply triple_read_bind
  rintro work ⟨⟨data, hfile, hcrypt, hother⟩, hformat⟩
  rw [hfile]
  simp only
  by_cases hsalt : work.manifest.bundleVeritySalt.isSome = true
  · rw [if_pos hsalt]
    exact triple_exit (fun _ _ => trivial)
  by_cases hhash : work.manifest.bundleVerityHash.isSome = true
  · rw [if_neg hsalt, if_pos hhash]
    exact triple_exit (fun _ _ => trivial)
  by_cases hsize : work.manifest.bundleVeritySize ≠ 0
  · rw [if_neg hsalt, if_neg hhash, if_pos hsize]
    exact triple_exit (fun _ _ => trivial)
  rw [if_neg hsalt, if_neg hhash, if_neg hsize]
  apply triple_bind (triple_external_id (fun _ _ _ => trivial))
  intro _
  apply triple_bind (triple_external_id (fun _ _ _ => trivial))
  intro _
  split_ifs with hblocks hshort
  · exact triple_exit (fun _ _ => trivial)
  · exact triple_exit (fun _ _ => trivial)
  · have hlong := Nat.not_le.mp hshort
    have hne : data ≠ [] := List.ne_nil_of_length_pos (by omega)
    apply triple_consequence (triple_appendHashTree (not_not.mp hblocks) hlong hformat
      (hcrypt hne) hother) ?_
      (fun _ _ h => h) (fun _ _ h => h)
    rintro _ rfl
    rfl

/-- The signature is over the payload or over the manifest that is left. -/
def PayloadSigned (env : CreateEnv) (image : List UInt8) (sig : List UInt8) (work : BundleWork) :
    Prop :=
  ∃ payload, work.files.lookup env.bundlename = some payload ∧
    MadeFrom env work.manifest image payload ∧
    (work.manifest.bundleFormat = .plain → sig = env.cmsSignFile payload) ∧
    (work.manifest.bundleFormat ≠ .plain → sig = env.cmsSignManifest work.manifest ∧
      checkManifestExternal work.manifest = .ok work.manifest)

lemma triple_completeManifest {text : String} {check : RaucManifest → Except GError RaucManifest}
    {P : BundleWork → Prop} {Q : BundleWork → Prop}
    (h : ∀ work m, P work → check work.manifest = .ok m → Q { work with manifest := m }) :
    Triple P (completeManifest text check) (fun _ => Q) (fun _ _ => True) := by
  unfold completeManifest
  apply triple_read_bind
  intro work hwork
  cases hcheck : check work.manifest with
  | error e => exact triple_exit (fun _ _ => trivial)
  | ok m =>
    apply triple_modify
    rintro _ rfl
    exact h _ m hwork hcheck

lemma triple_signPayload :
    Triple (PayloadWritten env image) (generateBundleSignature env) (PayloadSigned env image)
      (fun _ _ => True) := by
  unfold generateBundleSignature
  apply triple_read_bind
  intro work hwork
  split_ifs with hplain
  · refine triple_bind (Q := fun _ work => PayloadWritten env image work ∧
      work.manifest.bundleFormat = .plain) ?_ ?_
    · apply triple_completeManifest
      rintro _ m rfl hcheck
      obtain ⟨images, -, rfl⟩ := checkManifestInternal_ok hcheck
      exact ⟨hwork, hplain⟩
    intro _
    apply triple_bind (triple_external_id (fun _ _ _ => trivial))
    intro _
    apply triple_read_bind
    rintro work' ⟨⟨payload, hfile, hmade⟩, hplain'⟩
    apply triple_pure
    rintro _ rfl
    refine ⟨payload, hfile, hmade, fun _ => ?_, fun hnot => absurd hplain' hnot⟩
    rw [hfile, Option.getD_some]
  · refine triple_bind (Q := fun _ work => PayloadWritten env image work ∧
      checkManifestExternal work.manifest = .ok work.manifest ∧
        work.manifest.bundleFormat ≠ .plain) ?_ ?_
    · apply triple_completeManifest
      rintro _ m rfl hcheck
      obtain ⟨images, -, rfl⟩ := checkManifestExternal_ok hcheck
      exact ⟨hwork, checkManifestExternal_again hcheck, hplain⟩
    intro _
    apply triple_bind (triple_external_id (fun _ _ _ => trivial))
    intro _
    apply triple_read_bind
    rintro work' ⟨⟨payload, hfile, hmade⟩, hcheck, hformat⟩
    apply triple_pure
    rintro _ rfl
    exact ⟨payload, hfile, hmade, fun hplain' => absurd hplain' hformat, fun _ => ⟨rfl, hcheck⟩⟩

/-- A whole bundle: the payload with its signature behind it. -/
structure Assembled (env : CreateEnv) (m : RaucManifest) (image payload sig : List UInt8) :
    Prop where
  made : MadeFrom env m image payload
  plain : m.bundleFormat = .plain → sig = env.cmsSignFile payload
  external : m.bundleFormat ≠ .plain → sig = env.cmsSignManifest m ∧ checkManifestExternal m = .ok m

def BundleWritten (env : CreateEnv) (image : List UInt8) (work : BundleWork) : Prop :=
  ∃ payload sig, work.files.lookup env.bundlename = some (signedFile payload sig) ∧
    Assembled env work.manifest image payload sig

lemma triple_appendSigned (sig : List UInt8) :
    Triple (PayloadSigned env image sig) (appendToBundle env sig)
      (fun _ => BundleWritten env image) (fun _ _ => True) := by
  unfold appendToBundle
  apply triple_read_bind
  rintro work ⟨payload, hfile, hmade, hplain, hexternal⟩
  rw [hfile]
  apply triple_zoom
  rintro _ rfl
  apply triple_consequence (@triple_appendSignatureToBundle payload sig) ?_ ?_
    (fun _ _ _ => trivial)
  · rintro _ rfl
    rfl
  · intro _ file hcontent
    refine ⟨payload, sig, ?_, hmade, hplain, hexternal⟩
    unfold writeOutput
    rw [Table.lookup_set, if_pos rfl, hcontent]

lemma triple_signWritten :
    Triple (DataWritten env image) (signBundle env) (fun _ => BundleWritten env image)
      (fun _ _ => True) := by
  unfold signBundle
  apply triple_read_bind
  intro work hdata
  split_ifs with hformat
  · have hverity : Triple (fun s => s = work) (createVerity env)
        (fun _ => PayloadWritten env image) (fun _ _ => True) := by
      apply triple_consequence triple_createVerity ?_ (fun _ _ h => h) (fun _ _ h => h)
      rintro _ rfl
      exact ⟨hdata, hformat⟩
    exact triple_bind hverity (fun _ => triple_bind triple_signPayload triple_appendSigned)
  · have hplain := not_not.mp hformat
    have hwritten : PayloadWritten env image work := by
      obtain ⟨data, hfile, -, hother⟩ := hdata
      have hnot : work.manifest.bundleFormat ≠ .crypt := by
        rw [hplain]
        decide
      refine ⟨data, hfile, fun _ => hother hnot, fun hverity => ?_, fun hcrypt =>
        absurd hcrypt hnot⟩
      exact absurd (hplain.symm.trans hverity) (by decide)
    have hsign : Triple (fun s => s = work) (generateBundleSignature env) (PayloadSigned env image)
        (fun _ _ => True) := by
      apply triple_consequence triple_signPayload ?_ (fun _ _ h => h) (fun _ _ h => h)
      rintro _ rfl
      exact hwritten
    exact triple_bind hsign triple_appendSigned

/-- When every call succeeds the bundle is there, with the image that was made after the first
nine. -/
lemma createSteps_written {w w' : World BundleWork}
    (h : each (CreateStep.call env) createSteps w = (.value (), w')) :
    ∃ w₁, each (CreateStep.call env) (createSteps.take 9) w = (.value (), w₁) ∧
      BundleWritten env (squashedImage env w₁.state) w'.state := by
  rw [show createSteps = createSteps.take 9 ++
    (.mksquashfs :: [.encryptPayload, .signBundle, .removeWorkdir])
    from rfl, each_append] at h
  obtain ⟨⟨⟩, w₁, hprepared, hwritten⟩ := bind_eq_value h
  refine ⟨w₁, hprepared, ?_⟩
  have hlast : Triple (fun work => work.files.lookup env.bundlename =
      some (squashedImage env w₁.state))
      (each (CreateStep.call env) [.encryptPayload, .signBundle, .removeWorkdir])
      (fun _ => BundleWritten env (squashedImage env w₁.state)) (fun _ _ => True) := by
    refine triple_bind triple_encryptPayload (fun _ => triple_bind triple_signWritten
        (fun _ => triple_bind ?_ (fun _ =>
      triple_pure (fun _ hwork => hwork))))
    exact triple_mapError (triple_external_id (fun _ _ _ => trivial)) (fun _ _ _ => trivial)
  have hend := triple_bind (triple_mksquashfs w₁.state) (fun _ => hlast) w₁ rfl
  change Holds _ _ (each (CreateStep.call env) (.mksquashfs :: [.encryptPayload, .signBundle,
    .removeWorkdir]) w₁) at hend
  rwa [hwritten] at hend

/-- All calls succeed for these files: `mksquashfs` makes the image, and the manifest is the one
that is left. -/
structure CallsMake (env : CreateEnv) (w : World (Table String (List UInt8))) (m : RaucManifest)
    (image : List UInt8) :
    Prop where
  squashed : ∃ w₁, each (CreateStep.call env) (createSteps.take 9) ⟨{ files := w.state },
    w.fates⟩ = (.value (), w₁) ∧
    image = squashedImage env w₁.state
  left : ∃ w₁, each (CreateStep.call env) createSteps ⟨{ files := w.state }, w.fates⟩ =
    (.value (), w₁) ∧
    m = w₁.state.manifest

lemma callsMake_of_steps {w : World (Table String (List UInt8))} {w₁ : World BundleWork}
    (h : each (CreateStep.call env) createSteps ⟨{ files := w.state }, w.fates⟩ = (.value (), w₁)) :
    ∃ image, CallsMake env w w₁.state.manifest image ∧ BundleWritten env image w₁.state := by
  obtain ⟨w₂, hprepared, hwritten⟩ := createSteps_written h
  exact ⟨_, ⟨⟨w₂, hprepared, rfl⟩, ⟨w₁, h, rfl⟩⟩, hwritten⟩

/-- A call without an error leaves a whole bundle. -/
lemma createBundle_written {w w' : World (Table String (List UInt8))}
    (hrun : createBundle env w = (.value ⟨true, none⟩, w')) :
    ∃ m image payload sig, CallsMake env w m image ∧
      w'.state.lookup env.bundlename = some (signedFile payload sig) ∧
        Assembled env m image payload sig := by
  have hnew : ¬w.state.contains env.bundlename = true := by
    intro hold
    exact absurd (Outcome.value.inj (Prod.mk.inj ((createBundle_exists hold).symm.trans hrun)).1)
      (by simp)
  rcases createBundle_cases hnew hrun with ⟨w₁, hcalls⟩ | ⟨step, e, w₁, hfail⟩
  · obtain ⟨-, hfiles⟩ := createBundle_of_value hnew hrun hcalls
    obtain ⟨image, hmake, payload, sig, hfile, hassembled⟩ := callsMake_of_steps hcalls
    exact ⟨w₁.state.manifest, image, payload, sig, hmake, by rw [hfiles, hfile], hassembled⟩
  · obtain ⟨hr, -⟩ := createBundle_of_failure hnew hrun hfail
    exact absurd (congrArg CreateReturn.error hr) (by simp)

end Payloads

section Opening

variable {env : CreateEnv} {m read : RaucManifest} {bundle : RaucBundle}
  {image data payload sig tail : List UInt8}

/-- Two manifests protect their payload in the same way. -/
structure SameProtection (m read : RaucManifest) : Prop where
  format : read.bundleFormat = m.bundleFormat
  hash : read.bundleVerityHash = m.bundleVerityHash
  salt : read.bundleVeritySalt = m.bundleVeritySalt
  size : read.bundleVeritySize = m.bundleVeritySize
  key : read.bundleCryptKey = m.bundleCryptKey

lemma SameProtection.refl (m : RaucManifest) : SameProtection m m := ⟨rfl, rfl, rfl, rfl, rfl⟩

lemma SameProtection.withTree (h : SameProtection m read) (htree : WithTree env m data payload) :
    WithTree env read data payload := by
  obtain ⟨n, created, levels, hdata, hcreated, hpayload, hsalt, hhash, hsize⟩ := htree
  exact ⟨n, created, levels, hdata, hcreated, hpayload, h.salt.trans hsalt, h.hash.trans hhash,
    h.size.trans hsize⟩

/-- The sizes of a payload with its hash tree. -/
lemma WithTree.sizes (h : WithTree env read data payload) (hsize : bundle.size = payload.length) :
    bundle.size % 4096 = 0 ∧ bundle.dataSize read = data.length ∧ data.length % 4096 = 0 ∧
      payload.take data.length = data ∧ data.length + 4096 ≤ payload.length ∧ 0 < data.length := by
  obtain ⟨n, created, levels, hdata, hcreated, rfl, -, -, hverity⟩ := h
  have harea := hcreated.area
  have hstart := hcreated.start
  have hreach := hcreated.reach
  have hlength := hcreated.length
  have htree : read.bundleVeritySize.toNat = created.combinedBlocks * 4096 - data.length := by
    rw [hverity, UInt64.toNat_ofNat']
    exact Nat.mod_eq_of_lt (by omega)
  have hfront : created.file.take data.length = data := by
    rw [hdata]
    exact hcreated.data
  have hpos := hcreated.verified.pos
  refine ⟨by omega, ?_, by omega, hfront, by omega, by omega⟩
  unfold RaucBundle.dataSize offsetDifference
  simp only
  rw [htree, hsize, hlength]
  split_ifs <;> omega

/-- What becomes of a bundle whose payload is good. -/
def RaucBundle.acceptedAs (bundle : RaucBundle) : Except GError RaucManifest →
    Outcome GError RaucBundle
  | .ok m => .value { bundle with manifest := some m, payloadVerified := true }
  | .error e => .exit (.error e)

/-- The check of a local bundle that has a hash and a salt. -/
lemma LocallyRead.verifies_given {content root salt : List UInt8} {checked : RaucManifest}
    (sha256 : List UInt8 → Digest)
    (h : LocallyRead content read bundle) (hexclusive : bundle.exclusiveVerified = true)
    (haccepted : checkManifestExternal read = .ok checked)
    (hroot : read.bundleVerityHash.bind (fun hex => rHexDecode hex 32) = some root)
    (hsalt : read.bundleVeritySalt.bind (fun hex => rHexDecode hex 32) = some salt) :
    checkBundlePayload sha256 bundle = verifyPayload sha256 bundle checked content root salt := by
  obtain ⟨hexternal, -⟩ := checkManifestExternal_given haccepted
  obtain ⟨images, -, rfl⟩ := checkManifestExternal_ok haccepted
  unfold checkBundlePayload
  rw [if_neg (by simp [h.enabled, h.unverified]), h.stream, h.manifest]
  simp only [hexclusive, not_true, if_false, haccepted, hroot, hsalt]
  cases hformat : read.bundleFormat with
  | plain => exact absurd hformat hexternal
  | verity => simp only
  | crypt => simp only

/-- The bytes that the manifest has in hexadecimal digits. -/
lemma hexField {field : Option String} {raw bytes : List UInt8}
    (hfield : field = some (rHexEncode raw))
    (hread : field.bind (fun hex => rHexDecode hex 32) = some bytes) : bytes = raw := by
  rw [hfield, Option.bind_some] at hread
  exact rHexDecode_rHexEncode hread

/-- The payload with its hash tree is accepted as soon as the manifest is. -/
lemma checkBundlePayload_withTree (htree : WithTree env read data payload)
    (h : LocallyRead (payload ++ tail) read bundle) (hsize : bundle.size = payload.length)
    (hexclusive : bundle.exclusiveVerified = true) :
    checkBundlePayload env.sha256 bundle = bundle.acceptedAs (checkManifestExternal read) := by
  obtain ⟨haligned, hdataSize, hmod, -, -, -⟩ := htree.sizes hsize
  obtain ⟨n, created, levels, hdata, hcreated, rfl, hsalt, hhash, -⟩ := htree
  cases haccepted : checkManifestExternal read with
  | error e =>
    unfold checkBundlePayload
    rw [if_neg (by simp [h.enabled, h.unverified]), h.stream, h.manifest]
    simp only [hexclusive, not_true, if_false, haccepted, RaucBundle.acceptedAs]
  | ok checked =>
    obtain ⟨-, hgiven⟩ := checkManifestExternal_given haccepted
    obtain ⟨root, hroot⟩ := hgiven.root
    obtain ⟨salt, hsalted⟩ := hgiven.salt
    rw [h.verifies_given env.sha256 hexclusive haccepted hroot hsalted]
    obtain rfl := hexField hhash hroot
    obtain rfl := hexField hsalt hsalted
    obtain ⟨images, -, rfl⟩ := checkManifestExternal_ok haccepted
    have hsame : bundle.dataSize { read with images := images } = data.length := hdataSize
    have hblocks : bundle.dataBlocks { read with images := images } = n := by
      have hreach := hcreated.reach
      unfold RaucBundle.dataBlocks
      rw [hsame, hdata]
      omega
    unfold verifyPayload
    rw [if_neg (not_not.mpr haligned), hsame, if_neg (by omega), hblocks, hcreated.accepted]
    rfl

/-- Decryption of the data in front of the hash tree gives the image back. -/
lemma sure_decrypt (hencrypted : Encrypted env read image data)
    (htree : WithTree env read data payload)
    (hsize : bundle.size = payload.length) {files : Table String (List UInt8)} {outpath : String}
    (hpaths : bundle.path ≠ outpath) (hfile : files.lookup bundle.path = some (payload ++ tail)) :
    Sure (fun s => s = files) (rCryptDecrypt env.cipher env.cryptKey bundle.path outpath
      (bundle.dataSize read))
      (fun _ => OutputHolds files outpath image) := by
  obtain ⟨-, hdataSize, -, hfront, hbehind, hpositive⟩ := htree.sizes hsize
  obtain ⟨-, n, himage, rfl⟩ := hencrypted
  have hlength := length_sectorwise 0 (length_cryptSector env.cipher true env.cryptKey) himage
  have hsplit : payload ++ tail = sectorwise encSecSize (cryptSector env.cipher true env.cryptKey)
      n 0 image ++
      (payload.drop (sectorwise encSecSize (cryptSector env.cipher true env.cryptKey) n 0
        image).length ++ tail) := by
    have hwhole :=
      List.take_append_drop (sectorwise encSecSize (cryptSector env.cipher true env.cryptKey) n 0
      image).length payload
    rw [hfront] at hwhole
    rw [← List.append_assoc, hwhole]
  rw [hsplit] at hfile
  have hrest :
      encSecSize ≤
      (payload.drop (sectorwise encSecSize (cryptSector env.cipher true env.cryptKey) n 0
      image).length ++ tail).length := by
    rw [List.length_append, List.length_drop]
    unfold encSecSize at hbehind ⊢
    omega
  have hback := sure_rCryptEncryptOrDecrypt env.cipher false env.cryptKey hpaths hfile hlength
    (.inr ⟨hrest, by omega, hdataSize.symm⟩)
  rwa [sectorwise_sectorwise 0 (length_cryptSector env.cipher true env.cryptKey)
    (cryptSector_cryptSector env.cipher env.cryptKey) himage] at hback

/-- The size and the signature that the trailer stands for. -/
lemma LocallyRead.size_signedFile (h : LocallyRead (signedFile payload sig) read bundle)
    {max : UInt64}
    (hsig : 0 < sig.length) (hmax : sig.length ≤ max.toNat) : bundle.size = payload.length := by
  obtain ⟨-, -, hopened⟩ := @trailer_signedFile payload sig max hsig hmax
  rw [h.size]
  exact (congrArg OpenedBundle.size hopened).symm

/-- What everyone gets who opens a bundle with a signature of this size and reads the manifest from
it. -/
structure GivesBack (env : CreateEnv) (m : RaucManifest) (image payload sig : List UInt8)
    (max : UInt64) : Prop where
  opened : (openLocalBundle max (calm ⟨signedFile payload sig, 0, []⟩)).1 =
    .value ⟨payload.length, sig⟩
  plain : m.bundleFormat = .plain → payload = image
  accepted : m.bundleFormat ≠ .plain → ∀ read bundle, SameProtection m read →
    LocallyRead (signedFile payload sig) read bundle → bundle.exclusiveVerified = true →
      checkBundlePayload env.sha256 bundle = bundle.acceptedAs (checkManifestExternal read)
  verity : m.bundleFormat = .verity → ∀ read bundle, SameProtection m read →
    LocallyRead (signedFile payload sig) read bundle → bundle.payload read = image
  crypt : m.bundleFormat = .crypt → ∀ read bundle key, SameProtection m read →
    LocallyRead (signedFile payload sig) read bundle →
      read.bundleCryptKey.bind (fun hex => rHexDecode hex 32) = some key →
        ∀ (files : Table String (List UInt8)) (outpath : String), bundle.path ≠ outpath →
          files.lookup bundle.path = some (signedFile payload sig) →
            Sure (fun s => s = files) (rCryptDecrypt env.cipher key bundle.path outpath
              (bundle.dataSize read))
              (fun _ => OutputHolds files outpath image)

/-- The payload of a bundle with a hash tree. -/
lemma MadeFrom.withTree (h : MadeFrom env m image payload) (hformat : m.bundleFormat ≠ .plain) :
    ∃ data, WithTree env m data payload := by
  obtain ⟨-, hverity, hcrypt⟩ := h
  cases hm : m.bundleFormat with
  | plain => exact absurd hm hformat
  | verity => exact ⟨image, hverity hm⟩
  | crypt =>
    obtain ⟨data, -, htree⟩ := hcrypt hm
    exact ⟨data, htree⟩

lemma signedFile_eq (payload sig : List UInt8) :
    signedFile payload sig = payload ++ (sig ++ bigEndian 8 sig.length) :=
  List.append_assoc payload sig _

lemma take_signedFile (payload sig : List UInt8) : (signedFile payload sig).take payload.length =
    payload := by
  rw [signedFile_eq, List.take_left]

lemma MadeFrom.givesBack (h : MadeFrom env m image payload) {max : UInt64} (hsig : 0 < sig.length)
    (hmax : sig.length ≤ max.toNat) : GivesBack env m image payload sig max := by
  constructor
  · exact openLocalBundle_of_trailer (trailer_signedFile hsig hmax)
  · exact h.1
  · intro hformat read bundle hread hlocal hexclusive
    have hsize := hlocal.size_signedFile hsig hmax
    obtain ⟨data, htree⟩ := h.withTree hformat
    rw [signedFile_eq] at hlocal
    exact checkBundlePayload_withTree (hread.withTree htree) hlocal hsize hexclusive
  · intro hverity read bundle hread hlocal
    have hsize := hlocal.size_signedFile hsig hmax
    obtain ⟨-, hdataSize, -, hfront, hbehind, -⟩ := (hread.withTree (h.2.1 hverity)).sizes hsize
    unfold RaucBundle.payload
    rw [hlocal.stream, Option.getD_some, hdataSize, Int.toNat_natCast, signedFile_eq]
    change (payload ++ _).take image.length = image
    rw [List.take_append_of_le_length (by omega), hfront]
  · intro hcrypt read bundle key hread hlocal hkey files outpath hpaths hfile
    have hsize := hlocal.size_signedFile hsig hmax
    obtain ⟨data, hencrypted, htree⟩ := h.2.2 hcrypt
    have hencrypted' : Encrypted env read image data := ⟨hread.key.trans hencrypted.1, hencrypted.2⟩
    obtain rfl := hexField hencrypted'.1 hkey
    rw [signedFile_eq] at hfile
    exact sure_decrypt hencrypted' (hread.withTree htree) hsize hpaths hfile

/-- A call that returns `TRUE` without an error leaves a bundle from which everyone who opens it
gets the image back that `mksquashfs` made: the trailer is found, with exclusive access the payload
is accepted whenever the manifest is, and the data in front of the hash tree are the image or can be
decrypted to it. -/
theorem createBundle_gives_back (env : CreateEnv) (w w' : World (Table String (List UInt8)))
    (hrun : createBundle env w = (.value ⟨true, none⟩, w')) :
    ∃ m image payload sig, CallsMake env w m image ∧
      w'.state.lookup env.bundlename = some (signedFile payload sig) ∧
      (m.bundleFormat = .plain → sig = env.cmsSignFile payload) ∧
      (m.bundleFormat ≠ .plain → sig = env.cmsSignManifest m ∧ checkManifestExternal m = .ok m) ∧
      ∀ max : UInt64, 0 < sig.length → sig.length ≤ max.toNat →
        GivesBack env m image payload sig max := by
  obtain ⟨m, image, payload, sig, hmake, hfile, hassembled⟩ := createBundle_written hrun
  exact ⟨m, image, payload, sig, hmake, hfile, hassembled.plain, hassembled.external,
    fun _ hsig hmax => hassembled.made.givesBack hsig hmax⟩

/-- The bundle of two blocks as it is opened for an installation. -/
def openedBlocks (format : BundleFormat) (m : RaucManifest) : RaucBundle where
  path := "update.raucb"
  stream := some (signedFile (blocksPayload format) (formatSignature format))
  size := (blocksPayload format).length
  manifest := some m
  exclusiveVerified := true

lemma length_formatSignature (format : BundleFormat) : (formatSignature format).length = 1 := by
  cases format with
  | plain => rfl
  | verity => rfl
  | crypt => rfl

lemma locallyRead_openedBlocks (format : BundleFormat) (m : RaucManifest) :
    LocallyRead (signedFile (blocksPayload format) (formatSignature format)) m
      (openedBlocks format m) := by
  have hsig := length_formatSignature format
  obtain ⟨-, -, hopened⟩ := @trailer_signedFile (blocksPayload format) (formatSignature format) 1024
    (by omega) (by rw [hsig]; decide)
  exact ⟨rfl, congrArg OpenedBundle.size hopened, rfl, rfl, rfl⟩

/-- The signature tells the formats apart. -/
lemma signature_format {name : String} {format : BundleFormat} (hformat : format ≠ .plain)
    (hsigned : (blocksContent name format).cmsSignManifest m = formatSignature format) :
      m.bundleFormat = format := by
  simp only [blocksContent, smallContent, formatSignature] at hsigned
  cases format with
  | plain => exact absurd rfl hformat
  | verity => split at hsigned <;> simp_all
  | crypt => split at hsigned <;> simp_all

/-- Two blocks in a bundle with a hash tree and in an encrypted one. The first is accepted and holds
the blocks, the second is accepted and can be decrypted to them with the key in its manifest. -/
theorem createBundle_gives_back_small :
    (∃ m, m.bundleFormat = .verity ∧
      checkBundlePayload sampleSha256 (openedBlocks .verity m) =
        .value { openedBlocks .verity m with payloadVerified := true } ∧
      (openedBlocks .verity m).payload m = filledBlock 0 ++ filledBlock 1) ∧
    ∃ m key, m.bundleFormat = .crypt ∧
      checkBundlePayload sampleSha256 (openedBlocks .crypt m) =
        .value { openedBlocks .crypt m with payloadVerified := true } ∧
      m.bundleCryptKey.bind (fun hex => rHexDecode hex 32) = some key ∧
      ∀ files : Table String (List UInt8),
        files.lookup "update.raucb" =
          some (signedFile (blocksPayload .crypt) (formatSignature .crypt)) →
          Sure (fun s => s = files) (rCryptDecrypt sampleCipher key "update.raucb" "content"
            ((openedBlocks .crypt m).dataSize m))
            (fun _ => OutputHolds files "content" (filledBlock 0 ++ filledBlock 1)) := by
  have hmade : ∀ format ≠ .plain, ∃ m, m.bundleFormat = format ∧ checkManifestExternal m = .ok m ∧
      GivesBack (blocksContent "update.raucb" format) m (filledBlock 0 ++ filledBlock 1)
        (blocksPayload format)
        (formatSignature format) 1024 := by
    intro format hformat
    obtain ⟨files, hrun, hfile⟩ := @createBundle_blocks "update.raucb" (by decide) format hformat
      Table.empty (by decide)
    obtain ⟨m, image, payload, sig, ⟨⟨_, _, rfl⟩, -⟩, hleft, hplain, hexternal, hback⟩ :=
      createBundle_gives_back (blocksContent "update.raucb" format) (calm Table.empty)
        (calm files) hrun
    have hone : sig.length = 1 := by
      by_cases hm : m.bundleFormat = .plain
      · rw [hplain hm]
        rfl
      · rw [(hexternal hm).1]
        exact length_cmsSignManifest m
    have hsame : signedFile payload sig = signedFile (blocksPayload format)
        (formatSignature format) :=
      Option.some.inj (hleft.symm.trans hfile)
    have hlengths : (sig ++ bigEndian 8 sig.length).length =
        (formatSignature format ++ bigEndian 8 (formatSignature format).length).length := by
      simp only [List.length_append, length_bigEndian, hone, length_formatSignature]
    rw [signedFile_eq, signedFile_eq] at hsame
    obtain ⟨hpayload, hbehind⟩ := List.append_inj' hsame hlengths
    obtain ⟨hsig, -⟩ := List.append_inj hbehind (by rw [hone, length_formatSignature])
    have hnot : m.bundleFormat ≠ .plain := by
      intro hm
      have hplainSig : [48] = formatSignature format := (hplain hm).symm.trans hsig
      cases format with
      | plain => exact hformat rfl
      | verity => exact absurd hplainSig (by decide)
      | crypt => exact absurd hplainSig (by decide)
    obtain ⟨hsigned, hchecked⟩ := hexternal hnot
    refine ⟨m, signature_format hformat (hsigned.symm.trans hsig), hchecked, ?_⟩
    rw [← hpayload, ← hsig]
    exact hback 1024 (by omega) (by rw [hone]; decide)
  have haccepted : ∀ format ≠ .plain, ∀ m, m.bundleFormat = format →
      checkManifestExternal m = .ok m →
      GivesBack (blocksContent "update.raucb" format) m (filledBlock 0 ++ filledBlock 1)
        (blocksPayload format)
        (formatSignature format) 1024 →
      checkBundlePayload sampleSha256 (openedBlocks format m) =
        .value { openedBlocks format m with payloadVerified := true } := by
    intro format hformat m hm hchecked hback
    have hvalue := hback.accepted (by rw [hm]; exact hformat) m (openedBlocks format m)
      (SameProtection.refl m)
      (locallyRead_openedBlocks format m) rfl
    rw [hchecked] at hvalue
    exact hvalue
  obtain ⟨m, hm, hchecked, hback⟩ := hmade .verity (by decide)
  obtain ⟨m', hm', hchecked', hback'⟩ := hmade .crypt (by decide)
  obtain ⟨key, hkey⟩ := checkManifestExternal_key hchecked' hm'
  refine ⟨⟨m, hm, haccepted .verity (by decide) m hm hchecked hback, ?_⟩, m', key, hm',
    haccepted .crypt (by decide) m' hm' hchecked' hback', hkey, ?_⟩
  · exact hback.verity hm m (openedBlocks .verity m) (SameProtection.refl m)
      (locallyRead_openedBlocks .verity m)
  · intro files hfile
    have hpaths : "update.raucb" ≠ "content" := by decide
    exact hback'.crypt hm' m' (openedBlocks .crypt m') key (SameProtection.refl m')
      (locallyRead_openedBlocks .crypt m') hkey files "content" hpaths hfile

end Opening

end RaucUpdate
