import Mathlib.Algebra.Group.Nat.Defs
import RaucUpdate.Proofs.BundlePayload
import RaucUpdate.Proofs.InstallGates
import RaucUpdate.Proofs.InstallProgress

/-!
# The sizes behind the verification of a local bundle

The size of the payload comes from the layout of the file and the size of the hash tree from the
signed manifest. The local reader only logs a payload size that is no multiple of 4096, and nobody
compares the two sizes, so the assertions of `check_bundle_payload` hold exactly for the files that
meet both conditions.
-/

namespace RaucUpdate

open Library

section Calling

variable (sha256 : List UInt8 → Digest)

/-- The arguments of a call of `r_verity_hash_verify`. -/
structure VerityCall where
  file : List UInt8
  blocks : Nat
  rootDigest : List UInt8
  salt : List UInt8

def VerityCall.run (call : VerityCall) : Except HashError Unit :=
  rVerityHashVerify sha256 call.file call.blocks call.rootDigest call.salt

/-- The call that `check_bundle_payload` makes, unless it ends before. -/
def RaucBundle.verityCall (bundle : RaucBundle) : Option VerityCall :=
  if bundle.verificationDisabled ∨ bundle.payloadVerified ∨ ¬bundle.exclusiveVerified then none
  else do
    let file ← bundle.stream
    let manifest ← bundle.manifest
    let manifest ← (checkManifestExternal manifest).toOption
    let rootDigest ← manifest.bundleVerityHash.bind (fun hex => rHexDecode hex 32)
    let salt ← manifest.bundleVeritySalt.bind (fun hex => rHexDecode hex 32)
    if bundle.size % 4096 = 0 ∧ bundle.dataSize manifest % 4096 = 0 then
      some { file, blocks := bundle.dataBlocks manifest, rootDigest, salt }
    else none

variable {bundle : RaucBundle} {m m' : RaucManifest} {content : List UInt8}

lemma checkHexField_ok {name : String} {field : Option String}
    (h : checkHexField name field = .ok ()) :
    ∃ bytes, field.bind (fun hex => rHexDecode hex 32) = some bytes := by
  cases field with
  | none => exact absurd h (by simp [checkHexField, manifestCheckError])
  | some hex =>
    unfold checkHexField at h
    simp only at h
    split_ifs at h with hnone
    · exact absurd h (by simp [manifestCheckError])
    · exact Option.ne_none_iff_exists'.mp (fun hdecode =>
        hnone (Option.isNone_iff_eq_none.mpr hdecode))

/-- What an accepted external manifest says about the hash tree. -/
structure VerityGiven (m : RaucManifest) : Prop where
  root : ∃ root, m.bundleVerityHash.bind (fun hex => rHexDecode hex 32) = some root
  salt : ∃ salt, m.bundleVeritySalt.bind (fun hex => rHexDecode hex 32) = some salt
  aligned : m.bundleVeritySize.toNat % 4096 = 0

lemma checkVerity_ok (h : checkVerity m = .ok ()) : VerityGiven m := by
  unfold checkVerity at h
  cases hhash : checkHexField ("hash for " ++ rManifestBundleFormatToStr m.bundleFormat)
    m.bundleVerityHash with
  | error e => exact absurd h (by simp [hhash, Bind.bind, Except.bind])
  | ok _ =>
    cases hsalt : checkHexField ("salt for " ++ rManifestBundleFormatToStr m.bundleFormat)
      m.bundleVeritySalt with
    | error e => exact absurd h (by simp [hhash, hsalt, Bind.bind, Except.bind])
    | ok _ =>
      simp only [hhash, hsalt, Bind.bind, Except.bind] at h
      split_ifs at h with hzero hunaligned
      · exact absurd h (by simp [manifestCheckError])
      · exact absurd h (by simp [manifestCheckError])
      · have hmod := congrArg UInt64.toNat (not_not.mp hunaligned)
        rw [UInt64.toNat_mod] at hmod
        exact ⟨checkHexField_ok hhash, checkHexField_ok hsalt, hmod⟩

lemma checkManifestExternal_given (h : checkManifestExternal m = .ok m') :
    m.bundleFormat ≠ .plain ∧ VerityGiven m := by
  unfold checkManifestExternal at h
  cases hcommon : checkManifestCommon m with
  | error e => exact absurd h (by simp [hcommon, Bind.bind, Except.bind])
  | ok _ =>
    cases hformat : checkFormatExternal m with
    | error e => exact absurd h (by simp [hcommon, hformat, Bind.bind, Except.bind])
    | ok _ =>
      unfold checkFormatExternal at hformat
      cases hbundle : m.bundleFormat with
      | plain => exact absurd hformat (by simp [hbundle, manifestCheckError])
      | verity =>
        rw [hbundle] at hformat
        exact ⟨by decide, checkVerity_ok hformat⟩
      | crypt =>
        rw [hbundle] at hformat
        cases hkey : checkHexField "key for crypt" m.bundleCryptKey with
        | error e => exact absurd hformat (by simp [hkey, Bind.bind, Except.bind])
        | ok _ =>
          simp only [hkey, Bind.bind, Except.bind] at hformat
          exact ⟨by decide, checkVerity_ok hformat⟩

/-- A bundle that was read from a local file, with a manifest in its signature. -/
structure LocallyRead (content : List UInt8) (m : RaucManifest) (bundle : RaucBundle) : Prop where
  stream : bundle.stream = some content
  size : bundle.size = content.length - 8 - sigsizeOf content
  manifest : bundle.manifest = some m
  enabled : bundle.verificationDisabled = false
  unverified : bundle.payloadVerified = false

lemma LocallyRead.refused (sha256 : List UInt8 → Digest) (h : LocallyRead content m bundle)
    (hshared : bundle.exclusiveVerified = false) :
    checkBundlePayload sha256 bundle = .exit (.error ⟨.bundleUnsafe,
      "cannot check bundle payload without exclusive access: " ++ bundle.exclusiveCheckError⟩) ∧
    bundle.verityCall = none := by
  unfold checkBundlePayload RaucBundle.verityCall
  rw [h.stream, h.enabled, h.unverified, hshared]
  exact ⟨rfl, rfl⟩

/-- What becomes of the bundle when the verification returns. -/
def RaucBundle.afterCall (bundle : RaucBundle) (m : RaucManifest) : Except HashError Unit →
    Outcome GError RaucBundle
  | .ok () => .value { bundle with manifest := some m, payloadVerified := true }
  | .error _ => .exit (.error ⟨.bundlePayload, "bundle payload is corrupted"⟩)

lemma verifyPayload_aligned (sha256 : List UInt8 → Digest) (file root salt : List UInt8)
    (hsize : bundle.size % 4096 = 0) (hdata : bundle.dataSize m % 4096 = 0) :
    verifyPayload sha256 bundle m file root salt =
      bundle.afterCall m (VerityCall.run sha256 ⟨file, bundle.dataBlocks m, root, salt⟩) := by
  unfold verifyPayload VerityCall.run
  rw [if_neg (not_not.mpr hsize), if_neg (not_not.mpr hdata)]
  cases hrun : rVerityHashVerify sha256 file (bundle.dataBlocks m) root salt with
  | ok _ => simp only [RaucBundle.afterCall]
  | error e => simp only [RaucBundle.afterCall]

/-- `verityCall` is the call that the check makes, and the result of the check is that of the
call. -/
lemma checkBundlePayload_of_verityCall (sha256 : List UInt8 → Digest) {call : VerityCall}
    (hcall : bundle.verityCall = some call) :
    ∃ checked, checkBundlePayload sha256 bundle = bundle.afterCall checked (call.run sha256) := by
  unfold RaucBundle.verityCall at hcall
  split_ifs at hcall with hskipped
  rw [not_or, not_or, not_not] at hskipped
  obtain ⟨henabled, hunverified, hexclusive⟩ := hskipped
  obtain ⟨file, hfile, hcall⟩ := Option.bind_eq_some_iff.mp hcall
  obtain ⟨m, hm, hcall⟩ := Option.bind_eq_some_iff.mp hcall
  obtain ⟨checked, hchecked, hcall⟩ := Option.bind_eq_some_iff.mp hcall
  obtain ⟨root, hroot, hcall⟩ := Option.bind_eq_some_iff.mp hcall
  obtain ⟨salt, hsalt, hcall⟩ := Option.bind_eq_some_iff.mp hcall
  split_ifs at hcall with haligned
  obtain rfl := Option.some.inj hcall
  cases haccepted : checkManifestExternal m with
  | error e => exact absurd hchecked (by simp [haccepted, Except.toOption])
  | ok m' =>
    obtain rfl : m' = checked := by simpa [haccepted, Except.toOption] using hchecked
    have hexternal := (checkManifestExternal_given haccepted).1
    obtain ⟨images, -, rfl⟩ := checkManifestExternal_ok haccepted
    change m.bundleVerityHash.bind _ = some root at hroot
    change m.bundleVeritySalt.bind _ = some salt at hsalt
    refine ⟨{ m with images := images }, ?_⟩
    unfold checkBundlePayload
    rw [if_neg (by simp [henabled, hunverified]), hfile, hm]
    simp only [hexclusive, not_true, if_false, haccepted]
    have hverify := verifyPayload_aligned sha256 file root salt haligned.1 haligned.2
    cases hformat : m.bundleFormat with
    | plain => exact absurd hformat hexternal
    | verity => simpa only [hroot, hsalt, hformat] using hverify
    | crypt => simpa only [hroot, hsalt, hformat] using hverify

/-- With exclusive access and an accepted manifest only the assertions are between the check and the
verification. -/
lemma LocallyRead.verifies (sha256 : List UInt8 → Digest) (h : LocallyRead content m bundle)
    (hexclusive : bundle.exclusiveVerified = true) (haccepted : checkManifestExternal m = .ok m') :
    ∃ root salt, bundle.dataSize m' = bundle.dataSize m ∧
      checkBundlePayload sha256 bundle = verifyPayload sha256 bundle m' content root salt ∧
      bundle.verityCall = if bundle.size % 4096 = 0 ∧ bundle.dataSize m % 4096 = 0 then
        some { file := content, blocks := bundle.dataBlocks m, rootDigest := root, salt }
          else none := by
  obtain ⟨hexternal, hgiven⟩ := checkManifestExternal_given haccepted
  obtain ⟨images, -, rfl⟩ := checkManifestExternal_ok haccepted
  obtain ⟨root, hroot⟩ := hgiven.root
  obtain ⟨salt, hsalt⟩ := hgiven.salt
  refine ⟨root, salt, rfl, ?_, ?_⟩
  · unfold checkBundlePayload
    rw [if_neg (by simp [h.enabled, h.unverified]), h.stream, h.manifest]
    simp only [hexclusive, not_true, if_false, haccepted, hroot, hsalt]
    cases hformat : m.bundleFormat with
    | plain => exact absurd hformat hexternal
    | verity => simp only
    | crypt => simp only
  · unfold RaucBundle.verityCall
    rw [if_neg (by simp [h.enabled, h.unverified, hexclusive]), h.stream, h.manifest]
    simp only [Option.bind_eq_bind, Option.bind_some, haccepted, Except.toOption, hroot, hsalt]
    rfl

end Calling

section Reading

variable (tools : BundleTools) (ctx : BundleContext) (source : BundleSource)

/-- Of the state of the installer nothing matters here. -/
def unseen (_ : InstallerState) : Unit := ()

lemma blind_unseen : BlindToProgress unseen := fun _ _ _ => rfl

lemma still_unseenEvent (e : InstallerEvent) : Prog.Still unseen (logEvent e) (fun _ => True) :=
  Prog.still_modify (fun _ => rfl)

/-- If a bundle has a manifest, it is one that was read from the local file. -/
def SignedFrom (bundle : RaucBundle) : Prop := ∀ m, bundle.manifest = some m →
    LocallyRead source.content m bundle

lemma still_verifyDetached {bundle : RaucBundle} {sigdata : List UInt8}
    (hnone : bundle.manifest = none) :
    Prog.Still unseen (verifyDetached tools source bundle sigdata) (SignedFrom source) := by
  apply Prog.still_bind (Prog.still_external _)
  intro _ _
  apply Prog.still_bind (Prog.still_external _)
  intro _ _
  apply Prog.still_bind (still_cmsVerifyBytes tools blind_unseen)
  intro _ _
  apply Prog.still_bind (still_unseenEvent _)
  intro _ _
  apply Prog.still_bind (still_ofExcept _)
  intro _ _
  apply Prog.still_pure
  intro m hm
  exact absurd (hnone.symm.trans hm) (by simp)

lemma still_verifyInline {bundle : RaucBundle} {sigdata : List UInt8} :
    Prog.Still unseen (verifyInline tools source bundle sigdata)
      (fun r => ∃ exclusive, r.1 =
        { bundle with signatureVerified := true, exclusiveVerified := exclusive }) := by
  apply Prog.still_bind (still_checkBundleAccess source)
  intro exclusive _
  apply Prog.still_bind (still_cmsVerifyBytes tools blind_unseen)
  intro _ _
  apply Prog.still_bind (still_unseenEvent _)
  intro _ _
  apply Prog.still_bind (still_ofExcept _)
  intro _ _
  exact Prog.still_pure ⟨exclusive, rfl⟩

lemma still_verifyBundle {detached : Bool} {bundle : RaucBundle} {sigdata : List UInt8}
    (hnone : bundle.manifest = none)
    (hfresh : ∀ m, LocallyRead source.content m { bundle with manifest := some m }) :
    Prog.Still unseen (verifyBundle tools source detached bundle sigdata) (SignedFrom source) := by
  apply Prog.still_bind (Prog.still_external _)
  intro _ _
  cases detached with
  | true => exact still_verifyDetached tools source hnone
  | false =>
    apply Prog.still_bind (still_verifyInline tools source)
    rintro ⟨_, data⟩ ⟨exclusive, rfl⟩
    apply Prog.still_bind (still_loadSignedManifest tools data)
    intro manifest _
    apply Prog.still_pure
    intro m hm
    obtain rfl := Option.some.inj hm
    have hread := hfresh manifest
    exact ⟨hread.stream, hread.size, rfl, hread.enabled, hread.unverified⟩

lemma still_readOpened (hlocal : source.streaming = false) {opened : OpenedBundle}
    (hopened : Trailer ctx.maxBundleSignatureSize source.content opened) :
    Prog.Still unseen (readOpened tools ctx source opened) (SignedFrom source) := by
  unfold readOpened
  cases tools.isDetached opened.sigdata with
  | none => exact Prog.still_exit _
  | some detached =>
    rw [hlocal]
    simp only [Bool.false_eq_true, and_false, if_false]
    apply Prog.still_bind (still_ofExcept _)
    rintro ⟨sigdata, wasEncrypted⟩ _
    have hsize := congrArg OpenedBundle.size hopened.2.2
    apply Prog.still_bind (still_verifyBundle tools source rfl
      (fun m => ⟨rfl, hsize, rfl, rfl, rfl⟩))
    intro bundle hbundle
    apply Prog.still_bind (still_ofExcept _)
    exact fun _ _ => Prog.still_pure hbundle

lemma still_checkBundle (hlocal : source.streaming = false) :
    Prog.Still unseen (checkBundle tools ctx source) (SignedFrom source) := by
  apply still_inStep blind_unseen
  unfold readBundle
  by_cases hkeyring : ctx.keyringPath.isNone ∧ ctx.keyringDirectory.isNone
  · rw [if_pos hkeyring]
    exact Prog.still_exit _
  · rw [if_neg hkeyring]
    apply Prog.still_bind still_startStreaming
    intro _ _
    apply Prog.still_bind (still_openBundle ctx source)
    intro opened hopened
    exact still_readOpened tools ctx source hlocal hopened

end Reading

section Contract

variable {sha256 : List UInt8 → Digest} {bundle : RaucBundle} {m m' : RaucManifest}
  {content : List UInt8}

/-- The check ends with success or with an error, and the blocks that are verified are exactly those
in front of the hash tree. -/
structure PayloadContract (sha256 : List UInt8 → Digest) (bundle : RaucBundle) (m : RaucManifest) :
    Prop where
  ends : ∀ reason, checkBundlePayload sha256 bundle ≠ .exit (.aborted reason)
  exact : ∀ call, bundle.verityCall = some call → bundle.size % 4096 = 0 ∧
    m.bundleVeritySize.toNat % 4096 = 0 ∧
    4096 * call.blocks + m.bundleVeritySize.toNat = bundle.size

lemma dataSize_of_le (hsize : bundle.size < 2 ^ 63) (hle : m.bundleVeritySize.toNat ≤ bundle.size) :
    bundle.dataSize m = (bundle.size - m.bundleVeritySize.toNat : Nat) := by
  unfold RaucBundle.dataSize offsetDifference
  simp only
  split_ifs <;> omega

/-- With aligned sizes of which the second fits into the first, the assertions hold and the quotient
is exact. -/
lemma LocallyRead.contract (h : LocallyRead content m bundle)
    (hexclusive : bundle.exclusiveVerified = true)
    (haccepted : checkManifestExternal m = .ok m') (hsize : bundle.size < 2 ^ 63)
    (haligned : bundle.size % 4096 = 0)
    (hle : m.bundleVeritySize.toNat ≤ bundle.size) : PayloadContract sha256 bundle m := by
  obtain ⟨root, salt, hsame, hcheck, hcall⟩ := h.verifies sha256 hexclusive haccepted
  have hverity := (checkManifestExternal_given haccepted).2.aligned
  have hdata := dataSize_of_le hsize hle
  have hmod : bundle.dataSize m % 4096 = 0 := by omega
  constructor
  · intro reason haborted
    rw [hcheck] at haborted
    unfold verifyPayload at haborted
    rw [if_neg (not_not.mpr haligned), hsame, if_neg (not_not.mpr hmod)] at haborted
    cases hrun : rVerityHashVerify sha256 content (bundle.dataBlocks m') root salt with
    | ok _ => simp [hrun] at haborted
    | error e => simp [hrun] at haborted
  · intro call hmade
    rw [hcall, if_pos ⟨haligned, hmod⟩] at hmade
    obtain rfl := Option.some.inj hmade
    refine ⟨haligned, hverity, ?_⟩
    change 4096 * bundle.dataBlocks m + m.bundleVeritySize.toNat = bundle.size
    unfold RaucBundle.dataBlocks
    rw [hdata]
    omega

lemma LocallyRead.sizes (h : LocallyRead content m bundle)
    (hexclusive : bundle.exclusiveVerified = true)
    (haccepted : checkManifestExternal m = .ok m') (hcontract : PayloadContract sha256 bundle m) :
    bundle.size % 4096 = 0 ∧ m.bundleVeritySize.toNat ≤ bundle.size := by
  obtain ⟨root, salt, hsame, hcheck, hcall⟩ := h.verifies sha256 hexclusive haccepted
  have hends := hcontract.ends
  rw [hcheck] at hends
  unfold verifyPayload at hends
  by_cases haligned : bundle.size % 4096 = 0
  · refine ⟨haligned, ?_⟩
    rw [if_neg (not_not.mpr haligned), hsame] at hends
    by_cases hdata : bundle.dataSize m % 4096 = 0
    · rw [if_pos ⟨haligned, hdata⟩] at hcall
      have hexact := (hcontract.exact _ hcall).2.2
      omega
    · rw [if_pos hdata] at hends
      exact absurd rfl (hends _)
  · rw [if_pos haligned] at hends
    exact absurd rfl (hends _)

end Contract

/-- For a local bundle with an accepted manifest in its signature, the check of the payload keeps
its contract if and only if it is refused for a lack of exclusive access, or the payload is aligned
and not shorter than the hash tree. -/
theorem checkBundlePayload_contract_iff (tools : BundleTools) (ctx : BundleContext)
    (source : BundleSource)
    (sha256 : List UInt8 → Digest) (w : World InstallerState) (bundle : RaucBundle)
    (m m' : RaucManifest)
    (hlocal : source.streaming = false) (hlength : source.content.length < 2 ^ 63)
    (hread : (checkBundle tools ctx source w).1 = .value bundle)
    (hmanifest : bundle.manifest = some m)
    (haccepted : checkManifestExternal m = .ok m') :
    PayloadContract sha256 bundle m ↔ (bundle.exclusiveVerified = true →
      (source.content.length - 8 - sigsizeOf source.content) % 4096 = 0 ∧
        m.bundleVeritySize.toNat ≤ source.content.length - 8 - sigsizeOf source.content) := by
  have hlocally : LocallyRead source.content m bundle :=
    ((still_checkBundle tools ctx source hlocal ()).value rfl hread).2 m hmanifest
  rw [← hlocally.size]
  cases hexclusive : bundle.exclusiveVerified with
  | false =>
    obtain ⟨hrefused, hcall⟩ := hlocally.refused sha256 hexclusive
    refine ⟨fun _ h => absurd h (by simp), fun _ => ⟨?_, ?_⟩⟩
    · intro reason haborted
      rw [hrefused] at haborted
      exact absurd haborted (by simp)
    · intro call hmade
      rw [hcall] at hmade
      exact absurd hmade (by simp)
  | true =>
    refine ⟨fun hcontract _ => hlocally.sizes hexclusive haccepted hcontract, fun hsizes => ?_⟩
    obtain ⟨haligned, hle⟩ := hsizes rfl
    have hsize := hlocally.size
    exact hlocally.contract hexclusive haccepted (by omega) haligned hle

section Quiet

open Prog

/-- The state after a call that the progress code accepts. -/
def InstallerState.after (st : InstallerState) (c : ProgressCall) : InstallerState :=
  { st.called c with progress := (progressCall st.progress c).toOption.getD st.progress }

def InstallerState.accepts (st : InstallerState) (c : ProgressCall) : Bool :=
  (progressCall st.progress c).isOk

lemma calmly_makeCall {st : InstallerState} {c : ProgressCall} (h : st.accepts c = true) :
    Calmly st (makeCall c) () (st.after c) := by
  unfold InstallerState.accepts at h
  cases hcall : progressCall st.progress c with
  | error reason => simp [hcall, Except.isOk, Except.toBool] at h
  | ok progress =>
    have hafter : st.after c = { st.called c with progress := progress } := by
      unfold InstallerState.after
      rw [hcall]
      rfl
    have hcalled : progressCall (st.called c).progress c = .ok progress := hcall
    rw [hafter]
    unfold makeCall
    have hrecord : Calmly st (modify (·.called c) : InstallerProg Unit) () (st.called c) := rfl
    refine calmly_bind hrecord (calmly_read_bind ?_)
    rw [hcalled]
    rfl

lemma calmly_inStep {α : Type} {name description : String} {substeps weight : Nat}
    {p : InstallerProg α} {a : α}
    {st st' : InstallerState} (hbegin : st.accepts (.begin name description substeps weight) = true)
    (hp : Calmly (st.after (.begin name description substeps weight)) p a st')
    (hend : st'.accepts (.end_ name true) = true) :
    Calmly st (inStep name description substeps weight p) a (st'.after (.end_ name true)) := by
  unfold inStep
  apply calmly_bind (calmly_makeCall hbegin)
  apply calmly_bind (calmly_attempt hp)
  exact calmly_bind (calmly_makeCall hend) (calmly_pure _ _)

end Quiet

section Unaligned

deriving instance DecidableEq for RaucBundle

def verityFile : KeyFile :=
  ⟨[("update", ⟨[("compatible", "Test System")], List.nodup_singleton "compatible"⟩),
    ("bundle", ⟨[("format", "verity"),
      ("verity-hash", "af4f607b5aebf247bac3c9ed03e28da073479d19d6da953db2d7e1a7166ed8c2"),
      ("verity-salt", "5a5a5a5a5a5a5a5a5a5a5a5a5a5a5a5a5a5a5a5a5a5a5a5a5a5a5a5a5a5a5a5a"),
      ("verity-size", "4096")], by decide⟩)], by decide⟩

/-- Tools that find an inline signature in order, and this manifest in it. -/
def inlineTools : BundleTools := { plainTools verityFile with isDetached := fun _ => some false }

/-- A payload with a signature of one byte behind it. -/
def inlineSource (payload : List UInt8) : BundleSource where
  path := "/tmp/update.raucb"
  content := signedFile payload [48]

def inlineWorld (fates : Nat → Fate) : World InstallerState :=
  ⟨{ install := ⟨appSystem, []⟩ }, fates⟩

def inlineManifest : RaucManifest :=
  { sampleManifest with updateCompatible := some "Test System", bundleFormatExplicit := true,
                        hash := some "" }

def inlineBundle (payload : List UInt8) (exclusive : Bool) : RaucBundle where
  path := "/tmp/update.raucb"
  stream := some (inlineSource payload).content
  size := payload.length
  manifest := some inlineManifest
  signatureVerified := true
  exclusiveVerified := exclusive

lemma checkManifestExternal_inline : checkManifestExternal inlineManifest = .ok inlineManifest := by
  decide +kernel

/-- A payload of one byte aborts the process, and behind an empty one the number of blocks is that
of a negative size. -/
theorem payload_size_unaligned :
    (checkBundle inlineTools appContext (inlineSource [104]) (inlineWorld (fun _ => .succeeds))).1 =
      .value (inlineBundle [104] true) ∧
    ¬PayloadContract sampleSha256 (inlineBundle [104] true) inlineManifest ∧
    (checkBundle inlineTools appContext (inlineSource []) (inlineWorld (fun _ => .succeeds))).1 =
      .value (inlineBundle [] true) ∧
    (inlineBundle [] true).verityCall.map VerityCall.blocks = some 18446744073709551615 := by
  refine ⟨by decide +kernel, ?_, by decide +kernel, by decide +kernel⟩
  intro hcontract
  have haborted : checkBundlePayload sampleSha256 (inlineBundle [104] true) =
      .exit (.aborted "combined_size % 4096 == 0") := by
    decide +kernel
  exact hcontract.ends _ haborted

/-- The state in which a bundle is checked. -/
def checkingState : InstallerState :=
  (inlineWorld (fun _ => .succeeds)).state.after (.begin "check_bundle" "Checking bundle" 1 1)

/-- The state after the signature was verified. -/
def verifiedState : InstallerState :=
  { (checkingState.after (.begin "cms_verify" "Verifying signature" 0 1)).after
      (.end_ "cms_verify" true) with
    events := [.signatureVerified] }

open Prog in
lemma calmly_verifyInline (payload : List UInt8) :
    Calmly checkingState (verifyBundle inlineTools (inlineSource payload) false
      { path := "/tmp/update.raucb", stream := some (inlineSource payload).content,
        size := payload.length } [48])
      (inlineBundle payload true) verifiedState := by
  have hload : loadManifest inlineTools [48] = .value inlineManifest := by decide +kernel
  have hmanifest : Calmly verifiedState (loadSignedManifest inlineTools [48]) inlineManifest
      verifiedState := by
    unfold loadSignedManifest
    rw [hload]
    rfl
  have hverify : Calmly checkingState (cmsVerifyBytes inlineTools none [48] true) [48]
      ((checkingState.after (.begin "cms_verify" "Verifying signature" 0 1)).after
        (.end_ "cms_verify" true)) :=
    calmly_inStep (by decide +kernel) (calmly_pure _ [48]) (by decide +kernel)
  have haccess : Calmly checkingState (checkBundleAccess (inlineSource payload)) true
      checkingState := by
    unfold checkBundleAccess
    rw [if_neg (by simp [inlineSource])]
    rfl
  have hinline : Calmly checkingState (verifyInline inlineTools (inlineSource payload)
      { path := "/tmp/update.raucb", stream := some (inlineSource payload).content,
        size := payload.length } [48])
      ({ inlineBundle payload true with manifest := none }, [48]) verifiedState := by
    apply calmly_bind haccess
    apply calmly_bind hverify
    have hlogged :
        Calmly ((checkingState.after (.begin "cms_verify" "Verifying signature" 0 1)).after
        (.end_ "cms_verify" true)) (logEvent .signatureVerified) () verifiedState := rfl
    have hchain : Calmly verifiedState (ofExcept (inlineTools.certChain [48])) () verifiedState :=
      rfl
    exact calmly_bind hlogged (calmly_bind hchain (calmly_pure _ _))
  apply calmly_bind (calmly_external _ _ _)
  rw [if_neg (by decide)]
  apply calmly_bind hinline
  exact calmly_bind hmanifest (calmly_pure _ _)

open Prog in
/-- Without faults a bundle with an inline signature of one byte is read as it is, whatever its
payload. -/
lemma checkBundle_inline (payload : List UInt8) :
    (checkBundle inlineTools appContext (inlineSource payload)
      (inlineWorld (fun _ => .succeeds))).1 =
      .value (inlineBundle payload true) := by
  have htrailer : Trailer appContext.maxBundleSignatureSize (signedFile payload [48])
      ⟨payload.length, [48]⟩ :=
    trailer_signedFile (by decide) (by decide)
  obtain ⟨_, hopened⟩ := calmly_openLocalBundle htrailer
  have hopen : Calmly checkingState (openBundle appContext (inlineSource payload)) ⟨payload.length,
      [48]⟩ checkingState := by
    unfold openBundle
    rw [if_neg (by simp [inlineSource])]
    exact calmly_mapError (calmly_zoom hopened)
  have hread : Calmly checkingState (readBundle inlineTools appContext (inlineSource payload))
      (inlineBundle payload true)
      verifiedState := by
    apply calmly_bind (calmly_pure _ _)
    apply calmly_bind hopen
    have hplain : Calmly checkingState (ofExcept (decryptSignature inlineTools appContext [48]))
        ([48], false)
        checkingState := rfl
    have hallowed :
        Calmly verifiedState (ofExcept (checkAllowedBundleFormat appContext (some inlineManifest)))
        ()
        verifiedState := rfl
    apply calmly_bind hplain
    exact calmly_bind (calmly_verifyInline payload) (calmly_bind hallowed (calmly_pure _ _))
  exact observe_of_calmly (p := checkBundle inlineTools appContext (inlineSource payload))
    (calmly_inStep (by decide +kernel) hread (by decide +kernel))

/-- Without exclusive access the file is refused; with it a payload in order, which is two blocks
and their hash block, meets the contract. -/
theorem payload_contract_shared : PayloadContract sampleSha256
    (inlineBundle [104] false) inlineManifest ∧
    PayloadContract sampleSha256 (inlineBundle signedPayload true) inlineManifest := by
  constructor
  · exact (checkBundlePayload_contract_iff inlineTools appContext (inlineSource [104]) sampleSha256
      (inlineWorld (Prog.failsAt 6 .killed)) (inlineBundle [104] false) inlineManifest
        inlineManifest rfl (by decide)
      (by decide +kernel) rfl checkManifestExternal_inline).mpr (fun h => absurd h (by decide))
  · have hlength : (inlineSource signedPayload).content.length = 12297 := by
      change (signedFile signedPayload [48]).length = 12297
      unfold signedFile
      rw [List.length_append, List.length_append, length_signedPayload]
      rfl
    have hsigsize : sigsizeOf (inlineSource signedPayload).content = 1 :=
      sigsizeOf_signedFile (by norm_num)
    refine (checkBundlePayload_contract_iff inlineTools appContext (inlineSource signedPayload)
      sampleSha256
      (inlineWorld (fun _ => .succeeds)) (inlineBundle signedPayload true) inlineManifest
        inlineManifest rfl
      (by rw [hlength]; decide) (checkBundle_inline signedPayload) rfl
        checkManifestExternal_inline).mpr (fun _ => ?_)
    rw [hlength, hsigsize]
    decide

end Unaligned

end RaucUpdate
