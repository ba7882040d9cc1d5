import RaucUpdate.Library.StillPrograms
import RaucUpdate.Model.OpenedBundle
import RaucUpdate.Proofs.BundleCycle

/-!
# What can be done to an opened bundle

Resigning, encryption and the replacement of a signature copy the payload of a bundle and append
another signature. They only write their output, and on an error they remove it. So from whatever
bundles there are only bundles with the same payloads can be made.
-/

namespace RaucUpdate

open Library Prog

section Trailers

variable {max : UInt64} {file payload sig : List UInt8} {opened : OpenedBundle}

/-- A file that can be opened is a payload, a signature and the size of the signature, and nothing
else. -/
lemma trailer_iff : Trailer max file opened ↔ ∃ payload, file = signedFile payload opened.sigdata ∧
    opened.size = payload.length ∧ 0 < opened.sigdata.length ∧ opened.sigdata.length ≤
      max.toNat := by
  constructor
  · rintro ⟨hlen, hcheck, rfl⟩
    obtain ⟨hpos, hle, hmax⟩ := checkSignatureSize_ok.mp hcheck
    have hsig : (readAt file (file.length - 8 - sigsizeOf file) (sigsizeOf file)).length =
        sigsizeOf file :=
      length_readAt_of_le (by omega)
    have hword : (readAt file (file.length - 8) 8).length = 8 := length_readAt_of_le (by omega)
    have hpayload : (readAt file 0 (file.length - 8 - sigsizeOf file)).length =
        file.length - 8 - sigsizeOf file :=
      length_readAt_of_le (by omega)
    refine ⟨readAt file 0 (file.length - 8 - sigsizeOf file), ?_,
      hpayload.symm, by rw [hsig]; exact hpos,
      by rw [hsig]; exact hmax⟩
    have hbytes := bigEndian_ofBigEndian (readAt file (file.length - 8) 8)
    rw [hword] at hbytes
    have hfront := readAt_add file 0 (file.length - 8 - sigsizeOf file) (sigsizeOf file)
    have hwhole := readAt_add file 0 (file.length - 8) 8
    rw [Nat.zero_add] at hfront hwhole
    rw [show file.length - 8 - sigsizeOf file + sigsizeOf file = file.length - 8 by omega] at hfront
    rw [show file.length - 8 + 8 = file.length by omega, hfront] at hwhole
    unfold signedFile
    rw [hsig]
    change file = _ ++ _ ++ bigEndian 8 (ofBigEndian (readAt file (file.length - 8) 8))
    rw [hbytes, ← hwhole]
    exact List.take_length.symm
  · rintro ⟨payload, rfl, hsize, hpos, hmax⟩
    have htrailer := @trailer_signedFile payload opened.sigdata max hpos hmax
    rwa [← hsize] at htrailer

/-- The bytes that are in front of the signature. -/
lemma trailer_size_le (h : Trailer max file opened) : opened.size ≤ file.length := by
  obtain ⟨payload, rfl, hsize, -⟩ := trailer_iff.mp h
  rw [hsize, signedFile_eq, List.length_append]
  omega

/-- A file that was signed is opened as it was signed. -/
lemma trailer_signedFile_inv (hlt : sig.length < 2 ^ 64)
    (h : Trailer max (signedFile payload sig) opened) :
    opened.size = payload.length := by
  obtain ⟨-, -, rfl⟩ := h
  have hword := length_bigEndian 8 sig.length
  change (signedFile payload sig).length - 8 - sigsizeOf (signedFile payload sig) = _
  rw [sigsizeOf_signedFile hlt]
  unfold signedFile
  rw [List.length_append, List.length_append, hword]
  omega

end Trailers

section Frames

variable (env : CreateEnv)

/-- The files beside the output. -/
def otherFiles (work : BundleWork) (path : String) : Option (List UInt8) :=
  if path = env.bundlename then none else work.files.lookup path

lemma otherFiles_writeOutput (content : List UInt8) (work : BundleWork) :
    otherFiles env (writeOutput env content work) = otherFiles env work := by
  funext path
  unfold otherFiles writeOutput
  by_cases hpath : path = env.bundlename
  · rw [if_pos hpath, if_pos hpath]
  · rw [if_neg hpath, if_neg hpath, Table.lookup_set, if_neg (Ne.symm hpath)]

section Manifests

variable {υ : Type} {view : BundleWork → υ}
  (hview : ∀ work m, view { work with manifest := m } = view work)

include hview

lemma still_setManifest (m : RaucManifest) : Still view (setManifest m) (fun _ => True) :=
  still_modify (fun work => hview work m)

lemma still_completeManifest (text : String) (check : RaucManifest → Except GError RaucManifest) :
    Still view (completeManifest text check) (fun _ => True) := by
  apply still_read_bind
  intro work
  cases check work.manifest with
  | ok m => exact still_setManifest hview m
  | error e => exact still_exit _

/-- Signing reads the output and completes the manifest. -/
lemma still_generateBundleSignature :
    Still view (generateBundleSignature env)
      (fun sig => (∃ payload, sig = env.cmsSignFile payload) ∨
        ∃ m, sig = env.cmsSignManifest m) := by
  unfold generateBundleSignature
  apply still_read_bind
  intro work
  split_ifs with hplain
  · apply still_bind (still_completeManifest hview _ _)
    intro _ _
    apply still_bind (still_external _)
    intro _ _
    exact still_read_bind (fun _ => still_pure (.inl ⟨_, rfl⟩))
  · apply still_bind (still_completeManifest hview _ _)
    intro _ _
    apply still_bind (still_external _)
    intro _ _
    exact still_read_bind (fun _ => still_pure (.inr ⟨_, rfl⟩))

end Manifests

lemma still_appendToBundle (sig : List UInt8) :
    Still (otherFiles env) (appendToBundle env sig) (fun _ => True) := by
  apply still_read_bind
  intro work
  cases work.files.lookup env.bundlename with
  | none => exact still_exit _
  | some content =>
    exact still_zoom_unseen (fun file s => otherFiles_writeOutput env file.content s)

lemma still_rTempfileCleanup :
    Still (otherFiles env) (rTempfileCleanup env env.bundlename) (fun _ => True) := by
  unfold rTempfileCleanup
  split_ifs with hremovable
  · apply still_modify
    intro work
    funext path
    unfold otherFiles
    by_cases hpath : path = env.bundlename
    · rw [if_pos hpath, if_pos hpath]
    · rw [if_neg hpath, if_neg hpath, Table.lookup_erase, if_neg (Ne.symm hpath)]
  · exact still_pure trivial

end Frames

section OpenedFrames

variable (env : OpenedEnv)

section Loading

variable {υ : Type} {view : BundleWork → υ}

lemma still_ofResult {α : Type} (result : Outcome GError α) :
    Still view (ofOutcome result : WorkProg α) (fun a => result = .value a) := by
  cases result with
  | value a => exact still_pure rfl
  | exit x => exact still_exit x

lemma still_decided {α : Type} (result : Except GError α) :
    Still view (Prog.ofExcept result : WorkProg α) (fun a => result = .ok a) := by
  cases result with
  | ok a => exact still_pure rfl
  | error e => exact still_exit _

lemma still_loadManifestFromBundle (bundle : RaucBundle) :
    Still view (loadManifestFromBundle env bundle) (fun _ => True) := by
  unfold loadManifestFromBundle
  apply still_bind (still_ofResult _)
  intro bundle _
  apply still_bind (still_external _)
  intro _ _
  refine still_bind (still_attempt (C := fun _ => True) ?_) ?_
  · cases bundle.stream with
    | none => exact still_exit _
    | some content =>
      apply still_bind (still_external _)
      intro _ _
      apply still_bind (still_mapError _ (still_decided _))
      intro data _
      apply still_bind (still_mapError _ (still_ofResult _))
      intro manifest _
      exact still_mapError _ (still_consequence (still_decided _) (fun _ _ => trivial))
  · intro result _
    exact still_bind still_ask (fun _ _ => still_consequence (still_decided _) (fun _ _ => trivial))

lemma still_manifestOf (bundle : RaucBundle) :
    Still view (manifestOf env bundle) (fun _ => True) := by
  unfold manifestOf
  cases bundle.manifest with
  | some manifest => exact still_pure trivial
  | none => exact still_loadManifestFromBundle env bundle

end Loading

section Writing

lemma still_truncateBundle (inpath : String) (size : Nat) :
    Still (otherFiles env.toCreateEnv) (truncateBundle env inpath size) (fun _ => True) := by
  unfold truncateBundle
  apply still_bind (still_external _)
  intro _ _
  apply still_read_bind
  intro work
  cases work.files.lookup inpath with
  | none => exact still_exit _
  | some content =>
    simp only
    split_ifs with hexists
    · exact still_exit _
    · apply still_bind (still_effect _ (otherFiles_writeOutput env.toCreateEnv []))
      intro _ _
      have hsplice : Still (otherFiles env.toCreateEnv) (gOutputStreamSplice env content)
          (fun _ => True) := by
        apply still_bind still_ask
        intro failure _
        cases failure with
        | none => exact still_modify (otherFiles_writeOutput env.toCreateEnv content)
        | some failure =>
          exact still_bind (still_modify (otherFiles_writeOutput env.toCreateEnv _)) (fun _ _ =>
            still_exit _)
      apply still_bind hsplice
      intro _ _
      exact still_effect _ (otherFiles_writeOutput env.toCreateEnv _)

lemma still_withNewOutput {steps : WorkProg Unit}
    (h : Still (otherFiles env.toCreateEnv) steps (fun _ => True)) :
    Still (otherFiles env.toCreateEnv) (withNewOutput env steps) (fun _ => True) := by
  apply still_read_bind
  intro work
  split_ifs with hexists
  · exact still_exit _
  · apply still_bind (still_attempt h)
    intro result _
    cases result with
    | ok _ => exact still_pure trivial
    | error e => exact still_bind (still_rTempfileCleanup env.toCreateEnv) (fun _ _ => still_exit _)

end Writing

end OpenedFrames

section Calls

/-- The functions that make a new bundle from an opened one. -/
inductive BundleCall where
  | resign (append : Bool) | encrypt | replace
  deriving DecidableEq

variable (env : OpenedEnv) (bundle : RaucBundle) (sigdata : List UInt8)

def BundleCall.run : BundleCall → WorkProg Unit
  | .resign append => resignBundle env bundle sigdata append
  | .encrypt => encryptBundle env bundle sigdata
  | .replace => replaceSignature env bundle

lemma otherFiles_manifest (work : BundleWork) (m : RaucManifest) :
    otherFiles env.toCreateEnv { work with manifest := m } = otherFiles env.toCreateEnv work := rfl

/-- Nothing but the output is written, however a call ends. -/
lemma still_bundleCall (call : BundleCall) :
    Still (otherFiles env.toCreateEnv) (call.run env bundle sigdata) (fun _ => True) := by
  cases call with
  | resign append =>
    apply still_withNewOutput
    apply still_bind (still_ofResult _)
    intro bundle _
    apply still_bind (still_manifestOf env bundle)
    intro manifest _
    apply still_bind (still_setManifest (otherFiles_manifest env) manifest)
    intro _ _
    apply still_bind (still_truncateBundle env _ _)
    intro _ _
    cases append with
    | true =>
      apply still_bind (C := fun _ => True)
      · exact still_bind (still_external _) (fun _ _ => still_pure trivial)
      · exact fun sig _ => still_appendToBundle env.toCreateEnv sig
    | false =>
      apply still_bind (still_generateBundleSignature env.toCreateEnv (otherFiles_manifest env))
      exact fun sig _ => still_appendToBundle env.toCreateEnv sig
  | encrypt =>
    unfold BundleCall.run encryptBundle
    split_ifs with hformat
    · exact still_exit _
    · apply still_withNewOutput
      apply still_bind (still_truncateBundle env _ _)
      intro _ _
      apply still_bind (still_external _)
      intro _ _
      exact still_appendToBundle env.toCreateEnv _
  | replace =>
    apply still_withNewOutput
    apply still_bind (still_mapError _ (still_manifestOf env bundle))
    intro _ _
    apply still_bind (still_mapError _ (still_decided _))
    intro sig _
    apply still_bind (still_truncateBundle env _ _)
    intro _ _
    apply still_bind (still_appendToBundle env.toCreateEnv sig)
    intro _ _
    exact still_external _

variable {env bundle sigdata} {files : Table String (List UInt8)}

/-- A payload of the input with a signature of this kind behind it. -/
def CopiedFrom (env : OpenedEnv) (files : Table String (List UInt8)) (inpath : String) (size : Nat)
    (P : List UInt8 → Prop) (work : BundleWork) : Prop :=
  ∃ content sig, files.lookup inpath = some content ∧ P sig ∧
    work.files.lookup env.bundlename = some (signedFile (truncateTo size content) sig)

/-- The output holds the first bytes of the input. -/
def TruncatedFrom (env : OpenedEnv) (files : Table String (List UInt8)) (inpath : String)
    (size : Nat)
    (work : BundleWork) : Prop :=
  ∃ content, files.lookup inpath = some content ∧
    work.files.lookup env.bundlename = some (truncateTo size content)

lemma lookup_writeOutput (content : List UInt8) (work : BundleWork) :
    (writeOutput env.toCreateEnv content work).files.lookup env.bundlename = some content := by
  unfold writeOutput
  rw [Table.lookup_set, if_pos rfl]

lemma triple_truncateBundle (inpath : String) (size : Nat) :
    Triple (fun work => work.files = files) (truncateBundle env inpath size)
      (fun _ => TruncatedFrom env files inpath size) (fun _ _ => True) := by
  unfold truncateBundle
  apply triple_bind (triple_external_id (fun _ _ _ => trivial))
  intro _
  apply triple_read_bind
  rintro work rfl
  cases hinput : work.files.lookup inpath with
  | none => exact triple_exit (fun _ _ => trivial)
  | some content =>
    simp only
    split_ifs with hexists
    · exact triple_exit (fun _ _ => trivial)
    · refine triple_bind (triple_any (P := fun s => s = work))
        (fun _ => triple_bind triple_any (fun _ => ?_))
      apply triple_external
      · intro s _
        exact ⟨content, hinput, lookup_writeOutput _ s⟩
      · exact fun _ _ _ => trivial
      · exact fun _ _ => trivial

lemma triple_appendCopied {P : List UInt8 → Prop} {inpath : String} {size : Nat} {sig : List UInt8}
    (hsig : P sig) :
    Triple (TruncatedFrom env files inpath size) (appendToBundle env.toCreateEnv sig)
      (fun _ => CopiedFrom env files inpath size P) (fun _ _ => True) := by
  unfold appendToBundle
  apply triple_read_bind
  rintro work ⟨content, hinput, hfile⟩
  rw [hfile]
  apply triple_zoom
  rintro _ rfl
  apply triple_consequence (@triple_appendSignatureToBundle (truncateTo size content) sig) ?_ ?_
    (fun _ _ _ => trivial)
  · rintro _ rfl
    rfl
  · intro _ file hcontent
    refine ⟨content, sig, hinput, hsig, ?_⟩
    rw [← hcontent]
    exact lookup_writeOutput _ _

/-- The signature is made from the truncated file, which it leaves as it is. -/
lemma triple_signCopied {P : List UInt8 → Prop} {inpath : String} {size : Nat}
    {p : WorkProg (List UInt8)}
    (h : Still BundleWork.files p P) :
    Triple (fun work => work.files = files) (do
        truncateBundle env inpath size
        let sig ← p
        appendToBundle env.toCreateEnv sig)
      (fun _ => CopiedFrom env files inpath size P) (fun _ _ => True) := by
  apply triple_bind (triple_truncateBundle inpath size)
  intro _
  have hsigned : Triple (TruncatedFrom env files inpath size) p
      (fun sig work => TruncatedFrom env files inpath size work ∧ P sig) (fun _ _ => True) := by
    intro w hw
    obtain ⟨content, hinput, hfile⟩ := hw
    refine triple_consequence (h w.state.files) (fun _ hs => hs) ?_ (fun _ _ _ => trivial) w rfl
    rintro sig work ⟨hsame, hsig⟩
    exact ⟨⟨content, hinput, by rw [hsame, hfile]⟩, hsig⟩
  apply triple_bind hsigned
  intro sig
  exact triple_fact (fun hsig => triple_appendCopied hsig)

/-- With an output that can be removed, an error leaves all files as they were. -/
def RestoredOnError (env : OpenedEnv) (files : Table String (List UInt8)) (x : Exit GError)
    (work : BundleWork) : Prop :=
  ∀ e, x = .error e → env.removable env.bundlename = true →
    work.files.lookup env.bundlename = files.lookup env.bundlename

lemma triple_withNewOutput {steps : WorkProg Unit} {Q : BundleWork → Prop}
    (h : Triple (fun work => work.files = files) steps (fun _ => Q) (fun _ _ => True)) :
    Triple (fun work => work.files = files) (withNewOutput env steps)
      (fun _ work => files.lookup env.bundlename = none ∧ Q work) (RestoredOnError env files) := by
  apply triple_read_bind
  rintro work rfl
  split_ifs with hexists
  · apply triple_exit
    rintro _ rfl _ _ _
    rfl
  · have hnone : work.files.lookup env.bundlename = none := by
      unfold Table.contains at hexists
      exact Option.not_isSome_iff_eq_none.mp hexists
    have hsteps : Triple (fun s => s = work) steps (fun _ => Q) (fun _ _ => True) := by
      apply triple_consequence h ?_ (fun _ _ hs => hs) (fun _ _ hs => hs)
      rintro _ rfl
      rfl
    have hattempt : Triple (fun s => s = work) (attempt steps) (fun r s => ∀ a, r = .ok a → Q s)
        (RestoredOnError env work.files) := by
      apply triple_attempt
      apply triple_consequence hsteps (fun _ hs => hs)
      · intro _ s hs _ _
        exact hs
      · intro x s _
        cases x with
        | error e => exact fun _ hok => absurd hok (by simp)
        | aborted reason => exact fun _ herror => absurd herror (by simp)
        | stopped => exact fun _ herror => absurd herror (by simp)
    apply triple_bind hattempt
    intro result
    cases result with
    | ok _ => exact triple_pure (fun _ hs => ⟨hnone, hs () rfl⟩)
    | error e =>
      have hcleanup : Triple (fun s => ∀ a : Unit, Except.error e = Except.ok a → Q s)
          (rTempfileCleanup env.toCreateEnv env.bundlename)
          (fun _ s => env.removable env.bundlename = true → s.files.lookup env.bundlename = none)
          (RestoredOnError env work.files) := by
        unfold rTempfileCleanup
        split_ifs with hremovable
        · apply triple_modify
          intro s _ _
          rw [Table.lookup_erase, if_pos rfl]
        · exact triple_pure (fun _ _ hremoved => absurd hremoved hremovable)
      apply triple_bind hcleanup
      intro _
      apply triple_exit
      intro s hs _ _ hremovable
      rw [hs hremovable, hnone]

/-- Nothing in memory is longer than the address space. -/
structure BoundedSignatures (env : OpenedEnv) : Prop where
  signFile : ∀ payload, (env.cmsSignFile payload).length < 2 ^ 64
  signManifest : ∀ m, (env.cmsSignManifest m).length < 2 ^ 64
  append : ∀ sig, (env.cmsAppendSignature sig).length < 2 ^ 64
  encrypt : ∀ sig, (env.cmsEncrypt sig).length < 2 ^ 64
  file : ∀ sig, env.signatureFile = .ok sig → sig.length < 2 ^ 64

/-- The check of the payload may complete the manifest, but it is still the same bundle. -/
lemma checkBundlePayload_same {sha256 : List UInt8 → Digest} {out : RaucBundle}
    (h : checkBundlePayload sha256 bundle = .value out) : out.path = bundle.path ∧
      out.size = bundle.size := by
  have hverify : ∀ (m : RaucManifest) (file root salt : List UInt8),
      verifyPayload sha256 bundle m file root salt = .value out → out.path = bundle.path ∧
        out.size = bundle.size := by
    intro m file root salt hout
    unfold verifyPayload at hout
    split_ifs at hout with haligned hdata
    cases hrun : rVerityHashVerify sha256 file (bundle.dataBlocks m) root salt with
    | error e => exact absurd hout (by simp [hrun])
    | ok _ =>
      rw [hrun] at hout
      rw [← Outcome.value.inj hout]
      exact ⟨rfl, rfl⟩
  unfold checkBundlePayload at h
  by_cases hskipped : bundle.verificationDisabled = true ∨ bundle.payloadVerified = true
  · rw [if_pos hskipped] at h
    rw [← Outcome.value.inj h]
    exact ⟨rfl, rfl⟩
  rw [if_neg hskipped] at h
  cases hstream : bundle.stream with
  | none => exact absurd h (by simp [hstream])
  | some file =>
    rw [hstream] at h
    simp only at h
    by_cases hexclusive : ¬bundle.exclusiveVerified = true
    · rw [if_pos hexclusive] at h
      exact absurd h (by simp)
    rw [if_neg hexclusive] at h
    cases hmanifest : bundle.manifest with
    | none => exact absurd h (by simp [hmanifest])
    | some m =>
      rw [hmanifest] at h
      simp only at h
      cases hchecked : checkManifestExternal m with
      | error e => exact absurd h (by simp [hchecked])
      | ok m' =>
        rw [hchecked] at h
        simp only at h
        cases hroot : m'.bundleVerityHash.bind (fun hex => rHexDecode hex 32) with
        | none =>
          rw [hroot] at h
          cases hformat : m'.bundleFormat with
          | plain => simp [hformat] at h
          | verity => simp [hformat] at h
          | crypt => simp [hformat] at h
        | some root =>
          cases hsalt : m'.bundleVeritySalt.bind (fun hex => rHexDecode hex 32) with
          | none =>
            rw [hroot, hsalt] at h
            cases hformat : m'.bundleFormat with
            | plain => simp [hformat] at h
            | verity => simp [hformat] at h
            | crypt => simp [hformat] at h
          | some salt =>
            rw [hroot, hsalt] at h
            cases hformat : m'.bundleFormat with
            | plain => simp [hformat] at h
            | verity =>
              rw [hformat] at h
              exact hverify m' file root salt h
            | crypt =>
              rw [hformat] at h
              exact hverify m' file root salt h

/-- What leaves the files alone leaves them as they were found. -/
lemma triple_keepsFiles {α : Type} {p : WorkProg α} {C : α → Prop}
    (h : Still BundleWork.files p C) :
    Triple (fun work => work.files = files) p (fun a work => work.files = files ∧
      C a) (fun _ _ => True) :=
  triple_consequence (h files) (fun _ hs => hs) (fun _ _ hs => hs) (fun _ _ _ => trivial)

/-- The signature comes from the file. -/
lemma triple_replaceSignature {P : List UInt8 → Prop}
    (hfile : ∀ sig, env.signatureFile = .ok sig → P sig) :
    Triple (fun work => work.files = files) (replaceSignature env bundle)
      (fun _ work => files.lookup env.bundlename = none ∧
        CopiedFrom env files bundle.path bundle.size P work)
      (RestoredOnError env files) := by
  apply triple_withNewOutput
  apply triple_bind (triple_keepsFiles (still_mapError _ (still_manifestOf env bundle)))
  intro _
  apply triple_fact
  intro _
  apply triple_bind (triple_keepsFiles (still_mapError _ (still_decided _)))
  intro sig
  apply triple_fact
  intro hsig
  apply triple_bind (triple_truncateBundle bundle.path bundle.size)
  intro _
  apply triple_bind (triple_appendCopied (hfile sig hsig))
  intro _
  exact triple_external_id (fun _ _ _ => trivial)

/-- A call that returns has copied the payload of its bundle behind the name of the output, which
was free. -/
lemma triple_bundleCall (hbounded : BoundedSignatures env) (call : BundleCall) :
    Triple (fun work => work.files = files) (call.run env bundle sigdata)
      (fun _ work => files.lookup env.bundlename = none ∧
        CopiedFrom env files bundle.path bundle.size (fun sig => sig.length < 2 ^ 64) work)
      (RestoredOnError env files) := by
  cases call with
  | resign append =>
    apply triple_withNewOutput
    apply triple_bind (triple_keepsFiles (still_ofResult _))
    intro checked
    apply triple_fact
    intro hchecked
    obtain ⟨hpath, hsize⟩ := checkBundlePayload_same hchecked
    rw [hpath, hsize]
    apply triple_bind (triple_keepsFiles (still_manifestOf env checked))
    intro m
    apply triple_fact
    intro _
    apply triple_bind (triple_keepsFiles (still_setManifest (fun _ _ => rfl) m))
    intro _
    apply triple_fact
    intro _
    cases append with
    | true =>
      have happend : Still BundleWork.files (appendSignature env sigdata) (fun sig => sig.length <
          2 ^ 64) :=
        still_bind (still_external _) (fun _ _ => still_pure (hbounded.append sigdata))
      exact triple_signCopied happend
    | false =>
      have hgenerate : Still BundleWork.files (generateBundleSignature env.toCreateEnv)
          (fun sig => sig.length < 2 ^ 64) := by
        apply still_consequence (still_generateBundleSignature env.toCreateEnv (fun _ _ => rfl))
        rintro sig (⟨payload, rfl⟩ | ⟨m, rfl⟩)
        · exact hbounded.signFile payload
        · exact hbounded.signManifest m
      exact triple_signCopied hgenerate
  | encrypt =>
    unfold BundleCall.run encryptBundle
    split_ifs with hformat
    · apply triple_exit
      rintro _ rfl _ _ _
      rfl
    · apply triple_withNewOutput
      apply triple_bind (triple_truncateBundle bundle.path bundle.size)
      intro _
      apply triple_bind (triple_external_id (fun _ _ _ => trivial))
      intro _
      exact triple_appendCopied (hbounded.encrypt sigdata)
  | replace => exact triple_replaceSignature hbounded.file

end Calls

section Sessions

variable {before after files files' : Table String (List UInt8)}

/-- One call of the program, with a bundle that was opened in front of it. -/
structure BundleRequest where
  env : OpenedEnv
  bundle : RaucBundle
  sigdata : List UInt8
  call : BundleCall

def BundleRequest.program (request : BundleRequest) : WorkProg Unit :=
  request.call.run request.env request.bundle request.sigdata

/-- The bundle was opened from a local file that is still there; its output can be removed. -/
structure BundleRequest.Ready (request : BundleRequest) (files : Table String (List UInt8)) :
    Prop where
  opened : ∃ content max opened, files.lookup request.bundle.path = some content ∧
    Trailer max content opened ∧
    request.bundle.size = opened.size
  bounded : BoundedSignatures request.env
  removable : request.env.removable request.env.bundlename = true

/-- A call that is not interrupted leaves these files. -/
def Served (files files' : Table String (List UInt8)) : Prop :=
  ∃ request : BundleRequest, ∃ fates : Nat → Fate, request.Ready files ∧
    (∀ x, (request.program ⟨{ files := files }, fates⟩).1 = .exit x → ∃ e, x = .error e) ∧
    files' = (request.program ⟨{ files := files }, fates⟩).2.state.files

/-- A payload of one of these files with some signature behind it. -/
def PayloadOfOne (files : Table String (List UInt8)) (content : List UInt8) : Prop :=
  ∃ source original max opened sig, files.lookup source = some original ∧
    Trailer max original opened ∧
    sig.length < 2 ^ 64 ∧ content = signedFile (original.take opened.size) sig

/-- Files stay as they are, and what is new has the payload of a file that was there. -/
structure PayloadsKept (before after : Table String (List UInt8)) : Prop where
  retains : ∀ path content, before.lookup path = some content → after.lookup path = some content
  introduced : ∀ path content, after.lookup path = some content → before.lookup path = none →
    PayloadOfOne before content

lemma truncateTo_of_le {size : Nat} {content : List UInt8} (h : size ≤ content.length) :
    truncateTo size content = content.take size := by
  unfold truncateTo
  rw [Nat.sub_eq_zero_of_le h, List.replicate_zero, List.append_nil]

lemma PayloadsKept.refl (files : Table String (List UInt8)) : PayloadsKept files files :=
  ⟨fun _ _ hfile => hfile, fun _ _ hfile hnone => absurd (hfile.symm.trans hnone) (by simp)⟩

/-- The payload of a new file is that of an older one, which has kept its content. -/
lemma PayloadsKept.trans {middle : Table String (List UInt8)} (first : PayloadsKept before middle)
    (second : PayloadsKept middle after) : PayloadsKept before after := by
  refine ⟨fun path content hfile => second.retains path content (first.retains path content hfile),
    ?_⟩
  intro path content hfile hnone
  cases hmiddle : middle.lookup path with
  | some old =>
    obtain rfl := Option.some.inj ((second.retains path old hmiddle).symm.trans hfile)
    exact first.introduced path old hmiddle hnone
  | none =>
    obtain ⟨source, original, max, opened, sig, hsource, htrailer, hsig, rfl⟩ :=
      second.introduced path content hfile hmiddle
    cases hbefore : before.lookup source with
    | some oldest =>
      obtain rfl := Option.some.inj ((first.retains source oldest hbefore).symm.trans hsource)
      exact ⟨source, oldest, max, opened, sig, hbefore, htrailer, hsig, rfl⟩
    | none =>
      obtain ⟨source', oldest, max', opened', sig', holdest, htrailer', hsig', rfl⟩ :=
        first.introduced source original hsource hbefore
      -- the copied file is opened at the payload that was copied into it
      have hsize := trailer_signedFile_inv hsig' htrailer
      refine ⟨source', oldest, max', opened', sig, holdest, htrailer', hsig, ?_⟩
      rw [hsize, take_signedFile]

/-- A call that is not interrupted changes no file, and the payload of the file that it adds is that
of its bundle. -/
lemma Served.payloadsKept (h : Served files files') : PayloadsKept files files' := by
  obtain ⟨request, fates, hready, hends, rfl⟩ := h
  obtain ⟨content, max, opened, hcontent, htrailer, hsize⟩ := hready.opened
  have hothers := still_bundleCall request.env request.bundle request.sigdata request.call
    (otherFiles request.env.toCreateEnv { files := files }) ⟨{ files := files }, fates⟩ rfl
  have houtput := @triple_bundleCall request.env request.bundle request.sigdata files
    hready.bounded request.call
    ⟨{ files := files }, fates⟩ rfl
  change Holds _ _ (request.program ⟨{ files := files }, fates⟩) at hothers houtput
  cases hrun : request.program ⟨{ files := files }, fates⟩ with
  | mk o w' =>
    rw [hrun] at hothers houtput hends
    have hframe : otherFiles request.env.toCreateEnv w'.state =
        otherFiles request.env.toCreateEnv { files := files } := by
      cases o with
      | value _ => exact hothers.1
      | exit x => exact hothers
    have hsame : ∀ path, path ≠ request.env.bundlename → w'.state.files.lookup path =
        files.lookup path := by
      intro path hpath
      have hlookup := congrFun hframe path
      unfold otherFiles at hlookup
      rwa [if_neg hpath, if_neg hpath] at hlookup
    cases o with
    | exit x =>
      obtain ⟨e, rfl⟩ := hends x rfl
      have hall : ∀ path, w'.state.files.lookup path = files.lookup path := by
        intro path
        by_cases hpath : path = request.env.bundlename
        · rw [hpath]
          exact houtput e rfl hready.removable
        · exact hsame path hpath
      refine ⟨fun path old hold => by rw [hall path, hold], fun path new hnew hnone => ?_⟩
      rw [hall path, hnone] at hnew
      exact absurd hnew (by simp)
    | value _ =>
      obtain ⟨hfree, content', sig, hcontent', hsig, hwritten⟩ := houtput
      obtain rfl := Option.some.inj (hcontent.symm.trans hcontent')
      constructor
      · intro path old hold
        by_cases hpath : path = request.env.bundlename
        · rw [hpath, hfree] at hold
          exact absurd hold (by simp)
        · rw [hsame path hpath, hold]
      · intro path new hnew hnone
        by_cases hpath : path = request.env.bundlename
        · rw [hpath, hwritten, hsize, truncateTo_of_le (trailer_size_le htrailer)] at hnew
          exact ⟨request.bundle.path, content, max, opened, sig, hcontent, htrailer, hsig,
            (Option.some.inj hnew).symm⟩
        · rw [hsame path hpath, hnone] at hnew
          exact absurd hnew (by simp)

/-- However bundles are resigned, encrypted and given other signatures, in any order and from any of
the files that there are by then: no file is changed or lost, and the payload of each new one is
byte for byte that of a file of the beginning. -/
theorem session_keeps_payloads (before after : Table String (List UInt8))
    (h : Relation.ReflTransGen Served before after) : PayloadsKept before after := by
  induction h with
  | refl => exact PayloadsKept.refl before
  | tail _ hlast ih => exact ih.trans hlast.payloadsKept

/-- The output gets the given name and the given signature. -/
def smallOpened (name : String) : OpenedEnv :=
  { smallContent with
    bundlename := name
    tools := plainTools byteFile
    cmsAppendSignature := fun _ => [51]
    cmsEncrypt := fun _ => [52]
    signatureFile := .ok [49]
    tmpdir := "/tmp/rauc" }

/-- A bundle in the crypt format. -/
def smallBundle (path : String) : RaucBundle :=
  { path, size := 2, manifest := some (contentManifest .crypt) }

def smallFiles : Table String (List UInt8) :=
  Table.empty.set "update.raucb" (signedFile [1, 2] [50])

def encryptedFiles : Table String (List UInt8) :=
  smallFiles.set "encrypted.raucb" (signedFile [1, 2] [52])

lemma boundedSignatures_small (name : String) : BoundedSignatures (smallOpened name) := by
  have hshort : [(48 : UInt8)].length < 2 ^ 64 := by norm_num
  refine ⟨fun _ => hshort, fun m => ?_, fun _ => hshort, fun _ => hshort, ?_⟩
  · have hone : ((smallOpened name).cmsSignManifest m).length = 1 := length_cmsSignManifest m
    rw [hone]
    norm_num
  · intro sig hsig
    obtain rfl := Except.ok.inj hsig
    exact hshort

/-- A call on one of these bundles that succeeds. -/
lemma served_small {path name : String} {call : BundleCall}
    {files files' : Table String (List UInt8)} {sig : List UInt8}
    (hfile : files.lookup path = some (signedFile [1, 2] sig)) (hsig : sig.length = 1)
    (hrun : Calmly { files := files } (call.run (smallOpened name) (smallBundle path) sig) ()
      { files := files' }) :
    Served files files' := by
  refine ⟨⟨smallOpened name, smallBundle path, sig, call⟩, fun _ => .succeeds, ?_, ?_, ?_⟩
  · exact ⟨⟨_, 1024, ⟨2, sig⟩, hfile, trailer_signedFile (by omega) (by rw [hsig]; decide), rfl⟩,
      boundedSignatures_small name, rfl⟩
  · intro x hx
    exact absurd ((congrArg Prod.fst hrun).symm.trans hx) (by simp)
  · exact (congrArg (fun result => result.2.state.files) hrun).symm

/-- The signature of a bundle is encrypted, and that of the result is replaced. -/
theorem session_keeps_payloads_small :
    PayloadsKept smallFiles (encryptedFiles.set "replaced.raucb" (signedFile [1, 2] [49])) := by
  have hencrypted : Served smallFiles encryptedFiles :=
    @served_small "update.raucb" "encrypted.raucb" .encrypt _ _ [50] rfl rfl rfl
  have hreplaced :
      Served encryptedFiles (encryptedFiles.set "replaced.raucb" (signedFile [1, 2] [49])) :=
    @served_small "encrypted.raucb" "replaced.raucb" .replace _ _ [52] rfl rfl rfl
  exact session_keeps_payloads _ _ (.tail (.single hencrypted) hreplaced)

end Sessions

end RaucUpdate
