import RaucUpdate.Library.StillPrograms
import RaucUpdate.Library.Traces
import RaucUpdate.Model.InstallBundle
import RaucUpdate.Proofs.BundleTrailer
import RaucUpdate.Proofs.ManifestChecks

/-!
# What stands before an installation

In every run of `do_install_bundle`, whichever step fails and wherever the execution stops, a
handler is started only after the signature, the format, the hash, the encryption, the compatible
and the version of the bundle have been accepted, and nothing is changed before a handler is
started.
-/

namespace RaucUpdate

open Library

section Deciding

variable {σ υ α : Type} {view : σ → υ}

lemma still_ofExcept (r : Except GError α) :
    Prog.Still view (ofExcept r : Prog σ GError α) (fun a => r = .ok a) := by
  cases r with
  | ok a => exact Prog.still_pure rfl
  | error e => exact Prog.still_exit _

lemma still_ofOutcome (o : Outcome GError α) :
    Prog.Still view (ofOutcome o : Prog σ GError α) (fun a => o = .value a) := by
  cases o with
  | value a => exact Prog.still_pure rfl
  | exit x => exact Prog.still_exit x

end Deciding

section Seen

variable {α β : Type} {A A' E : InstallState → List InstallerEvent → Prop}

/-- What is seen of an installation: its progress has no part in it. -/
def InstallerState.seen (st : InstallerState) : InstallState × List InstallerEvent :=
  (st.install, st.events)

def Seen (A : InstallState → List InstallerEvent → Prop) (st : InstallerState) : Prop :=
  A st.seen.1 st.seen.2

section View

variable {υ : Type} {view : InstallerState → υ}

/-- What is seen through the view does not depend on the progress. -/
def BlindToProgress (view : InstallerState → υ) : Prop :=
  ∀ st calls progress, view { st with calls := calls, progress := progress } = view st

lemma still_makeCall (hview : BlindToProgress view) (c : ProgressCall) :
    Prog.Still view (makeCall c) (fun _ => True) := by
  have hcalled : Prog.Still view (Prog.modify (fun st => st.called c) : InstallerProg Unit)
      (fun _ => True) :=
    Prog.still_modify (fun st => hview st _ _)
  apply Prog.still_bind hcalled
  intro _ _
  apply Prog.still_read_bind
  intro st
  cases progressCall st.progress c with
  | ok progress => exact Prog.still_modify (fun st => hview st _ _)
  | error reason => exact Prog.still_exit _

lemma still_inStep (hview : BlindToProgress view) {name description : String}
    {substeps weight : Nat}
    {p : InstallerProg α} {C : α → Prop} (hp : Prog.Still view p C) :
    Prog.Still view (inStep name description substeps weight p) C := by
  apply Prog.still_bind (still_makeCall hview _)
  intro _ _
  apply Prog.still_bind (Prog.still_attempt hp)
  intro result hresult
  cases result with
  | ok a =>
    exact Prog.still_bind (still_makeCall hview _) (fun _ _ => Prog.still_pure (hresult a rfl))
  | error e => exact Prog.still_bind (still_makeCall hview _) (fun _ _ => Prog.still_exit _)

end View

lemma blind_seen : BlindToProgress InstallerState.seen := fun _ _ _ => rfl

lemma blind_events : BlindToProgress InstallerState.events := fun _ _ _ => rfl

lemma seen_still {p : InstallerProg α} {C : α → Prop} (hp : Prog.Still InstallerState.seen p C)
    (hE : ∀ install events, A install events → E install events) :
    Prog.Triple (Seen A) p (fun a st => Seen A st ∧ C a) (fun _ => Seen E) :=
  Prog.triple_consequence (hp.triple (P := fun v : InstallState × List InstallerEvent =>
    A v.1 v.2)) (fun _ h => h)
    (fun _ _ h => h) (fun _ _ h => hE _ _ h)

lemma seen_still_bind {p : InstallerProg α} {f : α → InstallerProg β} {C : α → Prop}
    (hp : Prog.Still InstallerState.seen p C) (hE : ∀ install events, A install events →
      E install events)
    {Q : β → InstallerState → Prop} (hf : ∀ a, C a →
      Prog.Triple (Seen A) (f a) Q (fun _ => Seen E)) :
    Prog.Triple (Seen A) (p >>= f) Q (fun _ => Seen E) :=
  Prog.triple_bind (seen_still hp hE) (fun a => Prog.triple_fact (hf a))

/-- A step around something that is not still. -/
lemma seen_inStep {name description : String} {substeps weight : Nat} {p : InstallerProg α}
    {B : α → InstallState → List InstallerEvent → Prop} {C : α → Prop}
    (hp : Prog.Triple (Seen A) p (fun a st => Seen (B a) st ∧ C a) (fun _ => Seen E))
    (hE : ∀ install events, A install events → E install events)
    (hB : ∀ a install events, B a install events → E install events) :
    Prog.Triple (Seen A) (inStep name description substeps weight p) (fun a st => Seen (B a) st ∧
      C a)
      (fun _ => Seen E) := by
  apply seen_still_bind (still_makeCall blind_seen _) hE
  intro _ _
  apply Prog.triple_bind (Prog.triple_attempt_cases hp)
  intro result
  cases result with
  | ok a =>
    apply Prog.triple_fact
    intro ha
    apply seen_still_bind (still_makeCall blind_seen _) (hB a)
    exact fun _ _ => Prog.triple_pure (fun _ h => ⟨h, ha⟩)
  | error e =>
    apply seen_still_bind (still_makeCall blind_seen _) (fun _ _ h => h)
    exact fun _ _ => Prog.triple_exit (fun _ h => h)

lemma seen_logEvent {e : InstallerEvent} {F : Exit GError → InstallerState → Prop}
    (h : ∀ install events, A install events → A' install (events ++ [e])) :
    Prog.Triple (Seen A) (logEvent e) (fun _ => Seen A') F :=
  Prog.triple_modify (fun _ hst => h _ _ hst)

end Seen

section Verification

variable (tools : BundleTools) (ctx : BundleContext) (source : BundleSource) {υ : Type}
  {view : InstallerState → υ}

lemma verifyBytes_ok {content : Option (List UInt8)} {sig data : List UInt8} {manifest : Bool}
    (h : verifyBytes tools content sig manifest = .ok data) :
      tools.verify content sig = .ok data := by
  unfold verifyBytes at h
  cases hdetached : tools.isDetached sig with
  | none => simp [hdetached] at h
  | some detached =>
    cases detached with
    | true =>
      cases content with
      | none => simp [hdetached] at h
      | some content =>
        cases manifest with
        | true => simp [hdetached] at h
        | false => simpa [hdetached] using h
    | false =>
      cases content with
      | some content => simp [hdetached] at h
      | none =>
        cases manifest with
        | true => simpa [hdetached] using h
        | false => simp [hdetached] at h

lemma still_cmsVerifyBytes (hview : BlindToProgress view) {content : Option (List UInt8)}
    {sig : List UInt8}
    {manifest : Bool} :
    Prog.Still view (cmsVerifyBytes tools content sig manifest)
      (fun data => tools.verify content sig = .ok data) :=
  still_inStep hview (Prog.still_consequence (still_ofExcept _) (fun _ h => verifyBytes_ok tools h))

lemma loadManifest_hash {data : List UInt8} {manifest : RaucManifest}
    (h : loadManifest tools data = .value manifest) :
    manifest.hash = some (tools.checksum data) := by
  unfold loadManifest at h
  cases hfile : tools.keyFile data with
  | error e => simp [hfile] at h
  | ok keyFile =>
    rw [hfile] at h
    unfold loadManifestMem at h
    cases hparse : Prog.observe parseManifest keyFile with
    | exit x => simp [hparse] at h
    | value parsed =>
      simp only [hparse, Outcome.value.injEq] at h
      rw [← h]

lemma still_openBundle :
    Prog.Still view (openBundle ctx source) (Trailer ctx.maxBundleSignatureSize
      source.content) := by
  apply Prog.still_mapError
  apply Prog.still_zoom
  have hinside : ∀ st : BundleFile, st = { content := source.content } →
      ReadInside source.content st := by
    rintro st rfl
    exact ⟨rfl, by simp⟩
  by_cases hstreaming : source.streaming = true
  · rw [if_pos hstreaming]
    exact Prog.triple_consequence (triple_openRemoteBundle _) hinside (fun _ _ h => h.2)
      (fun _ _ _ => trivial)
  · rw [if_neg hstreaming]
    exact Prog.triple_consequence (triple_openLocalBundle _) hinside (fun _ _ h => h.2)
      (fun _ _ _ => trivial)

lemma still_loadSignedManifest (data : List UInt8) :
    Prog.Still view (loadSignedManifest tools data)
      (fun manifest => loadManifest tools data = .value manifest ∧
        manifest.bundleFormat ≠ .plain) := by
  apply Prog.still_bind (Prog.still_mapError _ (still_ofOutcome _))
  intro manifest hmanifest
  by_cases hplain : manifest.bundleFormat = .plain
  · rw [if_pos hplain]
    exact Prog.still_exit _
  · rw [if_neg hplain]
    exact Prog.still_pure ⟨hmanifest, hplain⟩

lemma still_checkBundleAccess : Prog.Still view (checkBundleAccess source) (fun _ => True) := by
  unfold checkBundleAccess
  by_cases hstreaming : source.streaming = true
  · rw [if_pos hstreaming]
    exact Prog.still_pure trivial
  · rw [if_neg hstreaming]
    exact Prog.still_bind Prog.still_ask (fun _ _ => Prog.still_pure trivial)

end Verification

section Gates

variable (tools : BundleTools) (ctx : BundleContext) (args : BundleInstallArgs)
  (source : BundleSource)

/-- The manifest comes from data that the signature in the bundle covers: from the payload under a
detached signature, or from the content of an inline one. -/
def SignedAs (opened : OpenedBundle) (data : List UInt8) (manifest : RaucManifest) : Prop :=
  ∃ sigdata encrypted loaded, decryptSignature tools ctx opened.sigdata = .ok (sigdata, encrypted) ∧
    loadManifest tools data = .value loaded ∧
    ((tools.isDetached opened.sigdata = some true ∧
        (∃ content, tools.verify (some (payloadOf source.content opened.size)) sigdata =
          .ok content) ∧
        tools.manifestFile (payloadOf source.content opened.size) = .ok data ∧
          checkManifestInternal loaded = .ok manifest) ∨
      (tools.isDetached opened.sigdata = some false ∧ tools.verify none sigdata = .ok data ∧
        checkManifestExternal loaded = .ok manifest))

/-- The version limit of the configuration for a manifest. -/
def VersionMet (manifest : RaucManifest) : Prop :=
  ∀ minVersion, ctx.systemMinBundleVersion = some minVersion → args.ignoreVersionLimit = false →
    ∃ version, manifest.updateVersion = some version ∧
      rSemverLessEqual minVersion version = .ok true

/-- What has been accepted of a bundle, with its manifest, when it is mounted. -/
structure Admitted (opened : OpenedBundle) (data : List UInt8) (manifest : RaucManifest) :
    Prop where
  trailer : Trailer ctx.maxBundleSignatureSize source.content opened
  signed : SignedAs tools ctx source opened data manifest
  format : formatAllowed ctx manifest.bundleFormat = true
  hash : ∀ required, args.requireManifestHash = some required →
    tools.isDetached opened.sigdata = some false ∧ tools.checksum data = required
  encrypted : manifest.bundleFormat = .crypt → tools.isEnvelopeddata opened.sigdata = true

/-- All that has to hold, and to have happened, before a handler is started. -/
structure Cleared (pre : List InstallerEvent) (opened : OpenedBundle) (data : List UInt8)
    (manifest : RaucManifest) :
    Prop extends Admitted tools ctx args source opened data manifest where
  verified : .signatureVerified ∈ pre
  compatible : args.ignoreCompatible = true ∨ ctx.systemCompatible = manifest.updateCompatible ∨
    (manifest.hookInstallCheck = true ∧ .installCheckPassed ∈ pre)
  version : VersionMet ctx args manifest

def StartsCleared (pre : List InstallerEvent) (e : InstallerEvent) : Prop :=
  e = .customHandler ∨ e = .defaultHandler → ∃ opened data manifest,
    Cleared tools ctx args source pre opened data manifest

def NoHandler (events : List InstallerEvent) : Prop :=
  .customHandler ∉ events ∧ .defaultHandler ∉ events

/-- At most the external mount points have been looked up. -/
def Idle (start install : InstallState) : Prop :=
  install = start ∨ install = start.withMounted tools.extMountPoint

variable (start : InstallState)

def Waiting (seen : List InstallerEvent) (install : InstallState) (events : List InstallerEvent) :
    Prop :=
  Idle tools start install ∧ events = seen

def Refused (install : InstallState) (events : List InstallerEvent) : Prop :=
  Idle tools start install ∧ NoHandler events

variable {tools ctx args source start}

lemma Waiting.refused {seen : List InstallerEvent} (hseen : NoHandler seen) (install : InstallState)
    (events : List InstallerEvent) (h : Waiting tools start seen install events) :
      Refused tools start install events := by
  obtain ⟨hidle, rfl⟩ := h
  exact ⟨hidle, hseen⟩

lemma noHandler_nil : NoHandler [] := ⟨by simp, by simp⟩

lemma noHandler_verified : NoHandler [.signatureVerified] := ⟨by simp, by simp⟩

/-- What is known of a bundle after `check_bundle`. -/
def BundleRead (tools : BundleTools) (ctx : BundleContext) (source : BundleSource)
    (bundle : RaucBundle) : Prop :=
  ∃ opened sigdata, Trailer ctx.maxBundleSignatureSize source.content opened ∧
    decryptSignature tools ctx opened.sigdata = .ok (sigdata, bundle.wasEncrypted) ∧
    checkAllowedBundleFormat ctx bundle.manifest = .ok () ∧
    ((bundle.manifest = none ∧ tools.isDetached opened.sigdata = some true ∧
        (∃ content, tools.verify (some (payloadOf source.content opened.size)) sigdata =
          .ok content) ∧
        bundle.stream = some source.content ∧ bundle.size = opened.size) ∨
      (∃ data manifest, bundle.manifest = some manifest ∧ tools.isDetached opened.sigdata =
        some false ∧
        tools.verify none sigdata = .ok data ∧ loadManifest tools data = .value manifest ∧
          manifest.bundleFormat ≠ .plain))

lemma logVerified {F : Exit GError → InstallerState → Prop} :
    Prog.Triple (Seen (Waiting tools start [])) (logEvent .signatureVerified)
      (fun _ => Seen (Waiting tools start [.signatureVerified])) F := by
  apply seen_logEvent
  rintro install events ⟨hidle, rfl⟩
  exact ⟨hidle, rfl⟩

lemma verifyDetached_waits {bundle : RaucBundle} {sigdata : List UInt8} :
    Prog.Triple (Seen (Waiting tools start [])) (verifyDetached tools source bundle sigdata)
      (fun verified st => Seen (Waiting tools start [.signatureVerified]) st ∧
        verified = { bundle with signatureVerified := true, payloadVerified := true,
                                 exclusiveVerified := true } ∧
        ∃ content, tools.verify (some (payloadOf source.content bundle.size)) sigdata = .ok content)
      (fun _ => Seen (Refused tools start)) := by
  apply seen_still_bind (Prog.still_external _) (Waiting.refused noHandler_nil)
  intro _ _
  apply seen_still_bind (Prog.still_external _) (Waiting.refused noHandler_nil)
  intro _ _
  apply seen_still_bind (still_cmsVerifyBytes tools blind_seen) (Waiting.refused noHandler_nil)
  intro content hcontent
  apply Prog.triple_bind logVerified
  intro _
  apply seen_still_bind (still_ofExcept _) (Waiting.refused noHandler_verified)
  intro _ _
  exact Prog.triple_pure (fun st hst => ⟨hst, rfl, content, hcontent⟩)

lemma verifyInline_waits {bundle : RaucBundle} {sigdata : List UInt8} :
    Prog.Triple (Seen (Waiting tools start [])) (verifyInline tools source bundle sigdata)
      (fun r st => Seen (Waiting tools start [.signatureVerified]) st ∧
        r.1.wasEncrypted = bundle.wasEncrypted ∧ tools.verify none sigdata = .ok r.2)
      (fun _ => Seen (Refused tools start)) := by
  apply seen_still_bind (still_checkBundleAccess source) (Waiting.refused noHandler_nil)
  intro exclusive _
  apply seen_still_bind (still_cmsVerifyBytes tools blind_seen) (Waiting.refused noHandler_nil)
  intro data hdata
  apply Prog.triple_bind logVerified
  intro _
  apply seen_still_bind (still_ofExcept _) (Waiting.refused noHandler_verified)
  intro _ _
  exact Prog.triple_pure (fun st hst => ⟨hst, rfl, hdata⟩)

lemma verifyBundle_waits {detached : Bool} {bundle : RaucBundle} {sigdata : List UInt8}
    (hnone : bundle.manifest = none) :
    Prog.Triple (Seen (Waiting tools start [])) (verifyBundle tools source detached bundle sigdata)
      (fun verified st => Seen (Waiting tools start [.signatureVerified]) st ∧
        verified.wasEncrypted = bundle.wasEncrypted ∧
        ((detached = true ∧ verified.manifest = none ∧ verified.stream = bundle.stream ∧
            verified.size = bundle.size ∧
            ∃ content, tools.verify (some (payloadOf source.content bundle.size)) sigdata =
              .ok content) ∨
          (detached = false ∧ ∃ data manifest, verified.manifest = some manifest ∧
            tools.verify none sigdata = .ok data ∧
            loadManifest tools data = .value manifest ∧ manifest.bundleFormat ≠ .plain)))
      (fun _ => Seen (Refused tools start)) := by
  apply seen_still_bind (Prog.still_external _) (Waiting.refused noHandler_nil)
  intro _ _
  cases detached with
  | true =>
    refine Prog.triple_consequence verifyDetached_waits (fun _ h => h) ?_ (fun _ _ h => h)
    rintro verified st ⟨hst, rfl, hcontent⟩
    exact ⟨hst, rfl, .inl ⟨rfl, hnone, rfl, rfl, hcontent⟩⟩
  | false =>
    apply Prog.triple_bind verifyInline_waits
    rintro ⟨verified, data⟩
    apply Prog.triple_fact
    rintro ⟨hencrypted, hdata⟩
    apply seen_still_bind (still_loadSignedManifest tools data) (Waiting.refused noHandler_verified)
    rintro manifest ⟨hload, hformat⟩
    exact Prog.triple_pure (fun st hst => ⟨hst, hencrypted,
      .inr ⟨rfl, data, manifest, rfl, hdata, hload, hformat⟩⟩)

lemma still_startStreaming {υ : Type} {view : InstallerState → υ} :
    Prog.Still view (startStreaming source) (fun _ => True) := by
  unfold startStreaming
  by_cases hstreaming : source.streaming = true
  · rw [if_pos hstreaming]
    exact Prog.still_external _
  · rw [if_neg hstreaming]
    exact Prog.still_pure trivial

lemma readOpened_waits {opened : OpenedBundle}
    (hopened : Trailer ctx.maxBundleSignatureSize source.content opened) :
    Prog.Triple (Seen (Waiting tools start [])) (readOpened tools ctx source opened)
      (fun bundle st => Seen (Waiting tools start [.signatureVerified]) st ∧
        BundleRead tools ctx source bundle)
      (fun _ => Seen (Refused tools start)) := by
  have hwaits : ∀ install events, Waiting tools start [] install events →
      Refused tools start install events :=
    Waiting.refused noHandler_nil
  unfold readOpened
  cases hdetached : tools.isDetached opened.sigdata with
  | none => exact Prog.triple_exit (fun _ hst => hwaits _ _ hst)
  | some detached =>
    dsimp only
    by_cases hstreamed : detached = true ∧ source.streaming = true
    · rw [if_pos hstreamed]
      exact Prog.triple_exit (fun _ hst => hwaits _ _ hst)
    rw [if_neg hstreamed]
    apply seen_still_bind (still_ofExcept _) hwaits
    rintro ⟨sigdata, wasEncrypted⟩ hdecrypted
    apply Prog.triple_bind (verifyBundle_waits rfl)
    intro bundle
    apply Prog.triple_fact
    rintro ⟨hencrypted, hverified⟩
    apply seen_still_bind (still_ofExcept _) (Waiting.refused noHandler_verified)
    rintro _ hformat
    refine Prog.triple_pure (fun st hst => ⟨hst, opened, sigdata, hopened, ?_, hformat, ?_⟩)
    · rw [hencrypted]
      exact hdecrypted
    · rcases hverified with ⟨rfl, hnone, hstream, hsize, hcontent⟩ | ⟨rfl, data, manifest, hsome,
        hdata, hload, hplain⟩
      · have hlocal : ¬source.streaming = true := fun h => hstreamed ⟨rfl, h⟩
        rw [if_neg hlocal] at hstream
        exact .inl ⟨hnone, hdetached, hcontent, hstream, hsize⟩
      · exact .inr ⟨data, manifest, hsome, hdetached, hdata, hload, hplain⟩

lemma readBundle_waits :
    Prog.Triple (Seen (Waiting tools start [])) (readBundle tools ctx source)
      (fun bundle st => Seen (Waiting tools start [.signatureVerified]) st ∧
        BundleRead tools ctx source bundle)
      (fun _ => Seen (Refused tools start)) := by
  have hwaits : ∀ install events, Waiting tools start [] install events →
      Refused tools start install events :=
    Waiting.refused noHandler_nil
  unfold readBundle
  by_cases hkeyring : ctx.keyringPath.isNone ∧ ctx.keyringDirectory.isNone
  · rw [if_pos hkeyring]
    exact Prog.triple_exit (fun _ hst => hwaits _ _ hst)
  · rw [if_neg hkeyring]
    apply seen_still_bind still_startStreaming hwaits
    intro _ _
    apply seen_still_bind (still_openBundle ctx source) hwaits
    intro opened hopened
    exact readOpened_waits hopened

lemma checkBundle_waits :
    Prog.Triple (Seen (Waiting tools start [])) (checkBundle tools ctx source)
      (fun bundle st => Seen (Waiting tools start [.signatureVerified]) st ∧
        BundleRead tools ctx source bundle)
      (fun _ => Seen (Refused tools start)) :=
  seen_inStep readBundle_waits (Waiting.refused noHandler_nil)
    (fun _ => Waiting.refused noHandler_verified)

end Gates

section Mounting

variable {tools : BundleTools} {ctx : BundleContext} {args : BundleInstallArgs}
  {source : BundleSource}
  {υ : Type} {view : InstallerState → υ}

lemma still_checkManifestStep (check : RaucManifest → Except GError RaucManifest)
    (manifest : RaucManifest) :
    Prog.Still InstallerState.seen (checkManifestStep check manifest) (fun checked =>
      check manifest = .ok checked) :=
  still_inStep blind_seen (still_ofExcept _)

lemma still_ignoredSteps (n : Nat) : Prog.Still view (ignoredSteps n) (fun _ => True) := by
  induction n with
  | zero => exact Prog.still_pure trivial
  | succ n ih => exact Prog.still_bind Prog.still_ask (fun _ _ => ih)

lemma still_setupLayers (layers : List String) (n : Nat) :
    Prog.Still view (setupLayers n layers) (fun _ => True) := by
  induction layers generalizing n with
  | nil => exact Prog.still_pure trivial
  | cons layer rest ih =>
    apply Prog.still_bind (Prog.still_attempt (Prog.still_external _))
    intro result _
    cases result with
    | ok _ => exact ih (n + 1)
    | error e => exact Prog.still_bind (still_ignoredSteps n) (fun _ _ => Prog.still_exit _)

lemma still_mountDevice (layers : List String) : Prog.Still view (mountDevice ctx layers)
    (fun _ => True) := by
  apply Prog.still_bind (still_setupLayers layers 0)
  intro _ _
  apply Prog.still_bind (Prog.still_attempt (C := fun _ => True) ?_)
  · intro result _
    apply Prog.still_bind (still_ignoredSteps _)
    intro _ _
    exact Prog.still_consequence (still_ofExcept _) (fun _ _ => trivial)
  · by_cases hcheck : ctx.performPreCheck = true
    · rw [if_pos hcheck]
      exact Prog.still_bind (Prog.still_external _) (fun _ _ => Prog.still_external _)
    · rw [if_neg hcheck]
      exact Prog.still_external _

lemma still_prepareDevice (layers : List String) (manifest : RaucManifest) :
    Prog.Still InstallerState.seen (prepareDevice ctx layers manifest)
      (fun checked => checkManifestExternal manifest = .ok checked) := by
  apply Prog.still_bind (still_checkManifestStep _ _)
  intro checked hchecked
  exact Prog.still_bind (still_mountDevice layers) (fun _ _ => Prog.still_pure hchecked)

lemma still_readPlainManifest (payload : List UInt8) :
    Prog.Still view (readPlainManifest tools payload)
      (fun loaded => ∃ data, tools.manifestFile payload = .ok data ∧ loadManifest tools data =
        .value loaded) := by
  apply Prog.still_mapError
  apply Prog.still_bind (Prog.still_external _)
  intro _ _
  apply Prog.still_bind (still_ofExcept _)
  intro data hdata
  exact Prog.still_consequence (still_ofOutcome _) (fun loaded hloaded => ⟨data, hdata, hloaded⟩)

lemma still_loadPlainManifest (payload : List UInt8) :
    Prog.Still InstallerState.seen (loadPlainManifest tools payload) (fun manifest =>
      manifest.bundleFormat = .plain ∧
      ∃ data loaded, tools.manifestFile payload = .ok data ∧ loadManifest tools data =
        .value loaded ∧
        checkManifestInternal loaded = .ok manifest) := by
  apply Prog.still_bind (still_readPlainManifest payload)
  rintro loaded ⟨data, hdata, hloaded⟩
  apply Prog.still_bind (still_checkManifestStep _ _)
  intro manifest hchecked
  by_cases hplain : manifest.bundleFormat = .plain
  · rw [if_pos hplain]
    exact Prog.still_pure ⟨hplain, data, loaded, hdata, hloaded, hchecked⟩
  · rw [if_neg hplain]
    exact Prog.still_exit _

lemma still_mountPlain (bundle : RaucBundle) :
    Prog.Still InstallerState.seen (mountPlain tools bundle) (fun manifest =>
      manifest.bundleFormat = .plain ∧
      ∃ data loaded, tools.manifestFile (payloadOf (bundle.stream.getD []) bundle.size) = .ok data ∧
        loadManifest tools data = .value loaded ∧ checkManifestInternal loaded = .ok manifest) := by
  unfold mountPlain
  by_cases hverified : bundle.payloadVerified ∨ bundle.verificationDisabled
  · rw [if_neg (not_not.mpr hverified)]
    apply Prog.still_bind (Prog.still_external _)
    intro _ _
    apply Prog.still_bind (Prog.still_attempt (still_loadPlainManifest _))
    intro result hresult
    cases result with
    | ok manifest => exact Prog.still_pure (hresult manifest rfl)
    | error e => exact Prog.still_bind (still_ignoredSteps 1) (fun _ _ => Prog.still_exit _)
  · rw [if_pos hverified]
    exact Prog.still_exit _

lemma requireFormat_ok {format : BundleFormat} (h : requireFormat ctx format = .ok ()) :
    formatAllowed ctx format = true := by
  by_contra hnot
  rw [requireFormat, if_neg hnot] at h
  cases h

lemma decryptSignature_encrypted {sigdata decrypted : List UInt8}
    (h : decryptSignature tools ctx sigdata = .ok (decrypted, true)) :
      tools.isEnvelopeddata sigdata = true := by
  by_contra hnot
  rw [decryptSignature, if_neg hnot] at h
  cases h

/-- The manifest of a plain bundle is read from the payload. -/
lemma admitted_plain {bundle : RaucBundle} (hread : BundleRead tools ctx source bundle)
    (hnone : bundle.manifest = none)
    (hhash : checkRequiredHash args bundle = .ok ()) {manifest loaded : RaucManifest}
    {data : List UInt8}
    (hplain : manifest.bundleFormat = .plain)
    (hdata : tools.manifestFile (payloadOf (bundle.stream.getD []) bundle.size) = .ok data)
    (hload : loadManifest tools data = .value loaded)
    (hchecked : checkManifestInternal loaded = .ok manifest) :
    ∃ opened, Admitted tools ctx args source opened data manifest := by
  obtain ⟨opened, sigdata, htrailer, hdecrypted, hformat, hkind⟩ := hread
  rcases hkind with ⟨-, hdetached, hcontent, hstream, hsize⟩ | ⟨_, _, hsome, -⟩
  · rw [hstream, hsize] at hdata
    rw [hnone] at hformat
    refine ⟨opened, htrailer, ?_, ?_, ?_, ?_⟩
    · exact ⟨sigdata, bundle.wasEncrypted, loaded, hdecrypted, hload,
        .inl ⟨hdetached, hcontent, hdata, hchecked⟩⟩
    · rw [hplain]
      exact requireFormat_ok hformat
    · intro required hrequired
      simp [checkRequiredHash, hrequired, hnone] at hhash
    · rw [hplain]
      rintro ⟨⟩
  · rw [hnone] at hsome
    cases hsome

/-- The manifest of any other bundle is the content of its signature. -/
lemma admitted_external {bundle : RaucBundle} (hread : BundleRead tools ctx source bundle)
    {loaded : RaucManifest}
    (hsome : bundle.manifest = some loaded) (hhash : checkRequiredHash args bundle = .ok ())
    (hencrypted : checkEncrypted bundle = .ok ()) {manifest : RaucManifest}
    (hchecked : checkManifestExternal loaded = .ok manifest) :
    ∃ opened data, Admitted tools ctx args source opened data manifest := by
  obtain ⟨opened, sigdata, htrailer, hdecrypted, hformat, hkind⟩ := hread
  rcases hkind with ⟨hnone, -⟩ | ⟨data, m, hm, hinline, hdata, hload, hplain⟩
  · rw [hsome] at hnone
    cases hnone
  · obtain rfl : loaded = m := Option.some.inj (hsome.symm.trans hm)
    obtain ⟨images, -, hmanifest⟩ := checkManifestExternal_ok hchecked
    have hsame : manifest.bundleFormat = loaded.bundleFormat := by rw [hmanifest]
    refine ⟨opened, data, htrailer, ?_, ?_, ?_, ?_⟩
    · exact ⟨sigdata, bundle.wasEncrypted, loaded, hdecrypted, hload,
        .inr ⟨hinline, hdata, hchecked⟩⟩
    · rw [hsome, checkAllowedBundleFormat, if_neg hplain] at hformat
      rw [hsame]
      exact requireFormat_ok hformat
    · intro required hrequired
      refine ⟨hinline, ?_⟩
      by_contra hother
      simp [checkRequiredHash, hrequired, hsome, loadManifest_hash tools hload, hother] at hhash
    · intro hcrypt
      have hwas : bundle.wasEncrypted = true := by
        by_contra hnot
        rw [hsame] at hcrypt
        simp [checkEncrypted, hsome, hcrypt, hnot] at hencrypted
      rw [hwas] at hdecrypted
      exact decryptSignature_encrypted hdecrypted

lemma still_mountBundle {bundle : RaucBundle} (hread : BundleRead tools ctx source bundle)
    (hhash : checkRequiredHash args bundle = .ok ()) (hencrypted : checkEncrypted bundle = .ok ()) :
    Prog.Still InstallerState.seen (mountBundle tools ctx bundle)
      (fun manifest => ∃ opened data, Admitted tools ctx args source opened data manifest) := by
  apply Prog.still_bind (Prog.still_external _)
  intro _ _
  by_cases hverified : bundle.signatureVerified ∨ bundle.verificationDisabled
  · rw [if_neg (not_not.mpr hverified)]
    apply Prog.still_bind (Prog.still_external _)
    intro _ _
    cases hmanifest : bundle.manifest with
    | none =>
      apply Prog.still_consequence (still_mountPlain bundle)
      rintro manifest ⟨hplain, data, loaded, hdata, hload, hchecked⟩
      obtain ⟨opened, hadmitted⟩ := admitted_plain hread hmanifest hhash hplain hdata hload hchecked
      exact ⟨opened, data, hadmitted⟩
    | some loaded =>
      have hexternal : ∀ checked, checkManifestExternal loaded = .ok checked →
          ∃ opened data, Admitted tools ctx args source opened data checked :=
        fun _ hchecked => admitted_external hread hmanifest hhash hencrypted hchecked
      dsimp only
      cases hformat : loaded.bundleFormat with
      | plain => exact Prog.still_exit _
      | verity => exact Prog.still_consequence (still_prepareDevice _ _) hexternal
      | crypt => exact Prog.still_consequence (still_prepareDevice _ _) hexternal
  · rw [if_pos hverified]
    exact Prog.still_exit _

end Mounting

section Handlers

variable (ctx : InstallContext) (args : RaucInstallArgs) (manifest : RaucManifest)

lemma still_onInstall {α : Type} (p : InstallProg α) :
    Prog.Still InstallerState.events (onInstall p) (fun _ => True) := by
  intro events
  apply Prog.triple_zoom
  intro st hst
  exact fun w _ => by
    unfold Prog.Holds
    cases (p w).1 with
    | value a => exact ⟨hst, trivial⟩
    | exit x => exact hst

lemma still_reportCopy (image : RaucImage) : Prog.Still InstallerState.events (reportCopy image)
    (fun _ => True) := by
  apply Prog.still_read_bind
  intro st
  have hcopies : Prog.Still InstallerState.events
      (Prog.modify (fun st => { st with copies := fun n => st.copies (n + 1) }) : InstallerProg
        Unit) (fun _ => True) :=
    Prog.still_modify (fun _ => rfl)
  apply Prog.still_bind hcopies
  intro _ _
  exact Prog.still_each (still_makeCall blind_events) _

lemma still_writeSlot (image : RaucImage) (slot : RaucSlot) (hookName : Option String)
    (handler : SlotHandler) :
    Prog.Still InstallerState.events (writeSlotWithProgress ctx args manifest image slot
      hookName handler)
      (fun _ => True) := by
  have hcopy : Prog.Still InstallerState.events (copyImage ctx image slot hookName handler)
      (fun _ => True) := by
    apply Prog.still_bind (still_onInstall _)
    intro _ _
    apply Prog.still_bind (still_reportCopy image)
    intro _ _
    exact still_onInstall _
  apply Prog.still_bind (Prog.still_attempt (still_inStep blind_events hcopy))
  intro result _
  cases result with
  | ok _ => exact still_onInstall _
  | error e =>
    exact Prog.still_bind (Prog.still_attempt (still_onInstall _)) (fun _ _ => Prog.still_exit _)

lemma still_handleSlotInstallPlan (image : RaucImage) (slot : RaucSlot) (hookName : Option String)
    (handler : SlotHandler) :
    Prog.Still InstallerState.events (handleSlotInstallPlanWithProgress ctx args manifest image
      slot hookName handler)
      (fun _ => True) := by
  apply Prog.still_bind (still_inStep blind_events (still_onInstall _))
  intro skips _
  by_cases hskips : skips = true
  · rw [if_pos hskips]
    exact still_inStep blind_events (still_onInstall _)
  · rw [if_neg hskips]
    exact still_writeSlot ctx args manifest image slot hookName handler

lemma still_handleArtifactInstallPlan (repo : RArtifactRepo) (image : RaucImage) (name : String) :
    Prog.Still InstallerState.events (handleArtifactInstallPlanWithProgress manifest repo image
      name) (fun _ => True) := by
  apply Prog.still_bind (still_inStep blind_events (still_onInstall _))
  intro missing _
  apply still_inStep blind_events
  cases missing with
  | false =>
    have hcommit :
      Prog.Still InstallerState.events (onInstall
      (onInstallRepo repo (commitArtifact repo image name)))
      (fun _ => True) := still_onInstall _
    exact hcommit
  | true =>
    apply Prog.still_bind (still_reportCopy image)
    intro _ _
    exact Prog.still_bind (still_onInstall _) (fun _ _ => still_onInstall _)

lemma still_installPlan (hookName : Option String) (plan : RImageInstallPlan) :
    Prog.Still InstallerState.events (installPlanWithProgress ctx args manifest hookName plan)
      (fun _ => True) := by
  have hplan :
      Prog.Still InstallerState.events (handlePlanWithProgress ctx args manifest hookName plan)
      (fun _ => True) := by
    unfold handlePlanWithProgress
    split
    · exact still_handleSlotInstallPlan ctx args manifest _ _ hookName _
    · exact Prog.still_exit _
    · exact still_handleArtifactInstallPlan manifest _ _ _
    · exact Prog.still_pure trivial
  exact Prog.still_bind hplan (fun _ _ => still_onInstall _)

/-- An assertion about the events alone. -/
def Logged (D : List InstallerEvent → Prop) (st : InstallerState) : Prop := D st.events

variable {D : List InstallerEvent → Prop}

lemma logged_still {α : Type} {p : InstallerProg α} {C : α → Prop}
    (hp : Prog.Still InstallerState.events p C) :
    Prog.Triple (Logged D) p (fun a st => Logged D st ∧ C a) (fun _ => Logged D) :=
  hp.triple

lemma updateSlots_logged (hprune : ∀ events, D events → D (events ++ [.pruneFailed]))
    (hookName : Option String)
    (plans : List RImageInstallPlan) :
    Prog.Triple (Logged D) (updateSlots ctx args manifest hookName plans) (fun _ => Logged D)
      (fun _ => Logged D) := by
  have hcall : ∀ c, Prog.Triple (Logged D) (makeCall c) (fun _ => Logged D) (fun _ => Logged D) :=
      fun c =>
    Prog.triple_consequence (logged_still (still_makeCall blind_events c)) (fun _ h => h)
      (fun _ _ h => h.1) (fun _ _ h => h)
  apply Prog.triple_bind (hcall _)
  intro _
  apply Prog.triple_bind (logged_still (Prog.still_attempt
    (Prog.still_each (still_installPlan ctx args manifest hookName) plans)))
  intro result
  apply Prog.triple_fact
  intro _
  cases result with
  | error e => exact Prog.triple_bind (hcall _) (fun _ => Prog.triple_exit (fun _ h => h))
  | ok _ =>
    apply Prog.triple_bind (logged_still (Prog.still_attempt (still_onInstall _)))
    intro pruned
    apply Prog.triple_fact
    intro _
    cases pruned with
    | ok _ => exact hcall _
    | error e =>
      refine Prog.triple_bind (Q := fun _ => Logged D)
        (Prog.triple_modify (fun st hst => hprune _ hst)) ?_
      exact fun _ => Prog.triple_exit (fun _ h => h)

/-- After its start, the only event of the default handler is a failed pruning. -/
lemma launchAndWaitDefaultHandler_logged
    (hprune : ∀ events, D events → D (events ++ [.pruneFailed]))
    {P : InstallerState → Prop} (hstart : ∀ st, P st → D (st.events ++ [.defaultHandler]))
    (bundledir : String)
    (group : Table String RaucSlot) :
    Prog.Triple P (launchAndWaitDefaultHandlerWithProgress ctx args manifest bundledir group)
      (fun _ => Logged D)
      (fun _ => Logged D) := by
  refine Prog.triple_bind (Q := fun _ => Logged D) (Prog.triple_modify hstart) ?_
  intro _
  apply Prog.triple_bind (logged_still (still_onInstall _))
  intro r
  apply Prog.triple_fact
  intro _
  apply Prog.triple_bind (updateSlots_logged ctx args manifest hprune _ r.1)
  intro _
  exact Prog.triple_consequence (logged_still (still_onInstall _)) (fun _ h => h) (fun _ _ h =>
    h.1) (fun _ _ h => h)

end Handlers

section Installing

variable (tools : BundleTools) (ctx : BundleContext) (args : BundleInstallArgs)
  (source : BundleSource)
  (start : InstallState)

/-- Every handler so far was started with everything accepted, and without one there is nothing that
has changed. -/
def Gated (install : InstallState) (events : List InstallerEvent) : Prop :=
  Justified (StartsCleared tools ctx args source) events ∧
    (NoHandler events → Idle tools start install)

/-- A handler has been started, with everything accepted. -/
def Started (events : List InstallerEvent) : Prop :=
  Justified (StartsCleared tools ctx args source) events ∧ ¬NoHandler events

/-- The signature and the compatible are accepted, and no handler is started. -/
structure Ready (manifest : RaucManifest) (install : InstallState) (events : List InstallerEvent) :
    Prop where
  idle : Idle tools start install
  noHandler : NoHandler events
  verified : .signatureVerified ∈ events
  compatible : args.ignoreCompatible = true ∨ ctx.systemCompatible = manifest.updateCompatible ∨
    (manifest.hookInstallCheck = true ∧ .installCheckPassed ∈ events)

variable {tools ctx args source start} {manifest : RaucManifest}

lemma NoHandler.justified {events : List InstallerEvent} (h : NoHandler events) :
    Justified (StartsCleared tools ctx args source) events := by
  rintro pre e post rfl (rfl | rfl)
  · exact absurd (by simp) h.1
  · exact absurd (by simp) h.2

lemma Refused.gated {install : InstallState} {events : List InstallerEvent}
    (h : Refused tools start install events) :
    Gated tools ctx args source start install events :=
  ⟨h.2.justified, fun _ => h.1⟩

lemma Ready.gated {install : InstallState} {events : List InstallerEvent}
    (h : Ready tools ctx args start manifest install events) :
      Gated tools ctx args source start install events :=
  ⟨h.noHandler.justified, fun _ => h.idle⟩

lemma Started.gated {install : InstallState} {events : List InstallerEvent}
    (h : Started tools ctx args source events) :
    Gated tools ctx args source start install events :=
  ⟨h.1, fun hnone => absurd hnone h.2⟩

lemma Started.pruneFailed {events : List InstallerEvent}
    (h : Started tools ctx args source events) :
    Started tools ctx args source (events ++ [.pruneFailed]) := by
  refine ⟨justified_snoc h.1 (fun he => by simp at he), fun hnone => h.2 ⟨?_, ?_⟩⟩
  · exact fun hmem => hnone.1 (by simp [hmem])
  · exact fun hmem => hnone.2 (by simp [hmem])

/-- A handler may be started once the version is accepted, too. -/
lemma Ready.started {opened : OpenedBundle} {data : List UInt8}
    (hadmitted : Admitted tools ctx args source opened data manifest)
    (hversion : VersionMet ctx args manifest) {install : InstallState}
    {events : List InstallerEvent}
    (h : Ready tools ctx args start manifest install events) {e : InstallerEvent}
    (he : e = .customHandler ∨ e = .defaultHandler) :
    Started tools ctx args source (events ++ [e]) := by
  refine ⟨justified_snoc h.noHandler.justified (fun _ => ?_), fun hnone => ?_⟩
  · exact ⟨opened, data, manifest, hadmitted, h.verified, h.compatible, hversion⟩
  · rcases he with rfl | rfl
    · exact hnone.1 (by simp)
    · exact hnone.2 (by simp)

section Still

variable {υ : Type} {view : InstallerState → υ}

lemma still_runSystemHandler (text : String) (handler : Option String) :
    Prog.Still view (runSystemHandler text handler) (fun _ => True) := by
  cases handler with
  | none => exact Prog.still_pure trivial
  | some _ => exact Prog.still_mapError _ (Prog.still_external _)

lemma still_parseHandlerArgs (text : Option String) :
    Prog.Still view (parseHandlerArgs text) (fun _ => True) := by
  cases text with
  | none => exact Prog.still_pure trivial
  | some _ => exact Prog.still_external _

lemma still_umountBundle (streaming : Bool) : Prog.Still view (umountBundle streaming)
    (fun _ => True) := by
  apply Prog.still_bind Prog.still_ask
  intro failure _
  cases failure with
  | some _ => exact Prog.still_pure trivial
  | none =>
    cases streaming with
    | false => exact Prog.still_pure trivial
    | true =>
      apply Prog.still_bind Prog.still_ask
      intro failure _
      cases failure with
      | some _ => exact Prog.still_pure trivial
      | none => exact Prog.still_bind Prog.still_ask (fun _ _ => Prog.still_pure trivial)

end Still

lemma still_determineGroup : Prog.Still InstallerState.seen (determineGroup ctx)
    (fun _ => True) := by
  apply still_inStep blind_seen
  apply Prog.still_read_bind
  intro st
  cases targetInstallGroup ctx st.install.system.status.slots with
  | ok group => exact Prog.still_pure trivial
  | error reason => exact Prog.still_exit _

lemma still_runBundleHook {υ : Type} {view : InstallerState → υ} :
    Prog.Still view (runBundleHook tools manifest) (fun _ => True) := by
  unfold runBundleHook
  cases manifest.hookName with
  | none => exact Prog.still_exit _
  | some _ => exact Prog.still_external _

lemma checkInstallable_ready :
    Prog.Triple (Seen (Waiting tools start [.signatureVerified]))
      (checkInstallable tools ctx args manifest)
      (fun _ => Seen (Ready tools ctx args start manifest))
        (fun _ => Seen (Gated tools ctx args source start)) := by
  have hgated : ∀ install events, Waiting tools start [.signatureVerified] install events →
      Gated tools ctx args source start install events :=
    fun _ _ h => (Waiting.refused noHandler_verified _ _ h).gated
  unfold checkInstallable
  by_cases hhook : manifest.hookInstallCheck = true
  · rw [if_pos hhook]
    apply seen_still_bind (Prog.still_mapError _ still_runBundleHook) hgated
    intro _ _
    apply seen_logEvent
    rintro install events ⟨hidle, rfl⟩
    exact ⟨hidle, ⟨by simp, by simp⟩, by simp, .inr (.inr ⟨hhook, by simp⟩)⟩
  · rw [if_neg hhook]
    refine Prog.triple_consequence (seen_still (still_ofExcept _) hgated) (fun _ h => h) ?_
      (fun _ _ h => h)
    rintro _ st ⟨⟨hidle, hevents⟩, hcompatible⟩
    refine ⟨hidle, ?_, ?_, ?_⟩
    · rw [hevents]
      exact noHandler_verified
    · rw [hevents]
      simp
    · by_contra hneither
      simp only [not_or] at hneither
      rw [verifyCompatible, if_neg hneither.1, if_neg hneither.2.1] at hcompatible
      cases hcompatible

lemma checkVersionLimits_ok (h : checkVersionLimits ctx args manifest = .ok ()) :
    VersionMet ctx args manifest := by
  intro minVersion hmin hlimit
  simp only [checkVersionLimits, hmin, hlimit] at h
  cases hversion : manifest.updateVersion with
  | none => simp [hversion] at h
  | some version =>
    refine ⟨version, rfl, ?_⟩
    simp only [hversion] at h
    cases hless : rSemverLessEqual minVersion version with
    | error e => simp [hless, Bind.bind, Except.bind] at h
    | ok met =>
      cases met with
      | true => rfl
      | false => simp [hless, Bind.bind, Except.bind] at h

lemma launchAndWait_gated {opened : OpenedBundle} {data : List UInt8}
    (hadmitted : Admitted tools ctx args source opened data manifest)
    (hversion : VersionMet ctx args manifest)
    (group : Table String RaucSlot) :
    Prog.Triple (Seen (Ready tools ctx args start manifest))
      (launchAndWait tools ctx args manifest group)
      (fun _ => Seen (Gated tools ctx args source start))
        (fun _ => Seen (Gated tools ctx args source start)) := by
  unfold launchAndWait
  by_cases hcustom : manifest.handlerName.isSome = true
  · rw [if_pos hcustom]
    refine Prog.triple_consequence (seen_inStep (C := fun _ => True) (B := fun _ =>
      Gated tools ctx args source start) ?_
      (fun _ _ h => h.gated) (fun _ _ _ h => h)) (fun _ h => h) (fun _ _ h => h.1) (fun _ _ h => h)
    apply seen_still_bind (still_parseHandlerArgs _) (fun _ _ h => h.gated)
    intro _ _
    apply seen_still_bind (still_parseHandlerArgs _) (fun _ _ h => h.gated)
    intro _ _
    refine Prog.triple_bind (Q := fun _ => Seen (Gated tools ctx args source start)) ?_
      (fun _ => ?_)
    · exact seen_logEvent (fun _ _ h => (h.started hadmitted hversion (.inl rfl)).gated)
    · exact seen_still (Prog.still_external _) (fun _ _ h => h)
  · rw [if_neg hcustom]
    refine Prog.triple_consequence (launchAndWaitDefaultHandler_logged
      (D := Started tools ctx args source) ctx.toInstallContext _
      manifest (fun _ => Started.pruneFailed) (fun st hst => ?_) (bundleDir ctx) group) (fun _ h =>
        h) (fun _ _ h => Started.gated h)
      (fun _ _ h => Started.gated h)
    exact Ready.started hadmitted hversion hst (.inr rfl)

lemma installMounted_gated {opened : OpenedBundle} {data : List UInt8}
    (hadmitted : Admitted tools ctx args source opened data manifest) :
    Prog.Triple (Seen (Waiting tools start [.signatureVerified]))
      (installMounted tools ctx args manifest)
      (fun _ => Seen (Gated tools ctx args source start))
        (fun _ => Seen (Gated tools ctx args source start)) := by
  have hgated : ∀ install events, Waiting tools start [.signatureVerified] install events →
      Gated tools ctx args source start install events :=
    fun _ _ h => (Waiting.refused noHandler_verified _ _ h).gated
  apply seen_still_bind still_determineGroup hgated
  intro group _
  apply seen_still_bind (still_runSystemHandler _ _) hgated
  intro _ _
  apply Prog.triple_bind checkInstallable_ready
  intro _
  apply seen_still_bind (still_ofExcept _) (fun _ _ h => h.gated)
  intro _ hlimits
  apply Prog.triple_bind (Prog.triple_mapError
    (launchAndWait_gated hadmitted (checkVersionLimits_ok hlimits) group)
    (fun _ _ h => h))
  intro _
  exact Prog.triple_consequence (seen_still (still_runSystemHandler _ _) (fun _ _ h => h))
    (fun _ h => h) (fun _ _ h => h.1)
    (fun _ _ h => h)

lemma updateExternalMountPoints_waits :
    Prog.Triple (Seen (fun install events => install = start ∧ events = []))
      (updateExternalMountPoints tools)
      (fun _ st => Seen (Waiting tools start []) st ∧
        True) (fun _ => Seen (Refused tools start)) := by
  refine Prog.triple_bind (Q := fun _ => Seen (Waiting tools start [])) (Prog.triple_modify ?_)
    (fun _ => ?_)
  · rintro st ⟨hinstall, hevents⟩
    refine ⟨.inr ?_, hevents⟩
    change st.install.withMounted tools.extMountPoint = start.withMounted tools.extMountPoint
    rw [show st.install = start from hinstall]
  · exact seen_still (Prog.still_external _) (Waiting.refused noHandler_nil)

lemma checkAndMountBundle_waits :
    Prog.Triple (Seen (Waiting tools start [])) (checkAndMountBundle tools ctx args source)
      (fun manifest st => Seen (Waiting tools start [.signatureVerified]) st ∧
        ∃ opened data, Admitted tools ctx args source opened data manifest)
      (fun _ => Seen (Refused tools start)) := by
  apply Prog.triple_bind checkBundle_waits
  intro bundle
  apply Prog.triple_fact
  intro hread
  apply seen_still_bind (still_ofExcept _) (Waiting.refused noHandler_verified)
  intro _ hhash
  apply seen_still_bind (still_ofExcept _) (Waiting.refused noHandler_verified)
  intro _ hencrypted
  exact seen_still (Prog.still_mapError _ (still_mountBundle hread hhash hencrypted))
    (Waiting.refused noHandler_verified)

lemma installFromSource_gated :
    Prog.Triple (Seen (fun install events => install = start ∧ events = []))
      (installFromSource tools ctx args source)
      (fun _ st => Seen (Gated tools ctx args source start) st ∧ True)
      (fun _ => Seen (Gated tools ctx args source start)) := by
  have hstates : Prog.Triple (Seen (fun install events => install = start ∧ events = []))
      (inStep "determine_slot_states" "Determining slot states" 0 1
        (updateExternalMountPoints tools))
      (fun _ st => Seen (Waiting tools start []) st ∧
        True) (fun _ => Seen (Refused tools start)) := by
    apply seen_inStep updateExternalMountPoints_waits
    · rintro install events ⟨rfl, rfl⟩
      exact ⟨.inl rfl, noHandler_nil⟩
    · exact fun _ => Waiting.refused noHandler_nil
  apply Prog.triple_bind (Prog.triple_consequence hstates (fun _ h => h) (fun _ _ h => h.1)
    (fun _ _ h => Refused.gated h))
  intro _
  apply Prog.triple_bind (Prog.triple_consequence checkAndMountBundle_waits (fun _ h => h)
    (fun _ _ h => h)
    (fun _ _ h => Refused.gated h))
  intro manifest
  apply Prog.triple_fact
  rintro ⟨opened, data, hadmitted⟩
  refine Prog.triple_bind (Q := fun _ => Seen (Gated tools ctx args source start))
    (Prog.triple_consequence (Prog.triple_attempt_cases (installMounted_gated hadmitted))
      (fun _ h => h) ?_ (fun _ _ h => h)) ?_
  · intro result st hst
    cases result with
    | ok _ => exact hst
    | error e => exact hst
  intro result
  apply seen_still_bind (still_umountBundle _) (fun _ _ h => h)
  intro _ _
  exact Prog.triple_consequence (seen_still (still_ofExcept _) (fun _ _ h => h)) (fun _ h => h)
    (fun _ _ h => ⟨h.1, trivial⟩)
    (fun _ _ h => h)

/-- In every run of `do_install_bundle`, up to any point, a handler is started only with everything
accepted, and without one nothing is changed. -/
theorem doInstallBundle_gated (tools : BundleTools) (ctx : BundleContext)
    (args : BundleInstallArgs) (source : BundleSource)
    (install : InstallState) (copies : Nat → RaucImage → CopyWork) (fates : Nat → Fate) :
    Gated tools ctx args source install
      (doInstallBundle tools ctx args source ⟨{ install, copies }, fates⟩).2.state.install
      (doInstallBundle tools ctx args source ⟨{ install, copies }, fates⟩).2.state.events := by
  have hrun : Prog.Triple (Seen (fun i events => i = install ∧ events = []))
      (doInstallBundle tools ctx args source)
      (fun _ st => Seen (Gated tools ctx args source install) st ∧ True)
      (fun _ => Seen (Gated tools ctx args source install)) := by
    apply seen_inStep installFromSource_gated
    · rintro i events ⟨rfl, rfl⟩
      exact Refused.gated ⟨.inl rfl, noHandler_nil⟩
    · exact fun _ _ _ h => h
  have hends := hrun ⟨{ install, copies }, fates⟩ ⟨rfl, rfl⟩
  unfold Prog.Holds at hends
  cases hr : (doInstallBundle tools ctx args source ⟨{ install, copies }, fates⟩).1 with
  | value a =>
    rw [hr] at hends
    exact hends.1
  | exit x =>
    rw [hr] at hends
    exact hends

end Installing

end RaucUpdate
