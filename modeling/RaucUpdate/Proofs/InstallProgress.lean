import RaucUpdate.Proofs.InstallGates
import RaucUpdate.Proofs.InstallSkips
import RaucUpdate.Proofs.InstallSteps

/-!
# The progress of a whole installation

The steps of `do_install_bundle` around those of the handlers: every step that is begun is ended as
the innermost one, with all of its substeps if it succeeds, unless the last pruning of the artifacts
fails or an image is longer than its manifest says.
-/

namespace RaucUpdate

open Library

section Books

variable {α β : Type} {C : α → Prop} {steps : List RaucProgressStep}

/-- What the progress calls of an installation are about. -/
def InstallerState.books (st : InstallerState) :
    List ProgressCall × ProgressState × (Nat → RaucImage → CopyWork) :=
  (st.calls, st.progress, st.copies)

/-- The steps under way. -/
def Under (steps : List RaucProgressStep) : InstallerState → Prop := OnStack steps (fun _ => True)

lemma Under.ledger {st : InstallerState} (h : Under steps st) :
    Ledger st.calls st.progress st.copies := h.1

lemma under_exit {E : InstallerState → Prop} (hE : ∀ st, Under steps st → E st) {x : Exit GError}
    {st : InstallerState}
    (h : Under steps st) : ExitAt E x st :=
  exitAt_of hE (fun _ => Under.ledger) h

/-- A program that makes no progress calls. -/
lemma under_still {p : InstallerProg α} (hp : Prog.Still InstallerState.books p C)
    {E : InstallerState → Prop}
    (hE : ∀ st, Under steps st → E st) :
    Prog.Triple (Under steps) p (fun a st => Under steps st ∧ C a) (ExitAt E) := by
  have hbooks :=
      hp.triple (P := fun books : List ProgressCall × ProgressState × (Nat → RaucImage →
      CopyWork) =>
    Ledger books.1 books.2.1 books.2.2 ∧ books.2.1.progress = steps ∧ True)
  exact Prog.triple_consequence hbooks (fun _ h => h) (fun _ _ h => h) (fun _ _ h =>
    under_exit hE h)

lemma under_still_bind {p : InstallerProg α} {f : α → InstallerProg β}
    (hp : Prog.Still InstallerState.books p C)
    {E : InstallerState → Prop} (hE : ∀ st, Under steps st → E st) {Q : β → InstallerState → Prop}
    (hf : ∀ a, C a → Prog.Triple (Under steps) (f a) Q (ExitAt E)) :
    Prog.Triple (Under steps) (p >>= f) Q (ExitAt E) :=
  Prog.triple_bind (under_still hp hE) (fun a => Prog.triple_fact (hf a))

variable {step : RaucProgressStep} {outer : List RaucProgressStep} {name description : String}
  {substeps weight : Nat}

/-- The step is about to be ended with this result. -/
def EndingWith (name : String) (weight : Nat) (step : RaucProgressStep)
    (outer : List RaucProgressStep) :
    Except GError α → InstallerState → Prop
  | .ok _ => Ending true name weight step outer (fun _ => True)
  | .error _ => Ending false name weight step outer (fun _ => True)

/-- A step that succeeds with all of its substeps done. -/
lemma under_inStep {p : InstallerProg α} (hroom : step.substepsDone + weight ≤ step.substepsTotal)
    (hpos : 0 < weight)
    (hp : Prog.Triple (Under (substepOf step name description substeps weight :: step :: outer)) p
      (fun _ => Ending true name weight step outer (fun _ => True))
      (ExitAt (Ending false name weight step outer (fun _ => True)))) :
    Prog.Triple (Under (step :: outer)) (inStep name description substeps weight p)
      (fun _ => Under (step.advance weight :: outer))
        (ExitAt (Under (step.advance weight :: outer))) := by
  have hends : ∀ success, Prog.Triple (Ending success name weight step outer (fun _ => True))
      (makeCall (.end_ name success)) (fun _ => Under (step.advance weight :: outer))
      (ExitAt (Under (step.advance weight :: outer))) := fun success =>
    Prog.triple_consequence (end_hidden.triple
      (E := ExitAt (Under (step.advance weight :: outer)))) (fun _ h => h)
      (fun _ _ h => h.2) (fun _ _ h => h)
  apply Prog.triple_bind (begin_hidden (K := fun _ => True) hroom hpos).triple
  intro _
  refine Prog.triple_bind (Q := EndingWith name weight step outer) ?_ ?_
  · apply Prog.triple_attempt
    refine Prog.triple_consequence hp (fun _ h => h.2) (fun _ _ h => h) ?_
    intro x st hx
    cases x with
    | error e => exact hx
    | aborted reason => exact hx
    | stopped => exact hx
  · intro result
    cases result with
    | ok a => exact Prog.triple_bind (hends true) (fun _ => Prog.triple_pure (fun _ h => h))
    | error e => exact Prog.triple_bind (hends false) (fun _ => Prog.triple_exit (fun _ h => h))

lemma Under.ending {st : InstallerState} {child : RaucProgressStep}
    (h : Under (child :: step :: outer) st) {success : Bool}
    (hall : success = true → child.substepsDone = child.substepsTotal) :
    Ending success child.name child.weight step outer (fun _ => True) st := by
  obtain ⟨hledger, hstack, -⟩ := h
  exact ⟨hledger, trivial, child, step, hstack, rfl, rfl, hall, rfl⟩

/-- A step without substeps. -/
lemma under_leaf {p : InstallerProg α} (hroom : step.substepsDone + weight ≤ step.substepsTotal)
    (hpos : 0 < weight)
    (hp : Prog.Still InstallerState.books p C) :
    Prog.Triple (Under (step :: outer)) (inStep name description 0 weight p)
      (fun _ => Under (step.advance weight :: outer))
        (ExitAt (Under (step.advance weight :: outer))) := by
  apply under_inStep hroom hpos
  refine Prog.triple_consequence (under_still (E := Ending false name weight step outer
    (fun _ => True)) hp ?_)
    (fun _ h => h) ?_ (fun _ _ h => h)
  · exact fun st h => h.ending (by simp)
  · exact fun _ st h => h.1.ending (fun _ => rfl)

lemma room_advance {a b : Nat} (h : step.substepsDone + (a + b) ≤ step.substepsTotal) :
    (step.advance a).substepsDone + b ≤ (step.advance a).substepsTotal := by
  unfold RaucProgressStep.advance
  dsimp only
  omega

lemma under_advanced {most k : Nat} {st : InstallerState} (hk : k ≤ most)
    (h : Under (step.advance k :: outer) st) :
    Advanced step outer most (fun _ => True) st := ⟨k, hk, h⟩

lemma Advanced.more {a b most : Nat} (h : a + b ≤ most) {st : InstallerState}
    (hst : Advanced (step.advance a) outer b (fun _ => True) st) :
      Advanced step outer most (fun _ => True) st := by
  obtain ⟨k, hk, hstack⟩ := hst
  rw [advance_advance] at hstack
  exact ⟨a + k, by omega, hstack⟩

end Books

section Bundles

variable {tools : BundleTools} {ctx : BundleContext} {source : BundleSource}
  {step : RaucProgressStep}
  {outer : List RaucProgressStep}

/-- The percentage of a step is that of the substeps it has done. -/
def Settled (step : RaucProgressStep) : Prop := step.advance 0 = step

lemma settled_advance (a : Nat) : Settled (step.advance a) := advance_advance a 0

lemma Settled.advanced (h : Settled step) {most : Nat} (st : InstallerState)
    (hst : Under (step :: outer) st) :
    Advanced step outer most (fun _ => True) st :=
  ⟨0, by omega, by rw [h]; exact hst⟩

lemma still_logEvent (e : InstallerEvent) : Prog.Still InstallerState.books (logEvent e)
    (fun _ => True) :=
  Prog.still_modify (fun _ => rfl)

lemma cmsVerifyBytes_under (hroom : step.substepsDone + 1 ≤ step.substepsTotal)
    {content : Option (List UInt8)}
    {sig : List UInt8} {manifest : Bool} :
    Prog.Triple (Under (step :: outer)) (cmsVerifyBytes tools content sig manifest)
      (fun _ => Under (step.advance 1 :: outer)) (ExitAt (Advanced step outer 1 (fun _ => True))) :=
  Prog.triple_consequence (under_leaf hroom (by omega) (still_ofExcept _)) (fun _ h => h)
    (fun _ _ h => h)
    (fun _ _ h => h.mono (fun _ => under_advanced (le_refl _)))

variable (hsettled : Settled step) (hroom : step.substepsDone + 1 ≤ step.substepsTotal)
include hsettled hroom

lemma verifyDetached_under (bundle : RaucBundle) (sigdata : List UInt8) :
    Prog.Triple (Under (step :: outer)) (verifyDetached tools source bundle sigdata)
      (fun _ => Under (step.advance 1 :: outer))
        (ExitAt (Advanced step outer 1 (fun _ => True))) := by
  apply under_still_bind (Prog.still_external _) hsettled.advanced
  intro _ _
  apply under_still_bind (Prog.still_external _) hsettled.advanced
  intro _ _
  apply Prog.triple_bind (cmsVerifyBytes_under hroom)
  intro _
  apply under_still_bind (still_logEvent _) (fun _ => under_advanced (le_refl _))
  intro _ _
  apply under_still_bind (still_ofExcept _) (fun _ => under_advanced (le_refl _))
  intro _ _
  exact Prog.triple_pure (fun _ h => h)

lemma verifyInline_under (bundle : RaucBundle) (sigdata : List UInt8) :
    Prog.Triple (Under (step :: outer)) (verifyInline tools source bundle sigdata)
      (fun _ => Under (step.advance 1 :: outer))
        (ExitAt (Advanced step outer 1 (fun _ => True))) := by
  apply under_still_bind (still_checkBundleAccess source) hsettled.advanced
  intro _ _
  apply Prog.triple_bind (cmsVerifyBytes_under hroom)
  intro _
  apply under_still_bind (still_logEvent _) (fun _ => under_advanced (le_refl _))
  intro _ _
  apply under_still_bind (still_ofExcept _) (fun _ => under_advanced (le_refl _))
  intro _ _
  exact Prog.triple_pure (fun _ h => h)

lemma verifyBundle_under (detached : Bool) (bundle : RaucBundle) (sigdata : List UInt8) :
    Prog.Triple (Under (step :: outer)) (verifyBundle tools source detached bundle sigdata)
      (fun _ => Under (step.advance 1 :: outer))
        (ExitAt (Advanced step outer 1 (fun _ => True))) := by
  apply under_still_bind (Prog.still_external _) hsettled.advanced
  intro _ _
  cases detached with
  | true => exact verifyDetached_under hsettled hroom bundle sigdata
  | false =>
    apply Prog.triple_bind (verifyInline_under hsettled hroom bundle sigdata)
    intro r
    apply under_still_bind (still_loadSignedManifest tools r.2)
      (fun _ => under_advanced (le_refl _))
    intro _ _
    exact Prog.triple_pure (fun _ h => h)

lemma readBundle_under :
    Prog.Triple (Under (step :: outer)) (readBundle tools ctx source)
      (fun _ => Under (step.advance 1 :: outer))
        (ExitAt (Advanced step outer 1 (fun _ => True))) := by
  have hexit : ∀ (x : Exit GError) st, Under (step :: outer) st →
      ExitAt (Advanced step outer 1 (fun _ => True)) x st :=
    fun x st h => under_exit hsettled.advanced h
  unfold readBundle
  by_cases hkeyring : ctx.keyringPath.isNone ∧ ctx.keyringDirectory.isNone
  · rw [if_pos hkeyring]
    exact Prog.triple_exit (hexit _)
  rw [if_neg hkeyring]
  apply under_still_bind still_startStreaming hsettled.advanced
  intro _ _
  apply under_still_bind (still_openBundle ctx source) hsettled.advanced
  intro opened _
  unfold readOpened
  cases tools.isDetached opened.sigdata with
  | none => exact Prog.triple_exit (hexit _)
  | some detached =>
    dsimp only
    by_cases hstreamed : detached = true ∧ source.streaming = true
    · rw [if_pos hstreamed]
      exact Prog.triple_exit (hexit _)
    · rw [if_neg hstreamed]
      apply under_still_bind (still_ofExcept _) hsettled.advanced
      rintro ⟨sigdata, wasEncrypted⟩ _
      apply Prog.triple_bind (verifyBundle_under hsettled hroom _ _ _)
      intro bundle
      apply under_still_bind (still_ofExcept _) (fun _ => under_advanced (le_refl _))
      intro _ _
      exact Prog.triple_pure (fun _ h => h)

omit hsettled in
lemma checkManifestStep_under (check : RaucManifest → Except GError RaucManifest)
    (manifest : RaucManifest) :
    Prog.Triple (Under (step :: outer)) (checkManifestStep check manifest)
      (fun _ => Under (step.advance 1 :: outer)) (ExitAt (Advanced step outer 1 (fun _ => True))) :=
  Prog.triple_consequence (under_leaf hroom (by omega) (still_ofExcept _)) (fun _ h => h)
    (fun _ _ h => h)
    (fun _ _ h => h.mono (fun _ => under_advanced (le_refl _)))

omit hsettled in
lemma checkBundle_under :
    Prog.Triple (Under (step :: outer)) (checkBundle tools ctx source)
      (fun _ => Under (step.advance 1 :: outer)) (ExitAt (Under (step.advance 1 :: outer))) := by
  apply under_inStep hroom (by omega)
  refine Prog.triple_consequence (readBundle_under (substepOf_advance_zero _ _ _ _)
    (by simp [substepOf])) (fun _ h => h) ?_ ?_
  · exact fun _ st h => Under.ending h (fun _ => by simp [substepOf, RaucProgressStep.advance])
  · intro x st hx
    apply hx.mono
    rintro st' ⟨k, -, hstack⟩
    exact Under.ending hstack (by simp)

omit hsettled in
lemma prepareDevice_under (layers : List String) (manifest : RaucManifest) :
    Prog.Triple (Under (step :: outer)) (prepareDevice ctx layers manifest)
      (fun _ => Under (step.advance 1 :: outer))
        (ExitAt (Advanced step outer 1 (fun _ => True))) := by
  apply Prog.triple_bind (checkManifestStep_under hroom _ manifest)
  intro checked
  apply under_still_bind (still_mountDevice layers) (fun _ => under_advanced (le_refl _))
  intro _ _
  exact Prog.triple_pure (fun _ h => h)

lemma mountPlain_under (bundle : RaucBundle) :
    Prog.Triple (Under (step :: outer)) (mountPlain tools bundle)
      (fun _ => Under (step.advance 1 :: outer))
        (ExitAt (Advanced step outer 1 (fun _ => True))) := by
  have hload : ∀ payload, Prog.Triple (Under (step :: outer)) (loadPlainManifest tools payload)
      (fun _ => Under (step.advance 1 :: outer))
        (ExitAt (Advanced step outer 1 (fun _ => True))) := by
    intro payload
    apply under_still_bind (still_readPlainManifest payload) hsettled.advanced
    intro loaded _
    apply Prog.triple_bind (checkManifestStep_under hroom _ loaded)
    intro checked
    by_cases hplain : checked.bundleFormat = .plain
    · rw [if_pos hplain]
      exact Prog.triple_pure (fun _ h => h)
    · rw [if_neg hplain]
      exact Prog.triple_exit (fun _ h => under_advanced (le_refl _) h)
  unfold mountPlain
  by_cases hverified : bundle.payloadVerified ∨ bundle.verificationDisabled
  · rw [if_neg (not_not.mpr hverified)]
    apply under_still_bind (Prog.still_external _) hsettled.advanced
    intro _ _
    apply Prog.triple_bind (Prog.triple_attempt_cases (hload _))
    intro result
    cases result with
    | ok manifest => exact Prog.triple_pure (fun _ h => h)
    | error e =>
      have hstill : Prog.Still id (ignoredSteps 1) (fun _ => True) := still_ignoredSteps 1
      have hignored := hstill.triple (P := Advanced step outer 1 (fun _ => True))
      refine Prog.triple_bind (Prog.triple_consequence hignored (fun _ h => h) (fun _ _ h => h.1)
        (fun _ _ h => exitAt_of (fun _ h => h) (fun _ => Advanced.ledger) h)) ?_
      exact fun _ => Prog.triple_exit (fun _ h => h)
  · rw [if_pos hverified]
    exact Prog.triple_exit (fun _ h => h.1)

lemma mountBundle_under (bundle : RaucBundle) :
    Prog.Triple (Under (step :: outer)) (mountBundle tools ctx bundle)
      (fun _ => Under (step.advance 1 :: outer))
        (ExitAt (Advanced step outer 1 (fun _ => True))) := by
  apply under_still_bind (Prog.still_external _) hsettled.advanced
  intro _ _
  by_cases hverified : bundle.signatureVerified ∨ bundle.verificationDisabled
  · rw [if_neg (not_not.mpr hverified)]
    apply under_still_bind (Prog.still_external _) hsettled.advanced
    intro _ _
    cases bundle.manifest with
    | none => exact mountPlain_under hsettled hroom bundle
    | some loaded =>
      dsimp only
      cases loaded.bundleFormat with
      | plain => exact Prog.triple_exit (fun _ h => h.1)
      | verity => exact prepareDevice_under hroom _ _
      | crypt => exact prepareDevice_under hroom _ _
  · rw [if_pos hverified]
    exact Prog.triple_exit (fun _ h => h.1)

end Bundles

section Installing

variable (tools : BundleTools) (ctx : BundleContext) (args : BundleInstallArgs)
  (source : BundleSource)
  {step : RaucProgressStep} {outer : List RaucProgressStep}

/-- The step of the default handler is still under way after a failed pruning. -/
def StillUpdating (st : InstallerState) : Prop :=
  Ledger st.calls st.progress st.copies ∧ .pruneFailed ∈ st.events

lemma LeftOpen.stillUpdating {st : InstallerState} (h : LeftOpen step outer st) :
    StillUpdating st := ⟨h.1, h.2.1⟩

/-- Where an error leaves the steps of an installation. -/
def Failing (step : RaucProgressStep) (outer : List RaucProgressStep) (most : Nat)
    (st : InstallerState) : Prop :=
  Advanced step outer most (fun _ => True) st ∨ StillUpdating st

lemma Failing.ledger {most : Nat} (st : InstallerState) (h : Failing step outer most st) :
    Ledger st.calls st.progress st.copies := by
  rcases h with h | h
  · exact h.ledger
  · exact h.1

lemma Failing.more {a b most : Nat} (h : a + b ≤ most) (st : InstallerState)
    (hst : Failing (step.advance a) outer b st) :
    Failing step outer most st :=
  hst.imp_left (Advanced.more h)

/-- A program that leaves the whole state alone, after an error. -/
lemma failing_still {α : Type} {p : InstallerProg α} {C : α → Prop} {most : Nat}
    (hp : Prog.Still id p C) :
    Prog.Triple (Failing step outer most) p (fun a st => Failing step outer most st ∧ C a)
      (ExitAt (Failing step outer most)) :=
  Prog.triple_consequence (hp.triple (P := Failing step outer most)) (fun _ h => h) (fun _ _ h => h)
    (fun _ _ h => exitAt_of (fun _ h => h) Failing.ledger h)

lemma launchAndWait_under (hsettled : Settled step)
    (hroom : step.substepsDone + 6 ≤ step.substepsTotal)
    (manifest : RaucManifest) (group : Table String RaucSlot) :
    Prog.Triple (Under (step :: outer)) (launchAndWait tools ctx args manifest group)
      (fun _ => Under (step.advance 6 :: outer)) (ExitAt (Failing step outer 6)) := by
  unfold launchAndWait
  by_cases hcustom : manifest.handlerName.isSome = true
  · rw [if_pos hcustom]
    have hstill : Prog.Still InstallerState.books (do
        parseHandlerArgs manifest.handlerArgs
        parseHandlerArgs ctx.handlerextra
        logEvent .customHandler
        launchAndWaitHandler) (fun _ => True) := by
      apply Prog.still_bind (still_parseHandlerArgs _)
      intro _ _
      apply Prog.still_bind (still_parseHandlerArgs _)
      intro _ _
      exact Prog.still_bind (still_logEvent _) (fun _ _ => Prog.still_external _)
    exact Prog.triple_consequence (under_leaf hroom (by omega) hstill) (fun _ h => h)
      (fun _ _ h => h)
      (fun _ _ h => h.mono (fun _ hst => .inl (under_advanced (le_refl _) hst)))
  · rw [if_neg hcustom]
    refine Prog.triple_consequence
      (launchAndWaitDefaultHandler_mirrors ctx.toInstallContext _ manifest (bundleDir ctx)
        hroom).triple
      (fun _ h => h) (fun _ _ h => h) (fun _ _ h => h.mono ?_)
    rintro st (hst | hst | hst)
    · exact .inl (hsettled.advanced st hst)
    · exact .inl (under_advanced (le_refl _) hst)
    · exact .inr hst.stillUpdating

lemma installMounted_under (hroom : step.substepsDone + 7 ≤ step.substepsTotal)
    (manifest : RaucManifest) :
    Prog.Triple (Under (step :: outer)) (installMounted tools ctx args manifest)
      (fun _ => Under (step.advance 7 :: outer)) (ExitAt (Failing step outer 7)) := by
  have hone : ∀ st, Under (step.advance 1 :: outer) st → Failing step outer 7 st :=
    fun _ hst => .inl (under_advanced (by omega) hst)
  refine Prog.triple_bind (Prog.triple_consequence (under_leaf (C := fun _ => True) (by omega)
    (by omega) ?_)
    (fun _ h => h) (fun _ _ h => h) (fun _ _ h => h.mono hone)) ?_
  · apply Prog.still_read_bind
    intro st
    cases targetInstallGroup ctx st.install.system.status.slots with
    | ok group => exact Prog.still_pure trivial
    | error reason => exact Prog.still_exit _
  intro group
  apply under_still_bind (still_runSystemHandler _ _) hone
  intro _ _
  have hinstallable : Prog.Still InstallerState.books (checkInstallable tools ctx args manifest)
      (fun _ => True) := by
    unfold checkInstallable
    by_cases hhook : manifest.hookInstallCheck = true
    · rw [if_pos hhook]
      exact Prog.still_bind (Prog.still_mapError _ still_runBundleHook) (fun _ _ =>
        still_logEvent _)
    · rw [if_neg hhook]
      exact Prog.still_consequence (still_ofExcept _) (fun _ _ => trivial)
  apply under_still_bind hinstallable hone
  intro _ _
  apply under_still_bind (still_ofExcept _) hone
  intro _ _
  have hlaunch := @launchAndWait_under tools ctx args (step.advance 1) outer (settled_advance 1)
    (room_advance (show step.substepsDone + (1 + 6) ≤ step.substepsTotal by omega)) manifest group
  rw [advance_advance] at hlaunch
  refine Prog.triple_bind (Prog.triple_mapError (Prog.triple_consequence hlaunch (fun _ h => h)
    (fun _ _ h => h)
    (fun _ _ h => h.mono (Failing.more (by omega)))) (fun _ _ h => h)) ?_
  intro _
  exact Prog.triple_consequence (under_still (still_runSystemHandler _ _) (fun _ hst =>
    .inl (under_advanced (le_refl _) hst)))
    (fun _ h => h) (fun _ _ h => h.1) (fun _ _ h => h)

/-- The step around an installation, as it begins. -/
def installStep : RaucProgressStep := rootStep "do_install_bundle" "Installing" 10 1

lemma checkAndMountBundle_under (hroom : step.substepsDone + 2 ≤ step.substepsTotal) :
    Prog.Triple (Under (step :: outer)) (checkAndMountBundle tools ctx args source)
      (fun _ => Under (step.advance 2 :: outer)) (ExitAt (Failing step outer 2)) := by
  have hone : ∀ st, Under (step.advance 1 :: outer) st → Failing step outer 2 st :=
    fun _ hst => .inl (under_advanced (by omega) hst)
  apply Prog.triple_bind (Prog.triple_consequence (checkBundle_under (by omega)) (fun _ h => h)
    (fun _ _ h => h)
    (fun _ _ h => h.mono hone))
  intro bundle
  apply under_still_bind (still_ofExcept _) hone
  intro _ _
  apply under_still_bind (still_ofExcept _) hone
  intro _ _
  have hmount := @mountBundle_under tools ctx (step.advance 1) outer (settled_advance 1)
    (room_advance (show step.substepsDone + (1 + 1) ≤ step.substepsTotal by omega)) bundle
  rw [advance_advance] at hmount
  exact Prog.triple_mapError (Prog.triple_consequence hmount (fun _ h => h) (fun _ _ h => h)
    (fun _ _ h => h.mono (fun _ hst => .inl (Advanced.more (by omega) hst)))) (fun _ _ h => h)

lemma installFromSource_under :
    Prog.Triple (Under [installStep]) (installFromSource tools ctx args source)
      (fun _ => Under [installStep.advance 10]) (ExitAt (Failing installStep [] 10)) := by
  have hmounts : Prog.Still InstallerState.books (updateExternalMountPoints tools)
      (fun _ => True) :=
    Prog.still_bind (Prog.still_modify (fun _ => rfl)) (fun _ _ => Prog.still_external _)
  have hcheck := @checkAndMountBundle_under tools ctx args source (installStep.advance 1) []
    (room_advance (show 0 + (1 + 2) ≤ 10 by omega))
  have hinstall := fun manifest => @installMounted_under tools ctx args (installStep.advance 3) []
    (room_advance (show 0 + (3 + 7) ≤ 10 by omega)) manifest
  simp only [advance_advance, Nat.reduceAdd] at hcheck hinstall
  apply Prog.triple_bind (Prog.triple_consequence (under_leaf (by decide) (by decide) hmounts)
    (fun _ h => h) (fun _ _ h => h)
    (fun _ _ h => h.mono (fun _ hst => .inl (under_advanced (by decide) hst))))
  intro _
  apply Prog.triple_bind (Prog.triple_consequence hcheck (fun _ h => h) (fun _ _ h => h)
    (fun _ _ h => h.mono (Failing.more (by decide))))
  intro manifest
  apply Prog.triple_bind (Prog.triple_attempt_cases (Prog.triple_consequence (hinstall manifest)
    (fun _ h => h) (fun _ _ h => h)
    (fun _ _ h => h.mono (Failing.more (by decide)))))
  intro result
  cases result with
  | ok _ =>
    apply under_still_bind (still_umountBundle _) (fun _ hst =>
      .inl (under_advanced (le_refl _) hst))
    intro _ _
    exact Prog.triple_pure (fun _ h => h)
  | error e =>
    apply Prog.triple_bind (failing_still (still_umountBundle _))
    intro _
    apply Prog.triple_fact
    intro _
    exact Prog.triple_exit (fun _ h => h)

/-- Nothing is under way any more. -/
def Finished (st : InstallerState) : Prop := Ledger st.calls st.progress st.copies ∧
    st.progress.progress = []

lemma end_root {success : Bool} (hall : success = true → step.substepsDone = step.substepsTotal) :
    Prog.Hidden InstallerState.install (Under [step]) (makeCall (.end_ step.name success)) ()
      Finished := by
  apply makeCall_hidden
  rintro st ⟨hledger, hstack, -⟩
  have hinv := hledger.inv
  obtain ⟨⟨progress, reports⟩, hprogress⟩ : ∃ p, st.progress = p := ⟨_, rfl⟩
  rw [hprogress] at hledger hstack hinv ⊢
  obtain rfl : progress = [step] := hstack
  refine ⟨hledger, ⟨by simp, ?_⟩, _, rContextEndStep_root hinv.underWay.1.1
    hinv.underWay.2.1.substeps hall,
    fun hnext => ⟨hnext, rfl⟩⟩
  intro top htop
  obtain rfl : step = top := Option.some.inj htop
  rfl

/-- What is left of the progress at the end of an installation. -/
def Ended : Exit GError → InstallerState → Prop
  | .error _, st => Finished st ∨ .pruneFailed ∈ st.events
  | _, st => Ledger st.calls st.progress st.copies ∨ .pruneFailed ∈ st.events

lemma doInstallBundle_under :
    Prog.Triple (fun st => st.calls = [] ∧ st.progress = {} ∧
      ∀ n image, (st.copies n image).Within (manifestSize image))
      (doInstallBundle tools ctx args source) (fun _ => Finished) Ended := by
  have hbegin : Prog.Hidden InstallerState.install
      (fun st => st.calls = [] ∧ st.progress = {} ∧
        ∀ n image, (st.copies n image).Within (manifestSize image))
      (makeCall (.begin "do_install_bundle" "Installing" 10 1)) () (Under [installStep]) := by
    apply makeCall_hidden
    rintro ⟨install, progress, calls, events, copies⟩ ⟨rfl, rfl, hfits⟩
    have hroot := @rContextBeginStepWeighted_root [] "do_install_bundle" "Installing" 10 1
    exact ⟨⟨trivial, rfl,
      hfits⟩, by simp [NestedCall], _, hroot, fun hnext => ⟨hnext, rfl, trivial⟩⟩
  have hupdating :
      ∀ c, Prog.Triple StillUpdating (makeCall c) (fun _ st => .pruneFailed ∈ st.events)
      (fun _ st => .pruneFailed ∈ st.events) := fun c =>
    Prog.triple_consequence ((still_makeCall blind_events c).triple (P := fun events =>
      InstallerEvent.pruneFailed ∈ events))
      (fun _ h => h.2) (fun _ _ h => h.1) (fun _ _ h => h)
  apply Prog.triple_bind (Prog.triple_consequence hbegin.triple (fun _ h => h) (fun _ _ h => h.2)
    (fun _ _ h => h))
  intro _
  refine Prog.triple_bind (Q := fun r st => match r with
    | .ok _ => Under [installStep.advance 10] st
    | .error _ => Failing installStep [] 10 st) ?_ ?_
  · apply Prog.triple_attempt
    refine Prog.triple_consequence (installFromSource_under tools ctx args source) (fun _ h => h)
      (fun _ _ h => h) ?_
    intro x st hx
    cases x with
    | error e => exact hx
    | aborted reason => exact .inl hx
    | stopped => exact .inl hx
  · intro result
    cases result with
    | ok _ =>
      have hend := (@end_root (installStep.advance 10) true (fun _ => rfl)).triple (E := Ended)
      apply Prog.triple_bind hend
      exact fun _ => Prog.triple_pure (fun _ h => h.2)
    | error e =>
      intro w hw
      rcases hw with ⟨k, -, hstack⟩ | hopen
      · have hend := (@end_root (installStep.advance k) false (by simp)).triple (E := Ended)
        have herror : ∀ st, Finished st → Ended (.error e) st := fun _ h => .inl h
        exact Prog.triple_bind hend (fun _ => Prog.triple_exit (fun _ h => herror _ h.2)) w hstack
      · have hleft : ∀ st, InstallerEvent.pruneFailed ∈ st.events → Ended (.error e) st :=
          fun _ h => .inr h
        refine Prog.triple_bind (Prog.triple_consequence (hupdating _) (fun _ h => h)
          (fun _ _ h => h) ?_)
          (fun _ => Prog.triple_exit (fun _ h => hleft _ h)) w hopen
        intro x st hx
        cases x with
        | error e => exact .inr hx
        | aborted reason => exact .inr hx
        | stopped => exact .inr hx

/-- How the progress of an installation should look at its end: no call was refused, every step was
ended as the innermost one, with all of its substeps if it succeeded, and none is left over. -/
structure ProgressBalanced (outcome : Outcome GError Unit) (st : InstallerState) : Prop where
  runs : progressCalls {} st.calls = .ok st.progress
  ends : ∀ pre name success post, st.calls = pre ++ .end_ name success :: post →
    ∃ before top outer, progressCalls {} pre = .ok before ∧ before.progress = top :: outer ∧
      top.name = name ∧
      (success = true → top.substepsDone = top.substepsTotal)
  closed : (outcome = .value () ∨ ∃ e, outcome = .exit (.error e)) → st.progress.progress = []

/-- A step that has ended with success had all of its substeps. -/
lemma rContextEndStep_complete {before after : ProgressState} {name : String}
    {top : RaucProgressStep}
    {outer : List RaucProgressStep} (hstack : before.progress = top :: outer)
    (h : rContextEndStep name true before = .ok after) : top.substepsDone = top.substepsTotal := by
  unfold rContextEndStep at h
  rw [hstack] at h
  dsimp only at h
  by_cases hmany : top.substepsTotal < top.substepsDone
  · rw [if_pos hmany] at h
    cases h
  · rw [if_neg hmany] at h
    by_cases hfew : top.substepsDone < top.substepsTotal
    · rw [if_pos ⟨rfl, hfew⟩] at h
      cases h
    · omega

lemma Ledger.ends {calls : List ProgressCall} {progress : ProgressState}
    {copies : Nat → RaucImage → CopyWork}
    (h : Ledger calls progress copies) {pre post : List ProgressCall} {name : String}
    {success : Bool}
    (hcalls : calls = pre ++ .end_ name success :: post) :
    ∃ before top outer, progressCalls {} pre = .ok before ∧ before.progress = top :: outer ∧
      top.name = name ∧
      (success = true → top.substepsDone = top.substepsTotal) := by
  obtain ⟨hnested, hrun, -⟩ := h
  rw [hcalls] at hnested hrun
  obtain ⟨before, hbefore, hrest⟩ := progressCalls_append hrun
  obtain ⟨-, hnext⟩ := nestedCalls_append hnested hbefore
  obtain ⟨after, hafter, -⟩ := progressCalls_cons hrest
  obtain ⟨hlen, hname⟩ := hnext.1
  obtain ⟨top, outer, hstack⟩ := List.exists_cons_of_length_pos hlen
  refine ⟨before, top, outer, hbefore, hstack, hname top (by rw [hstack]; rfl), ?_⟩
  rintro rfl
  exact rContextEndStep_complete hstack hafter

/-- In every run in which the last pruning does not fail and no image is longer than its manifest
says, the progress calls fit together. -/
theorem doInstallBundle_progress (install : InstallState) (copies : Nat → RaucImage → CopyWork)
    (fates : Nat → Fate)
    (hfits : ∀ n image, (copies n image).Within (manifestSize image))
    (hprune : .pruneFailed ∉ (doInstallBundle tools ctx args source ⟨{ install, copies },
      fates⟩).2.state.events) :
    ProgressBalanced (doInstallBundle tools ctx args source ⟨{ install, copies }, fates⟩).1
      (doInstallBundle tools ctx args source ⟨{ install, copies }, fates⟩).2.state := by
  have hends := doInstallBundle_under tools ctx args source ⟨{ install, copies }, fates⟩
    ⟨rfl, rfl, hfits⟩
  unfold Prog.Holds at hends
  cases hr : (doInstallBundle tools ctx args source ⟨{ install, copies }, fates⟩).1 with
  | value a =>
    rw [hr] at hends
    exact ⟨hends.1.run, fun _ _ _ _ => hends.1.ends, fun _ => hends.2⟩
  | exit x =>
    rw [hr] at hends
    cases x with
    | error e =>
      obtain ⟨hledger, hempty⟩ := hends.resolve_right hprune
      exact ⟨hledger.run, fun _ _ _ _ => hledger.ends, fun _ => hempty⟩
    | aborted reason =>
      have hledger := hends.resolve_right hprune
      refine ⟨hledger.run, fun _ _ _ _ => hledger.ends, ?_⟩
      rintro (hvalue | ⟨e, herror⟩)
      · cases hvalue
      · cases herror
    | stopped =>
      have hledger := hends.resolve_right hprune
      refine ⟨hledger.run, fun _ _ _ _ => hledger.ends, ?_⟩
      rintro (hvalue | ⟨e, herror⟩)
      · cases hvalue
      · cases herror

end Installing

section Unbalanced

/-- Two root slots and a repository for artifacts. -/
def appConfig : RaucConfig where
  slots := ⟨[("rootfs.0", { bootableSlot "rootfs.0" "A" with state := .booted }),
    ("rootfs.1", { bootableSlot "rootfs.1" "B" with state := .inactive })], by decide⟩
  name_key := by decide
  bootname_unique := by decide
  bootname_nonempty := by decide
  bootname_plain := by decide
  child_no_bootname := by decide
  parent_is_root := by decide
  systemBootloader := some "noop"
  statusfilePath := "/data/central.raucs"
  artifactRepos :=
    { repos := ⟨[("apps", { name := "apps", path := "/apps", type := "files" })], by decide⟩ }

def appContext : BundleContext where
  config := appConfig
  iso := epochIso
  slotNames := appConfig.slots.keys
  slotNames_perm := List.Perm.refl _
  repos := [{ name := "apps", path := "/apps", type := "files" }]
  repos_perm := by decide
  unloaded := by decide
  systemCompatible := some "Test System"
  keyringPath := some "/etc/rauc/keyring.pem"

/-- A manifest with an image of one byte. -/
def byteFile : KeyFile :=
  ⟨[("update", ⟨[("compatible", "Test System")], List.nodup_singleton "compatible"⟩),
    ("bundle", ⟨[("format", "plain")], List.nodup_singleton "format"⟩),
    ("image.rootfs", ⟨[("filename", "rootfs.ext4"), ("size", "1"),
      ("sha256", "00")], by decide⟩)], by decide⟩

/-- Tools that find a detached signature in order, and this manifest in the payload. -/
def plainTools (keyFile : KeyFile) : BundleTools where
  isDetached _ := some true
  isEnvelopeddata _ := false
  decrypt sig := .ok sig
  verify _ sig := .ok sig
  certChain _ := .ok ()
  keyFile _ := .ok keyFile
  checksum _ := ""
  manifestFile _ := .ok []
  hookMessage := none
  uuid := ""
  extMountPoint _ := none

def plainSource : BundleSource where
  path := "/tmp/update.raucb"
  content := [1, 0, 0, 0, 0, 0, 0, 0, 1]

def appSystem : SystemState where
  status := ⟨.missing, appConfig.slots⟩
  artifacts := { disks := fun _ => { dir := some Table.empty } }

/-- An installation in which one block of this length is copied. -/
def appInstallation (keyFile : KeyFile) (length : Nat) (fates : Nat → Fate) :
    Outcome GError Unit × World InstallerState :=
  doInstallBundle (plainTools keyFile) appContext {} plainSource
    ⟨{ install := ⟨appSystem.restarted appContext.toInstallContext, []⟩,
       copies := fun _ _ => { copies := [.stream [length]] } }, fates⟩

/-- The process aborts after a failed pruning, and with an image of two bytes where the manifest has
one. -/
theorem installation_unbalanced :
    ((appInstallation byteFile 1 (Prog.failsAt 21 .killed)).1 = .exit (.aborted
        "assertion failed (step->name == name): (update_slots == do_install_bundle)") ∧
      ¬ ProgressBalanced (appInstallation byteFile 1 (Prog.failsAt 21 .killed)).1
        (appInstallation byteFile 1 (Prog.failsAt 21 .killed)).2.state) ∧
    ((appInstallation byteFile 2 (fun _ => .succeeds)).1 =
      .exit (.aborted "assertion failed (percentage <= 100)") ∧
      ¬ ProgressBalanced (appInstallation byteFile 2 (fun _ => .succeeds)).1
        (appInstallation byteFile 2 (fun _ => .succeeds)).2.state) := by
  refine ⟨⟨by decide +kernel, fun h => ?_⟩, by decide +kernel, fun h => ?_⟩
  · exact absurd h.runs (by decide +kernel)
  · exact absurd h.runs (by decide +kernel)

theorem appInstallation_balanced :
    (appInstallation byteFile 1 (fun _ => .succeeds)).1 = .value () ∧
      ProgressBalanced (appInstallation byteFile 1 (fun _ => .succeeds)).1
        (appInstallation byteFile 1 (fun _ => .succeeds)).2.state := by
  refine ⟨by decide +kernel, doInstallBundle_progress _ _ _ _ _ _ _ ?_ (by decide +kernel)⟩
  intro n image blocks hblocks hsize
  obtain rfl : blocks = [1] := by simpa using hblocks
  simpa using Nat.one_le_iff_ne_zero.mpr hsize

end Unbalanced

end RaucUpdate
