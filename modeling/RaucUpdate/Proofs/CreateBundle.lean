import RaucUpdate.Library.Aes
import RaucUpdate.Model.CreateBundle
import RaucUpdate.Proofs.BundleTrailer
import RaucUpdate.Proofs.Crypt
import RaucUpdate.Proofs.VerityHash

/-!
# What the creation of a bundle returns

`res` is set by most of the calls, and `bundletmp` removes the output unless everything went well. A
call that fails without setting `res` leaves the value of the call before, and only the first call
of all finds it unset. So the result depends on which call is the first to fail.
-/

namespace RaucUpdate

open Library Prog

/-- The calls of `create_bundle`, in order. -/
inductive CreateStep where
  | prepareWorkdir | loadManifest | checkInput | checkCreate | syncManifest | fakerootInit
    | adaptiveData | convertImages
  | saveManifest | mksquashfs | encryptPayload | signBundle | removeWorkdir
  deriving DecidableEq

def createSteps : List CreateStep :=
  [.prepareWorkdir, .loadManifest, .checkInput, .checkCreate, .syncManifest, .fakerootInit,
    .adaptiveData, .convertImages,
    .saveManifest, .mksquashfs, .encryptPayload, .signBundle, .removeWorkdir]

/-- The failure of the call sets `res`. -/
def CreateStep.assigns : CreateStep → Bool
  | .prepareWorkdir | .fakerootInit | .removeWorkdir => false
  | _ => true

/-- The failure of the call finds `res` set by a call before. -/
def CreateStep.unreported : CreateStep → Bool
  | .fakerootInit | .removeWorkdir => true
  | _ => false

section Results

variable {α : Type} {p : WorkProg α} {q : WorkProg Unit} {w : World CreateState}
  {w' : World BundleWork}

lemma onWork_value {a : α} (h : p ⟨w.state.work, w.fates⟩ = (.value a, w')) :
    onWork p w = (.value a, ⟨{ w.state with work := w'.state }, w'.fates⟩) := by
  unfold onWork zoom
  rw [h]

lemma onWork_exit {x : Exit GError} (h : p ⟨w.state.work, w.fates⟩ = (.exit x, w')) :
    onWork p w = (.exit x, ⟨{ w.state with work := w'.state }, w'.fates⟩) := by
  unfold onWork zoom
  rw [h]

lemma assignRes_value (h : q ⟨w.state.work, w.fates⟩ = (.value (), w')) :
    assignRes q w = (.value (), ⟨{ w.state with work := w'.state, res := true }, w'.fates⟩) := by
  unfold assignRes
  rw [bind_of_value (attempt_of_value (onWork_value h))]
  rfl

lemma assignRes_error {e : GError} (h : q ⟨w.state.work, w.fates⟩ = (.exit (.error e), w')) :
    assignRes q w = (.exit (.error e), ⟨{ w.state with work := w'.state, res := false },
      w'.fates⟩) := by
  unfold assignRes
  rw [bind_of_value (attempt_of_error (onWork_exit h))]
  rfl

/-- The process or the whole execution ends. -/
lemma assignRes_exit {x : Exit GError} (h : q ⟨w.state.work, w.fates⟩ = (.exit x, w'))
    (hx : ∀ e, x ≠ .error e) :
    (assignRes q w).1 = .exit x := by
  unfold assignRes
  rw [bind_of_exit (attempt_of_exit (onWork_exit h) hx)]

end Results

section Steps

variable (env : CreateEnv)

/-- What is called, without the variables of the caller. -/
def CreateStep.call : CreateStep → WorkProg Unit
  | .prepareWorkdir => RaucUpdate.prepareWorkdir env
  | .loadManifest =>
    Prog.mapError (GError.prefixed "Failed to load manifest: ") (loadManifestFile env)
  | .checkInput => checkWork checkManifestInput
  | .checkCreate => checkWork checkManifestCreate
  | .syncManifest => syncManifestWithContentdir env
  | .fakerootInit => do
    let m := (← Prog.read).manifest
    Prog.modify (fun work => { work with mksquashfsMetadata := mksquashfsMetadata m })
    if needsFakeroot env m then rFakerootInit else return ()
  | .adaptiveData => generateAdaptiveData
  | .convertImages => RaucUpdate.convertImages env
  | .saveManifest => saveManifestFile
  | .mksquashfs => RaucUpdate.mksquashfs env
  | .encryptPayload => do
    if (← Prog.read).manifest.bundleFormat = .crypt then encryptBundlePayload env else return ()
  | .signBundle => RaucUpdate.signBundle env
  | .removeWorkdir => Prog.mapError (GError.prefixed "Failed to remove workdir: ") rmTreeWorkdir

/-- The line of `create_bundle` for the call. -/
def CreateStep.line (step : CreateStep) : CreateProg Unit :=
  match step with
  | .encryptPayload => encryptForFormat env
  | step => if step.assigns then assignRes (step.call env) else onWork (step.call env)

lemma onWork_ite {α : Type} (c : Prop) [Decidable c] (p q : WorkProg α) :
    onWork (if c then p else q) = if c then onWork p else onWork q := by
  by_cases hc : c
  · rw [if_pos hc, if_pos hc]
  · rw [if_neg hc, if_neg hc]

lemma initFakeroot_eq : initFakeroot env = CreateStep.line env .fakerootInit := by
  funext w
  have hrest := onWork_ite (needsFakeroot env w.state.work.manifest = true)
    rFakerootInit (return ())
  exact (congrFun hrest ⟨{ w.state with work :=
    { w.state.work with mksquashfsMetadata := mksquashfsMetadata w.state.work.manifest } },
      w.fates⟩).symm

/-- The function up to its label, as a loop over its calls. -/
lemma createBundleSteps_eq :
    createBundleSteps env = Prog.bind (each (CreateStep.line env) createSteps)
      (fun _ => Prog.modify (fun st => { st with res := true, bundletmp := false })) := by
  unfold createBundleSteps
  rw [initFakeroot_eq]
  have hassoc : ∀ (p : CreateProg Unit) (f g : Unit → CreateProg Unit),
      Prog.bind (Prog.bind p f) g = Prog.bind p (fun a => Prog.bind (f a) g) :=
        fun p f g => Prog.bind_bind p f g
  unfold createSteps
  simp only [each, hassoc]
  rfl

variable {env} {step : CreateStep} {w : World CreateState} {w' : World BundleWork}

lemma line_of_assigns (hassigns : step.assigns = true) (hne : step ≠ .encryptPayload) :
    step.line env = assignRes (step.call env) := by
  cases step with
  | encryptPayload => exact absurd rfl hne
  | prepareWorkdir | fakerootInit | removeWorkdir => exact absurd hassigns (by decide)
  | _ => rfl

lemma line_of_not_assigns (hassigns : step.assigns = false) :
    step.line env = onWork (step.call env) := by
  cases step with
  | prepareWorkdir | fakerootInit | removeWorkdir => rfl
  | _ => exact absurd hassigns (by decide)

/-- Only a bundle that is encrypted has this line. -/
lemma line_encrypt (hformat : w.state.work.manifest.bundleFormat = .crypt) :
    CreateStep.line env .encryptPayload w = assignRes (CreateStep.call env .encryptPayload) w := by
  have hcall : CreateStep.call env .encryptPayload ⟨w.state.work, w.fates⟩ =
      encryptBundlePayload env ⟨w.state.work, w.fates⟩ := by
    change (if w.state.work.manifest.bundleFormat = .crypt then encryptBundlePayload env
      else return ()) _ = _
    rw [if_pos hformat]
  change (if w.state.work.manifest.bundleFormat = .crypt then assignRes (encryptBundlePayload env)
    else return ()) w = _
  rw [if_pos hformat]
  unfold assignRes
  have hattempt : attempt (onWork (encryptBundlePayload env)) w =
      attempt (onWork (CreateStep.call env .encryptPayload)) w := by
    unfold attempt onWork zoom
    rw [hcall]
  change Prog.bind _ _ w = Prog.bind _ _ w
  unfold Prog.bind
  rw [hattempt]

lemma encrypt_skipped (hformat : w.state.work.manifest.bundleFormat ≠ .crypt) :
    CreateStep.line env .encryptPayload w = (.value (), w) ∧
      CreateStep.call env .encryptPayload ⟨w.state.work, w.fates⟩ =
        (.value (), ⟨w.state.work, w.fates⟩) := by
  constructor
  · change (if w.state.work.manifest.bundleFormat =
      .crypt then assignRes (encryptBundlePayload env) else return ()) w = _
    rw [if_neg hformat]
    rfl
  · change (if w.state.work.manifest.bundleFormat = .crypt then encryptBundlePayload env
      else return ()) _ = _
    rw [if_neg hformat]
    rfl

/-- A call that succeeds keeps `res` set, and the second call sets it. -/
lemma line_value (h : step.call env ⟨w.state.work, w.fates⟩ = (.value (), w')) :
    ∃ res, step.line env w = (.value (), ⟨⟨w'.state, res, w.state.bundletmp⟩, w'.fates⟩) ∧
      (w.state.res = true ∨ step = .loadManifest → res = true) := by
  by_cases hencrypt : step = .encryptPayload
  · subst hencrypt
    by_cases hformat : w.state.work.manifest.bundleFormat = .crypt
    · exact ⟨true, (line_encrypt hformat).trans (assignRes_value h), fun _ => rfl⟩
    · obtain ⟨hline, hcall⟩ := @encrypt_skipped env w hformat
      obtain rfl : (⟨w.state.work, w.fates⟩ : World BundleWork) = w' :=
        congrArg Prod.snd (hcall.symm.trans h)
      exact ⟨w.state.res, hline, fun hres => hres.resolve_right (by decide)⟩
  · cases hassigns : step.assigns with
    | true =>
      rw [line_of_assigns hassigns hencrypt]
      exact ⟨true, assignRes_value h, fun _ => rfl⟩
    | false =>
      rw [line_of_not_assigns hassigns]
      refine ⟨w.state.res, onWork_value h, fun hres => hres.resolve_right ?_⟩
      rintro rfl
      exact absurd hassigns (by decide)

lemma line_of_exit {x : Exit GError} (hassigns : step.assigns = true)
    (h : step.call env ⟨w.state.work, w.fates⟩ = (.exit x, w')) :
      step.line env w = assignRes (step.call env) w := by
  by_cases hencrypt : step = .encryptPayload
  · subst hencrypt
    by_cases hformat : w.state.work.manifest.bundleFormat = .crypt
    · exact line_encrypt hformat
    · exact absurd ((encrypt_skipped hformat).2.symm.trans h) (by simp)
  · rw [line_of_assigns hassigns hencrypt]

/-- A call that fails. -/
lemma line_error {e : GError} (h : step.call env ⟨w.state.work, w.fates⟩ = (.exit (.error e), w')) :
    step.line env w = (.exit (.error e),
      ⟨⟨w'.state, if step.assigns then false else w.state.res, w.state.bundletmp⟩, w'.fates⟩) := by
  cases hassigns : step.assigns with
  | true =>
    rw [line_of_exit hassigns h]
    exact assignRes_error h
  | false =>
    rw [line_of_not_assigns hassigns]
    exact onWork_exit h

lemma line_exit {x : Exit GError} (h : step.call env ⟨w.state.work, w.fates⟩ = (.exit x, w'))
    (hx : ∀ e, x ≠ .error e) : (step.line env w).1 = .exit x := by
  cases hassigns : step.assigns with
  | true =>
    rw [line_of_exit hassigns h]
    exact assignRes_exit h hx
  | false => rw [line_of_not_assigns hassigns, onWork_exit h]

/-- Calls that all succeed. -/
lemma each_line_value {steps : List CreateStep}
    (h : each (CreateStep.call env) steps ⟨w.state.work, w.fates⟩ = (.value (), w')) :
    ∃ res, each (CreateStep.line env) steps w =
      (.value (), ⟨⟨w'.state, res, w.state.bundletmp⟩, w'.fates⟩) ∧
      (w.state.res = true ∨ .loadManifest ∈ steps → res = true) := by
  induction steps generalizing w with
  | nil =>
    obtain rfl : (⟨w.state.work, w.fates⟩ : World BundleWork) = w' := congrArg Prod.snd h
    exact ⟨w.state.res, rfl, fun hres => hres.resolve_right List.not_mem_nil⟩
  | cons step rest ih =>
    cases hcall : step.call env ⟨w.state.work, w.fates⟩ with
    | mk o w₁ =>
      cases o with
      | exit x => exact absurd ((bind_of_exit hcall).symm.trans h) (by simp)
      | value _ =>
        obtain ⟨res₁, hline, hres₁⟩ := line_value hcall
        obtain ⟨res, hrest, hres⟩ := ih (w := ⟨⟨w₁.state, res₁, w.state.bundletmp⟩, w₁.fates⟩)
          ((bind_of_value hcall).symm.trans h)
        refine ⟨res, (bind_of_value hline).trans hrest, fun hset => hres ?_⟩
        rcases hset with hset | hmem
        · exact .inl (hres₁ (.inl hset))
        · rcases List.mem_cons.mp hmem with rfl | hlater
          · exact .inl (hres₁ (.inr rfl))
          · exact .inr hlater

/-- The calls in front of one of them. -/
lemma createSteps_before {before after : List CreateStep}
    (h : createSteps = before ++ step :: after) :
    before = createSteps.takeWhile (fun other => other ≠ step) := by
  have hnodup : (before ++ step :: after).Nodup := h ▸ (by decide : createSteps.Nodup)
  have hbefore : ∀ other ∈ before, decide (other ≠ step) = true := by
    intro other hother
    rw [decide_eq_true_iff]
    rintro rfl
    exact (List.nodup_append.mp hnodup).2.2 other hother other List.mem_cons_self rfl
  rw [h, List.takeWhile_append_of_pos hbefore, List.takeWhile_cons_of_neg (by simp),
    List.append_nil]

/-- The first call that does not succeed. -/
lemma createSteps_error {e : GError} {work : BundleWork} {fates : Nat → Fate}
    (h : StopsAt (CreateStep.call env) createSteps ⟨work, fates⟩ step (.error e) w') :
    createBundleSteps env ⟨{ work := work }, fates⟩ =
      (.exit (.error e), ⟨⟨w'.state, step.unreported, true⟩, w'.fates⟩) := by
  obtain ⟨before, after, w₁, hsteps, hbefore, hstop⟩ := h
  have hfront := createSteps_before hsteps
  obtain ⟨res, hlines, hres⟩ := each_line_value (w := ⟨{ work := work }, fates⟩) hbefore
  have hline := line_error (w := ⟨⟨w₁.state, res, true⟩, w₁.fates⟩) hstop
  have hflag : (if step.assigns then false else res) = step.unreported := by
    cases step with
    | prepareWorkdir =>
      rw [hfront] at hlines
      have hstart : (⟨⟨w₁.state, res, true⟩, w₁.fates⟩ : World CreateState) =
          ⟨{ work := work }, fates⟩ :=
        (congrArg Prod.snd hlines).symm
      exact congrArg (fun w => w.state.res) hstart
    | fakerootInit | removeWorkdir => exact hres (.inr (by rw [hfront]; decide))
    | _ => rfl
  have hrun : each (CreateStep.line env) createSteps ⟨{ work := work }, fates⟩ =
      (.exit (.error e), ⟨⟨w'.state, step.unreported, true⟩, w'.fates⟩) := by
    rw [← hflag]
    exact each_exit_iff.mpr ⟨step, before, after, _, hsteps, hlines, hline⟩
  rw [createBundleSteps_eq]
  exact bind_of_exit hrun

lemma createSteps_exit {x : Exit GError} {work : BundleWork} {fates : Nat → Fate}
    (h : StopsAt (CreateStep.call env) createSteps ⟨work, fates⟩ step x w')
    (hx : ∀ e, x ≠ .error e) :
    (createBundleSteps env ⟨{ work := work }, fates⟩).1 = .exit x := by
  obtain ⟨before, after, w₁, hsteps, hbefore, hstop⟩ := h
  obtain ⟨res, hlines, -⟩ := each_line_value (w := ⟨{ work := work }, fates⟩) hbefore
  have hline := line_exit (w := ⟨⟨w₁.state, res, true⟩, w₁.fates⟩) hstop hx
  have hrun : each (CreateStep.line env) createSteps ⟨{ work := work }, fates⟩ =
      (.exit x, (step.line env ⟨⟨w₁.state, res, true⟩, w₁.fates⟩).2) :=
    each_exit_iff.mpr ⟨step, before, after, _, hsteps, hlines, Prod.ext hline rfl⟩
  rw [createBundleSteps_eq]
  exact congrArg Prod.fst (bind_of_exit hrun)

lemma createSteps_value {work : BundleWork} {fates : Nat → Fate}
    (h : each (CreateStep.call env) createSteps ⟨work, fates⟩ = (.value (), w')) :
    createBundleSteps env ⟨{ work := work }, fates⟩ =
      (.value (), ⟨⟨w'.state, true, false⟩, w'.fates⟩) := by
  obtain ⟨res, hlines, -⟩ := each_line_value (w := ⟨{ work := work }, fates⟩) h
  rw [createBundleSteps_eq]
  exact bind_of_value hlines

end Steps

section Ends

variable {env : CreateEnv}

/-- The files after the automatic removal of the output. -/
def outputRemoved (env : CreateEnv) (files : Table String (List UInt8)) :
    Table String (List UInt8) :=
  if env.removable env.bundlename then files.erase env.bundlename else files

lemma triple_onWork {P : CreateState → Prop} {Q : CreateState → Prop} {p : WorkProg Unit}
    (h : ∀ st, P st → Triple (fun work => work = st.work) p (fun _ work =>
      Q { st with work := work }) (fun _ _ => True)) :
    Triple P (onWork p) (fun _ => Q) (fun _ _ => True) :=
  triple_zoom h

lemma triple_cleanupFakeroot {P : CreateState → Prop} :
    Triple P cleanupFakeroot (fun _ => P) (fun _ _ => True) := by
  unfold cleanupFakeroot
  apply triple_read_bind
  intro st hst
  cases hfakeroot : st.work.fakeroot with
  | false => exact triple_pure (by rintro _ rfl; exact hst)
  | true =>
    apply triple_bind (triple_ask (fun _ _ h => h) (fun _ _ => trivial))
    intro _
    exact triple_pure (by rintro _ rfl; exact hst)

lemma triple_rTempfileCleanup (files : Table String (List UInt8)) :
    Triple (fun work => work.files = files) (rTempfileCleanup env env.bundlename)
      (fun _ work => work.files = outputRemoved env files) (fun _ _ => True) := by
  unfold rTempfileCleanup outputRemoved
  by_cases hremovable : env.removable env.bundlename = true
  · rw [if_pos hremovable, if_pos hremovable]
    apply triple_modify
    rintro _ rfl
    rfl
  · rw [if_neg hremovable, if_neg hremovable]
    exact triple_pure (fun _ hfiles => hfiles)

lemma triple_cleanupBundletmp (res bundletmp : Bool) (files : Table String (List UInt8)) :
    Triple (fun st => st.res = res ∧ st.bundletmp = bundletmp ∧ st.work.files = files)
      (cleanupBundletmp env)
      (fun _ st => st.res = res ∧ st.work.files =
        if bundletmp then outputRemoved env files else files)
      (fun _ _ => True) := by
  unfold cleanupBundletmp
  apply triple_read_bind
  rintro st ⟨rfl, rfl, rfl⟩
  cases htmp : st.bundletmp with
  | false =>
    apply triple_pure
    rintro _ rfl
    exact ⟨rfl, rfl⟩
  | true =>
    apply triple_onWork
    intro s hs
    obtain rfl := hs.symm
    apply triple_consequence (triple_rTempfileCleanup st.work.files) ?_ ?_ (fun _ _ h => h)
    · rintro _ rfl
      rfl
    · intro _ work hwork
      exact ⟨rfl, hwork⟩

lemma triple_createBundleOut (res bundletmp : Bool) (files : Table String (List UInt8))
    (error : Option GError) :
    Triple (fun st => st.res = res ∧ st.bundletmp = bundletmp ∧ st.work.files = files)
      (createBundleOut env error)
      (fun r st => r = ⟨res, error⟩ ∧ st.work.files =
        if bundletmp then outputRemoved env files else files)
      (fun _ _ => True) := by
  unfold createBundleOut
  apply triple_bind triple_cleanupFakeroot
  intro _
  apply triple_bind (triple_cleanupBundletmp res bundletmp files)
  intro _
  apply triple_read_bind
  rintro st ⟨rfl, hfiles⟩
  apply triple_pure
  rintro _ rfl
  exact ⟨rfl, hfiles⟩

end Ends

section Contract

variable {env : CreateEnv}

/-- A payload with a signature behind it, which is over the payload or over a manifest. -/
def FinishedBundle (env : CreateEnv) (file : List UInt8) : Prop :=
  ∃ payload sig, file = signedFile payload sig ∧
    (sig = env.cmsSignFile payload ∨ ∃ m, sig = env.cmsSignManifest m)

def OutputFinished (env : CreateEnv) (files : Table String (List UInt8)) : Prop :=
  ∃ file, files.lookup env.bundlename = some file ∧ FinishedBundle env file

/-- What a caller may expect. -/
def CreateContract (env : CreateEnv) (before after : Table String (List UInt8))
    (r : CreateReturn) : Prop :=
  if before.contains env.bundlename then
    r.ret = false ∧ r.error.isSome ∧ after.lookup env.bundlename = before.lookup env.bundlename
  else
    (r.ret = true ↔ r.error = none ∧ OutputFinished env after) ∧
      (r.ret = false ↔ r.error.isSome ∧ after.lookup env.bundlename = none)

/-- The calls in front of this one succeed, and it fails. -/
def FirstFailure (env : CreateEnv) (w : World (Table String (List UInt8))) (step : CreateStep)
    (e : GError)
    (w₁ : World BundleWork) : Prop :=
  StopsAt (CreateStep.call env) createSteps ⟨{ files := w.state }, w.fates⟩ step (.error e) w₁

/-- The signature belongs to the file or to a manifest. -/
def SignatureOf (env : CreateEnv) (work : BundleWork) (sig : List UInt8) : Prop :=
  sig = env.cmsSignFile ((work.files.lookup env.bundlename).getD []) ∨
    ∃ m, sig = env.cmsSignManifest m

lemma triple_generateBundleSignature :
    Triple (fun _ => True) (generateBundleSignature env) (fun sig work => SignatureOf env work sig)
      (fun _ _ => True) := by
  unfold generateBundleSignature
  apply triple_read_bind
  intro work _
  by_cases hplain : work.manifest.bundleFormat = .plain
  · rw [if_pos hplain]
    refine triple_bind triple_any (fun _ => triple_bind triple_any (fun _ => ?_))
    apply triple_read_bind
    intro work' _
    apply triple_pure
    rintro _ rfl
    exact .inl rfl
  · rw [if_neg hplain]
    refine triple_bind triple_any (fun _ => triple_bind triple_any (fun _ => ?_))
    apply triple_read_bind
    intro work' _
    exact triple_pure (fun _ _ => .inr ⟨work'.manifest, rfl⟩)

lemma triple_appendToBundle (sig : List UInt8) :
    Triple (fun work => SignatureOf env work sig) (appendToBundle env sig)
      (fun _ work => OutputFinished env work.files) (fun _ _ => True) := by
  unfold appendToBundle
  apply triple_read_bind
  intro work hsig
  unfold SignatureOf at hsig
  cases hlookup : work.files.lookup env.bundlename with
  | none => exact triple_exit (fun _ _ => trivial)
  | some content =>
    rw [hlookup, Option.getD_some] at hsig
    apply triple_zoom
    rintro _ rfl
    apply triple_consequence triple_appendSignatureToBundle ?_ ?_ (fun _ _ _ => trivial)
    · exact content
    · rintro _ rfl
      rfl
    · intro _ file hfile
      refine ⟨file.content, ?_, content, sig, hfile, hsig⟩
      unfold writeOutput
      rw [Table.lookup_set, if_pos rfl]

lemma triple_signBundle :
    Triple (fun _ => True) (signBundle env) (fun _ work => OutputFinished env work.files)
      (fun _ _ => True) := by
  unfold signBundle
  apply triple_read_bind
  intro work _
  have hsign : Triple (fun _ => True) (generateBundleSignature env >>= appendToBundle env)
      (fun _ work => OutputFinished env work.files) (fun _ _ => True) :=
    triple_bind triple_generateBundleSignature triple_appendToBundle
  by_cases hplain : work.manifest.bundleFormat ≠ .plain
  · rw [if_pos hplain]
    exact triple_bind triple_any (fun _ => hsign)
  · rw [if_neg hplain]
    exact triple_consequence hsign (fun _ _ => trivial) (fun _ _ h => h) (fun _ _ h => h)

/-- When every call succeeds the output is there. -/
lemma createSteps_finished {w w' : World BundleWork}
    (h : each (CreateStep.call env) createSteps w = (.value (), w')) :
      OutputFinished env w'.state.files := by
  have hlast : Triple (fun _ => True) (each (CreateStep.call env) [.signBundle, .removeWorkdir])
      (fun _ work => OutputFinished env work.files) (fun _ _ => True) := by
    refine triple_bind triple_signBundle (fun _ =>
      triple_bind ?_ (fun _ => triple_pure (fun _ hwork => hwork)))
    exact triple_mapError (triple_external_id (fun _ _ _ => trivial)) (fun _ _ _ => trivial)
  have hall : Triple (fun _ => True) (each (CreateStep.call env) createSteps)
      (fun _ work => OutputFinished env work.files) (fun _ _ => True) := by
    rw [show createSteps = createSteps.take 11 ++ [.signBundle, .removeWorkdir] from rfl,
      each_append]
    exact triple_bind triple_any (fun _ => hlast)
  have hend := hall w trivial
  rwa [h] at hend

section Runs

variable {w w' : World (Table String (List UInt8))} {r : CreateReturn}

lemma createBundle_exists (h : w.state.contains env.bundlename = true) :
    createBundle env w = (.value ⟨false, some (alreadyExists env)⟩, w) := by
  change (if w.state.contains env.bundlename = true then return ⟨false, some (alreadyExists env)⟩
    else Prog.zoom _ _ (createBundleBody env) : Prog _ GError CreateReturn) w = _
  rw [if_pos h]
  rfl

lemma createBundle_new (h : ¬w.state.contains env.bundlename = true)
    (hrun : createBundle env w = (.value r, w')) :
    ∃ end', createBundleBody env ⟨{ work := { files := w.state } }, w.fates⟩ = (.value r, end') ∧
      w'.state = end'.state.work.files := by
  have hzoom : createBundle env w = zoom (fun files => { work := { files := files } })
      (fun st _ => st.work.files) (createBundleBody env) w := by
    change (if w.state.contains env.bundlename = true then return ⟨false, some (alreadyExists env)⟩
      else Prog.zoom _ _ (createBundleBody env) : Prog _ GError CreateReturn) w = _
    rw [if_neg h]
  rw [hzoom] at hrun
  unfold zoom at hrun
  cases hbody : createBundleBody env ⟨{ work := { files := w.state } }, w.fates⟩ with
  | mk o end' =>
    rw [hbody] at hrun
    obtain ⟨rfl, rfl⟩ := Prod.mk.inj hrun
    exact ⟨end', rfl, rfl⟩

/-- The bundle was made. -/
lemma createBundle_of_value {w₁ : World BundleWork} (hnew : ¬w.state.contains env.bundlename = true)
    (hrun : createBundle env w = (.value r, w'))
    (h : each (CreateStep.call env) createSteps ⟨{ files := w.state }, w.fates⟩ = (.value (), w₁)) :
    r = ⟨true, none⟩ ∧ w'.state = w₁.state.files := by
  obtain ⟨end', hbody, hfiles⟩ := createBundle_new hnew hrun
  have hout : createBundleOut env none ⟨⟨w₁.state, true, false⟩, w₁.fates⟩ = (.value r, end') :=
    (bind_of_value (attempt_of_value (createSteps_value h))).symm.trans hbody
  have hend := @triple_createBundleOut env true false w₁.state.files none
    ⟨⟨w₁.state, true, false⟩, w₁.fates⟩ ⟨rfl, rfl, rfl⟩
  rw [hout] at hend
  exact ⟨hend.1, hfiles.trans hend.2⟩

/-- One of the calls failed. -/
lemma createBundle_of_failure {step : CreateStep} {e : GError} {w₁ : World BundleWork}
    (hnew : ¬w.state.contains env.bundlename = true) (hrun : createBundle env w = (.value r, w'))
    (h : FirstFailure env w step e w₁) :
    r = ⟨step.unreported, some e⟩ ∧ w'.state = outputRemoved env w₁.state.files := by
  obtain ⟨end', hbody, hfiles⟩ := createBundle_new hnew hrun
  have hout : createBundleOut env (some e) ⟨⟨w₁.state, step.unreported, true⟩, w₁.fates⟩ =
      (.value r, end') :=
    (bind_of_value (attempt_of_error (createSteps_error h))).symm.trans hbody
  have hend := @triple_createBundleOut env step.unreported true w₁.state.files (some e)
    ⟨⟨w₁.state, step.unreported, true⟩, w₁.fates⟩ ⟨rfl, rfl, rfl⟩
  rw [hout] at hend
  exact ⟨hend.1, hfiles.trans hend.2⟩

/-- A run that returns gets to its end or to a call that fails. -/
lemma createBundle_cases (hnew : ¬w.state.contains env.bundlename = true)
    (hrun : createBundle env w = (.value r, w')) :
    (∃ w₁, each (CreateStep.call env) createSteps ⟨{ files := w.state }, w.fates⟩ =
      (.value (), w₁)) ∨
      ∃ step e w₁, FirstFailure env w step e w₁ := by
  cases hcalls : each (CreateStep.call env) createSteps ⟨{ files := w.state }, w.fates⟩ with
  | mk o w₁ =>
    cases o with
    | value _ => exact .inl ⟨w₁, rfl⟩
    | exit x =>
      obtain ⟨step, hstop⟩ := each_exit_iff.mp hcalls
      by_cases herror : ∃ e, x = .error e
      · obtain ⟨e, rfl⟩ := herror
        exact .inr ⟨step, e, w₁, hstop⟩
      · obtain ⟨end', hbody, -⟩ := createBundle_new hnew hrun
        have hother : ∀ e, x ≠ .error e := fun e he => herror ⟨e, he⟩
        have hsteps := createSteps_exit hstop hother
        have hattempt := attempt_of_exit (Prod.ext hsteps rfl) hother
        exact absurd ((bind_of_exit hattempt).symm.trans hbody) (by simp)

/-- The removal of a file that is there may fail. -/
lemma outputRemoved_lookup (files : Table String (List UInt8)) :
    (outputRemoved env files).lookup env.bundlename = none ↔
      (files.contains env.bundlename = true → env.removable env.bundlename = true) := by
  unfold outputRemoved Table.contains
  by_cases hremovable : env.removable env.bundlename = true
  · simp [hremovable]
  · simp [hremovable]

/-- The result agrees with the error and with the output unless the first call that fails is one of
two: making the fakeroot environment and removing the workdir set no result. An output that cannot
be removed stays, too. -/
theorem create_bundle_contract_iff (env : CreateEnv) (w w' : World (Table String (List UInt8)))
    (r : CreateReturn)
    (hrun : createBundle env w = (.value r, w')) :
    CreateContract env w.state w'.state r ↔
      w.state.contains env.bundlename = true ∨
        ∀ step e w₁, FirstFailure env w step e w₁ → step ≠ .fakerootInit ∧ step ≠ .removeWorkdir ∧
          (w₁.state.files.contains env.bundlename = true →
            env.removable env.bundlename = true) := by
  unfold CreateContract
  by_cases hold : w.state.contains env.bundlename = true
  · obtain ⟨hr, rfl⟩ := Prod.mk.inj ((createBundle_exists hold).symm.trans hrun)
    obtain rfl := Outcome.value.inj hr
    rw [if_pos hold]
    exact ⟨fun _ => .inl hold, fun _ => ⟨rfl, rfl, rfl⟩⟩
  · rw [if_neg hold]
    constructor
    · rintro ⟨htrue, hfalse⟩
      refine .inr (fun step e w₁ hfail => ?_)
      obtain ⟨rfl, hfiles⟩ := createBundle_of_failure hold hrun hfail
      cases hflag : step.unreported with
      | true => exact absurd (htrue.mp hflag).1 (by simp)
      | false =>
        have hgone := (hfalse.mp hflag).2
        rw [hfiles, outputRemoved_lookup] at hgone
        refine ⟨?_, ?_, hgone⟩
        · rintro rfl
          exact absurd hflag (by decide)
        · rintro rfl
          exact absurd hflag (by decide)
    · intro hcond
      have hcond' := hcond.resolve_left hold
      rcases createBundle_cases hold hrun with ⟨w₁, hcalls⟩ | ⟨step, e, w₁, hfail⟩
      · obtain ⟨rfl, hfiles⟩ := createBundle_of_value hold hrun hcalls
        have hfinished := createSteps_finished hcalls
        rw [hfiles]
        exact ⟨⟨fun _ => ⟨rfl, hfinished⟩, fun _ => rfl⟩, by simp, by simp⟩
      · obtain ⟨rfl, hfiles⟩ := createBundle_of_failure hold hrun hfail
        obtain ⟨hfakeroot, hworkdir, hgone⟩ := hcond' step e w₁ hfail
        have hflag : step.unreported = false := by
          cases step with
          | fakerootInit => exact absurd rfl hfakeroot
          | removeWorkdir => exact absurd rfl hworkdir
          | _ => rfl
        rw [← outputRemoved_lookup, ← hfiles] at hgone
        simp [hflag, hgone]

end Runs

end Contract

section Digits

lemma digitVal_hexChars {d : Nat} (h : d < 16) : digitVal (hexChars.getD d '0') = some d := by
  decide +revert

lemma hexDigits_rHexEncode (raw : List UInt8) : hexDigits (rHexEncode raw).toList = some raw := by
  unfold rHexEncode
  rw [String.toList_ofList]
  induction raw with
  | nil => rfl
  | cons b rest ih =>
    have hlt := b.toNat_lt
    have hupper : b.toNat / 16 < 16 := by omega
    have hlower : b.toNat % 16 < 16 := by omega
    have hbyte : UInt8.ofNat (b.toNat / 16 * 16 + b.toNat % 16) = b := by
      rw [Nat.div_add_mod', UInt8.ofNat_toNat]
    rw [List.flatMap_cons, List.cons_append, List.cons_append, List.nil_append, hexDigits,
      digitVal_hexChars hupper,
      digitVal_hexChars hlower, ih]
    change ((some (b.toNat / 16)).filter (fun x => x < 16)).bind
      (fun u => ((some (b.toNat % 16)).filter
      (fun x => x < 16)).bind (fun l => some (UInt8.ofNat (u * 16 + l) :: rest))) = _
    rw [Option.filter_some, Option.filter_some, if_pos (decide_eq_true hupper),
      if_pos (decide_eq_true hlower),
      Option.bind_some, Option.bind_some, hbyte]

/-- Bytes that are read from hexadecimal digits are the ones that were written. -/
lemma rHexDecode_rHexEncode {raw bytes : List UInt8} {len : Nat}
    (h : rHexDecode (rHexEncode raw) len = some bytes) :
    bytes = raw := by
  unfold rHexDecode at h
  split_ifs at h with hsize
  exact (Option.some.inj ((hexDigits_rHexEncode raw).symm.trans h)).symm

lemma utf8ByteSize_rHexEncode (raw : List UInt8) :
    (rHexEncode raw).utf8ByteSize = raw.length * 2 := by
  have hsize : ∀ d < 16, (hexChars.getD d '0').utf8Size = 1 := by decide
  unfold rHexEncode
  induction raw with
  | nil => rfl
  | cons b rest ih =>
    have hlt := b.toNat_lt
    rw [List.flatMap_cons, List.cons_append, List.cons_append, List.nil_append, String.ofList_cons,
      String.ofList_cons,
      String.utf8ByteSize_append, String.utf8ByteSize_append, String.utf8ByteSize_singleton,
      String.utf8ByteSize_singleton, ih, hsize _ (by omega), hsize _ (by omega), List.length_cons]
    omega

lemma rHexDecode_rHexEncode_self {raw : List UInt8} {len : Nat} (h : raw.length = len) :
    rHexDecode (rHexEncode raw) len = some raw := by
  unfold rHexDecode
  rw [utf8ByteSize_rHexEncode, h, if_neg (not_not.mpr rfl), hexDigits_rHexEncode]

end Digits

section Calm

variable {env : CreateEnv} {m : RaucManifest} {first second : List UInt8}

/-- The output and the manifest so far, without a fakeroot environment. -/
structure OutputIs (env : CreateEnv) (content : List UInt8) (m : RaucManifest)
    (work : BundleWork) : Prop where
  file : work.files.lookup env.bundlename = some content
  manifest : work.manifest = m
  fakeroot : work.fakeroot = false

lemma OutputIs.written {work : BundleWork} (hmanifest : work.manifest = m)
    (hfakeroot : work.fakeroot = false)
    (content : List UInt8) : OutputIs env content m (writeOutput env content work) := by
  refine ⟨?_, hmanifest, hfakeroot⟩
  unfold writeOutput
  rw [Table.lookup_set, if_pos rfl]

/-- The manifest with the hash tree of two blocks. -/
def treeOfTwo (env : CreateEnv) (m : RaucManifest) (first second : List UInt8) : RaucManifest :=
  { m with
    bundleVeritySalt := some (rHexEncode env.veritySalt)
    bundleVerityHash := some (rHexEncode
      (env.sha256 (env.veritySalt ++ hashBlockOfTwo env.sha256 env.veritySalt first second)).bytes)
    bundleVeritySize := 4096 }

/-- A manifest before its hash tree is made. -/
structure Treeless (m : RaucManifest) : Prop where
  salt : m.bundleVeritySalt = none
  hash : m.bundleVerityHash = none
  size : m.bundleVeritySize = 0

lemma calms_appendHashTree (hfirst : first.length = 4096) (hsecond : second.length = 4096) :
    Calms (OutputIs env (first ++ second) m) (appendHashTree env (first ++ second))
      (fun _ => OutputIs env (first ++ second ++ hashBlockOfTwo env.sha256 env.veritySalt
        first second)
        (treeOfTwo env m first second)) := by
  have hlength : (first ++ second).length = 8192 := by
    rw [List.length_append, hfirst, hsecond]
  unfold appendHashTree
  apply calms_bind (calms_ask (Q := fun failure work => failure = none ∧
    OutputIs env (first ++ second) m work)
    (fun _ hwork => ⟨rfl, hwork⟩))
  intro failure work hwork
  obtain ⟨rfl, hwork⟩ := hwork
  revert work
  rw [hlength, rVerityHashCreate_two hfirst hsecond]
  apply calms_bind (calms_modify (Q := fun _ => OutputIs env
    (first ++ second ++ hashBlockOfTwo env.sha256 env.veritySalt first second) m)
    (fun _ hwork => OutputIs.written hwork.manifest hwork.fakeroot _))
  intro _
  rw [if_neg (show ¬(3 * 4096 ≤ 8192) by decide)]
  apply calms_modify
  intro work hwork
  refine ⟨hwork.file, ?_, hwork.fakeroot⟩
  have hsize : UInt64.ofNat (3 * 4096 - 8192) = 4096 := by decide
  unfold treeOfTwo
  rw [hwork.manifest, hsize]

lemma calms_createVerity (hfirst : first.length = 4096) (hsecond : second.length = 4096)
    (hm : Treeless m) :
    Calms (OutputIs env (first ++ second) m) (createVerity env)
      (fun _ => OutputIs env (first ++ second ++ hashBlockOfTwo env.sha256 env.veritySalt
        first second)
        (treeOfTwo env m first second)) := by
  have hlength : (first ++ second).length = 8192 := by
    rw [List.length_append, hfirst, hsecond]
  unfold createVerity
  apply calms_bind calms_external_id
  intro _
  apply calms_read_bind
  rintro work hwork
  rw [hwork.file, hwork.manifest]
  simp only
  rw [if_neg (by simp [hm.salt]), if_neg (by simp [hm.hash]), if_neg (by simp [hm.size])]
  apply calms_bind calms_external_id
  intro _
  apply calms_bind calms_external_id
  intro _
  rw [if_neg (by rw [hlength]; decide), if_neg (by rw [hlength]; decide)]
  apply calms_consequence (calms_appendHashTree hfirst hsecond) _ (fun _ _ h => h)
  rintro _ rfl
  exact hwork

/-- A manifest without images that is good for a bundle with a hash tree once it has the tree. -/
structure WithoutImages (m : RaucManifest) : Prop where
  version : m.updateMinRaucVersion = none
  hooks : m.hookInstallCheck = false
  images : m.images = []
  format : m.bundleFormat = .verity ∨ m.bundleFormat = .crypt

lemma checkHexField_rHexEncode {raw : List UInt8} (name : String) (h : raw.length = 32) :
    checkHexField name (some (rHexEncode raw)) = .ok () := by
  unfold checkHexField
  simp only
  rw [rHexDecode_rHexEncode_self h, if_neg (by simp)]

/-- With its tree, and with a key if it is encrypted, the manifest passes the check. -/
lemma checkManifestExternal_treeOfTwo (hm : WithoutImages m) (hsalt : env.veritySalt.length = 32)
    (hkey : m.bundleFormat = .crypt → ∃ key : List UInt8, key.length = 32 ∧ m.bundleCryptKey =
      some (rHexEncode key)) :
    checkManifestExternal (treeOfTwo env m first second) = .ok (treeOfTwo env m first second) := by
  have hcommon : checkManifestCommon (treeOfTwo env m first second) = .ok () := by
    unfold checkManifestCommon checkMinRaucVersion haveHooks treeOfTwo
    simp only [hm.version, hm.images, hm.hooks]
    rfl
  have hverity : checkVerity (treeOfTwo env m first second) = .ok () := by
    have hhash := checkHexField_rHexEncode
      ("hash for " ++ rManifestBundleFormatToStr m.bundleFormat)
      (env.sha256 (env.veritySalt ++ hashBlockOfTwo env.sha256 env.veritySalt first second)).size
    have hsalted :=
      checkHexField_rHexEncode ("salt for " ++ rManifestBundleFormatToStr m.bundleFormat) hsalt
    unfold checkVerity treeOfTwo
    simp only [hhash, hsalted]
    rfl
  have hformat : checkFormatExternal (treeOfTwo env m first second) = .ok () := by
    unfold checkFormatExternal
    rcases hm.format with hverityFormat | hcrypt
    · have hsame : (treeOfTwo env m first second).bundleFormat = .verity := hverityFormat
      rw [hsame]
      exact hverity
    · have hsame : (treeOfTwo env m first second).bundleFormat = .crypt := hcrypt
      obtain ⟨key, hlength, hfield⟩ := hkey hcrypt
      have hfield' : (treeOfTwo env m first second).bundleCryptKey = some (rHexEncode key) := hfield
      rw [hsame, hfield']
      simp only
      rw [checkHexField_rHexEncode _ hlength]
      exact hverity
  have himages : (treeOfTwo env m first second).images = [] := hm.images
  unfold checkManifestExternal checkManifestBundled
  rw [hcommon, hformat, himages]
  change Except.ok { treeOfTwo env m first second with images := [] } = _
  rw [← himages]

lemma calms_completeManifest {content : List UInt8} {text : String}
    {check : RaucManifest → Except GError RaucManifest}
    (h : check m = .ok m) :
    Calms (OutputIs env content m) (completeManifest text check)
      (fun _ => OutputIs env content m) := by
  unfold completeManifest
  apply calms_read_bind
  intro work hwork
  rw [hwork.manifest, h]
  apply calms_modify
  rintro _ rfl
  exact ⟨hwork.file, rfl, hwork.fakeroot⟩

lemma calms_generateBundleSignature {content : List UInt8} (hformat : m.bundleFormat ≠ .plain)
    (h : checkManifestExternal m = .ok m) :
    Calms (OutputIs env content m) (generateBundleSignature env)
      (fun sig work => sig = env.cmsSignManifest m ∧ OutputIs env content m work) := by
  unfold generateBundleSignature
  apply calms_read_bind
  intro work hwork
  rw [hwork.manifest, if_neg hformat]
  refine calms_bind (Q := fun _ => OutputIs env content m) ?_ ?_
  · apply calms_consequence (calms_completeManifest h) _ (fun _ _ h => h)
    rintro _ rfl
    exact hwork
  intro _
  apply calms_bind calms_external_id
  intro _
  apply calms_read_bind
  intro work' hwork'
  apply calms_pure
  rintro _ rfl
  rw [hwork'.manifest]
  exact ⟨rfl, hwork'⟩

lemma calms_appendToBundle (payload sig : List UInt8) :
    Calms (OutputIs env payload m) (appendToBundle env sig)
      (fun _ => OutputIs env (signedFile payload sig) m) := by
  unfold appendToBundle
  apply calms_read_bind
  intro work hwork
  rw [hwork.file]
  have happended := calms_and (P := fun file : BundleFile => file = ⟨payload, 0, []⟩)
    (calms_consequence (calms_appendSignatureToBundle sig) (fun _ _ => trivial) (fun _ _ h => h))
    (triple_consequence (@triple_appendSignatureToBundle payload sig)
      (by rintro _ rfl; rfl) (fun _ _ h => h) (fun _ _ h => h))
  rintro _ rfl
  obtain ⟨_, file, hrun, -, hcontent⟩ := happended ⟨payload, 0, []⟩ rfl
  refine ⟨(), _, calmly_zoom hrun, ?_⟩
  rw [hcontent]
  exact OutputIs.written hwork.manifest hwork.fakeroot _

/-- What is signed when an image of two blocks, encrypted or not, is in the output. -/
lemma calms_signTwo (hfirst : first.length = 4096) (hsecond : second.length = 4096)
    (hm : WithoutImages m)
    (htreeless : Treeless m) (hsalt : env.veritySalt.length = 32)
    (hkey : m.bundleFormat = .crypt → ∃ key : List UInt8, key.length = 32 ∧ m.bundleCryptKey =
      some (rHexEncode key)) :
    Calms (OutputIs env (first ++ second) m) (signBundle env)
      (fun _ => OutputIs env (signedFile (first ++ second ++ hashBlockOfTwo env.sha256
        env.veritySalt first second)
        (env.cmsSignManifest (treeOfTwo env m first second))) (treeOfTwo env m first second)) := by
  have hformat : m.bundleFormat ≠ .plain := by
    rcases hm.format with h | h
    · simp [h]
    · simp [h]
  unfold signBundle
  apply calms_read_bind
  intro work hwork
  rw [hwork.manifest, if_pos hformat]
  refine calms_bind (Q := fun _ => OutputIs env
    (first ++ second ++ hashBlockOfTwo env.sha256 env.veritySalt first second)
      (treeOfTwo env m first second)) ?_ ?_
  · apply calms_consequence (calms_createVerity hfirst hsecond htreeless) _ (fun _ _ h => h)
    rintro _ rfl
    exact hwork
  intro _
  have hformat' : (treeOfTwo env m first second).bundleFormat ≠ .plain := hformat
  apply calms_bind (calms_generateBundleSignature hformat'
    (checkManifestExternal_treeOfTwo hm hsalt hkey))
  rintro sig work' ⟨rfl, hwork'⟩
  exact calms_appendToBundle _ _ work' hwork'

/-- The sectors of two blocks. -/
lemma sectorwise_two (f : Nat → List UInt8 → List UInt8) (hfirst : first.length = encSecSize)
    (hsecond : second.length = encSecSize) : sectorwise encSecSize f 2 0 (first ++ second) =
      f 0 first ++ f 1 second := by
  rw [sectorwise, List.take_left' hfirst, List.drop_left' hfirst, sectorwise,
    List.take_of_length_le (Nat.le_of_eq hsecond),
    sectorwise, List.append_nil]

/-- The manifest of an encrypted image. -/
def withCryptKey (env : CreateEnv) (m : RaucManifest) : RaucManifest :=
  { m with bundleCryptKey := some (rHexEncode env.cryptKey) }

lemma calms_encryptToBundle (hfirst : first.length = encSecSize)
    (hsecond : second.length = encSecSize)
    (hpaths : env.bundlename ≠ env.encpath) :
    Calms (OutputIs env (first ++ second) m) (encryptToBundle env)
      (fun _ => OutputIs env (cryptSector env.cipher true env.cryptKey 0 first ++
        cryptSector env.cipher true env.cryptKey 1 second) (withCryptKey env m)) := by
  have hlength : (first ++ second).length = 2 * encSecSize := by
    rw [List.length_append, hfirst, hsecond, Nat.two_mul]
  have hsectors := sectorwise_two (cryptSector env.cipher true env.cryptKey) hfirst hsecond
  generalize cryptSector env.cipher true env.cryptKey 0 first ++ cryptSector env.cipher true
    env.cryptKey 1 second = data
    at hsectors ⊢
  unfold encryptToBundle
  apply calms_bind calms_external_id
  intro _
  refine calms_bind (Q := fun _ work => work.files.lookup env.encpath = some data ∧
    work.manifest = m ∧
    work.fakeroot = false) ?_ ?_
  · intro work hwork
    have hfile := hwork.file
    rw [← List.append_nil (first ++ second)] at hfile
    have hsure := sure_rCryptEncryptOrDecrypt env.cipher true env.cryptKey hpaths hfile hlength
      (.inl ⟨rfl, .inl rfl⟩)
    obtain ⟨_, files, hrun, hout, -⟩ := hsure.calms work.files rfl
    rw [hsectors] at hout
    exact ⟨(), _, calmly_zoom hrun, hout, hwork.manifest, hwork.fakeroot⟩
  intro _
  apply calms_bind (calms_modify (Q := fun _ work => work.files.lookup env.encpath = some data ∧
    work.manifest = withCryptKey env m ∧ work.fakeroot = false) ?_)
  · intro _
    apply calms_read_bind
    rintro work ⟨hfile, hmanifest, hfakeroot⟩
    rw [hfile]
    apply calms_external
    rintro _ rfl
    refine ⟨?_, hmanifest, hfakeroot⟩
    rw [Table.lookup_set, if_pos rfl]
  · rintro work ⟨hfile, rfl, hfakeroot⟩
    exact ⟨hfile, rfl, hfakeroot⟩

lemma calms_encryptPayload (hfirst : first.length = encSecSize)
    (hsecond : second.length = encSecSize)
    (hpaths : env.bundlename ≠ env.encpath) (hformat : m.bundleFormat = .crypt)
    (hkey : m.bundleCryptKey = none) :
    Calms (OutputIs env (first ++ second) m) (CreateStep.call env .encryptPayload)
      (fun _ => OutputIs env (cryptSector env.cipher true env.cryptKey 0 first ++
        cryptSector env.cipher true env.cryptKey 1 second) (withCryptKey env m)) := by
  change Calms _ (read >>= fun work : BundleWork =>
    if work.manifest.bundleFormat = .crypt then encryptBundlePayload env else Pure.pure ()) _
  apply calms_read_bind
  intro work hwork
  rw [hwork.manifest, if_pos hformat]
  unfold encryptBundlePayload
  apply calms_read_bind
  intro s hs
  obtain rfl := hs.symm
  rw [hwork.manifest, if_neg (by simp [hkey])]
  have hencrypt : Calms (fun s => s = work) (encryptToBundle env)
      (fun _ => OutputIs env (cryptSector env.cipher true env.cryptKey 0 first ++
        cryptSector env.cipher true env.cryptKey 1 second) (withCryptKey env m)) := by
    apply calms_consequence (calms_encryptToBundle hfirst hsecond hpaths) _ (fun _ _ h => h)
    rintro _ rfl
    exact hwork
  apply calms_bind (calms_attempt hencrypt)
  rintro result work' ⟨_, rfl, hwork'⟩
  exact ⟨(), work', calmly_pure work' (), hwork'⟩

/-- Without a fakeroot environment nothing but the result of the calls is left. -/
lemma calmly_createBundle {files : Table String (List UInt8)} {work : BundleWork}
    (hnew : files.contains env.bundlename = false)
    (hcalls : Calmly { files := files } (each (CreateStep.call env) createSteps) () work)
    (hfakeroot : work.fakeroot = false) :
      Calmly files (createBundle env) ⟨true, none⟩ work.files := by
  have hsteps : createBundleSteps env ⟨{ work := { files := files } }, fun _ => .succeeds⟩ =
      (.value (), ⟨⟨work, true, false⟩, fun _ => .succeeds⟩) := createSteps_value hcalls
  have hbody : Calmly { work := { files := files } } (createBundleBody env) ⟨true, none⟩ ⟨work,
      true, false⟩ := by
    have hcleanup : Calmly (⟨work, true, false⟩ : CreateState) cleanupFakeroot () ⟨work, true,
        false⟩ := by
      apply calmly_read_bind
      simp only
      rw [if_neg (by simp [hfakeroot])]
      rfl
    exact calmly_bind (calmly_attempt hsteps) (calmly_bind hcleanup rfl)
  unfold createBundle
  apply calmly_read_bind
  rw [if_neg (by simp [hnew])]
  apply calmly_zoom (t := (⟨work, true, false⟩ : CreateState))
  exact hbody

end Calm

section Examples

lemma run_eq {σ α : Type} {p : Prog σ GError α} {w : World σ} {o : Outcome GError α}
    (h : (p w).1 = o) :
    p w = (o, (p w).2) := by
  rw [← h]

def sampleKey : List UInt8 := List.replicate 32 0x3c

def sampleCipher : IvCipher (List UInt8) UInt8 16 :=
  Aes.aes256Cbc.withKeys (fun bytes => Vector.ofFn (fun i => bytes.getD i 0))

/-- A content directory for a bundle in the plain format without images. -/
def smallContent : CreateEnv where
  bundlename := "update.raucb"
  encpath := "0123456789abcdef"
  manifestFile :=
    .ok ⟨[("update", ⟨[("compatible", "Test System")], List.nodup_singleton "compatible"⟩)],
    List.nodup_singleton "update"⟩
  manifestDigest := fun _ => ""
  checksum := fun _ => ⟨.sha256, some "", 4096⟩
  squashfs := fun _ _ _ => [104, 115, 113, 115]
  cipher := sampleCipher
  cryptKey := sampleKey
  sha256 := sampleSha256
  veritySalt := sampleSalt
  hashTreeLeft := id
  cmsSignFile := fun _ => [48]
  cmsSignManifest := fun m => match m.bundleFormat with
    | .plain => [48]
    | .verity => [49]
    | .crypt => [50]

lemma length_cmsSignManifest (m : RaucManifest) : (smallContent.cmsSignManifest m).length = 1 := by
  simp only [smallContent]
  split <;> rfl

def contentKeyFile (format : BundleFormat) : KeyFile :=
  ⟨[("update", ⟨[("compatible", "Test System")], List.nodup_singleton "compatible"⟩),
    ("bundle", ⟨[("format", rManifestBundleFormatToStr format)],
      List.nodup_singleton "format"⟩)], by simp⟩

/-- A content directory without images, of which `mksquashfs` makes two blocks. -/
def blocksContent (name : String) (format : BundleFormat) : CreateEnv :=
  { smallContent with
    bundlename := name
    manifestFile := .ok (contentKeyFile format)
    squashfs := fun _ _ _ => filledBlock 0 ++ filledBlock 1 }

/-- The manifest that is read. -/
def contentManifest (format : BundleFormat) : RaucManifest :=
  { updateCompatible := some "Test System", bundleFormat := format, bundleFormatExplicit := true,
    hash := some "" }

lemma loadManifestMem_content (format : BundleFormat) :
    loadManifestMem (fun _ => "") (contentKeyFile format) = .value (contentManifest format) := by
  cases format with
  | plain => decide +kernel
  | verity => decide +kernel
  | crypt => decide +kernel

lemma calmly_prepared (name : String) {format : BundleFormat} (hformat : format ≠ .plain)
    (files : Table String (List UInt8)) :
    Calmly { files := files } (each (CreateStep.call (blocksContent name format))
      (createSteps.take 9)) ()
      { files := files, manifest := contentManifest format } := by
  have hloaded :
      Calmly { files := files } (CreateStep.call (blocksContent name format) .loadManifest) ()
      { files := files, manifest := contentManifest format } := by
    apply calmly_mapError
    have hfile : Calmly (id { files := files }) (ofExcept (blocksContent name format).manifestFile)
        (contentKeyFile format)
        ({ files := files } : BundleWork) := rfl
    apply calmly_bind (calmly_external _ _ _)
    apply calmly_bind hfile
    have hmanifest : loadManifestMem (blocksContent name format).manifestDigest
        (contentKeyFile format) =
        .value (contentManifest format) := loadManifestMem_content format
    simp only [hmanifest]
    rfl
  have hchecked : ∀ step ∈ [CreateStep.checkInput, .checkCreate, .syncManifest, .fakerootInit,
      .adaptiveData,
      .convertImages, .saveManifest], Calmly { files := files, manifest := contentManifest format }
        (CreateStep.call (blocksContent name format) step) ()
          { files := files, manifest := contentManifest format } := by
    cases format with
    | plain => exact absurd rfl hformat
    | verity => simp only [List.forall_mem_cons]; exact ⟨rfl, rfl, rfl, rfl, rfl, rfl, rfl, by simp⟩
    | crypt => simp only [List.forall_mem_cons]; exact ⟨rfl, rfl, rfl, rfl, rfl, rfl, rfl, by simp⟩
  exact calmly_bind rfl (calmly_bind hloaded (calmly_each_same hchecked))

/-- The manifest that is signed, but for the hash tree. -/
def signedContent (format : BundleFormat) : RaucManifest :=
  if format = .crypt then
    { contentManifest format with bundleCryptKey := some (rHexEncode sampleKey) }
  else contentManifest format

/-- The two blocks, encrypted if the format says so. -/
def blocksData (format : BundleFormat) : List UInt8 × List UInt8 :=
  if format = .crypt then
    (cryptSector sampleCipher true sampleKey 0 (filledBlock 0),
      cryptSector sampleCipher true sampleKey 1 (filledBlock 1))
  else (filledBlock 0, filledBlock 1)

/-- The data with the hash tree behind them. -/
def blocksPayload (format : BundleFormat) : List UInt8 :=
  (blocksData format).1 ++ (blocksData format).2 ++
    hashBlockOfTwo sampleSha256 sampleSalt (blocksData format).1 (blocksData format).2

def formatSignature (format : BundleFormat) : List UInt8 := if format = .crypt then [50] else [49]

lemma length_blocksData (format : BundleFormat) :
    (blocksData format).1.length = 4096 ∧ (blocksData format).2.length = 4096 := by
  have hsector :
      ∀ number b, (cryptSector sampleCipher true sampleKey number (filledBlock b)).length = 4096 :=
    fun number b => length_cryptSector sampleCipher true sampleKey number (filledBlock b)
      (length_filledBlock b)
  unfold blocksData
  split_ifs
  · simp only [hsector, and_self]
  · simp only [length_filledBlock, and_self]

/-- Without faults every call succeeds. -/
lemma createCalls_blocks {name : String} (hname : name ≠ smallContent.encpath)
    {format : BundleFormat}
    (hformat : format ≠ .plain) {files : Table String (List UInt8)}
    (hnew : files.contains name = false) :
    ∃ work, Calmly { files := files } (each (CreateStep.call (blocksContent name format))
      createSteps) () work ∧
      work.files.lookup name = some (signedFile (blocksPayload format) (formatSignature format)) ∧
      work.fakeroot = false := by
  obtain ⟨hfirst, hsecond⟩ := length_blocksData format
  have hwritten : Calms (fun work => work = { files := files, manifest := contentManifest format })
      (CreateStep.call (blocksContent name format) .mksquashfs)
      (fun _ => OutputIs (blocksContent name format) (filledBlock 0 ++ filledBlock 1)
        (contentManifest format)) := by
    rintro _ rfl
    refine ⟨(), writeOutput (blocksContent name format) (filledBlock 0 ++ filledBlock 1)
      { files := files, manifest := contentManifest format }, ?_,
        OutputIs.written (m := contentManifest format) rfl rfl _⟩
    change Calmly _ (mksquashfs (blocksContent name format)) _ _
    unfold mksquashfs
    apply calmly_read_bind
    have hnot : ¬files.contains (blocksContent name format).bundlename = true := by
      change ¬files.contains name = true
      simp [hnew]
    rw [if_neg hnot]
    rfl
  have hencrypted :
      Calms (OutputIs (blocksContent name format) (filledBlock 0 ++ filledBlock 1)
      (contentManifest format))
      (CreateStep.call (blocksContent name format) .encryptPayload)
      (fun _ => OutputIs (blocksContent name format) ((blocksData format).1 ++
        (blocksData format).2)
        (signedContent format)) := by
    unfold blocksData signedContent
    by_cases hcrypt : format = .crypt
    · simp only [if_pos hcrypt]
      exact calms_encryptPayload (length_filledBlock 0) (length_filledBlock 1) hname hcrypt rfl
    · simp only [if_neg hcrypt]
      change Calms _ (read >>= fun work : BundleWork =>
        if work.manifest.bundleFormat = .crypt then
          encryptBundlePayload (blocksContent name format) else Pure.pure ()) _
      apply calms_read_bind
      intro work hwork
      have hnot : ¬work.manifest.bundleFormat = .crypt := by
        rw [hwork.manifest]
        exact hcrypt
      rw [if_neg hnot]
      apply calms_pure
      rintro _ rfl
      exact hwork
  have hwithout : WithoutImages (signedContent format) ∧ Treeless (signedContent format) := by
    cases format with
    | plain => exact absurd rfl hformat
    | verity => exact ⟨⟨rfl, rfl, rfl, .inl rfl⟩, ⟨rfl, rfl, rfl⟩⟩
    | crypt => exact ⟨⟨rfl, rfl, rfl, .inr rfl⟩, ⟨rfl, rfl, rfl⟩⟩
  have hkey : (signedContent format).bundleFormat = .crypt →
      ∃ key : List UInt8, key.length = 32 ∧ (signedContent format).bundleCryptKey =
        some (rHexEncode key) := by
    cases format with
    | plain => exact absurd rfl hformat
    | verity => exact fun h => absurd h (by decide)
    | crypt => exact fun _ => ⟨sampleKey, rfl, rfl⟩
  have hsigned := @calms_signTwo (blocksContent name format) _ _ _ hfirst hsecond hwithout.1
    hwithout.2 rfl hkey
  have hsignature : (blocksContent name format).cmsSignManifest
      (treeOfTwo (blocksContent name format) (signedContent format) (blocksData format).1
        (blocksData format).2) =
        formatSignature format := by
    cases format with
    | plain => exact absurd rfl hformat
    | verity => rfl
    | crypt => rfl
  rw [hsignature] at hsigned
  obtain ⟨_, work₁, hrun₁, hwork₁⟩ := hwritten _ rfl
  obtain ⟨_, work₂, hrun₂, hwork₂⟩ := hencrypted work₁ hwork₁
  obtain ⟨_, work₃, hrun₃, hwork₃⟩ := hsigned work₂ hwork₂
  refine ⟨work₃, ?_, hwork₃.file, hwork₃.fakeroot⟩
  rw [show createSteps = createSteps.take 9 ++ [.mksquashfs, .encryptPayload, .signBundle,
    .removeWorkdir] from rfl,
    each_append]
  exact calmly_bind (calmly_prepared name hformat files)
    (calmly_bind hrun₁ (calmly_bind hrun₂ (calmly_bind hrun₃
    (calmly_bind (calmly_mapError (calmly_external work₃ id _)) (calmly_pure work₃ ())))))

/-- Without faults the bundle is made. -/
lemma createBundle_blocks {name : String} (hname : name ≠ smallContent.encpath)
    {format : BundleFormat}
    (hformat : format ≠ .plain) {files : Table String (List UInt8)}
    (hnew : files.contains name = false) :
    ∃ files', Calmly files (createBundle (blocksContent name format)) ⟨true, none⟩ files' ∧
      files'.lookup name = some (signedFile (blocksPayload format) (formatSignature format)) := by
  obtain ⟨work, hcalls, hfile, hfakeroot⟩ := createCalls_blocks hname hformat hnew
  exact ⟨work.files, calmly_createBundle hnew hcalls hfakeroot, hfile⟩

/-- A tar archive for a repository of artifacts, of which the extracted files go into a bundle in
the verity format. -/
def tarContent : CreateEnv :=
  { smallContent with
    workdirFiles := ["app.tar"]
    manifestFile :=
      .ok ⟨[("update", ⟨[("compatible", "Test System")], List.nodup_singleton "compatible"⟩),
      ("bundle", ⟨[("format", "verity")], List.nodup_singleton "format"⟩),
      ("image.files/app",
        ⟨[("filename", "app.tar"), ("convert", "tar-extract;keep")], by simp⟩)], by simp⟩ }

/-- Every external step succeeds but this one. -/
def failingAt (k : Nat) : World (Table String (List UInt8)) :=
  ⟨Table.empty, fun n => if n = k then .fails (.notStarted "No space left on device")
    else .succeeds⟩

def noSpace (text : String) : GError := ⟨.fileError, text ++ "No space left on device"⟩

/-- Bundles in each format that are made in an empty directory without faults. -/
theorem create_bundle_contract_small :
    CreateContract smallContent Table.empty (createBundle smallContent (calm Table.empty)).2.state
      ⟨true, none⟩ ∧
    CreateContract (blocksContent "update.raucb" .verity) Table.empty
      (createBundle (blocksContent "update.raucb" .verity) (calm Table.empty)).2.state
        ⟨true, none⟩ ∧
    CreateContract (blocksContent "update.raucb" .crypt) Table.empty
      (createBundle (blocksContent "update.raucb" .crypt) (calm Table.empty)).2.state
        ⟨true, none⟩ := by
  have hcontract : ∀ env : CreateEnv, (createBundle env (calm Table.empty)).1 =
      .value ⟨true, none⟩ →
      (each (CreateStep.call env) createSteps ⟨{ files := Table.empty }, fun _ => .succeeds⟩).1 =
        .value () →
        CreateContract env Table.empty (createBundle env (calm Table.empty)).2.state
          ⟨true, none⟩ := by
    intro env hrun hcalls
    have hiff :=
      create_bundle_contract_iff env (calm Table.empty) (createBundle env (calm Table.empty)).2
      ⟨true, none⟩
      (run_eq hrun)
    refine hiff.mpr (.inr (fun step e w₁ hfail => ?_))
    have hexit := congrArg Prod.fst (each_exit_iff.mpr ⟨step, hfail⟩)
    exact absurd (hcalls.symm.trans hexit) (by simp)
  have hblocks : ∀ format ≠ .plain, CreateContract (blocksContent "update.raucb" format) Table.empty
      (createBundle (blocksContent "update.raucb" format) (calm Table.empty)).2.state
        ⟨true, none⟩ := by
    intro format hformat
    have hname : "update.raucb" ≠ smallContent.encpath := by decide
    have hnew : (Table.empty : Table String (List UInt8)).contains "update.raucb" =
      false := by decide
    obtain ⟨work, hcalls, -, hfakeroot⟩ := createCalls_blocks hname hformat hnew
    exact hcontract _ (congrArg Prod.fst (calmly_createBundle hnew hcalls hfakeroot))
      (congrArg Prod.fst hcalls)
  exact ⟨hcontract smallContent (by decide +kernel) (by decide +kernel),
    hblocks .verity (by decide),
    hblocks .crypt (by decide)⟩

/-- The workdir cannot be removed, or there is no room for the fakeroot environment: the result is
`TRUE`, with an error and without a bundle. -/
theorem create_bundle_true_without_bundle :
    (createBundle smallContent (failingAt 10)).1 =
        .value ⟨true, some (noSpace "Failed to remove workdir: Failed to remove tree: ")⟩ ∧
      (createBundle smallContent (failingAt 10)).2.state.lookup "update.raucb" = none ∧
      ¬CreateContract smallContent Table.empty (createBundle smallContent (failingAt 10)).2.state
        ⟨true, some (noSpace "Failed to remove workdir: Failed to remove tree: ")⟩ ∧
      (createBundle tarContent (failingAt 4)).1 =
        .value ⟨true, some (noSpace "Failed to create tmp dir: ")⟩ ∧
      (createBundle tarContent (failingAt 4)).2.state.lookup "update.raucb" = none ∧
      ¬CreateContract tarContent Table.empty (createBundle tarContent (failingAt 4)).2.state
        ⟨true, some (noSpace "Failed to create tmp dir: ")⟩ := by
  have hbroken : ∀ (env : CreateEnv) (after : Table String (List UInt8)) (e : GError),
      ¬CreateContract env Table.empty after ⟨true, some e⟩ := by
    intro env after e hcontract
    unfold CreateContract at hcontract
    rw [if_neg (by simp [Table.contains])] at hcontract
    exact absurd (hcontract.1.mp rfl).1 (by simp)
  exact ⟨by decide +kernel, by decide +kernel, hbroken smallContent _ _, by decide +kernel,
    by decide +kernel, hbroken tarContent _ _⟩

end Examples

end RaucUpdate
