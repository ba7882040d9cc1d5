import RaucUpdate.Proofs.OpenedBundle

/-!
# The signature of a bundle

What `extract_signature` takes from a bundle fits on its payload again.
-/

namespace RaucUpdate

open Library Prog

section Signatures

variable {env : OpenedEnv} {bundle : RaucBundle} {files : Table String (List UInt8)}
  {outputsig : String}
  {sigdata : List UInt8}

lemma outputHolds_set (files : Table String (List UInt8)) (outpath : String)
    (content : List UInt8) :
    OutputHolds files outpath content (files.set outpath content) := by
  constructor
  · rw [Table.lookup_set, if_pos rfl]
  · intro path hpath
    rw [Table.lookup_set, if_neg (Ne.symm hpath)]

lemma OutputHolds.set {files' : Table String (List UInt8)} {outpath : String}
    {old content : List UInt8}
    (h : OutputHolds files outpath old files') :
      OutputHolds files outpath content (files'.set outpath content) := by
  obtain ⟨hout, hothers⟩ := outputHolds_set files' outpath content
  exact ⟨hout, fun path hpath => (hothers path hpath).trans (h.2 path hpath)⟩

/-- The new file holds the signature. -/
lemma triple_extractSignature :
    Triple (fun work => work.files = files) (extractSignature env sigdata outputsig)
      (fun _ work => files.lookup outputsig = none ∧ OutputHolds files outputsig sigdata work.files)
      (fun _ _ => True) := by
  unfold extractSignature
  apply triple_read_bind
  rintro work rfl
  split_ifs with hexists
  · exact triple_exit (fun _ _ => trivial)
  · have hnone : work.files.lookup outputsig = none := by
      unfold Table.contains at hexists
      exact Option.not_isSome_iff_eq_none.mp hexists
    have hcreated : Triple (fun s => s = work)
        (Prog.external (fun work => { work with files := work.files.set outputsig [] })
          (fsError "failed to create file to store signature: "))
        (fun _ s => OutputHolds work.files outputsig [] s.files) (fun _ _ => True) := by
      apply triple_external
      · rintro _ rfl
        exact outputHolds_set _ outputsig []
      · exact fun _ _ _ => trivial
      · exact fun _ _ => trivial
    apply triple_bind hcreated
    intro _
    apply triple_bind (triple_ask (fun _ _ hs => hs) (fun _ _ => trivial))
    intro failure
    cases failure with
    | none =>
      apply triple_modify
      intro s hs
      exact ⟨hnone, hs.set⟩
    | some failure => exact triple_bind triple_any (fun _ => triple_exit (fun _ _ => trivial))

/-- A signature that is not encrypted, is extracted from a bundle and is put behind its payload
again, gives the same file, byte for byte. -/
theorem extracted_signature_fits (env : OpenedEnv) (bundle : RaucBundle) (content : List UInt8)
    (max : UInt64)
    (opened : OpenedBundle) (outputsig : String) (w w₁ w₂ : World BundleWork)
    (hcontent : w.state.files.lookup bundle.path = some content)
    (hopened : Trailer max content opened)
    (hsize : bundle.size = opened.size)
    (hextract : extractSignature env opened.sigdata outputsig w = (.value (), w₁))
    (hread : ∀ sig, w₁.state.files.lookup outputsig = some sig → env.signatureFile = .ok sig)
    (hreplace : replaceSignature env bundle w₁ = (.value (), w₂)) :
    w₂.state.files.lookup env.bundlename = some content ∧
      ∀ path, path ≠ env.bundlename → path ≠ outputsig →
        w₂.state.files.lookup path = w.state.files.lookup path := by
  have hfirst := @triple_extractSignature env w.state.files outputsig opened.sigdata w rfl
  rw [hextract] at hfirst
  obtain ⟨hnone, hsig, hothers⟩ := hfirst
  have hpath : bundle.path ≠ outputsig := by
    rintro rfl
    rw [hcontent] at hnone
    exact absurd hnone (by simp)
  have hsecond := @triple_replaceSignature env bundle w₁.state.files (fun sig => sig =
      opened.sigdata) (fun sig hsame =>
    Except.ok.inj (hsame.symm.trans (hread _ hsig))) w₁ rfl
  have hframe := still_bundleCall env bundle [] .replace (otherFiles env.toCreateEnv w₁.state) w₁
    rfl
  change Holds _ _ (replaceSignature env bundle w₁) at hframe
  rw [hreplace] at hsecond hframe
  obtain ⟨-, content', sig, hinput, rfl, hwritten⟩ := hsecond
  rw [hothers bundle.path hpath, hcontent] at hinput
  obtain rfl := Option.some.inj hinput
  constructor
  · rw [hwritten, hsize, truncateTo_of_le (trailer_size_le hopened)]
    obtain ⟨payload, hsigned, hlength, -⟩ := trailer_iff.mp hopened
    have hpayload : content.take payload.length = payload := by
      rw [hsigned, take_signedFile]
    rw [hlength, hpayload, hsigned]
  · intro path houtput houtputsig
    have hlookup := congrFun hframe.1 path
    unfold otherFiles at hlookup
    rw [if_neg houtput, if_neg houtput] at hlookup
    rw [hlookup, hothers path houtputsig]

/-- The signature that is put back is the one that was extracted. -/
def smallRestored : OpenedEnv := { smallOpened "restored.raucb" with signatureFile := .ok [50] }

theorem extracted_signature_fits_small :
    ∃ w₂, replaceSignature smallRestored (smallBundle "update.raucb")
        (extractSignature smallRestored [50] "update.sig" (calm { files := smallFiles })).2 =
          (.value (), w₂) ∧
      w₂.state.files.lookup "restored.raucb" = some (signedFile [1, 2] [50]) := by
  have hextract :
      (extractSignature smallRestored [50] "update.sig" (calm { files := smallFiles })).1 =
      .value () := by
    decide +kernel
  have hsig : (extractSignature smallRestored [50] "update.sig"
      (calm { files := smallFiles })).2.state.files.lookup
      "update.sig" = some [50] := by decide +kernel
  have hreplace : (replaceSignature smallRestored (smallBundle "update.raucb")
      (extractSignature smallRestored [50] "update.sig" (calm { files := smallFiles })).2).1 =
        .value () := by
    decide +kernel
  have hread : ∀ sig, (extractSignature smallRestored [50] "update.sig"
      (calm { files := smallFiles })).2.state.files.lookup "update.sig" = some sig →
        smallRestored.signatureFile = .ok sig := by
    intro sig hfile
    rw [hsig] at hfile
    rw [← Option.some.inj hfile]
    rfl
  have hopened : Trailer 1024 (signedFile [1, 2] [50]) ⟨2, [50]⟩ :=
    trailer_signedFile (by decide) (by decide)
  exact ⟨_, run_eq hreplace, (extracted_signature_fits smallRestored (smallBundle "update.raucb")
    (signedFile [1, 2] [50]) 1024 ⟨2, [50]⟩ "update.sig" (calm { files := smallFiles }) _ _
      rfl hopened rfl
    (run_eq hextract) hread (run_eq hreplace)).1⟩

end Signatures

end RaucUpdate
