import RaucUpdate.Model.ArtifactRuns
import RaucUpdate.Proofs.ArtifactInstall
import RaucUpdate.Proofs.ManifestChecks
import RaucUpdate.Proofs.SlotPlans
import RaucUpdate.Proofs.SparedArtifacts

/-!
# The artifact plans of the default handler

The repositories during one run of the default handler: on every way out each keeps its invariant,
and after a success the links are those of the manifest. A repository for which there is no plan
keeps its links.
-/

namespace RaucUpdate

open Library

section Repositories

variable {T : Terms} {repos : List RArtifactRepo} {R : RArtifactRepo → RepoState → Prop}
  {repo : RArtifactRepo}

def EachRepo (repos : List RArtifactRepo) (R : RArtifactRepo → RepoState → Prop)
    (st : ArtifactState) : Prop :=
  ∀ repo ∈ repos, R repo (st.repo repo)

/-- The invariant of all repositories, which holds whenever a run can end. -/
def AllSound (T : Terms) (repos : List RArtifactRepo) : ArtifactState → Prop :=
  EachRepo repos (fun _ st => Sound T st.disk)

lemma RepoTriple.sound {α : Type} {φ : RepoDir → ArtifactTable → Prop} {p : RepoProg α}
    {ψ : α → RepoDir → ArtifactTable → Prop} (h : RepoTriple T φ p ψ) :
    Prog.Triple (RepoHolds T φ) p (fun a => RepoHolds T (ψ a)) (fun _ st => Sound T st.disk) :=
  Prog.triple_consequence h (fun _ h => h) (fun _ _ h => h) (fun _ _ h => h.1)

end Repositories

section Plans

variable {T : Terms} {ctx : InstallContext} {args : RaucInstallArgs} {bundledir : String}
  {manifest : RaucManifest} {group : Table String RaucSlot} {plans done : List RImageInstallPlan}
  {plan : RImageInstallPlan} {fileDigest : KeyFile → String}

lemma ManifestAccepted.dotless (h : ManifestAccepted fileDigest manifest) {image : RaucImage}
    (himage : image ∈ manifest.images) {name : String} (hname : image.artifact = some name) :
    Dotless name := by
  obtain ⟨data, loaded, original, hload, hmem, size, rfl⟩ := h.image himage
  obtain ⟨groups, -, -, himages⟩ := (loadManifestMem_accepted hload).images
  obtain ⟨group, haccepted⟩ := exists_of_forall₂ himages.flip hmem
  exact haccepted.dotless hname

/-- The plan for an artifact is for one of the repositories and for an artifact of the manifest. -/
structure FitPlan (T : Terms) (ctx : InstallContext) (manifest : RaucManifest)
    (plan : RImageInstallPlan) (repo : RArtifactRepo) (name : String) : Prop where
  configured : repo ∈ ctx.repos
  artifact : plan.image.artifact = some name
  inManifest : rManifestHasArtifactImage manifest repo.name name = true
  admitted : T.admits name
  recognised : ∀ digest, plan.image.checksum.digest = some digest → Recognised name digest

/-- The plan installs an artifact in the repository. -/
def ForRepo (repo : RArtifactRepo) (plan : RImageInstallPlan) : Prop :=
  plan.targetSlot = none ∧ plan.targetRepo = some repo

instance (repo : RArtifactRepo) (plan : RImageInstallPlan) : Decidable (ForRepo repo plan) :=
  inferInstanceAs (Decidable (_ ∧ _))

/-- The digest of the last plan for an artifact of the repository. -/
def plannedDigest (repo : RArtifactRepo) (plans : List RImageInstallPlan) (name : String) :
    Option String :=
  plans.foldl (fun found plan =>
    if ForRepo repo plan ∧ plan.image.artifact = some name then plan.image.checksum.digest
    else found) none

lemma plannedDigest_snoc {repo : RArtifactRepo} (name : String) :
    plannedDigest repo (done ++ [plan]) name =
      if ForRepo repo plan ∧ plan.image.artifact = some name then plan.image.checksum.digest
      else plannedDigest repo done name := by
  simp only [plannedDigest, List.foldl_append, List.foldl_cons, List.foldl_nil]

lemma planned_of_plannedDigest {repo : RArtifactRepo} {name : String}
    (h : plannedDigest repo plans name ≠ none) :
    ∃ plan ∈ plans, ForRepo repo plan ∧ plan.image.artifact = some name := by
  induction plans using List.reverseRecOn with
  | nil => exact absurd rfl h
  | append_singleton done plan ih =>
    by_cases hplan : ForRepo repo plan ∧ plan.image.artifact = some name
    · exact ⟨plan, by simp, hplan⟩
    · rw [plannedDigest_snoc, if_neg hplan] at h
      obtain ⟨other, hother, hfor⟩ := ih h
      exact ⟨other, List.mem_append_left _ hother, hfor⟩

/-- Some plan installs an artifact in the repository. -/
def PlannedFor (plans : List RImageInstallPlan) (repo : RArtifactRepo) : Prop :=
  ∃ plan ∈ plans, ForRepo repo plan

lemma plannedFor_snoc {repo : RArtifactRepo} :
    PlannedFor (done ++ [plan]) repo ↔ PlannedFor done repo ∨ ForRepo repo plan := by
  unfold PlannedFor
  simp only [List.mem_append, List.mem_singleton, or_and_right, exists_or, exists_eq_left]

/-- Once a plan installs an artifact in the repository, only the names of the manifest are kept. -/
def KeptName (manifest : RaucManifest) (repo : RArtifactRepo) (plans : List RImageInstallPlan)
    (name : String) : Prop :=
  PlannedFor plans repo → rManifestHasArtifactImage manifest repo.name name = true

/-- Every plan that has no slot fits. -/
def FitPlans (T : Terms) (ctx : InstallContext) (manifest : RaucManifest)
    (plans : List RImageInstallPlan) : Prop :=
  ∀ plan ∈ plans, ∀ repo, ForRepo repo plan → ∃ name, FitPlan T ctx manifest plan repo name

lemma FitPlans.inManifest (h : FitPlans T ctx manifest plans) {repo : RArtifactRepo}
    {name : String} (hplanned : plannedDigest repo plans name ≠ none) :
    rManifestHasArtifactImage manifest repo.name name = true := by
  obtain ⟨plan, hplan, hfor, hname⟩ := planned_of_plannedDigest hplanned
  obtain ⟨name', hfit⟩ := h plan hplan repo hfor
  rw [hfit.artifact] at hname
  rw [← Option.some.inj hname]
  exact hfit.inManifest

/-- What a repository is like after these plans. -/
structure RepoInstalled (T : Terms) (manifest : RaucManifest) (start : RepoDir)
    (done : List RImageInstallPlan) (repo : RArtifactRepo) (dir : RepoDir)
    (table : ArtifactTable) : Prop where
  provides : Provides T (plannedDigest repo done) (KeptName manifest repo done) dir table
  untouched : ¬ PlannedFor done repo → SameLinks start dir

/-- What the repositories are like after these plans. -/
structure Installed (T : Terms) (repos : List RArtifactRepo) (manifest : RaucManifest)
    (start : RArtifactRepo → RepoDir) (done : List RImageInstallPlan) (st : ArtifactState) :
    Prop where
  each : EachRepo repos (fun r => RepoHolds T (RepoInstalled T manifest (start r) done r)) st
  digests : ∀ plan ∈ done, ∀ repo, ForRepo repo plan → plan.image.checksum.digest ≠ none

lemma Installed.sound {repos : List RArtifactRepo} {start : RArtifactRepo → RepoDir}
    {st : ArtifactState} (h : Installed T repos manifest start done st) : AllSound T repos st :=
  fun r hr => (h.each r hr).sound

/-- A plan for something else changes nothing for the repository. -/
lemma RepoInstalled.skip {start : RepoDir} {repo : RArtifactRepo} {dir : RepoDir}
    {table : ArtifactTable} (h : RepoInstalled T manifest start done repo dir table)
    (hplan : ¬ ForRepo repo plan) :
    RepoInstalled T manifest start (done ++ [plan]) repo dir table := by
  have hdigests : plannedDigest repo (done ++ [plan]) = plannedDigest repo done := by
    funext name
    rw [plannedDigest_snoc, if_neg (fun hfor => hplan hfor.1)]
  have hplanned : PlannedFor (done ++ [plan]) repo ↔ PlannedFor done repo := by
    rw [plannedFor_snoc, or_iff_left hplan]
  have hkept : KeptName manifest repo (done ++ [plan]) = KeptName manifest repo done := by
    funext name
    exact propext (by rw [KeptName, hplanned, KeptName])
  refine ⟨?_, fun hnot => h.untouched (fun ht => hnot (hplanned.mpr ht))⟩
  rw [hdigests, hkept]
  exact h.provides

variable {start : RArtifactRepo → RepoDir}

/-- A plan for a slot installs no artifact. -/
lemma Installed.skip {repos : List RArtifactRepo} {st : ArtifactState}
    (h : Installed T repos manifest start done st) (hplan : ∀ repo, ¬ ForRepo repo plan) :
    Installed T repos manifest start (done ++ [plan]) st := by
  refine ⟨fun r hr => (h.each r hr).mono (fun _ _ _ hr => hr.skip (hplan r)), ?_⟩
  intro p hp repo hfor
  rcases List.mem_append.mp hp with hp | hp
  · exact h.digests p hp repo hfor
  · exact absurd (List.mem_singleton.mp hp ▸ hfor) (hplan repo)

end Plans

section Handler

variable {ctx : InstallContext} {args : RaucInstallArgs} {bundledir : String}
  {manifest : RaucManifest} {group : Table String RaucSlot} {plans : List RImageInstallPlan}
  {fileDigest : KeyFile → String} {repo : RArtifactRepo} {T : Terms}

/-- What the links of a repository are after an installation of the manifest. -/
structure ManifestLinks (manifest : RaucManifest) (repo : RArtifactRepo) (start dir : RepoDir) :
    Prop where
  linked : ∀ n, rManifestHasArtifactImage manifest repo.name n = true →
    ∃ d, lastDigest manifest.images repo.name n = some d ∧ LinkedTo dir n d
  unlinked : ∀ m, rManifestHasArtifactImage manifest repo.name m = true → ∀ n, Dotless n →
    rManifestHasArtifactImage manifest repo.name n ≠ true → ∀ d, ¬ LinkedTo dir n d
  untouched : (∀ n, rManifestHasArtifactImage manifest repo.name n ≠ true) → SameLinks start dir

lemma ManifestLinks.same {start dir dir' : RepoDir} (h : ManifestLinks manifest repo start dir)
    (hlinks : SameLinks dir dir') : ManifestLinks manifest repo start dir' where
  linked n hn := by
    obtain ⟨d, hd, hlink⟩ := h.linked n hn
    exact ⟨d, hd, (hlinks _ _).mpr hlink⟩
  unlinked m hm n hn hnot d hlink := h.unlinked m hm n hn hnot d ((hlinks _ _).mp hlink)
  untouched hnone := (h.untouched hnone).trans hlinks

variable {start : RArtifactRepo → RepoDir}

end Handler

end RaucUpdate
