import RaucUpdate.Proofs.ManifestAccepted
import RaucUpdate.Model.Artifacts

/-!
# The names in an artifact repository

What is told apart by name in the directory of a repository: the entries of the artifacts, their
temporary entries, and the links with their temporary links.
-/

namespace RaucUpdate

open Library

section Entries

def Dotless (name : String) : Prop := '.' ∉ name.toList

instance (name : String) : Decidable (Dotless name) := inferInstanceAs (Decidable (¬ _))

/-- The entry of the artifact is read back as this artifact. -/
def Recognised (name digest : String) : Prop :=
  matchArtifactEntry (artifactEntryName name digest) = some (name, digest)

instance (name digest : String) : Decidable (Recognised name digest) :=
  inferInstanceAs (Decidable (_ = _))

lemma entryName_right_inj {n d d' : String} (h : artifactEntryName n d = artifactEntryName n d') :
    d = d' := by
  have hchars := congrArg String.toList h
  unfold artifactEntryName at hchars
  simp only [String.toList_append] at hchars
  exact String.toList_inj.mp (List.append_cancel_left hchars)

lemma Recognised.inj {n d n' d' : String} (h : Recognised n d) (h' : Recognised n' d')
    (hentry : artifactEntryName n d = artifactEntryName n' d') : n = n' ∧ d = d' := by
  have hmatch := h.symm.trans ((congrArg matchArtifactEntry hentry).trans h')
  simpa using hmatch

/-- What ends in something else than a hexadecimal digit is not an artifact. -/
lemma matchArtifactEntry_of_last {e : String} {body : List Char}
    (hbody : e.toList = ".artifact-".toList ++ (body ++ ['p'])) : matchArtifactEntry e = none := by
  have hline : (['p'].getLast?.any isNewline) = false := by decide
  unfold matchArtifactEntry
  rw [hbody, List.drop_left]
  split_ifs
  · have hlast : (body ++ ['p']).getLast?.any isNewline = false := by
      rw [List.getLast?_concat]
      exact hline
    simp only [hlast, Bool.false_eq_true, if_false]
    rw [List.rdropWhile_concat_neg _ _ _ (by decide), List.reverse_append]
    rfl
  · rfl

lemma matchArtifactEntry_tmp (n d : String) : matchArtifactEntry (artifactTmpName n d) = none := by
  have hbody : (artifactTmpName n d).toList =
      ".artifact-".toList ++ (n.toList ++ '-' :: d.toList ++ ['.', 't', 'm'] ++ ['p']) := by
    simp [artifactTmpName, artifactEntryName, String.toList_append]
  exact matchArtifactEntry_of_last hbody

lemma hasPrefix_iff (pre s : String) : hasPrefix pre s = true ↔ ∃ rest, s.toList =
    pre.toList ++ rest := by
  unfold hasPrefix
  rw [List.isPrefixOf_iff_prefix]
  exact ⟨fun ⟨rest, h⟩ => ⟨rest, h.symm⟩, fun ⟨rest, h⟩ => ⟨rest, h.symm⟩⟩

/-- What is hidden from the reading of links. -/
def Hidden (entry : String) : Prop := hasPrefix "." entry = true

lemma hidden_iff (entry : String) : Hidden entry ↔ ∃ rest, entry.toList = '.' :: rest :=
  hasPrefix_iff "." entry

lemma hidden_entryName (n d : String) : Hidden (artifactEntryName n d) := by
  rw [hidden_iff]
  exact ⟨"artifact-".toList ++ n.toList ++
    '-' :: d.toList, by simp [artifactEntryName, String.toList_append]⟩

lemma hidden_tmpName (n d : String) : Hidden (artifactTmpName n d) := by
  rw [hidden_iff]
  exact ⟨"artifact-".toList ++ n.toList ++ '-' :: d.toList ++ ".tmp".toList,
    by simp [artifactTmpName, artifactEntryName, String.toList_append]⟩

lemma hidden_of_match {entry : String} {artifact : String × String}
    (h : matchArtifactEntry entry = some artifact) :
    Hidden entry := by
  unfold matchArtifactEntry at h
  split_ifs at h with hpre
  · obtain ⟨rest, hrest⟩ := (hasPrefix_iff _ _).mp hpre
    exact (hidden_iff entry).mpr ⟨"artifact-".toList ++ rest, hrest⟩

/-- A name that a link can have. -/
structure LinkName (name : String) : Prop where
  dotless : Dotless name
  nonempty : name ≠ ""

lemma Dotless.not_hidden {name : String} (h : Dotless name) : ¬ Hidden name := by
  rw [hidden_iff]
  rintro ⟨rest, hrest⟩
  exact h (by simp [hrest])

lemma toList_tmpLinkName (name : String) :
    (tmpLinkName name).toList = name.toList ++ ".tmp-link".toList := by
  simp [tmpLinkName, String.toList_append]

lemma LinkName.tmpLink_not_hidden {name : String} (h : LinkName name) :
    ¬ Hidden (tmpLinkName name) := by
  rw [hidden_iff]
  rintro ⟨rest, hrest⟩
  rw [toList_tmpLinkName] at hrest
  cases hname : name.toList with
  | nil => exact h.nonempty (String.toList_inj.mp hname)
  | cons c cs =>
    rw [hname, List.cons_append, List.cons.injEq] at hrest
    apply h.dotless
    rw [hname, hrest.1]
    exact List.mem_cons_self

lemma Dotless.ne_tmpLink {name : String} (h : Dotless name) (n : String) :
    name ≠ tmpLinkName n := by
  rintro rfl
  apply h
  rw [toList_tmpLinkName]
  exact List.mem_append_right _ (by decide)

lemma Dotless.ne_tmpName {name : String} (h : Dotless name) (n d : String) :
    name ≠ artifactTmpName n d := by
  rintro rfl
  exact h.not_hidden (hidden_tmpName n d)

lemma Recognised.ne_tmpName {n d : String} (h : Recognised n d) (n' d' : String) :
    artifactEntryName n d ≠ artifactTmpName n' d' := by
  intro heq
  have hnone := matchArtifactEntry_tmp n' d'
  rw [← heq, h] at hnone
  exact absurd hnone (by simp)

end Entries

section Accepted

/-- The name of an artifact that the manifest parser accepts has no dot. -/
lemma AcceptedImage.dotless {group name : String} {image : RaucImage}
    (h : AcceptedImage group image)
    (hname : image.artifact = some name) : Dotless name := by
  obtain ⟨t, ht, -, hartifact, -⟩ := h.target
  unfold imageTarget at ht
  split at ht
  · rename_i target variant hsplit
    obtain rfl := Option.some.inj ht
    intro hdot
    have hsecond : (splitAtMost '.' 3 group)[1]? = some target := by
      rw [hsplit]
      rfl
    have hmem : name ∈ splitAtMost '/' 2 target := List.mem_of_getElem? (hartifact.trans hname)
    exact not_mem_of_splitAtMost (by omega) hsecond (mem_of_mem_splitAtMost hmem hdot)
  · exact absurd ht (by simp)

end Accepted

end RaucUpdate
