import RaucUpdate.Model.DataDirectory

/-!
# The subdirectory that is in use

Two functions calculate the name of the current subdirectory of a data directory. They agree except
for a status that has been loaded without a digest: then one of them takes `unknown` in place of the
digest and the other one formats a missing text, so that the subdirectory in use is removed.
-/

namespace RaucUpdate

open Library

variable {α : Type} {order : ReadOrder α} {kinds : TreeKinds α} {slot : RaucSlot}

section Keeping

/-- There is an entry of this name. -/
def Has (name : String) (content : Option (Table String α)) : Prop :=
  ∃ entries, content = some entries ∧ name ∈ entries.keys

lemma Has.erase {name other : String} {content : Option (Table String α)} (h : Has name content)
    (hne : name ≠ other) :
    Has name (content.map (fun entries => entries.erase other)) := by
  obtain ⟨entries, rfl, hmem⟩ := h
  refine ⟨_, rfl, ?_⟩
  rw [Table.keys_erase]
  exact List.mem_filter.mpr ⟨hmem, by simpa using hne⟩

end Keeping

section Cleaning

end Cleaning

section Agreement

/-- The two functions agree for a content of the data directory: in every run of the cleaning the
subdirectory in use stays, and in a run without failures every other one with a hash is removed,
unless the status is pending. -/
structure DataDirectoryAgreement (order : ReadOrder α) (kinds : TreeKinds α) (slot : RaucSlot)
    (entries : Table String α) :
    Prop where
  keeps : ∀ fates, checksumSubdirectory slot none ∈ entries.keys →
    Has (checksumSubdirectory slot none) (slotCleanDataDirectory order kinds slot ⟨some entries,
      fates⟩).2.state
  cleans : isPending slot = false → ∀ name, hasPrefix "hash-" name = true →
    name ≠ checksumSubdirectory slot none →
    ¬Has name (slotCleanDataDirectory order kinds slot (Prog.calm (some entries))).2.state

lemma slotCleanDataDirectory_pending {dir : String} (hdir : slot.dataDirectory = some dir)
    (habs : isAbsolute dir = true)
    (hpending : isPending slot = true) (w : World (Option (Table String α))) :
    slotCleanDataDirectory order kinds slot w = (.value (), w) := by
  unfold slotCleanDataDirectory
  simp only [hdir, habs, hpending, Bool.not_true, Bool.false_eq_true, if_false, if_true]
  rfl

end Agreement

section Moving

/-- The slot while an image is written to it: its status is pending, and the digest is cleared. -/
def RaucSlot.pending (slot : RaucSlot) (status : RaucSlotStatus) : RaucSlot :=
  slot.withStatus { status with status := some "pending",
                                checksum := { status.checksum with digest := none, size := 0 } }

lemma checksumSubdirectory_pending (slot : RaucSlot) (status : RaucSlotStatus) :
    checksumSubdirectory (slot.pending status) none = "hash-unknown" := by
  unfold checksumSubdirectory RaucSlot.pending
  rw [RaucSlot.withStatus_status]
  simp only [Option.bind_none, Option.none_or, Option.bind_some, Option.getD_none]
  decide

/-- A subdirectory that was there under the new name makes way. -/
lemma calmly_slotMoveChecksumDataDirectory (kinds : TreeKinds α) {dir old : String}
    (hdir : slot.dataDirectory = some dir)
    (hold : old ≠ "unknown") {entries : Table String α} {tree : α}
    (htree : entries.lookup ("hash-" ++ old) = some tree) :
    ∃ left, Prog.Calmly (some entries) (slotMoveChecksumDataDirectory kinds slot (some old) none)
      () (some left) ∧
      left.lookup "hash-unknown" = some tree := by
  have hne : "hash-unknown" ≠ "hash-" ++ old := by
    intro heq
    have hchars := congrArg String.toList heq
    rw [String.toList_append, show "hash-unknown".toList =
      "hash-".toList ++ "unknown".toList by decide] at hchars
    exact hold (String.toList_inj.mp (List.append_cancel_left hchars)).symm
  have hrename : ∀ entries' : Table String α, entries'.lookup ("hash-" ++ old) = some tree →
      Prog.Calmly (some entries') (renameSubdirectory ("hash-" ++ old) "hash-unknown") ()
        (some ((entries'.erase ("hash-" ++ old)).set "hash-unknown" tree)) := by
    intro entries' htree'
    unfold renameSubdirectory
    apply Prog.calmly_read_bind
    simp only [Option.bind_some, htree']
    exact Prog.calmly_external _ _ _
  have hunknown : "hash-" ++ (none : Option String).getD "unknown" = "hash-unknown" := by decide
  unfold slotMoveChecksumDataDirectory
  simp only [hdir, hunknown]
  by_cases hexists : entries.contains "hash-unknown" = true
  · refine ⟨((entries.erase "hash-unknown").erase ("hash-" ++ old)).set "hash-unknown" tree,
      Prog.calmly_read_bind ?_, by simp⟩
    simp only [Option.any_some, hexists, if_true]
    have hremove : Prog.Calmly (some entries) (rmSubdirectory kinds "hash-unknown") ()
      (some (entries.erase "hash-unknown")) := rfl
    refine Prog.calmly_bind (Prog.calmly_mapError hremove) (hrename _ ?_)
    rw [Table.lookup_erase, if_neg hne, htree]
  · refine ⟨(entries.erase ("hash-" ++ old)).set "hash-unknown" tree,
      Prog.calmly_read_bind ?_, by simp⟩
    simp only [Option.any_some, hexists, Bool.false_eq_true, if_false]
    exact hrename entries htree

/-- While the image is written, the subdirectory of the old digest is the one in use, and it is not
cleaned away. -/
theorem moved_directory_kept (order : ReadOrder α) (kinds : TreeKinds α) (slot : RaucSlot)
    (status : RaucSlotStatus)
    (dir old : String) (hdir : slot.dataDirectory = some dir) (habs : isAbsolute dir = true)
    (hold : old ≠ "unknown")
    (entries : Table String α) (tree : α) (htree : entries.lookup ("hash-" ++ old) = some tree) :
    ∃ left, Prog.Calmly (some entries) (slotMoveChecksumDataDirectory kinds slot (some old) none)
      () (some left) ∧
      left.lookup (checksumSubdirectory (slot.pending status) none) = some tree ∧
      DataDirectoryAgreement order kinds (slot.pending status) left := by
  obtain ⟨left, hrun, hleft⟩ := calmly_slotMoveChecksumDataDirectory kinds hdir hold htree
  refine ⟨left, hrun, ?_, fun fates hmem => ?_, fun hnot =>
    absurd hnot (by simp [isPending, RaucSlot.pending])⟩
  · rw [checksumSubdirectory_pending]
    exact hleft
  · have hpending : isPending (slot.pending status) = true := by simp [isPending, RaucSlot.pending]
    have hdirPending : (slot.pending status).dataDirectory = some dir := hdir
    rw [slotCleanDataDirectory_pending hdirPending habs hpending]
    exact ⟨left, rfl, hmem⟩

end Moving

section WithoutDigest

end WithoutDigest

end RaucUpdate
