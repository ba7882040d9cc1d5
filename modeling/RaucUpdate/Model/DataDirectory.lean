import RaucUpdate.Model.Artifacts

/-!
# The data directory of a slot

The functions of `slot.c` that create, move and remove the subdirectories of a slot's data
directory. The state is the content of the data directory, if it exists; the trees below it are of
any type.
-/

namespace RaucUpdate

open Library

abbrev DataProg (α : Type) : Type → Type := Prog (Option (Table String α)) GError

/-- The order in which `g_dir_read_name` goes through a directory. -/
structure ReadOrder (α : Type) where
  names : Table String α → List String
  names_perm : ∀ t, (names t).Perm t.keys

/-- The tree of a new directory, and what a removal that fails leaves of a tree. -/
structure TreeKinds (α : Type) where
  fresh : α
  damaged : α → α

variable {α : Type} (order : ReadOrder α) (kinds : TreeKinds α) (slot : RaucSlot)

/-- `rm_tree` for a subdirectory. -/
def rmSubdirectory (name : String) : DataProg α Unit := do
  match ← Prog.ask with
  | none => Prog.modify (fun content => content.map (fun entries => entries.erase name))
  | some failure =>
    Prog.modify (fun content =>
      content.map (fun entries => entries.mapEntries (fun n tree => if n =
        name then kinds.damaged tree else tree)))
    Prog.fail (fsError "Failed to remove tree: " failure)

/-- The name of the subdirectory in `r_slot_get_checksum_data_directory`. -/
def checksumSubdirectory (checksum : Option RaucChecksum) : String :=
  let digest := checksum.bind RaucChecksum.digest
  let digest := digest.or (slot.status.bind (fun status => status.checksum.digest))
  "hash-" ++ digest.getD "unknown"

/-- What follows in `r_slot_move_checksum_data_directory` once the new name is free; a missing old
name is ignored. -/
def renameSubdirectory (old new : String) : DataProg α Unit := do
  let content ← Prog.read
  match content.bind (fun entries => entries.lookup old) with
  | none => return ()
  | some tree =>
    Prog.external (fun content => content.map (fun entries => (entries.erase old).set new tree))
      (fsError ("Failed to move data directory to " ++ new ++ ": "))

/-- `r_slot_move_checksum_data_directory` -/
def slotMoveChecksumDataDirectory (oldDigest newDigest : Option String) : DataProg α Unit :=
  match slot.dataDirectory, oldDigest with
  | some dir, some oldDigest => do
    let new := "hash-" ++ newDigest.getD "unknown"
    let content ← Prog.read
    if content.any (fun entries => entries.contains new) then
      Prog.mapError (GError.prefixed ("Failed to remove existing data directory " ++
        buildFilename dir new ++ ": "))
        (rmSubdirectory kinds new)
    renameSubdirectory ("hash-" ++ oldDigest) new
  | _, _ => return ()

/-- The name that `r_slot_clean_data_directory` keeps. A missing digest is formatted as `(null)`. -/
def expectedDirectory : String :=
  match slot.status with
  | some status => "hash-" ++ status.checksum.digest.getD "(null)"
  | none => "hash-" ++ "unknown"

def isPending : Bool := slot.status.any (fun status => status.status == some "pending")

/-- A name that begins with `hash-`, but does not match the current hash. The failure of a removal
is ignored. -/
def cleanEntry (expected name : String) : DataProg α Unit :=
  if hasPrefix "hash-" name ∧ name ≠ expected then do
    let _ ← Prog.attempt (rmSubdirectory kinds name)
    return ()
  else return ()

/-- `r_slot_clean_data_directory` -/
def slotCleanDataDirectory : DataProg α Unit :=
  match slot.dataDirectory with
  | none => return ()
  | some dir =>
    if !isAbsolute dir then
      Prog.abort "assertion failed: (g_path_is_absolute(slot->data_directory))"
    else if isPending slot then return ()
    else do
      let failure ← Prog.ask
      let content ← Prog.read
      match failure, content with
      | none, some entries =>
        Prog.each (cleanEntry kinds (expectedDirectory slot)) (order.names entries)
      | _, _ => return ()

end RaucUpdate
