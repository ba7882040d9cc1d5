import RaucUpdate.Model.Manifest
import RaucUpdate.Model.Config

/-!
# Artifact repositories

`artifacts.c` for repositories without parent slots, the only ones the configuration admits. A
repository is a directory: an artifact is kept under `.artifact-<name>-<digest>`, and a symlink
`<name>` leads to the active one. A tree is not removed at once, and it may have open files. The
object store of composefs repositories is one external step.
-/

namespace RaucUpdate

open Library

section Names

def isHexDigit (c : Char) : Bool := c.isDigit || ('a' ≤ c && c ≤ 'f')

def artifactEntryName (name digest : String) : String := ".artifact-" ++ name ++ "-" ++ digest

def artifactTmpName (name digest : String) : String := artifactEntryName name digest ++ ".tmp"

/-- The regular expression `^\.artifact-(.*)-([0-9a-f]+)$` with its two groups. -/
def matchArtifactEntry (entry : String) : Option (String × String) :=
  if hasPrefix ".artifact-" entry then
    let chars := entry.toList.drop ".artifact-".toList.length
    let text := if chars.getLast?.any isNewline then chars.dropLast else chars
    let digest := text.rtakeWhile isHexDigit
    match (text.rdropWhile isHexDigit).reverse with
    | '-' :: name =>
      if digest ≠ [] ∧ name.all (fun c => !isNewline c) then
        some (String.ofList name.reverse, String.ofList digest)
      else none
    | _ => none
  else none

end Names

/-- Data may be incomplete: it is still being written, or a part of it has been removed. -/
inductive RepoEntry where
  | link (target : String)
  | data (complete : Bool)
  deriving DecidableEq

structure RArtifact where
  name : String
  digest : String
  references : List String := []
  deriving DecidableEq

abbrev RepoDir : Type := Table String RepoEntry

abbrev ArtifactTable : Type := Table String (Table String RArtifact)

/-- The directory of a repository, and at each time it is asked for whether some process has a file
open in an entry, which may depend on the entry being complete. -/
structure RepoDisk where
  dir : Option RepoDir := none
  holds : Nat → String → Bool → Bool := fun _ _ _ => false

/-- A repository on disk and its artifacts in memory. -/
structure RepoState where
  disk : RepoDisk
  artifacts : ArtifactTable

abbrev RepoProg : Type → Type := Prog RepoState GError

/-- The repositories by their path, and the artifacts in memory by repository name. -/
structure ArtifactState where
  disks : String → RepoDisk := fun _ => {}
  artifacts : String → ArtifactTable := fun _ => Table.empty

abbrev ArtifactProg : Type → Type := Prog ArtifactState GError

def ArtifactState.repo (repo : RArtifactRepo) (st : ArtifactState) : RepoState :=
  ⟨st.disks repo.path, st.artifacts repo.name⟩

def ArtifactState.setRepo (repo : RArtifactRepo) (rs : RepoState) (st : ArtifactState) :
    ArtifactState where
  disks := fun path => if path = repo.path then rs.disk else st.disks path
  artifacts := fun name => if name = repo.name then rs.artifacts else st.artifacts name

def onRepo {α : Type} (repo : RArtifactRepo) (p : RepoProg α) : ArtifactProg α :=
  Prog.zoom (ArtifactState.repo repo) (ArtifactState.setRepo repo) p

section FileSystem

def fsError (text : String) : Failure → GError
  | .notStarted message => ⟨.fileError, text ++ message⟩
  | .interrupted message => ⟨.fileError, text ++ message⟩
  | .killed => ⟨.fileError, text ++ "Input/output error"⟩
  | .exitStatus _ => ⟨.fileError, text ++ "Input/output error"⟩

def RepoState.dir (st : RepoState) : RepoDir := st.disk.dir.getD Table.empty

def RepoState.changeDir (change : RepoDir → RepoDir) (st : RepoState) : RepoState :=
  { st with disk := { st.disk with dir := st.disk.dir.map change } }

/-- One operation on the directory of the repository. -/
def changeDir (text : String) (change : RepoDir → RepoDir) : RepoProg Unit :=
  Prog.external (RepoState.changeDir change) (fsError text)

/-- `g_dir_open` with everything the directory holds. -/
def openDir (repo : RArtifactRepo) : RepoProg RepoDir := do
  Prog.external id (fsError ("Error opening directory “" ++ repo.path ++ "”: "))
  let st ← Prog.read
  match st.disk.dir with
  | none =>
    Prog.fail ⟨.fileError, "Error opening directory “" ++ repo.path ++
      "”: No such file or directory"⟩
  | some dir => return dir

def isSymlink (entry : String) : RepoProg Bool := do
  let st ← Prog.read
  match st.dir.lookup entry with
  | some (.link _) => return true
  | _ => return false

def entryExists (entry : String) : RepoProg Bool := do
  let st ← Prog.read
  return st.dir.contains entry

def gAssert (condition : Bool) (text : String) : RepoProg Unit :=
  if condition then return () else Prog.abort ("assertion failed: (" ++ text ++ ")")

/-- `rm_tree`: the files go one by one before the tree is gone. -/
def rmTree (entry : String) : RepoProg Unit := do
  changeDir ("failed to remove tree at " ++ entry ++ ": ") (fun dir => dir.set entry (.data false))
  changeDir ("failed to remove tree at " ++ entry ++ ": ") (fun dir => dir.erase entry)

/-- `r_tree_check_open`, which also fails when a file cannot be checked. -/
def rTreeCheckOpen (entry : String) : RepoProg Bool := do
  Prog.external id (fsError ("Failed to check tree at " ++ entry ++ " for open files: "))
  let st ← Prog.read
  Prog.modify (fun st =>
    { st with disk := { st.disk with holds := fun n => st.disk.holds (n + 1) } })
  match st.dir.lookup entry with
  | some (.data complete) => return st.disk.holds 0 entry complete
  | _ =>
    Prog.fail ⟨.fileError, "Failed to check tree at " ++ entry ++
      " for open files: No such file or directory"⟩

def renameEntry (old new : String) (dir : RepoDir) : RepoDir :=
  match dir.lookup old with
  | none => dir
  | some entry => (dir.erase old).set new entry

def tmpLinkName (name : String) : String := name ++ ".tmp-link"

/-- Makes the new link under another name and puts it in the place of the old one. -/
def replaceLink (target name : String) : RepoProg Unit := do
  if ← entryExists (tmpLinkName name) then
    Prog.fail ⟨.fileError, "Failed to create symlink: File exists"⟩
  else
    changeDir "Failed to create symlink: " (fun dir => dir.set (tmpLinkName name) (.link target))
    match ← Prog.attempt (changeDir "Failed to replace symlink: "
      (renameEntry (tmpLinkName name) name)) with
    | .ok () => return ()
    | .error e =>
      let _ ← Prog.attempt (changeDir "" (fun dir => dir.erase (tmpLinkName name)))
      Prog.fail e

/-- `r_update_symlink`. The empty name is the directory itself, and a name with a slash lies in a
directory that does not exist. -/
def rUpdateSymlink (target name : String) : RepoProg Unit := do
  let st ← Prog.read
  if name = "" then Prog.fail ⟨.fileError, "Failed to read the symbolic link: Invalid argument"⟩
  else if '/' ∈ name.toList then
    Prog.fail ⟨.fileError, "Failed to create symlink: No such file or directory"⟩
  else
    match st.dir.lookup name with
    | some (.data _) =>
      Prog.fail ⟨.fileError, "Failed to read the symbolic link “" ++ name ++ "”: Invalid argument"⟩
    | some (.link old) => if old = target then return () else replaceLink target name
    | none => replaceLink target name

/-- `unlink`, for which a link that does not exist is no error. -/
def removeLink (name : String) : RepoProg Unit := do
  if name = "" then Prog.fail ⟨.fileError, "Failed to remove symlink: Is a directory"⟩
  else if ← entryExists name then
    changeDir "Failed to remove symlink: " (fun dir => dir.erase name)
  else return ()

end FileSystem

section Repo

variable (repo : RArtifactRepo)

def changeArtifacts (change : ArtifactTable → ArtifactTable) : RepoProg Unit :=
  Prog.modify (fun st => { st with artifacts := change st.artifacts })

def insertArtifact (table : ArtifactTable) (artifact : RArtifact) : ArtifactTable :=
  table.set artifact.name (((table.lookup artifact.name).getD Table.empty).set
    artifact.digest artifact)

def findArtifact (table : ArtifactTable) (name digest : String) : Option RArtifact :=
  (table.lookup name).bind (fun inner => inner.lookup digest)

/-- `r_artifact_repo_insert`: neither of the paths may be a symlink, and nothing is replaced. -/
def rArtifactRepoInsert (artifact : RArtifact) : RepoProg Unit := do
  let pathLink ← isSymlink (artifactEntryName artifact.name artifact.digest)
  gAssert (!pathLink) "!g_file_test(artifact->path, G_FILE_TEST_IS_SYMLINK)"
  let tmpLink ← isSymlink (artifactTmpName artifact.name artifact.digest)
  gAssert (!tmpLink) "!g_file_test(artifact->path_tmp, G_FILE_TEST_IS_SYMLINK)"
  let st ← Prog.read
  match findArtifact st.artifacts artifact.name artifact.digest with
  | some _ =>
    Prog.fail ⟨.artifact, "Failed to insert artifact '" ++ artifact.name ++ "' into repo '" ++
      repo.name ++
      "', as it exists already."⟩
  | none => changeArtifacts (fun table => insertArtifact table artifact)

/-- A link of the directory adds a reference to the artifact it leads to; other entries are
ignored. -/
def readLink (table : ArtifactTable) : String × RepoEntry → ArtifactTable
  | (name, .link target) =>
    if hasPrefix "." name then table
    else
      match matchArtifactEntry target with
      | none => table
      | some (aName, aDigest) =>
        match findArtifact table aName aDigest with
        | none => table
        | some artifact =>
          insertArtifact table { artifact with references := artifact.references ++ [""] }
  | (_, .data _) => table

def artifactRepoReadLinks : RepoProg Unit := do
  let dir ← openDir repo
  changeArtifacts (fun table => dir.entries.foldl readLink table)

def prepareEntry (entry : String) : RepoProg Unit :=
  match matchArtifactEntry entry with
  | none => return ()
  | some (name, digest) => rArtifactRepoInsert repo { name, digest }

def composefsStep (text : String) : RepoProg Unit :=
  if repo.type = "composefs" then Prog.external id (fsError text) else return ()

def rArtifactRepoPrepare : RepoProg Unit := do
  let dir ← openDir repo
  changeArtifacts (fun _ => Table.empty)
  Prog.each (prepareEntry repo) dir.keys
  artifactRepoReadLinks repo
  composefsStep repo "Failed to create composefs object store: "

/-- What is neither an artifact nor a symlink is removed. -/
def pruneEntry : String × RepoEntry → RepoProg Unit
  | (_, .link _) => return ()
  | (name, .data _) =>
    if (matchArtifactEntry name).isSome then return ()
    else if repo.type = "composefs" ∧ name = ".rauc-cfs-store" then return ()
    else rmTree name

def removeArtifact (table : ArtifactTable) (name digest : String) : ArtifactTable :=
  let inner := ((table.lookup name).getD Table.empty).erase digest
  if inner.entries = [] then table.erase name else table.set name inner

/-- An artifact without references is removed unless one of its files is open. -/
def pruneArtifact (artifact : RArtifact) : RepoProg Unit :=
  if artifact.references ≠ [] then return ()
  else do
    if ← rTreeCheckOpen (artifactEntryName artifact.name artifact.digest) then return ()
    else
      rmTree (artifactEntryName artifact.name artifact.digest)
      changeArtifacts (fun table => removeArtifact table artifact.name artifact.digest)

def artifactList (table : ArtifactTable) : List RArtifact := table.values.flatMap Table.values

def rArtifactRepoPrune : RepoProg Unit := do
  let dir ← openDir repo
  Prog.each (pruneEntry repo) dir.entries
  let st ← Prog.read
  Prog.each pruneArtifact (artifactList st.artifacts)
  composefsStep repo "Failed to remove unused composefs object: "

/-- The first artifact of the inner table that is referenced; every one looked at has to be
there. -/
def enabledArtifact : List RArtifact → RepoProg (Option RArtifact)
  | [] => return none
  | artifact :: rest => do
    let exist ← entryExists (artifactEntryName artifact.name artifact.digest)
    gAssert exist "g_file_test(artifact->path, G_FILE_TEST_EXISTS)"
    if "" ∈ artifact.references then return some artifact
    else enabledArtifact rest

def commitName (entry : String × Table String RArtifact) : RepoProg Unit := do
  match ← enabledArtifact entry.2.values with
  | some artifact => rUpdateSymlink (artifactEntryName artifact.name artifact.digest) entry.1
  | none => removeLink entry.1

def rArtifactRepoCommit : RepoProg Unit := do
  let st ← Prog.read
  Prog.each commitName st.artifacts.entries
  Prog.external id (fsError ("Failed to sync filesystem of '" ++ repo.path ++ "': "))

def rArtifactsInit (repos : List RArtifactRepo) : ArtifactProg Unit :=
  Prog.each (fun repo => onRepo repo (rArtifactRepoPrepare repo)) repos

def rArtifactsPrune (repos : List RArtifactRepo) : ArtifactProg Unit :=
  Prog.each (fun repo => onRepo repo (rArtifactRepoPrune repo)) repos

/-- `r_artifact_find`; a missing digest fails its precondition. -/
def rArtifactFind (name : String) (digest : Option String) : RepoProg (Option RArtifact) := do
  match digest with
  | none => Prog.abort "r_artifact_find: assertion 'digest' failed"
  | some digest =>
    let st ← Prog.read
    return findArtifact st.artifacts name digest

/-- `r_artifact_deactivate`, which drops one reference. -/
def rArtifactDeactivate (artifact : RArtifact) : RArtifact :=
  { artifact with references := artifact.references.erase "" }

def addReference (artifact : RArtifact) : RArtifact :=
  if "" ∈ artifact.references then artifact
  else { artifact with references := artifact.references ++ [""] }

/-- `r_artifact_activate`: the other artifacts of this name lose the reference. -/
def activateDigest (digest : String) (inner : Table String RArtifact) : Table String RArtifact :=
  inner.mapEntries (fun d artifact => if d = digest then addReference artifact
    else rArtifactDeactivate artifact)

def rArtifactActivate (name digest : String) : RepoProg Unit :=
  changeArtifacts (fun table => table.mapEntries (fun n inner => if n =
    name then activateDigest digest inner else inner))

end Repo

section Install

variable (repo : RArtifactRepo) (image : RaucImage)

/-- Whether the image was converted by this method. A list of methods needs a list of outputs. -/
def artifactGetConverted (method : String) : RepoProg Bool :=
  match image.convert, image.converted with
  | none, _ => return false
  | some _, none => Prog.abort "image->converted is NULL"
  | some convert, some converted =>
    if converted.length = 0 ∨ convert.length ≠ converted.length then return false
    else return convert.contains method

def artifactUnsupported : GError :=
  ⟨.artifact, "Image '" ++ image.slotclass.getD "(null)" ++ "/" ++ image.artifact.getD "(null)" ++
    "' has unsupported format for repo type '" ++ repo.type ++ "'"⟩

/-- The temporary entry comes into being before its content is complete. A slash in it stands for a
directory that does not exist. -/
def fillTmp (name digest text : String) : RepoProg Unit :=
  let tmp := artifactTmpName name digest
  if '/' ∈ tmp.toList then Prog.fail ⟨.fileError, text ++ "No such file or directory"⟩
  else do
    changeDir text (fun dir => dir.set tmp (.data false))
    changeDir text (fun dir => dir.set tmp (.data true))

def filesArtifactInstall (name digest : String) : RepoProg Unit := do
  Prog.external id (fsError "Failed to open file: ")
  fillTmp name digest "Syncing content to disk failed: "

def treesArtifactInstall (name digest filename : String) : RepoProg Unit := do
  if ← artifactGetConverted image "tar-extract" then
    fillTmp name digest "Failed to copy tree (cp -a): "
  else if ← artifactGetConverted image "keep" then
    fillTmp name digest "Failed to extract archive (tar -xf): "
  else
    match ← Prog.ask with
    | none => fillTmp name digest ("Failed to extract archive " ++ filename ++ " (tar -xf): ")
    | some _ => Prog.fail (artifactUnsupported repo image)

def composefsArtifactInstall (name digest : String) : RepoProg Unit := do
  if ← artifactGetConverted image "composefs" then
    fillTmp name digest "Failed to copy tree (cp -a): "
    Prog.external id (fsError "Failed to copy composefs object from bundle to local store: ")
  else Prog.fail (artifactUnsupported repo image)

def copyArtifact (name digest filename : String) : RepoProg Unit :=
  if repo.type = "files" then filesArtifactInstall name digest
  else if repo.type = "trees" then treesArtifactInstall repo image name digest filename
  else if repo.type = "composefs" then composefsArtifactInstall repo image name digest
  else Prog.abort ("Unsupported artifacts repo type '" ++ repo.type ++ "'")

/-- `g_path_is_absolute` of a file name that may be missing. -/
def absoluteFilename : RepoProg String :=
  match image.filename with
  | some filename =>
    if isAbsolute filename then return filename
    else Prog.abort "assertion failed: (g_path_is_absolute(image->filename))"
  | none => Prog.abort "g_path_is_absolute: assertion 'file_name != NULL' failed"

/-- `r_artifact_install`: the content is written under the temporary name and then renamed. -/
def rArtifactInstall (name digest : String) : RepoProg Unit := do
  let exist ← entryExists (artifactEntryName name digest)
  gAssert (!exist) "!g_file_test(artifact->path, G_FILE_TEST_EXISTS)"
  let tmp ← entryExists (artifactTmpName name digest)
  gAssert (!tmp) "!g_file_test(artifact->path_tmp, G_FILE_TEST_EXISTS)"
  let filename ← absoluteFilename image
  copyArtifact repo image name digest filename
  Prog.external id (fsError ("Failed to open artifact repo directory " ++ repo.path ++ ": "))
  Prog.external id (fsError ("Failed to call syncfs for artifact repo '" ++ repo.path ++ "': "))
  changeDir "Renaming artifact failed: " (renameEntry (artifactTmpName name digest)
    (artifactEntryName name digest))
  Prog.external id (fsError ("Failed to call fsync for artifact repo '" ++ repo.path ++ "': "))

def rManifestHasArtifactImage (manifest : RaucManifest) (repo artifact : String) : Bool :=
  manifest.images.any (fun image => image.artifact.isSome && image.slotclass == some repo &&
    image.artifact == some artifact)

def dropReferences (inner : Table String RArtifact) : Table String RArtifact :=
  inner.mapValues (fun artifact => { artifact with references := [] })

/-- `remove_old_artifacts`: the artifacts that the manifest does not have lose their references. -/
def removeOldArtifacts (manifest : RaucManifest) : RepoProg Unit := do
  changeArtifacts (fun table => table.mapEntries (fun name inner =>
    if rManifestHasArtifactImage manifest repo.name name then inner else dropReferences inner))
  rArtifactRepoCommit repo

def installMissing (name digest : String) : Option RArtifact → RepoProg Unit
  | some _ => return ()
  | none => do
    rArtifactRepoInsert repo { name, digest }
    rArtifactInstall repo image name digest

/-- `handle_artifact_install_plan` -/
def handleArtifactInstallPlan (manifest : RaucManifest) (name : String) : RepoProg Unit := do
  removeOldArtifacts repo manifest
  let found ← rArtifactFind name image.checksum.digest
  let digest := image.checksum.digest.getD ""
  installMissing repo image name digest found
  gAssert repo.parentClass.isNone "artifact->repo->parent_class == NULL"
  rArtifactActivate name digest
  rArtifactRepoCommit repo

end Install

end RaucUpdate
