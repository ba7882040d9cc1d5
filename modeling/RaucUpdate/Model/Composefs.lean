import RaucUpdate.Model.InstallSteps

/-!
# Composefs repositories

`artifacts_composefs.c`: an artifact is a directory with an image, and the objects of all images lie
in one store of the repository. Changes of directories reach the disk in their order. The content of
a file does so when the file system is synced, and is lost in a crash before that.
-/

namespace RaucUpdate

open Library

section Images

inductive LcfsType where
  | regular
  | directory
  | other
  deriving DecidableEq

/-- The place of an object in the store, such as `a8/a6f5cb65e83a34`. -/
structure ObjectName where
  dir : String
  file : String
  deriving DecidableEq

def ObjectName.path (object : ObjectName) : String := object.dir ++ "/" ++ object.file

/-- A node of the tree that libcomposefs loads from an image. -/
inductive LcfsNode where
  | node (type : LcfsType) (payload : Option ObjectName) (children : List LcfsNode)

/-- What a child adds before its own children are looked at. -/
def childObjects : LcfsNode → List ObjectName
  | .node type payload _ => if type = .regular then payload.toList else []

mutual

def composefsCollectObjects : LcfsNode → List ObjectName
  | .node _ _ children => collectChildren children

def collectChildren : List LcfsNode → List ObjectName
  | [] => []
  | child :: rest => childObjects child ++ composefsCollectObjects child ++ collectChildren rest

end

/-- A file `image.cfs`, as what it is loaded to. A file that can not be loaded has no tree. -/
structure ImageFile where
  root : Option LcfsNode := none
  synced : Bool := false

/-- Without a tree nothing is collected, and that is no error. -/
def ImageFile.objects (image : ImageFile) : List ObjectName :=
  ((image.root.map composefsCollectObjects).getD []).dedup

def getObjectsSorted (objects : List ObjectName) : List ObjectName :=
  objects.mergeSort (fun a b => decide (a.path ≤ b.path))

end Images

section Repository

/-- A file in the store: only a part of the object, or all of it, which may not have reached the
disk yet. -/
inductive StoredObject where
  | incomplete
  | complete (synced : Bool)
  deriving DecidableEq

/-- A repository with the images in its entries, its store, and the objects in memory. -/
structure CfsState where
  repo : RepoState
  image : String → ImageFile := fun _ => {}
  store : Table ObjectName StoredObject := Table.empty
  localStoreObjects : List ObjectName := []

structure ComposefsRepo extends RArtifactRepo where
  isComposefs : type = "composefs"

abbrev CfsProg : Type → Type := Prog CfsState GError

def CfsState.setRepo (rs : RepoState) (st : CfsState) : CfsState := { st with repo := rs }

def CfsState.setObject (object : ObjectName) (stored : StoredObject) (st : CfsState) : CfsState :=
  { st with store := st.store.set object stored }

def CfsState.eraseObject (object : ObjectName) (st : CfsState) : CfsState :=
  { st with store := st.store.erase object }

def CfsState.setLocal (objects : List ObjectName) (st : CfsState) : CfsState :=
  { st with localStoreObjects := objects }

def CfsState.setImage (entry : String) (image : ImageFile) (st : CfsState) : CfsState :=
  { st with image := fun e => if e = entry then image else st.image e }

def onDirectory {α : Type} (p : RepoProg α) : CfsProg α :=
  Prog.zoom CfsState.repo CfsState.setRepo p

variable (repo : ComposefsRepo)

/-- The part of `r_artifact_repo_prepare` that all types of repositories share. -/
def readArtifacts : RepoProg Unit := do
  let dir ← openDir repo.toRArtifactRepo
  changeArtifacts (fun _ => Table.empty)
  Prog.each (prepareEntry repo.toRArtifactRepo) dir.keys
  artifactRepoReadLinks repo.toRArtifactRepo

def storeDirName : String := ".rauc-cfs-store"

def addStoreDir (dir : RepoDir) : RepoDir :=
  if dir.contains storeDirName then dir else dir.set storeDirName (.data true)

def listObject (object : ObjectName) : CfsProg Unit := do
  Prog.external id (fsError "Error opening directory: ")
  Prog.modify (fun st => st.setLocal (st.localStoreObjects.insert object))

def rComposefsArtifactRepoPrepare : CfsProg Unit := do
  Prog.modify (CfsState.setLocal [])
  onDirectory (changeDir "Failed to create composefs object store: " addStoreDir)
  Prog.external id (fsError "Error opening directory: ")
  let st ← Prog.read
  Prog.each listObject st.store.keys

/-- `r_artifact_repo_prepare` -/
def prepareComposefs : CfsProg Unit := do
  onDirectory (readArtifacts repo)
  rComposefsArtifactRepoPrepare

/-- The part of `r_artifact_repo_prune` that all types of repositories share. -/
def pruneArtifacts : RepoProg Unit := do
  let dir ← openDir repo.toRArtifactRepo
  Prog.each (pruneEntry repo.toRArtifactRepo) dir.entries
  let st ← Prog.read
  Prog.each pruneArtifact (artifactList st.artifacts)

def composefsObjectsFromImage (entry : String) : CfsProg (List ObjectName) := do
  Prog.external id (fsError ("Failed to open file “" ++ entry ++ "/image.cfs”: "))
  let st ← Prog.read
  match st.repo.dir.lookup entry with
  | some (.data _) => return (st.image entry).objects
  | _ =>
    Prog.fail ⟨.fileError, "Failed to open file “" ++ entry ++
      "/image.cfs”: No such file or directory"⟩

def RArtifact.path (artifact : RArtifact) : String :=
  artifactEntryName artifact.name artifact.digest

/-- The loop over the artifacts in memory, which adds up what they require. -/
def collectRequired : List RArtifact → List ObjectName → CfsProg (List ObjectName)
  | [], required => return required
  | artifact :: rest, required => do
    let objects ← composefsObjectsFromImage artifact.path
    collectRequired rest (required ∪ objects)

def removeUnused (required : List ObjectName) (object : ObjectName) : CfsProg Unit :=
  if object ∈ required then return ()
  else do
    let st ← Prog.read
    if st.store.contains object then
      Prog.external (CfsState.eraseObject object)
        (fsError ("Failed to remove unused composefs object '" ++ object.path ++ "': "))
      Prog.modify (fun st => st.setLocal (st.localStoreObjects.filter (· ≠ object)))
    else Prog.fail ⟨.fileError, "Failed to remove unused composefs object '" ++ object.path ++
      "': No such file or directory"⟩

/-- Directories that have become empty are removed at the end. -/
def rComposefsArtifactRepoPrune : CfsProg Unit := do
  let st ← Prog.read
  let required ← collectRequired (artifactList st.repo.artifacts) []
  Prog.each (removeUnused (required.filter (· ∈ st.localStoreObjects))) st.localStoreObjects
  Prog.external id (fsError "Error opening directory: ")
  Prog.external id (fsError "Failed to remove empty composefs object directory: ")

/-- `r_artifact_repo_prune` -/
def pruneComposefs : CfsProg Unit := do
  onDirectory (pruneArtifacts repo)
  rComposefsArtifactRepoPrune

end Repository

section Install

/-- `copy_file` writes to the final name, and replaces nothing. -/
def copyObject (object : ObjectName) : CfsProg Unit := do
  Prog.external id (fsError "Failed to create composefs object store subdir: ")
  let st ← Prog.read
  if st.store.contains object then
    Prog.fail ⟨.fileError,
      "Failed to copy composefs object from bundle to local store: File exists"⟩
  else
    Prog.external (CfsState.setObject object .incomplete)
      (fsError "Failed to copy composefs object from bundle to local store: ")
    Prog.external (CfsState.setObject object (.complete false))
      (fsError "Failed to copy composefs object from bundle to local store: ")
    Prog.modify (fun st => st.setLocal (st.localStoreObjects.insert object))

/-- The image of the bundle is given by what it is loaded to. -/
def rComposefsArtifactInstall (source : Option LcfsNode) (name digest : String) : CfsProg Unit := do
  onDirectory (fillTmp name digest "Failed to copy tree (cp -a): ")
  Prog.modify (CfsState.setImage (artifactTmpName name digest) ⟨source, false⟩)
  let objects ← composefsObjectsFromImage (artifactTmpName name digest)
  let st ← Prog.read
  Prog.each copyObject (getObjectsSorted (objects.filter (· ∉ st.localStoreObjects)))

def syncObject : StoredObject → StoredObject
  | .incomplete => .incomplete
  | .complete _ => .complete true

def CfsState.sync (st : CfsState) : CfsState :=
  { st with
    store := st.store.mapValues syncObject
    image := fun e => { st.image e with synced := true } }

/-- The directory moves with the image in it. -/
def CfsState.renameArtifact (name digest : String) (st : CfsState) : CfsState :=
  (st.setRepo (st.repo.changeDir (renameEntry (artifactTmpName name digest)
    (artifactEntryName name digest)))).setImage
    (artifactEntryName name digest) (st.image (artifactTmpName name digest))

variable (repo : ComposefsRepo) (image : RaucImage)

/-- What `r_artifact_install` asserts, and whether there is an image for this type of repository. -/
def checkComposefsInstall (name digest : String) : RepoProg Bool := do
  let exist ← entryExists (artifactEntryName name digest)
  gAssert (!exist) "!g_file_test(artifact->path, G_FILE_TEST_EXISTS)"
  let tmp ← entryExists (artifactTmpName name digest)
  gAssert (!tmp) "!g_file_test(artifact->path_tmp, G_FILE_TEST_EXISTS)"
  let _ ← absoluteFilename image
  artifactGetConverted image "composefs"

/-- `r_artifact_install` -/
def installComposefs (source : Option LcfsNode) (name digest : String) : CfsProg Unit := do
  if ← onDirectory (checkComposefsInstall image name digest) then
    rComposefsArtifactInstall source name digest
    Prog.external id (fsError ("Failed to open artifact repo directory " ++ repo.path ++ ": "))
    Prog.external CfsState.sync (fsError ("Failed to call syncfs for artifact repo '" ++
      repo.path ++ "': "))
    Prog.external (CfsState.renameArtifact name digest) (fsError "Renaming artifact failed: ")
    Prog.external id (fsError ("Failed to call fsync for artifact repo '" ++ repo.path ++ "': "))
  else Prog.fail (artifactUnsupported repo.toRArtifactRepo image)

/-- An image that goes to the repository, with the name of its artifact and the tree of its
`image.cfs`. -/
structure ComposefsPlan where
  image : RaucImage
  name : String
  source : Option LcfsNode

/-- `handle_artifact_install_plan` -/
def handleComposefsPlan (manifest : RaucManifest) (plan : ComposefsPlan) : CfsProg Unit := do
  let missing ← onDirectory (checkRepo manifest repo.toRArtifactRepo plan.image plan.name)
  if missing then
    installComposefs repo plan.image plan.source plan.name (plan.image.checksum.digest.getD "")
  onDirectory (commitArtifact repo.toRArtifactRepo plan.image plan.name)

end Install

section Runs

/-- What a crash leaves. Nothing in memory survives, and nothing that was not synced has to. -/
structure Crash (before after : CfsState) : Prop where
  entries : ∀ e, after.repo.dir.lookup e = before.repo.dir.lookup e ∨
    (before.image e).synced = false ∧ (∃ b, before.repo.dir.lookup e = some (.data b)) ∧
      ∃ b, after.repo.dir.lookup e = some (.data b)
  images : ∀ e, (before.image e).synced = true → after.image e = before.image e
  objects : ∀ object, before.store.lookup object = some (.complete true) →
    after.store.lookup object = some (.complete true)
  artifacts : after.repo.artifacts = Table.empty
  localStoreObjects : after.localStoreObjects = []

/-- How far a process has come: it has nothing to rely on, it has read the repository, or it has
pruned it since. -/
inductive Phase where
  | idle
  | prepared
  | pruned

/-- The phase in which a step leaves the process. A step that fails or is stopped leaves nothing to
rely on. -/
def phaseAfter (done : Phase) : Outcome GError Unit → Phase
  | .value _ => done
  | .exit _ => .idle

/-- The states of a repository that was empty at first: it is prepared, pruned after that, and
artifacts are installed after that, and each of these steps can fail or be stopped anywhere. A crash
is possible at any time. -/
inductive Reaches (repo : ComposefsRepo) : Phase → CfsState → Prop where
  | start (st : CfsState) (empty : ∀ e b, st.repo.dir.lookup e ≠ some (.data b)) :
    Reaches repo .idle st
  | prepare {phase : Phase} (w : World CfsState) (h : Reaches repo phase w.state) :
      Reaches repo (phaseAfter .prepared (prepareComposefs repo w).1)
        (prepareComposefs repo w).2.state
  | prune {phase : Phase} (w : World CfsState) (h : Reaches repo phase w.state)
      (ready : phase ≠ .idle) :
      Reaches repo (phaseAfter .pruned (pruneComposefs repo w).1) (pruneComposefs repo w).2.state
  | install (w : World CfsState) (h : Reaches repo .pruned w.state) (manifest : RaucManifest)
      (plan : ComposefsPlan) :
      Reaches repo (phaseAfter .pruned (handleComposefsPlan repo manifest plan w).1)
        (handleComposefsPlan repo manifest plan w).2.state
  | crash {phase : Phase} {before after : CfsState} (h : Reaches repo phase before)
      (crashed : Crash before after) :
      Reaches repo .idle after

end Runs

end RaucUpdate
