import RaucUpdate.Model.Utils

/-!
# The system configuration

The artifact repositories of `config_file.c` and the part of the configuration that the modelled
functions read.
-/

namespace RaucUpdate

open Library

section ArtifactRepos

structure RArtifactRepo where
  name : String
  path : String
  type : String
  description : Option String := none
  parentClass : Option String := none
  dataDirectory : Option String := none
  deriving DecidableEq

/-- The table `supported_repo_types`, with the composefs support compiled in. -/
def supportedRepoTypes : List String := ["files", "trees", "composefs"]

def rArtifactRepoIsValidType (type : String) : Bool := supportedRepoTypes.contains type

/-- The repositories of an accepted configuration. -/
structure ArtifactRepos where
  repos : Table String RArtifactRepo := Table.empty
  name_key : ∀ e ∈ repos.entries, e.2.name = e.1 := by decide
  type_valid : ∀ r ∈ repos.values, rArtifactRepoIsValidType r.type = true := by decide
  no_parent : ∀ r ∈ repos.values, r.parentClass = none := by decide

variable (cwd : String) (filename dataDirectory : Option String)

def parseRepoType (group name : String) : ParseProg String := do
  let type ← consumeRequired group "type"
  if rArtifactRepoIsValidType type then return type
  else Prog.fail ⟨.configArtifactRepoType,
    "Unsupported artifacts repo type '" ++ type ++ "' for repo " ++ name ++
      " selected in system config"⟩

def parseRepo (group name : String) : ParseProg RArtifactRepo := do
  let description ← consumeOptional group "description"
  let path ← consumeRequired group "path"
  let type ← parseRepoType group name
  let parentClass ← consumeOptional group "parent-class"
  if parentClass.isSome then
    Prog.fail ⟨.configParent, "Parent slot classes are not yet supported for artifact repos"⟩
  else
    checkRemainingKeys group
    Prog.modify (fun f => f.removeGroup group)
    return { name, path := resolvePath cwd filename path, type, description,
             dataDirectory := dataDirectory.map (fun dir => buildFilename dir group) }

/-- The loop over the groups of the key file. -/
def parseRepoGroups : List String → Table String RArtifactRepo →
    ParseProg (Table String RArtifactRepo)
  | [], repos => return repos
  | group :: rest, repos =>
    match splitFields '.' group with
    | "artifacts" :: parts =>
      match parts with
      | [name] => do
        let repo ← parseRepo cwd filename dataDirectory group name
        parseRepoGroups rest (repos.set repo.name repo)
      | _ => Prog.fail ⟨.configInvalidFormat, "Invalid artifacts repo format: " ++ group⟩
    | _ => parseRepoGroups rest repos

def parseArtifactRepos : ParseProg (Table String RArtifactRepo) := do
  let keyFile ← Prog.read
  parseRepoGroups cwd filename dataDirectory keyFile.groups Table.empty

end ArtifactRepos

/-- The slots visited in hash order; the first class that names a repository is reported. -/
def checkUniqueSlotclasses (order : List RaucSlot) (repos : Table String RArtifactRepo) :
    Except GError Unit :=
  match order.find? (fun slot => repos.contains slot.sclass) with
  | some slot => .error ⟨.configDuplicateClass,
      "Existing slot class '" ++ slot.sclass ++ "' cannot be used as artifact repo name!"⟩
  | none => .ok ()

def noArtifactRepos : ArtifactRepos := {}

/-- The part of the system configuration that the modelled functions read. -/
structure RaucConfig extends SlotConfig where
  systemBootloader : Option String := none
  bootDefaultAttempts : Int32 := 0
  bootAttemptsPrimary : Int32 := 0
  efiUseBootnext : Bool := false
  customBootloaderBackend : Option String := none
  systemVariant : Option String := none
  mountPrefix : String := "/mnt/rauc/"
  statusfilePath : String := "per-slot"
  activateInstalled : Bool := true
  artifactRepos : ArtifactRepos := noArtifactRepos
  unique_slotclasses : ∀ s ∈ slots.values, artifactRepos.repos.lookup s.sclass = none := by decide

def bootableSlot (name bootname : String) : RaucSlot :=
  { name := name, sclass := "rootfs", device := "/dev/" ++ name, bootname := some bootname }

/-- The smallest redundant system: two bootable root slots `A` and `B`. -/
def pairConfig : RaucConfig where
  slots := ⟨[("rootfs.0", bootableSlot "rootfs.0" "A"),
    ("rootfs.1", bootableSlot "rootfs.1" "B")], by decide⟩
  name_key := by decide
  bootname_unique := by decide
  bootname_nonempty := by decide
  bootname_plain := by decide
  child_no_bootname := by decide
  parent_is_root := by decide

end RaucUpdate
