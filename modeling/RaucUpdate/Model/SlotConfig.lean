import RaucUpdate.Model.Utils

/-!
# The slot sections of the system configuration

`parse_slots` of `config_file.c`: it reads every group `slot.<class>.<index>`, resolves the parent
names to pointers and shortens chains of parents to their root.
-/

namespace RaucUpdate

open Library

/-- The order in which a hash table hands out its keys. -/
structure HashOrder where
  keys : SlotTable → List String
  keys_perm : ∀ slots, (keys slots).Perm slots.keys

/-- What the parser takes from outside: the current directory, the shell splitting of the mkfs
options, and the hash orders of `g_hash_table_get_keys` and of the iterator. -/
structure ParseContext where
  cwd : String
  shellParseArgv : String → Except String (List String)
  keyOrder : HashOrder
  iterOrder : HashOrder

/-- The values of the `[system]` section that `parse_slots` reads. -/
structure SystemSection where
  dataDirectory : Option String := none
  systemBootloader : Option String := none

section Slot

variable (ctx : ParseContext) (filename : Option String) (system : SystemSection)

def parseDevice (group : String) : ParseProg String := do
  let device ← consumeRequired group "device"
  return resolvePath ctx.cwd filename device

def parseSlotType (group name : String) : ParseProg String := do
  let type ← consumeOptional group "type"
  let type := type.getD "raw"
  if rSlotIsValidType type then
    return type
  else
    Prog.fail ⟨.configSlotType,
      "Unsupported slot type '" ++ type ++ "' for slot " ++ name ++ " selected in system config"⟩

/-- The checks of the device path that depend on the slot type. -/
def checkDevice (group type device : String) : ParseProg Unit :=
  if type = "jffs2" ∧ ¬"/dev/".toList.isPrefixOf device.toList then
    Prog.fail ⟨.configInvalidDevice, group ++ ": device must be located in /dev/ for jffs2"⟩
  else if type = "boot-emmc" ∧
      ("boot0".toList.isSuffixOf device.toList ∨ "boot1".toList.isSuffixOf device.toList) then
    Prog.fail ⟨.configInvalidDevice,
      group ++ ": 'device' must refer to the eMMC base device, not the boot partition"⟩
  else return ()

def parseExtraMkfsOpts (group : String) : ParseProg (Option (List String)) := do
  match ← consumeOptional group "extra-mkfs-opts" with
  | none => return none
  | some value =>
    match ctx.shellParseArgv value with
    | .error message =>
      Prog.fail ⟨.configShellParse, "Failed to parse extra-mkfs-opts: " ++ message⟩
    | .ok argv => return some argv

/-- The bootname: without white space, and not seen on another slot. -/
def parseBootname (group name : String) (bootnames : List String) : ParseProg (Option String) := do
  match ← consumeOptional group "bootname" with
  | none => return none
  | some bootname =>
    match valueCheckTabWhitespace bootname with
    | .error e => Prog.fail (e.prefixed ("Invalid bootname for slot " ++ name ++ ": "))
    | .ok () =>
      if bootname ∈ bootnames then
        Prog.fail ⟨.configDuplicateBootname, "Bootname '" ++ bootname ++
          "' is set on more than one slot"⟩
      else
        return some bootname

/-- `install-same` with its two deprecated names, all removed afterwards. -/
def parseInstallSame (group : String) : ParseProg Bool := do
  let keyFile ← Prog.read
  let result : Except KeyFileError Bool := match keyFile.getBoolean group "install-same" with
    | .error (.keyNotFound _ _) =>
      match keyFile.getBoolean group "force-install-same" with
      | .error (.keyNotFound _ _) =>
        match keyFile.getBoolean group "ignore-checksum" with
        | .error (.keyNotFound _ _) => .ok true
        | r => r
      | r => r
    | r => r
  match result with
  | .error e => Prog.fail (ofKeyFileError e)
  | .ok installSame =>
    Prog.modify (fun f => ((f.removeKey group "install-same").removeKey group
      "force-install-same").removeKey
      group "ignore-checksum")
    return installSame

/-- A region option is mandatory for the slot types that switch between two regions. -/
def parseRegion (group type key : String) : ParseProg Nat := do
  if type = "boot-mbr-switch" ∨ type = "boot-gpt-switch" ∨ type = "boot-raw-fallback" then
    match ← keyFileConsumeBinarySuffixedString group key with
    | .error e => Prog.fail (e.prefixed ("mandatory for " ++ type ++ ": "))
    | .ok n => return n
  else
    return 0

def parseSizeLimit (group type : String) : ParseProg Nat := do
  if type = "boot-emmc" then
    match ← keyFileConsumeBinarySuffixedString group "size-limit" with
    | .error ⟨.keyFile (.keyNotFound _ _), _⟩ => return 0
    | .error e => Prog.fail e
    | .ok n => return n
  else
    return 0

def parseEfiOption (group key : String) : ParseProg (Option String) :=
  if system.systemBootloader = some "efi" then consumeOptional group key else return none

/-- One slot section. `bootnames` holds the bootnames seen so far. -/
def parseSlot (group sclass index : String) (bootnames : List String) : ParseProg RaucSlot := do
  let name := sclass ++ "." ++ index
  let dataDirectory := system.dataDirectory.map (fun dir => buildFilename dir group)
  let description ← consumeOptional group "description"
  let device ← parseDevice ctx filename group
  let type ← parseSlotType group name
  checkDevice group type device
  let extraMkfsOpts ← parseExtraMkfsOpts ctx group
  let bootname ← parseBootname group name bootnames
  let parentName ← consumeOptional group "parent"
  let allowMounted ← consumeBoolean group "allow-mounted" false
  let readonly ← consumeBoolean group "readonly" false
  let installSame ← parseInstallSame group
  let extraMountOpts ← consumeOptional group "extra-mount-opts"
  let resize ← consumeBoolean group "resize" false
  let regionStart ← parseRegion group type "region-start"
  let regionSize ← parseRegion group type "region-size"
  let sizeLimit ← parseSizeLimit group type
  let efiLoader ← parseEfiOption system group "efi-loader"
  let efiCmdline ← parseEfiOption system group "efi-cmdline"
  checkRemainingKeys group
  Prog.modify (fun f => f.removeGroup group)
  return {
    name, sclass, device, description, type, extraMkfsOpts, bootname, allowMounted, readonly,
    installSame, extraMountOpts, resize, regionStart, regionSize, sizeLimit, efiLoader, efiCmdline,
    parentName, dataDirectory }

/-- The loop over the groups of the key file. -/
def parseSlotGroups : List String → List String → SlotTable → ParseProg SlotTable
  | [], _, slots => return slots
  | group :: rest, bootnames, slots =>
    match splitFields '.' group with
    | "slot" :: parts =>
      match parts with
      | [sclass, index] => do
        let slot ← parseSlot ctx filename system group sclass index bootnames
        parseSlotGroups rest (slot.bootname.toList ++ bootnames) (slots.set slot.name slot)
      | _ => Prog.fail ⟨.configInvalidFormat, "Invalid slot name format: " ++ group⟩
    | _ => parseSlotGroups rest bootnames slots

end Slot

section Parents

/-- The loop that turns parent names into parent pointers. -/
def addParentPointers : List String → SlotTable → Except GError SlotTable
  | [], slots => .ok slots
  | key :: rest, slots =>
    match slots.lookup key with
    | none => addParentPointers rest slots
    | some slot =>
      match slot.parentName with
      | none => addParentPointers rest slots
      | some parentName =>
        match slots.lookup parentName with
        | none => .error ⟨.configParent, "Parent slot '" ++ parentName ++ "' not found!"⟩
        | some parent =>
          if slot.bootname.isSome then
            .error ⟨.configChildHasBootname, "Child slot '" ++ slot.name ++ "' has bootname set"⟩
          else
            addParentPointers rest (slots.set key (slot.withParent parent.name))

/-- The inner loop of `fix_grandparent_links`; it gives up when the steps are used up. -/
def realParent (slots : SlotTable) : Nat → RaucSlot → Option RaucSlot
  | steps, slot =>
    match parentOf slots slot, steps with
    | none, _ => some slot
    | some _, 0 => none
    | some parent, steps + 1 => realParent slots steps parent

def fixGrandparentLinks : List String → SlotTable → Except GError SlotTable
  | [], slots => .ok slots
  | key :: rest, slots =>
    match slots.lookup key with
    | none => fixGrandparentLinks rest slots
    | some slot =>
      match parentOf slots slot with
      | none => fixGrandparentLinks rest slots
      | some parent =>
        match realParent slots 100 parent with
        | none => .error ⟨.configParentLoop, "Slot '" ++ slot.name ++ "' has a parent loop!"⟩
        | some realparent =>
          fixGrandparentLinks rest (slots.set key (slot.withParent realparent.name))

def parseSlots (ctx : ParseContext) (filename : Option String) (system : SystemSection) :
    ParseProg SlotTable := do
  let keyFile ← Prog.read
  let slots ← parseSlotGroups ctx filename system keyFile.groups [] Table.empty
  match addParentPointers (ctx.keyOrder.keys slots) slots with
  | .error e => Prog.fail e
  | .ok linked =>
    match fixGrandparentLinks (ctx.iterOrder.keys linked) linked with
    | .error e => Prog.fail e
    | .ok slots => return slots

end Parents

end RaucUpdate
