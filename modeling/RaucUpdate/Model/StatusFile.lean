import RaucUpdate.Model.Config

/-!
# Status files

`status_file.c`: the slot status is written into a group of a key file, key by key, and read back
by a function of its own. With the global status file all slots share one file with the system
status; each saver reads the file again, drops the groups it owns and writes them anew.
-/

namespace RaucUpdate

open Library

/-- ISO 8601 formatting and parsing of time stamps. -/
structure Iso8601 where
  format : DateTime → String
  parse : String → Option DateTime
  parse_format : ∀ t, parse (format t) = some t
  format_nonempty : ∀ t, format t ≠ ""

section SlotStatus

variable (iso : Iso8601)

/-- `key_file_consume_string` with the error ignored. Every key of a group is read once, so the
removal of the key has no effect here. -/
def statusString (keyFile : KeyFile) (group key : String) : Option String :=
  match keyFile.getString group key with
  | .ok s => if s = "" then none else some s
  | .error _ => none

def statusTimestamp (keyFile : KeyFile) (group key : String) : Option DateTime :=
  (statusString keyFile group key).bind iso.parse

/-- A counter; what is missing, unreadable or too large counts as zero. -/
def statusCount (keyFile : KeyFile) (group key : String) : UInt32 :=
  match keyFile.getUInt64 group key with
  | .ok n => if n > 2 ^ 32 - 1 then 0 else UInt32.ofNat n
  | .error _ => 0

def statusSize (keyFile : KeyFile) (group key : String) : Int64 :=
  match keyFile.getUInt64 group key with
  | .ok n => (UInt64.ofNat n).toInt64
  | .error _ => 0

/-- The checksum of the group; without a digest the old one stays. -/
def statusChecksum (keyFile : KeyFile) (group : String) (old : RaucChecksum) : RaucChecksum :=
  match statusString keyFile group "sha256" with
  | some digest => ⟨.sha256, some digest, statusSize keyFile group "size"⟩
  | none => old

def rSlotClearStatus (slotstatus : RaucSlotStatus) : RaucSlotStatus :=
  { slotstatus with
    bundleCompatible := none, bundleVersion := none, bundleDescription := none, bundleBuild := none,
    bundleHash := none, status := none, checksum :=
      { slotstatus.checksum with digest := none, size := 0 },
    installedTxn := none, installedTimestamp := none, activatedTimestamp := none }

def statusFileGetSlotStatus (keyFile : KeyFile) (group : String) (slotstatus : RaucSlotStatus) :
    RaucSlotStatus :=
  let cleared := rSlotClearStatus slotstatus
  { cleared with
    bundleCompatible := statusString keyFile group "bundle.compatible"
    bundleVersion := statusString keyFile group "bundle.version"
    bundleDescription := statusString keyFile group "bundle.description"
    bundleBuild := statusString keyFile group "bundle.build"
    bundleHash := statusString keyFile group "bundle.hash"
    status := statusString keyFile group "status"
    checksum := statusChecksum keyFile group cleared.checksum
    installedTimestamp := statusTimestamp iso keyFile group "installed.timestamp"
    installedCount := statusCount keyFile group "installed.count"
    activatedTimestamp := statusTimestamp iso keyFile group "activated.timestamp"
    activatedCount := statusCount keyFile group "activated.count" }

def timestampText (t : Option DateTime) : Option String :=
  t.map (fun t => KeyFile.encodeString (iso.format t))

def countText (n : UInt32) : Option String := if n > 0 then some (formatNat 10 n.toNat) else none

/-- The keys of a slot status in the order in which they are written, with the text of each key
or nothing for a key that is removed. -/
def slotStatusTexts (s : RaucSlotStatus) : List (String × Option String) :=
  [("bundle.compatible", stringText s.bundleCompatible),
    ("bundle.version", stringText s.bundleVersion),
    ("bundle.description", stringText s.bundleDescription),
    ("bundle.build", stringText s.bundleBuild),
    ("bundle.hash", stringText s.bundleHash),
    ("status", stringText s.status),
    ("sha256", stringText (recordedDigest s.checksum)),
    ("size", (recordedDigest s.checksum).map
      (fun _ => formatNat 10 s.checksum.size.toUInt64.toNat)),
    ("installed.transaction", stringText s.installedTxn),
    ("installed.timestamp", timestampText iso s.installedTimestamp),
    ("installed.count", countText s.installedCount),
    ("activated.timestamp", timestampText iso s.activatedTimestamp),
    ("activated.count", countText s.activatedCount)]

def statusFileSetSlotStatus (keyFile : KeyFile) (group : String) (slotstatus : RaucSlotStatus) :
    KeyFile :=
  keyFile.putAll group (slotStatusTexts iso slotstatus)

/-- `r_slot_status_write`: the content of the per-slot status file. -/
def rSlotStatusWrite (slotstatus : RaucSlotStatus) : KeyFile :=
  statusFileSetSlotStatus iso Table.empty "slot" slotstatus

/-- `r_slot_status_read` for a file that can be loaded. -/
def rSlotStatusRead (keyFile : KeyFile) (slotstatus : RaucSlotStatus) : RaucSlotStatus :=
  statusFileGetSlotStatus iso keyFile "slot" slotstatus

end SlotStatus

section Shared

/-- What loading the shared status file finds. -/
inductive StatusFile where
  | missing
  | broken
  | content (keyFile : KeyFile)

/-- The key file after an attempt to load it; a file that is missing or broken counts as empty. -/
def StatusFile.load : StatusFile → KeyFile
  | .missing => Table.empty
  | .broken => Table.empty
  | .content keyFile => keyFile

def slotGroup (name : String) : String := "slot." ++ name

/-- `key_file_init_from_shared_status_file`: the groups with the prefix are removed. -/
def keyFileInitFromSharedStatusFile (file : StatusFile) (keepPrefix : String) : KeyFile :=
  file.load.eraseWhere (hasPrefix keepPrefix)

variable (iso : Iso8601)

/-- The loop of `save_slot_status_globally`. -/
def writeSlotStatuses (keyFile : KeyFile) (order : List RaucSlot) : KeyFile :=
  order.foldl (fun f slot =>
    match slot.status with
    | none => f
    | some status => statusFileSetSlotStatus iso f (slotGroup slot.name) status) keyFile

/-- The content `save_slot_status_globally` writes. -/
def saveSlotStatusGlobally (file : StatusFile) (order : List RaucSlot) : KeyFile :=
  writeSlotStatuses iso (keyFileInitFromSharedStatusFile file "slot.") order

/-- The content `r_system_status_save` writes. -/
def rSystemStatusSave (file : StatusFile) (bootId : String) : KeyFile :=
  (keyFileInitFromSharedStatusFile file "system").setString "system" "boot-id" bootId

/-- The loop of `r_slot_status_load_globally` over the groups of the file. -/
def loadSlotGroups (keyFile : KeyFile) : List String → SlotTable → SlotTable
  | [], slots => slots
  | group :: rest, slots =>
    if hasPrefix "slot." group then
      let slotname := String.ofList (group.toList.drop "slot.".toList.length)
      match slots.lookup slotname with
      | none => loadSlotGroups keyFile rest slots
      | some slot =>
        match slot.status with
        | some _ => loadSlotGroups keyFile rest slots
        | none =>
          loadSlotGroups keyFile rest
            (slots.set slotname (slot.withStatus (statusFileGetSlotStatus iso keyFile group {})))
    else loadSlotGroups keyFile rest slots

def rSlotStatusLoadGlobally (file : StatusFile) (slots : SlotTable) : SlotTable :=
  let keyFile := file.load
  (loadSlotGroups iso keyFile keyFile.groups slots).mapValues
    (fun slot => slot.withStatus (slot.status.getD {}))

end Shared

section Savers

/-- The shared status file and the slots with their statuses in memory. -/
structure StatusState where
  file : StatusFile
  slots : SlotTable

abbrev StatusProg : Type → Type := Prog StatusState GError

def saveError : Failure → GError
  | .notStarted message => ⟨.fileError, message⟩
  | .interrupted message => ⟨.fileError, message⟩
  | .killed => ⟨.fileError, "Failed to write file"⟩
  | .exitStatus _ => ⟨.fileError, "Failed to write file"⟩

/-- A file that cannot be parsed is moved away before a new one is written. -/
def setAsideBroken : StatusFile → StatusFile
  | .broken => .missing
  | file => file

/-- Replaces the shared file as a whole, or leaves it when the write fails. -/
def replaceFile (content : StatusState → KeyFile) : StatusProg Unit := do
  Prog.modify (fun st => { st with file := setAsideBroken st.file })
  Prog.external (fun st => { st with file := .content (content st) }) saveError

/-- `r_slot_status_save` with the global status file: all slots are written, in the order in which
the hash table hands out their names. -/
def rSlotStatusSave (iso : Iso8601) (names : List String) : StatusProg Unit :=
  replaceFile (fun st => saveSlotStatusGlobally iso st.file (names.filterMap st.slots.lookup))

def systemStatusSave (bootId : String) : StatusProg Unit :=
  replaceFile (fun st => rSystemStatusSave st.file bootId)

def slotStatusLoad (iso : Iso8601) : StatusProg Unit :=
  Prog.modify (fun st => { st with slots := rSlotStatusLoadGlobally iso st.file st.slots })

/-- What happens to the status file and the statuses while the program runs. -/
inductive StatusOp where
  | update (name : String) (status : RaucSlotStatus)
  | load
  | slotSave (names : List String)
  | systemSave (bootId : String)

/-- A change of the status that a slot has in memory. -/
def updateStatus (name : String) (status : RaucSlotStatus) : StatusProg Unit :=
  Prog.modify (fun st => match st.slots.lookup name with
    | none => st
    | some slot => { st with slots := st.slots.set name (slot.withStatus status) })

def StatusOp.run (iso : Iso8601) : StatusOp → StatusProg Unit
  | .update name status => updateStatus name status
  | .load => slotStatusLoad iso
  | .slotSave names => rSlotStatusSave iso names
  | .systemSave bootId => systemStatusSave bootId

/-- A run of operations after the statuses have been loaded once from the file; any save may
fail. -/
inductive StatusRun (iso : Iso8601) (config : SlotConfig) (file : StatusFile) :
    List StatusOp → StatusState → Prop where
  | start : StatusRun iso config file [] ⟨file, rSlotStatusLoadGlobally iso file config.slots⟩
  | snoc {ops : List StatusOp} {st : StatusState} (hrun : StatusRun iso config file ops st)
      (op : StatusOp) (fates : Nat → Fate)
      (hnames : ∀ names, op = .slotSave names → names.Perm config.slots.keys) :
      StatusRun iso config file (ops ++ [op]) (op.run iso ⟨st, fates⟩).2.state

end Savers

end RaucUpdate
