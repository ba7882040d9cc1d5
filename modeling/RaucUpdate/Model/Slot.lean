import RaucUpdate.Library.KeyFile
import RaucUpdate.Library.Programs

/-!
# Slots

The records of `slot.h` and `checksum.h`, the reported errors, and the slot functions of
`slot.c` that only read the configuration. A parent pointer is the name of the parent slot.
-/

namespace RaucUpdate

open Library

/-- The code `unset` stands for a call that returns without a value and leaves its error unset. -/
inductive ErrorCode where
  | unset
  | keyFile (e : KeyFileError)
  | keyFileParse | keyFileInvalidValue | keyFileKeyNotFound
  | utilsInvalidEnvKey | utilsSemverParse
  | numberInvalid | numberOutOfBounds
  | configInvalidFormat | configParent | configParentLoop | configChildHasBootname
  | configDuplicateBootname | configDuplicateClass | configSlotType | configInvalidDevice
  | configArtifactRepoType | configShellParse
  | slotNoConfig | slotNoBootslot | slotNoSlotWithStateBooted | slotFailed
  | bootchooserFailed | bootchooserParseFailed | bootchooserNotSupported
  | spawnFailed | spawnExit
  | manifestCompatible | manifestParse | manifestCheck | manifestInvalidImageType
  | bundleSignature | bundleKeyring | bundleUnsafe | bundlePayload | bundleFormat
  | signatureParse | signatureInvalid
  | nbdRead | nbdShutdown
  | installFailed | installCompatMismatch | installVersionMismatch | installRejected
  | installMarkBootable | installMarkNonbootable | installTargetGroup | installMounted
  | updateFailed | updateNoHandler
  | hashIndexSize | hashIndexNotFound | hashIndexModified
  | artifact
  | cryptFailed
  | manifestChecksum | bundleVerity | bundleCrypt | bundleUnsupported
  | fileError
  deriving DecidableEq

structure GError where
  code : ErrorCode
  message : String
  deriving DecidableEq

/-- A failed precondition: the call logs the text and returns, and there is no error for the
caller. -/
def preconditionFailed (text : String) : GError := ⟨.unset, text⟩

def GError.prefixed (text : String) (e : GError) : GError := { e with message := text ++ e.message }

inductive ChecksumType where
  | md5 | sha1 | sha256 | sha512 | sha384
  deriving DecidableEq

structure RaucChecksum where
  type : ChecksumType := .md5
  digest : Option String := none
  size : Int64 := 0
  deriving DecidableEq

/-- Seconds since the epoch, as a `GDateTime` in UTC. -/
abbrev DateTime : Type := Int

structure RaucSlotStatus where
  bundleCompatible : Option String := none
  bundleVersion : Option String := none
  bundleDescription : Option String := none
  bundleBuild : Option String := none
  bundleHash : Option String := none
  status : Option String := none
  checksum : RaucChecksum := {}
  installedTxn : Option String := none
  installedTimestamp : Option DateTime := none
  installedCount : UInt32 := 0
  activatedTimestamp : Option DateTime := none
  activatedCount : UInt32 := 0
  deriving DecidableEq

inductive SlotState where
  | unknown | active | inactive | booted
  deriving DecidableEq

structure RaucSlot where
  name : String
  sclass : String
  device : String
  description : Option String := none
  type : String := "raw"
  extraMkfsOpts : Option (List String) := none
  bootname : Option String := none
  allowMounted : Bool := false
  readonly : Bool := false
  installSame : Bool := true
  extraMountOpts : Option String := none
  resize : Bool := false
  regionStart : Nat := 0
  regionSize : Nat := 0
  sizeLimit : Nat := 0
  efiLoader : Option String := none
  efiCmdline : Option String := none
  parentName : Option String := none
  dataDirectory : Option String := none
  parent : Option String := none
  state : SlotState := .unknown
  status : Option RaucSlotStatus := none
  deriving DecidableEq

def RaucSlot.withParent (slot : RaucSlot) (parent : String) : RaucSlot :=
  { slot with parent := some parent }

@[simp] lemma RaucSlot.withParent_name (slot : RaucSlot) (p : String) :
    (slot.withParent p).name = slot.name := rfl

@[simp] lemma RaucSlot.withParent_bootname (slot : RaucSlot) (p : String) :
    (slot.withParent p).bootname = slot.bootname := rfl

@[simp] lemma RaucSlot.withParent_parent (slot : RaucSlot) (p : String) :
    (slot.withParent p).parent = some p := rfl

def RaucSlot.withStatus (slot : RaucSlot) (status : RaucSlotStatus) : RaucSlot :=
  { slot with status := some status }

@[simp] lemma RaucSlot.withStatus_name (slot : RaucSlot) (st : RaucSlotStatus) :
    (slot.withStatus st).name = slot.name := rfl

@[simp] lemma RaucSlot.withStatus_status (slot : RaucSlot) (st : RaucSlotStatus) :
    (slot.withStatus st).status = some st := rfl

@[simp] lemma RaucSlot.withStatus_withStatus (slot : RaucSlot) (st st' : RaucSlotStatus) :
    (slot.withStatus st).withStatus st' = slot.withStatus st' := rfl

abbrev SlotTable : Type := Table String RaucSlot

/-- The table `supported_slot_types`, with the flag that says whether a slot can be mounted. -/
def supportedSlotTypes : List (String × Bool) :=
  [("raw", false), ("ext4", true), ("ubifs", true), ("ubivol", false), ("nand", false),
    ("nor", false),
    ("boot-emmc", false), ("boot-mbr-switch", false), ("boot-gpt-switch", false), ("vfat", true),
    ("boot-raw-fallback", false)]

def rSlotIsValidType (type : String) : Bool := supportedSlotTypes.any (fun t => t.1 == type)

def rSlotIsMountable (slot : RaucSlot) : Bool :=
  ((supportedSlotTypes.find? (fun t => t.1 == slot.type)).map Prod.snd).getD false

/-- The slot a parent pointer refers to. -/
def parentOf (slots : SlotTable) (slot : RaucSlot) : Option RaucSlot :=
  slot.parent.bind slots.lookup

/-- The loop of `r_slot_get_parent_root`, with a bound on the number of pointers followed. -/
def parentRootAux (slots : SlotTable) : Nat → RaucSlot → RaucSlot
  | 0, base => base
  | steps + 1, base =>
    match parentOf slots base with
    | none => base
    | some p => parentRootAux slots steps p

def rSlotGetParentRoot (slots : SlotTable) (slot : RaucSlot) : RaucSlot :=
  parentRootAux slots slots.entries.length slot

/-- `g_ptr_array_remove_fast`: the last element takes the place of the removed one. -/
def removeFast (x : String) (l : List String) : List String :=
  match l.idxOf? x, l.getLast? with
  | some i, some z => (l.set i z).dropLast
  | _, _ => l

/-- Collects names without repetition as the callers of `g_ptr_array_remove_fast` do. -/
def collectDistinct : List String → List String → List String
  | acc, [] => acc
  | acc, x :: rest => collectDistinct (removeFast x acc ++ [x]) rest

def rSlotGetRootClasses (order : List RaucSlot) : List String :=
  collectDistinct [] ((order.filter (fun s => s.parent.isNone)).map RaucSlot.sclass)

/-- What every slot table accepted by the configuration parser satisfies. -/
structure SlotConfig where
  slots : SlotTable
  name_key : ∀ e ∈ slots.entries, e.2.name = e.1
  bootname_unique : ∀ s ∈ slots.values, ∀ t ∈ slots.values, ∀ b,
    s.bootname = some b → t.bootname = some b → s = t
  bootname_nonempty : ∀ s ∈ slots.values, s.bootname ≠ some ""
  bootname_plain : ∀ s ∈ slots.values, ∀ b, s.bootname = some b → ' ' ∉ b.toList ∧ '\t' ∉ b.toList
  child_no_bootname : ∀ s ∈ slots.values, s.parent ≠ none → s.bootname = none
  parent_is_root : ∀ s ∈ slots.values, ∀ p, s.parent = some p →
    ∃ r, slots.lookup p = some r ∧ r.parent = none

lemma SlotConfig.name_of_lookup (c : SlotConfig) {k : String} {s : RaucSlot}
    (h : c.slots.lookup k = some s) : s.name = k :=
  c.name_key (k, s) ((Table.lookup_eq_some_iff _ _ _).mp h)

lemma SlotConfig.mem_values_iff (c : SlotConfig) (s : RaucSlot) :
    s ∈ c.slots.values ↔ c.slots.lookup s.name = some s := by
  constructor
  · intro hs
    obtain ⟨⟨k, s'⟩, he, rfl⟩ := List.mem_map.mp hs
    have hlookup := (Table.lookup_eq_some_iff _ _ _).mpr he
    rw [c.name_of_lookup hlookup]
    exact hlookup
  · intro hs
    exact List.mem_map.mpr ⟨_, (Table.lookup_eq_some_iff _ _ _).mp hs, rfl⟩

lemma SlotConfig.eq_of_name_eq (c : SlotConfig) {s t : RaucSlot} (hs : s ∈ c.slots.values)
    (ht : t ∈ c.slots.values) (h : s.name = t.name) : s = t := by
  rw [c.mem_values_iff] at hs ht
  rw [h, ht] at hs
  exact (Option.some.inj hs).symm

lemma SlotConfig.values_nodup (c : SlotConfig) : c.slots.values.Nodup := by
  refine (List.nodup_map_iff_inj_on (List.Nodup.of_map _ c.slots.nodup)).mpr ?_
  rintro ⟨k, s⟩ he ⟨k', s'⟩ he' hsnd
  have hk := c.name_key (k, s) he
  have hk' := c.name_key (k', s') he'
  simp only at hk hk' hsnd
  rw [← hk, ← hk', hsnd]

end RaucUpdate
