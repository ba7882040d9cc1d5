import RaucUpdate.Model.Bootchooser

/-!
# The EFI backend

`efi.c` reads the boot entries, `BootOrder` and `BootNext` from the listing of `efibootmgr` and
writes them with `--bootorder` and `--bootnext`. An entry belongs to the slot whose bootname is its
label. The regular expressions of the source pick lines out of the listing; here a line is given by
what it holds.
-/

namespace RaucUpdate

open Library

section Listing

def isBootnum (s : String) : Bool := s.toList.length == 4 && s.toList.all
    (fun c => (digitVal c).any (fun d => d < 16))

/-- The number of a boot entry: four hexadecimal digits. -/
abbrev Bootnum : Type := { s : String // isBootnum s = true }

/-- The variables of the firmware. The order is kept as the text that `--bootorder` was given. -/
structure EfiVars where
  entries : Table Bootnum String
  bootOrder : String
  bootNext : Option Bootnum := none
  bootCurrent : Option Bootnum := none

inductive EfiLine where
  | bootNext (num : String)
  | bootCurrent (num : String)
  | bootOrder (text : String)
  | entry (num text : String)
  | other (text : String)

def efiListing (vars : EfiVars) : List EfiLine :=
  (vars.bootNext.map (fun num => EfiLine.bootNext num.val)).toList ++
    (vars.bootCurrent.map (fun num => EfiLine.bootCurrent num.val)).toList ++
    [.bootOrder vars.bootOrder] ++ vars.entries.entries.map (fun e => .entry e.1.val e.2)

structure EfiBootentry where
  num : String
  name : String
  deriving DecidableEq

/-- Anything behind a tab is path information. -/
def entryName (text : String) : String := String.ofList (text.toList.takeWhile (fun c => c != '\t'))

def matchEntry : EfiLine → Option EfiBootentry
  | .entry num text => if text = "" then none else some ⟨num, entryName text⟩
  | _ => none

def matchBootNext : EfiLine → Option String
  | .bootNext num => some num
  | _ => none

def matchBootCurrent : EfiLine → Option String
  | .bootCurrent num => some num
  | _ => none

/-- The order has to be one word. -/
def matchBootOrder : EfiLine → Option String
  | .bootOrder text =>
    if text ≠ "" ∧ text.toList.all (fun c => !isNumberSpace c) then some text else none
  | _ => none

def getEfiEntryByBootnum (entries : List EfiBootentry) (bootnum : String) : Option EfiBootentry :=
  entries.find? (fun e => decide (bootnum = e.num))

structure EfiBootorder where
  bootorderEntries : List EfiBootentry
  allEntries : List EfiBootentry
  bootnext : Option EfiBootentry
  bootcurrent : Option EfiBootentry

def parseEfiListing (lines : List EfiLine) : Except GError EfiBootorder :=
  let entries := lines.filterMap matchEntry
  if entries = [] then .error ⟨.bootchooserFailed, "Regex matching failed!"⟩
  else
    match lines.findSome? matchBootOrder with
    | none => .error ⟨.bootchooserFailed, "unable to obtain boot order!"⟩
    | some matched =>
      .ok { bootorderEntries := (splitFields ',' matched).filterMap (getEfiEntryByBootnum entries)
            allEntries := entries
            bootnext := (lines.findSome? matchBootNext).bind (getEfiEntryByBootnum entries)
            bootcurrent := (lines.findSome? matchBootCurrent).bind (getEfiEntryByBootnum entries) }

end Listing

section Backend

abbrev EfiProg : Type → Type := Prog EfiVars GError

def efibootmgrName : String := "efibootmgr"

def efiListError : Failure → GError
  | .interrupted message => ⟨.spawnFailed, efibootmgrName ++ " communication failed: " ++ message⟩
  | failure => commandError efibootmgrName failure

/-- How `efibootmgr --create-only` numbers a new entry; it fails when all numbers are taken. -/
structure EfiTool where
  freshNum : Table Bootnum String → Option Bootnum
  unused : ∀ entries num, freshNum entries = some num → entries.lookup num = none

def efiBootorderGet : EfiProg EfiBootorder := do
  match ← Prog.ask with
  | some failure => Prog.fail (efiListError failure)
  | none =>
    let vars ← Prog.read
    match parseEfiListing (efiListing vars) with
    | .error e => Prog.fail e
    | .ok bootorder => return bootorder

def efiBootorderSet (order : String) : EfiProg Unit :=
  Prog.external (fun vars => { vars with bootOrder := order }) (waitError efibootmgrName)

/-- The callers take the number from the listing, so it always is one. -/
def EfiVars.setNext (vars : EfiVars) (bootnumber : String) : EfiVars :=
  if h : isBootnum bootnumber = true then { vars with bootNext := some ⟨bootnumber, h⟩ } else vars

def efiSetBootnext (bootnumber : String) : EfiProg Unit :=
  Prog.external (fun vars => vars.setNext bootnumber) (waitError efibootmgrName)

variable (tool : EfiTool)

def efiBootentryCreate (slot : RaucSlot) : EfiProg Unit :=
  match slot.bootname with
  | none => Prog.fail (preconditionFailed "efi_bootentry_create: assertion 'slot->bootname' failed")
  | some bootname => do
    Prog.external id (fun _ => ⟨.bootchooserFailed, "Can't resolve device " ++ slot.device ++
      " for EFI boot entry"⟩)
    Prog.external id (fun _ => ⟨.fileError, "Failed to read the partition number of " ++
      slot.device⟩)
    match ← Prog.ask with
    | some failure => Prog.fail (waitError efibootmgrName failure)
    | none =>
      let vars ← Prog.read
      match tool.freshNum vars.entries with
      | none => Prog.fail (waitError efibootmgrName (.exitStatus 5))
      | some num => Prog.modify (fun vars => { vars with entries := vars.entries.set num bootname })

/-- The entry has the bootname of the slot as its label. -/
def namedLike (slot : RaucSlot) (efi : EfiBootentry) : Bool :=
  decide (some efi.name = slot.bootname)

def efiSlotEntry (slot : RaucSlot) (entries : List EfiBootentry) : Option EfiBootentry :=
  entries.find? (namedLike slot)

def efiBootorderPrepare (slot : RaucSlot) : EfiProg EfiBootorder := do
  let bootorder ← efiBootorderGet
  if (efiSlotEntry slot bootorder.allEntries).isSome then return bootorder
  else if slot.efiLoader = none ∨ slot.efiCmdline = none then
    Prog.fail ⟨.bootchooserFailed, "Did not find efi entry for bootname '" ++
      bootnameText slot ++ "'!"⟩
  else
    efiBootentryCreate tool slot
    efiBootorderGet

def efiSetTempPrimary (slot : RaucSlot) : EfiProg Unit := do
  let bootorder ← efiBootorderPrepare tool slot
  match efiSlotEntry slot bootorder.allEntries with
  | none => Prog.abort "assertion failed: (efi_slot_entry != NULL)"
  | some entry =>
    Prog.mapError (GError.prefixed "Setting bootnext failed: ") (efiSetBootnext entry.num)

/-- The error of `efi_bootorder_set` goes to a null pointer, so there is none to report. -/
def efiWriteBootorder (entries : List EfiBootentry) : EfiProg Unit := do
  match ← Prog.attempt (efiBootorderSet (joinFields ',' (entries.map EfiBootentry.num))) with
  | .error _ => Prog.fail (preconditionFailed "g_propagate_error: assertion 'src != NULL' failed")
  | .ok _ => pure ()

/-- Only the first entry with the bootname is taken out of the order. -/
def efiModifyPersistentBootorder (slot : RaucSlot) (prepend : Bool) : EfiProg Unit := do
  let bootorder ← efiBootorderPrepare tool slot
  let kept := bootorder.bootorderEntries.eraseP (namedLike slot)
  if prepend then
    match efiSlotEntry slot bootorder.allEntries with
    | none => Prog.abort "assertion failed: (efi_slot_entry != NULL)"
    | some entry => efiWriteBootorder (entry :: kept)
  else efiWriteBootorder kept

def rEfiSetState (slot : RaucSlot) (good : Bool) : EfiProg Unit :=
  efiModifyPersistentBootorder tool slot good

/-- The slots in hash order that carry the label of the entry. -/
def efiEntrySlot (order : List RaucSlot) (entry : EfiBootentry) : Option RaucSlot :=
  order.find? (fun slot => namedLike slot entry)

def rEfiGetPrimary (order : List RaucSlot) : EfiProg RaucSlot := do
  let bootorder ← efiBootorderGet
  match (bootorder.bootnext.toList ++ bootorder.bootorderEntries).findSome?
    (efiEntrySlot order) with
  | none => Prog.fail ⟨.bootchooserParseFailed, "Did not find primary boot entry!"⟩
  | some primary => return primary

def rEfiSetPrimary (config : RaucConfig) (slot : RaucSlot) : EfiProg Unit :=
  if config.efiUseBootnext then efiSetTempPrimary tool slot
  else efiModifyPersistentBootorder tool slot true

def rEfiGetState (slot : RaucSlot) : EfiProg Bool := do
  let bootorder ← efiBootorderGet
  return (efiSlotEntry slot bootorder.bootorderEntries).isSome

end Backend

/-- The two calls that change the variables. -/
inductive EfiCall where
  | setState (slot : RaucSlot) (good : Bool)
  | setPrimary (slot : RaucSlot)

def EfiCall.slot : EfiCall → RaucSlot
  | .setState slot _ => slot
  | .setPrimary slot => slot

def EfiCall.run (tool : EfiTool) (config : RaucConfig) : EfiCall → EfiProg Unit
  | .setState slot good => rEfiSetState tool slot good
  | .setPrimary slot => rEfiSetPrimary tool config slot

/-- A sequence of successful calls for bootable slots, each allowed in the state before it. -/
inductive EfiRun (tool : EfiTool) (config : RaucConfig) (Allowed : EfiVars → EfiCall → Prop)
    (vars₀ : EfiVars) :
    List EfiCall → EfiVars → Prop where
  | nil : EfiRun tool config Allowed vars₀ [] vars₀
  | snoc {calls : List EfiCall} {vars : EfiVars}
      (hrun : EfiRun tool config Allowed vars₀ calls vars)
      (call : EfiCall) (fates : Nat → Fate) (hslot : call.slot ∈ config.slots.values)
      (hbootname : call.slot.bootname ≠ none) (hallowed : Allowed vars call)
      (hsuccess : (call.run tool config ⟨vars, fates⟩).1 = .value ()) :
      EfiRun tool config Allowed vars₀ (calls ++ [call])
        (call.run tool config ⟨vars, fates⟩).2.state

end RaucUpdate
