import RaucUpdate.Model.Efi

/-!
# The output of `efibootmgr`

`efi.c` works on the text that `efibootmgr` prints, whatever it is. The regular expressions pick
lines out of it, and the functions of the backend go on from there. They are written for any way to
carry out the four commands, so that they run on the variables of the firmware as well as on a
sequence of texts.
-/

namespace RaucUpdate

open Library

section Lines

/-- What `\S` of a regular expression excludes. -/
def isRegexSpace (c : Char) : Bool :=
  isNewline c || c == '\t' || c == ' ' || (Char.ofNat 0x2000 ≤ c && c ≤ Char.ofNat 0x200a) ||
    [Char.ofNat 0xa0, Char.ofNat 0x1680, Char.ofNat 0x180e, Char.ofNat 0x202f, Char.ofNat 0x205f,
      Char.ofNat 0x3000].contains c

/-- The text ends at the first zero. -/
def stdoutLines (output : String) : List (List Char) :=
  (output.toList.takeWhile (fun c => c != '\x00')).splitOnP isNewline

def dropLiteral : List Char → List Char → Option (List Char)
  | [], line => some line
  | _ :: _, [] => none
  | l :: literal, c :: line => if l = c then dropLiteral literal line else none

/-- `([0-9a-fA-F]{4})$` behind a literal. -/
def readBootnum (literal : String) (line : List Char) : Option String :=
  (dropLiteral literal.toList line).bind fun rest =>
    if isBootnum (String.ofList rest) then some (String.ofList rest) else none

/-- `(\S+)$` behind a literal. -/
def readWord (literal : String) (line : List Char) : Option String :=
  (dropLiteral literal.toList line).bind fun rest =>
    if rest ≠ [] ∧ rest.all (fun c => !isRegexSpace c) then some (String.ofList rest) else none

/-- `^Boot([0-9a-fA-F]{4})[\* ] (.+)$` -/
def readBootentry (line : List Char) : Option (String × String) :=
  match dropLiteral "Boot".toList line with
  | some (a :: b :: c :: d :: mark :: ' ' :: text) =>
    if isBootnum (String.ofList [a, b, c, d]) ∧ (mark = '*' ∨ mark = ' ') ∧ text ≠ [] then
      some (String.ofList [a, b, c, d], String.ofList text)
    else none
  | _ => none

/-- The literals tell the lines apart, so that one line matches at most one of the expressions. -/
def efiLine (line : List Char) : EfiLine :=
  match readBootnum "BootNext: " line, readBootnum "BootCurrent: " line,
      readWord "BootOrder: " line,
      readBootentry line with
  | some num, _, _, _ => .bootNext num
  | _, some num, _, _ => .bootCurrent num
  | _, _, some text, _ => .bootOrder text
  | _, _, _, some (num, text) => .entry num text
  | _, _, _, _ => .other (String.ofList line)

def efiLines (output : String) : List EfiLine := (stdoutLines output).map efiLine

end Lines

section Commands

/-- The commands of the backend, and what is logged when a precondition fails that the caller
survives. -/
structure EfiCommands (σ : Type) where
  efiBootorderGet : Prog σ GError EfiBootorder
  efiBootentryCreate : RaucSlot → Prog σ GError Unit
  efiBootorderSet : String → Prog σ GError Unit
  efiSetBootnext : String → Prog σ GError Unit
  logCritical : String → Prog σ GError Unit

namespace EfiCommands

variable {σ : Type} (commands : EfiCommands σ)

/-- The error of the second listing is already set when it is propagated. -/
def efiBootorderGetAgain : Prog σ GError EfiBootorder := do
  match ← Prog.attempt commands.efiBootorderGet with
  | .ok bootorder => return bootorder
  | .error e =>
    commands.logCritical "g_propagate_error: assertion 'src != NULL' failed"
    Prog.fail e

def efiBootorderPrepare (slot : RaucSlot) : Prog σ GError EfiBootorder := do
  let bootorder ← commands.efiBootorderGet
  if (efiSlotEntry slot bootorder.allEntries).isSome then return bootorder
  else if slot.efiLoader = none ∨ slot.efiCmdline = none then
    Prog.fail ⟨.bootchooserFailed, "Did not find efi entry for bootname '" ++
      bootnameText slot ++ "'!"⟩
  else
    commands.efiBootentryCreate slot
    commands.efiBootorderGetAgain

def efiSetTempPrimary (slot : RaucSlot) : Prog σ GError Unit := do
  let bootorder ← commands.efiBootorderPrepare slot
  match efiSlotEntry slot bootorder.allEntries with
  | none => Prog.abort "assertion failed: (efi_slot_entry != NULL)"
  | some entry =>
    Prog.mapError (GError.prefixed "Setting bootnext failed: ") (commands.efiSetBootnext entry.num)

def efiWriteBootorder (entries : List EfiBootentry) : Prog σ GError Unit := do
  match ← Prog.attempt (commands.efiBootorderSet
    (joinFields ',' (entries.map EfiBootentry.num))) with
  | .error _ => Prog.fail (preconditionFailed "g_propagate_error: assertion 'src != NULL' failed")
  | .ok _ => pure ()

def efiModifyPersistentBootorder (slot : RaucSlot) (prepend : Bool) : Prog σ GError Unit := do
  let bootorder ← commands.efiBootorderPrepare slot
  let kept := bootorder.bootorderEntries.eraseP (namedLike slot)
  if prepend then
    match efiSlotEntry slot bootorder.allEntries with
    | none => Prog.abort "assertion failed: (efi_slot_entry != NULL)"
    | some entry => commands.efiWriteBootorder (entry :: kept)
  else commands.efiWriteBootorder kept

def rEfiSetState (slot : RaucSlot) (good : Bool) : Prog σ GError Unit :=
  commands.efiModifyPersistentBootorder slot good

def rEfiGetPrimary (order : List RaucSlot) : Prog σ GError RaucSlot := do
  let bootorder ← commands.efiBootorderGet
  match (bootorder.bootnext.toList ++ bootorder.bootorderEntries).findSome?
    (efiEntrySlot order) with
  | none => Prog.fail ⟨.bootchooserParseFailed, "Did not find primary boot entry!"⟩
  | some primary => return primary

def rEfiSetPrimary (config : RaucConfig) (slot : RaucSlot) : Prog σ GError Unit :=
  if config.efiUseBootnext then commands.efiSetTempPrimary slot
  else commands.efiModifyPersistentBootorder slot true

def rEfiGetState (slot : RaucSlot) : Prog σ GError Bool := do
  let bootorder ← commands.efiBootorderGet
  return (efiSlotEntry slot bootorder.bootorderEntries).isSome

/-- The loop over the slots, in hash order. It takes the name of the current entry for each of
them. -/
def findCurrentBootname (bootcurrent : Option EfiBootentry) :
    List RaucSlot → Prog σ GError (Option String)
  | [] => Prog.fail ⟨.bootchooserFailed, "Current EFI bootentry not known to rauc!"⟩
  | slot :: rest =>
    match bootcurrent with
    | none => Prog.abort "Segmentation fault: bootcurrent->name"
    | some current =>
      if namedLike slot current then return slot.bootname else findCurrentBootname bootcurrent rest

def rEfiGetCurrentBootname (order : List RaucSlot) : Prog σ GError (Option String) := do
  let bootorder ← commands.efiBootorderGet
  findCurrentBootname bootorder.bootcurrent order

end EfiCommands

/-- The calls of the backend. -/
inductive EfiOperation where
  | getCurrentBootname
  | getPrimary
  | getState (slot : RaucSlot)
  | setState (slot : RaucSlot) (good : Bool)
  | setPrimary (slot : RaucSlot)

/-- A call without its result. -/
def EfiOperation.run {σ : Type} (commands : EfiCommands σ) (config : RaucConfig)
    (order : List RaucSlot) :
    EfiOperation → Prog σ GError Unit
  | .getCurrentBootname => do
    let _ ← commands.rEfiGetCurrentBootname order
  | .getPrimary => do
    let _ ← commands.rEfiGetPrimary order
  | .getState slot => do
    let _ ← commands.rEfiGetState slot
  | .setState slot good => commands.rEfiSetState slot good
  | .setPrimary slot => commands.rEfiSetPrimary config slot

end Commands

section Console

/-- What `efibootmgr` prints, one text for each listing to come, and what was logged. -/
structure EfiConsole where
  listings : Nat → String
  criticals : List String := []

abbrev ConsoleProg : Type → Type := Prog EfiConsole GError

def EfiConsole.next (console : EfiConsole) : EfiConsole :=
  { console with listings := fun n => console.listings (n + 1) }

/-- `efi_bootorder_get` on the text of the listing. -/
def consoleBootorderGet : ConsoleProg EfiBootorder := do
  match ← Prog.ask with
  | some failure => Prog.fail (efiListError failure)
  | none =>
    let console ← Prog.read
    Prog.modify EfiConsole.next
    match parseEfiListing (efiLines (console.listings 0)) with
    | .error e => Prog.fail e
    | .ok bootorder => return bootorder

def consoleBootentryCreate (slot : RaucSlot) : ConsoleProg Unit :=
  match slot.bootname with
  | none => Prog.fail (preconditionFailed "efi_bootentry_create: assertion 'slot->bootname' failed")
  | some _ => do
    Prog.external id (fun _ => ⟨.bootchooserFailed, "Can't resolve device " ++ slot.device ++
      " for EFI boot entry"⟩)
    Prog.external id (fun _ => ⟨.fileError, "Failed to read the partition number of " ++
      slot.device⟩)
    Prog.external id (waitError efibootmgrName)

def consoleCommands : EfiCommands EfiConsole where
  efiBootorderGet := consoleBootorderGet
  efiBootentryCreate := consoleBootentryCreate
  efiBootorderSet := fun _ => Prog.external id (waitError efibootmgrName)
  efiSetBootnext := fun _ => Prog.external id (waitError efibootmgrName)
  logCritical :=
    fun text => Prog.modify (fun console =>
    { console with criticals := console.criticals ++ [text] })

/-- The commands on the variables of the firmware. -/
def firmwareCommands (tool : EfiTool) : EfiCommands EfiVars where
  efiBootorderGet := efiBootorderGet
  efiBootentryCreate := efiBootentryCreate tool
  efiBootorderSet := efiBootorderSet
  efiSetBootnext := efiSetBootnext
  logCritical := fun _ => pure ()

end Console

end RaucUpdate
