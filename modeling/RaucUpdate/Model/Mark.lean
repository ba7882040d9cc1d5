import RaucUpdate.Model.Boot

/-!
# Requests to the boot chooser

`mark.c` selects slots by an identifier and marks them, and `install.c` asks for the boot states of
all slots. Every caller uses the message of the error that a failed request left, without a look at
the pointer.
-/

namespace RaucUpdate

open Library

variable {κ : Type}

def getSlotsByIdentifier (order : List RaucSlot) (identifier : String) :
    Except GError (List RaucSlot) :=
  let booted := order.find? (fun slot => decide (slot.state = .booted))
  if identifier = "booted" then
    match booted with
    | some booted => .ok [booted]
    | none => .error ⟨.slotNoSlotWithStateBooted, "Did not find booted slot"⟩
  else if identifier = "other" then
    match booted with
    | none => .error ⟨.slotNoSlotWithStateBooted,
        "Did not find booted slot needed to find another bootable slot of the same class"⟩
    | some booted =>
      match order.filter (fun slot => decide (slot.sclass = booted.sclass ∧ slot.parent = none ∧
          slot.bootname ≠ none ∧
          slot.name ≠ booted.name)) with
      | [] => .error ⟨.slotFailed, "No other bootable slot of the same class found"⟩
      | slots => .ok slots
  else
    match splitFields '.' identifier with
    | [sclass, _] =>
      match order.find? (fun slot => decide (slot.name = identifier)) with
      | none =>
        .error ⟨.slotFailed, "No slot with class " ++ sclass ++ " and name " ++
          identifier ++ " found"⟩
      | some slot =>
        if slot.bootname = none then
          .error ⟨.slotFailed, "Slot " ++ slot.name ++ " has no bootname set"⟩
        else .ok [slot]
    | _ => .error ⟨.slotFailed, "Invalid slot name format: '" ++ identifier ++ "'"⟩

inductive BootRequest where
  | getState (slot : RaucSlot)
  | setState (slot : RaucSlot) (good : Bool)
  | getPrimary
  | setPrimary (slot : RaucSlot)

variable (ctx : BootContext κ)

def BootRequest.run : BootRequest → BootProg κ Unit
  | .getState slot => do
    let _ ← rBootGetState ctx slot
    return ()
  | .setState slot good => rBootSetState ctx slot good
  | .getPrimary => do
    let _ ← rBootGetPrimary ctx
    return ()
  | .setPrimary slot => rBootSetPrimary ctx slot

def nullMessage : String := "Segmentation fault: ierror->message"

/-- What the callers make of the error: `r_mark_good`, `r_mark_bad` and `r_mark_active` report a new
one, the others print it. -/
def BootRequest.report (e : GError) : BootRequest → GError
  | .getState slot => e.prefixed ("Failed to get boot state of '" ++ slot.name ++ "': ")
  | .getPrimary => e.prefixed "Failed getting primary slot: "
  | .setState slot good => ⟨.installMarkBootable,
      "Failed marking slot " ++ slot.name ++ " as " ++ (if good then "good" else "bad") ++
        ":  " ++ e.message⟩
  | .setPrimary slot =>
    ⟨.installMarkBootable, "failed to activate slot " ++ slot.name ++ ": " ++ e.message⟩

/-- A request as its callers make it. -/
def BootRequest.reported (request : BootRequest) : BootProg κ Unit := do
  match ← Prog.attempt (request.run ctx) with
  | .ok () => return ()
  | .error e => if e.code = .unset then Prog.abort nullMessage else Prog.fail (request.report e)

/-- The slots that callers pass: `determine_boot_states` skips slots without bootname, `mark_run`
marks selected slots, and an installation marks a target slot with a bootname. -/
def BootRequest.Passed : BootRequest → Prop
  | .getState slot => slot ∈ ctx.config.slots.values ∧ slot.bootname ≠ none
  | .getPrimary => True
  | .setState slot _ | .setPrimary slot =>
    (∃ identifier slots, getSlotsByIdentifier ctx.order identifier = .ok slots ∧ slot ∈ slots) ∨
      (slot ∈ ctx.config.slots.values ∧ slot.bootname ≠ none)

section Marking

def BootRequest.slot : BootRequest → Option RaucSlot
  | .getState slot | .setState slot _ | .setPrimary slot => some slot
  | .getPrimary => none

/-- The state of the boot loader, with a record of the requests that were made and of those that
succeeded. -/
structure MarkLog (κ : Type) where
  boot : BootState κ
  passed : List BootRequest := []
  marked : List BootRequest := []

abbrev MarkProg (κ : Type) : Type → Type := Prog (MarkLog κ) GError

/-- What `mark_run` hands back on success. On failure there is the message alone. -/
structure MarkReply where
  slotName : String
  message : String

/-- `r_mark_good`, `r_mark_bad` and `r_mark_active`, without the timestamp that the last one
saves. -/
def markRequest (request : BootRequest) : MarkProg κ (Except String Unit) := do
  Prog.modify (fun log => { log with passed := log.passed ++ [request] })
  match ← Prog.attempt (Prog.zoom MarkLog.boot (fun boot log => { log with boot })
    (request.reported ctx)) with
  | .error e => return .error e.message
  | .ok () =>
    Prog.modify (fun log => { log with marked := log.marked ++ [request] })
    return .ok ()

/-- Goes on with `next` if the first part succeeded, and returns its message otherwise. -/
def markThen {α β : Type} (first : MarkProg κ (Except String β))
    (next : MarkProg κ (Except String α)) :
    MarkProg κ (Except String α) := do
  match ← first with
  | .error message => return .error message
  | .ok _ => next

/-- The loop of `mark_run` over the slots to mark as bad. -/
def markAllBad : List RaucSlot → MarkProg κ (Except String Unit)
  | [] => return .ok ()
  | slot :: rest => markThen (markRequest ctx (.setState slot false)) (markAllBad rest)

/-- The only slot of the list. -/
def markSingle (slots : List RaucSlot) (several : String)
    (mark : RaucSlot → MarkProg κ (Except String Unit)) :
    MarkProg κ (Except String Unit) :=
  match slots with
  | [] => Prog.abort "Segmentation fault: g_list_first(slots)->data"
  | [slot] => mark slot
  | _ => return .error several

/-- The names with a space behind each, but for the last one. -/
def slotNames (slots : List RaucSlot) : String :=
  let text := slots.foldl (fun text slot => text ++ slot.name ++ " ") ""
  if 1 < text.utf8ByteSize then String.ofList text.toList.dropLast else text

def markedReply (slots : List RaucSlot) (state : String) : MarkReply :=
  ⟨slotNames slots, "marked slot(s) " ++ slotNames slots ++ " as " ++ state⟩

/-- The branches of `mark_run` for the states, with what follows the good mark of the booted
slot. -/
def markSlots (late : MarkProg κ (Except String Unit)) (state identifier : String)
    (slots : List RaucSlot) :
    MarkProg κ (Except String Unit) :=
  if state = "good" then
    markSingle slots "cannot mark multiple slots as good" (fun slot =>
      markThen (markRequest ctx (.setState slot true)) (if identifier = "booted" then late
        else return .ok ()))
  else if state = "bad" then markAllBad ctx slots
  else if state = "active" then
    markSingle slots "cannot activate multiple slots" (fun slot =>
      markRequest ctx (.setPrimary slot))
  else return .error ("unknown subcommand " ++ state)

def markRunThen (late : MarkProg κ (Except String Unit)) (state identifier : String) :
    MarkProg κ (Except String MarkReply) :=
  match getSlotsByIdentifier ctx.order identifier with
  | .error e => return .error e.message
  | .ok slots =>
    markThen (markSlots ctx late state identifier slots) (return .ok (markedReply slots state))

/-- The call of `mark_run` for the other slots, which with this state does not call it again. -/
def markOtherBad : MarkProg κ (Except String Unit) :=
  markThen (markRunThen ctx (return .ok ()) "bad" "other") (return .ok ())

def markRun (preventLateFallback : Bool) (state identifier : String) :
    MarkProg κ (Except String MarkReply) :=
  markRunThen ctx (if preventLateFallback then markOtherBad ctx else return .ok ()) state identifier

end Marking

end RaucUpdate
