import RaucUpdate.Model.SlotConfig

/-!
# Slot states and the target install group

`determine_slot_states`, `select_inactive_slot_class_member` and `determine_target_install_group`
of `install.c`. A list of keys or of slots stands for the order in which the hash table hands
them out. A failed assertion is reported as the text of the assertion.
-/

namespace RaucUpdate

open Library

section States

/-- The comparison of a slot with the boot slot of the context: by bootname, by name, and by the
resolved device, which is the plain device when it cannot be resolved. -/
def bootslotMatches (realpath : String → Option String) (bootslot : String) (s : RaucSlot) : Bool :=
  decide (s.bootname = some bootslot ∨ s.name = bootslot ∨
    (realpath s.device).getD s.device = bootslot)

/-- The state a slot gets once the booted slot is known. -/
def stateWhenBooted (booted s : RaucSlot) : SlotState :=
  if s.name = booted.name then .booted
  else if s.parent = some booted.name then .active
  else .inactive

def determineSlotStates (realpath : String → Option String) (slotlist : List String)
    (slots : Option SlotTable) (bootslot : Option String) : Except GError SlotTable :=
  match slots, bootslot with
  | none, _ => .error ⟨.slotNoConfig, "No slot configuration found"⟩
  | _, none => .error ⟨.slotNoBootslot,
      "Could not find any root device or rauc slot information in /proc/cmdline"⟩
  | some slots, some bootslot =>
    match (slotlist.filterMap slots.lookup).find? (bootslotMatches realpath bootslot) with
    | none =>
      if bootslot = "_external_" then
        .ok (slots.mapValues (fun s => { s with state := .inactive }))
      else
        .error ⟨.slotNoSlotWithStateBooted, "Did not find booted slot (matching '" ++
          bootslot ++ "')"⟩
    | some booted => .ok (slots.mapValues (fun s => { s with state := stateWhenBooted booted s }))

end States

section TargetGroup

variable (perSlot : Bool)

/-- The loop of `select_inactive_slot_class_member` with the oldest candidate so far. -/
def selectLoop (rootclass : String) :
    Option (RaucSlot × DateTime) → List RaucSlot → Except String (Option RaucSlot)
  | candidate, [] => .ok (candidate.map Prod.fst)
  | candidate, s :: rest =>
    if s.state ≠ .inactive then selectLoop rootclass candidate rest
    else if s.sclass ≠ rootclass then selectLoop rootclass candidate rest
    else if perSlot then .ok (some s)
    else
      match s.status with
      | none => .error "assertion failed: (iterslot->status != NULL)"
      | some status =>
        if status.status = some "failed" then .ok (some s)
        else
          match status.installedTimestamp, candidate with
          | none, _ => .ok (some s)
          | some stamp, none => selectLoop rootclass (some (s, stamp)) rest
          | some stamp, some (c, oldest) =>
            if stamp < oldest then selectLoop rootclass (some (s, stamp)) rest
            else selectLoop rootclass (some (c, oldest)) rest

def selectInactiveSlotClassMember (order : List RaucSlot) (rootclass : String) :
    Except String (Option RaucSlot) :=
  selectLoop perSlot rootclass none order

/-- The selected members of the root classes, in the order of the classes. -/
def selectRoots (order : List RaucSlot) : List String → Except String (List RaucSlot)
  | [] => .ok []
  | rootclass :: rest => do
    let selected ← selectInactiveSlotClassMember perSlot order rootclass
    let others ← selectRoots order rest
    return selected.toList ++ others

def rSlotListContains (slotlist : List RaucSlot) (testslot : RaucSlot) : Bool :=
  slotlist.any (fun s => decide (s.name = testslot.name))

/-- The loop that maps the class of every slot below a selected root to the slot. -/
def collectGroup (slots : SlotTable) (selected : List RaucSlot) :
    List RaucSlot → Table String RaucSlot → Table String RaucSlot
  | [], group => group
  | s :: rest, group =>
    if rSlotListContains selected (rSlotGetParentRoot slots s) then
      collectGroup slots selected rest (group.set s.sclass s)
    else collectGroup slots selected rest group

def determineTargetInstallGroup (order : List RaucSlot) (slots : SlotTable) :
    Except String (Table String RaucSlot) := do
  let selected ← selectRoots perSlot order (rSlotGetRootClasses order)
  return collectGroup slots selected order Table.empty

end TargetGroup

/-- The configured slots with the slot statuses that were loaded for them. -/
def withStatuses (statuses : String → Option RaucSlotStatus) (slots : SlotTable) : SlotTable :=
  slots.mapValues (fun s => { s with status := statuses s.name })

end RaucUpdate
