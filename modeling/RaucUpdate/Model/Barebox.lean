import RaucUpdate.Model.Bootchooser

/-!
# The barebox backend

`barebox.c` talks to the tool `barebox-state`: `-g` prints stored variables, one line each, and
`-s` applies all its assignments or none. The stored variables are 32-bit numbers.
-/

namespace RaucUpdate

open Library

abbrev BareboxState : Type := String → Option UInt32

abbrev BareboxProg : Type → Type := Prog BareboxState GError

structure BareboxSlotState where
  prio : UInt32
  attempts : UInt32
  deriving DecidableEq

def bareboxStateName : String := "barebox-state"

def priorityVar (bootname : String) : String := "bootstate." ++ bootname ++ ".priority"

def attemptsVar (bootname : String) : String := "bootstate." ++ bootname ++ ".remaining_attempts"

/-- What `barebox-state -g` prints for the two variables of a bootname. -/
def bareboxStateOutput (st : BareboxState) (bootname : String) : Option String :=
  match st (priorityVar bootname), st (attemptsVar bootname) with
  | some p, some a => some (formatNat 10 p.toNat ++ "\n" ++ formatNat 10 a.toNat ++ "\n")
  | _, _ => none

def parseOutline : Option String → Except GError Nat
  | none => .error ⟨.bootchooserParseFailed, "No content to read"⟩
  | some outline =>
    let result := strtoull 10 outline
    if result.value = 0 ∧ ¬result.converted then
      .error ⟨.bootchooserParseFailed, "Failed to parse value: '" ++ outline ++ "'"⟩
    else if result.value = 2 ^ 64 - 1 ∧ result.overflow then
      .error ⟨.bootchooserParseFailed, "Return value overflow: '" ++ outline ++ "'"⟩
    else .ok result.value

def parseOutput (stdout : String) : Except GError BareboxSlotState := do
  let outlines := splitFields '\n' stdout
  let prio ← parseOutline outlines[0]?
  let attempts ← parseOutline outlines[1]?
  return ⟨UInt32.ofNat prio, UInt32.ofNat attempts⟩

def bareboxStateGet (bootname : String) : BareboxProg BareboxSlotState := do
  match ← Prog.ask with
  | some failure => Prog.fail (commandError bareboxStateName failure)
  | none =>
    let st ← Prog.read
    match bareboxStateOutput st bootname with
    | none => Prog.fail (commandError bareboxStateName (.exitStatus 1))
    | some stdout =>
      match parseOutput stdout with
      | .error e => Prog.fail e
      | .ok state => return state

/-- `barebox-state -s`: every variable has to exist and every value has to fit. -/
def bareboxAssign (st : BareboxState) : List (String × Int) → Option BareboxState
  | [] => some st
  | (var, v) :: rest =>
    if (st var).isSome ∧ 0 ≤ v ∧ v < 2 ^ 32 then
      bareboxAssign (fun x => if x = var then some (UInt32.ofNat v.toNat) else st x) rest
    else none

def bareboxStateSet (pairs : List (String × Int)) : BareboxProg Unit := do
  if pairs.length = 0 then
    Prog.abort "assertion failed: (pairs->len > 0)"
  match ← Prog.ask with
  | some failure => Prog.fail (waitError bareboxStateName failure)
  | none =>
    let st ← Prog.read
    match bareboxAssign st pairs with
    | none => Prog.fail (waitError bareboxStateName (.exitStatus 1))
    | some st' => Prog.modify (fun _ => st')

def rBareboxSetState (config : RaucConfig) (slot : RaucSlot) (good : Bool) : BareboxProg Unit :=
  if good then
    bareboxStateSet [(attemptsVar (bootnameText slot), attemptsOr config.bootDefaultAttempts 3)]
  else
    bareboxStateSet [(priorityVar (bootnameText slot), 0), (attemptsVar (bootnameText slot), 0)]

/-- The loop of `r_barebox_get_primary` with its candidate and the highest priority so far. -/
def bareboxPrimaryLoop : Option RaucSlot → UInt32 → List RaucSlot → BareboxProg (Option RaucSlot)
  | primary, _, [] => return primary
  | primary, topPrio, slot :: rest =>
    match slot.bootname with
    | none => bareboxPrimaryLoop primary topPrio rest
    | some bootname => do
      let state ← bareboxStateGet bootname
      if state.attempts = 0 then
        bareboxPrimaryLoop primary topPrio rest
      else if topPrio < state.prio then
        bareboxPrimaryLoop (some slot) state.prio rest
      else
        bareboxPrimaryLoop primary topPrio rest

def rBareboxGetPrimary (order : List RaucSlot) : BareboxProg RaucSlot := do
  match ← bareboxPrimaryLoop none 0 order with
  | none => Prog.fail ⟨.bootchooserParseFailed, "Unable to obtain primary element"⟩
  | some primary => return primary

def rBareboxGetState (slot : RaucSlot) : BareboxProg Bool := do
  let state ← bareboxStateGet (bootnameText slot)
  return decide (0 < state.prio ∧ 0 < state.attempts)

/-- The priority `r_barebox_set_primary` writes for a slot whose old priority is given. -/
def primaryPriority (slot s : RaucSlot) (oldPrio : UInt32) : Int :=
  if s.name = slot.name then 20 else if oldPrio = 0 then 0 else 10

/-- The loop of `r_barebox_set_primary` that collects one assignment for each bootable slot. -/
def bareboxPriorityPairs (slot : RaucSlot) : List RaucSlot → BareboxProg (List (String × Int))
  | [] => return []
  | s :: rest =>
    match s.bootname with
    | none => bareboxPriorityPairs slot rest
    | some bootname => do
      let state ← bareboxStateGet bootname
      let pairs ← bareboxPriorityPairs slot rest
      return (priorityVar bootname, primaryPriority slot s state.prio) :: pairs

def rBareboxSetPrimary (config : RaucConfig) (order : List RaucSlot) (slot : RaucSlot) :
    BareboxProg Unit := do
  let pairs ← bareboxPriorityPairs slot order
  bareboxStateSet
    (pairs ++ [(attemptsVar (bootnameText slot), attemptsOr config.bootAttemptsPrimary 3)])

/-- The two calls that change the barebox state. -/
inductive BareboxCall where
  | setState (slot : RaucSlot) (good : Bool)
  | setPrimary (slot : RaucSlot)

def BareboxCall.slot : BareboxCall → RaucSlot
  | .setState slot _ => slot
  | .setPrimary slot => slot

def BareboxCall.run (config : RaucConfig) (order : List RaucSlot) : BareboxCall → BareboxProg Unit
  | .setState slot good => rBareboxSetState config slot good
  | .setPrimary slot => rBareboxSetPrimary config order slot

/-- A sequence of successful calls for bootable slots, each with the hash order and the fates of
its own moment. -/
inductive BareboxRun (config : RaucConfig) (st₀ : BareboxState) :
    List BareboxCall → BareboxState → Prop where
  | nil : BareboxRun config st₀ [] st₀
  | snoc {calls : List BareboxCall} {st : BareboxState} (hrun : BareboxRun config st₀ calls st)
      (call : BareboxCall) (order : List RaucSlot) (fates : Nat → Fate)
      (hslot : call.slot ∈ config.slots.values) (hbootname : call.slot.bootname ≠ none)
      (horder : order.Perm config.slots.values)
      (hsuccess : (call.run config order ⟨st, fates⟩).1 = .value ()) :
      BareboxRun config st₀ (calls ++ [call]) (call.run config order ⟨st, fates⟩).2.state

end RaucUpdate
