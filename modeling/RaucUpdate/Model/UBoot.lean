import RaucUpdate.Model.Bootchooser

/-!
# The U-Boot backend

`uboot.c` keeps the boot order in the variable `BOOT_ORDER`, a list of bootnames separated by
spaces, and one hexadecimal counter `BOOT_<name>_LEFT` for each slot. The commands `fw_printenv`
and `fw_setenv` act on a map from variable names to texts.
-/

namespace RaucUpdate

open Library

abbrev UBootEnv : Type := String → Option String

abbrev UBootProg : Type → Type := Prog UBootEnv GError

def ubootFwsetenvName : String := "fw_setenv"

def ubootFwprintenvName : String := "fw_printenv"

/-- `fw_printenv` prints the name and the value; the caller skips the name and the equal sign and
strips the trailing white space. -/
def ubootEnvGet (key : String) : UBootProg String := do
  match ← Prog.ask with
  | some failure => Prog.fail (commandError ubootFwprintenvName failure)
  | none =>
    let env ← Prog.read
    match env key with
    | none => Prog.fail (commandError ubootFwprintenvName (.exitStatus 1))
    | some value =>
      let stdout := key ++ "=" ++ value ++ "\n"
      return chomp (String.ofList (stdout.toList.drop (key.toList.length + 1)))

def ubootEnvSet (key value : String) : UBootProg Unit :=
  Prog.external (fun env k => if k = key then some value else env k) (waitError ubootFwsetenvName)

def leftVar (bootname : String) : String := "BOOT_" ++ bootname ++ "_LEFT"

def attemptsLeft (text : String) : Nat := (strtoull 16 text).value

def rUbootGetState (slot : RaucSlot) : UBootProg Bool := do
  let order ← ubootEnvGet "BOOT_ORDER"
  let bootnames := splitFields ' ' order
  if bootnames.any (fun bootname => decide (some bootname = slot.bootname)) then
    let attempts ← ubootEnvGet (leftVar (bootnameText slot))
    return decide (attemptsLeft attempts > 0)
  else
    return false

/-- The entries of the current order that a new order takes over: the slot itself and empty
strings are skipped. -/
def keptBootnames (slot : RaucSlot) (order : String) : List String :=
  (splitFields ' ' order).filter (fun bootname => decide (some bootname ≠ slot.bootname ∧
    bootname ≠ ""))

def rUbootSetState (config : RaucConfig) (slot : RaucSlot) (good : Bool) : UBootProg Unit := do
  if !good then
    match ← Prog.attempt (ubootEnvGet "BOOT_ORDER") with
    | .error _ => pure ()
    | .ok orderCurrent =>
      ubootEnvSet "BOOT_ORDER" (joinFields ' ' (keptBootnames slot orderCurrent))
  let attempts := if good then attemptsOr config.bootDefaultAttempts 3 else 0
  ubootEnvSet (leftVar (bootnameText slot)) (formatNat 16 attempts.toNat)

/-- The inner loop of `r_uboot_get_primary`: the first slot with this bootname and attempts left. -/
def ubootMatchSlot (bootname : String) : List RaucSlot → UBootProg (Option RaucSlot)
  | [] => return none
  | slot :: rest =>
    if some bootname ≠ slot.bootname then ubootMatchSlot bootname rest
    else do
      let attempts ← ubootEnvGet (leftVar (bootnameText slot))
      if attemptsLeft attempts = 0 then ubootMatchSlot bootname rest
      else return some slot

def ubootPrimaryLoop (order : List RaucSlot) : List String → UBootProg (Option RaucSlot)
  | [] => return none
  | bootname :: rest => do
    match ← ubootMatchSlot bootname order with
    | some primary => return some primary
    | none => ubootPrimaryLoop order rest

def rUbootGetPrimary (order : List RaucSlot) : UBootProg RaucSlot := do
  let bootOrder ← ubootEnvGet "BOOT_ORDER"
  match ← ubootPrimaryLoop order (splitFields ' ' bootOrder) with
  | none => Prog.fail ⟨.bootchooserParseFailed, "Unable to find primary boot slot"⟩
  | some primary => return primary

def rUbootSetPrimary (config : RaucConfig) (order : List RaucSlot) (slot : RaucSlot) :
    UBootProg Unit := do
  let orderCurrent ← match ← Prog.attempt (ubootEnvGet "BOOT_ORDER") with
    | .ok text => pure text
    | .error _ => pure (rBootchooserOrderPrimary order slot)
  let orderNew := appendNames (slot.bootname.getD "") (keptBootnames slot orderCurrent)
  let attempts := attemptsOr config.bootAttemptsPrimary 3
  ubootEnvSet (leftVar (bootnameText slot)) (formatNat 16 attempts.toNat)
  ubootEnvSet "BOOT_ORDER" orderNew

/-- The two calls that change the environment. -/
inductive UBootCall where
  | setState (slot : RaucSlot) (good : Bool)
  | setPrimary (slot : RaucSlot)

def UBootCall.slot : UBootCall → RaucSlot
  | .setState slot _ => slot
  | .setPrimary slot => slot

def UBootCall.run (config : RaucConfig) (order : List RaucSlot) : UBootCall → UBootProg Unit
  | .setState slot good => rUbootSetState config slot good
  | .setPrimary slot => rUbootSetPrimary config order slot

/-- The command that reads `BOOT_ORDER` succeeds in this world. -/
def OrderReadable (w : World UBootEnv) : Prop :=
  ∃ text, (ubootEnvGet "BOOT_ORDER" w).1 = .value text

/-- A sequence of successful calls for bootable slots, started while `BOOT_ORDER` is readable. -/
inductive UBootRun (config : RaucConfig) (env₀ : UBootEnv) : List UBootCall → UBootEnv → Prop where
  | nil : UBootRun config env₀ [] env₀
  | snoc {calls : List UBootCall} {env : UBootEnv} (hrun : UBootRun config env₀ calls env)
      (call : UBootCall) (order : List RaucSlot) (fates : Nat → Fate)
      (hslot : call.slot ∈ config.slots.values) (hbootname : call.slot.bootname ≠ none)
      (horder : order.Perm config.slots.values) (hreadable : OrderReadable ⟨env, fates⟩)
      (hsuccess : (call.run config order ⟨env, fates⟩).1 = .value ()) :
      UBootRun config env₀ (calls ++ [call]) (call.run config order ⟨env, fates⟩).2.state

end RaucUpdate
