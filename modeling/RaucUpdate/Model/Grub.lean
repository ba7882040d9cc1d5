import RaucUpdate.Model.Bootchooser
import RaucUpdate.Model.Utils

/-!
# The GRUB backend

`grub.c` keeps the boot order in the variable `ORDER`, a list of bootnames separated by spaces, and
two variables `<name>_OK` and `<name>_TRY` for each slot. `grub-editenv` changes several variables
at once and lists all of them, one per line.
-/

namespace RaucUpdate

open Library

abbrev GrubEnv : Type := Table String String

abbrev GrubProg : Type → Type := Prog GrubEnv GError

def grubEditenvName : String := "grub-editenv"

/-- What `grub-editenv list` prints. -/
def grubListing (env : GrubEnv) : String :=
  env.entries.foldl (fun text entry => text ++ (entry.1 ++ "=" ++ entry.2) ++ "\n") ""

/-- A `GString` after its text was stripped in place: the length is still that of the whole text. -/
structure GrubValue where
  str : String
  len : Nat

def grubEnvGet (key : String) : GrubProg GrubValue := do
  match ← Prog.ask with
  | some failure => Prog.fail (commandError grubEditenvName failure)
  | none =>
    let env ← Prog.read
    match (splitFields '\n' (grubListing env)).find? (hasPrefix (key ++ "=")) with
    | some line =>
      let value := String.ofList (line.toList.drop (key ++ "=").toList.length)
      return ⟨chomp value, value.utf8ByteSize⟩
    | none =>
      Prog.fail ⟨.bootchooserParseFailed, "Variable " ++ key ++ " not set in grub environment"⟩

/-- An argument of `grub-editenv set`: the name ends at the first equal sign. -/
def grubAssign (env : GrubEnv) (pair : String) : GrubEnv :=
  env.set (String.ofList (pair.toList.takeWhile (· != '=')))
    (String.ofList ((pair.toList.dropWhile (· != '=')).drop 1))

def grubEnvSet (pairs : List String) : GrubProg Unit :=
  if pairs = [] then Prog.abort "assertion failed: (pairs->len > 0)"
  else Prog.external (fun env => pairs.foldl grubAssign env) (waitError grubEditenvName)

def okVar (bootname : String) : String := bootname ++ "_OK"

def tryVar (bootname : String) : String := bootname ++ "_TRY"

/-- A slot is good if it is listed, has been booted successfully and is not on trial. -/
def rGrubGetState (slot : RaucSlot) : GrubProg Bool := do
  if slot.bootname = none then
    Prog.fail (preconditionFailed "r_grub_get_state: assertion 'slot->bootname' failed")
  else
    let order ← grubEnvGet "ORDER"
    if (splitFields ' ' order.str).any (fun bootname => decide (some bootname = slot.bootname)) then
      let slotOk ← grubEnvGet (okVar (bootnameText slot))
      let slotTry ← grubEnvGet (tryVar (bootnameText slot))
      return (strtoullAuto slotOk.str).value == 1 && (strtoullAuto slotTry.str).value == 0
    else
      return false

def rGrubSetState (slot : RaucSlot) (good : Bool) : GrubProg Unit :=
  if slot.bootname = none then
    Prog.fail (preconditionFailed "r_grub_set_state: assertion 'slot->bootname' failed")
  else if good then
    grubEnvSet [okVar (bootnameText slot) ++ "=1", tryVar (bootnameText slot) ++ "=0"]
  else grubEnvSet [okVar (bootnameText slot) ++ "=0", tryVar (bootnameText slot) ++ "=0"]

/-- The inner loop of `r_grub_get_primary`: the first good slot with this bootname. -/
def grubMatchSlot (bootname : String) : List RaucSlot → GrubProg (Option RaucSlot)
  | [] => return none
  | slot :: rest =>
    if some bootname ≠ slot.bootname then grubMatchSlot bootname rest
    else do
      let slotOk ← grubEnvGet (okVar (bootnameText slot))
      let slotTry ← grubEnvGet (tryVar (bootnameText slot))
      if (strtoullAuto slotOk.str).value ≠ 1 ∨ (strtoullAuto slotTry.str).value > 0 then
        grubMatchSlot bootname rest
      else return some slot

def grubPrimaryLoop (order : List RaucSlot) : List String → GrubProg (Option RaucSlot)
  | [] => return none
  | bootname :: rest => do
    match ← grubMatchSlot bootname order with
    | some primary => return some primary
    | none => grubPrimaryLoop order rest

def rGrubGetPrimary (order : List RaucSlot) : GrubProg RaucSlot := do
  let bootOrder ← grubEnvGet "ORDER"
  if bootOrder.len = 0 then Prog.fail ⟨.bootchooserParseFailed, "Variable ORDER is empty"⟩
  else
    match ← grubPrimaryLoop order (splitFields ' ' bootOrder.str) with
    | none =>
      Prog.fail ⟨.bootchooserParseFailed, "No bootable slot found in ORDER '" ++
        bootOrder.str ++ "'"⟩
    | some primary => return primary

def rGrubSetPrimary (order : List RaucSlot) (slot : RaucSlot) : GrubProg Unit :=
  grubEnvSet [okVar (bootnameText slot) ++ "=1", tryVar (bootnameText slot) ++ "=0",
    "ORDER=" ++ rBootchooserOrderPrimary order slot]

/-- The two calls that change the environment. -/
inductive GrubCall where
  | setState (slot : RaucSlot) (good : Bool)
  | setPrimary (slot : RaucSlot)

def GrubCall.slot : GrubCall → RaucSlot
  | .setState slot _ => slot
  | .setPrimary slot => slot

def GrubCall.run (order : List RaucSlot) : GrubCall → GrubProg Unit
  | .setState slot good => rGrubSetState slot good
  | .setPrimary slot => rGrubSetPrimary order slot

/-- A sequence of successful calls for bootable slots. -/
inductive GrubRun (config : RaucConfig) (env₀ : GrubEnv) : List GrubCall → GrubEnv → Prop where
  | nil : GrubRun config env₀ [] env₀
  | snoc {calls : List GrubCall} {env : GrubEnv} (hrun : GrubRun config env₀ calls env)
      (call : GrubCall) (order : List RaucSlot) (fates : Nat → Fate)
      (hslot : call.slot ∈ config.slots.values) (hbootname : call.slot.bootname ≠ none)
      (horder : order.Perm config.slots.values)
      (hsuccess : (call.run order ⟨env, fates⟩).1 = .value ()) :
      GrubRun config env₀ (calls ++ [call]) (call.run order ⟨env, fates⟩).2.state

end RaucUpdate
