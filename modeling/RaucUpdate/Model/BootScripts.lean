import RaucUpdate.Model.Grub
import RaucUpdate.Model.UBoot
import Mathlib.Algebra.Group.Nat.Defs

/-!
# The boot scripts

`contrib/uboot.sh` and `contrib/grub.conf`: how the boot loader chooses one of two slots, which of
the variables that the backends set it reads, and what it stores itself before it starts the slot.
-/

namespace RaucUpdate

open Library

def isWordSpace (c : Char) : Bool := c == ' ' || c == '\t' || c == '\n'

/-- The words that the loop of a script runs over. Both shells split the value of the variable. -/
def scriptWords (text : String) : List String :=
  ((text.toList.splitOnP isWordSpace).filter (fun word => !word.isEmpty)).map String.ofList

section UBoot

def setenv (name value : String) (env : UBootEnv) : UBootEnv :=
  fun k => if k = name then some value else env k

/-- `test -n "${name}" || setenv name value` -/
def setenvDefault (name value : String) (env : UBootEnv) : UBootEnv :=
  if (env name).getD "" = "" then setenv name value env else env

/-- The digits that follow the `0x` of the script. -/
def hexNumber (text : String) : Nat := (takeDigits 16 0 text.toList).1

-- the number of bits of a long on the board
variable (bits : Nat)

/-- `test 0x${BOOT_slot_LEFT} -gt 0` -/
def hasAttempts (env : UBootEnv) (slot : String) : Bool :=
  decide (0 < Int.bmod (hexNumber ((env (leftVar slot)).getD "")) (2 ^ bits))

/-- `setexpr BOOT_slot_LEFT ${BOOT_slot_LEFT} - 1` -/
def takeAttempt (env : UBootEnv) (slot : String) : UBootEnv :=
  setenv (leftVar slot)
    (formatNat 16 ((hexNumber ((env (leftVar slot)).getD "") + (2 ^ bits - 1)) % 2 ^ bits)) env

/-- The loop over `BOOT_ORDER`. When a slot was found the remaining ones are skipped. -/
def ubootFindSlot (env : UBootEnv) : List String → Option String
  | [] => none
  | slot :: rest =>
    if (slot = "A" ∨ slot = "B") ∧ hasAttempts bits env slot = true then some slot
    else ubootFindSlot env rest

def ubootDefaults (env : UBootEnv) : UBootEnv :=
  setenvDefault (leftVar "B") "3" (setenvDefault (leftVar "A") "3"
    (setenvDefault "BOOT_ORDER" "A B" env))

def ubootResetAttempts (env : UBootEnv) : UBootEnv :=
  setenv (leftVar "B") "3" (setenv (leftVar "A") "3" env)

/-- The slot that is started, if there is one, and the environment that is saved before. Without a
slot the board is reset. -/
def ubootBootcmd (env : UBootEnv) : Option String × UBootEnv :=
  let env := ubootDefaults env
  match ubootFindSlot bits env (scriptWords ((env "BOOT_ORDER").getD "")) with
  | some slot => (some slot, takeAttempt bits env slot)
  | none => (none, ubootResetAttempts env)

end UBoot

section Grub

/-- The variables of the script. -/
structure GrubScript where
  order : String
  aOk : String
  bOk : String
  aTry : String
  bTry : String
  index : Nat := 0
  ok : String := ""
  tried : String := ""
  default : Nat := 0

def loadEnv (env : GrubEnv) : GrubScript where
  order := (env.lookup "ORDER").getD "A B"
  aOk := (env.lookup (okVar "A")).getD "0"
  bOk := (env.lookup (okVar "B")).getD "0"
  aTry := (env.lookup (tryVar "A")).getD "0"
  bTry := (env.lookup (tryVar "B")).getD "0"

/-- `[ "$text" -eq n ]` -/
def isNumber (text : String) (n : Nat) : Bool := (strtoullAuto text).value == n

/-- The part of the loop that looks up the variables of a slot. Those of the slot before stay for
any other name. -/
def visitSlot (v : GrubScript) (slot : String) : GrubScript :=
  if slot = "A" then { v with index := 1, ok := v.aOk, tried := v.aTry, aTry := "1" }
  else if slot = "B" then { v with index := 2, ok := v.bOk, tried := v.bTry, bTry := "1" }
  else v

def selectSlot (v : GrubScript) : List String → GrubScript
  | [] => v
  | slot :: rest =>
    if isNumber (visitSlot v slot).ok 1 && isNumber (visitSlot v slot).tried 0 then
      { visitSlot v slot with default := (visitSlot v slot).index }
    else selectSlot (visitSlot v slot) rest

/-- The value of a flag when no slot was selected. -/
def resetFlag (ok tried : String) : String :=
  if isNumber ok 1 && isNumber tried 1 then "0" else tried

def resetBooted (v : GrubScript) : GrubScript :=
  if v.default = 0 then { v with aTry := resetFlag v.aOk v.aTry, bTry := resetFlag v.bOk v.bTry }
  else v

/-- `save_env A_TRY A_OK B_TRY B_OK ORDER` -/
def saveEnv (v : GrubScript) (env : GrubEnv) : GrubEnv :=
  ((((env.set (tryVar "A") v.aTry).set (okVar "A") v.aOk).set (tryVar "B") v.bTry).set
    (okVar "B") v.bOk).set
    "ORDER" v.order

/-- The slot of a menu entry. The first one is the rescue system. -/
def menuEntry : Nat → Option String
  | 1 => some "A"
  | 2 => some "B"
  | _ => none

/-- The slot that is started by default, and the environment that is saved before. -/
def grubBoot (env : GrubEnv) : Option String × GrubEnv :=
  let v := loadEnv env
  let v := resetBooted (selectSlot v (scriptWords v.order))
  (menuEntry v.default, saveEnv v env)

/-- `save_env` may fail. -/
def GrubBoots (env : GrubEnv) (slot : Option String) (env' : GrubEnv) : Prop :=
  ∃ saved : Bool, slot = (grubBoot env).1 ∧ env' = if saved then (grubBoot env).2 else env

end Grub

end RaucUpdate
