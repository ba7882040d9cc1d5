import RaucUpdate.Model.Barebox
import RaucUpdate.Model.Efi
import RaucUpdate.Model.Grub
import RaucUpdate.Model.UBoot

/-!
# The boot chooser

`bootchooser.c` passes each request on to the configured backend and puts the name of the backend in
front of its errors. The custom backend of `custom.c` is a script, of which only the exit status and
the output are known.
-/

namespace RaucUpdate

open Library

variable {κ : Type}

section Custom

/-- What a script prints and what it does, given its command and its arguments. -/
structure CustomScript (κ : Type) where
  output : κ → String → Option String → String
  effect : String → String → Option String → κ → κ

variable (backendName : String) (script : CustomScript κ)

def customGetError : Failure → GError
  | .exitStatus code => ⟨.spawnExit, backendName ++ " failed with exit code " ++ toString code⟩
  | failure => commandError backendName failure

def customBackendGet (cmd : String) (bootname : Option String) : Prog κ GError String := do
  match ← Prog.ask with
  | some failure => Prog.fail (customGetError backendName failure)
  | none =>
    let st ← Prog.read
    return strip (script.output st cmd bootname)

def customBackendSet (cmd : String) (bootname arg : Option String) : Prog κ GError Unit :=
  match bootname with
  | none => Prog.fail (preconditionFailed "custom_backend_set: assertion 'bootname' failed")
  | some bootname => Prog.external (script.effect cmd bootname arg) (waitError backendName)

def rCustomSetState (slot : RaucSlot) (good : Bool) : Prog κ GError Unit :=
  customBackendSet backendName script "set-state" slot.bootname
    (some (if good then "good" else "bad"))

def rCustomGetPrimary (order : List RaucSlot) : Prog κ GError RaucSlot := do
  let text ← customBackendGet backendName script "get-primary" none
  match order.find? (fun slot => decide (slot.bootname = some text)) with
  | some primary => return primary
  | none =>
    Prog.fail ⟨.bootchooserParseFailed, "'" ++ text ++ "' does not match any configured bootname"⟩

def rCustomGetState (slot : RaucSlot) : Prog κ GError Bool := do
  let text ← customBackendGet backendName script "get-state" slot.bootname
  if text = "good" then return true
  else if text = "bad" then return false
  else Prog.fail ⟨.bootchooserFailed, "Obtained string does not match \"good\" or \"bad\": '" ++
    text ++ "'"⟩

def rCustomSetPrimary (slot : RaucSlot) : Prog κ GError Unit :=
  customBackendSet backendName script "set-primary" slot.bootname none

end Custom

section Dispatch

/-- The table `supported_bootloaders`. -/
inductive Backend where
  | barebox | grub | uboot | efi | custom | noop
  deriving DecidableEq

def Backend.name : Backend → String
  | .barebox => "barebox"
  | .grub => "grub"
  | .uboot => "uboot"
  | .efi => "efi"
  | .custom => "custom"
  | .noop => "noop"

def backendOf (bootloader : Option String) : Option Backend :=
  [Backend.barebox, .grub, .uboot, .efi, .custom, .noop].find? (fun backend =>
    decide (bootloader = some backend.name))

/-- The stored data of all backends. -/
structure BootState (κ : Type) where
  barebox : BareboxState
  grub : GrubEnv
  uboot : UBootEnv
  efi : EfiVars
  custom : κ

abbrev BootProg (κ : Type) : Type → Type := Prog (BootState κ) GError

/-- The configuration, the tools that are not part of the program, and the order of the hash
table. -/
structure BootContext (κ : Type) where
  config : RaucConfig
  tool : EfiTool
  script : CustomScript κ
  order : List RaucSlot
  order_perm : order.Perm config.slots.values

variable {α : Type} (ctx : BootContext κ)

def BootContext.backend : Option Backend := backendOf ctx.config.systemBootloader

def onBarebox (p : BareboxProg α) : BootProg κ α :=
  Prog.mapError (GError.prefixed "barebox backend: ")
    (Prog.zoom BootState.barebox (fun b st => { st with barebox := b }) p)

def onGrub (p : GrubProg α) : BootProg κ α :=
  Prog.mapError (GError.prefixed "grub backend: ")
    (Prog.zoom BootState.grub (fun g st => { st with grub := g }) p)

def onUboot (p : UBootProg α) : BootProg κ α :=
  Prog.mapError (GError.prefixed "uboot backend: ")
    (Prog.zoom BootState.uboot (fun u st => { st with uboot := u }) p)

def onEfi (p : EfiProg α) : BootProg κ α :=
  Prog.mapError (GError.prefixed "efi backend: ")
    (Prog.zoom BootState.efi (fun e st => { st with efi := e }) p)

def onCustom (p : Prog κ GError α) : BootProg κ α :=
  Prog.mapError (GError.prefixed "custom backend: ")
    (Prog.zoom BootState.custom (fun c st => { st with custom := c }) p)

def notSupported (before : String) : BootProg κ α :=
  Prog.fail ⟨.bootchooserNotSupported, before ++ ctx.config.systemBootloader.getD "(null)" ++
    "' not supported yet"⟩

def BootContext.customName : String := ctx.config.customBootloaderBackend.getD "(null)"

def rBootGetState (slot : RaucSlot) : BootProg κ Bool :=
  if slot.bootname = none then Prog.abort "assertion failed: (slot->bootname != NULL)"
  else
    match ctx.backend with
    | some .barebox => onBarebox (rBareboxGetState slot)
    | some .grub => onGrub (rGrubGetState slot)
    | some .uboot => onUboot (rUbootGetState slot)
    | some .efi => onEfi (rEfiGetState slot)
    | some .custom => onCustom (rCustomGetState ctx.customName ctx.script slot)
    | _ => notSupported ctx "Obtaining state from bootloader '"

def rBootSetState (slot : RaucSlot) (good : Bool) : BootProg κ Unit :=
  match ctx.backend with
  | some .barebox => onBarebox (rBareboxSetState ctx.config slot good)
  | some .grub => onGrub (rGrubSetState slot good)
  | some .uboot => onUboot (rUbootSetState ctx.config slot good)
  | some .efi => onEfi (rEfiSetState ctx.tool slot good)
  | some .custom => onCustom (rCustomSetState ctx.customName ctx.script slot good)
  | some .noop => pure ()
  | none => notSupported ctx "Bootloader type '"

def rBootGetPrimary : BootProg κ RaucSlot :=
  match ctx.backend with
  | some .barebox => onBarebox (rBareboxGetPrimary ctx.order)
  | some .grub => onGrub (rGrubGetPrimary ctx.order)
  | some .uboot => onUboot (rUbootGetPrimary ctx.order)
  | some .efi => onEfi (rEfiGetPrimary ctx.order)
  | some .custom => onCustom (rCustomGetPrimary ctx.customName ctx.script ctx.order)
  | _ => notSupported ctx "Obtaining primary entry from bootloader '"

def rBootSetPrimary (slot : RaucSlot) : BootProg κ Unit :=
  match ctx.backend with
  | some .barebox => onBarebox (rBareboxSetPrimary ctx.config ctx.order slot)
  | some .grub => onGrub (rGrubSetPrimary ctx.order slot)
  | some .uboot => onUboot (rUbootSetPrimary ctx.config ctx.order slot)
  | some .efi => onEfi (rEfiSetPrimary ctx.tool ctx.config slot)
  | some .custom => onCustom (rCustomSetPrimary ctx.customName ctx.script slot)
  | some .noop => pure ()
  | none => notSupported ctx "Bootloader type '"

end Dispatch

end RaucUpdate
