import RaucUpdate.Model.BootScripts
import RaucUpdate.Model.Install

/-!
# The update cycle

A machine over its life: the default handler of `install.c` writes slots and calls the boot loader
backend, `mark.c` is called from outside, and the boot script chooses the slot that is started. Each
of them may stop at any point.
-/

namespace RaucUpdate

open Library

/-- A boot loader backend together with the boot loader itself: what the calls may make of the
stored data, whether they report an error or not, and the starts of the machine, of a slot or of a
system outside of all slots. -/
structure BootScheme (ε : Type) where
  setState : RaucSlot → Bool → ε → Bool → ε → Prop
  setPrimary : RaucSlot → ε → Bool → ε → Prop
  boots : ε → Option String → ε → Prop

section Schemes

variable (config : RaucConfig)

/-- `BOOT_ORDER` is not set, or lists bootnames with single spaces between them. -/
def OrderLists (env : UBootEnv) (bootnames : List String) : Prop :=
  (env "BOOT_ORDER" = none ∧ bootnames = ["A", "B"]) ∨ env "BOOT_ORDER" =
    some (joinFields ' ' bootnames)

-- the calls that are made on the machine, each with the world that it meets
variable (occurs : UBootCall → World UBootEnv → Prop)

def GrubEnds (call : GrubCall) (env : GrubEnv) (ok : Bool) (env' : GrubEnv) : Prop :=
  ∃ (order : List RaucSlot) (fates : Nat → Fate), order.Perm config.slots.values ∧
    (ok = true ↔ (call.run order ⟨env, fates⟩).1 = .value ()) ∧
      env' = (call.run order ⟨env, fates⟩).2.state

def grubScheme : BootScheme GrubEnv where
  setState slot good := GrubEnds config (.setState slot good)
  setPrimary slot := GrubEnds config (.setPrimary slot)
  boots := GrubBoots

end Schemes

section Cycle

variable {ε : Type}

/-- What the program and the boot loader have stored, the bootname of the slot that is running, and
the slots that were not written completely. -/
structure CycleState (ε : Type) where
  system : SystemState
  boot : ε
  running : Option String
  damaged : String → Bool := fun _ => false

def trackDamage (damaged : String → Bool) : InstallEvent → String → Bool
  | .writeStarted slot _ => fun n => if n = slot then true else damaged n
  | .writeDone slot _ => fun n => if n = slot then false else damaged n
  | _ => damaged

/-- Whether the event stands for a call of the boot loader backend. -/
def InstallEvent.callsBackend : InstallEvent → Bool
  | .markedBad _ => true
  | .markActive _ => true
  | _ => false

variable (scheme : BootScheme ε) (ctx : InstallContext)

/-- The stored data after the events of an installation: `markedBad` follows a call that succeeded,
and the call that `markActive` announces may fail. -/
inductive BootCalls (boot : ε) : List InstallEvent → ε → Prop where
  | nil : BootCalls boot [] boot
  | markedBad {trace : List InstallEvent} {boot₁ boot₂ : ε} (hcalls : BootCalls boot trace boot₁)
      {slot : RaucSlot}
      (hslot : slot ∈ ctx.config.slots.values)
        (hcall : scheme.setState slot false boot₁ true boot₂) :
      BootCalls boot (trace ++ [.markedBad slot.name]) boot₂
  | markActive {trace : List InstallEvent} {boot₁ boot₂ : ε} (hcalls : BootCalls boot trace boot₁)
      {slot : RaucSlot}
      (hslot : slot ∈ ctx.config.slots.values) (ok : Bool)
        (hcall : scheme.setPrimary slot boot₁ ok boot₂) :
      BootCalls boot (trace ++ [.markActive slot.name]) boot₂
  | other {trace : List InstallEvent} {boot₁ : ε} (hcalls : BootCalls boot trace boot₁)
      (e : InstallEvent)
      (hother : e.callsBackend = false) : BootCalls boot (trace ++ [e]) boot₁

/-- Some image of the manifest leads to the slot. -/
def Targeted (manifest : RaucManifest) (group : Table String RaucSlot) (slot : RaucSlot) : Prop :=
  ∃ image ∈ manifest.images, image.artifact = none ∧ image.slotclass.bind group.lookup = some slot

/-- No target belongs to the slot that is running. -/
def SparesRunning (manifest : RaucManifest) (group : Table String RaucSlot)
    (running : Option String) : Prop :=
  ∀ slot, Targeted manifest group slot →
    (rSlotGetParentRoot ctx.config.slots slot).bootname ≠ none →
    (rSlotGetParentRoot ctx.config.slots slot).bootname ≠ running

/-- An image for one slot of a bootable group comes with images for all of them. -/
def CoversGroups (manifest : RaucManifest) (group : Table String RaucSlot) : Prop :=
  ∀ slot, Targeted manifest group slot →
    (rSlotGetParentRoot ctx.config.slots slot).bootname ≠ none →
    ∀ s ∈ ctx.config.slots.values,
      rSlotGetParentRoot ctx.config.slots s = rSlotGetParentRoot ctx.config.slots slot →
        Targeted manifest group s

/-- No slot that is started together with this one is damaged. -/
def GroupIntact (st : CycleState ε) (bootname : String) : Prop :=
  ∀ s ∈ ctx.config.slots.values, (rSlotGetParentRoot ctx.config.slots s).bootname = some bootname →
    st.damaged s.name = false

/-- The events of an installation and the system that it leaves. -/
def Installation.result {ctx : InstallContext} (i : Installation ctx) (st : CycleState ε) :
    InstallState :=
  (i.run ⟨st.system, []⟩).2.state

/-- What can happen to a machine. -/
inductive CycleAction (ctx : InstallContext) where
  | install (i : Installation ctx)
  | restart
  | markGood (slot : RaucSlot)
  | markBad (slot : RaucSlot)
  | markActive (slot : RaucSlot)
  | start

/-- The steps of a machine: installations that succeed, fail or stop somewhere, among them those
whose target can not be marked, restarts of the program, calls of `mark.c` for any slot, and starts
of the machine. -/
inductive CycleStep (st : CycleState ε) : CycleAction ctx → CycleState ε → Prop where
  | installed (i : Installation ctx) {boot : ε}
      (hcalls : BootCalls scheme ctx st.boot (i.result st).trace boot) :
      CycleStep st (.install i)
        ⟨(i.result st).system, boot, st.running, (i.result st).trace.foldl trackDamage st.damaged⟩
  | refused (i : Installation ctx) (htrace : (i.result st).trace = []) {slot : RaucSlot}
      (htarget : Targeted i.manifest i.group.slots slot) (hbootname : slot.bootname ≠ none)
        {boot : ε}
      (hcall : scheme.setState slot false st.boot false boot) :
      CycleStep st (.install i) ⟨(i.result st).system, boot, st.running, st.damaged⟩
  | restarted : CycleStep st .restart { st with system := st.system.restarted ctx }
  | markedGood {slot : RaucSlot} (hslot : slot ∈ ctx.config.slots.values) (ok : Bool) {boot : ε}
      (hcall : scheme.setState slot true st.boot ok boot) :
        CycleStep st (.markGood slot) { st with boot := boot }
  | markedBad {slot : RaucSlot} (hslot : slot ∈ ctx.config.slots.values) (ok : Bool) {boot : ε}
      (hcall : scheme.setState slot false st.boot ok boot) :
        CycleStep st (.markBad slot) { st with boot := boot }
  | activated {slot : RaucSlot} (hslot : slot ∈ ctx.config.slots.values) (ok : Bool) {boot : ε}
      (hcall : scheme.setPrimary slot st.boot ok boot) :
        CycleStep st (.markActive slot) { st with boot := boot }
  | started {running : Option String} {boot : ε} (hboots : scheme.boots st.boot running boot) :
      CycleStep st .start { st with system := st.system.restarted ctx, boot := boot,
                                    running := running }

/-- The life of a machine: what has happened, each time with the state before it, and the state that
it is in. -/
inductive UpdateCycle (st₀ : CycleState ε) : List (CycleState ε × CycleAction ctx) →
    CycleState ε → Prop where
  | nil : UpdateCycle st₀ [] st₀
  | snoc {steps : List (CycleState ε × CycleAction ctx)} {st st' : CycleState ε}
      {action : CycleAction ctx}
      (hcycle : UpdateCycle st₀ steps st) (hstep : CycleStep scheme ctx st action st') :
      UpdateCycle st₀ (steps ++ [(st, action)]) st'

/-- What nobody checks and the user of a machine has to see to: images come for whole groups and
never for the one that is running, only a running or a complete group is marked good, the running
one is never marked bad, and only a complete group is activated by hand. -/
def Careful (st : CycleState ε) : CycleAction ctx → Prop
  | .install i =>
    SparesRunning ctx i.manifest i.group.slots st.running ∧
      CoversGroups ctx i.manifest i.group.slots
  | .markGood slot => ∃ b, slot.bootname = some b ∧ (st.running = some b ∨ GroupIntact ctx st b)
  | .markBad slot => ∃ b, slot.bootname = some b ∧ st.running ≠ some b
  | .markActive slot => ∃ b, slot.bootname = some b ∧ GroupIntact ctx st b
  | .restart => True
  | .start => True

/-- A machine as it is delivered: no slot is damaged. -/
def CycleState.Delivered (st : CycleState ε) : Prop := ∀ name, st.damaged name = false

end Cycle

end RaucUpdate
