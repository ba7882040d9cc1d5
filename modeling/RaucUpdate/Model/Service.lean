import RaucUpdate.Model.Slot
import RaucUpdate.Library.Programs

/-!
# The service

The main loop of `service.c` handles one event at a time: a method call, the automatic installation
at the start, or the completion that the thread of an installation has left for it. The thread
itself only works on its own data. What an installation or a marking does is not part of this model.
-/

namespace RaucUpdate

open Library

inductive Operation where
  | idle | installing
  deriving DecidableEq

structure ServiceInstallArgs where
  name : Option String := none
  statusResult : Int := -2
  deriving DecidableEq

/-- The answer to a method call. -/
inductive Reply where
  | completed
  | failed (message : String)
  deriving DecidableEq

structure ServiceState where
  busy : Bool := false
  operation : Operation := .idle
  /-- The installations whose thread is at work. -/
  working : List ServiceInstallArgs := []
  /-- The installations whose thread has left `install_done` for the main loop. -/
  finished : List ServiceInstallArgs := []
  /-- The results sent with the signal `Completed`. -/
  signals : List Int := []
  deriving DecidableEq

abbrev ServiceProg : Type → Type := Prog ServiceState GError

section Install

def busyAssertion : String := "assertion failed: (context->busy != busy)"

def rContextSetBusy (busy : Bool) : ServiceProg Unit := do
  let st ← Prog.read
  if st.busy = busy then Prog.abort busyAssertion
  else Prog.modify (fun st => { st with busy := busy })

def setOperation (operation : Operation) : ServiceProg Unit :=
  Prog.modify (fun st => { st with operation := operation })

def installArgsFree (args : ServiceInstallArgs) : ServiceProg Unit :=
  if 0 ≤ args.statusResult then return ()
  else Prog.abort "assertion failed (args->status_result >= 0)"

def installRun (args : ServiceInstallArgs) : ServiceProg Unit := do
  rContextSetBusy true
  Prog.modify (fun st => { st with working := st.working ++ [args] })

/-- The end of `install_thread`. -/
def installThreadEnd (i : Nat) (failed : Bool) : ServiceProg Unit :=
  Prog.modify (fun st =>
    match st.working[i]? with
    | none => st
    | some args =>
      { st with
        working := st.working.eraseIdx i
        finished := st.finished ++ [{ args with statusResult := if failed then 1 else 0 }] })

def serviceInstallCleanup (args : ServiceInstallArgs) : ServiceProg Unit := do
  Prog.modify (fun st => { st with signals := st.signals ++ [args.statusResult] })
  setOperation .idle
  installArgsFree args

def installDone : ServiceProg Unit := do
  let st ← Prog.read
  match st.finished with
  | [] => return ()
  | args :: rest =>
    Prog.modify (fun st => { st with finished := rest })
    serviceInstallCleanup args
    rContextSetBusy false

end Install

section Methods

inductive VariantType where
  | boolean | string | strings | other
  deriving DecidableEq

/-- The keys that are looked up, each with the type its value must have to be found. -/
def installKeys : List (String × VariantType) :=
  [("ignore-compatible", .boolean), ("ignore-version-limit", .boolean), ("transaction-id", .string),
    ("require-manifest-hash", .string), ("tls-cert", .string), ("tls-key", .string),
      ("tls-ca", .string),
    ("tls-no-verify", .boolean), ("http-headers", .strings)]

/-- The keys of the dictionary, in hash order, that nobody took. -/
def unhandledKeys (dict : List (String × VariantType)) : List String :=
  (dict.filter (fun entry => !installKeys.contains entry)).map Prod.fst

/-- A rejected request sets the operation to idle, whatever the reason. -/
def rejectInstall (args : ServiceInstallArgs) (message : String) : ServiceProg Reply := do
  installArgsFree args
  setOperation .idle
  return .failed message

def rOnHandleInstallBundle (source : String) (dict : List (String × VariantType)) :
    ServiceProg Reply := do
  let st ← Prog.read
  if st.busy then rejectInstall { statusResult := 1 } "Already processing a different method"
  else
    match unhandledKeys dict with
    | key :: _ =>
      rejectInstall { name := some source, statusResult := 2 } ("Unsupported key: " ++ key)
    | [] =>
      setOperation .installing
      installRun { name := some source }
      return .completed

def rOnHandleInstall (source : String) : ServiceProg Reply := rOnHandleInstallBundle source []

/-- `marked` is what `mark_run` makes of the request: a message, and whether it succeeded. -/
def rOnHandleMark (marked : Except String String) : ServiceProg Reply := do
  let st ← Prog.read
  if st.busy then return .failed "already processing a different method"
  else
    match marked with
    | .ok _ => return .completed
    | .error message => return .failed message

/-- The operation stays as it is here. -/
def autoInstall (found : Bool) (source : String) : ServiceProg Bool :=
  if !found then return false
  else do
    let st ← Prog.read
    if st.busy then
      installArgsFree {}
      return false
    else
      installRun { name := some source }
      return true

end Methods

inductive ServiceEvent where
  | install (source : String)
  | installBundle (source : String) (dict : List (String × VariantType))
  | mark (marked : Except String String)
  | autoInstall (found : Bool) (source : String)
  | threadEnd (i : Nat) (failed : Bool)
  | done

def ServiceEvent.run : ServiceEvent → ServiceProg Unit
  | .install source => do
    let _ ← rOnHandleInstall source
    return ()
  | .installBundle source dict => do
    let _ ← rOnHandleInstallBundle source dict
    return ()
  | .mark marked => do
    let _ ← rOnHandleMark marked
    return ()
  | .autoInstall found source => do
    let _ ← RaucUpdate.autoInstall found source
    return ()
  | .threadEnd i failed => installThreadEnd i failed
  | .done => installDone

/-- Events in any order, each handled to its end and allowed in the state before it. -/
inductive ServiceRun (Allowed : ServiceState → ServiceEvent → Prop) :
    List ServiceEvent → ServiceState → Prop where
  | start : ServiceRun Allowed [] {}
  | snoc {events : List ServiceEvent} {st : ServiceState} (hrun : ServiceRun Allowed events st)
      (event : ServiceEvent)
      (hallowed : Allowed st event) (hreturned : (event.run (Prog.calm st)).1 = .value ()) :
      ServiceRun Allowed (events ++ [event]) (event.run (Prog.calm st)).2.state

/-- An installation runs until the main loop has handled its completion. -/
def ServiceState.installations (st : ServiceState) : List ServiceInstallArgs :=
  st.working ++ st.finished

end RaucUpdate
