import RaucUpdate.Model.Slot

/-!
# The event log

The file logger of `event_log.c` with its rotation. What a message looks like in the configured
format is left out: a message is the text that the formatter returns.
-/

namespace RaucUpdate

open Library

/-- The part of a logger that the configuration sets. -/
structure REventLogger where
  name : String
  filename : String
  maxsize : UInt64
  maxfiles : Nat

/-- The configured size as a `goffset`. -/
def REventLogger.limit (logger : REventLogger) : Int := logger.maxsize.toInt64.toInt

/-- The files by their names, and the part of a logger that changes. -/
structure LogState where
  files : String → Option (List UInt8)
  logstream : Bool := false
  filesize : Int := 0
  broken : Bool := false

abbrev LogProg : Type → Type := Prog LogState GError

variable (logger : REventLogger)

def rotatedName (n : Nat) : String := logger.filename ++ "." ++ formatNat 10 n

def renameError (text : Failure → String) (failure : Failure) : GError :=
  ⟨.fileError, "Failed to rotate log file: " ++ text failure⟩

def failureText : Failure → String
  | .notStarted message | .interrupted message => message
  | .killed => "Interrupted system call"
  | .exitStatus code => "error " ++ toString code

/-- A file takes the place of another one, or of none. -/
def moveFile (source target : String) (files : String → Option (List UInt8)) :
    String → Option (List UInt8) :=
  fun name => if name = target then files source else if name = source then none else files name

/-- `g_rename`, which tells whether there was a file to rename. -/
def renameLog (source target : String) : LogProg Bool := do
  match ← Prog.ask with
  | some failure => Prog.fail (renameError failureText failure)
  | none =>
    let st ← Prog.read
    if st.files source = none then return false
    else
      Prog.modify (fun st => { st with files := moveFile source target st.files })
      return true

/-- The loop over the rotation files, from the highest number down. -/
def rotateChain : Nat → LogProg Unit
  | 0 => return ()
  | n + 1 => do
    let _ ← renameLog (rotatedName logger n) (rotatedName logger (n + 1))
    rotateChain n

/-- `g_file_append_to` creates a file that is not there. -/
def openLog : LogProg Unit :=
  Prog.external
    (fun st => { st with
      files := fun name => if name = logger.filename then some ((st.files name).getD [])
        else st.files name
      logstream := true })
    (fun failure => ⟨.fileError, "Failed to open log file for appending: " ++ failureText failure⟩)

def rotateLogfiles (nextLen : Nat) : LogProg Unit := do
  let st ← Prog.read
  if logger.limit = 0 then return ()
  else if st.filesize + nextLen ≤ logger.limit then return ()
  else
    Prog.modify (fun st => { st with logstream := false })
    if logger.maxfiles = 0 then Prog.abort "assertion failed: (logger->maxfiles >= 1)"
    else
      rotateChain logger (logger.maxfiles - 1)
      if ← renameLog logger.filename (rotatedName logger 1) then
        openLog logger
        Prog.modify (fun st => { st with filesize := 0 })
      else Prog.fail ⟨.fileError, "Failed to rotate log file: No such file or directory"⟩

def logOutput (message : List UInt8) : List UInt8 := message ++ [10]

/-- `g_output_stream_write_all` on the open file. -/
def appendLog (output : List UInt8) : LogProg Unit :=
  Prog.external
    (fun st => { st with
      files := fun name => if name = logger.filename then (st.files name).map (· ++ output)
        else st.files name })
    (fun failure => ⟨.fileError, failureText failure⟩)

/-- A failure deactivates the logger for good. -/
def breakOnError (p : LogProg Unit) (next : LogProg Unit) : LogProg Unit := do
  match ← Prog.attempt p with
  | .error _ => Prog.modify (fun st => { st with broken := true })
  | .ok () => next

def eventLogWriterFile (message : List UInt8) : LogProg Unit := do
  let st ← Prog.read
  if st.broken then return ()
  else if ¬ st.logstream then
    Prog.abort ("Called log writer on uninitialized logger '" ++ logger.name ++ "'")
  else
    breakOnError (rotateLogfiles logger (logOutput message).length)
      (breakOnError (appendLog logger (logOutput message))
        (Prog.modify (fun st => { st with filesize := st.filesize + (logOutput message).length })))

/-- `r_event_log_setup_logger`. -/
def rEventLogSetupLogger : LogProg Unit :=
  breakOnError (openLog logger)
    (Prog.modify (fun st => { st with filesize := ((st.files logger.filename).getD []).length }))

/-- The life of a logger: it is set up and writes the messages. -/
def runLogger (messages : List (List UInt8)) : LogProg Unit := do
  rEventLogSetupLogger logger
  Prog.each (eventLogWriterFile logger) messages

end RaucUpdate
