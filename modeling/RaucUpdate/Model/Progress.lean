import Mathlib.Data.Rat.Floor

/-!
# Progress

The stack of steps of `context.c` and the reports to the progress callback. The percentages are
rational numbers where the code has `gfloat`. A call that runs into `g_error` or an assertion gives
its text instead of a state.
-/

namespace RaucUpdate

structure RaucProgressStep where
  name : String
  description : String
  weight : Nat
  substepsTotal : Nat
  substepsDone : Nat := 0
  percentTotal : ℚ
  percentDone : ℚ := 0
  lastExplicitPercent : Int := 0
  deriving DecidableEq

/-- A call of the progress callback. -/
structure ProgressReport where
  percentage : Int
  message : String
  nestingDepth : Nat
  deriving DecidableEq

structure ProgressState where
  /-- The steps under way, the innermost one first. -/
  progress : List RaucProgressStep := []
  reports : List ProgressReport := []
  deriving DecidableEq

/-- The conversion of a `gfloat` to an integer drops the fraction. -/
def truncate (q : ℚ) : Int := q.num.tdiv q.den

def percentSum (steps : List RaucProgressStep) : ℚ := (steps.map RaucProgressStep.percentDone).sum

/-- What all steps but the innermost one have done; a step on its own counts itself. -/
def donePercentage (step : RaucProgressStep) (outer : List RaucProgressStep) : ℚ :=
  if outer = [] then step.percentDone else percentSum outer

/-- Only a step that is complete itself may bring the sum over 99. -/
def shownPercentage (step : RaucProgressStep) (outer : List RaucProgressStep) : ℚ :=
  if step.percentDone < 100 ∧ 99 < donePercentage step outer then 99 else donePercentage step outer

def finishedText (success : Bool) (description : String) : String :=
  if success then description ++ " done." else description ++ " failed."

def rContextSendProgress (opFinished : Option Bool) (st : ProgressState) :
    Except String ProgressState :=
  match st.progress with
  | [] => .error "'context->progress' should not be NULL"
  | step :: outer =>
    let percentage := shownPercentage step outer
    if 100 < truncate percentage then .error "assertion failed (percentage <= 100)"
    else
      let description := match opFinished with
        | none => step.description
        | some success => finishedText success step.description
      .ok {
        progress := { step with description := description } :: outer
        reports := st.reports ++ [⟨truncate percentage, description, outer.length + 1⟩] }

def nestingError (parent : RaucProgressStep) (name : String) : String :=
  "Step nesting wrong: " ++ parent.name ++ " contains " ++ name ++ " exceeding step limit (" ++
    toString (parent.substepsDone + 1) ++ "/" ++ toString parent.substepsTotal ++ ")"

def rContextBeginStepWeighted (name description : String) (substeps weight : Nat)
    (st : ProgressState) :
    Except String ProgressState :=
  match st.progress with
  | [] =>
    let step : RaucProgressStep :=
      { name := name, description := description, weight := weight, substepsTotal := substeps,
        percentTotal := 100 }
    rContextSendProgress none { st with progress := [step] }
  | parent :: outer =>
    if parent.substepsTotal = 0 then
      .error ("Cannot add substep '" ++ name ++ "': Parent step '" ++ parent.name ++
        "' has no substeps.")
    else if parent.substepsTotal = parent.substepsDone then .error (nestingError parent name)
    else
      let step : RaucProgressStep :=
        { name := name, description := description, weight := weight, substepsTotal := substeps,
          percentTotal := weight * parent.percentTotal / parent.substepsTotal }
      if truncate parent.percentTotal < truncate step.percentTotal then
        .error "assertion failed (step->percent_total <= parent->percent_total)"
      else if 100 < truncate step.percentTotal then
        .error "assertion failed (step->percent_total <= 100)"
      else rContextSendProgress none { st with progress := step :: parent :: outer }

def rContextBeginStep (name description : String) (substeps : Nat) (st : ProgressState) :
    Except String ProgressState :=
  rContextBeginStepWeighted name description substeps 1 st

def substepsError (text : String) (step : RaucProgressStep) : String :=
  text ++ " substeps: " ++ step.name ++ " (" ++ toString step.substepsDone ++ "/" ++
    toString step.substepsTotal ++ ")"

/-- A percentage that is not above the last one changes nothing, and 100 is left for the end of the
step to report. -/
def rContextSetStepPercentage (name : String) (customPercent : Int) (st : ProgressState) :
    Except String ProgressState :=
  match st.progress with
  | [] => .error "'context->progress' should not be NULL"
  | [_] => .error "Root step does not support setting percentage"
  | step :: parent :: outer =>
    if step.name ≠ name then
      .error ("Wrong step context '" ++ name ++ "'. Current step is '" ++ step.name ++ "'.")
    else
      let percentDifference := customPercent - step.lastExplicitPercent
      if percentDifference < 1 then .ok st
      else
        let percentDone := step.percentTotal * (percentDifference / 100)
        let st := { st with progress :=
          { step with percentDone := percentDone, lastExplicitPercent := customPercent } ::
            { parent with percentDone := parent.percentDone + percentDone } :: outer }
        if customPercent = 100 then .ok st else rContextSendProgress none st

def rContextIncStepPercentage (name : String) (st : ProgressState) : Except String ProgressState :=
  match st.progress with
  | [] => .error "context->progress"
  | step :: _ => rContextSetStepPercentage name (step.lastExplicitPercent + 1) st

/-- The last report of a step, after which it leaves the stack. -/
def popStep (success : Bool) (st : ProgressState) : Except String ProgressState := do
  let st ← rContextSendProgress (some success) st
  return { st with progress := st.progress.tail }

/-- Passes the rest of a finished step on to its parent. -/
def passToParent (step parent : RaucProgressStep) (outer : List RaucProgressStep)
    (st : ProgressState) :
    Except String ProgressState :=
  let parent := { parent with substepsDone := parent.substepsDone + step.weight }
  if step.lastExplicitPercent ≠ 0 then
    rContextSetStepPercentage step.name 100 { st with progress := step :: parent :: outer }
  else
    .ok { st with progress :=
      step :: { parent with percentDone := parent.percentDone + step.percentDone } :: outer }

def checkPassed (st : ProgressState) : Except String Unit :=
  match st.progress with
  | step :: parent :: _ =>
    if truncate parent.percentDone < truncate step.percentDone then
      .error "assertion failed (step->percent_done <= parent->percent_done)"
    else .ok ()
  | _ => .ok ()

def rContextEndStep (name : String) (success : Bool) (st : ProgressState) :
    Except String ProgressState :=
  match st.progress with
  | [] => .error "'context->progress' should not be NULL"
  | top :: outer =>
    let step := { top with percentDone := top.percentTotal }
    if step.substepsTotal < step.substepsDone then .error (substepsError "Too many" step)
    else if success ∧ step.substepsDone < step.substepsTotal then
      .error (substepsError "Not enough" step)
    else
      let step := if success then step else { step with substepsDone := step.substepsTotal }
      if step.name ≠ name then
        .error ("assertion failed (step->name == name): (" ++ step.name ++ " == " ++ name ++ ")")
      else
        match outer with
        | [] => popStep success { st with progress := [step] }
        | parent :: outer => do
          let st ← passToParent step parent outer st
          checkPassed st
          popStep success st

inductive ProgressCall where
  | begin (name description : String) (substeps weight : Nat)
  | set (name : String) (percent : Int)
  | inc (name : String)
  | end_ (name : String) (success : Bool)
  deriving DecidableEq

def progressCall (st : ProgressState) : ProgressCall → Except String ProgressState
  | .begin name description substeps weight =>
    rContextBeginStepWeighted name description substeps weight st
  | .set name percent => rContextSetStepPercentage name percent st
  | .inc name => rContextIncStepPercentage name st
  | .end_ name success => rContextEndStep name success st

def progressCalls : ProgressState → List ProgressCall → Except String ProgressState
  | st, [] => .ok st
  | st, call :: calls => do
    let st ← progressCall st call
    progressCalls st calls

example : (progressCalls {} [.begin "test_1" "testing step 1" 2 1,
    .begin "test_1.1" "testing step 1.1" 0 1,
    .end_ "test_1.1" true, .begin "test_1.2" "testing step 1.2" 0 1, .set "test_1.2" 25,
      .set "test_1.2" 50,
    .set "test_1.2" 75, .end_ "test_1.2" true,
      .end_ "test_1" true]).map (fun st => st.reports.map (·.percentage)) =
    .ok [0, 0, 50, 50, 62, 75, 87, 99, 100] := by decide +kernel

end RaucUpdate
