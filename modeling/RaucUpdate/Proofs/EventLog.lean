import RaucUpdate.Library.Decimals
import RaucUpdate.Model.EventLog

/-!
# The event log

The files of a logger are a chain of lists of messages, the current file first. A write puts a
message at the end of the current file, or starts a new one and drops the end of the chain.
-/

namespace RaucUpdate

open Library Prog

variable {logger : REventLogger}

section Names

lemma rotatedName_inj {m n : Nat} : rotatedName logger m = rotatedName logger n ↔ m = n := by
  constructor
  · intro h
    unfold rotatedName at h
    have hlist := congrArg String.toList h
    simp only [String.toList_append] at hlist
    exact formatNat_injective (String.toList_inj.mp (List.append_cancel_left hlist))
  · rintro rfl
    rfl

lemma rotatedName_ne (n : Nat) : rotatedName logger n ≠ logger.filename := by
  intro h
  have hlen := congrArg String.length h
  simp only [rotatedName, String.length_append] at hlen
  have hdot : ".".length = 1 := rfl
  omega

end Names

section Renames

variable {files : String → Option (List UInt8)}

def shiftFile (source target : String) (files : String → Option (List UInt8)) :
    String → Option (List UInt8) :=
  if files source = none then files else moveFile source target files

lemma renameLog_calm (source target : String) (st : LogState) :
    Calmly st (renameLog source target) (decide (st.files source ≠ none))
      { st with files := shiftFile source target st.files } := by
  refine calmly_bind (calmly_ask st) (calmly_read_bind ?_)
  by_cases hnone : st.files source = none
  · simp [hnone, shiftFile]
    rfl
  · simp only [hnone, shiftFile, if_false, ne_eq, not_false_iff, decide_true]
    rfl

/-- The files after the loop over the rotation files. -/
def chainFiles (logger : REventLogger) : Nat → (String → Option (List UInt8)) → String →
    Option (List UInt8)
  | 0, files => files
  | n + 1, files =>
    chainFiles logger n (shiftFile (rotatedName logger n) (rotatedName logger (n + 1)) files)

lemma rotateChain_calm (n : Nat) (st : LogState) :
    Calmly st (rotateChain logger n) () { st with files := chainFiles logger n st.files } := by
  induction n generalizing st with
  | zero => rfl
  | succ n ih => exact calmly_bind (renameLog_calm _ _ st) (ih _)

lemma shiftFile_other {source target name : String} (hs : name ≠ source) (ht : name ≠ target) :
    shiftFile source target files name = files name := by
  unfold shiftFile moveFile
  split_ifs
  · rfl
  · simp [hs, ht]

/-- A file that is not there is no different from what it replaces, if that is not there either. -/
lemma shiftFile_target {source target : String} (h : files source = none → files target = none) :
    shiftFile source target files target = files source := by
  unfold shiftFile moveFile
  split_ifs with hnone
  · rw [hnone, h hnone]
  · simp

lemma shiftFile_source {source target : String} (hne : source ≠ target) :
    shiftFile source target files source = none := by
  unfold shiftFile moveFile
  split_ifs with hnone
  · exact hnone
  · simp [hne]

lemma chainFiles_other {n : Nat} {name : String} (h : ∀ j, j ≤ n → name ≠ rotatedName logger j) :
    chainFiles logger n files name = files name := by
  induction n generalizing files with
  | zero => rfl
  | succ n ih =>
    rw [chainFiles, ih (fun j hj => h j (by omega)),
      shiftFile_other (h n (by omega)) (h (n + 1) (le_refl _))]

lemma chainFiles_above {n k : Nat} (h : n < k) :
    chainFiles logger n files (rotatedName logger k) = files (rotatedName logger k) := by
  apply chainFiles_other
  intro j hj heq
  have hkj := rotatedName_inj.mp heq
  omega

lemma chainFiles_zero {n : Nat} (h : files (rotatedName logger 0) = none) :
    chainFiles logger n files (rotatedName logger 0) = none := by
  induction n generalizing files with
  | zero => exact h
  | succ n ih =>
    rw [chainFiles]
    apply ih
    cases n with
    | zero =>
      apply shiftFile_source
      simp [rotatedName_inj]
    | succ n =>
      rw [shiftFile_other (by simp [rotatedName_inj]) (by simp [rotatedName_inj])]
      exact h

/-- Without gaps in the chain, every file takes the next number. -/
lemma chainFiles_shift {n : Nat} (hgap : ∀ j, 1 ≤ j → j < n → files (rotatedName logger j) = none →
      files (rotatedName logger (j + 1)) = none) {j : Nat} (hj : 1 ≤ j) (hn : j + 1 ≤ n) :
    chainFiles logger n files (rotatedName logger (j + 1)) = files (rotatedName logger j) := by
  induction n generalizing files with
  | zero => omega
  | succ n ih =>
    rw [chainFiles]
    by_cases hlast : j = n
    · subst hlast
      rw [chainFiles_above (by omega), shiftFile_target (hgap j hj (by omega))]
    · have hne : ∀ {i k : Nat}, i ≠ k → rotatedName logger i ≠ rotatedName logger k :=
        fun hik heq => hik (rotatedName_inj.mp heq)
      rw [ih ?_ (by omega), shiftFile_other (hne hlast) (hne (by omega))]
      intro i hi hin hnone
      rw [shiftFile_other (hne (by omega)) (hne (by omega))] at hnone
      by_cases hend : i + 1 = n
      · rw [hend]
        exact shiftFile_source (hne (by omega))
      · rw [shiftFile_other (hne hend) (hne (by omega))]
        exact hgap i hi (by omega) hnone

end Renames

section Chains

/-- The bytes of a list of messages. -/
def logLines (messages : List (List UInt8)) : List UInt8 := messages.flatMap logOutput

/-- How many rotation files there can be. With a single file allowed there is one all the same. -/
def rotationSlots (logger : REventLogger) : Nat := max (logger.maxfiles - 1) 1

lemma rotationSlots_pos : 0 < rotationSlots logger := by
  unfold rotationSlots
  omega

/-- The files hold the messages of the chain, and the logger knows the size of the current one. -/
structure LogHolds (logger : REventLogger) (st : LogState) (current : List (List UInt8))
    (rotated : List (List (List UInt8))) : Prop where
  current_file : st.files logger.filename = some (logLines current)
  rotated_file : ∀ n, st.files (rotatedName logger (n + 1)) = (rotated[n]?).map logLines
  no_zero : st.files (rotatedName logger 0) = none
  no_other : ∀ name, name ≠ logger.filename → (∀ n, name ≠ rotatedName logger n) →
    st.files name = none
  opened : st.logstream = true
  working : st.broken = false
  size : st.filesize = (logLines current).length

/-- The message fits behind the current file, or nothing is ever rotated. -/
def Stays (logger : REventLogger) (current : List (List UInt8)) (message : List UInt8) : Prop :=
  logger.limit = 0 ∨ ((logLines current).length : Int) + (logOutput message).length ≤ logger.limit

variable {st : LogState} {current : List (List UInt8)} {rotated : List (List (List UInt8))}
  {message : List UInt8}

lemma logLines_append (messages : List (List UInt8)) (message : List UInt8) :
    logLines (messages ++ [message]) = logLines messages ++ logOutput message := by
  simp [logLines]

lemma rotateLogfiles_stays (h : LogHolds logger st current rotated)
    (hstays : Stays logger current message) :
    Calmly st (rotateLogfiles logger (logOutput message).length) () st := by
  refine calmly_read_bind ?_
  by_cases hzero : logger.limit = 0
  · rw [if_pos hzero]
    exact calmly_pure st ()
  · rw [if_neg hzero, if_pos]
    · exact calmly_pure st ()
    · rw [h.size]
      exact hstays.resolve_left hzero

/-- The files after a rotation. -/
def rotatedFiles (logger : REventLogger) (files : String → Option (List UInt8)) :
    String → Option (List UInt8) :=
  fun name =>
    if name = logger.filename then some []
    else if name = rotatedName logger 1 then files logger.filename
    else chainFiles logger (logger.maxfiles - 1) files name

lemma chainFiles_current {n : Nat} {files : String → Option (List UInt8)} :
    chainFiles logger n files logger.filename = files logger.filename :=
  chainFiles_other (fun j _ => (rotatedName_ne j).symm)

def openedFiles (logger : REventLogger) (files : String → Option (List UInt8)) :
    String → Option (List UInt8) :=
  fun name => if name = logger.filename then some ((files name).getD []) else files name

lemma openLog_calm (st : LogState) :
    Calmly st (openLog logger) ()
      { st with files := openedFiles logger st.files, logstream := true } := rfl

lemma openedFiles_shift {files : String → Option (List UInt8)} (h : files logger.filename ≠ none) :
    openedFiles logger (shiftFile logger.filename (rotatedName logger 1)
      (chainFiles logger (logger.maxfiles - 1) files)) = rotatedFiles logger files := by
  have hmoved : shiftFile logger.filename (rotatedName logger 1)
      (chainFiles logger (logger.maxfiles - 1) files) =
      moveFile logger.filename (rotatedName logger 1)
        (chainFiles logger (logger.maxfiles - 1) files) :=
    if_neg (by rwa [chainFiles_current])
  rw [hmoved]
  funext name
  unfold openedFiles rotatedFiles
  by_cases hname : name = logger.filename
  · subst hname
    rw [if_pos rfl, if_pos rfl, moveFile, if_neg (rotatedName_ne 1).symm, if_pos rfl,
      Option.getD_none]
  · rw [if_neg hname, if_neg hname, moveFile, if_neg hname, chainFiles_current]

lemma rotateLogfiles_rotates (h : LogHolds logger st current rotated) (hfiles : 1 ≤ logger.maxfiles)
    (hstays : ¬ Stays logger current message) :
    Calmly st (rotateLogfiles logger (logOutput message).length) ()
      { st with files := rotatedFiles logger st.files, logstream := true, filesize := 0 } := by
  simp only [Stays, not_or] at hstays
  have hclose : Calmly st (Prog.modify (fun st => { st with logstream := false }) : LogProg Unit) ()
      { st with logstream := false } := rfl
  have hsome : st.files logger.filename ≠ none := by
    rw [h.current_file]
    simp
  have hcurrent : chainFiles logger (logger.maxfiles - 1) st.files logger.filename ≠ none := by
    rwa [chainFiles_current]
  refine calmly_read_bind ?_
  rw [if_neg hstays.1, if_neg (by rw [h.size]; exact hstays.2)]
  refine calmly_bind hclose ?_
  rw [if_neg (by omega)]
  refine calmly_bind (rotateChain_calm _ _) (calmly_bind (renameLog_calm _ _ _) ?_)
  simp only [hcurrent, ne_eq, not_false_iff, decide_true, if_true]
  refine calmly_bind (openLog_calm _) ?_
  simp only [openedFiles_shift hsome]
  rfl

lemma appendLog_calm (output : List UInt8) (st : LogState) :
    Calmly st (appendLog logger output) () { st with
      files := fun name => if name = logger.filename then (st.files name).map (· ++ output)
        else st.files name } := rfl

lemma breakOnError_calm {p next : LogProg Unit} {st st₁ st₂ : LogState} (hp : Calmly st p () st₁)
    (hnext : Calmly st₁ next () st₂) : Calmly st (breakOnError p next) () st₂ :=
  calmly_bind (calmly_attempt hp) hnext

/-- The state after a message was appended. -/
def appended (logger : REventLogger) (st : LogState) (message : List UInt8) : LogState :=
  { st with
    files := fun name => if name = logger.filename then (st.files name).map
      (· ++ logOutput message) else st.files name
    filesize := st.filesize + (logOutput message).length }

lemma eventLogWriterFile_calm {st' : LogState} (h : LogHolds logger st current rotated)
    (hrotate : Calmly st (rotateLogfiles logger (logOutput message).length) () st') :
    Calmly st (eventLogWriterFile logger message) () (appended logger st' message) := by
  refine calmly_read_bind ?_
  rw [if_neg (by simp [h.working]), if_neg (by simp [h.opened])]
  exact breakOnError_calm hrotate (breakOnError_calm (appendLog_calm _ _) rfl)

lemma LogHolds.append (h : LogHolds logger st current rotated) :
    LogHolds logger (appended logger st message) (current ++ [message]) rotated where
  current_file := by
    simp only [appended, if_true, h.current_file, Option.map_some, logLines_append]
  rotated_file := by
    intro n
    simp only [appended, rotatedName_ne, if_false]
    exact h.rotated_file n
  no_zero := by
    simp only [appended, rotatedName_ne, if_false]
    exact h.no_zero
  no_other := by
    intro name hname hother
    simp only [appended, hname, if_false]
    exact h.no_other name hname hother
  opened := h.opened
  working := h.working
  size := by
    simp only [appended, h.size, logLines_append, List.length_append]
    push_cast
    rfl

lemma LogHolds.rotate (h : LogHolds logger st current rotated) (hfiles : 1 ≤ logger.maxfiles)
    (hlen : rotated.length ≤ rotationSlots logger) :
    LogHolds logger { st with files := rotatedFiles logger st.files, logstream := true,
                              filesize := 0 } []
      ((current :: rotated).take (rotationSlots logger)) where
  current_file := by simp [rotatedFiles, logLines]
  rotated_file := by
    intro n
    have hgap : ∀ j, 1 ≤ j → j < logger.maxfiles - 1 → st.files (rotatedName logger j) = none →
        st.files (rotatedName logger (j + 1)) = none := by
      intro j hj _ hnone
      obtain ⟨i, rfl⟩ := Nat.exists_eq_add_of_le' hj
      rw [h.rotated_file] at hnone ⊢
      simp only [Option.map_eq_none_iff, List.getElem?_eq_none_iff] at hnone ⊢
      omega
    simp only [rotatedFiles, rotatedName_ne, if_false, rotatedName_inj]
    cases n with
    | zero =>
      simp [h.current_file, rotationSlots_pos]
    | succ n =>
      rw [if_neg (by omega), List.getElem?_take]
      by_cases hin : n + 2 ≤ logger.maxfiles - 1
      · rw [chainFiles_shift hgap (by omega) hin, h.rotated_file,
          if_pos (by unfold rotationSlots; omega)]
        rfl
      · rw [chainFiles_above (by omega), h.rotated_file, if_neg (by unfold rotationSlots; omega)]
        simp only [Option.map_eq_none_iff, List.getElem?_eq_none_iff, Option.map_none]
        unfold rotationSlots at hlen
        omega
  no_zero := by
    simp only [rotatedFiles, rotatedName_ne, if_false, rotatedName_inj]
    exact chainFiles_zero h.no_zero
  no_other := by
    intro name hname hother
    simp only [rotatedFiles, hname, hother 1, if_false]
    rw [chainFiles_other (fun j _ => hother j)]
    exact h.no_other name hname hother
  opened := rfl
  working := h.working
  size := rfl

end Chains

section Runs

variable {st : LogState} {current : List (List UInt8)} {rotated : List (List (List UInt8))}
  {messages : List (List UInt8)} {message : List UInt8}

lemma limit_eq (logger : REventLogger) : logger.limit = logger.maxsize.toBitVec.toInt := rfl

lemma limit_ne_zero (h : logger.maxsize ≠ 0) : logger.limit ≠ 0 := by
  rw [limit_eq]
  intro hzero
  apply h
  apply UInt64.toBitVec_inj.mp
  exact BitVec.eq_of_toInt_eq (hzero.trans (by decide))

lemma limit_le (logger : REventLogger) : logger.limit ≤ logger.maxsize.toNat := by
  rw [limit_eq, BitVec.toInt_eq_toNat_cond]
  have hnat : logger.maxsize.toNat = logger.maxsize.toBitVec.toNat := rfl
  split_ifs
  · rw [hnat]
  · omega

/-- The chain ends with the last messages, and a file is only too large for a single message. -/
structure LogChain (logger : REventLogger) (messages : List (List UInt8)) (st : LogState)
    (current : List (List UInt8)) (rotated : List (List (List UInt8))) : Prop where
  holds : LogHolds logger st current rotated
  last : ∃ dropped, messages = dropped ++ (current :: rotated).reverse.flatten
  bounded : rotated.length ≤ rotationSlots logger
  sized : ∀ file ∈ current :: rotated, ((logLines file).length : Int) ≤ logger.limit ∨
    file.length ≤ 1
  whole : rotated = [] → current = messages ∧ (messages = [] ∨ ((logLines messages).length : Int) ≤
    logger.limit)
  overfull : rotated ≠ [] → messages ≠ [] ∧ logger.limit < (logLines messages).length

lemma LogChain.stays (h : LogChain logger messages st current rotated) (hlimit : logger.limit ≠ 0)
    (hstays : Stays logger current message) :
    LogChain logger (messages ++ [message]) (appended logger st message) (current ++ [message])
      rotated where
  holds := h.holds.append
  last := by
    obtain ⟨dropped, hdropped⟩ := h.last
    exact ⟨dropped, by rw [hdropped]; simp⟩
  bounded := h.bounded
  sized := by
    intro file hfile
    rcases List.mem_cons.mp hfile with rfl | hfile
    · left
      rw [logLines_append, List.length_append]
      push_cast
      exact hstays.resolve_left hlimit
    · exact h.sized file (by simp [hfile])
  whole := by
    intro hnone
    obtain ⟨rfl, -⟩ := h.whole hnone
    refine ⟨rfl, .inr ?_⟩
    rw [logLines_append, List.length_append]
    push_cast
    exact hstays.resolve_left hlimit
  overfull := by
    intro hsome
    obtain ⟨-, hover⟩ := h.overfull hsome
    refine ⟨by simp, ?_⟩
    rw [logLines_append, List.length_append]
    omega

lemma LogChain.rotates (h : LogChain logger messages st current rotated)
    (hfiles : 1 ≤ logger.maxfiles)
    (hstays : ¬ Stays logger current message) :
    LogChain logger (messages ++ [message])
      (appended logger { st with files := rotatedFiles logger st.files, logstream := true,
                                 filesize := 0 } message)
      [message] ((current :: rotated).take (rotationSlots logger)) where
  holds := (h.holds.rotate hfiles h.bounded).append
  last := by
    obtain ⟨dropped, hdropped⟩ := h.last
    refine ⟨dropped ++ ((current :: rotated).drop (rotationSlots logger)).reverse.flatten, ?_⟩
    have hsplit := congrArg (fun l => l.reverse.flatten)
      (List.take_append_drop (rotationSlots logger) (current :: rotated))
    simp only [List.reverse_append, List.flatten_append] at hsplit
    rw [hdropped, ← hsplit]
    simp
  bounded := List.length_take_le _ _
  sized := by
    intro file hfile
    rcases List.mem_cons.mp hfile with rfl | hfile
    · exact .inr (le_refl _)
    · exact h.sized file (List.mem_of_mem_take hfile)
  whole := by
    intro hnone
    have hpos : rotationSlots logger ≠ 0 := rotationSlots_pos.ne'
    simp [hpos] at hnone
  overfull := by
    intro _
    refine ⟨by simp, ?_⟩
    rw [logLines_append, List.length_append]
    by_cases hnone : rotated = []
    · obtain ⟨rfl, -⟩ := h.whole hnone
      have hlong := (not_or.mp hstays).2
      omega
    · have hover := (h.overfull hnone).2
      omega

/-- One more message: it stays in the current file, or a new file is started. -/
lemma LogChain.write (h : LogChain logger messages st current rotated) (hsize : logger.maxsize ≠ 0)
    (hfiles : 1 ≤ logger.maxfiles) (message : List UInt8) :
    ∃ st', Calmly st (eventLogWriterFile logger message) () st' ∧
      (Stays logger current message ∧
          LogChain logger (messages ++ [message]) st' (current ++ [message]) rotated ∨
        ¬ Stays logger current message ∧
          LogChain logger (messages ++ [message]) st' [message]
            ((current :: rotated).take (rotationSlots logger))) := by
  by_cases hstays : Stays logger current message
  · exact ⟨_, eventLogWriterFile_calm h.holds (rotateLogfiles_stays h.holds hstays),
      .inl ⟨hstays, h.stays (limit_ne_zero hsize) hstays⟩⟩
  · exact ⟨_, eventLogWriterFile_calm h.holds (rotateLogfiles_rotates h.holds hfiles hstays),
      .inr ⟨hstays, h.rotates hfiles hstays⟩⟩

/-- The state before the first start of a logger. -/
def noLogs : LogState := { files := fun _ => none }

/-- The state after a logger was set up without files and wrote the messages without a failure. -/
def logState (logger : REventLogger) (messages : List (List UInt8)) : LogState :=
  (runLogger logger messages (calm noLogs)).2.state

lemma runLogger_snoc {st' : LogState} (h : Calmly noLogs (runLogger logger messages) () st)
    (hwrite : Calmly st (eventLogWriterFile logger message) () st') :
    Calmly noLogs (runLogger logger (messages ++ [message])) () st' := by
  have hrun : runLogger logger (messages ++ [message]) =
      Prog.bind (runLogger logger messages) (fun _ => Prog.each (eventLogWriterFile logger)
        [message]) := by
    unfold runLogger
    rw [each_append]
    exact (bind_bind (rEventLogSetupLogger logger)
      (fun _ => Prog.each (eventLogWriterFile logger) messages)
      (fun _ => Prog.each (eventLogWriterFile logger) [message])).symm
  rw [hrun]
  exact calmly_bind h (calmly_bind hwrite (calmly_pure _ ()))

/-- The state after a logger was set up without files. -/
def startedLogs (logger : REventLogger) : LogState :=
  { files := openedFiles logger noLogs.files, logstream := true }

lemma rEventLogSetupLogger_calm : Calmly noLogs (rEventLogSetupLogger logger) ()
    (startedLogs logger) := by
  refine breakOnError_calm (openLog_calm noLogs) ?_
  have hsize : (((openedFiles logger noLogs.files logger.filename).getD []).length : Int) = 0 := by
    simp [openedFiles, noLogs]
  unfold startedLogs
  rw [← hsize]
  rfl

lemma runLogger_start : ∃ st, Calmly noLogs (runLogger logger []) () st ∧
    LogChain logger [] st [] [] := by
  refine ⟨_, calmly_bind rEventLogSetupLogger_calm (calmly_pure _ ()), ?_, ⟨[], rfl⟩, by simp, ?_,
    fun _ => ⟨rfl, .inl rfl⟩, fun hsome => absurd rfl hsome⟩
  · constructor
    · simp [startedLogs, openedFiles, noLogs, logLines]
    · intro n
      simp [startedLogs, openedFiles, noLogs, rotatedName_ne]
    · simp [startedLogs, openedFiles, noLogs, rotatedName_ne]
    · intro name hname _
      simp [startedLogs, openedFiles, noLogs, hname]
    · rfl
    · rfl
    · rfl
  · intro file hfile
    rw [List.mem_singleton.mp hfile]
    exact .inr (by simp)

/-- Without failures a logger that is set up without files keeps a chain of files. -/
lemma runLogger_chain (hsize : logger.maxsize ≠ 0) (hfiles : 1 ≤ logger.maxfiles)
    (messages : List (List UInt8)) :
    ∃ st current rotated, Calmly noLogs (runLogger logger messages) () st ∧
      LogChain logger messages st current rotated := by
  induction messages using List.reverseRecOn with
  | nil =>
    obtain ⟨st, hrun, hchain⟩ := runLogger_start
    exact ⟨st, [], [], hrun, hchain⟩
  | append_singleton before message ih =>
    obtain ⟨st, current, rotated, hrun, hchain⟩ := ih
    obtain ⟨st', hwrite, ⟨-, hchain'⟩ | ⟨-, hchain'⟩⟩ := hchain.write hsize hfiles message
    · exact ⟨st', _, _, runLogger_snoc hrun hwrite, hchain'⟩
    · exact ⟨st', _, _, runLogger_snoc hrun hwrite, hchain'⟩

lemma logState_of_calm (h : Calmly noLogs (runLogger logger messages) () st) :
    logState logger messages = st := by
  unfold logState
  rw [h]
  rfl

end Runs

section Contract

variable {st : LogState} {current : List (List UInt8)} {rotated : List (List (List UInt8))}
  {messages : List (List UInt8)} {message : List UInt8} {files : String → Option (List UInt8)}

/-- The text of the rotation files below a number, the highest number first. -/
def rotatedText (logger : REventLogger) (files : String → Option (List UInt8)) : Nat → List UInt8
  | 0 => []
  | n + 1 => (files (rotatedName logger n)).getD [] ++ rotatedText logger files n

/-- All rotation files from the highest number down, and then the current file. -/
def IsLogText (logger : REventLogger) (files : String → Option (List UInt8)) (text : List UInt8) :
    Prop :=
  ∃ top, (∀ n, top ≤ n → files (rotatedName logger n) = none) ∧
    text = rotatedText logger files top ++ (files logger.filename).getD []

/-- The names of all files, each one once. -/
def ListsFiles (files : String → Option (List UInt8)) (names : List String) : Prop :=
  names.Nodup ∧ ∀ name, name ∈ names ↔ files name ≠ none

/-- What a logger promises about its files after a sequence of messages. -/
structure LogContract (logger : REventLogger) (messages : List (List UInt8)) : Prop where
  runs : ∃ st, Calmly noLogs (runLogger logger messages) () st ∧ st.broken = false
  suffix : ∃ dropped kept, messages = dropped ++ kept ∧
    IsLogText logger (logState logger messages).files (logLines kept)
  few : ∃ names, ListsFiles (logState logger messages).files names ∧ names.length ≤ logger.maxfiles
  sized : ∀ name content, (logState logger messages).files name = some content →
    content.length ≤ logger.maxsize.toNat ∨ ∃ message ∈ messages, content = logOutput message
  drops : ∀ before message, messages = before ++ [message] →
    (∃ text, IsLogText logger (logState logger before).files text ∧
      IsLogText logger (logState logger messages).files (text ++ logOutput message)) ∨
    ∃ names, ListsFiles (logState logger before).files names ∧ names.length = logger.maxfiles

lemma LogHolds.rotatedText (h : LogHolds logger st current rotated) (n : Nat) :
    rotatedText logger st.files (n + 1) = logLines (rotated.take n).reverse.flatten := by
  induction n with
  | zero => simp [RaucUpdate.rotatedText, h.no_zero, logLines]
  | succ n ih =>
    rw [RaucUpdate.rotatedText, ih, h.rotated_file, List.take_add_one, List.reverse_append,
      List.flatten_append]
    cases rotated[n]? with
    | none => rfl
    | some file => simp [logLines]

lemma LogHolds.logText (h : LogHolds logger st current rotated) :
    IsLogText logger st.files (logLines (current :: rotated).reverse.flatten) := by
  refine ⟨rotated.length + 1, ?_, ?_⟩
  · intro n hn
    obtain ⟨k, rfl⟩ := Nat.exists_eq_add_of_le' (Nat.one_le_of_lt hn)
    rw [h.rotated_file, List.getElem?_eq_none (by omega), Option.map_none]
  · rw [h.rotatedText, List.take_length, h.current_file]
    simp [logLines]

/-- The current file and the rotation files up to the length of the chain. -/
def chainNames (logger : REventLogger) (rotated : List (List (List UInt8))) : List String :=
  logger.filename :: (List.range rotated.length).map (fun n => rotatedName logger (n + 1))

lemma LogHolds.lists (h : LogHolds logger st current rotated) :
    ListsFiles st.files (chainNames logger rotated) := by
  constructor
  · refine List.nodup_cons.mpr ⟨?_, ?_⟩
    · intro hmem
      obtain ⟨n, -, hn⟩ := List.mem_map.mp hmem
      exact rotatedName_ne _ hn
    · refine List.Nodup.map ?_ List.nodup_range
      intro m n hmn
      have hsucc := rotatedName_inj.mp hmn
      omega
  · intro name
    unfold chainNames
    by_cases hcurrent : name = logger.filename
    · subst hcurrent
      simp [h.current_file]
    · by_cases hother : ∀ n, name ≠ rotatedName logger n
      · rw [h.no_other name hcurrent hother]
        simp [hcurrent, fun n => (hother n).symm]
      · simp only [not_forall, not_not] at hother
        obtain ⟨n, rfl⟩ := hother
        cases n with
        | zero => simp [h.no_zero, rotatedName_ne, rotatedName_inj]
        | succ n => simp [h.rotated_file, rotatedName_ne, rotatedName_inj]

lemma chainNames_length : (chainNames logger rotated).length = rotated.length + 1 := by
  simp [chainNames]

lemma LogHolds.content (h : LogHolds logger st current rotated) {name : String}
    {content : List UInt8}
    (hfile : st.files name = some content) : ∃ file ∈ current :: rotated, content =
      logLines file := by
  by_cases hcurrent : name = logger.filename
  · subst hcurrent
    rw [h.current_file] at hfile
    exact ⟨current, by simp, (Option.some.inj hfile).symm⟩
  · by_cases hother : ∀ n, name ≠ rotatedName logger n
    · rw [h.no_other name hcurrent hother] at hfile
      cases hfile
    · simp only [not_forall, not_not] at hother
      obtain ⟨n, rfl⟩ := hother
      cases n with
      | zero =>
        rw [h.no_zero] at hfile
        cases hfile
      | succ n =>
        rw [h.rotated_file] at hfile
        obtain ⟨file, hget, rfl⟩ := Option.map_eq_some_iff.mp hfile
        exact ⟨file, List.mem_cons_of_mem _ (List.mem_of_getElem? hget), rfl⟩

lemma LogChain.content (h : LogChain logger messages st current rotated) {name : String}
    {content : List UInt8}
    (hfile : st.files name = some content) :
    content.length ≤ logger.maxsize.toNat ∨ ∃ message ∈ messages, content = logOutput message := by
  obtain ⟨file, hmem, rfl⟩ := h.holds.content hfile
  rcases h.sized file hmem with hsize | hsingle
  · have hle := limit_le logger
    left
    omega
  · match file, hsingle with
    | [], _ => exact .inl (Nat.zero_le _)
    | [message], _ =>
      refine .inr ⟨message, ?_, by simp [logLines]⟩
      obtain ⟨dropped, hdropped⟩ := h.last
      rw [hdropped]
      refine List.mem_append_right _ (List.mem_flatten.mpr ⟨[message], ?_, by simp⟩)
      exact List.mem_reverse.mpr hmem

lemma ListsFiles.length_eq {names others : List String} (h : ListsFiles files names)
    (h' : ListsFiles files others) :
    names.length = others.length :=
  ((List.perm_ext_iff_of_nodup h.1 h'.1).mpr fun name =>
    (h.2 name).trans (h'.2 name).symm).length_eq

/-- The condition under which the bound on the rotation files is the configured one. -/
def KeepsToFiles (logger : REventLogger) (messages : List (List UInt8)) : Prop :=
  logger.maxfiles = 1 → messages = [] ∨ ((logLines messages).length : Int) ≤ logger.limit

lemma LogChain.rotated_nil (h : LogChain logger messages st current rotated)
    (hkeeps : KeepsToFiles logger messages)
    (hone : logger.maxfiles = 1) : rotated = [] := by
  by_contra hsome
  obtain ⟨hne, hover⟩ := h.overfull hsome
  rcases hkeeps hone with hnil | hfits
  · exact hne hnil
  · omega

lemma KeepsToFiles.before {before : List (List UInt8)}
    (h : KeepsToFiles logger (before ++ [message])) :
    KeepsToFiles logger before := by
  intro hone
  rcases h hone with hnil | hfits
  · simp at hnil
  · rw [logLines_append, List.length_append] at hfits
    exact .inr (by omega)

/-- A write adds to the text of the files, or drops the oldest of as many files as are allowed. -/
lemma LogChain.write_text (h : LogChain logger messages st current rotated)
    (hsize : logger.maxsize ≠ 0)
    (hfiles : 1 ≤ logger.maxfiles) (hkeeps : KeepsToFiles logger (messages ++ [message])) :
    ∃ st', Calmly st (eventLogWriterFile logger message) () st' ∧
      ((∃ text, IsLogText logger st.files text ∧
        IsLogText logger st'.files (text ++ logOutput message)) ∨
        ∃ names, ListsFiles st.files names ∧ names.length = logger.maxfiles) := by
  obtain ⟨st', hwrite, ⟨-, hchain⟩ | ⟨-, hchain⟩⟩ := h.write hsize hfiles message
  · refine ⟨st', hwrite, .inl ⟨_, h.holds.logText, ?_⟩⟩
    have htext := hchain.holds.logText
    rwa [List.reverse_cons, List.flatten_append, List.flatten_singleton, ← List.append_assoc,
      logLines_append,
      ← List.flatten_singleton (l := current), ← List.flatten_append, ← List.reverse_cons] at htext
  · refine ⟨st', hwrite, ?_⟩
    by_cases hfull : rotated.length + 1 ≤ rotationSlots logger
    · left
      refine ⟨_, h.holds.logText, ?_⟩
      have htext := hchain.holds.logText
      rwa [List.take_of_length_le (by simpa using hfull), List.reverse_cons, List.flatten_append,
        List.flatten_singleton, logLines_append] at htext
    · right
      refine ⟨_, h.holds.lists, ?_⟩
      have hmany : logger.maxfiles ≠ 1 := by
        intro hone
        have hnil := hchain.rotated_nil hkeeps hone
        simp [rotationSlots_pos.ne'] at hnil
      have hbound := h.bounded
      unfold rotationSlots at hfull hbound
      rw [chainNames_length]
      omega

lemma LogContract.fits (h : LogContract logger messages) (hsize : logger.maxsize ≠ 0)
    (hone : logger.maxfiles = 1) :
    messages = [] ∨ ((logLines messages).length : Int) ≤ logger.limit := by
  obtain ⟨st, current, rotated, hrun, hchain⟩ := runLogger_chain hsize hone.ge messages
  by_cases hnil : rotated = []
  · exact (hchain.whole hnil).2
  · obtain ⟨names, hlists, hfew⟩ := h.few
    rw [logState_of_calm hrun] at hlists
    have hlen := hlists.length_eq hchain.holds.lists
    have hpos := List.length_pos_of_ne_nil hnil
    rw [chainNames_length] at hlen
    omega

/-- A logger keeps its promises unless a single file is allowed and the messages need a rotation. -/
theorem logContract_iff (hsize : logger.maxsize ≠ 0) (hfiles : 1 ≤ logger.maxfiles)
    (messages : List (List UInt8)) :
    LogContract logger messages ↔
      (logger.maxfiles = 1 → messages = [] ∨ ((logLines messages).length : Int) ≤
        logger.limit) := by
  obtain ⟨st, current, rotated, hrun, hchain⟩ := runLogger_chain hsize hfiles messages
  have hstate := logState_of_calm hrun
  constructor
  · exact fun hcontract hone => hcontract.fits hsize hone
  · intro hkeeps
    constructor
    · exact ⟨st, hrun, hchain.holds.working⟩
    · obtain ⟨dropped, hlast⟩ := hchain.last
      exact ⟨dropped, _, hlast, by rw [hstate]; exact hchain.holds.logText⟩
    · refine ⟨_, by rw [hstate]; exact hchain.holds.lists, ?_⟩
      rw [chainNames_length]
      by_cases hone : logger.maxfiles = 1
      · simp [hchain.rotated_nil hkeeps hone, hone]
      · have hbound := hchain.bounded
        unfold rotationSlots at hbound
        omega
    · intro name content hfile
      rw [hstate] at hfile
      exact hchain.content hfile
    · rintro before message rfl
      obtain ⟨stb, currentb, rotatedb, hrunb, hchainb⟩ := runLogger_chain hsize hfiles before
      obtain ⟨st', hwrite, htext⟩ := hchainb.write_text hsize hfiles hkeeps
      rw [logState_of_calm hrunb, logState_of_calm (runLogger_snoc hrunb hwrite)]
      exact htext

theorem logContract_iff_three : LogContract ⟨"log", "/var/log/rauc.log", 2, 3⟩
    [[65, 65], [66, 66], [67]] :=
  (logContract_iff (by decide) (by decide) _).mpr (by simp)

/-- With one file allowed there are two files after the first rotation. -/
theorem not_logContract_one : ¬ LogContract ⟨"log", "/var/log/rauc.log", 2, 1⟩ [[65, 65]] := by
  intro h
  rcases h.fits (by decide) rfl with hnil | hfits
  · cases hnil
  · exact absurd hfits (by decide)

end Contract

end RaucUpdate
