import RaucUpdate.Library.WeakestPreconditions
import RaucUpdate.Model.EfiText
import RaucUpdate.Proofs.BootErrors

/-!
# The output of `efibootmgr`

What a listing has to hold so that the functions of the backend end with a result or a reported
error. The conditions are about the lines of the texts, about the slot, and about the commands that
fail.
-/

namespace RaucUpdate

open Library Prog

section Firmware

variable (tool : EfiTool)

lemma firmware_efiBootorderGetAgain : (firmwareCommands tool).efiBootorderGetAgain =
    efiBootorderGet := by
  funext w
  change Prog.bind (Prog.attempt efiBootorderGet) _ w = _
  unfold Prog.bind Prog.attempt
  cases efiBootorderGet w with
  | mk o w' =>
    cases o with
    | value bootorder => rfl
    | exit x => cases x <;> rfl

lemma firmware_efiBootorderPrepare (slot : RaucSlot) :
    (firmwareCommands tool).efiBootorderPrepare slot = efiBootorderPrepare tool slot := by
  unfold EfiCommands.efiBootorderPrepare efiBootorderPrepare
  rw [firmware_efiBootorderGetAgain]
  rfl

lemma firmware_efiModifyPersistentBootorder (slot : RaucSlot) (prepend : Bool) :
    (firmwareCommands tool).efiModifyPersistentBootorder slot prepend =
      efiModifyPersistentBootorder tool slot prepend := by
  unfold EfiCommands.efiModifyPersistentBootorder efiModifyPersistentBootorder
  rw [firmware_efiBootorderPrepare]
  rfl

lemma firmware_efiSetTempPrimary (slot : RaucSlot) :
    (firmwareCommands tool).efiSetTempPrimary slot = efiSetTempPrimary tool slot := by
  unfold EfiCommands.efiSetTempPrimary efiSetTempPrimary
  rw [firmware_efiBootorderPrepare]
  rfl

/-- On the variables of the firmware the calls are those of the backend. -/
theorem firmware_calls (config : RaucConfig) (order : List RaucSlot) (slot : RaucSlot)
    (good : Bool) :
    (firmwareCommands tool).rEfiSetState slot good = rEfiSetState tool slot good ∧
      (firmwareCommands tool).rEfiSetPrimary config slot = rEfiSetPrimary tool config slot ∧
      (firmwareCommands tool).rEfiGetPrimary order = rEfiGetPrimary order ∧
      (firmwareCommands tool).rEfiGetState slot = rEfiGetState slot := by
  refine ⟨firmware_efiModifyPersistentBootorder tool slot good, ?_, rfl, rfl⟩
  unfold EfiCommands.rEfiSetPrimary rEfiSetPrimary
  rw [firmware_efiSetTempPrimary, firmware_efiModifyPersistentBootorder]

end Firmware

section Readings

/-- The entry lines of a listing. -/
def listedEntries (output : String) : List EfiBootentry := (efiLines output).filterMap matchEntry

/-- A listing that can be read: it has an entry line and a line with the order. -/
structure ReadableListing (output : String) : Prop where
  entries : listedEntries output ≠ []
  order : ∃ line ∈ efiLines output, matchBootOrder line ≠ none

/-- There is an entry with the bootname of the slot. -/
def ListsSlot (slot : RaucSlot) (output : String) : Prop :=
  ∃ entry ∈ listedEntries output, some entry.name = slot.bootname

/-- The first line with the current boot number leads to an entry. -/
def ListsCurrent (output : String) : Prop :=
  ∃ num, (efiLines output).findSome? matchBootCurrent = some num ∧ ∃ entry ∈ listedEntries output,
    num = entry.num

variable {output : String} {bootorder : EfiBootorder} {slot : RaucSlot}

/-- What is known about a listing that was read. -/
lemma parseEfiListing_ok (h : parseEfiListing (efiLines output) = .ok bootorder) :
    listedEntries output ≠ [] ∧ (∃ text, (efiLines output).findSome? matchBootOrder = some text) ∧
      bootorder.allEntries = listedEntries output ∧
      bootorder.bootcurrent =
        ((efiLines output).findSome? matchBootCurrent).bind
          (getEfiEntryByBootnum (listedEntries output)) := by
  unfold parseEfiListing at h
  dsimp only at h
  split_ifs at h with hentries
  cases horder : (efiLines output).findSome? matchBootOrder with
  | none =>
    rw [horder] at h
    cases h
  | some text =>
    rw [horder] at h
    cases h
    exact ⟨hentries, ⟨text, rfl⟩, rfl, rfl⟩

lemma readableListing_iff : ReadableListing output ↔ ∃ bootorder, parseEfiListing
    (efiLines output) = .ok bootorder := by
  constructor
  · intro h
    obtain ⟨line, hline, hmatch⟩ := h.order
    cases horder : (efiLines output).findSome? matchBootOrder with
    | none => exact absurd (List.findSome?_eq_none_iff.mp horder line hline) hmatch
    | some text =>
      unfold parseEfiListing
      have hentries : (efiLines output).filterMap matchEntry ≠ [] := h.entries
      simp only [if_neg hentries, horder]
      exact ⟨_, rfl⟩
  · rintro ⟨bootorder, h⟩
    obtain ⟨hentries, ⟨text, horder⟩, -⟩ := parseEfiListing_ok h
    obtain ⟨line, hline, hmatch⟩ := List.exists_of_findSome?_eq_some horder
    exact ⟨hentries, line, hline, by rw [hmatch]; simp⟩

lemma efiSlotEntry_listed (h : parseEfiListing (efiLines output) = .ok bootorder) :
    (efiSlotEntry slot bootorder.allEntries).isSome ↔ ListsSlot slot output := by
  rw [(parseEfiListing_ok h).2.2.1]
  simp [efiSlotEntry, ListsSlot, namedLike]

lemma bootcurrent_listed (h : parseEfiListing (efiLines output) = .ok bootorder) :
    bootorder.bootcurrent.isSome ↔ ListsCurrent output := by
  rw [(parseEfiListing_ok h).2.2.2]
  cases hnum : (efiLines output).findSome? matchBootCurrent with
  | none => simp [ListsCurrent, hnum]
  | some num => simp [ListsCurrent, hnum, getEfiEntryByBootnum, and_comm]

end Readings

section Printed

/-- How `efibootmgr` prints a line. -/
def efiLineText : EfiLine → String
  | .bootNext num => "BootNext: " ++ num
  | .bootCurrent num => "BootCurrent: " ++ num
  | .bootOrder text => "BootOrder: " ++ text
  | .entry num text => "Boot" ++ (num ++ ("* " ++ text))
  | .other text => text

def efiOutput (lines : List EfiLine) : String :=
  String.ofList (lines.flatMap (fun line => (efiLineText line).toList ++ ['\n']))

lemma dropLiteral_append (literal rest : List Char) : dropLiteral literal (literal ++ rest) =
    some rest := by
  induction literal with
  | nil => rfl
  | cons c literal ih => simp [dropLiteral, ih]

lemma dropLiteral_ne (p l r : List Char) {a b : Char} (h : a ≠ b) :
    dropLiteral (p ++ a :: l) (p ++ b :: r) = none := by
  induction p with
  | nil => simp [dropLiteral, h]
  | cons c p ih => simp [dropLiteral, ih]

lemma nextLiteral : "BootNext: ".toList = "Boot".toList ++ 'N' :: "ext: ".toList := by decide

lemma currentLiteral : "BootCurrent: ".toList = "Boot".toList ++ 'C' :: ("urrent: ".toList) := by
    decide

lemma orderLiteral : "BootOrder: ".toList = "Boot".toList ++ 'O' :: "rder: ".toList := by decide

lemma readBootnum_append {literal num : String} (h : isBootnum num = true) :
    readBootnum literal (literal.toList ++ num.toList) = some num := by
  simp [readBootnum, dropLiteral_append, h]

lemma readWord_append (literal text : String) :
    readWord literal (literal.toList ++ text.toList) =
      if text ≠ "" ∧ text.toList.all (fun c => !isRegexSpace c) then some text else none := by
  simp [readWord, dropLiteral_append]

/-- Behind `Boot` the literals go on with different letters. -/
lemma readBootnum_other {literal : String} {line rest rest' : List Char} {a b : Char}
    (hliteral : literal.toList = "Boot".toList ++ a :: rest)
    (hline : line = "Boot".toList ++ b :: rest') (h : a ≠ b) :
    readBootnum literal line = none := by
  rw [readBootnum, hliteral, hline, dropLiteral_ne _ _ _ h]
  rfl

lemma readWord_other {literal : String} {line rest rest' : List Char} {a b : Char}
    (hliteral : literal.toList = "Boot".toList ++ a :: rest)
    (hline : line = "Boot".toList ++ b :: rest') (h : a ≠ b) :
    readWord literal line = none := by
  rw [readWord, hliteral, hline, dropLiteral_ne _ _ _ h]
  rfl

lemma efiLine_bootNext {num : String} (h : isBootnum num = true) :
    efiLine ("BootNext: " ++ num).toList = .bootNext num := by
  rw [String.toList_append]
  unfold efiLine
  simp only [readBootnum_append h]

lemma efiLine_bootCurrent {num : String} (h : isBootnum num = true) :
    efiLine ("BootCurrent: " ++ num).toList = .bootCurrent num := by
  rw [String.toList_append]
  have hnext : readBootnum "BootNext: " ("BootCurrent: ".toList ++ num.toList) = none := by
    have hline : "BootCurrent: ".toList ++ num.toList =
        "Boot".toList ++ 'C' :: ("urrent: ".toList ++ num.toList) := by
      rw [currentLiteral, List.append_assoc, List.cons_append]
    exact readBootnum_other nextLiteral hline (by decide)
  unfold efiLine
  simp only [hnext, readBootnum_append h]

lemma efiLine_bootOrder (text : String) : efiLine ("BootOrder: " ++ text).toList =
    if text ≠ "" ∧ text.toList.all (fun c => !isRegexSpace c) then .bootOrder text
    else .other ("BootOrder: " ++ text) := by
  rw [← String.ofList_toList (s := "BootOrder: " ++ text), String.toList_ofList,
    String.toList_append]
  have hline : "BootOrder: ".toList ++ text.toList =
      "Boot".toList ++ 'O' :: ("rder: ".toList ++ text.toList) := by
    rw [orderLiteral, List.append_assoc, List.cons_append]
  have hnext := readBootnum_other nextLiteral hline (by decide)
  have hcurrent := readBootnum_other currentLiteral hline (by decide)
  have hentry : readBootentry ("BootOrder: ".toList ++ text.toList) = none := by
    rw [hline, readBootentry, dropLiteral_append]
    have hrest : "rder: ".toList = ['r', 'd', 'e', 'r', ':', ' '] := by decide
    simp [hrest]
  unfold efiLine
  simp only [hnext, hcurrent, hentry, readWord_append]
  split_ifs <;> rfl

lemma isBootnum_digits {num : String} (h : isBootnum num = true) :
    ∃ a b c d, num.toList = [a, b, c, d] ∧ ∀ x ∈ num.toList, (digitVal x).any (fun v => v < 16) =
      true := by
  simp only [isBootnum, Bool.and_eq_true, beq_iff_eq, List.all_eq_true] at h
  obtain ⟨a, b, c, d, hnum⟩ := List.length_eq_four.mp h.1
  exact ⟨a, b, c, d, hnum, h.2⟩

lemma efiLine_entry {num : String} (h : isBootnum num = true) (text : String) :
    efiLine ("Boot" ++ (num ++ ("* " ++ text))).toList =
      if text ≠ "" then .entry num text else .other ("Boot" ++ (num ++ ("* " ++ text))) := by
  have hmark : "* ".toList = ['*', ' '] := by decide
  have hchars : ("Boot" ++ (num ++ ("* " ++ text))).toList =
      "Boot".toList ++ (num.toList ++ '*' :: ' ' :: text.toList) := by
    rw [String.toList_append, String.toList_append, String.toList_append, hmark]
    rfl
  rw [← String.ofList_toList (s := "Boot" ++ (num ++ ("* " ++ text))), String.toList_ofList, hchars]
  obtain ⟨a, b, c, d, hnum, hdigits⟩ := isBootnum_digits h
  rw [hnum] at hdigits
  have hne : ∀ {x l : Char}, (digitVal l).any (fun v => v < 16) = false →
      x ∈ [a, b, c, d] → l ≠ x := by
    rintro x l hl hx rfl
    rw [hdigits _ hx] at hl
    cases hl
  have hline : "Boot".toList ++ (num.toList ++ '*' :: ' ' :: text.toList) =
      "Boot".toList ++ a :: (b :: c :: d :: '*' :: ' ' :: text.toList) := by
    rw [hnum]
    rfl
  have hnext := readBootnum_other nextLiteral hline (hne (by decide) (by simp))
  have horder := readWord_other orderLiteral hline (hne (by decide) (by simp))
  have hcurrent :
      readBootnum "BootCurrent: " ("Boot".toList ++ (num.toList ++ '*' :: ' ' :: text.toList)) =
      none := by
    by_cases ha : 'C' = a
    · have hlong : "BootCurrent: ".toList = ("Boot".toList ++ ['C']) ++
        'u' :: "rrent: ".toList := by decide
      have hsecond : "Boot".toList ++ a :: (b :: c :: d :: '*' :: ' ' :: text.toList) =
          ("Boot".toList ++ ['C']) ++ b :: (c :: d :: '*' :: ' ' :: text.toList) := by
        rw [← ha, List.append_assoc, List.singleton_append]
      rw [readBootnum, hlong, hline, hsecond, dropLiteral_ne _ _ _ (hne (by decide) (by simp))]
      rfl
    · exact readBootnum_other currentLiteral hline ha
  have hentry : readBootentry ("Boot".toList ++ (num.toList ++ '*' :: ' ' :: text.toList)) =
      if text ≠ "" then some (num, text) else none := by
    have hback : String.ofList [a, b, c, d] = num := by rw [← hnum, String.ofList_toList]
    rw [readBootentry, dropLiteral_append, hnum]
    simp [hback, h]
  unfold efiLine
  simp only [hnext, hcurrent, horder, hentry]
  split_ifs <;> rfl

/-- A line that reads back as it was printed. -/
def PrintedLine : EfiLine → Prop
  | .bootNext num => isBootnum num = true
  | .bootCurrent num => isBootnum num = true
  | .bootOrder text => ∀ c ∈ text.toList, isRegexSpace c = false ∧ c ≠ '\x00'
  | .entry num text => isBootnum num = true ∧ ∀ c ∈ text.toList, isNewline c = false ∧ c ≠ '\x00'
  | .other _ => False

/-- A line without a character that ends a line or the text. -/
def PlainLine (line : List Char) : Prop := ∀ c ∈ line, isNewline c = false ∧ c ≠ '\x00'

lemma plainLine_append {xs ys : List Char} (hx : PlainLine xs) (hy : PlainLine ys) :
    PlainLine (xs ++ ys) := by
  intro c hc
  rcases List.mem_append.mp hc with hc | hc
  · exact hx c hc
  · exact hy c hc

lemma plainLine_bootnum {num : String} (h : isBootnum num = true) : PlainLine num.toList := by
  obtain ⟨a, b, c, d, -, hdigits⟩ := isBootnum_digits h
  intro x hx
  have hdigit := hdigits x hx
  constructor
  · by_contra hnewline
    simp only [isNewline, List.contains_eq_mem, List.mem_cons, List.not_mem_nil, or_false,
      decide_eq_false_iff_not,
      not_not] at hnewline
    rcases hnewline with rfl | rfl | rfl | rfl | rfl | rfl | rfl <;> exact absurd hdigit (by decide)
  · rintro rfl
    exact absurd hdigit (by decide)

lemma PrintedLine.plain {line : EfiLine} (h : PrintedLine line) :
    PlainLine (efiLineText line).toList := by
  have hnext : PlainLine "BootNext: ".toList := by simp [PlainLine, isNewline]
  have hcurrent : PlainLine "BootCurrent: ".toList := by simp [PlainLine, isNewline]
  have horder : PlainLine "BootOrder: ".toList := by simp [PlainLine, isNewline]
  have hentry : PlainLine "Boot".toList := by simp [PlainLine, isNewline]
  have hmark : PlainLine "* ".toList := by simp [PlainLine, isNewline]
  cases line with
  | bootNext num =>
    rw [efiLineText, String.toList_append]
    exact plainLine_append hnext (plainLine_bootnum h)
  | bootCurrent num =>
    rw [efiLineText, String.toList_append]
    exact plainLine_append hcurrent (plainLine_bootnum h)
  | bootOrder text =>
    rw [efiLineText, String.toList_append]
    refine plainLine_append horder fun c hc => ⟨?_, (h c hc).2⟩
    have hspace := (h c hc).1
    simp only [isRegexSpace, Bool.or_eq_false_iff] at hspace
    exact hspace.1.1.1.1
  | entry num text =>
    rw [efiLineText, String.toList_append, String.toList_append, String.toList_append]
    exact plainLine_append hentry (plainLine_append (plainLine_bootnum h.1)
      (plainLine_append hmark h.2))
  | other text => exact absurd h not_false

lemma stdoutLines_efiOutput {lines : List EfiLine}
    (h : ∀ line ∈ lines, PlainLine (efiLineText line).toList) :
    stdoutLines (efiOutput lines) = lines.map (fun line => (efiLineText line).toList) ++ [[]] := by
  have hwhole : (efiOutput lines).toList.takeWhile (fun c => c != '\x00') =
      lines.flatMap (fun line => (efiLineText line).toList ++ ['\n']) := by
    unfold efiOutput
    rw [String.toList_ofList, List.takeWhile_eq_self_iff]
    intro c hc
    obtain ⟨line, hline, hmem⟩ := List.mem_flatMap.mp hc
    rcases List.mem_append.mp hmem with hmem | hmem
    · simpa using (h line hline c hmem).2
    · rw [List.mem_singleton.mp hmem]
      decide
  unfold stdoutLines
  rw [hwhole]
  clear hwhole
  induction lines with
  | nil => rfl
  | cons line rest ih =>
    rw [List.flatMap_cons, List.append_assoc, List.singleton_append,
      List.splitOnP_append_cons_of_forall_mem (fun c hc => (h line (by simp) c hc).1) _ (by decide),
      ih (fun l hl => h l (List.mem_cons_of_mem _ hl))]
    rfl

/-- The expressions find the same in both lines. -/
structure SameMatches (line line' : EfiLine) : Prop where
  entry : matchEntry line = matchEntry line'
  bootNext : matchBootNext line = matchBootNext line'
  bootCurrent : matchBootCurrent line = matchBootCurrent line'
  bootOrder : matchBootOrder line = matchBootOrder line'

lemma sameMatches_refl (line : EfiLine) : SameMatches line line := ⟨rfl, rfl, rfl, rfl⟩

lemma PrintedLine.sameMatches {line : EfiLine} (h : PrintedLine line) :
    SameMatches (efiLine (efiLineText line).toList) line := by
  cases line with
  | bootNext num =>
    rw [efiLineText, efiLine_bootNext h]
    exact sameMatches_refl _
  | bootCurrent num =>
    rw [efiLineText, efiLine_bootCurrent h]
    exact sameMatches_refl _
  | bootOrder text =>
    rw [efiLineText, efiLine_bootOrder]
    by_cases htext : text = ""
    · rw [if_neg (fun hboth => hboth.1 htext)]
      exact ⟨rfl, rfl, rfl, by simp [matchBootOrder, htext]⟩
    · rw [if_pos ⟨htext, by simpa using fun c hc => (h c hc).1⟩]
      exact sameMatches_refl _
  | entry num text =>
    rw [efiLineText, efiLine_entry h.1]
    by_cases htext : text = ""
    · rw [if_neg (not_not.mpr htext)]
      exact ⟨by simp [matchEntry, htext], rfl, rfl, rfl⟩
    · rw [if_pos htext]
      exact sameMatches_refl _
  | other text => exact absurd h not_false

lemma efiLines_efiOutput {lines : List EfiLine} (h : ∀ line ∈ lines, PrintedLine line) :
    efiLines (efiOutput lines) = lines.map (fun line => efiLine (efiLineText line).toList) ++
      [.other ""] := by
  unfold efiLines
  rw [stdoutLines_efiOutput (fun line hline => (h line hline).plain), List.map_append, List.map_map]
  rfl

/-- Printing and reading leaves what the expressions find in the lines. -/
lemma matches_efiOutput {β : Type} {find : EfiLine → Option β} {lines : List EfiLine}
    (h : ∀ line ∈ lines, PrintedLine line) (hother : find (.other "") = none)
    (hfind : ∀ {line line'}, SameMatches line line' → find line = find line') :
    (efiLines (efiOutput lines)).filterMap find = lines.filterMap find := by
  have hsame : ∀ line ∈ lines, find (efiLine (efiLineText line).toList) = find line :=
    fun line hline => hfind (h line hline).sameMatches
  rw [efiLines_efiOutput h, List.filterMap_append, List.filterMap_map]
  simp only [List.filterMap_cons, hother, List.filterMap_nil, List.append_nil]
  exact List.filterMap_congr hsame

theorem parseEfiListing_efiOutput {lines : List EfiLine} (h : ∀ line ∈ lines, PrintedLine line) :
    parseEfiListing (efiLines (efiOutput lines)) = parseEfiListing lines := by
  have hentries := matches_efiOutput h rfl SameMatches.entry
  have hnext := matches_efiOutput h rfl SameMatches.bootNext
  have hcurrent := matches_efiOutput h rfl SameMatches.bootCurrent
  have horder := matches_efiOutput h rfl SameMatches.bootOrder
  unfold parseEfiListing
  simp only [← List.head?_filterMap, hentries, hnext, hcurrent, horder]

/-- A console that shows the variables of the firmware gives the listing of the variables. -/
theorem consoleBootorderGet_shows {vars : EfiVars} {console : EfiConsole} (fates : Nat → Fate)
    (hprinted : ∀ line ∈ efiListing vars, PrintedLine line)
    (hshows : console.listings 0 = efiOutput (efiListing vars)) :
    (consoleBootorderGet ⟨console, fates⟩).1 = (efiBootorderGet ⟨vars, fates⟩).1 := by
  have hparse := parseEfiListing_efiOutput hprinted
  rw [← hshows] at hparse
  unfold consoleBootorderGet efiBootorderGet
  cases hfate : fates 0 with
  | succeeds =>
    have hask : ∀ {σ : Type} (s : σ), (ask : Prog σ GError (Option Failure)) ⟨s, fates⟩ =
        (.value none, ⟨s, fun n => fates (n + 1)⟩) := fun s => by simp only [ask, hfate]
    rw [bind_of_value (hask console), bind_of_value (hask vars)]
    have hread : ∀ {σ : Type} (s : σ), (Prog.read : Prog σ GError σ) ⟨s, fun n => fates (n + 1)⟩ =
        (.value s, ⟨s, fun n => fates (n + 1)⟩) := fun s => rfl
    have hnext : (Prog.modify EfiConsole.next : ConsoleProg Unit) ⟨console, fun n =>
        fates (n + 1)⟩ =
        (.value (), ⟨console.next, fun n => fates (n + 1)⟩) := rfl
    dsimp only
    rw [bind_of_value (hread console), bind_of_value (hread vars), bind_of_value hnext, hparse]
    cases parseEfiListing (efiListing vars) with
    | error e => rfl
    | ok bootorder => rfl
  | fails failure =>
    have hask : ∀ {σ : Type} (s : σ), (ask : Prog σ GError (Option Failure)) ⟨s, fates⟩ =
        (.value (some failure), ⟨s, fun n => fates (n + 1)⟩) := fun s => by simp only [ask, hfate]
    rw [bind_of_value (hask console), bind_of_value (hask vars)]
    rfl
  | stops =>
    have hask : ∀ {σ : Type} (s : σ), (ask : Prog σ GError (Option Failure)) ⟨s, fates⟩ =
        (.exit .stopped, ⟨s, fun n => fates (n + 1)⟩) := fun s => by simp only [ask, hfate]
    rw [bind_of_exit (hask console), bind_of_exit (hask vars)]

end Printed

section Commands

variable {α : Type} {w : World EfiConsole} {slot : RaucSlot}

/-- A result, or an error that is set; the whole execution may also stop from outside. -/
def ProperExit : Exit GError → Prop
  | .error e => e.code ≠ .unset
  | .aborted _ => False
  | .stopped => True

/-- The world behind a listing. -/
def afterListing (w : World EfiConsole) : World EfiConsole := { w.next with state := w.state.next }

lemma wp_consoleBootorderGet {Q : EfiBootorder → World EfiConsole → Prop}
    {E : Exit GError → World EfiConsole → Prop} :
    Wp Q E consoleBootorderGet w ↔
      (w.fates 0 = .succeeds → match parseEfiListing (efiLines (w.state.listings 0)) with
        | .error e => E (.error e) (afterListing w)
        | .ok bootorder => Q bootorder (afterListing w)) ∧
      (∀ failure, w.fates 0 = .fails failure → E (.error (efiListError failure)) w.next) ∧
      (w.fates 0 = .stops → E .stopped w.next) := by
  unfold consoleBootorderGet
  rw [wp_ask_bind]
  refine and_congr (imp_congr_right fun _ => ?_)
    (and_congr (forall_congr' fun _ => Iff.rfl) Iff.rfl)
  rw [wp_read_bind, wp_modify_bind]
  simp only [World.next]
  cases parseEfiListing (efiLines (w.state.listings 0)) with
  | error e => rfl
  | ok bootorder => rfl

/-- Every exit is a stop or a reported error, and no failed precondition is logged on the way. -/
def Proper (logged : List String) (x : Exit GError) (w : World EfiConsole) : Prop :=
  ProperExit x ∧ w.state.criticals = logged

variable {logged : List String}

lemma wp_external_proper {Q : Unit → World EfiConsole → Prop} {report : Failure → GError}
    (hlogged : w.state.criticals = logged)
    (hreport : ∀ failure, ProperExit (.error (report failure))) :
    Wp Q (Proper logged) (external id report) w ↔ (w.fates 0 = .succeeds → Q () w.next) := by
  rw [wp_external]
  constructor
  · exact fun h => h.1
  · exact fun h => ⟨h, fun failure _ => ⟨hreport failure, hlogged⟩, fun _ => ⟨trivial, hlogged⟩⟩

/-- The first listing only goes on with what could be read. -/
lemma wp_listing {Q : EfiBootorder → World EfiConsole → Prop}
    (hlogged : w.state.criticals = logged) :
    Wp Q (Proper logged) consoleBootorderGet w ↔
      (w.fates 0 = .succeeds → ∀ bootorder, parseEfiListing (efiLines (w.state.listings 0)) =
        .ok bootorder →
        Q bootorder (afterListing w)) := by
  rw [wp_consoleBootorderGet]
  constructor
  · rintro ⟨hgood, -, -⟩ hfate bootorder hparse
    have hrun := hgood hfate
    rwa [hparse] at hrun
  · intro hgood
    refine ⟨?_, fun failure _ => ⟨efiListError_clean failure, hlogged⟩, fun _ => ⟨trivial, hlogged⟩⟩
    intro hfate
    cases hparse : parseEfiListing (efiLines (w.state.listings 0)) with
    | error e =>
      refine ⟨?_, hlogged⟩
      simp [ProperExit, parseEfiListing_error hparse]
    | ok bootorder => exact hgood hfate bootorder hparse

/-- The second listing must not fail. -/
lemma wp_listingAgain {Q : EfiBootorder → World EfiConsole → Prop}
    (hlogged : w.state.criticals = logged) :
    Wp Q (Proper logged) consoleCommands.efiBootorderGetAgain w ↔
      (∀ failure, w.fates 0 ≠ .fails failure) ∧
        (w.fates 0 = .succeeds → ∃ bootorder, parseEfiListing (efiLines (w.state.listings 0)) =
          .ok bootorder ∧
          Q bootorder (afterListing w)) := by
  subst hlogged
  have hlost : ∀ text, w.state.criticals ++ [text] ≠ w.state.criticals := by simp
  unfold EfiCommands.efiBootorderGetAgain
  rw [wp_bind, wp_attempt]
  unfold consoleCommands
  rw [wp_consoleBootorderGet]
  constructor
  · rintro ⟨hgood, hfails, -⟩
    constructor
    · intro failure hfate
      exact hlost _ (hfails failure hfate).2
    · intro hfate
      have hrun := hgood hfate
      cases hparse : parseEfiListing (efiLines (w.state.listings 0)) with
      | error e =>
        rw [hparse] at hrun
        exact absurd hrun.2 (hlost _)
      | ok bootorder =>
        rw [hparse] at hrun
        exact ⟨bootorder, rfl, hrun⟩
  · rintro ⟨hfails, hgood⟩
    refine ⟨?_, fun failure hfate => absurd hfate (hfails failure), fun _ => ⟨trivial, rfl⟩⟩
    intro hfate
    obtain ⟨bootorder, hparse, hQ⟩ := hgood hfate
    rw [hparse]
    exact hQ

lemma wp_consoleBootentryCreate {Q : Unit → World EfiConsole → Prop}
    (hlogged : w.state.criticals = logged) :
    Wp Q (Proper logged) (consoleBootentryCreate slot) w ↔
      slot.bootname ≠ none ∧
        (w.fates 0 = .succeeds → w.fates 1 = .succeeds → w.fates 2 = .succeeds →
          Q () w.next.next.next) := by
  unfold consoleBootentryCreate
  cases slot.bootname with
  | none =>
    constructor
    · intro h
      exact absurd rfl h.1
    · intro h
      exact absurd rfl h.1
  | some bootname =>
    have hdevice : ∀ failure : Failure,
        ProperExit (.error ⟨.bootchooserFailed, "Can't resolve device " ++ slot.device ++
          " for EFI boot entry"⟩) := by
      simp [ProperExit]
    have hpart : ∀ failure : Failure,
        ProperExit (.error ⟨.fileError, "Failed to read the partition number of " ++
          slot.device⟩) := by
      simp [ProperExit]
    have hfirst : w.next.state.criticals = logged := hlogged
    have hsecond : w.next.next.state.criticals = logged := hlogged
    dsimp only
    rw [wp_bind, wp_external_proper hlogged hdevice, wp_bind, wp_external_proper hfirst hpart,
      wp_external_proper hsecond (waitError_clean efibootmgrName)]
    exact ⟨fun h => ⟨by simp, h⟩, fun h => h.2⟩

end Commands

section Preparation

variable {α : Type} {w : World EfiConsole} {slot : RaucSlot} {logged : List String}

/-- An entry for the slot has to be created: it is not in the first listing, and it is known how it
boots. -/
structure CreatesEntry (slot : RaucSlot) (w : World EfiConsole) : Prop where
  read : w.fates 0 = .succeeds
  readable : ReadableListing (w.state.listings 0)
  missing : ¬ ListsSlot slot (w.state.listings 0)
  loader : slot.efiLoader ≠ none
  cmdline : slot.efiCmdline ≠ none

/-- The slot has a name for the entry, and if the entry is created, the second listing can be
read. -/
structure SafeCreation (slot : RaucSlot) (w : World EfiConsole) : Prop where
  bootname : CreatesEntry slot w → slot.bootname ≠ none
  listing : CreatesEntry slot w → (∀ n < 4, w.fates n = .succeeds) →
    ∀ failure, w.fates 4 ≠ .fails failure
  readable : CreatesEntry slot w → (∀ n < 5, w.fates n = .succeeds) →
    ReadableListing (w.state.listings 1)

/-- The listing that the order is prepared from, and the number of the next external step. -/
inductive PreparedFrom (slot : RaucSlot) (w : World EfiConsole) : Nat → Nat → Prop where
  | listed (hread : w.fates 0 = .succeeds) (hreadable : ReadableListing (w.state.listings 0))
      (hlisted : ListsSlot slot (w.state.listings 0)) : PreparedFrom slot w 0 1
  | created (hcreates : CreatesEntry slot w) (hbootname : slot.bootname ≠ none)
      (hfates : ∀ n < 5, w.fates n = .succeeds) (hreadable : ReadableListing (w.state.listings 1)) :
      PreparedFrom slot w 1 5

/-- The world behind so many listings and external steps. -/
def afterSteps (w : World EfiConsole) (listings steps : Nat) : World EfiConsole :=
  ⟨{ w.state with listings := fun n => w.state.listings (n + listings) }, fun n =>
    w.fates (n + steps)⟩

lemma wp_createEntry {Q : EfiBootorder → World EfiConsole → Prop}
    (hlogged : w.state.criticals = logged) :
    Wp Q (Proper logged) (do
        consoleCommands.efiBootentryCreate slot
        consoleCommands.efiBootorderGetAgain) (afterListing w) ↔
      slot.bootname ≠ none ∧
        (w.fates 1 = .succeeds → w.fates 2 = .succeeds → w.fates 3 = .succeeds →
          (∀ failure, w.fates 4 ≠ .fails failure) ∧
          (w.fates 4 = .succeeds → ∃ bootorder, parseEfiListing (efiLines (w.state.listings 1)) =
            .ok bootorder ∧
            Q bootorder (afterSteps w 2 5))) := by
  rw [wp_bind]
  refine (wp_consoleBootentryCreate (w := afterListing w) hlogged).trans
    (and_congr_right fun _ => ?_)
  refine imp_congr_right fun _ => imp_congr_right fun _ => imp_congr_right fun _ => ?_
  exact wp_listingAgain (w := (afterListing w).next.next.next) hlogged

lemma wp_efiBootorderPrepare {Q : EfiBootorder → World EfiConsole → Prop}
    (hlogged : w.state.criticals = logged) :
    Wp Q (Proper logged) (consoleCommands.efiBootorderPrepare slot) w ↔
      SafeCreation slot w ∧ ∀ index n, PreparedFrom slot w index n → ∀ bootorder,
        parseEfiListing (efiLines (w.state.listings index)) = .ok bootorder →
          Q bootorder (afterSteps w (index + 1) n) := by
  have hlisting : ∀ {Q : EfiBootorder → World EfiConsole → Prop},
      Wp Q (Proper logged) consoleCommands.efiBootorderGet w ↔
        (w.fates 0 = .succeeds → ∀ bootorder, parseEfiListing (efiLines (w.state.listings 0)) =
        .ok bootorder →
        Q bootorder (afterListing w)) := wp_listing hlogged
  unfold EfiCommands.efiBootorderPrepare
  rw [wp_bind, hlisting]
  constructor
  · intro h
    have hrun : CreatesEntry slot w → Wp Q (Proper logged) (do
        consoleCommands.efiBootentryCreate slot
        consoleCommands.efiBootorderGetAgain) (afterListing w) := by
      intro hcreates
      obtain ⟨bootorder, hparse⟩ := readableListing_iff.mp hcreates.readable
      have hbranch := h hcreates.read bootorder hparse
      rwa [if_neg (fun hsome => hcreates.missing ((efiSlotEntry_listed hparse).mp hsome)),
        if_neg (not_or.mpr ⟨hcreates.loader, hcreates.cmdline⟩)] at hbranch
    have hcreated := fun hcreates => (wp_createEntry hlogged).mp (hrun hcreates)
    refine ⟨⟨fun hcreates => (hcreated hcreates).1, ?_, ?_⟩, ?_⟩
    · intro hcreates hfates
      exact ((hcreated hcreates).2 (hfates 1 (by omega)) (hfates 2 (by omega))
        (hfates 3 (by omega))).1
    · intro hcreates hfates
      obtain ⟨-, hread⟩ := (hcreated hcreates).2 (hfates 1 (by omega)) (hfates 2 (by omega))
        (hfates 3 (by omega))
      obtain ⟨bootorder, hparse, -⟩ := hread (hfates 4 (by omega))
      exact readableListing_iff.mpr ⟨bootorder, hparse⟩
    · intro index n hprepared bootorder hparse
      cases hprepared with
      | listed hread hreadable hlisted =>
        have hrun := h hread bootorder hparse
        rwa [if_pos ((efiSlotEntry_listed hparse).mpr hlisted)] at hrun
      | created hcreates hbootname hfates hreadable =>
        obtain ⟨-, hread⟩ := (hcreated hcreates).2 (hfates 1 (by omega)) (hfates 2 (by omega))
          (hfates 3 (by omega))
        obtain ⟨bootorder', hparse', hQ⟩ := hread (hfates 4 (by omega))
        rw [hparse] at hparse'
        cases hparse'
        exact hQ
  · rintro ⟨hsafe, h⟩ hfate bootorder hparse
    have hreadable := readableListing_iff.mpr ⟨bootorder, hparse⟩
    by_cases hlisted : ListsSlot slot (w.state.listings 0)
    · rw [if_pos ((efiSlotEntry_listed hparse).mpr hlisted)]
      exact h 0 1 (.listed hfate hreadable hlisted) bootorder hparse
    · rw [if_neg (fun hsome => hlisted ((efiSlotEntry_listed hparse).mp hsome))]
      by_cases hcannot : slot.efiLoader = none ∨ slot.efiCmdline = none
      · rw [if_pos hcannot]
        refine ⟨?_, hlogged⟩
        simp [ProperExit]
      · rw [if_neg hcannot]
        obtain ⟨hloader, hcmdline⟩ := not_or.mp hcannot
        have hcreates : CreatesEntry slot w := ⟨hfate, hreadable, hlisted, hloader, hcmdline⟩
        refine (wp_createEntry hlogged).mpr ⟨hsafe.bootname hcreates, fun h1 h2 h3 => ?_⟩
        have hfour : ∀ n < 4, w.fates n = .succeeds := by
          intro n hn
          interval_cases n <;> assumption
        refine ⟨hsafe.listing hcreates hfour, fun h4 => ?_⟩
        have hfive : ∀ n < 5, w.fates n = .succeeds := by
          intro n hn
          interval_cases n <;> assumption
        have hagain := hsafe.readable hcreates hfive
        obtain ⟨bootorder', hparse'⟩ := readableListing_iff.mp hagain
        exact ⟨bootorder', hparse', h 1 5 (.created hcreates (hsafe.bootname hcreates) hfive
          hagain) bootorder' hparse'⟩

lemma PreparedFrom.parsed {index n : Nat} (h : PreparedFrom slot w index n) :
    ∃ bootorder, parseEfiListing (efiLines (w.state.listings index)) = .ok bootorder := by
  cases h with
  | listed hread hreadable hlisted => exact readableListing_iff.mp hreadable
  | created hcreates hbootname hfates hreadable => exact readableListing_iff.mp hreadable

end Preparation

section Operations

variable {α : Type} {w : World EfiConsole} {slot : RaucSlot} {logged : List String}
  {config : RaucConfig}
  {order : List RaucSlot}

/-- The program ends with a result or a reported error, and no failed precondition is logged. -/
def EndsProperly (p : Prog EfiConsole GError α) (w : World EfiConsole) : Prop :=
  Wp (fun _ w' => w'.state.criticals = w.state.criticals) (Proper w.state.criticals) p w

lemma wp_efiSetBootnext (hlogged : w.state.criticals = logged) (num : String) :
    Wp (fun _ w' => w'.state.criticals = logged) (Proper logged)
      (mapError (GError.prefixed "Setting bootnext failed: ") (consoleCommands.efiSetBootnext num))
        w := by
  rw [wp_mapError]
  refine (wp_external id (waitError efibootmgrName)).mpr ⟨fun _ => hlogged, ?_, fun _ =>
    ⟨trivial, hlogged⟩⟩
  exact fun failure _ => ⟨waitError_clean efibootmgrName failure, hlogged⟩

/-- What comes after the preparation depends on the listing only through some property of its
text. -/
lemma endsProperly_prepare_bind {f : EfiBootorder → Prog EfiConsole GError α} {P : Nat → Nat → Prop}
    (hf : ∀ index n bootorder, parseEfiListing (efiLines (w.state.listings index)) = .ok bootorder →
      (Wp (fun _ w' => w'.state.criticals = w.state.criticals) (Proper w.state.criticals)
        (f bootorder)
        (afterSteps w (index + 1) n) ↔ P index n)) :
    EndsProperly (consoleCommands.efiBootorderPrepare slot >>= f) w ↔
      SafeCreation slot w ∧ ∀ index n, PreparedFrom slot w index n → P index n := by
  unfold EndsProperly
  rw [wp_bind, wp_efiBootorderPrepare rfl]
  refine and_congr_right fun _ => forall_congr' fun index => forall_congr' fun n =>
    imp_congr_right fun hprepared => ?_
  constructor
  · intro h
    obtain ⟨bootorder, hparse⟩ := hprepared.parsed
    exact (hf index n bootorder hparse).mp (h bootorder hparse)
  · exact fun h bootorder hparse => (hf index n bootorder hparse).mpr h

/-- The error of a failed write is lost. -/
lemma wp_efiWriteBootorder (hlogged : w.state.criticals = logged) (entries : List EfiBootentry) :
    Wp (fun _ w' => w'.state.criticals = logged) (Proper logged)
      (consoleCommands.efiWriteBootorder entries) w ↔
      ∀ failure, w.fates 0 ≠ .fails failure := by
  unfold EfiCommands.efiWriteBootorder
  rw [wp_bind, wp_attempt]
  refine (wp_external id (waitError efibootmgrName)).trans ⟨?_, ?_⟩
  · rintro ⟨-, hfails, -⟩ failure hfate
    exact (hfails failure hfate).1 rfl
  · intro h
    exact ⟨fun _ => hlogged, fun failure hfate => absurd hfate (h failure), fun _ =>
      ⟨trivial, hlogged⟩⟩

/-- The write at the end of a change of the order. -/
def WritesSafely (slot : RaucSlot) (prepend : Bool) (w : World EfiConsole) : Prop :=
  SafeCreation slot w ∧ ∀ index n, PreparedFrom slot w index n →
    (prepend = true → ListsSlot slot (w.state.listings index)) ∧
      ∀ failure, w.fates n ≠ .fails failure

lemma endsProperly_modify (prepend : Bool) :
    EndsProperly (consoleCommands.efiModifyPersistentBootorder slot prepend) w ↔
      WritesSafely slot prepend w := by
  refine endsProperly_prepare_bind fun index n bootorder hparse => ?_
  have hwrite : ∀ entries, Wp (fun _ w' => w'.state.criticals = w.state.criticals)
      (Proper w.state.criticals)
      (consoleCommands.efiWriteBootorder entries) (afterSteps w (index + 1) n) ↔
        ∀ failure, w.fates n ≠ .fails failure := by
    intro entries
    refine (wp_efiWriteBootorder (w := afterSteps w (index + 1) n) rfl entries).trans ?_
    simp [afterSteps]
  rw [← efiSlotEntry_listed hparse]
  cases prepend with
  | false => simp [hwrite]
  | true =>
    cases efiSlotEntry slot bootorder.allEntries with
    | none =>
      constructor
      · exact fun h => absurd h.1 not_false
      · exact fun h => absurd (h.1 rfl) (by simp)
    | some entry => simp [hwrite]

lemma endsProperly_setTempPrimary :
    EndsProperly (consoleCommands.efiSetTempPrimary slot) w ↔
      SafeCreation slot w ∧ ∀ index n, PreparedFrom slot w index n →
        ListsSlot slot (w.state.listings index) := by
  refine endsProperly_prepare_bind fun index n bootorder hparse => ?_
  rw [← efiSlotEntry_listed hparse]
  cases efiSlotEntry slot bootorder.allEntries with
  | none =>
    constructor
    · exact fun h => absurd h.1 not_false
    · exact fun h => absurd h (by simp)
  | some entry =>
    exact ⟨fun _ => rfl, fun _ => wp_efiSetBootnext (w := afterSteps w (index + 1) n) rfl _⟩

lemma endsProperly_listing_bind (f : EfiBootorder → Prog EfiConsole GError α) :
    EndsProperly (consoleCommands.efiBootorderGet >>= f) w ↔
      (w.fates 0 = .succeeds → ∀ bootorder, parseEfiListing (efiLines (w.state.listings 0)) =
        .ok bootorder →
        EndsProperly (f bootorder) (afterListing w)) :=
  (wp_bind _ _).trans (wp_listing rfl)

lemma endsProperly_pure (a : α) : EndsProperly (Pure.pure a : Prog EfiConsole GError α) w := rfl

lemma endsProperly_fail {e : GError} (h : e.code ≠ .unset) :
    EndsProperly (Prog.fail e : Prog EfiConsole GError α) w :=
  ⟨h, rfl⟩

/-- The result of a call does not matter for how it ends. -/
lemma endsProperly_void (p : Prog EfiConsole GError α) :
    EndsProperly (p >>= fun _ => (Pure.pure () : Prog EfiConsole GError Unit)) w ↔
      EndsProperly p w := wp_bind _ _

lemma endsProperly_getPrimary : EndsProperly (consoleCommands.rEfiGetPrimary order) w := by
  refine (endsProperly_listing_bind _).mpr fun _ bootorder _ => ?_
  split
  · exact endsProperly_fail (by simp)
  · exact endsProperly_pure _

lemma endsProperly_getState : EndsProperly (consoleCommands.rEfiGetState slot) w :=
  (endsProperly_listing_bind _).mpr fun _ _ _ => endsProperly_pure _

lemma endsProperly_findCurrentBootname (bootcurrent : Option EfiBootentry) (slots : List RaucSlot) :
    EndsProperly (EfiCommands.findCurrentBootname bootcurrent slots : ConsoleProg (Option String))
      w ↔
      (slots ≠ [] → bootcurrent.isSome = true) := by
  cases bootcurrent with
  | none =>
    cases slots with
    | nil => exact ⟨fun _ h => absurd rfl h, fun _ => endsProperly_fail (by simp)⟩
    | cons slot rest =>
      exact ⟨fun h => absurd h.1 not_false, fun h => absurd (h (by simp)) (by simp)⟩
  | some current =>
    refine ⟨fun _ _ => rfl, fun _ => ?_⟩
    induction slots with
    | nil => exact endsProperly_fail (by simp)
    | cons slot rest ih =>
      unfold EfiCommands.findCurrentBootname
      dsimp only
      by_cases hname : namedLike slot current = true
      · rw [if_pos hname]
        exact endsProperly_pure _
      · rw [if_neg hname]
        exact ih (fun _ => rfl)

lemma endsProperly_getCurrentBootname :
    EndsProperly (consoleCommands.rEfiGetCurrentBootname order) w ↔
      (w.fates 0 = .succeeds → ReadableListing (w.state.listings 0) → order ≠ [] →
        ListsCurrent (w.state.listings 0)) := by
  refine (endsProperly_listing_bind _).trans (imp_congr_right fun _ => ?_)
  constructor
  · intro h hreadable
    obtain ⟨bootorder, hparse⟩ := readableListing_iff.mp hreadable
    rw [← bootcurrent_listed hparse]
    exact (endsProperly_findCurrentBootname _ _).mp (h bootorder hparse)
  · intro h bootorder hparse
    have hcurrent := h (readableListing_iff.mpr ⟨bootorder, hparse⟩)
    rw [← bootcurrent_listed hparse] at hcurrent
    exact (endsProperly_findCurrentBootname _ _).mpr hcurrent

lemma endsProperly_run_getCurrentBootname :
    EndsProperly (EfiOperation.run consoleCommands config order .getCurrentBootname) w ↔
      (w.fates 0 = .succeeds → ReadableListing (w.state.listings 0) → order ≠ [] →
        ListsCurrent (w.state.listings 0)) :=
  (endsProperly_void _).trans endsProperly_getCurrentBootname

/-- What the listings and the commands have to be like for a call. -/
def SafeCall (config : RaucConfig) (order : List RaucSlot) (w : World EfiConsole) :
    EfiOperation → Prop
  | .getCurrentBootname =>
    w.fates 0 = .succeeds → ReadableListing (w.state.listings 0) → order ≠ [] →
      ListsCurrent (w.state.listings 0)
  | .getPrimary => True
  | .getState _ => True
  | .setState slot good => WritesSafely slot good w
  | .setPrimary slot =>
    if config.efiUseBootnext then
      SafeCreation slot w ∧ ∀ index n, PreparedFrom slot w index n →
        ListsSlot slot (w.state.listings index)
    else WritesSafely slot true w

/-- A call ends with a result or a reported error exactly if the texts and commands are safe for
it. -/
theorem efiOperation_endsProperly_iff (config : RaucConfig) (order : List RaucSlot)
    (op : EfiOperation)
    (w : World EfiConsole) : EndsProperly (op.run consoleCommands config order) w ↔
      SafeCall config order w op := by
  cases op with
  | getCurrentBootname => exact endsProperly_run_getCurrentBootname
  | getPrimary => exact (endsProperly_void _).trans (iff_of_true endsProperly_getPrimary trivial)
  | getState slot => exact (endsProperly_void _).trans (iff_of_true endsProperly_getState trivial)
  | setState slot good => exact endsProperly_modify good
  | setPrimary slot =>
    unfold EfiOperation.run EfiCommands.rEfiSetPrimary SafeCall
    cases config.efiUseBootnext with
    | true => exact endsProperly_setTempPrimary
    | false => exact endsProperly_modify true

/-- What is printed after a boot without an entry of the firmware. -/
def unlistedBoot : List EfiLine := [.bootOrder "0000", .entry "0000" "A"]

lemma unlistedBoot_printed : ∀ line ∈ unlistedBoot, PrintedLine line := by
  intro line hline
  unfold unlistedBoot at hline
  rcases List.mem_cons.mp hline with rfl | hline
  · have hchars : "0000".toList = ['0', '0', '0', '0'] := by decide
    intro c hc
    rw [hchars] at hc
    obtain rfl : c = '0' := by simpa using hc
    decide
  · rw [List.mem_singleton.mp hline]
    have hchars : "A".toList = ['A'] := by decide
    refine ⟨by decide, fun c hc => ?_⟩
    rw [hchars, List.mem_singleton] at hc
    subst hc
    decide

/-- Booted like this, the name of the current entry is taken from a null pointer. -/
theorem noBootCurrent_dereferenced :
    ¬ EndsProperly (EfiOperation.run consoleCommands pairConfig pairConfig.slots.values
      .getCurrentBootname)
      (calm { listings := fun _ => efiOutput unlistedBoot }) := by
  intro h
  have hparse := parseEfiListing_efiOutput unlistedBoot_printed
  have hreadable : ReadableListing (efiOutput unlistedBoot) :=
    readableListing_iff.mpr ⟨_, hparse.trans rfl⟩
  have hcurrent := matches_efiOutput unlistedBoot_printed rfl SameMatches.bootCurrent
  obtain ⟨num, hnum, -⟩ := endsProperly_run_getCurrentBootname.mp h rfl hreadable (by decide)
  have hnone : (efiLines (efiOutput unlistedBoot)).findSome? matchBootCurrent = none := by
    rw [← List.head?_filterMap, hcurrent]
    rfl
  exact absurd (hnum.symm.trans hnone) (by simp)

end Operations

end RaucUpdate
