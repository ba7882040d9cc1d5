import RaucUpdate.Model.Config

/-!
# What the bootloader backends share

The errors of the external commands, the number of boot attempts, and the default boot order of
`bootchooser.c`.
-/

namespace RaucUpdate

open Library

/-- The text a command failure leaves in the error of a caller that reads its output. -/
def commandError (command : String) : Failure → GError
  | .notStarted message => ⟨.spawnFailed, "Failed to start " ++ command ++ ": " ++ message⟩
  | .interrupted message => ⟨.spawnFailed, "Failed to run " ++ command ++ ": " ++ message⟩
  | .killed => ⟨.spawnFailed, command ++ " did not exit normally"⟩
  | .exitStatus code => ⟨.spawnExit, command ++ " failed with exit code: " ++ toString code⟩

/-- The text a command failure leaves in the error of a caller that only waits for it. -/
def waitError (command : String) : Failure → GError
  | .notStarted message => ⟨.spawnFailed, "Failed to start " ++ command ++ ": " ++ message⟩
  | .interrupted message => ⟨.spawnFailed, "Failed to run " ++ command ++ ": " ++ message⟩
  | .killed => ⟨.spawnFailed, "Failed to run " ++ command ++ ": Child process killed by signal"⟩
  | .exitStatus code =>
    ⟨.spawnExit, "Failed to run " ++ command ++ ": Child process exited with code " ++
      toString code⟩

/-- The bootname as `%s` prints it. -/
def bootnameText (slot : RaucSlot) : String := slot.bootname.getD "(null)"

lemma bootnameText_eq {slot : RaucSlot} {b : String} (h : slot.bootname = some b) :
    bootnameText slot = b := by
  simp [bootnameText, h]

lemma bootnameText_ne (config : RaucConfig) {s t : RaucSlot} (hs : s ∈ config.slots.values)
    (ht : t ∈ config.slots.values)
    (hsb : s.bootname ≠ none) (htb : t.bootname ≠ none) (hne : t ≠ s) :
      bootnameText t ≠ bootnameText s := by
  obtain ⟨b, hb⟩ := Option.ne_none_iff_exists'.mp hsb
  obtain ⟨c, hc⟩ := Option.ne_none_iff_exists'.mp htb
  rw [bootnameText_eq hb, bootnameText_eq hc]
  rintro rfl
  exact hne (config.bootname_unique t ht s hs c hc hb)

/-- The configured number of attempts, or the default when it is unset. -/
def attemptsOr (configured : Int32) (fallback : Int) : Int :=
  if configured.toInt ≤ 0 then fallback else configured.toInt

lemma attemptsOr_pos (configured : Int32) : 0 < attemptsOr configured 3 := by
  unfold attemptsOr
  split_ifs with h <;> omega

lemma attemptsOr_lt (configured : Int32) : (attemptsOr configured 3).toNat < 2 ^ 64 := by
  have h := configured.toInt_lt
  unfold attemptsOr
  split_ifs <;> omega

/-- Appends each name with a space before it. -/
def appendNames (start : String) (names : List String) : String :=
  names.foldl (fun text name => text ++ " " ++ name) start

lemma appendNames_eq_joinFields (start : String) (names : List String) :
    appendNames start names = joinFields ' ' (start :: names) := by
  induction names generalizing start with
  | nil => simp [appendNames, joinFields, joinChars]
  | cons name rest ih =>
    have hstep : appendNames start (name :: rest) = appendNames (start ++ " " ++ name) rest := rfl
    rw [hstep, ih]
    cases rest with
    | nil => simp [joinFields, joinChars, String.toList_append]
    | cons next rest => simp [joinFields, joinChars, String.toList_append]

def rBootchooserOrderPrimary (order : List RaucSlot) (slot : RaucSlot) : String :=
  appendNames (slot.bootname.getD "")
    ((order.filter (fun s => decide (s.name ≠ slot.name))).filterMap RaucSlot.bootname)

end RaucUpdate
