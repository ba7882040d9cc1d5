import RaucUpdate.Model.Mark
import RaucUpdate.Proofs.BootGood

/-!
# The errors of the boot chooser

A request that fails has to leave an error. Most functions of the backends do so on every path. The
exceptions are the order written by the EFI backend and the slots without bootname.
-/

namespace RaucUpdate

open Library

section Clean

/-- The exit does not leave an error pointer unset, and it is not the use of such a pointer. -/
def CleanExit : Exit GError → Prop
  | .error e => e.code ≠ .unset
  | .aborted reason => reason ≠ nullMessage
  | .stopped => True

variable {σ α : Type}

abbrev EndsClean (p : Prog σ GError α) : Prop := Prog.Ends CleanExit p

lemma ends_fail {e : GError} (h : e.code ≠ .unset) : EndsClean (Prog.fail e : Prog σ GError α) :=
  Prog.ends_exit h

lemma ends_abort {reason : String} (h : reason ≠ nullMessage) :
    EndsClean (Prog.abort reason : Prog σ GError α) :=
  Prog.ends_exit h

lemma commandError_clean (command : String) (failure : Failure) :
    CleanExit (.error (commandError command failure)) := by
  cases failure <;> simp [CleanExit, commandError]

lemma waitError_clean (command : String) (failure : Failure) :
    CleanExit (.error (waitError command failure)) := by
  cases failure <;> simp [CleanExit, waitError]

lemma prefixed_clean (text : String) (e : GError) (h : CleanExit (.error e)) :
    CleanExit (.error (e.prefixed text)) := h

lemma ends_wait (effect : σ → σ) (command : String) :
    EndsClean (Prog.external effect (waitError command)) :=
  Prog.ends_external trivial (waitError_clean command)

end Clean

section Barebox

lemma parseOutline_error {outline : Option String} {e : GError}
    (h : parseOutline outline = .error e) :
    e.code = .bootchooserParseFailed := by
  cases outline with
  | none =>
    rw [parseOutline] at h
    rw [← Except.error.inj h]
  | some text =>
    simp only [parseOutline] at h
    split_ifs at h
    · rw [← Except.error.inj h]
    · rw [← Except.error.inj h]

lemma parseOutput_error {stdout : String} {e : GError} (h : parseOutput stdout = .error e) :
    e.code = .bootchooserParseFailed := by
  simp only [parseOutput] at h
  cases hfirst : parseOutline (splitFields '\n' stdout)[0]? with
  | error e' =>
    rw [hfirst] at h
    rw [← Except.error.inj h]
    exact parseOutline_error hfirst
  | ok prio =>
    rw [hfirst] at h
    cases hsecond : parseOutline (splitFields '\n' stdout)[1]? with
    | error e' =>
      simp only [hsecond] at h
      rw [← Except.error.inj h]
      exact parseOutline_error hsecond
    | ok attempts =>
      simp only [hsecond] at h
      exact absurd h (by simp [Bind.bind, Except.bind, Pure.pure, Except.pure])

lemma bareboxStateGet_clean (b : String) : EndsClean (bareboxStateGet b) := by
  apply Prog.ends_bind (Prog.ends_ask trivial)
  intro result
  cases result with
  | some failure => exact Prog.ends_exit (commandError_clean _ failure)
  | none =>
    apply Prog.ends_read_bind
    intro st
    cases bareboxStateOutput st b with
    | none => exact Prog.ends_exit (commandError_clean _ _)
    | some stdout =>
      cases hparse : parseOutput stdout with
      | error e =>
        simp only [hparse]
        exact ends_fail (by rw [parseOutput_error hparse]; decide)
      | ok state =>
        simp only [hparse]
        exact Prog.ends_pure _

lemma bareboxStateSet_clean (pairs : List (String × Int)) : EndsClean (bareboxStateSet pairs) := by
  unfold bareboxStateSet
  split_ifs
  on_goal 1 => refine Prog.ends_bind (ends_abort (by decide)) (fun _ => ?_)
  -- the command runs in the same way in both cases
  all_goals
    apply Prog.ends_bind (Prog.ends_ask trivial)
    intro result
    cases result with
    | some failure => exact Prog.ends_exit (waitError_clean _ failure)
    | none =>
      apply Prog.ends_read_bind
      intro st
      cases bareboxAssign st pairs with
      | none => exact Prog.ends_exit (waitError_clean _ _)
      | some st' => exact Prog.ends_modify _

lemma bareboxPrimaryLoop_clean (order : List RaucSlot) (primary : Option RaucSlot) (top : UInt32) :
    EndsClean (bareboxPrimaryLoop primary top order) := by
  induction order generalizing primary top with
  | nil => exact Prog.ends_pure _
  | cons t rest ih =>
    rw [bareboxPrimaryLoop]
    cases t.bootname with
    | none => exact ih primary top
    | some b =>
      apply Prog.ends_bind (bareboxStateGet_clean b)
      intro state
      split_ifs
      · exact ih primary top
      · exact ih (some t) state.prio
      · exact ih primary top

lemma bareboxPriorityPairs_clean (slot : RaucSlot) (order : List RaucSlot) :
    EndsClean (bareboxPriorityPairs slot order) := by
  induction order with
  | nil => exact Prog.ends_pure _
  | cons t rest ih =>
    rw [bareboxPriorityPairs]
    cases t.bootname with
    | none => exact ih
    | some b =>
      apply Prog.ends_bind (bareboxStateGet_clean b)
      intro state
      exact Prog.ends_bind ih (fun pairs => Prog.ends_pure _)

lemma rBareboxGetState_clean (slot : RaucSlot) : EndsClean (rBareboxGetState slot) :=
  Prog.ends_bind (bareboxStateGet_clean _) (fun _ => Prog.ends_pure _)

lemma rBareboxSetState_clean (config : RaucConfig) (slot : RaucSlot) (good : Bool) :
    EndsClean (rBareboxSetState config slot good) := by
  unfold rBareboxSetState
  split_ifs
  · exact bareboxStateSet_clean _
  · exact bareboxStateSet_clean _

lemma rBareboxGetPrimary_clean (order : List RaucSlot) : EndsClean (rBareboxGetPrimary order) := by
  apply Prog.ends_bind (bareboxPrimaryLoop_clean order none 0)
  intro r
  cases r with
  | none => exact ends_fail (by decide)
  | some primary => exact Prog.ends_pure _

lemma rBareboxSetPrimary_clean (config : RaucConfig) (order : List RaucSlot) (slot : RaucSlot) :
    EndsClean (rBareboxSetPrimary config order slot) :=
  Prog.ends_bind (bareboxPriorityPairs_clean slot order) (fun _ => bareboxStateSet_clean _)

end Barebox

section UBoot

lemma ubootEnvGet_clean (key : String) : EndsClean (ubootEnvGet key) := by
  apply Prog.ends_bind (Prog.ends_ask trivial)
  intro result
  cases result with
  | some failure => exact Prog.ends_exit (commandError_clean _ failure)
  | none =>
    apply Prog.ends_read_bind
    intro env
    cases env key with
    | none => exact Prog.ends_exit (commandError_clean _ _)
    | some value => exact Prog.ends_pure _

lemma ubootEnvSet_clean (key value : String) : EndsClean (ubootEnvSet key value) := ends_wait _ _

lemma ubootMatchSlot_clean (c : String) (order : List RaucSlot) :
    EndsClean (ubootMatchSlot c order) := by
  induction order with
  | nil => exact Prog.ends_pure _
  | cons t rest ih =>
    rw [ubootMatchSlot]
    split_ifs
    · exact ih
    · apply Prog.ends_bind (ubootEnvGet_clean _)
      intro attempts
      split_ifs
      · exact ih
      · exact Prog.ends_pure _

lemma ubootPrimaryLoop_clean (order : List RaucSlot) (names : List String) :
    EndsClean (ubootPrimaryLoop order names) := by
  induction names with
  | nil => exact Prog.ends_pure _
  | cons c rest ih =>
    apply Prog.ends_bind (ubootMatchSlot_clean c order)
    intro r
    cases r with
    | none => exact ih
    | some primary => exact Prog.ends_pure _

lemma rUbootGetState_clean (slot : RaucSlot) : EndsClean (rUbootGetState slot) := by
  apply Prog.ends_bind (ubootEnvGet_clean _)
  intro text
  dsimp only
  split_ifs
  · exact Prog.ends_bind (ubootEnvGet_clean _) (fun _ => Prog.ends_pure _)
  · exact Prog.ends_pure _

lemma rUbootSetState_clean (config : RaucConfig) (slot : RaucSlot) (good : Bool) :
    EndsClean (rUbootSetState config slot good) := by
  unfold rUbootSetState
  cases good with
  | true => exact ubootEnvSet_clean _ _
  | false =>
    apply Prog.ends_bind (Prog.ends_attempt (ubootEnvGet_clean _))
    intro result
    cases result with
    | error e => exact ubootEnvSet_clean _ _
    | ok text => exact Prog.ends_bind (ubootEnvSet_clean _ _) (fun _ => ubootEnvSet_clean _ _)

lemma rUbootGetPrimary_clean (order : List RaucSlot) : EndsClean (rUbootGetPrimary order) := by
  apply Prog.ends_bind (ubootEnvGet_clean _)
  intro text
  apply Prog.ends_bind (ubootPrimaryLoop_clean order _)
  intro r
  cases r with
  | none => exact ends_fail (by decide)
  | some primary => exact Prog.ends_pure _

lemma rUbootSetPrimary_clean (config : RaucConfig) (order : List RaucSlot) (slot : RaucSlot) :
    EndsClean (rUbootSetPrimary config order slot) := by
  apply Prog.ends_bind (Prog.ends_attempt (ubootEnvGet_clean _))
  intro result
  have hwrite : ∀ orderCurrent : String, EndsClean (do
      ubootEnvSet (leftVar (bootnameText slot))
        (formatNat 16 (attemptsOr config.bootAttemptsPrimary 3).toNat)
      ubootEnvSet "BOOT_ORDER" (appendNames (slot.bootname.getD "")
        (keptBootnames slot orderCurrent))) :=
    fun _ => Prog.ends_bind (ubootEnvSet_clean _ _) (fun _ => ubootEnvSet_clean _ _)
  cases result with
  | error e => exact Prog.ends_bind (Prog.ends_pure _) hwrite
  | ok text => exact Prog.ends_bind (Prog.ends_pure _) hwrite

end UBoot

section Grub

lemma grubEnvGet_clean (key : String) : EndsClean (grubEnvGet key) := by
  apply Prog.ends_bind (Prog.ends_ask trivial)
  intro result
  cases result with
  | some failure => exact Prog.ends_exit (commandError_clean _ failure)
  | none =>
    apply Prog.ends_read_bind
    intro env
    split
    · exact Prog.ends_pure _
    · exact Prog.ends_exit (by simp [CleanExit])

lemma grubEnvSet_clean (pairs : List String) : EndsClean (grubEnvSet pairs) := by
  unfold grubEnvSet
  split_ifs
  · exact ends_abort (by decide)
  · exact ends_wait _ _

lemma grubMatchSlot_clean (c : String) (order : List RaucSlot) :
    EndsClean (grubMatchSlot c order) := by
  induction order with
  | nil => exact Prog.ends_pure _
  | cons t rest ih =>
    rw [grubMatchSlot]
    split_ifs
    · exact ih
    · apply Prog.ends_bind (grubEnvGet_clean _)
      intro slotOk
      apply Prog.ends_bind (grubEnvGet_clean _)
      intro slotTry
      split_ifs
      · exact ih
      · exact Prog.ends_pure _

lemma grubPrimaryLoop_clean (order : List RaucSlot) (names : List String) :
    EndsClean (grubPrimaryLoop order names) := by
  induction names with
  | nil => exact Prog.ends_pure _
  | cons c rest ih =>
    apply Prog.ends_bind (grubMatchSlot_clean c order)
    intro r
    cases r with
    | none => exact ih
    | some primary => exact Prog.ends_pure _

lemma rGrubGetState_clean {slot : RaucSlot} (hb : slot.bootname ≠ none) :
    EndsClean (rGrubGetState slot) := by
  unfold rGrubGetState
  rw [if_neg hb]
  apply Prog.ends_bind (grubEnvGet_clean _)
  intro order
  split_ifs
  · apply Prog.ends_bind (grubEnvGet_clean _)
    intro slotOk
    exact Prog.ends_bind (grubEnvGet_clean _) (fun _ => Prog.ends_pure _)
  · exact Prog.ends_pure _

lemma rGrubSetState_clean {slot : RaucSlot} (hb : slot.bootname ≠ none) (good : Bool) :
    EndsClean (rGrubSetState slot good) := by
  unfold rGrubSetState
  rw [if_neg hb]
  split_ifs
  · exact grubEnvSet_clean _
  · exact grubEnvSet_clean _

lemma rGrubGetPrimary_clean (order : List RaucSlot) : EndsClean (rGrubGetPrimary order) := by
  apply Prog.ends_bind (grubEnvGet_clean _)
  intro bootOrder
  split_ifs
  · exact ends_fail (by decide)
  · apply Prog.ends_bind (grubPrimaryLoop_clean order _)
    intro r
    cases r with
    | none => exact Prog.ends_exit (by simp [CleanExit])
    | some primary => exact Prog.ends_pure _

end Grub

section Custom

variable {κ : Type} (backendName : String) (script : CustomScript κ)

lemma customBackendGet_clean (cmd : String) (bootname : Option String) :
    EndsClean (customBackendGet backendName script cmd bootname) := by
  apply Prog.ends_bind (Prog.ends_ask trivial)
  intro result
  cases result with
  | some failure =>
    apply Prog.ends_exit
    cases failure <;> simp [CleanExit, customGetError, commandError]
  | none => exact Prog.ends_read_bind (fun _ => Prog.ends_pure _)

lemma customBackendSet_clean (cmd : String) {bootname : Option String} (hb : bootname ≠ none)
    (arg : Option String) :
    EndsClean (customBackendSet backendName script cmd bootname arg) := by
  cases bootname with
  | none => exact absurd rfl hb
  | some b => exact ends_wait _ _

lemma rCustomGetState_clean (slot : RaucSlot) :
    EndsClean (rCustomGetState backendName script slot) := by
  apply Prog.ends_bind (customBackendGet_clean backendName script _ _)
  intro text
  split_ifs
  · exact Prog.ends_pure _
  · exact Prog.ends_pure _
  · exact Prog.ends_exit (by simp [CleanExit])

lemma rCustomGetPrimary_clean (order : List RaucSlot) :
    EndsClean (rCustomGetPrimary backendName script order) := by
  apply Prog.ends_bind (customBackendGet_clean backendName script _ _)
  intro text
  cases order.find? (fun slot => decide (slot.bootname = some text)) with
  | some primary => exact Prog.ends_pure _
  | none => exact Prog.ends_exit (by simp [CleanExit])

end Custom

section Efi

variable (tool : EfiTool) {slot : RaucSlot} {vars : EfiVars}

lemma parseEfiListing_error {lines : List EfiLine} {e : GError}
    (h : parseEfiListing lines = .error e) :
    e.code = .bootchooserFailed := by
  unfold parseEfiListing at h
  dsimp only at h
  split_ifs at h
  · rw [← Except.error.inj h]
  · split at h
    · rw [← Except.error.inj h]
    · exact absurd h (by simp)

lemma efiListError_clean (failure : Failure) : CleanExit (.error (efiListError failure)) := by
  cases failure <;> simp [CleanExit, efiListError, commandError]

lemma efiBootorderGet_clean : EndsClean efiBootorderGet := by
  apply Prog.ends_bind (Prog.ends_ask trivial)
  intro result
  cases result with
  | some failure => exact Prog.ends_exit (efiListError_clean failure)
  | none =>
    apply Prog.ends_read_bind
    intro vars
    cases hparse : parseEfiListing (efiListing vars) with
    | error e =>
      exact ends_fail (by rw [parseEfiListing_error hparse]; decide)
    | ok bootorder => exact Prog.ends_pure _

lemma efiBootentryCreate_clean (hb : slot.bootname ≠ none) :
    EndsClean (efiBootentryCreate tool slot) := by
  obtain ⟨b, hb⟩ := Option.ne_none_iff_exists'.mp hb
  unfold efiBootentryCreate
  rw [hb]
  apply Prog.ends_bind (Prog.ends_external trivial (fun _ => by simp [CleanExit]))
  intro _
  apply Prog.ends_bind (Prog.ends_external trivial (fun _ => by simp [CleanExit]))
  intro _
  apply Prog.ends_bind (Prog.ends_ask trivial)
  intro result
  cases result with
  | some failure => exact Prog.ends_exit (waitError_clean _ failure)
  | none =>
    apply Prog.ends_read_bind
    intro vars
    cases tool.freshNum vars.entries with
    | none => exact Prog.ends_exit (waitError_clean _ _)
    | some num => exact Prog.ends_modify _

/-- The slot has an entry, or the call tries to create one. -/
def EfiCreates (slot : RaucSlot) : Prop := slot.efiLoader ≠ none ∧ slot.efiCmdline ≠ none

lemma efiBootorderPrepare_clean (h : slot.bootname ≠ none) :
    EndsClean (efiBootorderPrepare tool slot) := by
  apply Prog.ends_bind efiBootorderGet_clean
  intro bootorder
  split_ifs
  · exact Prog.ends_pure _
  · exact Prog.ends_exit (by simp [CleanExit])
  · exact Prog.ends_bind (efiBootentryCreate_clean tool h) (fun _ => efiBootorderGet_clean)

/-- A slot without bootname has no entry, and creating one fails before it starts. -/
def EfiNameless (vars : EfiVars) (slot : RaucSlot) : Prop :=
  EfiReadable vars ∧ EfiCreates slot ∧ slot.bootname = none

/-- The call gets as far as writing the order. -/
def EfiWrites (tool : EfiTool) (vars : EfiVars) (slot : RaucSlot) : Prop :=
  EfiReadable vars ∧ ((efiSlotEntry slot (efiEntries vars)).isSome = true ∨
    EfiCreates slot ∧ slot.bootname ≠ none ∧ tool.freshNum vars.entries ≠ none)

lemma efiSlotEntry_nameless (hb : slot.bootname = none) (es : List EfiBootentry) :
    efiSlotEntry slot es = none := by
  simp [efiSlotEntry, namedLike, hb]

lemma efiBootorderGet_checked (vars : EfiVars) :
    Prog.Triple (· = vars) efiBootorderGet (fun r s => s = vars ∧ EfiReadable vars ∧
      r = efiSeen vars)
      (fun x _ => CleanExit x) :=
  Prog.triple_consequence (Prog.triple_and (efiBootorderGet_triple vars)
    (efiBootorderGet_clean.triple (· = vars)))
    (fun _ h => h) (fun _ _ h => h.1) (fun _ _ h => h.2)

lemma efiBootentryCreate_stuck (hb : slot.bootname ≠ none)
    (hfresh : tool.freshNum vars.entries = none) :
    Prog.Triple (· = vars) (efiBootentryCreate tool slot) (fun _ _ => False) (fun x _ =>
      CleanExit x) := by
  obtain ⟨b, hb⟩ := Option.ne_none_iff_exists'.mp hb
  have hstep : ∀ e : GError, e.code ≠ .unset →
      Prog.Triple (· = vars) (Prog.external id (fun _ => e))
      (fun _ s => s = vars) (fun x _ => CleanExit x) :=
    fun e he => Prog.triple_external (fun _ h => h) (fun _ _ _ => he) (fun _ _ => trivial)
  unfold efiBootentryCreate
  rw [hb]
  apply Prog.triple_bind (hstep _ (by simp))
  intro _
  apply Prog.triple_bind (hstep _ (by simp))
  intro _
  apply Prog.triple_bind (Prog.triple_ask (Q := fun _ s => s = vars) (fun _ _ h => h)
    (fun _ _ => trivial))
  intro result
  cases result with
  | some failure => exact Prog.triple_exit (fun _ _ => waitError_clean _ failure)
  | none =>
    apply Prog.triple_read_bind
    rintro s rfl
    rw [hfresh]
    exact Prog.triple_exit (fun _ _ => waitError_clean _ _)

/-- A call that does not get as far as writing the order has an error to report. -/
lemma efiBootorderPrepare_stuck (hwrites : ¬EfiWrites tool vars slot)
    (hnameless : ¬EfiNameless vars slot) :
    Prog.Triple (· = vars) (efiBootorderPrepare tool slot) (fun _ _ => False) (fun x _ =>
      CleanExit x) := by
  apply Prog.triple_bind (efiBootorderGet_checked vars)
  intro r
  apply Prog.triple_fact
  rintro ⟨hreadable, rfl⟩
  have hentry : ¬(efiSlotEntry slot (efiEntries vars)).isSome = true :=
    fun h => hwrites ⟨hreadable, .inl h⟩
  rw [efiSeen_allEntries, if_neg hentry]
  by_cases hloader : slot.efiLoader = none ∨ slot.efiCmdline = none
  · rw [if_pos hloader]
    exact Prog.triple_exit (fun _ _ => by simp [CleanExit])
  · have hcreates : EfiCreates slot := not_or.mp hloader
    have hb : slot.bootname ≠ none := fun hb => hnameless ⟨hreadable, hcreates, hb⟩
    have hfresh : tool.freshNum vars.entries = none := by
      by_contra hfresh
      exact hwrites ⟨hreadable, .inr ⟨hcreates, hb, hfresh⟩⟩
    rw [if_neg hloader]
    apply Prog.triple_bind (efiBootentryCreate_stuck tool hb hfresh)
    exact fun _ w hw => absurd hw not_false

lemma efiModifyPersistentBootorder_stuck (prepend : Bool) (hwrites : ¬EfiWrites tool vars slot)
    (hnameless : ¬EfiNameless vars slot) :
    Prog.Triple (· = vars) (efiModifyPersistentBootorder tool slot prepend) (fun _ _ => True)
      (fun x _ => CleanExit x) := by
  apply Prog.triple_bind (efiBootorderPrepare_stuck tool hwrites hnameless)
  exact fun _ w hw => absurd hw not_false

lemma efiSetTempPrimary_clean (hnameless : ¬EfiNameless vars slot) :
    Prog.Triple (· = vars) (efiSetTempPrimary tool slot) (fun _ _ => True) (fun x _ =>
      CleanExit x) := by
  by_cases hb : slot.bootname = none
  · have hwrites : ¬EfiWrites tool vars slot := by
      rintro ⟨-, hentry | ⟨-, hb', -⟩⟩
      · rw [efiSlotEntry_nameless hb] at hentry
        exact absurd hentry (by simp)
      · exact hb' hb
    apply Prog.triple_bind (efiBootorderPrepare_stuck tool hwrites hnameless)
    exact fun _ w hw => absurd hw not_false
  · have hclean : EndsClean (efiSetTempPrimary tool slot) := by
      apply Prog.ends_bind (efiBootorderPrepare_clean tool hb)
      intro bootorder
      cases efiSlotEntry slot bootorder.allEntries with
      | none => exact ends_abort (by decide)
      | some entry => exact Prog.ends_mapError (ends_wait _ _) (fun e he => prefixed_clean _ e he)
    exact hclean.triple _

/-- The error that is lost: the caller finds its pointer unset. -/
def LostError (o : Outcome GError Unit) : Prop := ∃ e : GError, o = .exit (.error e) ∧
    e.code = .unset

lemma efiBootorderGet_takes (h : EfiReadable vars) :
    Prog.Takes (1 + 0) vars efiBootorderGet (efiSeen vars) vars := by
  apply Prog.takes_bind (Prog.takes_ask vars)
  apply Prog.takes_read_bind
  simp only [parse_readable h]
  exact Prog.takes_pure vars _

lemma efiBootorderPrepare_takes {config : RaucConfig} (hslot : slot ∈ config.slots.values)
    (h : EfiWrites tool vars slot) :
    ∃ n, Prog.Takes n vars (efiBootorderPrepare tool slot) (efiSeen (efiPrepared tool slot vars))
        (efiPrepared tool slot vars) ∧
      (efiSlotEntry slot (efiEntries (efiPrepared tool slot vars))).isSome = true := by
  obtain ⟨hreadable, hways⟩ := h
  by_cases hentry : (efiSlotEntry slot (efiEntries vars)).isSome = true
  · have hprepared : efiPrepared tool slot vars = vars := if_pos hentry
    rw [hprepared]
    refine ⟨1 + 0 + 0, Prog.takes_bind (efiBootorderGet_takes hreadable) ?_, hentry⟩
    rw [efiSeen_allEntries, if_pos hentry]
    exact Prog.takes_pure vars _
  · obtain ⟨hcreates, hbootname, hfresh⟩ := hways.resolve_left hentry
    obtain ⟨b, hb⟩ := Option.ne_none_iff_exists'.mp hbootname
    obtain ⟨num, hnum⟩ := Option.ne_none_iff_exists'.mp hfresh
    have hprepared : efiPrepared tool slot vars =
        { vars with entries := vars.entries.set num b } := by
      unfold efiPrepared
      rw [if_neg hentry, hb, hnum]
    have hnew : ∃ e ∈ efiEntries (efiPrepared tool slot vars), namedLike slot e = true := by
      rcases efiPrepared_cases tool vars hslot hb with hsame | ⟨num', hentries, -, -⟩
      · have hentries : vars.entries.set num b = vars.entries :=
          congrArg EfiVars.entries (hprepared.symm.trans hsame)
        have hlookup := Table.lookup_set vars.entries num num b
        rw [hentries, tool.unused _ _ hnum, if_pos rfl] at hlookup
        exact absurd hlookup (by simp)
      · exact ⟨⟨num'.val, b⟩, by simp [hentries], by simp [namedLike, hb]⟩
    have hreadable' : EfiReadable (efiPrepared tool slot vars) := by
      obtain ⟨e, he, -⟩ := hnew
      refine ⟨List.ne_nil_of_mem he, ?_⟩
      rw [hprepared]
      exact hreadable.2
    have hcreate : Prog.Takes (1 + (1 + (1 + 0))) vars (efiBootentryCreate tool slot) ()
        (efiPrepared tool slot vars) := by
      unfold efiBootentryCreate
      rw [hb]
      apply Prog.takes_bind (Prog.takes_external vars id _)
      apply Prog.takes_bind (Prog.takes_external vars id _)
      apply Prog.takes_bind (Prog.takes_ask vars)
      apply Prog.takes_read_bind
      rw [hprepared]
      simp only [hnum]
      exact Prog.takes_modify vars _
    refine ⟨1 + 0 + (1 + (1 + (1 + 0)) + (1 + 0)),
      Prog.takes_bind (efiBootorderGet_takes hreadable) ?_,
      (efiSlotEntry_isSome_iff slot _).mpr hnew⟩
    rw [efiSeen_allEntries, if_neg hentry, if_neg (not_or.mpr hcreates)]
    exact Prog.takes_bind hcreate (efiBootorderGet_takes hreadable')

/-- The order cannot be written, and the error is lost. -/
lemma efiModifyPersistentBootorder_loses {config : RaucConfig} (hslot : slot ∈ config.slots.values)
    (prepend : Bool)
    (h : EfiWrites tool vars slot) :
    ∃ fates, LostError (efiModifyPersistentBootorder tool slot prepend ⟨vars, fates⟩).1 := by
  obtain ⟨n, htakes, hentry⟩ := efiBootorderPrepare_takes tool hslot h
  obtain ⟨entry, hentry⟩ := Option.isSome_iff_exists.mp hentry
  refine ⟨Prog.failsAt n .killed, preconditionFailed
    "g_propagate_error: assertion 'src != NULL' failed", ?_, rfl⟩
  unfold efiModifyPersistentBootorder
  rw [htakes.run_bind]
  cases prepend with
  | true =>
    rw [efiSeen_allEntries, hentry]
    rfl
  | false => rfl

lemma efiBootorderPrepare_loses (h : EfiNameless vars slot) :
    ∃ w, efiBootorderPrepare tool slot (Prog.calm vars) =
      (.exit (.error
        (preconditionFailed "efi_bootentry_create: assertion 'slot->bootname' failed")), w) := by
  obtain ⟨hreadable, hcreates, hb⟩ := h
  refine ⟨Prog.calm vars, ?_⟩
  unfold efiBootorderPrepare
  rw [Prog.bind_of_value (efiBootorderGet_calm hreadable), efiSeen_allEntries,
    efiSlotEntry_nameless hb,
    if_neg (by simp), if_neg (not_or.mpr hcreates)]
  apply Prog.bind_of_exit
  unfold efiBootentryCreate
  rw [hb]
  rfl

lemma efiModifyPersistentBootorder_nameless (prepend : Bool) (h : EfiNameless vars slot) :
    LostError (efiModifyPersistentBootorder tool slot prepend (Prog.calm vars)).1 := by
  obtain ⟨w, hw⟩ := efiBootorderPrepare_loses tool h
  unfold efiModifyPersistentBootorder
  rw [Prog.bind_of_exit hw]
  exact ⟨_, rfl, rfl⟩

lemma efiSetTempPrimary_nameless (h : EfiNameless vars slot) :
    LostError (efiSetTempPrimary tool slot (Prog.calm vars)).1 := by
  obtain ⟨w, hw⟩ := efiBootorderPrepare_loses tool h
  unfold efiSetTempPrimary
  rw [Prog.bind_of_exit hw]
  exact ⟨_, rfl, rfl⟩

end Efi

section Requests

variable {κ : Type} (ctx : BootContext κ)

/-- The requests whose failure can leave the caller without an error. -/
def LosesError (st : BootState κ) : BootRequest → Prop
  | .getState _ | .getPrimary => False
  | .setState slot _ =>
    match ctx.backend with
    | some .grub | some .custom => slot.bootname = none
    | some .efi => EfiWrites ctx.tool st.efi slot ∨ EfiNameless st.efi slot
    | _ => False
  | .setPrimary slot =>
    match ctx.backend with
    | some .custom => slot.bootname = none
    | some .efi =>
      ctx.config.efiUseBootnext = false ∧ EfiWrites ctx.tool st.efi slot ∨ EfiNameless st.efi slot
    | _ => False

variable {ctx}

lemma mem_of_getSlotsByIdentifier {order slots : List RaucSlot} {identifier : String}
    {slot : RaucSlot}
    (h : getSlotsByIdentifier order identifier = .ok slots) (hslot : slot ∈ slots) :
      slot ∈ order := by
  unfold getSlotsByIdentifier at h
  dsimp only at h
  split_ifs at h with hbooted hother
  · split at h
    · rename_i booted hfind
      rw [← Except.ok.inj h, List.mem_singleton] at hslot
      exact hslot ▸ List.mem_of_find?_eq_some hfind
    · exact absurd h (by simp)
  · split at h
    · exact absurd h (by simp)
    · split at h
      · exact absurd h (by simp)
      · rw [← Except.ok.inj h] at hslot
        exact (List.mem_filter.mp hslot).1
  · split at h
    · split at h
      · exact absurd h (by simp)
      · rename_i found hfind
        split_ifs at h
        rw [← Except.ok.inj h, List.mem_singleton] at hslot
        exact hslot ▸ List.mem_of_find?_eq_some hfind
    · exact absurd h (by simp)

lemma BootRequest.Passed.mem_values {slot : RaucSlot}
    (h : (∃ identifier slots, getSlotsByIdentifier ctx.order identifier = .ok slots ∧
      slot ∈ slots) ∨
      (slot ∈ ctx.config.slots.values ∧ slot.bootname ≠ none)) :
        slot ∈ ctx.config.slots.values := by
  rcases h with ⟨identifier, slots, hslots, hslot⟩ | ⟨hslot, -⟩
  · exact ctx.order_perm.mem_iff.mp (mem_of_getSlotsByIdentifier hslots hslot)
  · exact hslot

variable {τ α : Type} {text : String} {get : BootState κ → τ} {put : τ → BootState κ → BootState κ}

/-- The dispatcher only puts a text in front of an error. -/
lemma ends_dispatch {p : Prog τ GError α} (h : EndsClean p) :
    EndsClean (Prog.mapError (GError.prefixed text) (Prog.zoom get put p)) :=
  Prog.ends_mapError (Prog.ends_zoom h) (fun e he => prefixed_clean text e he)

lemma triple_dispatch {p : Prog τ GError α} {st : BootState κ}
    (h : Prog.Triple (· = get st) p (fun _ _ => True) (fun x _ => CleanExit x)) :
    Prog.Triple (· = st) (Prog.mapError (GError.prefixed text) (Prog.zoom get put p))
      (fun _ _ => True)
      (fun x _ => CleanExit x) := by
  apply Prog.triple_mapError _ (fun e _ he => prefixed_clean text e he)
  apply Prog.triple_zoom
  rintro st' rfl
  exact h

lemma lostError_dispatch {p : Prog τ GError Unit} {w : World (BootState κ)}
    (h : LostError (p ⟨get w.state, w.fates⟩).1) :
    LostError (Prog.mapError (GError.prefixed text) (Prog.zoom get put p) w).1 := by
  obtain ⟨e, he, hcode⟩ := h
  rw [Prog.mapError_zoom_fst, he]
  exact ⟨_, rfl, hcode⟩

lemma notSupported_clean (before : String) : EndsClean (notSupported ctx before : BootProg κ α) :=
  ends_fail (by simp)

lemma rBootGetState_clean {slot : RaucSlot} (hb : slot.bootname ≠ none) :
    EndsClean (rBootGetState ctx slot) := by
  unfold rBootGetState
  rw [if_neg hb]
  split
  · exact ends_dispatch (rBareboxGetState_clean slot)
  · exact ends_dispatch (rGrubGetState_clean hb)
  · exact ends_dispatch (rUbootGetState_clean slot)
  · exact ends_dispatch (Prog.ends_bind efiBootorderGet_clean (fun _ => Prog.ends_pure _))
  · exact ends_dispatch (rCustomGetState_clean _ _ slot)
  · exact notSupported_clean _

lemma rEfiGetPrimary_clean (order : List RaucSlot) : EndsClean (rEfiGetPrimary order) := by
  apply Prog.ends_bind efiBootorderGet_clean
  intro bootorder
  split
  · exact ends_fail (by decide)
  · exact Prog.ends_pure _

lemma rBootGetPrimary_clean : EndsClean (rBootGetPrimary ctx) := by
  unfold rBootGetPrimary
  split
  · exact ends_dispatch (rBareboxGetPrimary_clean _)
  · exact ends_dispatch (rGrubGetPrimary_clean _)
  · exact ends_dispatch (rUbootGetPrimary_clean _)
  · exact ends_dispatch (rEfiGetPrimary_clean _)
  · exact ends_dispatch (rCustomGetPrimary_clean _ _ _)
  · exact notSupported_clean _

variable {st : BootState κ} {slot : RaucSlot}

lemma rBootSetState_clean {good : Bool} (h : ¬LosesError ctx st (.setState slot good)) :
    Prog.Triple (· = st) (rBootSetState ctx slot good) (fun _ _ => True) (fun x _ =>
      CleanExit x) := by
  unfold rBootSetState
  unfold LosesError at h
  split
  · exact (ends_dispatch (rBareboxSetState_clean _ _ _)).triple _
  · rename_i hbackend
    simp only [hbackend] at h
    exact (ends_dispatch (rGrubSetState_clean h good)).triple _
  · exact (ends_dispatch (rUbootSetState_clean _ _ _)).triple _
  · rename_i hbackend
    simp only [hbackend, not_or] at h
    exact triple_dispatch (efiModifyPersistentBootorder_stuck ctx.tool good h.1 h.2)
  · rename_i hbackend
    simp only [hbackend] at h
    exact (ends_dispatch (customBackendSet_clean _ _ _ h _)).triple _
  · exact (Prog.ends_pure _).triple _
  · exact (notSupported_clean _).triple _

lemma rBootSetPrimary_clean (h : ¬LosesError ctx st (.setPrimary slot)) :
    Prog.Triple (· = st) (rBootSetPrimary ctx slot) (fun _ _ => True) (fun x _ => CleanExit x) := by
  unfold rBootSetPrimary
  unfold LosesError at h
  split
  · exact (ends_dispatch (rBareboxSetPrimary_clean _ _ _)).triple _
  · exact (ends_dispatch (grubEnvSet_clean _)).triple _
  · exact (ends_dispatch (rUbootSetPrimary_clean _ _ _)).triple _
  · rename_i hbackend
    simp only [hbackend, not_or] at h
    apply triple_dispatch
    unfold rEfiSetPrimary
    split_ifs with hnext
    · exact efiSetTempPrimary_clean ctx.tool h.2
    · exact efiModifyPersistentBootorder_stuck ctx.tool true (fun hwrites =>
        h.1 ⟨by simpa using hnext, hwrites⟩) h.2
  · rename_i hbackend
    simp only [hbackend] at h
    exact (ends_dispatch (customBackendSet_clean _ _ _ h _)).triple _
  · exact (Prog.ends_pure _).triple _
  · exact (notSupported_clean _).triple _

lemma rBootSetState_loses {good : Bool} (hslot : slot ∈ ctx.config.slots.values)
    (h : LosesError ctx st (.setState slot good)) :
      ∃ fates, LostError (rBootSetState ctx slot good ⟨st, fates⟩).1 := by
  unfold rBootSetState
  cases hbackend : ctx.backend with
  | none => simp only [LosesError, hbackend] at h
  | some backend =>
    simp only [LosesError, hbackend] at h
    cases backend with
    | barebox => exact absurd h not_false
    | uboot => exact absurd h not_false
    | noop => exact absurd h not_false
    | grub =>
      refine ⟨fun _ => .succeeds, lostError_dispatch ?_⟩
      unfold rGrubSetState
      rw [if_pos h]
      exact ⟨_, rfl, rfl⟩
    | efi =>
      rcases h with hwrites | hnameless
      · obtain ⟨fates, hlost⟩ := efiModifyPersistentBootorder_loses ctx.tool hslot good hwrites
        exact ⟨fates, lostError_dispatch hlost⟩
      · exact ⟨_, lostError_dispatch (efiModifyPersistentBootorder_nameless ctx.tool
          good hnameless)⟩
    | custom =>
      refine ⟨fun _ => .succeeds, lostError_dispatch ?_⟩
      unfold rCustomSetState customBackendSet
      rw [h]
      exact ⟨_, rfl, rfl⟩

lemma rBootSetPrimary_loses (hslot : slot ∈ ctx.config.slots.values)
    (h : LosesError ctx st (.setPrimary slot)) :
    ∃ fates, LostError (rBootSetPrimary ctx slot ⟨st, fates⟩).1 := by
  unfold rBootSetPrimary
  cases hbackend : ctx.backend with
  | none => simp only [LosesError, hbackend] at h
  | some backend =>
    simp only [LosesError, hbackend] at h
    cases backend with
    | barebox => exact absurd h not_false
    | uboot => exact absurd h not_false
    | noop => exact absurd h not_false
    | grub => exact absurd h not_false
    | efi =>
      unfold rEfiSetPrimary
      rcases h with ⟨hnext, hwrites⟩ | hnameless
      · obtain ⟨fates, hlost⟩ := efiModifyPersistentBootorder_loses ctx.tool hslot true hwrites
        rw [if_neg (by simp [hnext])]
        exact ⟨fates, lostError_dispatch hlost⟩
      · split_ifs
        · exact ⟨_, lostError_dispatch (efiSetTempPrimary_nameless ctx.tool hnameless)⟩
        · exact ⟨_, lostError_dispatch (efiModifyPersistentBootorder_nameless ctx.tool
            true hnameless)⟩
    | custom =>
      refine ⟨fun _ => .succeeds, lostError_dispatch ?_⟩
      unfold rCustomSetPrimary customBackendSet
      rw [h]
      exact ⟨_, rfl, rfl⟩

lemma BootRequest.run_clean {request : BootRequest} (hpassed : request.Passed ctx)
    (h : ¬LosesError ctx st request) :
    Prog.Triple (· = st) (request.run ctx) (fun _ _ => True) (fun x _ => CleanExit x) := by
  cases request with
  | getState slot =>
    exact (Prog.ends_bind (rBootGetState_clean hpassed.2) (fun _ => Prog.ends_pure _)).triple _
  | getPrimary => exact (Prog.ends_bind rBootGetPrimary_clean (fun _ => Prog.ends_pure _)).triple _
  | setState slot good => exact rBootSetState_clean h
  | setPrimary slot => exact rBootSetPrimary_clean h

lemma BootRequest.run_loses {request : BootRequest} (hpassed : request.Passed ctx)
    (h : LosesError ctx st request) :
    ∃ fates, LostError (request.run ctx ⟨st, fates⟩).1 := by
  cases request with
  | getState slot => exact absurd h not_false
  | getPrimary => exact absurd h not_false
  | setState slot good => exact rBootSetState_loses (BootRequest.Passed.mem_values hpassed) h
  | setPrimary slot => exact rBootSetPrimary_loses (BootRequest.Passed.mem_values hpassed) h

/-- The caller of a request that left an error does not use an unset pointer. -/
lemma BootRequest.reported_clean {request : BootRequest}
    (h : Prog.Triple (· = st) (request.run ctx) (fun _ _ => True) (fun x _ => CleanExit x)) :
    Prog.Triple (· = st) (request.reported ctx) (fun _ _ => True) (fun x _ =>
      x ≠ .aborted nullMessage) := by
  have hweak : ∀ x : Exit GError, CleanExit x → x ≠ .aborted nullMessage := by
    rintro x hx rfl
    exact hx rfl
  have hattempt : Prog.Triple (· = st) (Prog.attempt (request.run ctx))
      (fun r _ => ∀ e : GError, r = .error e → e.code ≠ .unset) (fun x _ =>
        x ≠ .aborted nullMessage) := by
    apply Prog.triple_attempt
    apply Prog.triple_consequence h (fun _ hs => hs) (fun _ _ _ e he => absurd he (by simp))
    intro x s hx
    cases x with
    | error e => exact fun e' he => Except.error.inj he ▸ hx
    | aborted reason => exact hweak _ hx
    | stopped => exact hweak _ hx
  apply Prog.triple_bind hattempt
  intro r
  cases r with
  | ok a => exact Prog.triple_pure (fun _ _ => trivial)
  | error e =>
    intro w hw
    simp only
    rw [if_neg (hw e rfl)]
    exact fun hfail => absurd hfail (by simp)

/-- A failed request leaves an error, and its caller has a message to use. -/
theorem bootRequest_leaves_error_iff (ctx : BootContext κ) (st : BootState κ)
    (request : BootRequest)
    (hpassed : request.Passed ctx) :
    ((∀ fates e, (request.run ctx ⟨st, fates⟩).1 = .exit (.error e) → e.code ≠ .unset) ∧
      ∀ fates, (request.reported ctx ⟨st, fates⟩).1 ≠ .exit (.aborted nullMessage)) ↔
        ¬LosesError ctx st request := by
  constructor
  · rintro ⟨hset, -⟩ hloses
    obtain ⟨fates, e, he, hcode⟩ := request.run_loses hpassed hloses
    exact hset fates e he hcode
  · intro h
    have hclean := request.run_clean hpassed h
    refine ⟨?_, ?_⟩
    · intro fates e he
      exact hclean.exit (w := ⟨st, fates⟩) rfl he
    · intro fates hnull
      exact (BootRequest.reported_clean hclean).exit (w := ⟨st, fates⟩) rfl hnull rfl

/-- Marking the slot `A` of the U-Boot system good. -/
theorem bootRequest_leaves_error_uboot :
    (BootRequest.setState slotA true).Passed (pairContext "uboot") ∧
      ((BootRequest.setState slotA true).run (pairContext "uboot") ⟨badFirstState,
        Prog.failsAt 0 .killed⟩).1 =
        .exit (.error ((waitError "fw_setenv" .killed).prefixed "uboot backend: ")) ∧
      ((BootRequest.setState slotA true).reported (pairContext "uboot") ⟨badFirstState,
        Prog.failsAt 0 .killed⟩).1 ≠
        .exit (.aborted nullMessage) :=
  ⟨.inr (by decide), by decide, ((bootRequest_leaves_error_iff (pairContext "uboot") badFirstState
    (.setState slotA true) (.inr (by decide))).mpr not_false).2 _⟩

def namelessSlot : RaucSlot := { name := "rootfs.0", sclass := "rootfs", device := "/dev/sda2",
                                 state := .booted }

/-- A system that runs from its only slot, for which no bootname is configured. -/
def namelessContext (bootloader : String) : BootContext Unit where
  config :=
    { slots := ⟨[("rootfs.0", namelessSlot)], by decide⟩
      name_key := by decide
      bootname_unique := by decide
      bootname_nonempty := by decide
      bootname_plain := by decide
      child_no_bootname := by decide
      parent_is_root := by decide
      systemBootloader := some bootloader }
  tool := fullTool
  script := ⟨fun _ _ _ => "", fun _ _ _ _ => ()⟩
  order := [namelessSlot]
  order_perm := List.Perm.refl _

/-- `efibootmgr --bootorder` fails while `A` is marked good, and the running slot of a GRUB system
is marked good although it has no bootname. -/
theorem boot_error_is_lost :
    ((BootRequest.setState slotA true).Passed (pairContext "efi") ∧
      (∃ e : GError, ((BootRequest.setState slotA true).run (pairContext "efi")
          ⟨badFirstState, Prog.failsAt 1 (.exitStatus 1)⟩).1 = .exit (.error e) ∧ e.code = .unset) ∧
      ((BootRequest.setState slotA true).reported (pairContext "efi")
        ⟨badFirstState, Prog.failsAt 1 (.exitStatus 1)⟩).1 = .exit (.aborted nullMessage)) ∧
    ((BootRequest.setState namelessSlot true).Passed (namelessContext "grub") ∧
      ((BootRequest.setState namelessSlot true).reported (namelessContext "grub")
        (Prog.calm badFirstState)).1 =
        .exit (.aborted nullMessage)) := by
  let lost := (preconditionFailed "g_propagate_error: assertion 'src != NULL' failed").prefixed
    "efi backend: "
  have hlost : ((BootRequest.setState slotA true).run (pairContext "efi")
      ⟨badFirstState, Prog.failsAt 1 (.exitStatus 1)⟩).1 = .exit (.error lost) := by decide
  refine ⟨⟨.inr (by decide), ⟨lost, hlost, rfl⟩, by decide⟩,
    .inl ⟨"booted", [namelessSlot], ?_, ?_⟩, by decide⟩
  · decide
  · decide

end Requests

end RaucUpdate
