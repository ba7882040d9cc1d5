import RaucUpdate.Proofs.BootScripts

/-!
# Attempts and fallback

How often the scripts start a slot that was activated, what they fall back to, and that the primary
slot that the backends report is the one that is started.
-/

namespace RaucUpdate

open Library

section UBootAttempts

variable {config : RaucConfig} {slot : RaucSlot} {bits : Nat} {env : UBootEnv} {b c : String}

/-- The environment after so many starts that were saved. -/
def ubootAfter (bits : Nat) (env : UBootEnv) : Nat → UBootEnv
  | 0 => env
  | k + 1 => (ubootBootcmd bits (ubootAfter bits env k)).2

/-- The first slot of the order with attempts is started. -/
lemma ubootBootcmd_first {rest : List String} (horder : ubootOrder env = b :: rest)
    (hscript : isScriptSlot b)
    (hattempts : hasAttempts bits (ubootDefaults env) b = true) :
      (ubootBootcmd bits env).1 = some b := by
  unfold ubootBootcmd
  unfold ubootOrder at horder
  simp only [horder, ubootFindSlot]
  rw [if_pos ⟨hscript, hattempts⟩]

/-- The slot that is started, for the words that the script runs over. -/
lemma ubootBootcmd_words {words : List String} (horder : ubootOrder env = words) :
    (ubootBootcmd bits env).1 = ubootFindSlot bits (ubootDefaults env) words := by
  cases h : (ubootBootcmd bits env).1 with
  | some n => rw [← horder, (ubootBootcmd_some h).1]
  | none => rw [← horder, (ubootBootcmd_none h).1]

/-- A start takes one attempt of the slot and leaves the other variables alone. -/
lemma ubootBootcmd_counts (h : (ubootBootcmd bits env).1 = some b) {n : Nat}
    (hleft : env (leftVar b) = some (formatNat 16 (n + 1))) (hn : n + 1 < 2 ^ bits) :
    (ubootBootcmd bits env).2 (leftVar b) = some (formatNat 16 n) ∧
      ∀ k, k ≠ leftVar b → (ubootBootcmd bits env).2 k = ubootDefaults env k := by
  have hne : formatNat 16 (n + 1) ≠ "" := by
    intro hempty
    have hchars := congrArg String.toList hempty
    rw [formatNat, String.toList_ofList] at hchars
    exact Nat.toDigits_ne_nil hchars
  have hkept := ubootDefaults_left hleft hne
  rw [(ubootBootcmd_some h).2]
  refine ⟨?_, fun k hk => setenv_other _ _ hk⟩
  unfold takeAttempt setenv
  rw [if_pos rfl, hkept, Option.getD_some, hexNumber_formatNat]
  have hsub : (n + 1 + (2 ^ bits - 1)) % 2 ^ bits = n := by
    have hsum : n + 1 + (2 ^ bits - 1) = n + 2 ^ bits := by omega
    rw [hsum, Nat.add_mod_right, Nat.mod_eq_of_lt (by omega)]
  rw [hsub]

/-- The text of a counter that the script sees depends on the variable only. -/
lemma ubootDefaults_leftVar (hscript : isScriptSlot c) (env : UBootEnv) :
    ubootDefaults env (leftVar c) = if (env (leftVar c)).getD "" =
      "" then some "3" else env (leftVar c) := by
  have horder : setenvDefault "BOOT_ORDER" "A B" env (leftVar c) = env (leftVar c) :=
    setenvDefault_other _ _ (leftVar_ne_order c)
  have hself : ∀ e : UBootEnv, setenvDefault (leftVar c) "3" e (leftVar c) =
      if (e (leftVar c)).getD "" = "" then some "3" else e (leftVar c) := by
    intro e
    unfold setenvDefault
    split_ifs
    · simp [setenv]
    · rfl
  unfold ubootDefaults
  rcases hscript with rfl | rfl
  · rw [setenvDefault_other _ _ leftVar_A_ne_B, hself, horder]
  · rw [hself, setenvDefault_other _ _ leftVar_A_ne_B.symm, horder]

lemma ubootDefaults_twice (hscript : isScriptSlot c) {e : UBootEnv}
    (he : e (leftVar c) = ubootDefaults env (leftVar c)) :
    ubootDefaults e (leftVar c) = ubootDefaults env (leftVar c) := by
  rw [ubootDefaults_leftVar hscript e, he, ubootDefaults_leftVar hscript env]
  by_cases hempty : (env (leftVar c)).getD "" = ""
  · rw [if_pos hempty, if_neg (by simp)]
  · rw [if_neg hempty, if_neg hempty]

lemma hasAttempts_congr {e : UBootEnv} (h : e (leftVar c) = env (leftVar c)) :
    hasAttempts bits e c = hasAttempts bits env c := by
  unfold hasAttempts
  rw [h]

/-- With the slot in front used up, the only other slot of the order is found. -/
lemma ubootFindSlot_other {words : List String} (hmem : c ∈ words) (hscript : isScriptSlot c)
    (honly : ∀ w ∈ words, isScriptSlot w → w ≠ c → hasAttempts bits env w = false)
    (hattempts : hasAttempts bits env c = true) : ubootFindSlot bits env words = some c := by
  induction words with
  | nil => exact absurd hmem List.not_mem_nil
  | cons word rest ih =>
    rw [ubootFindSlot]
    by_cases hword : word = c
    · rw [if_pos (by rw [hword]; exact ⟨hscript, hattempts⟩), hword]
    · rw [if_neg]
      · apply ih
        · exact (List.mem_cons.mp hmem).resolve_left (fun h => hword h.symm)
        · exact fun w hw => honly w (by simp [hw])
      · rintro ⟨hslot, hhas⟩
        rw [honly word (by simp) hslot hword] at hhas
        exact absurd hhas Bool.false_ne_true

/-- What so many starts without a call of the backend leave, while the slot in front still has
attempts. -/
structure TriedTimes (bits : Nat) (env : UBootEnv) (words : List String) (b : String) (p k : Nat) :
    Prop where
  order : OrderLists (ubootAfter bits env k) words
  left : ubootAfter bits env k (leftVar b) = some (formatNat 16 (p - k))
  other : ∀ c, isScriptSlot c → c ≠ b → ubootDefaults (ubootAfter bits env k) (leftVar c) =
    ubootDefaults env (leftVar c)

variable {rest : List String} {p k : Nat}

lemma TriedTimes.starts (h : TriedTimes bits env (b :: rest) b p k)
    (hplain : ∀ n ∈ b :: rest, PlainWord n)
    (hscript : isScriptSlot b) (hk : k < p) (hp : 2 * p < 2 ^ bits) :
    (ubootBootcmd bits (ubootAfter bits env k)).1 = some b := by
  apply ubootBootcmd_first (ubootOrder_eq h.order (by simp) hplain) hscript
  have hleft := ubootDefaults_leftVar hscript (ubootAfter bits env k)
  have hne : formatNat 16 (p - k) ≠ "" := by
    intro hempty
    have hdigits := hexNumber_formatNat (p - k)
    rw [hempty] at hdigits
    have hzero : hexNumber "" = 0 := by decide
    omega
  rw [h.left, Option.getD_some, if_neg hne] at hleft
  rw [hasAttempts_of_eq hleft (by omega)]
  simpa using hk

lemma TriedTimes.next (h : TriedTimes bits env (b :: rest) b p k)
    (hplain : ∀ n ∈ b :: rest, PlainWord n)
    (hscript : isScriptSlot b) (hk : k < p) (hp : 2 * p < 2 ^ bits) :
      TriedTimes bits env (b :: rest) b p (k + 1) := by
  have hstart := h.starts hplain hscript hk hp
  have hpk : p - k = p - (k + 1) + 1 := by omega
  have hleft := h.left
  rw [hpk] at hleft
  obtain ⟨hcount, hothers⟩ := ubootBootcmd_counts hstart hleft (by omega)
  refine ⟨?_, hcount, fun c hc hcb => ?_⟩
  · have horder := ubootBootcmd_lists bits true h.order (by simp) hplain
    rwa [if_pos rfl] at horder
  · have hkept := hothers (leftVar c) (fun heq => hcb (leftVar_inj heq))
    exact (ubootDefaults_twice hc hkept).trans (h.other c hc hcb)

/-- The induction over the starts. -/
lemma triedTimes (horder : OrderLists env (b :: rest)) (hplain : ∀ n ∈ b :: rest, PlainWord n)
    (hscript : isScriptSlot b)
    (hleft : env (leftVar b) = some (formatNat 16 p)) (hp : 2 * p < 2 ^ bits) (hk : k ≤ p) :
    TriedTimes bits env (b :: rest) b p k := by
  induction k with
  | zero => exact ⟨horder, hleft, fun _ _ _ => rfl⟩
  | succ k ih => exact (ih (by omega)).next hplain hscript (by omega) hp

lemma attemptsOr_lt_int32 (configured : Int32) : 2 * (attemptsOr configured 3).toNat < 2 ^ 32 := by
  have h := configured.toInt_lt
  unfold attemptsOr
  split_ifs <;> omega

/-- There are only two slots that the scripts know. -/
lemma scriptSlot_cases {w : String} (hb : isScriptSlot b) (hc : isScriptSlot c) (hcb : c ≠ b)
    (hw : isScriptSlot w) :
    w = b ∨ w = c := by
  rcases hb with rfl | rfl
  · rcases hc with rfl | rfl
    · exact absurd rfl hcb
    · exact hw
  · rcases hc with rfl | rfl
    · exact hw.symm
    · exact absurd rfl hcb

lemma orderPrimary_plain (hblank : BlankFree config) (hslot : slot ∈ config.slots.values)
    (hb : slot.bootname = some b)
    {order : List RaucSlot} (horder : order.Perm config.slots.values) :
    rBootchooserOrderPrimary order slot = joinFields ' ' (b :: otherBootnames order slot) ∧
      ∀ n ∈ b :: otherBootnames order slot, PlainWord n := by
  refine ⟨?_, fun n hn => ?_⟩
  · unfold rBootchooserOrderPrimary
    rw [hb, Option.getD_some, appendNames_eq_joinFields]
    rfl
  · rcases List.mem_cons.mp hn with rfl | hn
    · exact plainWord_bootname hblank hslot hb
    · obtain ⟨s, hs, hsn⟩ := List.mem_filterMap.mp hn
      exact plainWord_bootname hblank (horder.mem_iff.mp (List.mem_filter.mp hs).1) hsn

/-- The bootnames in front of which an activation puts its slot: the words of `BOOT_ORDER`, or those
of all other slots when it can not be read. -/
def OrderBefore (order : List RaucSlot) (slot : RaucSlot) (w : World UBootEnv)
    (names : List String) : Prop :=
  (OrderReadable w ∧ w.state "BOOT_ORDER" = some (joinFields ' ' names) ∧
    ∀ n ∈ names, PlainWord n) ∨
    (¬ OrderReadable w ∧ names = otherBootnames order slot)

/-- A read of the order that gives nothing is an error, or the end of the call. -/
lemma orderUnreadable_run {fates : Nat → Fate} (h : ¬ OrderReadable ⟨env, fates⟩) :
    (∃ e, Prog.attempt (ubootEnvGet "BOOT_ORDER") ⟨env, fates⟩ =
        (.value (.error e), ⟨env, fun n => fates (n + 1)⟩)) ∨
      ∃ x w, Prog.attempt (ubootEnvGet "BOOT_ORDER") ⟨env, fates⟩ = (.exit x, w) := by
  cases hf : fates 0 with
  | succeeds =>
    cases hv : env "BOOT_ORDER" with
    | none =>
      refine .inl ⟨commandError ubootFwprintenvName (.exitStatus 1), Prog.attempt_of_error ?_⟩
      simp only [ubootEnvGet, Bind.bind, Prog.bind, Prog.ask, Prog.read, hf, hv]
      rfl
    | some v =>
      refine absurd ⟨chomp v, ?_⟩ h
      rw [← chomp_printed "BOOT_ORDER" v]
      simp only [ubootEnvGet, Bind.bind, Prog.bind, Prog.ask, Prog.read, hf, hv]
      rfl
  | fails failure =>
    refine .inl ⟨commandError ubootFwprintenvName failure, Prog.attempt_of_error ?_⟩
    simp only [ubootEnvGet, Bind.bind, Prog.bind, Prog.ask, hf]
    rfl
  | stops =>
    refine .inr ⟨.stopped, ⟨env, fun n => fates (n + 1)⟩, ?_⟩
    simp only [Prog.attempt, ubootEnvGet, Bind.bind, Prog.bind, Prog.ask, hf]

lemma keptBootnames_plain (hb : slot.bootname = some b) {names : List String}
    (hplain : ∀ n ∈ names, PlainWord n)
    {text : String} (htext : splitFields ' ' text = names) :
    keptBootnames slot text = names.filter (fun n => decide (n ≠ b)) := by
  unfold keptBootnames
  rw [htext, hb]
  apply List.filter_congr
  intro n hn
  simp [(hplain n hn).1]

/-- What a successful activation writes, whether it could read the order or not. -/
lemma rUbootSetPrimary_writes (hblank : BlankFree config) (hslot : slot ∈ config.slots.values)
    (hb : slot.bootname = some b) {order : List RaucSlot} (horder : order.Perm config.slots.values)
    {names : List String}
    {fates : Nat → Fate} (hbefore : OrderBefore order slot ⟨env, fates⟩ names)
    (hsuccess : ((UBootCall.setPrimary slot).run config order ⟨env, fates⟩).1 = .value ()) :
    ((UBootCall.setPrimary slot).run config order ⟨env, fates⟩).2.state =
        envSet (envSet env (leftVar b) (formatNat 16
          (attemptsOr config.bootAttemptsPrimary 3).toNat)) "BOOT_ORDER"
          (joinFields ' ' (b :: names.filter (fun n => decide (n ≠ b)))) ∧
      ∀ n ∈ b :: names.filter (fun n => decide (n ≠ b)), PlainWord n := by
  have hbplain := plainWord_bootname hblank hslot hb
  rcases hbefore with ⟨hreadable, htext, hplain⟩ | ⟨hunreadable, rfl⟩
  · have hnew : ∀ n ∈ b :: names.filter (fun n => decide (n ≠ b)), PlainWord n := by
      intro n hn
      rcases List.mem_cons.mp hn with rfl | hn
      · exact hbplain
      · exact hplain n (List.mem_filter.mp hn).1
    refine ⟨?_, hnew⟩
    obtain ⟨v, hv, -⟩ := orderReadable_run hreadable
    rcases rUbootSetPrimary_ends config hb order hreadable with ⟨-, hstate⟩ | ⟨hfailed, -⟩
    · rw [hstate, newEntries_of_lists hb hv (.inr htext) hplain, if_pos rfl, List.singleton_append]
    · exact absurd hsuccess hfailed
  · obtain ⟨htext, hplain⟩ := orderPrimary_plain hblank hslot hb horder
    have hnew : ∀ n ∈ b :: (otherBootnames order slot).filter (fun n => decide (n ≠ b)),
        PlainWord n := by
      intro n hn
      rcases List.mem_cons.mp hn with rfl | hn
      · exact hbplain
      · exact hplain n (by simp [(List.mem_filter.mp hn).1])
    refine ⟨?_, hnew⟩
    have hwords : splitFields ' ' (rBootchooserOrderPrimary order slot) =
        b :: otherBootnames order slot := by
      rw [htext]
      refine splitFields_joinFields ' ' _ (fun n hn hspace => ?_)
        (joinFields_ne_empty (by simp) hplain)
      exact absurd ((hplain n hn).2 ' ' hspace) (by decide)
    have hkept := keptBootnames_plain hb hplain hwords
    rw [List.filter_cons_of_neg (by simp)] at hkept
    rcases orderUnreadable_run hunreadable with ⟨e, hread⟩ | ⟨x, w, hread⟩
    · -- the call goes on with the slots of the configuration
      have hrun : (UBootCall.setPrimary slot).run config order ⟨env, fates⟩ =
          Prog.bind (ubootEnvSet (leftVar b) (formatNat 16
            (attemptsOr config.bootAttemptsPrimary 3).toNat))
            (fun _ => ubootEnvSet "BOOT_ORDER"
              (joinFields ' ' (b :: (otherBootnames order slot).filter (fun n => decide (n ≠ b)))))
            ⟨env, fun n => fates (n + 1)⟩ := by
        simp only [UBootCall.run, rUbootSetPrimary]
        rw [Prog.bind_of_value hread, ← appendNames_eq_joinFields, ← hkept, bootnameText_eq hb, hb]
        rfl
      rw [hrun] at hsuccess ⊢
      rcases twoWrites_run env (leftVar b) (formatNat 16
        (attemptsOr config.bootAttemptsPrimary 3).toNat) "BOOT_ORDER"
        (joinFields ' ' (b :: (otherBootnames order slot).filter (fun n => decide (n ≠ b))))
        (fun n => fates (n + 1)) with ⟨-, hstate⟩ | ⟨hfailed, -⟩
      · exact hstate
      · exact absurd hsuccess hfailed
    · exfalso
      simp only [UBootCall.run, rUbootSetPrimary] at hsuccess
      rw [Prog.bind_of_exit hread] at hsuccess
      simp at hsuccess

/-- A start from used-up counters: the board is reset, and the first slot of the order is started
then. -/
lemma ubootBootcmd_resets (hbits : 3 ≤ bits) (horder : OrderLists env (b :: rest))
    (hplain : ∀ n ∈ b :: rest, PlainWord n)
    (hscript : isScriptSlot b)
    (hused : ∀ n ∈ b :: rest, isScriptSlot n → hasAttempts bits (ubootDefaults env) n = false) :
    (ubootBootcmd bits env).1 = none ∧ (ubootBootcmd bits (ubootBootcmd bits env).2).1 =
      some b := by
  have hnone : (ubootBootcmd bits env).1 = none := by
    cases hstart : (ubootBootcmd bits env).1 with
    | none => rfl
    | some n =>
      obtain ⟨hn, hmem⟩ := ubootFindSlot_some (ubootBootcmd_some hstart).1
      rw [ubootOrder_eq horder (by simp) hplain] at hmem
      have hattempts := ubootFindSlot_hasAttempts (ubootBootcmd_some hstart).1
      rw [hused n hmem hn] at hattempts
      exact absurd hattempts Bool.false_ne_true
  refine ⟨hnone, ?_⟩
  have horder' := ubootBootcmd_lists bits true horder (by simp) hplain
  rw [if_pos rfl] at horder'
  have hpow : 2 ^ 3 ≤ 2 ^ bits := Nat.pow_le_pow_right (by decide) hbits
  apply ubootBootcmd_first (ubootOrder_eq horder' (by simp) hplain) hscript
  rw [hasAttempts_of_eq (n := 3)
    (by rw [ubootDefaults_left (ubootBootcmd_three hscript hnone) (by decide)]; decide)
    (by omega)]
  decide

/-- After a successful activation the script starts the slot as often as it was given attempts, if
each start is saved and nobody calls the backend meanwhile. It then falls back to the other slot of
the order when this one has attempts left. When it has none the board is reset once, and the slot
that was activated is started again. -/
theorem uboot_activation_falls_back (hbits : 32 ≤ bits) (hblank : BlankFree config)
    (hslot : slot ∈ config.slots.values) (hb : slot.bootname = some b) (hscript : isScriptSlot b)
    {order : List RaucSlot}
    (horder : order.Perm config.slots.values) {fates : Nat → Fate} {names : List String}
    (hbefore : OrderBefore order slot ⟨env, fates⟩ names)
    (hsuccess : ((UBootCall.setPrimary slot).run config order ⟨env, fates⟩).1 = .value ()) :
    let env' := ((UBootCall.setPrimary slot).run config order ⟨env, fates⟩).2.state
    let attempts := (attemptsOr config.bootAttemptsPrimary 3).toNat
    (∀ k < attempts, (ubootBootcmd bits (ubootAfter bits env' k)).1 = some b) ∧
      (∀ c ∈ names, isScriptSlot c → c ≠ b → hasAttempts bits (ubootDefaults env) c = true →
        (ubootBootcmd bits (ubootAfter bits env' attempts)).1 = some c) ∧
      ((∀ c ∈ names, isScriptSlot c → c ≠ b → hasAttempts bits (ubootDefaults env) c = false) →
        (ubootBootcmd bits (ubootAfter bits env' attempts)).1 = none ∧
          (ubootBootcmd bits (ubootAfter bits env' (attempts + 1))).1 = some b) := by
  intro env' attempts
  have hpow : 2 ^ 32 ≤ 2 ^ bits := Nat.pow_le_pow_right (by decide) hbits
  have hp : 2 * attempts < 2 ^ bits := lt_of_lt_of_le (attemptsOr_lt_int32 _) hpow
  obtain ⟨hstate, hplain⟩ : env' = _ ∧ _ :=
    rUbootSetPrimary_writes hblank hslot hb horder hbefore hsuccess
  have hlists : OrderLists env' (b :: names.filter (fun n => decide (n ≠ b))) := by
    refine .inr ?_
    rw [hstate, envSet_self]
  have hleft : env' (leftVar b) = some (formatNat 16 attempts) := by
    rw [hstate, envSet_other _ _ (leftVar_ne_order b), envSet_self]
  have hend := triedTimes hlists hplain hscript hleft hp (le_refl attempts)
  have hused : hasAttempts bits (ubootDefaults (ubootAfter bits env' attempts)) b = false := by
    have hzero := hend.left
    rw [Nat.sub_self] at hzero
    have hkept := ubootDefaults_left hzero (by decide)
    rw [hasAttempts_of_eq hkept (by omega)]
    decide
  have hother : ∀ c, isScriptSlot c → c ≠ b →
      hasAttempts bits (ubootDefaults (ubootAfter bits env' attempts)) c =
      hasAttempts bits (ubootDefaults env) c := by
    intro c hcscript hcb
    rw [hasAttempts_congr (hend.other c hcscript hcb)]
    apply hasAttempts_congr
    rw [ubootDefaults_leftVar hcscript, ubootDefaults_leftVar hcscript, hstate,
      envSet_other _ _ (leftVar_ne_order c), envSet_other _ _ (fun heq => hcb (leftVar_inj heq))]
  refine ⟨fun k hk => (triedTimes hlists hplain hscript hleft hp hk.le).starts hplain hscript hk
    hp, ?_, fun hnone => ?_⟩
  · intro c hc hcscript hcb hattempts
    have hcmem : c ∈ b :: names.filter (fun n => decide (n ≠ b)) := by simp [hc, hcb]
    have hfind : ubootFindSlot bits (ubootDefaults (ubootAfter bits env' attempts))
        (ubootOrder (ubootAfter bits env' attempts)) = some c := by
      rw [ubootOrder_eq hend.order (by simp) hplain]
      apply ubootFindSlot_other hcmem hcscript _ ((hother c hcscript hcb).trans hattempts)
      intro w _ hw hwc
      obtain rfl := (scriptSlot_cases hscript hcscript hcb hw).resolve_right hwc
      exact hused
    unfold ubootBootcmd
    unfold ubootOrder at hfind
    simp only [hfind]
  · apply ubootBootcmd_resets (le_trans (by decide) hbits) hend.order hplain hscript
    intro n hn hnscript
    by_cases hnb : n = b
    · rw [hnb, hused]
    · have hmem := (List.mem_filter.mp ((List.mem_cons.mp hn).resolve_left hnb)).1
      rw [hother n hnscript hnb, hnone n hmem hnscript hnb]

/-- The second slot of the two-slot system after its activation. -/
theorem uboot_activation_falls_back_pair :
    ((UBootCall.setPrimary (bootableSlot "rootfs.1" "B")).run pairConfig pairConfig.slots.values
      ⟨pairUBootEnv "A B", fun _ => .succeeds⟩).1 = .value () ∧
    let env := ((UBootCall.setPrimary (bootableSlot "rootfs.1" "B")).run pairConfig
      pairConfig.slots.values
      ⟨pairUBootEnv "A B", fun _ => .succeeds⟩).2.state
    (∀ k < 3, (ubootBootcmd 32 (ubootAfter 32 env k)).1 = some "B") ∧
      (ubootBootcmd 32 (ubootAfter 32 env 3)).1 = some "A" := by
  have hslot : bootableSlot "rootfs.1" "B" ∈ pairConfig.slots.values := by decide
  have hplain : ∀ n ∈ ["A", "B"], PlainWord n := by
    simp [PlainWord, isBlank]
  have hbefore : OrderBefore pairConfig.slots.values (bootableSlot "rootfs.1" "B")
      ⟨pairUBootEnv "A B", fun _ => .succeeds⟩ ["A", "B"] :=
        .inl ⟨⟨"A B", by decide⟩, by decide, hplain⟩
  have hsuccess :
      ((UBootCall.setPrimary (bootableSlot "rootfs.1" "B")).run pairConfig pairConfig.slots.values
      ⟨pairUBootEnv "A B", fun _ => .succeeds⟩).1 = .value () := by decide
  obtain ⟨hstarts, hback, -⟩ := uboot_activation_falls_back (le_refl 32) blankFree_pair hslot
    rfl (.inr rfl)
    (List.Perm.refl _) hbefore hsuccess
  have hattempts : (attemptsOr pairConfig.bootAttemptsPrimary 3).toNat = 3 := by decide
  rw [hattempts] at hstarts hback
  exact ⟨hsuccess, hstarts, hback "A" (by decide) (.inl rfl) (by decide) (by decide +kernel)⟩

end UBootAttempts

section UBootPrimary

variable {config : RaucConfig} {bits : Nat} {env : UBootEnv} {b : String}

/-- A slot without attempts is passed over. -/
lemma ubootMatchSlot_zero {a : String} (ha : env (leftVar b) = some a)
    (hleft : attemptsLeft (chomp a) = 0)
    (order : List RaucSlot) : ubootMatchSlot b order (Prog.calm env) =
      (.value none, Prog.calm env) := by
  induction order with
  | nil => rfl
  | cons t rest ih =>
    rw [ubootMatchSlot]
    by_cases ht : some b = t.bootname
    · rw [if_neg (by simpa using ht), bootnameText_eq ht.symm,
        Prog.bind_of_value (ubootEnvGet_calm env _ a ha),
        if_pos hleft]
      exact ih
    · rw [if_pos ht]
      exact ih

/-- The counters of some slots, as they are written by the backend and by the script. -/
def PlainCounters (bits : Nat) (env : UBootEnv) (names : List String) : Prop :=
  ∀ n ∈ names, ∃ count, env (leftVar n) = some (formatNat 16 count) ∧ 2 * count < 2 ^ bits ∧
    count < 2 ^ 64

/-- The loops of the backend and of the script over the same words. -/
lemma ubootPrimaryLoop_script {order : List RaucSlot} (horder : order.Perm config.slots.values)
    {words : List String}
    (hscript : ∀ n ∈ words, isScriptSlot n) (hcounters : PlainCounters bits env words)
    (hslots : ∀ n ∈ words, ∃ slot ∈ config.slots.values, slot.bootname = some n) {env' : UBootEnv}
    (hsame : ∀ n ∈ words, env' (leftVar n) = env (leftVar n)) :
    (ubootFindSlot bits env' words = none ∧
        ubootPrimaryLoop order words (Prog.calm env) = (.value none, Prog.calm env)) ∨
      ∃ slot ∈ config.slots.values, ubootFindSlot bits env' words = slot.bootname ∧
        slot.bootname ≠ none ∧
        ubootPrimaryLoop order words (Prog.calm env) = (.value (some slot), Prog.calm env) := by
  induction words with
  | nil => exact .inl ⟨rfl, rfl⟩
  | cons n rest ih =>
    obtain ⟨count, hleft, hcount, hbound⟩ := hcounters n (by simp)
    have hattempts : hasAttempts bits env' n = decide (0 < count) :=
      hasAttempts_of_eq (by rw [hsame n (by simp), hleft]) hcount
    by_cases hzero : count = 0
    · have hmatch := ubootMatchSlot_zero hleft (by rw [attemptsLeft_formatNat hbound, hzero]) order
      have hnot : ¬ ((n = "A" ∨ n = "B") ∧ hasAttempts bits env' n = true) := by
        rw [hattempts]
        simp [hzero]
      rw [ubootFindSlot, if_neg hnot, ubootPrimaryLoop, Prog.bind_of_value hmatch]
      exact ih (fun m hm => hscript m (by simp [hm])) (fun m hm => hcounters m (by simp [hm]))
        (fun m hm => hslots m (by simp [hm])) (fun m hm => hsame m (by simp [hm]))
    · obtain ⟨slot, hslot, hb⟩ := hslots n (by simp)
      have hmatch :=
        ubootMatchSlot_calm env slot n _ hb hleft
        (by rw [attemptsLeft_formatNat hbound]; exact hzero) order
        (fun t ht htb => config.bootname_unique t (horder.mem_iff.mp ht) slot hslot n htb hb)
          (horder.mem_iff.mpr hslot)
      refine .inr ⟨slot, hslot, ?_, by simp [hb], ?_⟩
      · have hfound : (n = "A" ∨ n = "B") ∧ hasAttempts bits env' n = true := by
          rw [hattempts]
          exact ⟨hscript n (by simp), by simpa using Nat.pos_of_ne_zero hzero⟩
        rw [ubootFindSlot, if_pos hfound, hb]
      · rw [ubootPrimaryLoop, Prog.bind_of_value hmatch]
        rfl

/-- Without an order the backend has no primary slot to report. -/
lemma rUbootGetPrimary_unordered (hempty : (env "BOOT_ORDER").getD "" = "") (order : List RaucSlot)
    (slot : RaucSlot) :
    Prog.observe (rUbootGetPrimary order) env ≠ .value slot := by
  unfold Prog.observe rUbootGetPrimary
  cases htext : env "BOOT_ORDER" with
  | none =>
    rw [Prog.bind_of_exit (ubootEnvGet_calm_missing env _ htext)]
    simp
  | some text =>
    obtain rfl : text = "" := by simpa [htext] using hempty
    have hloop : ubootPrimaryLoop order (splitFields ' ' (chomp "")) (Prog.calm env) =
        (.value none, Prog.calm env) := by
      have hwords : splitFields ' ' (chomp "") = [] := by decide
      rw [hwords]
      rfl
    rw [Prog.bind_of_value (ubootEnvGet_calm env _ _ htext), Prog.bind_of_value hloop]
    simp [Prog.fail, Prog.exit]

/-- The primary slot that the backend reports is the one that the script starts next. Without an
order the backend reports none, and the script runs over its default. -/
theorem uboot_script_starts_primary {order : List RaucSlot}
    (horder : order.Perm config.slots.values) :
    (∀ names : List String, env "BOOT_ORDER" = some (joinFields ' ' names) → names ≠ [] →
      (∀ n ∈ names, PlainWord n) →
      (∀ n ∈ names, isScriptSlot n) → PlainCounters bits env names →
      (∀ n ∈ names, ∃ slot ∈ config.slots.values, slot.bootname = some n) →
      ((ubootBootcmd bits env).1 = some b ↔ ∃ slot ∈ config.slots.values, slot.bootname = some b ∧
        Prog.observe (rUbootGetPrimary order) env = .value slot)) ∧
    ((env "BOOT_ORDER").getD "" = "" →
      (∀ slot, Prog.observe (rUbootGetPrimary order) env ≠ .value slot) ∧
        (ubootBootcmd bits env).1 = ubootFindSlot bits (ubootDefaults env) ["A", "B"]) := by
  constructor
  · intro names htext hne hplain hscript hcounters hslots
    have hsame : ∀ n ∈ names, ubootDefaults env (leftVar n) = env (leftVar n) := by
      intro n hn
      obtain ⟨count, hleft, -⟩ := hcounters n hn
      have hnonempty : formatNat 16 count ≠ "" := by
        intro hempty
        have hchars := congrArg String.toList hempty
        rw [formatNat, String.toList_ofList] at hchars
        exact Nat.toDigits_ne_nil hchars
      rw [ubootDefaults_left hleft hnonempty, hleft]
    have hcmd : (ubootBootcmd bits env).1 = ubootFindSlot bits (ubootDefaults env) _ :=
      ubootBootcmd_words (ubootOrder_eq (.inr htext) hne hplain)
    have hread : ∀ r w, ubootPrimaryLoop order names (Prog.calm env) = (.value r, w) →
        Prog.observe (rUbootGetPrimary order) env =
          r.elim (.exit (.error ⟨.bootchooserParseFailed, "Unable to find primary boot slot"⟩))
            .value := by
      intro r w hloop
      unfold Prog.observe rUbootGetPrimary
      rw [Prog.bind_of_value (ubootEnvGet_calm env _ _ htext), splitFields_plain names hplain,
        Prog.bind_of_value hloop]
      cases r with
      | none => rfl
      | some primary => rfl
    rw [hcmd]
    rcases ubootPrimaryLoop_script horder hscript hcounters hslots hsame with
      ⟨hnone, hloop⟩ | ⟨slot, hslot, hfound, -, hloop⟩
    · rw [hnone, hread _ _ hloop]
      simp
    · rw [hfound, hread _ _ hloop]
      constructor
      · exact fun hb => ⟨slot, hslot, hb, rfl⟩
      · rintro ⟨other, -, hb, hvalue⟩
        rw [Outcome.value.inj hvalue, hb]
  · intro hempty
    refine ⟨rUbootGetPrimary_unordered hempty order, ubootBootcmd_words ?_⟩
    unfold ubootOrder
    rw [ubootDefaults_order]
    simp only [setenvDefault, hempty, if_true, setenv]
    decide

/-- The second slot of the two-slot system in front of the order. -/
theorem uboot_script_starts_primary_pair :
    (ubootBootcmd 32 (pairUBootEnv "B A")).1 = some "B" ∧
      ∃ slot ∈ pairConfig.slots.values, slot.bootname = some "B" ∧
        Prog.observe (rUbootGetPrimary pairConfig.slots.values) (pairUBootEnv "B A") =
          .value slot := by
  have htext : pairUBootEnv "B A" "BOOT_ORDER" = some (joinFields ' ' ["B", "A"]) := by decide
  have hplain : ∀ n ∈ ["B", "A"], PlainWord n := by
    simp [PlainWord, isBlank]
  have hcounters : PlainCounters 32 (pairUBootEnv "B A") ["B", "A"] := by
    intro n hn
    have hthree : pairUBootEnv "B A" (leftVar n) = some (formatNat 16 3) := by
      simp only [List.mem_cons, List.not_mem_nil, or_false] at hn
      rcases hn with rfl | rfl
      · decide
      · decide
    exact ⟨3, hthree, by decide, by decide⟩
  have hstarts : (ubootBootcmd 32 (pairUBootEnv "B A")).1 = some "B" := by decide +kernel
  exact ⟨hstarts, ((uboot_script_starts_primary (List.Perm.refl pairConfig.slots.values)).1 ["B",
    "A"] htext (by decide)
    hplain (by decide) hcounters (by decide)).mp hstarts⟩

end UBootPrimary

section GrubSelect

variable {v : GrubScript} {good : String → Bool} {b : String}

/-- The two flags of a slot that the script knows. -/
def GrubScript.okOf (v : GrubScript) (b : String) : String := if b = "A" then v.aOk else v.bOk

def GrubScript.triedOf (v : GrubScript) (b : String) : String := if b = "A" then v.aTry else v.bTry

/-- The test of the loop. -/
def triable (ok tried : String) : Bool := isNumber ok 1 && isNumber tried 0

/-- The flags say which slots are good, and the slot that was visited last was not. -/
structure Triable (v : GrubScript) (good : String → Bool) : Prop where
  flags : ∀ b, isScriptSlot b → triable (v.okOf b) (v.triedOf b) = good b
  stale : triable v.ok v.tried = false
  default : v.default = 0

lemma visitSlot_slot (hscript : isScriptSlot b) : (visitSlot v b).ok = v.okOf b ∧
    (visitSlot v b).tried = v.triedOf b ∧
    menuEntry (visitSlot v b).index = some b ∧ (visitSlot v b).triedOf b = "1" ∧
    ∀ c, isScriptSlot c → c ≠ b → (visitSlot v b).triedOf c = v.triedOf c := by
  rcases hscript with rfl | rfl
  · refine ⟨rfl, rfl, rfl, rfl, ?_⟩
    rintro c (rfl | rfl) hne
    · exact absurd rfl hne
    · rfl
  · refine ⟨rfl, rfl, rfl, rfl, ?_⟩
    rintro c (rfl | rfl) hne
    · rfl
    · exact absurd rfl hne

lemma visitSlot_okOf (v : GrubScript) (b c : String) : (visitSlot v b).okOf c = v.okOf c := by
  unfold visitSlot GrubScript.okOf
  split_ifs <;> rfl

lemma visitSlot_default (v : GrubScript) (b : String) : (visitSlot v b).default = v.default := by
  unfold visitSlot
  split_ifs <;> rfl

lemma visitSlot_unknown (hscript : ¬ isScriptSlot b) : visitSlot v b = v := by
  obtain ⟨hA, hB⟩ := not_or.mp hscript
  unfold visitSlot
  rw [if_neg hA, if_neg hB]

/-- A slot that is not good leaves everything as it was for the rest of the loop. -/
lemma Triable.visit (h : Triable v good) (hbad : isScriptSlot b → good b = false) :
    Triable (visitSlot v b) good := by
  by_cases hscript : isScriptSlot b
  · obtain ⟨hok, htried, -, hone, hother⟩ := visitSlot_slot (v := v) hscript
    refine ⟨fun c hc => ?_, ?_, by rw [visitSlot_default, h.default]⟩
    · by_cases hcb : c = b
      · have hnot : isNumber "1" 0 = false := by decide
        rw [hcb, hone, hbad hscript, triable, hnot, Bool.and_false]
      · rw [visitSlot_okOf, hother c hc hcb, h.flags c hc]
    · rw [hok, htried, h.flags b hscript, hbad hscript]
  · rw [visitSlot_unknown hscript]
    exact h

/-- The test of the loop for one word. -/
lemma Triable.test (h : Triable v good) (b : String) :
    (isNumber (visitSlot v b).ok 1 && isNumber (visitSlot v b).tried 0) =
      (decide (isScriptSlot b) && good b) := by
  by_cases hscript : isScriptSlot b
  · obtain ⟨hok, htried, -⟩ := visitSlot_slot (v := v) hscript
    rw [hok, htried, decide_eq_true hscript, Bool.true_and]
    exact h.flags b hscript
  · rw [visitSlot_unknown hscript, decide_eq_false hscript, Bool.false_and]
    exact h.stale

/-- The loop selects the first good slot of the order. -/
lemma selectSlot_first (words : List String) (h : Triable v good) :
    menuEntry (selectSlot v words).default =
      words.find? (fun b => decide (isScriptSlot b) && good b) := by
  induction words generalizing v with
  | nil =>
    rw [selectSlot, h.default]
    rfl
  | cons b rest ih =>
    rw [selectSlot, List.find?_cons, h.test]
    cases hfound : decide (isScriptSlot b) && good b with
    | true =>
      have hscript : isScriptSlot b := of_decide_eq_true (Bool.and_eq_true_iff.mp hfound).1
      rw [if_pos rfl]
      exact (visitSlot_slot hscript).2.2.1
    | false =>
      rw [if_neg Bool.false_ne_true]
      apply ih
      apply h.visit
      intro hscript
      simpa [hscript] using hfound

/-- Without a good slot every slot of the order is on trial afterwards. -/
lemma selectSlot_tried (words : List String) (h : Triable v good)
    (hbad : ∀ w ∈ words, isScriptSlot w → good w = false) :
    (selectSlot v words).default = 0 ∧ (∀ c, (selectSlot v words).okOf c = v.okOf c) ∧
      ∀ c, isScriptSlot c → c ∈ words ∨ v.triedOf c = "1" →
        (selectSlot v words).triedOf c = "1" := by
  induction words generalizing v with
  | nil => exact ⟨h.default, fun _ => rfl, fun c _ hc => hc.resolve_left List.not_mem_nil⟩
  | cons w rest ih =>
    have hnot : (decide (isScriptSlot w) && good w) = false := by
      by_cases hw : isScriptSlot w
      · rw [hbad w (by simp) hw, Bool.and_false]
      · rw [decide_eq_false hw, Bool.false_and]
    rw [selectSlot, h.test, hnot, if_neg Bool.false_ne_true]
    obtain ⟨hdefault, hok, htried⟩ :=
      ih (h.visit (hbad w (by simp))) (fun x hx => hbad x (by simp [hx]))
    refine ⟨hdefault, fun c => (hok c).trans (visitSlot_okOf v w c), fun c hc hmem =>
      htried c hc ?_⟩
    by_cases hcw : c = w
    · rw [hcw] at hc ⊢
      exact .inr (visitSlot_slot hc).2.2.2.1
    · rcases hmem with hmem | hone
      · exact .inl ((List.mem_cons.mp hmem).resolve_left hcw)
      · by_cases hw : isScriptSlot w
        · rw [(visitSlot_slot hw).2.2.2.2 c hc hcw]
          exact .inr hone
        · rw [visitSlot_unknown hw]
          exact .inr hone

end GrubSelect

section GrubAttempts

variable {config : RaucConfig} {slot : RaucSlot} {env : GrubEnv} {b c : String}

/-- Whether the flags of a slot let the script start it. -/
def scriptGood (env : GrubEnv) (b : String) : Bool :=
  triable ((env.lookup (okVar b)).getD "0") ((env.lookup (tryVar b)).getD "0")

/-- The variables of the script at its end. -/
def grubEnd (env : GrubEnv) : GrubScript :=
  resetBooted (selectSlot (loadEnv env) (scriptWords (loadEnv env).order))

lemma loadEnv_triable (env : GrubEnv) : Triable (loadEnv env) (scriptGood env) := by
  have hstale : triable "" "" = false := by decide
  refine ⟨?_, hstale, rfl⟩
  rintro b (rfl | rfl)
  · rfl
  · rfl

lemma grubBoot_eq (env : GrubEnv) : grubBoot env =
    (menuEntry (grubEnd env).default, saveEnv (grubEnd env) env) := rfl

lemma grubEnd_default (env : GrubEnv) :
    (grubEnd env).default = (selectSlot (loadEnv env) (scriptWords (loadEnv env).order)).default :=
  (resetBooted_keeps _).2.2.2

/-- Without a slot to start a slot that was on trial gets a new one. -/
lemma triedOf_resetBooted {v : GrubScript} (hscript : isScriptSlot b) (hzero : v.default = 0) :
    (resetBooted v).triedOf b = resetFlag (v.okOf b) (v.triedOf b) := by
  unfold resetBooted
  rw [if_pos hzero]
  rcases hscript with rfl | rfl
  · rfl
  · rfl

lemma okOf_resetBooted (v : GrubScript) (b : String) : (resetBooted v).okOf b = v.okOf b := by
  unfold resetBooted GrubScript.okOf
  split_ifs <;> rfl

/-- The first good slot of the order is started. -/
lemma grubBoot_first (env : GrubEnv) :
    (grubBoot env).1 =
      (scriptWords (loadEnv env).order).find? (fun b => decide (isScriptSlot b) && scriptGood
        env b) := by
  rw [← selectSlot_first _ (loadEnv_triable env), grubBoot_eq, grubEnd_default]

/-- The script stores its variables. -/
lemma lookup_grubBoot (env : GrubEnv) (hscript : isScriptSlot b) :
    (grubBoot env).2.lookup (okVar b) = some ((grubEnd env).okOf b) ∧
    (grubBoot env).2.lookup (tryVar b) = some ((grubEnd env).triedOf b) ∧
    (grubBoot env).2.lookup "ORDER" = some (loadEnv env).order := by
  obtain ⟨hokA, hokB, htryA, htryB, horder⟩ := lookup_saveEnv (grubEnd env) env
  have hsame : (grubEnd env).order = (loadEnv env).order := by
    unfold grubEnd
    rw [(resetBooted_keeps _).1, (selectSlot_selected _ (loadEnv_visited env)).order]
  rw [hsame] at horder
  rcases hscript with rfl | rfl
  · exact ⟨hokA, htryA, horder⟩
  · exact ⟨hokB, htryB, horder⟩

lemma scriptGood_of_lookup {env' : GrubEnv} (hok : env'.lookup (okVar b) = env.lookup (okVar b))
    (htry : env'.lookup (tryVar b) = env.lookup (tryVar b)) :
      scriptGood env' b = scriptGood env b := by
  unfold scriptGood
  rw [hok, htry]

lemma loadEnv_okOf (hscript : isScriptSlot b) :
    (loadEnv env).okOf b = (env.lookup (okVar b)).getD "0" := by
  rcases hscript with rfl | rfl
  · rfl
  · rfl

lemma loadEnv_triedOf (hscript : isScriptSlot b) :
    (loadEnv env).triedOf b = (env.lookup (tryVar b)).getD "0" := by
  rcases hscript with rfl | rfl
  · rfl
  · rfl

lemma loadEnv_order {names : List String}
    (horder : env.lookup "ORDER" = some (joinFields ' ' names))
    (hplain : ∀ n ∈ names, PlainWord n) : scriptWords (loadEnv env).order = names := by
  unfold loadEnv
  simp only [horder, Option.getD_some]
  exact scriptWords_joinFields names hplain

/-- A start from an order with a good slot in front: the slot is started and is on trial from then
on, and the other slot stays as it was. -/
lemma grubBoot_front {rest : List String}
    (horder : env.lookup "ORDER" = some (joinFields ' ' (b :: rest)))
    (hplain : ∀ n ∈ b :: rest, PlainWord n) (hscript : isScriptSlot b)
    (hgood : scriptGood env b = true) :
    (grubBoot env).1 = some b ∧ (grubBoot env).2.lookup "ORDER" =
      some (joinFields ' ' (b :: rest)) ∧
      scriptGood (grubBoot env).2 b = false ∧
      (grubBoot env).2.lookup (okVar b) = some ((env.lookup (okVar b)).getD "0") ∧
      (grubBoot env).2.lookup (tryVar b) = some "1" ∧
      ∀ c, isScriptSlot c → c ≠ b → scriptGood (grubBoot env).2 c = scriptGood env c := by
  have hwords := loadEnv_order horder hplain
  have hbackend := loadEnv_triable env
  have hfound :
      (isNumber (visitSlot (loadEnv env) b).ok 1 && isNumber (visitSlot (loadEnv env) b).tried 0) =
      true := by
    rw [hbackend.test, hgood, decide_eq_true hscript]
    rfl
  have hselect : selectSlot (loadEnv env) (b :: rest) =
      { visitSlot (loadEnv env) b with default := (visitSlot (loadEnv env) b).index } := by
    rw [selectSlot, if_pos hfound]
  obtain ⟨-, -, hentry, hone, hother⟩ := visitSlot_slot (v := loadEnv env) hscript
  have hend : grubEnd env =
      { visitSlot (loadEnv env) b with default := (visitSlot (loadEnv env) b).index } := by
    unfold grubEnd resetBooted
    rw [hwords, hselect, if_neg]
    intro hzero
    change (visitSlot (loadEnv env) b).index = 0 at hzero
    rw [hzero] at hentry
    simp [menuEntry] at hentry
  have hflags : ∀ c, (grubEnd env).okOf c = (loadEnv env).okOf c ∧
      (grubEnd env).triedOf c = (visitSlot (loadEnv env) b).triedOf c := by
    intro c
    rw [hend]
    exact ⟨visitSlot_okOf (loadEnv env) b c, rfl⟩
  obtain ⟨hok, htry, horder'⟩ := lookup_grubBoot env hscript
  rw [(hflags b).1, loadEnv_okOf hscript] at hok
  rw [(hflags b).2, hone] at htry
  refine ⟨?_, ?_, ?_, hok, htry, fun c hc hcb => ?_⟩
  · rw [grubBoot_first, hwords, List.find?_cons, decide_eq_true hscript, hgood]
    rfl
  · rw [horder']
    unfold loadEnv
    rw [horder, Option.getD_some]
  · have hnot : isNumber "1" 0 = false := by decide
    unfold scriptGood triable
    rw [htry, Option.getD_some, hnot, Bool.and_false]
  · obtain ⟨hok, htry, -⟩ := lookup_grubBoot env hc
    rw [(hflags c).1, loadEnv_okOf hc] at hok
    rw [(hflags c).2, hother c hc hcb, loadEnv_triedOf hc] at htry
    unfold scriptGood
    rw [hok, htry, Option.getD_some, Option.getD_some]

/-- A start without any good slot: the rescue system is started, and a slot that was on trial may be
tried again. -/
lemma grubBoot_rescue {names : List String}
    (horder : env.lookup "ORDER" = some (joinFields ' ' names))
    (hplain : ∀ n ∈ names, PlainWord n) (hbad : ∀ n ∈ names, isScriptSlot n →
      scriptGood env n = false) :
    (grubBoot env).1 = none ∧ (grubBoot env).2.lookup "ORDER" = some (joinFields ' ' names) ∧
      ∀ c ∈ names, isScriptSlot c → isNumber ((env.lookup (okVar c)).getD "0") 1 = true →
        scriptGood (grubBoot env).2 c = true := by
  have hwords := loadEnv_order horder hplain
  obtain ⟨hdefault, hok, htried⟩ :=
    selectSlot_tried (scriptWords (loadEnv env).order) (loadEnv_triable env)
    (by rw [hwords]; exact hbad)
  have horder' : (grubBoot env).2.lookup "ORDER" = some (joinFields ' ' names) := by
    rw [(lookup_grubBoot env (.inl rfl : isScriptSlot "A")).2.2]
    unfold loadEnv
    rw [horder, Option.getD_some]
  refine ⟨?_, horder', fun c hc hscript hflag => ?_⟩
  · rw [grubBoot_eq, grubEnd_default, hdefault]
    rfl
  · obtain ⟨hokc, htryc, -⟩ := lookup_grubBoot env hscript
    have hone := htried c hscript (.inl (by rw [hwords]; exact hc))
    have hend : (grubEnd env).triedOf c = "0" := by
      have hyes : isNumber "1" 1 = true := by decide
      unfold grubEnd
      rw [triedOf_resetBooted hscript hdefault, hok c, hone, loadEnv_okOf hscript, resetFlag,
        hflag, hyes]
      rfl
    have hkept : (grubEnd env).okOf c = (env.lookup (okVar c)).getD "0" := by
      unfold grubEnd
      rw [okOf_resetBooted, hok c, loadEnv_okOf hscript]
    have hzero : isNumber "0" 0 = true := by decide
    unfold scriptGood triable
    rw [hokc, htryc, Option.getD_some, Option.getD_some, hkept, hend, hflag, hzero]
    rfl

lemma find_script {good : String → Bool} {words : List String} (hmem : c ∈ words)
    (hscript : isScriptSlot c)
    (hgood : good c = true) (honly : ∀ w ∈ words, isScriptSlot w → w ≠ c → good w = false) :
    words.find? (fun b => decide (isScriptSlot b) && good b) = some c := by
  induction words with
  | nil => exact absurd hmem List.not_mem_nil
  | cons w rest ih =>
    rw [List.find?_cons]
    by_cases hw : w = c
    · rw [hw, decide_eq_true hscript, hgood]
      rfl
    · have hnot : (decide (isScriptSlot w) && good w) = false := by
        by_cases hslot : isScriptSlot w
        · rw [honly w (by simp) hslot hw, Bool.and_false]
        · rw [decide_eq_false hslot, Bool.false_and]
      rw [hnot]
      exact ih ((List.mem_cons.mp hmem).resolve_left (fun h => hw h.symm)) (fun x hx =>
        honly x (by simp [hx]))

/-- After a successful activation the script starts the slot once. If nobody marks it good, the next
start falls back to the other slot if that one is good; else the rescue system is started, and the
slot gets another try after it. -/
theorem grub_activation_falls_back (hname : EqualFree config) (hblank : BlankFree config)
    (hslot : slot ∈ config.slots.values) (hb : slot.bootname = some b) (hscript : isScriptSlot b)
    {other : RaucSlot}
    (hother : other ∈ config.slots.values) (hc : other.bootname = some c)
    (hcscript : isScriptSlot c) (hcb : c ≠ b)
    {order : List RaucSlot} (horder : order.Perm config.slots.values) (fates : Nat → Fate)
    (hsuccess : ((GrubCall.setPrimary slot).run order ⟨env, fates⟩).1 = .value ()) :
    let env' := ((GrubCall.setPrimary slot).run order ⟨env, fates⟩).2.state
    let tried := (grubBoot env').2
    (grubBoot env').1 = some b ∧ (scriptGood env c = true → (grubBoot tried).1 = some c) ∧
      (scriptGood env c = false → (grubBoot tried).1 = none ∧ (grubBoot (grubBoot tried).2).1 =
        some b) := by
  intro env' tried
  have hcall : Prog.Triple (· = env) ((GrubCall.setPrimary slot).run order)
      (fun _ s => s = grubAfter order env (.setPrimary slot)) (fun _ s => s = env) :=
    grubCall_triple (.setPrimary slot) hb (hname slot hslot b hb)
  have hstate : env' = grubAfter order env (.setPrimary slot) := hcall.value rfl hsuccess
  obtain ⟨htry, hok, hkept⟩ := lookup_grubAfter order env (.setPrimary slot) hb
  rw [← hstate] at htry hok hkept
  obtain ⟨htext, hplain⟩ := orderPrimary_plain hblank hslot hb horder
  have hlists : env'.lookup "ORDER" = some (joinFields ' ' (b :: otherBootnames order slot)) := by
    rw [hstate, ← htext]
    simp [grubAfter]
  have hgood : scriptGood env' b = true := by
    unfold scriptGood
    rw [hok, htry]
    change triable "1" "0" = true
    decide
  have hcgood : scriptGood env' c = scriptGood env c :=
    scriptGood_of_lookup (hkept c hcb).1 (hkept c hcb).2
  obtain ⟨hstart, hlists', hused, hflag, -, hsame⟩ := grubBoot_front hlists hplain hscript hgood
  have hcmem : c ∈ b :: otherBootnames order slot := by
    have hne : other.name ≠ slot.name := by
      intro heq
      rw [config.eq_of_name_eq hother hslot heq, hb] at hc
      exact hcb (Option.some.inj hc).symm
    refine List.mem_cons_of_mem _ (List.mem_filterMap.mpr ⟨other, ?_, hc⟩)
    simp [horder.mem_iff.mpr hother, hne]
  refine ⟨hstart, fun hyes => ?_, fun hno => ?_⟩
  · rw [grubBoot_first, loadEnv_order hlists' hplain]
    apply find_script hcmem hcscript (by rw [hsame c hcscript hcb, hcgood, hyes])
    intro w _ hw hwc
    obtain rfl := (scriptSlot_cases hscript hcscript hcb hw).resolve_right hwc
    exact hused
  · have hbad : ∀ n ∈ b :: otherBootnames order slot, isScriptSlot n →
        scriptGood tried n = false := by
      intro n _ hn
      rcases scriptSlot_cases hscript hcscript hcb hn with rfl | rfl
      · exact hused
      · rw [hsame _ hcscript hcb, hcgood, hno]
    obtain ⟨hrescue, hlists'', hagain⟩ := grubBoot_rescue hlists' hplain hbad
    refine ⟨hrescue, ?_⟩
    have hflag' : isNumber ((tried.lookup (okVar b)).getD "0") 1 = true := by
      rw [hflag, Option.getD_some, hok]
      change isNumber "1" 1 = true
      decide
    exact (grubBoot_front hlists'' hplain hscript (hagain b (by simp) hscript hflag')).1

/-- The second slot of the two-slot system after its activation. -/
theorem grub_activation_falls_back_pair :
    ((GrubCall.setPrimary (bootableSlot "rootfs.1" "B")).run pairConfig.slots.values
      ⟨pairGrubEnv "A B" "A" "B", fun _ => .succeeds⟩).1 = .value () ∧
    let env := ((GrubCall.setPrimary (bootableSlot "rootfs.1" "B")).run pairConfig.slots.values
      ⟨pairGrubEnv "A B" "A" "B", fun _ => .succeeds⟩).2.state
    (grubBoot env).1 = some "B" ∧ (grubBoot (grubBoot env).2).1 = some "A" := by
  have hname : EqualFree pairConfig := by
    unfold EqualFree
    decide
  have hslot : bootableSlot "rootfs.1" "B" ∈ pairConfig.slots.values := by decide
  have hother : bootableSlot "rootfs.0" "A" ∈ pairConfig.slots.values := by decide
  have hsuccess : ((GrubCall.setPrimary (bootableSlot "rootfs.1" "B")).run pairConfig.slots.values
      ⟨pairGrubEnv "A B" "A" "B", fun _ => .succeeds⟩).1 = .value () := by decide
  obtain ⟨hstart, hback, -⟩ := grub_activation_falls_back hname blankFree_pair hslot rfl
    (.inr rfl) hother rfl
    (.inl rfl) (by decide) (List.Perm.refl _) (fun _ => .succeeds) hsuccess
  exact ⟨hsuccess, hstart, hback (by decide +kernel)⟩

end GrubAttempts

section GrubPrimary

variable {config : RaucConfig} {slot : RaucSlot} {env : GrubEnv} {b : String}

/-- A slot that is not good is passed over. -/
lemma grubMatchSlot_bad (h : GrubReady config env) (hslot : slot ∈ config.slots.values)
    (hb : slot.bootname = some b)
    (hbad : grubGood env b = false) (order : List RaucSlot) :
      Prog.Calmly env (grubMatchSlot b order) none env := by
  obtain ⟨ok, hok⟩ := Option.ne_none_iff_exists'.mp (h.okSet slot hslot b hb)
  obtain ⟨try_, htry⟩ := Option.ne_none_iff_exists'.mp (h.trySet slot hslot b hb)
  have heq := (h.bootname hslot hb).1
  induction order with
  | nil => exact Prog.calmly_pure env none
  | cons t rest ih =>
    rw [grubMatchSlot]
    by_cases ht : some b = t.bootname
    · rw [if_neg (by simpa using ht), bootnameText_eq ht.symm]
      apply Prog.calmly_bind (grubEnvGet_calm h.plain (not_mem_okVar heq) hok)
      apply Prog.calmly_bind (grubEnvGet_calm h.plain (not_mem_tryVar heq) htry)
      rw [if_pos (bad_values hok htry hbad)]
      exact ih
    · rw [if_pos ht]
      exact ih

/-- No flag has white space behind it. -/
def StrippedFlags (env : GrubEnv) (names : List String) : Prop :=
  ∀ n ∈ names, ∀ text, env.lookup (okVar n) = some text ∨ env.lookup (tryVar n) = some text →
    chomp text = text

/-- The backend and the script agree on which slots are good. -/
lemma grubGood_eq_scriptGood {names : List String} (hflags : StrippedFlags env names)
    (hmem : b ∈ names)
    {ok tried : String} (hok : env.lookup (okVar b) = some ok)
    (htry : env.lookup (tryVar b) = some tried) :
    grubGood env b = scriptGood env b := by
  unfold grubGood scriptGood triable isNumber
  rw [hok, htry, Option.map_some, Option.map_some, Option.getD_some, Option.getD_some,
    Option.getD_some, Option.getD_some,
    hflags b hmem ok (.inl hok), hflags b hmem tried (.inr htry)]

/-- The loop of the backend over the words that the script runs over. -/
lemma grubPrimaryLoop_script (h : GrubReady config env) {order : List RaucSlot}
    (horder : order.Perm config.slots.values)
    {words : List String} (hscript : ∀ n ∈ words, isScriptSlot n) (hflags : StrippedFlags env words)
    (hslots : ∀ n ∈ words, ∃ slot ∈ config.slots.values, slot.bootname = some n) :
    (words.find? (fun b => decide (isScriptSlot b) && scriptGood env b) = none ∧
        Prog.Calmly env (grubPrimaryLoop order words) none env) ∨
      ∃ slot ∈ config.slots.values,
        words.find? (fun b => decide (isScriptSlot b) && scriptGood env b) = slot.bootname ∧
        Prog.Calmly env (grubPrimaryLoop order words) (some slot) env := by
  induction words with
  | nil => exact .inl ⟨rfl, Prog.calmly_pure env none⟩
  | cons n rest ih =>
    obtain ⟨slot, hslot, hb⟩ := hslots n (by simp)
    obtain ⟨ok, hok⟩ := Option.ne_none_iff_exists'.mp (h.okSet slot hslot n hb)
    obtain ⟨tried, htry⟩ := Option.ne_none_iff_exists'.mp (h.trySet slot hslot n hb)
    have hagree := grubGood_eq_scriptGood hflags (by simp) hok htry
    rw [List.find?_cons, decide_eq_true (hscript n (by simp)), Bool.true_and, ← hagree,
      grubPrimaryLoop]
    cases hgood : grubGood env n with
    | true =>
      have hmatch := grubMatchSlot_calm h hslot hb hgood order
        (fun t ht htb => config.bootname_unique t (horder.mem_iff.mp ht) slot hslot n htb hb)
          (horder.mem_iff.mpr hslot)
      exact .inr ⟨slot, hslot, hb.symm, Prog.calmly_bind hmatch (Prog.calmly_pure env (some slot))⟩
    | false =>
      have hmatch := grubMatchSlot_bad h hslot hb hgood order
      rcases ih (fun m hm => hscript m (by simp [hm])) (fun m hm => hflags m (by simp [hm]))
        (fun m hm => hslots m (by simp [hm])) with ⟨hnone, hloop⟩ | ⟨primary, hprimary,
          hfound, hloop⟩
      · exact .inl ⟨hnone, Prog.calmly_bind hmatch hloop⟩
      · exact .inr ⟨primary, hprimary, hfound, Prog.calmly_bind hmatch hloop⟩

/-- The primary slot that the backend reports is the one that the script starts next. -/
theorem grub_script_starts_primary (h : GrubReady config env) {names : List String}
    (htext : env.lookup "ORDER" = some (joinFields ' ' names)) (hne : names ≠ [])
    (hplain : ∀ n ∈ names, PlainWord n)
    (hscript : ∀ n ∈ names, isScriptSlot n) (hflags : StrippedFlags env names)
    (hslots : ∀ n ∈ names, ∃ slot ∈ config.slots.values, slot.bootname = some n)
    {order : List RaucSlot}
    (horder : order.Perm config.slots.values) :
    (grubBoot env).1 = some b ↔
      ∃ slot ∈ config.slots.values, slot.bootname = some b ∧
        Prog.observe (rGrubGetPrimary order) env = .value slot := by
  have hlen : (joinFields ' ' names).utf8ByteSize ≠ 0 :=
    fun hzero => joinFields_ne_empty hne hplain (String.utf8ByteSize_eq_zero_iff.mp hzero)
  have hread : ∀ slot, Prog.Calmly env (grubPrimaryLoop order names) (some slot) env →
      Prog.observe (rGrubGetPrimary order) env = .value slot := by
    intro slot hloop
    have hrun : Prog.Calmly env (rGrubGetPrimary order) slot env := by
      apply Prog.calmly_bind (grubEnvGet_calm h.plain (by decide) htext)
      rw [if_neg hlen, splitFields_plain names hplain]
      exact Prog.calmly_bind hloop (Prog.calmly_pure env slot)
    unfold Prog.observe
    rw [hrun]
  rw [grubBoot_first, loadEnv_order htext hplain]
  rcases grubPrimaryLoop_script h horder hscript hflags hslots with ⟨hnone, hloop⟩ | ⟨slot, hslot,
    hfound, hloop⟩
  · rw [hnone]
    constructor
    · simp
    · rintro ⟨slot, -, -, hvalue⟩
      exfalso
      unfold Prog.observe rGrubGetPrimary at hvalue
      rw [Prog.bind_of_value (grubEnvGet_calm h.plain (by decide) htext), if_neg hlen,
        splitFields_plain names hplain,
        Prog.bind_of_value hloop] at hvalue
      simp [Prog.fail, Prog.exit] at hvalue
  · rw [hfound]
    constructor
    · exact fun hb => ⟨slot, hslot, hb, hread slot hloop⟩
    · rintro ⟨other, -, hb, hvalue⟩
      rw [hread slot hloop] at hvalue
      simp only [Outcome.value.injEq] at hvalue
      rw [hvalue, hb]

/-- The second slot of the two-slot system in front of the order. -/
theorem grub_script_starts_primary_pair :
    (grubBoot (pairGrubEnv "B A" "A" "B")).1 = some "B" ∧
      ∃ slot ∈ pairConfig.slots.values, slot.bootname = some "B" ∧
        Prog.observe (rGrubGetPrimary pairConfig.slots.values) (pairGrubEnv "B A" "A" "B") =
          .value slot := by
  have hready : GrubReady pairConfig (pairGrubEnv "B A" "A" "B") := by
    constructor
    · unfold PlainEnv
      decide
    · exact ⟨"B A", by decide, by decide⟩
    · decide
    · decide
  have htext : (pairGrubEnv "B A" "A" "B").lookup "ORDER" = some (joinFields ' ' ["B", "A"]) := by
    decide
  have hplain : ∀ n ∈ ["B", "A"], PlainWord n := by
    simp [PlainWord, isBlank]
  have hflags : StrippedFlags (pairGrubEnv "B A" "A" "B") ["B", "A"] := by
    have hall : ∀ e ∈ (pairGrubEnv "B A" "A" "B").entries, chomp e.2 = e.2 := by decide +kernel
    generalize pairGrubEnv "B A" "A" "B" = env at hall
    rintro n - text (htext | htext)
    · exact hall (okVar n, text) ((Table.lookup_eq_some_iff env _ _).mp htext)
    · exact hall (tryVar n, text) ((Table.lookup_eq_some_iff env _ _).mp htext)
  have hstarts : (grubBoot (pairGrubEnv "B A" "A" "B")).1 = some "B" := by decide +kernel
  exact ⟨hstarts, (grub_script_starts_primary hready htext (by decide) hplain (by decide)
    hflags (by decide)
    (List.Perm.refl pairConfig.slots.values)).mp hstarts⟩

end GrubPrimary

end RaucUpdate
