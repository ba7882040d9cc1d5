import RaucUpdate.Model.Boot
import RaucUpdate.Proofs.Barebox
import RaucUpdate.Proofs.Efi
import RaucUpdate.Proofs.Grub
import RaucUpdate.Proofs.UBoot

/-!
# Marking a slot good

Each backend gives the slot back what its state consists of, but only the EFI backend gives it back
its place in the boot order. A slot that gets its place before the primary slot takes over from it.
-/

namespace RaucUpdate

open Library

section BareboxGood

variable {st st' : BareboxState} {slot : RaucSlot} {b : String}

/-- Only the remaining attempts of one bootname differ, and there are some now. -/
structure BareboxRefilled (b : String) (st st' : BareboxState) : Prop where
  attempts : ∃ n : UInt32, 0 < n ∧ st' (attemptsVar b) = some n
  other : ∀ x, x ≠ attemptsVar b → st' x = st x

lemma rBareboxSetState_good (config : RaucConfig) (st : BareboxState)
    (hb : slot.bootname = some b) :
    Prog.Triple (· = st) (rBareboxSetState config slot true) (fun _ s => BareboxRefilled b st s)
      (fun _ _ => True) := by
  unfold rBareboxSetState
  rw [if_pos rfl, bootnameText_eq hb]
  apply Prog.triple_consequence (bareboxStateSet_triple st _ (by simp)) (fun _ h => h) _
    (fun _ _ _ => trivial)
  intro _ s hassign
  constructor
  · obtain ⟨hval, -, -, hlt⟩ :=
      bareboxAssign_mem st s _ (attemptsVar b) (attemptsOr config.bootDefaultAttempts 3)
      hassign (by simp) (by simp)
    refine ⟨_, ?_, hval⟩
    exact UInt32.pos_iff_ne_zero.mpr (uint32_ofNat_ne_zero (attemptsOr_pos _) hlt)
  · intro x hx
    exact bareboxAssign_other st s _ x hassign (by simpa using hx)

lemma BareboxRefilled.verdict_self (h : BareboxRefilled b st st') :
    bareboxVerdict st' b = .value true ↔ ∃ p, st (priorityVar b) = some p ∧ p ≠ 0 := by
  obtain ⟨n, hn, hattempts⟩ := h.attempts
  unfold bareboxVerdict
  rw [hattempts, h.other _ (priorityVar_ne_attemptsVar b b)]
  cases hp : st (priorityVar b) with
  | none => simp
  | some p => simp [hn, UInt32.pos_iff_ne_zero]

lemma BareboxRefilled.verdict_other (h : BareboxRefilled b st st') {c : String} (hc : c ≠ b) :
    bareboxVerdict st' c = bareboxVerdict st c := by
  unfold bareboxVerdict
  rw [h.other _ (priorityVar_ne_attemptsVar c b), h.other _ (fun heq => hc (attemptsVar_inj heq))]

lemma bareboxStateGet_quiet (st : BareboxState) (c : String) :
    Prog.Quiet st (bareboxStateGet c) := by
  cases hp : st (priorityVar c) with
  | none => exact ⟨_, bareboxStateGet_calm_missing st c (by simp [bareboxStateOutput, hp])⟩
  | some p =>
    cases ha : st (attemptsVar c) with
    | none => exact ⟨_, bareboxStateGet_calm_missing st c (by simp [bareboxStateOutput, hp, ha])⟩
    | some a => exact ⟨_, bareboxStateGet_calm st c p a hp ha⟩

lemma bareboxPrimaryLoop_quiet (st : BareboxState) (order : List RaucSlot)
    (primary : Option RaucSlot) (top : UInt32) :
    Prog.Quiet st (bareboxPrimaryLoop primary top order) := by
  induction order generalizing primary top with
  | nil => exact Prog.quiet_pure st _
  | cons t rest ih =>
    rw [bareboxPrimaryLoop]
    cases t.bootname with
    | none => exact ih primary top
    | some c =>
      apply Prog.quiet_bind (bareboxStateGet_quiet st c)
      intro state
      split_ifs
      · exact ih primary top
      · exact ih (some t) state.prio
      · exact ih primary top

/-- The two loops agree, or the slot leads the second one with at least the priority of the
first. -/
def BareboxLeads (slot : RaucSlot) (primary : Option RaucSlot) (top : UInt32)
    (primary' : Option RaucSlot)
    (top' : UInt32) : Prop :=
  (primary' = primary ∧ top' = top) ∨ (primary' = some slot ∧ top ≤ top')

/-- The candidate and the highest priority after a slot that can be booted. -/
def considered (t : RaucSlot) (prio : UInt32) (primary : Option RaucSlot) (top : UInt32) :
    Option RaucSlot × UInt32 :=
  if top < prio then (some t, prio) else (primary, top)

lemma BareboxLeads.both {primary primary' : Option RaucSlot} {top top' : UInt32}
    (h : BareboxLeads slot primary top primary' top') (t : RaucSlot) (prio : UInt32) :
    BareboxLeads slot (considered t prio primary top).1 (considered t prio primary top).2
      (considered t prio primary' top').1 (considered t prio primary' top').2 := by
  unfold considered
  rcases h with ⟨rfl, rfl⟩ | ⟨rfl, hle⟩
  · exact .inl ⟨rfl, rfl⟩
  · rw [UInt32.le_iff_toNat_le] at hle
    split_ifs with hlt hlt'
    · exact .inl ⟨rfl, rfl⟩
    · rw [UInt32.lt_iff_toNat_lt] at hlt'
      have hprio : prio.toNat ≤ top'.toNat := by omega
      exact .inr ⟨rfl, UInt32.le_iff_toNat_le.mpr hprio⟩
    · rename_i hlt'
      rw [UInt32.lt_iff_toNat_lt] at hlt hlt'
      omega
    · exact .inr ⟨rfl, UInt32.le_iff_toNat_le.mpr hle⟩

lemma BareboxLeads.second {primary primary' : Option RaucSlot} {top top' : UInt32}
    (h : BareboxLeads slot primary top primary' top') (prio : UInt32) :
    BareboxLeads slot primary top (considered slot prio primary' top').1
      (considered slot prio primary' top').2 := by
  unfold considered
  split_ifs with hlt
  · rw [UInt32.lt_iff_toNat_lt] at hlt
    have hprio : top.toNat ≤ prio.toNat := by
      rcases h with ⟨-, rfl⟩ | ⟨-, hle⟩
      · omega
      · rw [UInt32.le_iff_toNat_le] at hle
        omega
    exact .inr ⟨rfl, UInt32.le_iff_toNat_le.mpr hprio⟩
  · exact h

lemma bareboxPrimaryLoop_considered (t : RaucSlot) (rest : List RaucSlot) (prio : UInt32)
    (primary : Option RaucSlot)
    (top : UInt32) :
    (if top < prio then bareboxPrimaryLoop (some t) prio rest
      else bareboxPrimaryLoop primary top rest) =
      bareboxPrimaryLoop (considered t prio primary top).1 (considered t prio primary top).2
        rest := by
  unfold considered
  split_ifs <;> rfl

/-- The loop over the slots with and without the attempts: only the slot itself can take over. -/
lemma BareboxRefilled.loop (h : BareboxRefilled b st st') (order : List RaucSlot)
    (honly : ∀ t ∈ order, t.bootname = some b → t = slot) (primary primary' r : Option RaucSlot)
    (top top' : UInt32)
    (hleads : BareboxLeads slot primary top primary' top')
    (hrun : Prog.Calmly st (bareboxPrimaryLoop primary top order) r st) :
    ∃ r', Prog.Calmly st' (bareboxPrimaryLoop primary' top' order) r' st' ∧
      (r' = r ∨ r' = some slot) := by
  induction order generalizing primary primary' top top' with
  | nil =>
    have hr : r = primary := (Outcome.value.inj (congrArg Prod.fst hrun)).symm
    refine ⟨primary', Prog.calmly_pure st' _, ?_⟩
    rcases hleads with ⟨rfl, -⟩ | ⟨rfl, -⟩
    · exact .inl hr.symm
    · exact .inr rfl
  | cons t rest ih =>
    have hrest := ih (fun u hu => honly u (by simp [hu]))
    rw [bareboxPrimaryLoop] at hrun ⊢
    cases hc : t.bootname with
    | none =>
      rw [hc] at hrun
      exact hrest primary primary' top top' hleads hrun
    | some c =>
      rw [hc] at hrun
      obtain ⟨⟨prio, attempts⟩, hget, hnext⟩ := (bareboxStateGet_quiet st c).bind_inv hrun
      obtain ⟨-, hprio, hattempts⟩ :=
        (bareboxStateGet_triple st c).value rfl (congrArg Prod.fst hget)
      have hprio' : st' (priorityVar c) = some prio := by
        rw [h.other _ (priorityVar_ne_attemptsVar c b), hprio]
      simp only [bareboxPrimaryLoop_considered] at hnext ⊢
      by_cases hcb : c = b
      · -- the slot itself: it has attempts now, with the priority it had before
        obtain rfl := honly t (by simp) (by rw [hc, hcb])
        obtain ⟨n, hn, hattempts'⟩ := h.attempts
        rw [← hcb] at hattempts'
        have hget' := bareboxStateGet_calm st' c prio n hprio' hattempts'
        have hne : n ≠ 0 := UInt32.pos_iff_ne_zero.mp hn
        by_cases hzero : attempts = 0
        · rw [if_pos hzero] at hnext
          obtain ⟨r', hrun', hr'⟩ := hrest _ _ _ _ (hleads.second prio) hnext
          exact ⟨r', Prog.calmly_bind hget' (by rwa [if_neg hne]), hr'⟩
        · rw [if_neg hzero] at hnext
          obtain ⟨r', hrun', hr'⟩ := hrest _ _ _ _ (hleads.both t prio) hnext
          exact ⟨r', Prog.calmly_bind hget' (by rwa [if_neg hne]), hr'⟩
      · have hattempts' : st' (attemptsVar c) = some attempts := by
          rw [h.other _ (fun heq => hcb (attemptsVar_inj heq)), hattempts]
        have hget' := bareboxStateGet_calm st' c prio attempts hprio' hattempts'
        by_cases hzero : attempts = 0
        · rw [if_pos hzero] at hnext
          obtain ⟨r', hrun', hr'⟩ := hrest _ _ _ _ hleads hnext
          exact ⟨r', Prog.calmly_bind hget' (by rwa [if_pos hzero]), hr'⟩
        · rw [if_neg hzero] at hnext
          obtain ⟨r', hrun', hr'⟩ := hrest _ _ _ _ (hleads.both t prio) hnext
          exact ⟨r', Prog.calmly_bind hget' (by rwa [if_neg hzero]), hr'⟩

lemma BareboxRefilled.primary (h : BareboxRefilled b st st') (order : List RaucSlot)
    (honly : ∀ t ∈ order, t.bootname = some b → t = slot) {t : RaucSlot}
    (ht : Prog.observe (rBareboxGetPrimary order) st = .value t) :
    Prog.observe (rBareboxGetPrimary order) st' = .value t ∨
      Prog.observe (rBareboxGetPrimary order) st' = .value slot := by
  have hquiet : Prog.Quiet st (rBareboxGetPrimary order) := by
    apply Prog.quiet_bind (bareboxPrimaryLoop_quiet st order none 0)
    intro r
    cases r with
    | none => exact Prog.quiet_exit st _
    | some primary => exact Prog.quiet_pure st _
  obtain ⟨r, hloop, hr⟩ := (bareboxPrimaryLoop_quiet st order none 0).bind_inv (hquiet.calmly ht)
  cases r with
  | none => exact absurd (congrArg Prod.fst hr) (by simp [Prog.fail, Prog.exit])
  | some primary =>
    have hprimary : primary = t := Outcome.value.inj (congrArg Prod.fst hr)
    obtain ⟨r', hloop', hr'⟩ := h.loop order honly none none _ 0 0 (.inl ⟨rfl, rfl⟩) hloop
    rcases hr' with rfl | rfl
    · left
      rw [← hprimary]
      exact Prog.observe_of_calmly (Prog.calmly_bind hloop' (Prog.calmly_pure st' primary))
    · right
      exact Prog.observe_of_calmly (Prog.calmly_bind hloop' (Prog.calmly_pure st' slot))

end BareboxGood

section UBootGood

variable {env env' : UBootEnv} {slot : RaucSlot} {b : String}

/-- Only the counter of one bootname differs, and it is not zero now. -/
structure UBootRefilled (b : String) (env env' : UBootEnv) : Prop where
  left : ∃ v, env' (leftVar b) = some v ∧ attemptsLeft (chomp v) ≠ 0
  other : ∀ k, k ≠ leftVar b → env' k = env k

lemma rUbootSetState_good (config : RaucConfig) (env : UBootEnv) (hb : slot.bootname = some b) :
    Prog.Triple (· = env) (rUbootSetState config slot true) (fun _ s => UBootRefilled b env s)
      (fun _ _ => True) := by
  have hpos := attemptsOr_pos config.bootDefaultAttempts
  have hset : rUbootSetState config slot true =
      ubootEnvSet (leftVar b) (formatNat 16 (attemptsOr config.bootDefaultAttempts 3).toNat) := by
    unfold rUbootSetState
    rw [bootnameText_eq hb]
    rfl
  rw [hset]
  apply Prog.triple_consequence (ubootEnvSet_triple env _ _) (fun _ h => h) _ (fun _ _ _ => trivial)
  rintro _ _ rfl
  refine ⟨⟨_, envSet_self _ _ _, ?_⟩, fun k hk => envSet_other env _ hk⟩
  rw [attemptsLeft_formatNat (attemptsOr_lt _)]
  omega

lemma UBootRefilled.order (h : UBootRefilled b env env') : env' "BOOT_ORDER" = env "BOOT_ORDER" :=
  h.other _ (leftVar_ne_order b).symm

lemma UBootRefilled.verdict_self (h : UBootRefilled b env env') :
    ubootVerdict env' b = .value true ↔ ∃ v, env "BOOT_ORDER" = some v ∧
      b ∈ splitFields ' ' (chomp v) := by
  obtain ⟨a, ha, hleft⟩ := h.left
  unfold ubootVerdict bootOrderEntries
  rw [h.order, ha]
  cases hv : env "BOOT_ORDER" with
  | none => simp
  | some v =>
    by_cases hmem : b ∈ splitFields ' ' (chomp v)
    · simp [hmem, Nat.pos_of_ne_zero hleft]
    · simp [hmem]

lemma UBootRefilled.verdict_other (h : UBootRefilled b env env') {c : String} (hc : c ≠ b) :
    ubootVerdict env' c = ubootVerdict env c := by
  unfold ubootVerdict bootOrderEntries
  rw [h.order, h.other _ (fun heq => hc (leftVar_inj heq))]

lemma ubootEnvGet_quiet (env : UBootEnv) (key : String) : Prog.Quiet env (ubootEnvGet key) := by
  cases hv : env key with
  | none => exact ⟨_, ubootEnvGet_calm_missing env key hv⟩
  | some v => exact ⟨_, ubootEnvGet_calm env key v hv⟩

lemma ubootMatchSlot_quiet (env : UBootEnv) (c : String) (order : List RaucSlot) :
    Prog.Quiet env (ubootMatchSlot c order) := by
  induction order with
  | nil => exact Prog.quiet_pure env _
  | cons t rest ih =>
    rw [ubootMatchSlot]
    split_ifs
    · exact ih
    · apply Prog.quiet_bind (ubootEnvGet_quiet env _)
      intro attempts
      split_ifs
      · exact ih
      · exact Prog.quiet_pure env _

/-- The inner loop for another bootname does not see the difference. -/
lemma UBootRefilled.match_other (h : UBootRefilled b env env') {c : String} (hc : c ≠ b)
    {r : Option RaucSlot}
    (order : List RaucSlot) (hrun : Prog.Calmly env (ubootMatchSlot c order) r env) :
    Prog.Calmly env' (ubootMatchSlot c order) r env' := by
  induction order with
  | nil =>
    have hr : none = r := Outcome.value.inj (congrArg Prod.fst hrun)
    rw [← hr]
    exact Prog.calmly_pure env' none
  | cons t rest ih =>
    rw [ubootMatchSlot] at hrun ⊢
    by_cases ht : some c = t.bootname
    · rw [if_neg (by simpa using ht), bootnameText_eq ht.symm] at hrun ⊢
      obtain ⟨attempts, hget, hnext⟩ := (ubootEnvGet_quiet env _).bind_inv hrun
      obtain ⟨-, v, hv, rfl⟩ := (ubootEnvGet_triple env _).value rfl (congrArg Prod.fst hget)
      have hv' : env' (leftVar c) = some v := by
        rw [h.other _ (fun heq => hc (leftVar_inj heq)), hv]
      apply Prog.calmly_bind (ubootEnvGet_calm env' _ v hv')
      split_ifs at hnext ⊢ with hzero
      · exact ih hnext
      · have hr : some t = r := Outcome.value.inj (congrArg Prod.fst hnext)
        rw [← hr]
        exact Prog.calmly_pure env' _
    · rw [if_pos ht] at hrun ⊢
      exact ih hrun

/-- The outer loop finds the same slot, or the slot that was refilled before it. -/
lemma UBootRefilled.loop (h : UBootRefilled b env env') (hb : slot.bootname = some b)
    (order : List RaucSlot)
    (honly : ∀ t ∈ order, t.bootname = some b → t = slot) (hmem : slot ∈ order) {t : RaucSlot}
    (names : List String)
    (hrun : Prog.Calmly env (ubootPrimaryLoop order names) (some t) env) :
    Prog.Calmly env' (ubootPrimaryLoop order names) (some t) env' ∨
      Prog.Calmly env' (ubootPrimaryLoop order names) (some slot) env' := by
  induction names with
  | nil => exact absurd (congrArg Prod.fst hrun) (by simp [ubootPrimaryLoop, Pure.pure, Prog.pure])
  | cons c rest ih =>
    rw [ubootPrimaryLoop] at hrun ⊢
    by_cases hcb : c = b
    · right
      obtain ⟨a, ha, hleft⟩ := h.left
      rw [hcb]
      exact Prog.calmly_bind (ubootMatchSlot_calm env' slot b a hb ha hleft order honly hmem)
        (Prog.calmly_pure env' _)
    · obtain ⟨r, hmatch, hnext⟩ := (ubootMatchSlot_quiet env c order).bind_inv hrun
      have hmatch' := h.match_other hcb order hmatch
      cases r with
      | some primary =>
        have hprimary : primary = t := Option.some.inj (Outcome.value.inj (congrArg Prod.fst hnext))
        rw [← hprimary]
        exact .inl (Prog.calmly_bind hmatch' (Prog.calmly_pure env' _))
      | none =>
        rcases ih hnext with hrest | hrest
        · exact .inl (Prog.calmly_bind hmatch' hrest)
        · exact .inr (Prog.calmly_bind hmatch' hrest)

lemma UBootRefilled.primary (h : UBootRefilled b env env') (hb : slot.bootname = some b)
    (order : List RaucSlot)
    (honly : ∀ t ∈ order, t.bootname = some b → t = slot) (hmem : slot ∈ order) {t : RaucSlot}
    (ht : Prog.observe (rUbootGetPrimary order) env = .value t) :
    Prog.observe (rUbootGetPrimary order) env' = .value t ∨
      Prog.observe (rUbootGetPrimary order) env' = .value slot := by
  have hloop : ∀ names, Prog.Quiet env (ubootPrimaryLoop order names) := by
    intro names
    induction names with
    | nil => exact Prog.quiet_pure env _
    | cons c rest ih =>
      apply Prog.quiet_bind (ubootMatchSlot_quiet env c order)
      intro r
      cases r with
      | none => exact ih
      | some primary => exact Prog.quiet_pure env _
  have hquiet : Prog.Quiet env (rUbootGetPrimary order) := by
    refine Prog.quiet_bind (ubootEnvGet_quiet env _) (fun text =>
      Prog.quiet_bind (hloop _) (fun r => ?_))
    cases r with
    | none => exact Prog.quiet_exit env _
    | some primary => exact Prog.quiet_pure env _
  obtain ⟨text, hget, hnext⟩ := (ubootEnvGet_quiet env _).bind_inv (hquiet.calmly ht)
  obtain ⟨-, v, hv, rfl⟩ := (ubootEnvGet_triple env _).value rfl (congrArg Prod.fst hget)
  obtain ⟨r, hrun, hr⟩ := (hloop _).bind_inv hnext
  have hget' := ubootEnvGet_calm env' "BOOT_ORDER" v (by rw [h.order, hv])
  cases r with
  | none => exact absurd (congrArg Prod.fst hr) (by simp [Prog.fail, Prog.exit])
  | some primary =>
    have hprimary : primary = t := Outcome.value.inj (congrArg Prod.fst hr)
    rw [hprimary] at hrun
    rcases h.loop hb order honly hmem _ hrun with hrun' | hrun'
    · exact .inl (Prog.observe_of_calmly (Prog.calmly_bind hget'
        (Prog.calmly_bind hrun' (Prog.calmly_pure env' t))))
    · exact .inr (Prog.observe_of_calmly (Prog.calmly_bind hget'
        (Prog.calmly_bind hrun' (Prog.calmly_pure env' slot))))

end UBootGood

section GrubGood

variable {env env' : GrubEnv} {slot : RaucSlot} {b : String}

/-- Only the two variables of one bootname differ, and they make it good now. -/
structure GrubRefilled (b : String) (env env' : GrubEnv) : Prop where
  plain : PlainEnv env
  plain' : PlainEnv env'
  ok : env'.lookup (okVar b) = some "1"
  tried : env'.lookup (tryVar b) = some "0"
  other : ∀ k, k ≠ okVar b → k ≠ tryVar b → env'.lookup k = env.lookup k

/-- A text that can be part of the name of a variable. -/
def VariablePart (b : String) : Prop := '=' ∉ b.toList ∧ '\n' ∉ b.toList

lemma rGrubSetState_good {env : GrubEnv} (hplain : PlainEnv env) (hpart : VariablePart b)
    (hb : slot.bootname = some b) :
    Prog.Triple (· = env) (rGrubSetState slot true) (fun _ s => GrubRefilled b env s)
      (fun _ _ => True) := by
  obtain ⟨heq, hline⟩ := hpart
  have hsuffix : ∀ text : String, '\n' ∉ text.toList → '\n' ∉ (b ++ text).toList := by
    intro text htext
    simpa [String.toList_append, hline] using htext
  have hok : grubAssign env (okVar b ++ "=1") = env.set (okVar b) "1" := by
    rw [show ("=1" : String) = "=" ++ "1" by decide, ← String.append_assoc]
    exact grubAssign_eq env "1" (not_mem_okVar heq)
  have htry : ∀ e : GrubEnv, grubAssign e (tryVar b ++ "=0") = e.set (tryVar b) "0" := by
    intro e
    rw [show ("=0" : String) = "=" ++ "0" by decide, ← String.append_assoc]
    exact grubAssign_eq e "0" (not_mem_tryVar heq)
  unfold rGrubSetState grubEnvSet
  rw [if_neg (by simp [hb]), if_pos rfl, if_neg (by simp), bootnameText_eq hb]
  apply Prog.triple_external _ (fun _ _ _ => trivial) (fun _ _ => trivial)
  rintro s rfl
  simp only [List.foldl_cons, List.foldl_nil]
  rw [hok, htry]
  refine ⟨hplain, ?_, ?_, ?_, ?_⟩
  · exact (hplain.set (not_mem_okVar heq) (hsuffix "_OK" (by decide)) (by decide)).set
      (not_mem_tryVar heq)
      (hsuffix "_TRY" (by decide)) (by decide)
  · simp [Table.lookup_set, (okVar_ne_tryVar b b).symm]
  · simp
  · intro k hk hk'
    simp [Table.lookup_set, Ne.symm hk, Ne.symm hk']

/-- The variables of other bootnames, and the order, are the same. -/
lemma GrubRefilled.kept (h : GrubRefilled b env env') {c : String} (hc : c ≠ b) :
    env'.lookup (okVar c) = env.lookup (okVar c) ∧ env'.lookup (tryVar c) = env.lookup (tryVar c) ∧
      env'.lookup "ORDER" = env.lookup "ORDER" :=
  ⟨h.other _ (fun heq => hc (okVar_inj heq)) (okVar_ne_tryVar c b),
    h.other _ (fun heq => okVar_ne_tryVar b c heq.symm) (fun heq => hc (tryVar_inj heq)),
    h.other _ (okVar_ne_order b).symm (tryVar_ne_order b).symm⟩

lemma grubEnvGet_quiet (env : GrubEnv) (key : String) : Prog.Quiet env (grubEnvGet key) := by
  apply Prog.quiet_bind (Prog.quiet_ask env)
  intro result
  cases result with
  | some failure => exact Prog.quiet_exit env _
  | none =>
    apply Prog.quiet_read_bind
    split
    · exact Prog.quiet_pure env _
    · exact Prog.quiet_exit env _

lemma grubEnvGet_value {env : GrubEnv} (h : PlainEnv env) {key : String} (hkey : '=' ∉ key.toList)
    {r : GrubValue}
    (hr : Prog.Calmly env (grubEnvGet key) r env) : ∃ v, env.lookup key = some v ∧
      r = ⟨chomp v, v.utf8ByteSize⟩ :=
  ((grubEnvGet_triple h hkey).value rfl (congrArg Prod.fst hr)).2

/-- Reading a variable gives the same in both environments. -/
lemma grubEnvGet_same {env env' : GrubEnv} (h : PlainEnv env) (h' : PlainEnv env') {key : String}
    (hkey : '=' ∉ key.toList) (hsame : env'.lookup key = env.lookup key) {r : GrubValue}
    (hr : Prog.Calmly env (grubEnvGet key) r env) : Prog.Calmly env' (grubEnvGet key) r env' := by
  obtain ⟨v, hv, rfl⟩ := grubEnvGet_value h hkey hr
  exact grubEnvGet_calm h' hkey (hsame.trans hv)

lemma grubMatchSlot_quiet (env : GrubEnv) (c : String) (order : List RaucSlot) :
    Prog.Quiet env (grubMatchSlot c order) := by
  induction order with
  | nil => exact Prog.quiet_pure env _
  | cons t rest ih =>
    rw [grubMatchSlot]
    split_ifs
    · exact ih
    · apply Prog.quiet_bind (grubEnvGet_quiet env _)
      intro slotOk
      apply Prog.quiet_bind (grubEnvGet_quiet env _)
      intro slotTry
      split_ifs
      · exact ih
      · exact Prog.quiet_pure env _

/-- The inner loop for another bootname does not see the difference. -/
lemma GrubRefilled.match_other (h : GrubRefilled b env env') (order : List RaucSlot)
    (hparts : ∀ t ∈ order, ∀ c, t.bootname = some c → VariablePart c) {c : String} (hc : c ≠ b)
    {r : Option RaucSlot}
    (hrun : Prog.Calmly env (grubMatchSlot c order) r env) :
      Prog.Calmly env' (grubMatchSlot c order) r env' := by
  obtain ⟨hok, htry, -⟩ := h.kept hc
  induction order with
  | nil =>
    have hr : none = r := Outcome.value.inj (congrArg Prod.fst hrun)
    rw [← hr]
    exact Prog.calmly_pure env' none
  | cons t rest ih =>
    have hrest := ih (fun u hu => hparts u (by simp [hu]))
    rw [grubMatchSlot] at hrun ⊢
    by_cases ht : some c = t.bootname
    · have heq := (hparts t (by simp) c ht.symm).1
      rw [if_neg (by simpa using ht), bootnameText_eq ht.symm] at hrun ⊢
      obtain ⟨slotOk, hgetOk, hnext⟩ := (grubEnvGet_quiet env _).bind_inv hrun
      obtain ⟨slotTry, hgetTry, hlast⟩ := (grubEnvGet_quiet env _).bind_inv hnext
      apply Prog.calmly_bind (grubEnvGet_same h.plain h.plain' (not_mem_okVar heq) hok hgetOk)
      apply Prog.calmly_bind (grubEnvGet_same h.plain h.plain' (not_mem_tryVar heq) htry hgetTry)
      split_ifs at hlast ⊢ with hbad
      · exact hrest hlast
      · have hr : some t = r := Outcome.value.inj (congrArg Prod.fst hlast)
        rw [← hr]
        exact Prog.calmly_pure env' _
    · rw [if_pos ht] at hrun ⊢
      exact hrest hrun

/-- The inner loop for the bootname itself finds its slot. -/
lemma GrubRefilled.match_self (h : GrubRefilled b env env') (hpart : VariablePart b)
    (hb : slot.bootname = some b)
    (order : List RaucSlot) (honly : ∀ t ∈ order, t.bootname = some b → t = slot)
    (hmem : slot ∈ order) :
    Prog.Calmly env' (grubMatchSlot b order) (some slot) env' := by
  induction order with
  | nil => exact absurd hmem List.not_mem_nil
  | cons t rest ih =>
    rw [grubMatchSlot]
    by_cases ht : some b = t.bootname
    · obtain rfl := honly t (by simp) ht.symm
      rw [if_neg (by simpa using ht), bootnameText_eq hb]
      apply Prog.calmly_bind (grubEnvGet_calm h.plain' (not_mem_okVar hpart.1) h.ok)
      apply Prog.calmly_bind (grubEnvGet_calm h.plain' (not_mem_tryVar hpart.1) h.tried)
      rw [if_neg (by decide)]
      exact Prog.calmly_pure env' _
    · have hrest : slot ∈ rest := by
        rcases List.mem_cons.mp hmem with rfl | hmem
        · exact absurd hb.symm ht
        · exact hmem
      rw [if_pos ht]
      exact ih (fun u hu => honly u (by simp [hu])) hrest

lemma GrubRefilled.loop (h : GrubRefilled b env env') (hb : slot.bootname = some b)
    (order : List RaucSlot)
    (hparts : ∀ t ∈ order, ∀ c, t.bootname = some c → VariablePart c)
    (honly : ∀ t ∈ order, t.bootname = some b → t = slot) (hmem : slot ∈ order) {t : RaucSlot}
    (names : List String)
    (hrun : Prog.Calmly env (grubPrimaryLoop order names) (some t) env) :
    Prog.Calmly env' (grubPrimaryLoop order names) (some t) env' ∨
      Prog.Calmly env' (grubPrimaryLoop order names) (some slot) env' := by
  induction names with
  | nil => exact absurd (congrArg Prod.fst hrun) (by simp [grubPrimaryLoop, Pure.pure, Prog.pure])
  | cons c rest ih =>
    rw [grubPrimaryLoop] at hrun ⊢
    by_cases hcb : c = b
    · right
      rw [hcb]
      exact Prog.calmly_bind (h.match_self (hparts slot hmem b hb) hb order honly hmem)
        (Prog.calmly_pure env' _)
    · obtain ⟨r, hmatch, hnext⟩ := (grubMatchSlot_quiet env c order).bind_inv hrun
      have hmatch' := h.match_other order hparts hcb hmatch
      cases r with
      | some primary =>
        have hprimary : primary = t := Option.some.inj (Outcome.value.inj (congrArg Prod.fst hnext))
        rw [← hprimary]
        exact .inl (Prog.calmly_bind hmatch' (Prog.calmly_pure env' _))
      | none =>
        rcases ih hnext with hrest | hrest
        · exact .inl (Prog.calmly_bind hmatch' hrest)
        · exact .inr (Prog.calmly_bind hmatch' hrest)

lemma grubPrimaryLoop_quiet (env : GrubEnv) (order : List RaucSlot) (names : List String) :
    Prog.Quiet env (grubPrimaryLoop order names) := by
  induction names with
  | nil => exact Prog.quiet_pure env _
  | cons c rest ih =>
    apply Prog.quiet_bind (grubMatchSlot_quiet env c order)
    intro r
    cases r with
    | none => exact ih
    | some primary => exact Prog.quiet_pure env _

lemma GrubRefilled.primary (h : GrubRefilled b env env') (hb : slot.bootname = some b)
    (order : List RaucSlot)
    (hparts : ∀ t ∈ order, ∀ c, t.bootname = some c → VariablePart c)
    (honly : ∀ t ∈ order, t.bootname = some b → t = slot) (hmem : slot ∈ order) {t : RaucSlot}
    (ht : Prog.observe (rGrubGetPrimary order) env = .value t) :
    Prog.observe (rGrubGetPrimary order) env' = .value t ∨
      Prog.observe (rGrubGetPrimary order) env' = .value slot := by
  have hquiet : Prog.Quiet env (rGrubGetPrimary order) := by
    apply Prog.quiet_bind (grubEnvGet_quiet env _)
    intro bootOrder
    split_ifs
    · exact Prog.quiet_exit env _
    · apply Prog.quiet_bind (grubPrimaryLoop_quiet env order _)
      intro r
      cases r with
      | none => exact Prog.quiet_exit env _
      | some primary => exact Prog.quiet_pure env _
  obtain ⟨bootOrder, hget, hnext⟩ := (grubEnvGet_quiet env _).bind_inv (hquiet.calmly ht)
  have horder : env'.lookup "ORDER" = env.lookup "ORDER" :=
    h.other _ (okVar_ne_order b).symm (tryVar_ne_order b).symm
  have hget' := grubEnvGet_same h.plain h.plain' (by decide) horder hget
  split_ifs at hnext with hempty
  · exact absurd (congrArg Prod.fst hnext) (by simp [Prog.fail, Prog.exit])
  · obtain ⟨r, hrun, hr⟩ := (grubPrimaryLoop_quiet env order _).bind_inv hnext
    cases r with
    | none => exact absurd (congrArg Prod.fst hr) (by simp [Prog.fail, Prog.exit])
    | some primary =>
      have hprimary : primary = t := Outcome.value.inj (congrArg Prod.fst hr)
      rw [hprimary] at hrun
      have hfound :
          ∀ found, Prog.Calmly env' (grubPrimaryLoop order (splitFields ' ' bootOrder.str))
          (some found) env' →
          Prog.observe (rGrubGetPrimary order) env' = .value found := by
        intro found hloop
        have hlast : Prog.Calmly env' (rGrubGetPrimary order) found env' := by
          apply Prog.calmly_bind hget'
          rw [if_neg hempty]
          exact Prog.calmly_bind hloop (Prog.calmly_pure env' found)
        exact Prog.observe_of_calmly hlast
      rcases h.loop hb order hparts honly hmem _ hrun with hrun' | hrun'
      · exact .inl (hfound t hrun')
      · exact .inr (hfound slot hrun')

/-- A slot that is reported good is listed. -/
lemma rGrubGetState_listed (h : PlainEnv env) (hb : slot.bootname = some b) :
    Prog.Triple (· = env) (rGrubGetState slot)
      (fun good _ => good = true → ∃ v, env.lookup "ORDER" = some v ∧
        b ∈ splitFields ' ' (chomp v)) (fun _ _ => True) := by
  unfold rGrubGetState
  rw [if_neg (by simp [hb])]
  apply Prog.triple_bind (Prog.triple_consequence (grubEnvGet_triple h (by decide)) (fun _ h => h)
    (fun _ _ h => h)
    (fun _ _ _ => trivial))
  intro order
  apply Prog.triple_fact
  rintro ⟨v, hv, rfl⟩
  simp only [any_bootname hb]
  by_cases hmem : b ∈ splitFields ' ' (chomp v)
  · rw [if_pos (by simpa using hmem)]
    apply Prog.triple_bind (grubEnvGet_keeps env _)
    intro slotOk
    apply Prog.triple_bind (grubEnvGet_keeps env _)
    intro slotTry
    exact Prog.triple_pure (fun _ _ _ => ⟨v, hv, hmem⟩)
  · rw [if_neg (by simpa using hmem)]
    exact Prog.triple_pure (fun _ _ hfalse => absurd hfalse (by simp))

lemma GrubRefilled.state_self (h : GrubRefilled b env env') (hpart : VariablePart b)
    (hb : slot.bootname = some b) :
    Prog.observe (rGrubGetState slot) env' = .value true ↔
      ∃ v, env.lookup "ORDER" = some v ∧ b ∈ splitFields ' ' (chomp v) := by
  have horder : env'.lookup "ORDER" = env.lookup "ORDER" :=
    h.other _ (okVar_ne_order b).symm (tryVar_ne_order b).symm
  constructor
  · intro hgood
    have hlisted := (rGrubGetState_listed h.plain' hb).value rfl hgood rfl
    rwa [horder] at hlisted
  · rintro ⟨v, hv, hmem⟩
    have hrun : Prog.Calmly env' (rGrubGetState slot) true env' := by
      unfold rGrubGetState
      rw [if_neg (by simp [hb])]
      apply Prog.calmly_bind (grubEnvGet_calm h.plain' (by decide) (horder.trans hv))
      rw [any_bootname hb, if_pos (by simpa using hmem), bootnameText_eq hb]
      apply Prog.calmly_bind (grubEnvGet_calm h.plain' (not_mem_okVar hpart.1) h.ok)
      apply Prog.calmly_bind (grubEnvGet_calm h.plain' (not_mem_tryVar hpart.1) h.tried)
      exact Prog.calmly_pure env' _
    exact Prog.observe_of_calmly hrun

lemma grubEnvGet_missing {env : GrubEnv} (h : PlainEnv env) {key : String} (hkey : '=' ∉ key.toList)
    (hv : env.lookup key = none) :
    grubEnvGet key (Prog.calm env) =
      (.exit (.error ⟨.bootchooserParseFailed, "Variable " ++ key ++
        " not set in grub environment"⟩), Prog.calm env) := by
  have hfind := find_listing h hkey
  rw [hv, Option.map_none] at hfind
  simp only [grubEnvGet, Bind.bind, Prog.bind, Prog.ask, Prog.calm, Prog.read, hfind]
  rfl

/-- What a read reports is the same in both environments. -/
lemma grubEnvGet_agree (h : PlainEnv env) (h' : PlainEnv env') {key : String}
    (hkey : '=' ∉ key.toList)
    (hsame : env'.lookup key = env.lookup key) :
    ∃ o, grubEnvGet key (Prog.calm env') = (o, Prog.calm env') ∧ grubEnvGet key (Prog.calm env) =
      (o, Prog.calm env) := by
  cases hv : env.lookup key with
  | none => exact ⟨_, grubEnvGet_missing h' hkey (hsame.trans hv), grubEnvGet_missing h hkey hv⟩
  | some v => exact ⟨_, grubEnvGet_calm h' hkey (hsame.trans hv), grubEnvGet_calm h hkey hv⟩

lemma GrubRefilled.state_other (h : GrubRefilled b env env') {t : RaucSlot} {c : String}
    (hpart : VariablePart c)
    (hc : t.bootname = some c) (hne : c ≠ b) :
    Prog.observe (rGrubGetState t) env' = Prog.observe (rGrubGetState t) env := by
  obtain ⟨hok, htry, horder⟩ := h.kept hne
  unfold rGrubGetState
  rw [if_neg (by simp [hc]), bootnameText_eq hc]
  obtain ⟨o, ho', ho⟩ := grubEnvGet_agree h.plain h.plain' (by decide) horder
  apply Prog.observe_bind_congr ho' ho
  intro order
  split_ifs
  · obtain ⟨o, ho', ho⟩ := grubEnvGet_agree h.plain h.plain' (not_mem_okVar hpart.1) hok
    apply Prog.observe_bind_congr ho' ho
    intro slotOk
    obtain ⟨o, ho', ho⟩ := grubEnvGet_agree h.plain h.plain' (not_mem_tryVar hpart.1) htry
    apply Prog.observe_bind_congr ho' ho
    intro slotTry
    rfl
  · rfl

end GrubGood

section EfiGood

variable {tool : EfiTool} {config : RaucConfig} {vars vars' : EfiVars} {slot : RaucSlot}
  {b : String}

/-- The entry of the slot was put in front of the order. -/
structure EfiRefilled (config : RaucConfig) (slot : RaucSlot) (vars vars' : EfiVars) : Prop where
  readable : EfiReadable vars
  readable' : EfiReadable vars'
  frame : EfiFrame config slot vars vars'
  first : ∃ e rest, efiOrder vars' = e :: rest ∧ namedLike slot e = true
  next : efiNext vars' = efiNext vars ∨ efiNext vars = none ∧ ∃ e, efiNext vars' = some e ∧
    namedLike slot e = true

lemma rEfiSetState_good (hslot : slot ∈ config.slots.values) (hb : slot.bootname = some b)
    (vars : EfiVars) :
    Prog.Triple (· = vars) (rEfiSetState tool slot true) (fun _ s => EfiRefilled config slot vars
      s) (fun _ _ => True) := by
  apply Prog.triple_consequence (efiModifyPersistentBootorder_triple tool vars hb true) (fun _ h =>
    h) _ (fun _ _ h => h)
  rintro _ s ⟨hs, hprepared⟩
  obtain ⟨horder, hnext, hread, hframe⟩ := efiWritten tool hslot hb true hprepared hs
  obtain ⟨entry, hentry⟩ := Option.isSome_iff_exists.mp (hprepared.2.2 rfl)
  have hnamed : namedLike slot entry = true := List.find?_some hentry
  have hnew : efiNewOrder slot true (efiPrepared tool slot vars) =
      entry :: (efiOrder (efiPrepared tool slot vars)).eraseP (namedLike slot) := by
    simp [efiNewOrder, hentry]
  rw [hnew] at horder hread
  have hreadable := hread.mpr (List.cons_ne_nil _ _)
  refine ⟨hprepared.1, hreadable, hframe hreadable, ⟨entry, _, horder, hnamed⟩, ?_⟩
  rw [hnext]
  rcases efiNext_prepared tool vars hslot hb with hsame | ⟨hbefore, e, hafter, hname⟩
  · exact .inl hsame
  · exact .inr ⟨hbefore, e, hafter, by simp [namedLike, hname, hb]⟩

lemma EfiRefilled.state_self (h : EfiRefilled config slot vars vars') :
    Prog.observe (rEfiGetState slot) vars' = .value true := by
  obtain ⟨e, rest, horder, hnamed⟩ := h.first
  rw [observe_rEfiGetState h.readable', horder,
    (efiSlotEntry_isSome_iff slot _).mpr ⟨e, by simp, hnamed⟩]

lemma EfiRefilled.primary (h : EfiRefilled config slot vars vars')
    (hslot : slot ∈ config.slots.values)
    {order : List RaucSlot} (horder : order.Perm config.slots.values) {t : RaucSlot}
    (ht : Prog.observe (rEfiGetPrimary order) vars = .value t) :
    Prog.observe (rEfiGetPrimary order) vars' = .value t ∨
      Prog.observe (rEfiGetPrimary order) vars' = .value slot := by
  have hfound := (rEfiGetPrimary_triple vars order).value rfl ht
  obtain ⟨e, rest, hfirst, hnamed⟩ := h.first
  have hfront : efiEntrySlot order e = some slot := efiEntrySlot_eq horder hslot hnamed
  -- `BootNext` names a slot, which is then the primary one before and after, or the front of the
  -- order decides
  rcases h.next with hsame | ⟨hbefore, n, hn, hnamed'⟩
  · cases hnext : efiNext vars with
    | none =>
      right
      apply observe_rEfiGetPrimary h.readable'
      simp [hsame, hnext, hfirst, hfront]
    | some n =>
      cases hslotn : efiEntrySlot order n with
      | none =>
        right
        apply observe_rEfiGetPrimary h.readable'
        simp [hsame, hnext, hfirst, hfront, hslotn]
      | some u =>
        left
        have hu : u = t := by simpa [hnext, hslotn] using hfound
        apply observe_rEfiGetPrimary h.readable'
        simp [hsame, hnext, hslotn, hu]
  · right
    apply observe_rEfiGetPrimary h.readable'
    simp [hn, efiEntrySlot_eq horder hslot hnamed']

end EfiGood

section Contract

variable {κ : Type} {ctx : BootContext κ} {slot : RaucSlot} {b : String}

/-- The slot can be booted once it is good: it has a priority, or the order lists it. -/
def HasPlace (st : BootState κ) (b : String) : Backend → Prop
  | .barebox => ∃ p, st.barebox (priorityVar b) = some p ∧ p ≠ 0
  | .grub => ∃ v, st.grub.lookup "ORDER" = some v ∧ b ∈ splitFields ' ' (chomp v)
  | .uboot => ∃ v, st.uboot "BOOT_ORDER" = some v ∧ b ∈ splitFields ' ' (chomp v)
  | _ => True

/-- What marking a slot good comes to. -/
structure MarkedGood (ctx : BootContext κ) (backend : Backend) (slot : RaucSlot) (b : String)
    (st st' : BootState κ) :
    Prop where
  state : Prog.observe (rBootGetState ctx slot) st' = .value true ↔ HasPlace st b backend
  others : ∀ t ∈ ctx.config.slots.values, t.bootname ≠ none → t ≠ slot →
    Prog.observe (rBootGetState ctx t) st' = Prog.observe (rBootGetState ctx t) st
  primary : ∀ t, Prog.observe (rBootGetPrimary ctx) st = .value t →
    Prog.observe (rBootGetPrimary ctx) st' = .value t ∨ Prog.observe (rBootGetPrimary ctx) st' =
      .value slot

/-- The bootnames and the environment are such that `grub-editenv` acts as a map of variables. -/
def GrubAsMap (config : RaucConfig) (env : GrubEnv) : Prop :=
  PlainEnv env ∧ ∀ t ∈ config.slots.values, ∀ c, t.bootname = some c → VariablePart c

lemma bootname_ne (hslot : slot ∈ ctx.config.slots.values) (hb : slot.bootname = some b)
    {t : RaucSlot}
    (ht : t ∈ ctx.config.slots.values) (hne : t ≠ slot) {c : String} (hc : t.bootname = some c) :
      c ≠ b := by
  rintro rfl
  exact hne (ctx.config.bootname_unique t ht slot hslot c hc hb)

lemma order_only (hslot : slot ∈ ctx.config.slots.values) (hb : slot.bootname = some b) :
    ∀ t ∈ ctx.order, t.bootname = some b → t = slot :=
  fun t ht htb => ctx.config.bootname_unique t (ctx.order_perm.mem_iff.mp ht) slot hslot b htb hb

lemma markedGood_barebox (hbackend : ctx.backend = some .barebox)
    (hslot : slot ∈ ctx.config.slots.values)
    (hb : slot.bootname = some b) {st : BootState κ} {x : BareboxState}
    (h : BareboxRefilled b st.barebox x) :
    MarkedGood ctx .barebox slot b st { st with barebox := x } := by
  constructor
  · unfold rBootGetState
    rw [if_neg (by simp [hb]), hbackend]
    simp only [onBarebox]
    rw [Prog.observe_mapError_zoom_value, observe_rBareboxGetState, bootnameText_eq hb]
    exact h.verdict_self
  · intro t ht htb hne
    obtain ⟨c, hc⟩ := Option.ne_none_iff_exists'.mp htb
    unfold rBootGetState
    rw [if_neg (by simp [hc]), hbackend]
    simp only [onBarebox, Prog.observe_mapError_zoom, observe_rBareboxGetState, bootnameText_eq hc,
      h.verdict_other (bootname_ne hslot hb ht hne hc)]
  · intro t ht
    unfold rBootGetPrimary at ht ⊢
    rw [hbackend] at ht ⊢
    simp only [onBarebox, Prog.observe_mapError_zoom_value] at ht ⊢
    exact h.primary ctx.order (order_only hslot hb) ht

lemma markedGood_uboot (hbackend : ctx.backend = some .uboot)
    (hslot : slot ∈ ctx.config.slots.values)
    (hb : slot.bootname = some b) {st : BootState κ} {x : UBootEnv}
    (h : UBootRefilled b st.uboot x) :
    MarkedGood ctx .uboot slot b st { st with uboot := x } := by
  constructor
  · unfold rBootGetState
    rw [if_neg (by simp [hb]), hbackend]
    simp only [onUboot]
    rw [Prog.observe_mapError_zoom_value, observe_rUbootGetState x slot b hb]
    exact h.verdict_self
  · intro t ht htb hne
    obtain ⟨c, hc⟩ := Option.ne_none_iff_exists'.mp htb
    unfold rBootGetState
    rw [if_neg (by simp [hc]), hbackend]
    simp only [onUboot, Prog.observe_mapError_zoom, observe_rUbootGetState _ t c hc,
      h.verdict_other (bootname_ne hslot hb ht hne hc)]
  · intro t ht
    unfold rBootGetPrimary at ht ⊢
    rw [hbackend] at ht ⊢
    simp only [onUboot, Prog.observe_mapError_zoom_value] at ht ⊢
    exact h.primary hb ctx.order (order_only hslot hb) (ctx.order_perm.mem_iff.mpr hslot) ht

lemma markedGood_grub (hbackend : ctx.backend = some .grub) (hslot : slot ∈ ctx.config.slots.values)
    (hb : slot.bootname = some b) {st : BootState κ} {x : GrubEnv}
    (hmap : GrubAsMap ctx.config st.grub)
    (h : GrubRefilled b st.grub x) : MarkedGood ctx .grub slot b st { st with grub := x } := by
  constructor
  · unfold rBootGetState
    rw [if_neg (by simp [hb]), hbackend]
    simp only [onGrub]
    rw [Prog.observe_mapError_zoom_value]
    exact h.state_self (hmap.2 slot hslot b hb) hb
  · intro t ht htb hne
    obtain ⟨c, hc⟩ := Option.ne_none_iff_exists'.mp htb
    unfold rBootGetState
    rw [if_neg (by simp [hc]), hbackend]
    simp only [onGrub, Prog.observe_mapError_zoom,
      h.state_other (hmap.2 t ht c hc) hc (bootname_ne hslot hb ht hne hc)]
  · intro t ht
    unfold rBootGetPrimary at ht ⊢
    rw [hbackend] at ht ⊢
    simp only [onGrub, Prog.observe_mapError_zoom_value] at ht ⊢
    exact h.primary hb ctx.order (fun u hu => hmap.2 u (ctx.order_perm.mem_iff.mp hu))
      (order_only hslot hb)
      (ctx.order_perm.mem_iff.mpr hslot) ht

lemma markedGood_efi (hbackend : ctx.backend = some .efi) (hslot : slot ∈ ctx.config.slots.values)
    (hb : slot.bootname = some b) {st : BootState κ} {x : EfiVars}
    (h : EfiRefilled ctx.config slot st.efi x) :
    MarkedGood ctx .efi slot b st { st with efi := x } := by
  constructor
  · unfold rBootGetState
    rw [if_neg (by simp [hb]), hbackend]
    simp only [onEfi]
    rw [Prog.observe_mapError_zoom_value]
    exact ⟨fun _ => trivial, fun _ => h.state_self⟩
  · intro t ht htb hne
    obtain ⟨c, hc⟩ := Option.ne_none_iff_exists'.mp htb
    unfold rBootGetState
    rw [if_neg (by simp [hc]), hbackend]
    simp only [onEfi, Prog.observe_mapError_zoom, h.frame.state t ht htb hne]
  · intro t ht
    unfold rBootGetPrimary at ht ⊢
    rw [hbackend] at ht ⊢
    simp only [onEfi, Prog.observe_mapError_zoom_value] at ht ⊢
    exact h.primary hslot ctx.order_perm ht

/-- Marking a slot good, on each of the four backends that keep boot states: the slot is good if it
has its place in the boot order, which the EFI backend always gives it. The other slots keep their
state, and the primary slot stays the primary one unless the slot takes over from it. -/
theorem rBootSetState_good_contract (ctx : BootContext κ) (backend : Backend)
    (hbackend : ctx.backend = some backend)
    (hstates : backend ∈ [Backend.barebox, .grub, .uboot, .efi]) (st : BootState κ)
    (hmap : backend = .grub → GrubAsMap ctx.config st.grub) (slot : RaucSlot)
    (hslot : slot ∈ ctx.config.slots.values) (b : String) (hb : slot.bootname = some b)
    (fates : Nat → Fate)
    (hsuccess : (rBootSetState ctx slot true ⟨st, fates⟩).1 = .value ()) :
    MarkedGood ctx backend slot b st (rBootSetState ctx slot true ⟨st, fates⟩).2.state := by
  suffices hrun : Prog.Triple (· = st) (rBootSetState ctx slot true) (fun _ st' =>
      MarkedGood ctx backend slot b st st')
      (fun _ _ => True) from hrun.value rfl hsuccess
  unfold rBootSetState
  rw [hbackend]
  cases backend with
  | barebox =>
    apply Prog.triple_consequence (Prog.triple_mapError_zoom
      (rBareboxSetState_good ctx.config st.barebox hb))
      (fun _ h => h) _ (fun _ _ h => h)
    rintro _ _ ⟨x, rfl, hx⟩
    exact markedGood_barebox hbackend hslot hb hx
  | grub =>
    obtain ⟨hplain, hparts⟩ := hmap rfl
    apply Prog.triple_consequence (Prog.triple_mapError_zoom
      (rGrubSetState_good hplain (hparts slot hslot b hb) hb))
      (fun _ h => h) _ (fun _ _ h => h)
    rintro _ _ ⟨x, rfl, hx⟩
    exact markedGood_grub hbackend hslot hb ⟨hplain, hparts⟩ hx
  | uboot =>
    apply Prog.triple_consequence (Prog.triple_mapError_zoom
      (rUbootSetState_good ctx.config st.uboot hb))
      (fun _ h => h) _ (fun _ _ h => h)
    rintro _ _ ⟨x, rfl, hx⟩
    exact markedGood_uboot hbackend hslot hb hx
  | efi =>
    apply Prog.triple_consequence (Prog.triple_mapError_zoom (rEfiSetState_good hslot hb st.efi))
      (fun _ h => h) _ (fun _ _ h => h)
    rintro _ _ ⟨x, rfl, hx⟩
    exact markedGood_efi hbackend hslot hb hx
  | custom => exact absurd hstates (by decide)
  | noop => exact absurd hstates (by decide)

end Contract

section Pair

/-- The two-slot system with a boot loader, and a script that does nothing. -/
def pairContext (bootloader : String) : BootContext Unit where
  config := { pairConfig with systemBootloader := some bootloader }
  tool := fullTool
  script := ⟨fun _ _ _ => "", fun _ _ _ _ => ()⟩
  order := pairConfig.slots.values
  order_perm := List.Perm.refl _

def slotA : RaucSlot := bootableSlot "rootfs.0" "A"

def slotB : RaucSlot := bootableSlot "rootfs.1" "B"

/-- `A` is bad in every backend that has a state for it, and lost its place in the order of all but
GRUB. -/
def badFirstState : BootState Unit where
  barebox := fun v => if v = priorityVar "A" ∨ v = attemptsVar "A" then some 0
    else pairBareboxState v
  grub := (pairGrubEnv "A B" "A" "B").set (okVar "A") "0"
  uboot := fun v => if v = leftVar "A" then some "0" else pairUBootEnv "B" v
  efi := { pairEfiVars none with bootOrder := "0001" }
  custom := ()

/-- Marking `A` good on the U-Boot backend while the order lists it. -/
theorem rBootSetState_good_contract_uboot :
    MarkedGood (pairContext "uboot") .uboot slotA "A"
      { badFirstState with uboot := pairUBootEnv "A B" }
      (rBootSetState (pairContext "uboot") slotA true
        ⟨{ badFirstState with uboot := pairUBootEnv "A B" }, fun _ => .succeeds⟩).2.state ∧
    HasPlace { badFirstState with uboot := pairUBootEnv "A B" } "A" .uboot :=
  ⟨rBootSetState_good_contract (pairContext "uboot") .uboot (by decide) (by decide) _ (by simp)
    slotA (by decide) "A" rfl
    _ (by decide), "A B", by decide, by decide⟩

def markedGoodA (bootloader : String) : Outcome GError Unit × World (BootState Unit) :=
  rBootSetState (pairContext bootloader) slotA true (Prog.calm badFirstState)

/-- Marking the bad slot `A` good: barebox and U-Boot leave it bad, with GRUB and EFI it takes over
from the good primary slot `B`. -/
theorem mark_good_differs :
    ((markedGoodA "barebox").1 = .value () ∧
      Prog.observe (rBootGetState (pairContext "barebox") slotA) (markedGoodA "barebox").2.state =
        .value false) ∧
    ((markedGoodA "uboot").1 = .value () ∧
      Prog.observe (rBootGetState (pairContext "uboot") slotA) (markedGoodA "uboot").2.state =
        .value false) ∧
    ((markedGoodA "grub").1 = .value () ∧
      Prog.observe (rBootGetPrimary (pairContext "grub")) badFirstState = .value slotB ∧
      Prog.observe (rBootGetPrimary (pairContext "grub")) (markedGoodA "grub").2.state =
        .value slotA) ∧
    ((markedGoodA "efi").1 = .value () ∧
      Prog.observe (rBootGetPrimary (pairContext "efi")) badFirstState = .value slotB ∧
      Prog.observe (rBootGetPrimary (pairContext "efi")) (markedGoodA "efi").2.state =
        .value slotA) := by
  refine ⟨⟨?_, ?_⟩, ⟨?_, ?_⟩, ⟨?_, ?_, ?_⟩, ?_, ?_, ?_⟩
  all_goals decide +kernel

end Pair

end RaucUpdate
