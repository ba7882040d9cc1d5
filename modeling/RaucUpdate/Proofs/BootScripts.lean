import RaucUpdate.Proofs.Grub
import RaucUpdate.Proofs.UBoot
import RaucUpdate.Proofs.UpdateCycle

/-!
# The boot scripts keep the laws

What the scripts read of the variables that the backends write, and the update cycle of both boot
loaders.
-/

namespace RaucUpdate

open Library

section Words

/-- A word is not empty and has no white space in it. -/
def PlainWord (n : String) : Prop := n ≠ "" ∧ ∀ c ∈ n.toList, isBlank c = false

lemma isWordSpace_of_not_blank {c : Char} (h : isBlank c = false) : isWordSpace c = false := by
  unfold isBlank at h
  unfold isWordSpace
  simp only [Bool.or_eq_false_iff] at h ⊢
  tauto

lemma splitOnP_joinChars (words : List (List Char)) (hne : words ≠ [])
    (hwords : ∀ w ∈ words, ∀ c ∈ w, isWordSpace c = false) :
    (joinChars ' ' words).splitOnP isWordSpace = words := by
  induction words with
  | nil => exact absurd rfl hne
  | cons w rest ih =>
    have hw := hwords w (by simp)
    cases rest with
    | nil =>
      have hone : joinChars ' ' [w] = w := by simp [joinChars, List.intercalate]
      rw [hone, List.splitOnP_eq_singleton hw]
    | cons w' rest =>
      rw [joinChars_cons _ _ (by simp), List.splitOnP_append_cons_of_forall_mem hw ' ' (by decide),
        ih (by simp) (fun w hw => hwords w (by simp [hw]))]

/-- The script sees the words that were joined. -/
lemma scriptWords_joinFields (names : List String) (hplain : ∀ n ∈ names, PlainWord n) :
    scriptWords (joinFields ' ' names) = names := by
  cases names with
  | nil => decide
  | cons n rest =>
    have hsplit := splitOnP_joinChars ((n :: rest).map String.toList) (by simp) (by
      intro w hw c hc
      obtain ⟨m, hm, rfl⟩ := List.mem_map.mp hw
      exact isWordSpace_of_not_blank ((hplain m hm).2 c hc))
    have hfilter : ((n :: rest).map String.toList).filter (fun word => !word.isEmpty) =
        (n :: rest).map String.toList := by
      apply List.filter_eq_self.mpr
      intro w hw
      obtain ⟨m, hm, rfl⟩ := List.mem_map.mp hw
      have hchars : m.toList ≠ [] := fun hnil => (hplain m hm).1 (String.toList_eq_nil_iff.mp hnil)
      simpa using hchars
    unfold scriptWords joinFields
    rw [String.toList_ofList, hsplit, hfilter, List.map_map]
    simp [Function.comp_def]

lemma joinFields_ne_empty {names : List String} (hne : names ≠ [])
    (hplain : ∀ n ∈ names, PlainWord n) :
    joinFields ' ' names ≠ "" := by
  intro hempty
  have hwords := scriptWords_joinFields names hplain
  rw [hempty] at hwords
  exact hne (hwords.symm.trans (by decide))

/-- The fields that the backend reads are the same words. -/
lemma splitFields_plain (names : List String) (hplain : ∀ n ∈ names, PlainWord n) :
    splitFields ' ' (chomp (joinFields ' ' names)) = names := by
  apply splitFields_chomp_joinFields_plain ' ' (by decide)
  · intro n hn hspace
    exact absurd ((hplain n hn).2 ' ' hspace) (by decide)
  · exact fun n hn => ⟨chomp_of_not_blank n (hplain n hn).2, (hplain n hn).1⟩

end Words

section UBootScript

variable {bits : Nat} {env env' : UBootEnv} {names : List String} {b : String}

/-- The order that the script runs over. -/
def ubootOrder (env : UBootEnv) : List String :=
  scriptWords ((ubootDefaults env "BOOT_ORDER").getD "")

def isScriptSlot (b : String) : Prop := b = "A" ∨ b = "B"

instance (b : String) : Decidable (isScriptSlot b) := by
  unfold isScriptSlot
  infer_instance

lemma setenv_other {name k : String} (value : String) (env : UBootEnv) (h : k ≠ name) :
    setenv name value env k = env k := by
  simp [setenv, h]

lemma setenvDefault_other {name k : String} (value : String) (env : UBootEnv) (h : k ≠ name) :
    setenvDefault name value env k = env k := by
  unfold setenvDefault
  split_ifs
  · exact setenv_other value env h
  · rfl

lemma ubootDefaults_order (env : UBootEnv) :
    ubootDefaults env "BOOT_ORDER" = setenvDefault "BOOT_ORDER" "A B" env "BOOT_ORDER" := by
  unfold ubootDefaults
  rw [setenvDefault_other _ _ (leftVar_ne_order "B").symm,
    setenvDefault_other _ _ (leftVar_ne_order "A").symm]

/-- The text of the order after the defaults have been set. -/
lemma ubootDefaults_lists (horder : OrderLists env names) (hne : names ≠ [])
    (hplain : ∀ n ∈ names, PlainWord n) :
    ubootDefaults env "BOOT_ORDER" = some (joinFields ' ' names) := by
  rw [ubootDefaults_order]
  rcases horder with ⟨hnone, rfl⟩ | hsome
  · simp only [setenvDefault, hnone, Option.getD_none, if_true, setenv]
    decide
  · have htext := joinFields_ne_empty hne hplain
    simp [setenvDefault, hsome, htext]

lemma ubootOrder_eq (horder : OrderLists env names) (hne : names ≠ [])
    (hplain : ∀ n ∈ names, PlainWord n) :
    ubootOrder env = names := by
  unfold ubootOrder
  rw [ubootDefaults_lists horder hne hplain, Option.getD_some, scriptWords_joinFields names hplain]

lemma ubootFindSlot_some {words : List String} (h : ubootFindSlot bits env words = some b) :
    isScriptSlot b ∧ b ∈ words := by
  induction words with
  | nil => simp [ubootFindSlot] at h
  | cons word rest ih =>
    rw [ubootFindSlot] at h
    split_ifs at h with hword
    · obtain rfl := Option.some.inj h
      exact ⟨hword.1, by simp⟩
    · exact ⟨(ih h).1, by simp [(ih h).2]⟩

lemma ubootFindSlot_hasAttempts {words : List String} (h : ubootFindSlot bits env words = some b) :
    hasAttempts bits env b = true := by
  induction words with
  | nil => simp [ubootFindSlot] at h
  | cons word rest ih =>
    rw [ubootFindSlot] at h
    split_ifs at h with hword
    · obtain rfl := Option.some.inj h
      exact hword.2
    · exact ih h

lemma ubootBootcmd_some (h : (ubootBootcmd bits env).1 = some b) :
    ubootFindSlot bits (ubootDefaults env) (ubootOrder env) = some b ∧
      (ubootBootcmd bits env).2 = takeAttempt bits (ubootDefaults env) b := by
  unfold ubootBootcmd at h ⊢
  unfold ubootOrder
  cases hfind : ubootFindSlot bits (ubootDefaults env)
      (scriptWords ((ubootDefaults env "BOOT_ORDER").getD "")) with
  | none => simp [hfind] at h
  | some slot =>
    simp only [hfind, Option.some.injEq] at h ⊢
    exact ⟨h, by rw [h]⟩

lemma ubootBootcmd_none (h : (ubootBootcmd bits env).1 = none) :
    ubootFindSlot bits (ubootDefaults env) (ubootOrder env) = none ∧
      (ubootBootcmd bits env).2 = ubootResetAttempts (ubootDefaults env) := by
  unfold ubootBootcmd at h ⊢
  unfold ubootOrder
  cases hfind : ubootFindSlot bits (ubootDefaults env)
      (scriptWords ((ubootDefaults env "BOOT_ORDER").getD "")) with
  | none => exact ⟨rfl, by simp only [hfind]⟩
  | some slot => simp [hfind] at h

/-- The script leaves the order as it is. -/
lemma ubootBootcmd_order (env : UBootEnv) :
    (ubootBootcmd bits env).2 "BOOT_ORDER" = ubootDefaults env "BOOT_ORDER" := by
  cases h : (ubootBootcmd bits env).1 with
  | some b =>
    rw [(ubootBootcmd_some h).2]
    exact setenv_other _ _ (leftVar_ne_order b).symm
  | none =>
    rw [(ubootBootcmd_none h).2]
    unfold ubootResetAttempts
    rw [setenv_other _ _ (leftVar_ne_order "B").symm, setenv_other _ _ (leftVar_ne_order "A").symm]

lemma ubootBootcmd_lists (bits : Nat) (saved : Bool) (horder : OrderLists env names)
    (hne : names ≠ [])
    (hplain : ∀ n ∈ names, PlainWord n) :
      OrderLists (if saved then (ubootBootcmd bits env).2 else env) names := by
  cases saved with
  | false => exact horder
  | true =>
    refine .inr ?_
    rw [if_pos rfl, ubootBootcmd_order, ubootDefaults_lists horder hne hplain]

end UBootScript

section UBootCalls

variable {config : RaucConfig} {slot : RaucSlot} {b : String} {env : UBootEnv} {fates : Nat → Fate}
  {occurs : UBootCall → World UBootEnv → Prop}

/-- Every way in which two writes can end. -/
lemma twoWrites_run (env : UBootEnv) (key value key' value' : String) (fates : Nat → Fate) :
    let result := Prog.bind (ubootEnvSet key value) (fun _ => ubootEnvSet key' value') ⟨env, fates⟩
    (result.1 = .value () ∧ result.2.state = envSet (envSet env key value) key' value') ∨
      (result.1 ≠ .value () ∧ (result.2.state = env ∨ result.2.state = envSet env key value)) := by
  intro result
  have hrun := twoWrites_triple env key value key' value'
  cases h : result.1 with
  | value u => exact .inl ⟨rfl, hrun.value rfl h⟩
  | exit x => exact .inr ⟨by simp, hrun.exit rfl h⟩

/-- An activation puts the slot in front of the order, or fails and leaves the order alone. With
success the counter is at its start. -/
lemma rUbootSetPrimary_ends (config : RaucConfig) (hb : slot.bootname = some b)
    (order : List RaucSlot)
    (hreadable : OrderReadable ⟨env, fates⟩) :
    let result := (UBootCall.setPrimary slot).run config order ⟨env, fates⟩
    (result.1 = .value () ∧ result.2.state =
        envSet (envSet env (leftVar b) (formatNat 16
          (attemptsOr config.bootAttemptsPrimary 3).toNat))
          "BOOT_ORDER" (joinFields ' ' (newEntries slot b true env))) ∨
      (result.1 ≠ .value () ∧ result.2.state "BOOT_ORDER" = env "BOOT_ORDER") := by
  intro result
  obtain ⟨v, hv, hread⟩ := orderReadable_run hreadable
  have hrun : result =
      Prog.bind (ubootEnvSet (leftVar b) (formatNat 16
        (attemptsOr config.bootAttemptsPrimary 3).toNat))
        (fun _ => ubootEnvSet "BOOT_ORDER" (joinFields ' ' (newEntries slot b true env)))
        ⟨env, fun n => fates (n + 1)⟩ := by
    simp only [result, UBootCall.run, rUbootSetPrimary]
    rw [Prog.bind_of_value hread, ← (keptBootnames_eq slot b hv).2, bootnameText_eq hb, hb]
    rfl
  rw [hrun]
  rcases twoWrites_run env (leftVar b) (formatNat 16
    (attemptsOr config.bootAttemptsPrimary 3).toNat) "BOOT_ORDER"
    (joinFields ' ' (newEntries slot b true env)) (fun n => fates (n + 1)) with h | ⟨hfailed,
      hstate | hstate⟩
  · exact .inl h
  · exact .inr ⟨hfailed, by rw [hstate]⟩
  · exact .inr ⟨hfailed, by rw [hstate, envSet_other _ _ (leftVar_ne_order b).symm]⟩

/-- The entries that a call keeps. -/
lemma newEntries_of_lists {names : List String} {v : String} (hb : slot.bootname = some b)
    (hv : env "BOOT_ORDER" = some v)
    (horder : OrderLists env names) (hplain : ∀ n ∈ names, PlainWord n) (front : Bool) :
    newEntries slot b front env = (if front then [b] else []) ++
      names.filter (fun n => decide (n ≠ b)) := by
  have htext : env "BOOT_ORDER" = some (joinFields ' ' names) := by
    rcases horder with ⟨hnone, -⟩ | hsome
    · simp [hnone] at hv
    · exact hsome
  unfold newEntries
  rw [bootOrderEntries_of_eq htext, splitFields_plain names hplain, hb]
  congr 1
  apply List.filter_congr
  intro n hn
  simp [(hplain n hn).1]

lemma plainWord_bootname (hblank : BlankFree config) (hslot : slot ∈ config.slots.values)
    (hb : slot.bootname = some b) :
    PlainWord b := by
  refine ⟨?_, hblank slot hslot b hb⟩
  rintro rfl
  exact config.bootname_nonempty slot hslot hb

end UBootCalls

section UBootCycle

variable {bits : Nat} {env : UBootEnv}

lemma hexNumber_formatNat (n : Nat) : hexNumber (formatNat 16 n) = n := by
  unfold hexNumber formatNat
  rw [String.toList_ofList, takeDigits_toDigits 16 (by decide) (by decide)]

lemma hasAttempts_of_eq {b : String} {n : Nat} (hleft : env (leftVar b) = some (formatNat 16 n))
    (hn : 2 * n < 2 ^ bits) :
    hasAttempts bits env b = decide (0 < n) := by
  unfold hasAttempts
  rw [hleft, Option.getD_some, hexNumber_formatNat]
  have hbmod : Int.bmod (n : Int) (2 ^ bits) = n := by
    apply Int.bmod_eq_of_le_mul_two
    · omega
    · have : ((2 ^ bits : Nat) : Int) = 2 ^ bits := by push_cast; rfl
      omega
  rw [hbmod]
  simp

lemma leftVar_A_ne_B : leftVar "A" ≠ leftVar "B" := by decide

/-- A counter that is set stays as it is. -/
lemma ubootDefaults_left {b text : String} (hleft : env (leftVar b) = some text)
    (hne : text ≠ "") : ubootDefaults env (leftVar b) = some text := by
  have horder : setenvDefault "BOOT_ORDER" "A B" env (leftVar b) = some text := by
    rw [setenvDefault_other _ _ (leftVar_ne_order b), hleft]
  have hkeep : ∀ (name value : String) (e : UBootEnv), e (leftVar b) = some text →
      setenvDefault name value e (leftVar b) = some text := by
    intro name value e he
    by_cases hname : leftVar b = name
    · rw [← hname]
      simp [setenvDefault, he, hne]
    · rw [setenvDefault_other _ _ hname, he]
  exact hkeep _ _ _ (hkeep _ _ _ horder)

/-- A reset gives three attempts to both slots. -/
lemma ubootBootcmd_three {b : String} (hscript : isScriptSlot b)
    (hnone : (ubootBootcmd bits env).1 = none) :
    (ubootBootcmd bits env).2 (leftVar b) = some "3" := by
  rw [(ubootBootcmd_none hnone).2]
  rcases hscript with rfl | rfl
  · simp [ubootResetAttempts, setenv]
  · simp [ubootResetAttempts, setenv]

end UBootCycle

section GrubScript

variable {env : GrubEnv} {v : GrubScript}

/-- A slot may be started when its flag says that it is good. -/
def GrubOffers (env : GrubEnv) (b : String) : Prop :=
  isScriptSlot b ∧ isNumber ((env.lookup (okVar b)).getD "0") 1 = true

/-- The variables of the loop belong to the slot that was visited last. -/
def Visited (v : GrubScript) : Prop :=
  (v.index = 0 ∧ v.ok = "") ∨ (v.index = 1 ∧ v.ok = v.aOk) ∨ (v.index = 2 ∧ v.ok = v.bOk)

/-- The loop leaves the flags and the order alone, and the menu entry it chooses is that of a good
slot. -/
structure Selected (v v' : GrubScript) : Prop where
  order : v'.order = v.order
  aOk : v'.aOk = v.aOk
  bOk : v'.bOk = v.bOk
  entry : v'.default = v.default ∨ (v'.default = 1 ∧ isNumber v.aOk 1 = true) ∨
    (v'.default = 2 ∧ isNumber v.bOk 1 = true)

lemma visitSlot_keeps (hv : Visited v) (slot : String) :
    (visitSlot v slot).order = v.order ∧ (visitSlot v slot).aOk = v.aOk ∧
      (visitSlot v slot).bOk = v.bOk ∧
      (visitSlot v slot).default = v.default ∧ Visited (visitSlot v slot) := by
  unfold visitSlot
  split_ifs
  · exact ⟨rfl, rfl, rfl, rfl, .inr (.inl ⟨rfl, rfl⟩)⟩
  · exact ⟨rfl, rfl, rfl, rfl, .inr (.inr ⟨rfl, rfl⟩)⟩
  · exact ⟨rfl, rfl, rfl, rfl, hv⟩

lemma selectSlot_selected (words : List String) (hv : Visited v) :
    Selected v (selectSlot v words) := by
  induction words generalizing v with
  | nil => exact ⟨rfl, rfl, rfl, .inl rfl⟩
  | cons slot rest ih =>
    obtain ⟨horder, haOk, hbOk, hdefault, hvisited⟩ := visitSlot_keeps hv slot
    rw [selectSlot]
    split_ifs with hgood
    · have hok : isNumber (visitSlot v slot).ok 1 = true := (Bool.and_eq_true_iff.mp hgood).1
      refine ⟨horder, haOk, hbOk, ?_⟩
      rcases hvisited with ⟨-, hempty⟩ | ⟨hindex, heq⟩ | ⟨hindex, heq⟩
      · rw [hempty] at hok
        exact absurd hok (by decide)
      · exact .inr (.inl ⟨hindex, by rw [← haOk, ← heq, hok]⟩)
      · exact .inr (.inr ⟨hindex, by rw [← hbOk, ← heq, hok]⟩)
    · obtain ⟨horder', haOk', hbOk', hentry⟩ := ih hvisited
      refine ⟨horder'.trans horder, haOk'.trans haOk, hbOk'.trans hbOk, ?_⟩
      rwa [hdefault, haOk, hbOk] at hentry

lemma resetBooted_keeps (v : GrubScript) : (resetBooted v).order = v.order ∧
    (resetBooted v).aOk = v.aOk ∧
    (resetBooted v).bOk = v.bOk ∧ (resetBooted v).default = v.default := by
  unfold resetBooted
  split_ifs
  · exact ⟨rfl, rfl, rfl, rfl⟩
  · exact ⟨rfl, rfl, rfl, rfl⟩

lemma loadEnv_visited (env : GrubEnv) : Visited (loadEnv env) := .inl ⟨rfl, rfl⟩

/-- What the script saves for the flags of the slots. -/
lemma lookup_saveEnv (v : GrubScript) (env : GrubEnv) : (saveEnv v env).lookup (okVar "A") =
    some v.aOk ∧
    (saveEnv v env).lookup (okVar "B") = some v.bOk ∧ (saveEnv v env).lookup (tryVar "A") =
      some v.aTry ∧
    (saveEnv v env).lookup (tryVar "B") = some v.bTry ∧ (saveEnv v env).lookup "ORDER" =
      some v.order := by
  have hdistinct : okVar "A" ≠ okVar "B" ∧ tryVar "A" ≠ tryVar "B" := by decide
  unfold saveEnv
  simp [Table.lookup_set, hdistinct.1.symm, hdistinct.2.symm, okVar_ne_tryVar,
    (okVar_ne_tryVar _ _).symm,
    (okVar_ne_order _).symm, (tryVar_ne_order _).symm]

/-- A start of the machine changes no flag, and the slot that is started is a good one. -/
lemma grubBoots_offers {next : Option String} {env' : GrubEnv} (hboots : GrubBoots env next env') :
    (∀ c, GrubOffers env' c → GrubOffers env c) ∧ ∀ b, next = some b → GrubOffers env b := by
  obtain ⟨saved, hnext, rfl⟩ := hboots
  have hselected := selectSlot_selected (scriptWords (loadEnv env).order) (loadEnv_visited env)
  obtain ⟨-, haOk, hbOk, hdefault⟩ :=
    resetBooted_keeps (selectSlot (loadEnv env) (scriptWords (loadEnv env).order))
  refine ⟨?_, ?_⟩
  · cases saved with
    | false => exact fun c hc => hc
    | true =>
      rintro c ⟨hscript, hok⟩
      refine ⟨hscript, ?_⟩
      obtain ⟨ha, hb, -⟩ := lookup_saveEnv
        (resetBooted (selectSlot (loadEnv env) (scriptWords (loadEnv env).order))) env
      rcases hscript with rfl | rfl
      · rw [if_pos rfl] at hok
        unfold grubBoot at hok
        rw [ha, haOk, hselected.aOk] at hok
        exact hok
      · rw [if_pos rfl] at hok
        unfold grubBoot at hok
        rw [hb, hbOk, hselected.bOk] at hok
        exact hok
  · rintro b rfl
    have hentry : menuEntry (selectSlot (loadEnv env) (scriptWords (loadEnv env).order)).default =
        some b := by
      rw [← hdefault]
      exact hnext.symm
    rcases hselected.entry with hzero | ⟨hone, hok⟩ | ⟨htwo, hok⟩
    · rw [hzero] at hentry
      simp [loadEnv, menuEntry] at hentry
    · rw [hone] at hentry
      obtain rfl := Option.some.inj hentry
      exact ⟨.inl rfl, hok⟩
    · rw [htwo] at hentry
      obtain rfl := Option.some.inj hentry
      exact ⟨.inr rfl, hok⟩

end GrubScript

section GrubCycle

variable {config : RaucConfig} {slot : RaucSlot} {b : String} {env env' : GrubEnv}

/-- A call changes nothing, or the flag of its slot alone. -/
lemma grubEnds_offers (call : GrubCall) {ok : Bool} (hb : call.slot.bootname = some b)
    (hname : '=' ∉ b.toList)
    (hends : GrubEnds config call env ok env') :
    (∀ c, GrubOffers env' c → GrubOffers env c ∨ (c = b ∧ call.good = true)) ∧
      (ok = true → call.good = false → ¬ GrubOffers env' b) := by
  obtain ⟨order, fates, -, hok, rfl⟩ := hends
  have hcall : Prog.Triple (· = env) (call.run order) (fun _ s => s = grubAfter order env call)
      (fun _ s => s = env) :=
    grubCall_triple call hb hname
  have hcases : (call.run order ⟨env, fates⟩).1 = .value () ∧
        (call.run order ⟨env, fates⟩).2.state = grubAfter order env call ∨
      (call.run order ⟨env, fates⟩).1 ≠ .value () ∧
        (call.run order ⟨env, fates⟩).2.state = env := by
    cases h : (call.run order ⟨env, fates⟩).1 with
    | value u => exact .inl ⟨rfl, hcall.value rfl h⟩
    | exit x => exact .inr ⟨by simp, hcall.exit rfl h⟩
  obtain ⟨-, hflag, hother⟩ := lookup_grubAfter order env call hb
  rcases hcases with ⟨-, hstate⟩ | ⟨hfailed, hstate⟩
  · rw [hstate]
    refine ⟨?_, ?_⟩
    · rintro c ⟨hscript, hc⟩
      by_cases hcb : c = b
      · rw [hcb, hflag, Option.getD_some] at hc
        cases hgood : call.good with
        | true => exact .inr ⟨hcb, rfl⟩
        | false =>
          rw [hgood] at hc
          exact absurd hc (by decide)
      · rw [(hother c hcb).1] at hc
        exact .inl ⟨hscript, hc⟩
    · rintro - hgood ⟨-, hc⟩
      rw [hflag, hgood] at hc
      exact absurd hc (by decide)
  · rw [hstate]
    exact ⟨fun c hc => .inl hc, fun h => absurd (hok.mp h) hfailed⟩

/-- No bootname has an equal sign in it, which would end the name of a variable. -/
def EqualFree (config : RaucConfig) : Prop := ∀ s ∈ config.slots.values, ∀ b, s.bootname = some b →
    '=' ∉ b.toList

/-- The laws for GRUB. Nothing is asked of the environment. -/
def grubLaws (config : RaucConfig) (hname : EqualFree config) :
    SchemeLaws config (grubScheme config) where
  offers := GrubOffers
  Sound _ _ := True
  bad {slot b} _ _ _ _ hslot hb _ _ hcall := by
    obtain ⟨hoffers, hgone⟩ :=
      grubEnds_offers (.setState slot false) hb (hname slot hslot b hb) hcall
    exact ⟨trivial, fun c hc => (hoffers c hc).resolve_right (fun h => Bool.false_ne_true h.2),
      fun h => hgone h rfl⟩
  good {slot b} _ _ _ _ hslot hb _ hcall := by
    obtain ⟨hoffers, -⟩ := grubEnds_offers (.setState slot true) hb (hname slot hslot b hb) hcall
    exact ⟨trivial, fun c hc => (hoffers c hc).imp_right And.left⟩
  primary {slot b} _ _ _ _ hslot hb _ hcall := by
    obtain ⟨hoffers, -⟩ := grubEnds_offers (.setPrimary slot) hb (hname slot hslot b hb) hcall
    exact ⟨trivial, fun c hc => (hoffers c hc).imp_right And.left⟩
  boots _ hboots := ⟨trivial, grubBoots_offers hboots⟩

/-- The update cycle with GRUB: whatever fails and wherever a run stops, the script only starts
slots whose group is complete, or the rescue system. -/
theorem grubCycle_starts_intact (ctx : InstallContext) (hname : EqualFree ctx.config)
    (hsame : ∀ s ∈ ctx.config.slots.values, s.installSame = true) {st₀ st : CycleState GrubEnv}
    {steps : List (CycleState GrubEnv × CycleAction ctx)} (hintact : st₀.Delivered)
    (hcycle : UpdateCycle (grubScheme ctx.config) ctx st₀ steps st)
    (hcareful : ∀ step ∈ steps, Careful ctx step.1 step.2) :
    ∀ b env, GrubBoots st.boot (some b) env → GroupIntact ctx st b := by
  have hhidden := updateCycle_hidden (grubLaws ctx.config hname) hsame trivial hintact
    hcycle hcareful
  exact fun b env hboots => hhidden.starts_intact hboots

/-- The first group is the one that is started. -/
theorem grubCycle_starts_first :
    ∃ st, UpdateCycle (grubScheme (twoGroupsContext "grub").config) (twoGroupsContext "grub")
        (firstRunning (pairGrubEnv "A B" "A" "B"))
        [(firstRunning (pairGrubEnv "A B" "A" "B"), .install (brokenOffUpdate "grub"))] st ∧
      st.damaged "kernel.1" = true ∧ (grubBoot st.boot).1 = some "A" ∧
        GroupIntact (twoGroupsContext "grub") st "A" := by
  have hcall : (grubScheme (twoGroupsContext "grub").config).setState secondKernel false
      (pairGrubEnv "A B" "A" "B") true
      ((GrubCall.setState secondKernel false).run kernelRootfsSlots.values
        ⟨pairGrubEnv "A B" "A" "B", fun _ => .succeeds⟩).2.state :=
    ⟨kernelRootfsSlots.values, fun _ => .succeeds, List.Perm.refl _, by decide, rfl⟩
  obtain ⟨st, hcycle, hboot, hdamaged⟩ := brokenOffUpdate_cycle (.inr rfl) hcall
  have hstarts : (grubBoot st.boot).1 = some "A" := by
    rw [hboot]
    decide +kernel
  have hname : EqualFree (twoGroupsContext "grub").config := by
    unfold EqualFree
    decide
  refine ⟨st, hcycle, hdamaged, hstarts, ?_⟩
  exact grubCycle_starts_intact _ hname (by decide) (fun _ => rfl) hcycle
    (by simpa using brokenOffUpdate_careful "grub" (pairGrubEnv "A B" "A" "B")) "A" _ ⟨true,
      hstarts.symm, rfl⟩

end GrubCycle

end RaucUpdate
