import RaucUpdate.Model.UBoot

namespace RaucUpdate

open Library

section Environment

/-- The effect of `fw_setenv`. -/
def envSet (env : UBootEnv) (key value : String) : UBootEnv :=
  fun k => if k = key then some value else env k

@[simp] lemma envSet_self (env : UBootEnv) (key value : String) :
    envSet env key value key = some value := by
  simp [envSet]

lemma envSet_other (env : UBootEnv) {key k : String} (value : String) (h : k ≠ key) :
    envSet env key value k = env k := by
  simp [envSet, h]

lemma leftVar_inj {b b' : String} (h : leftVar b = leftVar b') : b = b' := by
  have hlist := congrArg String.toList h
  simp only [leftVar, String.toList_append] at hlist
  exact String.toList_inj.mp (List.append_cancel_left (List.append_cancel_right hlist))

lemma leftVar_ne_order (b : String) : leftVar b ≠ "BOOT_ORDER" := by
  intro h
  have hlast := congrArg (fun s : String => s.toList.getLast?) h
  simp only [leftVar, String.toList_append] at hlast
  rw [List.getLast?_append_of_ne_nil _ (by decide)] at hlast
  exact absurd hlast (by decide)

/-- Skipping the name and stripping the newline gives the stripped value. -/
lemma chomp_printed (key value : String) :
    chomp (String.ofList ((key ++ "=" ++ value ++ "\n").toList.drop (key.toList.length + 1))) =
      chomp value := by
  have hdrop : (key ++ "=" ++ value ++ "\n").toList.drop (key.toList.length + 1) =
      value.toList ++ ['\n'] := by
    have hlist : (key ++ "=" ++ value ++ "\n").toList = (key.toList ++ ['=']) ++
        (value.toList ++ ['\n']) := by
      simp [String.toList_append]
    rw [hlist]
    exact List.drop_left' (by simp)
  unfold chomp
  rw [hdrop, String.toList_ofList, chompChars_append_blank _ _ (by decide)]

lemma ubootEnvGet_triple (env : UBootEnv) (key : String) :
    Prog.Triple (· = env) (ubootEnvGet key) (fun r s => s = env ∧ ∃ v, env key = some v ∧
      r = chomp v)
      (fun _ s => s = env) := by
  refine Prog.triple_bind (Prog.triple_ask (Q := fun _ s => s = env) (fun _ _ h => h)
    (fun _ h => h)) ?_
  intro r
  cases r with
  | some failure => exact Prog.triple_exit (fun _ h => h)
  | none =>
    refine Prog.triple_bind (Prog.triple_read (Q := fun r s => r = env ∧
      s = env) (fun _ h => ⟨h, h⟩)) ?_
    intro env'
    cases hv : env' key with
    | none => exact Prog.triple_exit (fun _ h => h.2)
    | some v =>
      refine Prog.triple_pure ?_
      rintro s ⟨rfl, rfl⟩
      exact ⟨rfl, v, hv, chomp_printed key v⟩

lemma ubootEnvGet_calm (env : UBootEnv) (key v : String) (hv : env key = some v) :
    ubootEnvGet key (Prog.calm env) = (.value (chomp v), Prog.calm env) := by
  rw [← chomp_printed key v]
  simp only [ubootEnvGet, Bind.bind, Prog.bind, Prog.ask, Prog.calm, Prog.read, hv]
  rfl

lemma ubootEnvGet_calm_missing (env : UBootEnv) (key : String) (hv : env key = none) :
    ubootEnvGet key (Prog.calm env) =
      (.exit (.error (commandError ubootFwprintenvName (.exitStatus 1))), Prog.calm env) := by
  simp only [ubootEnvGet, Bind.bind, Prog.bind, Prog.ask, Prog.calm, Prog.read, hv]
  rfl

lemma ubootEnvSet_triple (env : UBootEnv) (key value : String) :
    Prog.Triple (· = env) (ubootEnvSet key value) (fun _ s => s = envSet env key value) (fun _ s =>
      s = env) := by
  refine Prog.triple_external ?_ (fun _ h _ => h) (fun _ h => h)
  rintro s rfl
  rfl

/-- Two writes in a row: the environment is the old one, the half-written one or the new one. -/
lemma twoWrites_triple (env : UBootEnv) (key value key' value' : String) :
    Prog.Triple (· = env) (Prog.bind (ubootEnvSet key value) (fun _ => ubootEnvSet key' value'))
      (fun _ s => s = envSet (envSet env key value) key' value')
      (fun _ s => s = env ∨ s = envSet env key value) := by
  refine Prog.triple_bind (Prog.triple_consequence (ubootEnvSet_triple env key value) (fun _ h => h)
    (fun _ _ h => h) (fun _ _ h => Or.inl h)) ?_
  intro _
  exact Prog.triple_consequence (ubootEnvSet_triple (envSet env key value) key' value')
    (fun _ h => h)
    (fun _ _ h => h) (fun _ _ h => Or.inr h)

end Environment

section Order

variable (config : RaucConfig)

/-- The entries of `BOOT_ORDER` as the backend reads them. -/
def bootOrderEntries (env : UBootEnv) : List String :=
  match env "BOOT_ORDER" with
  | none => []
  | some v => splitFields ' ' (chomp v)

/-- The entry is the bootname of a configured slot other than the given one. -/
def isOtherBootname (slot : RaucSlot) (entry : String) : Bool :=
  config.slots.values.any (fun t => decide (t ≠ slot ∧ t.bootname = some entry))

/-- The other configured slots in the order in which `BOOT_ORDER` lists them. -/
def otherOrder (slot : RaucSlot) (env : UBootEnv) : List String :=
  (bootOrderEntries env).filter (isOtherBootname config slot)

/-- No bootname contains white space. -/
def BlankFree : Prop :=
  ∀ s ∈ config.slots.values, ∀ b, s.bootname = some b → ∀ c ∈ b.toList, isBlank c = false

/-- No entry of `BOOT_ORDER` is a configured bootname followed by white space. -/
def CleanOrder (env : UBootEnv) : Prop :=
  ∀ e ∈ bootOrderEntries env, ∀ s ∈ config.slots.values, s.bootname = some (chomp e) → chomp e = e

lemma bootOrderEntries_of_eq {env : UBootEnv} {v : String} (h : env "BOOT_ORDER" = some v) :
    bootOrderEntries env = splitFields ' ' (chomp v) := by
  simp [bootOrderEntries, h]

lemma isOtherBootname_iff (slot : RaucSlot) (entry : String) :
    isOtherBootname config slot entry = true ↔
      ∃ t ∈ config.slots.values, t ≠ slot ∧ t.bootname = some entry := by
  simp [isOtherBootname]

variable {config} (hblank : BlankFree config) {slot : RaucSlot} {b : String}
  (hslot : slot ∈ config.slots.values) (hb : slot.bootname = some b)

include hblank in
lemma chomp_bootname {t : RaucSlot} (ht : t ∈ config.slots.values) {c : String}
    (hc : t.bootname = some c) :
    chomp c = c :=
  chomp_of_not_blank c (hblank t ht c hc)

include hblank in
/-- Under a clean order an entry is either untouched by stripping, or neither it nor its
stripped form is a configured bootname. -/
lemma isOtherBootname_chomp {e : String} (hclean : ∀ s ∈ config.slots.values, s.bootname =
    some (chomp e) → chomp e = e) :
    chomp e = e ∨ (isOtherBootname config slot (chomp e) = false ∧ isOtherBootname config slot e =
      false) := by
  by_cases he : chomp e = e
  · exact Or.inl he
  · refine Or.inr ⟨?_, ?_⟩
    · by_contra h
      obtain ⟨t, ht, -, hte⟩ := (isOtherBootname_iff config slot _).mp (Bool.not_eq_false _ ▸ h)
      exact he (hclean t ht hte)
    · by_contra h
      obtain ⟨t, ht, -, hte⟩ := (isOtherBootname_iff config slot _).mp (Bool.not_eq_false _ ▸ h)
      exact he (chomp_bootname hblank ht hte)

/-- The two lists of entries that the backend writes: without the slot, or with it in front. -/
def newEntries (slot : RaucSlot) (b : String) (front : Bool) (env : UBootEnv) : List String :=
  (if front then [b] else []) ++
    (bootOrderEntries env).filter (fun e => decide (some e ≠ slot.bootname ∧ e ≠ ""))

include hb hslot hblank in
lemma newEntries_spaceFree (front : Bool) (env : UBootEnv) :
    ∀ f ∈ newEntries slot b front env, ' ' ∉ f.toList := by
  intro f hf
  rcases List.mem_append.mp hf with hf | hf
  · cases front with
    | false => exact absurd hf List.not_mem_nil
    | true =>
      obtain rfl := List.mem_singleton.mp hf
      exact fun hspace => absurd (hblank slot hslot f hb ' ' hspace) (by decide)
  · have hmem := (List.mem_filter.mp hf).1
    unfold bootOrderEntries at hmem
    cases hv : env "BOOT_ORDER" with
    | none => simp [hv] at hmem
    | some v =>
      rw [hv] at hmem
      exact not_mem_of_mem_splitFields hmem

include hb hslot hblank in
lemma newEntries_clean (front : Bool) (env : UBootEnv) (hclean : CleanOrder config env) :
    ∀ f ∈ newEntries slot b front env, ∀ s ∈ config.slots.values, s.bootname = some (chomp f) →
      chomp f = f := by
  intro f hf s hs hsf
  rcases List.mem_append.mp hf with hf | hf
  · cases front with
    | false => exact absurd hf List.not_mem_nil
    | true =>
      obtain rfl := List.mem_singleton.mp hf
      exact chomp_bootname hblank hslot hb
  · exact hclean f (List.mem_filter.mp hf).1 s hs hsf

include hb hslot hblank in
/-- Writing the new order leaves the order of the other configured slots as it was. -/
lemma otherOrder_write (front : Bool) (env env' : UBootEnv) (hclean : CleanOrder config env)
    (hwrite : env' "BOOT_ORDER" = some (joinFields ' ' (newEntries slot b front env))) :
    otherOrder config slot env' = otherOrder config slot env := by
  have hempty : isOtherBootname config slot "" = false := by
    by_contra h
    obtain ⟨t, ht, -, hte⟩ := (isOtherBootname_iff config slot _).mp (Bool.not_eq_false _ ▸ h)
    exact config.bootname_nonempty t ht hte
  have hself : isOtherBootname config slot b = false := by
    by_contra h
    obtain ⟨t, ht, hne, hte⟩ := (isOtherBootname_iff config slot _).mp (Bool.not_eq_false _ ▸ h)
    exact hne (config.bootname_unique t ht slot hslot b hte hb)
  have hfilter := filter_splitFields_chomp_joinFields ' ' (by decide) (newEntries slot b front env)
    (newEntries_spaceFree hblank hslot hb front env) (isOtherBootname config slot) hempty
    (fun f hf => isOtherBootname_chomp hblank (newEntries_clean hblank hslot hb front env
      hclean f hf))
  have hfront : ((if front then [b] else []) : List String).filter (isOtherBootname config slot) =
      [] := by
    cases front <;> simp [hself]
  unfold otherOrder
  rw [bootOrderEntries_of_eq hwrite, hfilter, newEntries, List.filter_append, hfront,
    List.nil_append,
    List.filter_filter]
  refine List.filter_congr (fun e _ => ?_)
  cases he : isOtherBootname config slot e with
  | false => rfl
  | true =>
    have hne : e ≠ "" := by
      rintro rfl
      rw [hempty] at he
      exact absurd he Bool.false_ne_true
    have hneb : some e ≠ slot.bootname := by
      rw [hb]
      intro heb
      rw [Option.some.inj heb, hself] at he
      exact absurd he Bool.false_ne_true
    simp [hne, hneb]

include hb hslot hblank in
lemma cleanOrder_write (front : Bool) (env env' : UBootEnv) (hclean : CleanOrder config env)
    (hwrite : env' "BOOT_ORDER" = some (joinFields ' ' (newEntries slot b front env))) :
    CleanOrder config env' := by
  intro e he s hs hse
  rw [bootOrderEntries_of_eq hwrite] at he
  obtain ⟨f, hf, rfl | rfl⟩ := mem_splitFields_chomp_joinFields ' ' (by decide) _
    (newEntries_spaceFree hblank hslot hb front env) he
  · exact newEntries_clean hblank hslot hb front env hclean e hf s hs hse
  · exact chomp_chomp f

end Order

section Observers

/-- What `r_uboot_get_state` reports for a bootname, read off the environment. -/
def ubootVerdict (env : UBootEnv) (b : String) : Outcome GError Bool :=
  match env "BOOT_ORDER" with
  | none => .exit (.error (commandError ubootFwprintenvName (.exitStatus 1)))
  | some _ =>
    if b ∈ bootOrderEntries env then
      match env (leftVar b) with
      | none => .exit (.error (commandError ubootFwprintenvName (.exitStatus 1)))
      | some a => .value (decide (attemptsLeft (chomp a) > 0))
    else .value false

lemma any_bootname {t : RaucSlot} {c : String} (hc : t.bootname = some c) (l : List String) :
    l.any (fun bootname => decide (some bootname = t.bootname)) = decide (c ∈ l) := by
  rw [hc]
  induction l with
  | nil => simp
  | cons x rest ih =>
    rw [List.any_cons, ih]
    by_cases hx : x = c
    · simp [hx]
    · simp [hx, Ne.symm hx]

lemma observe_rUbootGetState (env : UBootEnv) (t : RaucSlot) (c : String)
    (hc : t.bootname = some c) :
    Prog.observe (rUbootGetState t) env = ubootVerdict env c := by
  unfold Prog.observe rUbootGetState ubootVerdict
  cases hv : env "BOOT_ORDER" with
  | none => rw [Prog.bind_of_exit (ubootEnvGet_calm_missing env _ hv)]
  | some v =>
    rw [Prog.bind_of_value (ubootEnvGet_calm env _ v hv)]
    simp only [any_bootname hc, bootOrderEntries_of_eq hv, bootnameText_eq hc, decide_eq_true_eq]
    by_cases hmem : c ∈ splitFields ' ' (chomp v)
    · rw [if_pos hmem, if_pos hmem]
      cases ha : env (leftVar c) with
      | none => rw [Prog.bind_of_exit (ubootEnvGet_calm_missing env _ ha)]
      | some a =>
        rw [Prog.bind_of_value (ubootEnvGet_calm env _ a ha)]
        rfl
    · rw [if_neg hmem, if_neg hmem]
      rfl

/-- The inner loop finds the slot that alone carries the bootname. -/
lemma ubootMatchSlot_calm (env : UBootEnv) (slot : RaucSlot) (b a : String)
    (hb : slot.bootname = some b)
    (ha : env (leftVar b) = some a) (hleft : attemptsLeft (chomp a) ≠ 0) (order : List RaucSlot)
    (honly : ∀ t ∈ order, t.bootname = some b → t = slot) (hmem : slot ∈ order) :
    ubootMatchSlot b order (Prog.calm env) = (.value (some slot), Prog.calm env) := by
  induction order with
  | nil => exact absurd hmem List.not_mem_nil
  | cons t rest ih =>
    by_cases ht : some b = t.bootname
    · obtain rfl := honly t (by simp) ht.symm
      rw [ubootMatchSlot, if_neg (by simpa using ht), bootnameText_eq hb,
        Prog.bind_of_value (ubootEnvGet_calm env _ a ha), if_neg hleft]
      rfl
    · have hrest : slot ∈ rest := by
        rcases List.mem_cons.mp hmem with rfl | hmem
        · exact absurd hb.symm ht
        · exact hmem
      rw [ubootMatchSlot, if_pos ht]
      exact ih (fun u hu => honly u (by simp [hu])) hrest

/-- A slot without attempts is never matched. -/
lemma ubootMatchSlot_skips (env : UBootEnv) (slot : RaucSlot) (b a : String)
    (hb : slot.bootname = some b)
    (ha : env (leftVar b) = some a) (hleft : attemptsLeft (chomp a) = 0) (c : String)
    (order : List RaucSlot) :
    Prog.Triple (· = env) (ubootMatchSlot c order) (fun r s => s = env ∧
      r ≠ some slot) (fun _ _ => True) := by
  induction order with
  | nil => exact Prog.triple_pure (fun _ h => ⟨h, by simp⟩)
  | cons t rest ih =>
    simp only [ubootMatchSlot]
    split_ifs with ht
    · exact ih
    · refine Prog.triple_bind (Prog.triple_consequence (ubootEnvGet_triple env _) (fun _ h => h)
        (fun _ _ h => h) (fun _ _ _ => trivial)) ?_
      intro text
      refine Prog.triple_fact ?_
      rintro ⟨v, hv, htext⟩
      by_cases hzero : attemptsLeft text = 0
      · rw [if_pos hzero]
        exact ih
      · rw [if_neg hzero]
        refine Prog.triple_pure (fun s hs => ⟨hs, ?_⟩)
        intro hts
        obtain rfl := Option.some.inj hts
        rw [bootnameText_eq hb, ha] at hv
        rw [htext, ← Option.some.inj hv] at hzero
        exact hzero hleft

lemma ubootPrimaryLoop_skips (env : UBootEnv) (slot : RaucSlot) (b a : String)
    (hb : slot.bootname = some b)
    (ha : env (leftVar b) = some a) (hleft : attemptsLeft (chomp a) = 0) (order : List RaucSlot)
    (names : List String) :
    Prog.Triple (· = env) (ubootPrimaryLoop order names) (fun r _ => r ≠ some slot)
      (fun _ _ => True) := by
  induction names with
  | nil => exact Prog.triple_pure (fun _ _ => by simp)
  | cons c rest ih =>
    refine Prog.triple_bind (ubootMatchSlot_skips env slot b a hb ha hleft c order) ?_
    intro r
    refine Prog.triple_fact (fun hr => ?_)
    cases r with
    | some primary => exact Prog.triple_pure (fun _ _ => hr)
    | none => exact ih

/-- With the counter at zero the slot is neither primary nor good, whatever fails meanwhile. -/
lemma uboot_zero_attempts (env : UBootEnv) (slot : RaucSlot) (b a : String)
    (hb : slot.bootname = some b)
    (ha : env (leftVar b) = some a) (hleft : attemptsLeft (chomp a) = 0) (fates : Nat → Fate) :
    (rUbootGetState slot ⟨env, fates⟩).1 ≠ .value true ∧
      ∀ order : List RaucSlot, (rUbootGetPrimary order ⟨env, fates⟩).1 ≠ .value slot := by
  constructor
  · intro hvalue
    have hstate : Prog.Triple (· = env) (rUbootGetState slot) (fun r _ => r = false)
        (fun _ _ => True) := by
      refine Prog.triple_bind (Prog.triple_consequence (ubootEnvGet_triple env _) (fun _ h => h)
        (fun _ _ h => h.1) (fun _ _ _ => trivial)) ?_
      intro text
      simp only
      split_ifs with hany
      · refine Prog.triple_bind (Prog.triple_consequence (ubootEnvGet_triple env _) (fun _ h => h)
          (fun _ _ h => h.2) (fun _ _ _ => trivial)) ?_
        intro attempts
        refine Prog.triple_pure ?_
        rintro s ⟨v, hv, rfl⟩
        rw [bootnameText_eq hb, ha] at hv
        rw [← Option.some.inj hv, hleft]
        rfl
      · exact Prog.triple_pure (fun _ _ => rfl)
    exact absurd (hstate.value rfl hvalue) (by decide)
  · intro order hvalue
    have hprimary : Prog.Triple (· = env) (rUbootGetPrimary order) (fun r _ => r ≠ slot)
        (fun _ _ => True) := by
      refine Prog.triple_bind (Prog.triple_consequence (ubootEnvGet_triple env _) (fun _ h => h)
        (fun _ _ h => h.1) (fun _ _ _ => trivial)) ?_
      intro text
      refine Prog.triple_bind (ubootPrimaryLoop_skips env slot b a hb ha hleft order _) ?_
      intro r
      cases r with
      | none => exact Prog.triple_exit (fun _ _ => trivial)
      | some primary => exact Prog.triple_pure (fun _ hne hps => hne (by rw [hps]))
    exact hprimary.value rfl hvalue rfl

lemma attemptsLeft_formatNat {n : Nat} (h : n < 2 ^ 64) :
    attemptsLeft (chomp (formatNat 16 n)) = n := by
  unfold attemptsLeft
  rw [chomp_of_not_blank _ (not_blank_of_mem_formatNat 16 (by decide) (by decide) n),
    strtoull_formatNat 16 (by decide) (by decide) n h]

end Observers

section Contract

variable (config : RaucConfig)

/-- The other slots keep their state and their relative order. -/
structure UBootFrame (slot : RaucSlot) (env env' : UBootEnv) : Prop where
  state : ∀ t ∈ config.slots.values, t.bootname ≠ none → t ≠ slot →
    Prog.observe (rUbootGetState t) env' = Prog.observe (rUbootGetState t) env
  order : otherOrder config slot env' = otherOrder config slot env

/-- What the backend promises about the slot itself right after a successful call. -/
def UBootPromise (env' : UBootEnv) : UBootCall → Prop
  | .setPrimary slot =>
    (∀ order : List RaucSlot, order.Perm config.slots.values →
      Prog.observe (rUbootGetPrimary order) env' = .value slot) ∧
    Prog.observe (rUbootGetState slot) env' = .value true
  | .setState slot good =>
    good = false → ∀ fates : Nat → Fate,
      (rUbootGetState slot ⟨env', fates⟩).1 ≠ .value true ∧
      ∀ order : List RaucSlot, (rUbootGetPrimary order ⟨env', fates⟩).1 ≠ .value slot

/-- The change of the environment stays within the order and the counter of one slot. -/
structure UBootTouched (slot : RaucSlot) (b : String) (env env' : UBootEnv) : Prop where
  other : ∀ k, k ≠ "BOOT_ORDER" → k ≠ leftVar b → env' k = env k
  order : env' "BOOT_ORDER" = env "BOOT_ORDER" ∨
    ∃ front, env' "BOOT_ORDER" = some (joinFields ' ' (newEntries slot b front env))

lemma ubootTouched_refl (slot : RaucSlot) (b : String) (env : UBootEnv) :
    UBootTouched slot b env env :=
  ⟨fun _ _ _ => rfl, Or.inl rfl⟩

lemma ubootTouched_left (slot : RaucSlot) (b : String) (env env' : UBootEnv) (value : String)
    (h : UBootTouched slot b env env') :
      UBootTouched slot b env (envSet env' (leftVar b) value) := by
  refine ⟨fun k hk hk' => ?_, ?_⟩
  · rw [envSet_other env' value hk', h.other k hk hk']
  · rw [envSet_other env' value (leftVar_ne_order b).symm]
    exact h.order

lemma ubootTouched_order (slot : RaucSlot) (b : String) (env env' : UBootEnv) (front : Bool)
    (h : UBootTouched slot b env env') :
    UBootTouched slot b env (envSet env' "BOOT_ORDER"
      (joinFields ' ' (newEntries slot b front env))) := by
  refine ⟨fun k hk hk' => ?_, Or.inr ⟨front, envSet_self _ _ _⟩⟩
  rw [envSet_other env' _ hk, h.other k hk hk']

variable {config} (hblank : BlankFree config) {slot : RaucSlot} {b : String}
  (hslot : slot ∈ config.slots.values) (hb : slot.bootname = some b)
  {env env' : UBootEnv} (hclean : CleanOrder config env) {v : String}
  (hv : env "BOOT_ORDER" = some v)

include hblank hslot hb hclean hv

lemma ubootTouched_clean (h : UBootTouched slot b env env') :
    otherOrder config slot env' = otherOrder config slot env ∧ CleanOrder config env' ∧
      env' "BOOT_ORDER" ≠ none := by
  rcases h.order with hsame | ⟨front, hwrite⟩
  · have hentries : bootOrderEntries env' = bootOrderEntries env := by
      unfold bootOrderEntries
      rw [hsame]
    refine ⟨by unfold otherOrder; rw [hentries], ?_, by rw [hsame, hv]; simp⟩
    intro e he
    rw [hentries] at he
    exact hclean e he
  · exact ⟨otherOrder_write hblank hslot hb front env env' hclean hwrite,
      cleanOrder_write hblank hslot hb front env env' hclean hwrite, by rw [hwrite]; simp⟩

lemma ubootTouched_frame (h : UBootTouched slot b env env') : UBootFrame config slot env env' := by
  obtain ⟨horder, -, hsome⟩ := ubootTouched_clean hblank hslot hb hclean hv h
  refine ⟨?_, horder⟩
  intro t ht htb hne
  obtain ⟨c, hc⟩ := Option.ne_none_iff_exists'.mp htb
  have hcb : c ≠ b := by
    rintro rfl
    exact hne (config.bootname_unique t ht slot hslot c hc hb)
  have hother : isOtherBootname config slot c = true :=
    (isOtherBootname_iff config slot c).mpr ⟨t, ht, hne, hc⟩
  have hmem : c ∈ bootOrderEntries env' ↔ c ∈ bootOrderEntries env := by
    have hin : c ∈ otherOrder config slot env' ↔ c ∈ otherOrder config slot env := by rw [horder]
    simpa only [otherOrder, List.mem_filter, hother, and_true] using hin
  have hleft : env' (leftVar c) = env (leftVar c) :=
    h.other _ (leftVar_ne_order c) (fun heq => hcb (leftVar_inj heq))
  obtain ⟨v', hv'⟩ := Option.ne_none_iff_exists'.mp hsome
  rw [observe_rUbootGetState env' t c hc, observe_rUbootGetState env t c hc]
  simp only [ubootVerdict, hv, hv', hmem, hleft]

omit hblank hslot hb hclean hv in
lemma keptBootnames_eq (slot : RaucSlot) (b : String) (hv : env "BOOT_ORDER" = some v) :
    joinFields ' ' (keptBootnames slot (chomp v)) = joinFields ' ' (newEntries slot b false env) ∧
      appendNames b (keptBootnames slot (chomp v)) =
        joinFields ' ' (newEntries slot b true env) := by
  have hkept : keptBootnames slot (chomp v) =
      (bootOrderEntries env).filter (fun e => decide (some e ≠ slot.bootname ∧ e ≠ "")) := by
    rw [bootOrderEntries_of_eq hv, keptBootnames]
  rw [appendNames_eq_joinFields, hkept]
  exact ⟨rfl, rfl⟩

omit hblank hslot hb hclean hv in
/-- Reading the order in a world where it is readable. -/
lemma orderReadable_run {fates : Nat → Fate} (h : OrderReadable ⟨env, fates⟩) :
    ∃ v, env "BOOT_ORDER" = some v ∧
      Prog.attempt (ubootEnvGet "BOOT_ORDER") ⟨env, fates⟩ =
        (.value (.ok (chomp v)), ⟨env, fun n => fates (n + 1)⟩) := by
  obtain ⟨text, htext⟩ := h
  cases hf : fates 0 with
  | succeeds =>
    cases hv : env "BOOT_ORDER" with
    | none =>
      simp [ubootEnvGet, Bind.bind, Prog.bind, Prog.ask, Prog.read, Prog.fail, Prog.exit, hf, hv]
        at htext
    | some v =>
      refine ⟨v, rfl, ?_⟩
      rw [← chomp_printed "BOOT_ORDER" v]
      simp only [Prog.attempt, ubootEnvGet, Bind.bind, Prog.bind, Prog.ask, Prog.read, hf, hv]
      rfl
  | fails failure =>
    simp [ubootEnvGet, Bind.bind, Prog.bind, Prog.ask, Prog.fail, Prog.exit, hf] at htext
  | stops => simp [ubootEnvGet, Bind.bind, Prog.bind, Prog.ask, hf] at htext

omit hclean hv in
/-- The new primary slot is the first entry that is read back. -/
lemma bootOrderEntries_primary
    (hwrite : env' "BOOT_ORDER" = some (joinFields ' ' (newEntries slot b true env))) :
    ∃ rest, bootOrderEntries env' = b :: rest := by
  have hbne : b ≠ "" := by
    rintro rfl
    exact config.bootname_nonempty slot hslot hb
  have hchomp : chomp b = b := chomp_bootname hblank hslot hb
  obtain ⟨front, back, hfs, h⟩ := splitFields_chomp_joinFields ' ' (by decide) _
    (newEntries_spaceFree hblank hslot hb true env)
  rw [bootOrderEntries_of_eq hwrite]
  cases front with
  | cons f rest =>
    obtain rfl : b = f := by simpa [newEntries] using congrArg List.head? hfs
    rcases h with ⟨hsplit, -⟩ | ⟨t, rest', -, -, hsplit⟩
    · exact ⟨_, hsplit⟩
    · exact ⟨_, hsplit⟩
  | nil =>
    rcases h with ⟨-, hblanks⟩ | ⟨t, rest, rfl, -, hsplit⟩
    · have hb' := hblanks b (by rw [← List.nil_append back, ← hfs]; simp [newEntries])
      rw [hchomp] at hb'
      exact absurd hb' hbne
    · obtain rfl : b = t := by simpa [newEntries] using congrArg List.head? hfs
      rw [hchomp] at hsplit
      exact ⟨_, hsplit⟩

omit hclean hv in
lemma ubootPromise_primary {n : Nat} (hn : n ≠ 0) (hlt : n < 2 ^ 64)
    (hleft : env' (leftVar b) = some (formatNat 16 n))
    (hwrite : env' "BOOT_ORDER" = some (joinFields ' ' (newEntries slot b true env))) :
    UBootPromise config env' (.setPrimary slot) := by
  obtain ⟨rest, hentries⟩ := bootOrderEntries_primary hblank hslot hb hwrite
  have hattempts := attemptsLeft_formatNat hlt
  refine ⟨?_, ?_⟩
  · intro order horder
    have honly : ∀ t ∈ order, t.bootname = some b → t = slot :=
      fun t ht htb => config.bootname_unique t (horder.mem_iff.mp ht) slot hslot b htb hb
    have hmatch :=
      ubootMatchSlot_calm env' slot b _ hb hleft (by rw [hattempts]; exact hn) order honly
      (horder.mem_iff.mpr hslot)
    have hloop : ubootPrimaryLoop order (b :: rest) (Prog.calm env') =
        (.value (some slot), Prog.calm env') := by
      rw [ubootPrimaryLoop, Prog.bind_of_value hmatch]
      rfl
    rw [bootOrderEntries_of_eq hwrite] at hentries
    unfold Prog.observe rUbootGetPrimary
    rw [Prog.bind_of_value (ubootEnvGet_calm env' _ _ hwrite), hentries, Prog.bind_of_value hloop]
    rfl
  · rw [observe_rUbootGetState env' slot b hb]
    simp only [ubootVerdict, hwrite, hentries, List.mem_cons_self, if_true, hleft, hattempts]
    simp [Nat.pos_of_ne_zero hn]

omit hclean in
/-- One call, from an environment in which the order is readable: whatever fails, only the order
and the counter of the slot are touched, and a successful call keeps its promise. -/
lemma ubootCall_run (call : UBootCall) (hcall : call.slot = slot) (order : List RaucSlot)
    (fates : Nat → Fate) (hreadable : OrderReadable ⟨env, fates⟩) :
    UBootTouched slot b env (call.run config order ⟨env, fates⟩).2.state ∧
      ((call.run config order ⟨env, fates⟩).1 = .value () →
        UBootPromise config (call.run config order ⟨env, fates⟩).2.state call) := by
  -- each call is one or two writes after the order has been read
  have hsplit : ∀ (p : UBootProg Unit) (w : World UBootEnv), w.state = env →
      Prog.Triple (· = env) p (fun _ s => UBootTouched slot b env s ∧ UBootPromise config s call)
        (fun _ s => UBootTouched slot b env s) →
      UBootTouched slot b env (p w).2.state ∧ ((p w).1 = .value () →
        UBootPromise config (p w).2.state call) := by
    intro p w hw hp
    refine ⟨?_, fun hvalue => (hp.value hw hvalue).2⟩
    cases hr : (p w).1 with
    | value u => exact (hp.value hw hr).1
    | exit x => exact hp.exit hw hr
  obtain ⟨v', hv', hread⟩ := orderReadable_run hreadable
  obtain rfl := Option.some.inj (hv'.symm.trans hv)
  obtain ⟨hkept, happend⟩ := keptBootnames_eq slot b hv
  have hrefl := ubootTouched_refl slot b env
  cases call with
  | setState slot' good =>
    obtain rfl : slot' = slot := hcall
    cases good with
    | true =>
      refine hsplit _ ⟨env, fates⟩ rfl (Prog.triple_consequence (ubootEnvSet_triple env _ _)
        (fun _ h => h) ?_ ?_)
      · rintro _ s rfl
        rw [bootnameText_eq hb]
        exact ⟨ubootTouched_left slot' b env env _ hrefl, fun hgood => absurd hgood (by decide)⟩
      · rintro _ s rfl
        exact hrefl
    | false =>
      have hrun : (UBootCall.setState slot' false).run config order ⟨env, fates⟩ =
          Prog.bind (ubootEnvSet "BOOT_ORDER" (joinFields ' ' (newEntries slot' b false env)))
            (fun _ => ubootEnvSet (leftVar b) (formatNat 16 0)) ⟨env, fun n => fates (n + 1)⟩ := by
        simp only [UBootCall.run, rUbootSetState, Bool.not_false, if_true]
        rw [Prog.bind_of_value hread, ← hkept, bootnameText_eq hb]
        rfl
      rw [hrun]
      refine hsplit _ _ rfl (Prog.triple_consequence (twoWrites_triple env _ _ _ _)
        (fun _ h => h) ?_ ?_)
      · rintro _ s rfl
        refine ⟨ubootTouched_left slot' b env _ _ (ubootTouched_order slot' b env env false hrefl),
          ?_⟩
        intro _ fates'
        exact uboot_zero_attempts _ slot' b _ hb (envSet_self _ _ _)
          (attemptsLeft_formatNat (by decide)) fates'
      · rintro _ s (rfl | rfl)
        · exact hrefl
        · exact ubootTouched_order slot' b env env false hrefl
  | setPrimary slot' =>
    obtain rfl : slot' = slot := hcall
    have hrun : (UBootCall.setPrimary slot').run config order ⟨env, fates⟩ =
        Prog.bind (ubootEnvSet (leftVar b) (formatNat 16
          (attemptsOr config.bootAttemptsPrimary 3).toNat))
          (fun _ => ubootEnvSet "BOOT_ORDER" (joinFields ' ' (newEntries slot' b true env)))
          ⟨env, fun n => fates (n + 1)⟩ := by
      simp only [UBootCall.run, rUbootSetPrimary]
      rw [Prog.bind_of_value hread, ← happend, bootnameText_eq hb, hb]
      rfl
    rw [hrun]
    have hleft :=
      ubootTouched_left slot' b env env (formatNat 16
      (attemptsOr config.bootAttemptsPrimary 3).toNat) hrefl
    refine hsplit _ _ rfl (Prog.triple_consequence (twoWrites_triple env _ _ _ _)
      (fun _ h => h) ?_ ?_)
    · rintro _ s rfl
      refine ⟨ubootTouched_order slot' b env _ true hleft, ?_⟩
      have hpos := attemptsOr_pos config.bootAttemptsPrimary
      have hwrite := envSet_self (envSet env (leftVar b)
        (formatNat 16 (attemptsOr config.bootAttemptsPrimary 3).toNat)) "BOOT_ORDER"
        (joinFields ' ' (newEntries slot' b true env))
      refine ubootPromise_primary hblank hslot hb (by omega)
        (attemptsOr_lt config.bootAttemptsPrimary) ?_ hwrite
      rw [envSet_other _ _ (leftVar_ne_order b), envSet_self]
    · rintro _ s (rfl | rfl)
      · exact hrefl
      · exact hleft

omit hslot hb hclean hv in
/-- Every run of successful calls keeps the order clean. -/
lemma ubootRun_clean {env₀ : UBootEnv} {calls : List UBootCall}
    (hrun : UBootRun config env₀ calls env)
    (hclean₀ : CleanOrder config env₀) : CleanOrder config env := by
  induction hrun with
  | nil => exact hclean₀
  | snoc hrun call order fates hslot hbootname horder hreadable hsuccess ih =>
    obtain ⟨b, hb⟩ := Option.ne_none_iff_exists'.mp hbootname
    obtain ⟨v, hv, -⟩ := orderReadable_run hreadable
    have htouched := (ubootCall_run hblank hslot hb hv call rfl order fates hreadable).1
    exact (ubootTouched_clean hblank hslot hb ih hv htouched).2.1

omit hslot hb hclean hv in
lemma ubootCall_contract (hclean : CleanOrder config env) (call : UBootCall) (order : List RaucSlot)
    (fates : Nat → Fate) (hslot : call.slot ∈ config.slots.values)
    (hbootname : call.slot.bootname ≠ none)
    (hreadable : OrderReadable ⟨env, fates⟩) :
    UBootFrame config call.slot env (call.run config order ⟨env, fates⟩).2.state ∧
      ((call.run config order ⟨env, fates⟩).1 = .value () →
        UBootPromise config (call.run config order ⟨env, fates⟩).2.state call) := by
  obtain ⟨b, hb⟩ := Option.ne_none_iff_exists'.mp hbootname
  obtain ⟨v, hv, -⟩ := orderReadable_run hreadable
  obtain ⟨htouched, hpromise⟩ := ubootCall_run hblank hslot hb hv call rfl order fates hreadable
  exact ⟨ubootTouched_frame hblank hslot hb hclean hv htouched, hpromise⟩

omit hblank hslot hb hclean hv in
/-- From an environment whose order is clean, after any sequence of successful calls, the next
call leaves the other slots as they are whatever step of it fails, and keeps its promise when it
succeeds; and a slot that no call of the sequence named has the state it had at the beginning. -/
theorem ubootRun_contract (hblank : BlankFree config) (env₀ env : UBootEnv) (calls : List UBootCall)
    (hclean₀ : CleanOrder config env₀) (hrun : UBootRun config env₀ calls env) :
    (∀ (call : UBootCall) (order : List RaucSlot) (fates : Nat → Fate),
      call.slot ∈ config.slots.values → call.slot.bootname ≠ none → OrderReadable ⟨env, fates⟩ →
      UBootFrame config call.slot env (call.run config order ⟨env, fates⟩).2.state ∧
        ((call.run config order ⟨env, fates⟩).1 = .value () →
          UBootPromise config (call.run config order ⟨env, fates⟩).2.state call)) ∧
    (∀ t ∈ config.slots.values, t.bootname ≠ none → (∀ call ∈ calls, t ≠ call.slot) →
      Prog.observe (rUbootGetState t) env = Prog.observe (rUbootGetState t) env₀) := by
  refine ⟨fun call order fates hslot hbootname hreadable =>
    ubootCall_contract hblank (ubootRun_clean hblank hrun hclean₀) call order fates hslot hbootname
      hreadable, ?_⟩
  intro t ht htb hcalls
  induction hrun with
  | nil => rfl
  | snoc hrun call order fates hslot hbootname horder hreadable hsuccess ih =>
    have hbefore := ih (fun c hc => hcalls c (by simp [hc]))
    have hframe :=
      (ubootCall_contract hblank (ubootRun_clean hblank hrun hclean₀) call order fates
      hslot hbootname
      hreadable).1
    rw [hframe.state t ht htb (hcalls call (by simp)), hbefore]

end Contract

section Pair

def pairUBootEnv (order : String) : UBootEnv := fun v =>
  if v = "BOOT_ORDER" then some order
  else if v = leftVar "A" ∨ v = leftVar "B" then some "3"
  else none

lemma blankFree_pair : BlankFree pairConfig := by
  simp [BlankFree, pairConfig, Table.values, bootableSlot, isBlank]

/-- Marking `A` bad and then making `B` primary on the two-slot system. -/
theorem ubootRun_contract_pair :
    ∃ env, UBootRun pairConfig (pairUBootEnv "A B") [.setState (bootableSlot "rootfs.0" "A") false]
      env ∧
      UBootPromise pairConfig
        ((UBootCall.setPrimary (bootableSlot "rootfs.1" "B")).run pairConfig pairConfig.slots.values
          ⟨env, fun _ => .succeeds⟩).2.state (.setPrimary (bootableSlot "rootfs.1" "B")) := by
  have hnil : UBootRun pairConfig (pairUBootEnv "A B") [] (pairUBootEnv "A B") := .nil
  have hrun := hnil.snoc (.setState (bootableSlot "rootfs.0" "A") false) pairConfig.slots.values
    (fun _ => .succeeds) (by decide) (by decide) (List.Perm.refl _) ⟨"A B", by decide⟩ (by decide)
  have hclean : CleanOrder pairConfig (pairUBootEnv "A B") := by
    unfold CleanOrder
    decide
  refine ⟨_, hrun, ?_⟩
  exact ((ubootRun_contract blankFree_pair _ _ _ hclean hrun).1 _ pairConfig.slots.values _
    (by decide) (by decide)
    ⟨"B", by decide⟩).2 (by decide)

/-- An entry `B` with a tab behind it: it is not the slot `B` before `A` is marked bad, and it is
afterwards, since the tab then ends the stored text and is stripped. -/
theorem uboot_trailing_tab :
    BlankFree pairConfig ∧ ∃ env', UBootRun pairConfig (pairUBootEnv "B\t A")
      [.setState (bootableSlot "rootfs.0" "A") false] env' ∧
      Prog.observe (rUbootGetState (bootableSlot "rootfs.1" "B")) (pairUBootEnv "B\t A") =
        .value false ∧
      Prog.observe (rUbootGetState (bootableSlot "rootfs.1" "B")) env' = .value true := by
  have hnil : UBootRun pairConfig (pairUBootEnv "B\t A") [] (pairUBootEnv "B\t A") := .nil
  have hrun := hnil.snoc (.setState (bootableSlot "rootfs.0" "A") false) pairConfig.slots.values
    (fun _ => .succeeds) (by decide) (by decide) (List.Perm.refl _) ⟨"B\t A", by decide⟩ (by decide)
  exact ⟨blankFree_pair, _, hrun, by decide, by decide⟩

end Pair

end RaucUpdate
