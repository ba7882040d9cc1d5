import RaucUpdate.Model.Grub

/-!
# The GRUB backend

What `grub-editenv list` prints is read back variable by variable. The boot order is written anew by
each activation, so it always lists every bootname.
-/

namespace RaucUpdate

open Library

section Environment

/-- The listing has one line for each variable, and a name ends at the equal sign. -/
def PlainEnv (env : GrubEnv) : Prop :=
  ∀ e ∈ env.entries, '=' ∉ e.1.toList ∧ '\n' ∉ e.1.toList ∧ '\n' ∉ e.2.toList

/-- Each line of the listing starts with the name of its variable. -/
lemma hasPrefix_line {key name : String} (value : String) (hkey : '=' ∉ key.toList)
    (hname : '=' ∉ name.toList) :
    hasPrefix (key ++ "=") (name ++ "=" ++ value) = true ↔ name = key := by
  unfold hasPrefix
  rw [List.isPrefixOf_iff_prefix]
  simp only [String.toList_append]
  constructor
  · rintro ⟨rest, hrest⟩
    have htake := congrArg (List.takeWhile (fun c => decide (c ≠ '='))) hrest
    have hplain : ∀ (s : String) (t : List Char), '=' ∉ s.toList →
        (s.toList ++ "=".toList ++ t).takeWhile (fun c => decide (c ≠ '=')) = s.toList := by
      intro s t hs
      rw [List.append_assoc, List.takeWhile_append_of_pos]
      · simp
      · intro c hc
        simp only [decide_eq_true_eq]
        rintro rfl
        exact hs hc
    rw [hplain key rest hkey, hplain name value.toList hname] at htake
    exact (String.toList_inj.mp htake).symm
  · rintro rfl
    exact List.prefix_append _ _

lemma grubListing_eq (env : GrubEnv) :
    grubListing env = joinFields '\n' (env.entries.map (fun e => e.1 ++ "=" ++ e.2) ++ [""]) := by
  have hlines := foldl_lines (env.entries.map (fun e => e.1 ++ "=" ++ e.2)) ""
  rw [List.foldl_map] at hlines
  simpa [grubListing] using hlines

/-- The lines of the listing, up to an empty one at the end. -/
lemma splitFields_grubListing {env : GrubEnv} (h : PlainEnv env) :
    ∃ last : List String, (∀ l ∈ last, l = "") ∧
      splitFields '\n' (grubListing env) = env.entries.map (fun e => e.1 ++ "=" ++ e.2) ++
        last := by
  rw [grubListing_eq]
  cases hentries : env.entries with
  | nil => exact ⟨[], by simp, by simp [joinFields, joinChars, splitFields, splitChars]⟩
  | cons e rest =>
    refine ⟨[""], by simp, ?_⟩
    rw [← hentries]
    apply splitFields_joinFields
    · intro line hline
      rcases List.mem_append.mp hline with hline | hline
      · obtain ⟨e, he, rfl⟩ := List.mem_map.mp hline
        obtain ⟨-, hname, hvalue⟩ := h e he
        simp [String.toList_append, hname, hvalue]
      · simp [List.mem_singleton.mp hline]
    · intro hnil
      have hchars := congrArg String.toList hnil
      simp [hentries, joinFields, joinChars_cons] at hchars

lemma find_entries {key : String} (hkey : '=' ∉ key.toList) (entries : List (String × String))
    (h : ∀ e ∈ entries, '=' ∉ e.1.toList) :
    (entries.map (fun e => e.1 ++ "=" ++ e.2)).find? (hasPrefix (key ++ "=")) =
      (Table.find key entries).map (fun value => key ++ "=" ++ value) := by
  induction entries with
  | nil => rfl
  | cons e rest ih =>
    obtain ⟨name, value⟩ := e
    have hline := hasPrefix_line value hkey (h (name, value) (by simp))
    rw [List.map_cons, List.find?_cons, Table.find]
    by_cases hname : name = key
    · rw [if_pos hname, hline.mpr hname, hname]
      rfl
    · have hno : hasPrefix (key ++ "=") (name ++ "=" ++ value) = false := by
        simpa [hname] using hline
      rw [if_neg hname, hno]
      exact ih (fun e he => h e (by simp [he]))

lemma find_listing {env : GrubEnv} (h : PlainEnv env) {key : String} (hkey : '=' ∉ key.toList) :
    (splitFields '\n' (grubListing env)).find? (hasPrefix (key ++ "=")) =
      (env.lookup key).map (fun value => key ++ "=" ++ value) := by
  obtain ⟨last, hlast, hlines⟩ := splitFields_grubListing h
  have hrest : last.find? (hasPrefix (key ++ "=")) = none := by
    apply List.find?_eq_none.mpr
    intro line hline
    rw [hlast line hline]
    simp [hasPrefix, String.toList_append]
  rw [hlines, List.find?_append, find_entries hkey env.entries (fun e he => (h e he).1), hrest,
    Option.or_none]
  rfl

/-- What is left of a line behind the name and the equal sign. -/
lemma drop_line (key value : String) :
    String.ofList ((key ++ "=" ++ value).toList.drop (key ++ "=").toList.length) = value := by
  have hline : (key ++ "=" ++ value).toList = (key ++ "=").toList ++ value.toList :=
    String.toList_append
  rw [hline, List.drop_left]
  exact String.ofList_toList

/-- Reading a variable gives its stripped value. -/
lemma grubEnvGet_triple {env : GrubEnv} (h : PlainEnv env) {key : String}
    (hkey : '=' ∉ key.toList) :
    Prog.Triple (· = env) (grubEnvGet key)
      (fun r s => s = env ∧ ∃ v, env.lookup key = some v ∧ r = ⟨chomp v, v.utf8ByteSize⟩)
        (fun _ s => s = env) := by
  apply Prog.triple_bind (Prog.triple_ask (Q := fun _ s => s = env) (fun _ _ h => h) (fun _ h => h))
  intro result
  cases result with
  | some failure => exact Prog.triple_exit (fun _ h => h)
  | none =>
    apply Prog.triple_read_bind
    rintro s rfl
    simp only [find_listing h hkey]
    cases hv : s.lookup key with
    | none => exact Prog.triple_exit (fun _ h => h)
    | some v =>
      apply Prog.triple_pure
      rintro _ rfl
      exact ⟨rfl, v, rfl, by rw [drop_line]⟩

lemma grubEnvGet_keeps (env : GrubEnv) (key : String) :
    Prog.Triple (· = env) (grubEnvGet key) (fun _ s => s = env) (fun _ _ => True) := by
  apply Prog.triple_bind (Prog.triple_ask (Q := fun _ s => s = env) (fun _ _ h => h)
    (fun _ _ => trivial))
  intro result
  cases result with
  | some failure => exact Prog.triple_exit (fun _ _ => trivial)
  | none =>
    apply Prog.triple_read_bind
    rintro s rfl
    split
    · exact Prog.triple_pure (fun _ h => h)
    · exact Prog.triple_exit (fun _ _ => trivial)

lemma grubEnvGet_calm {env : GrubEnv} (h : PlainEnv env) {key v : String} (hkey : '=' ∉ key.toList)
    (hv : env.lookup key = some v) :
      Prog.Calmly env (grubEnvGet key) ⟨chomp v, v.utf8ByteSize⟩ env := by
  apply Prog.calmly_bind (Prog.calmly_ask env)
  apply Prog.calmly_read_bind
  simp only [find_listing h hkey, hv, Option.map_some, drop_line]
  exact Prog.calmly_pure env _

lemma PlainEnv.set {env : GrubEnv} (h : PlainEnv env) {name value : String}
    (hname : '=' ∉ name.toList)
    (hline : '\n' ∉ name.toList) (hvalue : '\n' ∉ value.toList) :
      PlainEnv (env.set name value) := by
  rintro ⟨k, v⟩ he
  have hlookup := (Table.lookup_eq_some_iff _ _ _).mpr he
  rw [Table.lookup_set] at hlookup
  split_ifs at hlookup with hk
  · obtain rfl := Option.some.inj hlookup
    rw [← hk]
    exact ⟨hname, hline, hvalue⟩
  · exact h (k, v) ((Table.lookup_eq_some_iff _ _ _).mp hlookup)

lemma grubAssign_eq (env : GrubEnv) {name : String} (value : String) (hname : '=' ∉ name.toList) :
    grubAssign env (name ++ "=" ++ value) = env.set name value := by
  have hall : ∀ c ∈ name.toList, (c != '=') = true := by
    intro c hc
    simp only [bne_iff_ne]
    rintro rfl
    exact hname hc
  unfold grubAssign
  simp only [String.toList_append, List.append_assoc]
  rw [List.takeWhile_append_of_pos hall, List.dropWhile_append_of_pos hall]
  simp [String.ofList_toList]

end Environment

section Variables

lemma okVar_inj {b c : String} (h : okVar b = okVar c) : b = c := by
  have hlist := congrArg String.toList h
  simp only [okVar, String.toList_append] at hlist
  exact String.toList_inj.mp (List.append_cancel_right hlist)

lemma tryVar_inj {b c : String} (h : tryVar b = tryVar c) : b = c := by
  have hlist := congrArg String.toList h
  simp only [tryVar, String.toList_append] at hlist
  exact String.toList_inj.mp (List.append_cancel_right hlist)

/-- The variables are told apart by their last letter. -/
lemma getLast_okVar (b : String) : (okVar b).toList.getLast? = some 'K' := by
  simp [okVar, String.toList_append]

lemma getLast_tryVar (b : String) : (tryVar b).toList.getLast? = some 'Y' := by
  simp [tryVar, String.toList_append]

lemma okVar_ne_tryVar (b c : String) : okVar b ≠ tryVar c := by
  intro h
  have hlast := getLast_okVar b
  rw [h, getLast_tryVar] at hlast
  exact absurd hlast (by decide)

lemma okVar_ne_order (b : String) : okVar b ≠ "ORDER" := by
  intro h
  have hlast := getLast_okVar b
  rw [h] at hlast
  exact absurd hlast (by decide)

lemma tryVar_ne_order (b : String) : tryVar b ≠ "ORDER" := by
  intro h
  have hlast := getLast_tryVar b
  rw [h] at hlast
  exact absurd hlast (by decide)

lemma not_mem_okVar {b : String} (h : '=' ∉ b.toList) : '=' ∉ (okVar b).toList := by
  simpa [okVar, String.toList_append] using h

lemma not_mem_tryVar {b : String} (h : '=' ∉ b.toList) : '=' ∉ (tryVar b).toList := by
  simpa [tryVar, String.toList_append] using h

end Variables

section State

/-- Whether the variables of a bootname make a slot good. -/
def grubGood (env : GrubEnv) (b : String) : Bool :=
  ((env.lookup (okVar b)).map (fun v => (strtoullAuto (chomp v)).value == 1)).getD false &&
    ((env.lookup (tryVar b)).map (fun v => (strtoullAuto (chomp v)).value == 0)).getD false

/-- The order lists every bootname, and each one has its two variables. -/
structure GrubReady (config : RaucConfig) (env : GrubEnv) : Prop where
  plain : PlainEnv env
  listed : ∃ v, env.lookup "ORDER" = some v ∧
    ∀ s ∈ config.slots.values, ∀ b, s.bootname = some b → b ∈ splitFields ' ' (chomp v)
  okSet : ∀ s ∈ config.slots.values, ∀ b, s.bootname = some b → env.lookup (okVar b) ≠ none
  trySet : ∀ s ∈ config.slots.values, ∀ b, s.bootname = some b → env.lookup (tryVar b) ≠ none

variable {config : RaucConfig} {env : GrubEnv} {slot : RaucSlot} {b : String}

/-- A bootname that is part of the name of a variable. -/
lemma GrubReady.bootname (h : GrubReady config env) (hslot : slot ∈ config.slots.values)
    (hb : slot.bootname = some b) :
    '=' ∉ b.toList ∧ '\n' ∉ b.toList := by
  obtain ⟨v, hv⟩ := Option.ne_none_iff_exists'.mp (h.okSet slot hslot b hb)
  obtain ⟨heq, hline, -⟩ := h.plain _ ((Table.lookup_eq_some_iff _ _ _).mp hv)
  simp only [okVar, String.toList_append, List.mem_append, not_or] at heq hline
  exact ⟨heq.1, hline.1⟩

/-- Reading the two variables of a slot. -/
lemma observe_rGrubGetState (h : GrubReady config env) (hslot : slot ∈ config.slots.values)
    (hb : slot.bootname = some b) : Prog.observe (rGrubGetState slot) env =
      .value (grubGood env b) := by
  obtain ⟨order, horder, hlisted⟩ := h.listed
  obtain ⟨ok, hok⟩ := Option.ne_none_iff_exists'.mp (h.okSet slot hslot b hb)
  obtain ⟨try_, htry⟩ := Option.ne_none_iff_exists'.mp (h.trySet slot hslot b hb)
  have heq := (h.bootname hslot hb).1
  have hrun : Prog.Calmly env (rGrubGetState slot) (grubGood env b) env := by
    unfold rGrubGetState
    rw [if_neg (by simp [hb])]
    apply Prog.calmly_bind (grubEnvGet_calm h.plain (by decide) horder)
    have hfound :
        (splitFields ' ' (chomp order)).any (fun bootname => decide (some bootname =
        slot.bootname)) = true := by
      simp only [List.any_eq_true, decide_eq_true_eq]
      exact ⟨b, hlisted slot hslot b hb, hb.symm⟩
    rw [if_pos hfound, bootnameText_eq hb]
    apply Prog.calmly_bind (grubEnvGet_calm h.plain (not_mem_okVar heq) hok)
    apply Prog.calmly_bind (grubEnvGet_calm h.plain (not_mem_tryVar heq) htry)
    simp only [grubGood, hok, htry, Option.map_some, Option.getD_some]
    exact Prog.calmly_pure env _
  unfold Prog.observe
  rw [hrun]

end State

section Calls

/-- No bootname ends in white space. -/
def StrippedBootnames (config : RaucConfig) : Prop :=
  ∀ s ∈ config.slots.values, ∀ b, s.bootname = some b → chomp b = b

/-- Whether the slot of the call is meant to be good afterwards. -/
def GrubCall.good : GrubCall → Bool
  | .setState _ good => good
  | .setPrimary _ => true

/-- The environment after a successful call. -/
def grubAfter (order : List RaucSlot) (env : GrubEnv) : GrubCall → GrubEnv
  | .setState slot good =>
    (env.set (okVar (bootnameText slot)) (if good then "1" else "0")).set
      (tryVar (bootnameText slot)) "0"
  | .setPrimary slot =>
    ((env.set (okVar (bootnameText slot)) "1").set (tryVar (bootnameText slot)) "0").set "ORDER"
      (rBootchooserOrderPrimary order slot)

variable {config : RaucConfig} {env : GrubEnv} {order : List RaucSlot}

/-- Either all variables of a call are set or none is. -/
lemma grubCall_triple (call : GrubCall) {b : String} (hb : call.slot.bootname = some b)
    (hname : '=' ∉ b.toList) :
    Prog.Triple (· = env) (call.run order) (fun _ s => s = grubAfter order env call) (fun _ s =>
      s = env) := by
  have hbootname : call.slot.bootname ≠ none := by simp [hb]
  have hset : ∀ pairs : List String, pairs ≠ [] → Prog.Triple (· = env) (grubEnvSet pairs)
      (fun _ s => s = pairs.foldl grubAssign env) (fun _ s => s = env) := by
    intro pairs hpairs
    unfold grubEnvSet
    rw [if_neg hpairs]
    refine Prog.triple_external ?_ (fun _ h _ => h) (fun _ h => h)
    rintro s rfl
    rfl
  have hok : ∀ (e : GrubEnv) (value : String), grubAssign e (okVar b ++ ("=" ++ value)) =
      e.set (okVar b) value := by
    intro e value
    rw [← String.append_assoc]
    exact grubAssign_eq e value (not_mem_okVar hname)
  have htry : ∀ (e : GrubEnv) (value : String), grubAssign e (tryVar b ++ ("=" ++ value)) =
      e.set (tryVar b) value := by
    intro e value
    rw [← String.append_assoc]
    exact grubAssign_eq e value (not_mem_tryVar hname)
  have horder : ∀ (e : GrubEnv) (value : String), grubAssign e ("ORDER=" ++ value) =
      e.set "ORDER" value := by
    intro e value
    have htext : ("ORDER=" : String) = "ORDER" ++ "=" := by decide
    rw [htext]
    exact grubAssign_eq e value (by decide)
  have hone : ("=1" : String) = "=" ++ "1" := by decide
  have hzero : ("=0" : String) = "=" ++ "0" := by decide
  cases call with
  | setState slot good =>
    have hb' : bootnameText slot = b := bootnameText_eq hb
    simp only [GrubCall.run, rGrubSetState, GrubCall.slot] at hbootname ⊢
    rw [if_neg hbootname]
    cases good with
    | true =>
      rw [if_pos rfl]
      apply Prog.triple_consequence (hset _ (by simp)) (fun _ h => h) _ (fun _ _ h => h)
      rintro _ s rfl
      simp only [List.foldl_cons, List.foldl_nil, grubAfter, hb', if_true]
      rw [hone, hok, hzero, htry]
    | false =>
      rw [if_neg Bool.false_ne_true]
      apply Prog.triple_consequence (hset _ (by simp)) (fun _ h => h) _ (fun _ _ h => h)
      rintro _ s rfl
      simp only [List.foldl_cons, List.foldl_nil, grubAfter, hb', Bool.false_eq_true, if_false]
      rw [hzero, hok, htry]
  | setPrimary slot =>
    have hb' : bootnameText slot = b := bootnameText_eq hb
    simp only [GrubCall.run, rGrubSetPrimary]
    apply Prog.triple_consequence (hset _ (by simp)) (fun _ h => h) _ (fun _ _ h => h)
    rintro _ s rfl
    simp only [List.foldl_cons, List.foldl_nil, grubAfter, hb']
    rw [hone, hok, hzero, htry, horder]

lemma grubCall_run (h : GrubReady config env) (call : GrubCall)
    (hslot : call.slot ∈ config.slots.values)
    (hbootname : call.slot.bootname ≠ none) :
    Prog.Triple (· = env) (call.run order) (fun _ s => s = grubAfter order env call) (fun _ s =>
      s = env) := by
  obtain ⟨b, hb⟩ := Option.ne_none_iff_exists'.mp hbootname
  exact grubCall_triple call hb (h.bootname hslot hb).1

lemma not_mem_appendNames {c : Char} (hc : c ≠ ' ') {start : String} {names : List String}
    (hstart : c ∉ start.toList)
    (hnames : ∀ name ∈ names, c ∉ name.toList) : c ∉ (appendNames start names).toList := by
  induction names generalizing start with
  | nil => exact hstart
  | cons name rest ih =>
    apply ih
    · simp [String.toList_append, hstart, hc, hnames name (by simp)]
    · exact fun n hn => hnames n (by simp [hn])

/-- The other bootnames, in the order in which the hash table hands out their slots. -/
def otherBootnames (order : List RaucSlot) (slot : RaucSlot) : List String :=
  (order.filter (fun s => decide (s.name ≠ slot.name))).filterMap RaucSlot.bootname

/-- The order that an activation writes is read back as it was meant. -/
lemma splitFields_orderPrimary (hstripped : StrippedBootnames config)
    (horder : order.Perm config.slots.values)
    {slot : RaucSlot} {b : String} (hslot : slot ∈ config.slots.values)
    (hb : slot.bootname = some b) :
    splitFields ' ' (chomp (rBootchooserOrderPrimary order slot)) =
      b :: otherBootnames order slot := by
  have hnames : ∀ f ∈ b :: otherBootnames order slot, ∃ s ∈ config.slots.values, s.bootname =
      some f := by
    intro f hf
    rcases List.mem_cons.mp hf with rfl | hf
    · exact ⟨slot, hslot, hb⟩
    · obtain ⟨s, hs, hsf⟩ := List.mem_filterMap.mp hf
      exact ⟨s, horder.mem_iff.mp (List.mem_filter.mp hs).1, hsf⟩
  unfold rBootchooserOrderPrimary
  rw [hb, Option.getD_some, appendNames_eq_joinFields]
  apply splitFields_chomp_joinFields_plain ' ' (by decide)
  · intro f hf
    obtain ⟨s, hs, hsf⟩ := hnames f hf
    exact (config.bootname_plain s hs f hsf).1
  · intro f hf
    obtain ⟨s, hs, hsf⟩ := hnames f hf
    refine ⟨hstripped s hs f hsf, ?_⟩
    rintro rfl
    exact config.bootname_nonempty s hs hsf

/-- A call sets the two variables of its slot and leaves those of the others alone. -/
lemma lookup_grubAfter (order : List RaucSlot) (env : GrubEnv) (call : GrubCall) {b : String}
    (hb : call.slot.bootname = some b) :
    (grubAfter order env call).lookup (tryVar b) = some "0" ∧
      (grubAfter order env call).lookup (okVar b) = some (if call.good then "1" else "0") ∧
      (∀ c, c ≠ b → (grubAfter order env call).lookup (okVar c) = env.lookup (okVar c) ∧
        (grubAfter order env call).lookup (tryVar c) = env.lookup (tryVar c)) := by
  have hne : ∀ c, c ≠ b → okVar b ≠ okVar c ∧ tryVar b ≠ tryVar c :=
    fun c hc => ⟨fun h => hc (okVar_inj h).symm, fun h => hc (tryVar_inj h).symm⟩
  cases call with
  | setState slot good =>
    have hb' : bootnameText slot = b := bootnameText_eq hb
    simp only [grubAfter, hb', Table.lookup_set]
    refine ⟨by simp, by cases good <;> simp [GrubCall.good, (okVar_ne_tryVar _ _).symm],
      fun c hc => ?_⟩
    simp [(hne c hc).1, (hne c hc).2, okVar_ne_tryVar, (okVar_ne_tryVar _ _).symm]
  | setPrimary slot =>
    have hb' : bootnameText slot = b := bootnameText_eq hb
    simp only [grubAfter, hb', Table.lookup_set]
    refine ⟨by simp [(tryVar_ne_order _).symm],
      by simp [GrubCall.good, (okVar_ne_tryVar _ _).symm, (okVar_ne_order _).symm], fun c hc => ?_⟩
    simp [(hne c hc).1, (hne c hc).2, okVar_ne_tryVar, (okVar_ne_tryVar _ _).symm,
      (tryVar_ne_order _).symm,
      (okVar_ne_order _).symm]

/-- Every call keeps the environment in a state in which all slots can be read. -/
lemma GrubReady.after (h : GrubReady config env) (hstripped : StrippedBootnames config)
    (horder : order.Perm config.slots.values) (call : GrubCall)
    (hslot : call.slot ∈ config.slots.values)
    {b : String} (hb : call.slot.bootname = some b) :
      GrubReady config (grubAfter order env call) := by
  obtain ⟨htry, hok, hother⟩ := lookup_grubAfter order env call hb
  obtain ⟨heq, hline⟩ := h.bootname hslot hb
  have hplain : ∀ value : String, '\n' ∉ value.toList →
      PlainEnv ((env.set (okVar b) value).set (tryVar b) "0") := by
    intro value hvalue
    have hsuffix : ∀ text : String, '\n' ∉ text.toList → '\n' ∉ (b ++ text).toList := by
      intro text htext
      simpa [String.toList_append, hline] using htext
    exact (h.plain.set (not_mem_okVar heq) (hsuffix "_OK" (by decide)) hvalue).set
      (not_mem_tryVar heq)
      (hsuffix "_TRY" (by decide)) (by decide)
  constructor
  · cases call with
    | setState slot good =>
      have hb' : bootnameText slot = b := bootnameText_eq hb
      simp only [grubAfter, hb']
      cases good with
      | true => exact hplain "1" (by decide)
      | false => exact hplain "0" (by decide)
    | setPrimary slot =>
      have hb' : bootnameText slot = b := bootnameText_eq hb
      simp only [grubAfter, hb']
      apply (hplain "1" (by decide)).set (by decide) (by decide)
      apply not_mem_appendNames (by decide)
      · rw [show slot.bootname = some b from hb]
        exact hline
      · intro name hname
        obtain ⟨s, hs, hsn⟩ := List.mem_filterMap.mp hname
        exact (h.bootname (horder.mem_iff.mp (List.mem_filter.mp hs).1) hsn).2
  · cases call with
    | setState slot good =>
      obtain ⟨v, hv, hlisted⟩ := h.listed
      refine ⟨v, ?_, hlisted⟩
      simp [grubAfter, Table.lookup_set, okVar_ne_order, tryVar_ne_order, hv]
    | setPrimary slot =>
      refine ⟨rBootchooserOrderPrimary order slot, by simp [grubAfter], ?_⟩
      intro s hs c hc
      have hread : splitFields ' ' (chomp (rBootchooserOrderPrimary order slot)) =
          b :: otherBootnames order slot :=
        splitFields_orderPrimary hstripped horder hslot hb
      rw [hread]
      by_cases hsame : s.name = slot.name
      · rw [config.eq_of_name_eq hs hslot hsame] at hc
        exact List.mem_cons.mpr (.inl (Option.some.inj (hc.symm.trans hb)))
      · have hmem : s ∈ order.filter (fun t => decide (t.name ≠ slot.name)) := by
          simp [horder.mem_iff.mpr hs, hsame]
        exact List.mem_cons.mpr (.inr (List.mem_filterMap.mpr ⟨s, hmem, hc⟩))
  · intro s hs c hc
    by_cases hcb : c = b
    · rw [hcb, hok]
      simp
    · rw [(hother c hcb).1]
      exact h.okSet s hs c hc
  · intro s hs c hc
    by_cases hcb : c = b
    · rw [hcb, htry]
      simp
    · rw [(hother c hcb).2]
      exact h.trySet s hs c hc

/-- After a call the slot is as good as the call meant it to be. -/
lemma grubGood_after (call : GrubCall) {b : String} (hb : call.slot.bootname = some b) :
    grubGood (grubAfter order env call) b = call.good := by
  obtain ⟨htry, hok, -⟩ := lookup_grubAfter order env call hb
  unfold grubGood
  rw [hok, htry]
  cases call.good with
  | true => decide
  | false => decide

lemma grubGood_after_other (call : GrubCall) {b c : String} (hb : call.slot.bootname = some b)
    (hc : c ≠ b) :
    grubGood (grubAfter order env call) c = grubGood env c := by
  obtain ⟨-, -, hother⟩ := lookup_grubAfter order env call hb
  unfold grubGood
  rw [(hother c hc).1, (hother c hc).2]

end Calls

section Primary

variable {config : RaucConfig} {env : GrubEnv} {slot : RaucSlot} {b : String}

/-- The inner loop finds the slot that alone carries the bootname. -/
lemma grubMatchSlot_calm (h : GrubReady config env) (hslot : slot ∈ config.slots.values)
    (hb : slot.bootname = some b)
    (hgood : grubGood env b = true) (order : List RaucSlot)
    (honly : ∀ t ∈ order, t.bootname = some b → t = slot)
    (hmem : slot ∈ order) : Prog.Calmly env (grubMatchSlot b order) (some slot) env := by
  obtain ⟨ok, hok⟩ := Option.ne_none_iff_exists'.mp (h.okSet slot hslot b hb)
  obtain ⟨try_, htry⟩ := Option.ne_none_iff_exists'.mp (h.trySet slot hslot b hb)
  have heq := (h.bootname hslot hb).1
  induction order with
  | nil => exact absurd hmem List.not_mem_nil
  | cons t rest ih =>
    rw [grubMatchSlot]
    by_cases ht : some b = t.bootname
    · obtain rfl := honly t (by simp) ht.symm
      rw [if_neg (by simpa using ht), bootnameText_eq hb]
      apply Prog.calmly_bind (grubEnvGet_calm h.plain (not_mem_okVar heq) hok)
      apply Prog.calmly_bind (grubEnvGet_calm h.plain (not_mem_tryVar heq) htry)
      have hvalues : (strtoullAuto (chomp ok)).value = 1 ∧
          (strtoullAuto (chomp try_)).value = 0 := by
        simpa [grubGood, hok, htry] using hgood
      rw [if_neg (by simp [hvalues.1, hvalues.2])]
      exact Prog.calmly_pure env _
    · have hrest : slot ∈ rest := by
        rcases List.mem_cons.mp hmem with rfl | hmem
        · exact absurd hb.symm ht
        · exact hmem
      rw [if_pos ht]
      exact ih (fun u hu => honly u (by simp [hu])) hrest

/-- What the two variables of a bad slot say. -/
lemma bad_values {ok try_ : String} (hok : env.lookup (okVar b) = some ok)
    (htry : env.lookup (tryVar b) = some try_)
    (hbad : grubGood env b = false) : (strtoullAuto (chomp ok)).value ≠ 1 ∨
      (strtoullAuto (chomp try_)).value > 0 := by
  by_contra hcontra
  rw [not_or, not_not, not_lt, Nat.le_zero] at hcontra
  simp [grubGood, hok, htry, hcontra.1, hcontra.2] at hbad

/-- A slot that is not good is never matched. -/
lemma grubMatchSlot_skips (h : GrubReady config env) (hslot : slot ∈ config.slots.values)
    (hb : slot.bootname = some b)
    (hbad : grubGood env b = false) (c : String) (order : List RaucSlot) :
    Prog.Triple (· = env) (grubMatchSlot c order) (fun r s => s = env ∧
      r ≠ some slot) (fun _ _ => True) := by
  have heq := (h.bootname hslot hb).1
  have hget : ∀ key : String, '=' ∉ key.toList → Prog.Triple (· = env) (grubEnvGet key)
      (fun r s => s = env ∧ ∃ v, env.lookup key = some v ∧ r = ⟨chomp v, v.utf8ByteSize⟩)
        (fun _ _ => True) :=
    fun key hkey => Prog.triple_consequence (grubEnvGet_triple h.plain hkey) (fun _ h => h)
      (fun _ _ h => h)
      (fun _ _ _ => trivial)
  induction order with
  | nil => exact Prog.triple_pure (fun _ h => ⟨h, by simp⟩)
  | cons t rest ih =>
    rw [grubMatchSlot]
    split_ifs with ht
    · exact ih
    · by_cases hts : t = slot
      · rw [hts, bootnameText_eq hb]
        apply Prog.triple_bind (hget _ (not_mem_okVar heq))
        intro slotOk
        apply Prog.triple_fact
        rintro ⟨ok, hokv, hslotOk⟩
        apply Prog.triple_bind (hget _ (not_mem_tryVar heq))
        intro slotTry
        apply Prog.triple_fact
        rintro ⟨try_, htryv, hslotTry⟩
        have hvalues : (strtoullAuto slotOk.str).value ≠ 1 ∨
            (strtoullAuto slotTry.str).value > 0 := by
          rw [hslotOk, hslotTry]
          exact bad_values hokv htryv hbad
        rw [if_pos hvalues]
        exact ih
      · apply Prog.triple_bind (grubEnvGet_keeps env _)
        intro slotOk
        apply Prog.triple_bind (grubEnvGet_keeps env _)
        intro slotTry
        split_ifs with hbadOther
        · exact ih
        · exact Prog.triple_pure (fun _ h => ⟨h, by simpa using hts⟩)

lemma rGrubGetPrimary_skips (h : GrubReady config env) (hslot : slot ∈ config.slots.values)
    (hb : slot.bootname = some b)
    (hbad : grubGood env b = false) (order : List RaucSlot) :
    Prog.Triple (· = env) (rGrubGetPrimary order) (fun r _ => r ≠ slot) (fun _ _ => True) := by
  have hloop : ∀ names, Prog.Triple (· = env) (grubPrimaryLoop order names) (fun r _ =>
      r ≠ some slot)
      (fun _ _ => True) := by
    intro names
    induction names with
    | nil => exact Prog.triple_pure (fun _ _ => by simp)
    | cons name rest ih =>
      apply Prog.triple_bind (grubMatchSlot_skips h hslot hb hbad name order)
      intro result
      cases result with
      | some primary => exact Prog.triple_pure (fun _ h => h.2)
      | none => exact Prog.triple_consequence ih (fun _ h => h.1) (fun _ _ h => h) (fun _ _ h => h)
  apply Prog.triple_bind (grubEnvGet_keeps env _)
  intro bootOrder
  split_ifs with hempty
  · exact Prog.triple_exit (fun _ _ => trivial)
  · apply Prog.triple_bind (hloop _)
    intro result
    cases result with
    | none => exact Prog.triple_exit (fun _ _ => trivial)
    | some primary => exact Prog.triple_pure (fun _ h hps => h (by rw [hps]))

/-- The first entry of the order is the primary slot if it is good. -/
lemma observe_rGrubGetPrimary (h : GrubReady config env) (hslot : slot ∈ config.slots.values)
    (hb : slot.bootname = some b)
    (hgood : grubGood env b = true) {text : String} {rest : List String}
    (htext : env.lookup "ORDER" = some text)
    (hfirst : splitFields ' ' (chomp text) = b :: rest) {order : List RaucSlot}
    (horder : order.Perm config.slots.values) :
    Prog.observe (rGrubGetPrimary order) env = .value slot := by
  have hmatch := grubMatchSlot_calm h hslot hb hgood order
    (fun t ht htb => config.bootname_unique t (horder.mem_iff.mp ht) slot hslot b htb hb)
      (horder.mem_iff.mpr hslot)
  have hlen : text.utf8ByteSize ≠ 0 := by
    intro hzero
    rw [String.utf8ByteSize_eq_zero_iff.mp hzero] at hfirst
    simp [chomp, chompChars, splitFields, splitChars] at hfirst
  have hloop : Prog.Calmly env (grubPrimaryLoop order (b :: rest)) (some slot) env := by
    rw [grubPrimaryLoop]
    exact Prog.calmly_bind hmatch (Prog.calmly_pure env (some slot))
  have hrun : Prog.Calmly env (rGrubGetPrimary order) slot env := by
    apply Prog.calmly_bind (grubEnvGet_calm h.plain (by decide) htext)
    rw [if_neg hlen, hfirst]
    exact Prog.calmly_bind hloop (Prog.calmly_pure env slot)
  unfold Prog.observe
  rw [hrun]

end Primary

section Contract

variable {config : RaucConfig}

/-- What a successful call promises about its own slot. -/
def GrubPromise (config : RaucConfig) (env : GrubEnv) : GrubCall → Prop
  | .setPrimary slot =>
    (∀ order : List RaucSlot, order.Perm config.slots.values →
      Prog.observe (rGrubGetPrimary order) env = .value slot) ∧
      Prog.observe (rGrubGetState slot) env = .value true
  | .setState slot good =>
    Prog.observe (rGrubGetState slot) env = .value good ∧
      (good = false → ∀ (order : List RaucSlot) (fates : Nat → Fate),
        (rGrubGetPrimary order ⟨env, fates⟩).1 ≠ .value slot)

/-- What a call leaves alone: the state of every other slot. -/
def GrubFrame (config : RaucConfig) (slot : RaucSlot) (env env' : GrubEnv) : Prop :=
  ∀ t ∈ config.slots.values, t.bootname ≠ none → t ≠ slot →
    Prog.observe (rGrubGetState t) env' = Prog.observe (rGrubGetState t) env

lemma grubAfter_promise {env : GrubEnv} (h : GrubReady config env)
    (hstripped : StrippedBootnames config)
    {order : List RaucSlot} (horder : order.Perm config.slots.values) (call : GrubCall)
    (hslot : call.slot ∈ config.slots.values) {b : String} (hb : call.slot.bootname = some b) :
    GrubPromise config (grubAfter order env call) call := by
  have hready := h.after hstripped horder call hslot hb
  have hgood : grubGood (grubAfter order env call) b = call.good := grubGood_after call hb
  have hstate := observe_rGrubGetState hready hslot hb
  rw [hgood] at hstate
  cases call with
  | setPrimary slot =>
    refine ⟨fun order' horder' => ?_, hstate⟩
    have htext : (grubAfter order env (.setPrimary slot)).lookup "ORDER" =
        some (rBootchooserOrderPrimary order slot) := by
      simp [grubAfter]
    exact observe_rGrubGetPrimary hready hslot hb hgood htext
      (splitFields_orderPrimary hstripped horder hslot hb) horder'
  | setState slot good =>
    refine ⟨hstate, ?_⟩
    rintro rfl order' fates hvalue
    exact (rGrubGetPrimary_skips hready hslot hb hgood order').value rfl hvalue rfl

lemma grubAfter_frame {env : GrubEnv} (h : GrubReady config env)
    (hstripped : StrippedBootnames config)
    {order : List RaucSlot} (horder : order.Perm config.slots.values) (call : GrubCall)
    (hslot : call.slot ∈ config.slots.values) {b : String} (hb : call.slot.bootname = some b) :
    GrubFrame config call.slot env (grubAfter order env call) := by
  intro t ht htb hne
  obtain ⟨c, hc⟩ := Option.ne_none_iff_exists'.mp htb
  have hcb : c ≠ b := by
    rintro rfl
    exact hne (config.bootname_unique t ht call.slot hslot c hc hb)
  rw [observe_rGrubGetState (h.after hstripped horder call hslot hb) ht hc,
    observe_rGrubGetState h ht hc,
    grubGood_after_other call hb hcb]

/-- One call: all of its variables are set when it succeeds, and none of them when it does not. -/
lemma grubCall_contract {env : GrubEnv} (h : GrubReady config env)
    (hstripped : StrippedBootnames config)
    (call : GrubCall) (order : List RaucSlot) (hslot : call.slot ∈ config.slots.values)
    (hbootname : call.slot.bootname ≠ none) (horder : order.Perm config.slots.values) :
    Prog.Triple (· = env) (call.run order)
      (fun _ env' => GrubReady config env' ∧ GrubPromise config env' call ∧
        GrubFrame config call.slot env env')
      (fun _ env' => env' = env) := by
  obtain ⟨b, hb⟩ := Option.ne_none_iff_exists'.mp hbootname
  apply Prog.triple_consequence (grubCall_run h call hslot hbootname) (fun _ h => h) _
    (fun _ _ h => h)
  rintro _ _ rfl
  exact ⟨h.after hstripped horder call hslot hb, grubAfter_promise h hstripped horder call hslot hb,
    grubAfter_frame h hstripped horder call hslot hb⟩

/-- The two conditions on the environment hold after every sequence of successful calls. -/
lemma grubRun_ready {env₀ env : GrubEnv} {calls : List GrubCall}
    (hstripped : StrippedBootnames config)
    (hready₀ : GrubReady config env₀) (hrun : GrubRun config env₀ calls env) :
      GrubReady config env := by
  induction hrun with
  | nil => exact hready₀
  | snoc hrun call order fates hslot hbootname horder hsuccess ih =>
    exact ((grubCall_contract ih hstripped call order hslot hbootname horder).value rfl hsuccess).1

lemma grubRun_frame {env₀ env : GrubEnv} {calls : List GrubCall}
    (hstripped : StrippedBootnames config)
    (hready₀ : GrubReady config env₀) (hrun : GrubRun config env₀ calls env) (t : RaucSlot)
    (ht : t ∈ config.slots.values) (htb : t.bootname ≠ none)
    (hcalls : ∀ call ∈ calls, t ≠ call.slot) :
    Prog.observe (rGrubGetState t) env = Prog.observe (rGrubGetState t) env₀ := by
  induction hrun with
  | nil => rfl
  | snoc hrun call order fates hslot hbootname horder hsuccess ih =>
    have hbefore := ih (fun c hc => hcalls c (by simp [hc]))
    have hready := grubRun_ready hstripped hready₀ hrun
    obtain ⟨-, -, hframe⟩ :=
      (grubCall_contract hready hstripped call order hslot hbootname horder).value rfl hsuccess
    rw [hframe t ht htb (hcalls call (by simp)), hbefore]

/-- From an environment that lists every bootname and has the variables of all of them, every
sequence of successful calls keeps these conditions. The next call then keeps its promise and the
state of the other slots when it succeeds, and changes nothing when it fails. A slot that no call
named has the state it had at the beginning. -/
theorem grubRun_contract (hstripped : StrippedBootnames config) (env₀ env : GrubEnv)
    (calls : List GrubCall)
    (hready₀ : GrubReady config env₀) (hrun : GrubRun config env₀ calls env) :
    GrubReady config env ∧
    (∀ (call : GrubCall) (order : List RaucSlot) (fates : Nat → Fate),
      call.slot ∈ config.slots.values → call.slot.bootname ≠ none → order.Perm config.slots.values →
      ((call.run order ⟨env, fates⟩).1 = .value () →
        GrubPromise config (call.run order ⟨env, fates⟩).2.state call ∧
          GrubFrame config call.slot env (call.run order ⟨env, fates⟩).2.state) ∧
      ((call.run order ⟨env, fates⟩).1 ≠ .value () → (call.run order ⟨env, fates⟩).2.state = env)) ∧
    (∀ t ∈ config.slots.values, t.bootname ≠ none → (∀ call ∈ calls, t ≠ call.slot) →
      Prog.observe (rGrubGetState t) env = Prog.observe (rGrubGetState t) env₀) := by
  have hready := grubRun_ready hstripped hready₀ hrun
  refine ⟨hready, ?_, grubRun_frame hstripped hready₀ hrun⟩
  intro call order fates hslot hbootname horder
  have hcall := grubCall_contract hready hstripped call order hslot hbootname horder
  refine ⟨fun hvalue => (hcall.value rfl hvalue).2, fun hvalue => ?_⟩
  cases hr : (call.run order ⟨env, fates⟩).1 with
  | value u => exact absurd hr hvalue
  | exit x => exact hcall.exit rfl hr

end Contract

section Pair

def pairGrubEnv (order b c : String) : GrubEnv :=
  ((((Table.empty.set "ORDER" order).set (okVar b) "1").set (tryVar b) "0").set (okVar c) "1").set
    (tryVar c) "0"

/-- Marking `A` bad and then making `B` primary on the two-slot system. -/
theorem grubRun_contract_pair :
    ∃ env, GrubRun pairConfig (pairGrubEnv "A B" "A" "B") [.setState (bootableSlot "rootfs.0" "A")
      false] env ∧
      GrubReady pairConfig env ∧
      GrubPromise pairConfig
        ((GrubCall.setPrimary (bootableSlot "rootfs.1" "B")).run pairConfig.slots.values
          ⟨env, fun _ => .succeeds⟩).2.state (.setPrimary (bootableSlot "rootfs.1" "B")) := by
  have hnil : GrubRun pairConfig (pairGrubEnv "A B" "A" "B") [] (pairGrubEnv "A B" "A" "B") := .nil
  have hrun := hnil.snoc (.setState (bootableSlot "rootfs.0" "A") false) pairConfig.slots.values
    (fun _ => .succeeds) (by decide) (by decide) (List.Perm.refl _) (by decide)
  have hstripped : StrippedBootnames pairConfig := by
    unfold StrippedBootnames
    decide
  have hready : GrubReady pairConfig (pairGrubEnv "A B" "A" "B") := by
    constructor
    · unfold PlainEnv
      decide
    · exact ⟨"A B", by decide, by decide⟩
    · decide
    · decide
  obtain ⟨hafter, hcalls, -⟩ := grubRun_contract hstripped _ _ _ hready hrun
  refine ⟨_, hrun, hafter, ?_⟩
  exact ((hcalls _ pairConfig.slots.values _ (by decide) (by decide) (List.Perm.refl _)).1
    (by decide)).1

/-- Two bootable slots, the second one with a carriage return at the end of its bootname. -/
def strayReturnConfig : RaucConfig where
  slots := ⟨[("rootfs.0", bootableSlot "rootfs.0" "A"),
    ("rootfs.1", bootableSlot "rootfs.1" "B\r")], by decide⟩
  name_key := by decide
  bootname_unique := by decide
  bootname_nonempty := by decide
  bootname_plain := by decide
  child_no_bootname := by decide
  parent_is_root := by decide

/-- The order `A B` with a carriage return at its end is read back without it: the activation of `A`
takes the other slot out of the order, and it is no longer good. -/
theorem grub_stray_return :
    GrubReady strayReturnConfig (pairGrubEnv "B\r A" "A" "B\r") ∧
      ∃ env, GrubRun strayReturnConfig (pairGrubEnv "B\r A" "A" "B\r")
        [.setPrimary (bootableSlot "rootfs.0" "A")] env ∧
        ¬GrubReady strayReturnConfig env ∧
        Prog.observe (rGrubGetState (bootableSlot "rootfs.1" "B\r"))
          (pairGrubEnv "B\r A" "A" "B\r") = .value true ∧
        Prog.observe (rGrubGetState (bootableSlot "rootfs.1" "B\r")) env = .value false := by
  have hnil : GrubRun strayReturnConfig (pairGrubEnv "B\r A" "A" "B\r") []
    (pairGrubEnv "B\r A" "A" "B\r") := .nil
  have hrun := hnil.snoc (.setPrimary (bootableSlot "rootfs.0" "A")) strayReturnConfig.slots.values
    (fun _ => .succeeds) (by decide) (by decide) (List.Perm.refl _) (by decide)
  refine ⟨⟨?_, ⟨"B\r A", by decide, by decide⟩, by decide, by decide⟩, _, hrun,
    ?_, by decide, by decide⟩
  · unfold PlainEnv
    decide
  · intro hready
    have hslot : bootableSlot "rootfs.1" "B\r" ∈ strayReturnConfig.slots.values := by decide
    exact absurd (observe_rGrubGetState hready hslot rfl) (by decide)

end Pair

end RaucUpdate
